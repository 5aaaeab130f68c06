import JetKvm.Library.Transition
import Mathlib.Tactic.Common

/-!
# The registration with the cloud

A registration exchanges a temporary token for a permanent one, and verifies who owns the device. A
deregistration removes both. The answers of the cloud and of the identity provider are part of a
call, and the configuration is always saved. The token is stored before the identity is verified,
so that a token without an owner, or with another one, stays behind when the verification fails.
-/

namespace JetKvm.Cloud

/-- The part of the configuration that concerns the cloud. -/
structure CloudConfig where
  cloudURL : String
  cloudToken : String
  googleIdentity : String
deriving DecidableEq, Repr

structure CloudRegisterRequest where
  token : String
  cloudAPI : String
  oidcGoogle : String
  clientId : String
deriving DecidableEq, Repr

/-- A verified identity token. The first audience is kept apart, there is at least one. -/
structure IdToken where
  audience : String
  subject : String
deriving DecidableEq, Repr

/-- The answer of the cloud: its status, and the secret token unless the body cannot be decoded. -/
structure TokenResponse where
  statusCode : ℕ
  status : String
  secretToken : Except String String
deriving Repr

/-- A call of `handleCloudRegister`: the body that is bound, unless binding fails, the answers to
the requests, and the identity token that is verified for the given request. -/
structure RegisterCall where
  body : Option CloudRegisterRequest
  newRequest : Except String Unit
  response : Except String TokenResponse
  newProvider : Except String Unit
  verify : CloudRegisterRequest → Except String IdToken

/-- A call of `rpcDeregisterDevice`: the answer to its request. -/
structure DeregisterCall where
  newRequest : Except String Unit
  response : Except String (ℕ × String)

inductive CloudCall where
  | register (call : RegisterCall)
  | deregister (call : DeregisterCall)

/-- The status and the error or the message. -/
structure CloudReply where
  status : ℕ
  text : String
deriving DecidableEq, Repr

namespace CloudConfig

/-- `handleCloudRegister`. The encoding of the payload, a string, does not fail. -/
def handleCloudRegister (call : RegisterCall) (config : CloudConfig) : CloudConfig × CloudReply :=
  match call.body with
  | none => (config, ⟨400, "Invalid request body"⟩)
  | some req =>
      match call.newRequest with
      | .error err => (config, ⟨500, "Failed to create register request: " ++ err⟩)
      | .ok () =>
          match call.response with
          | .error err => (config, ⟨500, "Failed to exchange token: " ++ err⟩)
          | .ok resp =>
              if resp.statusCode ≠ 200 then
                (config, ⟨resp.statusCode, "Failed to exchange token: " ++ resp.status⟩)
              else
                match resp.secretToken with
                | .error err => (config, ⟨500, "Failed to parse token response: " ++ err⟩)
                | .ok secretToken =>
                    if secretToken = "" then (config, ⟨500, "Received empty secret token"⟩)
                    else
                      -- the token is stored before the identity is known
                      let config := { config with cloudToken := secretToken }
                      match call.newProvider with
                      | .error _ => (config, ⟨500, "Failed to initialize OIDC provider"⟩)
                      | .ok () =>
                          match call.verify req with
                          | .error _ => (config, ⟨400, "Invalid OIDC token"⟩)
                          | .ok idToken =>
                              ({ config with
                                googleIdentity := idToken.audience ++ ":" ++ idToken.subject },
                                ⟨200, "Cloud registration successful"⟩)

/-- `rpcDeregisterDevice`. The answer is an error unless the status is 200. -/
def rpcDeregisterDevice (call : DeregisterCall) (config : CloudConfig) :
    CloudConfig × CloudReply :=
  if config.cloudToken = "" ∨ config.cloudURL = "" then
    (config, ⟨500, "cloud token or URL is not set"⟩)
  else
    match call.newRequest with
    | .error err => (config, ⟨500, "failed to create deregister request: " ++ err⟩)
    | .ok () =>
        match call.response with
        | .error err => (config, ⟨500, "failed to send deregister request: " ++ err⟩)
        | .ok (statusCode, status) =>
            if statusCode = 404 ∨ statusCode ≥ 200 ∧ statusCode < 300 then
              ({ config with cloudToken := "", googleIdentity := "" }, ⟨200, ""⟩)
            else (config, ⟨500, "deregister request failed with status: " ++ status⟩)

/-- What the call does. -/
def call (config : CloudConfig) : CloudCall → CloudConfig × CloudReply
  | .register call => config.handleCloudRegister call
  | .deregister call => config.rpcDeregisterDevice call

/-- The sequences of calls. -/
def lts : Lts CloudConfig CloudCall :=
  Lts.ofStep fun config a => some (config.call a).1

/-- A device that is not registered. -/
def unregistered (cloudURL : String) : CloudConfig where
  cloudURL := cloudURL
  cloudToken := ""
  googleIdentity := ""

/-- The call is a registration that exchanges its token for the given one. -/
def Exchanges (call : RegisterCall) (req : CloudRegisterRequest) (secretToken : String) : Prop :=
  call.body = some req ∧ call.newRequest = .ok () ∧
    ∃ status, call.response = .ok ⟨200, status, .ok secretToken⟩ ∧ secretToken ≠ ""

/-- The call is a registration that exchanges its token for one that is not the current one, and
does not come to an identity. -/
def HalfRegisters (config : CloudConfig) (a : CloudCall) : Prop :=
  ∃ call req secretToken, a = .register call ∧ Exchanges call req secretToken ∧
    secretToken ≠ config.cloudToken ∧
    ¬ (call.newProvider = .ok () ∧ ∃ idToken, call.verify req = .ok idToken)

/-- A registration that answers with an error leaves the configuration as it is. -/
def KeepsOnError (config : CloudConfig) (a : CloudCall) : Prop :=
  ∀ call, a = .register call → (config.call a).2.status ≠ 200 → (config.call a).1 = config

/-- The token and the identity come from one registration, or there is neither of them. -/
def FromOneRegistration (tr : List (Lts.Transition CloudConfig CloudCall)) (config : CloudConfig) :
    Prop :=
  config.cloudToken = "" ∧ config.googleIdentity = "" ∨
    config.cloudToken ≠ "" ∧ config.googleIdentity ≠ "" ∧
      ∃ e ∈ tr, ∃ call req idToken, e.action = .register call ∧
        Exchanges call req config.cloudToken ∧ call.newProvider = .ok () ∧
        call.verify req = .ok idToken ∧
        config.googleIdentity = idToken.audience ++ ":" ++ idToken.subject

/-! ### Calls -/

/-- What a registration comes to, one case for each. -/
inductive Registers (config : CloudConfig) (call : RegisterCall) :
    CloudConfig × CloudReply → Prop
  | refused (reply : CloudReply) (h : ∀ req secretToken, ¬ Exchanges call req secretToken)
      (hreply : reply.status ≠ 200) : Registers config call (config, reply)
  | half {req : CloudRegisterRequest} {secretToken : String} (reply : CloudReply)
      (exchanges : Exchanges call req secretToken)
      (h : ¬ (call.newProvider = .ok () ∧ ∃ idToken, call.verify req = .ok idToken))
      (hreply : reply.status ≠ 200) :
      Registers config call ({ config with cloudToken := secretToken }, reply)
  | registered {req : CloudRegisterRequest} {secretToken : String} {idToken : IdToken}
      (reply : CloudReply) (exchanges : Exchanges call req secretToken)
      (hprovider : call.newProvider = .ok ()) (hverify : call.verify req = .ok idToken)
      (hreply : reply.status = 200) :
      Registers config call
        ({ config with
            cloudToken := secretToken
            googleIdentity := idToken.audience ++ ":" ++ idToken.subject }, reply)

theorem registers (config : CloudConfig) (call : RegisterCall) :
  Registers config call (config.handleCloudRegister call)
  := by
  obtain ⟨body, newRequest, response, newProvider, verify⟩ := call
  cases body with
  | none =>
      apply Registers.refused _ _ (by decide : 400 ≠ 200)
      rintro _ _ ⟨⟨⟩, -⟩
  | some req =>
  cases newRequest with
  | error err =>
      apply Registers.refused _ _ (by decide : 500 ≠ 200)
      rintro _ _ ⟨-, ⟨⟩, -⟩
  | ok =>
  cases response with
  | error err =>
      apply Registers.refused _ _ (by decide : 500 ≠ 200)
      rintro _ _ ⟨-, -, _, ⟨⟩, -⟩
  | ok resp =>
  obtain ⟨statusCode, status, secretToken⟩ := resp
  rw [handleCloudRegister]
  dsimp only
  by_cases hstatus : statusCode = 200
  · subst hstatus
    rw [if_neg (by decide)]
    cases secretToken with
    | error err =>
        apply Registers.refused _ _ (by decide : 500 ≠ 200)
        rintro _ _ ⟨-, -, _, ⟨⟩, -⟩
    | ok secretToken =>
    dsimp only
    by_cases hempty : secretToken = ""
    · rw [if_pos hempty]
      apply Registers.refused _ _ (by decide : 500 ≠ 200)
      rintro _ _ ⟨-, -, _, ⟨⟩, hsome⟩
      exact hsome hempty
    rw [if_neg hempty]
    have exchanges : Exchanges ⟨some req, .ok (), .ok ⟨200, status, .ok secretToken⟩, newProvider,
        verify⟩ req secretToken := ⟨rfl, rfl, status, rfl, hempty⟩
    cases newProvider with
    | error err =>
        apply Registers.half _ exchanges _ (by decide : 500 ≠ 200)
        rintro ⟨⟨⟩, -⟩
    | ok =>
    dsimp only
    cases hverify : verify req with
    | error err =>
        apply Registers.half _ exchanges _ (by decide : 400 ≠ 200)
        rintro ⟨-, idToken, hok⟩
        dsimp only at hok
        rw [hverify] at hok
        cases hok
    | ok idToken => exact .registered _ exchanges rfl hverify rfl
  · rw [if_pos hstatus]
    apply Registers.refused _ _ hstatus
    rintro _ _ ⟨-, -, _, ⟨⟩, -⟩
    exact hstatus rfl

/-- A deregistration removes token and identity, or leaves the configuration as it is. -/
theorem rpcDeregisterDevice_eq (config : CloudConfig) (call : DeregisterCall) :
  (config.rpcDeregisterDevice call).1 = config ∨
    (config.rpcDeregisterDevice call).1 =
      { config with cloudToken := "", googleIdentity := "" }
  := by
  rw [rpcDeregisterDevice]
  split
  · left
    rfl
  split
  · left
    rfl
  split
  · left
    rfl
  split
  · right
    rfl
  · left
    rfl

variable {config config' : CloudConfig} {a : CloudCall} {call : RegisterCall}
  {req req' : CloudRegisterRequest} {secretToken secretToken' : String}
  {tr : List (Lts.Transition CloudConfig CloudCall)}

/-- A registration exchanges its token for one only. -/
theorem Exchanges.unique (h : Exchanges call req secretToken)
    (h' : Exchanges call req' secretToken') :
  req = req' ∧ secretToken = secretToken'
  := by
  obtain ⟨hbody, -, status, hresponse, -⟩ := h
  obtain ⟨hbody', -, status', hresponse', -⟩ := h'
  rw [hbody] at hbody'
  rw [hresponse] at hresponse'
  constructor
  · exact Option.some.inj hbody'
  · injection hresponse' with hresponse
    injection hresponse with _ _ htoken
    injection htoken

/-- A registration that answers with an error changes the configuration exactly when it registers
half. -/
theorem keepsOnError_iff :
  KeepsOnError config a ↔ ¬ HalfRegisters config a
  := by
  cases a with
  | deregister call =>
      apply iff_of_true
      · nofun
      · rintro ⟨_, _, _, ⟨⟩, -⟩
  | register call =>
      have h := registers config call
      rw [KeepsOnError, CloudConfig.call]
      generalize config.handleCloudRegister call = result at h
      cases h with
      | refused reply hnot =>
          apply iff_of_true
          · intro _ _ _
            rfl
          · rintro ⟨_, req, secretToken, ⟨⟩, exchanges, -⟩
            exact hnot req secretToken exchanges
      | @half req secretToken reply exchanges hidentity hreply =>
          by_cases hsame : secretToken = config.cloudToken
          · apply iff_of_true
            · rintro _ - -
              rw [hsame]
            · rintro ⟨_, _, _, ⟨⟩, exchanges', hne, -⟩
              rw [(exchanges.unique exchanges').2] at hsame
              exact hne hsame
          · apply iff_of_false
            · intro hkeeps
              have hconfig := hkeeps call rfl hreply
              exact hsame (congrArg cloudToken hconfig)
            · exact not_not_intro ⟨call, req, secretToken, rfl, exchanges, hsame, hidentity⟩
      | @registered req secretToken idToken reply exchanges hprovider hverify hreply =>
          apply iff_of_true
          · rintro _ - herror
            exact absurd hreply herror
          · rintro ⟨_, _, _, ⟨⟩, exchanges', -, hidentity⟩
            rw [← (exchanges.unique exchanges').1] at hidentity
            exact hidentity ⟨hprovider, idToken, hverify⟩

/-! ### Sequences of calls -/

theorem identity_ne_empty (idToken : IdToken) :
  idToken.audience ++ ":" ++ idToken.subject ≠ ""
  := by
  intro h
  have hlist := congrArg String.toList h
  simp at hlist

theorem FromOneRegistration.append (h : FromOneRegistration tr config)
    (e : Lts.Transition CloudConfig CloudCall) :
  FromOneRegistration (tr ++ [e]) config
  := by
  rcases h with hnone | ⟨htoken, hidentity, e', he, hcall⟩
  · exact Or.inl hnone
  · exact Or.inr ⟨htoken, hidentity, e', List.mem_append_left _ he, hcall⟩

/-- A call that does not register half keeps token and identity together. -/
theorem FromOneRegistration.after (h : FromOneRegistration tr config)
    (hnot : ¬ HalfRegisters config a) :
  FromOneRegistration (tr ++ [⟨config, a, (config.call a).1⟩]) (config.call a).1
  := by
  have happend := fun config' => h.append ⟨config, a, config'⟩
  cases a with
  | deregister call =>
      rw [CloudConfig.call]
      rcases rpcDeregisterDevice_eq config call with heq | heq
      · rw [heq]
        apply happend
      · rw [heq]
        exact Or.inl ⟨rfl, rfl⟩
  | register call =>
      have hresult := registers config call
      rw [CloudConfig.call]
      generalize config.handleCloudRegister call = result at hresult
      cases hresult with
      | refused => apply happend
      | @half req secretToken reply exchanges hidentity hreply =>
          have hsame : secretToken = config.cloudToken := by
            by_contra hne
            exact hnot ⟨call, req, secretToken, rfl, exchanges, hne, hidentity⟩
          rw [hsame]
          apply happend
      | @registered req secretToken idToken reply exchanges hprovider hverify hreply =>
          right
          obtain ⟨-, -, -, -, hsome⟩ := id exchanges
          refine ⟨hsome, identity_ne_empty idToken, _,
            List.mem_append_right _ (List.mem_singleton_self _), call, req, idToken, rfl,
            exchanges, hprovider, hverify, rfl⟩

/-- Registrations that answer with an error change nothing, and token and identity come from one
registration, exactly when no registration stores a token without an identity. -/
theorem fromOneRegistration_iff {cloudURL : String}
    (run : lts.Run (unregistered cloudURL) tr config) :
  (∀ e ∈ tr, KeepsOnError e.before e.action) ∧ FromOneRegistration tr config ↔
    ∀ e ∈ tr, ¬ HalfRegisters e.before e.action
  := by
  constructor
  · intro h e he
    apply keepsOnError_iff.mp (h.1 e he)
  · intro hnot
    use fun e he => keepsOnError_iff.mpr (hnot e he)
    induction run with
    | nil => exact Or.inl ⟨rfl, rfl⟩
    | @snoc tr t u a run step ih =>
        rw [List.forall_mem_append, List.forall_mem_singleton] at hnot
        obtain rfl := Option.some.inj step
        exact (ih hnot.1).after hnot.2

/-- A registration that succeeds, by way of example. -/
def registration (secretToken subject : String) : RegisterCall where
  body := some ⟨"temporary", "", "id", "client"⟩
  newRequest := .ok ()
  response := .ok ⟨200, "200 OK", .ok secretToken⟩
  newProvider := .ok ()
  verify _ := .ok ⟨"client", subject⟩

/-- A device is registered twice, by different owners. -/
theorem fromOneRegistration_twice :
  ∃ tr config, lts.Run (unregistered "https://api") tr config ∧ FromOneRegistration tr config ∧
    config = ⟨"https://api", "second", "client:two"⟩
  := by
  have run : lts.Run (unregistered "https://api") _ _ :=
    (Lts.Run.nil.snoc (a := .register (registration "first" "one")) rfl).snoc
      (a := .register (registration "second" "two")) rfl
  refine ⟨_, _, run, ((fromOneRegistration_iff run).mpr ?_).2, by decide⟩
  intro e he
  rw [← keepsOnError_iff]
  rintro call hcall hstatus
  rcases List.mem_append.mp he with he | he
  · obtain rfl := List.mem_singleton.mp he
    obtain rfl := CloudCall.register.inj hcall
    exact absurd (by decide) hstatus
  · obtain rfl := List.mem_singleton.mp he
    obtain rfl := CloudCall.register.inj hcall
    exact absurd (by decide) hstatus

/-- The provider of identities cannot be reached, and the new token is kept without an identity. -/
theorem registration_half :
  ¬ ∀ (cloudURL : String) (tr : List (Lts.Transition CloudConfig CloudCall))
      (config : CloudConfig), lts.Run (unregistered cloudURL) tr config →
    (∀ e ∈ tr, KeepsOnError e.before e.action) ∧ FromOneRegistration tr config
  := by
  intro claim
  have hkeeps := (claim "https://api" _ _ (Lts.Run.nil.snoc
    (a := .register { registration "secret" "owner" with newProvider := .error "" }) rfl)).1 _
    (List.mem_singleton_self _) _ rfl (by decide)
  exact absurd (congrArg cloudToken hkeeps) (by decide)

end CloudConfig

end JetKvm.Cloud
