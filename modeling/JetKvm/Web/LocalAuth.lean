import JetKvm.Web.RateLimiter
import Mathlib.Tactic.Common

/-!
# The local password

The handlers that set up the device, set, change and delete its password, and log in and out. Each
request is handled as a whole. What a comparison of a password with a hash answers is a parameter,
and whether hashing and saving succeed is part of the request. The device is guarded by its
password exactly in the mode `password`, unless the setup in this mode is refused after the mode has
been written.
-/

namespace JetKvm.Web

/-- The part of the configuration that guards the device. -/
structure LocalAuth where
  localAuthMode : String
  hashedPassword : String
  localAuthToken : String
deriving DecidableEq, Repr

/-- A hash of a password, which is not empty. -/
structure PasswordHash where
  text : String
  ne_empty : text ≠ ""

/-- The body of a setup. -/
structure SetupRequest where
  localAuthMode : String
  password : String
deriving DecidableEq, Repr

/-- The body that sets a password. -/
structure SetPasswordRequest where
  password : String
deriving DecidableEq, Repr

/-- The body of a login. -/
structure LoginRequest where
  password : String
deriving DecidableEq, Repr

/-- The body that changes the password. -/
structure ChangePasswordRequest where
  oldPassword : String
  newPassword : String
deriving DecidableEq, Repr

/-- A request with the body that is bound, unless binding fails. -/
inductive AuthRequest where
  | setup (body : Option SetupRequest)
  | createPassword (body : Option SetPasswordRequest)
  | updatePassword (body : Option ChangePasswordRequest)
  | deletePassword (body : Option LoginRequest)
  | login (body : Option LoginRequest)
  | logout

/-- Where a request comes from and when, the hash of the new password unless hashing fails, the new
token, and whether the configuration is saved. -/
structure AuthContext (IP : Type*) where
  clientIP : IP
  now : ℕ
  hashed : Option PasswordHash
  uuid : String
  saved : Bool

/-- The status, the error or the message, and the value of the cookie that is set. -/
structure AuthReply where
  status : ℕ
  text : String
  cookie : Option String
deriving DecidableEq, Repr

/-- The state that the handlers share. -/
structure WebServer (IP : Type*) where
  config : LocalAuth
  passwordRateLimiter : RateLimiter IP

/-- A password is at least this long. -/
def minPasswordLength : ℕ := 8

/-- A longer one cannot be hashed. -/
def maxPasswordLength : ℕ := 72

/-- A device that has not been set up. -/
def LocalAuth.fresh : LocalAuth where
  localAuthMode := ""
  hashedPassword := ""
  localAuthToken := ""

namespace WebServer

variable {IP : Type*} [DecidableEq IP]

/-- The request makes no sense. -/
def badRequest (text : String) : AuthReply where
  status := 400
  text := text
  cookie := none

/-- The password or the token is not the right one. -/
def unauthorized (text : String) : AuthReply where
  status := 401
  text := text
  cookie := none

/-- The address is locked out. -/
def tooManyRequests : AuthReply where
  status := 429
  text := "Too many failed attempts. Please try again later."
  cookie := none

/-- The device has failed. -/
def internalServerError (text : String) (cookie : Option String) : AuthReply where
  status := 500
  text := text
  cookie := cookie

/-- A failure of the address is recorded. -/
def recordFailure (s : WebServer IP) (c : AuthContext IP) : WebServer IP :=
  { s with passwordRateLimiter := s.passwordRateLimiter.recordFailure c.clientIP c.now }

/-- The configuration is changed and saved. -/
def saveConfig (s : WebServer IP) (c : AuthContext IP) (config : LocalAuth)
    (failure success : AuthReply) : WebServer IP × AuthReply :=
  ({ s with config := config }, if c.saved then success else failure)

/-- The first request chooses the mode. -/
def handleSetup (body : Option SetupRequest) (c : AuthContext IP) (s : WebServer IP) :
    WebServer IP × AuthReply :=
  if s.config.localAuthMode ≠ "" ∨ s.config.hashedPassword ≠ "" then
    (s, badRequest "Device is already set up")
  else if (s.passwordRateLimiter.isAllowed c.clientIP c.now).1 = false then (s, tooManyRequests)
  else
    match body with
    | none => (s.recordFailure c, badRequest "Invalid request body")
    | some req =>
        if req.localAuthMode ≠ "password" ∧ req.localAuthMode ≠ "noPassword" then
          (s.recordFailure c, badRequest "Invalid localAuthMode")
        else
          -- the mode is written before the password is checked
          let s := { s with config := { s.config with localAuthMode := req.localAuthMode } }
          if req.localAuthMode = "password" then
            if req.password = "" then
              (s.recordFailure c, badRequest "Password is required for password mode")
            else if req.password.utf8ByteSize < minPasswordLength then
              (s.recordFailure c, badRequest "Password must be at least 8 characters")
            else if req.password.utf8ByteSize > maxPasswordLength then
              (s, badRequest "Password must be at most 72 characters")
            else
              match c.hashed with
              | none => (s, internalServerError "Failed to hash password" none)
              | some hashed =>
                  s.saveConfig c
                    { s.config with hashedPassword := hashed.text, localAuthToken := c.uuid }
                    (internalServerError "Failed to save config" (some c.uuid))
                    ⟨200, "Device setup completed successfully", some c.uuid⟩
          else
            s.saveConfig c { s.config with hashedPassword := "", localAuthToken := "" }
              (internalServerError "Failed to save config" none)
              ⟨200, "Device setup completed successfully", none⟩

/-- A password is set where there is none. -/
def handleCreatePassword (body : Option SetPasswordRequest) (c : AuthContext IP)
    (s : WebServer IP) : WebServer IP × AuthReply :=
  if s.config.hashedPassword ≠ "" then (s, badRequest "Password already set")
  else if s.config.localAuthMode ≠ "noPassword" then
    (s, badRequest "Password mode is not enabled")
  else
    match body with
    | none => (s, badRequest "Invalid request")
    | some req =>
        if req.password = "" then (s, badRequest "Invalid request")
        else if req.password.utf8ByteSize < minPasswordLength then
          (s, badRequest "Password must be at least 8 characters")
        else if req.password.utf8ByteSize > maxPasswordLength then
          (s, badRequest "Password must be at most 72 characters")
        else
          match c.hashed with
          | none => (s, internalServerError "Failed to hash password" none)
          | some hashed =>
              s.saveConfig c
                { localAuthMode := "password", hashedPassword := hashed.text,
                  localAuthToken := c.uuid }
                (internalServerError "Failed to save configuration" none)
                ⟨201, "Password set successfully", some c.uuid⟩

/-- The answers of `bcrypt.CompareHashAndPassword`. -/
abbrev PasswordComparison := String → String → Bool

variable (compareHashAndPassword : PasswordComparison)

/-- The password is changed by who knows the old one. -/
def handleUpdatePassword (body : Option ChangePasswordRequest) (c : AuthContext IP)
    (s : WebServer IP) : WebServer IP × AuthReply :=
  if s.config.hashedPassword = "" then (s, badRequest "Password is not set")
  else if s.config.localAuthMode ≠ "password" then (s, badRequest "Password mode is not enabled")
  else
    match body with
    | none => (s, badRequest "Invalid request")
    | some req =>
        if req.oldPassword = "" ∨ req.newPassword = "" then (s, badRequest "Invalid request")
        else if req.newPassword.utf8ByteSize < minPasswordLength then
          (s, badRequest "Password must be at least 8 characters")
        else if req.newPassword.utf8ByteSize > maxPasswordLength then
          (s, badRequest "Password must be at most 72 characters")
        else if compareHashAndPassword s.config.hashedPassword req.oldPassword = false then
          (s, unauthorized "Incorrect old password")
        else
          match c.hashed with
          | none => (s, internalServerError "Failed to hash new password" none)
          | some hashed =>
              s.saveConfig c
                { s.config with hashedPassword := hashed.text, localAuthToken := c.uuid }
                (internalServerError "Failed to save configuration" none)
                ⟨200, "Password updated successfully", some c.uuid⟩

/-- The password is deleted by who knows it. -/
def handleDeletePassword (body : Option LoginRequest) (c : AuthContext IP) (s : WebServer IP) :
    WebServer IP × AuthReply :=
  if s.config.hashedPassword = "" then (s, badRequest "Password is not set")
  else if s.config.localAuthMode ≠ "password" then (s, badRequest "Password mode is not enabled")
  else
    match body with
    | none => (s, badRequest "Invalid request")
    | some req =>
        if req.password = "" then (s, badRequest "Invalid request")
        else if compareHashAndPassword s.config.hashedPassword req.password = false then
          (s, unauthorized "Incorrect password")
        else
          s.saveConfig c
            { localAuthMode := "noPassword", hashedPassword := "", localAuthToken := "" }
            (internalServerError "Failed to save configuration" none)
            ⟨200, "Password disabled successfully", some ""⟩

/-- A login is given the token, unless the address is locked out. -/
def handleLogin (body : Option LoginRequest) (c : AuthContext IP) (s : WebServer IP) :
    WebServer IP × AuthReply :=
  if s.config.localAuthMode = "noPassword" then
    (s, badRequest "Login is disabled in noPassword mode")
  else if (s.passwordRateLimiter.isAllowed c.clientIP c.now).1 = false then (s, tooManyRequests)
  else
    match body with
    | none => (s, badRequest "Invalid request body")
    | some req =>
        if compareHashAndPassword s.config.hashedPassword req.password = false then
          (s.recordFailure c, unauthorized "Invalid password")
        else
          let s :=
            { s with passwordRateLimiter := s.passwordRateLimiter.recordSuccess c.clientIP }
          s.saveConfig c { s.config with localAuthToken := c.uuid }
            (internalServerError "Failed to save configuration" none)
            ⟨200, "Login successful", some c.uuid⟩

/-- The token is forgotten, and the cookie is taken away. -/
def handleLogout (c : AuthContext IP) (s : WebServer IP) : WebServer IP × AuthReply :=
  s.saveConfig c { s.config with localAuthToken := "" }
    (internalServerError "Failed to save configuration" none) ⟨200, "Logout successful", some ""⟩

/-- What the request is handled by. -/
def handle (request : AuthRequest) (c : AuthContext IP) (s : WebServer IP) :
    WebServer IP × AuthReply :=
  match request with
  | .setup body => handleSetup body c s
  | .createPassword body => handleCreatePassword body c s
  | .updatePassword body => handleUpdatePassword compareHashAndPassword body c s
  | .deletePassword body => handleDeletePassword compareHashAndPassword body c s
  | .login body => handleLogin compareHashAndPassword body c s
  | .logout => handleLogout c s

/-- The sequences of requests. -/
def lts : Lts (WebServer IP) (AuthRequest × AuthContext IP) :=
  Lts.ofStep fun s a => some (handle compareHashAndPassword a.1 a.2 s).1

/-- A device that has not been set up. -/
def fresh : WebServer IP where
  config := .fresh
  passwordRateLimiter := .new

/-- A device in the mode `password` has one. -/
def Guarded (config : LocalAuth) : Prop :=
  config.localAuthMode = "password" ↔ config.hashedPassword ≠ ""

instance (config : LocalAuth) : Decidable (Guarded config) :=
  inferInstanceAs (Decidable (_ ↔ _))

/-- The request is answered with the status of one that is rejected because of its content. -/
def Rejected (a : AuthRequest × AuthContext IP) (s : WebServer IP) : Prop :=
  let status := (handle compareHashAndPassword a.1 a.2 s).2.status
  status = 400 ∨ status = 401

/-- A device that has not been set up is set up in the mode `password`, and the password is missing,
too short or too long, or cannot be hashed. -/
def HalfSetUp (a : AuthRequest × AuthContext IP) (s : WebServer IP) : Prop :=
  match a.1 with
  | .setup (some req) =>
      s.config.localAuthMode = "" ∧ s.config.hashedPassword = "" ∧
        (s.passwordRateLimiter.isAllowed a.2.clientIP a.2.now).1 = true ∧
        req.localAuthMode = "password" ∧
        (req.password.utf8ByteSize < minPasswordLength ∨
          req.password.utf8ByteSize > maxPasswordLength ∨ a.2.hashed.isNone)
  | _ => False

instance (a : AuthRequest × AuthContext IP) (s : WebServer IP) : Decidable (HalfSetUp a s) := by
  unfold HalfSetUp
  split <;> infer_instance

/-- The configuration is guarded after the request, and is as before if the request is rejected. -/
def KeepsGuard (a : AuthRequest × AuthContext IP) (s : WebServer IP) : Prop :=
  let t := (handle compareHashAndPassword a.1 a.2 s).1
  Guarded t.config ∧ (Rejected compareHashAndPassword a s → t.config = s.config)

/-! ### The handlers -/

variable {compareHashAndPassword : PasswordComparison} {s t : WebServer IP} {c : AuthContext IP}

/-- What is left of a request keeps the guard, and is as before if the request is rejected. -/
def Keeps (s : WebServer IP) (result : WebServer IP × AuthReply) : Prop :=
  Guarded result.1.config ∧
    (result.2.status = 400 ∨ result.2.status = 401 → result.1.config = s.config)

omit [DecidableEq IP] in
/-- A request that changes nothing is harmless. -/
theorem Keeps.unchanged (h : Guarded s.config) (reply : AuthReply) (ht : t.config = s.config) :
  Keeps s (t, reply)
  := by
  rw [Keeps, ht]
  exact ⟨h, fun _ => rfl⟩

omit [DecidableEq IP] in
/-- A configuration that is guarded may be saved, or saving it fails. -/
theorem Keeps.saved {config : LocalAuth} {text : String} {cookie : Option String}
    {success : AuthReply} (h : Guarded config)
    (hsuccess : success.status = 200 ∨ success.status = 201) :
  Keeps s (t.saveConfig c config (internalServerError text cookie) success)
  := by
  rw [Keeps, saveConfig]
  use h
  intro hstatus
  exfalso
  dsimp only [internalServerError] at hstatus
  split at hstatus
  · omega
  · dsimp only at hstatus
    omega

/-- A password mode with a password is guarded. -/
theorem guarded_password (hashed : PasswordHash) (token : String) :
  Guarded ⟨"password", hashed.text, token⟩
  := iff_of_true rfl hashed.ne_empty

omit [DecidableEq IP] in
/-- Setting a password keeps the device guarded. -/
theorem keeps_createPassword (h : Guarded s.config) (body : Option SetPasswordRequest) :
  Keeps s (handleCreatePassword body c s)
  := by
  unfold handleCreatePassword
  split
  · apply Keeps.unchanged h _ rfl
  split
  · apply Keeps.unchanged h _ rfl
  cases body with
  | none => apply Keeps.unchanged h _ rfl
  | some req =>
      dsimp only
      split
      · apply Keeps.unchanged h _ rfl
      split
      · apply Keeps.unchanged h _ rfl
      split
      · apply Keeps.unchanged h _ rfl
      cases c.hashed with
      | none => apply Keeps.unchanged h _ rfl
      | some hashed => exact Keeps.saved (guarded_password hashed c.uuid) (Or.inr rfl)

omit [DecidableEq IP] in
/-- So does changing it. -/
theorem keeps_updatePassword (h : Guarded s.config) (body : Option ChangePasswordRequest) :
  Keeps s (handleUpdatePassword compareHashAndPassword body c s)
  := by
  unfold handleUpdatePassword
  split
  · apply Keeps.unchanged h _ rfl
  split
  · apply Keeps.unchanged h _ rfl
  rename_i hmode
  cases body with
  | none => apply Keeps.unchanged h _ rfl
  | some req =>
      dsimp only
      split
      · apply Keeps.unchanged h _ rfl
      split
      · apply Keeps.unchanged h _ rfl
      split
      · apply Keeps.unchanged h _ rfl
      split
      · apply Keeps.unchanged h _ rfl
      cases c.hashed with
      | none => apply Keeps.unchanged h _ rfl
      | some hashed =>
          apply Keeps.saved _ (Or.inl rfl)
          rw [not_not.mp hmode]
          apply guarded_password

omit [DecidableEq IP] in
/-- So does deleting it, which leaves the mode without a password. -/
theorem keeps_deletePassword (h : Guarded s.config) (body : Option LoginRequest) :
  Keeps s (handleDeletePassword compareHashAndPassword body c s)
  := by
  unfold handleDeletePassword
  split
  · apply Keeps.unchanged h _ rfl
  split
  · apply Keeps.unchanged h _ rfl
  cases body with
  | none => apply Keeps.unchanged h _ rfl
  | some req =>
      dsimp only
      split
      · apply Keeps.unchanged h _ rfl
      split
      · apply Keeps.unchanged h _ rfl
      exact Keeps.saved (by decide) (Or.inl rfl)

/-- So does a login. -/
theorem keeps_login (h : Guarded s.config) (body : Option LoginRequest) :
  Keeps s (handleLogin compareHashAndPassword body c s)
  := by
  unfold handleLogin
  split
  · apply Keeps.unchanged h _ rfl
  split
  · apply Keeps.unchanged h _ rfl
  cases body with
  | none => apply Keeps.unchanged h _ rfl
  | some req =>
      dsimp only
      split
      · apply Keeps.unchanged h _ rfl
      exact Keeps.saved h (Or.inl rfl)

omit [DecidableEq IP] in
/-- So does a logout. -/
theorem keeps_logout (h : Guarded s.config) :
  Keeps s (handleLogout c s)
  := Keeps.saved h (Or.inl rfl)

omit [DecidableEq IP] in
/-- The mode `password` without a password is no guard. -/
theorem not_keeps_of_unguarded (reply : AuthReply) (hmode : t.config.localAuthMode = "password")
    (hhash : t.config.hashedPassword = "") :
  ¬ Keeps s (t, reply)
  := fun keeps => keeps.1.mp hmode hhash

/-- After the mode `password` has been written, the password is set or the guard is lost. -/
theorem setup_password_iff {req : SetupRequest} (hhash : t.config.hashedPassword = "")
    (hmode : t.config.localAuthMode = "password") :
  Keeps s
      (if req.password = "" then
        (t.recordFailure c, badRequest "Password is required for password mode")
      else if req.password.utf8ByteSize < minPasswordLength then
        (t.recordFailure c, badRequest "Password must be at least 8 characters")
      else if req.password.utf8ByteSize > maxPasswordLength then
        (t, badRequest "Password must be at most 72 characters")
      else
        match c.hashed with
        | none => (t, internalServerError "Failed to hash password" none)
        | some hashed =>
            t.saveConfig c
              { t.config with hashedPassword := hashed.text, localAuthToken := c.uuid }
              (internalServerError "Failed to save config" (some c.uuid))
              ⟨200, "Device setup completed successfully", some c.uuid⟩) ↔
    ¬ (req.password.utf8ByteSize < minPasswordLength ∨
      req.password.utf8ByteSize > maxPasswordLength ∨ c.hashed.isNone)
  := by
  by_cases hempty : req.password = ""
  · rw [if_pos hempty, hempty]
    apply iff_of_false
    · apply not_keeps_of_unguarded _ hmode hhash
    · exact fun hnot => hnot (Or.inl (by decide))
  rw [if_neg hempty]
  by_cases hshort : req.password.utf8ByteSize < minPasswordLength
  · rw [if_pos hshort]
    apply iff_of_false
    · apply not_keeps_of_unguarded _ hmode hhash
    · exact fun hnot => hnot (Or.inl hshort)
  rw [if_neg hshort]
  by_cases hlong : req.password.utf8ByteSize > maxPasswordLength
  · rw [if_pos hlong]
    apply iff_of_false
    · apply not_keeps_of_unguarded _ hmode hhash
    · exact fun hnot => hnot (Or.inr (Or.inl hlong))
  rw [if_neg hlong]
  cases c.hashed with
  | none =>
      apply iff_of_false
      · apply not_keeps_of_unguarded _ hmode hhash
      · exact fun hnot => hnot (Or.inr (Or.inr rfl))
  | some hashed =>
      apply iff_of_true
      · apply Keeps.saved _ (Or.inl rfl)
        exact iff_of_true hmode hashed.ne_empty
      · simp [hshort, hlong]

/-- The setup keeps the guard exactly when it does not refuse a password after writing the mode. -/
theorem keeps_setup_iff (h : Guarded s.config) (body : Option SetupRequest) :
  Keeps s (handleSetup body c s) ↔ ¬ HalfSetUp (.setup body, c) s
  := by
  cases body with
  | none =>
      apply iff_of_true _ id
      rw [handleSetup]
      split
      · apply Keeps.unchanged h _ rfl
      split
      · apply Keeps.unchanged h _ rfl
      · apply Keeps.unchanged h _ rfl
  | some req =>
      rw [handleSetup, HalfSetUp]
      dsimp only
      by_cases hset : s.config.localAuthMode ≠ "" ∨ s.config.hashedPassword ≠ ""
      · rw [if_pos hset]
        apply iff_of_true
        · apply Keeps.unchanged h _ rfl
        · rintro ⟨hmode, hhash, -⟩
          exact hset.elim (fun hne => hne hmode) fun hne => hne hhash
      rw [if_neg hset]
      obtain ⟨hmode, hhash⟩ := not_or.mp hset
      rw [not_not] at hmode hhash
      cases hallowed : (s.passwordRateLimiter.isAllowed c.clientIP c.now).1 with
      | false =>
          apply iff_of_true
          · apply Keeps.unchanged h _ rfl
          · rintro ⟨-, -, ⟨⟩, -⟩
      | true =>
          rw [if_neg (by decide)]
          by_cases hknown : req.localAuthMode ≠ "password" ∧ req.localAuthMode ≠ "noPassword"
          · rw [if_pos hknown]
            apply iff_of_true
            · apply Keeps.unchanged h _ rfl
            · exact fun half => hknown.1 half.2.2.2.1
          rw [if_neg hknown]
          by_cases hpassword : req.localAuthMode = "password"
          · rw [if_pos hpassword, setup_password_iff
              (t := { s with config := { s.config with localAuthMode := req.localAuthMode } })
              hhash hpassword]
            simp [hmode, hhash, hpassword]
          · rw [if_neg hpassword]
            apply iff_of_true
            · apply Keeps.saved _ (Or.inl rfl)
              apply iff_of_false hpassword
              simp
            · exact fun half => hpassword half.2.2.2.1

/-- A request keeps the guard exactly when it does not set up half of it. -/
theorem keepsGuard_iff (h : Guarded s.config) (a : AuthRequest × AuthContext IP) :
  KeepsGuard compareHashAndPassword a s ↔ ¬ HalfSetUp a s
  := by
  obtain ⟨request, c⟩ := a
  cases request with
  | setup body => apply keeps_setup_iff h
  | createPassword body => exact iff_of_true (keeps_createPassword h body) id
  | updatePassword body => exact iff_of_true (keeps_updatePassword h body) id
  | deletePassword body => exact iff_of_true (keeps_deletePassword h body) id
  | login body => exact iff_of_true (keeps_login h body) id
  | logout => exact iff_of_true (keeps_logout h) id

/-! ### Sequences of requests -/

variable {tr : List (Lts.Transition (WebServer IP) (AuthRequest × AuthContext IP))}

/-- The device is guarded after every request, and requests that are rejected leave everything as it
is, exactly when no request sets up half of the guard. -/
theorem keepsGuard_run (run : (lts compareHashAndPassword).Run fresh tr s) :
  (∀ e ∈ tr, KeepsGuard compareHashAndPassword e.action e.before) ↔
    ∀ e ∈ tr, ¬ HalfSetUp e.action e.before
  := by
  apply run.forall_iff (I := fun s => Guarded s.config) (by decide : Guarded LocalAuth.fresh)
  · intro e before _
    apply keepsGuard_iff before
  · intro e hnot before step
    rw [← Option.some.inj step]
    exact ((keepsGuard_iff before e.action).mpr hnot).1

/-- The device is set up, its password is changed and deleted. -/
theorem keepsGuard_run_setup :
  ∃ tr s, (lts fun _ _ => true).Run (fresh : WebServer Unit) tr s ∧ tr.length = 3 ∧
    ∀ e ∈ tr, KeepsGuard (fun _ _ => true) e.action e.before
  := by
  let context : AuthContext Unit := ⟨(), 0, some ⟨"hash", by decide⟩, "token", true⟩
  obtain ⟨tr, s, run, hactions, hnot, -⟩ :=
    Lts.exists_run_of_restrict (fun s a => some (handle (fun _ _ => true) a.1 a.2 s).1)
      (fun s a => ¬ HalfSetUp a s) (fresh : WebServer Unit)
      [(.setup (some ⟨"password", "password"⟩), context),
        (.updatePassword (some ⟨"password", "different"⟩), context),
        (.deletePassword (some ⟨"different"⟩), context)]
      (fun _ => ()) (by decide +kernel : _ = some ())
  refine ⟨tr, s, run, ?_, (keepsGuard_run run).mpr hnot⟩
  rw [← List.length_map Lts.Transition.action, hactions]
  rfl

/-- A setup in the mode `password` without a password is refused, and the device is set up. -/
theorem setup_refused :
  ¬ ∀ (compareHashAndPassword : PasswordComparison)
      (tr : List (Lts.Transition (WebServer Unit) (AuthRequest × AuthContext Unit)))
      (s : WebServer Unit),
    (lts compareHashAndPassword).Run fresh tr s →
    ∀ e ∈ tr, KeepsGuard compareHashAndPassword e.action e.before
  := by
  intro claim
  let context : AuthContext Unit := ⟨(), 0, none, "token", true⟩
  have hkeeps := claim (fun _ _ => false) _ _
    (Lts.Run.snoc (a := (.setup (some ⟨"password", ""⟩), context)) .nil rfl) _
    (List.mem_singleton_self _)
  exact absurd hkeeps.1 (by decide +kernel)

end WebServer

end JetKvm.Web
