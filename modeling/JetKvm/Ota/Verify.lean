import JetKvm.Ota.State
import JetKvm.Text

/-!
# Download and verification

A component is downloaded to its unverified file, which is renamed to its update path when
its digest is the one of the metadata and, when there is a signature, the verifier accepts
it. The keyring of the verifier is fetched from key servers and kept, and holds at any time
only an entity whose fingerprint is the pinned one.
-/

namespace JetKvm.Ota

open Procedure

variable {Version Entity : Type} (lib : Libraries Version Entity)

/-! ### Digests and fingerprints -/

def hexDigits (b : UInt8) : List Char :=
  [Nat.digitChar (b.toNat / 16), Nat.digitChar (b.toNat % 16)]

/-- The lower-case hexadecimal digits of some bytes. -/
def encodeToString (bytes : List UInt8) : String :=
  String.ofList (bytes.flatMap hexDigits)

/-- The pinned fingerprint of the root key. -/
def rootKeyFingerprint : String :=
  "AF5A36A993D828FEFE7C18C2D1B9856C26A79E95"

def trimPrefix0X : List Char → List Char
  | '0' :: 'X' :: rest => rest
  | s => s

/-- A fingerprint in upper case, without blanks and `0X`. -/
def normalizeFingerprint (fp : String) : String :=
  String.ofList
    ((trimPrefix0X ((trimSpace fp).toList.map Char.toUpper)).filter fun c => c ≠ ' ')

/-! ### The keyring -/

def keyservers : List (String → String) :=
  [fun fingerprint => "https://keys.openpgp.org/vks/v1/by-fingerprint/" ++ fingerprint,
   fun fingerprint => "https://keyserver.ubuntu.com/pks/lookup?op=get&search=0x" ++ fingerprint]

/-- A cached key is used for a day. -/
def keyCacheTTL : Nat :=
  24 * 60 * 60

/-- The fingerprint of the entity is the expected one. -/
def Libraries.hasFingerprint (expected : String) (entity : Entity) : Bool :=
  (lib.fingerprint entity).any fun fp => normalizeFingerprint (encodeToString fp) = expected

namespace GPGVerifier

/-- The verifier of a new update state. -/
def new : GPGVerifier Entity where
  rootKeyFP := rootKeyFingerprint

/-- The entity of an armored keyring that has the configured fingerprint. -/
def parseAndValidateKeyring (g : GPGVerifier Entity) (key : List UInt8) :
    Except String (List Entity) := do
  let keyring ← (lib.readArmoredKeyRing key).mapError fun e => "invalid OpenPGP key: " ++ e
  if keyring = [] then
    throw "invalid OpenPGP key: keyring is empty"
  else
    let expected := normalizeFingerprint g.rootKeyFP
    match keyring.find? (lib.hasFingerprint expected) with
    | some entity => return [entity]
    | none => throw ("fetched key fingerprint does not match expected fingerprint " ++ expected)

/-- Fetches the key from one key server. -/
def fetchFromSingleKeyserver (g : GPGVerifier Entity) (surr : KeyserverSurroundings)
    (url : String) : Except String (List UInt8 × List Entity) :=
  match surr.keyserver url with
  | .notCreated message => throw ("error creating request: " ++ message)
  | .notSent message => throw ("error fetching key: " ++ message)
  | .answered answer =>
      if answer.statusCode ≠ 200 then
        throw ("keyserver returned status " ++ toString answer.statusCode)
      else
        match answer.bodyError with
        | some message => throw ("error reading response: " ++ message)
        | none => do
            let keyring ← parseAndValidateKeyring lib g answer.body
            return (answer.body, keyring)

/-- Tries the key servers in order, collecting the errors. -/
def fetchFromKeyservers (g : GPGVerifier Entity) (surr : KeyserverSurroundings) :
    List (String → String) → List String → Except String (List UInt8 × List Entity)
  | [], errors =>
      match surr.cancelledAfter with
      | some message => throw ("key fetch cancelled after trying all servers: " ++ message)
      | none => throw ("all keyservers failed: [" ++ " ".intercalate errors ++ "]")
  | server :: servers, errors =>
      let url := server g.rootKeyFP
      match surr.cancelled url with
      | some message => throw ("key fetch cancelled: " ++ message)
      | none =>
          match fetchFromSingleKeyserver lib g surr url with
          | .ok fetched => return fetched
          | .error message => fetchFromKeyservers g surr servers (errors ++ [url ++ ": " ++ message])

def updateMemoryCache (g : GPGVerifier Entity) (now : Nat) (key : List UInt8)
    (keyring : List Entity) : GPGVerifier Entity :=
  { g with cachedKey := some key, cachedKeyTime := now, keyring := some keyring }

/-- The cached key, or one fetched from the key servers, which is then cached. -/
def FetchPublicKey (g : GPGVerifier Entity) (surr : KeyserverSurroundings) :
    Except String (GPGVerifier Entity × List UInt8) :=
  if g.rootKeyFP = "" then
    throw "root key fingerprint not configured"
  else
    match g.cachedKey.filter fun _ => surr.now - g.cachedKeyTime < keyCacheTTL with
    | some key => return (g, key)
    | none => do
        let fetched ← fetchFromKeyservers lib g surr keyservers []
        return (g.updateMemoryCache surr.now fetched.1 fetched.2, fetched.1)

/-- The keyring, fetched when it is not cached. -/
def getKeyring (g : GPGVerifier Entity) (surr : KeyserverSurroundings) :
    Except String (GPGVerifier Entity × List Entity) := do
  let fetched ← (FetchPublicKey lib g surr).mapError fun e => "failed to fetch public key: " ++ e
  match fetched.1.keyring with
  | some keyring => return (fetched.1, keyring)
  | none => throw "keyring not initialized"

/-! ### The pinned key -/

/-- The keyring holds one entity, whose fingerprint is the pinned one. -/
def PinnedKeyring (keyring : List Entity) : Prop :=
  ∃ entity, keyring = [entity] ∧
    lib.hasFingerprint (normalizeFingerprint rootKeyFingerprint) entity = true

/-- The verifier asks for the pinned key, and has kept no other. -/
structure Pinned (g : GPGVerifier Entity) : Prop where
  rootKeyFP : g.rootKeyFP = rootKeyFingerprint
  keyring : ∀ keyring, g.keyring = some keyring → PinnedKeyring lib keyring

variable {lib} {g g' : GPGVerifier Entity} {surr : KeyserverSurroundings} {keyring : List Entity}
  {key : List UInt8}

theorem Pinned.new : Pinned lib (new : GPGVerifier Entity)
  := ⟨rfl, nofun⟩

/-- A key whose fingerprint is not the pinned one is refused. -/
theorem Pinned.parseAndValidateKeyring (h : Pinned lib g)
    (hparse : parseAndValidateKeyring lib g key = .ok keyring) :
  PinnedKeyring lib keyring
  := by
  rw [GPGVerifier.parseAndValidateKeyring, h.rootKeyFP] at hparse
  obtain ⟨entities, -, hparse⟩ := bind_eq_ok.mp hparse
  obtain ⟨-, hparse⟩ := ite_throw_eq_ok.mp hparse
  cases hfind : entities.find? (lib.hasFingerprint (normalizeFingerprint rootKeyFingerprint)) with
  | none =>
      simp only [hfind] at hparse
      cases hparse
  | some entity =>
      simp only [hfind] at hparse
      obtain rfl := pure_eq_ok.mp hparse
      use entity, rfl
      apply List.find?_some hfind

theorem Pinned.fetchFromSingleKeyserver (h : Pinned lib g) {url : String}
    (hfetch : fetchFromSingleKeyserver lib g surr url = .ok (key, keyring)) :
  PinnedKeyring lib keyring
  := by
  rw [GPGVerifier.fetchFromSingleKeyserver] at hfetch
  split at hfetch
  · cases hfetch
  · cases hfetch
  · obtain ⟨-, hfetch⟩ := ite_throw_eq_ok.mp hfetch
    split at hfetch
    · cases hfetch
    · obtain ⟨parsed, hparse, hfetch⟩ := bind_eq_ok.mp hfetch
      obtain ⟨-, rfl⟩ := Prod.mk.inj (pure_eq_ok.mp hfetch)
      apply h.parseAndValidateKeyring hparse

/-- Whichever key server answers, its key is the pinned one. -/
theorem Pinned.fetchFromKeyservers (h : Pinned lib g) {servers : List (String → String)}
    {errors : List String}
    (hfetch : fetchFromKeyservers lib g surr servers errors = .ok (key, keyring)) :
  PinnedKeyring lib keyring
  := by
  induction servers generalizing errors with
  | nil =>
      rw [GPGVerifier.fetchFromKeyservers] at hfetch
      split at hfetch <;> cases hfetch
  | cons server servers ih =>
      rw [GPGVerifier.fetchFromKeyservers] at hfetch
      split at hfetch
      · cases hfetch
      · split at hfetch
        · rename_i hsingle
          obtain rfl := pure_eq_ok.mp hfetch
          apply h.fetchFromSingleKeyserver hsingle
        · apply ih hfetch

theorem Pinned.FetchPublicKey (h : Pinned lib g)
    (hfetch : FetchPublicKey lib g surr = .ok (g', key)) :
  Pinned lib g'
  := by
  rw [GPGVerifier.FetchPublicKey] at hfetch
  obtain ⟨-, hfetch⟩ := ite_throw_eq_ok.mp hfetch
  split at hfetch
  · obtain ⟨rfl, -⟩ := Prod.mk.inj (pure_eq_ok.mp hfetch)
    apply h
  · obtain ⟨fetched, hservers, hfetch⟩ := bind_eq_ok.mp hfetch
    obtain ⟨rfl, -⟩ := Prod.mk.inj (pure_eq_ok.mp hfetch)
    use h.rootKeyFP
    intro keyring hkeyring
    obtain rfl := Option.some.inj hkeyring
    apply h.fetchFromKeyservers hservers

/-- The keyring a signature is checked with holds the pinned key only. -/
theorem Pinned.getKeyring (h : Pinned lib g)
    (hget : getKeyring lib g surr = .ok (g', keyring)) :
  Pinned lib g' ∧ PinnedKeyring lib keyring
  := by
  obtain ⟨fetched, hfetch, hget⟩ := bind_eq_ok.mp hget
  have hpinned := h.FetchPublicKey (mapError_eq_ok.mp hfetch)
  split at hget
  · rename_i hkeyring
    obtain ⟨rfl, rfl⟩ := Prod.mk.inj (pure_eq_ok.mp hget)
    exact ⟨hpinned, hpinned.keyring _ hkeyring⟩
  · cases hget

end GPGVerifier

/-! ### Downloads -/

section Procedures

variable (lib : Libraries Version Entity) (surr : ComponentSurroundings) (c : Component)

/-- Downloads a signature, which is not empty. -/
def downloadSignature (sigURL : String) : Update Entity (List UInt8) :=
  match surr.signature sigURL with
  | .notCreated message => throw ("error creating signature request: " ++ message)
  | .notSent message => throw ("error downloading signature: " ++ message)
  | .answered answer => do
      failWhen (answer.statusCode ≠ 200)
        ("signature download failed with status " ++ toString answer.statusCode)
      failOn "error reading signature: " answer.bodyError
      failWhen (answer.body = []) "signature file is empty"
      return answer.body

/-- The signature of a component, empty when the check is bypassed. -/
def downloadComponentSignature (update : ComponentUpdateStatus) (bypassSignatureCheck : Bool) :
    Update Entity (List UInt8) := do
  if bypassSignatureCheck then
    return []
  else
    failWhen (update.sigUrl = "") ("version " ++ update.version
      ++ " requires GPG signature but API returned no signature URL")
    downloadSignature surr update.sigUrl

def syncFilesystem : Update Entity Unit := do
  failOn "error flushing filesystem buffers: " surr.sync
  failOn "error clearing filesystem caches: " surr.dropCaches

/-- Writes what the file holds to the unverified file of the component. -/
def writeUnverified (contents : List UInt8) : Update Entity Unit :=
  modifyFiles c fun f => { f with unverified := some contents }

/-- Downloads the file of a component. A failure leaves what was written until then. -/
def downloadFile (url : String) : Update Entity Unit := do
  failOn "error removing existing file: " surr.removeFile
  modifyFiles c fun f => { f with verified := none }
  failOn "error removing existing unverified file: " surr.removeUnverified
  modifyFiles c fun f => { f with unverified := none }
  failOn "error creating file: " surr.createFile
  writeUnverified c []
  match surr.download url with
  | .notCreated message => throw ("error creating request: " ++ message)
  | .notSent message => throw ("error downloading file: " ++ message)
  | .answered answer =>
      failWhen (answer.statusCode ≠ 200)
        ("unexpected status code: " ++ toString answer.statusCode)
      failWhen (answer.contentLength ≤ 0) "invalid content length"
      match surr.writeFile with
      | some (written, message) =>
          writeUnverified c (answer.body.take written)
          throw message
      | none =>
          writeUnverified c answer.body
          failOn "error reading response body: " answer.bodyError
          describe "error syncing filesystem: " (syncFilesystem surr)

/-! ### Verification -/

/-- Opens the unverified file of the component. -/
def openUnverified (text : String) (failure : Option String) : Update Entity (List UInt8) := do
  failOn text failure
  let d ← get
  match (d.files c).unverified with
  | some contents => return contents
  | none => throw (text ++ "file does not exist")

/-- Checks a signature over the unverified file with the keyring of the verifier. -/
def VerifySignatureFromFile (signature : List UInt8) : Update Entity Unit := do
  let d ← get
  let fetched ← MonadExcept.ofExcept (d.state.gpgVerifier.getKeyring lib surr.keyservers)
  modifyState fun s => { s with gpgVerifier := fetched.1 }
  let contents ← openUnverified c "failed to open file for verification: " surr.openToVerify
  failOn "signature verification failed: "
    (lib.checkDetachedSignature fetched.2 contents signature)
  emit (.accept fetched.2 signature contents)

/-- Renames the unverified file of the component to its update path. -/
def renameUnverified : Update Entity Unit := do
  let contents ← openUnverified c "error renaming file: " surr.renameFile
  modifyFiles c fun _ => { verified := some contents, unverified := none }
  emit (.rename c contents)

/-- Checks the digest of the unverified file and the signature, if there is one, and renames
the file. -/
def verifyFile (expectedHash : String) (signature : List UInt8) : Update Entity Unit := do
  let contents ← openUnverified c "error opening file for hashing: " surr.openToHash
  failOn "error getting file info: " surr.stat
  failOn "error reading file: " surr.read
  let hashSum := encodeToString (lib.sha256 contents)
  failWhen (hashSum ≠ expectedHash) ("hash mismatch: " ++ hashSum ++ " != " ++ expectedHash)
  runWhen (signature ≠ []) (describe "GPG signature verification failed: "
    (VerifySignatureFromFile lib surr c signature))
  renameUnverified surr c
  failOn "error making file executable: " surr.chmod

/-- The check of the signature is skipped for a version the user has asked for, and for a
pre-release version when pre-releases are included. -/
def shouldBypassSignatureCheck (version : String) (customVersionUpdate includePreRelease : Bool) :
    Bool :=
  if customVersionUpdate then true
  else
    match lib.newVersion version with
    | .error _ => false
    | .ok remoteVersion => lib.prerelease remoteVersion ≠ "" && includePreRelease

end Procedures

/-! ### What a verification logs -/

/-- The events a verification may log: the file is renamed when its digest is the expected
one, after the verifier has accepted the signature under the pinned key if there is one. -/
inductive VerifyLog (lib : Libraries Version Entity) (c : Component) (expectedHash : String)
    (signature : List UInt8) : List (Event Entity) → Prop
  | failed : VerifyLog lib c expectedHash signature []
  | accepted {keyring contents} :
      VerifyLog lib c expectedHash signature [.accept keyring signature contents]
  | unsigned {contents} (digest : encodeToString (lib.sha256 contents) = expectedHash)
      (none : signature = []) :
      VerifyLog lib c expectedHash signature [.rename c contents]
  | signed {keyring contents} (digest : encodeToString (lib.sha256 contents) = expectedHash)
      (some : signature ≠ []) (pinned : GPGVerifier.PinnedKeyring lib keyring)
      (check : lib.checkDetachedSignature keyring contents signature = none) :
      VerifyLog lib c expectedHash signature
        [.accept keyring signature contents, .rename c contents]

/-- The device `t` has logged events that satisfy `P` since the device `d`, and its verifier
is pinned. -/
def Logged (lib : Libraries Version Entity) (d : Device Entity)
    (P : List (Event Entity) → Prop) (t : Device Entity) : Prop :=
  ∃ events, t.log = d.log ++ events ∧ P events ∧ t.state.gpgVerifier.Pinned lib

section Logs

variable {lib : Libraries Version Entity} {P P' : List (Event Entity) → Prop}
  {d t u : Device Entity}

/-- Events logged one after the other. -/
theorem Logged.append (first : Logged lib d P t) (second : Logged lib t P' u) :
  Logged lib d (fun events => ∃ front back, events = front ++ back ∧ P front ∧ P' back) u
  := by
  obtain ⟨front, hfront, hP, -⟩ := first
  obtain ⟨back, hback, hP', pinned⟩ := second
  use front ++ back
  rw [hback, hfront, List.append_assoc]
  exact ⟨rfl, ⟨front, back, rfl, hP, hP'⟩, pinned⟩

theorem Logged.pinned (h : Logged lib d P t) : t.state.gpgVerifier.Pinned lib
  := by
  obtain ⟨-, -, -, pinned⟩ := h
  apply pinned

theorem Logged.mono (h : Logged lib d P t) (weaker : ∀ events, P events → P' events) :
  Logged lib d P' t
  := by
  obtain ⟨events, hlog, hP, pinned⟩ := h
  exact ⟨events, hlog, weaker events hP, pinned⟩

theorem Logged.rebase (h : Logged lib t P u) (log : t.log = d.log) :
  Logged lib d P u
  := by
  rw [Logged, log] at h
  apply h

/-- A device whose log and verifier are those of `t`. -/
theorem Logged.of_eq (h : Logged lib d P t) (log : u.log = t.log)
    (gpgVerifier : u.state.gpgVerifier = t.state.gpgVerifier) :
  Logged lib d P u
  := by
  obtain ⟨events, hlog, hP, pinned⟩ := h
  rw [← log] at hlog
  rw [← gpgVerifier] at pinned
  exact ⟨events, hlog, hP, pinned⟩

variable {surr : ComponentSurroundings} {c : Component} {Value : Type}
  {Q : Value → Device Entity → Prop} {R : String → Device Entity → Prop}

theorem openUnverified_ends {text : String} {failure : Option String}
    {Q : List UInt8 → Device Entity → Prop}
    (value : ∀ contents, (d.files c).unverified = some contents → Q contents d)
    (error : ∀ message, R message d) :
  (openUnverified c text failure).Ends d Q R
  := by
  rw [openUnverified, ends_bind]
  apply failOn_ends _ error
  rw [ends_bind, ends_get]
  split
  · apply value
    assumption
  · apply error

/-- A verification that is accepted was made with the pinned key over the unverified file. -/
theorem VerifySignatureFromFile_ends {signature : List UInt8}
    {Q : Unit → Device Entity → Prop} (pinned : d.state.gpgVerifier.Pinned lib)
    (value : ∀ g keyring contents, g.Pinned lib → GPGVerifier.PinnedKeyring lib keyring →
      (d.files c).unverified = some contents →
      lib.checkDetachedSignature keyring contents signature = none →
      Q () { d with
        state := { d.state with gpgVerifier := g }
        log := d.log ++ [.accept keyring signature contents] })
    (error : ∀ message g, g.Pinned lib →
      R message { d with state := { d.state with gpgVerifier := g } }) :
  (VerifySignatureFromFile lib surr c signature).Ends d Q R
  := by
  rw [VerifySignatureFromFile, ends_bind, ends_get, ends_bind, ends_ofExcept]
  constructor
  · rintro ⟨g, keyring⟩ hget
    obtain ⟨hpinned, hkeyring⟩ := pinned.getKeyring hget
    rw [ends_bind, modifyState, ends_modify, ends_bind]
    apply openUnverified_ends
    · intro contents hcontents
      rw [ends_bind, ends_failOn]
      constructor
      · intro hcheck
        apply value g keyring contents hpinned hkeyring hcontents hcheck
      · intro message _
        apply error _ g hpinned
    · intro message
      apply error _ g hpinned
  · intro message _
    apply error _ _ pinned

theorem renameUnverified_ends {Q : Unit → Device Entity → Prop}
    (value : ∀ contents, (d.files c).unverified = some contents →
      Q () { d with
        files := Function.update d.files c { verified := some contents }
        log := d.log ++ [.rename c contents] })
    (error : ∀ message, R message d) :
  (renameUnverified surr c).Ends d Q R
  := by
  rw [renameUnverified, ends_bind]
  apply openUnverified_ends _ error
  apply value

/-- Signatures are not empty unless the check is bypassed. -/
theorem downloadComponentSignature_ends {update : ComponentUpdateStatus} {bypass : Bool}
    {Q : List UInt8 → Device Entity → Prop}
    (value : ∀ signature, (signature = [] → bypass = true) → Q signature d)
    (error : ∀ message, R message d) :
  (downloadComponentSignature surr update bypass).Ends d Q R
  := by
  rw [downloadComponentSignature, ends_ite, ends_pure, ends_bind, ends_failWhen]
  constructor
  · intro hbypass
    apply value _ fun _ => hbypass
  · intro _
    use fun _ => error _
    intro _
    rw [downloadSignature]
    split
    · apply error
    · apply error
    · rename_i answer _
      rw [ends_bind, ends_failWhen]
      use fun _ => error _
      intro _
      rw [ends_bind]
      apply failOn_ends _ error
      rw [ends_bind, ends_failWhen]
      use fun _ => error _
      intro hbody
      apply value
      exact fun h => absurd h hbody

/-- A download changes neither the update state nor the log. -/
theorem downloadFile_leaves {url : String} :
  (downloadFile surr c url).Leaves d fun t => t.state = d.state ∧ t.log = d.log
  := by
  simp only [downloadFile, Leaves, ends_bind, ends_failOn, modifyFiles, ends_modify,
    writeUnverified, implies_true, and_self, and_true]
  intro _ _ _
  split
  · simp
  · simp
  · simp only [ends_bind, ends_failWhen, implies_true, and_self, true_and]
    intro _ _
    split <;> simp [syncFilesystem]

/-- The events of the last steps of a verification, after `events` have been logged. -/
theorem renameUnverified_leaves {expectedHash : String} {signature : List UInt8}
    {t : Device Entity} {events : List (Event Entity)} (pinned : t.state.gpgVerifier.Pinned lib)
    (hlog : t.log = d.log ++ events)
    (refused : VerifyLog lib c expectedHash signature events)
    (renamed : ∀ contents, (t.files c).unverified = some contents →
      VerifyLog lib c expectedHash signature (events ++ [.rename c contents])) :
  (renameUnverified surr c).Ends t
    (fun _ u => (failOn "error making file executable: " surr.chmod).Leaves u
      (Logged lib d (VerifyLog lib c expectedHash signature)))
    (fun _ => Logged lib d (VerifyLog lib c expectedHash signature))
  := by
  apply renameUnverified_ends
  · intro contents hcontents
    have h : Logged lib d (VerifyLog lib c expectedHash signature)
        { t with
          files := Function.update t.files c { verified := some contents }
          log := t.log ++ [.rename c contents] } := by
      use events ++ [.rename c contents]
      simp only [hlog, List.append_assoc, true_and]
      exact ⟨renamed contents hcontents, pinned⟩
    apply failOn_ends h fun _ => h
  · intro _
    exact ⟨events, hlog, refused, pinned⟩

/-- The events a verification logs. -/
theorem verifyFile_leaves {expectedHash : String} {signature : List UInt8}
    (pinned : d.state.gpgVerifier.Pinned lib) :
  (verifyFile lib surr c expectedHash signature).Leaves d
    (Logged lib d (VerifyLog lib c expectedHash signature))
  := by
  have unchanged : ∀ g, g.Pinned lib → Logged lib d (VerifyLog lib c expectedHash signature)
      { d with state := { d.state with gpgVerifier := g } } :=
    fun g hg => ⟨[], (List.append_nil _).symm, .failed, hg⟩
  rw [verifyFile, Leaves, ends_bind]
  apply openUnverified_ends _ fun _ => unchanged _ pinned
  intro contents hcontents
  rw [ends_bind]
  apply failOn_ends _ fun _ => unchanged _ pinned
  rw [ends_bind]
  apply failOn_ends _ fun _ => unchanged _ pinned
  dsimp only
  rw [ends_bind, ends_failWhen]
  use fun _ => unchanged _ pinned
  intro hdigest
  rw [ends_bind, ends_runWhen, ends_describe]
  constructor
  · intro hsignature
    apply VerifySignatureFromFile_ends pinned
    · intro g keyring signed hg hkeyring hsigned hcheck
      rw [ends_bind]
      apply renameUnverified_leaves hg rfl .accepted
      intro renamed hrenamed
      obtain rfl := Option.some.inj (hcontents.symm.trans hsigned)
      obtain rfl := Option.some.inj (hcontents.symm.trans hrenamed)
      exact .signed (not_not.mp hdigest) hsignature hkeyring hcheck
    · intro _
      apply unchanged
  · intro hsignature
    rw [ends_bind]
    apply renameUnverified_leaves pinned (List.append_nil _).symm .failed
    intro renamed hrenamed
    obtain rfl := Option.some.inj (hcontents.symm.trans hrenamed)
    exact .unsigned (not_not.mp hdigest) (not_not.mp hsignature)

end Logs
end JetKvm.Ota
