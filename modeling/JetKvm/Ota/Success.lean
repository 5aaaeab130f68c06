import JetKvm.Ota.Update

/-!
# Updates whose steps succeed

What the steps of an update that follow the marking of the components meet when every one of them
succeeds, as a condition on the surroundings, on the parameters and on the verifier before the
update. An update of pending components returns no error exactly when the condition holds.
-/

namespace JetKvm.Ota

open Procedure

variable {Version Entity : Type} (lib : Libraries Version Entity)

/-! ### The steps -/

/-- The signature is answered with status 200, read to its end and not empty. No signature is
asked for when the check is bypassed. -/
def SignatureObtained (surr : ComponentSurroundings) (sigUrl : String) (bypass : Bool)
    (signature : List UInt8) : Prop :=
  if bypass then signature = []
  else
    sigUrl ≠ "" ∧ signature ≠ [] ∧ ∃ answer, surr.signature sigUrl = .answered answer ∧
      answer.statusCode = 200 ∧ answer.bodyError = none ∧ answer.body = signature

/-- The old files are removed, and the new one is created, downloaded and written. -/
structure FileDownloaded (surr : ComponentSurroundings) (url : String) (contents : List UInt8) :
    Prop where
  removeFile : surr.removeFile = none
  removeUnverified : surr.removeUnverified = none
  createFile : surr.createFile = none
  download : ∃ answer, surr.download url = .answered answer ∧ answer.statusCode = 200 ∧
    0 < answer.contentLength ∧ answer.bodyError = none ∧ answer.body = contents
  writeFile : surr.writeFile = none
  sync : surr.sync = none
  dropCaches : surr.dropCaches = none

/-- The key server answers with status 200 and an armored keyring, the first entity of which with
the configured fingerprint is the keyring that is used. -/
structure KeyServed (g : GPGVerifier Entity) (surr : KeyserverSurroundings) (url : String)
    (key : List UInt8) (keyring : List Entity) : Prop where
  answered : ∃ answer, surr.keyserver url = .answered answer ∧ answer.statusCode = 200 ∧
    answer.bodyError = none ∧ answer.body = key
  matching : ∃ entities entity, lib.readArmoredKeyRing key = .ok entities ∧
    entities.find? (lib.hasFingerprint (normalizeFingerprint g.rootKeyFP)) = some entity ∧
    keyring = [entity]

/-- The first of the key servers that serves the key is reached before the fetching is cancelled. -/
def KeyFetched (g : GPGVerifier Entity) (surr : KeyserverSurroundings) (key : List UInt8)
    (keyring : List Entity) : List (String → String) → Prop
  | [] => False
  | server :: servers =>
      surr.cancelled (server g.rootKeyFP) = none ∧
        (KeyServed lib g surr (server g.rootKeyFP) key keyring ∨
          (∀ key keyring, ¬ KeyServed lib g surr (server g.rootKeyFP) key keyring) ∧
            KeyFetched g surr key keyring servers)

/-- The verifier `g` has kept a key for less than a day, with its keyring, or it fetches a key and
keeps it. After that it is `g'`. -/
def KeyringObtained (surr : KeyserverSurroundings) (g g' : GPGVerifier Entity)
    (keyring : List Entity) : Prop :=
  g.rootKeyFP ≠ "" ∧
    match g.cachedKey.filter fun _ => surr.now - g.cachedKeyTime < keyCacheTTL with
    | some _ => g' = g ∧ g.keyring = some keyring
    | none => ∃ key, KeyFetched lib g surr key keyring keyservers ∧
        g' = g.updateMemoryCache surr.now key keyring

/-- The verifier `g` obtains a keyring, after which it is `g'`, and the signature is accepted with
the keyring. -/
structure SignatureVerified (surr : ComponentSurroundings) (contents signature : List UInt8)
    (g g' : GPGVerifier Entity) (keyring : List Entity) : Prop where
  obtained : KeyringObtained lib surr.keyservers g g' keyring
  openToVerify : surr.openToVerify = none
  accepted : lib.checkDetachedSignature keyring contents signature = none

/-- The file has the expected digest and, when there is a signature, is signed. It is renamed and
made executable. -/
structure FileVerified (surr : ComponentSurroundings) (expectedHash : String)
    (contents signature : List UInt8) (g g' : GPGVerifier Entity) : Prop where
  openToHash : surr.openToHash = none
  stat : surr.stat = none
  read : surr.read = none
  digest : encodeToString (lib.sha256 contents) = expectedHash
  signature : if signature = [] then g' = g
    else ∃ keyring, SignatureVerified lib surr contents signature g g' keyring
  renameFile : surr.renameFile = none
  chmod : surr.chmod = none

/-- The signature and the file of a component are downloaded and verified. -/
def FilesSucceed (surr : ComponentSurroundings) (update : ComponentUpdateStatus) (bypass : Bool)
    (g g' : GPGVerifier Entity) : Prop :=
  ∃ signature contents, SignatureObtained surr update.sigUrl bypass signature ∧
    FileDownloaded surr update.url contents ∧
    FileVerified lib surr update.hash contents signature g g'

/-- What is installed after the file of a component has been verified. -/
def Installed (surr : Surroundings Version) : Component → Prop
  | .app => True
  | .system => surr.startRkOta = none ∧ surr.waitRkOta = none

/-- Every step of the update of a component that is pending succeeds. -/
def PendingSucceeds (surr : Surroundings Version) (params : UpdateParams) (c : Component)
    (update : ComponentUpdateStatus) (g g' : GPGVerifier Entity) : Prop :=
  if update.pending = true then
    FilesSucceed lib (surr.component c) update
        (shouldBypassSignatureCheck lib update.version update.customVersionUpdate
          params.includePreRelease) g g' ∧
      Installed surr c
  else g' = g

/-- The configuration is reset if that is asked for, and the reboot is requested. -/
structure RebootSucceeds (surr : Surroundings Version) (params : UpdateParams) : Prop where
  resetConfig : params.resetConfig = true → surr.resetConfig = none
  reboot : surr.reboot = none

/-- Every step that follows the marking succeeds, the verifier being `g` before. The system is
updated with the verifier that the update of the application has left. -/
def StepsSucceed (surr : Surroundings Version) (params : UpdateParams)
    (appUpdate systemUpdate : ComponentUpdateStatus) (g : GPGVerifier Entity) : Prop :=
  (∃ g' g'', PendingSucceeds lib surr params .app appUpdate g g' ∧
    PendingSucceeds lib surr params .system systemUpdate g' g'') ∧
  RebootSucceeds surr params

section Pending

variable {lib} {surr : Surroundings Version} {params : UpdateParams} {c : Component}
  {update : ComponentUpdateStatus} {g g' : GPGVerifier Entity}

theorem PendingSucceeds.of_pending (h : update.pending = true)
    (files : FilesSucceed lib (surr.component c) update
      (shouldBypassSignatureCheck lib update.version update.customVersionUpdate
        params.includePreRelease) g g')
    (installed : Installed surr c) :
  PendingSucceeds lib surr params c update g g'
  := by
  rw [PendingSucceeds, if_pos h]
  exact ⟨files, installed⟩

/-- A component that is not pending is left alone. -/
theorem PendingSucceeds.of_not_pending (h : update.pending = false) :
  PendingSucceeds lib surr params c update g g
  := by
  rw [PendingSucceeds, h, if_neg Bool.false_ne_true]

end Pending

/-! ### The keyring -/

section Keyring

variable {lib} {surr : KeyserverSurroundings} {g g' : GPGVerifier Entity} {key : List UInt8}
  {keyring : List Entity}

theorem parseAndValidateKeyring_eq_ok :
  g.parseAndValidateKeyring lib key = .ok keyring ↔
    ∃ entities entity, lib.readArmoredKeyRing key = .ok entities ∧
      entities.find? (lib.hasFingerprint (normalizeFingerprint g.rootKeyFP)) = some entity ∧
      keyring = [entity]
  := by
  rw [GPGVerifier.parseAndValidateKeyring, bind_eq_ok]
  simp only [mapError_eq_ok]
  constructor
  · rintro ⟨entities, hread, hkeyring⟩
    obtain ⟨-, hkeyring⟩ := ite_throw_eq_ok.mp hkeyring
    split at hkeyring
    case h_1 entity hfind =>
      exact ⟨entities, entity, hread, hfind, (pure_eq_ok.mp hkeyring).symm⟩
    case h_2 => cases hkeyring
  · rintro ⟨entities, entity, hread, hfind, rfl⟩
    use entities, hread
    rw [ite_throw_eq_ok, hfind]
    refine ⟨?_, rfl⟩
    rintro rfl
    cases hfind

theorem fetchFromSingleKeyserver_eq_ok {url : String} :
  g.fetchFromSingleKeyserver lib surr url = .ok (key, keyring) ↔
    KeyServed lib g surr url key keyring
  := by
  rw [GPGVerifier.fetchFromSingleKeyserver]
  constructor
  · intro hfetch
    split at hfetch
    case h_1 => cases hfetch
    case h_2 => cases hfetch
    case h_3 answer hanswered =>
      obtain ⟨hstatus, hfetch⟩ := ite_throw_eq_ok.mp hfetch
      split at hfetch
      case h_1 => cases hfetch
      case h_2 hbody =>
        obtain ⟨parsed, hparse, hfetch⟩ := bind_eq_ok.mp hfetch
        obtain ⟨rfl, rfl⟩ := Prod.mk.inj (pure_eq_ok.mp hfetch)
        exact ⟨⟨answer, hanswered, not_not.mp hstatus, hbody, rfl⟩,
          parseAndValidateKeyring_eq_ok.mp hparse⟩
  · rintro ⟨⟨answer, hanswered, hstatus, hbody, rfl⟩, hmatching⟩
    simp only [hanswered, hbody, ite_throw_eq_ok, bind_eq_ok, pure_eq_ok]
    exact ⟨not_not.mpr hstatus, keyring, parseAndValidateKeyring_eq_ok.mpr hmatching, rfl⟩

/-- The servers are asked in turn until one of them serves the key. -/
theorem fetchFromKeyservers_eq_ok {servers : List (String → String)} {errors : List String} :
  g.fetchFromKeyservers lib surr servers errors = .ok (key, keyring) ↔
    KeyFetched lib g surr key keyring servers
  := by
  induction servers generalizing errors with
  | nil =>
      rw [GPGVerifier.fetchFromKeyservers, KeyFetched, iff_false]
      split <;> exact throw_ne_ok
  | cons server servers ih =>
      rw [GPGVerifier.fetchFromKeyservers, KeyFetched]
      cases surr.cancelled (server g.rootKeyFP) with
      | some message => exact iff_of_false throw_ne_ok (by simp)
      | none =>
          rw [and_iff_right rfl]
          cases hsingle : g.fetchFromSingleKeyserver lib surr (server g.rootKeyFP) with
          | ok fetched =>
              have hserved := fetchFromSingleKeyserver_eq_ok.mp hsingle
              rw [or_iff_left fun hnone => hnone.1 _ _ hserved,
                ← fetchFromSingleKeyserver_eq_ok, hsingle]
              exact Iff.rfl
          | error message =>
              have hnone : ∀ key keyring,
                  ¬ KeyServed lib g surr (server g.rootKeyFP) key keyring := by
                intro key keyring hserved
                rw [← fetchFromSingleKeyserver_eq_ok, hsingle] at hserved
                cases hserved
              rw [or_iff_right (hnone key keyring), and_iff_right hnone]
              exact ih

theorem getKeyring_eq_ok :
  g.getKeyring lib surr = .ok (g', keyring) ↔ KeyringObtained lib surr g g' keyring
  := by
  rw [GPGVerifier.getKeyring, GPGVerifier.FetchPublicKey, KeyringObtained]
  simp only [bind_eq_ok, mapError_eq_ok, ite_throw_eq_ok]
  cases g.cachedKey.filter fun _ => surr.now - g.cachedKeyTime < keyCacheTTL with
  | some cached =>
      cases hkeyring : g.keyring with
      | none => simp [pure_eq_ok, hkeyring, throw_ne_ok]
      | some kept => simp [pure_eq_ok, hkeyring, and_comm, eq_comm (a := g)]
  | none =>
      simp only [bind_eq_ok, pure_eq_ok]
      constructor
      · rintro ⟨_, ⟨hroot, fetched, hfetched, rfl⟩, h⟩
        obtain ⟨rfl, rfl⟩ := Prod.mk.inj (pure_eq_ok.mp h)
        exact ⟨hroot, fetched.1, fetchFromKeyservers_eq_ok.mp hfetched, rfl⟩
      · rintro ⟨hroot, key, hfetched, rfl⟩
        exact ⟨_, ⟨hroot, (key, keyring), fetchFromKeyservers_eq_ok.mpr hfetched, rfl⟩, rfl⟩

end Keyring

/-! ### The procedures -/

variable {lib} {surr : ComponentSurroundings} {c : Component} {d : Device Entity}
  {update : ComponentUpdateStatus} {bypass : Bool} {Value : Type}
  {Q : Unit → Device Entity → Prop}

theorem orUpdateError_returns {text : String} {p : Update Entity Value}
    {Q : Value → Device Entity → Prop} :
  (orUpdateError text p).Returns d Q ↔ p.Returns d Q
  := returns_tryCatch fun _ _ => not_false

theorem downloadComponentSignature_returns {Q : List UInt8 → Device Entity → Prop} :
  (downloadComponentSignature surr update bypass).Returns d Q ↔
    ∃ signature, SignatureObtained surr update.sigUrl bypass signature ∧ Q signature d
  := by
  rw [downloadComponentSignature]
  cases bypass with
  | true => simp [SignatureObtained]
  | false =>
      simp only [SignatureObtained, Bool.false_eq_true, if_false, ends_bind, returns_failWhen]
      rw [downloadSignature]
      cases surr.signature update.sigUrl with
      | notCreated message => simp
      | notSent message => simp
      | answered answer =>
          simp only [ends_bind, returns_failWhen, returns_failOn, ends_pure]
          constructor
          · rintro ⟨hurl, hstatus, hbody, hne, hQ⟩
            exact ⟨answer.body, ⟨hurl, hne, answer, rfl, not_not.mp hstatus, hbody, rfl⟩, hQ⟩
          · rintro ⟨_, ⟨hurl, hne, _, ⟨⟩, hstatus, hbody, rfl⟩, hQ⟩
            exact ⟨hurl, not_not.mpr hstatus, hbody, hne, hQ⟩

/-- The device with the files of a component. -/
def Device.withFiles (d : Device Entity) (c : Component) (files : UpdateFiles) : Device Entity :=
  { d with files := Function.update d.files c files }

/-- The device with the status of a component. -/
def Device.withStatus (d : Device Entity) (c : Component) (update : ComponentUpdateStatus) :
    Device Entity :=
  { d with
    state :=
      { d.state with
        componentUpdateStatuses := Function.update d.state.componentUpdateStatuses c update } }

@[simp]
theorem Device.withStatus_gpgVerifier :
  (d.withStatus c update).state.gpgVerifier = d.state.gpgVerifier
  := rfl

@[simp]
theorem Device.withStatus_rebootNeeded :
  (d.withStatus c update).state.rebootNeeded = d.state.rebootNeeded
  := rfl

theorem downloadFile_returns {url : String} :
  (downloadFile surr c url).Returns d Q ↔
    ∃ contents, FileDownloaded surr url contents ∧
      Q () (d.withFiles c { verified := none, unverified := some contents })
  := by
  simp only [downloadFile, ends_bind, returns_failOn, modifyFiles, ends_modify, writeUnverified,
    Function.update_self, Function.update_idem]
  constructor
  · rintro ⟨hremove, hunverified, hcreate, h⟩
    cases hdownload : surr.download url with
    | notCreated message => simp [hdownload] at h
    | notSent message => simp [hdownload] at h
    | answered answer =>
        simp only [hdownload, ends_bind, returns_failWhen] at h
        obtain ⟨hstatus, hlength, h⟩ := h
        cases hwrite : surr.writeFile with
        | some failure => simp [hwrite] at h
        | none =>
            simp only [hwrite, syncFilesystem, ends_bind, ends_modify, returns_failOn,
              returns_describe, Function.update_self, Function.update_idem] at h
            obtain ⟨hbody, hsync, hcaches, h⟩ := h
            refine ⟨answer.body, ⟨hremove, hunverified, hcreate, ?_, hwrite, hsync, hcaches⟩, h⟩
            exact ⟨answer, hdownload, not_not.mp hstatus, not_le.mp hlength, hbody, rfl⟩
  · rintro ⟨_, ⟨hremove, hunverified, hcreate, ⟨answer, hdownload, hstatus, hlength, hbody, rfl⟩,
      hwrite, hsync, hcaches⟩, h⟩
    use hremove, hunverified, hcreate
    simp only [hdownload, hwrite, syncFilesystem, ends_bind, ends_modify, returns_failWhen,
      returns_failOn, returns_describe, Function.update_self, Function.update_idem]
    exact ⟨not_not.mpr hstatus, not_le.mpr hlength, hbody, hsync, hcaches, h⟩

/-- A file that is there is opened when opening it does not fail. -/
theorem openUnverified_returns {text : String} {failure : Option String} {contents : List UInt8}
    {Q : List UInt8 → Device Entity → Prop} (h : (d.files c).unverified = some contents) :
  (openUnverified c text failure).Returns d Q ↔ failure = none ∧ Q contents d
  := by
  simp only [openUnverified, ends_bind, returns_failOn, ends_get, h, ends_pure]

/-- The device after a signature over some contents has been accepted. -/
def Device.withAccepted (d : Device Entity) (g : GPGVerifier Entity) (keyring : List Entity)
    (signature contents : List UInt8) : Device Entity :=
  { d with
    state := { d.state with gpgVerifier := g }
    log := d.log ++ [.accept keyring signature contents] }

theorem VerifySignatureFromFile_returns {signature contents : List UInt8}
    (h : (d.files c).unverified = some contents) :
  (VerifySignatureFromFile lib surr c signature).Returns d Q ↔
    ∃ g keyring, SignatureVerified lib surr contents signature d.state.gpgVerifier g keyring ∧
      Q () (d.withAccepted g keyring signature contents)
  := by
  simp only [VerifySignatureFromFile, ends_bind, ends_get, returns_ofExcept, modifyState,
    ends_modify]
  have hopen : ∀ g {text failure} {Q : List UInt8 → Device Entity → Prop},
      (openUnverified c text failure).Returns
          { d with state := { d.state with gpgVerifier := g } } Q ↔
        failure = none ∧ Q contents { d with state := { d.state with gpgVerifier := g } } :=
    fun _ => openUnverified_returns h
  simp only [hopen, returns_failOn, emit, ends_modify]
  constructor
  · rintro ⟨⟨g, keyring⟩, hget, hverify, haccepted, hQ⟩
    exact ⟨g, keyring, ⟨getKeyring_eq_ok.mp hget, hverify, haccepted⟩, hQ⟩
  · rintro ⟨g, keyring, ⟨hobtained, hverify, haccepted⟩, hQ⟩
    exact ⟨⟨g, keyring⟩, getKeyring_eq_ok.mpr hobtained, hverify, haccepted, hQ⟩

/-- The device after the unverified file has been renamed. -/
def Device.withRenamed (d : Device Entity) (c : Component) (contents : List UInt8) :
    Device Entity :=
  { d.withFiles c { verified := some contents, unverified := none } with
    log := d.log ++ [.rename c contents] }

theorem renameUnverified_returns {contents : List UInt8}
    (h : (d.files c).unverified = some contents) :
  (renameUnverified surr c).Returns d Q ↔
    surr.renameFile = none ∧ Q () (d.withRenamed c contents)
  := by
  simp only [renameUnverified, modifyFiles, emit, ends_bind, ends_modify,
    openUnverified_returns h]
  exact Iff.rfl

/-- The verification of a file that has been downloaded. -/
theorem verifyFile_returns {expectedHash : String} {signature contents : List UInt8}
    {S : GPGVerifier Entity → Bool → Prop} (h : (d.files c).unverified = some contents) :
  (verifyFile lib surr c expectedHash signature).Returns d
      (fun _ t => S t.state.gpgVerifier t.state.rebootNeeded) ↔
    ∃ g, FileVerified lib surr expectedHash contents signature d.state.gpgVerifier g ∧
      S g d.state.rebootNeeded
  := by
  have hrename : ∀ g keyring {Q : Unit → Device Entity → Prop},
      (renameUnverified surr c).Returns (d.withAccepted g keyring signature contents) Q ↔
        surr.renameFile = none ∧
          Q () ((d.withAccepted g keyring signature contents).withRenamed c contents) :=
    fun _ _ => renameUnverified_returns h
  simp only [verifyFile, ends_bind, openUnverified_returns h, returns_failOn, returns_failWhen,
    returns_runWhen, returns_describe, VerifySignatureFromFile_returns h,
    renameUnverified_returns h, hrename]
  constructor
  · rintro ⟨hopen, hstat, hread, hdigest, ⟨hne, g, keyring, hverified, hrenamed, hchmod, hS⟩ |
      ⟨hnil, hrenamed, hchmod, hS⟩⟩
    · refine ⟨g, ⟨hopen, hstat, hread, not_not.mp hdigest, ?_, hrenamed, hchmod⟩, hS⟩
      rw [if_neg hne]
      exact ⟨keyring, hverified⟩
    · refine ⟨d.state.gpgVerifier,
        ⟨hopen, hstat, hread, not_not.mp hdigest, ?_, hrenamed, hchmod⟩, hS⟩
      rw [if_pos (not_not.mp hnil)]
  · rintro ⟨g, ⟨hopen, hstat, hread, hdigest, hsignature, hrenamed, hchmod⟩, hS⟩
    use hopen, hstat, hread, not_not.mpr hdigest
    split at hsignature
    · rename_i hnil
      obtain rfl := hsignature
      exact Or.inr ⟨not_not.mpr hnil, hrenamed, hchmod, hS⟩
    · rename_i hne
      obtain ⟨keyring, hverified⟩ := hsignature
      exact Or.inl ⟨hne, g, keyring, hverified, hrenamed, hchmod, hS⟩

/-- A stored status is kept by the device, the rest of which is as before. -/
theorem triggerComponentUpdateState_returns :
  (triggerComponentUpdateState c update).Returns d Q ↔ Q () (d.withStatus c update)
  := Iff.rfl

/-- The file that has been downloaded is verified. -/
theorem verifyDownloaded_returns {expectedHash : String} {signature contents : List UInt8}
    {S : GPGVerifier Entity → Bool → Prop} :
  (verifyFile lib surr c expectedHash signature).Returns
      ((d.withFiles c { verified := none, unverified := some contents }).withStatus c update)
      (fun _ t => S t.state.gpgVerifier t.state.rebootNeeded) ↔
    ∃ g, FileVerified lib surr expectedHash contents signature d.state.gpgVerifier g ∧
      S g d.state.rebootNeeded
  := by
  apply verifyFile_returns
  simp only [Device.withStatus, Device.withFiles, Function.update_self]

/-- The download and the verification of a component. -/
theorem downloadAndVerify_returns {surr : Surroundings Version}
    {S : GPGVerifier Entity → Bool → Prop} :
  (downloadAndVerify lib surr c update bypass).Returns d
      (fun _ t => S t.state.gpgVerifier t.state.rebootNeeded) ↔
    ∃ g, FilesSucceed lib (surr.component c) update bypass d.state.gpgVerifier g ∧
      S g d.state.rebootNeeded
  := by
  simp only [downloadAndVerify, ends_bind, orUpdateError_returns,
    downloadComponentSignature_returns, downloadFile_returns, triggerComponentUpdateState_returns,
    Device.withStatus_gpgVerifier,
    Device.withStatus_rebootNeeded, verifyDownloaded_returns]
  constructor
  · rintro ⟨signature, hsignature, contents, hdownloaded, g, hverified, hS⟩
    exact ⟨g, ⟨signature, contents, hsignature, hdownloaded, hverified⟩, hS⟩
  · rintro ⟨g, ⟨signature, contents, hsignature, hdownloaded, hverified⟩, hS⟩
    exact ⟨signature, hsignature, contents, hdownloaded, g, hverified, hS⟩

/-- The update of a component, after which a reboot is needed. -/
theorem updateComponent_returns {surr : Surroundings Version}
    {S : GPGVerifier Entity → Bool → Prop} :
  (updateComponent lib surr c update bypass).Returns d
      (fun _ t => S t.state.gpgVerifier t.state.rebootNeeded) ↔
    ∃ g, (FilesSucceed lib (surr.component c) update bypass d.state.gpgVerifier g ∧
      Installed surr c) ∧ S g true
  := by
  cases c with
  | app =>
      simp only [updateComponent, updateApp, emit, needReboot, modifyState, ends_bind, ends_modify,
        Installed, and_true]
      exact downloadAndVerify_returns (S := fun g _ => S g true)
  | system =>
      simp only [updateComponent, updateSystem, emit, needReboot, modifyState, ends_bind,
        ends_modify, orUpdateError_returns, returns_failOn, triggerComponentUpdateState_returns,
        Device.withStatus_gpgVerifier,
    Device.withStatus_rebootNeeded, Installed]
      refine downloadAndVerify_returns
        (S := fun g _ => surr.startRkOta = none ∧ surr.waitRkOta = none ∧ S g true) |>.trans ?_
      simp only [and_assoc]

/-- The update of a component if it is pending. -/
theorem updatePending_returns {surr : Surroundings Version} {params : UpdateParams}
    {S : GPGVerifier Entity → Bool → Prop} :
  (updatePending lib surr params c update).Returns d
      (fun _ t => S t.state.gpgVerifier t.state.rebootNeeded) ↔
    ∃ g, PendingSucceeds lib surr params c update d.state.gpgVerifier g ∧
      S g (update.pending || d.state.rebootNeeded)
  := by
  simp only [updatePending, returns_runWhen, orUpdateError_returns, updateComponent_returns,
    PendingSucceeds]
  cases update.pending <;> simp

/-- The reboot, if it is needed. -/
theorem rebootWhenNeeded_returns {surr : Surroundings Version} {params : UpdateParams}
    {customVersionUpdate : Bool} :
  (rebootWhenNeeded surr params customVersionUpdate : Update Entity Unit).Returns d
      (fun _ _ => True) ↔
    (d.state.rebootNeeded = true → RebootSucceeds surr params)
  := by
  have hreboot : RebootSucceeds surr params ↔
      (params.resetConfig = true → surr.resetConfig = none) ∧ surr.reboot = none :=
    ⟨fun ⟨hreset, hreboot⟩ => ⟨hreset, hreboot⟩, fun ⟨hreset, hreboot⟩ => ⟨hreset, hreboot⟩⟩
  simp only [rebootWhenNeeded, emit, ends_bind, ends_get, ends_modify, returns_runWhen,
    orUpdateError_returns, returns_failOn, hreboot]
  cases d.state.rebootNeeded <;> cases customVersionUpdate <;> cases params.resetConfig <;> simp

/-- What is pending is updated and the device is rebooted exactly when every step succeeds. -/
theorem updateAllPending_returns {surr : Surroundings Version} {params : UpdateParams}
    {appUpdate systemUpdate : ComponentUpdateStatus}
    (hpending : appUpdate.pending = true ∨ systemUpdate.pending = true) :
  (updateAllPending lib surr params appUpdate systemUpdate).Returns d (fun _ _ => True) ↔
    StepsSucceed lib surr params appUpdate systemUpdate d.state.gpgVerifier
  := by
  have hsystem : ∀ t : Device Entity,
      (updatePending lib surr params .system systemUpdate).Returns t
          (fun _ u => u.state.rebootNeeded = true → RebootSucceeds surr params) ↔
        ∃ g, PendingSucceeds lib surr params .system systemUpdate t.state.gpgVerifier g ∧
          ((systemUpdate.pending || t.state.rebootNeeded) = true → RebootSucceeds surr params) :=
    fun _ => updatePending_returns
      (S := fun _ needed => needed = true → RebootSucceeds surr params)
  simp only [updateAllPending, ends_bind, rebootWhenNeeded_returns, hsystem]
  refine (updatePending_returns (S := fun g needed =>
    ∃ g', PendingSucceeds lib surr params .system systemUpdate g g' ∧
      ((systemUpdate.pending || needed) = true → RebootSucceeds surr params))).trans ?_
  have hneeded : (systemUpdate.pending || (appUpdate.pending || d.state.rebootNeeded)) = true := by
    obtain happ | hsystem := hpending
    · rw [happ, Bool.true_or, Bool.or_true]
    · rw [hsystem, Bool.true_or]
  constructor
  · rintro ⟨g, happ, g', hsystem, hreboot⟩
    exact ⟨⟨g, g', happ, hsystem⟩, hreboot hneeded⟩
  · rintro ⟨⟨g, g', happ, hsystem⟩, hreboot⟩
    exact ⟨g, happ, g', hsystem, fun _ => hreboot⟩

end JetKvm.Ota
