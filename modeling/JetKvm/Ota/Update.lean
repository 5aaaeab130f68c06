import JetKvm.Ota.Verify

/-!
# Updates

An update checks what the server offers, marks the components to be updated as pending,
and downloads, verifies and installs each pending component. The statuses of the
components are stored in between, so that a status is found by the next update as this one
has left it.
-/

namespace JetKvm.Ota

open Procedure

variable {Version Entity : Type} (lib : Libraries Version Entity) (surr : Surroundings Version)
  (params : UpdateParams)

/-! ### Checking for updates -/

/-- Why the metadata of an update could not be fetched. -/
inductive FetchError where
  /-- `ErrVersionNotFound`. -/
  | versionNotFound
  | other (message : String)

/-- The message of an error that ends the check. -/
def FetchError.message : FetchError → String
  | versionNotFound => "specified version not found"
  | other message => "error checking for updates: " ++ message

/-- The query of the update URL. -/
def updateQuery : List (String × String) :=
  [("deviceId", params.deviceID), ("prerelease", toString params.includePreRelease)]
    ++ (if params.sku = "" then [] else [("sku", params.sku)])
    ++ (params.components.filter fun component => component.2 ≠ "").map
      fun component => (component.1 ++ "Version", component.2)

/-- The metadata the server answers with. -/
def fetchUpdateMetadata : Except FetchError UpdateMetadata :=
  match surr.parseEndpoint with
  | some message =>
      throw (.other ("error getting update URL: error parsing update metadata URL: " ++ message))
  | none =>
      match surr.metadata (updateQuery params) with
      | .notCreated message => throw (.other ("error creating request: " ++ message))
      | .notSent message => throw (.other ("error sending request: " ++ message))
      | .answered answer =>
          if params.isCustomVersion && answer.statusCode == 404 then
            throw .versionNotFound
          else if answer.statusCode ≠ 200 then
            throw (.other ("unexpected status code: " ++ toString answer.statusCode))
          else
            answer.metadata.mapError fun e => .other ("error decoding response: " ++ e)

def ComponentUpdateStatus.withLocalVersion (status : ComponentUpdateStatus)
    (localVersion : String) : ComponentUpdateStatus :=
  { status with localVersion := localVersion }

/-- The status with what the server offers for the component. -/
def ComponentUpdateStatus.offered (status : ComponentUpdateStatus) (m : ComponentMetadata) :
    ComponentUpdateStatus :=
  { status with version := m.version, url := m.url, hash := m.hash, sigUrl := m.sigUrl }

/-- Whether the offered version, newer than the local one or not, is an update. A version
that was asked for is one when it differs from the local version. -/
def ComponentUpdateStatus.judged (status : ComponentUpdateStatus) (constraint : Option String)
    (newer : Bool) (reason : String) : ComponentUpdateStatus :=
  match constraint with
  | none =>
      { status with
        available := false
        availableReason := "component not specified in update parameters" }
  | some constraint =>
      if constraint ≠ "" then
        if status.version ≠ status.localVersion then
          { status with
            available := true
            availableReason := "custom version " ++ constraint
              ++ " is not equal to local version " ++ status.localVersion
            customVersionUpdate := true }
        else
          { status with available := false, availableReason := reason }
      else
        { status with available := newer, availableReason := reason }

/-- The reason given for an offered version that is judged by its number. -/
def versionReason (remoteVersion localVersion : Version) : String :=
  let reason := "remote version " ++ lib.versionString remoteVersion
    ++ " is greater than local version " ++ lib.versionString localVersion
  if lib.prerelease remoteVersion ≠ "" && params.includePreRelease
      && lib.greaterThan remoteVersion localVersion then
    reason ++ " (pre-release)"
  else
    reason

/-- The status of a component in the light of the metadata. -/
def remoteMetadataToComponentStatus (remoteMetadata : UpdateMetadata) (c : Component)
    (componentStatus : ComponentUpdateStatus) : Except String ComponentUpdateStatus := do
  let status := componentStatus.offered (remoteMetadata.component c)
  let localVersion ← (lib.newVersion status.localVersion).mapError
    fun e => "error parsing local version: " ++ e
  let remoteVersion ← (lib.newVersion status.version).mapError
    fun e => "error parsing remote version: " ++ e
  return status.judged (params.constraint c) (lib.greaterThan remoteVersion localVersion)
    (versionReason lib params remoteVersion localVersion)

/-- The local version of a component. -/
def localVersionOf (versions : Version × Version) : Component → String
  | .app => lib.versionString versions.2
  | .system => lib.versionString versions.1

/-- The statuses after a check. -/
def checkUpdateStatus (statuses : Component → ComponentUpdateStatus) :
    Except String (Component → ComponentUpdateStatus) := do
  let versions ← surr.getLocalVersion.mapError fun e => "error getting local version: " ++ e
  let remoteMetadata ← (fetchUpdateMetadata surr params).mapError FetchError.message
  let checked := fun c => (remoteMetadataToComponentStatus lib params remoteMetadata c
    ((statuses c).withLocalVersion (localVersionOf lib versions c))).mapError
      fun e => "error parsing remote " ++ c.name ++ " version: " ++ e
  let appUpdate ← checked .app
  let systemUpdate ← checked .system
  return fun
    | .app => appUpdate
    | .system => systemUpdate

/-- Checks for updates and stores the statuses. -/
def getUpdateStatus : Update Entity (Component → ComponentUpdateStatus) := do
  let d ← get
  let updates ← MonadExcept.ofExcept
    (checkUpdateStatus lib surr params d.state.componentUpdateStatuses)
  modifyState fun s => { s with componentUpdateStatuses := updates }
  return updates

/-- Whether a check that knows nothing of earlier ones finds an update of the component, as
`GetUpdateStatus` would report it. -/
def madeAvailable (c : Component) : Bool :=
  match checkUpdateStatus lib surr params fun _ => {} with
  | .ok updates => (updates c).available
  | .error _ => false

section Checks

variable {lib surr params} {status status' update : ComponentUpdateStatus}
  {statuses updates : Component → ComponentUpdateStatus} {c : Component} {newer : Bool}
  {reason : String} {metadata : UpdateMetadata}

/-- A check finds the statuses that the metadata gives the components. -/
theorem checkUpdateStatus_eq_ok :
  checkUpdateStatus lib surr params statuses = .ok updates ↔
    ∃ versions metadata, surr.getLocalVersion = .ok versions ∧
      fetchUpdateMetadata surr params = .ok metadata ∧
      ∀ c, remoteMetadataToComponentStatus lib params metadata c
        ((statuses c).withLocalVersion (localVersionOf lib versions c)) = .ok (updates c)
  := by
  constructor
  · intro h
    obtain ⟨versions, hversions, h⟩ := bind_eq_ok.mp h
    obtain ⟨metadata, hmetadata, h⟩ := bind_eq_ok.mp h
    obtain ⟨app, happ, h⟩ := bind_eq_ok.mp h
    obtain ⟨system, hsystem, h⟩ := bind_eq_ok.mp h
    obtain rfl := pure_eq_ok.mp h
    use versions, metadata, mapError_eq_ok.mp hversions, mapError_eq_ok.mp hmetadata
    intro c
    cases c with
    | app => apply mapError_eq_ok.mp happ
    | system => apply mapError_eq_ok.mp hsystem
  · rintro ⟨versions, metadata, hversions, hmetadata, hupdates⟩
    apply bind_eq_ok.mpr ⟨versions, mapError_eq_ok.mpr hversions, _⟩
    apply bind_eq_ok.mpr ⟨metadata, mapError_eq_ok.mpr hmetadata, _⟩
    apply bind_eq_ok.mpr ⟨updates .app, mapError_eq_ok.mpr (hupdates .app), _⟩
    apply bind_eq_ok.mpr ⟨updates .system, mapError_eq_ok.mpr (hupdates .system), _⟩
    apply pure_eq_ok.mpr
    funext c
    cases c <;> rfl

/-- The metadata of a component is judged in the same way whatever was known of it
before. -/
theorem remoteMetadataToComponentStatus_eq_ok
    (h : remoteMetadataToComponentStatus lib params metadata c status = .ok update) :
  ∃ newer reason, ∀ status', status'.localVersion = status.localVersion →
    remoteMetadataToComponentStatus lib params metadata c status' =
      .ok ((status'.offered (metadata.component c)).judged (params.constraint c) newer reason)
  := by
  obtain ⟨localVersion, hlocal, h⟩ := bind_eq_ok.mp h
  obtain ⟨remoteVersion, hremote, -⟩ := bind_eq_ok.mp h
  use lib.greaterThan remoteVersion localVersion,
    versionReason lib params remoteVersion localVersion
  intro status' hstatus'
  have hlocal' : lib.newVersion status'.localVersion = .ok localVersion := by
    rw [hstatus']
    apply mapError_eq_ok.mp hlocal
  have hremote' : lib.newVersion (metadata.component c).version = .ok remoteVersion :=
    mapError_eq_ok.mp hremote
  simp only [remoteMetadataToComponentStatus, ComponentUpdateStatus.offered, hlocal', hremote',
    Except.mapError]
  rfl

/-- Judging a status keeps the offered file and whether it was pending. -/
theorem judged_eq {constraint : Option String} :
  (status.judged constraint newer reason).pending = status.pending ∧
    (status.judged constraint newer reason).hash = status.hash
  := by
  cases constraint with
  | none => exact ⟨rfl, rfl⟩
  | some constraint =>
      rw [ComponentUpdateStatus.judged]
      split
      · split <;> exact ⟨rfl, rfl⟩
      · exact ⟨rfl, rfl⟩

/-- A status is marked as a custom version only when a version is asked for. -/
theorem judged_customVersionUpdate {constraint : Option String} (h : constraint.getD "" = "") :
  (status.judged constraint newer reason).customVersionUpdate = status.customVersionUpdate
  := by
  cases constraint with
  | none => rfl
  | some constraint =>
      rw [Option.getD_some] at h
      rw [ComponentUpdateStatus.judged, if_neg (not_not.mpr h)]

/-- Whether an offered version is an update depends on the versions only. -/
theorem judged_available {constraint : Option String} {m : ComponentMetadata}
    (h : status'.localVersion = status.localVersion) :
  ((status'.offered m).judged constraint newer reason).available =
    ((status.offered m).judged constraint newer reason).available
  := by
  simp only [ComponentUpdateStatus.judged, ComponentUpdateStatus.offered, h]
  cases constraint with
  | none => rfl
  | some constraint =>
      by_cases hconstraint : constraint = ""
      · simp [hconstraint]
      · by_cases hversion : m.version = status.localVersion <;> simp [hconstraint, hversion]

/-- The statuses of a check: the hashes are those of the metadata, and components for which no
version is asked for are marked as custom versions if they were before. -/
theorem checkUpdateStatus_updates
    (h : checkUpdateStatus lib surr params statuses = .ok updates) :
  ∃ metadata, fetchUpdateMetadata surr params = .ok metadata ∧ ∀ c,
    (updates c).hash = (metadata.component c).hash ∧
      (updates c).pending = (statuses c).pending ∧
      ((params.constraint c).getD "" = "" →
        (updates c).customVersionUpdate = (statuses c).customVersionUpdate) ∧
      (updates c).available = madeAvailable lib surr params c
  := by
  obtain ⟨versions, metadata, hversions, hmetadata, hupdates⟩ := checkUpdateStatus_eq_ok.mp h
  choose newer reason hjudged using fun c => remoteMetadataToComponentStatus_eq_ok (hupdates c)
  have hblank : checkUpdateStatus lib surr params (fun _ => {}) = .ok fun c =>
      (((ComponentUpdateStatus.withLocalVersion {} (localVersionOf lib versions c)).offered
        (metadata.component c)).judged (params.constraint c) (newer c) (reason c)) := by
    apply checkUpdateStatus_eq_ok.mpr
    use versions, metadata, hversions, hmetadata
    intro c
    exact hjudged c _ rfl
  use metadata, hmetadata
  intro c
  obtain hupdate := Except.ok.inj ((hupdates c).symm.trans (hjudged c _ rfl))
  rw [hupdate, madeAvailable, hblank]
  use judged_eq.2, judged_eq.1
  constructor
  · apply judged_customVersionUpdate
  · exact judged_available rfl

end Checks

/-! ### Installing -/

/-- The part that `updateApp` and `updateSystem` have in common. -/
def downloadAndVerify (c : Component) (update : ComponentUpdateStatus)
    (bypassSignatureCheck : Bool) : Update Entity Unit := do
  let signature ← orUpdateError ("Error with " ++ c.name ++ " signature")
    (downloadComponentSignature (surr.component c) update bypassSignatureCheck)
  orUpdateError ("Error downloading " ++ c.name ++ " update")
    (downloadFile (surr.component c) c update.url)
  triggerComponentUpdateState c update
  orUpdateError ("Error verifying " ++ c.name ++ " update")
    (verifyFile lib (surr.component c) c update.hash signature)
  triggerComponentUpdateState c update

def needReboot : Update Entity Unit :=
  modifyState fun s => { s with rebootNeeded := true }

def updateApp (appUpdate : ComponentUpdateStatus) (bypassSignatureCheck : Bool) :
    Update Entity Unit := do
  emit (.update .app)
  downloadAndVerify lib surr .app appUpdate bypassSignatureCheck
  needReboot

def updateSystem (systemUpdate : ComponentUpdateStatus) (bypassSignatureCheck : Bool) :
    Update Entity Unit := do
  emit (.update .system)
  downloadAndVerify lib surr .system systemUpdate bypassSignatureCheck
  orUpdateError "Error starting rk_ota command" (failOn "" surr.startRkOta)
  orUpdateError "Error executing rk_ota command" (failOn "" surr.waitRkOta)
  needReboot
  triggerComponentUpdateState .system systemUpdate

/-- `updateApp` or `updateSystem`. -/
def updateComponent : Component → ComponentUpdateStatus → Bool → Update Entity Unit
  | .app => updateApp lib surr
  | .system => updateSystem lib surr

/-! ### The update -/

/-- The status, pending when the component is asked for and available. -/
def marked (c : Component) (update : ComponentUpdateStatus) : ComponentUpdateStatus :=
  if params.asksFor c && update.available then { update with pending := true } else update

/-- Stores the status as pending when the component is asked for and available. -/
def markPending (c : Component) (update : ComponentUpdateStatus) :
    Update Entity ComponentUpdateStatus := do
  runWhen ((params.asksFor c && update.available) = true) do
    setUpdating true
    triggerComponentUpdateState c (marked params c update)
  return marked params c update

/-- Updates the component when it is pending. -/
def updatePending (c : Component) (update : ComponentUpdateStatus) : Update Entity Unit :=
  runWhen (update.pending = true) (orUpdateError ("Error updating " ++ c.name)
    (updateComponent lib surr c update
      (shouldBypassSignatureCheck lib update.version update.customVersionUpdate
        params.includePreRelease)))

/-- Reboots when a component has been updated. -/
def rebootWhenNeeded (customVersionUpdate : Bool) : Update Entity Unit := do
  let d ← get
  runWhen (d.state.rebootNeeded = true) do
    runWhen (customVersionUpdate = true) (emit .disableAutoUpdate)
    runWhen (params.resetConfig = true) do
      emit .resetConfig
      orUpdateError "Error resetting config" (failOn "" surr.resetConfig)
    emit (.reboot (if params.resetConfig then "/welcome" else "/settings/general/update"))
    orUpdateError "Error requesting reboot" (failOn "" surr.reboot)

/-- Updates the pending components, of which there is one at least. -/
def updateAllPending (appUpdate systemUpdate : ComponentUpdateStatus) : Update Entity Unit := do
  updatePending lib surr params .app appUpdate
  updatePending lib surr params .system systemUpdate
  rebootWhenNeeded surr params
    (appUpdate.customVersionUpdate || systemUpdate.customVersionUpdate)

/-- The update, its map of components being not empty. -/
def doUpdateComponents : Update Entity Unit := do
  runWhen (params.asksFor .app = false ∧ params.asksFor .system = false)
    (componentUpdateError
      "Update aborted: no components were specified to update. Requested components: "
      params.formatComponents)
  let updates ← orUpdateError "Error checking for updates" (getUpdateStatus lib surr params)
  let appUpdate ← markPending params .app (updates .app)
  let systemUpdate ← markPending params .system (updates .system)
  if !appUpdate.pending && !systemUpdate.pending then
    setUpdating false
  else
    updateAllPending lib surr params appUpdate systemUpdate

def doUpdate : Update Entity Unit := do
  let d ← get
  failWhen (d.state.updating = true) "update already in progress"
  setUpdating true
  doUpdateComponents lib surr params.withDefault

/-- Tries to update. The lock is taken while another update runs. -/
def TryUpdate (locked : Bool) : Update Entity Unit := do
  failWhen (locked = true) "update already in progress"
  doUpdate lib surr params

/-! ### What an update logs -/

/-- The update is not refused, asks for a component, and its check finds the statuses. -/
structure Proceeds (s : State Entity) (updates : Component → ComponentUpdateStatus) : Prop where
  idle : s.updating = false
  asks : params.asksFor .app = true ∨ params.asksFor .system = true
  checked : checkUpdateStatus lib surr params s.componentUpdateStatuses = .ok updates

/-- The update proceeds with this status of the component, which was pending before or is
asked for and available. -/
structure IsUpdated (s : State Entity) (c : Component) (update : ComponentUpdateStatus) :
    Prop where
  proceeds : ∃ updates, Proceeds lib surr params s updates ∧ update = updates c
  pending : update.pending = true ∨ params.asksFor c = true ∧ update.available = true

/-- The events the update of a component may log, if it is updated at all. -/
def ComponentLog (s : State Entity) (c : Component) (events : List (Event Entity)) : Prop :=
  events = [] ∨ ∃ update verification signature,
    IsUpdated lib surr params s c update ∧
      events = .update c :: verification ∧
      VerifyLog lib c update.hash signature verification ∧
      (signature = [] → shouldBypassSignatureCheck lib update.version
        update.customVersionUpdate params.includePreRelease = true)

/-- The component an event is about. -/
def Event.component : Event Entity → Option Component
  | .update c => some c
  | .rename c _ => some c
  | _ => none

/-- The events an update may log: those of the application, those of the system, and those
of the reboot. -/
def UpdateLog (s : State Entity) (events : List (Event Entity)) : Prop :=
  ∃ front back, events = front ++ back ∧ ComponentLog lib surr params s .app front ∧
    ∃ mid rest, back = mid ++ rest ∧ ComponentLog lib surr params s .system mid ∧
      ∀ e ∈ rest, e.component = none

section Logs

variable {lib surr params} {d t : Device Entity} {c : Component}
  {update : ComponentUpdateStatus} {Value : Type} {P : List (Event Entity) → Prop}
  {p : Update Entity Value} {text : String}

/-- Recording the error logs nothing. -/
theorem orUpdateError_ends {Q : Value → Device Entity → Prop}
    (h : p.Ends d Q fun _ => Logged lib t P) :
  (orUpdateError text p).Ends d Q fun _ => Logged lib t P
  := by
  rw [orUpdateError, ends_tryCatch]
  apply h.mono fun _ _ h => h
  intro message u hu
  rw [componentUpdateError, ends_bind]
  apply hu.of_eq rfl rfl

theorem downloadAndVerify_leaves {bypass : Bool} (pinned : d.state.gpgVerifier.Pinned lib) :
  (downloadAndVerify lib surr c update bypass).Leaves d
    (Logged lib d fun events => ∃ signature, VerifyLog lib c update.hash signature events ∧
      (signature = [] → bypass = true))
  := by
  -- A verification that is not reached logs nothing, whatever the signature.
  have unlogged : Logged lib d (fun events => ∃ signature,
      VerifyLog lib c update.hash signature events ∧ (signature = [] → bypass = true)) d :=
    ⟨[], (List.append_nil _).symm, ⟨[0], .failed, nofun⟩, pinned⟩
  rw [downloadAndVerify, Leaves, ends_bind]
  apply orUpdateError_ends
  apply downloadComponentSignature_ends _ fun _ => unlogged
  intro signature hsignature
  rw [ends_bind]
  apply orUpdateError_ends
  apply Ends.mono downloadFile_leaves
  · rintro _ t ⟨hstate, hlog⟩
    rw [ends_bind, triggerComponentUpdateState, modifyState, ends_modify, ends_bind]
    apply orUpdateError_ends
    have hverify : ∀ t u : Device Entity, t.log = d.log →
        Logged lib t (VerifyLog lib c update.hash signature) u →
        Logged lib d (fun events => ∃ signature,
          VerifyLog lib c update.hash signature events ∧ (signature = [] → bypass = true)) u := by
      rintro t u hlog ⟨events, hevents, hP, pinned⟩
      rw [hlog] at hevents
      exact ⟨events, hevents, ⟨signature, hP, hsignature⟩, pinned⟩
    apply Ends.mono (verifyFile_leaves _)
    · intro _ u hu
      apply Logged.of_eq _ rfl rfl
      apply hverify _ _ hlog hu
    · intro _ u hu
      apply hverify _ _ hlog hu
    · rw [hstate]
      apply pinned
  · rintro _ t ⟨hstate, hlog⟩
    apply unlogged.of_eq hlog
    rw [hstate]

/-- The events of the update of a component. -/
theorem updateComponent_leaves {bypass : Bool} (pinned : d.state.gpgVerifier.Pinned lib) :
  (updateComponent lib surr c update bypass).Leaves d
    (Logged lib d fun events => ∃ verification signature, events = .update c :: verification ∧
      VerifyLog lib c update.hash signature verification ∧ (signature = [] → bypass = true))
  := by
  have verified : ∀ e : Event Entity, e = .update c →
      (downloadAndVerify lib surr c update bypass).Leaves { d with log := d.log ++ [e] }
        (Logged lib d fun events => ∃ verification signature, events = .update c :: verification ∧
          VerifyLog lib c update.hash signature verification ∧
          (signature = [] → bypass = true)) := by
    rintro _ rfl
    apply (downloadAndVerify_leaves (d := { d with log := d.log ++ [.update c] }) pinned).mono
    rintro t ⟨events, hlog, ⟨signature, hverify, hsignature⟩, hpinned⟩
    use .update c :: events
    rw [hlog, List.append_assoc]
    exact ⟨rfl, ⟨events, signature, rfl, hverify, hsignature⟩, hpinned⟩
  cases c with
  | app =>
      rw [updateComponent, updateApp, Leaves, ends_bind, emit, ends_modify, ends_bind]
      apply Ends.mono (verified _ rfl) _ fun _ _ h => h
      intro _ t ht
      apply ht.of_eq rfl rfl
  | system =>
      rw [updateComponent, updateSystem, Leaves, ends_bind, emit, ends_modify, ends_bind]
      apply Ends.mono (verified _ rfl) _ fun _ _ h => h
      intro _ t ht
      rw [ends_bind]
      apply orUpdateError_ends
      apply failOn_ends _ fun _ => ht
      rw [ends_bind]
      apply orUpdateError_ends
      apply failOn_ends _ fun _ => ht
      apply ht.of_eq rfl rfl

/-- Marking a component changes whether it is pending, and nothing else about it. -/
theorem marked_eq :
  marked params c update = { update with
    pending := update.pending || params.asksFor c && update.available }
  := by
  rw [marked]
  split
  · rename_i h
    rw [h, Bool.or_true]
  · rename_i h
    rw [eq_false_of_ne_true h, Bool.or_false]

theorem markPending_ends {Q : ComponentUpdateStatus → Device Entity → Prop}
    {R : String → Device Entity → Prop}
    (value : ∀ t, t.log = d.log → t.state.gpgVerifier = d.state.gpgVerifier →
      Q (marked params c update) t) :
  (markPending params c update).Ends d Q R
  := by
  rw [markPending, ends_bind, ends_runWhen]
  constructor
  · intro _
    rw [ends_bind, setUpdating, triggerComponentUpdateState, modifyState, modifyState, ends_modify,
      ends_modify, ends_pure]
    apply value
    · rfl
    · rfl
  · intro _
    apply value _ rfl rfl

/-- The events of a component that is updated when it is pending. -/
theorem updatePending_leaves
    (proceeds : ∃ updates, Proceeds lib surr params d.state updates ∧ update = updates c)
    (pinned : t.state.gpgVerifier.Pinned lib) :
  (updatePending lib surr params c (marked params c update)).Leaves t
    (Logged lib t (ComponentLog lib surr params d.state c))
  := by
  rw [updatePending, Leaves, ends_runWhen, marked_eq]
  dsimp only
  constructor
  · intro hpending
    have updated : IsUpdated lib surr params d.state c update := by
      use proceeds
      simpa using hpending
    apply orUpdateError_ends
    apply (updateComponent_leaves pinned).mono
    intro u hu
    apply hu.mono
    rintro events ⟨verification, signature, hevents, hverify, hsignature⟩
    exact Or.inr ⟨update, verification, signature, updated, hevents, hverify, hsignature⟩
  · intro _
    exact ⟨[], (List.append_nil _).symm, Or.inl rfl, pinned⟩

/-- Nothing about a component has been logged. -/
abbrev Silent (lib : Libraries Version Entity) (d t : Device Entity) : Prop :=
  Logged lib d (fun events => ∀ e ∈ events, e.component = none) t

theorem Silent.refl (pinned : d.state.gpgVerifier.Pinned lib) : Silent lib d d
  := ⟨[], (List.append_nil _).symm, nofun, pinned⟩

theorem Silent.emit {e : Event Entity} (he : e.component = none) :
  (emit e).Keeps (Silent lib d)
  := by
  apply keeps_modify
  rintro t ⟨events, hlog, hevents, pinned⟩
  use events ++ [e]
  rw [hlog, List.append_assoc]
  use rfl
  constructor
  · rintro e' he'
    rcases List.mem_append.mp he' with he' | he'
    · apply hevents e' he'
    · rw [List.mem_singleton.mp he']
      apply he
  · apply pinned

theorem Silent.orUpdateError_failOn {failure : Option String} :
  (orUpdateError text (failOn "" failure)).Keeps (Silent lib d)
  := fun _ h => orUpdateError_ends (keeps_failOn _ h)

/-- A reboot logs nothing about a component. -/
theorem rebootWhenNeeded_keeps {customVersionUpdate : Bool} :
  (rebootWhenNeeded surr params customVersionUpdate).Keeps (Silent lib d)
  := by
  apply keeps_get.bind
  intro _
  apply Keeps.runWhen
  apply Keeps.bind
  · apply Keeps.runWhen
    apply Silent.emit rfl
  · intro _
    apply Keeps.bind
    · apply Keeps.runWhen
      apply (Silent.emit rfl).bind
      intro _
      apply Silent.orUpdateError_failOn
    · intro _
      apply (Silent.emit rfl).bind
      intro _
      apply Silent.orUpdateError_failOn

/-- The events of the pending components and of the reboot. -/
theorem updateAllPending_leaves {updates : Component → ComponentUpdateStatus}
    (proceeds : Proceeds lib surr params d.state updates)
    (hlog : t.log = d.log) (pinned : t.state.gpgVerifier.Pinned lib) :
  (updateAllPending lib surr params (marked params .app (updates .app))
      (marked params .system (updates .system))).Leaves t
    (Logged lib d (UpdateLog lib surr params d.state))
  := by
  have logged : ∀ {u v w}, Logged lib t (ComponentLog lib surr params d.state .app) u →
      Logged lib u (ComponentLog lib surr params d.state .system) v → Silent lib v w →
      Logged lib d (UpdateLog lib surr params d.state) w :=
    fun hu hv hw => (hu.append (hv.append hw)).rebase hlog
  have none : ∀ {c u}, u.state.gpgVerifier.Pinned lib →
      Logged lib u (ComponentLog lib surr params d.state c) u :=
    fun pinned => ⟨[], (List.append_nil _).symm, Or.inl rfl, pinned⟩
  rw [updateAllPending, Leaves, ends_bind]
  apply Ends.mono (updatePending_leaves ⟨updates, proceeds, rfl⟩ pinned)
  · intro _ u hu
    rw [ends_bind]
    apply Ends.mono (updatePending_leaves ⟨updates, proceeds, rfl⟩ hu.pinned)
    · intro _ v hv
      apply Leaves.mono (rebootWhenNeeded_keeps v (.refl hv.pinned))
      intro w hw
      apply logged hu hv hw
    · intro _ v hv
      apply logged hu hv (.refl hv.pinned)
  · intro _ u hu
    apply logged hu (none hu.pinned) (.refl hu.pinned)

theorem UpdateLog.nil : UpdateLog lib surr params d.state []
  := ⟨[], [], rfl, Or.inl rfl, [], [], rfl, Or.inl rfl, nofun⟩

/-- An update that does not come to install anything logs nothing. -/
theorem logged_of_log_eq (hlog : t.log = d.log) (pinned : t.state.gpgVerifier.Pinned lib) :
  Logged lib d (UpdateLog lib surr params d.state) t
  := by
  use []
  rw [List.append_nil]
  exact ⟨hlog, .nil, pinned⟩

/-- The events of an update that does not name its components by default. -/
theorem doUpdateComponents_leaves (idle : d.state.updating = false) (hlog : t.log = d.log)
    (hstatuses : t.state.componentUpdateStatuses = d.state.componentUpdateStatuses)
    (pinned : t.state.gpgVerifier.Pinned lib) :
  (doUpdateComponents lib surr params).Leaves t (Logged lib d (UpdateLog lib surr params d.state))
  := by
  rw [doUpdateComponents, Leaves, ends_bind, ends_runWhen, componentUpdateError]
  constructor
  · intro _
    apply logged_of_log_eq hlog pinned
  · intro hasks
    have asks : params.asksFor .app = true ∨ params.asksFor .system = true := by
      by_contra hnone
      rw [not_or, Bool.not_eq_true, Bool.not_eq_true] at hnone
      exact hasks hnone
    rw [ends_bind]
    apply orUpdateError_ends
    rw [getUpdateStatus, ends_bind, ends_get, ends_bind, ends_ofExcept, hstatuses]
    constructor
    · intro updates checked
      rw [ends_bind, modifyState, ends_modify, ends_pure, ends_bind]
      apply markPending_ends
      intro u hulog hupinned
      rw [ends_bind]
      apply markPending_ends
      intro v hvlog hvpinned
      rw [ends_ite]
      have hlog' : v.log = d.log := by rw [hvlog, hulog, hlog]
      have hpinned' : v.state.gpgVerifier.Pinned lib := by
        rw [hvpinned, hupinned]
        apply pinned
      constructor
      · intro _
        apply logged_of_log_eq hlog' hpinned'
      · intro _
        apply updateAllPending_leaves ⟨idle, asks, checked⟩ hlog' hpinned'
    · intro _ _
      apply logged_of_log_eq hlog pinned

/-- The events of an update: those of components that the check of this update has found,
pending since before or asked for and available. -/
theorem TryUpdate_leaves {locked : Bool} (pinned : d.state.gpgVerifier.Pinned lib) :
  (TryUpdate lib surr params locked).Leaves d
    (Logged lib d (UpdateLog lib surr params.withDefault d.state))
  := by
  rw [TryUpdate, Leaves, ends_bind, ends_failWhen]
  use fun _ => logged_of_log_eq rfl pinned
  intro _
  rw [doUpdate, ends_bind, ends_get, ends_bind, ends_failWhen]
  use fun _ => logged_of_log_eq rfl pinned
  intro idle
  rw [ends_bind, setUpdating, modifyState, ends_modify]
  apply doUpdateComponents_leaves (eq_false_of_ne_true idle)
  · rfl
  · rfl
  · apply pinned

/-! ### What the log of an update says -/

/-- A non-empty signature over the contents has been accepted under the pinned key. -/
def SignatureAccepted (lib : Libraries Version Entity) (contents : List UInt8)
    (before : List (Event Entity)) : Prop :=
  ∃ keyring signature, .accept keyring signature contents ∈ before ∧ signature ≠ [] ∧
    GPGVerifier.PinnedKeyring lib keyring ∧
    lib.checkDetachedSignature keyring contents signature = none

/-- The renamed file is one that the update proceeds with. Its digest is the expected one, and
its signature has been accepted unless the check is bypassed. -/
def RenameAllowed (lib : Libraries Version Entity) (surr : Surroundings Version)
    (params : UpdateParams) (s : State Entity) (before : List (Event Entity))
    (e : Event Entity) : Prop :=
  ∀ c contents, e = .rename c contents → ∃ update, IsUpdated lib surr params s c update ∧
    encodeToString (lib.sha256 contents) = update.hash ∧
    (SignatureAccepted lib contents before ∨ shouldBypassSignatureCheck lib update.version
      update.customVersionUpdate params.includePreRelease = true)

variable {s : State Entity} {events before : List (Event Entity)} {e : Event Entity}

theorem SignatureAccepted.append {contents : List UInt8} {more : List (Event Entity)}
    (h : SignatureAccepted lib contents before) :
  SignatureAccepted lib contents (more ++ before)
  := by
  obtain ⟨keyring, signature, hmem, h⟩ := h
  exact ⟨keyring, signature, List.mem_append_right _ hmem, h⟩

theorem RenameAllowed.append {more : List (Event Entity)}
    (h : RenameAllowed lib surr params s before e) :
  RenameAllowed lib surr params s (more ++ before) e
  := by
  intro c contents he
  obtain ⟨update, updated, digest, hsigned⟩ := h c contents he
  exact ⟨update, updated, digest, hsigned.imp_left SignatureAccepted.append⟩

theorem renameAllowed_of_component_eq_none (h : e.component = none) :
  RenameAllowed lib surr params s before e
  := by
  rintro c contents rfl
  cases h

/-- A component is updated only when the update proceeds with it. -/
theorem ComponentLog.of_update {c' : Component} (h : ComponentLog lib surr params s c events)
    (hmem : .update c' ∈ events) :
  ∃ update, IsUpdated lib surr params s c' update
  := by
  obtain rfl | ⟨update, verification, signature, updated, rfl, hverify, -⟩ := h
  · cases hmem
  · rcases List.mem_cons.mp hmem with heq | hmem
    · obtain rfl := Event.update.inj heq
      use update
    · cases hverify <;> simp at hmem

theorem ComponentLog.permitted (h : ComponentLog lib surr params s c events) :
  Permitted (RenameAllowed lib surr params s) events
  := by
  obtain rfl | ⟨update, verification, signature, updated, rfl, hverify, hsignature⟩ := h
  · apply permitted_nil
  refine .cons nofun ?_
  cases hverify with
  | failed => apply permitted_nil
  | accepted => exact .cons (renameAllowed_of_component_eq_none rfl) permitted_nil
  | unsigned digest none =>
      refine .cons ?_ permitted_nil
      rintro _ _ ⟨⟩
      exact ⟨update, updated, digest, Or.inr (hsignature none)⟩
  | @signed keyring contents digest some pinned check =>
      refine .cons (renameAllowed_of_component_eq_none rfl) (.cons ?_ permitted_nil)
      rintro _ _ ⟨⟩
      use update, updated, digest
      left
      use keyring, signature
      simp [some, pinned, check]

/-- A component is updated only when the update proceeds with it. -/
theorem UpdateLog.of_update (h : UpdateLog lib surr params s events)
    (hmem : .update c ∈ events) :
  ∃ update, IsUpdated lib surr params s c update
  := by
  obtain ⟨front, back, rfl, happ, mid, rest, rfl, hsystem, hrest⟩ := h
  rcases List.mem_append.mp hmem with hmem | hmem
  · apply happ.of_update hmem
  · rcases List.mem_append.mp hmem with hmem | hmem
    · apply hsystem.of_update hmem
    · cases hrest _ hmem

/-- Files are renamed only when this is allowed. -/
theorem UpdateLog.permitted (h : UpdateLog lib surr params s events) :
  Permitted (RenameAllowed lib surr params s) events
  := by
  obtain ⟨front, back, rfl, happ, mid, rest, rfl, hsystem, hrest⟩ := h
  have hsilent : Permitted (RenameAllowed lib surr params s) rest :=
    permitted_of_forall_mem fun e he _ => renameAllowed_of_component_eq_none (hrest e he)
  apply happ.permitted.append
  apply Permitted.mono _ fun _ _ => RenameAllowed.append
  apply hsystem.permitted.append
  apply hsilent.mono fun _ _ => RenameAllowed.append

end Logs
end JetKvm.Ota
