import JetKvm.Ota.Ending
import JetKvm.Library.Transition

/-!
# The update indicator

`publishUpdateState` publishes whether an update is in progress. An install command sets
`updateRequested`, which stands for the update until it has begun. The flag is cleared when any
update ends, and by `publishUpdateState` when it finds an error, also one that an earlier update
has left.
-/

namespace JetKvm.Mqtt

open Ota

variable {Percentage : Type}

/-! ### Publishing -/

/-- The published state. -/
structure mqttUpdateState (Percentage : Type) where
  InstalledVersion : String
  LatestVersion : String
  InProgress : Bool
  UpdatePercentage : Option Percentage
deriving DecidableEq, Repr

/-- The result of `GetLocalVersion`, which may know the version of the application and fail. -/
structure LocalVersion where
  failed : Bool
  appVersion : Option String
deriving DecidableEq, Repr

/-- The result of `getUpdateStatus`: the versions of the application that it knows. -/
structure UpdateStatus where
  Local : Option String
  Remote : Option String
  AppUpdateAvailable : Bool
deriving DecidableEq, Repr

/-- What publishing the update state meets. -/
structure UpdateSurroundings (Percentage : Type) where
  connected : Bool
  localVersion : LocalVersion
  now : ℕ
  /-- There is none when the check has failed. -/
  updateStatus : Option UpdateStatus
  /-- The time after the check. -/
  checkedAt : ℕ
  /-- The value of `calculateOTAProgress`. -/
  progress : Percentage
deriving DecidableEq, Repr

/-- What publishing the update state reads and writes, and what has been published last. -/
structure UpdatePublisher (Percentage : Type) where
  updateRequested : Bool
  /-- There is none when the time is zero. -/
  lastUpdateCheck : Option ℕ
  lastUpdatePayload : Option (mqttUpdateState Percentage)
  lastKnownLatestVersion : String
  published : Option (mqttUpdateState Percentage)
deriving DecidableEq, Repr

/-- Ten minutes, in nanoseconds. -/
def updateCheckInterval : ℕ :=
  10 * 60 * 1000000000

/-- The version of the application, if it can be told. -/
def UpdateSurroundings.appVersion (surr : UpdateSurroundings Percentage) : Option String :=
  if surr.localVersion.failed then none else surr.localVersion.appVersion

def UpdateSurroundings.getInstalledVersion (surr : UpdateSurroundings Percentage) : String :=
  surr.appVersion.getD "unknown"

namespace UpdatePublisher

def new : UpdatePublisher Percentage where
  updateRequested := false
  lastUpdateCheck := none
  lastUpdatePayload := none
  lastKnownLatestVersion := ""
  published := none

variable (m : UpdatePublisher Percentage) (state : RPCState)
  (surr : UpdateSurroundings Percentage)

def publish (payload : mqttUpdateState Percentage) : UpdatePublisher Percentage :=
  { m with published := some payload }

/-- Clears the flag when there is an error and no update. -/
def clearAfterError : UpdatePublisher Percentage :=
  if m.updateRequested && !state.Updating then
    if state.Error ≠ "" then { m with updateRequested := false } else m
  else m

/-- The state with the installed version, and no newer one. -/
def installedPayload : mqttUpdateState Percentage where
  InstalledVersion := surr.appVersion.getD ""
  LatestVersion := surr.appVersion.getD ""
  InProgress := false
  UpdatePercentage := none

/-- Publishes that an update is in progress. The result of the last check is not used again. -/
def publishUpdating : UpdatePublisher Percentage :=
  { m with lastUpdateCheck := none }.publish
    { installedPayload surr with
      LatestVersion :=
        if m.lastKnownLatestVersion ≠ "" then m.lastKnownLatestVersion
        else (installedPayload surr).LatestVersion
      InProgress := true
      UpdatePercentage := some surr.progress }

/-- The result of the last check, if it can be used still. -/
def cachedPayload : Option (mqttUpdateState Percentage) :=
  m.lastUpdatePayload.filter fun _ =>
    match m.lastUpdateCheck with
    | some checked => surr.now - checked < updateCheckInterval
    | none => false

/-- The state after a check. -/
def checkedPayload : mqttUpdateState Percentage :=
  match surr.updateStatus with
  | none => installedPayload surr
  | some status =>
      { installedPayload surr with
        InstalledVersion := status.Local.getD (installedPayload surr).InstalledVersion
        LatestVersion :=
          if status.AppUpdateAvailable then
            status.Remote.getD (installedPayload surr).LatestVersion
          else (installedPayload surr).LatestVersion }

/-- The latest version that is known after a check. -/
def latestVersion : String :=
  match surr.updateStatus with
  | none => m.lastKnownLatestVersion
  | some status =>
      if status.AppUpdateAvailable then status.Remote.getD m.lastKnownLatestVersion
      else m.lastKnownLatestVersion

/-- Publishes the result of the last check or of a new one. -/
def publishNotUpdating : UpdatePublisher Percentage :=
  match m.cachedPayload surr with
  | some cached =>
      m.publish { cached with
        InstalledVersion := surr.localVersion.appVersion.getD cached.InstalledVersion }
  | none =>
      { m with
        lastKnownLatestVersion := m.latestVersion surr
        lastUpdatePayload := some (checkedPayload surr)
        lastUpdateCheck := some surr.checkedAt }.publish (checkedPayload surr)

/-- Publishes the update state. -/
def publishUpdateState : UpdatePublisher Percentage :=
  if surr.connected = false then m
  else
    let cleared := m.clearAfterError state
    if state.Updating || cleared.updateRequested then cleared.publishUpdating surr
    else cleared.publishNotUpdating surr

/-- `rpcTryUpdate` starts a goroutine for the update, and has no error. -/
def rpcTryUpdate : Option String :=
  none

/-- Sets the flag, and publishes that an update is in progress. -/
def handleUpdateInstallCommand [Zero Percentage] : UpdatePublisher Percentage :=
  let requested := { m with updateRequested := true }.publish
    { InstalledVersion := surr.getInstalledVersion
      LatestVersion :=
        if m.lastKnownLatestVersion = "" then surr.getInstalledVersion
        else m.lastKnownLatestVersion
      InProgress := true
      UpdatePercentage := some 0 }
  match rpcTryUpdate with
  | some _ => { requested with updateRequested := false }.publishUpdateState state surr
  | none => requested

/-- Clears the flag when no update is in progress. -/
def onStateUpdate : UpdatePublisher Percentage :=
  if !state.Updating && m.updateRequested then { m with updateRequested := false } else m

/-! ### What publishing does -/

/-- The cached result says that no update is in progress. -/
def CacheIdle : Prop :=
  ∀ payload ∈ m.lastUpdatePayload, payload.InProgress = false

variable {m state surr}

theorem clearAfterError_updateRequested :
  (m.clearAfterError state).updateRequested =
    (m.updateRequested && (state.Updating || decide (state.Error = "")))
  := by
  rw [clearAfterError]
  cases hrequested : m.updateRequested with
  | false => simp [hrequested]
  | true =>
      cases hupdating : state.Updating with
      | false =>
          by_cases herror : state.Error = ""
          · simp [herror, hrequested]
          · simp [herror]
      | true => simp [hrequested]

theorem clearAfterError_lastUpdatePayload :
  (m.clearAfterError state).lastUpdatePayload = m.lastUpdatePayload
  := by
  rw [clearAfterError]
  split
  · split
    · rfl
    · rfl
  · rfl

theorem publishNotUpdating_updateRequested :
  (m.publishNotUpdating surr).updateRequested = m.updateRequested
  := by
  rw [publishNotUpdating]
  split
  · rfl
  · rfl

theorem checkedPayload_inProgress :
  (checkedPayload surr).InProgress = false
  := by
  rw [checkedPayload]
  split
  · rfl
  · rfl

theorem publishNotUpdating_published (hcache : m.CacheIdle) :
  ∃ payload, (m.publishNotUpdating surr).published = some payload ∧ payload.InProgress = false
  := by
  rw [publishNotUpdating]
  split
  · rename_i cached hcached
    use { cached with
      InstalledVersion := surr.localVersion.appVersion.getD cached.InstalledVersion }
    constructor
    · rfl
    · apply hcache cached
      apply Option.eq_some_of_filter_eq_some hcached
  · use checkedPayload surr
    constructor
    · rfl
    · apply checkedPayload_inProgress

theorem CacheIdle.publishNotUpdating (hcache : m.CacheIdle) :
  (m.publishNotUpdating surr).CacheIdle
  := by
  rw [UpdatePublisher.publishNotUpdating]
  split
  · apply hcache
  · intro payload hpayload
    obtain rfl := Option.some.inj hpayload
    apply checkedPayload_inProgress

/-- Publishing keeps the flag, unless there is an error and no update. -/
theorem publishUpdateState_updateRequested (hconnected : surr.connected = true) :
  (m.publishUpdateState state surr).updateRequested =
    (m.updateRequested && (state.Updating || decide (state.Error = "")))
  := by
  rw [publishUpdateState, if_neg (by rw [hconnected]; decide), ← clearAfterError_updateRequested]
  dsimp only
  split
  · rfl
  · apply publishNotUpdating_updateRequested

/-- Publishing says that an update is in progress while there is one, or while it has been
requested and there is no error. -/
theorem publishUpdateState_published (hcache : m.CacheIdle) (hconnected : surr.connected = true) :
  ∃ payload, (m.publishUpdateState state surr).published = some payload ∧
    payload.InProgress =
      (state.Updating || m.updateRequested && decide (state.Error = ""))
  := by
  have hclear : (state.Updating || (m.clearAfterError state).updateRequested) =
      (state.Updating || m.updateRequested && decide (state.Error = "")) := by
    rw [clearAfterError_updateRequested]
    cases state.Updating <;> simp
  rw [publishUpdateState, if_neg (by rw [hconnected]; decide), ← hclear]
  dsimp only
  split
  · rename_i hupdating
    rw [hupdating, publishUpdating]
    exact ⟨_, rfl, rfl⟩
  · rename_i hupdating
    rw [eq_false_of_ne_true hupdating]
    apply publishNotUpdating_published
    rw [CacheIdle, clearAfterError_lastUpdatePayload]
    apply hcache

theorem CacheIdle.publishUpdateState (hcache : m.CacheIdle) :
  (m.publishUpdateState state surr).CacheIdle
  := by
  have hcleared : (m.clearAfterError state).CacheIdle := by
    rw [CacheIdle, clearAfterError_lastUpdatePayload]
    apply hcache
  rw [UpdatePublisher.publishUpdateState]
  dsimp only
  split
  · apply hcache
  · split
    · apply hcleared
    · apply hcleared.publishNotUpdating

end UpdatePublisher

end JetKvm.Mqtt
