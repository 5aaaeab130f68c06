import JetKvm.Library.Timer
import JetKvm.Library.Transition
import Mathlib.Logic.Function.Basic

/-!
# Debouncing the state of the ATX LEDs

`publishATXState` delays the frame with which the HDD LED goes off: a timer captures it, and the
callback publishes what was captured. A callback that has been called before its timer is stopped
waits for `atxDebounceMu` and publishes all the same.
-/

namespace JetKvm.Mqtt

/-- A frame: the state of the two LEDs. -/
structure ATXState where
  Power : Bool
  HDD : Bool
deriving DecidableEq, Repr

/-- What the debouncing reads and writes, the timers, and what has been published last. -/
structure MQTTManager where
  debounceMs : Int
  atxDebounceTimer : Option ℕ
  atxLastPublished : Option ATXState
  timers : Timers ATXState
  published : Option ATXState
deriving DecidableEq, Repr

namespace MQTTManager

/-- The manager before the first frame. -/
def new (debounceMs : Int) : MQTTManager where
  debounceMs := debounceMs
  atxDebounceTimer := none
  atxLastPublished := none
  timers := Timers.empty
  published := none

def publish (m : MQTTManager) (state : ATXState) : MQTTManager :=
  { m with published := some state }

def publishATXStateLocked (m : MQTTManager) (state : ATXState) : MQTTManager :=
  { m with atxLastPublished := some state }.publish state

def cancelATXDebounceTimerLocked (m : MQTTManager) : MQTTManager :=
  match m.atxDebounceTimer with
  | some timer => { m with timers := m.timers.stop timer, atxDebounceTimer := none }
  | none => m

/-- Starts the timer that captures the frame. -/
def startDebounceTimer (m : MQTTManager) (state : ATXState) : MQTTManager :=
  { m with
    timers := m.timers.afterFunc state
    atxDebounceTimer := some m.timers.started.length }

/-- Publishes the frame, or delays it, or leaves it out. -/
def publishATXState (m : MQTTManager) (connected : Bool) (state : ATXState) : MQTTManager :=
  if connected = false then m
  else if m.debounceMs ≤ 0 then m.publish state
  else
    match m.atxLastPublished with
    | none => m.publishATXStateLocked state
    | some lastState =>
        if state.Power ≠ lastState.Power then
          m.cancelATXDebounceTimerLocked.publishATXStateLocked state
        else if state.HDD then
          let cancelled :=
            if m.atxDebounceTimer ≠ none then m.cancelATXDebounceTimerLocked else m
          if lastState.HDD = false then cancelled.publishATXStateLocked state else cancelled
        else if lastState.HDD = false then m
        else if m.atxDebounceTimer ≠ none then m
        else m.startDebounceTimer state

/-- The callback of a timer, once it has taken `atxDebounceMu`. -/
def debounceCallback (m : MQTTManager) (timer : ℕ) : Option MQTTManager :=
  (m.timers.call timer).map fun called =>
    { m with timers := called.1, atxDebounceTimer := none }.publishATXStateLocked called.2

variable {m : MQTTManager} {state lastState : ATXState} {timer : ℕ} {captured : ATXState}

@[simp]
theorem cancelATXDebounceTimerLocked_debounceMs :
  m.cancelATXDebounceTimerLocked.debounceMs = m.debounceMs
  := by
  rw [cancelATXDebounceTimerLocked]
  split <;> rfl

@[simp]
theorem cancelATXDebounceTimerLocked_atxDebounceTimer :
  m.cancelATXDebounceTimerLocked.atxDebounceTimer = none
  := by
  rw [cancelATXDebounceTimerLocked]
  split
  · rfl
  · assumption

@[simp]
theorem cancelATXDebounceTimerLocked_atxLastPublished :
  m.cancelATXDebounceTimerLocked.atxLastPublished = m.atxLastPublished
  := by
  rw [cancelATXDebounceTimerLocked]
  split <;> rfl

@[simp]
theorem cancelATXDebounceTimerLocked_published :
  m.cancelATXDebounceTimerLocked.published = m.published
  := by
  rw [cancelATXDebounceTimerLocked]
  split <;> rfl

theorem pending_of_cancelATXDebounceTimerLocked
    (h : m.cancelATXDebounceTimerLocked.timers.Pending timer captured) :
  m.timers.Pending timer captured
  := by
  rw [cancelATXDebounceTimerLocked] at h
  split at h
  · apply Timers.pending_of_stop h
  · apply h

/-- The first frame is published. -/
theorem publishATXState_first (hdebounce : 0 < m.debounceMs) (hlast : m.atxLastPublished = none) :
  m.publishATXState true state = m.publishATXStateLocked state
  := by
  rw [publishATXState, if_neg (by decide), if_neg (by omega), hlast]

/-- A change of the power LED is published, and the HDD LED is not waited for. -/
theorem publishATXState_power (hdebounce : 0 < m.debounceMs)
    (hlast : m.atxLastPublished = some lastState) (hpower : state.Power ≠ lastState.Power) :
  m.publishATXState true state = m.cancelATXDebounceTimerLocked.publishATXStateLocked state
  := by
  rw [publishATXState, if_neg (by decide), if_neg (by omega), hlast]
  apply if_pos hpower

/-- While the HDD LED is on, no timer runs. -/
theorem publishATXState_on (hdebounce : 0 < m.debounceMs)
    (hlast : m.atxLastPublished = some lastState) (hpower : state.Power = lastState.Power)
    (hhdd : state.HDD = true) :
  m.publishATXState true state =
    if lastState.HDD = false then m.cancelATXDebounceTimerLocked.publishATXStateLocked state
    else m.cancelATXDebounceTimerLocked
  := by
  have hcancel : (if m.atxDebounceTimer ≠ none then m.cancelATXDebounceTimerLocked else m) =
      m.cancelATXDebounceTimerLocked := by
    split
    · rfl
    · rename_i htimer
      rw [cancelATXDebounceTimerLocked, not_not.mp htimer]
  rw [publishATXState, if_neg (by decide), if_neg (by omega), hlast]
  dsimp only
  rw [if_neg (not_not.mpr hpower), if_pos hhdd, hcancel]

/-- A frame with the HDD LED off starts a timer, unless this has been published or a timer is
running already. -/
theorem publishATXState_off (hdebounce : 0 < m.debounceMs)
    (hlast : m.atxLastPublished = some lastState) (hpower : state.Power = lastState.Power)
    (hhdd : state.HDD = false) :
  m.publishATXState true state =
    if lastState.HDD = true ∧ m.atxDebounceTimer = none then m.startDebounceTimer state else m
  := by
  rw [publishATXState, if_neg (by decide), if_neg (by omega), hlast]
  dsimp only
  rw [if_neg (not_not.mpr hpower), if_neg (by rw [hhdd]; decide)]
  cases hlastHDD : lastState.HDD with
  | false => simp
  | true =>
      cases htimer : m.atxDebounceTimer with
      | none => simp
      | some timer => simp

end MQTTManager

/-! ### Runs -/

/-- A frame arrives, or a timer expires, or the callback of a timer that has expired takes
`atxDebounceMu`. -/
inductive AtxEvent where
  | frame (connected : Bool) (state : ATXState)
  | expire (timer : ℕ)
  | callback (timer : ℕ)
deriving DecidableEq, Repr

/-- The manager, and the frames that it has processed, oldest first: all of them, and those after
the frame that has started a timer. -/
structure AtxHistory where
  manager : MQTTManager
  processed : List ATXState
  since : ℕ → List ATXState

namespace AtxHistory

def new (debounceMs : Int) : AtxHistory where
  manager := .new debounceMs
  processed := []
  since _ := []

/-- The history after a frame. Without a connection it is not processed. -/
def frame (h : AtxHistory) (connected : Bool) (state : ATXState) : AtxHistory :=
  let frames := if connected then [state] else []
  { manager := h.manager.publishATXState connected state
    processed := h.processed ++ frames
    since := fun timer =>
      if timer < h.manager.timers.started.length then h.since timer ++ frames else [] }

/-- The next state. -/
def step (h : AtxHistory) : AtxEvent → Option AtxHistory
  | .frame connected state => some (h.frame connected state)
  | .expire timer =>
      (h.manager.timers.expire timer).map fun timers =>
        { h with manager := { h.manager with timers := timers } }
  | .callback timer =>
      (h.manager.debounceCallback timer).map fun manager => { h with manager := manager }

def lts : Lts AtxHistory AtxEvent :=
  Lts.ofStep step

/-- Among the frames there is one with the HDD LED on or with a different state of the power LED
than the captured one. -/
def Superseded (frames : List ATXState) (captured : ATXState) : Prop :=
  ∃ frame ∈ frames, frame.HDD = true ∨ frame.Power ≠ captured.Power

/-- A callback publishes what it has captured only if no frame has superseded it. -/
def PublishesFresh (h : AtxHistory) : AtxEvent → Prop
  | .callback timer => ∀ captured, h.manager.timers.Pending timer captured →
      ¬ Superseded (h.since timer) captured
  | .frame _ _ => True
  | .expire _ => True

/-- The state of the power LED that has been published last is the one of the newest frame. -/
def ShowsPower (h : AtxHistory) : Prop :=
  h.manager.published.map ATXState.Power = h.processed.getLast?.map ATXState.Power

/-- The callback is the one of the timer that is running, which has not been stopped. -/
def Current (h : AtxHistory) : AtxEvent → Prop
  | .callback timer => h.manager.atxDebounceTimer = some timer
  | .frame _ _ => True
  | .expire _ => True

instance (h : AtxHistory) : Decidable h.ShowsPower :=
  inferInstanceAs (Decidable (_ = _))

instance (h : AtxHistory) (event : AtxEvent) : Decidable (h.Current event) := by
  cases event <;> unfold Current <;> infer_instance

variable {h : AtxHistory} {frames : List ATXState} {state captured : ATXState} {timer : ℕ}
  {connected : Bool} {event : AtxEvent} {debounceMs : Int} {m : MQTTManager}

theorem superseded_append (frames frames' : List ATXState) (captured : ATXState) :
  Superseded (frames ++ frames') captured ↔ Superseded frames captured ∨ Superseded frames' captured
  := by
  simp [Superseded, or_and_right, exists_or]

theorem superseded_singleton :
  Superseded [state] captured ↔ state.HDD = true ∨ state.Power ≠ captured.Power
  := by
  simp [Superseded]

/-! ### The debouncing in step with the frames -/

/-- What has been published shows the newest frame, and the callback that is still to come is the
one of the running timer exactly when no frame has superseded what it has captured. -/
structure InStep (h : AtxHistory) : Prop where
  debounced : 0 < h.manager.debounceMs
  published : h.manager.published = h.manager.atxLastPublished
  shows : h.ShowsPower
  current : ∀ timer captured, h.manager.timers.Pending timer captured →
    h.manager.atxDebounceTimer = some timer →
    h.manager.atxLastPublished.map ATXState.Power = some captured.Power ∧
      ¬ Superseded (h.since timer) captured
  stopped : ∀ timer captured, h.manager.timers.Pending timer captured →
    h.manager.atxDebounceTimer ≠ some timer →
    h.manager.atxLastPublished.isSome ∧ Superseded (h.since timer) captured

theorem inStep_new (hdebounce : 0 < debounceMs) :
  (new debounceMs).InStep
  := by
  constructor
  · apply hdebounce
  · rfl
  · rfl
  · intro timer captured hpending
    cases Timers.not_pending_empty hpending
  · intro timer captured hpending
    cases Timers.not_pending_empty hpending

/-- Before anything has been published, no callback is still to come. -/
theorem InStep.not_pending (hstep : h.InStep) (hlast : h.manager.atxLastPublished = none) :
  ¬ h.manager.timers.Pending timer captured
  := by
  intro hpending
  by_cases htimer : h.manager.atxDebounceTimer = some timer
  · have hpower := (hstep.current timer captured hpending htimer).1
    rw [hlast] at hpower
    cases hpower
  · have hsome := (hstep.stopped timer captured hpending htimer).1
    rw [hlast] at hsome
    cases hsome

/-- The frame supersedes what the running timer has captured, and no timer runs after it. -/
theorem InStep.supersede (hstep : h.InStep)
    (hdebounce : 0 < (h.manager.publishATXState true state).debounceMs)
    (hpublished : (h.manager.publishATXState true state).published =
      (h.manager.publishATXState true state).atxLastPublished)
    (hpower : (h.manager.publishATXState true state).atxLastPublished.map ATXState.Power =
      some state.Power)
    (hidle : ∀ timer captured,
      (h.manager.publishATXState true state).timers.Pending timer captured →
      h.manager.timers.Pending timer captured ∧
        (h.manager.publishATXState true state).atxDebounceTimer ≠ some timer)
    (hframe : ∀ timer captured, h.manager.timers.Pending timer captured →
      h.manager.atxDebounceTimer = some timer → Superseded [state] captured) :
  (h.frame true state).InStep
  := by
  constructor
  · apply hdebounce
  · apply hpublished
  · rw [ShowsPower]
    change (h.manager.publishATXState true state).published.map _ = _
    rw [hpublished, hpower]
    simp [frame]
  · intro timer captured hpending htimer
    exact absurd htimer (hidle timer captured hpending).2
  · intro timer captured hpending _
    have hbefore := (hidle timer captured hpending).1
    constructor
    · change (h.manager.publishATXState true state).atxLastPublished.isSome
      rw [← Option.isSome_map, hpower]
      rfl
    · have hsince : (h.frame true state).since timer = h.since timer ++ [state] :=
        if_pos hbefore.lt
      rw [hsince, superseded_append]
      by_cases htimer : h.manager.atxDebounceTimer = some timer
      · right
        apply hframe timer captured hbefore htimer
      · left
        apply (hstep.stopped timer captured hbefore htimer).2

/-- Frames that supersede nothing do not change anything. -/
theorem InStep.keep (hstep : h.InStep) (hm : h.manager.publishATXState connected state = h.manager)
    (hprocessed : ((h.processed ++ if connected then [state] else []).getLast?.map ATXState.Power) =
      h.processed.getLast?.map ATXState.Power)
    (hsame : ∀ captured, h.manager.atxLastPublished.map ATXState.Power = some captured.Power →
      ¬ Superseded (if connected then [state] else []) captured) :
  (h.frame connected state).InStep
  := by
  have hsince : ∀ {timer captured}, h.manager.timers.Pending timer captured →
      (h.frame connected state).since timer =
        h.since timer ++ if connected then [state] else [] :=
    fun hpending => if_pos hpending.lt
  have hmanager : (h.frame connected state).manager = h.manager := hm
  constructor
  · rw [hmanager]
    apply hstep.debounced
  · rw [hmanager]
    apply hstep.published
  · rw [ShowsPower, hmanager]
    exact hstep.shows.trans hprocessed.symm
  · rw [hmanager]
    intro timer captured hpending htimer
    obtain ⟨hpower, hfresh⟩ := hstep.current timer captured hpending htimer
    use hpower
    rw [hsince hpending, superseded_append]
    rintro (hbefore | hnow)
    · apply hfresh hbefore
    · apply hsame captured hpower hnow
  · rw [hmanager]
    intro timer captured hpending htimer
    obtain ⟨hlast, hsuperseded⟩ := hstep.stopped timer captured hpending htimer
    use hlast
    rw [hsince hpending, superseded_append]
    left
    apply hsuperseded

/-- The timer that a frame starts is the only one whose callback has not been superseded. -/
theorem InStep.start (hstep : h.InStep) {lastState : ATXState}
    (hlast : h.manager.atxLastPublished = some lastState) (hpower : state.Power = lastState.Power)
    (hidle : h.manager.atxDebounceTimer = none)
    (hm : h.manager.publishATXState true state = h.manager.startDebounceTimer state) :
  (h.frame true state).InStep
  := by
  have hmanager : (h.frame true state).manager = h.manager.startDebounceTimer state := hm
  have hnew : (h.frame true state).since h.manager.timers.started.length = [] :=
    if_neg (Nat.lt_irrefl _)
  constructor
  · rw [hmanager]
    apply hstep.debounced
  · rw [hmanager]
    apply hstep.published
  · rw [ShowsPower, hmanager]
    change h.manager.published.map _ = _
    rw [hstep.published, hlast, Option.map_some, ← hpower]
    simp [frame]
  · rw [hmanager]
    intro timer captured hpending htimer
    obtain rfl := Option.some.inj htimer
    rcases Timers.pending_of_afterFunc hpending with hbefore | ⟨-, rfl⟩
    · exact absurd hbefore.lt (Nat.lt_irrefl _)
    · constructor
      · change h.manager.atxLastPublished.map _ = _
        rw [hlast, Option.map_some, hpower]
      · rw [hnew]
        rintro ⟨frame, hframe, -⟩
        cases hframe
  · rw [hmanager]
    intro timer captured hpending htimer
    rcases Timers.pending_of_afterFunc hpending with hbefore | ⟨rfl, -⟩
    · have hstopped : h.manager.atxDebounceTimer ≠ some timer := by
        rw [hidle]
        apply Option.some_ne_none _ |>.symm
      obtain ⟨hsome, hsuperseded⟩ := hstep.stopped timer captured hbefore hstopped
      use hsome
      have hsince : (h.frame true state).since timer = h.since timer ++ [state] :=
        if_pos hbefore.lt
      rw [hsince, superseded_append]
      left
      apply hsuperseded
    · exact absurd rfl htimer

/-- A frame that supersedes everything with the power LED of the last published frame may stop the
running timer. -/
theorem InStep.cancel (hstep : h.InStep) {lastState : ATXState} {publishes : Prop}
    [Decidable publishes] (hlast : h.manager.atxLastPublished = some lastState)
    (hframe : ∀ captured, lastState.Power = captured.Power → Superseded [state] captured)
    (hpower : ¬ publishes → state.Power = lastState.Power)
    (hm : h.manager.publishATXState true state =
      if publishes then h.manager.cancelATXDebounceTimerLocked.publishATXStateLocked state
      else h.manager.cancelATXDebounceTimerLocked) :
  (h.frame true state).InStep
  := by
  have hpending : ∀ timer captured,
      (h.manager.publishATXState true state).timers.Pending timer captured →
      h.manager.timers.Pending timer captured ∧
        (h.manager.publishATXState true state).atxDebounceTimer ≠ some timer := by
    intro timer captured hpending
    rw [hm] at hpending ⊢
    split at hpending
    · constructor
      · apply MQTTManager.pending_of_cancelATXDebounceTimerLocked hpending
      · simp [*, MQTTManager.publishATXStateLocked, MQTTManager.publish]
    · constructor
      · apply MQTTManager.pending_of_cancelATXDebounceTimerLocked hpending
      · simp [*]
  have hsuperseded : ∀ timer captured, h.manager.timers.Pending timer captured →
      h.manager.atxDebounceTimer = some timer → Superseded [state] captured := by
    intro timer captured hbefore htimer
    have hcaptured := (hstep.current timer captured hbefore htimer).1
    rw [hlast] at hcaptured
    apply hframe captured (Option.some.inj hcaptured)
  apply hstep.supersede _ _ _ hpending hsuperseded
  · rw [hm]
    split
    · simpa [MQTTManager.publishATXStateLocked, MQTTManager.publish] using hstep.debounced
    · simpa using hstep.debounced
  · rw [hm]
    split
    · rfl
    · simpa using hstep.published
  · rw [hm]
    split
    · rfl
    · rename_i hunpublished
      rw [MQTTManager.cancelATXDebounceTimerLocked_atxLastPublished, hlast, Option.map_some,
        hpower hunpublished]

/-- A frame keeps the debouncing in step. -/
theorem InStep.frame (hstep : h.InStep) (connected : Bool) (state : ATXState) :
  (h.frame connected state).InStep
  := by
  have hdebounce := hstep.debounced
  cases connected with
  | false =>
      apply hstep.keep rfl
      · simp
      · rintro captured - ⟨frame, hframe, -⟩
        cases hframe
  | true =>
      cases hlast : h.manager.atxLastPublished with
      | none =>
          have hm : h.manager.publishATXState true state = h.manager.publishATXStateLocked state :=
            MQTTManager.publishATXState_first hdebounce hlast
          apply hstep.supersede
          · rw [hm]
            apply hdebounce
          · rw [hm]
            rfl
          · rw [hm]
            rfl
          · rw [hm]
            intro timer captured hpending
            exact absurd hpending (hstep.not_pending hlast)
          · intro timer captured hpending
            exact absurd hpending (hstep.not_pending hlast)
      | some lastState =>
          by_cases hpower : state.Power = lastState.Power
          · cases hhdd : state.HDD with
            | true =>
                apply hstep.cancel hlast _ (fun _ => hpower)
                  (MQTTManager.publishATXState_on hdebounce hlast hpower hhdd)
                intro captured _
                apply superseded_singleton.mpr (Or.inl hhdd)
            | false =>
                have hm := MQTTManager.publishATXState_off hdebounce hlast hpower hhdd
                split at hm
                · rename_i hstart
                  apply hstep.start hlast hpower hstart.2 hm
                · apply hstep.keep hm
                  · have hnewest := hstep.shows
                    rw [ShowsPower, hstep.published, hlast, Option.map_some, ← hpower] at hnewest
                    simp [← hnewest]
                  · intro captured hcaptured
                    rw [hlast] at hcaptured
                    have hlastPower := Option.some.inj hcaptured
                    simp [superseded_singleton, hhdd, hpower, hlastPower]
          · have hm : h.manager.publishATXState true state =
                if True then h.manager.cancelATXDebounceTimerLocked.publishATXStateLocked state
                else h.manager.cancelATXDebounceTimerLocked := by
              rw [if_pos trivial]
              apply MQTTManager.publishATXState_power hdebounce hlast hpower
            apply hstep.cancel hlast _ _ hm
            · intro captured hcaptured
              apply superseded_singleton.mpr (Or.inr _)
              rw [← hcaptured]
              apply hpower
            · intro hfalse
              exact absurd trivial hfalse

/-- The expiry of a timer keeps the debouncing in step. -/
theorem InStep.expire (hstep : h.InStep) {timers : Timers ATXState}
    (hexpire : h.manager.timers.expire timer = some timers) :
  InStep { h with manager := { h.manager with timers := timers } }
  := by
  constructor
  · apply hstep.debounced
  · apply hstep.published
  · apply hstep.shows
  · intro other captured hpending
    apply hstep.current other captured (Timers.pending_of_expire hexpire hpending)
  · intro other captured hpending
    apply hstep.stopped other captured (Timers.pending_of_expire hexpire hpending)

/-- The callback of the running timer keeps the debouncing in step. -/
theorem InStep.callback (hstep : h.InStep) (hcurrent : h.manager.atxDebounceTimer = some timer)
    (hcallback : h.manager.debounceCallback timer = some m) :
  InStep { h with manager := m }
  := by
  obtain ⟨⟨timers, captured⟩, hcall, rfl⟩ := Option.map_eq_some_iff.mp hcallback
  have hpower := (hstep.current timer captured (Timers.pending_of_call hcall) hcurrent).1
  constructor
  · apply hstep.debounced
  · rfl
  · have hshows := hstep.shows
    rw [ShowsPower, hstep.published, hpower] at hshows
    apply hshows
  · intro other captured' _ hother
    cases hother
  · intro other captured' hpending _
    obtain ⟨hne, hbefore⟩ := Timers.pending_after_call hcall hpending
    constructor
    · rfl
    · apply (hstep.stopped other captured' hbefore _).2
      rw [hcurrent]
      intro heq
      exact hne (Option.some.inj heq).symm

/-- A step with the callback of the running timer keeps the debouncing in step. -/
theorem InStep.step {h' : AtxHistory} (hstep : h.InStep) (hcurrent : h.Current event)
    (hnext : h.step event = some h') :
  h'.InStep
  := by
  cases event with
  | frame connected state =>
      obtain rfl := Option.some.inj hnext
      apply hstep.frame
  | expire timer =>
      obtain ⟨timers, hexpire, rfl⟩ := Option.map_eq_some_iff.mp hnext
      apply hstep.expire hexpire
  | callback timer =>
      obtain ⟨m, hcallback, rfl⟩ := Option.map_eq_some_iff.mp hnext
      apply hstep.callback hcurrent hcallback

/-- A callback publishes what no frame has superseded exactly when it is the one of the running
timer. -/
theorem InStep.publishesFresh_iff {h' : AtxHistory} (hstep : h.InStep)
    (hnext : h.step event = some h') :
  h.PublishesFresh event ↔ h.Current event
  := by
  cases event with
  | frame connected state => rfl
  | expire timer => rfl
  | callback timer =>
      obtain ⟨m, hcallback, rfl⟩ := Option.map_eq_some_iff.mp hnext
      obtain ⟨⟨timers, captured⟩, hcall, rfl⟩ := Option.map_eq_some_iff.mp hcallback
      have hpending := Timers.pending_of_call hcall
      constructor
      · intro hfresh
        by_contra hother
        exact hfresh captured hpending (hstep.stopped timer captured hpending hother).2
      · intro hcurrent captured' hpending'
        apply (hstep.current timer captured' hpending' hcurrent).2

/-! ### Stale states -/

/-- In a run, every callback publishes what no frame has superseded and the published state of the
power LED is the newest one after every step, exactly when no callback is the one of a timer that
has been stopped. -/
theorem publishes_fresh_iff (hdebounce : 0 < debounceMs)
    {tr : List (Lts.Transition AtxHistory AtxEvent)} (run : lts.Run (new debounceMs) tr h) :
  (∀ e ∈ tr, e.before.PublishesFresh e.action ∧ e.after.ShowsPower) ↔
    ∀ e ∈ tr, e.before.Current e.action
  := by
  apply run.forall_iff (inStep_new hdebounce)
  · intro e hstep hnext
    constructor
    · rintro ⟨hfresh, -⟩
      apply (hstep.publishesFresh_iff hnext).mp hfresh
    · intro hcurrent
      constructor
      · apply (hstep.publishesFresh_iff hnext).mpr hcurrent
      · apply (hstep.step hcurrent hnext).shows
  · intro e hcurrent hstep hnext
    apply hstep.step hcurrent hnext

/-- The HDD LED goes off, and this is published when the timer has expired. -/
theorem publishes_fresh_after_debounce :
  ∃ tr h, lts.Run (new 250) tr h ∧ h.manager.published = some ⟨true, false⟩ ∧
    ∀ e ∈ tr, e.before.PublishesFresh e.action ∧ e.after.ShowsPower
  := by
  obtain ⟨tr, h, run, -, hcurrent, hpublished⟩ := Lts.exists_run_of_restrict step Current (new 250)
    [.frame true ⟨true, true⟩, .frame true ⟨true, false⟩, .expire 0, .callback 0]
    (fun h => h.manager.published) (by decide +kernel : _ = some (some ⟨true, false⟩))
  use tr, h, run, hpublished
  apply (publishes_fresh_iff (by decide) run).mpr hcurrent

/-- The host is switched off while a callback waits for `atxDebounceMu`, which then publishes that
it is on. -/
theorem publishes_stale :
  ¬ ∀ (debounceMs : Int) (tr : List (Lts.Transition AtxHistory AtxEvent)) (h : AtxHistory),
      0 < debounceMs → lts.Run (new debounceMs) tr h →
      ∀ e ∈ tr, e.before.PublishesFresh e.action ∧ e.after.ShowsPower
  := by
  intro claim
  obtain ⟨tr, h, run, hactions, hshows⟩ := Lts.exists_run_of_observe step (new 250)
    [.frame true ⟨true, true⟩, .frame true ⟨true, false⟩, .expire 0, .frame true ⟨false, false⟩,
      .callback 0]
    (fun h => decide h.ShowsPower) (by decide +kernel : _ = some false)
  have hstale := of_decide_eq_false hshows
  cases run with
  | nil => cases hactions
  | snoc run last =>
      have hlast := claim 250 _ h (by decide) (run.snoc last) _
        (List.mem_append_right _ (List.mem_singleton_self _))
      exact hstale hlast.2

end AtxHistory

end JetKvm.Mqtt
