import JetKvm.Mqtt.UpdateIndicator
import Mathlib.Algebra.GroupWithZero.Nat

/-!
# The update indicator along the updates

Install commands and others call `TryUpdate`, each in a goroutine of its own, and the update state
may be published at any time. The indicator stands for the newest command: it is to be on until the
update that the command has asked for begins, and off after that update has ended.
-/

namespace JetKvm.Mqtt

open Ota

/-- How far a call of `TryUpdate` has come. -/
inductive CallPhase where
  /-- The goroutine has not yet tried to take the lock. -/
  | waiting
  | locked
  /-- The update has begun. -/
  | running
  /-- The update has ended, and what the state tells is still to be passed on. -/
  | ended (state : RPCState)
  | told
  | returned (Updating : Bool)
  | refused
deriving DecidableEq, Repr

/-- The update has not begun yet. -/
def CallPhase.isAwaited : CallPhase → Bool
  | waiting => true
  | locked => true
  | running => false
  | ended _ => false
  | told => false
  | returned _ => false
  | refused => false

/-- The call has returned without leaving an update in progress, or has been refused. -/
def CallPhase.isOver : CallPhase → Bool
  | waiting => false
  | locked => false
  | running => false
  | ended _ => false
  | told => false
  | returned Updating => !Updating
  | refused => true

/-- The update state is published, a command arrives, somebody else calls `TryUpdate`, or a call
goes on. -/
inductive UpdateEvent (Percentage : Type) where
  | publish (surr : UpdateSurroundings Percentage)
  | install (actionsAllowed : Bool) (surr : UpdateSurroundings Percentage)
  | tryUpdate
  | tryLock (call : ℕ)
  | begin (call : ℕ)
  | finish (call : ℕ) (ending : Ending)
  | tell (call : ℕ)
  | return (call : ℕ)
deriving DecidableEq, Repr

/-- The update state, its lock, the publisher, the calls of `TryUpdate`, the call of the newest
command, and whether an update has ended since that command. -/
structure UpdateRuns (Percentage : Type) where
  ota : RPCState
  mu : Bool
  publisher : UpdatePublisher Percentage
  calls : List CallPhase
  command : Option ℕ
  endedSince : Bool
deriving DecidableEq, Repr

namespace UpdateRuns

variable {Percentage : Type}

def new : UpdateRuns Percentage where
  ota := ⟨false, ""⟩
  mu := false
  publisher := .new
  calls := []
  command := none
  endedSince := false

/-- A call goes on from one phase to another. -/
def advance (r : UpdateRuns Percentage) (call : ℕ) (phase phase' : CallPhase) :
    Option (UpdateRuns Percentage) :=
  if r.calls[call]? = some phase then some { r with calls := r.calls.set call phase' } else none

/-- The next state. -/
def step [Zero Percentage] (r : UpdateRuns Percentage) :
    UpdateEvent Percentage → Option (UpdateRuns Percentage)
  | .publish surr => some { r with publisher := r.publisher.publishUpdateState r.ota surr }
  | .install actionsAllowed surr =>
      some (if actionsAllowed then
        { r with
          publisher := r.publisher.handleUpdateInstallCommand r.ota surr
          calls := r.calls ++ [.waiting]
          command := some r.calls.length
          endedSince := false }
      else r)
  | .tryUpdate => some { r with calls := r.calls ++ [.waiting] }
  | .tryLock call =>
      if r.mu then r.advance call .waiting .refused
      else { r with mu := true }.advance call .waiting .locked
  | .begin call =>
      if r.ota.Updating then { r with mu := false }.advance call .locked .refused
      else { r with ota := { r.ota with Updating := true } }.advance call .locked .running
  | .finish call ending =>
      match ending with
      | .updated =>
          { r with ota := ending.result r.ota, mu := false }.advance call .running (.returned true)
      | .noUpdates =>
          { r with ota := ending.result r.ota }.advance call .running (.ended (ending.result r.ota))
      | .failed _ _ =>
          { r with ota := ending.result r.ota }.advance call .running (.ended (ending.result r.ota))
  | .tell call =>
      match r.calls[call]? with
      | some (.ended state) =>
          { r with publisher := r.publisher.onStateUpdate state, endedSince := true }.advance
            call (.ended state) .told
      | _ => none
  | .return call => { r with mu := false }.advance call .told (.returned false)

def lts [Zero Percentage] : Lts (UpdateRuns Percentage) (UpdateEvent Percentage) :=
  Lts.ofStep step

/-- The phase of the call of the newest command. -/
def commandPhase (r : UpdateRuns Percentage) : Option CallPhase :=
  r.command.bind fun call => r.calls[call]?

/-- The indicator is on while the update of the newest command is awaited, and is off when it is
over and no update is in progress. -/
def Indicates (r : UpdateRuns Percentage) (InProgress : Bool) : Prop :=
  ∀ phase ∈ r.commandPhase,
    (phase.isAwaited = true → InProgress = true) ∧
    (phase.isOver = true → r.ota.Updating = false → InProgress = false)

/-- What is published is the indicator for the state. -/
def PublishesRightly (e : Lts.Transition (UpdateRuns Percentage) (UpdateEvent Percentage)) :
    Prop :=
  ∀ surr, e.action = .publish surr → surr.connected = true →
    ∃ payload ∈ e.after.publisher.published, e.before.Indicates payload.InProgress

/-- Unless an update is in progress: while the update of the newest command is awaited, no update
has ended since the command and none has left an error, and after it has been refused, one has. -/
def Undisturbed (r : UpdateRuns Percentage) : Prop :=
  ∀ phase ∈ r.commandPhase, r.ota.Updating = false →
    (phase.isAwaited = true → r.endedSince = false ∧ r.ota.Error = "") ∧
    (phase = .refused → r.endedSince = true ∨ r.ota.Error ≠ "")

instance (r : UpdateRuns Percentage) : Decidable r.Undisturbed :=
  inferInstanceAs (Decidable (∀ phase ∈ r.commandPhase, _))

/-- The state is published while nothing has disturbed it. -/
def PublishesUndisturbed (r : UpdateRuns Percentage) : UpdateEvent Percentage → Prop
  | .publish surr => surr.connected = true → r.Undisturbed
  | .install _ _ => True
  | .tryUpdate => True
  | .tryLock _ => True
  | .begin _ => True
  | .finish _ _ => True
  | .tell _ => True
  | .return _ => True

instance (r : UpdateRuns Percentage) (event : UpdateEvent Percentage) :
    Decidable (r.PublishesUndisturbed event) := by
  cases event <;> unfold PublishesUndisturbed <;> infer_instance

variable {r r' : UpdateRuns Percentage} {call : ℕ} {phase phase' : CallPhase}
  {event : UpdateEvent Percentage} {surr : UpdateSurroundings Percentage}

/-! ### The flag -/

/-- Unless an error has been left, the flag is set exactly when there has been a command and no
update has ended since. -/
structure Kept (r : UpdateRuns Percentage) : Prop where
  cache : r.publisher.CacheIdle
  flag : r.ota.Error = "" →
    (r.publisher.updateRequested = true ↔ r.command.isSome = true ∧ r.endedSince = false)
  ended : ∀ state, .ended state ∈ r.calls → state.Updating = false
  told : ∀ phase ∈ r.commandPhase, phase = .told ∨ phase = .returned false → r.endedSince = true

theorem kept_new :
  (new : UpdateRuns Percentage).Kept
  := by
  constructor
  · intro payload hpayload
    cases hpayload
  · intro _
    simp [new, UpdatePublisher.new]
  · intro state hstate
    cases hstate
  · intro phase hphase
    cases hphase

/-- The phase of the newest command after a call has gone on. -/
theorem mem_commandPhase_set
    (h : phase ∈ ({ r with calls := r.calls.set call phase' } : UpdateRuns Percentage).commandPhase) :
  (r.command = some call ∧ phase = phase') ∨ phase ∈ r.commandPhase
  := by
  obtain ⟨command, hcommand, hcall⟩ := Option.bind_eq_some_iff.mp h
  rw [List.getElem?_set] at hcall
  split at hcall
  · rename_i heq
    obtain ⟨-, hcall⟩ := Option.ite_none_right_eq_some.mp hcall
    left
    rw [heq]
    exact ⟨hcommand, (Option.some.inj hcall).symm⟩
  · right
    apply Option.bind_eq_some_iff.mpr ⟨command, hcommand, hcall⟩

/-- A call that goes on keeps the flag, when what it has come to is as it should be. -/
theorem Kept.advance (h : r.Kept) (hadvance : r.advance call phase phase' = some r')
    (hended : ∀ state, phase' = .ended state → state.Updating = false)
    (htold : r.command = some call → phase' = .told ∨ phase' = .returned false →
      r.endedSince = true) :
  r'.Kept
  := by
  obtain ⟨-, hadvance⟩ := Option.ite_none_right_eq_some.mp hadvance
  obtain rfl := Option.some.inj hadvance
  constructor
  · apply h.cache
  · apply h.flag
  · intro state hstate
    rcases List.mem_or_eq_of_mem_set hstate with hbefore | hnew
    · apply h.ended state hbefore
    · apply hended state hnew.symm
  · intro other hother
    rcases mem_commandPhase_set hother with ⟨hcommand, rfl⟩ | hbefore
    · apply htold hcommand
    · apply h.told other hbefore

/-- What does not concern the flag may change. -/
theorem Kept.modify (h : r.Kept) {ota : RPCState} {mu : Bool} {publisher : UpdatePublisher Percentage}
    {endedSince : Bool} (hcache : publisher.CacheIdle)
    (hflag : ota.Error = "" →
      (publisher.updateRequested = true ↔ r.command.isSome = true ∧ endedSince = false))
    (hsince : r.endedSince = true → endedSince = true) :
  Kept { r with ota := ota, mu := mu, publisher := publisher, endedSince := endedSince }
  := by
  constructor
  · apply hcache
  · apply hflag
  · apply h.ended
  · intro phase hphase hover
    apply hsince
    apply h.told phase hphase hover

/-- A call that begins to wait keeps the flag. -/
theorem Kept.start (h : r.Kept) :
  Kept { r with calls := r.calls ++ [.waiting] }
  := by
  constructor
  · apply h.cache
  · apply h.flag
  · intro state hstate
    rcases List.mem_append.mp hstate with hbefore | hnew
    · apply h.ended state hbefore
    · cases List.mem_singleton.mp hnew
  · intro phase hphase hover
    obtain ⟨command, hcommand, hcall⟩ := Option.bind_eq_some_iff.mp hphase
    rw [List.getElem?_append] at hcall
    split at hcall
    · apply h.told phase _ hover
      apply Option.bind_eq_some_iff.mpr ⟨command, hcommand, hcall⟩
    · have hwaiting := List.mem_singleton.mp (List.mem_of_getElem? hcall)
      rcases hover with rfl | rfl
      · cases hwaiting
      · cases hwaiting

/-- A command sets the flag. -/
theorem Kept.install [Zero Percentage] (h : r.Kept) :
  Kept { r with
    publisher := r.publisher.handleUpdateInstallCommand r.ota surr
    calls := r.calls ++ [.waiting]
    command := some r.calls.length
    endedSince := false }
  := by
  constructor
  · apply h.cache
  · intro _
    exact ⟨fun _ => ⟨rfl, rfl⟩, fun _ => rfl⟩
  · apply h.start.ended
  · intro phase hphase hover
    have hwaiting : phase = .waiting := by
      simpa [commandPhase, eq_comm] using hphase
    rw [hwaiting] at hover
    simp at hover

/-- Publishing keeps the flag, unless an error has been left. -/
theorem Kept.publish (h : r.Kept) :
  Kept { r with publisher := r.publisher.publishUpdateState r.ota surr }
  := by
  apply h.modify h.cache.publishUpdateState
  · intro herror
    cases hconnected : surr.connected with
    | false =>
        rw [UpdatePublisher.publishUpdateState, if_pos hconnected]
        apply h.flag herror
    | true =>
        rw [UpdatePublisher.publishUpdateState_updateRequested hconnected, ← h.flag herror]
        simp [herror]
  · exact id

/-- The end of an update clears the flag. -/
theorem Kept.tell (h : r.Kept) {state : RPCState} (hstate : state.Updating = false) :
  Kept { r with publisher := r.publisher.onStateUpdate state, endedSince := true }
  := by
  have hcleared : (r.publisher.onStateUpdate state).updateRequested = false := by
    rw [UpdatePublisher.onStateUpdate, hstate]
    split
    · rfl
    · rename_i hunset
      simpa using hunset
  have hcache : (r.publisher.onStateUpdate state).CacheIdle := by
    rw [UpdatePublisher.onStateUpdate]
    split
    · apply h.cache
    · apply h.cache
  apply h.modify hcache
  · intro _
    simp [hcleared]
  · intro _
    rfl

/-- A call that goes on and has not ended keeps the flag. -/
theorem Kept.goOn (h : r.Kept) (hadvance : r.advance call phase phase' = some r')
    (hphase : phase'.isAwaited = true ∨ phase' = .running ∨ phase' = .refused ∨
      phase' = .returned true) :
  r'.Kept
  := by
  apply h.advance hadvance
  · rintro state rfl
    simp [CallPhase.isAwaited] at hphase
  · rintro - (rfl | rfl)
    · simp [CallPhase.isAwaited] at hphase
    · simp [CallPhase.isAwaited] at hphase

/-- The end of an update keeps the flag until it is told. -/
theorem Kept.finish (h : r.Kept) {ending : Ending} (hending : ending.updating = false)
    (hadvance : { r with ota := ending.result r.ota }.advance call .running
      (.ended (ending.result r.ota)) = some r') :
  r'.Kept
  := by
  have hkept : Kept { r with ota := ending.result r.ota } := by
    apply h.modify h.cache
    · intro herror
      cases ending with
      | updated => cases hending
      | noUpdates => apply h.flag herror
      | failed text message => exact absurd herror (Ending.error_failed_ne r.ota.Error text message)
    · exact id
  apply hkept.advance hadvance
  · intro state hstate
    obtain rfl := CallPhase.ended.inj hstate
    apply hending
  · rintro - (heq | heq)
    · cases heq
    · cases heq

/-- Whatever happens keeps the flag. -/
theorem Kept.step [Zero Percentage] (h : r.Kept) (hstep : r.step event = some r') :
  r'.Kept
  := by
  cases event with
  | publish surr =>
      obtain rfl := Option.some.inj hstep
      apply h.publish
  | install actionsAllowed surr =>
      obtain rfl := Option.some.inj hstep
      split
      · apply h.install
      · apply h
  | tryUpdate =>
      obtain rfl := Option.some.inj hstep
      apply h.start
  | tryLock call =>
      rw [UpdateRuns.step] at hstep
      split at hstep
      · apply h.goOn hstep
        simp
      · apply Kept.goOn _ hstep
        · simp [CallPhase.isAwaited]
        · apply h.modify h.cache h.flag id
  | begin call =>
      rw [UpdateRuns.step] at hstep
      split at hstep
      · apply Kept.goOn _ hstep
        · simp
        · apply h.modify h.cache h.flag id
      · apply Kept.goOn _ hstep
        · simp
        · exact h.modify h.cache h.flag id
  | finish call ending =>
      cases ending with
      | updated =>
          apply Kept.goOn _ hstep
          · simp
          · exact h.modify h.cache h.flag id
      | noUpdates => apply h.finish rfl hstep
      | failed text message => apply h.finish rfl hstep
  | tell call =>
      rw [UpdateRuns.step] at hstep
      split at hstep
      · rename_i state hcall
        have hstate := h.ended state (List.mem_of_getElem? hcall)
        apply (h.tell hstate).advance hstep
        · intro _ heq
          cases heq
        · intro _ _
          rfl
      · cases hstep
  | «return» call =>
      have hkept : Kept { r with mu := false } := h.modify h.cache h.flag id
      apply hkept.advance hstep
      · intro _ heq
        cases heq
      · intro hcommand _
        obtain ⟨htold, -⟩ := Option.ite_none_right_eq_some.mp hstep
        apply h.told .told _ (Or.inl rfl)
        apply Option.bind_eq_some_iff.mpr ⟨call, hcommand, htold⟩

/-! ### The indicator -/

/-- What says whether there is an update, or one that has been requested without an error being
left, is the indicator exactly when nothing has disturbed it. -/
theorem Kept.indicates_iff (h : r.Kept) :
  r.Indicates (r.ota.Updating || r.publisher.updateRequested && decide (r.ota.Error = "")) ↔
    r.Undisturbed
  := by
  apply forall_congr'
  intro phase
  apply forall_congr'
  intro hphase
  have hcommand : r.command.isSome = true := by
    obtain ⟨command, hcommand, -⟩ := Option.bind_eq_some_iff.mp hphase
    rw [hcommand]
    rfl
  have htold := h.told phase hphase
  cases hupdating : r.ota.Updating with
  | true => simp
  | false =>
      by_cases herror : r.ota.Error = ""
      · have hflag : r.publisher.updateRequested = !r.endedSince := by
          have hiff := h.flag herror
          rw [hcommand] at hiff
          cases hended : r.endedSince with
          | false => simpa [hended] using hiff
          | true => simpa [hended] using hiff
        cases phase with
        | returned Updating =>
            cases Updating with
            | false => simp [CallPhase.isAwaited, CallPhase.isOver, hflag, htold]
            | true => simp [CallPhase.isAwaited, CallPhase.isOver]
        | _ => simp [CallPhase.isAwaited, CallPhase.isOver, hflag, herror]
      · simp [herror]

/-- The published state is the indicator exactly when nothing has disturbed it. -/
theorem Kept.publishesRightly_iff [Zero Percentage] (h : r.Kept)
    (hstep : r.step event = some r') :
  PublishesRightly ⟨r, event, r'⟩ ↔ r.PublishesUndisturbed event
  := by
  cases event with
  | publish surr =>
      obtain rfl := Option.some.inj hstep
      have hpublishes : surr.connected = true → ∃ payload,
          (r.publisher.publishUpdateState r.ota surr).published = some payload ∧
            payload.InProgress =
              (r.ota.Updating || r.publisher.updateRequested && decide (r.ota.Error = "")) :=
        UpdatePublisher.publishUpdateState_published h.cache
      constructor
      · intro hright hconnected
        obtain ⟨payload, hpayload, hindicates⟩ := hright surr rfl hconnected
        obtain ⟨payload', hpublished, hprogress⟩ := hpublishes hconnected
        obtain rfl := Option.some.inj (hpublished.symm.trans hpayload)
        rw [hprogress] at hindicates
        apply h.indicates_iff.mp hindicates
      · intro hundisturbed surr' hsurr hconnected
        obtain rfl := UpdateEvent.publish.inj hsurr
        obtain ⟨payload, hpublished, hprogress⟩ := hpublishes hconnected
        use payload, hpublished
        rw [hprogress]
        apply h.indicates_iff.mpr (hundisturbed hconnected)
  | _ =>
      apply iff_of_true _ trivial
      intro _ hpublish
      cases hpublish

/-- In every run the published states are the indicator exactly when they are published while
nothing has disturbed it. -/
theorem publishes_rightly_iff [Zero Percentage]
    {tr : List (Lts.Transition (UpdateRuns Percentage) (UpdateEvent Percentage))}
    (run : lts.Run new tr r) :
  (∀ e ∈ tr, PublishesRightly e) ↔ ∀ e ∈ tr, e.before.PublishesUndisturbed e.action
  := by
  apply run.forall_iff kept_new
  · intro e hkept hstep
    apply hkept.publishesRightly_iff hstep
  · intro e _ hkept hstep
    apply hkept.step hstep

/-- What publishing meets in the examples. -/
def exampleSurroundings : UpdateSurroundings ℕ where
  connected := true
  localVersion := ⟨false, some "0.5.1"⟩
  now := 0
  updateStatus := none
  checkedAt := 0
  progress := 0

/-- A command asks for an update, and there is none. -/
theorem publishes_rightly_without_update :
  ∃ (tr : List (Lts.Transition (UpdateRuns ℕ) (UpdateEvent ℕ))) (r : UpdateRuns ℕ),
    lts.Run new tr r ∧ r.commandPhase = some (.returned false) ∧ ∀ e ∈ tr, PublishesRightly e
  := by
  obtain ⟨tr, r, run, -, hcalm, hphase⟩ := Lts.exists_run_of_restrict step
    PublishesUndisturbed (new : UpdateRuns ℕ)
    [.install true exampleSurroundings, .publish exampleSurroundings, .tryLock 0, .begin 0,
      .publish exampleSurroundings, .finish 0 .noUpdates, .tell 0, .return 0,
      .publish exampleSurroundings]
    commandPhase (by decide +kernel : _ = some (some (.returned false)))
  use tr, r, run, hphase
  apply (publishes_rightly_iff run).mpr hcalm

/-- An update fails, and after the next command no update is said to be in progress. -/
theorem publishes_not_requested :
  ¬ ∀ (tr : List (Lts.Transition (UpdateRuns ℕ) (UpdateEvent ℕ))) (r : UpdateRuns ℕ),
      lts.Run new tr r → ∀ e ∈ tr, PublishesRightly e
  := by
  intro claim
  obtain ⟨tr, r, run, -, hobserved⟩ := Lts.exists_run_of_observe step (new : UpdateRuns ℕ)
    [.tryUpdate, .tryLock 0, .begin 0, .finish 0 (.failed "Error checking for updates" "timeout"),
      .tell 0, .return 0, .install true exampleSurroundings]
    (fun r => (r.commandPhase,
      (r.publisher.publishUpdateState r.ota exampleSurroundings).published.map
        mqttUpdateState.InProgress))
    (by decide +kernel : _ = some (some .waiting, some false))
  obtain ⟨hphase, hprogress⟩ := Prod.mk.inj hobserved
  have hstep : r.step (.publish exampleSurroundings) =
      some { r with publisher := r.publisher.publishUpdateState r.ota exampleSurroundings } := rfl
  obtain ⟨payload, hpayload, hindicates⟩ := claim _ _ (run.snoc hstep) _
    (List.mem_append_right _ (List.mem_singleton_self _)) exampleSurroundings rfl rfl
  rw [Option.map_eq_some_iff] at hprogress
  obtain ⟨published, hpublished, hprogress⟩ := hprogress
  obtain rfl := Option.some.inj (hpublished.symm.trans hpayload)
  have hawaited := (hindicates _ hphase).1 rfl
  rw [hprogress] at hawaited
  cases hawaited

end UpdateRuns

end JetKvm.Mqtt
