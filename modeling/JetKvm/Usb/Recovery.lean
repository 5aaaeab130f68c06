import JetKvm.Library.Transition

/-!
# Recovery of the USB gadget

A goroutine looks at the state of the USB gadget twice a second, and binds the gadget to its
controller again when it is detached although emulation is switched on. Whether it is switched on is
looked up before, so that a gadget may come back after it has been switched off. The time is looked
up before the lock is taken, here and where the recovery is put off, so that the time of the last
attempt may be set back.
-/

namespace JetKvm.Usb

/-- The states as the kernel reports them. -/
inductive UsbState where
  | notAttached
  | unknown
  | other (state : String)
deriving DecidableEq, Repr

/-- `USBRecoveryRetryInterval`. Times are in milliseconds. -/
def USBRecoveryRetryInterval : ℕ := 5000

/-- A detached gadget that is wanted is recovered at most every five seconds. -/
def shouldAttemptUSBRecovery (state : UsbState) (desired : Bool) (lastAttempt : Option ℕ)
    (now : ℕ) : Bool :=
  if state ≠ .notAttached ∨ desired = false then false
  else
    match lastAttempt with
    | none => true
    | some last => last + USBRecoveryRetryInterval ≤ now

/-- Why the gadget is bound again. -/
inductive Rebinder where
  | recovery
  | reconfiguration
  | correction
deriving DecidableEq, Repr

/-- What `rebindUsb` does next. -/
inductive Rebinding where
  | unbind
  | bind
  | unbindAgain
  | bindAgain
deriving DecidableEq, Repr

/-- Where the goroutine is. -/
inductive Checker where
  | sleeping
  /-- In `attemptUSBRecovery`, before the time is looked up, and before the lock is taken. -/
  | attempting
  | deciding (now : ℕ)
  | rebinding (next : Rebinding) (rebinder : Rebinder)
  /-- In `tryReopenKeyboard`. -/
  | reopening (reconfigured : Bool)
  /-- In `UpdateGadgetConfig`. -/
  | reconfiguring
  /-- At the end of `attemptUSBRecovery`, before the state is read. -/
  | reading
  /-- In `checkUSBState`, before the lock is taken. -/
  | storing (newState : UsbState)
  /-- In `checkUSBState`, before the lock is taken again. -/
  | restoring
deriving DecidableEq, Repr

/-- The variables of `usb.go`, the goroutine, the calls of `rpcSetUsbEmulationState` that have still
to bind or unbind the gadget, and the times that calls of `setUSBRecoveryTimer` have still to
set. -/
structure UsbGadget where
  bound : Bool
  usbState : UsbState
  usbEmulationDesired : Bool
  lastUSBRecoveryTry : Option ℕ
  now : ℕ
  checker : Checker
  calls : List Bool
  timers : List ℕ
deriving DecidableEq, Repr

/-- What the goroutine, the handlers, the host and the clock do. -/
inductive UsbAction where
  | wait (milliseconds : ℕ)
  | check (state : UsbState)
  | lookUpTime
  | attempt
  | unbind (succeeds : Bool)
  | bind (succeeds healthy : Bool)
  | reopen (succeeds : Bool)
  | reconfigure (rebinds : Bool)
  | read (state : UsbState)
  | store (opens : Bool)
  | restore (state : UsbState)
  | setUSBEmulationDesired (enabled : Bool)
  /-- `BindUDC` or `UnbindUDC`. -/
  | switch (enabled succeeds : Bool)
  /-- Another call that has the lock of the configuration binds or unbinds the gadget. -/
  | rebind (bound : Bool)
  /-- Another call is about to set the time of the last attempt, and sets it. -/
  | callTimer
  | setUSBRecoveryTimer (lastAttempt : ℕ)
deriving DecidableEq, Repr

/-- The action is one of the goroutine, or time passes. -/
def UsbAction.OfChecker : UsbAction → Prop
  | .setUSBEmulationDesired _ => False
  | .switch _ _ => False
  | .rebind _ => False
  | .callTimer => False
  | .setUSBRecoveryTimer _ => False
  | _ => True

/-- The action is about times: one passes, or is looked up, noted or forgotten. -/
def UsbAction.OfTimes : UsbAction → Prop
  | .wait _ => True
  | .lookUpTime => True
  | .attempt => True
  | .store _ => True
  | .restore _ => True
  | .callTimer => True
  | .setUSBRecoveryTimer _ => True
  | _ => False

namespace UsbGadget

/-- `GetUsbState` can return the state. A gadget that is not bound is not attached. -/
def Reads (s : UsbGadget) (state : UsbState) : Prop :=
  s.bound = true ∨ state = .notAttached

instance (s : UsbGadget) (state : UsbState) : Decidable (s.Reads state) :=
  inferInstanceAs (Decidable (_ ∨ _))

/-- The decision that `attemptUSBRecovery` makes while it has the lock. -/
def attemptUSBRecovery (s : UsbGadget) (now : ℕ) : UsbGadget :=
  if shouldAttemptUSBRecovery .notAttached s.usbEmulationDesired s.lastUSBRecoveryTry now then
    { s with lastUSBRecoveryTry := some now, checker := .rebinding .unbind .recovery }
  else { s with checker := .storing .notAttached }

/-- Where the goroutine is after `RebindUsb`. -/
def afterRebinding (succeeds : Bool) : Rebinder → Checker
  | .recovery => if succeeds then .reopening false else .storing .notAttached
  | .reconfiguration => if succeeds then .reopening true else .reading
  | .correction => .restoring

/-- The end of `checkUSBState`, with the file that is opened when the gadget has been attached. -/
def store (s : UsbGadget) (newState : UsbState) (opens : Bool) : UsbGadget :=
  let lastTry := if newState ≠ .notAttached then none else s.lastUSBRecoveryTry
  if newState = s.usbState then { s with lastUSBRecoveryTry := lastTry, checker := .sleeping }
  else if newState ≠ .notAttached ∧ opens = false then
    { s with
      usbState := newState
      lastUSBRecoveryTry := some s.now
      checker := .rebinding .unbind .correction }
  else { s with usbState := newState, lastUSBRecoveryTry := lastTry, checker := .sleeping }

/-- The next state. -/
def step (s : UsbGadget) : UsbAction → Option UsbGadget
  | .wait milliseconds => some { s with now := s.now + milliseconds }
  | .check state =>
      if s.checker = .sleeping ∧ s.Reads state then
        some { s with checker := if state = .notAttached then .attempting else .storing state }
      else none
  | .lookUpTime =>
      if s.checker = .attempting then some { s with checker := .deciding s.now } else none
  | .attempt =>
      match s.checker with
      | .deciding now => some (s.attemptUSBRecovery now)
      | _ => none
  | .unbind succeeds =>
      match s.checker with
      | .rebinding .unbind rebinder =>
          some { s with
            bound := s.bound && !succeeds
            checker := .rebinding .bind rebinder }
      | .rebinding .unbindAgain rebinder =>
          some { s with
            bound := s.bound && !succeeds
            checker := .rebinding .bindAgain rebinder }
      | _ => none
  | .bind succeeds healthy =>
      match s.checker with
      | .rebinding .bind rebinder =>
          some { s with
            bound := s.bound || succeeds
            checker :=
              if succeeds = true ∧ healthy = false then .rebinding .unbindAgain rebinder
              else afterRebinding succeeds rebinder }
      | .rebinding .bindAgain rebinder =>
          some { s with
            bound := s.bound || succeeds
            checker := afterRebinding succeeds rebinder }
      | _ => none
  | .reopen succeeds =>
      match s.checker with
      | .reopening reconfigured =>
          some { s with
            checker := if succeeds || reconfigured then .reading else .reconfiguring }
      | _ => none
  | .reconfigure rebinds =>
      if s.checker = .reconfiguring then
        some { s with
          checker := if rebinds then .rebinding .unbind .reconfiguration else .reading }
      else none
  | .read state =>
      if s.checker = .reading ∧ s.Reads state then some { s with checker := .storing state }
      else none
  | .store opens =>
      match s.checker with
      | .storing newState => some (s.store newState opens)
      | _ => none
  | .restore state =>
      if s.checker = .restoring ∧ s.Reads state then
        some { s with
          usbState := state
          lastUSBRecoveryTry := some s.now
          checker := .sleeping }
      else none
  | .setUSBEmulationDesired enabled =>
      some { s with usbEmulationDesired := enabled, calls := enabled :: s.calls }
  | .switch enabled succeeds =>
      if enabled ∈ s.calls then
        some { s with
          bound := if succeeds then enabled else s.bound
          calls := s.calls.erase enabled }
      else none
  -- both hold the lock of the configuration
  | .rebind bound =>
      match s.checker with
      | .rebinding _ _ => none
      | _ => some { s with bound := bound }
  | .callTimer => some { s with timers := s.now :: s.timers }
  | .setUSBRecoveryTimer lastAttempt =>
      if lastAttempt ∈ s.timers then
        some { s with
          lastUSBRecoveryTry := some lastAttempt
          timers := s.timers.erase lastAttempt }
      else none

/-- The gadget when the goroutine is started. -/
def start (bound : Bool) (now : ℕ) : UsbGadget where
  bound := bound
  usbState := .unknown
  usbEmulationDesired := true
  lastUSBRecoveryTry := some now
  now := now
  checker := .sleeping
  calls := []
  timers := []

/-- The steps come in any order. -/
def lts : Lts UsbGadget UsbAction :=
  Lts.ofStep step

variable {s s' t t' : UsbGadget} {a : UsbAction} {tr : List (Lts.Transition UsbGadget UsbAction)}

/-! ### How often the gadget is recovered -/

/-- The last attempt is forgotten, when a state other than `not attached` is taken notice of (even
if that is only because the state could not be read), or when a time before it is set. -/
def forgets (time : ℕ) (s : UsbGadget) (a : UsbAction) : Bool :=
  match s.checker, a with
  | .storing newState, .store _ => newState ≠ .notAttached
  | _, .setUSBRecoveryTimer lastAttempt => lastAttempt < time
  | _, _ => false

/-- No time is looked up that has not come. -/
structure Timely (s : UsbGadget) : Prop where
  last : ∀ last ∈ s.lastUSBRecoveryTry, last ≤ s.now
  timers : ∀ lastAttempt ∈ s.timers, lastAttempt ≤ s.now
  deciding : ∀ now, s.checker = .deciding now → now ≤ s.now

/-- The last attempt is not forgotten, and was not made before a time that has passed. -/
def TriedSince (time : ℕ) (s : UsbGadget) : Prop :=
  time ≤ s.now ∧ ∃ last, s.lastUSBRecoveryTry = some last ∧ time ≤ last

variable {time now : ℕ}

/-- No time passes, is looked up, noted or forgotten, and nothing is to be decided that was not to
be decided before. -/
structure KeepsTimes (s t : UsbGadget) : Prop where
  last : t.lastUSBRecoveryTry = s.lastUSBRecoveryTry
  timers : t.timers = s.timers
  now : t.now = s.now
  deciding : ∀ now, t.checker = .deciding now → s.checker = .deciding now

/-- After it has bound the gadget, the goroutine has nothing to decide. -/
theorem afterRebinding_ne (now : ℕ) (succeeds : Bool) (rebinder : Rebinder) :
  afterRebinding succeeds rebinder ≠ .deciding now
  := by
  cases rebinder <;> cases succeeds <;> simp [afterRebinding]

/-- Of most of the steps only the goroutine or the gadget is changed. -/
theorem keepsTimes_step (hstep : lts.step s a t) (htimes : ¬ a.OfTimes) :
  KeepsTimes s t
  := by
  change s.step a = some t at hstep
  cases a with
  | wait | lookUpTime | attempt | store | restore | callTimer | setUSBRecoveryTimer =>
      exact absurd trivial htimes
  | check state =>
      obtain ⟨-, hstep⟩ := Option.ite_none_right_eq_some.mp hstep
      obtain rfl := Option.some.inj hstep
      refine ⟨rfl, rfl, rfl, ?_⟩
      dsimp only
      split <;> simp
  | unbind succeeds =>
      dsimp only [UsbGadget.step] at hstep
      split at hstep <;> cases hstep <;> exact ⟨rfl, rfl, rfl, by simp⟩
  | bind succeeds healthy =>
      dsimp only [UsbGadget.step] at hstep
      split at hstep
      · obtain rfl := Option.some.inj hstep
        refine ⟨rfl, rfl, rfl, fun now hat => absurd hat ?_⟩
        dsimp only
        split
        · simp
        · exact afterRebinding_ne now _ _
      · obtain rfl := Option.some.inj hstep
        exact ⟨rfl, rfl, rfl, fun now hat => absurd hat (afterRebinding_ne now _ _)⟩
      · cases hstep
  | reopen succeeds =>
      dsimp only [UsbGadget.step] at hstep
      split at hstep <;> cases hstep
      refine ⟨rfl, rfl, rfl, ?_⟩
      dsimp only
      split <;> simp
  | reconfigure rebinds =>
      obtain ⟨-, hstep⟩ := Option.ite_none_right_eq_some.mp hstep
      obtain rfl := Option.some.inj hstep
      refine ⟨rfl, rfl, rfl, ?_⟩
      dsimp only
      split <;> simp
  | read state =>
      obtain ⟨-, hstep⟩ := Option.ite_none_right_eq_some.mp hstep
      obtain rfl := Option.some.inj hstep
      exact ⟨rfl, rfl, rfl, by simp⟩
  | setUSBEmulationDesired enabled =>
      obtain rfl := Option.some.inj hstep
      exact ⟨rfl, rfl, rfl, fun _ hat => hat⟩
  | switch enabled succeeds =>
      obtain ⟨-, hstep⟩ := Option.ite_none_right_eq_some.mp hstep
      obtain rfl := Option.some.inj hstep
      exact ⟨rfl, rfl, rfl, fun _ hat => hat⟩
  | rebind bound =>
      dsimp only [UsbGadget.step] at hstep
      split at hstep <;> cases hstep
      exact ⟨rfl, rfl, rfl, fun _ hat => hat⟩

theorem KeepsTimes.timely (h : KeepsTimes s t) (htimely : s.Timely) :
  t.Timely
  := by
  refine ⟨?_, ?_, ?_⟩
  · rw [h.last, h.now]
    exact htimely.last
  · rw [h.timers, h.now]
    exact htimely.timers
  · rw [h.now]
    exact fun now hat => htimely.deciding now (h.deciding now hat)

theorem KeepsTimes.triedSince (h : KeepsTimes s t) (htried : s.TriedSince time) :
  t.TriedSince time
  := by
  rw [TriedSince, h.last, h.now]
  exact htried

/-- A decision notes the time that was looked up for it. -/
theorem Timely.attemptUSBRecovery (h : s.Timely) (hat : s.checker = .deciding now) :
  (s.attemptUSBRecovery now).Timely
  := by
  rw [UsbGadget.attemptUSBRecovery]
  split
  · refine ⟨?_, h.timers, by simp⟩
    intro last hlast
    obtain rfl := Option.some.inj hlast
    exact h.deciding _ hat
  · exact ⟨h.last, h.timers, by simp⟩

/-- A state that is taken notice of notes no time, or the present one. -/
theorem Timely.store (h : s.Timely) (newState : UsbState) (opens : Bool) :
  (s.store newState opens).Timely
  := by
  have hlast : ∀ last ∈ (if newState ≠ .notAttached then none else s.lastUSBRecoveryTry),
      last ≤ s.now := by
    split
    · simp
    · exact h.last
  rw [UsbGadget.store]
  split
  · exact ⟨hlast, h.timers, by simp⟩
  · split
    · exact ⟨by simp, h.timers, by simp⟩
    · exact ⟨hlast, h.timers, by simp⟩

/-- No step notes a time that is still to come. -/
theorem Timely.step (h : s.Timely) (hstep : lts.step s a t) :
  t.Timely
  := by
  by_cases htimes : a.OfTimes
  case neg => exact (keepsTimes_step hstep htimes).timely h
  change s.step a = some t at hstep
  cases a with
  | wait milliseconds =>
      obtain rfl := Option.some.inj hstep
      exact ⟨fun last hlast => Nat.le_add_right_of_le (h.last last hlast),
        fun lastAttempt hmem => Nat.le_add_right_of_le (h.timers lastAttempt hmem),
        fun now hat => Nat.le_add_right_of_le (h.deciding now hat)⟩
  | lookUpTime =>
      obtain ⟨-, hstep⟩ := Option.ite_none_right_eq_some.mp hstep
      obtain rfl := Option.some.inj hstep
      exact ⟨h.last, h.timers, by simp⟩
  | attempt =>
      dsimp only [UsbGadget.step] at hstep
      split at hstep
      case h_1 hat =>
        obtain rfl := Option.some.inj hstep
        exact h.attemptUSBRecovery hat
      case h_2 => cases hstep
  | store opens =>
      dsimp only [UsbGadget.step] at hstep
      split at hstep <;> cases hstep
      exact h.store ..
  | restore state =>
      obtain ⟨-, hstep⟩ := Option.ite_none_right_eq_some.mp hstep
      obtain rfl := Option.some.inj hstep
      exact ⟨by simp, h.timers, by simp⟩
  | callTimer =>
      obtain rfl := Option.some.inj hstep
      refine ⟨h.last, ?_, h.deciding⟩
      intro lastAttempt hmem
      rcases List.mem_cons.mp hmem with rfl | hmem
      · exact Nat.le_refl _
      · exact h.timers lastAttempt hmem
  | setUSBRecoveryTimer lastAttempt =>
      obtain ⟨hmem, hstep⟩ := Option.ite_none_right_eq_some.mp hstep
      obtain rfl := Option.some.inj hstep
      refine ⟨?_, ?_, h.deciding⟩
      · intro last hlast
        obtain rfl := Option.some.inj hlast
        exact h.timers _ hmem
      · exact fun lastAttempt' hmem' => h.timers lastAttempt' (List.mem_of_mem_erase hmem')
  | _ => exact htimes.elim

/-- The goroutine recovers the gadget only if the last attempt was made long enough before. -/
theorem should_iff (desired : Bool) (lastAttempt : Option ℕ) :
  shouldAttemptUSBRecovery .notAttached desired lastAttempt now = true ↔
    desired = true ∧ ∀ last ∈ lastAttempt, last + USBRecoveryRetryInterval ≤ now
  := by
  rw [shouldAttemptUSBRecovery.eq_def]
  cases desired <;> cases lastAttempt <;> simp

/-- A decision notes a later time. -/
theorem TriedSince.attemptUSBRecovery (h : s.TriedSince time) :
  (s.attemptUSBRecovery now).TriedSince time
  := by
  rw [UsbGadget.attemptUSBRecovery]
  split
  case isTrue hshould =>
    obtain ⟨hnow, last, hlast, hle⟩ := h
    have hdue := ((should_iff ..).mp hshould).2 last hlast
    exact ⟨hnow, now, rfl, by omega⟩
  case isFalse => exact h

/-- A gadget that is still detached forgets nothing. -/
theorem TriedSince.store (h : s.TriedSince time) (opens : Bool) :
  (s.store .notAttached opens).TriedSince time
  := by
  rw [UsbGadget.store]
  split
  · exact h
  · exact h

/-- A step that forgets nothing goes back to no earlier time. -/
theorem TriedSince.step (h : s.TriedSince time) (hstep : lts.step s a t)
    (hkept : forgets time s a = false) :
  t.TriedSince time
  := by
  by_cases htimes : a.OfTimes
  case neg => exact (keepsTimes_step hstep htimes).triedSince h
  change s.step a = some t at hstep
  cases a with
  | wait milliseconds =>
      obtain rfl := Option.some.inj hstep
      exact ⟨Nat.le_add_right_of_le h.1, h.2⟩
  | lookUpTime =>
      obtain ⟨-, hstep⟩ := Option.ite_none_right_eq_some.mp hstep
      obtain rfl := Option.some.inj hstep
      exact h
  | attempt =>
      dsimp only [UsbGadget.step] at hstep
      split at hstep <;> cases hstep
      exact h.attemptUSBRecovery
  | store opens =>
      dsimp only [UsbGadget.step] at hstep
      split at hstep
      case h_1 newState hstoring =>
        obtain rfl := Option.some.inj hstep
        have hdetached : newState = .notAttached := by
          simpa only [forgets, hstoring, decide_eq_false_iff_not, not_not] using hkept
        rw [hdetached]
        exact h.store opens
      case h_2 => cases hstep
  | restore state =>
      obtain ⟨-, hstep⟩ := Option.ite_none_right_eq_some.mp hstep
      obtain rfl := Option.some.inj hstep
      exact ⟨h.1, _, rfl, h.1⟩
  | callTimer =>
      obtain rfl := Option.some.inj hstep
      exact h
  | setUSBRecoveryTimer lastAttempt =>
      obtain ⟨-, hstep⟩ := Option.ite_none_right_eq_some.mp hstep
      obtain rfl := Option.some.inj hstep
      have hle : time ≤ lastAttempt := by
        have hnot : ¬ lastAttempt < time := by
          cases hchecker : s.checker <;> simpa [forgets, hchecker] using hkept
        omega
      exact ⟨h.1, _, rfl, hle⟩
  | _ => exact htimes.elim

/-- The goroutine decides to recover the gadget, at a time that it has looked up. -/
structure Recovers (s : UsbGadget) (now : ℕ) (t : UsbGadget) : Prop where
  deciding : s.checker = .deciding now
  step : lts.step s .attempt t
  recovers : t.checker = .rebinding .unbind .recovery

/-- What a decision to recover the gadget has found, and what it does. -/
theorem Recovers.eq (h : s.Recovers now t) :
  shouldAttemptUSBRecovery .notAttached s.usbEmulationDesired s.lastUSBRecoveryTry now = true ∧
    t = { s with lastUSBRecoveryTry := some now, checker := .rebinding .unbind .recovery }
  := by
  obtain ⟨hdeciding, hstep, hchecker⟩ := h
  change s.step .attempt = some t at hstep
  rw [UsbGadget.step, hdeciding] at hstep
  obtain rfl := Option.some.inj hstep
  rw [attemptUSBRecovery] at hchecker ⊢
  split at hchecker
  case isTrue hshould => exact ⟨hshould, if_pos hshould⟩
  case isFalse => cases hchecker

/-- In every run from the start, no time is noted before it has come. -/
theorem timely_of_run {bound : Bool} {clock : ℕ} (run : lts.Run (start bound clock) tr s) :
  s.Timely
  := by
  have hstart : (start bound clock).Timely := ⟨by simp [start], by simp [start], by simp [start]⟩
  exact run.invariant hstart fun e _ hbefore hstep => hbefore.step hstep

/-- What happens until it is decided to recover the gadget, five seconds after the start. -/
def firstRecovery : List UsbAction :=
  [.wait 5000, .check .notAttached, .lookUpTime, .attempt]

/-- What happens until it is to be decided again, when the gadget could not be bound. -/
def nextRecovery : List UsbAction :=
  [.unbind true, .bind false true, .store true, .wait 5000, .check .notAttached, .lookUpTime]

/-- The goroutine has left behind the place where it looks whether emulation is switched on, and
may bind the gadget. -/
def MayBind (s : UsbGadget) : Prop :=
  match s.checker with
  | .rebinding _ _ => True
  | .reopening reconfigured => reconfigured = false
  | .reconfiguring => True
  | .storing newState => newState ≠ .notAttached ∧ newState ≠ s.usbState
  | _ => False

/-- The gadget is switched off, and the goroutine does not bind it. -/
structure StaysOff (s : UsbGadget) : Prop where
  desired : s.usbEmulationDesired = false
  bound : s.bound = false
  mayBind : ¬ s.MayBind

/-- A gadget that is not bound is read as detached. -/
theorem Reads.eq_notAttached {state : UsbState} (h : s.Reads state) (hbound : s.bound = false) :
  state = .notAttached
  := by
  rcases h with htrue | hstate
  · rw [hbound] at htrue
    cases htrue
  · exact hstate

/-- The goroutine does not bind a gadget that is switched off. -/
theorem StaysOff.step (h : s.StaysOff) (hchecker : a.OfChecker) (hstep : lts.step s a t) :
  t.StaysOff
  := by
  change s.step a = some t at hstep
  obtain ⟨hdesired, hbound, hnot⟩ := h
  cases a with
  | wait milliseconds =>
      obtain rfl := Option.some.inj hstep
      exact ⟨hdesired, hbound, hnot⟩
  | check state =>
      obtain ⟨⟨-, hreads⟩, hstep⟩ := Option.ite_none_right_eq_some.mp hstep
      obtain rfl := Option.some.inj hstep
      obtain rfl := hreads.eq_notAttached hbound
      exact ⟨hdesired, hbound, not_false⟩
  | lookUpTime =>
      obtain ⟨-, hstep⟩ := Option.ite_none_right_eq_some.mp hstep
      obtain rfl := Option.some.inj hstep
      exact ⟨hdesired, hbound, not_false⟩
  | attempt =>
      dsimp only [UsbGadget.step] at hstep
      split at hstep
      case h_1 =>
        obtain rfl := Option.some.inj hstep
        rw [attemptUSBRecovery, if_neg (by simp [shouldAttemptUSBRecovery, hdesired])]
        exact ⟨hdesired, hbound, fun hmay => hmay.1 rfl⟩
      case h_2 => cases hstep
  | unbind succeeds =>
      dsimp only [UsbGadget.step] at hstep
      split at hstep
      case h_1 hat => simp [MayBind, hat] at hnot
      case h_2 hat => simp [MayBind, hat] at hnot
      case h_3 => cases hstep
  | bind succeeds healthy =>
      dsimp only [UsbGadget.step] at hstep
      split at hstep
      case h_1 hat => simp [MayBind, hat] at hnot
      case h_2 hat => simp [MayBind, hat] at hnot
      case h_3 => cases hstep
  | reopen succeeds =>
      dsimp only [UsbGadget.step] at hstep
      split at hstep
      case h_1 reconfigured hat =>
        obtain rfl := Option.some.inj hstep
        have hreconfigured : reconfigured = true := by simpa [MayBind, hat] using hnot
        rw [hreconfigured, Bool.or_true]
        exact ⟨hdesired, hbound, not_false⟩
      case h_2 => cases hstep
  | reconfigure rebinds =>
      obtain ⟨hat, -⟩ := Option.ite_none_right_eq_some.mp hstep
      simp [MayBind, hat] at hnot
  | read state =>
      obtain ⟨⟨-, hreads⟩, hstep⟩ := Option.ite_none_right_eq_some.mp hstep
      obtain rfl := Option.some.inj hstep
      obtain rfl := hreads.eq_notAttached hbound
      exact ⟨hdesired, hbound, fun hmay => hmay.1 rfl⟩
  | store opens =>
      dsimp only [UsbGadget.step] at hstep
      split at hstep
      case h_1 newState hat =>
        obtain rfl := Option.some.inj hstep
        have hknown : newState = .notAttached ∨ newState = s.usbState := by
          simp only [MayBind, hat] at hnot
          by_contra hnew
          exact hnot (not_or.mp hnew)
        rw [UsbGadget.store]
        split
        case isTrue => exact ⟨hdesired, hbound, not_false⟩
        case isFalse hchanged =>
          rw [if_neg fun hopens => hopens.1 (hknown.resolve_right hchanged)]
          exact ⟨hdesired, hbound, not_false⟩
      case h_2 => cases hstep
  | restore state =>
      obtain ⟨-, hstep⟩ := Option.ite_none_right_eq_some.mp hstep
      obtain rfl := Option.some.inj hstep
      exact ⟨hdesired, hbound, not_false⟩
  | setUSBEmulationDesired enabled => cases hchecker
  | switch enabled succeeds => cases hchecker
  | rebind bound => cases hchecker
  | callTimer => cases hchecker
  | setUSBRecoveryTimer lastAttempt => cases hchecker

/-- In every run of the goroutine, it stays unbound. -/
theorem StaysOff.run (h : s.StaysOff) (run : lts.Run s tr t)
    (hchecker : ∀ e ∈ tr, e.action.OfChecker) :
  t.StaysOff
  := run.invariant h fun e he hbefore hstep => hbefore.step (hchecker e he) hstep

/-- The goroutine can bind the gadget. -/
def ComesBack (s : UsbGadget) : Prop :=
  ∃ tr t, lts.Run s tr t ∧ (∀ e ∈ tr, e.action.OfChecker) ∧ t.bound = true

/-- A gadget comes back when the goroutine can bind it. -/
theorem comesBack_of_play (actions : List UsbAction) (hactions : ∀ a ∈ actions, a.OfChecker)
    (hplay : (Lts.play step s actions).map bound = some true) :
  s.ComesBack
  := by
  obtain ⟨tr, t, run, rfl, hbound⟩ := Lts.exists_run_of_observe _ _ _ _ hplay
  exact ⟨tr, t, run, fun e he => hactions _ (List.mem_map_of_mem he), hbound⟩

/-- A goroutine that is past its check binds the gadget. -/
theorem MayBind.comesBack (h : s.MayBind) :
  s.ComesBack
  := by
  rw [MayBind] at h
  split at h
  case h_1 next rebinder hat =>
    cases next with
    | unbind =>
        apply comesBack_of_play [.unbind true, .bind true true] (by simp [UsbAction.OfChecker])
        simp [Lts.play, step, hat]
    | bind =>
        apply comesBack_of_play [.bind true true] (by simp [UsbAction.OfChecker])
        simp [Lts.play, step, hat]
    | unbindAgain =>
        apply comesBack_of_play [.unbind true, .bind true true] (by simp [UsbAction.OfChecker])
        simp [Lts.play, step, hat]
    | bindAgain =>
        apply comesBack_of_play [.bind true true] (by simp [UsbAction.OfChecker])
        simp [Lts.play, step, hat]
  case h_2 reconfigured hat =>
    apply comesBack_of_play [.reopen false, .reconfigure true, .unbind true, .bind true true]
      (by simp [UsbAction.OfChecker])
    simp [Lts.play, step, hat, h]
  case h_3 hat =>
    apply comesBack_of_play [.reconfigure true, .unbind true, .bind true true]
      (by simp [UsbAction.OfChecker])
    simp [Lts.play, step, hat]
  case h_4 newState hat =>
    apply comesBack_of_play [.store false, .unbind true, .bind true true]
      (by simp [UsbAction.OfChecker])
    simp [Lts.play, step, hat, store, h.1, h.2]
  case h_5 => cases h

/-- A gadget that has been switched off and unbound remains unbound while nobody switches it on or
configures it, if and only if the goroutine is not on the way to bind it. -/
theorem stays_off_iff (hdesired : s.usbEmulationDesired = false) (hbound : s.bound = false) :
  (∀ tr t, lts.Run s tr t → (∀ e ∈ tr, e.action.OfChecker) → t.bound = false) ↔ ¬ s.MayBind
  := by
  constructor
  · intro hoff hmay
    obtain ⟨tr, t, run, hchecker, hon⟩ := hmay.comesBack
    rw [hoff tr t run hchecker] at hon
    cases hon
  · intro hnot tr t run hchecker
    exact (StaysOff.run ⟨hdesired, hbound, hnot⟩ run hchecker).bound

/-- What happens until the gadget has been switched off after it was decided to recover it. -/
def switchedOffLate : List UsbAction :=
  [.check .notAttached, .lookUpTime, .attempt, .setUSBEmulationDesired false, .switch false true]

/-- A gadget that is switched off after the check comes back. -/
theorem stays_off_iff_late :
  ∃ tr s, lts.Run ⟨false, .notAttached, true, none, 0, .sleeping, [], []⟩ tr s ∧
    tr.map Lts.Transition.action = switchedOffLate ∧ s.calls = [] ∧
      ¬ ∀ tr t, lts.Run s tr t → (∀ e ∈ tr, e.action.OfChecker) → t.bound = false
  := by
  have hplay : (Lts.play step ⟨false, .notAttached, true, none, 0, .sleeping, [], []⟩
      switchedOffLate).map id =
        some ⟨false, .notAttached, false, some 0, 0, .rebinding .unbind .recovery, [], []⟩ := by
    decide
  obtain ⟨tr, s, run, hactions, rfl⟩ := Lts.exists_run_of_observe _ _ _ _ hplay
  exact ⟨tr, _, run, hactions, rfl, fun hoff => (stays_off_iff rfl rfl).mp hoff trivial⟩

end UsbGadget

end JetKvm.Usb
