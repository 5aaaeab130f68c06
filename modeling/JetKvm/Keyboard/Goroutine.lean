import JetKvm.HidRpc.Message
import JetKvm.Library.ThreadPool

/-!
# The goroutines that touch the keyboard

Keyboard reports are made by RPC calls, by auto-release timers, by the macro executor and
when a session closes, each in a goroutine of its own. What a goroutine does is cut into
atomic steps at the locks it takes: `keyboardMutex` around the making of a report, the lock
of the key state around each reading and recording of it inside or outside that region, the
lock of the timers, and the lock of the USB state. The goroutines share the gadget, and any
number of them may run.
-/

namespace JetKvm

open HidRpc (KeyboardMacroStep)

/-- A report that a goroutine makes while it holds `keyboardMutex`. -/
inductive Report where
  | keyboard (modifier : UInt8) (keys : List UInt8)
  | keypress (key : UInt8) (press : Bool)
deriving DecidableEq, Repr

/-- Who called for a report, and goes on once it has been made: nobody, `KeypressReport`,
or the macro executor between a step and the steps that are left. -/
inductive Caller where
  | none
  | keypress (key : UInt8) (press : Bool)
  | keyboardMacro (step : KeyboardMacroStep) (steps : List KeyboardMacroStep)
deriving DecidableEq, Repr

/-- Where a goroutine is. -/
inductive Goroutine where
  /-- In `rpcHidReport`, before the check that the USB is ready. -/
  | guard (report : Report) (caller : Caller)
  /-- Waiting for `keyboardMutex`. -/
  | lock (report : Report) (caller : Caller)
  /-- Holding `keyboardMutex`, before it has touched anything. -/
  | locked (report : Report) (caller : Caller)
  /-- In `keypressReport`, with the state it has read. -/
  | loaded (key : UInt8) (press : Bool) (state : KeysDownState) (caller : Caller)
  /-- Between the writing of a keyboard report and `UpdateKeysDown`. -/
  | wrote (modifier : UInt8) (keys : List UInt8) (err : Option HidError) (caller : Caller)
  /-- Before the unlocking of `keyboardMutex`, with the state to return. -/
  | unlock (state : KeysDownState) (err : Option HidError) (caller : Caller)
  /-- Before the unlocking of `keyboardMutex` after the report of a media key. -/
  | unlockMedia (err : Option HidError) (caller : Caller)
  /-- After the report of a media key, about to read the state to return. -/
  | reload (err : Option HidError) (caller : Caller)
  /-- In `KeypressReport`, about to start or stop the timer of the key. -/
  | updateTimer (key : UInt8) (press : Bool) (state : KeysDownState)
  /-- In the macro executor, before the next step. -/
  | keyboardMacro (steps : List KeyboardMacroStep)
  /-- In the macro executor, after the report of a step. -/
  | macroClear (step : KeyboardMacroStep) (steps : List KeyboardMacroStep)
  /-- In the macro executor, sleeping. -/
  | macroSleep (steps : List KeyboardMacroStep)
  /-- A timer that has been created for the key. -/
  | timer (key : UInt8)
  /-- At the beginning of `performAutoRelease`. -/
  | autoRelease (key : UInt8)
  /-- In `performAutoRelease`, after the timer has been removed. -/
  | autoReleaseCheck (key : UInt8)
  /-- In the handler of a closed session. -/
  | closeSession
  /-- The poller of the USB state. -/
  | usbMonitor
  | done
deriving DecidableEq, Repr

/-- What the goroutines share. -/
structure Keyboard (Thread : Type*) where
  gadget : UsbGadget
  keyboardMutex : Option Thread
  usbState : String

/-- What the environment decides in a step: what becomes of the writes, whether the context
of a macro is cancelled, and what the USB state is read to be. -/
structure Environment where
  consumerWrite : HidWrite
  keyboardWrite : HidWrite
  ctxDone : Bool
  usbState : String
deriving DecidableEq, Repr

def usbStateNotAttached : String := "not attached"
def usbStateUnknown : String := "unknown"

/-- Whether reports are written at all. -/
def usbReadyForHidReports (state : String) : Bool :=
  state ≠ usbStateNotAttached && state ≠ usbStateUnknown

/-- Whether a step releases all keys. -/
def isClearKeyStep (step : KeyboardMacroStep) : Bool :=
  step.modifier = 0 && step.keys = noKeys

/-- Whether `rpcHidReport` returns the error of a report. -/
def returnsError (err : Option HidError) : Bool :=
  err = some .other

/-- The step of a goroutine that takes up after the report its caller asked for. -/
def Caller.resume (caller : Caller) (state : KeysDownState) (err : Option HidError) : Goroutine :=
  match caller with
  | .none => .done
  | .keypress key press => .updateTimer key press state
  | .keyboardMacro step steps => if returnsError err then .done else .macroClear step steps

/-- The step of a goroutine whose report was skipped because the USB is not ready. -/
def Caller.skip : Caller → Goroutine
  | .keyboardMacro step steps => .macroClear step steps
  | _ => .done

/-- The gadgets have the same state of keys and the same reports. -/
def SameReports (u v : UsbGadget) : Prop :=
  v.keysDownState = u.keysDownState ∧ v.hidg0 = u.hidg0

namespace Goroutine

variable {Thread : Type*}

/-- One atomic step of goroutine `i`. A goroutine that waits for a lock or a timer, or is
done, takes none. -/
def exec (i : Thread) (env : Environment) (s : Keyboard Thread) :
    Goroutine → Option (Keyboard Thread × Goroutine)
  | guard report caller =>
      if usbReadyForHidReports s.usbState then some (s, lock report caller)
      else some (s, caller.skip)
  | lock report caller =>
      if s.keyboardMutex.isNone then
        some ({ s with keyboardMutex := some i }, locked report caller)
      else none
  | locked (.keyboard modifier keys) caller =>
      let stripped := stripMediaKeys (padKeys keys)
      let next := s.gadget.keyboardReportWrites modifier stripped.1 stripped.2
        env.consumerWrite env.keyboardWrite
      some ({ s with gadget := next.1 }, wrote modifier stripped.1 next.2 caller)
  | locked (.keypress key press) caller =>
      some (s, loaded key press s.gadget.keysDownState caller)
  | loaded key press state caller =>
      if isKeyboardMediaKey key then
        let next := s.gadget.consumerControlReport (s.gadget.consumerBitsAfter key press)
          env.consumerWrite
        some ({ s with gadget := next.1 }, unlockMedia next.2 caller)
      else
        let report := state.after key press
        let next := s.gadget.keyboardWriteHidFileLocked report.1 report.2 env.keyboardWrite
        some ({ s with gadget := next.1 }, wrote report.1 report.2 next.2 caller)
  | wrote modifier keys err caller =>
      let next := s.gadget.updateKeysDown modifier keys
      some ({ s with gadget := next.1 }, unlock next.2 err caller)
  | unlock state err caller =>
      some ({ s with keyboardMutex := none }, caller.resume state err)
  | unlockMedia err caller => some ({ s with keyboardMutex := none }, reload err caller)
  | reload err caller => some (s, caller.resume s.gadget.keysDownState err)
  | updateTimer key press state =>
      some ({ s with gadget := s.gadget.updateTimer key press state }, done)
  | keyboardMacro [] => some (s, done)
  | keyboardMacro (step :: steps) =>
      some (s, guard (.keyboard step.modifier step.keys) (.keyboardMacro step steps))
  | macroClear step steps =>
      if isClearKeyStep step then
        some ({ s with gadget := (s.gadget.updateKeysDown 0 noKeys).1 }, macroSleep steps)
      else some (s, macroSleep steps)
  | macroSleep steps =>
      if env.ctxDone then some (s, guard (.keyboard 0 noKeys) .none)
      else some (s, keyboardMacro steps)
  | timer key =>
      if s.gadget.kbdAutoReleaseTimers key = some .armed then
        some ({ s with gadget := s.gadget.setTimer key (some .expired) }, autoRelease key)
      else none
  | autoRelease key =>
      if (s.gadget.kbdAutoReleaseTimers key).isNone then some (s, done)
      else some ({ s with gadget := s.gadget.setTimer key none }, autoReleaseCheck key)
  | autoReleaseCheck key =>
      if key ∈ s.gadget.keysDownState.keys then some (s, lock (.keypress key false) .none)
      else some (s, done)
  | closeSession =>
      some ({ s with gadget := s.gadget.cancelAllAutoReleaseTimers },
        guard (.keyboard 0 noKeys) .none)
  | usbMonitor => some ({ s with usbState := env.usbState }, usbMonitor)
  | done => none

/-- Whether a goroutine is inside the `keyboardMutex` region. -/
def Inside : Goroutine → Prop
  | locked .. | loaded .. | wrote .. | unlock .. | unlockMedia .. => True
  | _ => False

/-- Where a goroutine may begin: an RPC call for a report, the macro executor, a timer, the
handler of a closed session, or the poller of the USB state. -/
inductive Begins : Goroutine → Prop
  | rpcKeyboardReport (modifier : UInt8) (keys : List UInt8) :
      Begins (guard (.keyboard modifier keys) .none)
  | rpcKeypressReport (key : UInt8) (press : Bool) :
      Begins (guard (.keypress key press) (.keypress key press))
  | rpcDoExecuteKeyboardMacro (steps : List KeyboardMacroStep) : Begins (keyboardMacro steps)
  | timer (key : UInt8) : Begins (timer key)
  | closeSession : Begins closeSession
  | usbMonitor : Begins usbMonitor
  | done : Begins done

end Goroutine

/-- The goroutines and what they share. -/
abbrev KeyboardPool (Thread : Type*) := Pool (Keyboard Thread) Goroutine Thread

/-- The interleavings of the goroutines. -/
def keyboardLts (Thread : Type*) [DecidableEq Thread] :
    Lts (KeyboardPool Thread) (Thread × Environment) :=
  Pool.lts Goroutine.exec

/-- The device has just started: nothing has been reported, and every goroutine is where it
may begin. -/
structure Initial {Thread : Type*} (c : KeyboardPool Thread) : Prop where
  gadget : c.shared.gadget = newUsbGadget
  mutex : c.shared.keyboardMutex = none
  begins : ∀ i, (c.threads i).Begins

namespace Goroutine

variable {Thread : Type*} {s s' : Keyboard Thread}
  {g g' : Goroutine}

theorem Begins.not_inside (h : g.Begins) :
  ¬ g.Inside
  := by
  cases h <;> exact id

theorem not_inside_resume (caller : Caller) (state : KeysDownState) (err : Option HidError) :
  ¬ (caller.resume state err).Inside
  := by
  cases caller with
  | keyboardMacro step steps =>
      rw [Caller.resume]
      split <;> exact id
  | _ => exact id

theorem not_inside_skip (caller : Caller) :
  ¬ caller.skip.Inside
  := by
  cases caller <;> exact id

/-- A step that stays inside or outside the region and leaves the mutex alone. -/
theorem stays {i : Thread} (hg : g.Inside ↔ g'.Inside)
    (hs : s'.keyboardMutex = s.keyboardMutex) :
  (g'.Inside ↔ g.Inside) ∧ s'.keyboardMutex = s.keyboardMutex
    ∨ s.keyboardMutex = none ∧ g'.Inside ∧ s'.keyboardMutex = some i
    ∨ g.Inside ∧ ¬ g'.Inside ∧ s'.keyboardMutex = none
  := .inl ⟨hg.symm, hs⟩

/-- `keyboardMutex` is acquired on entering the region and released on leaving it. -/
theorem locks :
  Pool.Locks (exec : Thread → Environment → Keyboard Thread → _) Keyboard.keyboardMutex Inside
  := by
  intro i env s g s' g' h
  cases g with
  | guard report caller =>
      rw [exec] at h
      split at h <;> obtain ⟨rfl, rfl⟩ := h
      · apply stays Iff.rfl rfl
      · apply stays (iff_of_false id (not_inside_skip caller)) rfl
  | lock report caller =>
      rw [exec] at h
      split at h
      · rename_i hfree
        obtain ⟨rfl, rfl⟩ := h
        exact .inr (.inl ⟨Option.isNone_iff_eq_none.mp hfree, trivial, rfl⟩)
      · cases h
  | locked report caller =>
      cases report <;> obtain ⟨rfl, rfl⟩ := h <;> apply stays Iff.rfl rfl
  | loaded key press state caller =>
      rw [exec] at h
      split at h <;> obtain ⟨rfl, rfl⟩ := h <;> apply stays Iff.rfl rfl
  | wrote modifier keys err caller =>
      obtain ⟨rfl, rfl⟩ := h
      apply stays Iff.rfl rfl
  | unlock state err caller =>
      obtain ⟨rfl, rfl⟩ := h
      exact .inr (.inr ⟨trivial, not_inside_resume _ _ _, rfl⟩)
  | unlockMedia err caller =>
      obtain ⟨rfl, rfl⟩ := h
      exact .inr (.inr ⟨trivial, id, rfl⟩)
  | reload err caller =>
      obtain ⟨rfl, rfl⟩ := h
      apply stays (iff_of_false id (not_inside_resume _ _ _)) rfl
  | keyboardMacro steps =>
      cases steps <;> obtain ⟨rfl, rfl⟩ := h <;> apply stays Iff.rfl rfl
  | macroClear step steps =>
      rw [exec] at h
      split at h <;> obtain ⟨rfl, rfl⟩ := h <;> apply stays Iff.rfl rfl
  | macroSleep steps =>
      rw [exec] at h
      split at h <;> obtain ⟨rfl, rfl⟩ := h <;> apply stays Iff.rfl rfl
  | autoRelease key =>
      rw [exec] at h
      split at h <;> obtain ⟨rfl, rfl⟩ := h <;> apply stays Iff.rfl rfl
  | autoReleaseCheck key =>
      rw [exec] at h
      split at h <;> obtain ⟨rfl, rfl⟩ := h <;> apply stays Iff.rfl rfl
  | timer key =>
      rw [exec] at h
      split at h
      · obtain ⟨rfl, rfl⟩ := h
        apply stays Iff.rfl rfl
      · cases h
  | updateTimer key press state =>
      obtain ⟨rfl, rfl⟩ := h
      apply stays Iff.rfl rfl
  | closeSession =>
      obtain ⟨rfl, rfl⟩ := h
      apply stays Iff.rfl rfl
  | usbMonitor =>
      obtain ⟨rfl, rfl⟩ := h
      apply stays Iff.rfl rfl
  | done => cases h

/-- What a step of a goroutine outside the region does: it leaves the keys and the reports
alone and stays outside, or it acquires the mutex, or it is a step of a macro that records
that all keys are up. -/
theorem exec_outside {i : Thread} {env : Environment} (h : exec i env s g = some (s', g'))
    (hg : ¬ g.Inside) :
  (¬ g'.Inside ∧ SameReports s.gadget s'.gadget ∧ s'.keyboardMutex = s.keyboardMutex)
    ∨ (∃ report caller, g = .lock report caller ∧ g' = .locked report caller ∧
        s.keyboardMutex = none ∧ s' = { s with keyboardMutex := some i })
    ∨ ∃ step steps, g = .macroClear step steps ∧ g' = .macroSleep steps ∧
        isClearKeyStep step = true ∧
        s' = { s with gadget := (s.gadget.updateKeysDown 0 noKeys).1 }
  := by
  cases g with
  | locked | loaded | wrote | unlock | unlockMedia => exact absurd trivial hg
  | lock report caller =>
      right; left
      obtain ⟨hfree, hnext⟩ := Option.ite_none_right_eq_some.mp h
      obtain ⟨rfl, rfl⟩ := hnext
      exact ⟨report, caller, rfl, rfl, Option.isNone_iff_eq_none.mp hfree, rfl⟩
  | macroClear step steps =>
      rw [exec] at h
      split at h
      · rename_i hclear
        obtain ⟨rfl, rfl⟩ := h
        exact .inr (.inr ⟨step, steps, rfl, rfl, hclear, rfl⟩)
      · obtain ⟨rfl, rfl⟩ := h
        exact .inl ⟨id, ⟨rfl, rfl⟩, rfl⟩
  | guard report caller =>
      rw [exec] at h
      split at h <;> obtain ⟨rfl, rfl⟩ := h
      · exact .inl ⟨id, ⟨rfl, rfl⟩, rfl⟩
      · exact .inl ⟨not_inside_skip _, ⟨rfl, rfl⟩, rfl⟩
  | reload err caller =>
      obtain ⟨rfl, rfl⟩ := h
      exact .inl ⟨not_inside_resume _ _ _, ⟨rfl, rfl⟩, rfl⟩
  | updateTimer key press state =>
      obtain ⟨rfl, rfl⟩ := h
      exact .inl ⟨id, ⟨by simp, by simp⟩, rfl⟩
  | keyboardMacro steps =>
      cases steps <;> obtain ⟨rfl, rfl⟩ := h <;> exact .inl ⟨id, ⟨rfl, rfl⟩, rfl⟩
  | macroSleep steps =>
      rw [exec] at h
      split at h <;> obtain ⟨rfl, rfl⟩ := h <;> exact .inl ⟨id, ⟨rfl, rfl⟩, rfl⟩
  | timer key =>
      obtain ⟨-, hnext⟩ := Option.ite_none_right_eq_some.mp h
      obtain ⟨rfl, rfl⟩ := hnext
      exact .inl ⟨id, ⟨rfl, rfl⟩, rfl⟩
  | autoRelease key =>
      rw [exec] at h
      split at h <;> obtain ⟨rfl, rfl⟩ := h <;> exact .inl ⟨id, ⟨rfl, rfl⟩, rfl⟩
  | autoReleaseCheck key =>
      rw [exec] at h
      split at h <;> obtain ⟨rfl, rfl⟩ := h <;> exact .inl ⟨id, ⟨rfl, rfl⟩, rfl⟩
  | closeSession =>
      obtain ⟨rfl, rfl⟩ := h
      exact .inl ⟨id, ⟨rfl, rfl⟩, rfl⟩
  | usbMonitor =>
      obtain ⟨rfl, rfl⟩ := h
      exact .inl ⟨id, ⟨rfl, rfl⟩, rfl⟩
  | done => cases h

/-! ### A goroutine by itself -/

/-- The given number of steps of one goroutine, none of another coming between them. -/
def alone (i : Thread) (env : Environment) :
    Nat → Keyboard Thread → Goroutine → Option (Keyboard Thread × Goroutine)
  | 0, s, g => some (s, g)
  | n + 1, s, g => (exec i env s g).bind fun next => alone i env n next.1 next.2

variable {i : Thread} {env : Environment} {key modifier : UInt8} {press : Bool}
  {keys : List UInt8}

/-- By itself the region of a keyboard report is `keyboardReport`. -/
theorem alone_keyboardReport (hfree : s.keyboardMutex = none) :
  alone i env 4 s (lock (.keyboard modifier keys) .none)
    = some ({ s with
        gadget := (s.gadget.keyboardReport modifier keys env.consumerWrite
          env.keyboardWrite).1 }, done)
  := by
  simp only [alone, exec, hfree, Option.isNone_none, if_true, Option.bind_some, Caller.resume,
    UsbGadget.keyboardReport]

theorem alone_add (m n : Nat) (s : Keyboard Thread) (g : Goroutine) :
  alone i env (m + n) s g = (alone i env m s g).bind fun next => alone i env n next.1 next.2
  := by
  induction m generalizing s g with
  | zero =>
      rw [Nat.zero_add]
      rfl
  | succ m ih =>
      rw [Nat.add_right_comm, alone, alone, Option.bind_assoc]
      congr 1
      funext next
      apply ih

/-- By itself the region of the report of a key is `keypressReport`. -/
theorem alone_keypress (caller : Caller) (hfree : s.keyboardMutex = none)
    (hwrite : env.consumerWrite = env.keyboardWrite) :
  alone i env 5 s (lock (.keypress key press) caller)
    = some ({ s with gadget := (s.gadget.keypressReport key press env.keyboardWrite).1 },
        caller.resume (s.gadget.keypressReport key press env.keyboardWrite).2.1
          (s.gadget.keypressReport key press env.keyboardWrite).2.2)
  := by
  rw [UsbGadget.keypressReport]
  cases hmedia : isKeyboardMediaKey key with
  | true => simp only [alone, exec, hfree, Option.isNone_none, if_true, Option.bind_some, hmedia,
      hwrite]
  | false => simp only [alone, exec, hfree, Option.isNone_none, if_true, Option.bind_some, hmedia,
      Bool.false_eq_true, if_false]

/-- By itself a call of `KeypressReport` is `UsbGadget.KeypressReport`. -/
theorem alone_keypressReport (hfree : s.keyboardMutex = none)
    (hwrite : env.consumerWrite = env.keyboardWrite) :
  alone i env 6 s (lock (.keypress key press) (.keypress key press))
    = some ({ s with
        gadget := (s.gadget.KeypressReport key press env.keyboardWrite).1 }, done)
  := by
  rw [alone_add 5 1, alone_keypress _ hfree hwrite]
  rfl

/-- By itself the callback of a timer that has been removed releases its key if it is down. -/
theorem alone_autoReleaseCheck (hfree : s.keyboardMutex = none)
    (hwrite : env.consumerWrite = env.keyboardWrite) :
  ∃ n, alone i env n s (autoReleaseCheck key)
    = some ({ s with
        gadget :=
          if key ∈ s.gadget.keysDownState.keys then
            (s.gadget.keypressReport key false env.keyboardWrite).1
          else s.gadget }, done)
  := by
  by_cases hdown : key ∈ s.gadget.keysDownState.keys
  · use 1 + 5
    have hcheck : alone i env 1 s (autoReleaseCheck key) =
        some (s, lock (.keypress key false) .none) := by
      rw [alone, exec, if_pos hdown]
      rfl
    rw [alone_add, hcheck, Option.bind_some, alone_keypress .none hfree hwrite, if_pos hdown]
    rfl
  · use 1
    rw [alone, exec, if_neg hdown, if_neg hdown]
    rfl

/-- By itself the callback of a timer is `UsbGadget.performAutoRelease`. -/
theorem alone_autoRelease (hfree : s.keyboardMutex = none)
    (hwrite : env.consumerWrite = env.keyboardWrite) :
  ∃ n, alone i env n s (autoRelease key)
    = some ({ s with gadget := s.gadget.performAutoRelease key env.keyboardWrite }, done)
  := by
  cases htimer : s.gadget.kbdAutoReleaseTimers key with
  | none =>
      use 1
      simp [alone, exec, htimer, UsbGadget.performAutoRelease_none htimer]
  | some timer =>
      have hremoved : alone i env 1 s (autoRelease key) =
          some ({ s with gadget := s.gadget.setTimer key none }, autoReleaseCheck key) := by
        simp [alone, exec, htimer]
      obtain ⟨n, hcheck⟩ := alone_autoReleaseCheck
        (s := { s with gadget := s.gadget.setTimer key none }) (i := i) hfree hwrite
      use 1 + n
      rw [UsbGadget.performAutoRelease_some htimer, alone_add, hremoved]
      exact hcheck

end Goroutine

end JetKvm
