import JetKvm.Keyboard.Goroutine
import Mathlib.Data.Fintype.Card
import Mathlib.Data.FinEnum

/-!
# Closing a session

The handler of a closed session removes all timers and then reports that all keys are up.
Callbacks of timers that had already expired may still be on their way. Each of them reads
the state of the keys while it holds `keyboardMutex`, so that it can only repeat that all
keys are up once the handler has recorded it. But the handler's report goes through the
check that the USB is ready, and is not made when it is not.
-/

namespace JetKvm

/-- The goroutine is somewhere in the life of an auto-release timer, or has nothing to do
with the keyboard. -/
def InAutoRelease : Goroutine → Prop
  | .lock report caller | .locked report caller =>
      (∃ key, report = .keypress key false) ∧ caller = .none
  | .loaded _ press _ caller => press = false ∧ caller = .none
  | .wrote _ _ _ caller | .unlock _ _ caller | .unlockMedia _ caller | .reload _ caller =>
      caller = .none
  | .timer _ | .autoRelease _ | .autoReleaseCheck _ | .usbMonitor | .done => True
  | _ => False

/-- What the goroutine has read, or is about to record, is that all keys are up. -/
def CarriesAllUp : Goroutine → Prop
  | .loaded _ _ state _ => state = .allUp
  | .wrote modifier keys _ _ => modifier = 0 ∧ keys = noKeys
  | _ => True

/-- All keys are up, and no goroutine is about to record anything else. -/
structure Cleared {Thread : Type*} (c : KeyboardPool Thread) : Prop where
  state : c.shared.gadget.keysDownState = .allUp
  carries : ∀ i, CarriesAllUp (c.threads i)

/-- No timer is pending. -/
def NoTimers (u : UsbGadget) : Prop :=
  ∀ key, u.kbdAutoReleaseTimers key = none

variable {Thread : Type*} {i : Thread} {env : Environment} {s s' : Keyboard Thread}
  {g g' : Goroutine} {u : UsbGadget}

theorem CarriesAllUp.of_not_inside (h : ¬ g.Inside) :
  CarriesAllUp g
  := by
  cases g with
  | locked | loaded | wrote | unlock | unlockMedia => exact absurd trivial h
  | _ => trivial

theorem NoTimers.setTimer (h : NoTimers u) (key : UInt8) :
  NoTimers (u.setTimer key none)
  := by
  intro k
  by_cases hk : k = key
  · subst hk
    apply Function.update_self
  · rw [UsbGadget.setTimer]
    dsimp only
    rw [Function.update_of_ne hk]
    apply h

/-- Releasing a key when all keys are up leaves them up. -/
theorem after_allUp (key : UInt8) :
  KeysDownState.allUp.after key false = (0, noKeys)
  := by
  cases hmod : isModifier key with
  | true =>
      obtain ⟨mask, hmask⟩ := Option.isSome_iff_exists.mp hmod
      rw [KeysDownState.after_modifier hmask, if_neg Bool.false_ne_true]
      simp [KeysDownState.allUp]
  | false =>
      rw [KeysDownState.after_ordinary hmod]
      have hheld : Holds (bufferAfter noKeys key false) [] := Holds.none.release
      have hkeys := hheld.eq_noKeys
      simp [KeysDownState.allUp, hkeys]

/-- A goroutine in the life of a timer stays in it, and starts no timer. -/
theorem InAutoRelease.step (h : InAutoRelease g)
    (hexec : Goroutine.exec i env s g = some (s', g')) :
  InAutoRelease g' ∧ (NoTimers s.gadget → NoTimers s'.gadget)
  := by
  cases g with
  | lock report caller =>
      obtain ⟨-, hnext⟩ := Option.ite_none_right_eq_some.mp hexec
      obtain ⟨rfl, rfl⟩ := Prod.mk.inj (Option.some.inj hnext)
      exact ⟨h, id⟩
  | locked report caller =>
      obtain ⟨⟨key, rfl⟩, rfl⟩ := h
      obtain ⟨rfl, rfl⟩ := Prod.mk.inj (Option.some.inj hexec)
      exact ⟨⟨rfl, rfl⟩, id⟩
  | loaded key press state caller =>
      rw [Goroutine.exec] at hexec
      split at hexec <;> obtain ⟨rfl, rfl⟩ := Prod.mk.inj (Option.some.inj hexec)
      · exact ⟨h.2, by simp [NoTimers]⟩
      · exact ⟨h.2, by simp [NoTimers]⟩
  | wrote modifier keys err caller =>
      obtain ⟨rfl, rfl⟩ := Prod.mk.inj (Option.some.inj hexec)
      exact ⟨h, by simp [NoTimers]⟩
  | unlock state err caller =>
      obtain rfl := h
      obtain ⟨rfl, rfl⟩ := Prod.mk.inj (Option.some.inj hexec)
      exact ⟨trivial, id⟩
  | unlockMedia err caller =>
      obtain ⟨rfl, rfl⟩ := Prod.mk.inj (Option.some.inj hexec)
      exact ⟨h, id⟩
  | reload err caller =>
      obtain rfl := h
      obtain ⟨rfl, rfl⟩ := Prod.mk.inj (Option.some.inj hexec)
      exact ⟨trivial, id⟩
  | timer key =>
      obtain ⟨harmed, hnext⟩ := Option.ite_none_right_eq_some.mp hexec
      obtain ⟨rfl, rfl⟩ := Prod.mk.inj (Option.some.inj hnext)
      use trivial
      intro hnone
      rw [hnone key] at harmed
      cases harmed
  | autoRelease key =>
      rw [Goroutine.exec] at hexec
      split at hexec <;> obtain ⟨rfl, rfl⟩ := Prod.mk.inj (Option.some.inj hexec)
      · exact ⟨trivial, id⟩
      · exact ⟨trivial, fun hnone => hnone.setTimer key⟩
  | autoReleaseCheck key =>
      rw [Goroutine.exec] at hexec
      split at hexec <;> obtain ⟨rfl, rfl⟩ := Prod.mk.inj (Option.some.inj hexec)
      · exact ⟨⟨⟨key, rfl⟩, rfl⟩, id⟩
      · exact ⟨trivial, id⟩
  | usbMonitor =>
      obtain ⟨rfl, rfl⟩ := Prod.mk.inj (Option.some.inj hexec)
      exact ⟨trivial, id⟩
  | done => cases hexec
  | _ => exact absurd h id

/-- A goroutine in the life of a timer that finds all keys up leaves them up. -/
theorem InAutoRelease.cleared (h : InAutoRelease g)
    (hexec : Goroutine.exec i env s g = some (s', g'))
    (hstate : s.gadget.keysDownState = .allUp) (hcarries : CarriesAllUp g) :
  s'.gadget.keysDownState = .allUp ∧ CarriesAllUp g'
  := by
  by_cases hin : g.Inside
  · cases g with
    | locked report caller =>
        obtain ⟨⟨key, rfl⟩, rfl⟩ := h
        obtain ⟨rfl, rfl⟩ := Prod.mk.inj (Option.some.inj hexec)
        exact ⟨hstate, hstate⟩
    | loaded key press state caller =>
        obtain ⟨rfl, rfl⟩ := h
        obtain rfl := hcarries
        rw [Goroutine.exec] at hexec
        split at hexec <;> obtain ⟨rfl, rfl⟩ := Prod.mk.inj (Option.some.inj hexec)
        · exact ⟨by simpa using hstate, trivial⟩
        · use by simpa using hstate
          rw [after_allUp]
          exact ⟨rfl, rfl⟩
    | wrote modifier keys err caller =>
        obtain ⟨rfl, rfl⟩ := hcarries
        obtain ⟨rfl, rfl⟩ := Prod.mk.inj (Option.some.inj hexec)
        use by simp; rfl
        trivial
    | unlock state err caller =>
        obtain ⟨rfl, rfl⟩ := Prod.mk.inj (Option.some.inj hexec)
        exact ⟨hstate, .of_not_inside (Goroutine.not_inside_resume _ _ _)⟩
    | unlockMedia err caller =>
        obtain ⟨rfl, rfl⟩ := Prod.mk.inj (Option.some.inj hexec)
        exact ⟨hstate, trivial⟩
    | _ => exact absurd hin id
  · rcases Goroutine.exec_outside hexec hin with
      ⟨hout, hsame, -⟩ | ⟨report, caller, -, rfl, -, rfl⟩ | ⟨macroStep, steps, rfl, -⟩
    · rw [hsame.1]
      exact ⟨hstate, .of_not_inside hout⟩
    · exact ⟨hstate, trivial⟩
    · exact absurd h id

/-! ### The handler -/

/-- The report of the handler of a closed session. -/
def clearReport : Report :=
  .keyboard 0 noKeys

/-- What holds while the handler is at `g`: once it has removed the timers none is pending,
and once it has recorded its report all keys are up. -/
def HandlerInvariant (c : KeyboardPool Thread) : Goroutine → Prop
  | .closeSession => True
  | .guard report caller | .lock report caller | .locked report caller =>
      report = clearReport ∧ caller = .none ∧ NoTimers c.shared.gadget
  | .wrote modifier keys _ caller =>
      modifier = 0 ∧ keys = noKeys ∧ caller = .none ∧ NoTimers c.shared.gadget
  | .unlock _ _ caller => caller = .none ∧ NoTimers c.shared.gadget ∧ Cleared c
  | .done => NoTimers c.shared.gadget ∧ Cleared c
  | _ => False

/-- The invariant of a pool in which the session of `handler` is closing and otherwise only
timers are at work. -/
structure ClosingInvariant (handler : Thread) (c : KeyboardPool Thread) : Prop where
  lock : Pool.Consistent Keyboard.keyboardMutex Goroutine.Inside c
  others : ∀ i, i ≠ handler → InAutoRelease (c.threads i)
  handler : HandlerInvariant c (c.threads handler)

/-- The check that the USB is ready, when the handler is at it, succeeds, or finds all keys
up already. -/
def ReadyOrCleared (handler : Thread) (c : KeyboardPool Thread) : Prop :=
  (∃ report caller, c.threads handler = .guard report caller) →
    usbReadyForHidReports c.shared.usbState = true ∨ Cleared c

namespace ClosingInvariant

variable [DecidableEq Thread] {handler : Thread} {c c' : KeyboardPool Thread}
  {a : Thread × Environment}

/-- A step of another goroutine keeps the invariant. -/
theorem step_other (inv : ClosingInvariant handler c) (ha : a.1 ≠ handler)
    (step : (keyboardLts Thread).step c a c') :
  ClosingInvariant handler c'
  := by
  have hlock := inv.lock.step Goroutine.locks step
  obtain ⟨s, g, hexec, rfl⟩ := Pool.lts_step.mp step
  have hrelease := inv.others a.1 ha
  obtain ⟨hg, htimers⟩ := hrelease.step hexec
  have hcleared : Cleared c → Cleared ⟨s, Function.update c.threads a.1 g⟩ := by
    intro h
    obtain ⟨hstate, hcarries⟩ := hrelease.cleared hexec h.state (h.carries a.1)
    use hstate
    intro i
    dsimp only
    by_cases hi : i = a.1
    · subst hi
      rwa [Function.update_self]
    · rw [Function.update_of_ne hi]
      apply h.carries
  have hhandler := inv.handler
  constructor
  · apply hlock
  · intro i hi
    dsimp only
    by_cases hia : i = a.1
    · subst hia
      rwa [Function.update_self]
    · rw [Function.update_of_ne hia]
      apply inv.others i hi
  · dsimp only
    rw [Function.update_of_ne (Ne.symm ha)]
    revert hhandler
    cases c.threads handler with
    | closeSession => exact id
    | guard | lock | locked => exact fun h => ⟨h.1, h.2.1, htimers h.2.2⟩
    | wrote => exact fun h => ⟨h.1, h.2.1, h.2.2.1, htimers h.2.2.2⟩
    | unlock => exact fun h => ⟨h.1, htimers h.2.1, hcleared h.2.2⟩
    | done => exact fun h => ⟨htimers h.1, hcleared h.2⟩
    | _ => exact id

/-- A step of the handler keeps the invariant, when its check succeeds or finds all keys up
already. -/
theorem step_handler (inv : ClosingInvariant handler c) (ha : a.1 = handler)
    (step : (keyboardLts Thread).step c a c') (ready : ReadyOrCleared handler c) :
  ClosingInvariant handler c'
  := by
  subst ha
  have hlock := inv.lock.step Goroutine.locks step
  have hhandler := inv.handler
  obtain ⟨s, g, hexec, rfl⟩ := Pool.lts_step.mp step
  have hcleared : s.gadget.keysDownState = .allUp → CarriesAllUp g →
      (∀ i, i ≠ a.1 → CarriesAllUp (c.threads i)) →
      Cleared ⟨s, Function.update c.threads a.1 g⟩ := by
    intro hstate hself hcarries
    use hstate
    intro i
    dsimp only
    by_cases hi : i = a.1
    · subst hi
      rwa [Function.update_self]
    · rw [Function.update_of_ne hi]
      apply hcarries i hi
  use hlock
  · intro i hi
    dsimp only
    rw [Function.update_of_ne hi]
    apply inv.others i hi
  · dsimp only
    rw [Function.update_self]
    cases hg : c.threads a.1 with
    | closeSession =>
        rw [hg] at hexec
        obtain ⟨rfl, rfl⟩ := Prod.mk.inj (Option.some.inj hexec)
        exact ⟨rfl, rfl, fun key => rfl⟩
    | guard report caller =>
        rw [hg] at hexec hhandler
        obtain ⟨rfl, rfl, htimers⟩ := hhandler
        rw [Goroutine.exec] at hexec
        split at hexec <;> obtain ⟨rfl, rfl⟩ := Prod.mk.inj (Option.some.inj hexec)
        · exact ⟨rfl, rfl, htimers⟩
        · rename_i hready
          have hclear := (ready ⟨_, _, hg⟩).resolve_left hready
          exact ⟨htimers, hcleared hclear.state trivial fun i _ => hclear.carries i⟩
    | lock report caller =>
        rw [hg] at hexec hhandler
        obtain ⟨-, hnext⟩ := Option.ite_none_right_eq_some.mp hexec
        obtain ⟨rfl, rfl⟩ := Prod.mk.inj (Option.some.inj hnext)
        exact hhandler
    | locked report caller =>
        rw [hg] at hexec hhandler
        obtain ⟨rfl, rfl, htimers⟩ := hhandler
        rw [clearReport, Goroutine.exec] at hexec
        obtain ⟨rfl, rfl⟩ := Prod.mk.inj (Option.some.inj hexec)
        refine ⟨rfl, rfl, rfl, ?_⟩
        simpa [NoTimers] using htimers
    | wrote modifier keys err caller =>
        rw [hg] at hexec hhandler
        obtain ⟨rfl, rfl, rfl, htimers⟩ := hhandler
        have hinside : (c.threads a.1).Inside := by
          rw [hg]
          trivial
        obtain ⟨rfl, rfl⟩ := Prod.mk.inj (Option.some.inj hexec)
        refine ⟨rfl, by simpa [NoTimers] using htimers, hcleared (by simp; rfl) trivial ?_⟩
        intro i hi
        apply CarriesAllUp.of_not_inside
        exact fun hin => hi (inv.lock.unique hin hinside)
    | unlock state err caller =>
        rw [hg] at hexec hhandler
        obtain ⟨rfl, htimers, hclear⟩ := hhandler
        obtain ⟨rfl, rfl⟩ := Prod.mk.inj (Option.some.inj hexec)
        exact ⟨htimers, hcleared hclear.state trivial fun i _ => hclear.carries i⟩
    | done =>
        rw [hg] at hexec
        cases hexec
    | _ =>
        rw [hg] at hhandler
        exact absurd hhandler id

end ClosingInvariant

/-- The goroutines are consistent with `keyboardMutex` in every run. -/
theorem Initial.consistent [DecidableEq Thread] {c c' : KeyboardPool Thread}
    {tr : List (Lts.Transition (KeyboardPool Thread) (Thread × Environment))}
    (init : Initial c) (run : (keyboardLts Thread).Run c tr c') :
  Pool.Consistent Keyboard.keyboardMutex Goroutine.Inside c'
  := by
  have start : Pool.Consistent Keyboard.keyboardMutex Goroutine.Inside c := by
    intro i
    rw [init.mutex]
    exact iff_of_false (init.begins i).not_inside (Option.some_ne_none i).symm
  apply start.run Goroutine.locks run

/-- The clear on session close is final. From any reachable state in which the handler of
a closed session begins and otherwise only timers are at work, once the handler is done no
timer is pending and all keys are up, whatever the callbacks on their way do, provided its
check that the USB is ready succeeds or finds all keys up already. -/
theorem clear_is_final [DecidableEq Thread] {c₀ c c' : KeyboardPool Thread}
    {tr₀ tr : List (Lts.Transition (KeyboardPool Thread) (Thread × Environment))}
    {handler : Thread} (init : Initial c₀) (reach : (keyboardLts Thread).Run c₀ tr₀ c)
    (begins : c.threads handler = .closeSession)
    (others : ∀ i, i ≠ handler → InAutoRelease (c.threads i))
    (run : (keyboardLts Thread).Run c tr c')
    (ready : ∀ e ∈ tr, e.action.1 = handler → ReadyOrCleared handler e.before)
    (finished : c'.threads handler = .done) :
  NoTimers c'.shared.gadget ∧ c'.shared.gadget.keysDownState = .allUp
  := by
  have inv : ClosingInvariant handler c' := by
    apply run.invariant (I := ClosingInvariant handler)
    · use init.consistent reach, others
      rw [begins]
      trivial
    · intro e he hbefore step
      by_cases ha : e.action.1 = handler
      · apply hbefore.step_handler ha step (ready e he ha)
      · apply hbefore.step_other ha step
  have hhandler := inv.handler
  rw [finished] at hhandler
  exact ⟨hhandler.1, hhandler.2.state⟩

/-! ### A key is down when the session closes -/

/-- A call that presses the key `a`, its timer, the handler of a closed session, and the
poller of the USB state. -/
def pressAndClose : KeyboardPool (Fin 4) where
  shared := { gadget := newUsbGadget, keyboardMutex := none, usbState := "configured" }
  threads
    | 0 => .guard (.keypress 0x04 true) (.keypress 0x04 true)
    | 1 => .timer 0x04
    | 2 => .closeSession
    | 3 => .usbMonitor

theorem pressAndClose_initial : Initial pressAndClose where
  gadget := rfl
  mutex := rfl
  begins
    | 0 => .rpcKeypressReport _ _
    | 1 => .timer _
    | 2 => .closeSession
    | 3 => .usbMonitor

/-- The steps of the given goroutines, every write succeeding and the USB read to be in the
given state. -/
def stepsOf (usbState : String) (threads : List (Fin 4)) : List (Fin 4 × Environment) :=
  threads.map fun i =>
    (i, { consumerWrite := .written, keyboardWrite := .written, ctxDone := false, usbState })

/-- The key is pressed, and its timer expires. -/
def pressed : KeyboardPool (Fin 4) :=
  (Lts.play (Pool.advance Goroutine.exec) pressAndClose
    (stepsOf "configured" [0, 0, 0, 0, 0, 0, 0, 1])).getD pressAndClose

theorem exists_run_pressed :
  ∃ tr, (keyboardLts (Fin 4)).Run pressAndClose tr pressed
  := by
  obtain ⟨c, hc⟩ : ∃ c, Lts.play (Pool.advance Goroutine.exec) pressAndClose
      (stepsOf "configured" [0, 0, 0, 0, 0, 0, 0, 1]) = some c :=
    Option.isSome_iff_exists.mp (by decide +kernel)
  obtain ⟨tr, run, -⟩ := Lts.exists_run_of_play hc
  use tr
  rw [pressed, hc]
  apply run

theorem pressed_inAutoRelease :
  ∀ i, i ≠ 2 → InAutoRelease (pressed.threads i)
  := by
  intro i hi
  have hthread : pressed.threads i = .done ∨ pressed.threads i = .autoRelease 0x04
      ∨ pressed.threads i = .usbMonitor := by
    revert i
    decide +kernel
  rcases hthread with h | h | h <;> rw [h] <;> trivial

/-- The session closes while the callback of the timer waits to release the key. -/
theorem clear_is_final_pressed :
  ∃ tr c, (keyboardLts (Fin 4)).Run pressed tr c ∧
    (∀ i, c.threads i = .done ∨ c.threads i = .usbMonitor) ∧
    NoTimers c.shared.gadget ∧ c.shared.gadget.keysDownState = .allUp
  := by
  obtain ⟨tr₀, reach⟩ := exists_run_pressed
  obtain ⟨tr, c, run, hactions, hready, hobserve⟩ :=
    Lts.exists_run_of_restrict (Pool.advance Goroutine.exec)
      (fun c _ => usbReadyForHidReports c.shared.usbState = true) pressed
      (stepsOf "configured" [1, 1, 2, 2, 2, 2, 2, 2, 1, 1, 1, 1, 1])
      (fun c => decide (c.threads 2 = .done ∧
        ∀ i, c.threads i = .done ∨ c.threads i = .usbMonitor))
      (by decide +kernel : _ = some true)
  obtain ⟨hdone, hfinished⟩ := of_decide_eq_true hobserve
  use tr, c, run, hfinished
  apply clear_is_final pressAndClose_initial reach (by decide +kernel) pressed_inAutoRelease run
  · intro e he _ _
    exact .inl (hready e he)
  · apply hdone

/-- The USB is found not to be attached between the press and the close. The handler's
report is skipped, and the key stays down. -/
theorem close_skips_clear :
  ¬ ∀ (c₀ c c' : KeyboardPool (Fin 4)) (handler : Fin 4)
      (tr₀ tr : List (Lts.Transition (KeyboardPool (Fin 4)) (Fin 4 × Environment))),
    Initial c₀ → (keyboardLts (Fin 4)).Run c₀ tr₀ c → c.threads handler = .closeSession →
    (∀ i, i ≠ handler → InAutoRelease (c.threads i)) → (keyboardLts (Fin 4)).Run c tr c' →
    (∀ i, c'.threads i = .done ∨ c'.threads i = .usbMonitor) →
    NoTimers c'.shared.gadget ∧ c'.shared.gadget.keysDownState = .allUp
  := by
  intro claim
  obtain ⟨tr₀, reach⟩ := exists_run_pressed
  obtain ⟨tr, c, run, hactions, hobserve⟩ :=
    Lts.exists_run_of_observe (Pool.advance Goroutine.exec) pressed
      (stepsOf "not attached" [3, 2, 2, 1])
      (fun c => decide ((∀ i, c.threads i = .done ∨ c.threads i = .usbMonitor) ∧
        c.shared.gadget.keysDownState ≠ .allUp))
      (by decide +kernel : _ = some true)
  obtain ⟨hfinished, hdown⟩ := of_decide_eq_true hobserve
  have hend := claim _ _ c 2 tr₀ tr pressAndClose_initial reach (by decide +kernel)
    pressed_inAutoRelease run hfinished
  exact hdown hend.2

end JetKvm
