import JetKvm.Keyboard.HostAgreement

/-!
# The macro executor

`rpcDoExecuteKeyboardMacro` reports the steps of a macro one after the other and sleeps after
each of them. Its context may be cancelled at any instant, but the executor looks at it only
when it sleeps. When the time is up as well, it may go on in spite of the cancellation. So a
cancelled macro releases its keys exactly when the steps that it still reports release them.
-/

namespace JetKvm.Macro

open HidRpc (KeyboardMacroStep)

/-- Where the executor is. -/
inductive Executor where
  /-- Before the next step of those that are left. -/
  | loop (macroLeft : List KeyboardMacroStep)
  /-- After the report of a step. -/
  | reported (step : KeyboardMacroStep) (macroLeft : List KeyboardMacroStep)
  /-- In the `select` that ends when the time is up or the context is cancelled. -/
  | sleep (macroLeft : List KeyboardMacroStep)
  /-- Returned, with the error of the context if the `select` has found it cancelled. -/
  | returned (cancelled : Bool)
deriving DecidableEq, Repr

/-- An executor, the gadget to which it reports, and whether its context is cancelled. -/
structure MacroRun where
  gadget : UsbGadget
  ctxDone : Bool
  executor : Executor

/-- What happens next: the context is cancelled, or the executor takes a step. When it sleeps,
`timer` says that the time is up and that this branch of the `select` is taken. -/
inductive MacroAction where
  | cancel
  | go (timer : Bool)
deriving DecidableEq, Repr

/-- `rpcKeyboardReport`, the USB being ready and every write succeeding. -/
def rpcKeyboardReport (u : UsbGadget) (modifier : UInt8) (keys : List UInt8) : UsbGadget :=
  (u.keyboardReport modifier keys .written .written).1

/-- The next state. A context is not cancelled once the executor has returned, and a `select`
neither of whose branches is ready waits. -/
def macroStep (s : MacroRun) : MacroAction → Option MacroRun
  | .cancel =>
      match s.executor with
      | .returned _ => none
      | _ => some { s with ctxDone := true }
  | .go timer =>
      match s.executor with
      | .loop [] => some { s with executor := .returned false }
      | .loop (step :: macroLeft) =>
          some { s with
            gadget := rpcKeyboardReport s.gadget step.modifier step.keys
            executor := .reported step macroLeft }
      | .reported step macroLeft =>
          some { s with
            gadget := if isClearKeyStep step then (s.gadget.updateKeysDown 0 noKeys).1
              else s.gadget
            executor := .sleep macroLeft }
      | .sleep macroLeft =>
          if timer then some { s with executor := .loop macroLeft }
          else if s.ctxDone then
            some { s with
              gadget := rpcKeyboardReport s.gadget 0 noKeys
              executor := .returned true }
          else none
      | .returned _ => none

/-- The runs of an executor. -/
def macroRunLts : Lts MacroRun MacroAction :=
  Lts.ofStep macroStep

/-- The call of `rpcDoExecuteKeyboardMacro`. -/
def startMacro (u : UsbGadget) (steps : List KeyboardMacroStep) : MacroRun where
  gadget := u
  ctxDone := false
  executor := .loop steps

/-! ### Reports -/

/-- The keyboard report of a step. -/
def stepReport (step : KeyboardMacroStep) : KeysDownState where
  modifier := step.modifier
  keys := (stripMediaKeys (padKeys step.keys)).1

/-- The step has no modifier, and no key but media keys. -/
def ReleasesAll (step : KeyboardMacroStep) : Prop :=
  step.modifier = 0 ∧ ∀ key ∈ padKeys step.keys, key = 0 ∨ isKeyboardMediaKey key = true

instance (step : KeyboardMacroStep) : Decidable (ReleasesAll step) :=
  inferInstanceAs (Decidable (_ ∧ _))

/-- The keyboard reports that a transition has written. -/
def keyboardReportsIn (e : Lts.Transition MacroRun MacroAction) : List KeysDownState :=
  (e.after.gadget.hidg0.take
    (e.after.gadget.hidg0.length - e.before.gadget.hidg0.length)).filterMap fun
    | .keyboard modifier keys => some { modifier, keys }
    | .consumer _ => none

/-- The executor reports the step. -/
def Reports (e : Lts.Transition MacroRun MacroAction) (step : KeyboardMacroStep) : Prop :=
  (∃ macroLeft, e.before.executor = .loop (step :: macroLeft)) ∧ e.action ≠ .cancel

/-- The `select` takes the branch of the cancelled context. -/
def TakesCancel (e : Lts.Transition MacroRun MacroAction) : Prop :=
  (∃ macroLeft, e.before.executor = .sleep macroLeft) ∧ e.action = .go false

variable {u : UsbGadget} {stroke : KeyboardMacroStep} {keys : List UInt8} {modifier : UInt8}

theorem stripMediaKeysLoop_eq_nil_iff :
  (stripMediaKeysLoop keys).1 = [] ↔ ∀ key ∈ keys, key = 0 ∨ isKeyboardMediaKey key = true
  := by
  induction keys with
  | nil => simp [stripMediaKeysLoop]
  | cons key keys ih =>
      simp only [stripMediaKeysLoop]
      split
      · simp [*]
      · split
        · simp [*]
        · simp [*]

/-- The report of a step says that all keys are up exactly when the step has no modifier and no
key but media keys. -/
theorem stepReport_eq_allUp :
  stepReport stroke = .allUp ↔ ReleasesAll stroke
  := by
  have hholds := holds_stripMediaKeys (length_padKeys stroke.keys)
  have hkeys : (stripMediaKeys (padKeys stroke.keys)).1 = noKeys ↔
      (stripMediaKeysLoop (padKeys stroke.keys)).1 = [] := by
    constructor
    · intro h
      apply List.eq_nil_iff_forall_not_mem.mpr
      intro key hkey
      have hmem : key ∈ (stripMediaKeys (padKeys stroke.keys)).1 :=
        (hholds.mem_iff (stripMediaKeysLoop_mem hkey).2.1).mpr hkey
      rw [h] at hmem
      exact (stripMediaKeysLoop_mem hkey).2.1 (List.eq_of_mem_replicate hmem)
    · intro h
      rw [h] at hholds
      apply hholds.eq_noKeys
  rw [ReleasesAll, ← stripMediaKeysLoop_eq_nil_iff, ← hkeys]
  simp [stepReport, KeysDownState.allUp]

/-- What a keyboard report writes: itself, and a Consumer Control report before it if that says
something new. -/
theorem rpcKeyboardReport_hidg0 (u : UsbGadget) (modifier : UInt8) (keys : List UInt8) :
  ∃ consumer : List UInt8, (rpcKeyboardReport u modifier keys).hidg0 =
    .keyboard modifier (stripMediaKeys (padKeys keys)).1 ::
      (consumer.map HidReport.consumer ++ u.hidg0)
  := by
  have htake := (holds_stripMediaKeys (length_padKeys keys)).take_eq
  simp only [rpcKeyboardReport, UsbGadget.keyboardReport, UsbGadget.updateKeysDown_hidg0,
    UsbGadget.keyboardReportWrites, UsbGadget.keyboardWriteHidFileLocked,
    UsbGadget.writeHidFile, htake]
  split
  · use [(stripMediaKeys (padKeys keys)).2]
    simp [UsbGadget.consumerControlReport_written]
  · use []
    simp

theorem rpcKeyboardReport_lastKeyboardReport (u : UsbGadget) (step : KeyboardMacroStep) :
  lastKeyboardReport (rpcKeyboardReport u step.modifier step.keys).hidg0 = some (stepReport step)
  := by
  obtain ⟨consumer, hhidg0⟩ := rpcKeyboardReport_hidg0 u step.modifier step.keys
  rw [hhidg0]
  rfl

variable {e : Lts.Transition MacroRun MacroAction} {s t : MacroRun} {a : MacroAction}
  {steps macroLeft : List KeyboardMacroStep}
  {tr : List (Lts.Transition MacroRun MacroAction)}

theorem keyboardReportsIn_report {ctxDone ctxDone' : Bool} {executor executor' : Executor} :
  keyboardReportsIn
      ⟨⟨u, ctxDone, executor⟩, a, ⟨rpcKeyboardReport u modifier keys, ctxDone', executor'⟩⟩
    = [{ modifier, keys := (stripMediaKeys (padKeys keys)).1 }]
  := by
  obtain ⟨consumer, hhidg0⟩ := rpcKeyboardReport_hidg0 u modifier keys
  have hlength : (rpcKeyboardReport u modifier keys).hidg0.length - u.hidg0.length =
      (.keyboard modifier (stripMediaKeys (padKeys keys)).1 ::
        consumer.map HidReport.consumer).length := by
    rw [hhidg0]
    simp
    omega
  rw [keyboardReportsIn]
  dsimp only
  rw [hlength, hhidg0, ← List.cons_append, List.take_left]
  simp [List.filterMap_map]

theorem keyboardReportsIn_of_same (h : e.after.gadget.hidg0 = e.before.gadget.hidg0) :
  keyboardReportsIn e = []
  := by
  rw [keyboardReportsIn, h, Nat.sub_self]
  rfl

/-! ### Steps -/

/-- The steps, one case each. -/
inductive MacroSteps : MacroRun → MacroAction → MacroRun → Prop
  | cancel {u : UsbGadget} {ctxDone : Bool} {executor : Executor}
      (h : ∀ b, executor ≠ .returned b) :
      MacroSteps ⟨u, ctxDone, executor⟩ .cancel ⟨u, true, executor⟩
  | finish {u : UsbGadget} {ctxDone : Bool} (timer : Bool) :
      MacroSteps ⟨u, ctxDone, .loop []⟩ (.go timer) ⟨u, ctxDone, .returned false⟩
  | report {u : UsbGadget} {ctxDone : Bool} (timer : Bool) (step : KeyboardMacroStep)
      (macroLeft : List KeyboardMacroStep) :
      MacroSteps ⟨u, ctxDone, .loop (step :: macroLeft)⟩ (.go timer)
        ⟨rpcKeyboardReport u step.modifier step.keys, ctxDone, .reported step macroLeft⟩
  | clear {u v : UsbGadget} {ctxDone : Bool} (timer : Bool) (step : KeyboardMacroStep)
      (macroLeft : List KeyboardMacroStep) (h : v.hidg0 = u.hidg0) :
      MacroSteps ⟨u, ctxDone, .reported step macroLeft⟩ (.go timer) ⟨v, ctxDone, .sleep macroLeft⟩
  | wake {u : UsbGadget} {ctxDone : Bool} (macroLeft : List KeyboardMacroStep) :
      MacroSteps ⟨u, ctxDone, .sleep macroLeft⟩ (.go true) ⟨u, ctxDone, .loop macroLeft⟩
  | abort {u : UsbGadget} (macroLeft : List KeyboardMacroStep) :
      MacroSteps ⟨u, true, .sleep macroLeft⟩ (.go false)
        ⟨rpcKeyboardReport u 0 noKeys, true, .returned true⟩

theorem macroSteps_of_step (h : macroRunLts.step s a t) :
  MacroSteps s a t
  := by
  obtain ⟨u, ctxDone, executor⟩ := s
  cases a with
  | cancel =>
      cases executor with
      | returned b => cases h
      | loop | reported | sleep =>
          obtain rfl := Option.some.inj h
          exact .cancel nofun
  | go timer =>
      cases executor with
      | returned b => cases h
      | loop macroLeft =>
          cases macroLeft with
          | nil =>
              obtain rfl := Option.some.inj h
              apply MacroSteps.finish
          | cons step macroLeft =>
              obtain rfl := Option.some.inj h
              apply MacroSteps.report
      | reported step macroLeft =>
          obtain rfl := Option.some.inj h
          apply MacroSteps.clear
          split
          · apply UsbGadget.updateKeysDown_hidg0
          · rfl
      | sleep macroLeft =>
          cases timer with
          | true =>
              obtain rfl := Option.some.inj h
              apply MacroSteps.wake
          | false =>
              cases ctxDone with
              | false => cases h
              | true =>
                  obtain rfl := Option.some.inj h
                  apply MacroSteps.abort

/-- What a transition reports: the step that it is about to report, that all keys are up if it
takes the branch of the cancelled context, and nothing otherwise. -/
theorem mem_keyboardReportsIn (h : MacroSteps e.before e.action e.after) {r : KeysDownState} :
  r ∈ keyboardReportsIn e ↔
    (∃ step, Reports e step ∧ r = stepReport step) ∨ TakesCancel e ∧ r = .allUp
  := by
  obtain ⟨s, a, t⟩ := e
  dsimp only at h
  cases h with
  | cancel => simp [keyboardReportsIn_of_same, Reports, TakesCancel]
  | finish => simp [keyboardReportsIn_of_same, Reports, TakesCancel]
  | report timer step macroLeft =>
      rw [keyboardReportsIn_report]
      simp [Reports, TakesCancel, stepReport]
  | clear timer step macroLeft h =>
      rw [keyboardReportsIn_of_same h]
      simp [Reports, TakesCancel]
  | wake => simp [keyboardReportsIn_of_same, Reports, TakesCancel]
  | abort macroLeft =>
      rw [keyboardReportsIn_report]
      simp [Reports, TakesCancel, KeysDownState.allUp]
      rfl

/-! ### Runs -/

/-- What the executor has told the host last: when steps are left, the last of those that it
has reported, and when it has returned, the last step of the macro, or that all keys are up if
it has found its context cancelled. -/
def Told (steps : List KeyboardMacroStep) (s : MacroRun) : Prop :=
  match s.executor with
  | .loop macroLeft | .reported _ macroLeft | .sleep macroLeft =>
      ∃ done, steps = done ++ macroLeft ∧
        ∀ step ∈ done.getLast?, lastKeyboardReport s.gadget.hidg0 = some (stepReport step)
  | .returned true => lastKeyboardReport s.gadget.hidg0 = some .allUp
  | .returned false =>
      ∀ step ∈ steps.getLast?, lastKeyboardReport s.gadget.hidg0 = some (stepReport step)

theorem Told.step (h : Told steps s) (step : MacroSteps s a t) :
  Told steps t
  := by
  cases step with
  | @cancel u ctxDone executor hnot =>
      cases executor with
      | returned b => exact absurd rfl (hnot b)
      | loop | reported | sleep => apply h
  | finish =>
      obtain ⟨done, hdone, hlast⟩ := h
      rw [List.append_nil] at hdone
      subst hdone
      apply hlast
  | @report u _ _ step macroLeft =>
      obtain ⟨done, rfl, -⟩ := h
      use done ++ [step], by simp
      intro last hlast
      rw [List.getLast?_concat] at hlast
      rw [← Option.some.inj hlast]
      exact rpcKeyboardReport_lastKeyboardReport u step
  | clear timer step macroLeft hsame =>
      obtain ⟨done, hdone, hlast⟩ := h
      use done, hdone
      intro step hstep
      rw [← hlast step hstep]
      exact congrArg lastKeyboardReport hsame
  | wake => apply h
  | abort macroLeft =>
      obtain ⟨consumer, hhidg0⟩ := rpcKeyboardReport_hidg0 _ 0 noKeys
      rw [Told, hhidg0]
      rfl

theorem told_of_run (run : macroRunLts.Run (startMacro u steps) tr t) :
  Told steps t
  := by
  apply run.invariant (I := Told steps)
  · exact ⟨[], rfl, by simp⟩
  · intro e _ hbefore step
    apply hbefore.step (macroSteps_of_step step)

/-- The executor returns the error of the context exactly when it has taken the branch of the
cancelled context. -/
theorem returned_true_iff (run : macroRunLts.Run (startMacro u steps) tr t) :
  t.executor = .returned true ↔ ∃ e ∈ tr, TakesCancel e
  := by
  induction run with
  | nil => simp [startMacro]
  | @snoc tr s t a _ step ih =>
      have hsplit : (∃ e ∈ tr ++ [⟨s, a, t⟩], TakesCancel e) ↔
          s.executor = .returned true ∨ TakesCancel ⟨s, a, t⟩ := by
        rw [ih]
        simp [or_and_right, exists_or]
      rw [hsplit]
      cases macroSteps_of_step step with
      | cancel hnot => simp [TakesCancel]
      | finish | report | clear | wake | abort => simp [TakesCancel]

/-- After its cancellation, the macro writes no keyboard report but that all keys are up, and
this is the last keyboard report that it writes, if it writes any. -/
def ReleasesKeys (steps : List KeyboardMacroStep)
    (tr : List (Lts.Transition MacroRun MacroAction)) (t : MacroRun) : Prop :=
  (∀ e ∈ tr, e.before.ctxDone = true → ∀ r ∈ keyboardReportsIn e, r = .allUp) ∧
    (steps ≠ [] → lastKeyboardReport t.gadget.hidg0 = some .allUp)

/-- Every step that is still reported after the cancellation releases all keys, and if no
`select` takes the branch of the cancelled context, so does the last step of the macro. -/
def RestReleases (steps : List KeyboardMacroStep)
    (tr : List (Lts.Transition MacroRun MacroAction)) : Prop :=
  (∀ e ∈ tr, e.before.ctxDone = true → ∀ step, Reports e step → ReleasesAll step) ∧
    ((∀ e ∈ tr, ¬ TakesCancel e) → ∀ step ∈ steps.getLast?, ReleasesAll step)

/-- A macro releases its keys exactly when the steps that it still reports after its
cancellation do. -/
theorem releasesKeys_iff (run : macroRunLts.Run (startMacro u steps) tr t)
    (returned : ∃ b, t.executor = .returned b) :
  ReleasesKeys steps tr t ↔ RestReleases steps tr
  := by
  have hmem : ∀ e ∈ tr, ∀ {r : KeysDownState}, r ∈ keyboardReportsIn e ↔
      (∃ step, Reports e step ∧ r = stepReport step) ∨ TakesCancel e ∧ r = .allUp :=
    fun e he => mem_keyboardReportsIn (macroSteps_of_step (run.step_of_mem he))
  have hafter : (∀ e ∈ tr, e.before.ctxDone = true → ∀ r ∈ keyboardReportsIn e, r = .allUp) ↔
      ∀ e ∈ tr, e.before.ctxDone = true → ∀ step, Reports e step → ReleasesAll step := by
    constructor
    · intro h e he hctx step hreports
      apply stepReport_eq_allUp.mp
      apply h e he hctx
      exact (hmem e he).mpr (Or.inl ⟨step, hreports, rfl⟩)
    · intro h e he hctx r hr
      rcases (hmem e he).mp hr with ⟨step, hreports, rfl⟩ | ⟨-, hr⟩
      · apply stepReport_eq_allUp.mpr (h e he hctx step hreports)
      · apply hr
  have hlast : (steps ≠ [] → lastKeyboardReport t.gadget.hidg0 = some .allUp) ↔
      ((∀ e ∈ tr, ¬ TakesCancel e) → ∀ step ∈ steps.getLast?, ReleasesAll step) := by
    have htold := told_of_run run
    have htakes := returned_true_iff run
    obtain ⟨b, hb⟩ := returned
    rw [Told, hb] at htold
    rw [hb] at htakes
    cases b with
    | true =>
        obtain ⟨e, he, htake⟩ := htakes.mp rfl
        exact iff_of_true (fun _ => htold) fun h => absurd htake (h e he)
    | false =>
        have hnot : ∀ e ∈ tr, ¬ TakesCancel e :=
          fun e he htake => nomatch htakes.mpr ⟨e, he, htake⟩
        constructor
        · intro h _ step hstep
          apply stepReport_eq_allUp.mp
          apply Option.some.inj
          rw [← htold step hstep]
          apply h
          rintro rfl
          cases hstep
        · intro h hsteps
          rw [htold _ (List.getLast_mem_getLast? hsteps)]
          congr 1
          apply stepReport_eq_allUp.mpr (h hnot _ (List.getLast_mem_getLast? hsteps))
  rw [ReleasesKeys, RestReleases, hafter, hlast]

/-! ### A macro of two steps -/

/-- The key `a` is pressed for 100 ms and released. -/
def typeA : List KeyboardMacroStep :=
  [{ modifier := 0, keys := [0x04, 0, 0, 0, 0, 0], delay := 100 },
    { modifier := 0, keys := noKeys, delay := 0 }]

/-- The macro is cancelled while it sleeps with the key down. -/
theorem releasesKeys_iff_typeA :
  ∃ tr t, macroRunLts.Run (startMacro newUsbGadget typeA) tr t ∧
    t.ctxDone = true ∧ (ReleasesKeys typeA tr t ↔ RestReleases typeA tr)
  := by
  obtain ⟨tr, t, run, -, hobserve⟩ :=
    Lts.exists_run_of_observe macroStep (startMacro newUsbGadget typeA)
      [.go false, .go false, .cancel, .go false]
      (fun t => decide (t.executor = .returned true ∧ t.ctxDone = true))
      (by decide +kernel : _ = some true)
  obtain ⟨hreturned, hctx⟩ := of_decide_eq_true hobserve
  use tr, t, run, hctx
  exact releasesKeys_iff run ⟨true, hreturned⟩

/-- The macro is cancelled before its first step, and reports the key nevertheless. -/
theorem cancelled_macro_presses :
  ¬ ∀ (u : UsbGadget) (steps : List KeyboardMacroStep)
      (tr : List (Lts.Transition MacroRun MacroAction)) (t : MacroRun),
    macroRunLts.Run (startMacro u steps) tr t → (∃ b, t.executor = .returned b) →
    t.ctxDone = true → ReleasesKeys steps tr t
  := by
  intro claim
  let cancelled : MacroRun := { startMacro newUsbGadget typeA with ctxDone := true }
  let pressed : MacroRun := ⟨rpcKeyboardReport newUsbGadget 0 [0x04, 0, 0, 0, 0, 0], true,
    .reported ⟨0, [0x04, 0, 0, 0, 0, 0], 100⟩ [⟨0, noKeys, 0⟩]⟩
  have press : macroRunLts.Run (startMacro newUsbGadget typeA)
      [⟨startMacro newUsbGadget typeA, .cancel, cancelled⟩, ⟨cancelled, .go false, pressed⟩]
      pressed := (Lts.Run.nil.snoc rfl).snoc rfl
  obtain ⟨tr, t, run, -, hobserve⟩ :=
    Lts.exists_run_of_observe macroStep pressed [.go false, .go false]
      (fun t => decide (t.executor = .returned true ∧ t.ctxDone = true))
      (by decide +kernel : _ = some true)
  obtain ⟨hreturned, hctx⟩ := of_decide_eq_true hobserve
  have hreleases := claim _ typeA _ t (press.append run) ⟨true, hreturned⟩ hctx
  have hup := hreleases.1 ⟨cancelled, .go false, pressed⟩ (by simp) rfl
    ⟨0, [0x04, 0, 0, 0, 0, 0]⟩ (by decide +kernel)
  exact absurd hup (by decide)

end JetKvm.Macro
