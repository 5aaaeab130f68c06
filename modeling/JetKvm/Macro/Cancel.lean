import JetKvm.Library.ThreadPool
import Mathlib.Data.Fintype.Card
import Mathlib.Data.FinEnum

/-!
# Cancelling keyboard macros

The cancel function of the macro that runs is kept in one place, under `keyboardMacroLock`.
A macro that is started cancels the one that is kept, creates its context, and is kept
itself; when it is done, nothing is kept. Any number of macros are started and cancelled at
a time. A cancellation reaches every macro that runs, as long as no macro that has not been
cancelled is replaced or forgotten.
-/

namespace JetKvm.Macro

/-- What is kept under `keyboardMacroLock`, and which contexts have been cancelled. A context
is that of the call that has created it. -/
structure Control (Thread : Type*) where
  keyboardMacroCancel : Option Thread
  cancelled : Thread → Bool

/-- Where a call is. -/
inductive MacroCall where
  /-- At the beginning of `rpcExecuteKeyboardMacro`. -/
  | execute
  /-- In `rpcExecuteKeyboardMacro`, with a context of its own that is not kept yet. -/
  | register
  /-- In `rpcDoExecuteKeyboardMacro`. -/
  | running
  /-- In `rpcExecuteKeyboardMacro`, after `rpcDoExecuteKeyboardMacro` has returned. -/
  | finished
  /-- At the beginning of `cancelKeyboardMacro`. -/
  | cancel
  | done
deriving DecidableEq, Repr

section Calls

variable {Thread : Type*} [DecidableEq Thread]

/-- Cancels the macro that is kept, if there is one, and keeps none. -/
def Control.cancelKeyboardMacro (s : Control Thread) : Control Thread :=
  match s.keyboardMacroCancel with
  | none => s
  | some i =>
      { keyboardMacroCancel := none
        cancelled := Function.update s.cancelled i true }

def Control.setKeyboardMacroCancel (s : Control Thread) (cancel : Option Thread) :
    Control Thread :=
  { s with keyboardMacroCancel := cancel }

/-- One region of call `i`. The macro itself may return at any moment. -/
def MacroCall.exec (i : Thread) (_ : Unit) (s : Control Thread) :
    MacroCall → Option (Control Thread × MacroCall)
  | execute => some (s.cancelKeyboardMacro, register)
  | register => some (s.setKeyboardMacroCancel (some i), running)
  | running => some (s, finished)
  | finished => some (s.setKeyboardMacroCancel none, done)
  | cancel => some (s.cancelKeyboardMacro, done)
  | done => none

/-- Where a call may begin. -/
inductive MacroCall.Begins : MacroCall → Prop
  | rpcExecuteKeyboardMacro : Begins execute
  | cancelKeyboardMacro : Begins cancel
  | done : Begins done

/-- The call is about to call `cancelKeyboardMacro`. -/
def MacroCall.Cancels : MacroCall → Bool
  | execute | cancel => true
  | _ => false

/-- The call is about to call `setKeyboardMacroCancel`. -/
def MacroCall.Sets : MacroCall → Bool
  | register | finished => true
  | _ => false

/-- A step that calls `cancelKeyboardMacro` does nothing else to what is shared. -/
theorem MacroCall.exec_cancels {i : Thread} {x : Unit} {s s' : Control Thread} {g g' : MacroCall}
    (hexec : exec i x s g = some (s', g')) (cancels : g.Cancels = true) :
  s' = s.cancelKeyboardMacro ∧ g' ≠ .running
  := by
  cases g with
  | execute =>
      obtain ⟨rfl, rfl⟩ := Prod.mk.inj (Option.some.inj hexec)
      exact ⟨rfl, nofun⟩
  | cancel =>
      obtain ⟨rfl, rfl⟩ := Prod.mk.inj (Option.some.inj hexec)
      exact ⟨rfl, nofun⟩
  | register | running | finished | done => cases cancels

variable (Thread) in
/-- The interleavings of the calls. -/
def macroLts : Lts (Pool (Control Thread) MacroCall Thread) (Thread × Unit) :=
  Pool.lts MacroCall.exec

end Calls

section Cancellation

variable {Thread : Type*} {c c' : Pool (Control Thread) MacroCall Thread} {i : Thread}

/-- No macro is kept, none has been cancelled, and every call is where it may begin. -/
structure Initial (c : Pool (Control Thread) MacroCall Thread) : Prop where
  kept : c.shared.keyboardMacroCancel = none
  cancelled : ∀ i, c.shared.cancelled i = false
  begins : ∀ i, (c.threads i).Begins

/-- The context of every macro that runs has been cancelled. -/
def AllCancelled (c : Pool (Control Thread) MacroCall Thread) : Prop :=
  ∀ i, c.threads i = .running → c.shared.cancelled i = true

/-- Every macro that runs has been cancelled or is the one that is kept, so that a call of
`cancelKeyboardMacro` would reach it. -/
def Reached (c : Pool (Control Thread) MacroCall Thread) : Prop :=
  ∀ i, c.threads i = .running →
    c.shared.cancelled i = true ∨ c.shared.keyboardMacroCancel = some i

/-- If call `i` is about to set what is kept, the macros of all other calls that run have been
cancelled. -/
def SetsFree (c : Pool (Control Thread) MacroCall Thread) (i : Thread) : Prop :=
  (c.threads i).Sets = true →
    ∀ j, j ≠ i → c.threads j = .running → c.shared.cancelled j = true

variable [DecidableEq Thread]

/-- Once `cancelKeyboardMacro` has been called, every macro that was reached is cancelled. -/
theorem Reached.cancelKeyboardMacro (h : Reached c) (hi : c.threads i = .running) :
  c.shared.cancelKeyboardMacro.cancelled i = true
  := by
  rw [Control.cancelKeyboardMacro]
  rcases h i hi with hcancelled | hkept
  · split
    · apply hcancelled
    · rename_i j _
      by_cases hij : i = j
      · subst hij
        apply Function.update_self
      · dsimp only
        rw [Function.update_of_ne hij]
        apply hcancelled
  · rw [hkept]
    apply Function.update_self

/-- After a step that calls `cancelKeyboardMacro`, every macro that runs is cancelled. -/
theorem Reached.allCancelled (h : Reached c) {a : Thread × Unit}
    (step : (macroLts Thread).step c a c') (cancels : (c.threads a.1).Cancels = true) :
  AllCancelled c'
  := by
  obtain ⟨s, g, hexec, rfl⟩ := Pool.lts_step.mp step
  obtain ⟨rfl, hnot⟩ := MacroCall.exec_cancels hexec cancels
  intro i hi
  dsimp only at hi ⊢
  by_cases hia : i = a.1
  · subst hia
    rw [Function.update_self] at hi
    exact absurd hi hnot
  · rw [Function.update_of_ne hia] at hi
    apply h.cancelKeyboardMacro hi

omit [DecidableEq Thread] in
theorem Initial.reached (init : Initial c) :
  Reached c
  := by
  intro i hi
  have hbegins := init.begins i
  rw [hi] at hbegins
  cases hbegins

/-- After call `i` has set what is kept, every macro that runs is reached exactly when those
of the other calls have been cancelled. -/
theorem reached_set_iff {cancel : Option Thread} {g : MacroCall}
    (hcancel : ∀ j, cancel = some j → j = i) (hg : g = .running → cancel = some i) :
  Reached ⟨c.shared.setKeyboardMacroCancel cancel, Function.update c.threads i g⟩ ↔
    ∀ j, j ≠ i → c.threads j = .running → c.shared.cancelled j = true
  := by
  constructor
  · intro h j hj hrunning
    rcases h j ((Function.update_of_ne hj g c.threads).trans hrunning) with hcancelled | hkept
    · apply hcancelled
    · exact absurd (hcancel j hkept) hj
  · intro h j hrunning
    dsimp only at hrunning ⊢
    by_cases hj : j = i
    · subst hj
      rw [Function.update_self] at hrunning
      exact Or.inr (hg hrunning)
    · rw [Function.update_of_ne hj] at hrunning
      exact Or.inl (h j hj hrunning)

/-- A step leaves a state in which every macro that runs is reached exactly when it does not
replace or forget one that has not been cancelled. -/
theorem Reached.step_iff (h : Reached c) {a : Thread × Unit}
    (step : (macroLts Thread).step c a c') :
  Reached c' ↔ SetsFree c a.1
  := by
  have hstep := step
  obtain ⟨s, g, hexec, rfl⟩ := Pool.lts_step.mp step
  rw [SetsFree]
  cases hcall : c.threads a.1 with
  | execute | cancel =>
      apply iff_of_true
      · intro i hi
        exact Or.inl (h.allCancelled hstep (by rw [hcall]; rfl) i hi)
      · exact nofun
  | register =>
      rw [hcall] at hexec
      obtain ⟨rfl, rfl⟩ := Prod.mk.inj (Option.some.inj hexec)
      rw [reached_set_iff]
      · simp [MacroCall.Sets]
      · exact fun j hj => (Option.some.inj hj).symm
      · exact fun _ => rfl
  | finished =>
      rw [hcall] at hexec
      obtain ⟨rfl, rfl⟩ := Prod.mk.inj (Option.some.inj hexec)
      rw [reached_set_iff]
      · simp [MacroCall.Sets]
      · exact nofun
      · exact nofun
  | running =>
      rw [hcall] at hexec
      obtain ⟨rfl, rfl⟩ := Prod.mk.inj (Option.some.inj hexec)
      apply iff_of_true
      · intro i hi
        dsimp only at hi ⊢
        by_cases hia : i = a.1
        · subst hia
          rw [Function.update_self] at hi
          cases hi
        · rw [Function.update_of_ne hia] at hi
          apply h i hi
      · exact nofun
  | done =>
      rw [hcall] at hexec
      cases hexec

/-- In every run whose steps never replace or forget a macro that runs and has not been
cancelled, each call of `cancelKeyboardMacro` cancels every macro that runs. -/
theorem cancel_reaches_all {c₀ c : Pool (Control Thread) MacroCall Thread}
    {tr : List (Lts.Transition (Pool (Control Thread) MacroCall Thread) (Thread × Unit))}
    (init : Initial c₀) (run : (macroLts Thread).Run c₀ tr c)
    (free : ∀ e ∈ tr, SetsFree e.before e.action.1) :
  ∀ e ∈ tr, (e.before.threads e.action.1).Cancels = true → AllCancelled e.after
  := by
  have hreached : ∀ e ∈ tr, Reached e.before := by
    apply run.invariant_before init.reached
    intro e he hbefore step
    apply (hbefore.step_iff step).mpr (free e he)
  intro e he hcancels
  apply (hreached e he).allCancelled (run.step_of_mem he) hcancels

end Cancellation

/-! ### Two macros at a time -/

/-- Two macros and a cancellation. -/
def twoMacros : Pool (Control (Fin 3)) MacroCall (Fin 3) where
  shared := { keyboardMacroCancel := none, cancelled := fun _ => false }
  threads
    | 0 | 1 => .execute
    | 2 => .cancel

theorem initial_twoMacros : Initial twoMacros where
  kept := rfl
  cancelled _ := rfl
  begins
    | 0 | 1 => .rpcExecuteKeyboardMacro
    | 2 => .cancelKeyboardMacro

/-- The steps of the given calls. -/
def macroSteps (calls : List (Fin 3)) : List (Fin 3 × Unit) :=
  calls.map fun i => (i, ())

instance (c : Pool (Control (Fin 3)) MacroCall (Fin 3)) (i : Fin 3) :
    Decidable (SetsFree c i) :=
  inferInstanceAs (Decidable (_ = true → _))

/-- The second macro is started when the first one is kept, which cancels the first one, and
is cancelled itself when the first one has not returned yet. -/
theorem cancel_reaches_all_twoMacros :
  ∃ tr c, (macroLts (Fin 3)).Run twoMacros tr c ∧ c.threads 0 = .running ∧
    c.threads 1 = .running ∧
    ∀ e ∈ tr, (e.before.threads e.action.1).Cancels = true → AllCancelled e.after
  := by
  obtain ⟨tr, c, run, -, hfree, hobserve⟩ :=
    Lts.exists_run_of_restrict (Pool.advance MacroCall.exec) (fun c a => SetsFree c a.1)
      twoMacros (macroSteps [0, 0, 1, 1, 2])
      (fun c => decide (c.threads 0 = .running ∧ c.threads 1 = .running))
      (by decide +kernel : _ = some true)
  obtain ⟨hfirst, hsecond⟩ := of_decide_eq_true hobserve
  use tr, c, run, hfirst, hsecond
  exact cancel_reaches_all initial_twoMacros run hfree

/-- Both macros are started before one of them is kept. The second one replaces the first, and
the cancellation does not reach the first. -/
theorem cancel_misses_macro :
  ¬ ∀ (c₀ c : Pool (Control (Fin 3)) MacroCall (Fin 3))
      (tr : List (Lts.Transition (Pool (Control (Fin 3)) MacroCall (Fin 3)) (Fin 3 × Unit))),
    Initial c₀ → (macroLts (Fin 3)).Run c₀ tr c →
    ∀ e ∈ tr, (e.before.threads e.action.1).Cancels = true → AllCancelled e.after
  := by
  intro claim
  obtain ⟨tr, c, run, -, hobserve⟩ :=
    Lts.exists_run_of_observe (Pool.advance MacroCall.exec) twoMacros
      (macroSteps [0, 1, 0, 1])
      (fun c => decide (c.threads 0 = .running ∧ c.threads 2 = .cancel ∧
        c.shared.keyboardMacroCancel = some 1 ∧ c.shared.cancelled 0 = false))
      (by decide +kernel : _ = some true)
  obtain ⟨hrunning, hcall, hkept, hnot⟩ := of_decide_eq_true hobserve
  have hstep : (macroLts (Fin 3)).step c (2, ())
      ⟨c.shared.cancelKeyboardMacro, Function.update c.threads 2 .done⟩ := by
    apply Pool.lts_step.mpr
    refine ⟨_, _, ?_, rfl⟩
    rw [hcall]
    rfl
  have hall := claim _ _ _ initial_twoMacros (run.snoc hstep) _
    (List.mem_append_right _ (List.mem_singleton_self _)) (by rw [hcall]; rfl) 0 hrunning
  dsimp only at hall
  rw [Control.cancelKeyboardMacro, hkept] at hall
  dsimp only at hall
  rw [Function.update_of_ne (by decide), hnot] at hall
  cases hall

end JetKvm.Macro
