import Mathlib.Data.List.Basic

/-!
# Transducers

A transducer reads a list from its beginning, an item at a time. At each item it produces some
output and goes to the next state.
-/

/-- A machine that puts out some items for each that it takes. -/
structure Transducer (State Input Output : Type*) where
  step : State → Input → List Output × State

namespace Transducer

variable {State Input Output : Type*} (M : Transducer State Input Output) {s t : State}

/-- The output for a list. -/
def run (s : State) : List Input → List Output
  | [] => []
  | a :: rest => (M.step s a).1 ++ run (M.step s a).2 rest

/-- The state after a list. -/
def final (s : State) : List Input → State
  | [] => s
  | a :: rest => final (M.step s a).2 rest

/-- Nothing is put out for nothing. -/
@[simp]
theorem run_nil (s : State) : M.run s [] = []
  := rfl

/-- Nothing changes without an input. -/
@[simp]
theorem final_nil (s : State) : M.final s [] = s
  := rfl

/-- The first input is put out first. -/
theorem run_cons (s : State) (a : Input) (rest : List Input) :
  M.run s (a :: rest) = (M.step s a).1 ++ M.run (M.step s a).2 rest
  := rfl

/-- The first input is taken first. -/
theorem final_cons (s : State) (a : Input) (rest : List Input) :
  M.final s (a :: rest) = M.final (M.step s a).2 rest
  := rfl

/-- The output of one input. -/
theorem run_singleton (s : State) (a : Input) :
  M.run s [a] = (M.step s a).1
  := List.append_nil _

/-- Inputs that come later are put out later, from the state that was reached. -/
theorem run_append (s : State) (items more : List Input) :
  M.run s (items ++ more) = M.run s items ++ M.run (M.final s items) more
  := by
  induction items generalizing s with
  | nil => rfl
  | cons a rest ih => rw [List.cons_append, run_cons, run_cons, final_cons, ih, List.append_assoc]

/-- They go on from the state that was reached. -/
theorem final_append (s : State) (items more : List Input) :
  M.final s (items ++ more) = M.final (M.final s items) more
  := by
  induction items generalizing s with
  | nil => rfl
  | cons a rest ih => rw [List.cons_append, final_cons, final_cons, ih]

/-- The last input is taken last. -/
theorem final_snoc (s : State) (items : List Input) (a : Input) :
  M.final s (items ++ [a]) = (M.step (M.final s items) a).2
  := M.final_append s items [a]

/-- States that do the same at the first item do the same at all of them. -/
theorem run_congr {items : List Input}
    (h : ∀ a ∈ items.head?, M.step s a = M.step t a) :
  M.run s items = M.run t items
  := by
  cases items with
  | nil => rfl
  | cons a rest => rw [run_cons, run_cons, h a rfl]

/-- States that go on from the first item with the same state do so at all of them. -/
theorem final_congr {items : List Input} (hitems : items ≠ [])
    (h : ∀ a ∈ items.head?, (M.step s a).2 = (M.step t a).2) :
  M.final s items = M.final t items
  := by
  cases items with
  | nil => exact absurd rfl hitems
  | cons a rest => rw [final_cons, final_cons, h a rfl]

end Transducer
