import JetKvm.Library.Transition
import Mathlib.Data.List.Basic

/-!
# One-place buffers

A buffer with room for one value, in front of an output. A value passes the empty buffer, or it
is kept there until it is released; a value that is kept takes the place of the one that has
been kept before. Nothing is lost, and the order is preserved, exactly when values are kept only
in the empty buffer.
-/

/-- The value that is kept, and the values that have come out, oldest first. -/
structure Slot (α : Type*) where
  kept : Option α
  released : List α

/-- A value passes the buffer or is kept, or the buffer is emptied, or nothing happens. -/
inductive SlotAction (α : Type*) where
  | pass (a : α)
  | keep (a : α)
  | release
  | idle

/-- The value that is put in. -/
def SlotAction.offered {α : Type*} : SlotAction α → Option α
  | .pass a => some a
  | .keep a => some a
  | .release => none
  | .idle => none

namespace Slot

variable {α : Type*} {s t : Slot α} {a : SlotAction α}
  {tr : List (Lts.Transition (Slot α) (SlotAction α))}

/-- The buffer before its first value. -/
def empty : Slot α where
  kept := none
  released := []

/-- The next state. -/
def step (s : Slot α) : SlotAction α → Option (Slot α)
  | .pass a => if s.kept.isNone then some { s with released := s.released ++ [a] } else none
  | .keep a => some { s with kept := some a }
  | .release => some { kept := none, released := s.released ++ s.kept.toList }
  | .idle => some s

def lts : Lts (Slot α) (SlotAction α) :=
  Lts.ofStep step

/-- The values that have come out, and the one that is still to come. -/
def contents (s : Slot α) : List α :=
  s.released ++ s.kept.toList

/-- A value is kept while the buffer is not empty. -/
def loses (s : Slot α) : SlotAction α → Bool
  | .keep _ => s.kept.isSome
  | .pass _ => false
  | .release => false
  | .idle => false

/-- The values that are put in by the transitions, oldest first. -/
def offered (tr : List (Lts.Transition (Slot α) (SlotAction α))) : List α :=
  tr.filterMap fun e => e.action.offered

theorem offered_concat :
  offered (tr ++ [⟨s, a, t⟩]) = offered tr ++ a.offered.toList
  := by
  rw [offered, List.filterMap_append]
  rfl

@[simp]
theorem contents_empty : (empty : Slot α).contents = []
  := rfl

/-- An empty buffer contains what has come out. -/
theorem contents_of_kept (h : s.kept = none) :
  s.contents = s.released
  := by
  rw [contents, h]
  apply List.append_nil

/-- Unless a value is lost, the value that is put in is added to the contents. -/
theorem contents_of_step (step : lts.step s a t) (h : s.loses a = false) :
  t.contents = s.contents ++ a.offered.toList
  := by
  cases a with
  | pass v =>
      obtain ⟨hnone, hnext⟩ := Option.ite_none_right_eq_some.mp step
      obtain rfl := Option.some.inj hnext
      have hkept : s.kept = none := Option.isNone_iff_eq_none.mp hnone
      have hafter := contents_of_kept (s := { s with released := s.released ++ [v] }) hkept
      rw [contents_of_kept hkept]
      apply hafter
  | keep v =>
      obtain rfl := Option.some.inj step
      rw [contents_of_kept (Option.not_isSome_iff_eq_none.mp (Bool.eq_false_iff.mp h))]
      rfl
  | release =>
      obtain rfl := Option.some.inj step
      rfl
  | idle =>
      obtain rfl := Option.some.inj step
      symm
      apply List.append_nil

/-- A value that is lost takes one from the contents. -/
theorem length_contents_of_step (step : lts.step s a t) :
  t.contents.length + (s.loses a).toNat = s.contents.length + a.offered.toList.length
  := by
  cases hloses : s.loses a with
  | false =>
      rw [contents_of_step step hloses, List.length_append]
      rfl
  | true =>
      cases a with
      | keep v =>
          obtain rfl := Option.some.inj step
          obtain ⟨old, hold⟩ := Option.isSome_iff_exists.mp hloses
          simp only [contents, hold, List.length_append]
          rfl
      | pass v => cases hloses
      | release => cases hloses
      | idle => cases hloses

/-- A run that loses nothing adds what is put in to the contents. -/
theorem contents_of_run (run : lts.Run s tr t)
    (h : ∀ e ∈ tr, e.before.loses e.action = false) :
  t.contents = s.contents ++ offered tr
  := by
  induction run with
  | nil =>
      symm
      apply List.append_nil
  | snoc run step ih =>
      rw [contents_of_step step (h _ (List.mem_append_right _ (List.mem_singleton_self _))),
        ih fun e he => h e (List.mem_append_left _ he), offered_concat, List.append_assoc]

/-- The values that are put in are in the contents or lost. -/
theorem length_contents_of_run (run : lts.Run s tr t) :
  t.contents.length + tr.countP (fun e => e.before.loses e.action) =
    s.contents.length + (offered tr).length
  := by
  induction run with
  | nil => rfl
  | @snoc tr u v b run step ih =>
      have hstep := length_contents_of_step step
      rw [offered_concat, List.length_append, List.countP_append, List.countP_singleton]
      cases hloses : u.loses b with
      | false =>
          rw [hloses] at hstep
          simp only [Bool.toNat_false, Bool.false_eq_true, if_false] at hstep ⊢
          omega
      | true =>
          rw [hloses] at hstep
          simp only [Bool.toNat_true, if_true] at hstep ⊢
          omega

/-- What is put in is added to the contents exactly when nothing is lost. -/
theorem contents_eq_iff (run : lts.Run s tr t) :
  t.contents = s.contents ++ offered tr ↔ ∀ e ∈ tr, e.before.loses e.action = false
  := by
  constructor
  · intro h
    have hlength := length_contents_of_run run
    rw [h, List.length_append] at hlength
    have hcount : tr.countP (fun e => e.before.loses e.action) = 0 := by omega
    intro e he
    exact Bool.eq_false_iff.mpr (List.countP_eq_zero.mp hcount e he)
  · apply contents_of_run run

end Slot
