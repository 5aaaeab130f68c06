import JetKvm.Library.ThreadPool
import Mathlib.Algebra.BigOperators.Fin
import Mathlib.Data.Set.Card

/-!
# Counting threads

The number of the threads of a pool that are at certain places, and how one step of one thread
changes it.
-/

namespace Pool

/-! ### Finitely many threads -/

section Count

variable {Shared Local Thread : Type*} [Fintype Thread] [DecidableEq Thread]

/-- The number of threads of which `P` holds. -/
def count (P : Local → Prop) [DecidablePred P] (threads : Thread → Local) : ℕ :=
  ∑ i, if P (threads i) then 1 else 0

/-- A step of one thread changes the number by that thread. -/
theorem count_update (P : Local → Prop) [DecidablePred P] (threads : Thread → Local) (i : Thread)
    (l : Local) :
  count P (Function.update threads i l) + (if P (threads i) then 1 else 0) =
    count P threads + if P l then 1 else 0
  := by
  have hrest : ∑ j ∈ Finset.univ.erase i, (if P (Function.update threads i l j) then 1 else 0) =
      ∑ j ∈ Finset.univ.erase i, if P (threads j) then 1 else 0 := by
    apply Finset.sum_congr rfl
    intro j hj
    rw [Function.update_of_ne (Finset.ne_of_mem_erase hj)]
  rw [count, count, ← Finset.add_sum_erase _ _ (Finset.mem_univ i),
    ← Finset.add_sum_erase _ (fun j => if P (threads j) then 1 else 0) (Finset.mem_univ i), hrest,
    Function.update_self]
  omega

end Count

/-! ### Any number of threads -/

section Encard

variable {Local Thread : Type*} [DecidableEq Thread] {P : Local → Prop} {threads : Thread → Local}
  {i : Thread} {l : Local}

/-- A thread that comes to satisfy `P` is one more. -/
theorem encard_update_of_not (h : ¬ P (threads i)) (hl : P l) :
  {j | P (Function.update threads i l j)}.encard = {j | P (threads j)}.encard + 1
  := by
  have hnew : {j | P (Function.update threads i l j)} = insert i {j | P (threads j)} := by
    ext j
    by_cases hj : j = i
    · subst hj
      simp [hl]
    · simp [hj]
  have hi : i ∉ {j | P (threads j)} := h
  rw [hnew, Set.encard_insert_of_notMem hi]

/-- A thread that ceases to satisfy `P` is one less. -/
theorem encard_update_add_one (h : P (threads i)) (hl : ¬ P l) :
  {j | P (Function.update threads i l j)}.encard + 1 = {j | P (threads j)}.encard
  := by
  have hnew : {j | P (Function.update threads i l j)} = {j | P (threads j)} \ {i} := by
    ext j
    by_cases hj : j = i
    · subst hj
      simp [hl]
    · simp [hj]
  rw [hnew, Set.encard_sdiff_singleton_add_one]
  apply h

/-- A thread of which `P` holds as before leaves the number unchanged. -/
theorem encard_update_of_iff (h : P l ↔ P (threads i)) :
  {j | P (Function.update threads i l j)}.encard = {j | P (threads j)}.encard
  := by
  congr 1
  ext j
  by_cases hj : j = i
  · subst hj
    simp [h]
  · simp [hj]

end Encard

end Pool
