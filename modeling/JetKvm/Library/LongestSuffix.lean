import Mathlib.Data.List.Basic
import Mathlib.Data.List.Infix

/-!
# Longest suffixes

The longest suffix of a list that satisfies a condition. When a list grows at its end, and the
condition holds of a list whenever it holds of a longer one with the same beginning, only what was
kept before and the new item have to be looked at.
-/

/-- The list `kept` is the longest suffix of `items` that satisfies `P`. -/
structure LongestSuffix {α : Type*} (P : List α → Prop) (kept items : List α) : Prop where
  suffix : kept <:+ items
  holds : P kept
  longest : ∀ l, l <:+ items → P l → l <:+ kept

namespace LongestSuffix

variable {α : Type*} {P : List α → Prop} {kept kept' items : List α} {a : α}

theorem nil (h : P []) :
  LongestSuffix P [] []
  where
    suffix := List.suffix_refl _
    holds := h
    longest := fun _ hl _ => hl

/-- A list that satisfies the condition is kept as it is. -/
theorem refl (h : P items) :
  LongestSuffix P items items
  where
    suffix := List.suffix_refl _
    holds := h
    longest := fun _ hl _ => hl

/-- The first item of a list that does not satisfy the condition is not kept. -/
theorem cons (h : LongestSuffix P kept items) (ha : ¬ P (a :: items)) :
  LongestSuffix P kept (a :: items)
  where
    suffix := h.suffix.trans (List.suffix_cons a items)
    holds := h.holds
    longest := by
      intro l hl hP
      rcases List.suffix_cons_iff.mp hl with rfl | hl
      · cases ha hP
      · apply h.longest l hl hP

/-- After one more item, what is kept is found in what was kept before and the new item. -/
theorem concat (closed : ∀ l a, P (l ++ [a]) → P l) (h : LongestSuffix P kept items)
    (h' : LongestSuffix P kept' (kept ++ [a])) :
  LongestSuffix P kept' (items ++ [a])
  where
    suffix := by
      obtain ⟨front, rfl⟩ := h.suffix
      rw [List.append_assoc]
      apply h'.suffix.trans (List.suffix_append _ _)
    holds := h'.holds
    longest := by
      intro l hl hP
      apply h'.longest l _ hP
      rcases List.eq_nil_or_concat' l with rfl | ⟨front, b, rfl⟩
      · apply List.nil_suffix
      · obtain ⟨before, hbefore⟩ := hl
        rw [← List.append_assoc] at hbefore
        obtain ⟨hitems, hb⟩ := List.append_inj' hbefore rfl
        obtain ⟨rest, hrest⟩ := h.longest front ⟨before, hitems⟩ (closed front b hP)
        use rest
        rw [← List.append_assoc, hrest, hb]

end LongestSuffix
