import Mathlib.Data.List.Destutter

/-!
# Lists without consecutive repeats

The changes of a list are the values that differ from the ones before them. In a list of pinned and
loose values, the loose ones add no change exactly when each is that of the value before it or of
the next pinned one.
-/

namespace Stutter

variable {α : Type*}

section Changes

variable [DecidableEq α] {v : α} {l : List α}

/-- The values that differ from the ones before them, the first one from `v`. -/
def changes (v : α) : List α → List α
  | [] => []
  | w :: l => if v = w then changes w l else w :: changes w l

theorem destutter_cons (v : α) (l : List α) :
  (v :: l).destutter (· ≠ ·) = v :: changes v l
  := by
  rw [List.destutter_cons']
  induction l generalizing v with
  | nil => rfl
  | cons w l ih =>
      rw [changes]
      by_cases h : v = w
      · rw [if_pos h, List.destutter'_cons_neg _ (not_not_intro h), h, ih]
      · rw [if_neg h, List.destutter'_cons_pos _ h, ih]

theorem isChain_cons_changes (v : α) (l : List α) :
  (v :: changes v l).IsChain (· ≠ ·)
  := by
  rw [← destutter_cons]
  apply List.isChain_destutter

theorem isChain_changes (v : α) (l : List α) :
  (changes v l).IsChain (· ≠ ·)
  := (isChain_cons_changes v l).tail

/-- Values that all differ from the ones before them are all changes. -/
theorem changes_of_isChain (h : (v :: l).IsChain (· ≠ ·)) :
  changes v l = l
  := by
  have hsame := List.destutter_of_isChain _ _ h
  rw [destutter_cons] at hsame
  exact (List.cons_eq_cons.mp hsame).2

/-- The changes after the first value are those that are left of the changes after any value. -/
theorem changes_changes_cons (v w : α) (l : List α) :
  changes w (changes v (w :: l)) = changes w l
  := by
  have hsame := changes_of_isChain (isChain_cons_changes w l)
  rw [changes]
  split
  · exact hsame
  · rw [changes, if_pos rfl, hsame]

theorem changes_concat (v w : α) (l : List α) :
  changes v (l ++ [w]) = changes v l ++ if l.getLast?.getD v = w then [] else [w]
  := by
  induction l generalizing v with
  | nil => rfl
  | cons u l ih =>
      have hlast : (u :: l).getLast?.getD v = l.getLast?.getD u := by
        rw [List.getLast?_cons]
        rfl
      rw [List.cons_append, changes, changes, hlast, ih]
      split
      · rfl
      · rfl

theorem getLast?_destutter (l : List α) :
  (l.destutter (· ≠ ·)).getLast? = l.getLast?
  := by
  cases l with
  | nil => rfl
  | cons v l =>
      rw [destutter_cons]
      induction l generalizing v with
      | nil => rfl
      | cons w l ih =>
          rw [changes, List.getLast?_cons_cons, ← ih w]
          split
          case isTrue h => rw [h]
          case isFalse => rw [List.getLast?_cons_cons]

end Changes

/-! ### Pinned values -/

/-- A value, and whether it is pinned. -/
structure Item (α : Type*) where
  isPinned : Bool
  value : α
deriving DecidableEq

/-- The pinned values of a list. -/
def pinned (items : List (Item α)) : List α :=
  (items.filter Item.isPinned).map Item.value

/-- Each loose value is that of the value before it, which is `v` at first, or that of the next
pinned one. -/
def Follows : α → List (Item α) → Prop
  | _, [] => True
  | v, item :: items =>
      (item.isPinned ∨ item.value = v ∨ (pinned items).head? = some item.value) ∧
        Follows item.value items

variable {item : Item α} {items : List (Item α)} {v w : α}

theorem pinned_sublist (items : List (Item α)) :
  (pinned items).Sublist (items.map Item.value)
  := List.filter_sublist.map Item.value

theorem pinned_cons_of_pos (h : item.isPinned = true) :
  pinned (item :: items) = item.value :: pinned items
  := by rw [pinned, List.filter_cons_of_pos h, List.map_cons, ← pinned]

theorem pinned_cons_of_neg (h : item.isPinned = false) :
  pinned (item :: items) = pinned items
  := by rw [pinned, List.filter_cons_of_neg (Bool.not_eq_true _ |>.mpr h), ← pinned]

theorem pinned_append (items items' : List (Item α)) :
  pinned (items ++ items') = pinned items ++ pinned items'
  := by
  rw [pinned, List.filter_append, List.map_append]
  rfl

variable [DecidableEq α]

/-- A loose value that is neither the one before it nor the next pinned one is one change too
many. -/
theorem cons_changes_ne (hchain : (pinned items).IsChain (· ≠ ·))
    (hnext : (pinned items).head? ≠ some w) :
  w :: changes w (items.map Item.value) ≠ changes v (pinned items)
  := by
  intro heq
  cases hpinned : pinned items with
  | nil =>
      rw [hpinned] at heq
      cases heq
  | cons u rest =>
      rw [hpinned] at heq hnext hchain
      have hwu : w ≠ u := by
        rintro rfl
        exact hnext rfl
      rw [changes] at heq
      split at heq
      case isFalse => exact hwu (List.cons_eq_cons.mp heq).1
      case isTrue =>
        -- the pinned values after this one make a longer chain
        have hsublist : (w :: u :: rest).Sublist (w :: items.map Item.value) := by
          rw [← hpinned]
          exact (pinned_sublist items).cons_cons w
        have hlonger : (w :: u :: rest).IsChain (· ≠ ·) :=
          List.isChain_cons_cons.mpr ⟨hwu, hchain⟩
        have hlength := hlonger.length_le_length_destutter_ne hsublist
        rw [destutter_cons, heq, changes_of_isChain hchain] at hlength
        rw [List.length_cons, List.length_cons] at hlength
        omega

/-- The loose values add no change exactly when they follow. -/
theorem changes_eq_iff (hchain : (pinned items).IsChain (· ≠ ·)) :
  changes v (items.map Item.value) = changes v (pinned items) ↔ Follows v items
  := by
  induction items generalizing v with
  | nil => exact iff_of_true rfl trivial
  | cons item items ih =>
      rw [List.map_cons, Follows]
      cases hitem : item.isPinned with
      | true =>
          rw [pinned_cons_of_pos hitem] at hchain ⊢
          rw [← ih hchain.tail, changes, changes, and_iff_right (Or.inl rfl)]
          split
          · rfl
          · rw [List.cons_eq_cons, and_iff_right rfl]
      | false =>
          rw [pinned_cons_of_neg hitem] at hchain ⊢
          rw [or_iff_right Bool.false_ne_true, ← ih hchain, changes]
          by_cases hsame : v = item.value
          · rw [if_pos hsame, hsame, and_iff_right (Or.inl rfl)]
          · rw [if_neg hsame, or_iff_right (Ne.symm hsame)]
            by_cases hnext : (pinned items).head? = some item.value
            · obtain ⟨rest, hrest⟩ := List.head?_eq_some_iff.mp hnext
              rw [and_iff_right hnext, hrest, changes, if_neg hsame, changes, if_pos rfl,
                List.cons_eq_cons, and_iff_right rfl]
            · apply iff_of_false (cons_changes_ne hchain hnext)
              exact fun h => hnext h.1

/-- A list has the changes of its pinned values after `v` when it begins with `v` and its loose
values follow. -/
theorem destutter_eq_iff (hchain : (pinned items).IsChain (· ≠ ·)) :
  (items.map Item.value).destutter (· ≠ ·) = v :: changes v (pinned items) ↔
    (items.map Item.value).head? = some v ∧ Follows v items
  := by
  cases hvalues : items.map Item.value with
  | nil =>
      apply iff_of_false
      · nofun
      · rintro ⟨h, -⟩
        cases h
  | cons w rest =>
      rw [destutter_cons, List.cons_eq_cons, List.head?_cons, Option.some_inj]
      apply and_congr_right
      rintro rfl
      rw [← changes_eq_iff hchain, hvalues, changes, if_pos rfl]

end Stutter
