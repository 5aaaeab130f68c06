import Mathlib.Data.List.Basic

/-!
# Scanners

A scanner reads a list from its beginning, a piece at a time. Each piece consists of the next
item and of as many of the items after it as the scanner decides when it sees them.
-/

/-- What is made of the next item, given the items after it, and which of these are left. -/
structure Scanner (α β : Type*) where
  step : α → List α → β × List α
  length_le : ∀ a rest, (step a rest).2.length ≤ rest.length

namespace Scanner

variable {α β : Type*} (scanner : Scanner α β)

/-- What is made of the pieces, of which there are at most `n`. -/
def scanUpTo : Nat → List α → List β
  | 0, _ => []
  | _ + 1, [] => []
  | n + 1, a :: rest => (scanner.step a rest).1 :: scanUpTo n (scanner.step a rest).2

/-- What is made of the pieces of a list. -/
def scan (items : List α) : List β :=
  scanner.scanUpTo items.length items

/-- A list has no more pieces than items. -/
theorem scanUpTo_eq {n m : Nat} {items : List α} (hn : items.length ≤ n)
    (hm : items.length ≤ m) :
  scanner.scanUpTo n items = scanner.scanUpTo m items
  := by
  induction n generalizing m items with
  | zero =>
      obtain rfl := List.eq_nil_of_length_eq_zero (Nat.le_zero.mp hn)
      cases m with
      | zero => rfl
      | succ m => rfl
  | succ n ih =>
      cases items with
      | nil =>
          cases m with
          | zero => rfl
          | succ m => rfl
      | cons a rest =>
          cases m with
          | zero => cases hm
          | succ m =>
              have hleft := scanner.length_le a rest
              rw [scanUpTo, scanUpTo]
              congr 1
              apply ih
              · exact Nat.le_trans hleft (Nat.le_of_succ_le_succ hn)
              · exact Nat.le_trans hleft (Nat.le_of_succ_le_succ hm)

@[simp]
theorem scan_nil : scanner.scan [] = []
  := rfl

/-- The scanner goes on with the items that are left. -/
theorem scan_cons (a : α) (rest : List α) :
  scanner.scan (a :: rest) = (scanner.step a rest).1 :: scanner.scan (scanner.step a rest).2
  := by
  rw [scan, List.length_cons, scanUpTo, scan,
    scanUpTo_eq scanner (scanner.length_le a rest) (Nat.le_refl _)]

/-- What holds of the empty list, and of a list when it holds of the items that are left after its
first piece, holds of every list. -/
theorem induction {motive : List α → Prop} (nil : motive [])
    (cons : ∀ a rest, motive (scanner.step a rest).2 → motive (a :: rest)) (items : List α) :
  motive items
  := by
  induction hn : items.length using Nat.strongRecOn generalizing items with
  | _ n ih =>
      cases items with
      | nil => exact nil
      | cons a rest =>
          apply cons
          apply ih _ _ _ rfl
          rw [← hn, List.length_cons]
          exact Nat.lt_succ_of_le (scanner.length_le a rest)

/-! ### What is read -/

/-- The items of the first piece. -/
def consumed (a : α) (rest : List α) : List α :=
  (a :: rest).take (rest.length + 1 - (scanner.step a rest).2.length)

/-- The scanner that notes the items of each piece with what it makes of them. -/
def traced : Scanner α (List α × β) where
  step a rest := ((scanner.consumed a rest, (scanner.step a rest).1), (scanner.step a rest).2)
  length_le := scanner.length_le

theorem map_snd_traced (items : List α) :
  (scanner.traced.scan items).map Prod.snd = scanner.scan items
  := by
  induction items using scanner.induction with
  | nil => rfl
  | cons a rest ih =>
      rw [scan_cons, List.map_cons, scan_cons, ← ih]
      rfl

/-- Each piece has an item. -/
theorem consumed_ne_nil (a : α) (rest : List α) : scanner.consumed a rest ≠ []
  := by
  have hle := scanner.length_le a rest
  rw [consumed, Nat.succ_sub hle, List.take_succ_cons]
  apply List.cons_ne_nil

variable (hsuffix : ∀ a rest, (scanner.step a rest).2 <:+ rest)

include hsuffix in
theorem consumed_append (a : α) (rest : List α) :
  scanner.consumed a rest ++ (scanner.step a rest).2 = a :: rest
  := by
  obtain ⟨front, hfront⟩ := (hsuffix a rest).trans (List.suffix_cons a rest)
  have hlength : rest.length + 1 - (scanner.step a rest).2.length = front.length := by
    rw [← List.length_cons, ← hfront, List.length_append, Nat.add_sub_cancel_right]
  rw [consumed, hlength]
  nth_rewrite 2 [← hfront]
  rw [← hfront, List.take_left]

include hsuffix in
/-- When a tail of the items is left after each piece, every item is in one piece. -/
theorem flatMap_fst_traced (items : List α) :
  (scanner.traced.scan items).flatMap Prod.fst = items
  := by
  induction items using scanner.induction with
  | nil => rfl
  | cons a rest ih =>
      rw [scan_cons, List.flatMap_cons]
      apply Eq.trans _ (scanner.consumed_append hsuffix a rest)
      congr 1

theorem traced_ne_nil (items : List α) :
  ∀ piece ∈ scanner.traced.scan items, piece.1 ≠ []
  := by
  induction items using scanner.induction with
  | nil => exact fun piece hpiece => by cases hpiece
  | cons a rest ih =>
      rw [scan_cons, List.forall_mem_cons]
      exact ⟨scanner.consumed_ne_nil a rest, ih⟩

end Scanner
