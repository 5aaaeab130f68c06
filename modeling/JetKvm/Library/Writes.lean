import Mathlib.Data.List.Basic
import Mathlib.Logic.Function.Basic

/-!
# Writes to a store

A store is written to key by key, each write setting the value of a key or removing it. Of several
writes to a key the last one counts, so that writes to all keys that have a value lead to a store
that does not depend on what was there before.
-/

namespace Writes

variable {Key Value : Type*} [DecidableEq Key]

/-- The store after some writes, in order. -/
def writeAll (store : Key → Option Value) : List (Key × Option Value) → Key → Option Value
  | [] => store
  | (key, value) :: writes => writeAll (Function.update store key value) writes

variable {store store' : Key → Option Value} {writes writes' : List (Key × Option Value)}
  {key : Key} {value : Value}

theorem writeAll_append :
  writeAll store (writes ++ writes') = writeAll (writeAll store writes) writes'
  := by
  induction writes generalizing store with
  | nil => rfl
  | cons write writes ih => exact ih

/-- A key that is not written keeps its value. -/
theorem writeAll_of_notMem (h : key ∉ writes.map Prod.fst) :
  writeAll store writes key = store key
  := by
  induction writes generalizing store with
  | nil => rfl
  | cons write writes ih =>
      rw [List.map_cons, List.mem_cons, not_or] at h
      rw [writeAll, ih h.2, Function.update_of_ne h.1]

/-- The value of a key that is written does not depend on the store. -/
theorem writeAll_congr (h : store key = store' key ∨ key ∈ writes.map Prod.fst) :
  writeAll store writes key = writeAll store' writes key
  := by
  induction writes generalizing store store' with
  | nil =>
      rcases h with h | h
      · exact h
      · cases h
  | cons write writes ih =>
      apply ih
      rcases h with h | h
      · left
        rw [Function.update_apply, Function.update_apply, h]
      · rcases List.mem_cons.mp h with rfl | h
        · left
          rw [Function.update_self, Function.update_self]
        · exact Or.inr h

/-- The value of a key that is written is one that was written. -/
theorem writeAll_mem (h : key ∈ writes.map Prod.fst) :
  (key, writeAll store writes key) ∈ writes
  := by
  induction writes generalizing store with
  | nil => cases h
  | cons write writes ih =>
      by_cases hlater : key ∈ writes.map Prod.fst
      · exact List.mem_cons_of_mem _ (ih hlater)
      · obtain rfl := (List.mem_cons.mp h).resolve_right hlater
        rw [writeAll, writeAll_of_notMem hlater, Function.update_self]
        exact List.mem_cons_self

/-- A key that has a value after some writes had it before, or one of the writes has set it. -/
theorem writeAll_eq_some (h : writeAll store writes key = some value) :
  (store key = some value ∧ key ∉ writes.map Prod.fst) ∨ (key, some value) ∈ writes
  := by
  by_cases hmem : key ∈ writes.map Prod.fst
  · right
    rw [← h]
    exact writeAll_mem hmem
  · left
    rw [writeAll_of_notMem hmem] at h
    exact ⟨h, hmem⟩

/-- A key all writes to which remove it has no value after them. -/
theorem writeAll_of_removed (hmem : key ∈ writes.map Prod.fst)
    (h : ∀ write ∈ writes, write.1 = key → write.2 = none) :
  writeAll store writes key = none
  := by
  exact h _ (writeAll_mem hmem) rfl

/-- A key that has no value has none after writes that only remove. -/
theorem writeAll_none (hstore : store key = none) (h : ∀ write ∈ writes, write.2 = none) :
  writeAll store writes key = none
  := by
  by_cases hmem : key ∈ writes.map Prod.fst
  · exact writeAll_of_removed hmem fun write hwrite _ => h write hwrite
  · rw [writeAll_of_notMem hmem, hstore]

/-- Keys that have no value are removed without effect. -/
theorem writeAll_of_absent (hremoved : ∀ write ∈ writes, write.2 = none)
    (habsent : ∀ write ∈ writes, store write.1 = none) :
  writeAll store writes = store
  := by
  induction writes generalizing store with
  | nil => rfl
  | cons write writes ih =>
      rw [List.forall_mem_cons] at hremoved habsent
      have hsame : Function.update store write.1 write.2 = store := by
        rw [hremoved.1, ← habsent.1, Function.update_eq_self]
      rw [writeAll, hsame, ih hremoved.2 habsent.2]

end Writes
