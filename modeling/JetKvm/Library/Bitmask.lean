import Mathlib.Data.List.Nodup
import Mathlib.Logic.Function.Basic

/-!
# Tables of bit masks

A table gives a mask to each of some keys. The mask of a set of held keys is the bitwise
or of the masks of the held keys of the table. Setting and clearing the bits of one mask
is what pressing and releasing its key does to the mask of the held keys; clearing asks
that the masks of the table have no bit in common. A mask is within another when the other
has all its bits.
-/

namespace Bitmask

variable {Key : Type*}

/-- The bitwise or of the masks of the keys of the table that are held. -/
def maskOf (table : List (Key × UInt8)) (held : Key → Bool) : UInt8 :=
  table.foldr (fun e acc => if held e.1 then e.2 ||| acc else acc) 0

/-- The keys of the table are distinct and no two of its masks share a bit. -/
structure Separated (table : List (Key × UInt8)) : Prop where
  nodup : (table.map Prod.fst).Nodup
  disjoint : table.Pairwise fun e f => e.2 &&& f.2 = 0

variable {table : List (Key × UInt8)} {held held' : Key → Bool} {e : Key × UInt8}

@[simp]
theorem maskOf_nil : maskOf [] held = 0
  := rfl

theorem maskOf_cons :
  maskOf (e :: table) held = if held e.1 then e.2 ||| maskOf table held else maskOf table held
  := rfl

theorem Separated.tail (h : Separated (e :: table)) :
  Separated table
  := ⟨(List.nodup_cons.mp h.nodup).2, (List.pairwise_cons.mp h.disjoint).2⟩

/-- The mask depends only on which keys of the table are held. -/
theorem maskOf_congr (h : ∀ e ∈ table, held e.1 = held' e.1) :
  maskOf table held = maskOf table held'
  := by
  induction table with
  | nil => rfl
  | cons e table ih =>
      rw [maskOf_cons, maskOf_cons, h e List.mem_cons_self,
        ih fun f hf => h f (List.mem_cons_of_mem _ hf)]

/-- No key held gives the empty mask. -/
theorem maskOf_none (h : ∀ e ∈ table, held e.1 = false) :
  maskOf table held = 0
  := by
  induction table with
  | nil => rfl
  | cons e table ih =>
      rw [maskOf_cons, h e List.mem_cons_self, ih fun f hf => h f (List.mem_cons_of_mem _ hf)]
      rfl

/-- When the mask is empty, no key with a bit of its own is held. -/
theorem not_held_of_maskOf_eq_zero (h : maskOf table held = 0) (he : e ∈ table)
    (hbit : e.2 ≠ 0) :
  held e.1 = false
  := by
  induction table with
  | nil => cases he
  | cons f table ih =>
      rw [maskOf_cons] at h
      cases hf : held f.1 with
      | true =>
          rw [hf, if_pos rfl, UInt8.or_eq_zero_iff] at h
          rcases List.mem_cons.mp he with rfl | he
          · exact absurd h.1 hbit
          · apply ih h.2 he
      | false =>
          rw [hf, if_neg Bool.false_ne_true] at h
          rcases List.mem_cons.mp he with rfl | he
          · apply hf
          · apply ih h he

/-- Clearing bits distributes over the bitwise or. -/
theorem or_and_not (a b m : UInt8) :
  (a ||| b) &&& ~~~m = a &&& ~~~m ||| b &&& ~~~m
  := by
  apply UInt8.toBitVec_inj.mp
  ext i hi
  simp [Bool.and_or_distrib_right]

/-- Clearing a mask leaves a mask that shares no bit with it as it is. -/
theorem and_not_of_disjoint {a m : UInt8} (h : a &&& m = 0) :
  a &&& ~~~m = a
  := by
  apply UInt8.toBitVec_inj.mp
  ext i hi
  have hbit := congrArg (fun x : UInt8 => x.toBitVec[i]) h
  simp only [UInt8.toBitVec_and, BitVec.getElem_and, UInt8.toBitVec_not,
    BitVec.getElem_not] at hbit ⊢
  revert hbit
  cases a.toBitVec[i] <;> cases m.toBitVec[i] <;> simp

/-- Clearing the mask of a key that shares no bit with the table leaves the mask of the
table as it is. -/
theorem maskOf_and_not {m : UInt8} (h : ∀ e ∈ table, m &&& e.2 = 0) :
  maskOf table held &&& ~~~m = maskOf table held
  := by
  induction table with
  | nil => simp
  | cons e table ih =>
      have htail := ih fun f hf => h f (List.mem_cons_of_mem _ hf)
      rw [maskOf_cons]
      split
      · rw [or_and_not, htail, and_not_of_disjoint]
        rw [UInt8.and_comm]
        apply h e List.mem_cons_self
      · apply htail

variable {k : Key} {m : UInt8}

/-- The keys of the tail of a separated table differ from its first key. -/
theorem Separated.ne_of_mem (h : Separated (e :: table)) (hk : (k, m) ∈ table) :
  e.1 ≠ k
  := by
  rintro rfl
  apply (List.nodup_cons.mp h.nodup).1
  apply List.mem_map.mpr ⟨_, hk, rfl⟩

variable [DecidableEq Key]

/-- A key outside the table does not count. -/
theorem maskOf_update_of_notMem (hk : k ∉ table.map Prod.fst) (b : Bool) :
  maskOf table (Function.update held k b) = maskOf table held
  := by
  apply maskOf_congr
  intro e he
  apply Function.update_of_ne
  rintro rfl
  exact hk (List.mem_map_of_mem he)

/-- Holding a key of the table sets the bits of its mask. -/
theorem maskOf_press (hk : (k, m) ∈ table) (h : Separated table) :
  maskOf table (Function.update held k true) = maskOf table held ||| m
  := by
  induction table with
  | nil => cases hk
  | cons e table ih =>
      have hnodup := List.nodup_cons.mp h.nodup
      rw [maskOf_cons, maskOf_cons]
      rcases List.mem_cons.mp hk with rfl | hk
      · rw [Function.update_self, maskOf_update_of_notMem hnodup.1]
        by_cases hheld : held k
        · simp only [hheld, if_true]
          rw [UInt8.or_comm m, UInt8.or_assoc, UInt8.or_self]
        · simp only [hheld, if_true]
          apply UInt8.or_comm
      · rw [Function.update_of_ne (h.ne_of_mem hk), ih hk h.tail]
        split
        · rw [UInt8.or_assoc]
        · rfl

/-- Letting go of a key of the table clears the bits of its mask. -/
theorem maskOf_release (hk : (k, m) ∈ table) (h : Separated table) :
  maskOf table (Function.update held k false) = maskOf table held &&& ~~~m
  := by
  induction table with
  | nil => cases hk
  | cons e table ih =>
      have hnodup := List.nodup_cons.mp h.nodup
      have hdisjoint := List.pairwise_cons.mp h.disjoint
      rw [maskOf_cons, maskOf_cons]
      rcases List.mem_cons.mp hk with rfl | hk
      · rw [Function.update_self, maskOf_update_of_notMem hnodup.1]
        have htail : maskOf table held &&& ~~~m = maskOf table held :=
          maskOf_and_not hdisjoint.1
        split
        · simp_all
        · split
          · rw [or_and_not, htail, UInt8.and_not_self, UInt8.zero_or]
          · rw [htail]
      · rw [Function.update_of_ne (h.ne_of_mem hk), ih hk h.tail]
        split
        · rw [or_and_not, and_not_of_disjoint (hdisjoint.1 _ hk)]
        · rfl

/-! ### Masks within masks -/

/-- Every bit of the first mask is one of the second. -/
def Within (a b : UInt8) : Prop :=
  a &&& b = a

instance (a b : UInt8) : Decidable (Within a b) :=
  inferInstanceAs (Decidable (_ = _))

theorem within_iff (a b : UInt8) :
  Within a b ↔ ∀ i (hi : i < 8), a.toBitVec[i] = true → b.toBitVec[i] = true
  := by
  rw [Within, ← UInt8.toBitVec_inj, BitVec.eq_of_getElem_eq_iff]
  simp only [UInt8.toBitVec_and, BitVec.getElem_and, Bool.and_eq_left_iff_imp]

namespace Within

variable {a b c : UInt8}

theorem zero (b : UInt8) :
  Within 0 b
  := UInt8.zero_and

theorem refl (a : UInt8) :
  Within a a
  := UInt8.and_self

theorem left (h : Within a b) (c : UInt8) :
  Within a (b ||| c)
  := by
  rw [within_iff] at h ⊢
  intro i hi ha
  rw [UInt8.toBitVec_or, BitVec.getElem_or, h i hi ha, Bool.true_or]

theorem right (h : Within a c) (b : UInt8) :
  Within a (b ||| c)
  := by
  rw [UInt8.or_comm]
  apply h.left

theorem or (h : Within a c) (h' : Within b c) :
  Within (a ||| b) c
  := by
  rw [within_iff] at h h' ⊢
  intro i hi hor
  rw [UInt8.toBitVec_or, BitVec.getElem_or, Bool.or_eq_true] at hor
  exact hor.elim (h i hi) (h' i hi)

theorem of_and (h : Within a c) (b : UInt8) :
  Within (a &&& b) c
  := by
  rw [within_iff] at h ⊢
  intro i hi hand
  rw [UInt8.toBitVec_and, BitVec.getElem_and, Bool.and_eq_true] at hand
  exact h i hi hand.1

theorem and (h : Within a b) (h' : Within a c) :
  Within a (b &&& c)
  := by rw [Within, ← UInt8.and_assoc, h, h']

end Within

end Bitmask
