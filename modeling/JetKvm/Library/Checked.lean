import Mathlib.Algebra.GroupWithZero.Nat
import Mathlib.Data.Int.Interval
import Mathlib.Data.Vector.Basic

/-!
# Checked arithmetic

Arithmetic on signed integers of 32 bits, whose operations fault when the result is not in the
range of 32 bits, when a shift amount is not one, and when an index is not one of the table. The
rules reduce what is returned by a computation to its operations, one after the other; an operation
that faults makes them false.
-/

namespace Checked

variable {α β σ : Type}

/-! ### Operations -/

/-- The number is in the range of 32 bits. -/
def Fits (n : ℤ) : Prop :=
  -2 ^ 31 ≤ n ∧ n < 2 ^ 31
deriving Decidable

/-- A number is kept when it fits. -/
def int32 (n : ℤ) : Option ℤ :=
  if Fits n then some n else none

/-- A sum without overflow. -/
def add (a b : ℤ) : Option ℤ :=
  int32 (a + b)

/-- A difference without overflow. -/
def sub (a b : ℤ) : Option ℤ :=
  int32 (a - b)

/-- A product without overflow. -/
def mul (a b : ℤ) : Option ℤ :=
  int32 (a * b)

/-- A negation without overflow. -/
def neg (a : ℤ) : Option ℤ :=
  int32 (-a)

/-- The number of bits that is shifted by. -/
def amount (n : ℤ) : Option ℕ :=
  if 0 ≤ n ∧ n < 32 then some n.toNat else none

/-- A shift without overflow. -/
def shl (a : ℤ) (k : ℕ) : Option ℤ :=
  int32 (a * 2 ^ k)

/-- The shift to the right rounds down. -/
def shr (a : ℤ) (k : ℕ) : ℤ :=
  a / 2 ^ k

/-- An entry of a table. -/
def index (table : List α) (i : ℤ) : Option α :=
  if 0 ≤ i then table[i.toNat]? else none

/-! ### What is returned -/

/-- The computation does not fault, and returns a value with the property. -/
def Returns (x : Option α) (P : α → Prop) : Prop :=
  match x with
  | some a => P a
  | none => False

instance {x : Option α} {P : α → Prop} [DecidablePred P] : Decidable (Returns x P) :=
  match x with
  | some a => inferInstanceAs (Decidable (P a))
  | none => inferInstanceAs (Decidable False)

variable {x : Option α} {f : α → Option β} {P Q : α → Prop} {R : β → Prop} {a b n : ℤ} {k : ℕ}

/-- What is returned has every weaker property. -/
theorem Returns.mono (h : Returns x P) (weaker : ∀ a, P a → Q a) :
  Returns x Q
  := by
  cases x with
  | some a => apply weaker a h
  | none => cases h

/-- A value that is there is returned. -/
@[simp]
theorem returns_some {a : α} :
  Returns (some a) P ↔ P a
  := Iff.rfl

/-- Nothing is returned by a computation that has failed. -/
@[simp]
theorem not_returns_none :
  ¬ Returns none P
  := fun h => h

/-- A pure computation returns its value. -/
@[simp]
theorem returns_pure {a : α} :
  Returns (pure a) P ↔ P a
  := Iff.rfl

/-- The second part goes on with what the first returns. -/
@[simp]
theorem returns_bind :
  Returns (x >>= f) R ↔ Returns x fun a => Returns (f a) R
  := by
  cases x with
  | some a => rfl
  | none => rfl

/-- Both branches return. -/
theorem returns_ite {c : Prop} [Decidable c] {y : Option α} :
  Returns (if c then x else y) P ↔ (c → Returns x P) ∧ (¬ c → Returns y P)
  := by
  split
  · rename_i h
    simp [h]
  · rename_i h
    simp [h]

/-- A computation whose first part has been followed. -/
theorem Returns.bind (h : Returns x P) (rest : ∀ a, P a → Returns (f a) R) :
  Returns (x >>= f) R
  := by
  rw [returns_bind]
  apply h.mono rest

-- Otherwise a computation is run to see what it returns.
attribute [irreducible] Returns

/-- A number is returned when it fits. -/
theorem returns_int32 {P : ℤ → Prop} :
  Returns (int32 n) P ↔ Fits n ∧ P n
  := by
  rw [int32, returns_ite, returns_some]
  constructor
  · rintro ⟨hfits, hfaults⟩
    by_cases h : Fits n
    · exact ⟨h, hfits h⟩
    · exact absurd (hfaults h) not_returns_none
  · rintro ⟨h, hP⟩
    exact ⟨fun _ => hP, fun hnot => absurd h hnot⟩

/-- A sum is returned when it fits. -/
@[simp]
theorem returns_add {P : ℤ → Prop} :
  Returns (add a b) P ↔ Fits (a + b) ∧ P (a + b)
  := returns_int32

/-- So is a difference. -/
@[simp]
theorem returns_sub {P : ℤ → Prop} :
  Returns (sub a b) P ↔ Fits (a - b) ∧ P (a - b)
  := returns_int32

/-- So is a product. -/
@[simp]
theorem returns_mul {P : ℤ → Prop} :
  Returns (mul a b) P ↔ Fits (a * b) ∧ P (a * b)
  := returns_int32

/-- So is a negation. -/
@[simp]
theorem returns_neg {P : ℤ → Prop} :
  Returns (neg a) P ↔ Fits (-a) ∧ P (-a)
  := returns_int32

/-- So is a shift. -/
@[simp]
theorem returns_shl {P : ℤ → Prop} :
  Returns (shl a k) P ↔ Fits (a * 2 ^ k) ∧ P (a * 2 ^ k)
  := returns_int32

/-- An amount to shift by is in range. -/
theorem returns_amount {P : ℕ → Prop} (h : 0 ≤ n) (h' : n < 32) (hP : P n.toNat) :
  Returns (amount n) P
  := by
  rw [amount, if_pos ⟨h, h'⟩, returns_some]
  apply hP

/-- An entry has what the entries between two positions have. -/
theorem returns_index {table : List α} {i : ℤ} (low high : ℕ) (h : low ≤ i) (h' : i < high)
    (hhigh : high ≤ table.length) (hP : ∀ a ∈ (table.take high).drop low, P a) :
  Returns (index table i) P
  := by
  have hi : i.toNat < table.length := by omega
  rw [index, if_pos (by omega), List.getElem?_eq_getElem hi, returns_some]
  apply hP
  rw [List.mem_iff_getElem]
  use i.toNat - low, by rw [List.length_drop, List.length_take]; omega
  rw [List.getElem_drop, List.getElem_take]
  congr 1
  omega

/-- What is true of the items that are left and the state, before each turn of a loop. -/
theorem returns_foldlM {items : List α} {body : σ → α → Option σ} {s : σ}
    (I : List α → σ → Prop) (h : I items s)
    (step : ∀ s item rest, I (item :: rest) s → Returns (body s item) (I rest)) :
  Returns (items.foldlM body s) (I [])
  := by
  induction items generalizing s with
  | nil =>
      rw [List.foldlM_nil, returns_pure]
      apply h
  | cons item items ih =>
      rw [List.foldlM_cons]
      apply Returns.bind (step s item items h)
      intro s' hs'
      apply ih hs'

/-- What is kept in each turn of a loop. -/
theorem Returns.foldlM {items : List α} {body : σ → α → Option σ} {s : σ} {P : σ → Prop}
    (h : P s) (step : ∀ s item, P s → Returns (body s item) P) :
  Returns (items.foldlM body s) P
  := returns_foldlM (fun _ s => P s) h fun s item _ => step s item

/-- What is kept in each turn of a loop that does not fault. -/
theorem foldl_keeps {items : List α} {body : σ → α → σ} {s : σ} {P : σ → Prop} (h : P s)
    (step : ∀ s item, P s → P (body s item)) :
  P (items.foldl body s)
  := by
  induction items generalizing s with
  | nil => apply h
  | cons item items ih =>
      apply ih
      apply step s item h

/-! ### Bounds -/

/-- The product of bounded numbers. -/
theorem natAbs_mul_le {m n : ℕ} (ha : a.natAbs ≤ m) (hb : b.natAbs ≤ n) :
  (a * b).natAbs ≤ m * n
  := by
  rw [Int.natAbs_mul]
  apply Nat.mul_le_mul ha hb

/-- Every entry of the array has the property. -/
def Every {n : ℕ} (P : α → Prop) (array : Vector α n) : Prop :=
  ∀ i : Fin n, P array[i]

/-- A new element has the property of the others. -/
theorem Every.set {n : ℕ} {array : Vector α n} (h : Every P array) (i : Fin n) {a : α}
    (ha : P a) :
  Every P (array.set i a)
  := by
  intro j
  rw [Fin.getElem_fin, Vector.getElem_set]
  split
  · apply ha
  · apply h j

end Checked
