import Mathlib.Data.Nat.Bitwise
import Mathlib.Tactic.Linarith

/-!
# Numbers by their leading bits

The numbers with the same leading bits form a cell, whose width grows with the numbers. Every number
that is large enough is in a cell, and the middle of its cell is no farther from it than half of the
width.
-/

namespace Companding

/-- The numbers whose leading bits are those of `2 ^ m + q`, with `k` bits after them. -/
def Cell (m k q p : ℕ) : Prop :=
  (2 ^ m + q) * 2 ^ k ≤ p ∧ p < (2 ^ m + q + 1) * 2 ^ k

variable {m k q p : ℕ}

theorem cell_iff :
  Cell m k q p ↔ p / 2 ^ k = 2 ^ m + q
  := by
  rw [Cell, Nat.div_eq_iff (Nat.two_pow_pos k)]
  have hpos := Nat.two_pow_pos k
  rw [Nat.add_one_mul (2 ^ m + q)]
  omega

/-- The cell of a number by the position of its leading bit. -/
theorem cell_of_leading (hlow : 2 ^ (m + k) ≤ p) (hhigh : p < 2 ^ (m + k + 1)) :
  Cell m k (p / 2 ^ k % 2 ^ m) p
  := by
  have hdiv : 2 ^ m ≤ p / 2 ^ k := by
    rw [Nat.le_div_iff_mul_le (Nat.two_pow_pos k), ← Nat.pow_add]
    exact hlow
  have hdiv' : p / 2 ^ k < 2 ^ m + 2 ^ m := by
    rw [Nat.div_lt_iff_lt_mul (Nat.two_pow_pos k), ← Nat.two_mul, ← Nat.pow_succ', ← Nat.pow_add,
      Nat.succ_add]
    exact hhigh
  rw [cell_iff, Nat.mod_eq_sub_mod hdiv, Nat.mod_eq_of_lt (by omega)]
  omega

/-- A number is no farther from the middle of its cell than half of the width of the cell. -/
theorem Cell.dist_middle (h : Cell m (k + 1) q p) :
  |((2 * (2 ^ m + q) + 1) * 2 ^ k : ℤ) - p| ≤ 2 ^ k
  := by
  have hlow : ((2 ^ m + q) * 2 ^ (k + 1) : ℤ) ≤ p := by exact_mod_cast h.1
  have hhigh : (p : ℤ) < (2 ^ m + q + 1) * 2 ^ (k + 1) := by exact_mod_cast h.2
  rw [pow_succ] at hlow hhigh
  rw [abs_le]
  constructor <;> linarith

end Companding
