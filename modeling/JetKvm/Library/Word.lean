import Mathlib.Data.Int.Bitwise
import Mathlib.Data.List.Induction

/-!
# 32-bit integers and their bytes

Two readings of a 32-bit signed integer: the integer to which arithmetic wraps around,
and the bit operations that first bring a number into the range of 32 bits. Bytes spell a
number most significant byte first, and taking the bytes of a number apart by shifts and
putting them together again gives the number back.
-/

namespace Word

/-! ### Wrapping -/

/-- The 32-bit signed integer an integer wraps around to. -/
def wrap32 (n : Int) : Int :=
  n.bmod (2 ^ 32)

/-- Integers in the range of 32 bits stay what they are. -/
theorem wrap32_of_mem {n : Int} (hlow : -2 ^ 31 ≤ n) (hhigh : n < 2 ^ 31) :
  wrap32 n = n
  := by
  rw [wrap32, Int.bmod_def]
  omega

theorem wrap32_mem (n : Int) :
  -2 ^ 31 ≤ wrap32 n ∧ wrap32 n < 2 ^ 31
  := by
  rw [wrap32, Int.bmod_def]
  omega

/-- Wrapping a summand first makes no difference to a sum that wraps. -/
@[simp]
theorem wrap32_wrap32_add (m n : Int) :
  wrap32 (wrap32 m + n) = wrap32 (m + n)
  := Int.bmod_add_bmod

@[simp]
theorem wrap32_add_wrap32 (m n : Int) :
  wrap32 (m + wrap32 n) = wrap32 (m + n)
  := Int.add_bmod_bmod

@[simp]
theorem wrap32_wrap32_mul (m n : Int) :
  wrap32 (wrap32 m * n) = wrap32 (m * n)
  := Int.bmod_mul_bmod

/-- Wrapping depends only on the low 32 bits. -/
theorem wrap32_emod (n : Int) :
  wrap32 (n % 2 ^ 32) = wrap32 n
  := Int.emod_bmod n (2 ^ 32)

/-! ### Bit operations on numbers -/

/-- The bitwise and of two numbers, each brought into the range of 32 bits. -/
def and32 (a b : Int) : Int :=
  (BitVec.ofInt 32 a &&& BitVec.ofInt 32 b).toInt

/-- The bitwise or of two numbers, each brought into the range of 32 bits. -/
def or32 (a b : Int) : Int :=
  (BitVec.ofInt 32 a ||| BitVec.ofInt 32 b).toInt

/-- The bitwise complement of a number brought into the range of 32 bits. -/
def not32 (a : Int) : Int :=
  (~~~ BitVec.ofInt 32 a).toInt

/-- A number brought into the range of 32 bits and shifted right, keeping its sign. -/
def shr32 (a : Int) (k : Nat) : Int :=
  ((BitVec.ofInt 32 a).sshiftRight k).toInt

theorem shr32_eq (a : Int) (k : Nat) :
  shr32 a k = wrap32 a / 2 ^ k
  := by
  rw [shr32, BitVec.toInt_sshiftRight, BitVec.toInt_ofInt, Int.shiftRight_eq_div_pow]
  rfl

/-- The low bits of a number. -/
theorem and32_mask (a : Int) {k : Nat} (hk : k ≤ 31) :
  and32 a (2 ^ k - 1) = a % 2 ^ k
  := by
  have hpow : 2 ^ k ≤ 2 ^ 31 := Nat.pow_le_pow_right (by omega) hk
  have hpos : 0 < 2 ^ k := Nat.two_pow_pos k
  have hmask : (BitVec.ofInt 32 (2 ^ k - 1)).toNat = 2 ^ k - 1 := by
    have hcast : ((2 : Int) ^ k - 1) = ((2 ^ k - 1 : Nat) : Int) := by
      rw [Nat.cast_sub hpos]
      simp
    rw [hcast, BitVec.ofInt_natCast, BitVec.toNat_ofNat, Nat.mod_eq_of_lt (by omega)]
  have hand : (BitVec.ofInt 32 a &&& BitVec.ofInt 32 (2 ^ k - 1)).toNat
      = (BitVec.ofInt 32 a).toNat % 2 ^ k := by
    rw [BitVec.toNat_and, hmask]
    apply Nat.and_two_pow_sub_one_eq_mod
  have hlow : ((BitVec.ofInt 32 a).toNat : Int) = a % 2 ^ 32 := by
    rw [BitVec.toNat_ofInt]
    omega
  have hlt := Nat.mod_lt (BitVec.ofInt 32 a).toNat hpos
  rw [and32, BitVec.toInt_eq_toNat_of_lt (by omega), hand, Int.natCast_emod, hlow]
  rw [Nat.cast_pow, Nat.cast_ofNat]
  apply Int.emod_emod_of_dvd
  apply pow_dvd_pow
  omega

/-- The low byte of a number. -/
theorem and32_255 (a : Int) :
  and32 a 0xff = a % 256
  := by
  have h := and32_mask a (by decide : 8 ≤ 31)
  simpa using h

/-- A byte as a word of 32 bits. -/
theorem ofInt_toNat (byte : UInt8) :
  BitVec.ofInt 32 byte.toNat = byte.toBitVec.setWidth 32
  := by
  rw [BitVec.ofInt_natCast]
  apply BitVec.ofNat_toNat

/-- The number that a byte as a word of 32 bits stands for. -/
theorem toInt_setWidth (byte : BitVec 8) :
  (byte.setWidth 32).toInt = byte.toNat
  := by
  have hlt := byte.isLt
  have hwidth : (byte.setWidth 32).toNat = byte.toNat := by
    rw [BitVec.toNat_setWidth]
    omega
  rw [BitVec.toInt_eq_toNat_of_lt (by omega), hwidth]

/-- Setting bits of a byte. -/
theorem or32_toNat (a b : UInt8) :
  or32 a.toNat b.toNat = (a ||| b).toNat
  := by
  rw [or32, ofInt_toNat, ofInt_toNat, ← BitVec.setWidth_or, toInt_setWidth]
  rfl

/-- Clearing bits of a byte. -/
theorem and32_not32_toNat (a b : UInt8) :
  and32 a.toNat (not32 b.toNat) = (a &&& ~~~b).toNat
  := by
  rw [and32, not32, BitVec.ofInt_toInt, ofInt_toNat, ofInt_toNat]
  have hbits : a.toBitVec.setWidth 32 &&& ~~~ b.toBitVec.setWidth 32
      = (a.toBitVec &&& ~~~ b.toBitVec).setWidth 32 := by
    ext i hi
    simp only [BitVec.getElem_and, BitVec.getElem_not, BitVec.getElem_setWidth,
      BitVec.getLsbD_and, BitVec.getLsbD_not]
    by_cases hbyte : i < 8
    · simp [hbyte]
    · simp [BitVec.getLsbD_of_ge a.toBitVec i (by omega)]
  rw [hbits, toInt_setWidth]
  rfl

/-! ### Bytes -/

/-- The byte of a number, reduced to eight bits. -/
def toByte (n : Int) : UInt8 :=
  UInt8.ofInt n

@[simp]
theorem toNat_toByte (n : Int) :
  ((toByte n).toNat : Int) = n % 256
  := by
  rw [toByte, UInt8.ofInt, UInt8.toNat_ofNat']
  omega

/-- The number bytes spell, most significant byte first. -/
def bigEndian (bytes : List UInt8) : Nat :=
  bytes.foldl (fun acc byte => acc * 256 + byte.toNat) 0

/-- Bytes spell a number that fits into them. -/
theorem bigEndian_lt (bytes : List UInt8) :
  bigEndian bytes < 256 ^ bytes.length
  := by
  induction bytes using List.reverseRecOn with
  | nil => decide
  | append_singleton bytes byte ih =>
      have hbyte := byte.toNat_lt
      rw [bigEndian, List.foldl_append, List.length_append, List.length_singleton, pow_succ]
      rw [bigEndian] at ih
      simp only [List.foldl_cons, List.foldl_nil]
      omega

/-- The four bytes of a number. -/
def word32 (n : Int) : List UInt8 :=
  [toByte (and32 (shr32 n 24) 0xff), toByte (and32 (shr32 n 16) 0xff),
    toByte (and32 (shr32 n 8) 0xff), toByte (and32 n 0xff)]

/-- The four bytes of a number spell its low 32 bits. -/
theorem bigEndian_word32 (n : Int) :
  (bigEndian (word32 n) : Int) = n % 2 ^ 32
  := by
  simp only [bigEndian, word32, List.foldl, Nat.cast_add, Nat.cast_mul, toNat_toByte, and32_255,
    shr32_eq, wrap32, Int.bmod_def]
  omega

/-- The two low bytes of a number. -/
def word16 (n : Int) : List UInt8 :=
  [toByte (and32 (shr32 n 8) 0xff), toByte (and32 n 0xff)]

/-- The two low bytes of a number spell its low 16 bits. -/
theorem bigEndian_word16 (n : Int) :
  (bigEndian (word16 n) : Int) = n % 2 ^ 16
  := by
  simp only [bigEndian, word16, List.foldl, Nat.cast_add, Nat.cast_mul, toNat_toByte, and32_255,
    shr32_eq, wrap32, Int.bmod_def]
  omega

/-! ### Least significant byte first -/

/-- The number bytes spell, least significant byte first. -/
def littleEndian : List UInt8 → Nat
  | [] => 0
  | byte :: bytes => byte.toNat + 256 * littleEndian bytes

/-- The low bytes of a number, least significant byte first. -/
def littleEndianBytes : Nat → Nat → List UInt8
  | 0, _ => []
  | count + 1, n => UInt8.ofNat n :: littleEndianBytes count (n / 256)

@[simp]
theorem length_littleEndianBytes (count n : Nat) :
  (littleEndianBytes count n).length = count
  := by
  induction count generalizing n with
  | zero => rfl
  | succ count ih => rw [littleEndianBytes, List.length_cons, ih]

/-- The low bytes of a number spell what is left of it. -/
theorem littleEndian_littleEndianBytes (count n : Nat) :
  littleEndian (littleEndianBytes count n) = n % 256 ^ count
  := by
  induction count generalizing n with
  | zero => rw [Nat.pow_zero, Nat.mod_one]; rfl
  | succ count ih =>
      have hsplit : n % 256 ^ (count + 1) = n % 256 + 256 * (n / 256 % 256 ^ count) := by
        rw [Nat.pow_succ', Nat.mod_mul]
      rw [littleEndianBytes, littleEndian, ih, UInt8.toNat_ofNat', hsplit]

/-- Bytes are the low bytes of the number they spell. -/
theorem littleEndianBytes_littleEndian (bytes : List UInt8) :
  littleEndianBytes bytes.length (littleEndian bytes) = bytes
  := by
  induction bytes with
  | nil => rfl
  | cons byte bytes ih =>
      have hlt := byte.toNat_lt
      have hdiv : (byte.toNat + 256 * littleEndian bytes) / 256 = littleEndian bytes := by
        omega
      have hbyte : UInt8.ofNat (byte.toNat + 256 * littleEndian bytes) = byte := by
        apply UInt8.toNat_inj.mp
        rw [UInt8.toNat_ofNat']
        omega
      rw [List.length_cons, littleEndian, littleEndianBytes, hdiv, hbyte, ih]

/-! ### Narrower integers -/

/-- The range of the integers of a number of bits, with or without a sign. -/
def InRange (signed : Bool) (bits : Nat) (n : Int) : Prop :=
  if signed then -2 ^ (bits - 1) ≤ n ∧ n < 2 ^ (bits - 1) else 0 ≤ n ∧ n < 2 ^ bits

instance (signed : Bool) (bits : Nat) (n : Int) : Decidable (InRange signed bits n) :=
  inferInstanceAs
    (Decidable (if signed then -2 ^ (bits - 1) ≤ n ∧ n < 2 ^ (bits - 1) else 0 ≤ n ∧ n < 2 ^ bits))

/-- The range of fewer bits lies in the range of more bits. -/
theorem inRange_mono {signed : Bool} {bits more : Nat} {n : Int} (hbits : bits ≤ more)
    (h : InRange signed bits n) :
  InRange signed more n
  := by
  cases signed with
  | true =>
      have hpow : (2 : Int) ^ (bits - 1) ≤ 2 ^ (more - 1) := by
        exact_mod_cast Nat.pow_le_pow_right (by decide) (by omega)
      obtain ⟨hlow, hhigh⟩ := h
      exact ⟨by omega, by omega⟩
  | false =>
      have hpow : (2 : Int) ^ bits ≤ 2 ^ more := by
        exact_mod_cast Nat.pow_le_pow_right (by decide) hbits
      obtain ⟨hlow, hhigh⟩ := h
      exact ⟨hlow, by omega⟩

/-- The integer that the low bits of a 64-bit word stand for. -/
def narrow (signed : Bool) (bits : Nat) (word : BitVec 64) : Int :=
  if signed then (word.setWidth bits).toInt else (word.setWidth bits).toNat

/-- The low bits of a word stand for an integer in their range. -/
theorem narrow_mem (signed : Bool) (bits : Nat) (word : BitVec 64) :
  InRange signed bits (narrow signed bits word)
  := by
  cases signed with
  | true =>
      constructor
      · apply BitVec.le_toInt
      · apply BitVec.toInt_lt
  | false =>
      have hlt : ((word.setWidth bits).toNat : Int) < 2 ^ bits := by
        exact_mod_cast (word.setWidth bits).isLt
      exact ⟨Int.natCast_nonneg _, hlt⟩

/-- The low bits of a word that stands for a signed integer in their range stand for it too. -/
theorem narrow_signed {bits : Nat} {word : BitVec 64} (hpos : 0 < bits) (hbits : bits ≤ 64)
    (hrange : InRange true bits word.toInt) :
  narrow true bits word = word.toInt
  := by
  have hdvd : 2 ^ bits ∣ 2 ^ 64 := Nat.pow_dvd_pow 2 hbits
  have hlow : narrow true bits word = word.toInt.bmod (2 ^ bits) := by
    rw [BitVec.toInt_eq_toNat_bmod, Int.bmod_bmod_of_dvd hdvd]
    apply BitVec.toInt_setWidth
  rw [hlow, ← BitVec.toInt_ofInt]
  apply BitVec.toInt_ofInt_eq_self hpos hrange.1 hrange.2

/-- The low bits of a word that stands for an unsigned integer in their range stand for it
too. -/
theorem narrow_unsigned {bits : Nat} {word : BitVec 64}
    (hrange : InRange false bits word.toNat) :
  narrow false bits word = word.toNat
  := by
  have hlt : word.toNat < 2 ^ bits := by
    exact_mod_cast hrange.2
  have hlow : (word.setWidth bits).toNat = word.toNat := by
    rw [BitVec.toNat_setWidth, Nat.mod_eq_of_lt hlt]
  rw [← hlow]
  rfl

end Word
