import JetKvm.Network.IP
import Mathlib.Algebra.GroupWithZero.Nat

/-!
# Networks

An address with a mask. The text of a network whose mask is a number of ones followed by zeros
determines the network.
-/

namespace JetKvm.Network

/-- `net.IPNet`. -/
structure IPNet where
  IP : IP
  Mask : List UInt8
deriving DecidableEq, Repr

/-- The mask of `len` bytes that begins with a number of ones. -/
def cidrMask (ones : ℕ) : (len : ℕ) → List UInt8
  | 0 => []
  | len + 1 => UInt8.ofNat (256 - 2 ^ (8 - ones)) :: cidrMask (ones - 8) len

/-- The number of ones a byte begins with, if there are only zeros after them. -/
def leadingOnes (v : UInt8) : Option ℕ :=
  (List.range 9).find? fun ones => v.toNat = 256 - 2 ^ (8 - ones)

/-- The number of ones that the mask begins with, if there are only zeros after them. -/
def simpleMaskLength : List UInt8 → Option ℕ
  | [] => some 0
  | v :: rest =>
      if v = 0xff then (simpleMaskLength rest).map fun ones => 8 + ones
      else if rest.all fun b => b = 0 then leadingOnes v else none

namespace IPNet

/-- The address in its shorter form, and the mask for this form. -/
def networkNumberAndMask (n : IPNet) : Option (Network.IP × List UInt8) :=
  let ip := IP.normal n.IP
  if ip.length ≠ 4 ∧ ip.length ≠ 16 then none
  else if n.Mask.length = 4 then if ip.length ≠ 4 then none else some (ip, n.Mask)
  else if n.Mask.length = 16 then
    if ip.length = 4 then some (ip, n.Mask.drop 12) else some (ip, n.Mask)
  else none

/-- `IPMask.String`. -/
def maskString (m : List UInt8) : List Char :=
  if m = [] then ['<', 'n', 'i', 'l', '>'] else IP.hexString m

/-- `IPNet.String`. -/
def string (n : IPNet) : List Char :=
  match n.networkNumberAndMask with
  | none => ['<', 'n', 'i', 'l', '>']
  | some (ip, m) =>
      match simpleMaskLength m with
      | none => IP.string ip ++ '/' :: maskString m
      | some ones => IP.string ip ++ '/' :: Nat.toDigits 10 ones

end IPNet

theorem length_cidrMask (ones len : ℕ) :
  (cidrMask ones len).length = len
  := by
  induction len generalizing ones with
  | zero => rfl
  | succ len ih => rw [cidrMask, List.length_cons, ih]

theorem cidrMask_zero (len : ℕ) :
  cidrMask 0 len = List.replicate len 0
  := by
  induction len with
  | zero => rfl
  | succ len ih =>
      rw [cidrMask, Nat.zero_sub, ih]
      rfl

/-- The mask of a number of ones begins with this number of ones. -/
theorem simpleMaskLength_cidrMask {ones len : ℕ} (h : ones ≤ 8 * len) :
  simpleMaskLength (cidrMask ones len) = some ones
  := by
  induction len generalizing ones with
  | zero =>
      obtain rfl := Nat.le_zero.mp h
      rfl
  | succ len ih =>
      rw [cidrMask, simpleMaskLength]
      by_cases hones : 8 ≤ ones
      · have hbyte : UInt8.ofNat (256 - 2 ^ (8 - ones)) = 0xff := by
          rw [Nat.sub_eq_zero_of_le hones]
          rfl
        rw [if_pos hbyte, ih (by omega), Option.map_some, Nat.add_sub_cancel' hones]
      · have hbytes : ∀ ones < 8, UInt8.ofNat (256 - 2 ^ (8 - ones)) ≠ 0xff ∧
            leadingOnes (UInt8.ofNat (256 - 2 ^ (8 - ones))) = some ones := by decide
        obtain ⟨hbyte, hleading⟩ := hbytes ones (by omega)
        rw [if_neg hbyte, Nat.sub_eq_zero_of_le (by omega), cidrMask_zero, if_pos, hleading]
        simp

theorem drop_cidrMask (ones len k : ℕ) :
  (cidrMask ones (k + len)).drop k = cidrMask (ones - 8 * k) len
  := by
  induction k generalizing ones with
  | zero => rw [List.drop_zero, Nat.zero_add, Nat.mul_zero, Nat.sub_zero]
  | succ k ih =>
      rw [Nat.add_right_comm, cidrMask, List.drop_succ_cons, ih]
      congr 1
      omega

namespace IPNet

variable {n n' : IPNet} {ip ip' : Network.IP} {ones ones' : ℕ}

/-- The network is the one of the address, in its shorter form, and the number of ones. -/
def Denotes (n : IPNet) (ip : Network.IP) (ones : ℕ) : Prop :=
  n.networkNumberAndMask = some (ip, cidrMask ones ip.length) ∧ ones ≤ 8 * ip.length

theorem Denotes.eq_normal (h : n.Denotes ip ones) :
  ip = IP.normal n.IP ∧ (ip.length = 4 ∨ ip.length = 16)
  := by
  have hnetwork := h.1
  rw [networkNumberAndMask] at hnetwork
  obtain ⟨hlength, hnetwork⟩ := Option.ite_none_left_eq_some.mp hnetwork
  have hip : ip = IP.normal n.IP := by
    split at hnetwork
    · obtain ⟨-, hnetwork⟩ := Option.ite_none_left_eq_some.mp hnetwork
      exact (congrArg Prod.fst (Option.some.inj hnetwork)).symm
    · obtain ⟨-, hnetwork⟩ := Option.ite_none_right_eq_some.mp hnetwork
      split at hnetwork
      · exact (congrArg Prod.fst (Option.some.inj hnetwork)).symm
      · exact (congrArg Prod.fst (Option.some.inj hnetwork)).symm
  rw [← hip] at hlength
  exact ⟨hip, by omega⟩

theorem Denotes.string_eq (h : n.Denotes ip ones) :
  n.string = IP.string ip ++ '/' :: Nat.toDigits 10 ones
  := by
  rw [string, h.1]
  dsimp only
  rw [simpleMaskLength_cidrMask h.2]

/-- No slash is in the text of an address of a network. -/
theorem Denotes.slash_notMem (h : n.Denotes ip ones) :
  '/' ∉ IP.string ip
  := by
  obtain ⟨-, hlength⟩ := h.eq_normal
  rw [IP.string, if_neg (by omega), if_neg (by omega)]
  split
  · apply IP.notMem_string4
    · decide
    · decide
  · apply IP.notMem_string6
    · decide
    · decide

/-- The text determines the network. -/
theorem Denotes.string_eq_iff (h : n.Denotes ip ones) (h' : n'.Denotes ip' ones') :
  n.string = n'.string ↔ ip = ip' ∧ ones = ones'
  := by
  rw [h.string_eq, h'.string_eq]
  constructor
  · intro heq
    have htexts : [IP.string ip, Nat.toDigits 10 ones] =
        [IP.string ip', Nat.toDigits 10 ones'] := by
      have hslash : ∀ {n : IPNet} {ip ones}, n.Denotes ip ones →
          ∀ text ∈ [IP.string ip, Nat.toDigits 10 ones], '/' ∉ text := by
        intro n ip ones h text htext
        rcases List.mem_cons.mp htext with rfl | htext
        · apply h.slash_notMem
        · obtain rfl := List.mem_singleton.mp htext
          apply Numeral.notMem_toDigits
          · decide
          · decide
          · decide
      apply Numeral.intercalate_injective (by simp) (by simp) (hslash h) (hslash h')
      simpa [List.intercalate_cons_of_ne_nil] using heq
    rw [List.cons.injEq, List.cons.injEq, IP.string_eq_iff, IP.equal_iff_normal] at htexts
    obtain ⟨hip, hones, -⟩ := htexts
    constructor
    · rw [h.eq_normal.1, h'.eq_normal.1, IP.normal_normal, IP.normal_normal,
        ← h.eq_normal.1, ← h'.eq_normal.1] at hip
      apply hip
    · apply Numeral.toDigits_injective _ _ hones
      · decide
      · decide
  · rintro ⟨rfl, rfl⟩
    rfl

end IPNet

end JetKvm.Network
