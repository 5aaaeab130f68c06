import Mathlib.Algebra.BigOperators.Group.Finset.Basic
import Mathlib.Data.List.Basic

/-!
# Programming the EDID

The EDID of the display comes as a text, is read by `hex_to_bytes`, and is handed to the driver by
`set_edid` with the checksums of its blocks. Two characters at a time are read by `strtol`, which
skips blanks and takes a sign, so that there are texts other than hexadecimal ones that are read.
-/

namespace JetKvm.Native

/-- The characters of a C string, without the one that ends it. -/
structure CString where
  chars : List UInt8
  noNul : 0 ∉ chars

/-! ### Numbers in hexadecimal -/

/-- `isspace`. -/
def isspace (c : UInt8) : Bool :=
  c = ' '.toUInt8 || 9 ≤ c && c ≤ 13

/-- `isxdigit`. -/
def isxdigit (c : UInt8) : Bool :=
  '0'.toUInt8 ≤ c && c ≤ '9'.toUInt8 || 'a'.toUInt8 ≤ c && c ≤ 'f'.toUInt8 ||
    'A'.toUInt8 ≤ c && c ≤ 'F'.toUInt8

/-- The value of a digit. -/
def xdigitValue (c : UInt8) : ℕ :=
  if c ≤ '9'.toUInt8 then c.toNat - '0'.toNat
  else if 'a'.toUInt8 ≤ c then c.toNat - 'a'.toNat + 10
  else c.toNat - 'A'.toNat + 10

/-- The sign that `strtol` takes, and what follows it. -/
def takeSign : List UInt8 → Bool × List UInt8
  | [] => (false, [])
  | c :: rest =>
      if c = '-'.toUInt8 then (true, rest)
      else if c = '+'.toUInt8 then (false, rest)
      else (false, c :: rest)

/-- `strtol` skips `0x` when a digit follows. -/
def skipPrefix : List UInt8 → List UInt8
  | zero :: x :: digit :: rest =>
      if zero = '0'.toUInt8 ∧ (x = 'x'.toUInt8 ∨ x = 'X'.toUInt8) ∧ isxdigit digit then
        digit :: rest
      else zero :: x :: digit :: rest
  | s => s

/-- The number that a text begins with, and what follows it, if there are digits. -/
def readNumber (negative : Bool) (s : List UInt8) : Option (ℤ × List UInt8) :=
  let value : ℤ := (s.takeWhile isxdigit).foldl (fun n c => n * 16 + xdigitValue c) 0
  if s.takeWhile isxdigit = [] then none
  else some (if negative then -value else value, s.dropWhile isxdigit)

/-- `strtol` to the base 16: the value, and the characters from `end_ptr` on. No value of a few
digits is out of range. -/
def strtol (s : List UInt8) : ℤ × List UInt8 :=
  let signed := takeSign (s.dropWhile isspace)
  (readNumber signed.1 (skipPrefix signed.2)).getD (0, s)

/-- A round of the loop of `hex_to_bytes`. -/
def readPair (a b : UInt8) : Option UInt8 :=
  match strtol [a, b] with
  | (value, rest) =>
      if rest ≠ [] ∨ value < 0 ∨ 255 < value then none else some (UInt8.ofNat value.toNat)

/-- The loop of `hex_to_bytes`. -/
def readPairs : List UInt8 → Option (List UInt8)
  | a :: b :: rest =>
      match readPair a b with
      | none => none
      | some byte => (readPairs rest).map (byte :: ·)
  | _ => some []

/-- The bytes of a text, of which there are at most `maxLen`. -/
def hexToBytes (hexStr : CString) (maxLen : ℕ) : Option (List UInt8) :=
  let hexLen := min hexStr.chars.length 4096
  if hexLen % 2 ≠ 0 ∨ maxLen < hexLen / 2 then none else readPairs (hexStr.chars.take hexLen)

/-- The format `%02x`. -/
def formatByte (b : UInt8) : List UInt8 :=
  [(b.toNat / 16).digitChar.toUInt8, (b.toNat % 16).digitChar.toUInt8]

theorem zero_notMem_formatByte (bytes : List UInt8) :
  0 ∉ bytes.flatMap formatByte
  := by
  have hdigit : ∀ d < 16, 0 ≠ d.digitChar.toUInt8 := by decide
  intro h
  obtain ⟨b, -, h⟩ := List.mem_flatMap.mp h
  have hlt := b.toNat_lt
  rcases List.mem_cons.mp h with h | h
  · exact hdigit (b.toNat / 16) (by omega) h
  · exact hdigit (b.toNat % 16) (by omega) (List.mem_singleton.mp h)

/-- The text of some bytes, if there is memory for it. -/
def bytesToHex (malloc : Bool) (bytes : List UInt8) : Option CString :=
  if bytes = [] then none
  else if malloc then some ⟨bytes.flatMap formatByte, zero_notMem_formatByte bytes⟩
  else none

/-! ### The driver -/

/-- The sum that `fix_edid_checksum` makes of the first bytes of a block. -/
def blockSum (edid : List UInt8) (block n : ℕ) : UInt8 :=
  (List.range n).foldl (fun sum i => sum + edid.getD (block * 128 + i) 0) 0

/-- A round of the loop over the blocks. -/
def fixBlock (edid : List UInt8) (block : ℕ) : List UInt8 :=
  edid.set (block * 128 + 127) (UInt8.ofNat (256 - (blockSum edid block 127).toNat))

def fixEdidChecksum (edid : List UInt8) (size : ℕ) : List UInt8 :=
  (List.range (size / 128)).foldl fixBlock edid

/-- What the device answers. -/
structure Device where
  opens : Bool
  setsEdid : Bool

/-- What becomes of a call: the bytes that `set_edid` receives, the data of the blocks that is
handed to the driver, and what is returned. -/
structure EdidCall where
  received : Option (List UInt8)
  handed : Option (List UInt8)
  returned : ℤ
deriving DecidableEq

def setEdid (device : Device) (edid : List UInt8) : EdidCall :=
  let size := edid.length
  if size ≠ 0 ∧ size ≠ 128 ∧ size ≠ 256 then ⟨some edid, none, -1⟩
  else if ¬ device.opens then ⟨some edid, none, -1⟩
  else
    ⟨some edid, some (if 0 < size then fixEdidChecksum edid size else edid),
      if device.setsEdid then 0 else -1⟩

def jetkvmVideoSetEdid (device : Device) (edidHex : CString) : EdidCall :=
  match hexToBytes edidHex 256 with
  | none => ⟨none, none, -1⟩
  | some edid => setEdid device edid

/-! ### What is promised -/

/-- The text consists of an even number of hexadecimal digits, at most 512. -/
def IsHexText (s : List UInt8) : Prop :=
  s.length % 2 = 0 ∧ s.length ≤ 512 ∧ ∀ c ∈ s, isxdigit c

/-- The bytes that pairs of digits denote. -/
def denoted : List UInt8 → List UInt8
  | a :: b :: rest => UInt8.ofNat (xdigitValue a * 16 + xdigitValue b) :: denoted rest
  | _ => []

/-- The blocks of the data sum to zero, and differ from those of the EDID in their last bytes
only. -/
structure ChecksumsFixed (edid data : List UInt8) : Prop where
  length : data.length = edid.length
  sum : ∀ block < edid.length / 128,
    (∑ i ∈ Finset.range 128, (data.getD (block * 128 + i) 0).toNat) % 256 = 0
  same : ∀ i, i % 128 ≠ 127 → data[i]? = edid[i]?

/-- What is promised of a text that is to be programmed. -/
structure ProgramsEdid (device : Device) (edidHex : CString) : Prop where
  refuses : ¬ IsHexText edidHex.chars →
    (jetkvmVideoSetEdid device edidHex).received = none ∧
      (jetkvmVideoSetEdid device edidHex).returned = -1
  receives : IsHexText edidHex.chars →
    (jetkvmVideoSetEdid device edidHex).received = some (denoted edidHex.chars)
  readsBack : ∀ bytes, bytesToHex true bytes = some edidHex → bytes.length ≤ 256 →
    hexToBytes edidHex 256 = some bytes
  checksums : ∀ edid, (jetkvmVideoSetEdid device edidHex).received = some edid →
    edid.length = 128 ∨ edid.length = 256 → device.opens →
      ∃ data, (jetkvmVideoSetEdid device edidHex).handed = some data ∧ ChecksumsFixed edid data

/-- A pair that `strtol` reads although it is not two digits: a blank or a plus sign before a digit,
or a minus sign before a zero. -/
def ReadsAnyway (a b : UInt8) : Prop :=
  (isspace a ∨ a = '+'.toUInt8) ∧ isxdigit b ∨ a = '-'.toUInt8 ∧ b = '0'.toUInt8

/-- The pairs of a text. -/
def pairs : List UInt8 → List (UInt8 × UInt8)
  | a :: b :: rest => (a, b) :: pairs rest
  | _ => []

/-- The pairs of the text are all read, and not all of them are two digits. -/
structure SlipsThrough (s : List UInt8) : Prop where
  even : s.length % 2 = 0
  short : s.length ≤ 512
  reads : ∀ pair ∈ pairs s,
    isxdigit pair.1 ∧ isxdigit pair.2 ∨ ReadsAnyway pair.1 pair.2
  slips : ∃ pair ∈ pairs s, ReadsAnyway pair.1 pair.2

/-! ### Pairs -/

section Pairs

variable {a b c : UInt8} {s : List UInt8} {negative : Bool}

theorem forall_byte {p : UInt8 → Prop} (h : ∀ n < 256, p (UInt8.ofNat n)) (c : UInt8) :
  p c
  := by
  rw [← UInt8.ofNat_toNat (x := c)]
  apply h c.toNat c.toNat_lt

/-- A digit is neither a blank nor a sign. -/
theorem xdigit_cases (h : isxdigit c) :
  isspace c = false ∧ c ≠ '-'.toUInt8 ∧ c ≠ '+'.toUInt8 ∧ xdigitValue c < 16
  := by
  revert h
  apply forall_byte (p := fun c => isxdigit c → isspace c = false ∧ c ≠ '-'.toUInt8 ∧
    c ≠ '+'.toUInt8 ∧ xdigitValue c < 16)
  decide +kernel

/-- The only digit whose value is zero. -/
theorem xdigitValue_eq_zero (h : isxdigit c) :
  xdigitValue c = 0 ↔ c = '0'.toUInt8
  := by
  revert h
  apply forall_byte (p := fun c => isxdigit c → (xdigitValue c = 0 ↔ c = '0'.toUInt8))
  decide +kernel

theorem readNumber_cons_of_not (h : ¬ isxdigit c) :
  readNumber negative (c :: s) = none
  := by
  rw [readNumber, List.takeWhile_cons_of_neg h]
  rfl

theorem readNumber_digit (h : isxdigit c) :
  readNumber negative [c] = some (if negative then -(xdigitValue c : ℤ) else xdigitValue c, [])
  := by
  simp [readNumber, h]

/-- After a blank or a sign there is nothing to read but a digit. -/
theorem readNumber_single_of_not (h : ¬ isxdigit c) :
  readNumber (takeSign ([c].dropWhile isspace)).1
    (skipPrefix (takeSign ([c].dropWhile isspace)).2) = none
  := by
  by_cases hspace : isspace c
  · rw [List.dropWhile_cons_of_pos hspace]
    rfl
  · rw [List.dropWhile_cons_of_neg hspace, takeSign]
    split
    · rfl
    · split
      · rfl
      · apply readNumber_cons_of_not h

/-- Two digits are read. -/
theorem readPair_digits (ha : isxdigit a) (hb : isxdigit b) :
  readPair a b = some (UInt8.ofNat (xdigitValue a * 16 + xdigitValue b))
  := by
  obtain ⟨hspace, hminus, hplus, hlt⟩ := xdigit_cases ha
  obtain ⟨-, -, -, hlt'⟩ := xdigit_cases hb
  have hstrtol : strtol [a, b] = (((xdigitValue a * 16 + xdigitValue b : ℕ) : ℤ), []) := by
    simp [strtol, takeSign, skipPrefix, readNumber, hspace, hminus, hplus, ha, hb]
  rw [readPair, hstrtol]
  dsimp only
  rw [if_neg, Int.toNat_natCast]
  rintro (h | h | h)
  · exact h rfl
  · omega
  · omega

/-- After a blank or a plus sign a digit is read. -/
theorem readPair_skipped (h : isspace a ∨ a = '+'.toUInt8) :
  readPair a b = if isxdigit b then some (UInt8.ofNat (xdigitValue b)) else none
  := by
  by_cases hb : isxdigit b
  · obtain ⟨hspace, hminus, hplus, hlt⟩ := xdigit_cases hb
    have hstrtol : strtol [a, b] = ((xdigitValue b : ℤ), []) := by
      rcases h with h | rfl
      · simp [strtol, takeSign, skipPrefix, readNumber_digit, h, hb, hspace, hminus, hplus]
      · change (readNumber false [b]).getD _ = _
        rw [readNumber_digit hb]
        rfl
    rw [readPair, hstrtol, if_pos hb]
    dsimp only
    rw [if_neg, Int.toNat_natCast]
    rintro (h | h | h)
    · exact h rfl
    · omega
    · omega
  · have hstrtol : strtol [a, b] = (0, [a, b]) := by
      rcases h with h | rfl
      · rw [strtol, List.dropWhile_cons_of_pos h, readNumber_single_of_not hb]
        rfl
      · change (readNumber false [b]).getD _ = _
        rw [readNumber_cons_of_not hb]
        rfl
    rw [readPair, hstrtol, if_neg hb]
    rfl

/-- After a minus sign a zero is read. -/
theorem readPair_minus :
  readPair '-'.toUInt8 b = if b = '0'.toUInt8 then some 0 else none
  := by
  by_cases hb : isxdigit b
  · have hstrtol : strtol ['-'.toUInt8, b] = (-(xdigitValue b : ℤ), []) := by
      change (readNumber true [b]).getD _ = _
      rw [readNumber_digit hb]
      rfl
    rw [readPair, hstrtol]
    dsimp only
    by_cases hzero : b = '0'.toUInt8
    · rw [if_pos hzero, (xdigitValue_eq_zero hb).mpr hzero]
      rfl
    · have hne := mt (xdigitValue_eq_zero hb).mp hzero
      rw [if_neg hzero, if_pos]
      omega
  · have hstrtol : strtol ['-'.toUInt8, b] = (0, ['-'.toUInt8, b]) := by
      change (readNumber true [b]).getD _ = _
      rw [readNumber_cons_of_not hb]
      rfl
    rw [readPair, hstrtol, if_neg]
    · rfl
    · rintro rfl
      exact hb rfl

/-- No other character may come first, and a digit is followed by a digit. -/
theorem readPair_eq_none (ha : isspace a = false) (hplus : a ≠ '+'.toUInt8)
    (hminus : a ≠ '-'.toUInt8) (h : ¬ (isxdigit a ∧ isxdigit b)) :
  readPair a b = none
  := by
  have hsigned : takeSign ([a, b].dropWhile isspace) = (false, [a, b]) := by
    rw [List.dropWhile_cons_of_neg (by simp [ha]), takeSign, if_neg hminus, if_neg hplus]
  rw [readPair, strtol, hsigned]
  dsimp only [skipPrefix]
  by_cases hdigit : isxdigit a
  · have hb : ¬ isxdigit b := fun hb => h ⟨hdigit, hb⟩
    have hnumber : readNumber false [a, b] = some ((xdigitValue a : ℤ), [b]) := by
      simp [readNumber, hdigit, hb]
    rw [hnumber]
    rfl
  · rw [readNumber_cons_of_not hdigit]
    rfl

theorem not_readsAnyway (ha : isxdigit a) :
  ¬ ReadsAnyway a b
  := by
  obtain ⟨hspace, hminus, hplus, -⟩ := xdigit_cases ha
  rintro (⟨h | h, -⟩ | ⟨h, -⟩)
  · rw [hspace] at h
    cases h
  · exact hplus h
  · exact hminus h

/-- The pairs that are read. -/
theorem isSome_readPair_iff :
  (readPair a b).isSome ↔ isxdigit a ∧ isxdigit b ∨ ReadsAnyway a b
  := by
  by_cases hfirst : isspace a ∨ a = '+'.toUInt8
  · have hdigit : ¬ isxdigit a := fun ha => by
      obtain ⟨hspace, -, hplus, -⟩ := xdigit_cases ha
      rcases hfirst with h | h
      · rw [hspace] at h
        cases h
      · exact hplus h
    have hminus : ¬ (a = '-'.toUInt8 ∧ b = '0'.toUInt8) := by
      rintro ⟨rfl, -⟩
      revert hfirst
      decide
    rw [readPair_skipped hfirst, ReadsAnyway, or_iff_left hminus, and_iff_right hfirst,
      or_iff_right (fun h => hdigit h.1)]
    split
    case isTrue hb => exact iff_of_true rfl hb
    case isFalse hb => exact iff_of_false Bool.false_ne_true hb
  · by_cases hminus : a = '-'.toUInt8
    · obtain rfl := hminus
      have hdigit : ¬ (isxdigit '-'.toUInt8 ∧ isxdigit b) := fun h => by
        obtain ⟨h, -⟩ := h
        revert h
        decide
      rw [readPair_minus, or_iff_right hdigit, ReadsAnyway, or_iff_right (fun h => hfirst h.1),
        and_iff_right rfl]
      split
      case isTrue hb => exact iff_of_true rfl hb
      case isFalse hb => exact iff_of_false Bool.false_ne_true hb
    · have hnot : ¬ ReadsAnyway a b := by
        rintro (h | h)
        · exact hfirst h.1
        · exact hminus h.1
      obtain ⟨hspace, hplus⟩ := not_or.mp hfirst
      rw [or_iff_left hnot]
      by_cases hdigits : isxdigit a ∧ isxdigit b
      · rw [readPair_digits hdigits.1 hdigits.2]
        exact iff_of_true rfl hdigits
      · rw [readPair_eq_none (Bool.not_eq_true _ |>.mp hspace) hplus hminus hdigits]
        exact iff_of_false Bool.false_ne_true hdigits

end Pairs

/-! ### Texts -/

section Texts

variable {s : List UInt8} {device : Device} {edidHex : CString}

/-- A text is read when all its pairs are. -/
theorem isSome_readPairs_iff :
  (readPairs s).isSome ↔
    ∀ pair ∈ pairs s, isxdigit pair.1 ∧ isxdigit pair.2 ∨ ReadsAnyway pair.1 pair.2
  := by
  induction s using pairs.induct with
  | case1 a b rest ih =>
      rw [pairs, readPairs, List.forall_mem_cons, ← isSome_readPair_iff, ← ih]
      cases readPair a b with
      | none => simp
      | some byte => simp
  | case2 s h =>
      rw [pairs.eq_2 s h, readPairs.eq_2 s h]
      exact iff_of_true rfl nofun

/-- The text of an even number of digits has pairs of digits. -/
theorem forall_isxdigit_iff (heven : s.length % 2 = 0) :
  (∀ c ∈ s, isxdigit c) ↔ ∀ pair ∈ pairs s, isxdigit pair.1 ∧ isxdigit pair.2
  := by
  induction s using pairs.induct with
  | case1 a b rest ih =>
      rw [List.length_cons, List.length_cons] at heven
      rw [pairs, List.forall_mem_cons, List.forall_mem_cons, List.forall_mem_cons, ih (by omega),
        and_assoc]
  | case2 s h =>
      have hnil : s = [] := by
        cases s with
        | nil => rfl
        | cons a rest =>
            cases rest with
            | nil => simp at heven
            | cons b rest => exact absurd rfl (h a b rest)
      rw [hnil]
      exact iff_of_true nofun nofun

/-- Digits are read as the bytes that they denote. -/
theorem readPairs_digits (h : ∀ pair ∈ pairs s, isxdigit pair.1 ∧ isxdigit pair.2) :
  readPairs s = some (denoted s)
  := by
  induction s using pairs.induct with
  | case1 a b rest ih =>
      rw [pairs, List.forall_mem_cons] at h
      rw [readPairs, readPair_digits h.1.1 h.1.2, ih h.2]
      rfl
  | case2 s hs => rw [readPairs.eq_2 s hs, denoted.eq_2 s hs]

/-- Longer texts are refused, also those whose length is not found out. -/
theorem hexToBytes_eq :
  hexToBytes edidHex 256 =
    if edidHex.chars.length % 2 = 0 ∧ edidHex.chars.length ≤ 512 then readPairs edidHex.chars
    else none
  := by
  rw [hexToBytes]
  by_cases hlength : edidHex.chars.length ≤ 4096
  · rw [Nat.min_eq_left hlength, List.take_length]
    split
    · rw [if_neg (by omega)]
    · rw [if_pos (by omega)]
  · rw [if_pos (by omega), if_neg (by omega)]

/-- What a byte is written as denotes the byte. -/
theorem readPairs_formatByte (bytes : List UInt8) :
  readPairs (bytes.flatMap formatByte) = some bytes
  := by
  have hdigit : ∀ d < 16, isxdigit d.digitChar.toUInt8 ∧ xdigitValue d.digitChar.toUInt8 = d := by
    decide
  induction bytes with
  | nil => rfl
  | cons b bytes ih =>
      have hlt := b.toNat_lt
      obtain ⟨hhigh, hvalue⟩ := hdigit (b.toNat / 16) (by omega)
      obtain ⟨hlow, hvalue'⟩ := hdigit (b.toNat % 16) (by omega)
      rw [List.flatMap_cons, formatByte, List.cons_append, List.cons_append, List.nil_append,
        readPairs, readPair_digits hhigh hlow, ih, hvalue, hvalue', Nat.div_add_mod',
        UInt8.ofNat_toNat]
      rfl

theorem length_flatMap_formatByte (bytes : List UInt8) :
  (bytes.flatMap formatByte).length = bytes.length * 2
  := by
  induction bytes with
  | nil => rfl
  | cons b bytes ih =>
      rw [List.flatMap_cons, List.length_append, ih, List.length_cons, Nat.add_mul, Nat.add_comm]
      rfl

/-- The text of some bytes is read as the bytes. -/
theorem hexToBytes_bytesToHex {bytes : List UInt8} (h : bytesToHex true bytes = some edidHex)
    (hlength : bytes.length ≤ 256) :
  hexToBytes edidHex 256 = some bytes
  := by
  rw [bytesToHex] at h
  obtain ⟨-, h⟩ := Option.ite_none_left_eq_some.mp h
  obtain rfl := Option.some.inj h
  have htext := length_flatMap_formatByte bytes
  rw [hexToBytes_eq, if_pos]
  · exact readPairs_formatByte bytes
  · dsimp only
    omega

theorem received_setEdid (edid : List UInt8) :
  (setEdid device edid).received = some edid
  := by
  rw [setEdid]
  split
  · rfl
  · split
    · rfl
    · rfl

theorem received_eq :
  (jetkvmVideoSetEdid device edidHex).received = hexToBytes edidHex 256
  := by
  rw [jetkvmVideoSetEdid]
  cases hexToBytes edidHex 256 with
  | none => rfl
  | some edid => exact received_setEdid edid

end Texts

/-! ### Checksums -/

section Checksums

variable {edid : List UInt8} {block n : ℕ}

theorem blockSum_succ :
  blockSum edid block (n + 1) = blockSum edid block n + edid.getD (block * 128 + n) 0
  := by
  rw [blockSum, List.range_succ, List.foldl_append]
  rfl

theorem toNat_blockSum (edid : List UInt8) (block n : ℕ) :
  (blockSum edid block n).toNat =
    (∑ i ∈ Finset.range n, (edid.getD (block * 128 + i) 0).toNat) % 256
  := by
  induction n with
  | zero => rfl
  | succ n ih =>
      rw [blockSum_succ, UInt8.toNat_add, ih, Finset.sum_range_succ, Nat.mod_add_mod]

theorem length_fixBlock :
  (fixBlock edid block).length = edid.length
  := List.length_set

/-- Only the last byte of a block is changed. -/
theorem getElem?_fixBlock {i : ℕ} (h : i ≠ block * 128 + 127) :
  (fixBlock edid block)[i]? = edid[i]?
  := List.getElem?_set_ne h.symm

/-- A block whose checksum has been fixed sums to zero. -/
theorem sum_fixBlock (h : block < edid.length / 128) :
  (∑ i ∈ Finset.range 128, ((fixBlock edid block).getD (block * 128 + i) 0).toNat) % 256 = 0
  := by
  have hsame : ∀ i ∈ Finset.range 127, ((fixBlock edid block).getD (block * 128 + i) 0).toNat =
      (edid.getD (block * 128 + i) 0).toNat := by
    intro i hi
    have hlt := Finset.mem_range.mp hi
    rw [List.getD_eq_getElem?_getD, List.getD_eq_getElem?_getD, getElem?_fixBlock (by omega)]
  have hlast : (fixBlock edid block).getD (block * 128 + 127) 0 =
      UInt8.ofNat (256 - (blockSum edid block 127).toNat) := by
    rw [fixBlock, List.getD_eq_getElem?_getD, List.getElem?_set_self (by omega)]
    rfl
  have hsum := toNat_blockSum edid block 127
  rw [Finset.sum_range_succ, Finset.sum_congr rfl hsame, hlast, UInt8.toNat_ofNat', hsum]
  omega

/-- The blocks before one that is fixed keep their sums, and so do those after it. -/
theorem sum_fixBlock_of_ne {block' : ℕ} (h : block ≠ block') :
  (∑ i ∈ Finset.range 128, ((fixBlock edid block').getD (block * 128 + i) 0).toNat) =
    ∑ i ∈ Finset.range 128, (edid.getD (block * 128 + i) 0).toNat
  := by
  apply Finset.sum_congr rfl
  intro i hi
  have hlt := Finset.mem_range.mp hi
  rw [List.getD_eq_getElem?_getD, List.getD_eq_getElem?_getD, getElem?_fixBlock (by omega)]

/-- The blocks that the loop has reached are fixed. -/
theorem foldl_fixBlock (edid : List UInt8) (h : n ≤ edid.length / 128) :
  ((List.range n).foldl fixBlock edid).length = edid.length ∧
    (∀ block < n, (∑ i ∈ Finset.range 128,
      (((List.range n).foldl fixBlock edid).getD (block * 128 + i) 0).toNat) % 256 = 0) ∧
    ∀ i, i % 128 ≠ 127 → ((List.range n).foldl fixBlock edid)[i]? = edid[i]?
  := by
  induction n with
  | zero => exact ⟨rfl, nofun, fun _ _ => rfl⟩
  | succ n ih =>
      obtain ⟨hlength, hsum, hsame⟩ := ih (by omega)
      rw [List.range_succ, List.foldl_append, List.foldl_cons, List.foldl_nil]
      refine ⟨length_fixBlock.trans hlength, ?_, ?_⟩
      · intro block hblock
        rcases Nat.lt_succ_iff_lt_or_eq.mp hblock with hlt | rfl
        · rw [sum_fixBlock_of_ne (by omega)]
          apply hsum block hlt
        · apply sum_fixBlock
          omega
      · intro i hi
        rw [getElem?_fixBlock (by omega)]
        apply hsame i hi

theorem checksumsFixed_fixEdidChecksum :
  ChecksumsFixed edid (fixEdidChecksum edid edid.length)
  := by
  obtain ⟨hlength, hsum, hsame⟩ := foldl_fixBlock edid (le_refl (edid.length / 128))
  exact ⟨hlength, hsum, hsame⟩

end Checksums

variable {device : Device} {edidHex : CString}

/-- A text that slips through has bytes although it is not hexadecimal. -/
theorem SlipsThrough.received (device : Device) (h : SlipsThrough edidHex.chars) :
  ¬ IsHexText edidHex.chars ∧ (jetkvmVideoSetEdid device edidHex).received ≠ none
  := by
  obtain ⟨heven, hshort, hreads, pair, hpair, hslips⟩ := h
  constructor
  · rintro ⟨-, -, hdigits⟩
    have hdigit := (forall_isxdigit_iff heven).mp hdigits pair hpair
    exact not_readsAnyway hdigit.1 hslips
  · rw [received_eq, hexToBytes_eq, if_pos ⟨heven, hshort⟩]
    exact Option.ne_none_iff_isSome.mpr (isSome_readPairs_iff.mpr hreads)

/-- Other texts that are not hexadecimal are refused. -/
theorem hexToBytes_eq_none (h : ¬ SlipsThrough edidHex.chars) (hnot : ¬ IsHexText edidHex.chars) :
  hexToBytes edidHex 256 = none
  := by
  rw [hexToBytes_eq]
  split
  case isTrue hlength =>
    by_contra hsome
    have hreads := isSome_readPairs_iff.mp (Option.ne_none_iff_isSome.mp hsome)
    apply h
    apply SlipsThrough.mk hlength.1 hlength.2 hreads
    by_contra hslips
    apply hnot
    use hlength.1, hlength.2
    apply (forall_isxdigit_iff hlength.1).mpr
    intro pair hpair
    apply (hreads pair hpair).resolve_right
    intro hanyway
    exact hslips ⟨pair, hpair, hanyway⟩
  case isFalse => rfl

/-- The EDID is programmed as promised unless the text slips through. -/
theorem programsEdid_iff :
  ProgramsEdid device edidHex ↔ ¬ SlipsThrough edidHex.chars
  := by
  constructor
  · intro h hslips
    obtain ⟨hnot, hreceived⟩ := hslips.received device
    exact hreceived (h.refuses hnot).1
  · intro h
    constructor
    case refuses =>
      intro hnot
      rw [jetkvmVideoSetEdid, hexToBytes_eq_none h hnot]
      exact ⟨rfl, rfl⟩
    case receives =>
      rintro ⟨heven, hshort, hdigits⟩
      rw [received_eq, hexToBytes_eq, if_pos ⟨heven, hshort⟩]
      apply readPairs_digits
      apply (forall_isxdigit_iff heven).mp hdigits
    case readsBack =>
      intro bytes hbytes hlength
      apply hexToBytes_bytesToHex hbytes hlength
    case checksums =>
      intro edid hreceived hlength hopens
      rw [received_eq] at hreceived
      refine ⟨fixEdidChecksum edid edid.length, ?_, checksumsFixed_fixEdidChecksum⟩
      rw [jetkvmVideoSetEdid, hreceived]
      dsimp only [setEdid]
      rw [if_neg (by omega), if_neg (not_not_intro hopens), if_pos (by omega)]

/-- A plus sign and a digit, and 254 zeros. -/
def signedText : CString where
  chars := '+'.toUInt8 :: '1'.toUInt8 :: List.replicate 254 '0'.toUInt8
  noNul := by decide +kernel

/-- The text has no hexadecimal form, and a block is programmed. -/
theorem not_programsEdid_signedText :
  (jetkvmVideoSetEdid ⟨true, true⟩ signedText).returned = 0 ∧
    ¬ ProgramsEdid ⟨true, true⟩ signedText
  := by
  constructor
  · decide +kernel
  · intro h
    have hnot : ¬ IsHexText signedText.chars := by
      rintro ⟨-, -, hdigits⟩
      have hplus := hdigits '+'.toUInt8 List.mem_cons_self
      revert hplus
      decide
    obtain ⟨-, hreturned⟩ := h.refuses hnot
    revert hreturned
    decide +kernel

end JetKvm.Native
