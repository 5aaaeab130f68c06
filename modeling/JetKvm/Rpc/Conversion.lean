import JetKvm.Library.Word
import Mathlib.Data.Rat.Cast.Defs
import Mathlib.Data.List.Basic

/-!
# Conversion of parameters

The values that JSON is decoded into, the types that handlers take, and the conversion of a value
to a type by reflection. Every number is a `float64` and converts to every integer type: its
fraction is cut off, and of the integer only the low bits are kept. A number whose integer part
does not fit into 64 bits converts to something that depends on the platform.
-/

namespace JetKvm.Rpc

/-- A decoded JSON value. -/
inductive Json where
  | null
  | bool (b : Bool)
  | number (x : Rat)
  | string (s : String)
  | array (elements : List Json)
  | object (fields : List (String × Json))

/-- The integer types. -/
inductive IntKind where
  | int | int8 | int16 | int32 | int64
  | uint | uint8 | uint16 | uint32 | uint64
deriving DecidableEq, Repr

namespace IntKind

def signed : IntKind → Bool
  | int | int8 | int16 | int32 | int64 => true
  | uint | uint8 | uint16 | uint32 | uint64 => false

/-- The number of bits of a type, where `int` and `uint` have `intBits`. -/
def bits (intBits : Nat) : IntKind → Nat
  | int | uint => intBits
  | int8 | uint8 => 8
  | int16 | uint16 => 16
  | int32 | uint32 => 32
  | int64 | uint64 => 64

def text : IntKind → String
  | int => "int"
  | int8 => "int8"
  | int16 => "int16"
  | int32 => "int32"
  | int64 => "int64"
  | uint => "uint"
  | uint8 => "uint8"
  | uint16 => "uint16"
  | uint32 => "uint32"
  | uint64 => "uint64"

end IntKind

/-- The integer part of a number, cut off towards zero. -/
def truncate (x : Rat) : Int :=
  x.num.tdiv x.den

/-- What depends on the platform: the size of `int`, the conversions of a `float64` to `int64` and
to `uint64`, which cut off the fraction of a number whose integer part fits, and those to `int`
and to `float32`. -/
structure Platform where
  intBits : Nat
  intBits_eq : intBits = 32 ∨ intBits = 64
  int64 : Rat → BitVec 64
  uint64 : Rat → BitVec 64
  int64_eq : ∀ x, Word.InRange true 64 (truncate x) → (int64 x).toInt = truncate x
  uint64_eq : ∀ x, Word.InRange false 64 (truncate x) → ((uint64 x).toNat : Int) = truncate x
  int : Rat → Int
  float32 : Rat → Rat

/-- The type of a parameter, where `Struct` names the struct types. -/
inductive ParamType (Struct : Type*) where
  | int (kind : IntKind)
  | float32
  | float64
  | bool
  | string
  | slice (elem : IntKind)
  | struct (type : Struct)

/-- The kind of a type. -/
def ParamType.kind {Struct : Type*} : ParamType Struct → String
  | int kind => kind.text
  | float32 => "float32"
  | float64 => "float64"
  | bool => "bool"
  | string => "string"
  | slice _ => "slice"
  | struct _ => "struct"

/-- The type of a decoded value other than null. -/
def Json.typeText : Json → String
  | null => "nil"
  | bool _ => "bool"
  | number _ => "float64"
  | string _ => "string"
  | array _ => "[]interface \x7b\x7d"
  | object _ => "map[string]interface \x7b\x7d"

/-- A value that is passed to a handler. -/
inductive Arg (Value : Type*) where
  | int (n : Int)
  | float (x : Rat)
  | bool (b : Bool)
  | string (s : String)
  | slice (elements : List Int)
  | struct (v : Value)

/-- Converts a number to an integer type. -/
def convertInt (p : Platform) (kind : IntKind) (x : Rat) : Int :=
  Word.narrow kind.signed (kind.bits p.intBits) (if kind.signed then p.int64 x else p.uint64 x)

/-- The value of a type that a decoded value converts to, if it is convertible. A string converts
to the slice of its bytes and to the slice of its runes. -/
def convert {Struct Value : Type*} (p : Platform) :
    Json → ParamType Struct → Option (Arg Value)
  | .number x, .int kind => some (.int (convertInt p kind x))
  | .number x, .float32 => some (.float (p.float32 x))
  | .number x, .float64 => some (.float x)
  | .bool b, .bool => some (.bool b)
  | .string s, .string => some (.string s)
  | .string s, .slice .uint8 =>
      some (.slice ((s.toList.flatMap String.utf8EncodeChar).map fun byte => (byte.toNat : Int)))
  | .string s, .slice .int32 => some (.slice (s.toList.map fun c => (c.toNat : Int)))
  | _, _ => none

/-- The integer that a decoded value converts to, if it is convertible. -/
def convertElement (p : Platform) (kind : IntKind) : Json → Option Int
  | .number x => some (convertInt p kind x)
  | _ => none

/-- A number is an integer in the range of a type. -/
def Fits (p : Platform) (kind : IntKind) (x : Rat) : Prop :=
  ∃ n : Int, x = n ∧ Word.InRange kind.signed (kind.bits p.intBits) n

variable {p : Platform} {kind : IntKind} {x : Rat} {n : Int}

theorem bits_mem (p : Platform) (kind : IntKind) :
  0 < kind.bits p.intBits ∧ kind.bits p.intBits ≤ 64
  := by
  have hint := p.intBits_eq
  cases kind <;> simp only [IntKind.bits] <;> omega

/-- An integer is its own integer part. -/
theorem truncate_intCast (n : Int) :
  truncate n = n
  := by
  rw [truncate, Rat.num_intCast, Rat.den_intCast]
  apply Int.tdiv_one

/-- An integer in the range of a type converts to itself. -/
theorem convertInt_intCast (h : Word.InRange kind.signed (kind.bits p.intBits) n) :
  convertInt p kind n = n
  := by
  obtain ⟨hpos, hbits⟩ := bits_mem p kind
  have hwide := Word.inRange_mono hbits h
  have hsigned := p.int64_eq n
  have hunsigned := p.uint64_eq n
  rw [truncate_intCast] at hsigned hunsigned
  rw [convertInt]
  cases hkind : kind.signed with
  | true =>
      rw [hkind] at h hwide
      have hword := hsigned hwide
      rw [if_pos rfl, Word.narrow_signed hpos hbits, hword]
      rw [hword]
      apply h
  | false =>
      rw [hkind] at h hwide
      have hword := hunsigned hwide
      rw [if_neg Bool.false_ne_true, Word.narrow_unsigned, hword]
      rw [hword]
      apply h

/-- A number converts to itself exactly when it is an integer in the range of the type. -/
theorem convertInt_eq_iff :
  ((convertInt p kind x : Int) : Rat) = x ↔ Fits p kind x
  := by
  constructor
  · intro h
    use convertInt p kind x, h.symm
    apply Word.narrow_mem
  · rintro ⟨n, rfl, hrange⟩
    rw [convertInt_intCast hrange]

end JetKvm.Rpc
