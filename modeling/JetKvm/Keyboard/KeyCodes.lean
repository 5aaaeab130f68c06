import JetKvm.Library.Bitmask

/-!
# Key codes

The bytes that name keys. A key is routed to one of three encodings: the media keys of
`keyboardMediaKeyBits` to a bit of the Consumer Control report, the modifiers of
`keyCodeToMaskMap` to a bit of the modifier byte, and the other keys, here called
ordinary, to one of the six slots of the keyboard report.
-/

namespace JetKvm

/-- The number of key slots of a keyboard report. -/
def hidKeyBufferSize : Nat := 6

/-- The byte that fills the key slots of a report when too many keys are down. -/
def hidErrorRollOver : UInt8 := 0x01

/-! ### Media keys -/

def keyboardKeyMute : UInt8 := 0x7f
def keyboardKeyVolumeUp : UInt8 := 0x80
def keyboardKeyVolumeDown : UInt8 := 0x81
def keyboardKeyMediaPlayPause : UInt8 := 0xf1
def keyboardKeyMediaTrackNext : UInt8 := 0xf2
def keyboardKeyMediaTrackPrevious : UInt8 := 0xf3
def keyboardKeyMediaStop : UInt8 := 0xf4

def consumerBitVolumeUp : UInt8 := (1 : UInt8) <<< 0
def consumerBitVolumeDown : UInt8 := (1 : UInt8) <<< 1
def consumerBitMute : UInt8 := (1 : UInt8) <<< 2
def consumerBitPlayPause : UInt8 := (1 : UInt8) <<< 3
def consumerBitTrackNext : UInt8 := (1 : UInt8) <<< 4
def consumerBitTrackPrevious : UInt8 := (1 : UInt8) <<< 5
def consumerBitStop : UInt8 := (1 : UInt8) <<< 6

/-- The bit of the Consumer Control report each media key is sent as. -/
def keyboardMediaKeyBits : List (UInt8 × UInt8) :=
  [(keyboardKeyVolumeUp, consumerBitVolumeUp),
    (keyboardKeyVolumeDown, consumerBitVolumeDown),
    (keyboardKeyMute, consumerBitMute),
    (keyboardKeyMediaPlayPause, consumerBitPlayPause),
    (keyboardKeyMediaTrackNext, consumerBitTrackNext),
    (keyboardKeyMediaTrackPrevious, consumerBitTrackPrevious),
    (keyboardKeyMediaStop, consumerBitStop)]

/-- Whether the key is routed to Consumer Control. -/
def isKeyboardMediaKey (key : UInt8) : Bool :=
  (keyboardMediaKeyBits.lookup key).isSome

/-- The bit of a media key, or zero. -/
def keyboardMediaKeyToConsumerBit (key : UInt8) : UInt8 :=
  (keyboardMediaKeyBits.lookup key).getD 0

/-- The loop of `stripMediaKeys`: the keys that are neither zero nor media keys, and the
or of the bits of the media keys. -/
def stripMediaKeysLoop : List UInt8 → List UInt8 × UInt8
  | [] => ([], 0)
  | key :: keys =>
      let (cleaned, consumerBits) := stripMediaKeysLoop keys
      if key = 0 then (cleaned, consumerBits)
      else if isKeyboardMediaKey key then
        (cleaned, keyboardMediaKeyToConsumerBit key ||| consumerBits)
      else (key :: cleaned, consumerBits)

/-- The keys without media keys, moved to the front and padded with zeros to the length
they had, and the bits of the media keys that were removed. -/
def stripMediaKeys (keys : List UInt8) : List UInt8 × UInt8 :=
  let (cleaned, consumerBits) := stripMediaKeysLoop keys
  (cleaned ++ List.replicate (keys.length - cleaned.length) 0, consumerBits)

/-! ### Modifiers -/

def leftControl : UInt8 := 0xE0
def leftShift : UInt8 := 0xE1
def leftAlt : UInt8 := 0xE2
def leftSuper : UInt8 := 0xE3
def rightControl : UInt8 := 0xE4
def rightShift : UInt8 := 0xE5
def rightAlt : UInt8 := 0xE6
def rightSuper : UInt8 := 0xE7

def modifierMaskLeftControl : UInt8 := 0x01
def modifierMaskRightControl : UInt8 := 0x10
def modifierMaskLeftShift : UInt8 := 0x02
def modifierMaskRightShift : UInt8 := 0x20
def modifierMaskLeftAlt : UInt8 := 0x04
def modifierMaskRightAlt : UInt8 := 0x40
def modifierMaskLeftSuper : UInt8 := 0x08
def modifierMaskRightSuper : UInt8 := 0x80

/-- The bit of the modifier byte each modifier key sets. -/
def keyCodeToMaskMap : List (UInt8 × UInt8) :=
  [(leftControl, modifierMaskLeftControl),
    (leftShift, modifierMaskLeftShift),
    (leftAlt, modifierMaskLeftAlt),
    (leftSuper, modifierMaskLeftSuper),
    (rightControl, modifierMaskRightControl),
    (rightShift, modifierMaskRightShift),
    (rightAlt, modifierMaskRightAlt),
    (rightSuper, modifierMaskRightSuper)]

/-- Whether the key is a modifier. -/
def isModifier (key : UInt8) : Bool :=
  (keyCodeToMaskMap.lookup key).isSome

/-- A key that takes a slot of the keyboard report: neither a media key nor a modifier. -/
def Ordinary (key : UInt8) : Prop :=
  isKeyboardMediaKey key = false ∧ isModifier key = false

instance (key : UInt8) : Decidable (Ordinary key) :=
  inferInstanceAs (Decidable (_ ∧ _))

/-! ### The tables -/

/-- No two media keys share a bit. -/
theorem keyboardMediaKeyBits_separated : Bitmask.Separated keyboardMediaKeyBits
  := ⟨by decide, by decide +kernel⟩

/-- Every media key has one. -/
theorem keyboardMediaKeyBits_ne_zero :
  ∀ e ∈ keyboardMediaKeyBits, e.2 ≠ 0
  := by
  have h : keyboardMediaKeyBits.all (fun e => e.2 ≠ 0) = true := by
    decide
  simpa only [List.all_eq_true, decide_eq_true_eq] using h

/-- No two modifiers share a bit of the mask. -/
theorem keyCodeToMaskMap_separated : Bitmask.Separated keyCodeToMaskMap
  := ⟨by decide, by decide +kernel⟩

/-- Every modifier has one. -/
theorem keyCodeToMaskMap_ne_zero :
  ∀ e ∈ keyCodeToMaskMap, e.2 ≠ 0
  := by
  have h : keyCodeToMaskMap.all (fun e => e.2 ≠ 0) = true := by
    decide
  simpa only [List.all_eq_true, decide_eq_true_eq] using h

/-- No key is in both tables. -/
theorem tables_disjoint :
  ∀ e ∈ keyCodeToMaskMap, e.1 ∉ keyboardMediaKeyBits.map Prod.fst
  := by
  have h : keyCodeToMaskMap.all (fun e => e.1 ∉ keyboardMediaKeyBits.map Prod.fst) = true := by
    decide
  simpa only [List.all_eq_true, decide_eq_true_eq] using h

/-- What a table gives for a key is an entry of the table. -/
theorem mem_of_lookup {table : List (UInt8 × UInt8)} {key mask : UInt8}
    (h : table.lookup key = some mask) :
  (key, mask) ∈ table
  := by
  obtain ⟨front, back, rfl, -⟩ := List.lookup_eq_some_iff.mp h
  simp

/-! ### Stripping media keys -/

/-- The loop keeps only keys that are neither zero nor media keys. -/
theorem stripMediaKeysLoop_mem {keys : List UInt8} {key : UInt8}
    (h : key ∈ (stripMediaKeysLoop keys).1) :
  key ∈ keys ∧ key ≠ 0 ∧ isKeyboardMediaKey key = false
  := by
  induction keys with
  | nil => cases h
  | cons k keys ih =>
      simp only [stripMediaKeysLoop] at h
      split at h
      · obtain ⟨hmem, hkey⟩ := ih h
        exact ⟨List.mem_cons_of_mem _ hmem, hkey⟩
      · split at h
        · obtain ⟨hmem, hkey⟩ := ih h
          exact ⟨List.mem_cons_of_mem _ hmem, hkey⟩
        · rename_i hzero hmedia
          rcases List.mem_cons.mp h with rfl | h
          · exact ⟨List.mem_cons_self, hzero, by simpa using hmedia⟩
          · obtain ⟨hmem, hkey⟩ := ih h
            exact ⟨List.mem_cons_of_mem _ hmem, hkey⟩

/-- Keys are only taken away. -/
theorem stripMediaKeysLoop_length_le (keys : List UInt8) :
  (stripMediaKeysLoop keys).1.length ≤ keys.length
  := by
  induction keys with
  | nil => apply Nat.le_refl
  | cons k keys ih =>
      simp only [stripMediaKeysLoop]
      split
      · exact Nat.le_succ_of_le ih
      · split
        · exact Nat.le_succ_of_le ih
        · exact Nat.succ_le_succ ih

end JetKvm
