import JetKvm.HidRpc.Browser
import JetKvm.HidRpc.Message
import Mathlib.Data.List.Nodup
import Mathlib.Tactic.Common

/-!
# Macros compiled in the browser and on the device

A stored macro is a list of steps, each with the names of some keys and modifiers. The browser and
the device compile it with tables of their own into presses and releases. The browser adds the masks
of the modifiers of a step where the device combines their bits, and its releases have the keys of
`MACRO_RESET_KEYBOARD_STATE`, an array of the page that may have been changed. They agree exactly
when no step names a modifier twice, by its own name or another, and the keys of the releases are
zeros.
-/

namespace JetKvm.Macro

open HidRpc (KeyboardMacroStep)

/-- A step of a stored macro. -/
structure MacroStep where
  keys : List String
  modifiers : List String
  delay : ℤ
deriving DecidableEq, Repr

/-! ### The tables -/

/-- The key codes in the browser. -/
def keys : List (String × ℕ) :=
  [("Again", 0x79), ("AlternateErase", 0x9d), ("AltGr", 0xe6), ("AltLeft", 0xe2),
    ("AltRight", 0xe6), ("Application", 0x65), ("ArrowDown", 0x51), ("ArrowLeft", 0x50),
    ("ArrowRight", 0x4f), ("ArrowUp", 0x52), ("Attention", 0x9a), ("Backquote", 0x35),
    ("Backslash", 0x31), ("Backspace", 0x2a), ("BracketLeft", 0x2f), ("BracketRight", 0x30),
    ("Cancel", 0x9b), ("CapsLock", 0x39), ("Clear", 0x9c), ("ClearAgain", 0xa2), ("Comma", 0x36),
    ("Compose", 0xe3), ("ContextMenu", 0x65), ("ControlLeft", 0xe0), ("ControlRight", 0xe4),
    ("Copy", 0x7c), ("CrSel", 0xa3), ("CurrencySubunit", 0xb5), ("CurrencyUnit", 0xb4),
    ("Cut", 0x7b), ("DecimalSeparator", 0xb3), ("Delete", 0x4c), ("Digit0", 0x27),
    ("Digit1", 0x1e), ("Digit2", 0x1f), ("Digit3", 0x20), ("Digit4", 0x21), ("Digit5", 0x22),
    ("Digit6", 0x23), ("Digit7", 0x24), ("Digit8", 0x25), ("Digit9", 0x26), ("End", 0x4d),
    ("Enter", 0x28), ("Equal", 0x2e), ("Escape", 0x29), ("Execute", 0x74), ("ExSel", 0xa4),
    ("F1", 0x3a), ("F2", 0x3b), ("F3", 0x3c), ("F4", 0x3d), ("F5", 0x3e), ("F6", 0x3f),
    ("F7", 0x40), ("F8", 0x41), ("F9", 0x42), ("F10", 0x43), ("F11", 0x44), ("F12", 0x45),
    ("F13", 0x68), ("F14", 0x69), ("F15", 0x6a), ("F16", 0x6b), ("F17", 0x6c), ("F18", 0x6d),
    ("F19", 0x6e), ("F20", 0x6f), ("F21", 0x70), ("F22", 0x71), ("F23", 0x72), ("F24", 0x73),
    ("Find", 0x7e), ("Grave", 0x35), ("HashTilde", 0x32), ("Help", 0x75), ("Home", 0x4a),
    ("Insert", 0x49), ("International7", 0x8d), ("International8", 0x8e),
    ("International9", 0x8f), ("IntlBackslash", 0x64), ("KeyA", 0x04), ("KeyB", 0x05),
    ("KeyC", 0x06), ("KeyD", 0x07), ("KeyE", 0x08), ("KeyF", 0x09), ("KeyG", 0x0a),
    ("KeyH", 0x0b), ("KeyI", 0x0c), ("KeyJ", 0x0d), ("KeyK", 0x0e), ("KeyL", 0x0f),
    ("KeyM", 0x10), ("KeyN", 0x11), ("KeyO", 0x12), ("KeyP", 0x13), ("KeyQ", 0x14),
    ("KeyR", 0x15), ("KeyS", 0x16), ("KeyT", 0x17), ("KeyU", 0x18), ("KeyV", 0x19),
    ("KeyW", 0x1a), ("KeyX", 0x1b), ("KeyY", 0x1c), ("KeyZ", 0x1d), ("KeyRO", 0x87),
    ("KatakanaHiragana", 0x88), ("Yen", 0x89), ("Henkan", 0x8a), ("Muhenkan", 0x8b),
    ("KPJPComma", 0x8c), ("Hangeul", 0x90), ("Hanja", 0x91), ("Katakana", 0x92),
    ("Hiragana", 0x93), ("ZenkakuHankaku", 0x94), ("LockingCapsLock", 0x82),
    ("LockingNumLock", 0x83), ("LockingScrollLock", 0x84), ("Lang6", 0x95), ("Lang7", 0x96),
    ("Lang8", 0x97), ("Lang9", 0x98), ("Menu", 0x76), ("MediaPlayPause", 0xf1),
    ("MediaStop", 0xf4), ("MediaTrackNext", 0xf2), ("MediaTrackPrevious", 0xf3),
    ("MetaLeft", 0xe3), ("MetaRight", 0xe7), ("Minus", 0x2d), ("Mute", 0x7f), ("NumLock", 0x53),
    ("Numpad0", 0x62), ("Numpad00", 0xb0), ("Numpad000", 0xb1), ("Numpad1", 0x59),
    ("Numpad2", 0x5a), ("Numpad3", 0x5b), ("Numpad4", 0x5c), ("Numpad5", 0x5d), ("Numpad6", 0x5e),
    ("Numpad7", 0x5f), ("Numpad8", 0x60), ("Numpad9", 0x61), ("NumpadAdd", 0x57),
    ("NumpadAnd", 0xc7), ("NumpadAt", 0xce), ("NumpadBackspace", 0xbb), ("NumpadBinary", 0xda),
    ("NumpadCircumflex", 0xc3), ("NumpadClear", 0xd8), ("NumpadClearEntry", 0xd9),
    ("NumpadColon", 0xcb), ("NumpadComma", 0x85), ("NumpadDecimal", 0x63),
    ("NumpadDecimalBase", 0xdc), ("NumpadDelete", 0x63), ("NumpadDivide", 0x54),
    ("NumpadDownArrow", 0x5a), ("NumpadEnd", 0x59), ("NumpadEnter", 0x58), ("NumpadEqual", 0x67),
    ("NumpadExclamation", 0xcf), ("NumpadGreaterThan", 0xc6), ("NumpadHexadecimal", 0xdd),
    ("NumpadHome", 0x5f), ("NumpadKeyA", 0xbc), ("NumpadKeyB", 0xbd), ("NumpadKeyC", 0xbe),
    ("NumpadKeyD", 0xbf), ("NumpadKeyE", 0xc0), ("NumpadKeyF", 0xc1), ("NumpadLeftArrow", 0x5c),
    ("NumpadLeftBrace", 0xb8), ("NumpadLeftParen", 0xb6), ("NumpadLessThan", 0xc5),
    ("NumpadLogicalAnd", 0xc8), ("NumpadLogicalOr", 0xca), ("NumpadMemoryAdd", 0xd3),
    ("NumpadMemoryClear", 0xd2), ("NumpadMemoryDivide", 0xd6), ("NumpadMemoryMultiply", 0xd5),
    ("NumpadMemoryRecall", 0xd1), ("NumpadMemoryStore", 0xd0), ("NumpadMemorySubtract", 0xd4),
    ("NumpadMultiply", 0x55), ("NumpadOctal", 0xdb), ("NumpadOctathorpe", 0xcc),
    ("NumpadOr", 0xc9), ("NumpadPageDown", 0x5b), ("NumpadPageUp", 0x61), ("NumpadPercent", 0xc4),
    ("NumpadPlusMinus", 0xd7), ("NumpadRightArrow", 0x5e), ("NumpadRightBrace", 0xb9),
    ("NumpadRightParen", 0xb7), ("NumpadSpace", 0xcd), ("NumpadSubtract", 0x56),
    ("NumpadTab", 0xba), ("NumpadUpArrow", 0x60), ("NumpadXOR", 0xc2), ("Octothorpe", 0x32),
    ("Operation", 0xa1), ("Out", 0xa0), ("PageDown", 0x4e), ("PageUp", 0x4b), ("Paste", 0x7d),
    ("Pause", 0x48), ("Period", 0x37), ("Power", 0x66), ("PrintScreen", 0x46), ("Prior", 0x9d),
    ("Quote", 0x34), ("Return", 0x9e), ("ScrollLock", 0x47), ("Select", 0x77),
    ("Semicolon", 0x33), ("Separator", 0x9f), ("ShiftLeft", 0xe1), ("ShiftRight", 0xe5),
    ("Slash", 0x38), ("Space", 0x2c), ("Stop", 0x78), ("SystemRequest", 0x9a), ("Tab", 0x2b),
    ("ThousandsSeparator", 0xb2), ("Tilde", 0x35), ("Undo", 0x7a), ("VolumeDown", 0x81),
    ("VolumeUp", 0x80)]

/-- The modifier masks in the browser. -/
def modifiers : List (String × ℕ) :=
  [("ControlLeft", 0x01), ("ControlRight", 0x10), ("ShiftLeft", 0x02), ("ShiftRight", 0x20),
    ("AltLeft", 0x04), ("AltRight", 0x40), ("MetaLeft", 0x08), ("MetaRight", 0x80),
    ("AltGr", 0x40)]

/-- The key codes on the device. -/
def hidKeys : List (String × UInt8) :=
  [("Again", 0x79), ("AlternateErase", 0x9d), ("AltGr", 0xe6), ("AltLeft", 0xe2),
    ("AltRight", 0xe6), ("Application", 0x65), ("ArrowDown", 0x51), ("ArrowLeft", 0x50),
    ("ArrowRight", 0x4f), ("ArrowUp", 0x52), ("Attention", 0x9a), ("Backquote", 0x35),
    ("Backslash", 0x31), ("Backspace", 0x2a), ("BracketLeft", 0x2f), ("BracketRight", 0x30),
    ("Cancel", 0x9b), ("CapsLock", 0x39), ("Clear", 0x9c), ("ClearAgain", 0xa2), ("Comma", 0x36),
    ("Compose", 0xe3), ("ContextMenu", 0x65), ("ControlLeft", 0xe0), ("ControlRight", 0xe4),
    ("Copy", 0x7c), ("CrSel", 0xa3), ("CurrencySubunit", 0xb5), ("CurrencyUnit", 0xb4),
    ("Cut", 0x7b), ("DecimalSeparator", 0xb3), ("Delete", 0x4c), ("Digit0", 0x27),
    ("Digit1", 0x1e), ("Digit2", 0x1f), ("Digit3", 0x20), ("Digit4", 0x21), ("Digit5", 0x22),
    ("Digit6", 0x23), ("Digit7", 0x24), ("Digit8", 0x25), ("Digit9", 0x26), ("End", 0x4d),
    ("Enter", 0x28), ("Equal", 0x2e), ("Escape", 0x29), ("Execute", 0x74), ("ExSel", 0xa4),
    ("F1", 0x3a), ("F2", 0x3b), ("F3", 0x3c), ("F4", 0x3d), ("F5", 0x3e), ("F6", 0x3f),
    ("F7", 0x40), ("F8", 0x41), ("F9", 0x42), ("F10", 0x43), ("F11", 0x44), ("F12", 0x45),
    ("F13", 0x68), ("F14", 0x69), ("F15", 0x6a), ("F16", 0x6b), ("F17", 0x6c), ("F18", 0x6d),
    ("F19", 0x6e), ("F20", 0x6f), ("F21", 0x70), ("F22", 0x71), ("F23", 0x72), ("F24", 0x73),
    ("Find", 0x7e), ("Grave", 0x35), ("HashTilde", 0x32), ("Help", 0x75), ("Home", 0x4a),
    ("Insert", 0x49), ("International7", 0x8d), ("International8", 0x8e),
    ("International9", 0x8f), ("IntlBackslash", 0x64), ("KeyA", 0x04), ("KeyB", 0x05),
    ("KeyC", 0x06), ("KeyD", 0x07), ("KeyE", 0x08), ("KeyF", 0x09), ("KeyG", 0x0a),
    ("KeyH", 0x0b), ("KeyI", 0x0c), ("KeyJ", 0x0d), ("KeyK", 0x0e), ("KeyL", 0x0f),
    ("KeyM", 0x10), ("KeyN", 0x11), ("KeyO", 0x12), ("KeyP", 0x13), ("KeyQ", 0x14),
    ("KeyR", 0x15), ("KeyS", 0x16), ("KeyT", 0x17), ("KeyU", 0x18), ("KeyV", 0x19),
    ("KeyW", 0x1a), ("KeyX", 0x1b), ("KeyY", 0x1c), ("KeyZ", 0x1d), ("KeyRO", 0x87),
    ("KatakanaHiragana", 0x88), ("Yen", 0x89), ("Henkan", 0x8a), ("Muhenkan", 0x8b),
    ("KPJPComma", 0x8c), ("Hangeul", 0x90), ("Hanja", 0x91), ("Katakana", 0x92),
    ("Hiragana", 0x93), ("ZenkakuHankaku", 0x94), ("LockingCapsLock", 0x82),
    ("LockingNumLock", 0x83), ("LockingScrollLock", 0x84), ("Lang6", 0x95), ("Lang7", 0x96),
    ("Lang8", 0x97), ("Lang9", 0x98), ("Menu", 0x76), ("MediaPlayPause", 0xf1),
    ("MediaStop", 0xf4), ("MediaTrackNext", 0xf2), ("MediaTrackPrevious", 0xf3),
    ("MetaLeft", 0xe3), ("MetaRight", 0xe7), ("Minus", 0x2d), ("Mute", 0x7f), ("NumLock", 0x53),
    ("Numpad0", 0x62), ("Numpad00", 0xb0), ("Numpad000", 0xb1), ("Numpad1", 0x59),
    ("Numpad2", 0x5a), ("Numpad3", 0x5b), ("Numpad4", 0x5c), ("Numpad5", 0x5d), ("Numpad6", 0x5e),
    ("Numpad7", 0x5f), ("Numpad8", 0x60), ("Numpad9", 0x61), ("NumpadAdd", 0x57),
    ("NumpadAnd", 0xc7), ("NumpadAt", 0xce), ("NumpadBackspace", 0xbb), ("NumpadBinary", 0xda),
    ("NumpadCircumflex", 0xc3), ("NumpadClear", 0xd8), ("NumpadClearEntry", 0xd9),
    ("NumpadColon", 0xcb), ("NumpadComma", 0x85), ("NumpadDecimal", 0x63),
    ("NumpadDecimalBase", 0xdc), ("NumpadDelete", 0x63), ("NumpadDivide", 0x54),
    ("NumpadDownArrow", 0x5a), ("NumpadEnd", 0x59), ("NumpadEnter", 0x58), ("NumpadEqual", 0x67),
    ("NumpadExclamation", 0xcf), ("NumpadGreaterThan", 0xc6), ("NumpadHexadecimal", 0xdd),
    ("NumpadHome", 0x5f), ("NumpadKeyA", 0xbc), ("NumpadKeyB", 0xbd), ("NumpadKeyC", 0xbe),
    ("NumpadKeyD", 0xbf), ("NumpadKeyE", 0xc0), ("NumpadKeyF", 0xc1), ("NumpadLeftArrow", 0x5c),
    ("NumpadLeftBrace", 0xb8), ("NumpadLeftParen", 0xb6), ("NumpadLessThan", 0xc5),
    ("NumpadLogicalAnd", 0xc8), ("NumpadLogicalOr", 0xca), ("NumpadMemoryAdd", 0xd3),
    ("NumpadMemoryClear", 0xd2), ("NumpadMemoryDivide", 0xd6), ("NumpadMemoryMultiply", 0xd5),
    ("NumpadMemoryRecall", 0xd1), ("NumpadMemoryStore", 0xd0), ("NumpadMemorySubtract", 0xd4),
    ("NumpadMultiply", 0x55), ("NumpadOctal", 0xdb), ("NumpadOctathorpe", 0xcc),
    ("NumpadOr", 0xc9), ("NumpadPageDown", 0x5b), ("NumpadPageUp", 0x61), ("NumpadPercent", 0xc4),
    ("NumpadPlusMinus", 0xd7), ("NumpadRightArrow", 0x5e), ("NumpadRightBrace", 0xb9),
    ("NumpadRightParen", 0xb7), ("NumpadSpace", 0xcd), ("NumpadSubtract", 0x56),
    ("NumpadTab", 0xba), ("NumpadUpArrow", 0x60), ("NumpadXOR", 0xc2), ("Octothorpe", 0x32),
    ("Operation", 0xa1), ("Out", 0xa0), ("PageDown", 0x4e), ("PageUp", 0x4b), ("Paste", 0x7d),
    ("Pause", 0x48), ("Period", 0x37), ("Power", 0x66), ("PrintScreen", 0x46), ("Prior", 0x9d),
    ("Quote", 0x34), ("Return", 0x9e), ("ScrollLock", 0x47), ("Select", 0x77),
    ("Semicolon", 0x33), ("Separator", 0x9f), ("ShiftLeft", 0xe1), ("ShiftRight", 0xe5),
    ("Slash", 0x38), ("Space", 0x2c), ("Stop", 0x78), ("SystemRequest", 0x9a), ("Tab", 0x2b),
    ("ThousandsSeparator", 0xb2), ("Tilde", 0x35), ("Undo", 0x7a), ("VolumeDown", 0x81),
    ("VolumeUp", 0x80)]

/-- The modifier masks on the device. -/
def hidModifiers : List (String × UInt8) :=
  [("ControlLeft", 0x01), ("ControlRight", 0x10), ("ShiftLeft", 0x02), ("ShiftRight", 0x20),
    ("AltLeft", 0x04), ("AltRight", 0x40), ("MetaLeft", 0x08), ("MetaRight", 0x80),
    ("AltGr", 0x40)]

/-! ### The browser -/

/-- What the browser makes of a step, with the keys of `MACRO_RESET_KEYBOARD_STATE` as the page has
them. The mask of a name that is unknown is not a number, and a step with such a modifier cannot be
marshalled. -/
def pressAndRelease (resetKeys : List ℤ) (step : MacroStep) :
    Except String (List Browser.KeyboardMacroStep) :=
  let keyValues := (step.keys.filterMap (List.lookup · keys)).filter (· ≠ 0)
  match step.modifiers.mapM (List.lookup · modifiers) with
  | none =>
      if keyValues.length > 0 then .error "Modifier NaN is not within the uint8 range"
      else .ok []
  | some masks =>
      let modifierMask : ℕ := masks.foldl (· + ·) 0
      if keyValues.length > 0 ∨ modifierMask > 0 then
        .ok [
          { keys := keyValues.map Int.ofNat, modifier := modifierMask, delay := 20 },
          { keys := resetKeys, modifier := 0
            delay := if step.delay = 0 then 100 else step.delay }]
      else .ok []

/-- The fields of a step that is sent. -/
def sentStep (step : Browser.KeyboardMacroStep) : Except String KeyboardMacroStep := do
  let _ ← step.marshal
  return {
    modifier := Word.toByte step.modifier
    keys := Browser.uint8Array step.slots
    delay := UInt16.ofNat step.delay.toNat }

/-- The steps that `executeMacroRemote` sends, unless one of them cannot be marshalled. -/
def executeMacroRemote (resetKeys : List ℤ) (steps : List MacroStep) :
    Except String (List KeyboardMacroStep) := do
  let parts ← steps.mapM (pressAndRelease resetKeys)
  parts.flatten.mapM sentStep

/-! ### The device -/

/-- Why a macro is not converted. -/
inductive MacroError where
  | tooManyKeys
  | unknownKey (name : String)
  | unknownModifier (name : String)
  | noConvertibleSteps (id : String)
deriving DecidableEq, Repr

/-- The codes of the keys. -/
def configKeyCodes : List String → Except MacroError (List UInt8)
  | [] => .ok []
  | name :: names =>
      match hidKeys.lookup name with
      | none => .error (.unknownKey name)
      | some code => (configKeyCodes names).map (code :: ·)

def configKeysToHID (names : List String) : Except MacroError (List UInt8) :=
  if names.length > hidKeyBufferSize then .error .tooManyKeys
  else
    (configKeyCodes names).map fun keys =>
      keys ++ List.replicate (hidKeyBufferSize - keys.length) 0

/-- The loop of `configModifiersToHID`. -/
def combineModifiers (modifier : UInt8) : List String → Except MacroError UInt8
  | [] => .ok modifier
  | name :: names =>
      match hidModifiers.lookup name with
      | none => .error (.unknownModifier name)
      | some mask => combineModifiers (modifier ||| mask) names

def configModifiersToHID (names : List String) : Except MacroError UInt8 :=
  combineModifiers 0 names

/-- What the device makes of a step. -/
def convertStep (step : MacroStep) : Except MacroError (List KeyboardMacroStep) :=
  if step.keys.length = 0 ∧ step.modifiers.length = 0 then .ok []
  else do
    let keyBytes ← configKeysToHID step.keys
    let modifier ← configModifiersToHID step.modifiers
    if keyBytes.length = 0 ∧ modifier = 0 then return []
    else
      return [
        { modifier := modifier, keys := keyBytes, delay := 20 },
        { modifier := 0, keys := List.replicate hidKeyBufferSize 0,
          delay := if step.delay > 0 then UInt16.ofNat step.delay.toNat else 100 }]

def convertConfigMacroToHidSteps (id : String) (steps : List MacroStep) :
    Except MacroError (List KeyboardMacroStep) := do
  let parts ← steps.mapM convertStep
  if parts.flatten.length = 0 then throw (.noConvertibleSteps id)
  else return parts.flatten

/-! ### Agreement -/

/-- The names of the step are known to both tables, and its keys are few and its delay allowed. -/
structure Known (step : MacroStep) : Prop where
  keys : ∀ name ∈ step.keys, (List.lookup name Macro.keys).isSome ∧
    (List.lookup name hidKeys).isSome
  modifiers : ∀ name ∈ step.modifiers, (List.lookup name Macro.modifiers).isSome ∧
    (List.lookup name hidModifiers).isSome
  few : step.keys.length ≤ hidKeyBufferSize
  delay : 50 ≤ step.delay ∧ step.delay ≤ 2000

/-- The browser sends what the device converts the macro to, or neither runs anything. -/
def Agree (resetKeys : List ℤ) (id : String) (steps : List MacroStep) : Prop :=
  match convertConfigMacroToHidSteps id steps with
  | .ok converted => executeMacroRemote resetKeys steps = .ok converted
  | .error _ => executeMacroRemote resetKeys steps = .ok []

/-- The masks of the modifiers of a step. -/
def masks (step : MacroStep) : List ℕ :=
  step.modifiers.filterMap (List.lookup · modifiers)

/-- No two modifiers of the step have one mask. -/
def DistinctModifiers (step : MacroStep) : Prop :=
  (masks step).Nodup

instance (step : MacroStep) : Decidable (DistinctModifiers step) :=
  inferInstanceAs (Decidable (List.Nodup _))

/-- The step has neither keys nor modifiers. -/
def Empty (step : MacroStep) : Prop :=
  step.keys = [] ∧ step.modifiers = []

instance (step : MacroStep) : Decidable (Empty step) :=
  inferInstanceAs (Decidable (_ ∧ _))

/-- The keys are zeros, as they are on a page that has been loaded. -/
def Zeros (resetKeys : List ℤ) : Prop :=
  resetKeys.length ≤ Browser.hidKeyBufferSize ∧ ∀ key ∈ resetKeys, key = 0

instance (resetKeys : List ℤ) : Decidable (Zeros resetKeys) :=
  inferInstanceAs (Decidable (_ ∧ _))

/-! ### Masks -/

/-- Combining a bit with a byte adds it, unless it is set. -/
theorem bit_or : ∀ (i : Fin 8) (x : Fin 256),
  2 ^ i.val ||| x.val = if x.val.testBit i.val then x.val else 2 ^ i.val + x.val
  := by
  decide +kernel

theorem testBit_bit_or : ∀ (i j : Fin 8) (x : Fin 256),
  (2 ^ i.val ||| x.val).testBit j.val = (decide (i = j) || x.val.testBit j.val)
  := by
  intro i j x
  rw [Nat.testBit_or, Nat.testBit_two_pow, decide_eq_decide.mpr Fin.ext_iff]

/-- The sum of some bits is their combination exactly when no bit is repeated. -/
theorem sum_eq_or_iff {bits : List ℕ} (h : ∀ bit ∈ bits, ∃ i : Fin 8, bit = 2 ^ i.val) :
  bits.foldr (· ||| ·) 0 < 256 ∧
    (∀ i : Fin 8, (bits.foldr (· ||| ·) 0).testBit i.val = true ↔ 2 ^ i.val ∈ bits) ∧
    bits.foldr (· ||| ·) 0 ≤ bits.sum ∧ (bits.sum = bits.foldr (· ||| ·) 0 ↔ bits.Nodup)
  := by
  induction bits with
  | nil => simp
  | cons bit bits ih =>
      rw [List.forall_mem_cons] at h
      obtain ⟨⟨i, rfl⟩, hbits⟩ := h
      obtain ⟨hlt, htest, hle, hsum⟩ := ih hbits
      have hor := bit_or i ⟨_, hlt⟩
      have htestOr := fun j => testBit_bit_or i j ⟨_, hlt⟩
      have hpos : 0 < 2 ^ i.val := Nat.two_pow_pos i.val
      dsimp only at hor htestOr
      rw [List.foldr_cons, List.sum_cons, List.nodup_cons]
      refine ⟨?_, ?_, ?_⟩
      · exact Nat.or_lt_two_pow (n := 8) (Nat.pow_lt_pow_right (by decide) i.isLt) hlt
      · intro j
        rw [htestOr, Bool.or_eq_true, decide_eq_true_iff, htest, List.mem_cons]
        apply or_congr_left
        rw [Nat.pow_right_injective (Nat.le_refl 2) |>.eq_iff, Fin.val_inj]
        exact eq_comm
      · rw [hor]
        by_cases hmem : 2 ^ i.val ∈ bits
        · rw [if_pos ((htest i).mpr hmem)]
          constructor
          · omega
          · apply iff_of_false
            · omega
            · exact fun hnodup => hnodup.1 hmem
        · rw [if_neg ((htest i).not.mpr hmem)]
          constructor
          · omega
          · rw [← hsum]
            constructor
            · intro heq
              exact ⟨hmem, by omega⟩
            · intro hnodup
              omega

/-! ### Names -/

/-- A table with other values for the same keys is looked up in the same place. -/
theorem lookup_map {α β γ : Type*} [BEq α] (f : β → γ) (key : α) (table : List (α × β)) :
  List.lookup key (table.map fun e => (e.1, f e.2)) = (List.lookup key table).map f
  := by
  induction table with
  | nil => rfl
  | cons e table ih =>
      rw [List.map_cons, List.lookup_cons, List.lookup_cons]
      split
      · rfl
      · apply ih

/-- The tables of the browser and of the device agree. -/
theorem hidKeys_eq :
  hidKeys = keys.map fun e => (e.1, UInt8.ofNat e.2)
  := by
  decide +kernel

theorem hidModifiers_eq :
  hidModifiers = modifiers.map fun e => (e.1, UInt8.ofNat e.2)
  := rfl

theorem keys_range :
  ∀ e ∈ keys, e.2 ≠ 0 ∧ e.2 < 256
  := by
  decide +kernel

theorem modifiers_range :
  ∀ e ∈ modifiers, ∃ i : Fin 8, e.2 = 2 ^ i.val
  := by
  decide +kernel

theorem mem_of_lookup {α β : Type*} [BEq α] [LawfulBEq α] {key : α} {value : β}
    {table : List (α × β)} (h : List.lookup key table = some value) :
  (key, value) ∈ table
  := by
  obtain ⟨front, back, rfl, -⟩ := List.lookup_eq_some_iff.mp h
  simp

/-- The codes of the keys of a step. -/
def codes (step : MacroStep) : List ℕ :=
  step.keys.filterMap (List.lookup · keys)

variable {step : MacroStep} {steps : List MacroStep} {names : List String} {resetKeys : List ℤ}

theorem codes_range :
  ∀ code ∈ codes step, code ≠ 0 ∧ code < 256
  := by
  intro code hcode
  obtain ⟨name, -, hlookup⟩ := List.mem_filterMap.mp hcode
  exact keys_range _ (mem_of_lookup hlookup)

theorem masks_range :
  ∀ mask ∈ masks step, ∃ i : Fin 8, mask = 2 ^ i.val
  := by
  intro mask hmask
  obtain ⟨name, -, hlookup⟩ := List.mem_filterMap.mp hmask
  exact modifiers_range _ (mem_of_lookup hlookup)

theorem filterMap_lookup_cons {β : Type*} {table : List (String × β)} {name : String} {value : β}
    (h : List.lookup name table = some value) (names : List String) :
  (name :: names).filterMap (List.lookup · table) =
    value :: names.filterMap (List.lookup · table)
  := by
  simp [h]

/-- When all names are found, so are their values, one for each. -/
theorem filterMap_lookup_length {β : Type*} {table : List (String × β)}
    (h : ∀ name ∈ names, (List.lookup name table).isSome) :
  (names.filterMap (List.lookup · table)).length = names.length
  := by
  induction names with
  | nil => rfl
  | cons name names ih =>
      rw [List.forall_mem_cons] at h
      obtain ⟨value, hvalue⟩ := Option.isSome_iff_exists.mp h.1
      rw [filterMap_lookup_cons hvalue, List.length_cons, List.length_cons, ih h.2]

theorem mapM_lookup {β : Type*} {table : List (String × β)}
    (h : ∀ name ∈ names, (List.lookup name table).isSome) :
  names.mapM (List.lookup · table) = some (names.filterMap (List.lookup · table))
  := by
  induction names with
  | nil => rfl
  | cons name names ih =>
      rw [List.forall_mem_cons] at h
      obtain ⟨value, hvalue⟩ := Option.isSome_iff_exists.mp h.1
      rw [List.mapM_cons, ih h.2, filterMap_lookup_cons hvalue, hvalue]
      rfl

theorem configKeyCodes_eq (h : ∀ name ∈ names, (List.lookup name keys).isSome) :
  configKeyCodes names = .ok ((names.filterMap (List.lookup · keys)).map UInt8.ofNat)
  := by
  induction names with
  | nil => rfl
  | cons name names ih =>
      rw [List.forall_mem_cons] at h
      obtain ⟨code, hcode⟩ := Option.isSome_iff_exists.mp h.1
      rw [configKeyCodes, hidKeys_eq, lookup_map, hcode, filterMap_lookup_cons hcode, ih h.2]
      rfl

theorem combineModifiers_eq (h : ∀ name ∈ names, (List.lookup name modifiers).isSome)
    (modifier : ℕ) :
  combineModifiers (UInt8.ofNat modifier) names =
    .ok (UInt8.ofNat (modifier ||| (names.filterMap (List.lookup · modifiers)).foldr (· ||| ·) 0))
  := by
  induction names generalizing modifier with
  | nil => simp [combineModifiers]
  | cons name names ih =>
      rw [List.forall_mem_cons] at h
      obtain ⟨mask, hmask⟩ := Option.isSome_iff_exists.mp h.1
      rw [combineModifiers, hidModifiers_eq, lookup_map, hmask, filterMap_lookup_cons hmask]
      dsimp only [Option.map_some]
      rw [← UInt8.ofNat_or, ih h.2, List.foldr_cons, Nat.or_assoc]

/-! ### Steps -/

/-- The press and the release that the browser makes of a step. -/
def browserSteps (resetKeys : List ℤ) (step : MacroStep) : List Browser.KeyboardMacroStep :=
  [{ keys := (codes step).map Int.ofNat, modifier := ((masks step).sum : ℕ), delay := 20 },
    { keys := resetKeys, modifier := 0, delay := step.delay }]

/-- The press and the release that the device makes of a step. -/
def deviceSteps (step : MacroStep) : List KeyboardMacroStep :=
  [{ modifier := UInt8.ofNat ((masks step).foldr (· ||| ·) 0)
     keys := (codes step).map UInt8.ofNat ++
      List.replicate (hidKeyBufferSize - (codes step).length) 0
     delay := 20 },
    { modifier := 0, keys := List.replicate hidKeyBufferSize 0
      delay := UInt16.ofNat step.delay.toNat }]

namespace Known

variable (h : Known step)

include h in
theorem codes_length :
  (codes step).length = step.keys.length
  := filterMap_lookup_length fun name hname => (h.keys name hname).1

include h in
theorem masks_length :
  (masks step).length = step.modifiers.length
  := filterMap_lookup_length fun name hname => (h.modifiers name hname).1

include h in
/-- A step that has modifiers has a mask. -/
theorem masks_pos_iff :
  0 < (masks step).sum ↔ step.modifiers ≠ []
  := by
  rw [← List.length_pos_iff, ← h.masks_length, List.length_pos_iff]
  cases hmasks : masks step with
  | nil => simp
  | cons mask rest =>
      obtain ⟨i, rfl⟩ := masks_range mask (hmasks ▸ List.mem_cons_self)
      have hpos := Nat.two_pow_pos i.val
      apply iff_of_true
      · rw [List.sum_cons]
        omega
      · apply List.cons_ne_nil

include h in
theorem pressAndRelease_eq :
  pressAndRelease resetKeys step =
    .ok (if Empty step then [] else browserSteps resetKeys step)
  := by
  have hcodes : (codes step).filter (· ≠ 0) = codes step := by
    rw [List.filter_eq_self]
    intro code hcode
    simpa using (codes_range code hcode).1
  have hdelay : step.delay ≠ 0 := by
    have := h.delay
    omega
  rw [codes] at hcodes
  rw [pressAndRelease, hcodes, mapM_lookup fun name hname => (h.modifiers name hname).1]
  have hsome : (codes step).length > 0 ∨ (masks step).foldl (· + ·) 0 > 0 ↔ ¬ Empty step := by
    rw [← List.sum_eq_foldl, h.codes_length, gt_iff_lt, gt_iff_lt, h.masks_pos_iff,
      List.length_pos_iff, Empty, not_and_or]
  by_cases hempty : Empty step
  · rw [if_pos hempty]
    exact if_neg (hsome.not.mpr (not_not_intro hempty))
  · rw [if_neg hempty, browserSteps, List.sum_eq_foldl]
    apply (if_pos (hsome.mpr hempty)).trans
    rw [if_neg hdelay]
    rfl

include h in
theorem convertStep_eq :
  convertStep step = .ok (if Empty step then [] else deviceSteps step)
  := by
  have hpositive : step.delay > 0 := by
    have := h.delay
    omega
  have hkeys : configKeysToHID step.keys = .ok ((codes step).map UInt8.ofNat ++
      List.replicate (hidKeyBufferSize - (codes step).length) 0) := by
    rw [configKeysToHID, if_neg (Nat.not_lt.mpr h.few),
      configKeyCodes_eq fun name hname => (h.keys name hname).1]
    simp [Except.map, codes]
  have hmodifiers : configModifiersToHID step.modifiers =
      .ok (UInt8.ofNat ((masks step).foldr (· ||| ·) 0)) := by
    have heq := combineModifiers_eq (fun name hname => (h.modifiers name hname).1) 0
    rw [Nat.zero_or] at heq
    exact heq
  have hsix : ¬ ((codes step).map UInt8.ofNat ++
      List.replicate (hidKeyBufferSize - (codes step).length) 0).length = 0 := by
    have hfew := h.few
    rw [← h.codes_length, hidKeyBufferSize] at hfew
    rw [List.length_append, List.length_map, List.length_replicate, hidKeyBufferSize]
    omega
  rw [convertStep, hkeys, hmodifiers]
  by_cases hempty : Empty step
  · rw [if_pos (by simpa [Empty] using hempty), if_pos hempty]
  · rw [if_neg (by simpa [Empty] using hempty), if_neg hempty]
    dsimp only [bind, Except.bind, pure, Except.pure]
    rw [if_neg fun hnone => hsix hnone.1, if_pos hpositive]
    rfl

/-- A release has no keys exactly when the keys of the page are zeros. -/
theorem slots_eq_iff (modifier delay : ℤ) :
  resetKeys.length ≤ Browser.hidKeyBufferSize ∧
      Browser.KeyboardMacroStep.slots ⟨modifier, resetKeys, delay⟩ =
        List.replicate Browser.hidKeyBufferSize 0 ↔
    Zeros resetKeys
  := by
  apply and_congr_right
  intro hlength
  rw [Browser.KeyboardMacroStep.slots, List.eq_replicate_iff, List.forall_mem_append]
  constructor
  · exact fun h => h.2.1
  · intro h
    refine ⟨?_, h, fun key hkey => List.eq_of_mem_replicate hkey⟩
    rw [List.length_append, List.length_replicate]
    dsimp only
    omega

/-- A step that is marshalled has at most six keys, all of them bytes. -/
theorem slots_of_marshal {step : Browser.KeyboardMacroStep} {bytes : List UInt8}
    (h : step.marshal = .ok bytes) :
  step.keys.length ≤ Browser.hidKeyBufferSize ∧ ∀ key ∈ step.slots, Browser.withinUint8Range key
  := by
  rw [Browser.KeyboardMacroStep.marshal] at h
  cases hmodifier : Browser.checkModifier step.modifier with
  | error err =>
      rw [hmodifier] at h
      cases h
  | ok =>
      rw [hmodifier, Browser.KeyboardMacroStep.padded] at h
      dsimp only [bind, Except.bind] at h
      split at h
      case h_1 => cases h
      case h_2 keys hkeys =>
        split at hkeys
        case isTrue => cases hkeys
        case isFalse hlength =>
          obtain rfl := Except.ok.inj hkeys
          use Nat.not_lt.mp hlength
          cases hfind : step.slots.find? fun key => ¬ Browser.withinUint8Range key with
          | none => simpa using hfind
          | some key =>
              rw [← Browser.KeyboardMacroStep.slots, Browser.checkKeys, hfind] at h
              cases h

theorem toByte_eq_zero_iff {key : ℤ} (h : Browser.withinUint8Range key) :
  Word.toByte key = 0 ↔ key = 0
  := by
  obtain ⟨hlow, hhigh⟩ := h
  have hbyte := Word.toNat_toByte key
  rw [← UInt8.toNat_inj, UInt8.toNat_zero]
  omega

include h in
/-- The release is sent without keys exactly when the keys of the page are zeros. -/
theorem sentStep_release_iff :
  sentStep { keys := resetKeys, modifier := 0, delay := step.delay } =
      .ok { modifier := 0, keys := List.replicate hidKeyBufferSize 0,
            delay := UInt16.ofNat step.delay.toNat } ↔
    Zeros resetKeys
  := by
  have hdelay := h.delay
  rw [← slots_eq_iff 0 step.delay, sentStep]
  constructor
  · intro hsent
    cases hmarshal : Browser.KeyboardMacroStep.marshal ⟨0, resetKeys, step.delay⟩ with
    | error err =>
        rw [hmarshal] at hsent
        cases hsent
    | ok bytes =>
        rw [hmarshal] at hsent
        obtain ⟨hlength, hrange⟩ := slots_of_marshal hmarshal
        have hkeys := congrArg KeyboardMacroStep.keys (Except.ok.inj hsent)
        obtain ⟨hsix, hzero⟩ := List.eq_replicate_iff.mp hkeys
        rw [Browser.length_uint8Array] at hsix
        refine ⟨hlength, List.eq_replicate_iff.mpr ⟨hsix, ?_⟩⟩
        intro key hkey
        exact (toByte_eq_zero_iff (hrange key hkey)).mp (hzero _ (List.mem_map_of_mem hkey))
  · rintro ⟨hlength, hslots⟩
    have hrange : Browser.KeyboardMacroStep.InRange ⟨0, resetKeys, step.delay⟩ := by
      constructor
      · exact (by decide : Browser.withinUint8Range 0)
      · exact hlength
      · intro key hkey
        have hmem : key ∈ Browser.KeyboardMacroStep.slots ⟨0, resetKeys, step.delay⟩ :=
          List.mem_append_left _ hkey
        rw [hslots] at hmem
        rw [List.eq_of_mem_replicate hmem]
        decide
      · dsimp only
        omega
    rw [hrange.marshal, hslots]
    rfl

theorem toByte_ofNat (n : ℕ) : Word.toByte (n : ℤ) = UInt8.ofNat n
  := by
  apply UInt8.toNat_inj.mp
  have hbyte := Word.toNat_toByte (n : ℤ)
  rw [UInt8.toNat_ofNat']
  omega

include h in
/-- The press is sent when the masks of its modifiers add up to a byte. -/
theorem sentStep_press (hsum : (masks step).sum ≤ 255) :
  sentStep { keys := (codes step).map Int.ofNat, modifier := ((masks step).sum : ℕ), delay := 20 }
    = .ok { modifier := UInt8.ofNat (masks step).sum
            keys := (codes step).map UInt8.ofNat ++
              List.replicate (hidKeyBufferSize - (codes step).length) 0
            delay := 20 }
  := by
  have hrange : Browser.KeyboardMacroStep.InRange
      ⟨((masks step).sum : ℕ), (codes step).map Int.ofNat, 20⟩ := by
    constructor
    · constructor
      · exact Int.natCast_nonneg _
      · dsimp only
        omega
    · dsimp only
      rw [List.length_map, h.codes_length]
      exact h.few
    · intro k hk
      obtain ⟨code, hcode, rfl⟩ := List.mem_map.mp hk
      have hlt := (codes_range code hcode).2
      constructor
      · exact Int.natCast_nonneg _
      · change (code : ℤ) ≤ 255
        omega
    · exact (by decide : (0 : ℤ) ≤ 20 ∧ (20 : ℤ) < 2 ^ 16)
  rw [sentStep, hrange.marshal]
  dsimp only [bind, Except.bind, pure, Except.pure]
  rw [toByte_ofNat, Browser.KeyboardMacroStep.slots, Browser.uint8Array_append]
  congr 2
  rw [Browser.uint8Array, Browser.uint8Array, List.map_map, List.map_replicate, List.length_map]
  congr 1
  apply List.map_congr_left
  intro code _
  apply toByte_ofNat

/-- A press is not sent when the masks of its modifiers are more than a byte. -/
theorem sentStep_press_error (hsum : 255 < (masks step).sum) :
  ∃ err, sentStep { keys := (codes step).map Int.ofNat, modifier := ((masks step).sum : ℕ)
                    delay := 20 } = .error err
  := by
  rw [sentStep, Browser.KeyboardMacroStep.marshal, Browser.checkModifier, if_neg]
  · exact ⟨_, rfl⟩
  · intro hrange
    have := hrange.2
    dsimp only at this
    omega

end Known

/-! ### Macros -/

theorem mapM_ok {α β ε : Type*} {f : α → Except ε β} {g : α → β} {l : List α}
    (h : ∀ x ∈ l, f x = .ok (g x)) :
  l.mapM f = .ok (l.map g)
  := by
  induction l with
  | nil => rfl
  | cons x l ih =>
      rw [List.forall_mem_cons] at h
      rw [List.mapM_cons, h.1, ih h.2]
      rfl

variable (known : ∀ step ∈ steps, Known step)

include known in
theorem executeMacroRemote_eq :
  executeMacroRemote resetKeys steps =
    (steps.flatMap fun step => if Empty step then [] else browserSteps resetKeys step).mapM sentStep
  := by
  rw [executeMacroRemote, mapM_ok fun step hstep => (known step hstep).pressAndRelease_eq,
    List.flatMap_def]
  rfl

include known in
theorem convertConfigMacroToHidSteps_eq (id : String) :
  convertConfigMacroToHidSteps id steps =
    if (steps.flatMap fun step => if Empty step then [] else deviceSteps step).length = 0 then
      .error (.noConvertibleSteps id)
    else .ok (steps.flatMap fun step => if Empty step then [] else deviceSteps step)
  := by
  rw [convertConfigMacroToHidSteps, mapM_ok fun step hstep => (known step hstep).convertStep_eq,
    List.flatMap_def]
  rfl

/-- The press is sent as the device converts it exactly when its modifiers are distinct. -/
theorem Known.sentStep_press_iff (h : Known step) :
  sentStep { keys := (codes step).map Int.ofNat, modifier := ((masks step).sum : ℕ), delay := 20 } =
      .ok { modifier := UInt8.ofNat ((masks step).foldr (· ||| ·) 0)
            keys := (codes step).map UInt8.ofNat ++
              List.replicate (hidKeyBufferSize - (codes step).length) 0
            delay := 20 } ↔
    DistinctModifiers step
  := by
  obtain ⟨hlt, -, -, hsum⟩ := sum_eq_or_iff (@masks_range step)
  rw [DistinctModifiers, ← hsum]
  by_cases hbyte : (masks step).sum ≤ 255
  · rw [h.sentStep_press hbyte]
    constructor
    · intro heq
      have hmask := congrArg (fun sent => sent.modifier.toNat) (Except.ok.inj heq)
      dsimp only at hmask
      rw [UInt8.toNat_ofNat', UInt8.toNat_ofNat'] at hmask
      omega
    · intro heq
      rw [heq]
  · obtain ⟨err, herr⟩ := sentStep_press_error (Nat.not_le.mp hbyte)
    rw [herr]
    apply iff_of_false nofun
    omega

/-- A press, a release and what follows them are sent one by one. -/
theorem mapM_pair_iff {f : Browser.KeyboardMacroStep → Except String KeyboardMacroStep}
    {press release : Browser.KeyboardMacroStep} {press' release' : KeyboardMacroStep}
    {rest : Except String (List KeyboardMacroStep)} {converted : List KeyboardMacroStep} :
  (do
      let sent ← [press, release].mapM f
      let others ← rest
      return sent ++ others) =
        (.ok ([press', release'] ++ converted) : Except String (List KeyboardMacroStep)) ↔
    f press = .ok press' ∧ f release = .ok release' ∧ rest = .ok converted
  := by
  rw [List.mapM_cons, List.mapM_cons, List.mapM_nil]
  cases f press with
  | error err => exact iff_of_false nofun fun hnot => nomatch hnot.1
  | ok first =>
      cases f release with
      | error err => exact iff_of_false nofun fun hnot => nomatch hnot.2.1
      | ok second =>
          cases rest with
          | error err => exact iff_of_false nofun fun hnot => nomatch hnot.2.2
          | ok others => simp [bind, Except.bind, pure, Except.pure]

/-- A step and those after it are sent as the device converts them exactly when its modifiers are
distinct, its release has no keys, and the others are sent so. -/
theorem Known.sent_iff (h : Known step) {rest : Except String (List KeyboardMacroStep)}
    {converted : List KeyboardMacroStep} :
  (do
      let sent ← (if Empty step then [] else browserSteps resetKeys step).mapM sentStep
      let others ← rest
      return sent ++ others) =
        (.ok ((if Empty step then [] else deviceSteps step) ++ converted) :
          Except String (List KeyboardMacroStep)) ↔
    (DistinctModifiers step ∧ (Empty step ∨ Zeros resetKeys)) ∧ rest = .ok converted
  := by
  by_cases hempty : Empty step
  · have hdistinct : DistinctModifiers step := by
      rw [DistinctModifiers, masks, hempty.2]
      exact List.nodup_nil
    rw [if_pos hempty, if_pos hempty, and_iff_right ⟨hdistinct, Or.inl hempty⟩]
    cases rest with
    | error err => exact iff_of_false nofun nofun
    | ok others => exact Iff.rfl
  · rw [if_neg hempty, if_neg hempty, browserSteps, deviceSteps, mapM_pair_iff,
      h.sentStep_press_iff, h.sentStep_release_iff, or_iff_right hempty, and_assoc]

include known in
theorem sent_iff :
  (steps.flatMap fun step => if Empty step then [] else browserSteps resetKeys step).mapM sentStep =
      .ok (steps.flatMap fun step => if Empty step then [] else deviceSteps step) ↔
    ∀ step ∈ steps, DistinctModifiers step ∧ (Empty step ∨ Zeros resetKeys)
  := by
  induction steps with
  | nil => simp [pure, Except.pure]
  | cons step steps ih =>
      rw [List.forall_mem_cons] at known ⊢
      rw [List.flatMap_cons, List.flatMap_cons, List.mapM_append, known.1.sent_iff, ih known.2]

include known in
theorem agree_iff_sent (id : String) :
  Agree resetKeys id steps ↔
    (steps.flatMap fun step => if Empty step then [] else browserSteps resetKeys step).mapM
        sentStep =
      .ok (steps.flatMap fun step => if Empty step then [] else deviceSteps step)
  := by
  rw [Agree, convertConfigMacroToHidSteps_eq known, executeMacroRemote_eq known]
  split
  · rename_i converted hconverted
    split at hconverted
    · cases hconverted
    · rw [Except.ok.inj hconverted]
  · rename_i err hconverted
    split at hconverted
    · rename_i hnone
      rw [List.eq_nil_of_length_eq_zero hnone]
    · cases hconverted

include known in
/-- The browser and the device compile a macro alike exactly when no step names a modifier twice,
and the keys with which the page releases are zeros, unless all steps are pauses. -/
theorem agree_iff (resetKeys : List ℤ) (id : String) :
  Agree resetKeys id steps ↔
    ∀ step ∈ steps, DistinctModifiers step ∧ (Empty step ∨ Zeros resetKeys)
  := by
  rw [agree_iff_sent known, sent_iff known]

/-- A step with Control, Alt and Delete, and one that is a pause. -/
def ctrlAltDel : List MacroStep :=
  [⟨["Delete"], ["ControlLeft", "AltLeft"], 150⟩, ⟨[], [], 100⟩]

/-- A page on which too many keys have been down twice has other keys than zeros. -/
theorem agree_ctrlAltDel :
  Agree [0, 0, 0, 0, 0, 0] "macro" ctrlAltDel ∧ ¬ Agree [1, 1, 1, 1, 1, 1] "macro" ctrlAltDel
  := by
  have known : ∀ step ∈ ctrlAltDel, Known step := by
    intro step hstep
    rcases List.mem_cons.mp hstep with rfl | hstep
    · exact ⟨by decide +kernel, by decide +kernel, by decide, by decide⟩
    · obtain rfl := List.mem_singleton.mp hstep
      exact ⟨by decide, by decide, by decide, by decide⟩
  rw [agree_iff known, agree_iff known]
  constructor
  · decide +kernel
  · decide +kernel

/-- On a page that has been loaded, the right Alt key has two names, which the browser adds to the
mask of the right Meta key. -/
theorem not_agree_altGr :
  ¬ ∀ (id : String) (steps : List MacroStep), (∀ step ∈ steps, Known step) →
    Agree (List.replicate Browser.hidKeyBufferSize 0) id steps
  := by
  intro claim
  have known : ∀ step ∈ [(⟨["KeyA"], ["AltRight", "AltGr"], 100⟩ : MacroStep)], Known step := by
    intro step hstep
    obtain rfl := List.mem_singleton.mp hstep
    exact ⟨by decide +kernel, by decide +kernel, by decide, by decide⟩
  have hagree := claim "macro" _ known
  rw [agree_iff_sent known, sent_iff known] at hagree
  exact absurd (hagree _ (List.mem_singleton_self _)).1 (by decide +kernel)

end JetKvm.Macro
