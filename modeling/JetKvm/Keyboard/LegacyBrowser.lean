import JetKvm.Library.Transition
import JetKvm.Keyboard.HeldKeys
import JetKvm.Keyboard.HostAgreement
import JetKvm.HidRpc.Browser
import Mathlib.Data.Fintype.Card
import Mathlib.Data.FinEnum

/-!
# Key handling in the browser

For a device without HID-RPC the browser keeps the state of the keys itself and sends whole
keyboard reports. It computes the same reports as the device. The two do not always keep the
same state: after an overflow the browser releases the modifiers as well, and it goes on with
the array of `MACRO_RESET_KEYBOARD_STATE`, which later key events change in place. Responses
arrive before the next key event.
-/

namespace JetKvm.Browser

def modifierControlLeft : Int := 0x01
def modifierControlRight : Int := 0x10
def modifierShiftLeft : Int := 0x02
def modifierShiftRight : Int := 0x20
def modifierAltLeft : Int := 0x04
def modifierAltRight : Int := 0x40
def modifierMetaLeft : Int := 0x08
def modifierMetaRight : Int := 0x80

/-- The bit of the modifier byte each modifier key sets. -/
def hidKeyToModifierMask : List (Int × Int) :=
  [(0xe0, modifierControlLeft),
    (0xe1, modifierShiftLeft),
    (0xe2, modifierAltLeft),
    (0xe3, modifierMetaLeft),
    (0xe4, modifierControlRight),
    (0xe5, modifierShiftRight),
    (0xe6, modifierAltRight),
    (0xe7, modifierMetaRight)]

/-- The number that fills the key slots when too many keys are down. -/
def hidErrorRollOver : Int := 0x01

/-- What a slot becomes if it is free or holds the key: a press writes the key, and a release
takes the slot out and adds a free one at the end. -/
def tryKeySlot (keys : List Int) (key : Int) (press : Bool) (i : Nat) : Option (List Int) :=
  if keys[i]? = some key ∨ keys[i]? = some 0 then
    some (if press then keys.set i key
      else if keys[i]? ≠ some 0 then keys.eraseIdx i ++ [0] else keys)
  else none

/-- Uses the first slot that is free or holds the key. There is none when the buffer
overruns. -/
def findKeySlot (keys : List Int) (key : Int) (press : Bool) : Option (List Int) :=
  (List.range hidKeyBufferSize).findSome? (tryKeySlot keys key press)

/-- The modifiers and the keys after a key event. -/
def simulateDeviceSideKeyHandlingForLegacyDevices (state : KeysDownState) (key : Int)
    (press : Bool) : KeysDownState :=
  let modifiers := state.modifier
  let keys := state.keys
  let modifierMask := (hidKeyToModifierMask.lookup key).getD 0
  if modifierMask ≠ 0 then
    { modifier :=
        if press then Word.or32 modifiers modifierMask
        else Word.and32 modifiers (Word.not32 modifierMask)
      keys := keys }
  else
    match findKeySlot keys key press with
    | some keys => { modifier := modifiers, keys := keys }
    | none =>
        { modifier := modifiers
          keys := if press then List.replicate hidKeyBufferSize hidErrorRollOver else keys }

/-- What the browser keeps of the keys: `keysDownState`, whose array is either one of its own or
the array of `MACRO_RESET_KEYBOARD_STATE`, and the content of that array. -/
structure LegacyKeyboard where
  modifier : Int
  ownKeys : Option (List Int)
  resetKeys : List Int
deriving DecidableEq, Repr

namespace LegacyKeyboard

/-- The keys of `keysDownState`. -/
def keys (b : LegacyKeyboard) : List Int :=
  b.ownKeys.getD b.resetKeys

/-- The state of the keys that is kept. -/
def keysDownState (b : LegacyKeyboard) : KeysDownState where
  modifier := b.modifier
  keys := b.keys

/-- Changes the array of `keysDownState` in place. -/
def setKeys (b : LegacyKeyboard) (keys : List Int) : LegacyKeyboard :=
  match b.ownKeys with
  | some _ => { b with ownKeys := some keys }
  | none => { b with resetKeys := keys }

/-- Sends the reset state and, with the response, keeps it. -/
def resetKeyboardState (b : LegacyKeyboard) : LegacyKeyboard × KeysDownState :=
  ({ b with modifier := 0, ownKeys := none }, { modifier := 0, keys := b.resetKeys })

/-- Handles a key event without HID-RPC. The result has the reports that are sent, oldest
first. -/
def handleKeyPress (b : LegacyKeyboard) (key : Int) (press : Bool) :
    LegacyKeyboard × List KeysDownState :=
  if key = 0 then (b, [])
  else
    let downState := simulateDeviceSideKeyHandlingForLegacyDevices b.keysDownState key press
    let b := { b.setKeys downState.keys with modifier := downState.modifier }
    if downState.keys.head? = some hidErrorRollOver then
      let (b, report) := b.resetKeyboardState
      (b, [downState, report])
    else (b, [downState])

@[simp]
theorem setKeys_keys (b : LegacyKeyboard) (keys : List Int) :
  (b.setKeys keys).keys = keys
  := by
  obtain ⟨modifier, _ | own, reset⟩ := b <;> rfl

/-- As long as the array is one of its own, the reset state has no keys down. -/
def ResetsToZero (b : LegacyKeyboard) : Prop :=
  b.ownKeys.isSome = true → b.resetKeys = List.replicate hidKeyBufferSize 0

/-- The state of a page that has been loaded, with the given state of the keys. -/
def load (modifier : Int) (keys : List Int) : LegacyKeyboard where
  modifier := modifier
  ownKeys := some keys
  resetKeys := List.replicate hidKeyBufferSize 0

end LegacyKeyboard

/-! ### The same report -/

variable {front rest keys : List UInt8} {key : UInt8} {press : Bool}

/-- A slot of the numbers of an array. -/
theorem numbers_getElem? (keys : List UInt8) (i : Nat) (byte : UInt8) :
  (numbers keys)[i]? = some (byte.toNat : Int) ↔ keys[i]? = some byte
  := by
  rw [numbers, List.getElem?_map]
  cases keys[i]? with
  | none => simp
  | some k => simp [UInt8.toNat_inj]

theorem numbers_inj :
  numbers front = numbers keys ↔ front = keys
  := by
  apply List.map_inj_right
  intro a b h
  simpa [UInt8.toNat_inj] using h

/-- A slot of the browser is used as the device uses it. -/
theorem tryKeySlot_numbers (k : UInt8) :
  tryKeySlot (numbers (front ++ k :: rest)) key.toNat press front.length
    = if k = key ∨ k = 0 then
        some (numbers (front ++ if press then key :: rest
          else if k ≠ 0 then rest ++ [0] else k :: rest))
      else none
  := by
  have hslot : (front ++ k :: rest)[front.length]? = some k := by simp
  have hkey := numbers_getElem? (front ++ k :: rest) front.length key
  have hzero := numbers_getElem? (front ++ k :: rest) front.length 0
  rw [hslot, Option.some_inj] at hkey hzero
  have hzero : (numbers (front ++ k :: rest))[front.length]? = some 0 ↔ k = 0 := hzero
  simp only [tryKeySlot, hkey, ne_eq, hzero]
  by_cases hfree : k = key ∨ k = 0
  · rw [if_pos hfree, if_pos hfree, Option.some_inj]
    cases press with
    | true => simp [numbers]
    | false =>
        by_cases hk : k = 0
        · simp [hk]
        · simp [hk, numbers, List.eraseIdx_append_of_length_le]
  · rw [if_neg hfree, if_neg hfree]

/-- The search of the browser from a slot on finds what the search of the device finds in the
rest of the slots. -/
theorem findSome?_tryKeySlot (front rest : List UInt8) (key : UInt8) (press : Bool) :
  (List.range' front.length rest.length).findSome?
      (tryKeySlot (numbers (front ++ rest)) key.toNat press)
    = (updateSlot key press rest).map fun rest => numbers (front ++ rest)
  := by
  induction rest generalizing front with
  | nil => rfl
  | cons k rest ih =>
      rw [List.length_cons, List.range'_succ, List.findSome?_cons, tryKeySlot_numbers, updateSlot]
      by_cases hfree : k = key ∨ k = 0
      · rw [if_pos hfree, if_pos hfree]
        rfl
      · rw [if_neg hfree, if_neg hfree]
        have hrest := ih (front ++ [k])
        rw [List.length_append, List.length_singleton, List.append_assoc,
          List.singleton_append] at hrest
        dsimp only
        rw [hrest, Option.map_map]
        congr 1
        funext keys
        simp

/-- Both searches find the same slot. -/
theorem findKeySlot_numbers (h : keys.length = JetKvm.hidKeyBufferSize) :
  findKeySlot (numbers keys) key.toNat press = (updateSlot key press keys).map numbers
  := by
  have hfront := findSome?_tryKeySlot [] keys key press
  rw [h] at hfront
  rw [findKeySlot, List.range_eq_range']
  exact hfront

/-- The two tables of modifiers agree. -/
theorem hidKeyToModifierMask_lookup :
  ∀ key : UInt8, hidKeyToModifierMask.lookup (key.toNat : Int)
    = (keyCodeToMaskMap.lookup key).map fun mask => (mask.toNat : Int)
  := by decide +kernel

/-- A modifier byte and key slots in numbers. -/
def inNumbers (modifier : UInt8) (keys : List UInt8) : KeysDownState where
  modifier := modifier.toNat
  keys := numbers keys

/-- The browser computes the report of the device. -/
theorem simulate_eq {state : JetKvm.KeysDownState}
    (h : state.keys.length = JetKvm.hidKeyBufferSize) :
  simulateDeviceSideKeyHandlingForLegacyDevices (inNumbers state.modifier state.keys) key.toNat
      press
    = inNumbers (state.after key press).1 (state.after key press).2
  := by
  simp only [simulateDeviceSideKeyHandlingForLegacyDevices, inNumbers,
    hidKeyToModifierMask_lookup]
  cases hmask : keyCodeToMaskMap.lookup key with
  | some mask =>
      have hne : (mask.toNat : Int) ≠ 0 := by
        have hmask := keyCodeToMaskMap_ne_zero _ (mem_of_lookup hmask)
        intro hzero
        apply hmask
        apply UInt8.toNat_inj.mp
        exact_mod_cast hzero
      rw [Option.map_some, Option.getD_some, if_pos hne, Word.or32_toNat,
        Word.and32_not32_toNat]
      simp only [JetKvm.KeysDownState.after, hmask]
      cases press <;> rfl
  | none =>
      rw [Option.map_none, Option.getD_none, if_neg (not_not_intro rfl), findKeySlot_numbers h]
      simp only [JetKvm.KeysDownState.after, hmask, bufferAfter]
      cases updateSlot key press state.keys with
      | some keys => rfl
      | none =>
          cases press with
          | true =>
              simp only [Option.map_none, if_true, numbers, List.map_const',
                List.map_replicate, h]
              rfl
          | false => rfl

/-! ### What is kept -/

namespace LegacyKeyboard

variable {b : LegacyKeyboard} {number : Int}

/-- Changing the array in place changes the reset state if the array is the one of the reset
state. -/
theorem setKeys_resetKeys (b : LegacyKeyboard) (keys : List Int) :
  (b.setKeys keys).resetKeys = if b.ownKeys.isSome then b.resetKeys else keys
  := by
  obtain ⟨modifier, _ | own, reset⟩ := b <;> rfl

@[simp]
theorem setKeys_ownKeys_isSome (b : LegacyKeyboard) (keys : List Int) :
  (b.setKeys keys).ownKeys.isSome = b.ownKeys.isSome
  := by
  obtain ⟨modifier, _ | own, reset⟩ := b <;> rfl

/-- The first report for a key is the state that is computed. -/
theorem handleKeyPress_head? (hkey : number ≠ 0) :
  (b.handleKeyPress number press).2.head?
    = some (simulateDeviceSideKeyHandlingForLegacyDevices b.keysDownState number press)
  := by
  rw [handleKeyPress, if_neg hkey]
  dsimp only
  split <;> rfl

/-- Without an overflow the state that is computed is kept. -/
theorem handleKeyPress_kept (hkey : number ≠ 0) {state : KeysDownState}
    (hstate : simulateDeviceSideKeyHandlingForLegacyDevices b.keysDownState number press = state)
    (hfirst : state.keys.head? ≠ some hidErrorRollOver) :
  (b.handleKeyPress number press).1.keysDownState = state
  := by
  rw [handleKeyPress, if_neg hkey, hstate]
  dsimp only
  rw [if_neg hfirst]
  obtain ⟨modifier, keys⟩ := state
  have hkeys := setKeys_keys b keys
  simp only [keysDownState, LegacyKeyboard.keys] at hkeys ⊢
  rw [hkeys]

/-- After an overflow the modifiers are reset, and the keys to the content of the reset state,
which has been changed before if it is the array of the state. -/
theorem handleKeyPress_reset (hkey : number ≠ 0) {state : KeysDownState}
    (hstate : simulateDeviceSideKeyHandlingForLegacyDevices b.keysDownState number press = state)
    (hfirst : state.keys.head? = some hidErrorRollOver) :
  (b.handleKeyPress number press).1.keysDownState
    = { modifier := 0, keys := if b.ownKeys.isSome then b.resetKeys else state.keys }
  := by
  rw [handleKeyPress, if_neg hkey, hstate]
  dsimp only
  rw [if_pos hfirst, ← setKeys_resetKeys]
  rfl

/-- An overflow leaves the keys in the array of the reset state. -/
theorem handleKeyPress_shares (hkey : number ≠ 0) {state : KeysDownState}
    (hstate : simulateDeviceSideKeyHandlingForLegacyDevices b.keysDownState number press = state)
    (hfirst : state.keys.head? = some hidErrorRollOver) :
  (b.handleKeyPress number press).1.ownKeys = none
  := by
  rw [handleKeyPress, if_neg hkey, hstate]
  dsimp only
  rw [if_pos hfirst]
  rfl

/-- Keys in the array of the reset state stay there. -/
theorem handleKeyPress_shared (h : b.ownKeys = none) :
  (b.handleKeyPress number press).1.ownKeys = none
  := by
  rw [handleKeyPress]
  split
  · apply h
  · dsimp only
    split
    · rfl
    · dsimp only
      rw [setKeys, h]

/-- An array of its own stays out of the reset state. -/
theorem ResetsToZero.handleKeyPress (h : b.ResetsToZero) (number : Int) (press : Bool) :
  (b.handleKeyPress number press).1.ResetsToZero
  := by
  rw [LegacyKeyboard.handleKeyPress]
  split
  · apply h
  · dsimp only
    split
    · intro hown
      cases hown
    · intro hown
      dsimp only at hown ⊢
      rw [setKeys_ownKeys_isSome] at hown
      rw [setKeys_resetKeys, if_pos hown]
      apply h hown

end LegacyKeyboard

end JetKvm.Browser

namespace JetKvm

/-- A buffer without a non-zero byte after a zero byte holds the bytes before the first zero. -/
theorem exists_held {keys : List UInt8} (h : keys.Pairwise fun a b => a = 0 → b = 0) :
  ∃ held n, keys = held ++ List.replicate n 0 ∧ 0 ∉ held
  := by
  induction keys with
  | nil => exact ⟨[], 0, rfl, List.not_mem_nil⟩
  | cons k keys ih =>
      obtain ⟨hk, hkeys⟩ := List.pairwise_cons.mp h
      by_cases hzero : k = 0
      · use [], keys.length + 1
        constructor
        · rw [List.nil_append, List.replicate_succ, hzero, List.cons_inj_right]
          apply List.eq_replicate_of_mem
          intro b hb
          apply hk b hb hzero
        · apply List.not_mem_nil
      · obtain ⟨held, n, rfl, hheld⟩ := ih hkeys
        use k :: held, n, rfl
        simp [hheld, Ne.symm hzero]

/-- Well-formed keys are six bytes without a non-zero byte after a zero byte whose first byte is
not `hidErrorRollOver`. -/
theorem wellFormed_iff {keys : List UInt8} :
  WellFormed keys ↔ keys.length = hidKeyBufferSize ∧
    (keys.Pairwise fun a b => a = 0 → b = 0) ∧ keys.head? ≠ some hidErrorRollOver
  := by
  constructor
  · rintro ⟨held, hholds, hfirst⟩
    use hholds.length_eq
    constructor
    · rw [hholds.eq, List.pairwise_append]
      constructor
      · apply List.pairwise_of_forall_mem_list
        intro a ha b _ hzero
        rw [hzero] at ha
        exact absurd ha hholds.zero_notMem
      · constructor
        · apply List.pairwise_replicate.mpr
          exact Or.inr fun _ => rfl
        · intro a ha b hb _
          exact List.eq_of_mem_replicate hb
    · rw [hholds.head?_eq]
      intro heq
      exact hfirst (Option.some.inj heq)
  · rintro ⟨hlength, hpairwise, hfirst⟩
    obtain ⟨held, n, rfl, hzero⟩ := exists_held hpairwise
    rw [List.length_append, List.length_replicate] at hlength
    have hholds : Holds (held ++ List.replicate n 0) held := by
      constructor
      · congr
        omega
      · omega
      · apply hzero
    use held, hholds
    intro heq
    apply hfirst
    rw [hholds.head?_eq, heq]

/-- The browser and the device, which handle the same key events. -/
structure KeyMirror where
  browser : Browser.LegacyKeyboard
  device : UsbGadget

/-- A report of the device in numbers. -/
def KeysDownState.inNumbers (state : KeysDownState) : Browser.KeysDownState :=
  Browser.inNumbers state.modifier state.keys

namespace KeyMirror

/-- Both handle an event. -/
def step (s : KeyMirror) (a : KeyEvent) : Option KeyMirror :=
  some
    { browser := (s.browser.handleKeyPress a.key.toNat a.press).1
      device := (s.device.keypressReport a.key a.press .written).1 }

/-- Both keep the same state of the keys. -/
def SameState (s : KeyMirror) : Prop :=
  s.browser.keysDownState = s.device.keysDownState.inNumbers

end KeyMirror

/-- Sequences of key events. -/
def keyMirrorLts : Lts KeyMirror KeyEvent :=
  Lts.ofStep KeyMirror.step

/-- The state that the browser computes and sends for an event is the report that the device
writes. -/
def SameReport (e : Lts.Transition KeyMirror KeyEvent) : Prop :=
  (e.before.browser.handleKeyPress e.action.key.toNat e.action.press).2.head?
    = (lastKeyboardReport e.after.device.hidg0).map KeysDownState.inNumbers

/-- The report of an event begins with `hidErrorRollOver`: a press finds no slot, or the key with
that code comes to be in the first slot. -/
def RollsOver (state : KeysDownState) (a : KeyEvent) : Prop :=
  isModifier a.key = false ∧
    ¬ (FindsSlot state.keys a.key a.press ∧ FirstSlotKept state.keys a.key a.press)

/-- When an event overflows the report, no modifier is down, and the browser does not keep the
keys in the array it resets them to. -/
def ResetsAlike (s : KeyMirror) (a : KeyEvent) : Prop :=
  RollsOver s.device.keysDownState a →
    s.device.keysDownState.modifier = 0 ∧ s.browser.ownKeys.isSome = true

variable {s t : KeyMirror} {a : KeyEvent} {state : KeysDownState}
  {e : Lts.Transition KeyMirror KeyEvent} {tr : List (Lts.Transition KeyMirror KeyEvent)}

/-- An event either overflows the report, and then it does not change the modifiers, or leaves
well-formed keys. -/
theorem WellFormed.event (h : WellFormed state.keys) (a : KeyEvent) :
  (RollsOver state a ∧ (state.after a.key a.press).1 = state.modifier ∧
      (state.after a.key a.press).2.length = hidKeyBufferSize ∧
      (state.after a.key a.press).2.head? = some hidErrorRollOver) ∨
    (¬ RollsOver state a ∧ WellFormed (state.after a.key a.press).2 ∧
      (state.after a.key a.press).2.head? ≠ some hidErrorRollOver)
  := by
  cases hmodifier : isModifier a.key with
  | true =>
      obtain ⟨mask, hmask⟩ := Option.isSome_iff_exists.mp hmodifier
      right
      rw [KeysDownState.after_modifier hmask]
      constructor
      · rintro ⟨hordinary, -⟩
        rw [hmodifier] at hordinary
        cases hordinary
      · exact ⟨h, (wellFormed_iff.mp h).2.2⟩
  | false =>
      rw [KeysDownState.after_ordinary hmodifier]
      obtain ⟨held, hholds, hfirst⟩ := h
      have hhead := hholds.head?_bufferAfter_iff hfirst a.key a.press
      by_cases hslot : FindsSlot state.keys a.key a.press ∧
          FirstSlotKept state.keys a.key a.press
      · right
        constructor
        · rintro ⟨-, hnot⟩
          exact hnot hslot
        · constructor
          · use heldAfter held a.key a.press, hholds.after hslot.1
            apply hholds.headD_heldAfter_ne hfirst hslot.2
          · rw [ne_eq, hhead]
            exact not_not_intro hslot
      · left
        have hlength : (bufferAfter state.keys a.key a.press).length = hidKeyBufferSize := by
          by_cases slot : FindsSlot state.keys a.key a.press
          · apply (hholds.after slot).length_eq
          · rw [hholds.overrun slot]
            rfl
        exact ⟨⟨hmodifier, hslot⟩, rfl, hlength, hhead.mpr hslot⟩

/-! ### One event -/

/-- The first of the numbers of bytes. -/
theorem numbers_head? (keys : List UInt8) (byte : UInt8) :
  (Browser.numbers keys).head? = some (byte.toNat : Int) ↔ keys.head? = some byte
  := by
  rw [List.head?_eq_getElem?, List.head?_eq_getElem?]
  apply Browser.numbers_getElem?

/-- The number of a key other than zero is not zero. -/
theorem toNat_ne_zero {key : UInt8} (h : key ≠ 0) :
  (key.toNat : Int) ≠ 0
  := by
  intro hzero
  apply h
  apply UInt8.toNat_inj.mp
  exact_mod_cast hzero

/-- The browser computes what the device computes from the same state. -/
theorem KeyMirror.SameState.simulate_eq (h : s.SameState)
    (hkeys : WellFormed s.device.keysDownState.keys) (a : KeyEvent) :
  Browser.simulateDeviceSideKeyHandlingForLegacyDevices s.browser.keysDownState a.key.toNat
      a.press
    = Browser.inNumbers (s.device.keysDownState.after a.key a.press).1
        (s.device.keysDownState.after a.key a.press).2
  := by
  rw [h]
  apply Browser.simulate_eq (wellFormed_iff.mp hkeys).1

/-- The report of the device for an event that leaves six slots is the state that the browser
computes. -/
theorem sameReport (step : keyMirrorLts.step e.before e.action e.after)
    (same : e.before.SameState) (hkeys : WellFormed e.before.device.keysDownState.keys)
    (hkey : e.action.key ≠ 0) (hmedia : isKeyboardMediaKey e.action.key = false) :
  SameReport e
  := by
  obtain ⟨s, a, t⟩ := e
  dsimp only at *
  obtain rfl := Option.some.inj step
  have hlength : (s.device.keysDownState.after a.key a.press).2.length = hidKeyBufferSize := by
    rcases hkeys.event a with ⟨-, -, hlength, -⟩ | ⟨-, hafter, -⟩
    · apply hlength
    · apply (wellFormed_iff.mp hafter).1
  rw [SameReport, Browser.LegacyKeyboard.handleKeyPress_head? (toNat_ne_zero hkey),
    same.simulate_eq hkeys a, UsbGadget.keypressReport_lastKeyboardReport hmedia,
    Option.map_some, List.take_of_length_le hlength.le]
  rfl

/-- What the browser keeps after an overflow is what the device keeps exactly when no modifier is
down and the array of the keys is not the one of the reset state. -/
theorem reset_same_iff {modifier : UInt8} {keys : List UInt8} {b : Browser.LegacyKeyboard}
    (ready : b.ResetsToZero) (hfirst : keys.head? = some hidErrorRollOver) :
  ({ modifier := 0, keys := if b.ownKeys.isSome then b.resetKeys else Browser.numbers keys } :
      Browser.KeysDownState) = KeysDownState.inNumbers { modifier, keys := noKeys } ↔
    modifier = 0 ∧ b.ownKeys.isSome = true
  := by
  simp only [KeysDownState.inNumbers, Browser.inNumbers, Browser.KeysDownState.mk.injEq]
  apply and_congr
  · rw [eq_comm]
    exact ⟨fun h => by_contra fun hne => toNat_ne_zero hne h, fun h => h ▸ rfl⟩
  · by_cases hown : b.ownKeys.isSome = true
    · rw [if_pos hown, ready hown]
      exact iff_of_true rfl hown
    · rw [if_neg hown, Browser.numbers_inj]
      apply iff_of_false _ hown
      rintro rfl
      cases hfirst

/-- What both do with an event, starting from the same state. -/
theorem keyMirror_step (step : keyMirrorLts.step e.before e.action e.after)
    (same : e.before.SameState) (hkeys : WellFormed e.before.device.keysDownState.keys)
    (ready : e.before.browser.ResetsToZero) (hkey : e.action.key ≠ 0)
    (hmedia : isKeyboardMediaKey e.action.key = false) :
  (e.after.SameState ↔ ResetsAlike e.before e.action) ∧
    WellFormed e.after.device.keysDownState.keys ∧ e.after.browser.ResetsToZero
  := by
  obtain ⟨s, a, t⟩ := e
  dsimp only at *
  obtain rfl := Option.some.inj step
  have hstate := same.simulate_eq hkeys a
  have hnumber := toNat_ne_zero hkey
  have hready := ready.handleKeyPress a.key.toNat a.press
  simp only [KeyMirror.SameState, UsbGadget.keypressReport_keysDownState hmedia]
  rcases hkeys.event a with ⟨hrolls, hmodifier, hlength, hfirst⟩ | ⟨hrolls, hafter, hfirst⟩
  · have hcleared : clearRollOver (s.device.keysDownState.after a.key a.press).2 = noKeys := by
      rw [clearRollOver, if_pos hfirst, List.map_const', hlength]
      rfl
    rw [hcleared, hmodifier]
    refine ⟨?_, wellFormed_noKeys, hready⟩
    rw [Browser.LegacyKeyboard.handleKeyPress_reset hnumber hstate
      ((numbers_head? _ hidErrorRollOver).mpr hfirst), ResetsAlike, imp_iff_right hrolls]
    apply reset_same_iff ready hfirst
  · have hkept : clearRollOver (s.device.keysDownState.after a.key a.press).2
        = (s.device.keysDownState.after a.key a.press).2 := if_neg hfirst
    rw [hkept]
    refine ⟨?_, hafter, hready⟩
    rw [Browser.LegacyKeyboard.handleKeyPress_kept hnumber hstate
      ((numbers_head? _ hidErrorRollOver).not.mpr hfirst)]
    exact iff_of_true rfl fun h => absurd h hrolls

/-! ### Sequences of events -/

/-- What a sequence of events starts from: the browser and the device keep the same well-formed
state, and the page resets the keys to zeros. -/
structure KeyMirror.Ready (s : KeyMirror) : Prop where
  same : s.SameState
  keys : WellFormed s.device.keysDownState.keys
  reset : s.browser.ResetsToZero

/-- In every sequence of events the browser and the device make the same reports and keep the
same states exactly when each overflow resets them alike. -/
theorem browser_agrees_iff (run : keyMirrorLts.Run s tr t) (ready : s.Ready)
    (hkeys : ∀ e ∈ tr, e.action.key ≠ 0 ∧ isKeyboardMediaKey e.action.key = false) :
  (∀ e ∈ tr, SameReport e ∧ e.after.SameState) ↔ ∀ e ∈ tr, ResetsAlike e.before e.action
  := by
  constructor
  · intro hsame
    have hready := run.invariant_before ready (I := KeyMirror.Ready) fun e he h step =>
      have hafter := keyMirror_step step h.same h.keys h.reset (hkeys e he).1 (hkeys e he).2
      ⟨(hsame e he).2, hafter.2.1, hafter.2.2⟩
    intro e he
    have h := hready e he
    apply (keyMirror_step (run.step_of_mem he) h.same h.keys h.reset (hkeys e he).1
      (hkeys e he).2).1.mp (hsame e he).2
  · intro halike
    have hready := run.invariant_before ready (I := KeyMirror.Ready) fun e he h step =>
      have hafter := keyMirror_step step h.same h.keys h.reset (hkeys e he).1 (hkeys e he).2
      ⟨hafter.1.mpr (halike e he), hafter.2.1, hafter.2.2⟩
    intro e he
    have h := hready e he
    have step := run.step_of_mem he
    constructor
    · apply sameReport step h.same h.keys (hkeys e he).1 (hkeys e he).2
    · apply (keyMirror_step step h.same h.keys h.reset (hkeys e he).1 (hkeys e he).2).1.mpr
        (halike e he)

/-- A page that has been loaded, and a new gadget. -/
def KeyMirror.new : KeyMirror where
  browser := .load 0 (List.replicate hidKeyBufferSize 0)
  device := newUsbGadget

theorem KeyMirror.new_ready : KeyMirror.new.Ready
  := ⟨rfl, wellFormed_noKeys, fun _ => rfl⟩

/-- Seven keys are pressed, and after the overflow one of them again. -/
theorem browser_agrees_iff_overflow :
  ∃ tr t, keyMirrorLts.Run KeyMirror.new tr t ∧ t.device.keysDownState.keys = [5, 0, 0, 0, 0, 0] ∧
    ((∀ e ∈ tr, SameReport e ∧ e.after.SameState) ↔
      ∀ e ∈ tr, ResetsAlike e.before e.action)
  := by
  obtain ⟨tr, t, run, hactions, hobserve⟩ :=
    Lts.exists_run_of_observe KeyMirror.step KeyMirror.new
      [⟨4, true⟩, ⟨5, true⟩, ⟨6, true⟩, ⟨7, true⟩, ⟨8, true⟩, ⟨9, true⟩, ⟨10, true⟩, ⟨5, true⟩]
      (fun t => decide (t.device.keysDownState.keys = [5, 0, 0, 0, 0, 0]))
      (by decide +kernel : _ = some true)
  use tr, t, run, of_decide_eq_true hobserve
  apply browser_agrees_iff run KeyMirror.new_ready
  apply Lts.forall_action (fun a => a.key ≠ 0 ∧ isKeyboardMediaKey a.key = false) hactions
  decide

/-- Seven keys are pressed while the shift key is down. The browser takes it to be up after the
overflow, and the device does not. -/
theorem overflow_with_modifier_differs :
  ¬ ∀ (s t : KeyMirror) (tr : List (Lts.Transition KeyMirror KeyEvent)),
    s.Ready → keyMirrorLts.Run s tr t →
    (∀ e ∈ tr, e.action.key ≠ 0 ∧ isKeyboardMediaKey e.action.key = false) →
    ∀ e ∈ tr, SameReport e ∧ e.after.SameState
  := by
  intro claim
  obtain ⟨tr, t, run, hactions, hobserve⟩ :=
    Lts.exists_run_of_observe KeyMirror.step KeyMirror.new
      [⟨0xE1, true⟩, ⟨4, true⟩, ⟨5, true⟩, ⟨6, true⟩, ⟨7, true⟩, ⟨8, true⟩, ⟨9, true⟩,
        ⟨10, true⟩]
      (fun t => decide (t.browser.modifier = 0 ∧ t.device.keysDownState.modifier = 0x02))
      (by decide +kernel : _ = some true)
  obtain ⟨hbrowser, hdevice⟩ := of_decide_eq_true hobserve
  have hkeys := Lts.forall_action
    (fun a => a.key ≠ 0 ∧ isKeyboardMediaKey a.key = false) hactions (by decide)
  have hsame : t.SameState := by
    apply run.invariant (I := KeyMirror.SameState) KeyMirror.new_ready.same
    intro e he _ _
    exact (claim _ t tr KeyMirror.new_ready run hkeys e he).2
  have hmodifier := congrArg Browser.KeysDownState.modifier hsame
  rw [Browser.LegacyKeyboard.keysDownState, hbrowser, KeysDownState.inNumbers, hdevice] at hmodifier
  cases hmodifier

/-! ### The array of the reset state -/

/-- In a sequence of events in which the browser and the device keep the same states, at most one
event overflows the report. After it the browser keeps the keys in the array of the reset state. -/
theorem overflows_once {front back : List (Lts.Transition KeyMirror KeyEvent)}
    (run : keyMirrorLts.Run s (front ++ e :: back) t) (ready : s.Ready)
    (hkeys : ∀ e' ∈ front ++ e :: back,
      e'.action.key ≠ 0 ∧ isKeyboardMediaKey e'.action.key = false)
    (hsame : ∀ e' ∈ front ++ e :: back, SameReport e' ∧ e'.after.SameState)
    (hrolls : RollsOver e.before.device.keysDownState e.action) :
  ∀ e' ∈ back, ¬ RollsOver e'.before.device.keysDownState e'.action
  := by
  have halike := (browser_agrees_iff run ready hkeys).mp hsame
  have hready := run.invariant_before ready (I := KeyMirror.Ready) fun e he h step =>
    have hafter := keyMirror_step step h.same h.keys h.reset (hkeys e he).1 (hkeys e he).2
    ⟨(hsame e he).2, hafter.2.1, hafter.2.2⟩
  obtain ⟨u, -, hback⟩ := Lts.run_append run
  obtain ⟨rfl, step, hrest⟩ := Lts.run_cons hback
  have hmem : e ∈ front ++ e :: back := by simp
  have hshares : e.after.browser.ownKeys = none := by
    have h := hready e hmem
    have hsimulate := h.same.simulate_eq h.keys e.action
    rcases h.keys.event e.action with ⟨-, -, -, hfirst⟩ | ⟨hnot, -⟩
    · rw [← Option.some.inj step]
      apply Browser.LegacyKeyboard.handleKeyPress_shares (toNat_ne_zero (hkeys e hmem).1)
        hsimulate ((numbers_head? _ hidErrorRollOver).mpr hfirst)
    · exact absurd hrolls hnot
  have hshared : ∀ e' ∈ back, e'.before.browser.ownKeys = none := by
    apply hrest.invariant_before (I := fun s => s.browser.ownKeys = none) hshares
    intro e' _ hbefore step
    rw [← Option.some.inj step]
    apply Browser.LegacyKeyboard.handleKeyPress_shared hbefore
  intro e' he' hagain
  have hown := (halike e' (by simp [he']) hagain).2
  rw [hshared e' he'] at hown
  cases hown

end JetKvm
