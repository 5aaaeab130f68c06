import JetKvm.Library.Word
import Mathlib.Data.List.Basic

/-!
# HID-RPC messages in the browser

The message classes of the browser. A number is an integer; the bit operations bring it
into the range of 32 bits first, and a `Uint8Array` keeps the low byte of each number it
is made of. What throws in the source is an error with the same text here.
-/

namespace JetKvm.Browser

/-- A `Uint8Array` made of numbers. -/
def uint8Array (numbers : List Int) : List UInt8 :=
  numbers.map Word.toByte

/-- The numbers a `Uint8Array` is made of. -/
def numbers (bytes : List UInt8) : List Int :=
  bytes.map fun byte => byte.toNat

/-- Copies bytes into an array at an offset. -/
def setBytes (data bytes : List UInt8) (offset : Nat) : Except String (List UInt8) :=
  if offset + bytes.length ≤ data.length then
    .ok (data.take offset ++ (bytes ++ data.drop (offset + bytes.length)))
  else .error "offset is out of bounds"

/-! ### Message types -/

namespace MessageTypes

def handshake : UInt8 := 0x01
def keyboardReport : UInt8 := 0x02
def pointerReport : UInt8 := 0x03
def wheelReport : UInt8 := 0x04
def keypressReport : UInt8 := 0x05
def keypressKeepAliveReport : UInt8 := 0x09
def mouseReport : UInt8 := 0x06
def keyboardMacroReport : UInt8 := 0x07
def cancelKeyboardMacroReport : UInt8 := 0x08
def keyboardLedState : UInt8 := 0x32
def keysDownState : UInt8 := 0x33
def keyboardMacroState : UInt8 := 0x34

end MessageTypes

/-- The array of a message: its type and the numbers of its payload. -/
def typed (messageType : UInt8) (payload : List Int) : List UInt8 :=
  uint8Array (messageType.toNat :: payload)

/-- The number of key slots of a macro step. -/
def hidKeyBufferSize : Nat := 6

/-! ### Ranges -/

/-- A number is a byte. -/
def withinUint8Range (value : Int) : Prop :=
  value ≥ 0 ∧ value ≤ 255

instance (value : Int) : Decidable (withinUint8Range value) :=
  inferInstanceAs (Decidable (_ ∧ _))

/-- A signed number in four bytes, the highest first. -/
def fromInt32toUint8 (n : Int) : Except String (List UInt8) :=
  if n ≠ Word.shr32 n 0 then .error s!"Number {n} is not within the int32 range"
  else
    .ok (uint8Array [Word.and32 (Word.shr32 n 24) 0xff, Word.and32 (Word.shr32 n 16) 0xff,
      Word.and32 (Word.shr32 n 8) 0xff, Word.and32 n 0xff])

/-- An unsigned number in two bytes. -/
def fromUint16toUint8 (n : Int) : Except String (List UInt8) :=
  if n > 65535 ∨ n < 0 then .error s!"Number {n} is not within the uint16 range"
  else .ok (uint8Array [Word.and32 (Word.shr32 n 8) 0xff, Word.and32 n 0xff])

/-- An unsigned number in four bytes. -/
def fromUint32toUint8 (n : Int) : Except String (List UInt8) :=
  if n > 4294967295 ∨ n < 0 then .error s!"Number {n} is not within the uint32 range"
  else
    .ok (uint8Array [Word.and32 (Word.shr32 n 24) 0xff, Word.and32 (Word.shr32 n 16) 0xff,
      Word.and32 (Word.shr32 n 8) 0xff, Word.and32 n 0xff])

/-- A signed number in one byte. -/
def fromInt8ToUint8 (n : Int) : Except String Int :=
  if n < -128 ∨ n > 127 then .error s!"Number {n} is not within the int8 range"
  else .ok (Word.and32 n 0xff)

/-- Throws at the first key that is not a byte. -/
def checkKeys (keys : List Int) : Except String Unit :=
  match keys.find? fun k => ¬ withinUint8Range k with
  | some k => .error s!"Key {k} is not within the uint8 range"
  | none => .ok ()

/-- Throws when the modifier is not a byte. -/
def checkModifier (modifier : Int) : Except String Unit :=
  if withinUint8Range modifier then .ok ()
  else .error s!"Modifier {modifier} is not within the uint8 range"

/-! ### Messages to the device -/

/-- A key that is pressed or let go. -/
structure KeypressReportMessage where
  key : Int
  press : Bool

/-- The constructor refuses a key that is not a byte. -/
def KeypressReportMessage.new (key : Int) (press : Bool) : Except String KeypressReportMessage :=
  if withinUint8Range key then .ok { key, press }
  else .error s!"Key {key} is not within the uint8 range"

/-- The type, the key, and whether it is pressed. -/
def KeypressReportMessage.marshal (m : KeypressReportMessage) : List UInt8 :=
  typed MessageTypes.keypressReport [m.key, if m.press then 1 else 0]

/-- The keys that are down, and the modifiers. -/
structure KeyboardReportMessage where
  keys : List Int
  modifier : Int

/-- The constructor refuses keys and modifiers that are not bytes. -/
def KeyboardReportMessage.new (keys : List Int) (modifier : Int) :
    Except String KeyboardReportMessage := do
  checkKeys keys
  checkModifier modifier
  return { keys, modifier }

/-- The type, the modifiers, and the keys. -/
def KeyboardReportMessage.marshal (m : KeyboardReportMessage) : List UInt8 :=
  typed MessageTypes.keyboardReport (m.modifier :: m.keys)

/-- A place of the pointer, and the buttons. -/
structure PointerReportMessage where
  x : Int
  y : Int
  buttons : Int

/-- The type, the place in two times four bytes, and the buttons. -/
def PointerReportMessage.marshal (m : PointerReportMessage) : Except String (List UInt8) := do
  let x ← fromInt32toUint8 m.x
  let y ← fromInt32toUint8 m.y
  return typed MessageTypes.pointerReport (numbers x ++ numbers y ++ [m.buttons])

/-- A movement of the pointer, and the buttons. -/
structure MouseReportMessage where
  dx : Int
  dy : Int
  buttons : Int

/-- The type, the movement in two bytes, and the buttons. -/
def MouseReportMessage.marshal (m : MouseReportMessage) : Except String (List UInt8) := do
  let dx ← fromInt8ToUint8 m.dx
  let dy ← fromInt8ToUint8 m.dy
  return typed MessageTypes.mouseReport [dx, dy, m.buttons]

/-- The keys of a step, and how long they are held. -/
structure KeyboardMacroStep where
  modifier : Int
  keys : List Int
  delay : Int

/-- The keys of a step, padded with zeros. -/
def KeyboardMacroStep.padded (step : KeyboardMacroStep) : Except String (List Int) :=
  if step.keys.length > hidKeyBufferSize then
    let keys := String.intercalate "," (step.keys.map toString)
    .error s!"Keys {keys} is not within the hidKeyBufferSize range"
  else .ok (step.keys ++ List.replicate (hidKeyBufferSize - step.keys.length) 0)

/-- The nine bytes of a step. -/
def KeyboardMacroStep.marshal (step : KeyboardMacroStep) : Except String (List UInt8) := do
  checkModifier step.modifier
  let keys ← step.padded
  checkKeys keys
  let delay ← fromUint16toUint8 step.delay
  return uint8Array ([step.modifier] ++ keys ++ numbers delay)

/-- The steps of a macro, and their number. -/
structure KeyboardMacroReportMessage where
  isPaste : Bool
  stepCount : Int
  steps : List KeyboardMacroStep

/-- The loop of `marshal`: copies the bytes of the steps into `data` at a running offset. -/
def setSteps (data : List UInt8) (offset : Nat) :
    List KeyboardMacroStep → Except String (List UInt8)
  | [] => return data
  | step :: steps => do
      let macroBinary ← step.marshal
      let data ← setBytes data macroBinary offset
      setSteps data (offset + 9) steps

/-- The header, and nine bytes for every step. -/
def KeyboardMacroReportMessage.marshal (m : KeyboardMacroReportMessage) :
    Except String (List UInt8) := do
  if m.stepCount ≠ m.steps.length then
    throw s!"Length {m.stepCount} is not equal to the number of steps {m.steps.length}"
  let data := List.replicate (m.stepCount * 9 + 6).toNat 0
  let stepCount ← fromUint32toUint8 m.stepCount
  let data ← setBytes data
    (typed MessageTypes.keyboardMacroReport ((if m.isPaste then 1 else 0) :: numbers stepCount)) 0
  setSteps data 6 m.steps

/-! ### Messages from the device -/

/-- The keys that the device says are down. -/
structure KeysDownState where
  modifier : Int
  keys : List Int

/-- The lights of the keyboard. -/
structure KeyboardLedState where
  numLock : Bool
  capsLock : Bool
  scrollLock : Bool
  compose : Bool
  kana : Bool
  shift : Bool

/-- Whether the bit at a position of a number is set. -/
def testMask (s : Int) (position : Nat) : Bool :=
  Word.and32 s (2 ^ position) ≠ 0

/-- What a message from the device is read as. -/
inductive RpcMessage where
  | handshake (version : Int)
  | keypressReport (m : KeypressReportMessage)
  | keyboardReport (m : KeyboardReportMessage)
  | keyboardMacroState (state isPaste : Bool)
  | keyboardLedState (state : KeyboardLedState)
  | keysDownState (state : KeysDownState)

/-- Reads a payload, which needs at least one byte. -/
def unmarshalPayload (what : String) (data : List UInt8)
    (read : UInt8 → List UInt8 → Except String RpcMessage) : Except String RpcMessage :=
  match data with
  | [] => .error s!"Invalid {what} length: {0}"
  | byte :: rest => read byte rest

/-- The version is in the first byte. -/
def unmarshalHandshake (data : List UInt8) : Except String RpcMessage :=
  unmarshalPayload "handshake message" data fun version _ => .ok (.handshake version.toNat)

/-- The key comes before the flag that says whether it is pressed. -/
def unmarshalKeypressReport (data : List UInt8) : Except String RpcMessage :=
  unmarshalPayload "keypress report message" data fun key rest => do
    let m ← KeypressReportMessage.new key.toNat (rest.head? = some 1)
    return .keypressReport m

/-- The modifiers come before the keys. -/
def unmarshalKeyboardReport (data : List UInt8) : Except String RpcMessage :=
  unmarshalPayload "keyboard report message" data fun modifier keys => do
    let m ← KeyboardReportMessage.new (numbers keys) modifier.toNat
    return .keyboardReport m

/-- Two flags, each in a byte. -/
def unmarshalKeyboardMacroState (data : List UInt8) : Except String RpcMessage :=
  unmarshalPayload "keyboard macro state report message" data fun state rest =>
    .ok (.keyboardMacroState (state = 1) (rest.head? = some 1))

/-- The lights are the bits of one byte. -/
def unmarshalKeyboardLedState (data : List UInt8) : Except String RpcMessage :=
  unmarshalPayload "keyboard led state message" data fun byte _ =>
    let s : Int := byte.toNat
    .ok (.keyboardLedState
      { numLock := testMask s 0, capsLock := testMask s 1, scrollLock := testMask s 2,
        compose := testMask s 3, kana := testMask s 4, shift := testMask s 6 })

/-- The modifiers come before the keys. -/
def unmarshalKeysDownState (data : List UInt8) : Except String RpcMessage :=
  unmarshalPayload "keys down state message" data fun modifier keys =>
    .ok (.keysDownState { modifier := modifier.toNat, keys := numbers keys })

/-- Reads a message. The classes of the last three types have no `unmarshal` of their own. -/
def unmarshalHidRpcMessage : List UInt8 → Except String RpcMessage
  | [] => .error s!"Invalid HID RPC message length: {0}"
  | messageType :: payload =>
      if messageType = MessageTypes.handshake then unmarshalHandshake payload
      else if messageType = MessageTypes.keysDownState then unmarshalKeysDownState payload
      else if messageType = MessageTypes.keyboardLedState then unmarshalKeyboardLedState payload
      else if messageType = MessageTypes.keyboardReport then unmarshalKeyboardReport payload
      else if messageType = MessageTypes.keypressReport then unmarshalKeypressReport payload
      else if messageType = MessageTypes.keyboardMacroState then
        unmarshalKeyboardMacroState payload
      else if messageType = MessageTypes.keyboardMacroReport
          ∨ messageType = MessageTypes.cancelKeyboardMacroReport
          ∨ messageType = MessageTypes.keypressKeepAliveReport then
        .error "Not implemented"
      else .error s!"Unknown HID RPC message type: {messageType}"

/-! ### What marshalling does in range -/

/-- Bytes that are read as numbers can be written again. -/
@[simp]
theorem uint8Array_numbers (bytes : List UInt8) :
  uint8Array (numbers bytes) = bytes
  := by
  rw [uint8Array, numbers, List.map_map]
  apply List.map_id''
  intro byte
  apply UInt8.toNat_inj.mp
  have h := Word.toNat_toByte byte.toNat
  have hlt := byte.toNat_lt
  simp only [Function.comp_apply]
  omega

/-- Bytes made of numbers in range are these numbers. -/
theorem numbers_uint8Array {ns : List Int} (h : ∀ n ∈ ns, withinUint8Range n) :
  numbers (uint8Array ns) = ns
  := by
  rw [uint8Array, numbers, List.map_map]
  calc ns.map _ = ns.map id := by
        apply List.map_congr_left
        intro n hn
        obtain ⟨hlow, hhigh⟩ := h n hn
        rw [Function.comp_apply, Word.toNat_toByte, id]
        omega
    _ = ns := List.map_id ns

/-- A number that is a byte is not changed. -/
theorem toNat_toByte_of_mem {n : Int} (h : withinUint8Range n) :
  ((Word.toByte n).toNat : Int) = n
  := by
  obtain ⟨hlow, hhigh⟩ := h
  rw [Word.toNat_toByte]
  omega

/-- Arrays are written one after the other. -/
theorem uint8Array_append (ms ns : List Int) :
  uint8Array (ms ++ ns) = uint8Array ms ++ uint8Array ns
  := List.map_append

/-- Every number is one byte. -/
@[simp]
theorem length_uint8Array (ns : List Int) : (uint8Array ns).length = ns.length
  := List.length_map _

theorem uint8Array_cons (n : Int) (ns : List Int) :
  uint8Array (n :: ns) = Word.toByte n :: uint8Array ns
  := rfl

/-- The byte of a flag. -/
theorem toByte_flag (flag : Bool) :
  Word.toByte (if flag then 1 else 0) = if flag then 1 else 0
  := by
  cases flag <;> rfl

/-- A message begins with its type. -/
theorem typed_eq (messageType : UInt8) (payload : List Int) :
  typed messageType payload = messageType :: uint8Array payload
  := by
  have h := uint8Array_numbers [messageType]
  rw [typed, ← List.singleton_append, uint8Array_append]
  rw [numbers, List.map_singleton] at h
  rw [h, List.singleton_append]

/-- A signed number that fits is written as its word. -/
theorem fromInt32toUint8_of_mem {n : Int} (hlow : -2 ^ 31 ≤ n) (hhigh : n < 2 ^ 31) :
  fromInt32toUint8 n = .ok (Word.word32 n)
  := by
  rw [fromInt32toUint8, if_neg]
  · rfl
  · rw [Word.shr32_eq, Word.wrap32_of_mem hlow hhigh]
    simp

/-- So is an unsigned one. -/
theorem fromUint32toUint8_of_mem {n : Int} (hlow : 0 ≤ n) (hhigh : n < 2 ^ 32) :
  fromUint32toUint8 n = .ok (Word.word32 n)
  := by
  rw [fromUint32toUint8, if_neg (by omega)]
  rfl

/-- So is one of two bytes. -/
theorem fromUint16toUint8_of_mem {n : Int} (hlow : 0 ≤ n) (hhigh : n < 2 ^ 16) :
  fromUint16toUint8 n = .ok (Word.word16 n)
  := by
  rw [fromUint16toUint8, if_neg (by omega)]
  rfl

/-- A signed number that fits into a byte is written as its residue. -/
theorem fromInt8ToUint8_of_mem {n : Int} (hlow : -2 ^ 7 ≤ n) (hhigh : n < 2 ^ 7) :
  fromInt8ToUint8 n = .ok (n % 256)
  := by
  rw [fromInt8ToUint8, if_neg (by omega), Word.and32_255]

/-- Keys that are bytes pass the check. -/
theorem checkKeys_of_mem {keys : List Int} (h : ∀ k ∈ keys, withinUint8Range k) :
  checkKeys keys = .ok ()
  := by
  have hnone : keys.find? (fun k => ¬ withinUint8Range k) = none := by
    apply List.find?_eq_none.mpr
    intro k hk
    simp [h k hk]
  rw [checkKeys, hnone]

/-- Modifiers that are a byte pass the check. -/
theorem checkModifier_of_mem {modifier : Int} (h : withinUint8Range modifier) :
  checkModifier modifier = .ok ()
  := if_pos h

/-! ### Marshalling a macro -/

/-- The fields of a step are in range. -/
structure KeyboardMacroStep.InRange (step : KeyboardMacroStep) : Prop where
  modifier : withinUint8Range step.modifier
  length_le : step.keys.length ≤ hidKeyBufferSize
  keys : ∀ k ∈ step.keys, withinUint8Range k
  delay : 0 ≤ step.delay ∧ step.delay < 2 ^ 16

/-- The six keys of a step. -/
def KeyboardMacroStep.slots (step : KeyboardMacroStep) : List Int :=
  step.keys ++ List.replicate (hidKeyBufferSize - step.keys.length) 0

/-- The bytes of a step whose fields are in range. -/
def KeyboardMacroStep.bytes (step : KeyboardMacroStep) : List UInt8 :=
  Word.toByte step.modifier :: (uint8Array step.slots ++ Word.word16 step.delay)

namespace KeyboardMacroStep.InRange

variable {step : KeyboardMacroStep}

/-- The slots of a step are bytes, as zeros are. -/
theorem slots_mem (h : step.InRange) :
  ∀ k ∈ step.slots, withinUint8Range k
  := by
  intro k hk
  rcases List.mem_append.mp hk with hk | hk
  · apply h.keys k hk
  · rw [List.eq_of_mem_replicate hk]
    decide

/-- A step always has six slots. -/
theorem slots_length (h : step.InRange) :
  step.slots.length = hidKeyBufferSize
  := by
  have hle := h.length_le
  rw [slots, List.length_append, List.length_replicate]
  omega

/-- A step always takes nine bytes. -/
theorem bytes_length (h : step.InRange) :
  step.bytes.length = 9
  := by
  rw [bytes, List.length_cons, List.length_append, length_uint8Array, h.slots_length]
  rfl

/-- A step that is in range is written as its bytes. -/
theorem marshal (h : step.InRange) :
  step.marshal = .ok step.bytes
  := by
  have hpadded : step.padded = .ok step.slots := if_neg (Nat.not_lt.mpr h.length_le)
  rw [KeyboardMacroStep.marshal, checkModifier_of_mem h.modifier, hpadded]
  dsimp only [bind, Except.bind]
  rw [checkKeys_of_mem h.slots_mem, fromUint16toUint8_of_mem h.delay.1 h.delay.2]
  dsimp only
  rw [uint8Array_append, uint8Array_append, uint8Array_numbers]
  rfl

end KeyboardMacroStep.InRange

/-- Bytes copied to an offset follow what was before it. -/
theorem setBytes_of_le (data bytes : List UInt8) (offset : Nat)
    (h : offset + bytes.length ≤ data.length) :
  ∃ data', setBytes data bytes offset = .ok data' ∧ data'.length = data.length ∧
    data'.take (offset + bytes.length) = data.take offset ++ bytes
  := by
  use data.take offset ++ (bytes ++ data.drop (offset + bytes.length)), if_pos h
  constructor
  · simp
    omega
  · rw [← List.append_assoc]
    apply List.take_left'
    simp
    omega

/-- The loop puts the bytes of the steps behind what was before its first offset. -/
theorem setSteps_of_le {steps : List KeyboardMacroStep} {data : List UInt8} {offset : Nat}
    (hsteps : ∀ step ∈ steps, step.InRange) (h : offset + 9 * steps.length = data.length) :
  setSteps data offset steps
    = .ok (data.take offset ++ steps.flatMap KeyboardMacroStep.bytes)
  := by
  induction steps generalizing data offset with
  | nil =>
      have hlength : data.take offset = data := List.take_of_length_le (by simp at h; omega)
      rw [List.flatMap_nil, List.append_nil, hlength]
      rfl
  | cons step steps ih =>
      have hstep := hsteps step List.mem_cons_self
      have hbytes := hstep.bytes_length
      rw [List.length_cons] at h
      obtain ⟨data', hset, hlength, htake⟩ :=
        setBytes_of_le data step.bytes offset (by omega)
      rw [setSteps, hstep.marshal]
      dsimp only [bind, Except.bind]
      rw [hset]
      dsimp only
      rw [ih (fun s hs => hsteps s (List.mem_cons_of_mem _ hs)) (by omega), ← hbytes, htake,
        List.flatMap_cons, List.append_assoc]

/-- The bytes of a macro whose fields are in range. -/
theorem marshal_macro {steps : List KeyboardMacroStep} (isPaste : Bool)
    (hsteps : ∀ step ∈ steps, step.InRange) (hcount : steps.length * 9 + 5 < 2 ^ 31) :
  KeyboardMacroReportMessage.marshal ⟨isPaste, steps.length, steps⟩
    = .ok (MessageTypes.keyboardMacroReport :: (if isPaste then 1 else 0) ::
        (Word.word32 steps.length ++ steps.flatMap KeyboardMacroStep.bytes))
  := by
  have hheader : typed MessageTypes.keyboardMacroReport
        ((if isPaste then 1 else 0) :: numbers (Word.word32 steps.length))
      = MessageTypes.keyboardMacroReport :: (if isPaste then 1 else 0) ::
          Word.word32 steps.length := by
    rw [typed_eq, uint8Array_cons, toByte_flag, uint8Array_numbers]
  obtain ⟨data, hset, hlength, htake⟩ :=
    setBytes_of_le (List.replicate (steps.length * 9 + 6 : Int).toNat 0)
      (MessageTypes.keyboardMacroReport :: (if isPaste then 1 else 0) ::
        Word.word32 steps.length) 0 (by simp [Word.word32]; omega)
  rw [List.length_replicate] at hlength
  rw [KeyboardMacroReportMessage.marshal]
  dsimp only [bind, Except.bind, pure, Except.pure]
  rw [if_neg (not_not_intro rfl), fromUint32toUint8_of_mem (by omega) (by omega)]
  dsimp only
  rw [hheader, hset]
  dsimp only
  rw [setSteps_of_le hsteps (by omega)]
  rw [List.take_zero, List.nil_append] at htake
  simp only [List.length_cons, Word.word32, List.length_nil] at htake
  rw [htake]
  rfl

end JetKvm.Browser
