import JetKvm.Keyboard.Gadget
import JetKvm.Library.Outcome
import JetKvm.Library.Word

/-!
# HID-RPC messages on the device

A message is a type byte and a payload. The accessors read the payload of a message of
their type; where the source indexes or slices the payload without a check, reading
outside it is a fault. `int` is the 32-bit integer of the device, to which the arithmetic
on lengths and coordinates wraps around.
-/

namespace JetKvm.HidRpc

/-- The type of a message. -/
abbrev MessageType := UInt8

def typeHandshake : MessageType := 0x01
def typeKeyboardReport : MessageType := 0x02
def typePointerReport : MessageType := 0x03
def typeWheelReport : MessageType := 0x04
def typeKeypressReport : MessageType := 0x05
def typeKeypressKeepAliveReport : MessageType := 0x09
def typeMouseReport : MessageType := 0x06
def typeKeyboardMacroReport : MessageType := 0x07
def typeCancelKeyboardMacroReport : MessageType := 0x08
def typeKeyboardLedState : MessageType := 0x32
def typeKeydownState : MessageType := 0x33
def typeKeyboardMacroState : MessageType := 0x34

/-- The version of the HID-RPC protocol. -/
def version : UInt8 := 0x01

/-- A message: its type `t` and its payload `d`. -/
structure Message where
  t : MessageType
  d : List UInt8
deriving DecidableEq, Repr

/-- Splits the type from the payload. -/
def unmarshal : List UInt8 → Except String Message
  | [] => .error s!"invalid data length: {0}"
  | t :: d => .ok { t, d }

/-- The bytes of a message. -/
def marshal (message : Message) : Except String (List UInt8) :=
  if message.t = 0 then .error s!"invalid message type: {message.t}"
  else .ok (message.t :: message.d)

/-! ### Messages from the browser -/

/-- A key that is pressed or let go. -/
structure KeypressReport where
  key : UInt8
  press : Bool
deriving DecidableEq, Repr

/-- The keys that are down, and the modifiers. -/
structure KeyboardReport where
  modifier : UInt8
  keys : List UInt8
deriving DecidableEq, Repr

/-- A step of a keyboard macro. -/
structure KeyboardMacroStep where
  modifier : UInt8
  keys : List UInt8
  delay : UInt16
deriving DecidableEq, Repr

/-- The steps of a macro, and how many there are said to be. -/
structure KeyboardMacroReport where
  isPaste : Bool
  stepCount : UInt32
  steps : List KeyboardMacroStep
deriving DecidableEq, Repr

/-- A place of the pointer, and the buttons. -/
structure PointerReport where
  x : Int
  y : Int
  button : UInt8
deriving DecidableEq, Repr

/-- A movement of the pointer, and the buttons. -/
structure MouseReport where
  dx : Int8
  dy : Int8
  button : UInt8
deriving DecidableEq

open Outcome (index slice)

namespace Message

/-- The error of an accessor that is given a message of another type. -/
def wrongType {α : Type} (m : Message) : Outcome α :=
  .error s!"invalid message type: {m.t}"

/-- The key and whether it is pressed, in two bytes. -/
def keypressReport (m : Message) : Outcome KeypressReport :=
  if m.t ≠ typeKeypressReport then m.wrongType
  else do
    let key ← index m.d 0
    let press ← index m.d 1
    return { key, press := press = 1 }

/-- The modifiers and the keys. -/
def keyboardReport (m : Message) : Outcome KeyboardReport :=
  if m.t ≠ typeKeyboardReport then m.wrongType
  else do
    let modifier ← index m.d 0
    let keys ← slice m.d 1 m.d.length
    return { modifier, keys }

/-- The loop of `keyboardMacroReport`: reads the remaining steps at a running offset. -/
def macroSteps (d : List UInt8) : Nat → Nat → Outcome (List KeyboardMacroStep)
  | 0, _ => return []
  | remaining + 1, offset => do
      let modifier ← index d offset
      let keys ← slice d (offset + 1) (offset + 7)
      let delay ← slice d (offset + 7) (offset + 9)
      let steps ← macroSteps d remaining (offset + (1 + hidKeyBufferSize + 2))
      return { modifier, keys, delay := .ofNat (Word.bigEndian delay) } :: steps

/-- Reads a macro. Its length is checked in `int`, and making room for a negative number of
steps stops the program. -/
def keyboardMacroReport (m : Message) : Outcome KeyboardMacroReport :=
  if m.t ≠ typeKeyboardMacroReport then m.wrongType
  else do
    let isPaste ← index m.d 0
    let count ← slice m.d 1 5
    let stepCount := UInt32.ofNat (Word.bigEndian count)
    let intStepCount := Word.wrap32 stepCount.toNat
    let expectedLength := Word.wrap32 (Word.wrap32 (intStepCount * 9) + 5)
    if (m.d.length : Int) ≠ expectedLength then
      .error s!"invalid length: {m.d.length}, expected: {expectedLength}"
    else if intStepCount < 0 then .fault
    else do
      let steps ← macroSteps m.d intStepCount.toNat 5
      return { isPaste := isPaste = 1, stepCount, steps }

/-- The integer of four bytes. -/
def toInt (b : List UInt8) : Outcome Int := do
  let b0 ← index b 0
  let b1 ← index b 1
  let b2 ← index b 2
  let b3 ← index b 3
  return Word.wrap32 (Word.wrap32 (Word.wrap32
    (Word.wrap32 (b0.toNat * 2 ^ 24) + Word.wrap32 (b1.toNat * 2 ^ 16))
      + Word.wrap32 (b2.toNat * 2 ^ 8)) + b3.toNat)

/-- Two times four bytes and the buttons. -/
def pointerReport (m : Message) : Outcome PointerReport :=
  if m.t ≠ typePointerReport then m.wrongType
  else if m.d.length ≠ 9 then .error s!"invalid message length: {m.d.length}"
  else do
    let x ← slice m.d 0 4
    let x ← toInt x
    let y ← slice m.d 4 8
    let y ← toInt y
    let button ← index m.d 8
    return { x, y, button }

/-- Two signed bytes and the buttons. -/
def mouseReport (m : Message) : Outcome MouseReport :=
  if m.t ≠ typeMouseReport then m.wrongType
  else do
    let dx ← index m.d 0
    let dy ← index m.d 1
    let button ← index m.d 2
    return { dx := dx.toInt8, dy := dy.toInt8, button }

end Message

/-- What `handleHidRPCMessage` acts on, once it has read the message. -/
inductive HidRequest where
  | handshake
  | keypress (report : KeypressReport)
  | keyboard (report : KeyboardReport)
  | keyboardMacro (report : KeyboardMacroReport)
  | cancelKeyboardMacro
  | keypressKeepAlive
  | pointer (report : PointerReport)
  | mouse (report : MouseReport)
  | unknown (t : MessageType)
deriving DecidableEq

/-- The dispatch of `handleHidRPCMessage` on the type of the message: the accessor it calls
and what it then acts on. -/
def handleHidRPCMessage (m : Message) : Outcome HidRequest :=
  if m.t = typeHandshake then return .handshake
  else if m.t = typeKeypressReport then return .keypress (← m.keypressReport)
  else if m.t = typeKeyboardReport then return .keyboard (← m.keyboardReport)
  else if m.t = typeKeyboardMacroReport then return .keyboardMacro (← m.keyboardMacroReport)
  else if m.t = typeCancelKeyboardMacroReport then return .cancelKeyboardMacro
  else if m.t = typeKeypressKeepAliveReport then return .keypressKeepAlive
  else if m.t = typePointerReport then return .pointer (← m.pointerReport)
  else if m.t = typeMouseReport then return .mouse (← m.mouseReport)
  else return .unknown m.t

/-- What becomes of the bytes a HID data channel delivers. -/
def onHidMessage (data : List UInt8) : Outcome HidRequest :=
  match unmarshal data with
  | .ok message => handleHidRPCMessage message
  | .error err => .error err

/-! ### Messages to the browser -/

/-- The state of the keyboard's LEDs. -/
structure KeyboardState where
  numLock : Bool
  capsLock : Bool
  scrollLock : Bool
  compose : Bool
  kana : Bool
  shift : Bool
  raw : UInt8
deriving DecidableEq, Repr

def keyboardLedMaskNumLock : UInt8 := (1 : UInt8) <<< 0
def keyboardLedMaskCapsLock : UInt8 := (1 : UInt8) <<< 1
def keyboardLedMaskScrollLock : UInt8 := (1 : UInt8) <<< 2
def keyboardLedMaskCompose : UInt8 := (1 : UInt8) <<< 3
def keyboardLedMaskKana : UInt8 := (1 : UInt8) <<< 4
def keyboardLedMaskShift : UInt8 := (1 : UInt8) <<< 6

/-- The LEDs a byte from the host turns on. -/
def getKeyboardState (b : UInt8) : KeyboardState where
  numLock := b &&& keyboardLedMaskNumLock ≠ 0
  capsLock := b &&& keyboardLedMaskCapsLock ≠ 0
  scrollLock := b &&& keyboardLedMaskScrollLock ≠ 0
  compose := b &&& keyboardLedMaskCompose ≠ 0
  kana := b &&& keyboardLedMaskKana ≠ 0
  shift := b &&& keyboardLedMaskShift ≠ 0
  raw := b

/-- The answer to a handshake has the version. -/
def newHandshakeMessage : Message :=
  { t := typeHandshake, d := [version] }

/-- The lights in one byte. -/
def newKeyboardLedMessage (state : KeyboardState) : Message :=
  { t := typeKeyboardLedState, d := [state.raw] }

/-- The modifiers and the keys that are down. -/
def newKeydownStateMessage (state : KeysDownState) : Message :=
  { t := typeKeydownState, d := state.modifier :: state.keys }

/-- Two flags, each in a byte. -/
def newKeyboardMacroStateMessage (state isPaste : Bool) : Message :=
  { t := typeKeyboardMacroState, d := [if state then 1 else 0, if isPaste then 1 else 0] }

/-! ### Reading the steps of a macro -/

namespace Message

/-- The step at an offset. -/
def stepAt (d : List UInt8) (offset : Nat) : KeyboardMacroStep where
  modifier := d.getD offset 0
  keys := (d.take (offset + 7)).drop (offset + 1)
  delay := .ofNat (Word.bigEndian ((d.take (offset + 9)).drop (offset + 7)))

variable {d : List UInt8} {remaining offset : Nat}

/-- One round of the loop reads the step at the offset when it lies in the payload. -/
theorem macroSteps_succ (h : offset + 9 ≤ d.length) :
  macroSteps d (remaining + 1) offset = (do
    let steps ← macroSteps d remaining (offset + 9)
    return stepAt d offset :: steps)
  := by
  rw [macroSteps, Outcome.index_of_lt (by omega), Outcome.slice_of_le (by omega) (by omega),
    Outcome.slice_of_le (by omega) (by omega)]
  simp [stepAt, hidKeyBufferSize, List.getElem?_eq_getElem (show offset < d.length by omega)]

/-- The loop reads the steps one after the other when they all lie in the payload. -/
theorem macroSteps_of_le (h : offset + 9 * remaining ≤ d.length) :
  macroSteps d remaining offset
    = .value ((List.range remaining).map fun i => stepAt d (offset + 9 * i))
  := by
  induction remaining generalizing offset with
  | zero => rfl
  | succ remaining ih =>
      rw [macroSteps_succ (by omega), ih (by omega), List.range_succ_eq_map]
      simp [Function.comp_def, Nat.mul_succ, Nat.add_assoc, Nat.add_comm 9]

/-- The loop leaves the payload when the steps do not fit into it. -/
theorem macroSteps_of_lt (hoffset : offset ≤ d.length)
    (h : d.length < offset + 9 * remaining) :
  macroSteps d remaining offset = .fault
  := by
  induction remaining generalizing offset with
  | zero => omega
  | succ remaining ih =>
      by_cases hstep : offset + 9 ≤ d.length
      · rw [macroSteps_succ hstep, ih hstep (by omega)]
        rfl
      · rw [macroSteps]
        by_cases hmodifier : offset < d.length
        · rw [Outcome.index_of_lt hmodifier, Outcome.value_bind]
          by_cases hkeys : offset + 7 ≤ d.length
          · rw [Outcome.slice_of_le (by omega) hkeys, Outcome.slice_of_lt (by omega)]
            rfl
          · rw [Outcome.slice_of_lt (by omega)]
            rfl
        · rw [Outcome.index_of_le (by omega)]
          rfl

end Message

end JetKvm.HidRpc
