import JetKvm.Keyboard.KeyBuffer

/-!
# The keyboard of the USB gadget

The part of `UsbGadget` that keyboard input reads and writes: the state of the keys that
are down, the Consumer Control bits last written, the auto-release timers, and what has
been written to `/dev/hidg0`. Each operation is a function of the gadget and of the
outcome of its writes. Time is left out: a timer is armed until the moment, chosen from
outside, at which it expires.
-/

namespace JetKvm

/-- The modifier byte and the six key slots the device believes are down. -/
structure KeysDownState where
  modifier : UInt8
  keys : List UInt8
deriving DecidableEq, Repr

/-- A report written to `/dev/hidg0`: a keyboard report (Report ID 1) or a Consumer
Control report (Report ID 2). -/
inductive HidReport where
  | keyboard (modifier : UInt8) (keys : List UInt8)
  | consumer (bits : UInt8)
deriving DecidableEq, Repr

/-- The errors of a write, as far as `IsHIDTemporarilyUnavailableError` tells them apart. -/
inductive HidError where
  | temporarilyUnavailable
  | other
deriving DecidableEq, Repr

/-- What becomes of opening `/dev/hidg0` and writing a report to it. A write that runs
into its deadline is dropped and reported as a success. -/
inductive HidWrite where
  | written
  | timedOut
  | failed (err : HidError)
deriving DecidableEq, Repr

/-- An entry of `kbdAutoReleaseTimers`: its timer is still running, or it has expired and
its callback has been started. -/
inductive AutoReleaseTimer where
  | armed
  | expired
deriving DecidableEq, Repr

/-- The keyboard part of `UsbGadget`. The reports written to `/dev/hidg0` and the states
handed to `onKeysDownChange` are kept newest first. -/
structure UsbGadget where
  keysDownState : KeysDownState
  consumerState : UInt8
  kbdAutoReleaseTimers : UInt8 → Option AutoReleaseTimer
  hidg0 : List HidReport
  keysDownChanges : List KeysDownState

/-- No key and no modifier down. -/
def KeysDownState.allUp : KeysDownState :=
  { modifier := 0, keys := noKeys }

/-- The keyboard of a new gadget. -/
def newUsbGadget : UsbGadget where
  keysDownState := .allUp
  consumerState := 0
  kbdAutoReleaseTimers _ := none
  hidg0 := []
  keysDownChanges := []

/-- The modifier byte and the keys of the newest keyboard report. -/
def lastKeyboardReport (reports : List HidReport) : Option KeysDownState :=
  reports.findSome? fun
    | .keyboard modifier keys => some { modifier, keys }
    | .consumer _ => none

/-- The modifier byte and the key slots after a press or a release of a key that is not a
media key. -/
def KeysDownState.after (state : KeysDownState) (key : UInt8) (press : Bool) :
    UInt8 × List UInt8 :=
  match keyCodeToMaskMap.lookup key with
  | some mask =>
      (if press then state.modifier ||| mask else state.modifier &&& ~~~mask, state.keys)
  | none => (state.modifier, bufferAfter state.keys key press)

/-- The first six keys, padded with zeros when there are fewer. -/
def padKeys (keys : List UInt8) : List UInt8 :=
  let keys := if keys.length > hidKeyBufferSize then keys.take hidKeyBufferSize else keys
  if keys.length < hidKeyBufferSize then
    keys ++ List.replicate (hidKeyBufferSize - keys.length) 0
  else keys

/-- The key slots that are recorded as down after they have been reported: all of them
are up when the report was an overflow. -/
def clearRollOver (keys : List UInt8) : List UInt8 :=
  if keys.head? = some hidErrorRollOver then keys.map fun _ => 0 else keys

namespace UsbGadget

/-! ### Reports -/

/-- Opens `/dev/hidg0` and writes a report to it. -/
def writeHidFile (u : UsbGadget) (report : HidReport) :
    HidWrite → UsbGadget × Option HidError
  | .written => ({ u with hidg0 := report :: u.hidg0 }, none)
  | .timedOut => (u, none)
  | .failed err => (u, some err)

/-- Writes a Consumer Control report and, after a successful write, keeps its bits. -/
def consumerControlReport (u : UsbGadget) (bits : UInt8) (write : HidWrite) :
    UsbGadget × Option HidError :=
  match u.writeHidFile (.consumer bits) write with
  | (u, none) => ({ u with consumerState := bits }, none)
  | (u, some err) => (u, some err)

/-- Writes a keyboard report of the first six keys. -/
def keyboardWriteHidFileLocked (u : UsbGadget) (modifier : UInt8) (keys : List UInt8)
    (write : HidWrite) : UsbGadget × Option HidError :=
  u.writeHidFile (.keyboard modifier (keys.take hidKeyBufferSize)) write

/-- Records the keys that were reported as the keys that are down, and calls
`onKeysDownChange` when that changes the state. -/
def updateKeysDown (u : UsbGadget) (modifier : UInt8) (keys : List UInt8) :
    UsbGadget × KeysDownState :=
  let state : KeysDownState := { modifier, keys := clearRollOver keys }
  if u.keysDownState = state then (u, state)
  else
    ({ u with keysDownState := state, keysDownChanges := state :: u.keysDownChanges }, state)

/-- The reports `KeyboardReport` writes while it holds `keyboardMutex`. The Consumer
Control report is skipped when it would say again that no media key is down. -/
def keyboardReportWrites (u : UsbGadget) (modifier : UInt8) (cleaned : List UInt8)
    (bits : UInt8) (consumerWrite keyboardWrite : HidWrite) : UsbGadget × Option HidError :=
  let (u, consumerErr) :=
    if bits ≠ 0 ∨ u.consumerState ≠ 0 then u.consumerControlReport bits consumerWrite
    else (u, none)
  let (u, keyboardErr) := u.keyboardWriteHidFileLocked modifier cleaned keyboardWrite
  (u, consumerErr.or keyboardErr)

/-- Reports a modifier byte and a list of keys, and records them as down. -/
def keyboardReport (u : UsbGadget) (modifier : UInt8) (keys : List UInt8)
    (consumerWrite keyboardWrite : HidWrite) : UsbGadget × Option HidError :=
  let (cleaned, bits) := stripMediaKeys (padKeys keys)
  let (u, err) := u.keyboardReportWrites modifier cleaned bits consumerWrite keyboardWrite
  let (u, _) := u.updateKeysDown modifier cleaned
  (u, err)

/-- The Consumer Control bits after a press or a release of a media key. -/
def consumerBitsAfter (u : UsbGadget) (key : UInt8) (press : Bool) : UInt8 :=
  if press then u.consumerState ||| keyboardMediaKeyToConsumerBit key
  else u.consumerState &&& ~~~keyboardMediaKeyToConsumerBit key

/-- Reports the press or the release of one key. -/
def keypressReport (u : UsbGadget) (key : UInt8) (press : Bool) (write : HidWrite) :
    UsbGadget × KeysDownState × Option HidError :=
  let state := u.keysDownState
  if isKeyboardMediaKey key then
    let (u, err) := u.consumerControlReport (u.consumerBitsAfter key press) write
    (u, u.keysDownState, err)
  else
    let (modifier, keys) := state.after key press
    let (u, err) := u.keyboardWriteHidFileLocked modifier keys write
    let (u, newState) := u.updateKeysDown modifier keys
    (u, newState, err)

/-! ### Auto-release -/

/-- Replaces the entry of `kbdAutoReleaseTimers` for a key. -/
def setTimer (u : UsbGadget) (key : UInt8) (timer : Option AutoReleaseTimer) : UsbGadget :=
  { u with kbdAutoReleaseTimers := Function.update u.kbdAutoReleaseTimers key timer }

/-- Stops the timer of the key, if there is one, and starts a new one. -/
def scheduleAutoRelease (u : UsbGadget) (key : UInt8) : UsbGadget :=
  u.setTimer key (some .armed)

/-- Stops the timer of the key and removes it. -/
def cancelAutoRelease (u : UsbGadget) (key : UInt8) : UsbGadget :=
  u.setTimer key none

/-- Stops all timers and removes them. -/
def cancelAllAutoReleaseTimers (u : UsbGadget) : UsbGadget :=
  { u with kbdAutoReleaseTimers := fun _ => none }

/-- What `KeypressReport` does to the timer of the key once `state` has been reported. -/
def updateTimer (u : UsbGadget) (key : UInt8) (press : Bool) (state : KeysDownState) :
    UsbGadget :=
  if isModifier key then u
  else if state.keys.head? = some hidErrorRollOver ∨ press = false then u.cancelAutoRelease key
  else u.scheduleAutoRelease key

/-- Reports the press or the release of one key and starts or stops its timer. -/
def KeypressReport (u : UsbGadget) (key : UInt8) (press : Bool) (write : HidWrite) :
    UsbGadget × Option HidError :=
  let (u, state, err) := u.keypressReport key press write
  (u.updateTimer key press state, err)

/-- The callback of a timer: releases its key unless the timer has been removed or the
key is up already. -/
def performAutoRelease (u : UsbGadget) (key : UInt8) (write : HidWrite) : UsbGadget :=
  match u.kbdAutoReleaseTimers key with
  | none => u
  | some _ =>
      let u := u.setTimer key none
      if key ∈ u.keysDownState.keys then (u.keypressReport key false write).1 else u

/-! ### What the operations change -/

variable (u : UsbGadget) (key : UInt8) (press : Bool)

theorem consumerControlReport_written (bits : UInt8) :
  u.consumerControlReport bits .written
    = ({ u with hidg0 := .consumer bits :: u.hidg0, consumerState := bits }, none)
  := rfl

@[simp]
theorem consumerControlReport_keysDownState (bits : UInt8) (write : HidWrite) :
  (u.consumerControlReport bits write).1.keysDownState = u.keysDownState
  := by
  cases write <;> rfl

@[simp]
theorem consumerControlReport_timers (bits : UInt8) (write : HidWrite) :
  (u.consumerControlReport bits write).1.kbdAutoReleaseTimers = u.kbdAutoReleaseTimers
  := by
  cases write <;> rfl

/-- A Consumer Control report is not a keyboard report. -/
@[simp]
theorem consumerControlReport_lastKeyboardReport (bits : UInt8) (write : HidWrite) :
  lastKeyboardReport (u.consumerControlReport bits write).1.hidg0 = lastKeyboardReport u.hidg0
  := by
  cases write <;> rfl

@[simp]
theorem keyboardWriteHidFileLocked_keysDownState (modifier : UInt8) (keys : List UInt8)
    (write : HidWrite) :
  (u.keyboardWriteHidFileLocked modifier keys write).1.keysDownState = u.keysDownState
  := by
  cases write <;> rfl

@[simp]
theorem keyboardWriteHidFileLocked_timers (modifier : UInt8) (keys : List UInt8)
    (write : HidWrite) :
  (u.keyboardWriteHidFileLocked modifier keys write).1.kbdAutoReleaseTimers
    = u.kbdAutoReleaseTimers
  := by
  cases write <;> rfl

@[simp]
theorem keyboardWriteHidFileLocked_consumerState (modifier : UInt8) (keys : List UInt8)
    (write : HidWrite) :
  (u.keyboardWriteHidFileLocked modifier keys write).1.consumerState = u.consumerState
  := by
  cases write <;> rfl

/-- A keyboard report that is written is the newest keyboard report. -/
@[simp]
theorem keyboardWriteHidFileLocked_lastKeyboardReport (modifier : UInt8)
    (keys : List UInt8) :
  lastKeyboardReport (u.keyboardWriteHidFileLocked modifier keys .written).1.hidg0
    = some { modifier, keys := keys.take hidKeyBufferSize }
  := rfl

@[simp]
theorem keyboardReportWrites_keysDownState (modifier : UInt8) (cleaned : List UInt8)
    (bits : UInt8) (consumerWrite keyboardWrite : HidWrite) :
  (u.keyboardReportWrites modifier cleaned bits consumerWrite keyboardWrite).1.keysDownState
    = u.keysDownState
  := by
  simp only [keyboardReportWrites]
  split <;> simp

@[simp]
theorem keyboardReportWrites_timers (modifier : UInt8) (cleaned : List UInt8)
    (bits : UInt8) (consumerWrite keyboardWrite : HidWrite) :
  (u.keyboardReportWrites modifier cleaned bits consumerWrite
      keyboardWrite).1.kbdAutoReleaseTimers
    = u.kbdAutoReleaseTimers
  := by
  simp only [keyboardReportWrites]
  split <;> simp

/-- The newest keyboard report is the one `KeyboardReport` writes. -/
@[simp]
theorem keyboardReportWrites_lastKeyboardReport (modifier : UInt8) (cleaned : List UInt8)
    (bits : UInt8) (consumerWrite : HidWrite) :
  lastKeyboardReport
      (u.keyboardReportWrites modifier cleaned bits consumerWrite .written).1.hidg0
    = some { modifier, keys := cleaned.take hidKeyBufferSize }
  := by
  simp only [keyboardReportWrites]
  split <;> simp

/-- The state `UpdateKeysDown` returns, which is also the state it leaves. -/
theorem updateKeysDown_snd (modifier : UInt8) (keys : List UInt8) :
  (u.updateKeysDown modifier keys).2 = { modifier, keys := clearRollOver keys }
  := by
  rw [updateKeysDown]
  split <;> rfl

@[simp]
theorem updateKeysDown_keysDownState (modifier : UInt8) (keys : List UInt8) :
  (u.updateKeysDown modifier keys).1.keysDownState = { modifier, keys := clearRollOver keys }
  := by
  rw [updateKeysDown]
  split
  · assumption
  · rfl

@[simp]
theorem updateKeysDown_timers (modifier : UInt8) (keys : List UInt8) :
  (u.updateKeysDown modifier keys).1.kbdAutoReleaseTimers = u.kbdAutoReleaseTimers
  := by
  rw [updateKeysDown]
  split <;> rfl

@[simp]
theorem updateKeysDown_consumerState (modifier : UInt8) (keys : List UInt8) :
  (u.updateKeysDown modifier keys).1.consumerState = u.consumerState
  := by
  rw [updateKeysDown]
  split <;> rfl

@[simp]
theorem updateKeysDown_hidg0 (modifier : UInt8) (keys : List UInt8) :
  (u.updateKeysDown modifier keys).1.hidg0 = u.hidg0
  := by
  rw [updateKeysDown]
  split <;> rfl

variable {u key press}

/-- A media key goes to Consumer Control and nowhere else. -/
theorem keypressReport_media (h : isKeyboardMediaKey key = true) (write : HidWrite) :
  (u.keypressReport key press write).1
    = (u.consumerControlReport (u.consumerBitsAfter key press) write).1
  := by
  simp only [keypressReport, h, if_true]

/-- The state a key other than a media key leaves, whatever becomes of the write. -/
theorem keypressReport_keysDownState (h : isKeyboardMediaKey key = false)
    (write : HidWrite) :
  (u.keypressReport key press write).1.keysDownState
    = { modifier := (u.keysDownState.after key press).1,
        keys := clearRollOver (u.keysDownState.after key press).2 }
  := by
  simp [keypressReport, h]

/-- The report a key other than a media key is written as. -/
theorem keypressReport_lastKeyboardReport (h : isKeyboardMediaKey key = false) :
  lastKeyboardReport (u.keypressReport key press .written).1.hidg0
    = some { modifier := (u.keysDownState.after key press).1,
             keys := (u.keysDownState.after key press).2.take hidKeyBufferSize }
  := by
  simp [keypressReport, h]

/-- A key other than a media key leaves the Consumer Control bits as they are. -/
theorem keypressReport_consumerState (h : isKeyboardMediaKey key = false)
    (write : HidWrite) :
  (u.keypressReport key press write).1.consumerState = u.consumerState
  := by
  simp [keypressReport, h]

@[simp]
theorem keypressReport_timers (write : HidWrite) :
  (u.keypressReport key press write).1.kbdAutoReleaseTimers = u.kbdAutoReleaseTimers
  := by
  cases h : isKeyboardMediaKey key
  · simp [keypressReport, h]
  · simp [keypressReport, h]

/-- The state `keypressReport` returns is the state it leaves. -/
theorem keypressReport_state (write : HidWrite) :
  (u.keypressReport key press write).2.1 = (u.keypressReport key press write).1.keysDownState
  := by
  cases h : isKeyboardMediaKey key
  · simp [keypressReport, h, updateKeysDown_snd]
  · simp [keypressReport, h]

@[simp]
theorem updateTimer_keysDownState (state : KeysDownState) :
  (u.updateTimer key press state).keysDownState = u.keysDownState
  := by
  simp only [updateTimer, cancelAutoRelease, scheduleAutoRelease, setTimer]
  split <;> try split
  all_goals rfl

@[simp]
theorem updateTimer_hidg0 (state : KeysDownState) :
  (u.updateTimer key press state).hidg0 = u.hidg0
  := by
  simp only [updateTimer, cancelAutoRelease, scheduleAutoRelease, setTimer]
  split <;> try split
  all_goals rfl

/-- A call changes no timer but that of its key, which runs when the press of an ordinary
key was reported without overflow. -/
theorem updateTimer_timers (hkey : isModifier key = false) (state : KeysDownState) :
  (u.updateTimer key press state).kbdAutoReleaseTimers
    = Function.update u.kbdAutoReleaseTimers key
        (if state.keys.head? = some hidErrorRollOver ∨ press = false then none
         else some .armed)
  := by
  simp only [updateTimer, hkey]
  split
  · contradiction
  · split <;> rfl

@[simp]
theorem KeypressReport_keysDownState (write : HidWrite) :
  (u.KeypressReport key press write).1.keysDownState
    = (u.keypressReport key press write).1.keysDownState
  := by
  simp [KeypressReport]

@[simp]
theorem KeypressReport_hidg0 (write : HidWrite) :
  (u.KeypressReport key press write).1.hidg0 = (u.keypressReport key press write).1.hidg0
  := by
  simp [KeypressReport]

/-- The timers after a call for an ordinary key. -/
theorem KeypressReport_timers (hkey : isModifier key = false) (write : HidWrite) :
  (u.KeypressReport key press write).1.kbdAutoReleaseTimers
    = Function.update u.kbdAutoReleaseTimers key
        (if (u.keypressReport key press write).1.keysDownState.keys.head?
            = some hidErrorRollOver ∨ press = false then none
         else some .armed)
  := by
  simp only [KeypressReport, updateTimer_timers hkey, keypressReport_state,
    keypressReport_timers]

@[simp]
theorem setTimer_timers (timer : Option AutoReleaseTimer) :
  (u.setTimer key timer).kbdAutoReleaseTimers = Function.update u.kbdAutoReleaseTimers key timer
  := rfl

@[simp]
theorem setTimer_consumerState (timer : Option AutoReleaseTimer) :
  (u.setTimer key timer).consumerState = u.consumerState
  := rfl

@[simp]
theorem setTimer_hidg0 (timer : Option AutoReleaseTimer) :
  (u.setTimer key timer).hidg0 = u.hidg0
  := rfl

@[simp]
theorem updateTimer_consumerState (state : KeysDownState) :
  (u.updateTimer key press state).consumerState = u.consumerState
  := by
  simp only [updateTimer, cancelAutoRelease, scheduleAutoRelease, setTimer]
  split <;> try split
  all_goals rfl

/-- A call for a modifier changes no timer. -/
theorem updateTimer_modifier (hkey : isModifier key = true) (state : KeysDownState) :
  u.updateTimer key press state = u
  := by
  rw [updateTimer, if_pos hkey]

@[simp]
theorem KeypressReport_consumerState (write : HidWrite) :
  (u.KeypressReport key press write).1.consumerState
    = (u.keypressReport key press write).1.consumerState
  := by
  simp [KeypressReport]

/-- A timer that has been removed does nothing when it fires. -/
theorem performAutoRelease_none (h : u.kbdAutoReleaseTimers key = none) (write : HidWrite) :
  u.performAutoRelease key write = u
  := by
  rw [performAutoRelease, h]

/-- A timer that is there is removed, and its key is released if it is down. -/
theorem performAutoRelease_some {timer : AutoReleaseTimer}
    (h : u.kbdAutoReleaseTimers key = some timer) (write : HidWrite) :
  u.performAutoRelease key write
    = if key ∈ u.keysDownState.keys
      then ((u.setTimer key none).keypressReport key false write).1
      else u.setTimer key none
  := by
  rw [performAutoRelease, h]
  rfl

end UsbGadget

/-- What is recorded does not begin with `hidErrorRollOver`. -/
theorem head?_clearRollOver (keys : List UInt8) :
  (clearRollOver keys).head? ≠ some hidErrorRollOver
  := by
  rw [clearRollOver]
  split
  · rename_i hfirst
    rw [List.head?_map, hfirst]
    decide
  · assumption

/-- A buffer that does not begin with `hidErrorRollOver` is recorded as it was reported. -/
theorem Holds.clearRollOver_eq {keys held : List UInt8} (h : Holds keys held)
    (hhead : held.headD 0 ≠ hidErrorRollOver) :
  clearRollOver keys = keys
  := by
  apply if_neg
  rw [h.head?_eq]
  intro heq
  exact hhead (Option.some.inj heq)

/-- An overflow is recorded as no key down. -/
theorem clearRollOver_rolledOver : clearRollOver rolledOver = noKeys
  := rfl

/-- A report of a buffer has all its keys. -/
theorem Holds.take_eq {keys held : List UInt8} (h : Holds keys held) :
  keys.take hidKeyBufferSize = keys
  := by
  rw [← h.length_eq, List.take_length]

/-- A modifier changes its bit of the modifier byte. -/
theorem KeysDownState.after_modifier {state : KeysDownState} {key mask : UInt8}
    (h : keyCodeToMaskMap.lookup key = some mask) (press : Bool) :
  state.after key press
    = (if press then state.modifier ||| mask else state.modifier &&& ~~~mask, state.keys)
  := by
  rw [after, h]

/-- An ordinary key changes the key slots. -/
theorem KeysDownState.after_ordinary {state : KeysDownState} {key : UInt8}
    (h : isModifier key = false) (press : Bool) :
  state.after key press = (state.modifier, bufferAfter state.keys key press)
  := by
  rw [after, Option.isSome_eq_false_iff.mp h |> Option.isNone_iff_eq_none.mp]

end JetKvm
