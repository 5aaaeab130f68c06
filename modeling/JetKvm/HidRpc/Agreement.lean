import JetKvm.HidRpc.Safety
import JetKvm.HidRpc.Browser
import Mathlib.Data.Fintype.Card
import Mathlib.Data.FinEnum

/-!
# Agreement of the two codecs

The message classes of the browser and the accessors of the device were written by hand
in two languages. Every message the browser can build with fields in range is read by the
device as the same fields, and every state the device reports is read by the browser as
the same state.
-/

namespace JetKvm.HidRpc

open Browser (uint8Array numbers withinUint8Range)

/-- Reads bytes from the browser with the accessor for their type. -/
def receive {α : Type} (accessor : Message → Outcome α) (data : List UInt8) : Outcome α :=
  match unmarshal data with
  | .ok message => accessor message
  | .error err => .error err

/-- A message is its type and the rest. -/
theorem receive_cons {α : Type} (accessor : Message → Outcome α) (t : MessageType)
    (d : List UInt8) :
  receive accessor (t :: d) = accessor ⟨t, d⟩
  := rfl

/-- The device reads a step of a macro as the same step, its keys padded with zeros. -/
structure SameStep (sent : Browser.KeyboardMacroStep) (read : KeyboardMacroStep) : Prop where
  modifier : (read.modifier.toNat : Int) = sent.modifier
  keys : numbers read.keys
    = sent.keys ++ List.replicate (hidKeyBufferSize - sent.keys.length) 0
  delay : (read.delay.toNat : Int) = sent.delay

/-- The codecs of the browser and the device agree, in both directions. -/
structure CodecsAgree : Prop where
  keypress : ∀ (key : Int) (press : Bool), 0 ≤ key → key ≤ 255 →
    ∃ sent read, Browser.KeypressReportMessage.new key press = .ok sent ∧
      receive Message.keypressReport sent.marshal = .value read ∧
      (read.key.toNat : Int) = key ∧ read.press = press
  keyboard : ∀ (keys : List Int) (modifier : Int), (∀ k ∈ keys, 0 ≤ k ∧ k ≤ 255) →
    0 ≤ modifier → modifier ≤ 255 →
    ∃ sent read, Browser.KeyboardReportMessage.new keys modifier = .ok sent ∧
      receive Message.keyboardReport sent.marshal = .value read ∧
      numbers read.keys = keys ∧ (read.modifier.toNat : Int) = modifier
  pointer : ∀ x y buttons : Int, -2 ^ 31 ≤ x → x < 2 ^ 31 → -2 ^ 31 ≤ y → y < 2 ^ 31 →
    0 ≤ buttons → buttons ≤ 255 →
    ∃ data read, Browser.PointerReportMessage.marshal ⟨x, y, buttons⟩ = .ok data ∧
      receive Message.pointerReport data = .value read ∧
      read.x = x ∧ read.y = y ∧ (read.button.toNat : Int) = buttons
  mouse : ∀ dx dy buttons : Int, -2 ^ 7 ≤ dx → dx < 2 ^ 7 → -2 ^ 7 ≤ dy → dy < 2 ^ 7 →
    0 ≤ buttons → buttons ≤ 255 →
    ∃ data read, Browser.MouseReportMessage.marshal ⟨dx, dy, buttons⟩ = .ok data ∧
      receive Message.mouseReport data = .value read ∧
      read.dx.toInt = dx ∧ read.dy.toInt = dy ∧ (read.button.toNat : Int) = buttons
  keyboardMacro : ∀ (isPaste : Bool) (steps : List Browser.KeyboardMacroStep),
    (∀ step ∈ steps, step.InRange) → steps.length * 9 + 5 < 2 ^ 31 →
    ∃ data read, Browser.KeyboardMacroReportMessage.marshal ⟨isPaste, steps.length, steps⟩
        = .ok data ∧
      receive Message.keyboardMacroReport data = .value read ∧
      read.isPaste = isPaste ∧ read.stepCount.toNat = steps.length ∧
      List.Forall₂ SameStep steps read.steps
  keysDown : ∀ state : KeysDownState,
    ∃ data, marshal (newKeydownStateMessage state) = .ok data ∧
      Browser.unmarshalHidRpcMessage data
        = .ok (.keysDownState ⟨state.modifier.toNat, numbers state.keys⟩)
  led : ∀ b : UInt8,
    ∃ data, marshal (newKeyboardLedMessage (getKeyboardState b)) = .ok data ∧
      Browser.unmarshalHidRpcMessage data
        = .ok (.keyboardLedState
            { numLock := (getKeyboardState b).numLock,
              capsLock := (getKeyboardState b).capsLock,
              scrollLock := (getKeyboardState b).scrollLock,
              compose := (getKeyboardState b).compose,
              kana := (getKeyboardState b).kana,
              shift := (getKeyboardState b).shift })
  macroState : ∀ state isPaste : Bool,
    ∃ data, marshal (newKeyboardMacroStateMessage state isPaste) = .ok data ∧
      Browser.unmarshalHidRpcMessage data = .ok (.keyboardMacroState state isPaste)

/-! ### From the browser to the device -/

/-- A key is read as it was sent. -/
theorem receive_keypress (key : Int) (press : Bool) (hlow : 0 ≤ key) (hhigh : key ≤ 255) :
  ∃ sent read, Browser.KeypressReportMessage.new key press = .ok sent ∧
    receive Message.keypressReport sent.marshal = .value read ∧
    (read.key.toNat : Int) = key ∧ read.press = press
  := by
  have hkey : withinUint8Range key := ⟨hlow, hhigh⟩
  use ⟨key, press⟩, ⟨Word.toByte key, press⟩, if_pos hkey
  constructor
  · rw [Browser.KeypressReportMessage.marshal, Browser.typed_eq, Browser.uint8Array_cons,
      Browser.uint8Array_cons, Browser.toByte_flag]
    cases press <;> rfl
  · exact ⟨Browser.toNat_toByte_of_mem hkey, rfl⟩

/-- So are the keys and the modifiers. -/
theorem receive_keyboard (keys : List Int) (modifier : Int)
    (hkeys : ∀ k ∈ keys, 0 ≤ k ∧ k ≤ 255) (hlow : 0 ≤ modifier) (hhigh : modifier ≤ 255) :
  ∃ sent read, Browser.KeyboardReportMessage.new keys modifier = .ok sent ∧
    receive Message.keyboardReport sent.marshal = .value read ∧
    numbers read.keys = keys ∧ (read.modifier.toNat : Int) = modifier
  := by
  have hmodifier : withinUint8Range modifier := ⟨hlow, hhigh⟩
  use ⟨keys, modifier⟩, ⟨Word.toByte modifier, uint8Array keys⟩
  constructor
  · rw [Browser.KeyboardReportMessage.new, Browser.checkKeys_of_mem hkeys,
      Browser.checkModifier_of_mem hmodifier]
    rfl
  · constructor
    · rw [Browser.KeyboardReportMessage.marshal, Browser.typed_eq, Browser.uint8Array_cons]
      simp [receive, unmarshal, Message.keyboardReport, Outcome.index, Outcome.slice,
        Browser.MessageTypes.keyboardReport, typeKeyboardReport]
    · exact ⟨Browser.numbers_uint8Array hkeys, Browser.toNat_toByte_of_mem hmodifier⟩

/-- The integer of four bytes is the number they spell, wrapped around. -/
theorem toInt_bytes (b0 b1 b2 b3 : UInt8) :
  Message.toInt [b0, b1, b2, b3] = .value (Word.wrap32 (Word.bigEndian [b0, b1, b2, b3]))
  := by
  have hsum : ((Word.bigEndian [b0, b1, b2, b3] : Nat) : Int)
      = b0.toNat * 2 ^ 24 + b1.toNat * 2 ^ 16 + b2.toNat * 2 ^ 8 + b3.toNat := by
    simp only [Word.bigEndian, List.foldl]
    omega
  have hread : Message.toInt [b0, b1, b2, b3] = .value (Word.wrap32 (Word.wrap32 (Word.wrap32
      (Word.wrap32 (b0.toNat * 2 ^ 24) + Word.wrap32 (b1.toNat * 2 ^ 16))
        + Word.wrap32 (b2.toNat * 2 ^ 8)) + b3.toNat)) := rfl
  rw [hread, hsum]
  simp only [Word.wrap32_wrap32_add, Word.wrap32_add_wrap32]

/-- The four bytes of a number are read as the number. -/
theorem toInt_word32 {n : Int} (hlow : -2 ^ 31 ≤ n) (hhigh : n < 2 ^ 31) :
  Message.toInt (Word.word32 n) = .value n
  := by
  have hn := Word.wrap32_of_mem hlow hhigh
  rw [← Word.wrap32_emod, ← Word.bigEndian_word32] at hn
  rw [Word.word32, toInt_bytes, ← Word.word32, hn]

/-- A pointer report is read from its nine bytes. -/
theorem pointerReport_append {x y : List UInt8} (button : UInt8) (hx : x.length = 4)
    (hy : y.length = 4) :
  Message.pointerReport ⟨typePointerReport, x ++ (y ++ [button])⟩
    = (do
      let x ← Message.toInt x
      let y ← Message.toInt y
      return ⟨x, y, button⟩)
  := by
  have hlength : (x ++ (y ++ [button])).length = 9 := by simp [hx, hy]
  have hslicex : ((x ++ (y ++ [button])).take 4).drop 0 = x := by
    rw [List.drop_zero]
    apply List.take_left' hx
  have hslicey : ((x ++ (y ++ [button])).take 8).drop 4 = y :=
    Outcome.take_drop_append hx.symm (by simp [hx, hy])
  have hbutton : (x ++ (y ++ [button]))[8] = button := by
    simp [hx, hy]
  rw [Message.pointerReport, if_neg (not_not_intro rfl), if_neg (not_not_intro hlength),
    Outcome.slice_of_le (by decide) (by simp [hlength]), hslicex,
    Outcome.slice_of_le (by decide) (by simp [hlength]), hslicey,
    Outcome.index_of_lt (by simp [hlength]), hbutton]
  rfl

/-- So is a place of the pointer. -/
theorem receive_pointer (x y buttons : Int) (hx : -2 ^ 31 ≤ x) (hx' : x < 2 ^ 31)
    (hy : -2 ^ 31 ≤ y) (hy' : y < 2 ^ 31) (hlow : 0 ≤ buttons) (hhigh : buttons ≤ 255) :
  ∃ data read, Browser.PointerReportMessage.marshal ⟨x, y, buttons⟩ = .ok data ∧
    receive Message.pointerReport data = .value read ∧
    read.x = x ∧ read.y = y ∧ (read.button.toNat : Int) = buttons
  := by
  use typePointerReport :: (Word.word32 x ++ (Word.word32 y ++ [Word.toByte buttons])),
    ⟨x, y, Word.toByte buttons⟩
  constructor
  · rw [Browser.PointerReportMessage.marshal, Browser.fromInt32toUint8_of_mem hx hx',
      Browser.fromInt32toUint8_of_mem hy hy']
    dsimp only [bind, Except.bind, pure, Except.pure]
    rw [Browser.typed_eq, List.append_assoc, Browser.uint8Array_append,
      Browser.uint8Array_append, Browser.uint8Array_numbers, Browser.uint8Array_numbers]
    rfl
  · constructor
    · rw [receive_cons, pointerReport_append _ rfl rfl, toInt_word32 hx hx', toInt_word32 hy hy']
      rfl
    · exact ⟨rfl, rfl, Browser.toNat_toByte_of_mem ⟨hlow, hhigh⟩⟩

/-- The low byte of a small number is read as the number. -/
theorem toInt_toInt8 {n : Int} (hlow : -2 ^ 7 ≤ n) (hhigh : n < 2 ^ 7) :
  (Word.toByte (n % 256)).toInt8.toInt = n
  := by
  have hbyte := Word.toNat_toByte (n % 256)
  rw [← Int8.toInt_toBitVec, UInt8.toBitVec_toInt8, BitVec.toInt_eq_toNat_bmod,
    UInt8.toNat_toBitVec, hbyte, Int.bmod_def]
  omega

/-- So is a movement. -/
theorem receive_mouse (dx dy buttons : Int) (hdx : -2 ^ 7 ≤ dx) (hdx' : dx < 2 ^ 7)
    (hdy : -2 ^ 7 ≤ dy) (hdy' : dy < 2 ^ 7) (hlow : 0 ≤ buttons) (hhigh : buttons ≤ 255) :
  ∃ data read, Browser.MouseReportMessage.marshal ⟨dx, dy, buttons⟩ = .ok data ∧
    receive Message.mouseReport data = .value read ∧
    read.dx.toInt = dx ∧ read.dy.toInt = dy ∧ (read.button.toNat : Int) = buttons
  := by
  use [typeMouseReport, Word.toByte (dx % 256), Word.toByte (dy % 256), Word.toByte buttons],
    ⟨(Word.toByte (dx % 256)).toInt8, (Word.toByte (dy % 256)).toInt8, Word.toByte buttons⟩
  constructor
  · rw [Browser.MouseReportMessage.marshal, Browser.fromInt8ToUint8_of_mem hdx hdx',
      Browser.fromInt8ToUint8_of_mem hdy hdy']
    dsimp only [bind, Except.bind, pure, Except.pure]
    rw [Browser.typed_eq]
    rfl
  · exact ⟨rfl, toInt_toInt8 hdx hdx', toInt_toInt8 hdy hdy',
      Browser.toNat_toByte_of_mem ⟨hlow, hhigh⟩⟩

/-! ### Macros -/

/-- The step the device reads from the bytes of a step. -/
def readStep (step : Browser.KeyboardMacroStep) : KeyboardMacroStep where
  modifier := Word.toByte step.modifier
  keys := uint8Array step.slots
  delay := .ofNat (Word.bigEndian (Word.word16 step.delay))

variable {step : Browser.KeyboardMacroStep} {steps : List Browser.KeyboardMacroStep}

/-- So is a step of a macro. -/
theorem sameStep_readStep (h : step.InRange) :
  SameStep step (readStep step)
  := by
  constructor
  · apply Browser.toNat_toByte_of_mem h.modifier
  · apply Browser.numbers_uint8Array h.slots_mem
  · obtain ⟨hlow, hhigh⟩ := h.delay
    have hdelay := Word.bigEndian_word16 step.delay
    rw [readStep, UInt16.toNat_ofNat']
    omega

/-- The step at an offset behind which the bytes of a step follow. -/
theorem stepAt_append (h : step.InRange) (front back : List UInt8) :
  Message.stepAt (front ++ (step.bytes ++ back)) front.length = readStep step
  := by
  have hslots : (uint8Array step.slots).length = 6 := by
    rw [Browser.length_uint8Array, h.slots_length]
    rfl
  have hkeys : front ++ (step.bytes ++ back)
      = (front ++ [Word.toByte step.modifier]) ++
          (uint8Array step.slots ++ (Word.word16 step.delay ++ back)) := by
    simp [Browser.KeyboardMacroStep.bytes]
  have hdelay : front ++ (step.bytes ++ back)
      = (front ++ Word.toByte step.modifier :: uint8Array step.slots) ++
          (Word.word16 step.delay ++ back) := by
    simp [Browser.KeyboardMacroStep.bytes]
  rw [Message.stepAt, readStep]
  congr 1
  · simp [Browser.KeyboardMacroStep.bytes]
  · rw [hkeys]
    apply Outcome.take_drop_append
    · simp
    · simp [hslots]
  · rw [hdelay, Outcome.take_drop_append]
    · simp [hslots]
    · simp [hslots, Word.word16]

/-- The device reads the steps whose bytes follow the front. -/
theorem macroSteps_flatMap (hsteps : ∀ step ∈ steps, step.InRange) (front : List UInt8) :
  Message.macroSteps (front ++ steps.flatMap Browser.KeyboardMacroStep.bytes) steps.length
      front.length
    = .value (steps.map readStep)
  := by
  induction steps generalizing front with
  | nil => rfl
  | cons step steps ih =>
      have hstep := hsteps step List.mem_cons_self
      have hrest := ih (fun s hs => hsteps s (List.mem_cons_of_mem _ hs)) (front ++ step.bytes)
      rw [List.length_append, hstep.bytes_length, List.append_assoc] at hrest
      rw [List.flatMap_cons, List.length_cons, Message.macroSteps_succ, hrest,
        stepAt_append hstep]
      · rfl
      · simp [hstep.bytes_length]

/-- Each step takes nine bytes. -/
theorem length_flatMap_bytes (hsteps : ∀ step ∈ steps, step.InRange) :
  (steps.flatMap Browser.KeyboardMacroStep.bytes).length = 9 * steps.length
  := by
  induction steps with
  | nil => rfl
  | cons step steps ih =>
      rw [List.flatMap_cons, List.length_append, (hsteps step List.mem_cons_self).bytes_length,
        ih fun s hs => hsteps s (List.mem_cons_of_mem _ hs), List.length_cons]
      omega

/-- The first five bytes of the payload of a macro. -/
def macroHeader (isPaste : Bool) (count : Nat) : List UInt8 :=
  (if isPaste then 1 else 0) :: Word.word32 count

/-- So is their number. -/
theorem stepCount_macroHeader (isPaste : Bool) {count : Nat} (back : List UInt8)
    (hcount : count < 2 ^ 32) :
  stepCount (macroHeader isPaste count ++ back) = count
  := by
  have hspell := Word.bigEndian_word32 count
  have hbytes : ((macroHeader isPaste count ++ back).take 5).drop 1 = Word.word32 count := rfl
  rw [stepCount, hbytes]
  omega

/-- So is a whole macro. -/
theorem receive_keyboardMacro (isPaste : Bool) (hsteps : ∀ step ∈ steps, step.InRange)
    (hcount : steps.length * 9 + 5 < 2 ^ 31) :
  ∃ data read, Browser.KeyboardMacroReportMessage.marshal ⟨isPaste, steps.length, steps⟩
      = .ok data ∧
    receive Message.keyboardMacroReport data = .value read ∧
    read.isPaste = isPaste ∧ read.stepCount.toNat = steps.length ∧
    List.Forall₂ SameStep steps read.steps
  := by
  use typeKeyboardMacroReport :: (macroHeader isPaste steps.length ++
      steps.flatMap Browser.KeyboardMacroStep.bytes),
    { isPaste, stepCount := .ofNat steps.length, steps := steps.map readStep }
  constructor
  · apply Browser.marshal_macro isPaste hsteps hcount
  · constructor
    · have hlength : (macroHeader isPaste steps.length ++
          steps.flatMap Browser.KeyboardMacroStep.bytes).length = 5 + 9 * steps.length := by
        rw [List.length_append, length_flatMap_bytes hsteps]
        rfl
      have hsize : Word.wrap32 (steps.length * 9 + 5) = steps.length * 9 + 5 :=
        Word.wrap32_of_mem (by omega) (by omega)
      have hsteps' := macroSteps_flatMap hsteps (macroHeader isPaste steps.length)
      rw [receive_cons, Message.keyboardMacroReport_of_le rfl (by simp only [hlength]; omega)]
      dsimp only
      rw [stepCount_macroHeader _ _ (by omega), hsize, if_neg (by omega),
        Word.wrap32_of_mem (by omega) (by omega), if_neg (by omega), Int.toNat_natCast]
      have hread : Message.macroSteps (macroHeader isPaste steps.length ++
          steps.flatMap Browser.KeyboardMacroStep.bytes) steps.length 5
          = .value (steps.map readStep) := hsteps'
      rw [hread]
      cases isPaste <;> rfl
    · refine ⟨rfl, ?_, ?_⟩
      · rw [UInt32.toNat_ofNat']
        omega
      · apply List.forall₂_map_right_iff.mpr
        apply List.forall₂_same.mpr
        intro step hstep
        apply sameStep_readStep (hsteps step hstep)

/-! ### From the device to the browser -/

/-- The browser reads the keys that the device sends. -/
theorem unmarshal_keysDown (state : KeysDownState) :
  ∃ data, marshal (newKeydownStateMessage state) = .ok data ∧
    Browser.unmarshalHidRpcMessage data
      = .ok (.keysDownState ⟨state.modifier.toNat, numbers state.keys⟩)
  := ⟨_, rfl, rfl⟩

/-- It reads the lights. -/
theorem unmarshal_led (b : UInt8) :
  ∃ data, marshal (newKeyboardLedMessage (getKeyboardState b)) = .ok data ∧
    Browser.unmarshalHidRpcMessage data
      = .ok (.keyboardLedState
          { numLock := (getKeyboardState b).numLock,
            capsLock := (getKeyboardState b).capsLock,
            scrollLock := (getKeyboardState b).scrollLock,
            compose := (getKeyboardState b).compose,
            kana := (getKeyboardState b).kana,
            shift := (getKeyboardState b).shift })
  := by
  have hflags : ∀ b : UInt8,
      Browser.testMask b.toNat 0 = (getKeyboardState b).numLock ∧
      Browser.testMask b.toNat 1 = (getKeyboardState b).capsLock ∧
      Browser.testMask b.toNat 2 = (getKeyboardState b).scrollLock ∧
      Browser.testMask b.toNat 3 = (getKeyboardState b).compose ∧
      Browser.testMask b.toNat 4 = (getKeyboardState b).kana ∧
      Browser.testMask b.toNat 6 = (getKeyboardState b).shift := by
    decide +kernel
  obtain ⟨numLock, capsLock, scrollLock, compose, kana, shift⟩ := hflags b
  use [typeKeyboardLedState, b], rfl
  rw [← numLock, ← capsLock, ← scrollLock, ← compose, ← kana, ← shift]
  rfl

/-- It reads whether a macro is running. -/
theorem unmarshal_macroState (state isPaste : Bool) :
  ∃ data, marshal (newKeyboardMacroStateMessage state isPaste) = .ok data ∧
    Browser.unmarshalHidRpcMessage data = .ok (.keyboardMacroState state isPaste)
  := by
  cases state <;> cases isPaste <;> exact ⟨_, rfl, rfl⟩

/-- The codecs of the browser and the device agree over all messages. -/
theorem codecs_agree : CodecsAgree where
  keypress := receive_keypress
  keyboard := receive_keyboard
  pointer := receive_pointer
  mouse := receive_mouse
  keyboardMacro isPaste _ hsteps hcount := receive_keyboardMacro isPaste hsteps hcount
  keysDown := unmarshal_keysDown
  led := unmarshal_led
  macroState := unmarshal_macroState

end JetKvm.HidRpc
