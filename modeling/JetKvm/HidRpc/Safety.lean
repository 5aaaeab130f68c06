import JetKvm.HidRpc.Message
import Mathlib.Tactic.MkIffOfInductiveProp

/-!
# Safety of the decoder

The bytes of a message come from a remote peer. The accessors for pointer reports check
the length of the payload before they read it. The others read bytes they have not
checked to be there, and the accessor for macros compares lengths in an `int` that wraps
around, so that it takes a huge step count for a short payload. Each is safe on exactly
the payloads described here.
-/

namespace JetKvm.HidRpc

/-- The step count of a macro report. -/
def stepCount (d : List UInt8) : Nat :=
  Word.bigEndian ((d.take 5).drop 1)

/-- The payload has the bytes its accessor reads: two for a key press, one for a keyboard
report, three for a mouse report, and for a macro the five bytes of its header, whose step
count does not agree with the length of the payload only because it wraps around. -/
@[mk_iff]
structure LongEnough (m : Message) : Prop where
  keypress : m.t = typeKeypressReport → 2 ≤ m.d.length
  keyboard : m.t = typeKeyboardReport → 1 ≤ m.d.length
  mouse : m.t = typeMouseReport → 3 ≤ m.d.length
  macroHeader : m.t = typeKeyboardMacroReport → 5 ≤ m.d.length
  macroSteps : m.t = typeKeyboardMacroReport →
    Word.wrap32 (stepCount m.d * 9 + 5) = m.d.length →
      (stepCount m.d : Int) * 9 + 5 = m.d.length

namespace Message

variable {m : Message}

theorem safe_keypressReport (ht : m.t = typeKeypressReport) :
  m.keypressReport.Safe ↔ 2 ≤ m.d.length
  := by
  simp only [keypressReport, ht, ne_eq, not_true, if_false, Outcome.safe_index_bind,
    Outcome.pure_eq, Outcome.safe_value, exists_prop, and_true]
  omega

theorem safe_keyboardReport (ht : m.t = typeKeyboardReport) :
  m.keyboardReport.Safe ↔ 1 ≤ m.d.length
  := by
  simp only [keyboardReport, ht, ne_eq, not_true, if_false, Outcome.safe_index_bind]
  constructor
  · rintro ⟨h, -⟩
    exact h
  · intro h
    use h
    rw [Outcome.slice_of_le h (Nat.le_refl _)]
    apply Outcome.safe_value

theorem safe_mouseReport (ht : m.t = typeMouseReport) :
  m.mouseReport.Safe ↔ 3 ≤ m.d.length
  := by
  simp only [mouseReport, ht, ne_eq, not_true, if_false, Outcome.safe_index_bind,
    Outcome.pure_eq, Outcome.safe_value, exists_prop, and_true]
  omega

/-- Four bytes are enough for an integer. -/
theorem toInt_safe {b : List UInt8} (h : 4 ≤ b.length) :
  ∃ n, toInt b = .value n
  := by
  rw [toInt, Outcome.index_of_lt (by omega), Outcome.index_of_lt (by omega),
    Outcome.index_of_lt (by omega), Outcome.index_of_lt (by omega)]
  apply Exists.intro
  rfl

/-- A pointer report is always read safely. -/
theorem safe_pointerReport (m : Message) :
  m.pointerReport.Safe
  := by
  rw [pointerReport]
  split
  · apply Outcome.safe_error
  · split
    · apply Outcome.safe_error
    · rename_i hlength
      rw [Outcome.slice_of_le (by omega) (by omega), Outcome.slice_of_le (by omega) (by omega),
        Outcome.index_of_lt (by omega)]
      obtain ⟨x, hx⟩ := toInt_safe (b := (m.d.take 4).drop 0) (by simp; omega)
      obtain ⟨y, hy⟩ := toInt_safe (b := (m.d.take 8).drop 4) (by simp; omega)
      simp only [Outcome.value_bind, hx, hy]
      apply Outcome.safe_value

/-- The step count of a payload that has the header of a macro fits into 32 bits. -/
theorem toNat_stepCount {d : List UInt8} (hlength : 5 ≤ d.length) :
  (UInt32.ofNat (stepCount d)).toNat = stepCount d
  := by
  have hlt := Word.bigEndian_lt ((d.take 5).drop 1)
  rw [List.length_drop, List.length_take, Nat.min_eq_left hlength] at hlt
  rw [UInt32.toNat_ofNat']
  apply Nat.mod_eq_of_lt hlt

/-- Reading a macro whose header is there. -/
theorem keyboardMacroReport_of_le (ht : m.t = typeKeyboardMacroReport)
    (hlength : 5 ≤ m.d.length) :
  m.keyboardMacroReport
    = if (m.d.length : Int) ≠ Word.wrap32 (stepCount m.d * 9 + 5) then
        .error s!"invalid length: {m.d.length}, expected: {Word.wrap32 (stepCount m.d * 9 + 5)}"
      else if Word.wrap32 (stepCount m.d) < 0 then .fault
      else do
        let steps ← macroSteps m.d (Word.wrap32 (stepCount m.d)).toNat 5
        return { isPaste := m.d[0] = 1, stepCount := .ofNat (stepCount m.d), steps }
  := by
  have hcount := toNat_stepCount hlength
  rw [stepCount] at hcount ⊢
  rw [keyboardMacroReport, if_neg (not_not_intro ht), Outcome.index_of_lt (by omega),
    Outcome.value_bind, Outcome.slice_of_le (by omega) hlength, Outcome.value_bind]
  simp only [hcount, Word.wrap32_wrap32_add, Word.wrap32_wrap32_mul]

/-- A step count whose length agrees with that of the payload only by wrapping around makes
the loop leave the payload, unless there is no room for the steps in the first place. -/
theorem keyboardMacroReport_of_wrapped (ht : m.t = typeKeyboardMacroReport)
    (hlength : 5 ≤ m.d.length)
    (hwrap : Word.wrap32 (stepCount m.d * 9 + 5) = m.d.length)
    (hwrapped : (stepCount m.d : Int) * 9 + 5 ≠ m.d.length) :
  m.keyboardMacroReport = .fault
  := by
  have hpayload := (Word.wrap32_mem (stepCount m.d * 9 + 5)).2
  have hlarge : 2 ^ 31 ≤ (stepCount m.d : Int) * 9 + 5 := by
    by_contra hsmall
    rw [Word.wrap32_of_mem (by omega) (by omega)] at hwrap
    exact hwrapped hwrap
  rw [keyboardMacroReport_of_le ht hlength, if_neg (not_not_intro hwrap.symm)]
  by_cases hroom : Word.wrap32 (stepCount m.d) < 0
  · rw [if_pos hroom]
  · have hcount := toNat_stepCount hlength
    have hlt := (UInt32.ofNat (stepCount m.d)).toNat_lt
    have hexact : Word.wrap32 (stepCount m.d) = stepCount m.d := by
      rw [Word.wrap32, Int.bmod_def] at hroom ⊢
      omega
    rw [if_neg hroom, hexact, Int.toNat_natCast, macroSteps_of_lt hlength (by omega)]
    rfl

/-- A macro is read safely exactly when its header is there and its step count agrees with
the length of the payload only when it does without wrapping around. -/
theorem safe_keyboardMacroReport (ht : m.t = typeKeyboardMacroReport) :
  m.keyboardMacroReport.Safe ↔ 5 ≤ m.d.length ∧
    (Word.wrap32 (stepCount m.d * 9 + 5) = m.d.length →
      (stepCount m.d : Int) * 9 + 5 = m.d.length)
  := by
  constructor
  · intro hsafe
    have hlength : 5 ≤ m.d.length := by
      by_contra hshort
      apply hsafe
      rw [keyboardMacroReport, if_neg (not_not_intro ht),
        Outcome.slice_of_lt (by omega : m.d.length < 5)]
      by_cases hempty : 0 < m.d.length
      · rw [Outcome.index_of_lt hempty]
        rfl
      · rw [Outcome.index_of_le (by omega)]
        rfl
    use hlength
    intro hwrap
    by_contra hwrapped
    exact hsafe (keyboardMacroReport_of_wrapped ht hlength hwrap hwrapped)
  · rintro ⟨hlength, hexact⟩
    rw [keyboardMacroReport_of_le ht hlength]
    by_cases hwrap : Word.wrap32 (stepCount m.d * 9 + 5) = m.d.length
    · have hpayload := (Word.wrap32_mem (stepCount m.d * 9 + 5)).2
      have hlen := hexact hwrap
      have hcount : Word.wrap32 (stepCount m.d) = stepCount m.d :=
        Word.wrap32_of_mem (by omega) (by omega)
      rw [if_neg (not_not_intro hwrap.symm), hcount, if_neg (by omega), Int.toNat_natCast,
        macroSteps_of_le (by omega)]
      apply Outcome.safe_value
    · rw [if_pos (Ne.symm hwrap)]
      apply Outcome.safe_error

end Message

/-- Decoder safety. The bytes delivered on a HID data channel are decoded without leaving
the payload exactly when the payload has the bytes its accessor reads. -/
theorem safe_onHidMessage (t : MessageType) (d : List UInt8) :
  (onHidMessage (t :: d)).Safe ↔ LongEnough ⟨t, d⟩
  := by
  rw [onHidMessage, unmarshal, longEnough_iff]
  dsimp only
  rw [handleHidRPCMessage]
  simp only [Outcome.pure_eq]
  -- In each branch only the conditions about its own type are left.
  split_ifs with handshake keypress keyboard keyboardMacro cancel keepAlive pointer mouse
  · subst handshake
    simp +decide
  · rw [Outcome.safe_bind_value, Message.safe_keypressReport keypress]
    subst keypress
    simp +decide
  · rw [Outcome.safe_bind_value, Message.safe_keyboardReport keyboard]
    subst keyboard
    simp +decide
  · rw [Outcome.safe_bind_value, Message.safe_keyboardMacroReport keyboardMacro]
    subst keyboardMacro
    simp +decide
  · subst cancel
    simp +decide
  · subst keepAlive
    simp +decide
  · rw [Outcome.safe_bind_value, iff_true_left (Message.safe_pointerReport _)]
    subst pointer
    simp +decide
  · rw [Outcome.safe_bind_value, Message.safe_mouseReport mouse]
    subst mouse
    simp +decide
  · simp [keypress, keyboard, keyboardMacro, mouse]

/-- A key press without its second byte faults. -/
theorem not_safe_short_keypress :
  ¬ ∀ (t : MessageType) (d : List UInt8), (onHidMessage (t :: d)).Safe
  := by
  intro claim
  have h := claim typeKeypressReport [0x04]
  revert h
  decide

/-- A payload of six bytes whose step count is so large that nine bytes for each step come
to one byte. -/
example : onHidMessage (typeKeyboardMacroReport :: [0, 0x38, 0xE3, 0x8E, 0x39, 0]) = .fault := by
  decide

/-! ### Macro reports -/

/-- The payload of a macro report is read step by step when its length is that of its header and its
steps, and otherwise it is rejected. -/
def ReadsSteps (d : List UInt8) : Prop :=
  if d.length = 5 + 9 * stepCount d then
    (⟨typeKeyboardMacroReport, d⟩ : Message).keyboardMacroReport =
      .value
        { isPaste := d.getD 0 0 = 1
          stepCount := .ofNat (stepCount d)
          steps := (List.range (stepCount d)).map fun i => Message.stepAt d (5 + 9 * i) }
  else ∃ err, (⟨typeKeyboardMacroReport, d⟩ : Message).keyboardMacroReport = .error err

/-- Macro reports. A payload with the header of a macro is read step by step or rejected exactly
when the length that its step count gives in 32 bits is the length of the payload only if it is so
without wrapping around. -/
theorem readsSteps_iff (d : List UInt8) (hlength : 5 ≤ d.length) :
  ReadsSteps d ↔
    (Word.wrap32 (stepCount d * 9 + 5) = d.length ↔ (stepCount d : Int) * 9 + 5 = d.length)
  := by
  have hread := Message.keyboardMacroReport_of_le (m := ⟨typeKeyboardMacroReport, d⟩) rfl hlength
  dsimp only at hread
  rw [ReadsSteps]
  by_cases hexact : d.length = 5 + 9 * stepCount d
  · rw [if_pos hexact]
    by_cases hwrap : Word.wrap32 (stepCount d * 9 + 5) = d.length
    · have hpayload := (Word.wrap32_mem (stepCount d * 9 + 5)).2
      have hcount : Word.wrap32 (stepCount d) = stepCount d :=
        Word.wrap32_of_mem (by omega) (by omega)
      have hsteps : Message.macroSteps d (stepCount d) 5 =
          .value ((List.range (stepCount d)).map fun i => Message.stepAt d (5 + 9 * i)) := by
        apply Message.macroSteps_of_le
        omega
      rw [hread, if_neg (not_not_intro hwrap.symm), hcount, if_neg (by omega), Int.toNat_natCast,
        hsteps]
      apply iff_of_true
      · simp [List.getElem?_eq_getElem (show 0 < d.length by omega)]
      · omega
    · rw [hread, if_pos (Ne.symm hwrap)]
      apply iff_of_false
      · intro h
        cases h
      · intro h
        apply hwrap (h.mpr (by omega))
  · rw [if_neg hexact]
    by_cases hwrap : Word.wrap32 (stepCount d * 9 + 5) = d.length
    · have hwrapped : (stepCount d : Int) * 9 + 5 ≠ d.length := by omega
      rw [Message.keyboardMacroReport_of_wrapped (m := ⟨typeKeyboardMacroReport, d⟩) rfl hlength
        hwrap hwrapped]
      apply iff_of_false
      · rintro ⟨err, h⟩
        cases h
      · intro h
        apply hwrapped (h.mp hwrap)
    · rw [hread, if_pos (Ne.symm hwrap)]
      apply iff_of_true
      · use s!"invalid length: {d.length}, expected: {Word.wrap32 (stepCount d * 9 + 5)}"
      · omega

/-- A macro of one step. -/
theorem readsSteps_one :
  ReadsSteps [1, 0, 0, 0, 1, 2, 0x04, 0, 0, 0, 0, 0, 0, 20]
  := by
  apply (readsSteps_iff _ _).mpr
  · decide
  · decide

/-- A payload of six bytes with so many steps that nine bytes for each come to one byte is not
rejected. -/
theorem not_readsSteps_wrapped :
  ¬ ∀ d : List UInt8, 5 ≤ d.length → ReadsSteps d
  := by
  intro claim
  have h := claim [0, 0x38, 0xE3, 0x8E, 0x39, 0] (by decide)
  rw [ReadsSteps, if_neg (by decide)] at h
  obtain ⟨err, herr⟩ := h
  have hfault : (⟨typeKeyboardMacroReport, [0, 0x38, 0xE3, 0x8E, 0x39, 0]⟩ :
      Message).keyboardMacroReport = .fault := by decide
  rw [hfault] at herr
  cases herr

end JetKvm.HidRpc
