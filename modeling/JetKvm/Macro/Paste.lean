import JetKvm.Library.PrefixCode
import JetKvm.Macro.Compile
import JetKvm.Macro.Executor

/-!
# Pasted text

The browser turns a text into a macro, one character after the other, by the table of a keyboard
layout. Every step of the macro presses one key and releases it before the next, so that the host
sees each key of the text go down, in order, also when the same key comes twice, as long as the keys
with which the page releases are zeros. A host that reads its keys by the same table gets the
characters back, when no character of the table is typed as the beginning of another.
-/

namespace JetKvm.Macro

open HidRpc (KeyboardMacroStep)

/-! ### Layouts -/

structure KeyInfo where
  key : String
  shift : Bool := false
  altRight : Bool := false
deriving DecidableEq, Repr

structure KeyCombo extends KeyInfo where
  deadKey : Bool := false
  accentKey : Option KeyInfo := none
deriving DecidableEq, Repr

/-- The characters of a layout, and how they are typed. -/
structure KeyboardLayout where
  chars : List (String × KeyCombo)
deriving DecidableEq, Repr

/-! ### The browser -/

def defaultDelay : ℤ := 20

/-- The delay of the steps. What is not a number is kept, and counts as zero where it is used. -/
def pasteDelay : Option ℤ → ℤ
  | none => 0
  | some delayValue => if delayValue < 0 ∨ delayValue > 65534 then defaultDelay else delayValue

/-- The names of the modifiers of a key. -/
def modifierNames (info : KeyInfo) : List String :=
  (if info.shift then ["ShiftLeft"] else []) ++ if info.altRight then ["AltRight"] else []

/-- The step that presses a key. -/
def keyStep (delay : ℤ) (info : KeyInfo) : MacroStep where
  keys := [info.key]
  modifiers := modifierNames info
  delay := delay

/-- The keys that type a character: its accent first, and a space after a dead key. -/
def comboKeys (combo : KeyCombo) : List KeyInfo :=
  combo.accentKey.toList ++ [combo.toKeyInfo] ++
    if combo.deadKey then [{ key := "Space" }] else []

/-- How a character is typed, if it is. -/
def findCombo (layout : KeyboardLayout) (normalizedChar : String) : Option KeyCombo :=
  match layout.chars.lookup normalizedChar with
  | none => none
  | some combo => if combo.key = "" then none else some combo

/-- The steps of the macro that types a text. -/
def onConfirmPaste (layout : KeyboardLayout) (normalize : Char → String) (delayValue : Option ℤ)
    (text : List Char) : List MacroStep :=
  text.flatMap fun char =>
    match findCombo layout (normalize char) with
    | none => []
    | some combo => (comboKeys combo).map (keyStep (pasteDelay delayValue))

/-! ### The host -/

/-- A key that goes down, and the modifiers that are down with it. -/
structure Stroke where
  modifier : UInt8
  key : UInt8
deriving DecidableEq, Repr

/-- The keys that are down in the second report and not in the first. The first codes are not keys
but errors. -/
def newKeys (before after : List UInt8) : List UInt8 :=
  after.filter fun key => 3 < key ∧ key ∉ before

/-- The keys that go down in some reports, after a first one. -/
def strokes (before : KeysDownState) : List KeysDownState → List Stroke
  | [] => []
  | report :: reports =>
      (newKeys before.keys report.keys).map (Stroke.mk report.modifier) ++ strokes report reports

/-- The bits of the modifiers of a key. -/
def keyMask (info : KeyInfo) : ℕ :=
  (if info.shift then 0x02 else 0) + if info.altRight then 0x40 else 0

/-- The code of a key, if it has one. -/
def keyCode (info : KeyInfo) : List ℕ :=
  (List.lookup info.key keys).toList

/-- What the host sees of a key. A media key is not reported by the keyboard. -/
def keyStrokes (info : KeyInfo) : List Stroke :=
  ((keyCode info).filter fun code => !isKeyboardMediaKey (UInt8.ofNat code)).map fun code =>
    { modifier := UInt8.ofNat (keyMask info), key := UInt8.ofNat code }

/-- What the host sees of a character. -/
def comboStrokes (combo : KeyCombo) : List Stroke :=
  (comboKeys combo).flatMap keyStrokes

/-- The characters of a text that are typed. -/
def typedChars (layout : KeyboardLayout) (normalize : Char → String) (text : List Char) :
    List (String × KeyCombo) :=
  text.filterMap fun char => (findCombo layout (normalize char)).map (normalize char, ·)

/-- What the host sees of a text. -/
def textStrokes (layout : KeyboardLayout) (normalize : Char → String) (text : List Char) :
    List Stroke :=
  (typedChars layout normalize text).flatMap fun e => comboStrokes e.2

variable {before : KeysDownState} {reports reports' : List KeysDownState}

theorem strokes_append :
  strokes before (reports ++ reports') =
    strokes before reports ++ strokes (reports.getLast?.getD before) reports'
  := by
  induction reports generalizing before with
  | nil => rfl
  | cons report reports ih =>
      rw [List.cons_append, strokes, strokes, ih, List.append_assoc, List.getLast?_cons]
      rfl

/-- The host has seen the beginning of what it will have seen. -/
theorem strokes_prefix (h : reports <+: reports') :
  strokes before reports <+: strokes before reports'
  := by
  obtain ⟨rest, rfl⟩ := h
  rw [strokes_append]
  apply List.prefix_append

/-- No key goes down when all of them go up. -/
theorem strokes_allUp :
  strokes before [.allUp] = []
  := by
  simp [strokes, newKeys, KeysDownState.allUp, noKeys]

/-! ### The steps of a key -/

variable {info : KeyInfo} {delay : ℤ} {resetKeys : List ℤ}

/-- The press and the release that are sent for a key, if it has a code or a modifier. -/
def sentKey (delay : ℤ) (info : KeyInfo) : List KeyboardMacroStep :=
  if keyCode info = [] ∧ keyMask info = 0 then []
  else
    [{ modifier := UInt8.ofNat (keyMask info)
       keys := (keyCode info).map UInt8.ofNat ++
        List.replicate (hidKeyBufferSize - (keyCode info).length) 0
       delay := 20 },
      { modifier := 0, keys := noKeys
        delay := UInt16.ofNat (if delay = 0 then 100 else delay).toNat }]

/-- The press and the release of a key in the browser. -/
def browserKey (resetKeys : List ℤ) (delay : ℤ) (info : KeyInfo) : List Browser.KeyboardMacroStep :=
  if keyCode info = [] ∧ keyMask info = 0 then []
  else
    [{ keys := (keyCode info).map Int.ofNat, modifier := keyMask info, delay := 20 },
      { keys := resetKeys, modifier := 0, delay := if delay = 0 then 100 else delay }]

theorem keyCode_range :
  ∀ code ∈ keyCode info, 3 < code ∧ code < 256
  := by
  have hkeys : ∀ e ∈ keys, 3 < e.2 ∧ e.2 < 256 := by
    decide +kernel
  intro code hcode
  exact hkeys _ (mem_of_lookup (Option.mem_toList.mp hcode))

theorem keyCode_length_le (info : KeyInfo) :
  (keyCode info).length ≤ 1
  := by
  rw [keyCode]
  exact Option.length_toList_le

theorem keyMask_le (info : KeyInfo) :
  keyMask info ≤ 0x42
  := by
  rw [keyMask]
  split
  · split <;> decide
  · split <;> decide

/-- The masks of the modifiers of a key. -/
theorem mapM_modifierNames (info : KeyInfo) :
  ∃ masks, (modifierNames info).mapM (List.lookup · modifiers) = some masks ∧
    masks.foldl (· + ·) 0 = keyMask info
  := by
  obtain ⟨key, shift, altRight⟩ := info
  cases shift
  · cases altRight
    · exact ⟨[], rfl, rfl⟩
    · exact ⟨[0x40], rfl, rfl⟩
  · cases altRight
    · exact ⟨[0x02], rfl, rfl⟩
    · exact ⟨[0x02, 0x40], rfl, rfl⟩

theorem pressAndRelease_keyStep :
  pressAndRelease resetKeys (keyStep delay info) = .ok (browserKey resetKeys delay info)
  := by
  obtain ⟨masks, hmasks, hsum⟩ := mapM_modifierNames info
  have hvalues : ((keyStep delay info).keys.filterMap (List.lookup · keys)).filter (· ≠ 0) =
      keyCode info := by
    have hcode : [info.key].filterMap (List.lookup · keys) = keyCode info := by
      rw [keyCode]
      cases h : List.lookup info.key keys with
      | none => simp [h]
      | some code => simp [h]
    rw [keyStep, hcode, List.filter_eq_self]
    intro code hmem
    have := keyCode_range code hmem
    simp
    omega
  rw [pressAndRelease, hvalues]
  dsimp only [keyStep]
  rw [hmasks]
  dsimp only
  rw [hsum, browserKey]
  by_cases hnone : keyCode info = [] ∧ keyMask info = 0
  · rw [if_pos hnone, if_neg]
    rw [hnone.1, hnone.2]
    decide
  · rw [if_neg hnone]
    apply if_pos
    rw [gt_iff_lt, List.length_pos_iff, gt_iff_lt, Nat.pos_iff_ne_zero]
    exact not_and_or.mp hnone

/-- A step in the ranges of the message is sent with its own fields. -/
theorem sentStep_eq {step : Browser.KeyboardMacroStep} (h : step.InRange) :
  sentStep step = .ok {
    modifier := Word.toByte step.modifier
    keys := Browser.uint8Array step.slots
    delay := UInt16.ofNat step.delay.toNat }
  := by
  rw [sentStep, h.marshal]
  rfl

/-- The release of a key is sent. -/
theorem sentStep_release (zeros : Zeros resetKeys) (hlow : 0 ≤ delay) (hhigh : delay < 2 ^ 16) :
  sentStep { keys := resetKeys, modifier := 0, delay := delay } =
    .ok { modifier := 0, keys := noKeys, delay := UInt16.ofNat delay.toNat }
  := by
  obtain ⟨hlength, hslots⟩ := (Known.slots_eq_iff 0 delay).mpr zeros
  rw [sentStep_eq, hslots]
  · rfl
  · constructor
    · exact (by decide : Browser.withinUint8Range 0)
    · exact hlength
    · intro k hk
      rw [zeros.2 k hk]
      decide
    · exact ⟨hlow, hhigh⟩

/-- The press of a key is sent. -/
theorem sentStep_press (info : KeyInfo) :
  sentStep { keys := (keyCode info).map Int.ofNat, modifier := keyMask info, delay := 20 } =
    .ok { modifier := UInt8.ofNat (keyMask info)
          keys := (keyCode info).map UInt8.ofNat ++
            List.replicate (hidKeyBufferSize - (keyCode info).length) 0
          delay := 20 }
  := by
  have hmask := keyMask_le info
  have hlength := keyCode_length_le info
  rw [sentStep_eq]
  · rw [Known.toByte_ofNat, Browser.KeyboardMacroStep.slots, Browser.uint8Array_append,
      Browser.uint8Array, Browser.uint8Array, List.map_map, List.map_replicate, List.length_map]
    congr 3
    apply List.map_congr_left
    intro code _
    apply Known.toByte_ofNat
  · constructor
    · constructor
      · exact Int.natCast_nonneg _
      · dsimp only
        omega
    · rw [List.length_map]
      exact hlength.trans (by decide)
    · intro k hk
      obtain ⟨code, hcode, rfl⟩ := List.mem_map.mp hk
      have hlt := (keyCode_range code hcode).2
      constructor
      · exact Int.natCast_nonneg _
      · change (code : ℤ) ≤ 255
        omega
    · exact (by decide : (0 : ℤ) ≤ 20 ∧ (20 : ℤ) < 2 ^ 16)

theorem mapM_sentStep_browserKey (zeros : Zeros resetKeys) (hlow : 0 ≤ delay)
    (hhigh : delay < 2 ^ 16) :
  (browserKey resetKeys delay info).mapM sentStep = .ok (sentKey delay info)
  := by
  rw [browserKey, sentKey]
  split
  · rfl
  · have hdelay : 0 ≤ (if delay = 0 then 100 else delay) ∧
        (if delay = 0 then 100 else delay) < 2 ^ 16 := by
      split <;> omega
    rw [List.mapM_cons, List.mapM_cons, sentStep_press, sentStep_release zeros hdelay.1 hdelay.2]
    rfl

theorem pasteDelay_range (delayValue : Option ℤ) :
  0 ≤ pasteDelay delayValue ∧ pasteDelay delayValue < 2 ^ 16
  := by
  cases delayValue with
  | none => decide
  | some delayValue =>
      rw [pasteDelay]
      split
      · decide
      · omega

/-- What is sent for some keys, one after the other. -/
theorem executeMacroRemote_keyStep (zeros : Zeros resetKeys) (hlow : 0 ≤ delay)
    (hhigh : delay < 2 ^ 16) (infos : List KeyInfo) :
  executeMacroRemote resetKeys (infos.map (keyStep delay)) = .ok (infos.flatMap (sentKey delay))
  := by
  have hparts : (infos.map (keyStep delay)).mapM (pressAndRelease resetKeys) =
      .ok (infos.map (browserKey resetKeys delay)) := by
    induction infos with
    | nil => rfl
    | cons info infos ih =>
        rw [List.map_cons, List.mapM_cons, pressAndRelease_keyStep, ih]
        rfl
  have hsent : ((infos.map (browserKey resetKeys delay)).flatten).mapM sentStep =
      .ok (infos.flatMap (sentKey delay)) := by
    clear hparts
    induction infos with
    | nil => rfl
    | cons info infos ih =>
        rw [List.map_cons, List.flatten_cons, List.mapM_append,
          mapM_sentStep_browserKey zeros hlow hhigh, ih]
        rfl
  rw [executeMacroRemote, hparts]
  exact hsent

variable {layout : KeyboardLayout} {normalize : Char → String} {delayValue : Option ℤ}
  {text : List Char}

/-- The keys of a text. -/
def textKeys (layout : KeyboardLayout) (normalize : Char → String) (text : List Char) :
    List KeyInfo :=
  (typedChars layout normalize text).flatMap fun e => comboKeys e.2

theorem onConfirmPaste_eq :
  onConfirmPaste layout normalize delayValue text =
    (textKeys layout normalize text).map (keyStep (pasteDelay delayValue))
  := by
  induction text with
  | nil => rfl
  | cons char text ih =>
      rw [onConfirmPaste, List.flatMap_cons, ← onConfirmPaste, ih, textKeys, textKeys, typedChars,
        typedChars, List.filterMap_cons]
      cases findCombo layout (normalize char) with
      | none => rfl
      | some combo =>
          dsimp only [Option.map_some]
          rw [List.flatMap_cons, List.map_append]

/-- What is sent for a text. -/
def sentText (layout : KeyboardLayout) (normalize : Char → String) (delayValue : Option ℤ)
    (text : List Char) : List KeyboardMacroStep :=
  (textKeys layout normalize text).flatMap (sentKey (pasteDelay delayValue))

theorem executeMacroRemote_onConfirmPaste (zeros : Zeros resetKeys) :
  executeMacroRemote resetKeys (onConfirmPaste layout normalize delayValue text) =
    .ok (sentText layout normalize delayValue text)
  := by
  obtain ⟨hlow, hhigh⟩ := pasteDelay_range delayValue
  rw [onConfirmPaste_eq]
  exact executeMacroRemote_keyStep zeros hlow hhigh _

/-! ### The reports of a key -/

/-- The host sees the press of a key. -/
theorem strokes_press (up : before.keys = noKeys) (info : KeyInfo) (delay : UInt16) :
  strokes before [stepReport
      { modifier := UInt8.ofNat (keyMask info)
        keys := (keyCode info).map UInt8.ofNat ++
          List.replicate (hidKeyBufferSize - (keyCode info).length) 0
        delay }] =
    keyStrokes info
  := by
  have hrange : ∀ code ∈ keyCode info, 3 < code ∧ code < 256 := keyCode_range
  have hlength := keyCode_length_le info
  rw [strokes, strokes, List.append_nil, keyStrokes, stepReport, newKeys, up]
  cases hcode : keyCode info with
  | nil => rfl
  | cons code rest =>
      rw [hcode] at hrange hlength
      obtain rfl := List.length_eq_zero_iff.mp (Nat.le_zero.mp (Nat.le_of_succ_le_succ hlength))
      obtain ⟨hlow, hhigh⟩ := hrange code List.mem_cons_self
      have hkey : 3 < UInt8.ofNat code := by
        rw [UInt8.lt_iff_toNat_lt, UInt8.toNat_ofNat_of_lt' hhigh]
        exact hlow
      have hzero : UInt8.ofNat code ≠ 0 := by
        intro hzero
        rw [hzero] at hkey
        cases hkey
      cases hmedia : isKeyboardMediaKey (UInt8.ofNat code) with
      | true => simp [stripMediaKeys, stripMediaKeysLoop, padKeys, hidKeyBufferSize, hmedia, hzero]
      | false =>
          simp [stripMediaKeys, stripMediaKeysLoop, padKeys, hidKeyBufferSize, hmedia, hzero,
            noKeys, hkey]

/-- The host sees nothing in the release of a key. -/
theorem stepReport_release (delay : UInt16) :
  stepReport { modifier := 0, keys := noKeys, delay } = .allUp
  := rfl

/-- The host sees each key of a text, and all keys are up after it. -/
theorem strokes_sentKey (up : before.keys = noKeys) (delay : ℤ) (info : KeyInfo) :
  strokes before ((sentKey delay info).map stepReport) = keyStrokes info ∧
    (((sentKey delay info).map stepReport).getLast?.getD before).keys = noKeys
  := by
  rw [sentKey]
  by_cases hnone : keyCode info = [] ∧ keyMask info = 0
  · rw [if_pos hnone, keyStrokes, hnone.1]
    exact ⟨rfl, up⟩
  · rw [if_neg hnone, List.map_cons, List.map_singleton, stepReport_release,
      ← List.singleton_append, strokes_append, strokes_press up, strokes_allUp, List.append_nil]
    exact ⟨rfl, rfl⟩

theorem strokes_flatMap_sentKey (up : before.keys = noKeys) (delay : ℤ) (infos : List KeyInfo) :
  strokes before ((infos.flatMap (sentKey delay)).map stepReport) = infos.flatMap keyStrokes
  := by
  induction infos generalizing before with
  | nil => rfl
  | cons info infos ih =>
      obtain ⟨hfirst, hup⟩ := strokes_sentKey up delay info
      rw [List.flatMap_cons, List.flatMap_cons, List.map_append, strokes_append, hfirst, ih hup]

/-- The host sees the whole text in the reports of all steps. -/
theorem strokes_sentText (up : before.keys = noKeys) (delayValue : Option ℤ) :
  strokes before ((sentText layout normalize delayValue text).map stepReport) =
    textStrokes layout normalize text
  := by
  rw [sentText, strokes_flatMap_sentKey up, textKeys, textStrokes, List.flatMap_assoc]
  rfl

/-! ### The reports of a run -/

variable {u : UsbGadget} {s t : MacroRun} {a : MacroAction} {steps : List KeyboardMacroStep}
  {tr : List (Lts.Transition MacroRun MacroAction)}

/-- The keyboard reports of a run, in order. -/
def runReports (tr : List (Lts.Transition MacroRun MacroAction)) : List KeysDownState :=
  tr.flatMap keyboardReportsIn

/-- The steps that have been reported, and those that are left, are all steps. A macro that has
found its context cancelled has reported that all keys are up instead of the rest. -/
def ReportedSoFar (steps : List KeyboardMacroStep) (reports : List KeysDownState)
    (s : MacroRun) : Prop :=
  match s.executor with
  | .loop macroLeft | .reported _ macroLeft | .sleep macroLeft =>
      ∃ done, steps = done ++ macroLeft ∧ reports = done.map stepReport
  | .returned true => ∃ done, done <+: steps ∧ reports = done.map stepReport ++ [.allUp]
  | .returned false => reports = steps.map stepReport

theorem ReportedSoFar.step (h : ReportedSoFar steps reports s) (step : MacroSteps s a t) :
  ReportedSoFar steps (reports ++ keyboardReportsIn ⟨s, a, t⟩) t
  := by
  cases step with
  | @cancel u ctxDone executor hnot =>
      rw [keyboardReportsIn_of_same rfl, List.append_nil]
      cases executor with
      | returned b => exact absurd rfl (hnot b)
      | loop | reported | sleep => apply h
  | finish =>
      obtain ⟨done, rfl, rfl⟩ := h
      rw [keyboardReportsIn_of_same rfl, List.append_nil]
      simp [ReportedSoFar]
  | report timer step macroLeft =>
      obtain ⟨done, rfl, rfl⟩ := h
      rw [keyboardReportsIn_report]
      use done ++ [step]
      simp [stepReport]
  | clear timer step macroLeft hsame =>
      rw [keyboardReportsIn_of_same hsame, List.append_nil]
      apply h
  | wake =>
      rw [keyboardReportsIn_of_same rfl, List.append_nil]
      apply h
  | abort macroLeft =>
      obtain ⟨done, rfl, rfl⟩ := h
      rw [keyboardReportsIn_report]
      exact ⟨done, List.prefix_append _ _, rfl⟩

theorem reportedSoFar_of_run (run : macroRunLts.Run (startMacro u steps) tr t) :
  ReportedSoFar steps (runReports tr) t
  := by
  induction run with
  | nil => exact ⟨[], rfl, rfl⟩
  | snoc run step ih =>
      rw [runReports, List.flatMap_append, List.flatMap_singleton]
      exact ih.step (macroSteps_of_step step)

/-- What the host has seen of a macro is the beginning of what it sees of all its steps. -/
theorem ReportedSoFar.strokes_prefix (h : ReportedSoFar steps reports s) (before : KeysDownState) :
  strokes before reports <+: strokes before (steps.map stepReport)
  := by
  rw [ReportedSoFar] at h
  split at h
  case h_1 | h_2 | h_3 =>
    obtain ⟨done, rfl, rfl⟩ := h
    rw [List.map_append]
    exact Macro.strokes_prefix (List.prefix_append _ _)
  case h_4 =>
    obtain ⟨done, hdone, rfl⟩ := h
    rw [strokes_append, strokes_allUp, List.append_nil]
    exact Macro.strokes_prefix (hdone.map _)
  case h_5 =>
    rw [h]

/-! ### The text that the host reads -/

/-- The words of the characters that are typed with the layout, one character each. -/
def KeyboardLayout.words (layout : KeyboardLayout) : List (String × List Stroke) :=
  (layout.chars.filter fun e => e.1.length = 1 ∧ e.2.key ≠ "").map fun e =>
    (e.1, comboStrokes e.2)

/-- The word of a character that is typed is in the table. -/
theorem mem_words {e : String × KeyCombo} (he : e ∈ typedChars layout normalize text)
    (single : e.1.length = 1) :
  (e.1, comboStrokes e.2) ∈ layout.words
  := by
  obtain ⟨char, -, htyped⟩ := List.mem_filterMap.mp he
  obtain ⟨combo, hcombo, rfl⟩ := Option.map_eq_some_iff.mp htyped
  rw [findCombo] at hcombo
  cases hlookup : layout.chars.lookup (normalize char) with
  | none =>
      rw [hlookup] at hcombo
      cases hcombo
  | some found =>
      rw [hlookup] at hcombo
      obtain ⟨hkey, hsame⟩ := Option.ite_none_left_eq_some.mp hcombo
      obtain rfl := Option.some.inj hsame
      apply List.mem_map_of_mem (a := (normalize char, found))
      rw [List.mem_filter]
      use mem_of_lookup hlookup
      exact decide_eq_true ⟨single, hkey⟩

/-- A host that reads the keys by a layout without ambiguities reads the characters of the text that
the layout has. -/
theorem decode_textStrokes (h : PrefixCode.PrefixFree layout.words)
    (single : ∀ e ∈ typedChars layout normalize text, e.1.length = 1) :
  PrefixCode.decode layout.words text.length (textStrokes layout normalize text) =
    some ((typedChars layout normalize text).map Prod.fst)
  := by
  have hentries : ∀ e ∈ (typedChars layout normalize text).map fun e => (e.1, comboStrokes e.2),
      e ∈ layout.words := by
    intro e he
    obtain ⟨typed, htyped, rfl⟩ := List.mem_map.mp he
    exact mem_words htyped (single typed htyped)
  have hlength : ((typedChars layout normalize text).map fun e => (e.1, comboStrokes e.2)).length ≤
      text.length := by
    rw [List.length_map]
    apply List.length_filterMap_le
  have hdecode := h.decode_flatMap hentries hlength
  rw [List.flatMap_map, List.map_map] at hdecode
  exact hdecode

/-- The characters of the layout `en_US`. -/
def enUS : KeyboardLayout where
  chars :=
    [("A", { key := "KeyA", shift := true }), ("B", { key := "KeyB", shift := true }),
      ("C", { key := "KeyC", shift := true }), ("D", { key := "KeyD", shift := true }),
      ("E", { key := "KeyE", shift := true }), ("F", { key := "KeyF", shift := true }),
      ("G", { key := "KeyG", shift := true }), ("H", { key := "KeyH", shift := true }),
      ("I", { key := "KeyI", shift := true }), ("J", { key := "KeyJ", shift := true }),
      ("K", { key := "KeyK", shift := true }), ("L", { key := "KeyL", shift := true }),
      ("M", { key := "KeyM", shift := true }), ("N", { key := "KeyN", shift := true }),
      ("O", { key := "KeyO", shift := true }), ("P", { key := "KeyP", shift := true }),
      ("Q", { key := "KeyQ", shift := true }), ("R", { key := "KeyR", shift := true }),
      ("S", { key := "KeyS", shift := true }), ("T", { key := "KeyT", shift := true }),
      ("U", { key := "KeyU", shift := true }), ("V", { key := "KeyV", shift := true }),
      ("W", { key := "KeyW", shift := true }), ("X", { key := "KeyX", shift := true }),
      ("Y", { key := "KeyY", shift := true }), ("Z", { key := "KeyZ", shift := true }),
      ("a", { key := "KeyA" }), ("b", { key := "KeyB" }), ("c", { key := "KeyC" }),
      ("d", { key := "KeyD" }), ("e", { key := "KeyE" }), ("f", { key := "KeyF" }),
      ("g", { key := "KeyG" }), ("h", { key := "KeyH" }), ("i", { key := "KeyI" }),
      ("j", { key := "KeyJ" }), ("k", { key := "KeyK" }), ("l", { key := "KeyL" }),
      ("m", { key := "KeyM" }), ("n", { key := "KeyN" }), ("o", { key := "KeyO" }),
      ("p", { key := "KeyP" }), ("q", { key := "KeyQ" }), ("r", { key := "KeyR" }),
      ("s", { key := "KeyS" }), ("t", { key := "KeyT" }), ("u", { key := "KeyU" }),
      ("v", { key := "KeyV" }), ("w", { key := "KeyW" }), ("x", { key := "KeyX" }),
      ("y", { key := "KeyY" }), ("z", { key := "KeyZ" }), ("1", { key := "Digit1" }),
      ("!", { key := "Digit1", shift := true }), ("2", { key := "Digit2" }),
      ("@", { key := "Digit2", shift := true }), ("3", { key := "Digit3" }),
      ("#", { key := "Digit3", shift := true }), ("4", { key := "Digit4" }),
      ("$", { key := "Digit4", shift := true }), ("%", { key := "Digit5", shift := true }),
      ("5", { key := "Digit5" }), ("^", { key := "Digit6", shift := true }),
      ("6", { key := "Digit6" }), ("&", { key := "Digit7", shift := true }),
      ("7", { key := "Digit7" }), ("*", { key := "Digit8", shift := true }),
      ("8", { key := "Digit8" }), ("(", { key := "Digit9", shift := true }),
      ("9", { key := "Digit9" }), (")", { key := "Digit0", shift := true }),
      ("0", { key := "Digit0" }), ("-", { key := "Minus" }),
      ("_", { key := "Minus", shift := true }), ("=", { key := "Equal" }),
      ("+", { key := "Equal", shift := true }), ("'", { key := "Quote" }),
      ("\"", { key := "Quote", shift := true }), (",", { key := "Comma" }),
      ("<", { key := "Comma", shift := true }), ("/", { key := "Slash" }),
      ("?", { key := "Slash", shift := true }), (".", { key := "Period" }),
      (">", { key := "Period", shift := true }), (";", { key := "Semicolon" }),
      (":", { key := "Semicolon", shift := true }),
      ("¶", { key := "Semicolon", altRight := true }), ("[", { key := "BracketLeft" }),
      ("\x7b", { key := "BracketLeft", shift := true }),
      ("«", { key := "BracketLeft", altRight := true }), ("]", { key := "BracketRight" }),
      ("\x7d", { key := "BracketRight", shift := true }),
      ("»", { key := "BracketRight", altRight := true }), ("\\", { key := "Backslash" }),
      ("|", { key := "Backslash", shift := true }),
      ("¬", { key := "Backslash", altRight := true }), ("`", { key := "Backquote" }),
      ("~", { key := "Backquote", shift := true }), ("§", { key := "IntlBackslash" }),
      ("±", { key := "IntlBackslash", shift := true }), (" ", { key := "Space" }),
      ("\n", { key := "Enter" }), ("Enter", { key := "Enter" }), ("Escape", { key := "Escape" }),
      ("Tab", { key := "Tab" }), ("PrintScreen", { key := "Prt Sc" }),
      ("SystemRequest", { key := "Prt Sc", shift := true }),
      ("ScrollLock", { key := "ScrollLock" }), ("Pause", { key := "Pause" }),
      ("Break", { key := "Pause", shift := true }), ("Insert", { key := "Insert" }),
      ("Delete", { key := "Delete" })]

/-- No character of the layout is typed as the beginning of another. -/
theorem prefixFree_enUS : PrefixCode.PrefixFree enUS.words
  := by
  decide +kernel

/-- A text with a character that the layout does not have. -/
def greeting : List Char :=
  ['H', 'i', 'ü', '!']

/-- The text is pasted to its end. -/
theorem exists_run_greeting :
  ∃ tr t, macroRunLts.Run (startMacro newUsbGadget
      (sentText enUS String.singleton (some 20) greeting)) tr t ∧ t.executor = .returned false
  := by
  obtain ⟨tr, t, run, -, hobserve⟩ :=
    Lts.exists_run_of_observe macroStep
      (startMacro newUsbGadget (sentText enUS String.singleton (some 20) greeting))
      (List.replicate 19 (.go true)) MacroRun.executor
      (by decide +kernel : _ = some (Executor.returned false))
  exact ⟨tr, t, run, hobserve⟩

end JetKvm.Macro
