import JetKvm.Library.Scanner
import Mathlib.Data.List.Infix

/-!
# Normalisation of the serial console

What is shown on the serial console is normalised first: control bytes are made visible, tabs
and line endings are shown as the options say, and escape sequences are kept or made visible.
The normalised text is cut into lines, each of which keeps its line ending.
-/

namespace JetKvm

/-- The bytes of the serial line. -/
abbrev Bytes := List UInt8

/-- The bytes of a text. -/
def bytes (text : String) : Bytes :=
  text.toByteArray.data.toList

/-- What becomes of control characters. -/
inductive NormalizeMode where
  | caret
  | names
  | hex
deriving DecidableEq, Repr

/-- What ends a line. -/
inductive LineEndingMode where
  | asIs
  | lf
  | cr
  | crlf
  | lfcr
deriving DecidableEq, Repr

/-- How the text is normalised. -/
structure NormalizationOptions where
  mode : NormalizeMode
  lineEnding : LineEndingMode
  tabRender : Bytes
  preserveANSI : Bool
  showNLTag : Bool
deriving DecidableEq, Repr

def esc : UInt8 := 0x1B

def bel : UInt8 := 0x07

def tab : UInt8 := 0x09

def lf : UInt8 := 0x0A

def cr : UInt8 := 0x0D

/-! ### Escape sequences -/

/-- The bytes up to the one that ends a CSI sequence, and the bytes after it. -/
def csi : Bytes → Bytes × Bytes
  | [] => ([], [])
  | c :: rest =>
      if 0x40 ≤ c ∧ c ≤ 0x7E then ([c], rest) else (c :: (csi rest).1, (csi rest).2)

/-- The bytes up to the BEL or the ST that ends an OSC sequence, and the bytes after it. -/
def osc : Bytes → Bytes × Bytes
  | [] => ([], [])
  | [c] => ([c], [])
  | c :: d :: rest =>
      if c = bel then ([c], d :: rest)
      else if c = esc ∧ d = '\\'.toUInt8 then ([c, d], rest)
      else (c :: (osc (d :: rest)).1, (osc (d :: rest)).2)

/-- The escape sequence that is kept, and the bytes after it. -/
def ansiSequence (opt : NormalizationOptions) (b : UInt8) (rest : Bytes) :
    Option (Bytes × Bytes) :=
  match rest with
  | [] => none
  | c :: more =>
      if opt.preserveANSI && b == esc then
        if c = '['.toUInt8 then some (b :: c :: (csi more).1, (csi more).2)
        else if c = ']'.toUInt8 then some (b :: c :: (osc more).1, (osc more).2)
        else none
      else none

/-- A control sequence is cut off at its end. -/
theorem csi_append (input : Bytes) :
  (csi input).1 ++ (csi input).2 = input
  := by
  induction input with
  | nil => rfl
  | cons c rest ih =>
      rw [csi]
      split
      · rfl
      · rw [List.cons_append, ih]

/-- So is a command of the operating system. -/
theorem osc_append (input : Bytes) :
  (osc input).1 ++ (osc input).2 = input
  := by
  induction input using osc.induct with
  | case1 => rfl
  | case2 c => rfl
  | case3 d rest => rfl
  | case4 c d rest hc hst =>
      rw [osc, if_neg hc, if_pos hst]
      rfl
  | case5 c d rest hc hst ih => rw [osc, if_neg hc, if_neg hst, List.cons_append, ih]

/-- An escape sequence is kept as it is. -/
theorem ansiSequence_append {opt : NormalizationOptions} {b : UInt8} {rest shown left : Bytes}
    (h : ansiSequence opt b rest = some (shown, left)) :
  ∃ body, shown = b :: body ∧ body ++ left = rest
  := by
  cases rest with
  | nil => cases h
  | cons c more =>
      rw [ansiSequence] at h
      split at h
      · split at h
        · obtain ⟨rfl, rfl⟩ := Prod.mk.inj (Option.some.inj h)
          use c :: (csi more).1, rfl
          rw [List.cons_append, csi_append]
        · split at h
          · obtain ⟨rfl, rfl⟩ := Prod.mk.inj (Option.some.inj h)
            use c :: (osc more).1, rfl
            rw [List.cons_append, osc_append]
          · cases h
      · cases h

/-! ### Normalisation -/

/-- Two bytes that make one line ending. -/
def isPair (b c : UInt8) : Bool :=
  b == cr && c == lf || b == lf && c == cr

/-- The tag of the line ending that was seen. -/
def newlineTag (b : UInt8) (pair : Bool) : Bytes :=
  if pair then if b = cr then bytes "<CRLF>" else bytes "<LFCR>"
  else if b = cr then bytes "<CR>" else bytes "<LF>"

/-- The line ending that is shown for the one that was seen. -/
def shownNewline (mode : LineEndingMode) (seen : Bytes) : Bytes :=
  match mode with
  | .asIs => seen
  | .lf => [lf]
  | .cr => [cr]
  | .crlf => [cr, lf]
  | .lfcr => [lf, cr]

/-- A line ending that begins with `b`. -/
def normalizeNewline (opt : NormalizationOptions) (b : UInt8) (rest : Bytes) : Bytes × Bytes :=
  let tag (pair : Bool) := if opt.showNLTag then newlineTag b pair else []
  match rest with
  | [] => (tag false ++ shownNewline opt.lineEnding [b], [])
  | c :: more =>
      if isPair b c then (tag true ++ shownNewline opt.lineEnding [b, c], more)
      else (tag false ++ shownNewline opt.lineEnding [b], rest)

/-- The names of the control bytes. -/
def controlNames : List (UInt8 × String) :=
  [(0, "NUL"), (1, "SOH"), (2, "STX"), (3, "ETX"), (4, "EOT"), (5, "ENQ"), (6, "ACK"),
    (7, "BEL"), (8, "BS"), (9, "TAB"), (10, "LF"), (11, "VT"), (12, "FF"), (13, "CR"),
    (14, "SO"), (15, "SI"), (16, "DLE"), (17, "DC1"), (18, "DC2"), (19, "DC3"), (20, "DC4"),
    (21, "NAK"), (22, "SYN"), (23, "ETB"), (24, "CAN"), (25, "EM"), (26, "SUB"), (27, "ESC"),
    (28, "FS"), (29, "GS"), (30, "RS"), (31, "US"), (127, "DEL")]

/-- An upper-case hexadecimal digit. -/
def hexDigit (n : UInt8) : UInt8 :=
  if n < 10 then '0'.toUInt8 + n else 'A'.toUInt8 + (n - 10)

/-- The format `%02X`. -/
def hexByte (b : UInt8) : Bytes :=
  [hexDigit (b / 16), hexDigit (b % 16)]

/-- A control byte, made visible. -/
def normalizeControl (mode : NormalizeMode) (b : UInt8) : Bytes :=
  match mode with
  | .caret => if b = 0x7F then bytes "^?" else ['^'.toUInt8, '@'.toUInt8 + b]
  | .names =>
      match controlNames.lookup b with
      | some name => bytes "<" ++ bytes name ++ bytes ">"
      | none => bytes "0x" ++ hexByte b
  | .hex => bytes "\\x" ++ hexByte b

/-- What is shown for the next byte and for the bytes after it that belong to it, and the bytes
that are left. -/
def normalizeStep (opt : NormalizationOptions) (b : UInt8) (rest : Bytes) : Bytes × Bytes :=
  match ansiSequence opt b rest with
  | some shown => shown
  | none =>
      if b = cr ∨ b = lf then normalizeNewline opt b rest
      else if b = tab then (if opt.tabRender ≠ [] then opt.tabRender else [tab], rest)
      else if b < 0x20 ∨ b = 0x7F then (normalizeControl opt.mode b, rest)
      else ([b], rest)

/-- A line ending takes at least its first byte. -/
theorem normalizeNewline_length_le (opt : NormalizationOptions) (b : UInt8) (rest : Bytes) :
  (normalizeNewline opt b rest).2.length ≤ rest.length
  := by
  cases rest with
  | nil => apply Nat.le_refl
  | cons c more =>
      rw [normalizeNewline]
      split
      · apply Nat.le_succ
      · apply Nat.le_refl

/-- So does every step of the loop, which is why it ends. -/
theorem normalizeStep_length_le (opt : NormalizationOptions) (b : UInt8) (rest : Bytes) :
  (normalizeStep opt b rest).2.length ≤ rest.length
  := by
  rw [normalizeStep]
  split
  · rename_i shown hshown
    obtain ⟨body, -, hrest⟩ := ansiSequence_append hshown
    rw [← hrest, List.length_append]
    apply Nat.le_add_left
  · split
    · apply normalizeNewline_length_le
    · split
      · apply Nat.le_refl
      · split
        · apply Nat.le_refl
        · apply Nat.le_refl

/-- The loop of `normalize`. -/
def normalizer (opt : NormalizationOptions) : Scanner UInt8 Bytes where
  step := normalizeStep opt
  length_le := normalizeStep_length_le opt

/-- The loop over the input. -/
def normalize (input : Bytes) (opt : NormalizationOptions) : Bytes :=
  ((normalizer opt).scan input).flatten

/-- Nothing is shown of nothing. -/
@[simp]
theorem normalize_nil (opt : NormalizationOptions) : normalize [] opt = []
  := by
  rw [normalize, Scanner.scan_nil, List.flatten_nil]

/-- The first step is shown before the rest. -/
theorem normalize_cons (b : UInt8) (rest : Bytes) (opt : NormalizationOptions) :
  normalize (b :: rest) opt =
    (normalizeStep opt b rest).1 ++ normalize (normalizeStep opt b rest).2 opt
  := by
  rw [normalize, Scanner.scan_cons]
  rfl

/-- A line ending is shown. -/
theorem shownNewline_ne_nil (mode : LineEndingMode) {seen : Bytes} (h : seen ≠ []) :
  shownNewline mode seen ≠ []
  := by
  cases mode with
  | asIs => apply h
  | lf => apply List.cons_ne_nil
  | cr => apply List.cons_ne_nil
  | crlf => apply List.cons_ne_nil
  | lfcr => apply List.cons_ne_nil

/-- Whatever the mode, something is shown of it. -/
theorem normalizeNewline_ne_nil (opt : NormalizationOptions) (b : UInt8) (rest : Bytes) :
  (normalizeNewline opt b rest).1 ≠ []
  := by
  cases rest with
  | nil =>
      apply List.append_ne_nil_of_right_ne_nil
      apply shownNewline_ne_nil _ (List.cons_ne_nil _ _)
  | cons c more =>
      rw [normalizeNewline]
      split
      · apply List.append_ne_nil_of_right_ne_nil
        apply shownNewline_ne_nil _ (List.cons_ne_nil _ _)
      · apply List.append_ne_nil_of_right_ne_nil
        apply shownNewline_ne_nil _ (List.cons_ne_nil _ _)

/-- Something is shown of every control character. -/
theorem normalizeControl_ne_nil (mode : NormalizeMode) (b : UInt8) :
  normalizeControl mode b ≠ []
  := by
  cases mode with
  | caret =>
      rw [normalizeControl]
      split
      · decide
      · apply List.cons_ne_nil
  | names =>
      rw [normalizeControl]
      split
      · apply List.append_ne_nil_of_right_ne_nil
        decide
      · apply List.append_ne_nil_of_right_ne_nil
        apply List.cons_ne_nil
  | hex =>
      apply List.append_ne_nil_of_right_ne_nil
      apply List.cons_ne_nil

/-- Something is shown for every byte that is not part of what is shown for another. -/
theorem normalizeStep_ne_nil (opt : NormalizationOptions) (b : UInt8) (rest : Bytes) :
  (normalizeStep opt b rest).1 ≠ []
  := by
  rw [normalizeStep]
  split
  · rename_i shown hshown
    obtain ⟨body, hbody, -⟩ := ansiSequence_append hshown
    rw [hbody]
    apply List.cons_ne_nil
  · split
    · apply normalizeNewline_ne_nil
    · split
      · dsimp only
        split
        · assumption
        · apply List.cons_ne_nil
      · split
        · apply normalizeControl_ne_nil
        · apply List.cons_ne_nil

/-- Something is shown for every input but the empty one. -/
theorem normalize_ne_nil {input : Bytes} (opt : NormalizationOptions) (h : input ≠ []) :
  normalize input opt ≠ []
  := by
  cases input with
  | nil => exact absurd rfl h
  | cons b rest =>
      rw [normalize_cons]
      apply List.append_ne_nil_of_left_ne_nil (normalizeStep_ne_nil opt b rest)

/-! ### Lines -/

/-- `strings.SplitAfter`, when `piece` has been read since the last separator. -/
def splitAfterFrom (sep piece : Bytes) : Bytes → List Bytes
  | [] => [piece]
  | b :: rest =>
      let longer := piece ++ [b]
      if sep.isSuffixOf longer then longer :: splitAfterFrom sep [] rest
      else splitAfterFrom sep longer rest

/-- `strings.SplitAfter`. -/
def splitAfter (text sep : Bytes) : List Bytes :=
  splitAfterFrom sep [] text

/-- The loop of `splitAfterAnyEOL` over the bytes, when `piece` has been read since the last
line ending. -/
def scanLines (piece : Bytes) : Bytes → List Bytes
  | [] => if piece = [] then [] else [piece]
  | [b] => [piece ++ [b]]
  | b :: c :: rest =>
      if b = cr ∨ b = lf then
        if isPair b c then (piece ++ [b, c]) :: scanLines [] rest
        else (piece ++ [b]) :: scanLines [] (c :: rest)
      else scanLines (piece ++ [b]) (c :: rest)

/-- The text in pieces, each of which ends a line, except perhaps the last. -/
def splitAfterAnyEOL (text : Bytes) (mode : LineEndingMode) : List Bytes :=
  if text = [] then []
  else
    match mode with
    | .lf => splitAfter text [lf]
    | .cr => splitAfter text [cr]
    | .crlf => splitAfter text [cr, lf]
    | .lfcr => splitAfter text [lf, cr]
    | .asIs => scanLines [] text

/-- Whether the text ends a line. -/
def endsWithEOL (text : Bytes) (mode : LineEndingMode) : Bool :=
  if text = [] then false
  else
    match mode with
    | .crlf => [cr, lf].isSuffixOf text
    | .lfcr => [lf, cr].isSuffixOf text
    | .lf => [lf].isSuffixOf text
    | .cr => [cr].isSuffixOf text
    | .asIs =>
        [cr, lf].isSuffixOf text || [lf, cr].isSuffixOf text || [lf].isSuffixOf text ||
          [cr].isSuffixOf text

/-- Nothing is lost when the text is split at a separator. -/
theorem flatten_splitAfterFrom (sep piece text : Bytes) :
  (splitAfterFrom sep piece text).flatten = piece ++ text
  := by
  induction text generalizing piece with
  | nil =>
      rw [List.append_nil]
      apply List.flatten_singleton
  | cons b rest ih =>
      rw [splitAfterFrom]
      split
      · rw [List.flatten_cons, ih, List.append_assoc]
        rfl
      · rw [ih, List.append_assoc]
        rfl

/-- Nor when it is split at any line ending. -/
theorem flatten_scanLines (piece text : Bytes) :
  (scanLines piece text).flatten = piece ++ text
  := by
  induction piece, text using scanLines.induct with
  | case1 => rfl
  | case2 piece hpiece =>
      rw [scanLines, if_neg hpiece, List.append_nil]
      apply List.flatten_singleton
  | case3 piece b => apply List.flatten_singleton
  | case4 piece b c rest hb hpair ih =>
      rw [scanLines, if_pos hb, if_pos hpair, List.flatten_cons, ih, List.append_assoc]
      rfl
  | case5 piece b c rest hb hpair ih =>
      rw [scanLines, if_pos hb, if_neg hpair, List.flatten_cons, ih, List.append_assoc]
      rfl
  | case6 piece b c rest hb ih =>
      rw [scanLines, if_neg hb, ih, List.append_assoc]
      rfl

/-- Cutting a text into lines loses nothing. -/
theorem flatten_splitAfterAnyEOL (text : Bytes) (mode : LineEndingMode) :
  (splitAfterAnyEOL text mode).flatten = text
  := by
  unfold splitAfterAnyEOL
  split
  · symm
    assumption
  · cases mode with
    | asIs => apply flatten_scanLines
    | lf => apply flatten_splitAfterFrom
    | cr => apply flatten_splitAfterFrom
    | crlf => apply flatten_splitAfterFrom
    | lfcr => apply flatten_splitAfterFrom

end JetKvm
