import JetKvm.Library.Log
import JetKvm.SerialConsole.Broker
import JetKvm.SerialConsole.LineEndings

/-!
# The lines of the serial console

A label begins a line of the terminal: it is the first text that the terminal is sent, or it
comes directly after a line ending. The broker knows where the terminal stands by two flags, of
which one says that a received line is complete and the other that a transmitted line is not. A
transmitted text that had to wait is taken to be a complete line when it is shown, also when it
does not end with a line ending, and the next label then stands in the middle of a line.
-/

namespace JetKvm

variable {text line : Bytes} {lines : List Bytes} {b c d t u : ConsoleBroker} {atLineEnd : Bool}

namespace ConsoleBroker

/-- Lines without text are not shown. -/
theorem emitLines_of_flatten_nil (hlines : lines.flatten = []) :
  b.emitLines atLineEnd lines = (b, atLineEnd)
  := by
  induction lines with
  | nil => rfl
  | cons line lines ih =>
      rw [List.flatten_cons, List.append_eq_nil_iff] at hlines
      rw [emitLines, if_pos hlines.1, ih hlines.2]

/-- The broker stops at the end of a line exactly when the whole text ends with one. -/
theorem emitLines_snd (hwhole : WholeLines b.norm.lineEnding lines) (hlines : lines.flatten ≠ []) :
  (b.emitLines atLineEnd lines).2 = endsWithEOL lines.flatten b.norm.lineEnding
  := by
  induction lines generalizing b atLineEnd with
  | nil => exact absurd rfl hlines
  | cons line lines ih =>
      rw [List.flatten_cons] at hlines ⊢
      rw [emitLines]
      have hrest : WholeLines b.norm.lineEnding lines := (List.isChain_cons.mp hwhole).2
      by_cases hflatten : lines.flatten = []
      · rw [hflatten, List.append_nil] at hlines ⊢
        rw [if_neg hlines]
        dsimp only
        rw [emitLines_of_flatten_nil hflatten]
      · have hline : endsWithEOL line b.norm.lineEnding = true := by
          cases lines with
          | nil => exact absurd rfl hflatten
          | cons next lines => exact (List.isChain_cons_cons.mp hwhole).1
        have hsame : endsWithEOL (line ++ lines.flatten) b.norm.lineEnding =
            endsWithEOL lines.flatten b.norm.lineEnding := by
          apply Bool.eq_iff_iff.mpr
          constructor
          · apply endsWithEOL_of_append_line hline hflatten
          · apply endsWithEOL_append
        rw [hsame]
        split
        · apply ih hrest hflatten
        · exact ih hrest hflatten

end ConsoleBroker

namespace Emission

/-- The label that an emission begins with, if it has one. -/
def label : Emission → Bytes
  | .lineSep _ => []
  | .rx label _ => label
  | .tx label _ => label

end Emission

namespace ConsoleEvent

/-- Data of no length. -/
def Silent : ConsoleEvent → Prop
  | .rx data => data = []
  | .tx data _ => data = []
  | .quiet => False

instance : DecidablePred Silent
  | .rx _ => inferInstanceAs (Decidable (_ = _))
  | .tx _ _ => inferInstanceAs (Decidable (_ = _))
  | .quiet => inferInstanceAs (Decidable False)

/-- A received line is complete after the event, or is taken to be. -/
def EndsLine (norm : NormalizationOptions) : ConsoleEvent → Prop
  | .rx data => endsWithEOL (normalize data norm) norm.lineEnding = true
  | .tx .. => False
  | .quiet => True

instance (norm : NormalizationOptions) : DecidablePred (EndsLine norm)
  | .rx _ => inferInstanceAs (Decidable (_ = _))
  | .tx .. => inferInstanceAs (Decidable False)
  | .quiet => inferInstanceAs (Decidable True)

end ConsoleEvent

namespace ConsoleBroker

/-- What the terminal has been sent. -/
def output (b : ConsoleBroker) : Bytes :=
  (b.sent.map Emission.text).flatten

/-- A text stands at the beginning of a line, or ends with a line ending. -/
def AtLineStart (mode : LineEndingMode) (text : Bytes) : Prop :=
  text = [] ∨ endsWithEOL text mode = true

/-- Every label stands at the beginning of a line. -/
def Separated (b : ConsoleBroker) : Prop :=
  Permitted (fun before e => e.label ≠ [] →
    AtLineStart b.norm.lineEnding (before.map Emission.text).flatten) b.sent

/-- A transmitted text that waits is shown, and does not end with a line ending. -/
def LeavesLineOpen (b : ConsoleBroker) (a : ConsoleEvent) : Prop :=
  a.EndsLine b.norm ∧ ∃ ev, b.pendingTX = some ev ∧ ev.origin = .user ∧
    endsWithEOL (normalize ev.data b.norm) b.norm.lineEnding = false

instance (b : ConsoleBroker) (a : ConsoleEvent) : Decidable (b.LeavesLineOpen a) :=
  have : Decidable (∃ ev ∈ b.pendingTX, ev.origin = .user ∧
    endsWithEOL (normalize ev.data b.norm) b.norm.lineEnding = false) := inferInstance
  inferInstanceAs (Decidable (_ ∧ _))

/-- The terminal stands where the broker takes it to stand. -/
structure Tidy (b : ConsoleBroker) : Prop where
  active : b.txLineActive = true → b.rxAtLineEnd = true
  pending : b.pendingTX.isSome → b.rxAtLineEnd = false
  start : b.rxAtLineEnd = true → b.txLineActive = false → AtLineStart b.norm.lineEnding b.output

/-- The terminal stands in the middle of a line, and the broker takes it to stand at the
beginning of one. -/
structure Dangling (b : ConsoleBroker) : Prop where
  rxAtLineEnd : b.rxAtLineEnd = true
  txLineActive : b.txLineActive = false
  pendingTX : b.pendingTX = none
  quietTimer : b.quietTimer = false
  middle : ¬ AtLineStart b.norm.lineEnding b.output

/-! ### What is sent -/

/-- The broker `c` is the broker `b` after it has sent more text to the terminal. -/
structure Extends (b c : ConsoleBroker) : Prop where
  norm : c.norm = b.norm
  sent : b.sent <+: c.sent

/-- The output extends itself. -/
theorem Extends.refl :
  b.Extends b
  where
    norm := rfl
    sent := List.prefix_refl _

/-- The output grows step by step. -/
theorem Extends.trans (first : b.Extends c) (second : c.Extends d) :
  b.Extends d
  where
    norm := second.norm.trans first.norm
    sent := first.sent.trans second.sent

/-- What is emitted is added. -/
theorem extends_emitToTerminal {e : Emission} :
  b.Extends (b.emitToTerminal e)
  where
    norm := rfl
    sent := List.prefix_append _ _

/-- What is sent later does not mend a label in the middle of a line. -/
theorem Extends.separated (h : b.Extends c) (hc : c.Separated) :
  b.Separated
  := by
  obtain ⟨rest, hrest⟩ := h.sent
  rw [Separated, h.norm, ← hrest] at hc
  apply hc.left

/-- It is added at the end. -/
theorem output_emitToTerminal {e : Emission} :
  (b.emitToTerminal e).output = b.output ++ e.text
  := by
  rw [output, emitToTerminal]
  dsimp only
  split
  · rename_i htext
    rw [htext, List.append_nil, List.append_nil]
    rfl
  · rw [List.map_append, List.flatten_append, List.map_singleton, List.flatten_singleton]
    rfl

/-- An emission keeps every label at the beginning of a line exactly when its own label is. -/
theorem separated_emitToTerminal {e : Emission} (htext : e.text ≠ []) :
  (b.emitToTerminal e).Separated ↔
    b.Separated ∧ (e.label ≠ [] → AtLineStart b.norm.lineEnding b.output)
  := by
  rw [Separated, emitToTerminal]
  dsimp only
  rw [if_neg htext]
  apply permitted_snoc

/-- Where the terminal stands after an emission that ends with some text after its label. -/
theorem endsWithEOL_lineSep :
  endsWithEOL b.lineSep b.norm.lineEnding = true
  := by
  rw [lineSep]
  cases b.norm.lineEnding with
  | asIs => decide
  | lf => decide
  | cr => decide
  | crlf => decide
  | lfcr => decide

/-- After the end of a line the terminal stands at the beginning of one. -/
theorem atLineStart_lineSep :
  AtLineStart b.norm.lineEnding (b.emitToTerminal (.lineSep b.lineSep)).output
  := by
  rw [output_emitToTerminal]
  exact .inr (endsWithEOL_append _ endsWithEOL_lineSep)

/-- A separator keeps the lines apart. -/
theorem separated_lineSep :
  (b.emitToTerminal (.lineSep b.lineSep)).Separated ↔ b.Separated
  := by
  have htext : (Emission.lineSep b.lineSep).text ≠ [] := lineSep_ne_nil
  rw [separated_emitToTerminal htext]
  apply and_iff_left
  intro hlabel
  exact absurd rfl hlabel

/-! ### Received lines -/

/-- Emitting lines changes nothing but the output. -/
theorem emitLines_fst (atLineEnd : Bool) (lines : List Bytes) :
  ∃ sent, (b.emitLines atLineEnd lines).1 = { b with sent := sent } ∧ b.sent <+: sent
  := by
  induction lines generalizing b atLineEnd with
  | nil => exact ⟨b.sent, rfl, List.prefix_refl _⟩
  | cons line lines ih =>
      rw [emitLines]
      split
      · apply ih
      · obtain ⟨sent, hsent, hprefix⟩ := ih (b := b.emitToTerminal
          (.rx (if atLineEnd then labelRX ++ bytes ": " else []) line)) _
        exact ⟨sent, hsent, extends_emitToTerminal.sent.trans hprefix⟩

/-- Lines that are shown where the broker takes the terminal to stand keep every label at the
beginning of a line. -/
theorem separated_emitLines (h : b.Separated)
    (start : atLineEnd = true → AtLineStart b.norm.lineEnding b.output) (lines : List Bytes) :
  (b.emitLines atLineEnd lines).1.Separated ∧
    ((b.emitLines atLineEnd lines).2 = true →
      AtLineStart b.norm.lineEnding (b.emitLines atLineEnd lines).1.output)
  := by
  induction lines generalizing b atLineEnd with
  | nil => exact ⟨h, start⟩
  | cons line lines ih =>
      rw [emitLines]
      split
      · apply ih h start
      · rename_i hline
        apply ih
        · apply (separated_emitToTerminal (List.append_ne_nil_of_right_ne_nil _ hline)).mpr
          use h
          intro hlabel
          apply start
          by_contra hat
          rw [Emission.label, if_neg hat] at hlabel
          exact hlabel rfl
        · intro hend
          rw [output_emitToTerminal, Emission.text, ← List.append_assoc]
          exact .inr (endsWithEOL_append _ hend)

/-- The label of a line that is shown in the middle of another one stays there. -/
theorem not_separated_emitLines (hmiddle : ¬ AtLineStart b.norm.lineEnding b.output)
    (hlines : lines.flatten ≠ []) :
  ¬ (b.emitLines true lines).1.Separated
  := by
  induction lines with
  | nil => exact absurd rfl hlines
  | cons line lines ih =>
      rw [emitLines]
      split
      · rename_i hline
        rw [List.flatten_cons, hline] at hlines
        apply ih hlines
      · rename_i hline
        intro hseparated
        obtain ⟨sent, hsent, hprefix⟩ := emitLines_fst
          (b := b.emitToTerminal (.rx (labelRX ++ bytes ": ") line))
          (endsWithEOL line b.norm.lineEnding) lines
        rw [if_pos rfl, hsent] at hseparated
        have hextends : (b.emitToTerminal (.rx (labelRX ++ bytes ": ") line)).Extends
            { b.emitToTerminal (.rx (labelRX ++ bytes ": ") line) with sent := sent } :=
          ⟨rfl, hprefix⟩
        have hfirst := hextends.separated hseparated
        apply hmiddle
        apply ((separated_emitToTerminal (List.append_ne_nil_of_right_ne_nil _ hline)).mp hfirst).2
        apply List.append_ne_nil_of_right_ne_nil
        decide

/-! ### Transmitted texts -/

/-- A received line that is not complete is ended before a transmitted text. -/
def startTX (b : ConsoleBroker) : ConsoleBroker :=
  if !b.rxAtLineEnd && !b.txLineActive then
    { b.emitToTerminal (.lineSep b.lineSep) with rxAtLineEnd := true }
  else b

/-- A system text is ended if it does not end with a line ending. -/
def endTX (b : ConsoleBroker) (origin : TXOrigin) (ended : Bool) : ConsoleBroker :=
  if origin = .system ∧ ended = false then
    { b.emitToTerminal (.lineSep b.lineSep) with txLineActive := false }
  else if ended then { b with txLineActive := false } else b

/-- A transmitted text is begun, emitted, and ended. -/
theorem emitTX_eq (origin : TXOrigin) {data : Bytes} (hdata : data ≠ []) :
  b.emitTX data origin =
    (b.startTX.emitText (normalize data b.norm) origin).endTX origin
      (endsWithEOL (normalize data b.norm) b.norm.lineEnding)
  := by
  rw [emitTX, if_neg hdata]
  dsimp only
  rw [if_neg (normalize_ne_nil b.norm hdata)]
  rfl

/-- Beginning it adds to the output. -/
theorem extends_startTX :
  b.Extends b.startTX
  := by
  rw [startTX]
  split
  · exact ⟨rfl, extends_emitToTerminal.sent⟩
  · apply Extends.refl

/-- It leaves whether a transmitted line is open. -/
theorem txLineActive_startTX :
  b.startTX.txLineActive = b.txLineActive
  := by
  rw [startTX]
  split
  · rfl
  · rfl

/-- A received line is ended before it, if no transmitted line is open. -/
theorem rxAtLineEnd_startTX :
  b.startTX.rxAtLineEnd = (b.rxAtLineEnd || !b.txLineActive)
  := by
  rw [startTX]
  split
  · rename_i hstart
    rw [(Bool.and_eq_true_iff.mp hstart).2, Bool.or_true]
  · rename_i hstart
    revert hstart
    cases b.rxAtLineEnd <;> cases b.txLineActive <;> decide

/-- Beginning keeps the lines apart. -/
theorem separated_startTX :
  b.startTX.Separated ↔ b.Separated
  := by
  rw [startTX]
  split
  · apply separated_lineSep
  · rfl

/-- A text that is to follow a label is shown at the beginning of a line. -/
theorem atLineStart_startTX (hactive : b.txLineActive = false)
    (start : b.rxAtLineEnd = true → AtLineStart b.norm.lineEnding b.output) :
  AtLineStart b.norm.lineEnding b.startTX.output
  := by
  rw [startTX]
  split
  · apply atLineStart_lineSep
  · rename_i hstart
    apply start
    rw [hactive, Bool.not_false, Bool.and_true, Bool.not_eq_true', Bool.not_eq_false] at hstart
    apply hstart

/-- Emitting it adds to the output. -/
theorem extends_emitText (text : Bytes) (origin : TXOrigin) :
  b.Extends (b.emitText text origin)
  := by
  rw [emitText]
  split
  · apply extends_emitToTerminal
  · exact ⟨rfl, extends_emitToTerminal.sent⟩

/-- Then a transmitted line is open. -/
theorem txLineActive_emitText (text : Bytes) (origin : TXOrigin) :
  (b.emitText text origin).txLineActive = true
  := by
  rw [emitText]
  split
  · assumption
  · rfl

/-- Emitting it leaves the received line. -/
theorem rxAtLineEnd_emitText (text : Bytes) (origin : TXOrigin) :
  (b.emitText text origin).rxAtLineEnd = b.rxAtLineEnd
  := by
  rw [emitText]
  split
  · rfl
  · rfl

/-- A text has no label in the middle of a transmitted line. -/
theorem separated_emitText (origin : TXOrigin) (htext : text ≠ []) :
  (b.emitText text origin).Separated ↔
    b.Separated ∧ (b.txLineActive = false → AtLineStart b.norm.lineEnding b.output)
  := by
  rw [emitText]
  split
  · rename_i hactive
    have hemit : (b.emitToTerminal (.tx [] text)).Separated ↔ _ := separated_emitToTerminal htext
    rw [hemit, hactive]
    simp [Emission.label]
  · rename_i hactive
    have hne : (Emission.tx (txLabel origin) text).text ≠ [] :=
      List.append_ne_nil_of_right_ne_nil _ htext
    have hlabel : txLabel origin ≠ [] := by
      cases origin with
      | user => decide
      | system => decide
    have hemit : Separated { b.emitToTerminal (.tx (txLabel origin) text) with
      txLineActive := true } ↔ _ := separated_emitToTerminal hne
    rw [hemit, (Bool.not_eq_true _).mp hactive]
    apply and_congr_right
    intro _
    rw [forall_prop_of_true rfl]
    apply forall_prop_of_true hlabel

/-- After a text that ends with a line ending the terminal stands at the beginning of a line. -/
theorem atLineStart_emitText (origin : TXOrigin) (h : endsWithEOL text b.norm.lineEnding = true) :
  AtLineStart b.norm.lineEnding (b.emitText text origin).output
  := by
  rw [emitText]
  split
  · rw [output_emitToTerminal]
    exact .inr (endsWithEOL_append _ h)
  · change AtLineStart _ (b.emitToTerminal (.tx (txLabel origin) text)).output
    rw [output_emitToTerminal]
    exact .inr (endsWithEOL_append _ (endsWithEOL_append _ h))

/-- After a label and a text that does not end with a line ending the terminal stands in the
middle of a line. -/
theorem middle_emitText (origin : TXOrigin) (hactive : b.txLineActive = false)
    (h : endsWithEOL text b.norm.lineEnding = false) :
  ¬ AtLineStart b.norm.lineEnding (b.emitText text origin).output
  := by
  rw [emitText, if_neg (Bool.eq_false_iff.mp hactive)]
  change ¬ AtLineStart _ (b.emitToTerminal (.tx (txLabel origin) text)).output
  have hlabel : ∃ front, txLabel origin = front ++ [' '.toUInt8] := by
    cases origin with
    | user => use labelTX ++ bytes ":"; decide
    | system => use labelTX ++ bytes "[System]:"; decide
  obtain ⟨front, hfront⟩ := hlabel
  have houtput : (b.emitToTerminal (.tx (txLabel origin) text)).output =
      b.output ++ front ++ ' '.toUInt8 :: text := by
    rw [output_emitToTerminal, Emission.text, hfront]
    simp
  rw [houtput]
  rintro (hnil | hend)
  · simp at hnil
  · rw [endsWithEOL_of_append (by decide) hend] at h
    cases h

/-- A user text that does not end with a line ending leaves its line open. -/
theorem endTX_of_open :
  b.endTX .user false = b
  := rfl

/-- Ending it adds to the output. -/
theorem extends_endTX (origin : TXOrigin) (ended : Bool) :
  b.Extends (b.endTX origin ended)
  := by
  rw [endTX]
  split
  · exact ⟨rfl, extends_emitToTerminal.sent⟩
  · split
    · exact ⟨rfl, List.prefix_refl _⟩
    · apply Extends.refl

/-- Ending it leaves the received line. -/
theorem rxAtLineEnd_endTX (origin : TXOrigin) (ended : Bool) :
  (b.endTX origin ended).rxAtLineEnd = b.rxAtLineEnd
  := by
  rw [endTX]
  split
  · rfl
  · split
    · rfl
    · rfl

/-- Ending keeps the lines apart. -/
theorem separated_endTX (origin : TXOrigin) (ended : Bool) :
  (b.endTX origin ended).Separated ↔ b.Separated
  := by
  rw [endTX]
  split
  · apply separated_lineSep
  · split
    · rfl
    · rfl

/-- After a transmitted line that is not left open, a new line begins. -/
theorem atLineStart_endTX {origin : TXOrigin} {ended : Bool}
    (h : ended = true → AtLineStart b.norm.lineEnding b.output)
    (hclosed : ¬ (origin = .user ∧ ended = false)) :
  AtLineStart b.norm.lineEnding (b.endTX origin ended).output ∧
    (b.endTX origin ended).txLineActive = false
  := by
  rw [endTX]
  split
  · exact ⟨atLineStart_lineSep, rfl⟩
  · rename_i hsystem
    cases ended with
    | true => exact ⟨h rfl, rfl⟩
    | false =>
        cases origin with
        | user => exact absurd ⟨rfl, rfl⟩ hclosed
        | system => exact absurd ⟨rfl, rfl⟩ hsystem

section EmitTX

variable {data : Bytes} (origin : TXOrigin) (hdata : data ≠ [])

include hdata

/-- A transmitted text adds to the output. -/
theorem extends_emitTX :
  b.Extends (b.emitTX data origin)
  := by
  rw [emitTX_eq origin hdata]
  exact (extends_startTX.trans (extends_emitText _ origin)).trans (extends_endTX origin _)

/-- It ends the received line, if no transmitted line was open. -/
theorem rxAtLineEnd_emitTX :
  (b.emitTX data origin).rxAtLineEnd = (b.rxAtLineEnd || !b.txLineActive)
  := by
  rw [emitTX_eq origin hdata, rxAtLineEnd_endTX, rxAtLineEnd_emitText, rxAtLineEnd_startTX]

/-- It keeps the lines apart when it begins at the start of a line. -/
theorem separated_emitTX :
  (b.emitTX data origin).Separated ↔
    b.Separated ∧ (b.txLineActive = false → AtLineStart b.norm.lineEnding b.startTX.output)
  := by
  rw [emitTX_eq origin hdata, separated_endTX,
    separated_emitText origin (normalize_ne_nil b.norm hdata), separated_startTX,
    txLineActive_startTX, extends_startTX.norm]

/-- A transmitted text is complete unless it is a user text without a line ending. -/
theorem atLineStart_emitTX
    (hclosed : ¬ (origin = .user ∧
      endsWithEOL (normalize data b.norm) b.norm.lineEnding = false)) :
  AtLineStart b.norm.lineEnding (b.emitTX data origin).output ∧
    (b.emitTX data origin).txLineActive = false
  := by
  rw [emitTX_eq origin hdata]
  have hnorm := ((extends_startTX (b := b)).trans
    (extends_emitText (normalize data b.norm) origin)).norm
  have hend : endsWithEOL (normalize data b.norm) b.startTX.norm.lineEnding = true →
      AtLineStart _ (b.startTX.emitText (normalize data b.norm) origin).output :=
    atLineStart_emitText origin
  rw [extends_startTX.norm] at hend
  have hafter := atLineStart_endTX (b := b.startTX.emitText (normalize data b.norm) origin)
    (by rw [hnorm]; exact hend) hclosed
  rw [hnorm] at hafter
  exact hafter

/-- A user text without a line ending leaves the terminal in the middle of a line. -/
theorem middle_emitTX (hactive : b.txLineActive = false)
    (hopen : endsWithEOL (normalize data b.norm) b.norm.lineEnding = false) :
  ¬ AtLineStart b.norm.lineEnding (b.emitTX data .user).output
  := by
  rw [emitTX_eq .user hdata, hopen, endTX_of_open]
  have hmiddle : endsWithEOL (normalize data b.norm) b.startTX.norm.lineEnding = false →
      ¬ AtLineStart _ (b.startTX.emitText (normalize data b.norm) .user).output :=
    middle_emitText .user (txLineActive_startTX.trans hactive)
  rw [extends_startTX.norm] at hmiddle
  apply hmiddle hopen

/-- The line is not taken to be complete while the terminal stands in the middle of it. -/
theorem atLineStart_of_txLineActive (hactive : (b.emitTX data origin).txLineActive = false) :
  AtLineStart b.norm.lineEnding (b.emitTX data origin).output
  := by
  apply (atLineStart_emitTX origin hdata _).1
  rintro ⟨rfl, hopen⟩
  rw [emitTX_eq .user hdata, hopen, endTX_of_open, txLineActive_emitText] at hactive
  cases hactive

end EmitTX

/-! ### Waiting texts -/

/-- The broker after it has shown a text that waited. -/
def afterFlush (b : ConsoleBroker) (ev : PendingTX) : ConsoleBroker :=
  { b.emitTX ev.data ev.origin with
    rxAtLineEnd := true
    txLineActive := false
    pendingTX := none
    quietTimer := false }

section Flush

variable {ev : PendingTX}

/-- Flushing adds to the output. -/
theorem extends_afterFlush :
  b.Extends (b.afterFlush ev)
  where
    norm := (extends_emitTX ev.origin ev.nonempty).norm
    sent := (extends_emitTX ev.origin ev.nonempty).sent

/-- Flushing keeps the lines apart. -/
theorem separated_afterFlush (h : b.Separated)
    (start : b.rxAtLineEnd = true → AtLineStart b.norm.lineEnding b.output) :
  (b.afterFlush ev).Separated
  := by
  have hemit : (b.emitTX ev.data ev.origin).Separated := by
    apply (separated_emitTX ev.origin ev.nonempty).mpr
    use h
    intro hactive
    apply atLineStart_startTX hactive start
  exact hemit

/-- A text that waited is taken to be complete. -/
theorem tidy_afterFlush (hclosed : ¬ (ev.origin = .user ∧
      endsWithEOL (normalize ev.data b.norm) b.norm.lineEnding = false)) :
  (b.afterFlush ev).Tidy
  where
    active _ := rfl
    pending h := by cases h
    start _ _ := by
      rw [extends_afterFlush.norm]
      exact (atLineStart_emitTX ev.origin ev.nonempty hclosed).1

/-- A line of the user that is flushed unended stays open. -/
theorem dangling_afterFlush (hactive : b.txLineActive = false) (huser : ev.origin = .user)
    (hopen : endsWithEOL (normalize ev.data b.norm) b.norm.lineEnding = false) :
  (b.afterFlush ev).Dangling
  where
    rxAtLineEnd := rfl
    txLineActive := rfl
    pendingTX := rfl
    quietTimer := rfl
    middle := by
      rw [extends_afterFlush.norm]
      have hmiddle := middle_emitTX ev.nonempty hactive hopen
      rw [← huser] at hmiddle
      exact hmiddle

end Flush

/-! ### Received data -/

/-- A transmitted line that is not complete is ended before received data. -/
def startRX (b : ConsoleBroker) : ConsoleBroker :=
  if b.txLineActive then { b.emitToTerminal (.lineSep b.lineSep) with txLineActive := false }
  else b

/-- The broker after it has shown received data. -/
def showRX (b : ConsoleBroker) (data : Bytes) : ConsoleBroker :=
  let shown := b.startRX.emitLines b.startRX.rxAtLineEnd
    (splitAfterAnyEOL (normalize data b.norm) b.norm.lineEnding)
  { shown.1 with rxAtLineEnd := shown.2 }

/-- Before a received text, a transmitted line is ended. -/
theorem startRX_eq :
  ∃ sent, b.startRX = { b with txLineActive := false, sent := sent } ∧ b.sent <+: sent
  := by
  rw [startRX]
  split
  · exact ⟨_, rfl, extends_emitToTerminal.sent⟩
  · rename_i hactive
    use b.sent
    rw [← (Bool.not_eq_true _).mp hactive]
    exact ⟨rfl, List.prefix_refl _⟩

/-- This keeps the lines apart. -/
theorem separated_startRX :
  b.startRX.Separated ↔ b.Separated
  := by
  rw [startRX]
  split
  · apply separated_lineSep
  · rfl

/-- Received data after a transmitted line are shown at the beginning of a line. -/
theorem atLineStart_startRX
    (start : b.txLineActive = false → AtLineStart b.norm.lineEnding b.output) :
  AtLineStart b.norm.lineEnding b.startRX.output
  := by
  rw [startRX]
  split
  · apply atLineStart_lineSep
  · rename_i hactive
    apply start ((Bool.not_eq_true _).mp hactive)

section ShowRX

variable {data : Bytes}

/-- A received text is shown, and it is noted whether it ends a line. -/
theorem showRX_eq (hdata : data ≠ []) :
  ∃ sent, b.showRX data =
      { b with
        rxAtLineEnd := endsWithEOL (normalize data b.norm) b.norm.lineEnding
        txLineActive := false
        sent := sent } ∧
    b.sent <+: sent
  := by
  obtain ⟨sent, hstart, hprefix⟩ := b.startRX_eq
  obtain ⟨sent', hlines, hprefix'⟩ := emitLines_fst (b := b.startRX) b.startRX.rxAtLineEnd
    (splitAfterAnyEOL (normalize data b.norm) b.norm.lineEnding)
  have hend : (b.startRX.emitLines b.startRX.rxAtLineEnd
      (splitAfterAnyEOL (normalize data b.norm) b.norm.lineEnding)).2 =
        endsWithEOL (normalize data b.norm) b.norm.lineEnding := by
    have hnorm : b.startRX.norm = b.norm := by rw [hstart]
    have hwhole := wholeLines_splitAfterAnyEOL (normalize data b.norm) b.norm.lineEnding
    rw [← hnorm] at hwhole
    rw [← hnorm, emitLines_snd hwhole]
    · rw [flatten_splitAfterAnyEOL]
    · rw [flatten_splitAfterAnyEOL]
      apply normalize_ne_nil _ hdata
  use sent'
  constructor
  · rw [showRX, hend, hlines, hstart]
  · rw [hstart] at hprefix'
    exact hprefix.trans hprefix'

/-- A received text adds to the output. -/
theorem extends_showRX (hdata : data ≠ []) :
  b.Extends (b.showRX data)
  := by
  obtain ⟨sent, hshow, hprefix⟩ := showRX_eq (b := b) hdata
  rw [hshow]
  exact ⟨rfl, hprefix⟩

/-- Received lines that are shown where the broker takes the terminal to stand keep every label
at the beginning of a line. -/
theorem separated_showRX (h : b.Separated)
    (start : b.rxAtLineEnd = true → b.txLineActive = false →
      AtLineStart b.norm.lineEnding b.output)
    (data : Bytes) :
  (b.showRX data).Separated ∧
    ((b.showRX data).rxAtLineEnd = true →
      AtLineStart b.norm.lineEnding (b.showRX data).output)
  := by
  obtain ⟨sent, hstart, -⟩ := b.startRX_eq
  have hnorm : b.startRX.norm = b.norm := by rw [hstart]
  have hline : b.startRX.rxAtLineEnd = b.rxAtLineEnd := by rw [hstart]
  have hbegin : b.startRX.rxAtLineEnd = true →
      AtLineStart b.startRX.norm.lineEnding b.startRX.output := by
    intro hat
    rw [hline] at hat
    rw [hnorm]
    apply atLineStart_startRX (start hat)
  have hlines := separated_emitLines (separated_startRX.mpr h) hbegin
    (splitAfterAnyEOL (normalize data b.norm) b.norm.lineEnding)
  rw [hnorm] at hlines
  exact hlines

/-- Received lines that are shown in the middle of a line are not at the beginning of one. -/
theorem not_separated_showRX (hdata : data ≠ []) (hdangling : b.Dangling) :
  ¬ (b.showRX data).Separated
  := by
  have hstart : b.startRX = b := by
    rw [startRX, if_neg (Bool.eq_false_iff.mp hdangling.txLineActive)]
  have hne : (splitAfterAnyEOL (normalize data b.norm) b.norm.lineEnding).flatten ≠ [] := by
    rw [flatten_splitAfterAnyEOL]
    apply normalize_ne_nil _ hdata
  have hlines := not_separated_emitLines hdangling.middle hne
  rw [← hdangling.rxAtLineEnd] at hlines
  rw [showRX, hstart]
  exact hlines

end ShowRX

/-- What was held back is flushed when the received line ends. -/
theorem handleRX_eq {data : Bytes} (hdata : data ≠ []) :
  b.handleRX data =
    if (b.showRX data).pendingTX.isSome && (b.showRX data).rxAtLineEnd then
      { (b.showRX data).flushPendingTX with quietTimer := false }
    else b.showRX data
  := by
  rw [handleRX, if_neg hdata]
  dsimp only
  rw [if_neg (normalize_ne_nil b.norm hdata)]
  rfl

/-! ### One step -/

variable {a : ConsoleEvent}

/-- A flush that the broker does at the end of a received line. -/
theorem flushPendingTX_eq_afterFlush {ev : PendingTX} (hpending : b.pendingTX = some ev)
    (hline : b.rxAtLineEnd = true) :
  { b.flushPendingTX with quietTimer := false } = b.afterFlush ev
  := by
  have hend := rxAtLineEnd_emitTX (b := b) ev.origin ev.nonempty
  rw [hline, Bool.true_or] at hend
  rw [flushPendingTX, hpending, afterFlush, ← hend]

/-- The flush that the broker does when the quiet timer has expired. -/
theorem handleQuiet_eq_afterFlush {ev : PendingTX} (hpending : b.pendingTX = some ev) :
  { b.handleQuiet with quietTimer := false } =
    (b.emitToTerminal (.lineSep b.lineSep)).afterFlush ev
  := by
  have hsome : b.pendingTX.isSome := by
    rw [hpending]
    rfl
  have hflush : (b.emitToTerminal (.lineSep b.lineSep)).pendingTX = some ev := hpending
  rw [handleQuiet, if_pos hsome, flushPendingTX, hflush, afterFlush]

/-- What a flush does to the lines depends on whether the text leaves its line open. -/
theorem afterFlush_cases (ev : PendingTX) (h : b.Separated) (hactive : b.txLineActive = false)
    (start : b.rxAtLineEnd = true → AtLineStart b.norm.lineEnding b.output) :
  (b.afterFlush ev).Separated ∧
    if ev.origin = .user ∧ endsWithEOL (normalize ev.data b.norm) b.norm.lineEnding = false then
      (b.afterFlush ev).Dangling
    else (b.afterFlush ev).Tidy
  := by
  use separated_afterFlush h start
  split
  · rename_i hopen
    apply dangling_afterFlush hactive hopen.1 hopen.2
  · rename_i hclosed
    apply tidy_afterFlush hclosed

/-- An event leaves a line open when it ends a received line, and what it flushes does not end. -/
theorem leavesLineOpen_iff {ev : PendingTX} (hpending : b.pendingTX = some ev) :
  b.LeavesLineOpen a ↔ a.EndsLine b.norm ∧ ev.origin = .user ∧
    endsWithEOL (normalize ev.data b.norm) b.norm.lineEnding = false
  := by
  rw [LeavesLineOpen, hpending]
  simp

/-- Nothing is left open when nothing is held back. -/
theorem not_leavesLineOpen (hpending : b.pendingTX = none) :
  ¬ b.LeavesLineOpen a
  := by
  rintro ⟨-, ev, hev, -⟩
  rw [hpending] at hev
  cases hev

/-- Receiving adds to the output. -/
theorem extends_handleRX (data : Bytes) :
  b.Extends (b.handleRX data)
  := by
  by_cases hdata : data = []
  · rw [handleRX, if_pos hdata]
    apply Extends.refl
  · rw [handleRX_eq hdata]
    split
    · rename_i hflush
      obtain ⟨hsome, hline⟩ := Bool.and_eq_true_iff.mp hflush
      obtain ⟨ev, hev⟩ := Option.isSome_iff_exists.mp hsome
      rw [flushPendingTX_eq_afterFlush hev hline]
      exact (extends_showRX hdata).trans extends_afterFlush
    · apply extends_showRX hdata

/-- Transmitting adds to the output. -/
theorem extends_handleTX (data : Bytes) (origin : TXOrigin) :
  b.Extends (b.handleTX data origin)
  := by
  by_cases hdata : data = []
  · rw [handleTX, dif_pos hdata]
    apply Extends.refl
  · by_cases hline : b.rxAtLineEnd && b.pendingTX.isNone
    · rw [handleTX_of_atLineEnd hdata hline]
      apply extends_emitTX origin hdata
    · rw [handleTX_of_not_atLineEnd hdata hline]
      exact ⟨rfl, List.prefix_refl _⟩

/-- A quiet line adds to the output. -/
theorem extends_handleQuiet :
  b.Extends { b.handleQuiet with quietTimer := false }
  := by
  cases hpending : b.pendingTX with
  | none =>
      rw [handleQuiet, hpending]
      exact ⟨rfl, List.prefix_refl _⟩
  | some ev =>
      rw [handleQuiet_eq_afterFlush hpending]
      exact extends_emitToTerminal.trans extends_afterFlush

/-- The terminal keeps what it has been sent. -/
theorem extends_step (step : lts.step b a c) :
  b.Extends c
  := by
  cases a with
  | rx data =>
      obtain rfl := Option.some.inj step
      apply extends_handleRX
  | tx data origin =>
      obtain rfl := Option.some.inj step
      apply extends_handleTX
  | quiet =>
      obtain ⟨-, hnext⟩ := Option.ite_none_right_eq_some.mp step
      obtain rfl := Option.some.inj hnext
      apply extends_handleQuiet

/-- What an event does to the lines, when the terminal stands where the broker takes it to
stand. -/
structure KeepsLines (b : ConsoleBroker) (a : ConsoleEvent) (c : ConsoleBroker) : Prop where
  separated : c.Separated
  tidy : ¬ b.LeavesLineOpen a → c.Tidy
  dangling : b.LeavesLineOpen a → c.Dangling

/-- Lines that are apart and tidy are kept. -/
theorem keepsLines_of_tidy (separated : c.Separated) (tidy : c.Tidy) (h : ¬ b.LeavesLineOpen a) :
  b.KeepsLines a c
  where
    separated := separated
    tidy _ := tidy
    dangling hopen := absurd hopen h

/-- Receiving keeps the lines. -/
theorem keepsLines_handleRX {data : Bytes} (h : b.Separated) (tidy : b.Tidy) :
  b.KeepsLines (.rx data) (b.handleRX data)
  := by
  by_cases hdata : data = []
  · rw [handleRX, if_pos hdata]
    apply keepsLines_of_tidy h tidy
    rintro ⟨hends, -⟩
    rw [ConsoleEvent.EndsLine, hdata, normalize_nil] at hends
    cases hends
  · obtain ⟨hseparated, hstart⟩ := separated_showRX h tidy.start data
    obtain ⟨sent, hshow, -⟩ := showRX_eq (b := b) hdata
    have hactive : (b.showRX data).txLineActive = false := by rw [hshow]
    have hpending : (b.showRX data).pendingTX = b.pendingTX := by rw [hshow]
    have hnorm : (b.showRX data).norm = b.norm := by rw [hshow]
    have hline : (b.showRX data).rxAtLineEnd =
        endsWithEOL (normalize data b.norm) b.norm.lineEnding := by rw [hshow]
    rw [← hnorm] at hstart
    rw [handleRX_eq hdata]
    split
    · rename_i hflush
      obtain ⟨hsome, hend⟩ := Bool.and_eq_true_iff.mp hflush
      obtain ⟨ev, hev⟩ := Option.isSome_iff_exists.mp hsome
      rw [flushPendingTX_eq_afterFlush hev hend]
      have hopen : b.LeavesLineOpen (.rx data) ↔ _ := leavesLineOpen_iff (hpending ▸ hev)
      rw [ConsoleEvent.EndsLine, ← hline, and_iff_right hend] at hopen
      have hafter := afterFlush_cases ev hseparated hactive hstart
      rw [hnorm] at hafter
      obtain ⟨hafter, hlines⟩ := hafter
      split at hlines
      · rename_i huser
        exact ⟨hafter, fun hclosed => absurd (hopen.mpr huser) hclosed, fun _ => hlines⟩
      · rename_i huser
        apply keepsLines_of_tidy hafter hlines (mt hopen.mp huser)
    · rename_i hflush
      apply keepsLines_of_tidy hseparated
      · constructor
        · intro htrue
          rw [hactive] at htrue
          cases htrue
        · intro hsome
          rw [hsome, Bool.true_and] at hflush
          apply (Bool.not_eq_true _).mp hflush
        · intro hend _
          apply hstart hend
      · rintro ⟨hends, ev, hev, -⟩
        apply hflush
        rw [hpending, hev, hline]
        exact hends

/-- Transmitting keeps the lines. -/
theorem keepsLines_handleTX {data : Bytes} {origin : TXOrigin} (h : b.Separated)
    (tidy : b.Tidy) :
  b.KeepsLines (.tx data origin) (b.handleTX data origin)
  := by
  have hopen : ¬ b.LeavesLineOpen (.tx data origin) := fun hopen => hopen.1
  by_cases hdata : data = []
  · rw [handleTX, dif_pos hdata]
    apply keepsLines_of_tidy h tidy hopen
  · by_cases hline : b.rxAtLineEnd && b.pendingTX.isNone
    · rw [handleTX_of_atLineEnd hdata hline]
      obtain ⟨hend, hnone⟩ := Bool.and_eq_true_iff.mp hline
      have hpending : (b.emitTX data origin).pendingTX = none := by
        rw [(shows_emitTX hdata).pendingTX, Option.isNone_iff_eq_none.mp hnone]
      apply keepsLines_of_tidy _ _ hopen
      · apply (separated_emitTX origin hdata).mpr
        use h
        intro hactive
        apply atLineStart_startTX hactive
        intro _
        apply tidy.start hend hactive
      · constructor
        · intro _
          rw [rxAtLineEnd_emitTX origin hdata, hend, Bool.true_or]
        · rw [hpending]
          intro hsome
          cases hsome
        · intro _ hactive
          rw [(extends_emitTX origin hdata).norm]
          apply atLineStart_of_txLineActive origin hdata hactive
    · rw [handleTX_of_not_atLineEnd hdata hline]
      refine keepsLines_of_tidy h ?_ hopen
      constructor
      · apply tidy.active
      · intro _
        change b.rxAtLineEnd = false
        cases hpending : b.pendingTX with
        | none =>
            rw [hpending] at hline
            simpa using hline
        | some ev =>
            apply tidy.pending
            rw [hpending]
            rfl
      · apply tidy.start

/-- A quiet line keeps the lines. -/
theorem keepsLines_handleQuiet (h : b.Separated) (tidy : b.Tidy) :
  b.KeepsLines .quiet { b.handleQuiet with quietTimer := false }
  := by
  cases hpending : b.pendingTX with
  | none =>
      have hopen : ¬ b.LeavesLineOpen .quiet := not_leavesLineOpen hpending
      rw [handleQuiet, hpending]
      refine keepsLines_of_tidy h ?_ hopen
      constructor
      · apply tidy.active
      · apply tidy.pending
      · apply tidy.start
  | some ev =>
      have hline : b.rxAtLineEnd = false := by
        apply tidy.pending
        rw [hpending]
        rfl
      have hactive : b.txLineActive = false := by
        apply Bool.eq_false_iff.mpr
        intro htrue
        rw [tidy.active htrue] at hline
        cases hline
      rw [handleQuiet_eq_afterFlush hpending]
      have hopen : b.LeavesLineOpen .quiet ↔ _ := leavesLineOpen_iff hpending
      rw [ConsoleEvent.EndsLine, true_and] at hopen
      obtain ⟨hafter, hlines⟩ := afterFlush_cases (b := b.emitToTerminal (.lineSep b.lineSep))
        ev (separated_lineSep.mpr h) hactive (fun _ => atLineStart_lineSep)
      split at hlines
      · rename_i huser
        exact ⟨hafter, fun hclosed => absurd (hopen.mpr huser) hclosed, fun _ => hlines⟩
      · rename_i huser
        apply keepsLines_of_tidy hafter hlines (mt hopen.mp huser)

/-- Every event keeps the labels at the beginnings of lines, when the terminal stands where the
broker takes it to stand. -/
theorem keepsLines_step (h : b.Separated) (tidy : b.Tidy) (step : lts.step b a c) :
  b.KeepsLines a c
  := by
  cases a with
  | rx data =>
      obtain rfl := Option.some.inj step
      apply keepsLines_handleRX h tidy
  | tx data origin =>
      obtain rfl := Option.some.inj step
      apply keepsLines_handleTX h tidy
  | quiet =>
      obtain ⟨-, hnext⟩ := Option.ite_none_right_eq_some.mp step
      obtain rfl := Option.some.inj hnext
      apply keepsLines_handleQuiet h tidy

/-- The next label is in the middle of a line, when the broker takes the terminal to stand at the
beginning of one. -/
theorem Dangling.step_cases (dangling : b.Dangling) (step : lts.step b a c) :
  if a.Silent then c = b else ¬ c.Separated
  := by
  cases a with
  | rx data =>
      obtain rfl := Option.some.inj step
      split
      · rename_i hsilent
        have hdata : data = [] := hsilent
        rw [handleRX, if_pos hdata]
      · rename_i hsilent
        have hdata : data ≠ [] := hsilent
        obtain ⟨sent, hshow, -⟩ := showRX_eq (b := b) hdata
        have hpending : (b.showRX data).pendingTX = none := by
          rw [hshow]
          exact dangling.pendingTX
        rw [handleRX_eq hdata, hpending]
        apply not_separated_showRX hdata dangling
  | tx data origin =>
      obtain rfl := Option.some.inj step
      split
      · rename_i hsilent
        have hdata : data = [] := hsilent
        rw [handleTX, dif_pos hdata]
      · rename_i hsilent
        have hdata : data ≠ [] := hsilent
        rw [handleTX_of_atLineEnd hdata]
        · intro hseparated
          obtain ⟨-, hstart⟩ := (separated_emitTX origin hdata).mp hseparated
          have hsame : b.startTX = b := by
            rw [startTX, dangling.rxAtLineEnd]
            rfl
          rw [hsame] at hstart
          exact dangling.middle (hstart dangling.txLineActive)
        · rw [dangling.rxAtLineEnd, dangling.pendingTX]
          rfl
  | quiet =>
      obtain ⟨htimer, -⟩ := Option.ite_none_right_eq_some.mp step
      rw [dangling.quietTimer] at htimer
      cases htimer

/-! ### Runs -/

variable {norm : NormalizationOptions} {tr : List (Lts.Transition ConsoleBroker ConsoleEvent)}

/-- A new console is tidy. -/
theorem tidy_new :
  (new norm).Tidy
  where
    active h := by cases h
    pending h := by cases h
    start _ _ := .inl rfl

/-- Nothing is shown after a text that left its line open. -/
def NothingAfterOpenLine (tr : List (Lts.Transition ConsoleBroker ConsoleEvent)) : Prop :=
  Permitted (fun before e => (∃ e' ∈ before, e'.before.LeavesLineOpen e'.action) →
    e.action.Silent) tr

/-- Where the terminal stands after a run whose labels are at the beginnings of lines. -/
structure LinesOf (tr : List (Lts.Transition ConsoleBroker ConsoleEvent)) (t : ConsoleBroker) :
    Prop where
  tidy : (∀ e ∈ tr, ¬ e.before.LeavesLineOpen e.action) → t.Tidy
  dangling : (∃ e ∈ tr, e.before.LeavesLineOpen e.action) → t.Dangling

/-- A run has nothing after an open line when its last step is silent after one. -/
theorem nothingAfterOpenLine_snoc :
  NothingAfterOpenLine (tr ++ [⟨t, a, u⟩]) ↔
    NothingAfterOpenLine tr ∧ ((∃ e ∈ tr, e.before.LeavesLineOpen e.action) → a.Silent)
  := permitted_snoc

theorem exists_snoc {P : Lts.Transition ConsoleBroker ConsoleEvent → Prop} {e} :
  (∃ e' ∈ tr ++ [e], P e') ↔ (∃ e' ∈ tr, P e') ∨ P e
  := by
  simp only [List.mem_append, List.mem_singleton, or_and_right, exists_or, exists_eq_left]

/-- A run whose labels are at the beginnings of lines, and a step after it. -/
theorem LinesOf.snoc (h : t.Separated) (lines : LinesOf tr t) (step : lts.step t a u) :
  (u.Separated ↔ ((∃ e ∈ tr, e.before.LeavesLineOpen e.action) → a.Silent)) ∧
    (u.Separated → LinesOf (tr ++ [⟨t, a, u⟩]) u)
  := by
  by_cases hopen : ∃ e ∈ tr, e.before.LeavesLineOpen e.action
  · have hdangling := lines.dangling hopen
    have hstep := hdangling.step_cases step
    have hafter : ¬ ∀ e ∈ tr ++ [⟨t, a, u⟩], ¬ e.before.LeavesLineOpen e.action := by
      intro hclosed
      obtain ⟨e, he, hleaves⟩ := hopen
      exact hclosed e (List.mem_append_left _ he) hleaves
    rw [forall_prop_of_true hopen]
    split at hstep
    · rename_i hsilent
      obtain rfl := hstep
      use iff_of_true h hsilent
      intro _
      exact ⟨fun hclosed => absurd hclosed hafter, fun _ => hdangling⟩
    · rename_i hsilent
      use iff_of_false hstep hsilent
      intro hseparated
      exact absurd hseparated hstep
  · have hclosed : ∀ e ∈ tr, ¬ e.before.LeavesLineOpen e.action :=
      fun e he hleaves => hopen ⟨e, he, hleaves⟩
    have hkeeps := keepsLines_step h (lines.tidy hclosed) step
    use iff_of_true hkeeps.separated fun h => absurd h hopen
    intro _
    constructor
    · intro hall
      apply hkeeps.tidy
      exact hall _ (List.mem_append_right _ (List.mem_singleton_self _))
    · intro hexists
      apply hkeeps.dangling
      exact (exists_snoc.mp hexists).resolve_left hopen

theorem lines_of_run (run : lts.Run (new norm) tr t) :
  (t.Separated ↔ NothingAfterOpenLine tr) ∧ (t.Separated → LinesOf tr t)
  := by
  induction run with
  | nil =>
      constructor
      · apply iff_of_true permitted_nil permitted_nil
      · intro _
        refine ⟨fun _ => tidy_new, ?_⟩
        rintro ⟨e, he, -⟩
        cases he
  | snoc run step ih =>
      obtain ⟨hiff, hlines⟩ := ih
      rw [nothingAfterOpenLine_snoc, ← hiff]
      constructor
      · constructor
        · intro h
          have hbefore := (extends_step step).separated h
          exact ⟨hbefore, ((hlines hbefore).snoc hbefore step).1.mp h⟩
        · rintro ⟨hbefore, hsilent⟩
          exact ((hlines hbefore).snoc hbefore step).1.mpr hsilent
      · intro h
        have hbefore := (extends_step step).separated h
        exact ((hlines hbefore).snoc hbefore step).2 h

/-- In every run, the labels are at the beginnings of lines exactly when nothing is shown after a
text that left its line open. -/
theorem separated_iff (run : lts.Run (new norm) tr t) :
  t.Separated ↔ NothingAfterOpenLine tr
  := (lines_of_run run).1

/-- A user text with a line ending waits for the end of a received line. -/
theorem labels_at_line_starts :
  ∃ tr t, lts.Run (new initialNorm) tr t ∧ t.Separated ∧
    t.output = bytes "RX: a\nTX: x\nRX: b"
  := by
  obtain ⟨tr, t, run, -, hclosed, houtput⟩ :=
    Lts.exists_run_of_restrict step (fun b a => ¬ b.LeavesLineOpen a) (new initialNorm)
      [.rx (bytes "a"), .tx (bytes "x\n") .user, .rx (bytes "\n"), .rx (bytes "b")]
      output (by decide +kernel : _ = some (bytes "RX: a\nTX: x\nRX: b"))
  use tr, t, run
  constructor
  · apply (separated_iff run).mpr
    rintro before e after rfl ⟨e', he', hopen⟩
    exact absurd hopen (hclosed e' (List.mem_append_left _ he'))
  · apply houtput

/-- A user text waits for the end of a received line. When it is shown, its own line is not
complete, and the label of the next received line comes directly after it. -/
theorem label_in_the_middle :
  ¬ ∀ (norm : NormalizationOptions) (tr : List (Lts.Transition ConsoleBroker ConsoleEvent))
      (t : ConsoleBroker),
    cr ∉ norm.tabRender → lf ∉ norm.tabRender → lts.Run (new norm) tr t → t.Separated
  := by
  intro claim
  obtain ⟨tr, t, run, -, hobserve⟩ :=
    Lts.exists_run_of_observe step (new initialNorm)
      [.rx (bytes "a"), .tx (bytes "x") .user, .rx (bytes "\n"), .rx (bytes "b")]
      (fun t => (t.norm, t.sent))
      (by decide +kernel : _ = some (initialNorm,
        [.rx (bytes "RX: ") (bytes "a"), .rx [] (bytes "\n"), .tx (bytes "TX: ") (bytes "x"),
          .rx (bytes "RX: ") (bytes "b")]))
  obtain ⟨hnorm, hsent⟩ := Prod.mk.inj hobserve
  have hlabel := claim _ tr t (by decide) (by decide) run
    [.rx (bytes "RX: ") (bytes "a"), .rx [] (bytes "\n"), .tx (bytes "TX: ") (bytes "x")]
    (.rx (bytes "RX: ") (bytes "b")) [] hsent
  rw [hnorm] at hlabel
  revert hlabel
  rw [AtLineStart]
  decide +kernel

end ConsoleBroker

end JetKvm
