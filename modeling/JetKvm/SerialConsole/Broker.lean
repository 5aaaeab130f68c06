import JetKvm.Library.Slot
import JetKvm.SerialConsole.Normalize

/-!
# The broker of the serial console

The broker shows on one terminal what is received from the serial port and what has been
transmitted to it. A transmitted text that arrives in the middle of a received line is kept until
the line is complete, or until the line has been quiet for a while; there is room for one text.
The broker has a terminal, which is not paused, and its options do not change. Every piece of
text that is sent to the terminal is recorded together with what it is.
-/

namespace JetKvm

inductive TXOrigin where
  | user
  | system
deriving DecidableEq, Repr

/-- What is sent to the terminal at once: the end of a line, a received line, or a transmitted
text, the last two after a label that may be empty. -/
inductive Emission where
  | lineSep (sep : Bytes)
  | rx (label line : Bytes)
  | tx (label text : Bytes)
deriving DecidableEq, Repr

namespace Emission

/-- The text that the terminal is sent. -/
def text : Emission → Bytes
  | .lineSep sep => sep
  | .rx label line => label ++ line
  | .tx label text => label ++ text

/-- The received line, without its label. -/
def received : Emission → Option Bytes
  | .lineSep _ => none
  | .rx _ line => some line
  | .tx .. => none

/-- The transmitted text, without its label. -/
def transmitted : Emission → Option Bytes
  | .lineSep _ => none
  | .rx .. => none
  | .tx _ text => some text

end Emission

/-- A transmitted text that waits to be shown. -/
structure PendingTX where
  data : Bytes
  origin : TXOrigin
  nonempty : data ≠ []
deriving DecidableEq

/-- Data that are received or have been transmitted, or the expiry of the quiet timer. -/
inductive ConsoleEvent where
  | rx (data : Bytes)
  | tx (data : Bytes) (origin : TXOrigin)
  | quiet
deriving DecidableEq, Repr

structure ConsoleBroker where
  norm : NormalizationOptions
  rxAtLineEnd : Bool
  txLineActive : Bool
  pendingTX : Option PendingTX
  /-- The quiet timer runs. -/
  quietTimer : Bool
  /-- What the terminal has been sent, oldest first. -/
  sent : List Emission

namespace ConsoleBroker

def labelRX : Bytes :=
  bytes "RX"

def labelTX : Bytes :=
  bytes "TX"

/-- A broker with a terminal, as `NewConsoleBroker` makes it. -/
def new (norm : NormalizationOptions) : ConsoleBroker where
  norm := norm
  rxAtLineEnd := true
  txLineActive := false
  pendingTX := none
  quietTimer := false
  sent := []

/-- Nothing is sent when the text is empty. -/
def emitToTerminal (b : ConsoleBroker) (e : Emission) : ConsoleBroker :=
  { b with sent := b.sent ++ if e.text = [] then [] else [e] }

def lineSep (b : ConsoleBroker) : Bytes :=
  match b.norm.lineEnding with
  | .crlf => [cr, lf]
  | .lfcr => [lf, cr]
  | .cr => [cr]
  | .lf => [lf]
  | .asIs => [lf]

/-- The label of a transmitted text. -/
def txLabel : TXOrigin → Bytes
  | .user => labelTX ++ bytes ": "
  | .system => labelTX ++ bytes "[System]: "

/-- Shows the text after the label, or without it in the middle of a transmitted line. -/
def emitText (b : ConsoleBroker) (text : Bytes) (origin : TXOrigin) : ConsoleBroker :=
  if b.txLineActive then b.emitToTerminal (.tx [] text)
  else { b.emitToTerminal (.tx (txLabel origin) text) with txLineActive := true }

def emitTX (b : ConsoleBroker) (data : Bytes) (origin : TXOrigin) : ConsoleBroker :=
  if data = [] then b
  else
    let text := normalize data b.norm
    if text = [] then b
    else
      let start :=
        if !b.rxAtLineEnd && !b.txLineActive then
          { b.emitToTerminal (.lineSep b.lineSep) with rxAtLineEnd := true }
        else b
      let shown := start.emitText text origin
      let ended := endsWithEOL text b.norm.lineEnding
      if origin = .system ∧ ended = false then
        { shown.emitToTerminal (.lineSep shown.lineSep) with txLineActive := false }
      else if ended then { shown with txLineActive := false } else shown

def flushPendingTX (b : ConsoleBroker) : ConsoleBroker :=
  match b.pendingTX with
  | none => b
  | some ev => { b.emitTX ev.data ev.origin with pendingTX := none, txLineActive := false }

/-- The loop of `handleRX` over the lines, and whether it stops at the end of a line. -/
def emitLines (b : ConsoleBroker) (atLineEnd : Bool) : List Bytes → ConsoleBroker × Bool
  | [] => (b, atLineEnd)
  | line :: lines =>
      if line = [] then b.emitLines atLineEnd lines
      else
        let label := if atLineEnd then labelRX ++ bytes ": " else []
        (b.emitToTerminal (.rx label line)).emitLines (endsWithEOL line b.norm.lineEnding) lines

def handleRX (b : ConsoleBroker) (data : Bytes) : ConsoleBroker :=
  if data = [] then b
  else
    let start :=
      if b.txLineActive then
        { b.emitToTerminal (.lineSep b.lineSep) with txLineActive := false }
      else b
    let text := normalize data b.norm
    if text = [] then start
    else
      let lines := splitAfterAnyEOL text b.norm.lineEnding
      let shown := start.emitLines start.rxAtLineEnd lines
      let next := { shown.1 with rxAtLineEnd := shown.2 }
      if next.pendingTX.isSome && next.rxAtLineEnd then
        { next.flushPendingTX with quietTimer := false }
      else next

def handleTX (b : ConsoleBroker) (data : Bytes) (origin : TXOrigin) : ConsoleBroker :=
  if h : data = [] then b
  else if b.rxAtLineEnd && b.pendingTX.isNone then b.emitTX data origin
  else { b with pendingTX := some ⟨data, origin, h⟩, quietTimer := true }

/-- What `loop` does when the quiet timer has expired. -/
def handleQuiet (b : ConsoleBroker) : ConsoleBroker :=
  if b.pendingTX.isSome then
    { (b.emitToTerminal (.lineSep b.lineSep)).flushPendingTX with
      rxAtLineEnd := true
      txLineActive := false }
  else b

/-- The next state. A timer that has expired does not run. -/
def step (b : ConsoleBroker) : ConsoleEvent → Option ConsoleBroker
  | .rx data => some (b.handleRX data)
  | .tx data origin => some (b.handleTX data origin)
  | .quiet => if b.quietTimer then some { b.handleQuiet with quietTimer := false } else none

def lts : Lts ConsoleBroker ConsoleEvent :=
  Lts.ofStep step

/-- The received text that has been shown. -/
def received (b : ConsoleBroker) : Bytes :=
  (b.sent.filterMap Emission.received).flatten

/-- The transmitted texts that have been shown, oldest first. -/
def transmitted (b : ConsoleBroker) : List Bytes :=
  b.sent.filterMap Emission.transmitted

/-- A transmitted text arrives while another one waits to be shown. -/
def Overwrites (b : ConsoleBroker) : ConsoleEvent → Prop
  | .tx data _ => data ≠ [] ∧ b.pendingTX.isSome
  | .rx _ => False
  | .quiet => False

instance (b : ConsoleBroker) (a : ConsoleEvent) : Decidable (b.Overwrites a) :=
  match a with
  | .tx _ _ => inferInstanceAs (Decidable (_ ∧ _))
  | .rx _ => inferInstanceAs (Decidable False)
  | .quiet => inferInstanceAs (Decidable False)

end ConsoleBroker

namespace ConsoleEvent

/-- The normalised text of data that have been received. -/
def receivedText (norm : NormalizationOptions) : ConsoleEvent → Bytes
  | .rx data => normalize data norm
  | .tx .. => []
  | .quiet => []

/-- The normalised text of data that have been transmitted. -/
def transmittedText (norm : NormalizationOptions) : ConsoleEvent → Option Bytes
  | .tx data _ => if data = [] then none else some (normalize data norm)
  | .rx _ => none
  | .quiet => none

end ConsoleEvent

namespace ConsoleBroker

variable {norm : NormalizationOptions} {b c d t : ConsoleBroker} {text text' data : Bytes}
  {texts texts' : List Bytes} {origin : TXOrigin} {ev : PendingTX} {a : ConsoleEvent}
  {e : Lts.Transition ConsoleBroker ConsoleEvent}
  {tr : List (Lts.Transition ConsoleBroker ConsoleEvent)}

/-! ### What is shown -/

/-- The broker `c` is the broker `b` after it has shown some received text and some transmitted
texts. -/
structure Shows (b c : ConsoleBroker) (text : Bytes) (texts : List Bytes) : Prop where
  norm : c.norm = b.norm
  pendingTX : c.pendingTX = b.pendingTX
  quietTimer : c.quietTimer = b.quietTimer
  received : c.received = b.received ++ text
  transmitted : c.transmitted = b.transmitted ++ texts

theorem Shows.refl :
  b.Shows b [] []
  where
    norm := rfl
    pendingTX := rfl
    quietTimer := rfl
    received := (List.append_nil _).symm
    transmitted := (List.append_nil _).symm

theorem Shows.trans (first : b.Shows c text texts) (second : c.Shows d text' texts') :
  b.Shows d (text ++ text') (texts ++ texts')
  where
    norm := second.norm.trans first.norm
    pendingTX := second.pendingTX.trans first.pendingTX
    quietTimer := second.quietTimer.trans first.quietTimer
    received := by rw [second.received, first.received, List.append_assoc]
    transmitted := by rw [second.transmitted, first.transmitted, List.append_assoc]

/-- What is shown does not depend on where the lines end. -/
theorem Shows.setLine (shows' : b.Shows c text texts) (rxAtLineEnd txLineActive : Bool) :
  b.Shows { c with rxAtLineEnd := rxAtLineEnd, txLineActive := txLineActive } text texts
  where
    norm := shows'.norm
    pendingTX := shows'.pendingTX
    quietTimer := shows'.quietTimer
    received := shows'.received
    transmitted := shows'.transmitted

theorem shows_emitToTerminal {e : Emission} (h : e.text ≠ []) :
  b.Shows (b.emitToTerminal e) e.received.toList.flatten e.transmitted.toList
  := by
  have hsent : (b.emitToTerminal e).sent = b.sent ++ [e] := by
    rw [emitToTerminal, if_neg h]
  constructor
  · rfl
  · rfl
  · rfl
  · rw [received, hsent, List.filterMap_append, List.flatten_append]
    rfl
  · rw [transmitted, hsent, List.filterMap_append]
    rfl

theorem lineSep_ne_nil :
  b.lineSep ≠ []
  := by
  rw [lineSep]
  cases b.norm.lineEnding with
  | asIs => apply List.cons_ne_nil
  | lf => apply List.cons_ne_nil
  | cr => apply List.cons_ne_nil
  | crlf => apply List.cons_ne_nil
  | lfcr => apply List.cons_ne_nil

/-- The end of a line shows neither received nor transmitted text. -/
theorem shows_lineSep :
  b.Shows (b.emitToTerminal (.lineSep b.lineSep)) [] []
  := shows_emitToTerminal lineSep_ne_nil

theorem shows_emitText (b : ConsoleBroker) (origin : TXOrigin) (h : text ≠ []) :
  b.Shows (b.emitText text origin) [] [text]
  := by
  rw [emitText]
  split
  · exact shows_emitToTerminal (e := .tx [] text) h
  · apply Shows.setLine (c := b.emitToTerminal (.tx (txLabel origin) text))
    apply shows_emitToTerminal (List.append_ne_nil_of_right_ne_nil _ h)

/-- A transmitted text is shown once. -/
theorem shows_emitTX (h : data ≠ []) :
  b.Shows (b.emitTX data origin) [] [normalize data b.norm]
  := by
  have htext := normalize_ne_nil b.norm h
  rw [emitTX, if_neg h]
  dsimp only
  rw [if_neg htext]
  have hstart : b.Shows
      (if !b.rxAtLineEnd && !b.txLineActive then
        { b.emitToTerminal (.lineSep b.lineSep) with rxAtLineEnd := true }
      else b) [] [] := by
    split
    · apply shows_lineSep.setLine true b.txLineActive
    · apply Shows.refl
  generalize (if !b.rxAtLineEnd && !b.txLineActive then _ else b) = start at hstart ⊢
  have hshown := hstart.trans (start.shows_emitText origin htext)
  split
  · apply (hshown.trans shows_lineSep).setLine
  · split
    · apply hshown.setLine
    · apply hshown

theorem shows_emitLines (atLineEnd : Bool) (lines : List Bytes) :
  b.Shows (b.emitLines atLineEnd lines).1 lines.flatten []
  := by
  induction lines generalizing b atLineEnd with
  | nil => apply Shows.refl
  | cons line lines ih =>
      rw [emitLines, List.flatten_cons]
      split
      · rename_i hline
        rw [hline]
        apply ih
      · rename_i hline
        have hshown := shows_emitToTerminal (b := b)
          (e := .rx (if atLineEnd then labelRX ++ bytes ": " else []) line)
          (List.append_ne_nil_of_right_ne_nil _ hline)
        change b.Shows _ [line].flatten [] at hshown
        rw [List.flatten_singleton] at hshown
        apply hshown.trans (ih _)

/-! ### One step -/

/-- The text that waits is shown, and none waits any more. -/
theorem flushPendingTX_eq (h : b.pendingTX = some ev) :
  ∃ c, b.Shows c [] [normalize ev.data b.norm] ∧
    b.flushPendingTX = { c with pendingTX := none, txLineActive := false }
  := by
  use b.emitTX ev.data ev.origin, shows_emitTX ev.nonempty
  rw [flushPendingTX, h]

/-- Received data are shown, and then the text that waits, if a line is complete. -/
theorem handleRX_cases (b : ConsoleBroker) (data : Bytes) :
  ∃ c, b.Shows c (normalize data b.norm) [] ∧
    (b.handleRX data = c ∨
      c.pendingTX.isSome ∧ c.rxAtLineEnd ∧
        b.handleRX data = { c.flushPendingTX with quietTimer := false })
  := by
  by_cases hdata : data = []
  · use b
    rw [handleRX, if_pos hdata, hdata, normalize_nil]
    exact ⟨Shows.refl, .inl rfl⟩
  · have htext := normalize_ne_nil b.norm hdata
    rw [handleRX, if_neg hdata]
    dsimp only
    rw [if_neg htext]
    have hstart : b.Shows
        (if b.txLineActive then
          { b.emitToTerminal (.lineSep b.lineSep) with txLineActive := false }
        else b) [] [] := by
      split
      · apply shows_lineSep.setLine b.rxAtLineEnd false
      · apply Shows.refl
    generalize (if b.txLineActive then _ else b) = start at hstart ⊢
    have hlines := hstart.trans (shows_emitLines start.rxAtLineEnd
      (splitAfterAnyEOL (normalize data b.norm) b.norm.lineEnding))
    rw [flatten_splitAfterAnyEOL] at hlines
    generalize start.emitLines _ _ = shown at hlines ⊢
    refine ⟨_, hlines.setLine shown.2 shown.1.txLineActive, ?_⟩
    split
    · rename_i hflush
      obtain ⟨hpending, hend⟩ := Bool.and_eq_true_iff.mp hflush
      exact .inr ⟨hpending, hend, rfl⟩
    · exact .inl rfl

/-- Transmitted data are shown at once when nothing waits and no received line is incomplete. -/
theorem handleTX_of_atLineEnd (hdata : data ≠ []) (h : b.rxAtLineEnd && b.pendingTX.isNone) :
  b.handleTX data origin = b.emitTX data origin
  := by
  rw [handleTX, dif_neg hdata, if_pos h]

/-- Otherwise they take the place of what waits. -/
theorem handleTX_of_not_atLineEnd (hdata : data ≠ [])
    (h : ¬ (b.rxAtLineEnd && b.pendingTX.isNone)) :
  b.handleTX data origin =
    { b with pendingTX := some ⟨data, origin, hdata⟩, quietTimer := true }
  := by
  rw [handleTX, dif_neg hdata, if_neg h]

/-- When the quiet timer has expired, the text that waits is shown. -/
theorem handleQuiet_eq (h : b.pendingTX = some ev) :
  ∃ c, b.Shows c [] [normalize ev.data b.norm] ∧
    b.handleQuiet = { c with pendingTX := none, rxAtLineEnd := true, txLineActive := false }
  := by
  have hsome : b.pendingTX.isSome := by
    rw [h]
    rfl
  rw [handleQuiet, if_pos hsome]
  obtain ⟨c, hshows, hflush⟩ := flushPendingTX_eq (b := b.emitToTerminal (.lineSep b.lineSep)) h
  use c, shows_lineSep.trans hshows
  rw [hflush]

/-! ### The place for a transmitted text -/

/-- The text that waits to be shown, and the texts that have been shown, as a one-place buffer. -/
def slot (b : ConsoleBroker) : Slot Bytes where
  kept := b.pendingTX.map fun ev => normalize ev.data b.norm
  released := b.transmitted

/-- What an event does to the one-place buffer. -/
def slotAction (b : ConsoleBroker) : ConsoleEvent → SlotAction Bytes
  | .rx data => if (b.handleRX data).pendingTX = b.pendingTX then .idle else .release
  | .tx data _ =>
      if data = [] then .idle
      else if b.rxAtLineEnd && b.pendingTX.isNone then .pass (normalize data b.norm)
      else .keep (normalize data b.norm)
  | .quiet => if b.pendingTX.isSome then .release else .idle

/-- The broker `c` is the broker `b` after it has handled an event: it has shown the received
text, has done the action on the one-place buffer, and has seen to the quiet timer. -/
structure Handles (b c : ConsoleBroker) (text : Bytes) (action : SlotAction Bytes) : Prop where
  norm : c.norm = b.norm
  received : c.received = b.received ++ text
  slot : Slot.lts.step b.slot action c.slot
  quietTimer : b.quietTimer = b.pendingTX.isSome → c.quietTimer = c.pendingTX.isSome

theorem Shows.slot_eq (shows' : b.Shows c text texts) :
  c.slot = { b.slot with released := b.slot.released ++ texts }
  := by
  rw [slot, slot, shows'.norm, shows'.pendingTX, shows'.transmitted]

theorem Shows.quietTimer_eq (shows' : b.Shows c text texts)
    (h : b.quietTimer = b.pendingTX.isSome) :
  c.quietTimer = c.pendingTX.isSome
  := by
  rw [shows'.quietTimer, shows'.pendingTX, h]

/-- Received text is shown. -/
theorem Shows.handles_idle (shows' : b.Shows c text []) :
  b.Handles c text .idle
  where
    norm := shows'.norm
    received := shows'.received
    slot := by
      rw [shows'.slot_eq, List.append_nil]
      rfl
    quietTimer := shows'.quietTimer_eq

/-- A transmitted text is shown at once. -/
theorem Shows.handles_pass (shows' : b.Shows c [] [text]) (h : b.pendingTX = none) :
  b.Handles c [] (.pass text)
  where
    norm := shows'.norm
    received := shows'.received
    slot := by
      have hkept : b.slot.kept.isNone := by
        rw [ConsoleBroker.slot, h]
        rfl
      rw [shows'.slot_eq]
      apply if_pos hkept
    quietTimer := shows'.quietTimer_eq

/-- A transmitted text is kept. -/
theorem handles_keep (hdata : data ≠ []) :
  b.Handles { b with pendingTX := some ⟨data, origin, hdata⟩, quietTimer := true } []
    (.keep (normalize data b.norm))
  where
    norm := rfl
    received := (List.append_nil _).symm
    slot := rfl
    quietTimer _ := rfl

/-- Received text is shown, and then the text that waits. -/
theorem Shows.handles_release (shows' : b.Shows c text [normalize ev.data b.norm])
    (h : b.pendingTX = some ev) (rxAtLineEnd txLineActive : Bool) :
  b.Handles
    { c with
      rxAtLineEnd := rxAtLineEnd
      txLineActive := txLineActive
      pendingTX := none
      quietTimer := false }
    text .release
  where
    norm := shows'.norm
    received := shows'.received
    slot := by
      change some _ = some (Slot.mk none c.transmitted)
      rw [slot, h, shows'.transmitted]
      rfl
    quietTimer _ := rfl

theorem handles_handleRX :
  b.Handles (b.handleRX data) (normalize data b.norm) (b.slotAction (.rx data))
  := by
  rw [slotAction]
  obtain ⟨c, hshows, hsame | ⟨hpending, -, hflush⟩⟩ := handleRX_cases b data
  · rw [hsame, if_pos hshows.pendingTX]
    apply hshows.handles_idle
  · obtain ⟨ev, hev⟩ := Option.isSome_iff_exists.mp hpending
    obtain ⟨d, hd, hdeq⟩ := flushPendingTX_eq hev
    have hboth := hshows.trans hd
    rw [hshows.norm, List.append_nil] at hboth
    rw [hshows.pendingTX] at hev
    rw [hflush, hdeq, hev, if_neg (Option.some_ne_none ev).symm]
    apply hboth.handles_release hev

theorem handles_handleTX :
  b.Handles (b.handleTX data origin) [] (b.slotAction (.tx data origin))
  := by
  rw [slotAction]
  split
  · rename_i hdata
    rw [handleTX, dif_pos hdata]
    apply Shows.refl.handles_idle
  · rename_i hdata
    split
    · rename_i hline
      rw [handleTX_of_atLineEnd hdata hline]
      apply (shows_emitTX hdata).handles_pass
      apply Option.isNone_iff_eq_none.mp (Bool.and_eq_true_iff.mp hline).2
    · rename_i hline
      rw [handleTX_of_not_atLineEnd hdata hline]
      apply handles_keep hdata

theorem handles_handleQuiet :
  b.Handles { b.handleQuiet with quietTimer := false } [] (b.slotAction .quiet)
  := by
  rw [slotAction]
  cases hpending : b.pendingTX with
  | none =>
      rw [handleQuiet, hpending]
      constructor
      · rfl
      · symm
        apply List.append_nil
      · rfl
      · intro _
        symm
        exact congrArg _ hpending
  | some ev =>
      obtain ⟨c, hshows, hquiet⟩ := handleQuiet_eq hpending
      rw [hquiet]
      apply hshows.handles_release hpending

/-- Every step of the broker shows what is received, and is a step of the one-place buffer. -/
theorem handles_step (step : lts.step b a c) :
  b.Handles c (a.receivedText b.norm) (b.slotAction a)
  := by
  cases a with
  | rx data =>
      obtain rfl := Option.some.inj step
      apply handles_handleRX
  | tx data origin =>
      obtain rfl := Option.some.inj step
      apply handles_handleTX
  | quiet =>
      obtain ⟨-, hnext⟩ := Option.ite_none_right_eq_some.mp step
      obtain rfl := Option.some.inj hnext
      apply handles_handleQuiet

/-- A text is lost from the buffer when one arrives while another one waits. -/
theorem slot_loses_iff :
  b.slot.loses (b.slotAction a) ↔ b.Overwrites a
  := by
  cases a with
  | rx data =>
      rw [slotAction]
      split
      · apply iff_of_false Bool.false_ne_true id
      · apply iff_of_false Bool.false_ne_true id
  | tx data origin =>
      have hkept : b.slot.kept.isSome = b.pendingTX.isSome := Option.isSome_map
      rw [slotAction, Overwrites]
      split
      · rename_i hdata
        apply iff_of_false Bool.false_ne_true
        rintro ⟨hne, -⟩
        exact hne hdata
      · rename_i hdata
        split
        · rename_i hline
          apply iff_of_false Bool.false_ne_true
          rintro ⟨-, hsome⟩
          rw [Option.isNone_iff_eq_none.mp (Bool.and_eq_true_iff.mp hline).2] at hsome
          cases hsome
        · rw [Slot.loses, hkept, and_iff_right hdata]
  | quiet =>
      rw [slotAction]
      split
      · apply iff_of_false Bool.false_ne_true id
      · apply iff_of_false Bool.false_ne_true id

theorem slot_offered :
  (b.slotAction a).offered = a.transmittedText b.norm
  := by
  cases a with
  | rx data =>
      rw [slotAction]
      split
      · rfl
      · rfl
  | tx data origin =>
      rw [slotAction, ConsoleEvent.transmittedText]
      split
      · rfl
      · split
        · rfl
        · rfl
  | quiet =>
      rw [slotAction]
      split
      · rfl
      · rfl

/-! ### Runs -/

theorem norm_of_run (run : lts.Run b tr t) :
  t.norm = b.norm
  := by
  apply run.invariant (I := fun t => t.norm = b.norm) rfl
  intro e _ hbefore step
  rw [(handles_step step).norm, hbefore]

theorem norm_of_mem (run : lts.Run b tr t) :
  ∀ e ∈ tr, e.before.norm = b.norm
  := by
  apply run.invariant_before (I := fun t => t.norm = b.norm) rfl
  intro e _ hbefore step
  rw [(handles_step step).norm, hbefore]

/-- The quiet timer runs exactly as long as a text waits to be shown. -/
theorem quietTimer_of_run (run : lts.Run (new norm) tr t) :
  t.quietTimer = t.pendingTX.isSome
  := by
  apply run.invariant (I := fun t => t.quietTimer = t.pendingTX.isSome) rfl
  intro e _ hbefore step
  apply (handles_step step).quietTimer hbefore

/-- What is received is shown, in every run, without a loss. -/
theorem received_of_run (run : lts.Run (new norm) tr t) :
  t.received = (tr.map fun e => e.action.receivedText norm).flatten
  := by
  induction run with
  | nil => rfl
  | snoc run step ih =>
      rw [(handles_step step).received, ih, norm_of_run run, List.map_append, List.flatten_append]
      congr 1
      symm
      apply List.append_nil

/-- The run of the broker, as a run of the one-place buffer. -/
theorem slot_run (run : lts.Run b tr t) :
  Slot.lts.Run b.slot (tr.map (Lts.Transition.map slot slotAction)) t.slot
  := by
  apply run.map
  intro e _ step
  apply (handles_step step).slot

/-- The texts that are put into the buffer are those of the events. -/
theorem offered_slot (h : ∀ e ∈ tr, e.before.norm = norm) :
  Slot.offered (tr.map (Lts.Transition.map slot slotAction)) =
    tr.filterMap fun e => e.action.transmittedText norm
  := by
  rw [Slot.offered, List.filterMap_map]
  apply List.filterMap_congr
  intro e he
  rw [← h e he]
  apply slot_offered

/-- When no text waits to be shown, every transmitted text has been shown once and in the order
of the events, exactly when none has arrived while another one waited. -/
theorem transmitted_eq_iff (run : lts.Run (new norm) tr t) (hpending : t.pendingTX = none) :
  t.transmitted = tr.filterMap (fun e => e.action.transmittedText norm) ↔
    ∀ e ∈ tr, ¬ e.before.Overwrites e.action
  := by
  have hkept : t.slot.kept = none := by rw [slot, hpending, Option.map_none]
  have hempty : (new norm).slot = Slot.empty := rfl
  have hcontents := Slot.contents_eq_iff (slot_run run)
  rw [Slot.contents_of_kept hkept, offered_slot (norm_of_mem run), hempty, Slot.contents_empty,
    List.nil_append] at hcontents
  apply hcontents.trans
  rw [List.forall_mem_map]
  apply forall₂_congr
  intro e _
  rw [← slot_loses_iff]
  apply (Bool.not_eq_true _).symm.to_iff

theorem transmittedText_of_actions {actions : List ConsoleEvent}
    (h : tr.map Lts.Transition.action = actions) :
  tr.filterMap (fun e => e.action.transmittedText norm) =
    actions.filterMap (ConsoleEvent.transmittedText norm)
  := by
  rw [← h, List.filterMap_map]
  rfl

/-- The options that a broker has at first. -/
def initialNorm : NormalizationOptions where
  mode := .names
  lineEnding := .lf
  tabRender := []
  preserveANSI := true
  showNLTag := false

/-- A text is transmitted in the middle of a received line, and another one when the line has
been quiet. -/
theorem transmitted_in_turn :
  ∃ tr t, lts.Run (new initialNorm) tr t ∧ t.pendingTX = none ∧
    t.transmitted = [bytes "x", bytes "y"]
  := by
  obtain ⟨tr, t, run, hactions, hoverwrites, hpending⟩ :=
    Lts.exists_run_of_restrict step (fun b a => ¬ b.Overwrites a) (new initialNorm)
      [.rx (bytes "a"), .tx (bytes "x") .user, .quiet, .tx (bytes "y") .user]
      (fun t => t.pendingTX) (by decide +kernel : _ = some none)
  use tr, t, run, hpending
  rw [(transmitted_eq_iff run hpending).mpr hoverwrites, transmittedText_of_actions hactions]
  decide +kernel

/-- Two texts are transmitted in the middle of a received line. The second one takes the place
of the first, which is never shown. -/
theorem transmitted_text_lost :
  ¬ ∀ (norm : NormalizationOptions) (tr : List (Lts.Transition ConsoleBroker ConsoleEvent))
      (t : ConsoleBroker),
    lts.Run (new norm) tr t → t.pendingTX = none →
    t.transmitted = tr.filterMap fun e => e.action.transmittedText norm
  := by
  intro claim
  obtain ⟨tr, t, run, hactions, hobserve⟩ :=
    Lts.exists_run_of_observe step (new initialNorm)
      [.rx (bytes "a"), .tx (bytes "x") .user, .tx (bytes "y") .user, .quiet]
      (fun t => (t.pendingTX, t.transmitted))
      (by decide +kernel : _ = some (none, [bytes "y"]))
  obtain ⟨hpending, htransmitted⟩ := Prod.mk.inj hobserve
  have htexts := claim _ tr t run hpending
  rw [htransmitted, transmittedText_of_actions hactions] at htexts
  revert htexts
  decide +kernel

end ConsoleBroker

end JetKvm
