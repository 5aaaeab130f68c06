import JetKvm.Library.LongestSuffix
import JetKvm.SerialConsole.Broker
import Mathlib.Algebra.GroupWithZero.Nat

/-!
# The output of a paused terminal

While the terminal is paused, what would be sent to it is kept in a buffer, which loses its oldest
texts when there are too many of them or when they are too long together. What is kept is sent when
the terminal goes on.
-/

namespace JetKvm

/-- The terminal of a broker that has a sink, and what the sink has been sent, oldest first. -/
structure TerminalOutput where
  maxBufLines : ℕ
  maxBufBytes : ℕ
  terminalPaused : Bool
  bufLines : List Bytes
  bufBytes : Int
  sent : List Bytes
deriving DecidableEq, Repr

/-- A text is emitted, or the terminal is paused or goes on. -/
inductive TerminalEvent where
  | emit (s : Bytes)
  | pause (v : Bool)
deriving DecidableEq, Repr

namespace TerminalOutput

/-- The output of a new broker. The limits that `NewConsoleBroker` sets are 5000 and `1 << 20`. -/
def new (maxBufLines maxBufBytes : ℕ) : TerminalOutput where
  maxBufLines := maxBufLines
  maxBufBytes := maxBufBytes
  terminalPaused := false
  bufLines := []
  bufBytes := 0
  sent := []

/-- The loop of `enqueueBuffered`, which drops the oldest texts. -/
def trimBuffer (maxBufLines maxBufBytes : ℕ) : List Bytes → Int → List Bytes × Int
  | [], bufBytes => ([], bufBytes)
  | s :: bufLines, bufBytes =>
      if bufBytes > maxBufBytes ∨ (s :: bufLines).length > maxBufLines then
        trimBuffer maxBufLines maxBufBytes bufLines (bufBytes - s.length)
      else (s :: bufLines, bufBytes)

def enqueueBuffered (out : TerminalOutput) (s : Bytes) : TerminalOutput :=
  let trimmed := trimBuffer out.maxBufLines out.maxBufBytes (out.bufLines ++ [s])
    (out.bufBytes + s.length)
  { out with bufLines := trimmed.1, bufBytes := trimmed.2 }

def emitToTerminal (out : TerminalOutput) (s : Bytes) : TerminalOutput :=
  if s = [] then out
  else if out.terminalPaused then out.enqueueBuffered s
  else { out with sent := out.sent ++ [s] }

def flushBuffer (out : TerminalOutput) : TerminalOutput :=
  { out with bufLines := [], bufBytes := 0, sent := out.sent ++ out.bufLines }

/-- What `loop` does with a value from `pauseCh`. -/
def setTerminalPaused (out : TerminalOutput) (v : Bool) : TerminalOutput :=
  let next := { out with terminalPaused := v }
  if out.terminalPaused && !v then next.flushBuffer else next

def step (out : TerminalOutput) : TerminalEvent → TerminalOutput
  | .emit s => out.emitToTerminal s
  | .pause v => out.setTerminalPaused v

/-- The output after the events. -/
def run (out : TerminalOutput) (events : List TerminalEvent) : TerminalOutput :=
  events.foldl step out

/-! ### What is kept -/

/-- The texts are few enough, and short enough together. -/
def Fits (maxBufLines maxBufBytes : ℕ) (texts : List Bytes) : Prop :=
  texts.length ≤ maxBufLines ∧ (texts.map List.length).sum ≤ maxBufBytes

/-- The texts that have been emitted since the terminal was paused, if it is. -/
def sincePause (paused : Option (List Bytes)) : TerminalEvent → Option (List Bytes)
  | .emit s => paused.map fun texts => if s = [] then texts else texts ++ [s]
  | .pause v => if v then some (paused.getD []) else none

/-- The texts that are emitted after the terminal was paused for the last time, if it is still
paused after the events. -/
def emittedSincePause (events : List TerminalEvent) : Option (List Bytes) :=
  events.foldl sincePause none

/-- The buffer holds the longest suffix that fits of the texts emitted since the terminal was
paused. -/
structure KeepsTail (out : TerminalOutput) (paused : Option (List Bytes)) : Prop where
  terminalPaused : out.terminalPaused = paused.isSome
  bytes : out.bufBytes = (out.bufLines.map List.length).sum
  kept : LongestSuffix (Fits out.maxBufLines out.maxBufBytes) out.bufLines (paused.getD [])

variable {maxBufLines maxBufBytes : ℕ} {out : TerminalOutput} {paused : Option (List Bytes)}
  {s : Bytes} {texts : List Bytes}

theorem fits_nil :
  Fits maxBufLines maxBufBytes []
  := ⟨Nat.zero_le _, Nat.zero_le _⟩

/-- Fewer texts fit too. -/
theorem Fits.of_concat (h : Fits maxBufLines maxBufBytes (texts ++ [s])) :
  Fits maxBufLines maxBufBytes texts
  := by
  obtain ⟨hlines, hbytes⟩ := h
  rw [List.length_append] at hlines
  rw [List.map_append, List.sum_append] at hbytes
  constructor <;> omega

/-- The loop keeps the longest suffix that fits, and its count stays the sum of the lengths. -/
theorem trimBuffer_longest (texts : List Bytes) :
  LongestSuffix (Fits maxBufLines maxBufBytes)
      (trimBuffer maxBufLines maxBufBytes texts (texts.map List.length).sum).1 texts ∧
    (trimBuffer maxBufLines maxBufBytes texts (texts.map List.length).sum).2 =
      ((trimBuffer maxBufLines maxBufBytes texts (texts.map List.length).sum).1.map
        List.length).sum
  := by
  induction texts with
  | nil => exact ⟨.nil fits_nil, rfl⟩
  | cons s texts ih =>
      rw [trimBuffer]
      split
      · next hover =>
          have hsum : (((s :: texts).map List.length).sum : ℤ) - s.length =
              (texts.map List.length).sum := by
            rw [List.map_cons, List.sum_cons]
            omega
          rw [hsum]
          have hnot : ¬ Fits maxBufLines maxBufBytes (s :: texts) := by
            rintro ⟨hlines, hbytes⟩
            omega
          exact ⟨ih.1.cons hnot, ih.2⟩
      · next hfits =>
          have hall : Fits maxBufLines maxBufBytes (s :: texts) := by
            constructor <;> omega
          exact ⟨.refl hall, rfl⟩

/-- A text that is emitted while the terminal is paused. -/
theorem KeepsTail.enqueueBuffered (h : out.KeepsTail (some texts))
    (hpaused : out.terminalPaused = true) :
  (out.enqueueBuffered s).KeepsTail (some (texts ++ [s]))
  := by
  have hsum : out.bufBytes + s.length = (((out.bufLines ++ [s]).map List.length).sum : ℕ) := by
    rw [h.bytes, List.map_append, List.sum_append]
    simp
  obtain ⟨hlongest, hbytes⟩ :=
    @trimBuffer_longest out.maxBufLines out.maxBufBytes (out.bufLines ++ [s])
  rw [TerminalOutput.enqueueBuffered, hsum]
  constructor
  · apply hpaused
  · apply hbytes
  · apply h.kept.concat _ hlongest
    intro _ _ hfits
    apply hfits.of_concat

/-- A step keeps the tail of what has been emitted. -/
theorem KeepsTail.step (h : out.KeepsTail paused) (event : TerminalEvent) :
  (out.step event).KeepsTail (sincePause paused event)
  := by
  cases event with
  | emit s =>
      rw [TerminalOutput.step, emitToTerminal]
      by_cases hs : s = []
      · rw [if_pos hs]
        cases paused with
        | none => apply h
        | some texts =>
            rw [sincePause, Option.map_some, if_pos hs]
            apply h
      · rw [if_neg hs]
        cases paused with
        | none =>
            rw [if_neg (ne_true_of_eq_false h.terminalPaused)]
            exact ⟨h.terminalPaused, h.bytes, h.kept⟩
        | some texts =>
            have hpaused : out.terminalPaused = true := h.terminalPaused
            rw [if_pos hpaused, sincePause, Option.map_some, if_neg hs]
            apply h.enqueueBuffered hpaused
  | pause v =>
      rw [TerminalOutput.step, setTerminalPaused]
      cases v with
      | true =>
          rw [Bool.not_true, Bool.and_false]
          exact ⟨rfl, h.bytes, h.kept⟩
      | false =>
          cases paused with
          | none =>
              rw [h.terminalPaused]
              exact ⟨rfl, h.bytes, h.kept⟩
          | some texts =>
              rw [h.terminalPaused]
              exact ⟨rfl, rfl, .nil fits_nil⟩

theorem step_limits (out : TerminalOutput) (event : TerminalEvent) :
  (out.step event).maxBufLines = out.maxBufLines ∧ (out.step event).maxBufBytes = out.maxBufBytes
  := by
  cases event with
  | emit s =>
      rw [step, emitToTerminal]
      split
      · exact ⟨rfl, rfl⟩
      · split <;> exact ⟨rfl, rfl⟩
  | pause v =>
      rw [step, setTerminalPaused]
      split <;> exact ⟨rfl, rfl⟩

/-- What has been sent stays, and more may follow. -/
theorem sent_prefix_run (out : TerminalOutput) (events : List TerminalEvent) :
  out.sent <+: (out.run events).sent
  := by
  have hstep : ∀ (out : TerminalOutput) event, out.sent <+: (out.step event).sent := by
    intro out event
    cases event with
    | emit s =>
        rw [step, emitToTerminal]
        split
        · apply List.prefix_refl
        · split
          · apply List.prefix_refl
          · apply List.prefix_append
    | pause v =>
        rw [step, setTerminalPaused]
        split
        · apply List.prefix_append
        · apply List.prefix_refl
  induction events generalizing out with
  | nil => apply List.prefix_refl
  | cons event events ih => apply (hstep out event).trans (ih _)

/-- The tail of what has been emitted is kept along a run, in which the limits stay what they
are. -/
theorem keepsTail_run (events : List TerminalEvent) :
  ((new maxBufLines maxBufBytes).run events).KeepsTail (emittedSincePause events) ∧
    ((new maxBufLines maxBufBytes).run events).maxBufLines = maxBufLines ∧
    ((new maxBufLines maxBufBytes).run events).maxBufBytes = maxBufBytes
  := by
  have hrun : ∀ (out : TerminalOutput) paused, out.KeepsTail paused →
      (out.run events).KeepsTail (events.foldl sincePause paused) ∧
        (out.run events).maxBufLines = out.maxBufLines ∧
        (out.run events).maxBufBytes = out.maxBufBytes := by
    induction events with
    | nil => exact fun _ _ h => ⟨h, rfl, rfl⟩
    | cons event events ih =>
        intro out paused h
        obtain ⟨hkeeps, hlines, hbytes⟩ := ih _ _ (h.step event)
        obtain ⟨hlines', hbytes'⟩ := out.step_limits event
        exact ⟨hkeeps, hlines.trans hlines', hbytes.trans hbytes'⟩
  apply hrun
  exact ⟨rfl, rfl, .nil fits_nil⟩

/-- After any events, the buffer of a paused terminal holds the longest suffix that fits of what has
been emitted since the pause, with its length; that of another terminal is empty. When the terminal
goes on, what is in the buffer is sent before anything else. -/
theorem paused_output_faithful (maxBufLines maxBufBytes : ℕ) (events : List TerminalEvent) :
  let out := (new maxBufLines maxBufBytes).run events
  out.terminalPaused = (emittedSincePause events).isSome ∧
    (∀ texts, emittedSincePause events = some texts →
      LongestSuffix (Fits maxBufLines maxBufBytes) out.bufLines texts) ∧
    (emittedSincePause events = none → out.bufLines = []) ∧
    out.bufBytes = (out.bufLines.map List.length).sum ∧
    (out.terminalPaused = true →
      (out.step (.pause false)).sent = out.sent ++ out.bufLines ∧
      ∀ later, out.sent ++ out.bufLines <+: ((out.step (.pause false)).run later).sent)
  := by
  intro out
  obtain ⟨hkeeps, hlines, hbytes⟩ := @keepsTail_run maxBufLines maxBufBytes events
  have hkept := hkeeps.kept
  rw [hlines, hbytes] at hkept
  use hkeeps.terminalPaused
  constructor
  · intro texts htexts
    rw [htexts] at hkept
    apply hkept
  constructor
  · intro hnone
    rw [hnone] at hkept
    apply List.suffix_nil.mp hkept.suffix
  use hkeeps.bytes
  intro hpaused
  have hsent : (out.step (.pause false)).sent = out.sent ++ out.bufLines := by
    rw [step, setTerminalPaused, hpaused]
    rfl
  use hsent
  intro later
  rw [← hsent]
  apply sent_prefix_run

/-- Of three texts the last two are kept when there is room for two. -/
example : ((new 2 10).run [.pause true, .emit [1], .emit [2], .emit [3]]).bufLines = [[2], [3]] := by
  decide

end TerminalOutput

end JetKvm
