import JetKvm.Library.Transducer
import JetKvm.SerialConsole.Lines

/-!
# The labels of received lines

The received text is shown line by line, with a label before each line. Seen byte by byte, it is
shown by a transducer that knows where it stands in a line: the label comes before the first byte
of a line. Of a line ending of two bytes it keeps the first one in mind, in case that the second
one follows. At the end of the received data it forgets what it has in mind.
-/

namespace JetKvm

/-- Where the next byte stands: at the beginning of a line, in the middle of one, or after a byte
that may be the first of a line ending of two bytes. -/
inductive LineState where
  | start
  | middle
  | after (s : UInt8)
deriving DecidableEq, Repr

namespace LineState

/-- The place after a byte that does not complete a line ending of two bytes. -/
def next : LineEndingMode → UInt8 → LineState
  | .asIs, b => if b = cr ∨ b = lf then .after b else .middle
  | .lf, b => if b = lf then .start else .middle
  | .cr, b => if b = cr then .start else .middle
  | .crlf, b => if b = cr then .after b else .middle
  | .lfcr, b => if b = lf then .after b else .middle

/-- The place, when no line ending goes on. In keep mode its first byte is a line ending itself. -/
def forget : LineEndingMode → LineState → LineState
  | .asIs, .after _ => .start
  | .lf, .after _ => .middle
  | .cr, .after _ => .middle
  | .crlf, .after _ => .middle
  | .lfcr, .after _ => .middle
  | _, .start => .start
  | _, .middle => .middle

/-- A byte that does not complete a line ending of two bytes. -/
def showByte (mode : LineEndingMode) (q : LineState) (b : UInt8) : Bytes × LineState :=
  ((if q = .start then ConsoleBroker.labelRX ++ bytes ": " else []) ++ [b], next mode b)

/-- The next byte. -/
def step (mode : LineEndingMode) (q : LineState) (b : UInt8) : Bytes × LineState :=
  match q with
  | .after s => if isPair s b then ([b], .start) else showByte mode (forget mode (.after s)) b
  | .start => showByte mode .start b
  | .middle => showByte mode .middle b

/-- The place that the broker takes itself to be in. -/
def ofLineEnd (atLineEnd : Bool) : LineState :=
  if atLineEnd then .start else .middle

end LineState

/-- The received text, with a label before each line. -/
def labels (mode : LineEndingMode) : Transducer LineState UInt8 UInt8 where
  step := LineState.step mode

namespace ConsoleBroker

/-- The text of some lines, with a label before each line that begins. -/
def labelled (mode : LineEndingMode) (atLineEnd : Bool) : List Bytes → Bytes
  | [] => []
  | line :: lines =>
      if line = [] then labelled mode atLineEnd lines
      else
        (if atLineEnd then labelRX ++ bytes ": " else []) ++ line ++
          labelled mode (endsWithEOL line mode) lines

variable {b : ConsoleBroker} {mode : LineEndingMode} {q : LineState} {text : Bytes}

theorem output_emitLines (atLineEnd : Bool) (lines : List Bytes) :
  (b.emitLines atLineEnd lines).1.output =
    b.output ++ labelled b.norm.lineEnding atLineEnd lines
  := by
  induction lines generalizing b atLineEnd with
  | nil =>
      symm
      apply List.append_nil
  | cons line lines ih =>
      rw [emitLines, labelled]
      split
      · apply ih
      · rw [ih, output_emitToTerminal, Emission.text, List.append_assoc]
        rfl

/-! ### Cutting into lines, byte by byte -/

/-- The place after the bytes that have been read since the last line ending. -/
def pieceState (mode : LineEndingMode) (atLineEnd : Bool) (piece : Bytes) : LineState :=
  match piece.getLast? with
  | none => .ofLineEnd atLineEnd
  | some b => .next mode b

/-- What is shown of the bytes that have been read since the last line ending. -/
def pieceText (atLineEnd : Bool) (piece : Bytes) : Bytes :=
  if piece = [] then [] else (if atLineEnd then labelRX ++ bytes ": " else []) ++ piece

theorem pieceState_snoc (mode : LineEndingMode) (atLineEnd : Bool) (piece : Bytes) (b : UInt8) :
  pieceState mode atLineEnd (piece ++ [b]) = .next mode b
  := by
  rw [pieceState, List.getLast?_concat]

theorem pieceText_snoc (atLineEnd : Bool) (piece : Bytes) (b : UInt8) :
  pieceText atLineEnd (piece ++ [b]) =
    pieceText atLineEnd piece ++
      ((if piece = [] ∧ atLineEnd then labelRX ++ bytes ": " else []) ++ [b])
  := by
  rw [pieceText, pieceText, if_neg (List.append_ne_nil_of_right_ne_nil _ (List.cons_ne_nil b []))]
  by_cases hpiece : piece = []
  · rw [hpiece]
    simp
  · simp [hpiece]

theorem isSuffixOf_one (s : UInt8) (piece : Bytes) (b : UInt8) :
  [s].isSuffixOf (piece ++ [b]) = (b == s)
  := by
  rw [List.isSuffixOf, List.reverse_append, List.reverse_singleton, List.reverse_singleton,
    List.singleton_append, List.isPrefixOf_cons_cons, List.isPrefixOf_nil_left, Bool.and_true,
    Bool.beq_comm]

theorem isSuffixOf_two (s t : UInt8) (piece : Bytes) (last b : UInt8) :
  [s, t].isSuffixOf (piece ++ [last] ++ [b]) = (last == s && b == t)
  := by
  rw [List.isSuffixOf, List.reverse_append, List.reverse_append, List.reverse_singleton,
    List.reverse_singleton]
  change (t == b && (s == last && true)) = _
  rw [Bool.and_true, Bool.and_comm, Bool.beq_comm, Bool.beq_comm (a := t)]

/-- The transducer sees a line ending where `splitAfter` sees the separator, when no line has been
read yet. -/
theorem step_ofLineEnd {sep : Bytes} (hsep : sep ∈ lineTerminators mode) (hmode : mode ≠ .asIs)
    (atLineEnd : Bool) (b : UInt8) :
  LineState.step mode (.ofLineEnd atLineEnd) b =
    ((if atLineEnd then labelRX ++ bytes ": " else []) ++ [b],
      if sep.isSuffixOf [b] then .start else .next mode b)
  := by
  have hstep : LineState.step mode (.ofLineEnd atLineEnd) b =
      ((if atLineEnd then labelRX ++ bytes ": " else []) ++ [b], .next mode b) := by
    cases atLineEnd with
    | false => rfl
    | true => rfl
  rw [hstep]
  congr 1
  symm
  apply ite_eq_right_iff.mpr
  intro hsuffix
  cases mode with
  | asIs => exact absurd rfl hmode
  | lf =>
      obtain rfl := List.mem_singleton.mp hsep
      rw [← List.nil_append [b], isSuffixOf_one, beq_iff_eq] at hsuffix
      rw [hsuffix]
      rfl
  | cr =>
      obtain rfl := List.mem_singleton.mp hsep
      rw [← List.nil_append [b], isSuffixOf_one, beq_iff_eq] at hsuffix
      rw [hsuffix]
      rfl
  | crlf =>
      obtain rfl := List.mem_singleton.mp hsep
      exact absurd (List.isSuffixOf_iff_suffix.mp hsuffix).length_le (Nat.not_succ_le_self 1)
  | lfcr =>
      obtain rfl := List.mem_singleton.mp hsep
      exact absurd (List.isSuffixOf_iff_suffix.mp hsuffix).length_le (Nat.not_succ_le_self 1)

theorem step_next {sep : Bytes} (hsep : sep ∈ lineTerminators mode) (hmode : mode ≠ .asIs)
    {piece : Bytes} {last : UInt8} (hpiece : sep.isSuffixOf (piece ++ [last]) = false)
    (b : UInt8) :
  LineState.step mode (.next mode last) b =
    ([b], if sep.isSuffixOf (piece ++ [last] ++ [b]) then .start else .next mode b)
  := by
  cases mode with
  | asIs => exact absurd rfl hmode
  | lf =>
      obtain rfl := List.mem_singleton.mp hsep
      rw [isSuffixOf_one, beq_eq_false_iff_ne] at hpiece
      rw [isSuffixOf_one, LineState.next, if_neg hpiece]
      by_cases hb : b = lf
      · rw [hb]
        rfl
      · rw [beq_eq_false_iff_ne.mpr hb]
        rfl
  | cr =>
      obtain rfl := List.mem_singleton.mp hsep
      rw [isSuffixOf_one, beq_eq_false_iff_ne] at hpiece
      rw [isSuffixOf_one, LineState.next, if_neg hpiece]
      by_cases hb : b = cr
      · rw [hb]
        rfl
      · rw [beq_eq_false_iff_ne.mpr hb]
        rfl
  | crlf =>
      obtain rfl := List.mem_singleton.mp hsep
      rw [isSuffixOf_two, LineState.next]
      by_cases hlast : last = cr
      · rw [if_pos hlast, hlast]
        by_cases hb : b = lf
        · rw [hb]
          rfl
        · rw [beq_eq_false_iff_ne.mpr hb]
          simp only [LineState.step, isPair, beq_eq_false_iff_ne.mpr hb]
          rfl
      · rw [if_neg hlast, beq_eq_false_iff_ne.mpr hlast]
        rfl
  | lfcr =>
      obtain rfl := List.mem_singleton.mp hsep
      rw [isSuffixOf_two, LineState.next]
      by_cases hlast : last = lf
      · rw [if_pos hlast, hlast]
        by_cases hb : b = cr
        · rw [hb]
          rfl
        · rw [beq_eq_false_iff_ne.mpr hb]
          simp only [LineState.step, isPair, beq_eq_false_iff_ne.mpr hb]
          rfl
      · rw [if_neg hlast, beq_eq_false_iff_ne.mpr hlast]
        rfl

/-- The transducer sees a line ending where `splitAfter` sees the separator. -/
theorem step_pieceState {sep : Bytes} (hsep : sep ∈ lineTerminators mode) (hmode : mode ≠ .asIs)
    (atLineEnd : Bool) {piece : Bytes} (hpiece : sep.isSuffixOf piece = false) (b : UInt8) :
  LineState.step mode (pieceState mode atLineEnd piece) b =
    ((if piece = [] ∧ atLineEnd then labelRX ++ bytes ": " else []) ++ [b],
      if sep.isSuffixOf (piece ++ [b]) then .start else .next mode b)
  := by
  obtain rfl | ⟨front, last, rfl⟩ := List.eq_nil_or_concat piece
  · change LineState.step mode (.ofLineEnd atLineEnd) b = _
    rw [step_ofLineEnd hsep hmode]
    simp only [true_and, List.nil_append]
  · rw [List.concat_eq_append] at hpiece ⊢
    have hne : ¬ (front ++ [last] = [] ∧ atLineEnd) := by
      rintro ⟨hnil, -⟩
      exact List.append_ne_nil_of_right_ne_nil _ (List.cons_ne_nil _ _) hnil
    rw [pieceState_snoc, step_next hsep hmode hpiece, if_neg hne]
    rfl

theorem lineTerminator_ne_nil {sep : Bytes} (hsep : sep ∈ lineTerminators mode) :
  sep.isSuffixOf [] = false
  := by
  revert sep
  cases mode with
  | asIs => decide
  | lf => decide
  | cr => decide
  | crlf => decide
  | lfcr => decide

/-- What is shown of the lines that `splitAfter` makes. -/
theorem labelled_splitAfterFrom {sep : Bytes} (hsep : sep ∈ lineTerminators mode)
    (hmode : mode ≠ .asIs) (atLineEnd : Bool) {piece : Bytes}
    (hpiece : sep.isSuffixOf piece = false) (text : Bytes) :
  labelled mode atLineEnd (splitAfterFrom sep piece text) =
    pieceText atLineEnd piece ++ (labels mode).run (pieceState mode atLineEnd piece) text
  := by
  induction text generalizing atLineEnd piece with
  | nil =>
      rw [splitAfterFrom, labelled, labelled, labelled, pieceText, Transducer.run_nil,
        List.append_nil, List.append_nil]
  | cons b rest ih =>
      have hstep : (labels mode).step _ b = _ := step_pieceState hsep hmode atLineEnd hpiece b
      have hne : piece ++ [b] ≠ [] :=
        List.append_ne_nil_of_right_ne_nil _ (List.cons_ne_nil _ _)
      rw [splitAfterFrom, Transducer.run_cons, hstep, ← List.append_assoc, ← pieceText_snoc]
      dsimp only
      split
      · rename_i hsuffix
        have hend : endsWithEOL (piece ++ [b]) mode = true :=
          endsWithEOL_iff.mpr ⟨sep, hsep, List.isSuffixOf_iff_suffix.mp hsuffix⟩
        have hnil : sep.isSuffixOf [] = false := lineTerminator_ne_nil hsep
        rw [labelled, if_neg hne, hend, ih true hnil, pieceText, pieceText, if_neg hne]
        rfl
      · rename_i hsuffix
        rw [ih atLineEnd ((Bool.not_eq_true _).mp hsuffix), pieceState_snoc]

/-- In keep mode the transducer sees a line ending at each CR and each LF. -/
theorem step_pieceState_asIs (atLineEnd : Bool) {piece : Bytes}
    (hpiece : ∀ s ∈ piece, ¬ (s = cr ∨ s = lf)) (b : UInt8) :
  LineState.step .asIs (pieceState .asIs atLineEnd piece) b =
    ((if piece = [] ∧ atLineEnd then labelRX ++ bytes ": " else []) ++ [b], .next .asIs b)
  := by
  obtain rfl | ⟨front, last, rfl⟩ := List.eq_nil_or_concat piece
  · simp only [true_and]
    cases atLineEnd with
    | false => rfl
    | true => rfl
  · rw [List.concat_eq_append] at hpiece ⊢
    have hlast := hpiece last (List.mem_append_right _ (List.mem_singleton_self _))
    have hne : ¬ (front ++ [last] = [] ∧ atLineEnd) := by
      rintro ⟨hnil, -⟩
      exact List.append_ne_nil_of_right_ne_nil _ (List.cons_ne_nil _ _) hnil
    rw [pieceState_snoc, LineState.next, if_neg hlast, if_neg hne]
    rfl

/-- The lines of a piece that has no line after it. -/
theorem labelled_singleton (atLineEnd : Bool) (piece : Bytes) :
  labelled mode atLineEnd [piece] = pieceText atLineEnd piece
  := by
  rw [labelled, labelled, labelled, List.append_nil, pieceText]

/-- A complete line, and the lines after it. -/
theorem labelled_complete {atLineEnd : Bool} {line : Bytes} (lines : List Bytes)
    (hline : endsWithEOL line mode = true) :
  labelled mode atLineEnd (line :: lines) = pieceText atLineEnd line ++ labelled mode true lines
  := by
  have hne : line ≠ [] := by
    rintro rfl
    cases hline
  rw [labelled, pieceText, if_neg hne, if_neg hne, hline]

/-- What is shown of the lines that the loop of `splitAfterAnyEOL` makes. -/
theorem labelled_scanLines (atLineEnd : Bool) {piece : Bytes}
    (hpiece : ∀ s ∈ piece, ¬ (s = cr ∨ s = lf)) (text : Bytes) :
  labelled .asIs atLineEnd (scanLines piece text) =
    pieceText atLineEnd piece ++ (labels .asIs).run (pieceState .asIs atLineEnd piece) text
  := by
  induction piece, text using scanLines.induct generalizing atLineEnd with
  | case1 => rfl
  | case2 piece hne =>
      rw [scanLines, if_neg hne, labelled_singleton, Transducer.run_nil, List.append_nil]
  | case3 piece b =>
      have hstep : (labels .asIs).step _ b = _ := step_pieceState_asIs atLineEnd hpiece b
      rw [scanLines, labelled_singleton, Transducer.run_cons, hstep, pieceText_snoc,
        Transducer.run_nil, List.append_nil]
  | case4 piece b c rest hb hpair ih =>
      have hstep : (labels .asIs).step _ b = _ := step_pieceState_asIs atLineEnd hpiece b
      have hnext : (labels .asIs).step (.next .asIs b) c = ([c], .start) := by
        rw [LineState.next, if_pos hb]
        exact if_pos hpair
      have hend : endsWithEOL (piece ++ [b, c]) .asIs = true := by
        rw [List.append_cons]
        apply endsWithEOL_asIs _ (newline_of_isPair hpair)
      rw [scanLines, if_pos hb, if_pos hpair, labelled_complete _ hend, ih true (by simp),
        Transducer.run_cons, hstep, Transducer.run_cons, hnext, List.append_cons, pieceText_snoc,
        pieceText_snoc]
      simp [pieceText, pieceState, LineState.ofLineEnd]
  | case5 piece b c rest hb hpair ih =>
      have hstep : (labels .asIs).step _ b = _ := step_pieceState_asIs atLineEnd hpiece b
      have hnext : (labels .asIs).step (.next .asIs b) c = (labels .asIs).step .start c := by
        rw [LineState.next, if_pos hb]
        exact if_neg hpair
      rw [scanLines, if_pos hb, if_neg hpair, labelled_complete _ (endsWithEOL_asIs piece hb),
        ih true (by simp), Transducer.run_cons (a := b), hstep, pieceText_snoc,
        Transducer.run_cons, Transducer.run_cons, hnext]
      simp [pieceText, pieceState, LineState.ofLineEnd]
  | case6 piece b c rest hb ih =>
      have hstep : (labels .asIs).step _ b = _ := step_pieceState_asIs atLineEnd hpiece b
      have hlonger : ∀ s ∈ piece ++ [b], ¬ (s = cr ∨ s = lf) := by
        intro s hs
        obtain hs | hs := List.mem_append.mp hs
        · apply hpiece s hs
        · rw [List.mem_singleton.mp hs]
          apply hb
      rw [scanLines, if_neg hb, ih atLineEnd hlonger, pieceState_snoc, pieceText_snoc,
        Transducer.run_cons (a := b), hstep, List.append_assoc]

/-- The lines of a text are shown as the transducer shows the text. -/
theorem labelled_splitAfterAnyEOL (mode : LineEndingMode) (atLineEnd : Bool) (text : Bytes) :
  labelled mode atLineEnd (splitAfterAnyEOL text mode) =
    (labels mode).run (.ofLineEnd atLineEnd) text
  := by
  unfold splitAfterAnyEOL
  split
  · rename_i htext
    rw [htext]
    rfl
  · have hsplit : ∀ sep ∈ lineTerminators mode, mode ≠ .asIs →
        labelled mode atLineEnd (splitAfter text sep) =
          (labels mode).run (.ofLineEnd atLineEnd) text := by
      intro sep hsep hmode
      exact labelled_splitAfterFrom hsep hmode atLineEnd (lineTerminator_ne_nil hsep) text
    cases mode with
    | asIs => exact labelled_scanLines atLineEnd (List.forall_mem_nil _) text
    | lf => exact hsplit _ List.mem_cons_self (by decide)
    | cr => exact hsplit _ List.mem_cons_self (by decide)
    | crlf => exact hsplit _ List.mem_cons_self (by decide)
    | lfcr => exact hsplit _ List.mem_cons_self (by decide)

end ConsoleBroker

/-! ### The place after a text -/

namespace LineState

variable {mode : LineEndingMode} {q : LineState} {s t b : UInt8} {text : Bytes}

/-- A byte that is kept in mind is one that may begin a line ending of two bytes. -/
def Valid (mode : LineEndingMode) (q : LineState) : Prop :=
  ∀ s, q = .after s → next mode s = .after s

theorem valid_ofLineEnd (atLineEnd : Bool) :
  (ofLineEnd atLineEnd).Valid mode
  := by
  intro s h
  cases atLineEnd with
  | false => cases h
  | true => cases h

theorem next_eq_after (h : next mode b = .after s) :
  b = s
  := by
  cases mode with
  | asIs =>
      rw [next] at h
      split at h
      · injection h
      · cases h
  | lf =>
      rw [next] at h
      split at h
      · cases h
      · cases h
  | cr =>
      rw [next] at h
      split at h
      · cases h
      · cases h
  | crlf =>
      rw [next] at h
      split at h
      · injection h
      · cases h
  | lfcr =>
      rw [next] at h
      split at h
      · injection h
      · cases h

/-- A byte completes a line ending of two bytes, or begins anew. -/
theorem step_snd (mode : LineEndingMode) (q : LineState) (b : UInt8) :
  (∃ s, q = .after s ∧ isPair s b = true ∧ (step mode q b).2 = .start) ∨
    (step mode q b).2 = next mode b
  := by
  cases q with
  | start => exact .inr rfl
  | middle => exact .inr rfl
  | after s =>
      rw [step]
      split
      · rename_i hpair
        exact .inl ⟨s, rfl, hpair, rfl⟩
      · exact .inr rfl

theorem valid_step (mode : LineEndingMode) (q : LineState) (b : UInt8) :
  (step mode q b).2.Valid mode
  := by
  intro s h
  obtain ⟨-, -, -, hstart⟩ | hnext := step_snd mode q b
  · rw [hstart] at h
    cases h
  · rw [hnext] at h
    rw [← next_eq_after h, h, next_eq_after h]

theorem valid_final (hq : q.Valid mode) (text : Bytes) :
  ((labels mode).final q text).Valid mode
  := by
  induction text generalizing q with
  | nil => apply hq
  | cons b rest ih => apply ih (valid_step mode q b)

@[simp]
theorem forget_start (mode : LineEndingMode) : forget mode .start = .start
  := by
  cases mode <;> rfl

@[simp]
theorem forget_middle (mode : LineEndingMode) : forget mode .middle = .middle
  := by
  cases mode <;> rfl

section TwoBytes

variable (hnext : ∀ b, next mode b = if b = s then .after b else .middle)
  (hforget : ∀ b, forget mode (.after b) = .middle) (hpair : ∀ b, isPair s b = (b == t))

include hnext hforget in
theorem forget_next_two (b : UInt8) :
  forget mode (next mode b) = .middle
  := by
  rw [hnext]
  split
  · apply hforget
  · apply forget_middle

include hnext hpair in
/-- The first byte of a line ending is kept in mind. -/
theorem step_first (hst : s ≠ t) (hq : q.Valid mode) :
  (step mode q s).2 = .after s
  := by
  obtain ⟨r, hr, hrs, -⟩ | hsnd := step_snd mode q s
  · have hvalid := hq r hr
    rw [hnext] at hvalid
    split at hvalid
    · rename_i heq
      rw [heq, hpair, beq_eq_false_iff_ne.mpr hst] at hrs
      cases hrs
    · cases hvalid
  · rw [hsnd, hnext, if_pos rfl]

include hnext in
/-- No other byte is kept in mind. -/
theorem step_other (hb : b ≠ s) :
  (step mode q b).2 = .start ∨ (step mode q b).2 = .middle
  := by
  obtain ⟨-, -, -, hstart⟩ | hsnd := step_snd mode q b
  · exact .inl hstart
  · rw [hsnd, hnext, if_neg hb]
    exact .inr rfl

include hnext hforget hpair in
/-- In a mode with a line ending of two bytes, it is seen when its second byte comes directly
after its first. -/
theorem forget_final_two (hst : s ≠ t) (atLineEnd : Bool) (htext : text ≠ []) :
  forget mode ((labels mode).final (.ofLineEnd atLineEnd) text) =
    .ofLineEnd ([s, t].isSuffixOf text)
  := by
  obtain rfl | ⟨front, b, rfl⟩ := List.eq_nil_or_concat text
  · exact absurd rfl htext
  rw [List.concat_eq_append, Transducer.final_snoc]
  change forget mode (step mode _ b).2 = _
  obtain rfl | ⟨front, last, rfl⟩ := List.eq_nil_or_concat front
  · have hsnd : (step mode (.ofLineEnd atLineEnd) b).2 = next mode b := by
      cases atLineEnd <;> rfl
    have hsuffix : [s, t].isSuffixOf [b] = false := by
      apply Bool.eq_false_iff.mpr
      intro htrue
      exact absurd (List.isSuffixOf_iff_suffix.mp htrue).length_le (Nat.not_succ_le_self 1)
    rw [Transducer.final_nil, hsnd, forget_next_two hnext hforget, List.nil_append, hsuffix]
    rfl
  rw [List.concat_eq_append, Transducer.final_snoc, ConsoleBroker.isSuffixOf_two]
  change forget mode (step mode (step mode _ last).2 b).2 = _
  by_cases hlast : last = s
  · have hvalid : ((labels mode).final (.ofLineEnd atLineEnd) front).Valid mode :=
      valid_final (valid_ofLineEnd atLineEnd) front
    rw [hlast, step_first hnext hpair hst hvalid, step, hpair, beq_self_eq_true, Bool.true_and]
    by_cases hb : b = t
    · rw [hb, beq_self_eq_true]
      apply forget_start
    · rw [beq_eq_false_iff_ne.mpr hb]
      apply forget_next_two hnext hforget
  · rw [beq_eq_false_iff_ne.mpr hlast, Bool.false_and]
    obtain hstart | hmiddle := step_other (q := (labels mode).final (.ofLineEnd atLineEnd) front)
      hnext hlast
    · rw [hstart]
      apply forget_next_two hnext hforget
    · rw [hmiddle]
      apply forget_next_two hnext hforget

end TwoBytes

/-- In a mode with a line ending of one byte, it is seen when it comes last. -/
theorem forget_final_one (hnext : ∀ b, next mode b = if b = s then .start else .middle)
    (atLineEnd : Bool) (htext : text ≠ []) :
  forget mode ((labels mode).final (.ofLineEnd atLineEnd) text) = .ofLineEnd ([s].isSuffixOf text)
  := by
  obtain rfl | ⟨front, b, rfl⟩ := List.eq_nil_or_concat text
  · exact absurd rfl htext
  have hvalid : ((labels mode).final (.ofLineEnd atLineEnd) front).Valid mode :=
    valid_final (valid_ofLineEnd atLineEnd) front
  rw [List.concat_eq_append, Transducer.final_snoc, ConsoleBroker.isSuffixOf_one]
  change forget mode (step mode _ b).2 = _
  obtain ⟨r, hr, -, -⟩ | hsnd := step_snd mode ((labels mode).final (.ofLineEnd atLineEnd) front) b
  · have hafter := hvalid r hr
    rw [hnext] at hafter
    split at hafter
    · cases hafter
    · cases hafter
  · rw [hsnd, hnext]
    by_cases hb : b = s
    · rw [if_pos hb, hb, beq_self_eq_true]
      apply forget_start
    · rw [if_neg hb, beq_eq_false_iff_ne.mpr hb]
      apply forget_middle

/-- In keep mode a line ending is seen when a CR or an LF comes last. -/
theorem forget_final_asIs (atLineEnd : Bool) (htext : text ≠ []) :
  forget .asIs ((labels .asIs).final (.ofLineEnd atLineEnd) text) =
    .ofLineEnd (endsWithEOL text .asIs)
  := by
  obtain rfl | ⟨front, b, rfl⟩ := List.eq_nil_or_concat text
  · exact absurd rfl htext
  rw [List.concat_eq_append, Transducer.final_snoc]
  change forget .asIs (step .asIs _ b).2 = _
  obtain ⟨r, -, hpair, hstart⟩ | hsnd :=
    step_snd .asIs ((labels .asIs).final (.ofLineEnd atLineEnd) front) b
  · rw [hstart, endsWithEOL_asIs front (newline_of_isPair hpair)]
    rfl
  · rw [hsnd, next]
    split
    · rename_i hb
      rw [endsWithEOL_asIs front hb]
      rfl
    · rename_i hb
      have hends : endsWithEOL (front ++ [b]) .asIs = false := by
        apply Bool.eq_false_iff.mpr
        intro hends
        have hnil := endsWithEOL_of_append hb hends
        cases hnil
      rw [hends]
      rfl

/-- After a text, the transducer stands at the beginning of a line exactly when the text ends with
a line ending. -/
theorem forget_final (mode : LineEndingMode) (atLineEnd : Bool) (htext : text ≠ []) :
  forget mode ((labels mode).final (.ofLineEnd atLineEnd) text) =
    .ofLineEnd (endsWithEOL text mode)
  := by
  cases mode with
  | asIs => apply forget_final_asIs atLineEnd htext
  | lf =>
      unfold endsWithEOL
      rw [if_neg htext]
      exact forget_final_one (fun _ => rfl) atLineEnd htext
  | cr =>
      unfold endsWithEOL
      rw [if_neg htext]
      exact forget_final_one (fun _ => rfl) atLineEnd htext
  | crlf =>
      unfold endsWithEOL
      rw [if_neg htext]
      exact forget_final_two (fun _ => rfl) (fun _ => rfl) isPair_cr (by decide) atLineEnd htext
  | lfcr =>
      unfold endsWithEOL
      rw [if_neg htext]
      exact forget_final_two (fun _ => rfl) (fun _ => rfl) isPair_lf (by decide) atLineEnd htext

end LineState

namespace ConsoleBroker

variable {b : ConsoleBroker} {data : Bytes}

/-! ### Received data -/

/-- Nothing has been transmitted. -/
structure OnlyReceives (norm : NormalizationOptions) (b : ConsoleBroker) : Prop where
  norm : b.norm = norm
  txLineActive : b.txLineActive = false
  pendingTX : b.pendingTX = none

/-- Received data are shown by the transducer, which then forgets what it has in mind. -/
def receive (norm : NormalizationOptions) : Transducer LineState Bytes UInt8 where
  step q data :=
    ((labels norm.lineEnding).run q (normalize data norm),
      .forget norm.lineEnding ((labels norm.lineEnding).final q (normalize data norm)))

variable {norm : NormalizationOptions}

/-- A broker that receives data is the transducer. -/
structure Receives (norm : NormalizationOptions) (b : ConsoleBroker) (data : Bytes)
    (c : ConsoleBroker) : Prop where
  onlyReceives : c.OnlyReceives norm
  output : c.output = b.output ++ ((receive norm).step (.ofLineEnd b.rxAtLineEnd) data).1
  lineEnd : LineState.ofLineEnd c.rxAtLineEnd =
    ((receive norm).step (.ofLineEnd b.rxAtLineEnd) data).2

/-- Data of no length change nothing. -/
theorem receive_nil (atLineEnd : Bool) :
  (receive norm).step (.ofLineEnd atLineEnd) [] = ([], .ofLineEnd atLineEnd)
  := by
  simp only [receive, normalize_nil, Transducer.run_nil, Transducer.final_nil]
  cases atLineEnd with
  | false => rw [LineState.ofLineEnd, if_neg Bool.false_ne_true, LineState.forget_middle]
  | true => rw [LineState.ofLineEnd, if_pos rfl, LineState.forget_start]

theorem output_showRX (h : b.OnlyReceives norm) :
  (b.showRX data).output =
    b.output ++ (labels norm.lineEnding).run (.ofLineEnd b.rxAtLineEnd) (normalize data norm)
  := by
  have hstart : b.startRX = b := by
    rw [startRX, h.txLineActive]
    rfl
  have hlines := output_emitLines (b := b) b.rxAtLineEnd
    (splitAfterAnyEOL (normalize data b.norm) b.norm.lineEnding)
  rw [labelled_splitAfterAnyEOL, h.norm] at hlines
  rw [← hlines, showRX, hstart, h.norm]
  rfl

theorem receives_handleRX (h : b.OnlyReceives norm) (data : Bytes) :
  b.Receives norm data (b.handleRX data)
  := by
  by_cases hdata : data = []
  · rw [handleRX, if_pos hdata, hdata]
    constructor
    · apply h
    · rw [receive_nil, List.append_nil]
    · rw [receive_nil]
  · obtain ⟨sent, hshow, -⟩ := showRX_eq (b := b) hdata
    have hpending : (b.showRX data).pendingTX = none := by
      rw [hshow]
      exact h.pendingTX
    have hhandle : b.handleRX data = b.showRX data := by
      rw [handleRX_eq hdata, hpending]
      rfl
    rw [hhandle]
    constructor
    · constructor
      · rw [hshow]
        exact h.norm
      · rw [hshow]
      · exact hpending
    · apply output_showRX h
    · rw [hshow, h.norm]
      symm
      exact LineState.forget_final norm.lineEnding b.rxAtLineEnd (normalize_ne_nil norm hdata)

theorem onlyReceives_new (norm : NormalizationOptions) :
  (new norm).OnlyReceives norm
  where
    norm := rfl
    txLineActive := rfl
    pendingTX := rfl

/-- A broker that only receives data shows them as the transducer does. -/
theorem output_of_received {chunks : List Bytes}
    {tr : List (Lts.Transition ConsoleBroker ConsoleEvent)} {t : ConsoleBroker}
    (run : lts.Run (new norm) tr t) (hchunks : tr.map Lts.Transition.action = chunks.map .rx) :
  t.output = (receive norm).run .start chunks
  := by
  suffices h : t.OnlyReceives norm ∧ t.output = (receive norm).run .start chunks ∧
      LineState.ofLineEnd t.rxAtLineEnd = (receive norm).final .start chunks from h.2.1
  induction run generalizing chunks with
  | nil =>
      obtain rfl := List.map_eq_nil_iff.mp hchunks.symm
      exact ⟨onlyReceives_new norm, rfl, rfl⟩
  | snoc run step ih =>
      rw [List.map_append] at hchunks
      obtain ⟨front, back, rfl, hfront, hback⟩ := List.map_eq_append_iff.mp hchunks.symm
      obtain ⟨data, rfl, rfl⟩ := List.map_eq_singleton_iff.mp hback
      obtain rfl := Option.some.inj step
      obtain ⟨honly, houtput, hline⟩ := ih hfront.symm
      obtain ⟨hnext, hnextOutput, hnextLine⟩ := receives_handleRX honly data
      rw [hline] at hnextOutput hnextLine
      use hnext
      constructor
      · rw [hnextOutput, houtput, Transducer.run_append, Transducer.run_singleton]
      · rw [hnextLine, Transducer.final_snoc]

/-- Data can be received at any time. -/
theorem exists_run_of_received (norm : NormalizationOptions) (chunks : List Bytes) :
  ∃ tr t, lts.Run (new norm) tr t ∧ tr.map Lts.Transition.action = chunks.map .rx
  := by
  induction chunks using List.reverseRecOn with
  | nil => exact ⟨[], new norm, .nil, rfl⟩
  | append_singleton chunks data ih =>
      obtain ⟨tr, t, run, hactions⟩ := ih
      use tr ++ [⟨t, .rx data, t.handleRX data⟩], t.handleRX data, run.snoc rfl
      rw [List.map_append, List.map_append, hactions]
      rfl

end ConsoleBroker

end JetKvm
