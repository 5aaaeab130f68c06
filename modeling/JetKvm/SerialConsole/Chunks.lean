import JetKvm.SerialConsole.Labels

/-!
# The chunks of received data

The serial port is read in chunks, and each chunk is normalised and shown by itself. What is shown
does not depend on where the chunks end, unless two neighbouring bytes of the stream make more
together than apart: they are one line ending, they introduce an escape sequence that is kept, or
a line ending begins in what is shown for the first and ends in what is shown for the second.
-/

namespace JetKvm

/-! ### Neighbouring bytes -/

/-- What is shown for a byte by itself. -/
def shown (norm : NormalizationOptions) (b : UInt8) : Bytes :=
  (normalizeStep norm b []).1

/-- The CR or LF that ends a text, when it is not the second byte of a line ending. -/
def unpaired : Bytes → Option UInt8
  | [] => none
  | [b] => if b = cr ∨ b = lf then some b else none
  | b :: c :: rest => if isPair b c then unpaired rest else unpaired (c :: rest)

/-- The byte at the end of a text that may begin a line ending of two bytes. -/
def openNewline (mode : LineEndingMode) (text : Bytes) : Option UInt8 :=
  match mode with
  | .asIs => unpaired text
  | .lf => none
  | .cr => none
  | .crlf => if text.getLast? = some cr then some cr else none
  | .lfcr => if text.getLast? = some lf then some lf else none

/-- A line ending of two bytes begins in the first text and ends in the second. -/
def SpansNewline (mode : LineEndingMode) (text next : Bytes) : Prop :=
  ∃ s ∈ openNewline mode text, ∃ b ∈ next.head?, isPair s b = true

/-- Two bytes that introduce an escape sequence that is kept. -/
def IntroducesSequence (norm : NormalizationOptions) (b c : UInt8) : Prop :=
  norm.preserveANSI = true ∧ b = esc ∧ (c = '['.toUInt8 ∨ c = ']'.toUInt8)

/-- Two neighbouring bytes make more together than apart. -/
def Joins (norm : NormalizationOptions) (b c : UInt8) : Prop :=
  isPair b c = true ∨ IntroducesSequence norm b c ∨
    SpansNewline norm.lineEnding (shown norm b) (shown norm c)

variable {norm : NormalizationOptions} {mode : LineEndingMode} {b c s : UInt8}
  {text front rest : Bytes} {q : LineState} {atLineEnd : Bool}

/-! ### Normalisation, byte by byte -/

theorem normalizeStep_nil (norm : NormalizationOptions) (b : UInt8) :
  normalizeStep norm b [] = (shown norm b, [])
  := by
  have hrest := normalizeStep_length_le norm b []
  apply Prod.ext
  · rfl
  · exact List.eq_nil_of_length_eq_zero (Nat.le_zero.mp hrest)

theorem normalize_singleton (norm : NormalizationOptions) (b : UInt8) :
  normalize [b] norm = shown norm b
  := by
  rw [normalize_cons, normalizeStep_nil, normalize_nil, List.append_nil]

theorem shown_ne_nil (norm : NormalizationOptions) (b : UInt8) :
  shown norm b ≠ []
  := normalizeStep_ne_nil norm b []

/-- Two bytes that are neither one line ending nor the introduction of an escape sequence are
shown apart. -/
theorem normalizeStep_of_apart (hpair : isPair b c = false)
    (hsequence : ¬ IntroducesSequence norm b c) (rest : Bytes) :
  normalizeStep norm b (c :: rest) = (shown norm b, c :: rest)
  := by
  have hansi : ansiSequence norm b (c :: rest) = none := by
    rw [ansiSequence]
    split
    · rename_i hesc
      obtain ⟨hansi, hb⟩ := Bool.and_eq_true_iff.mp hesc
      rw [if_neg, if_neg]
      · intro hc
        exact hsequence ⟨hansi, beq_iff_eq.mp hb, .inr hc⟩
      · intro hc
        exact hsequence ⟨hansi, beq_iff_eq.mp hb, .inl hc⟩
    · rfl
  have halone : ansiSequence norm b [] = none := rfl
  rw [shown, normalizeStep, normalizeStep, hansi, halone]
  dsimp only
  split
  · rw [normalizeNewline, normalizeNewline, hpair]
    rfl
  · split
    · rfl
    · split
      · rfl
      · rfl

/-- The bytes of a stream, shown one by one. -/
def plain (norm : NormalizationOptions) (stream : Bytes) : Bytes :=
  stream.flatMap (shown norm)

/-- No two neighbouring bytes of a stream make more together than apart. -/
def Separable (norm : NormalizationOptions) (stream : Bytes) : Prop :=
  stream.IsChain fun b c => ¬ Joins norm b c

theorem plain_cons (norm : NormalizationOptions) (b : UInt8) (rest : Bytes) :
  plain norm (b :: rest) = shown norm b ++ plain norm rest
  := List.flatMap_cons

theorem plain_append (norm : NormalizationOptions) (stream more : Bytes) :
  plain norm (stream ++ more) = plain norm stream ++ plain norm more
  := List.flatMap_append

theorem plain_singleton (norm : NormalizationOptions) (b : UInt8) :
  plain norm [b] = shown norm b
  := List.flatMap_singleton _ _

theorem normalize_of_not_joins (h : ¬ Joins norm b c) (rest : Bytes) :
  normalize (b :: c :: rest) norm = shown norm b ++ normalize (c :: rest) norm
  := by
  rw [normalize_cons, normalizeStep_of_apart]
  · apply (Bool.not_eq_true _).mp
    intro hpair
    exact h (.inl hpair)
  · intro hsequence
    exact h (.inr (.inl hsequence))

theorem normalize_of_separable (h : Separable norm (front ++ [b])) (rest : Bytes) :
  normalize (front ++ b :: rest) norm = plain norm front ++ normalize (b :: rest) norm
  := by
  induction front with
  | nil => rfl
  | cons a front ih =>
      cases front with
      | nil =>
          have hfirst := (List.isChain_cons_cons.mp h).1
          rw [plain_singleton]
          apply normalize_of_not_joins hfirst
      | cons c front =>
          obtain ⟨hfirst, hrest⟩ := List.isChain_cons_cons.mp h
          rw [plain_cons, List.append_assoc, ← ih hrest]
          apply normalize_of_not_joins hfirst

/-- A stream whose bytes are separable is shown byte by byte. -/
theorem normalize_eq_plain (h : Separable norm text) :
  normalize text norm = plain norm text
  := by
  obtain rfl | ⟨front, b, rfl⟩ := List.eq_nil_or_concat text
  · apply normalize_nil
  · rw [List.concat_eq_append] at h ⊢
    rw [normalize_of_separable h [], normalize_singleton, plain_append, plain_singleton]

/-! ### Where a text ends -/

namespace LineState

/-- The byte that is kept in mind and the first byte of a text are one line ending. -/
def Continues (q : LineState) (text : Bytes) : Prop :=
  ∃ s, q = .after s ∧ ∃ b ∈ text.head?, isPair s b = true

theorem exists_forget_eq (mode : LineEndingMode) (q : LineState) :
  ∃ atLineEnd, forget mode q = .ofLineEnd atLineEnd
  := by
  cases q with
  | start => exact ⟨true, forget_start mode⟩
  | middle => exact ⟨false, forget_middle mode⟩
  | after s =>
      cases mode with
      | asIs => exact ⟨true, rfl⟩
      | lf => exact ⟨false, rfl⟩
      | cr => exact ⟨false, rfl⟩
      | crlf => exact ⟨false, rfl⟩
      | lfcr => exact ⟨false, rfl⟩

/-- What is kept in mind does not matter when the line ending does not go on. -/
theorem step_forget (h : ∀ s, q = .after s → isPair s b = false) :
  step mode (forget mode q) b = step mode q b
  := by
  cases q with
  | start => rw [forget_start]
  | middle => rw [forget_middle]
  | after s =>
      have hpair := h s rfl
      obtain ⟨atLineEnd, hforget⟩ := exists_forget_eq mode (.after s)
      rw [step, hpair, hforget]
      cases atLineEnd with
      | false => rfl
      | true => rfl

theorem step_forget_of_not_continues (h : ¬ q.Continues text) :
  ∀ b ∈ text.head?, (labels mode).step (forget mode q) b = (labels mode).step q b
  := by
  intro b hb
  apply step_forget
  intro s hs
  apply (Bool.not_eq_true _).mp
  intro hpair
  exact h ⟨s, hs, b, hb, hpair⟩

theorem run_forget (h : ¬ q.Continues text) :
  (labels mode).run (forget mode q) text = (labels mode).run q text
  := (labels mode).run_congr (step_forget_of_not_continues h)

theorem final_forget (htext : text ≠ []) (h : ¬ q.Continues text) :
  (labels mode).final (forget mode q) text = (labels mode).final q text
  := by
  apply (labels mode).final_congr htext
  intro b hb
  rw [step_forget_of_not_continues h b hb]

theorem not_continues_ofLineEnd (atLineEnd : Bool) (text : Bytes) :
  ¬ (ofLineEnd atLineEnd).Continues text
  := by
  rintro ⟨s, h, -⟩
  cases atLineEnd with
  | false => cases h
  | true => cases h

theorem ofLineEnd_ne_after (atLineEnd : Bool) (s : UInt8) :
  ofLineEnd atLineEnd ≠ .after s
  := by
  cases atLineEnd with
  | false => exact LineState.noConfusion
  | true => exact LineState.noConfusion

theorem step_ofLineEnd_snd (mode : LineEndingMode) (atLineEnd : Bool) (b : UInt8) :
  (step mode (.ofLineEnd atLineEnd) b).2 = next mode b
  := by
  cases atLineEnd with
  | false => rfl
  | true => rfl

/-- In a mode with a line ending of two bytes, its first byte is kept in mind. -/
theorem final_two {r t : UInt8}
    (hnext : ∀ b, next mode b = if b = r then .after b else .middle)
    (hpair : ∀ b, isPair r b = (b == t)) (hrt : r ≠ t) (atLineEnd : Bool) (text : Bytes) :
  (labels mode).final (.ofLineEnd atLineEnd) text = .after s ↔
    (if text.getLast? = some r then some r else none) = some s
  := by
  obtain rfl | ⟨front, b, rfl⟩ := List.eq_nil_or_concat text
  · apply iff_of_false (ofLineEnd_ne_after atLineEnd s)
    rintro ⟨⟩
  have hvalid : ((labels mode).final (.ofLineEnd atLineEnd) front).Valid mode :=
    valid_final (valid_ofLineEnd atLineEnd) front
  rw [List.concat_eq_append, Transducer.final_snoc, List.getLast?_concat]
  change (step mode _ b).2 = _ ↔ _
  by_cases hb : b = r
  · rw [hb, step_first hnext hpair hrt hvalid, if_pos rfl, Option.some_inj, after.injEq]
  · rw [if_neg (by rwa [Option.some_inj])]
    obtain hstart | hmiddle := step_other (q := (labels mode).final (.ofLineEnd atLineEnd) front)
      hnext hb
    · rw [hstart]
      apply iff_of_false LineState.noConfusion
      rintro ⟨⟩
    · rw [hmiddle]
      apply iff_of_false LineState.noConfusion
      rintro ⟨⟩

/-- In a mode with a line ending of one byte, nothing is kept in mind. -/
theorem final_one (hnext : ∀ b s, next mode b ≠ .after s) (atLineEnd : Bool) (text : Bytes) :
  (labels mode).final (.ofLineEnd atLineEnd) text ≠ .after s
  := by
  intro hafter
  exact hnext s s (valid_final (valid_ofLineEnd atLineEnd) text s hafter)

theorem final_asIs (atLineEnd : Bool) (text : Bytes) :
  (labels .asIs).final (.ofLineEnd atLineEnd) text = .after s ↔ unpaired text = some s
  := by
  induction text using unpaired.induct generalizing atLineEnd with
  | case1 =>
      apply iff_of_false (ofLineEnd_ne_after atLineEnd s)
      rintro ⟨⟩
  | case2 b hb =>
      have hstep : (labels .asIs).final (.ofLineEnd atLineEnd) [b] = .next .asIs b :=
        step_ofLineEnd_snd .asIs atLineEnd b
      rw [hstep, unpaired, next, if_pos hb, if_pos hb, Option.some_inj, after.injEq]
  | case3 b hb =>
      have hstep : (labels .asIs).final (.ofLineEnd atLineEnd) [b] = .next .asIs b :=
        step_ofLineEnd_snd .asIs atLineEnd b
      rw [hstep, unpaired, next, if_neg hb, if_neg hb]
      apply iff_of_false LineState.noConfusion
      rintro ⟨⟩
  | case4 b c rest hpair ih =>
      have hfirst : (labels .asIs).final (.ofLineEnd atLineEnd) (b :: c :: rest) =
          (labels .asIs).final (step .asIs (.next .asIs b) c).2 rest := by
        rw [Transducer.final_cons, Transducer.final_cons]
        change (labels .asIs).final (step .asIs (step .asIs _ b).2 c).2 rest = _
        rw [step_ofLineEnd_snd]
      have hsecond : (step .asIs (.next .asIs b) c).2 = .ofLineEnd true := by
        rw [next, if_pos (first_of_isPair hpair), step, if_pos hpair]
        rfl
      rw [hfirst, hsecond, unpaired, if_pos hpair]
      apply ih
  | case5 b c rest hpair ih =>
      have hfirst : (labels .asIs).final (.ofLineEnd atLineEnd) (b :: c :: rest) =
          (labels .asIs).final (.next .asIs b) (c :: rest) := by
        rw [Transducer.final_cons]
        change (labels .asIs).final (step .asIs _ b).2 (c :: rest) = _
        rw [step_ofLineEnd_snd]
      have hcontinues : ¬ (next .asIs b).Continues (c :: rest) := by
        rintro ⟨s, hs, d, hd, hsd⟩
        obtain rfl := Option.some.inj hd
        rw [next_eq_after hs] at hpair
        exact hpair hsd
      obtain ⟨atLineEnd', hforget⟩ := exists_forget_eq .asIs (next .asIs b)
      rw [hfirst, ← final_forget (List.cons_ne_nil _ _) hcontinues, hforget, unpaired,
        if_neg hpair]
      apply ih

/-- A byte is kept in mind exactly when the text ends with it and it may go on. -/
theorem final_eq_after_iff (mode : LineEndingMode) (atLineEnd : Bool) (text : Bytes) :
  (labels mode).final (.ofLineEnd atLineEnd) text = .after s ↔ openNewline mode text = some s
  := by
  cases mode with
  | asIs => apply final_asIs
  | lf =>
      apply iff_of_false
      · apply final_one
        intro b s hafter
        rw [next] at hafter
        split at hafter
        · cases hafter
        · cases hafter
      · rintro ⟨⟩
  | cr =>
      apply iff_of_false
      · apply final_one
        intro b s hafter
        rw [next] at hafter
        split at hafter
        · cases hafter
        · cases hafter
      · rintro ⟨⟩
  | crlf => exact final_two (fun _ => rfl) isPair_cr (by decide) atLineEnd text
  | lfcr => exact final_two (fun _ => rfl) isPair_lf (by decide) atLineEnd text

end LineState

/-! ### Separable streams -/

theorem separable_snoc_snoc {a : UInt8} (h : Separable norm (front ++ [a] ++ [b])) :
  Separable norm (front ++ [a]) ∧ ¬ Joins norm a b
  := by
  obtain ⟨hfront, -, hlast⟩ := List.isChain_append.mp h
  exact ⟨hfront, hlast a (List.getLast?_concat ..) b rfl⟩

/-- After a separable stream, the byte that is kept in mind is the one that what is shown for the
last byte ends with, and no line ending goes on in what is shown for the next one. -/
theorem final_plain (h : Separable norm (front ++ [b])) (atLineEnd : Bool) :
  ¬ ((labels norm.lineEnding).final (.ofLineEnd atLineEnd) (plain norm front)).Continues
      (shown norm b) ∧
    ∀ s, (labels norm.lineEnding).final (.ofLineEnd atLineEnd) (plain norm (front ++ [b])) =
        .after s ↔
      openNewline norm.lineEnding (shown norm b) = some s
  := by
  induction front using List.reverseRecOn generalizing b with
  | nil =>
      use LineState.not_continues_ofLineEnd atLineEnd _
      intro s
      rw [List.nil_append, plain_singleton]
      apply LineState.final_eq_after_iff
  | append_singleton front a ih =>
      obtain ⟨hfront, hjoins⟩ := separable_snoc_snoc h
      obtain ⟨-, hafter⟩ := ih hfront
      have hcontinues : ¬ ((labels norm.lineEnding).final (.ofLineEnd atLineEnd)
          (plain norm (front ++ [a]))).Continues (shown norm b) := by
        rintro ⟨s, hs, d, hd, hpair⟩
        exact hjoins (.inr (.inr ⟨s, (hafter s).mp hs, d, hd, hpair⟩))
      use hcontinues
      intro s
      obtain ⟨atLineEnd', hforget⟩ := LineState.exists_forget_eq norm.lineEnding
        ((labels norm.lineEnding).final (.ofLineEnd atLineEnd) (plain norm (front ++ [a])))
      rw [plain_append, plain_singleton, Transducer.final_append,
        ← LineState.final_forget (shown_ne_nil norm b) hcontinues, hforget]
      apply LineState.final_eq_after_iff

/-- At any place in a separable stream, no line ending goes on. -/
theorem not_continues_plain (h : Separable norm (front ++ rest)) (atLineEnd : Bool) :
  ¬ ((labels norm.lineEnding).final (.ofLineEnd atLineEnd) (plain norm front)).Continues
      (plain norm rest)
  := by
  cases rest with
  | nil =>
      rintro ⟨s, -, b, hb, -⟩
      cases hb
  | cons b rest =>
      have hfront : Separable norm (front ++ [b]) := by
        rw [List.append_cons] at h
        exact (List.isChain_append.mp h).1
      obtain ⟨hcontinues, -⟩ := final_plain hfront atLineEnd
      rintro ⟨s, hs, d, hd, hpair⟩
      rw [plain_cons, List.head?_append_of_ne_nil _ (shown_ne_nil norm b)] at hd
      exact hcontinues ⟨s, hs, d, hd, hpair⟩

namespace ConsoleBroker

theorem receive_step (norm : NormalizationOptions) (q : LineState) (data : Bytes) :
  (receive norm).step q data =
    ((labels norm.lineEnding).run q (normalize data norm),
      .forget norm.lineEnding ((labels norm.lineEnding).final q (normalize data norm)))
  := rfl

/-- A separable stream is shown byte by byte, in whatever chunks it is received. -/
theorem run_receive_of_separable {chunks : List Bytes} (h : Separable norm chunks.flatten)
    (atLineEnd : Bool) :
  (receive norm).run (.ofLineEnd atLineEnd) chunks =
    (labels norm.lineEnding).run (.ofLineEnd atLineEnd) (plain norm chunks.flatten)
  := by
  induction chunks generalizing atLineEnd with
  | nil => rfl
  | cons data chunks ih =>
      rw [List.flatten_cons] at h ⊢
      obtain ⟨hdata, hchunks, -⟩ := List.isChain_append.mp h
      rw [Transducer.run_cons, receive_step, plain_append, Transducer.run_append,
        normalize_eq_plain hdata]
      dsimp only
      obtain ⟨atLineEnd', hforget⟩ := LineState.exists_forget_eq norm.lineEnding
        ((labels norm.lineEnding).final (.ofLineEnd atLineEnd) (plain norm data))
      rw [hforget, ih hchunks, ← hforget, LineState.run_forget (not_continues_plain h atLineEnd)]

/-! ### Streams that are not separable -/

/-- The chunks `chunks` and `chunks'` are shown differently, whatever comes after them. -/
def Differ (norm : NormalizationOptions) (q : LineState) (chunks chunks' : List Bytes) : Prop :=
  (receive norm).final q chunks = (receive norm).final q chunks' ∧
      ((receive norm).run q chunks).length ≠ ((receive norm).run q chunks').length ∨
    ∃ front b c rest rest', (receive norm).run q chunks = front ++ b :: rest ∧
      (receive norm).run q chunks' = front ++ c :: rest' ∧ b ≠ c

theorem Differ.append {chunks chunks' : List Bytes} (h : Differ norm q chunks chunks')
    (more : List Bytes) :
  (receive norm).run q (chunks ++ more) ≠ (receive norm).run q (chunks' ++ more)
  := by
  rw [Transducer.run_append, Transducer.run_append]
  obtain ⟨hfinal, hlength⟩ | ⟨front, b, c, rest, rest', hrun, hrun', hbc⟩ := h
  · rw [hfinal]
    intro heq
    apply hlength
    rw [List.append_cancel_right heq]
  · rw [hrun, hrun', List.append_assoc, List.append_assoc]
    intro heq
    exact hbc (List.cons.inj (List.append_cancel_left heq)).1

/-- Two bytes that are received apart. -/
theorem run_receive_apart (norm : NormalizationOptions) (q : LineState) (b c : UInt8) :
  (receive norm).run q [[b], [c]] =
    (labels norm.lineEnding).run q (shown norm b) ++
      (labels norm.lineEnding).run
        (.forget norm.lineEnding ((labels norm.lineEnding).final q (shown norm b)))
        (shown norm c)
  := by
  rw [Transducer.run_cons, Transducer.run_singleton, receive_step, receive_step,
    normalize_singleton, normalize_singleton]

theorem final_receive_apart (norm : NormalizationOptions) (q : LineState) (b c : UInt8) :
  (receive norm).final q [[b], [c]] =
    .forget norm.lineEnding ((labels norm.lineEnding).final
      (.forget norm.lineEnding ((labels norm.lineEnding).final q (shown norm b)))
      (shown norm c))
  := by
  rw [Transducer.final_cons, Transducer.final_cons, Transducer.final_nil, receive_step,
    receive_step, normalize_singleton, normalize_singleton]

/-- Two bytes that are received together. -/
theorem run_receive_together (norm : NormalizationOptions) (q : LineState) (b c : UInt8) :
  (receive norm).run q [[b, c]] = (labels norm.lineEnding).run q (normalize [b, c] norm)
  := Transducer.run_singleton ..

theorem final_receive_together (norm : NormalizationOptions) (q : LineState) (b c : UInt8) :
  (receive norm).final q [[b, c]] =
    .forget norm.lineEnding ((labels norm.lineEnding).final q (normalize [b, c] norm))
  := rfl

/-- What is shown for a line ending of one byte. -/
theorem shown_newline (norm : NormalizationOptions) (hb : b = cr ∨ b = lf) :
  shown norm b =
    (if norm.showNLTag then newlineTag b false else []) ++ shownNewline norm.lineEnding [b]
  := by
  have halone : ansiSequence norm b [] = none := rfl
  rw [shown, normalizeStep, halone]
  dsimp only
  rw [if_pos hb]
  rfl

/-- What is shown for a line ending of two bytes. -/
theorem normalize_pair (norm : NormalizationOptions) (hpair : isPair b c = true) :
  normalize [b, c] norm =
    (if norm.showNLTag then newlineTag b true else []) ++ shownNewline norm.lineEnding [b, c]
  := by
  have hb := first_of_isPair hpair
  have hesc : (b == esc) = false := by
    obtain rfl | rfl := hb
    · decide
    · decide
  have hansi : ansiSequence norm b [c] = none := by
    rw [ansiSequence, hesc, Bool.and_false]
    rfl
  rw [normalize_cons, normalizeStep, hansi]
  dsimp only
  rw [if_pos hb, normalizeNewline, if_pos hpair, normalize_nil, List.append_nil]

/-- The two bytes of a line ending are shown as two line endings when they are received apart. -/
theorem differ_of_isPair (hpair : isPair b c = true) (atLineEnd : Bool) :
  Differ norm (.ofLineEnd atLineEnd) [[b], [c]] [[b, c]]
  := by
  apply Or.inl
  rw [run_receive_apart, final_receive_apart, run_receive_together, final_receive_together,
    normalize_pair norm hpair, shown_newline norm (first_of_isPair hpair),
    shown_newline norm (newline_of_isPair hpair)]
  generalize norm.showNLTag = showNLTag
  generalize norm.lineEnding = mode
  have hbytes : b = cr ∧ c = lf ∨ b = lf ∧ c = cr := by
    simpa [isPair] using hpair
  obtain ⟨rfl, rfl⟩ | ⟨rfl, rfl⟩ := hbytes
  · cases mode <;> cases showNLTag <;> cases atLineEnd <;> decide
  · cases mode <;> cases showNLTag <;> cases atLineEnd <;> decide

/-- An ESC is made visible when what it introduces is received apart. -/
theorem differ_of_introducesSequence (h : IntroducesSequence norm b c) (atLineEnd : Bool) :
  Differ norm (.ofLineEnd atLineEnd) [[b], [c]] [[b, c]]
  := by
  obtain ⟨hansi, rfl, hc⟩ := h
  have htogether : normalize [esc, c] norm = [esc, c] := by
    have hsequence : ansiSequence norm esc [c] = some ([esc, c], []) := by
      rw [ansiSequence, hansi]
      obtain rfl | rfl := hc
      · rfl
      · rfl
    rw [normalize_cons, normalizeStep, hsequence, normalize_nil, List.append_nil]
  have hfirst : shown norm esc = normalizeControl norm.mode esc := rfl
  have hsecond : shown norm c = [c] := by
    obtain rfl | rfl := hc
    · rfl
    · rfl
  apply Or.inl
  rw [run_receive_apart, final_receive_apart, run_receive_together, final_receive_together,
    htogether, hfirst, hsecond]
  generalize norm.mode = mode
  generalize norm.lineEnding = lineEnding
  obtain rfl | rfl := hc
  · cases mode <;> cases lineEnding <;> cases atLineEnd <;> decide
  · cases mode <;> cases lineEnding <;> cases atLineEnd <;> decide

/-- No control byte is shown with a line ending. -/
theorem normalizeControl_newline (mode : NormalizeMode) (hb : b < 0x20 ∨ b = 0x7F) :
  ∀ s ∈ normalizeControl mode b, ¬ (s = cr ∨ s = lf)
  := by
  have hall : ∀ mode ∈ [NormalizeMode.caret, .names, .hex], ∀ n < 256,
      UInt8.ofNat n < 0x20 ∨ UInt8.ofNat n = 0x7F →
      ∀ s ∈ normalizeControl mode (UInt8.ofNat n), ¬ (s = cr ∨ s = lf) := by
    decide +kernel
  have hmode : mode ∈ [NormalizeMode.caret, .names, .hex] := by
    cases mode <;> decide
  have hbyte := hall mode hmode b.toNat b.toNat_lt
  rw [UInt8.ofNat_toNat] at hbyte
  exact hbyte hb

/-- A byte that is neither a tab nor a line ending is shown without a line ending. -/
theorem shown_other (hb : ¬ (b = cr ∨ b = lf)) (htab : b ≠ tab) :
  ∀ s ∈ shown norm b, ¬ (s = cr ∨ s = lf)
  := by
  have halone : ansiSequence norm b [] = none := rfl
  rw [shown, normalizeStep, halone]
  dsimp only
  rw [if_neg hb, if_neg htab]
  split
  · rename_i hcontrol
    apply normalizeControl_newline norm.mode hcontrol
  · intro s hs
    rw [List.mem_singleton.mp hs]
    apply hb

/-- In a mode with a line ending of two bytes, only a tab can be shown as its second byte. -/
theorem shown_ne_singleton (hb : b ≠ tab) (hs : s = cr ∨ s = lf)
    (hmode : norm.lineEnding = .crlf ∨ norm.lineEnding = .lfcr) :
  shown norm b ≠ [s]
  := by
  intro h
  by_cases hnewline : b = cr ∨ b = lf
  · have hlength : 2 ≤ (shown norm b).length := by
      rw [shown_newline norm hnewline, List.length_append]
      obtain hcrlf | hlfcr := hmode
      · rw [hcrlf]
        apply Nat.le_add_left
      · rw [hlfcr]
        apply Nat.le_add_left
    rw [h] at hlength
    exact absurd hlength (Nat.not_succ_le_self 1)
  · have hmem : s ∈ shown norm b := by
      rw [h]
      apply List.mem_singleton_self
    exact shown_other hnewline hb s hmem hs

/-- In a mode with a line ending of two bytes, only what is shown for a tab can end with its first
byte. -/
theorem getLast?_shown (hb : b ≠ tab) (hs : s = cr ∨ s = lf)
    (hnewline : ∀ seen, (shownNewline norm.lineEnding seen).getLast? ≠ some s ∧
      shownNewline norm.lineEnding seen ≠ []) :
  (shown norm b).getLast? ≠ some s
  := by
  intro h
  by_cases hb' : b = cr ∨ b = lf
  · rw [shown_newline norm hb', List.getLast?_append_of_ne_nil _ (hnewline [b]).2] at h
    exact (hnewline [b]).1 h
  · exact shown_other hb' hb s (List.mem_of_getLast? h) hs

/-- A line ending of two bytes that spans two bytes has more bytes of the second after it. -/
theorem spanned_ne_singleton {t : UInt8} (hst : s ≠ t) (ht : t = cr ∨ t = lf)
    (hmode : norm.lineEnding = .crlf ∨ norm.lineEnding = .lfcr)
    (hs : s = cr ∨ s = lf)
    (hnewline : ∀ seen, (shownNewline norm.lineEnding seen).getLast? ≠ some s ∧
      shownNewline norm.lineEnding seen ≠ [])
    (hlast : (shown norm b).getLast? = some s) :
  shown norm c ≠ [t]
  := by
  intro hc
  have hb : b = tab := by
    by_contra hb
    exact getLast?_shown hb hs hnewline hlast
  by_cases hctab : c = tab
  · rw [hb, ← hctab, hc] at hlast
    exact hst (Option.some.inj hlast).symm
  · exact shown_ne_singleton hctab ht hmode hc

section Spans

variable {d : UInt8} (hafter : (labels norm.lineEnding).final (.ofLineEnd atLineEnd)
    (shown norm b) = .after s)
  (htogether : normalize [b, c] norm = shown norm b ++ shown norm c)
  (hrest : shown norm c = d :: rest) (hsd : isPair s d = true)

include hafter htogether hrest hsd

/-- In keep mode the second byte of the line ending is a line of its own when it is received
apart. -/
theorem differ_of_spans_asIs (hmode : norm.lineEnding = .asIs) :
  Differ norm (.ofLineEnd atLineEnd) [[b], [c]] [[b, c]]
  := by
  have hsecond : (labels norm.lineEnding).step (.after s) d = ([d], .start) := if_pos hsd
  have hapart : (labels norm.lineEnding).step (.forget norm.lineEnding (.after s)) d =
      (labelRX ++ bytes ": " ++ [d], .next .asIs d) := by
    rw [hmode]
    rfl
  apply Or.inr
  refine ⟨(labels norm.lineEnding).run (.ofLineEnd atLineEnd) (shown norm b), 'R'.toUInt8, d,
    bytes "X: " ++ [d] ++ (labels norm.lineEnding).run (.next .asIs d) rest,
    (labels norm.lineEnding).run .start rest, ?_, ?_, ?_⟩
  · rw [run_receive_apart, hafter, hrest, Transducer.run_cons, hapart]
    rfl
  · rw [run_receive_together, htogether, Transducer.run_append, hafter, hrest,
      Transducer.run_cons, hsecond]
    rfl
  · obtain rfl | rfl := newline_of_isPair hsd
    · decide
    · decide

/-- In a mode with a line ending of two bytes, the next line has no label when the bytes are
received apart. -/
theorem differ_of_spans_two (hforget : LineState.forget norm.lineEnding (.after s) = .middle)
    (hnext : LineState.next norm.lineEnding d = .middle) (hne : rest ≠ []) :
  Differ norm (.ofLineEnd atLineEnd) [[b], [c]] [[b, c]]
  := by
  obtain ⟨e, rest, rfl⟩ := List.exists_cons_of_ne_nil hne
  have hsecond : (labels norm.lineEnding).step (.after s) d = ([d], .start) := if_pos hsd
  have hapart : (labels norm.lineEnding).step .middle d =
      ([d], LineState.next norm.lineEnding d) := rfl
  rw [hnext] at hapart
  have hlabel : (labels norm.lineEnding).step .start e =
      (labelRX ++ bytes ": " ++ [e], .next norm.lineEnding e) := rfl
  have hnolabel : (labels norm.lineEnding).step .middle e =
      ([e], .next norm.lineEnding e) := rfl
  apply Or.inl
  constructor
  · rw [final_receive_apart, final_receive_together, htogether, Transducer.final_append, hafter,
      hforget, hrest, Transducer.final_cons, Transducer.final_cons, Transducer.final_cons,
      Transducer.final_cons, hapart, hsecond, hlabel, hnolabel]
  · rw [run_receive_apart, run_receive_together, htogether, Transducer.run_append, hafter,
      hforget, hrest, Transducer.run_cons, Transducer.run_cons, Transducer.run_cons,
      Transducer.run_cons, hapart, hsecond, hlabel, hnolabel]
    intro hlength
    simp only [List.length_append, Nat.add_left_cancel_iff, Nat.add_right_cancel_iff,
      List.length_singleton] at hlength
    revert hlength
    decide

end Spans

/-- A line ending that spans two bytes is not seen when they are received apart. -/
theorem differ_of_spansNewline (hpair : isPair b c = false)
    (hsequence : ¬ IntroducesSequence norm b c)
    (hspans : SpansNewline norm.lineEnding (shown norm b) (shown norm c)) (atLineEnd : Bool) :
  Differ norm (.ofLineEnd atLineEnd) [[b], [c]] [[b, c]]
  := by
  obtain ⟨s, hs, d, hd, hsd⟩ := hspans
  obtain ⟨rest, hrest⟩ : ∃ rest, shown norm c = d :: rest := List.head?_eq_some_iff.mp hd
  have hafter : (labels norm.lineEnding).final (.ofLineEnd atLineEnd) (shown norm b) = .after s :=
    (LineState.final_eq_after_iff _ _ _).mpr hs
  have htogether : normalize [b, c] norm = shown norm b ++ shown norm c := by
    rw [normalize_cons, normalizeStep_of_apart hpair hsequence]
    dsimp only
    rw [normalize_singleton]
  cases hmode : norm.lineEnding with
  | asIs => apply differ_of_spans_asIs hafter htogether hrest hsd hmode
  | lf =>
      rw [hmode] at hs
      cases hs
  | cr =>
      rw [hmode] at hs
      cases hs
  | crlf =>
      rw [hmode] at hs
      obtain ⟨hlast, hcr⟩ := Option.ite_none_right_eq_some.mp hs
      obtain rfl := Option.some.inj hcr
      have hd : d = lf := by
        rwa [isPair_cr, beq_iff_eq] at hsd
      apply differ_of_spans_two hafter htogether hrest hsd
      · rw [hmode]
        rfl
      · rw [hmode, hd]
        rfl
      · rintro rfl
        rw [hd] at hrest
        apply spanned_ne_singleton (by decide) (.inr rfl) (.inl hmode) (.inl rfl) _
          hlast hrest
        intro seen
        rw [hmode]
        constructor
        · change some lf ≠ some cr
          decide
        · apply List.cons_ne_nil
  | lfcr =>
      rw [hmode] at hs
      obtain ⟨hlast, hlf⟩ := Option.ite_none_right_eq_some.mp hs
      obtain rfl := Option.some.inj hlf
      have hd : d = cr := by
        rwa [isPair_lf, beq_iff_eq] at hsd
      apply differ_of_spans_two hafter htogether hrest hsd
      · rw [hmode]
        rfl
      · rw [hmode, hd]
        rfl
      · rintro rfl
        rw [hd] at hrest
        apply spanned_ne_singleton (by decide) (.inl rfl) (.inr hmode) (.inr rfl) _
          hlast hrest
        intro seen
        rw [hmode]
        constructor
        · change some cr ≠ some lf
          decide
        · apply List.cons_ne_nil

/-- Two bytes that make more together than apart are shown differently when they are received
apart. -/
theorem differ_of_joins (h : Joins norm b c) (atLineEnd : Bool) :
  Differ norm (.ofLineEnd atLineEnd) [[b], [c]] [[b, c]]
  := by
  by_cases hpair : isPair b c = true
  · apply differ_of_isPair hpair
  · by_cases hsequence : IntroducesSequence norm b c
    · apply differ_of_introducesSequence hsequence
    · obtain hjoin | hjoin | hspans := h
      · exact absurd hjoin hpair
      · exact absurd hjoin hsequence
      · apply differ_of_spansNewline ((Bool.not_eq_true _).mp hpair) hsequence hspans

/-- The first two neighbouring bytes that make more together than apart. -/
theorem exists_first_joins {stream : Bytes} (h : ¬ Separable norm stream) :
  ∃ front b c rest, stream = front ++ b :: c :: rest ∧ Separable norm (front ++ [b]) ∧
    Joins norm b c
  := by
  induction stream with
  | nil => exact absurd List.isChain_nil h
  | cons a stream ih =>
      cases stream with
      | nil => exact absurd (List.isChain_singleton a) h
      | cons a' stream =>
          by_cases hjoins : Joins norm a a'
          · exact ⟨[], a, a', stream, rfl, List.isChain_singleton a, hjoins⟩
          · have hrest : ¬ Separable norm (a' :: stream) := by
              intro hrest
              exact h (List.isChain_cons_cons.mpr ⟨hjoins, hrest⟩)
            obtain ⟨front, b, c, rest, hstream, hfront, hfirst⟩ := ih hrest
            refine ⟨a :: front, b, c, rest, by rw [hstream]; rfl, ?_, hfirst⟩
            cases front with
            | nil =>
                obtain ⟨rfl, -⟩ := List.cons.inj hstream
                exact List.isChain_cons_cons.mpr ⟨hjoins, hfront⟩
            | cons b' front =>
                obtain ⟨rfl, -⟩ := List.cons.inj hstream
                exact List.isChain_cons_cons.mpr ⟨hjoins, hfront⟩

/-! ### Any chunks -/

/-- What is shown for a stream that is received does not depend on its chunks. -/
def IndependentOfChunks (norm : NormalizationOptions) (stream : Bytes) : Prop :=
  ∀ chunks chunks' : List Bytes, (∀ data ∈ chunks, data ≠ []) → (∀ data ∈ chunks', data ≠ []) →
    chunks.flatten = stream → chunks'.flatten = stream →
    ∀ tr t tr' t', lts.Run (new norm) tr t → lts.Run (new norm) tr' t' →
      tr.map Lts.Transition.action = chunks.map .rx →
      tr'.map Lts.Transition.action = chunks'.map .rx →
      t.output = t'.output

/-- The first byte that is shown for two bytes is the one that is shown for the first of them, or
an ESC. -/
theorem head?_normalize (norm : NormalizationOptions) (b c : UInt8) :
  (normalize [b, c] norm).head? = (shown norm b).head? ∨
    (normalize [b, c] norm).head? = some esc
  := by
  by_cases hpair : isPair b c = true
  · apply Or.inl
    rw [normalize_pair norm hpair, shown_newline norm (first_of_isPair hpair)]
    cases norm.showNLTag with
    | false => cases norm.lineEnding <;> rfl
    | true =>
        obtain rfl | rfl := first_of_isPair hpair
        · rfl
        · rfl
  · by_cases hsequence : IntroducesSequence norm b c
    · obtain ⟨hansi, rfl, hc⟩ := hsequence
      apply Or.inr
      have hsequence : ansiSequence norm esc [c] = some ([esc, c], []) := by
        rw [ansiSequence, hansi]
        obtain rfl | rfl := hc
        · rfl
        · rfl
      rw [normalize_cons, normalizeStep, hsequence]
      rfl
    · apply Or.inl
      rw [normalize_cons, normalizeStep_of_apart ((Bool.not_eq_true _).mp hpair) hsequence]
      apply List.head?_append_of_ne_nil _ (shown_ne_nil norm b)

theorem not_continues_normalize (h : ¬ q.Continues (shown norm b)) :
  ¬ q.Continues (normalize [b, c] norm)
  := by
  rintro ⟨s, hs, d, hd, hpair⟩
  obtain hhead | hhead := head?_normalize norm b c
  · rw [hhead] at hd
    exact h ⟨s, hs, d, hd, hpair⟩
  · rw [hhead] at hd
    obtain rfl := Option.some.inj hd
    have hesc := newline_of_isPair hpair
    revert hesc
    decide

/-- The bytes of a chunk after its separable beginning are shown as in a chunk of their own. -/
theorem receive_step_append (more : Bytes) {p : LineState}
    (hnormalize : normalize (front ++ more) norm = plain norm front ++ normalize more norm)
    (hp : (labels norm.lineEnding).final q (plain norm front) = p)
    (hmore : normalize more norm ≠ []) (hcontinues : ¬ p.Continues (normalize more norm)) :
  (receive norm).step q (front ++ more) =
    ((labels norm.lineEnding).run q (plain norm front) ++
        ((receive norm).step (.forget norm.lineEnding p) more).1,
      ((receive norm).step (.forget norm.lineEnding p) more).2)
  := by
  rw [receive_step, receive_step, hnormalize, Transducer.run_append, Transducer.final_append, hp]
  dsimp only
  rw [LineState.run_forget hcontinues, LineState.final_forget hmore hcontinues]

/-- Two cuttings of a stream that is not separable are shown differently. -/
theorem exists_chunks_differ {stream : Bytes} (h : ¬ Separable norm stream) :
  ∃ chunks chunks' : List Bytes, (∀ data ∈ chunks, data ≠ []) ∧ (∀ data ∈ chunks', data ≠ []) ∧
    chunks.flatten = stream ∧ chunks'.flatten = stream ∧
    (receive norm).run .start chunks ≠ (receive norm).run .start chunks'
  := by
  obtain ⟨front, b, c, rest, rfl, hfront, hjoins⟩ := exists_first_joins h
  obtain ⟨hcontinues, -⟩ := final_plain hfront true
  obtain ⟨atLineEnd, hforget⟩ := LineState.exists_forget_eq norm.lineEnding
    ((labels norm.lineEnding).final .start (plain norm front))
  obtain ⟨more, hmore, hflatten⟩ : ∃ more : List Bytes, (∀ data ∈ more, data ≠ []) ∧
      more.flatten = rest := by
    cases rest with
    | nil => exact ⟨[], List.forall_mem_nil _, rfl⟩
    | cons d rest =>
        refine ⟨[d :: rest], ?_, List.flatten_singleton⟩
        intro data hdata
        rw [List.mem_singleton.mp hdata]
        apply List.cons_ne_nil
  have hapart := receive_step_append [b] (normalize_of_separable hfront []) rfl
    (normalize_ne_nil norm (List.cons_ne_nil b []))
    (by rw [normalize_singleton]; exact hcontinues)
  have htogether := receive_step_append [b, c] (normalize_of_separable hfront [c]) rfl
    (normalize_ne_nil norm (List.cons_ne_nil b [c])) (not_continues_normalize hcontinues)
  change (receive norm).step .start _ = _ at hapart htogether
  rw [LineState.ofLineEnd, if_pos rfl, hforget] at hapart htogether
  refine ⟨(front ++ [b]) :: [c] :: more, (front ++ [b, c]) :: more, ?_, ?_, ?_, ?_, ?_⟩
  · simpa using hmore
  · simpa using hmore
  · simp [hflatten]
  · simp [hflatten]
  · rw [Transducer.run_cons, hapart, Transducer.run_cons _ LineState.start, htogether,
      List.append_assoc, List.append_assoc]
    intro heq
    exact (differ_of_joins hjoins atLineEnd).append more (List.append_cancel_left heq)

/-- What is shown for a stream does not depend on its chunks exactly when no two neighbouring bytes
make more together than apart. -/
theorem independentOfChunks_iff (norm : NormalizationOptions) (stream : Bytes) :
  IndependentOfChunks norm stream ↔ Separable norm stream
  := by
  constructor
  · intro h
    by_contra hseparable
    obtain ⟨chunks, chunks', hne, hne', hflatten, hflatten', hdiffer⟩ :=
      exists_chunks_differ hseparable
    obtain ⟨tr, t, run, hactions⟩ := exists_run_of_received norm chunks
    obtain ⟨tr', t', run', hactions'⟩ := exists_run_of_received norm chunks'
    apply hdiffer
    rw [← output_of_received run hactions, ← output_of_received run' hactions']
    exact h chunks chunks' hne hne' hflatten hflatten' tr t tr' t' run run' hactions hactions'
  · intro h chunks chunks' _ _ hflatten hflatten' tr t tr' t' run run' hactions hactions'
    have hrun : ∀ chunks : List Bytes, chunks.flatten = stream →
        (receive norm).run .start chunks =
          (labels norm.lineEnding).run .start (plain norm stream) := by
      rintro chunks rfl
      exact run_receive_of_separable h true
    rw [output_of_received run hactions, output_of_received run' hactions', hrun chunks hflatten,
      hrun chunks' hflatten']

/-- The two bytes of a line ending, received together and apart. -/
theorem chunks_of_newline_differ :
  ¬ ∀ (norm : NormalizationOptions) (stream : Bytes), IndependentOfChunks norm stream
  := by
  intro claim
  obtain ⟨tr, t, run, hactions, htogether⟩ :=
    Lts.exists_run_of_observe step (new initialNorm) [.rx [cr, lf]] output
      (by decide +kernel : _ = some (bytes "RX: \n"))
  obtain ⟨tr', t', run', hactions', hapart⟩ :=
    Lts.exists_run_of_observe step (new initialNorm) [.rx [cr], .rx [lf]] output
      (by decide +kernel : _ = some (bytes "RX: \nRX: \n"))
  have hsame := claim initialNorm [cr, lf] [[cr, lf]] [[cr], [lf]] (by decide) (by decide) rfl rfl
    tr t tr' t' run run' hactions hactions'
  rw [htogether, hapart] at hsame
  revert hsame
  decide

end ConsoleBroker

end JetKvm
