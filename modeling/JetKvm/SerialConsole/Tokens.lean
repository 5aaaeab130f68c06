import JetKvm.SerialConsole.Normalize

/-!
# The tokens of the serial console

The normalisation reads every byte once. When escape sequences are not kept and line endings are
not shown as they are, what it reads at a time is a line ending, two bytes long when it can be, or
another byte, and what it shows is made of their renderings, in which the only control bytes are
the line ending of the options and the tabs that are kept.
-/

namespace JetKvm

/-! ### Rendering -/

/-- The bytes cut greedily into pairs that make one line ending, and single bytes. -/
def tokens : Bytes → List Bytes
  | [] => []
  | [b] => [[b]]
  | b :: c :: rest => if isPair b c then [b, c] :: tokens rest else [b] :: tokens (c :: rest)

/-- The line endings, with their tags. -/
def terminators : List (Bytes × Bytes) :=
  [([cr, lf], bytes "<CRLF>"), ([lf, cr], bytes "<LFCR>"), ([cr], bytes "<CR>"),
    ([lf], bytes "<LF>")]

/-- The line ending that is configured, if one is. -/
def separator : LineEndingMode → Bytes
  | .asIs => []
  | .lf => [lf]
  | .cr => [cr]
  | .crlf => [cr, lf]
  | .lfcr => [lf, cr]

/-- Neither a control byte nor DEL. -/
def Printable (b : UInt8) : Prop :=
  0x20 ≤ b ∧ b ≠ 0x7F

instance (b : UInt8) : Decidable (Printable b) :=
  inferInstanceAs (Decidable (_ ∧ _))

/-- What is made visible of a token: the tag of a line ending, the rendering of a tab or of another
control byte, or the byte itself. -/
def visible (opt : NormalizationOptions) (token : Bytes) : Bytes :=
  match terminators.lookup token with
  | some tag => if opt.showNLTag then tag else []
  | none =>
      if token = [tab] then opt.tabRender
      else token.flatMap fun b => if Printable b then [b] else normalizeControl opt.mode b

/-- The separator that stands for a line ending, or the tab that is kept. -/
def kept (opt : NormalizationOptions) (token : Bytes) : Bytes :=
  if (terminators.lookup token).isSome then separator opt.lineEnding
  else if token = [tab] ∧ opt.tabRender = [] then [tab]
  else []

/-- What is shown for a token. -/
def render (opt : NormalizationOptions) (token : Bytes) : Bytes :=
  visible opt token ++ kept opt token

/-! ### What is read -/

theorem normalizeNewline_suffix (opt : NormalizationOptions) (b : UInt8) (rest : Bytes) :
  (normalizeNewline opt b rest).2 <:+ rest
  := by
  cases rest with
  | nil => exact List.suffix_rfl
  | cons c more =>
      rw [normalizeNewline]
      split
      · apply List.suffix_cons
      · apply List.suffix_rfl

/-- The bytes that are left are the last ones. -/
theorem normalizeStep_suffix (opt : NormalizationOptions) (b : UInt8) (rest : Bytes) :
  (normalizeStep opt b rest).2 <:+ rest
  := by
  rw [normalizeStep]
  split
  · rename_i shown hshown
    obtain ⟨body, -, hrest⟩ := ansiSequence_append hshown
    exact ⟨body, hrest⟩
  · split_ifs
    · apply normalizeNewline_suffix
    · apply List.suffix_rfl
    · apply List.suffix_rfl
    · apply List.suffix_rfl
    · apply List.suffix_rfl

/-! ### What is shown -/

theorem forall_byte {P : UInt8 → Prop} (h : ∀ n : Fin 256, P (UInt8.ofNat n.val)) (b : UInt8) : P b
  := by
  have hb := h ⟨b.toNat, b.toNat_lt⟩
  rwa [UInt8.ofNat_toNat] at hb

/-- A control byte is made visible. -/
theorem normalizeControl_printable (mode : NormalizeMode) (b : UInt8) (hb : ¬ Printable b) :
  ∀ c ∈ normalizeControl mode b, Printable c
  := by
  revert hb
  revert b
  apply forall_byte
  cases mode with
  | caret => decide +kernel
  | names => decide +kernel
  | hex => decide +kernel

theorem lookup_terminators {b : UInt8} (hcr : b ≠ cr) (hlf : b ≠ lf) :
  terminators.lookup [b] = none
  := by
  rw [List.lookup_eq_none_iff]
  intro entry hentry
  rw [bne_iff_ne]
  intro heq
  rw [terminators, List.mem_cons, List.mem_cons, List.mem_cons, List.mem_singleton] at hentry
  obtain rfl | rfl | rfl | rfl := hentry
  · cases heq
  · cases heq
  · exact hcr (List.singleton_inj.mp heq)
  · exact hlf (List.singleton_inj.mp heq)

/-- A tag has no control bytes. -/
theorem tag_printable : ∀ entry ∈ terminators, ∀ b ∈ entry.2, Printable b
  := by
  decide +kernel

section

variable {opt : NormalizationOptions}

/-- Apart from the separators and the tabs that are kept, no control byte is shown. -/
theorem visible_printable (htab : ∀ b ∈ opt.tabRender, Printable b) (token : Bytes) :
  ∀ b ∈ visible opt token, Printable b
  := by
  rw [visible]
  split
  · rename_i tag htag
    split_ifs
    · obtain ⟨front, back, heq, -⟩ := List.lookup_eq_some_iff.mp htag
      apply tag_printable (token, tag)
      rw [heq]
      simp
    · exact fun b hb => by cases hb
  · split_ifs
    · exact htab
    · intro b hb
      obtain ⟨c, -, hc⟩ := List.mem_flatMap.mp hb
      split_ifs at hc with hprint
      · rwa [List.mem_singleton.mp hc]
      · exact normalizeControl_printable opt.mode c hprint b hc

variable (hansi : opt.preserveANSI = false) (hending : opt.lineEnding ≠ .asIs)

include hansi in
theorem ansiSequence_eq_none (b : UInt8) (rest : Bytes) :
  ansiSequence opt b rest = none
  := by
  cases rest with
  | nil => rfl
  | cons c more =>
      rw [ansiSequence, hansi]
      rfl

include hending in
theorem shownNewline_eq (seen : Bytes) :
  shownNewline opt.lineEnding seen = separator opt.lineEnding
  := by
  cases hmode : opt.lineEnding with
  | asIs => exact absurd hmode hending
  | lf => rfl
  | cr => rfl
  | crlf => rfl
  | lfcr => rfl

include hending in
/-- A line ending is shown as its tag and the separator. -/
theorem render_terminator {token tag : Bytes} (h : terminators.lookup token = some tag)
    (seen : Bytes) :
  render opt token =
    (if opt.showNLTag then tag else []) ++ shownNewline opt.lineEnding seen
  := by
  rw [render, visible, kept, h, shownNewline_eq hending]
  rfl

include hansi hending in
/-- Two bytes that make a line ending are read together. -/
theorem normalizeStep_pair {b c : UInt8} (h : isPair b c) (rest : Bytes) :
  normalizeStep opt b (c :: rest) = (render opt [b, c], rest)
  := by
  have hbytes : b = cr ∧ c = lf ∨ b = lf ∧ c = cr := by simpa [isPair] using h
  rw [normalizeStep, ansiSequence_eq_none hansi]
  obtain ⟨rfl, rfl⟩ | ⟨rfl, rfl⟩ := hbytes
  · rw [render_terminator hending rfl [cr, lf]]
    rfl
  · rw [render_terminator hending rfl [lf, cr]]
    rfl

include hending in
theorem normalizeNewline_single {b : UInt8} (hb : b = cr ∨ b = lf) {rest : Bytes}
    (h : ∀ c ∈ rest.head?, isPair b c = false) :
  normalizeNewline opt b rest = (render opt [b], rest)
  := by
  have hrender : render opt [b] =
      (if opt.showNLTag then newlineTag b false else []) ++ shownNewline opt.lineEnding [b] := by
    obtain rfl | rfl := hb
    · apply render_terminator hending rfl
    · apply render_terminator hending rfl
  rw [hrender]
  cases rest with
  | nil => rfl
  | cons c more =>
      rw [normalizeNewline, if_neg]
      rw [h c rfl]
      exact Bool.false_ne_true

include hansi hending in
/-- A byte that does not make a line ending with the next one is read alone. -/
theorem normalizeStep_single {b : UInt8} {rest : Bytes}
    (h : ∀ c ∈ rest.head?, isPair b c = false) :
  normalizeStep opt b rest = (render opt [b], rest)
  := by
  rw [normalizeStep, ansiSequence_eq_none hansi]
  dsimp only
  by_cases hnewline : b = cr ∨ b = lf
  · rw [if_pos hnewline, normalizeNewline_single hending hnewline h]
  · rw [if_neg hnewline]
    rw [not_or] at hnewline
    have hlookup := lookup_terminators hnewline.1 hnewline.2
    rw [render, visible, kept, hlookup]
    dsimp only
    rw [if_neg (by decide : ¬ (none : Option Bytes).isSome = true)]
    simp only [List.singleton_inj]
    by_cases htab : b = tab
    · rw [if_pos htab, if_pos htab]
      by_cases hrender : opt.tabRender = []
      · rw [if_neg (not_not_intro hrender), if_pos ⟨htab, hrender⟩, hrender]
        rfl
      · rw [if_pos hrender, if_neg fun hkept => hrender hkept.2, List.append_nil]
    · have hkept : ¬ (b = tab ∧ opt.tabRender = []) := fun hkept => htab hkept.1
      rw [if_neg htab, if_neg htab, if_neg hkept, List.append_nil, List.flatMap_singleton]
      by_cases hprint : Printable b
      · rw [if_pos hprint, if_neg]
        rintro (hlow | hdel)
        · exact absurd hlow (UInt8.not_lt.mpr hprint.1)
        · exact hprint.2 hdel
      · rw [if_neg hprint, if_pos]
        rwa [Printable, not_and_or, not_not, UInt8.not_le] at hprint

include hansi hending in
/-- What is shown is made of the renderings of the tokens. -/
theorem normalize_eq_render (input : Bytes) :
  normalize input opt = (tokens input).flatMap (render opt)
  := by
  induction input using tokens.induct with
  | case1 => exact normalize_nil opt
  | case2 b =>
      rw [normalize_cons, normalizeStep_single hansi hending (fun c hc => by cases hc),
        normalize_nil, tokens, List.flatMap_singleton, List.append_nil]
  | case3 b c rest hpair ih =>
      rw [normalize_cons, normalizeStep_pair hansi hending hpair, tokens, if_pos hpair,
        List.flatMap_cons, ← ih]
  | case4 b c rest hpair ih =>
      have hsingle : ∀ d ∈ (c :: rest).head?, isPair b d = false := by
        intro d hd
        obtain rfl := Option.mem_some.mp hd
        exact Bool.eq_false_iff.mpr hpair
      rw [normalize_cons, normalizeStep_single hansi hending hsingle, tokens, if_neg hpair,
        List.flatMap_cons, ← ih]

end

/-! ### Normalisation -/

/-- What is read of the input at each turn of the loop of `normalize`, and what is shown for it. -/
def normalizedPieces (input : Bytes) (opt : NormalizationOptions) : List (Bytes × Bytes) :=
  (normalizer opt).traced.scan input

/-- The normalisation reads each byte once, some at each turn, and shows the rendering of the tokens
when no escape sequences and no line endings are kept, in which the control bytes are those of the
separators and of the tabs that are kept. -/
theorem normalize_faithful (input : Bytes) (opt : NormalizationOptions) :
  (normalizedPieces input opt).flatMap Prod.fst = input ∧
  (∀ piece ∈ normalizedPieces input opt, piece.1 ≠ []) ∧
  normalize input opt = (normalizedPieces input opt).flatMap Prod.snd ∧
  (opt.preserveANSI = false → opt.lineEnding ≠ .asIs →
    (∀ b ∈ opt.tabRender, Printable b) →
    normalize input opt = (tokens input).flatMap (render opt) ∧
    ∀ token ∈ tokens input, ∀ b ∈ visible opt token, Printable b)
  := by
  constructor
  · exact (normalizer opt).flatMap_fst_traced (normalizeStep_suffix opt) input
  · constructor
    · exact (normalizer opt).traced_ne_nil input
    · constructor
      · rw [normalize, normalizedPieces, List.flatMap_def, Scanner.map_snd_traced]
      · intro hansi hending htab
        constructor
        · exact normalize_eq_render hansi hending input
        · exact fun token _ => visible_printable htab token

/-- Options that show every line ending as CRLF with its tag, and a tab as four spaces. -/
def taggedCRLF : NormalizationOptions :=
  { mode := .caret, lineEnding := .crlf, tabRender := bytes "    ", preserveANSI := false
    showNLTag := true }

theorem normalize_faithful_taggedCRLF :
  normalize [0x41, lf, cr, cr, tab, esc] taggedCRLF =
    (tokens [0x41, lf, cr, cr, tab, esc]).flatMap (render taggedCRLF)
  :=
  ((normalize_faithful [0x41, lf, cr, cr, tab, esc] taggedCRLF).2.2.2 rfl (by decide +kernel)
    (by decide +kernel)).1

end JetKvm
