import JetKvm.SerialConsole.LineEndings
import JetKvm.SerialConsole.Tokens

/-!
# Cutting a text into lines

The lines that a text is cut into put together give the text. All of them but the last are complete,
no line goes on after a line ending, and the text ends with a line ending exactly when its last line
that is not empty does.
-/

namespace JetKvm

/-! ### What a cut is -/

/-- The CR or LF that a text begins with, with the other one if it comes next. -/
def newlineAt : Bytes → Option Bytes
  | [] => none
  | [b] => if b = cr ∨ b = lf then some [b] else none
  | b :: c :: _ =>
      if isPair b c then some [b, c] else if b = cr ∨ b = lf then some [b] else none

/-- The line ending of the mode that a text begins with. -/
def terminatorAt (mode : LineEndingMode) (text : Bytes) : Option Bytes :=
  match mode with
  | .asIs => newlineAt text
  | _ => if (separator mode).isPrefixOf text then some (separator mode) else none

/-- Nothing comes after a line ending in the line. -/
def Unbroken (mode : LineEndingMode) (line : Bytes) : Prop :=
  ∀ before after, line = before ++ after → ∀ sep ∈ terminatorAt mode after, after = sep

/-- The last line that is not empty. -/
def lastLine (lines : List Bytes) : Option Bytes :=
  (lines.filter fun line => line ≠ []).getLast?

/-- The lines are those of the text. -/
structure CutInto (mode : LineEndingMode) (text : Bytes) (lines : List Bytes) : Prop where
  flatten : lines.flatten = text
  whole : ∀ line ∈ lines.dropLast, line ≠ [] ∧ endsWithEOL line mode = true
  unbroken : ∀ line ∈ lines, Unbroken mode line
  ending : endsWithEOL text mode = (lastLine lines).any fun line => endsWithEOL line mode

variable {mode : LineEndingMode} {text line piece tail before after : Bytes} {lines : List Bytes}

/-! ### Complete lines -/

theorem ne_nil_of_endsWithEOL (h : endsWithEOL line mode = true) :
  line ≠ []
  := by
  rintro rfl
  unfold endsWithEOL at h
  rw [if_pos rfl] at h
  cases h

theorem WholeLines.dropLast (h : WholeLines mode lines) :
  ∀ line ∈ lines.dropLast, endsWithEOL line mode = true
  := by
  induction lines with
  | nil => nofun
  | cons line lines ih =>
      cases lines with
      | nil => nofun
      | cons next rest =>
          obtain ⟨hline, hrest⟩ := List.isChain_cons_cons.mp h
          rw [List.dropLast_cons_cons, List.forall_mem_cons]
          exact ⟨hline, ih hrest⟩

/-- After complete lines, a text that is not empty ends with a line ending exactly when it does so
by itself. -/
theorem endsWithEOL_flatten_concat (hlines : ∀ l ∈ lines, endsWithEOL l mode = true)
    (hline : line ≠ []) :
  endsWithEOL (lines ++ [line]).flatten mode = endsWithEOL line mode
  := by
  rw [List.flatten_concat]
  rcases List.eq_nil_or_concat' lines with rfl | ⟨front, last, rfl⟩
  · rfl
  · have hlast : endsWithEOL (front ++ [last]).flatten mode = true := by
      rw [List.flatten_concat]
      apply endsWithEOL_append
      apply hlines
      apply List.mem_append_right
      apply List.mem_singleton_self
    apply Bool.eq_iff_iff.mpr
    constructor
    · apply endsWithEOL_of_append_line hlast hline
    · apply endsWithEOL_append

/-- The text ends as its last line that is not empty does. -/
theorem endsWithEOL_flatten (hwhole : ∀ line ∈ lines.dropLast, endsWithEOL line mode = true) :
  endsWithEOL lines.flatten mode = (lastLine lines).any fun line => endsWithEOL line mode
  := by
  have hkeep : ∀ {front : List Bytes}, (∀ l ∈ front, endsWithEOL l mode = true) →
      front.filter (fun line => line ≠ []) = front := by
    intro front hfront
    apply List.filter_eq_self.mpr
    intro l hl
    simpa using ne_nil_of_endsWithEOL (hfront l hl)
  rcases List.eq_nil_or_concat' lines with rfl | ⟨front, last, rfl⟩
  · rfl
  · rw [List.dropLast_concat] at hwhole
    rw [lastLine, List.filter_append, hkeep hwhole]
    by_cases hlast : last = []
    · rw [hlast, List.flatten_concat, List.append_nil]
      rcases List.eq_nil_or_concat' front with rfl | ⟨front', last', rfl⟩
      · rfl
      · have hlast' := hwhole last' (List.mem_append_right _ (List.mem_singleton_self last'))
        rw [endsWithEOL_flatten_concat _ (ne_nil_of_endsWithEOL hlast')]
        · simp
        · intro l hl
          apply hwhole l (List.mem_append_left _ hl)
    · rw [endsWithEOL_flatten_concat hwhole hlast]
      simp [hlast]

/-! ### Lines without a line ending before their ends -/

/-- Two ways to cut the same text: the second part begins in the first part of the other, or is a
suffix of its second part. -/
theorem cut_cases (h : piece ++ tail = before ++ after) :
  (∃ c rest, c :: rest <:+ piece ∧ after = c :: rest ++ tail) ∨ after <:+ tail
  := by
  rcases List.append_eq_append_iff.mp h with ⟨middle, -, htail⟩ | ⟨middle, hpiece, hafter⟩
  · right
    exact ⟨middle, htail.symm⟩
  · cases middle with
    | nil =>
        right
        rw [hafter]
        apply List.suffix_refl
    | cons c rest =>
        left
        exact ⟨c, rest, ⟨before, hpiece.symm⟩, hafter⟩

theorem newlineAt_cons_of_ne {c : UInt8} (hc : ¬ (c = cr ∨ c = lf)) (rest : Bytes) :
  newlineAt (c :: rest) = none
  := by
  cases rest with
  | nil => apply if_neg hc
  | cons d rest =>
      rw [newlineAt, if_neg (mt first_of_isPair hc), if_neg hc]

theorem newlineAt_singleton (c : UInt8) :
  ∀ sep ∈ newlineAt [c], [c] = sep
  := by
  intro sep hsep
  rw [newlineAt] at hsep
  exact Option.some.inj (Option.ite_none_right_eq_some.mp hsep).2

/-- A line ending, or a single byte, after bytes that are no CR or LF. -/
theorem unbroken_asIs (hpiece : ∀ c ∈ piece, ¬ (c = cr ∨ c = lf))
    (htail : ∀ after, after <:+ tail → ∀ sep ∈ newlineAt after, after = sep) :
  Unbroken .asIs (piece ++ tail)
  := by
  intro before after hcut
  rcases cut_cases hcut with ⟨c, rest, hsuffix, rfl⟩ | hsuffix
  · intro sep hsep
    have hnone := newlineAt_cons_of_ne (hpiece c (hsuffix.subset List.mem_cons_self)) (rest ++ tail)
    rw [terminatorAt, List.cons_append, hnone] at hsep
    cases hsep
  · apply htail after hsuffix

theorem suffix_singleton_cases {c : UInt8} (h : after <:+ [c]) :
  after = [c] ∨ after = []
  := by
  obtain h | h := List.suffix_cons_iff.mp h
  · apply Or.inl h
  · apply Or.inr (List.suffix_nil.mp h)

theorem unbroken_asIs_concat (hpiece : ∀ c ∈ piece, ¬ (c = cr ∨ c = lf)) (b : UInt8) :
  Unbroken .asIs (piece ++ [b])
  := by
  apply unbroken_asIs hpiece
  intro after hafter
  rcases suffix_singleton_cases hafter with rfl | rfl
  · apply newlineAt_singleton
  · nofun

theorem unbroken_asIs_pair (hpiece : ∀ c ∈ piece, ¬ (c = cr ∨ c = lf)) {b c : UInt8}
    (hpair : isPair b c = true) :
  Unbroken .asIs (piece ++ [b, c])
  := by
  apply unbroken_asIs hpiece
  intro after hafter
  obtain rfl | hafter := List.suffix_cons_iff.mp hafter
  · intro sep hsep
    rw [newlineAt, if_pos hpair] at hsep
    exact Option.some.inj hsep
  · rcases suffix_singleton_cases hafter with rfl | rfl
    · apply newlineAt_singleton
    · nofun

/-- What is scanned before a line ending has none. -/
theorem unbroken_scanLines (hpiece : ∀ c ∈ piece, ¬ (c = cr ∨ c = lf)) :
  ∀ line ∈ scanLines piece text, Unbroken .asIs line
  := by
  have hnil : ∀ c ∈ ([] : Bytes), ¬ (c = cr ∨ c = lf) := List.forall_mem_nil _
  induction piece, text using scanLines.induct with
  | case1 =>
      rw [scanLines, if_pos rfl]
      exact List.forall_mem_nil _
  | case2 piece hne =>
      rw [scanLines, if_neg hne, List.forall_mem_singleton]
      rw [← List.append_nil piece]
      apply unbroken_asIs hpiece
      intro after hafter
      rw [List.suffix_nil.mp hafter, newlineAt]
      exact fun sep hsep => absurd hsep (Option.not_mem_none sep)
  | case3 piece b =>
      rw [scanLines, List.forall_mem_singleton]
      apply unbroken_asIs_concat hpiece
  | case4 piece b c rest hb hpair ih =>
      rw [scanLines, if_pos hb, if_pos hpair, List.forall_mem_cons]
      constructor
      · apply unbroken_asIs_pair hpiece hpair
      · apply ih hnil
  | case5 piece b c rest hb hpair ih =>
      rw [scanLines, if_pos hb, if_neg hpair, List.forall_mem_cons]
      constructor
      · apply unbroken_asIs_concat hpiece
      · apply ih hnil
  | case6 piece b c rest hb ih =>
      rw [scanLines, if_neg hb]
      apply ih
      intro d hd
      rcases List.mem_append.mp hd with hd | hd
      · apply hpiece d hd
      · rw [List.mem_singleton.mp hd]
        exact hb

/-- A text in which the separator ends at the last byte only, if it occurs at all. -/
theorem eq_nil_of_infix_concat {sep rest : Bytes} {b : UInt8} (hpiece : ¬ sep <:+: piece)
    (h : piece ++ [b] = before ++ sep ++ rest) :
  rest = []
  := by
  rcases List.eq_nil_or_concat' rest with rfl | ⟨rest', last, rfl⟩
  · rfl
  · rw [← List.append_assoc] at h
    exact absurd ⟨before, rest', (List.append_inj' h rfl).1.symm⟩ hpiece

/-- What is read before a separator does not contain it. -/
theorem eq_nil_of_mem_splitAfterFrom {sep : Bytes} (hpiece : ¬ sep <:+: piece) (hsep : sep ≠ []) :
  ∀ line ∈ splitAfterFrom sep piece text,
    ∀ before rest, line = before ++ sep ++ rest → rest = []
  := by
  have hnil : ¬ sep <:+: [] := by
    rw [List.infix_nil]
    exact hsep
  induction text generalizing piece with
  | nil =>
      rw [splitAfterFrom, List.forall_mem_singleton]
      intro before rest hline
      exact absurd ⟨before, rest, hline.symm⟩ hpiece
  | cons b text ih =>
      rw [splitAfterFrom]
      split
      case isTrue =>
        rw [List.forall_mem_cons]
        constructor
        · intro before rest
          apply eq_nil_of_infix_concat hpiece
        · apply ih hnil
      case isFalse hsuffix =>
        apply ih
        rintro ⟨before, rest, hinfix⟩
        obtain rfl := eq_nil_of_infix_concat hpiece hinfix.symm
        apply hsuffix
        rw [List.isSuffixOf_iff_suffix]
        exact ⟨before, by rw [← hinfix, List.append_nil]⟩

/-- The lines of a mode with one line ending. -/
theorem unbroken_splitAfter (mode : LineEndingMode) (hmode : mode ≠ .asIs) :
  ∀ line ∈ splitAfter text (separator mode), Unbroken mode line
  := by
  have hterminator : ∀ after, terminatorAt mode after =
      if (separator mode).isPrefixOf after then some (separator mode) else none := by
    intro after
    cases mode with
    | asIs => exact absurd rfl hmode
    | lf | cr | crlf | lfcr => rfl
  have hsep : separator mode ≠ [] := by
    cases mode with
    | asIs => exact absurd rfl hmode
    | lf | cr | crlf | lfcr => apply List.cons_ne_nil
  intro line hline before after hcut sep hafter
  rw [hterminator, Option.mem_def, Option.ite_none_right_eq_some] at hafter
  obtain ⟨hbegins, hafter⟩ := hafter
  obtain ⟨rest, rfl⟩ := List.isPrefixOf_iff_prefix.mp hbegins
  obtain rfl := Option.some.inj hafter
  rw [← List.append_assoc] at hcut
  rw [eq_nil_of_mem_splitAfterFrom (by rwa [List.infix_nil]) hsep line hline before rest hcut,
    List.append_nil]

theorem unbroken_splitAfterAnyEOL (text : Bytes) (mode : LineEndingMode) :
  ∀ line ∈ splitAfterAnyEOL text mode, Unbroken mode line
  := by
  unfold splitAfterAnyEOL
  split
  · nofun
  · cases mode with
    | asIs => exact unbroken_scanLines nofun
    | lf => exact unbroken_splitAfter .lf nofun
    | cr => exact unbroken_splitAfter .cr nofun
    | crlf => exact unbroken_splitAfter .crlf nofun
    | lfcr => exact unbroken_splitAfter .lfcr nofun

/-- Cutting a text into lines. -/
theorem cutInto_splitAfterAnyEOL (text : Bytes) (mode : LineEndingMode) :
  CutInto mode text (splitAfterAnyEOL text mode)
  := by
  have hflatten := flatten_splitAfterAnyEOL text mode
  have hwhole := (wholeLines_splitAfterAnyEOL text mode).dropLast
  constructor
  · exact hflatten
  · intro line hline
    exact ⟨ne_nil_of_endsWithEOL (hwhole line hline), hwhole line hline⟩
  · apply unbroken_splitAfterAnyEOL
  · have h := endsWithEOL_flatten hwhole
    rw [hflatten] at h
    exact h

end JetKvm
