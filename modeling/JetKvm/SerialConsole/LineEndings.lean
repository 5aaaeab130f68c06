import JetKvm.SerialConsole.Normalize
import Mathlib.Data.List.Chain

/-!
# Line endings of the serial console

A text ends with a line ending when it ends with one of the shortest line endings of the mode. A
text is cut into lines at its line endings, so that every line but the last is complete.
-/

namespace JetKvm

/-- The shortest line endings of a mode. In keep mode each longer one ends with one of them. -/
def lineTerminators : LineEndingMode → List Bytes
  | .asIs => [[lf], [cr]]
  | .lf => [[lf]]
  | .cr => [[cr]]
  | .crlf => [[cr, lf]]
  | .lfcr => [[lf, cr]]

variable {text line before : Bytes} {mode : LineEndingMode} {lines : List Bytes}

/-- A text ends with a line ending exactly when it ends with a shortest one. -/
theorem endsWithEOL_iff :
  endsWithEOL text mode = true ↔ ∃ sep ∈ lineTerminators mode, sep <:+ text
  := by
  unfold endsWithEOL
  split
  · rename_i hnil
    rw [hnil]
    cases mode <;> simp [lineTerminators]
  · cases mode with
    | asIs =>
        simp only [lineTerminators, List.mem_cons, List.not_mem_nil, or_false,
          exists_eq_or_imp, exists_eq_left, Bool.or_eq_true, List.isSuffixOf_iff_suffix]
        constructor
        · rintro (((hpair | hpair) | hlf) | hcr)
          · exact .inl ((List.suffix_cons cr [lf]).trans hpair)
          · exact .inr ((List.suffix_cons lf [cr]).trans hpair)
          · exact .inl hlf
          · exact .inr hcr
        · rintro (hlf | hcr)
          · exact .inl (.inr hlf)
          · exact .inr hcr
    | lf => simp [lineTerminators]
    | cr => simp [lineTerminators]
    | crlf => simp [lineTerminators]
    | lfcr => simp [lineTerminators]

/-- A text that ends with a line ending ends with it after any other text too. -/
theorem endsWithEOL_append (before : Bytes) (h : endsWithEOL text mode = true) :
  endsWithEOL (before ++ text) mode = true
  := by
  obtain ⟨sep, hsep, hsuffix⟩ := endsWithEOL_iff.mp h
  apply endsWithEOL_iff.mpr
  exact ⟨sep, hsep, hsuffix.trans (List.suffix_append before text)⟩

/-- A line ending does not reach back over a byte that it does not contain. -/
theorem suffix_of_suffix_append {sep : Bytes} {s : UInt8} (hs : s ∉ sep)
    (h : sep <:+ before ++ s :: text) :
  sep <:+ text
  := by
  obtain hshort | hlong := List.suffix_or_suffix_of_suffix h (List.suffix_append before (s :: text))
  · obtain rfl | hsuffix := List.suffix_cons_iff.mp hshort
    · exact absurd List.mem_cons_self hs
    · apply hsuffix
  · exact absurd (hlong.subset List.mem_cons_self) hs

/-- Every byte of a line ending is a CR or an LF. -/
theorem mem_lineTerminators {sep : Bytes} {s : UInt8} (hsep : sep ∈ lineTerminators mode)
    (hs : s ∈ sep) :
  s = cr ∨ s = lf
  := by
  cases mode <;> simp only [lineTerminators, List.mem_cons, List.not_mem_nil, or_false] at hsep
  case asIs =>
    obtain rfl | rfl := hsep
    · exact .inr (List.mem_singleton.mp hs)
    · exact .inl (List.mem_singleton.mp hs)
  case lf =>
    obtain rfl := hsep
    exact .inr (List.mem_singleton.mp hs)
  case cr =>
    obtain rfl := hsep
    exact .inl (List.mem_singleton.mp hs)
  case crlf =>
    obtain rfl := hsep
    simpa using hs
  case lfcr =>
    obtain rfl := hsep
    simpa [or_comm] using hs

/-- After a byte that is neither CR nor LF, a text ends with a line ending only if it does so by
itself. -/
theorem endsWithEOL_of_append {s : UInt8} (hs : ¬ (s = cr ∨ s = lf))
    (h : endsWithEOL (before ++ s :: text) mode = true) :
  endsWithEOL text mode = true
  := by
  obtain ⟨sep, hsep, hsuffix⟩ := endsWithEOL_iff.mp h
  apply endsWithEOL_iff.mpr
  use sep, hsep
  apply suffix_of_suffix_append _ hsuffix
  intro hmem
  exact hs (mem_lineTerminators hsep hmem)

theorem singleton_suffix_of_append {a : UInt8} (htext : text ≠ []) (h : [a] <:+ before ++ text) :
  [a] <:+ text
  := by
  obtain hshort | hlong := List.suffix_or_suffix_of_suffix h (List.suffix_append before text)
  · apply hshort
  · rw [hlong.eq_of_length_le (List.length_pos_iff.mpr htext)]

theorem pair_suffix_of_append {a b : UInt8} (hab : a ≠ b) (hbefore : [a, b] <:+ before)
    (htext : text ≠ []) (h : [a, b] <:+ before ++ text) :
  [a, b] <:+ text
  := by
  obtain hshort | hlong := List.suffix_or_suffix_of_suffix h (List.suffix_append before text)
  · apply hshort
  · obtain rfl | hlong := List.suffix_cons_iff.mp hlong
    · apply List.suffix_refl
    · rw [hlong.eq_of_length_le (List.length_pos_iff.mpr htext)] at h
      obtain ⟨rest, hrest⟩ := h
      obtain ⟨rest', rfl⟩ := hbefore
      have hends : rest ++ [a] = rest' ++ [a] ++ [b] := by
        apply (List.append_left_inj [b]).mp
        simpa using hrest
      exact absurd (List.singleton_inj.mp (List.append_inj' hends rfl).2) hab

/-- After a complete line, a text that is not empty ends with a line ending only if it does so
by itself. -/
theorem endsWithEOL_of_append_line (hbefore : endsWithEOL before mode = true) (htext : text ≠ [])
    (h : endsWithEOL (before ++ text) mode = true) :
  endsWithEOL text mode = true
  := by
  rw [endsWithEOL_iff] at *
  cases mode with
  | asIs =>
      obtain ⟨sep, hsep, hsuffix⟩ := h
      use sep, hsep
      simp only [lineTerminators, List.mem_cons, List.not_mem_nil, or_false] at hsep
      obtain rfl | rfl := hsep
      · apply singleton_suffix_of_append htext hsuffix
      · apply singleton_suffix_of_append htext hsuffix
  | lf =>
      simp only [lineTerminators, List.mem_singleton, exists_eq_left] at *
      apply singleton_suffix_of_append htext h
  | cr =>
      simp only [lineTerminators, List.mem_singleton, exists_eq_left] at *
      apply singleton_suffix_of_append htext h
  | crlf =>
      simp only [lineTerminators, List.mem_singleton, exists_eq_left] at *
      apply pair_suffix_of_append (by decide) hbefore htext h
  | lfcr =>
      simp only [lineTerminators, List.mem_singleton, exists_eq_left] at *
      apply pair_suffix_of_append (by decide) hbefore htext h

/-! ### Cutting into lines -/

/-- Every line that is followed by another one is complete. -/
def WholeLines (mode : LineEndingMode) (lines : List Bytes) : Prop :=
  lines.IsChain fun line _ => endsWithEOL line mode = true

theorem wholeLines_cons (hline : endsWithEOL line mode = true) (h : WholeLines mode lines) :
  WholeLines mode (line :: lines)
  := List.isChain_cons.mpr ⟨fun _ _ => hline, h⟩

theorem wholeLines_splitAfterFrom {sep : Bytes} (hsep : sep ∈ lineTerminators mode)
    (piece text : Bytes) :
  WholeLines mode (splitAfterFrom sep piece text)
  := by
  induction text generalizing piece with
  | nil => apply List.isChain_singleton
  | cons b rest ih =>
      rw [splitAfterFrom]
      split
      · rename_i hsuffix
        apply wholeLines_cons
        · exact endsWithEOL_iff.mpr ⟨sep, hsep, List.isSuffixOf_iff_suffix.mp hsuffix⟩
        · apply ih
      · apply ih

/-- In keep mode both a CR and an LF are line endings. -/
theorem endsWithEOL_asIs {s : UInt8} (piece : Bytes) (hs : s = cr ∨ s = lf) :
  endsWithEOL (piece ++ [s]) .asIs = true
  := by
  apply endsWithEOL_append
  obtain rfl | rfl := hs
  · decide
  · decide

theorem isPair_cr (b : UInt8) :
  isPair cr b = (b == lf)
  := by
  change (true && b == lf || false && b == cr) = _
  rw [Bool.true_and, Bool.false_and, Bool.or_false]

theorem isPair_lf (b : UInt8) :
  isPair lf b = (b == cr)
  := by
  change (false && b == lf || true && b == cr) = _
  rw [Bool.true_and, Bool.false_and, Bool.false_or]

theorem first_of_isPair {b c : UInt8} (h : isPair b c = true) :
  b = cr ∨ b = lf
  := by
  simp only [isPair, Bool.or_eq_true, Bool.and_eq_true, beq_iff_eq] at h
  obtain ⟨hb, -⟩ | ⟨hb, -⟩ := h
  · exact .inl hb
  · exact .inr hb

theorem newline_of_isPair {b c : UInt8} (h : isPair b c = true) :
  c = cr ∨ c = lf
  := by
  simp only [isPair, Bool.or_eq_true, Bool.and_eq_true, beq_iff_eq] at h
  obtain ⟨-, hc⟩ | ⟨-, hc⟩ := h
  · exact .inr hc
  · exact .inl hc

theorem wholeLines_scanLines (piece text : Bytes) :
  WholeLines .asIs (scanLines piece text)
  := by
  induction piece, text using scanLines.induct with
  | case1 => apply List.isChain_nil
  | case2 piece hpiece =>
      rw [scanLines, if_neg hpiece]
      apply List.isChain_singleton
  | case3 piece b => apply List.isChain_singleton
  | case4 piece b c rest hb hpair ih =>
      rw [scanLines, if_pos hb, if_pos hpair]
      apply wholeLines_cons _ ih
      rw [List.append_cons]
      apply endsWithEOL_asIs _ (newline_of_isPair hpair)
  | case5 piece b c rest hb hpair ih =>
      rw [scanLines, if_pos hb, if_neg hpair]
      apply wholeLines_cons (endsWithEOL_asIs piece hb) ih
  | case6 piece b c rest hb ih =>
      rw [scanLines, if_neg hb]
      apply ih

/-- A text is cut into lines at its line endings. -/
theorem wholeLines_splitAfterAnyEOL (text : Bytes) (mode : LineEndingMode) :
  WholeLines mode (splitAfterAnyEOL text mode)
  := by
  unfold splitAfterAnyEOL
  split
  · apply List.isChain_nil
  · cases mode with
    | asIs => apply wholeLines_scanLines
    | lf => exact wholeLines_splitAfterFrom List.mem_cons_self _ _
    | cr => exact wholeLines_splitAfterFrom List.mem_cons_self _ _
    | crlf => exact wholeLines_splitAfterFrom List.mem_cons_self _ _
    | lfcr => exact wholeLines_splitAfterFrom List.mem_cons_self _ _

end JetKvm
