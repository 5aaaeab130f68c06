import Mathlib.Data.List.Infix

/-!
# Prefix codes

A table gives symbols their words. When no word of the table is empty and none begins another,
words that were put one after the other are read back, each as soon as it is complete.
-/

namespace PrefixCode

variable {Symbol Letter : Type*}

/-- No word of the table is empty, and none begins another. -/
structure PrefixFree (table : List (Symbol × List Letter)) : Prop where
  nonempty : ∀ e ∈ table, e.2 ≠ []
  unique : ∀ e ∈ table, ∀ e' ∈ table, e.2 <+: e'.2 → e = e'

instance [DecidableEq Symbol] [DecidableEq Letter] (table : List (Symbol × List Letter)) :
    Decidable (PrefixFree table) :=
  decidable_of_iff ((∀ e ∈ table, e.2 ≠ []) ∧
      ∀ e ∈ table, ∀ e' ∈ table, e.2 <+: e'.2 → e = e')
    ⟨fun h => ⟨h.1, h.2⟩, fun h => ⟨h.nonempty, h.unique⟩⟩

/-- Reads the words that follow one another, as many as the first argument says at most. -/
def decode [DecidableEq Letter] (table : List (Symbol × List Letter)) :
    ℕ → List Letter → Option (List Symbol)
  | _, [] => some []
  | 0, _ :: _ => none
  | n + 1, letter :: letters =>
      match table.find? fun e => e.2.isPrefixOf (letter :: letters) with
      | none => none
      | some e => (decode table n ((letter :: letters).drop e.2.length)).map (e.1 :: ·)

namespace PrefixFree

variable [DecidableEq Letter] {table : List (Symbol × List Letter)} {e : Symbol × List Letter}

/-- The word that comes first is the one that is found. -/
theorem find?_eq (h : PrefixFree table) (he : e ∈ table) (rest : List Letter) :
  table.find? (fun e' => e'.2.isPrefixOf (e.2 ++ rest)) = some e
  := by
  cases hfind : table.find? (fun e' => e'.2.isPrefixOf (e.2 ++ rest)) with
  | none =>
      have hnot := List.find?_eq_none.mp hfind e he
      rw [List.isPrefixOf_iff_prefix] at hnot
      exact absurd (List.prefix_append _ _) hnot
  | some found =>
      have hmem := List.mem_of_find?_eq_some hfind
      have hfound : found.2.isPrefixOf (e.2 ++ rest) = true :=
        List.find?_some (p := fun e' => List.isPrefixOf (Prod.snd e') (e.2 ++ rest)) hfind
      have hprefix := List.isPrefixOf_iff_prefix.mp hfound
      rcases List.prefix_or_prefix_of_prefix hprefix (List.prefix_append _ _) with hle | hle
      · rw [h.unique _ hmem _ he hle]
      · rw [h.unique _ he _ hmem hle]

/-- Words of the table that were put one after the other are read back. -/
theorem decode_flatMap (h : PrefixFree table) {entries : List (Symbol × List Letter)}
    (hentries : ∀ e ∈ entries, e ∈ table) {n : ℕ} (hn : entries.length ≤ n) :
  decode table n (entries.flatMap Prod.snd) = some (entries.map Prod.fst)
  := by
  induction entries generalizing n with
  | nil =>
      cases n with
      | zero => rfl
      | succ => rfl
  | cons e entries ih =>
      rw [List.forall_mem_cons] at hentries
      obtain ⟨m, rfl⟩ := Nat.exists_eq_add_of_le' (Nat.zero_lt_of_lt hn)
      rw [List.length_cons] at hn
      rw [List.flatMap_cons]
      obtain ⟨letter, letters, hcons⟩ := List.exists_cons_of_ne_nil
        (List.append_ne_nil_of_left_ne_nil (h.nonempty e hentries.1) (entries.flatMap Prod.snd))
      rw [hcons, decode, ← hcons, h.find?_eq hentries.1]
      dsimp only
      rw [List.drop_left, ih hentries.2 (by omega)]
      rfl

end PrefixFree

end PrefixCode
