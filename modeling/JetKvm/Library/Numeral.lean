import Mathlib.Data.List.Basic

/-!
# Numerals

The digits of a number to a base of at most 16 determine the number, and lists of texts that are
separated by a character determine their members.
-/

namespace Numeral

variable {b m n d e : ℕ} {c : Char}

theorem digitChar_injective (hd : d < 16) (he : e < 16) (h : d.digitChar = e.digitChar) :
  d = e
  := by
  have hall : ∀ d < 16, ∀ e < 16, d.digitChar = e.digitChar → d = e := by decide
  apply hall d hd e he h

/-- A character of a numeral is the one of a digit. -/
theorem exists_digit_of_mem (hb : 1 < b) (hc : c ∈ Nat.toDigits b n) :
  ∃ d < b, c = d.digitChar
  := by
  induction n using Nat.strongRecOn with
  | _ n ih =>
      rw [Nat.toDigits_eq_if hb] at hc
      split at hc
      · rename_i hn
        use n, hn
        apply List.mem_singleton.mp hc
      · rename_i hn
        rcases List.mem_append.mp hc with hc | hc
        · apply ih (n / b) _ hc
          apply Nat.div_lt_self
          · omega
          · exact hb
        · use n % b, Nat.mod_lt n (by omega)
          apply List.mem_singleton.mp hc

/-- A character that is no digit does not occur in a numeral. -/
theorem notMem_toDigits (hb : 1 < b) (hb' : b ≤ 16) (hc : ∀ d < 16, c ≠ d.digitChar) :
  c ∉ Nat.toDigits b n
  := by
  intro hmem
  obtain ⟨d, hd, heq⟩ := exists_digit_of_mem hb hmem
  exact hc d (by omega) heq

/-- The digits determine the number. -/
theorem toDigits_injective (hb : 1 < b) (hb' : b ≤ 16) :
  Function.Injective (Nat.toDigits b)
  := by
  intro m n h
  induction m using Nat.strongRecOn generalizing n with
  | _ m ih =>
      have hpos : ∀ k : ℕ, 0 < (Nat.toDigits b k).length := fun _ => Nat.length_toDigits_pos
      rw [Nat.toDigits_eq_if (n := m) hb, Nat.toDigits_eq_if (n := n) hb] at h
      split at h
      · rename_i hm
        split at h
        · rename_i hn
          apply digitChar_injective (by omega) (by omega)
          apply List.singleton_inj.mp h
        · have hlength : 1 = (Nat.toDigits b (n / b)).length + 1 := by
            simpa using congrArg List.length h
          have := hpos (n / b)
          omega
      · rename_i hm
        split at h
        · have hlength : (Nat.toDigits b (m / b)).length + 1 = 1 := by
            simpa using congrArg List.length h
          have := hpos (m / b)
          omega
        · obtain ⟨hquotient, hremainder⟩ := List.append_inj' h rfl
          have hdiv : m / b = n / b := by
            apply ih (m / b) _ hquotient
            apply Nat.div_lt_self
            · omega
            · exact hb
          have hmod : m % b = n % b := by
            apply digitChar_injective
            · exact Nat.lt_of_lt_of_le (Nat.mod_lt m (by omega)) hb'
            · exact Nat.lt_of_lt_of_le (Nat.mod_lt n (by omega)) hb'
            · apply List.singleton_inj.mp hremainder
          rw [← Nat.div_add_mod m b, hdiv, hmod, Nat.div_add_mod]

/-- Texts that do not contain the separator are determined by their list. -/
theorem intercalate_injective {α : Type*} [BEq α] [LawfulBEq α] {separator : α}
    {texts texts' : List (List α)} (hne : texts ≠ []) (hne' : texts' ≠ [])
    (h : ∀ text ∈ texts, separator ∉ text) (h' : ∀ text ∈ texts', separator ∉ text)
    (heq : [separator].intercalate texts = [separator].intercalate texts') :
  texts = texts'
  := by
  rw [← List.splitOn_intercalate separator h hne, heq, List.splitOn_intercalate separator h' hne']

end Numeral
