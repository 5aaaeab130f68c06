import Mathlib.Data.List.Perm.Basic

/-!
# Joining in any order

What is put together from the parts of the members of a list. The result is the same for every
order of the list exactly when the parts of any two members commute, and when the result is the same
for parts of the same lengths, the parts are. Texts with a separator between them are put together
from texts that each follow a separator.
-/

namespace Joining

variable {α β : Type*} {f g : α → List β} {l l' : List α} {sep : List β} {texts : List (List β)}

/-- The parts of any two members commute. -/
def Commute (f : α → List β) (l : List α) : Prop :=
  ∀ x ∈ l, ∀ y ∈ l, f x ++ f y = f y ++ f x

theorem Commute.perm (h : Commute f l) (hperm : l.Perm l') :
  Commute f l'
  := fun x hx y hy => h x (hperm.mem_iff.mpr hx) y (hperm.mem_iff.mpr hy)

/-- Parts that commute may be put together in any order. -/
theorem Commute.flatMap_eq (h : Commute f l) (hperm : l.Perm l') :
  l.flatMap f = l'.flatMap f
  := by
  induction hperm with
  | nil => rfl
  | cons x hperm ih =>
      rw [List.flatMap_cons, List.flatMap_cons, ih]
      intro y hy z hz
      apply h y (List.mem_cons_of_mem x hy) z (List.mem_cons_of_mem x hz)
  | swap x y l =>
      have hxy := h y List.mem_cons_self x (List.mem_cons_of_mem y List.mem_cons_self)
      rw [List.flatMap_cons, List.flatMap_cons, List.flatMap_cons, List.flatMap_cons,
        ← List.append_assoc, hxy, List.append_assoc]
  | trans hperm hperm' ih ih' => exact (ih h).trans (ih' (h.perm hperm))

/-- If the order does not matter, the parts commute. -/
theorem commute_of_flatMap_eq (h : ∀ l', l.Perm l' → l.flatMap f = l'.flatMap f) :
  Commute f l
  := by
  classical
  intro x hx y hy
  by_cases hxy : x = y
  · rw [hxy]
  · obtain ⟨rest, hrest⟩ : ∃ rest, l.Perm (x :: y :: rest) := by
      have hy' : y ∈ l.erase x := (List.mem_erase_of_ne (Ne.symm hxy)).mpr hy
      use (l.erase x).erase y
      exact (List.perm_cons_erase hx).trans ((List.perm_cons_erase hy').cons x)
    have heq := (h _ hrest).symm.trans (h _ (hrest.trans (List.Perm.swap y x rest)))
    rw [List.flatMap_cons, List.flatMap_cons, List.flatMap_cons, List.flatMap_cons,
      ← List.append_assoc, ← List.append_assoc] at heq
    exact List.append_cancel_right heq

/-- Parts of the same lengths are determined by what is put together from them. -/
theorem eq_of_flatMap_eq (hlength : ∀ x ∈ l, (f x).length = (g x).length)
    (h : l.flatMap f = l.flatMap g) :
  ∀ x ∈ l, f x = g x
  := by
  induction l with
  | nil => nofun
  | cons y l ih =>
      obtain ⟨hy, hl⟩ := List.forall_mem_cons.mp hlength
      rw [List.flatMap_cons, List.flatMap_cons] at h
      obtain ⟨hhead, htail⟩ := List.append_inj h hy
      exact List.forall_mem_cons.mpr ⟨hhead, ih hl htail⟩

theorem length_flatMap_perm (f : α → List β) (hperm : l.Perm l') :
  (l.flatMap f).length = (l'.flatMap f).length
  := (hperm.flatMap_right f).length_eq

/-! ### A separator -/

/-- Every text but the first one follows a separator. -/
theorem intercalate_cons (sep text : List β) (texts : List (List β)) :
  sep.intercalate (text :: texts) = text ++ texts.flatMap (sep ++ ·)
  := by
  induction texts generalizing text with
  | nil => rw [List.intercalate_singleton, List.flatMap_nil, List.append_nil]
  | cons other texts ih =>
      rw [List.intercalate_cons_cons, ih, List.flatMap_cons, List.append_assoc, List.append_assoc]

/-- A separator before each text. -/
theorem flatMap_sep (h : texts ≠ []) :
  texts.flatMap (sep ++ ·) = sep ++ sep.intercalate texts
  := by
  obtain ⟨text, texts, rfl⟩ := List.exists_cons_of_ne_nil h
  rw [intercalate_cons, List.flatMap_cons, List.append_assoc]

/-! ### Lines -/

/-- The lines of texts that each follow a separator are those of the texts. -/
theorem splitOn_append_flatMap [BEq β] [ReflBEq β] (c : β) (first : List β)
    (texts : List (List β)) :
  (first ++ texts.flatMap fun text => c :: text).splitOn c =
    first.splitOn c ++ texts.flatMap fun text => text.splitOn c
  := by
  induction texts generalizing first with
  | nil => rw [List.flatMap_nil, List.flatMap_nil, List.append_nil, List.append_nil]
  | cons text texts ih =>
      rw [List.flatMap_cons, List.flatMap_cons, List.cons_append, List.splitOn_append_cons_self, ih]

/-- A text before the first separator is added to the first line. -/
theorem splitOn_append_of_notMem [BEq β] [LawfulBEq β] {c : β} {first : List β} (h : c ∉ first)
    (text : List β) :
  (first ++ text).splitOn c = (text.splitOn c).modifyHead (first ++ ·)
  := by
  induction first with
  | nil =>
      rw [List.nil_append]
      cases text.splitOn c with
      | nil => rfl
      | cons line lines => rfl
  | cons d first ih =>
      obtain ⟨hd, hfirst⟩ := not_or.mp (mt List.mem_cons.mpr h)
      rw [List.cons_append, List.splitOn_cons_eq_if_modifyHead, if_neg, ih hfirst]
      · cases text.splitOn c with
        | nil => rfl
        | cons line lines => rfl
      · intro heq
        exact hd (beq_iff_eq.mp heq).symm

end Joining
