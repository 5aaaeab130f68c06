import Mathlib.Data.List.AList
import Mathlib.Data.List.Dedup

/-!
# Matching items with a map

Items are matched one after the other with the entries of a map by their keys; an entry that has
been matched is deleted from the map. What is left of the items is too much, and what is left of
the map is missing: the matched items and what is missing together are what was wanted.
-/

namespace Matching

variable {α κ β γ : Type*}

/-! ### The map of what is wanted -/

/-- The values of the map. -/
def values (wanted : AList fun _ : κ => β) : List β :=
  wanted.entries.map Sigma.snd

/-- The values are those of the entries. -/
theorem map_values (f : β → γ) (wanted : AList fun _ : κ => β) :
  (values wanted).map f = wanted.entries.map fun entry => f entry.2
  := by
  rw [values, List.map_map]
  rfl

variable [DecidableEq κ]

/-- The map with each of the values under its key. -/
def insertAll (key : β → κ) (bs : List β) (wanted : AList fun _ : κ => β) :
    AList fun _ : κ => β :=
  bs.foldl (fun wanted b => wanted.insert (key b) b) wanted

section

variable {key : β → κ} {bs : List β} {wanted : AList fun _ : κ => β} {k : κ} {b : β}

/-- A value is looked up by its key. -/
theorem mem_values_iff :
  b ∈ values wanted ↔ ∃ k, wanted.lookup k = some b
  := by
  rw [values, List.mem_map]
  constructor
  · rintro ⟨⟨k, b⟩, hentry, rfl⟩
    use k
    apply AList.mem_lookup_iff.mpr hentry
  · rintro ⟨k, hlookup⟩
    use ⟨k, b⟩
    exact ⟨AList.mem_lookup_iff.mp hlookup, rfl⟩

/-- A key that is looked up is there. -/
theorem mem_of_lookup_eq (h : wanted.lookup k = some b) :
  k ∈ wanted
  := by
  rw [← AList.lookup_isSome, h]
  rfl

/-- A key that is there can be looked up. -/
theorem exists_lookup (h : k ∈ wanted) :
  ∃ b, wanted.lookup k = some b
  := by
  apply Option.isSome_iff_exists.mp
  apply AList.lookup_isSome.mpr h

/-- Erasing a key takes one entry away. -/
theorem perm_cons_erase (h : wanted.lookup k = some b) :
  wanted.entries.Perm (⟨k, b⟩ :: (wanted.erase k).entries)
  := by
  obtain ⟨b', before, after, hbefore, hentries, herase⟩ :=
    List.exists_of_kerase (AList.mem_keys.mp (mem_of_lookup_eq h))
  have hb : wanted.lookup k = some b' := by
    apply AList.mem_lookup_iff.mpr
    rw [hentries]
    simp
  rw [h] at hb
  obtain rfl := Option.some.inj hb
  have hleft : (wanted.erase k).entries = before ++ after := herase
  rw [hleft, hentries]
  apply List.perm_middle

/-- What is looked up was inserted, or was there before. -/
theorem lookup_insertAll (h : (insertAll key bs wanted).lookup k = some b) :
  b ∈ bs ∧ key b = k ∨ wanted.lookup k = some b
  := by
  induction bs generalizing wanted with
  | nil => apply Or.inr h
  | cons b' bs ih =>
      rcases ih h with ⟨hb, hk⟩ | hlookup
      · exact Or.inl ⟨List.mem_cons_of_mem _ hb, hk⟩
      · by_cases hk : k = key b'
        · rw [hk, AList.lookup_insert] at hlookup
          obtain rfl := Option.some.inj hlookup
          exact Or.inl ⟨List.mem_cons_self, hk.symm⟩
        · rw [AList.lookup_insert_ne hk] at hlookup
          apply Or.inr hlookup

/-- Every value has its own key. -/
theorem keys_insertAll (key : β → κ) (bs : List β) :
  (insertAll key bs ∅).keys = (values (insertAll key bs ∅)).map key
  := by
  rw [map_values]
  apply List.map_congr_left
  rintro ⟨k, b⟩ hentry
  rcases lookup_insertAll (AList.mem_lookup_iff.mpr hentry) with ⟨-, hk⟩ | h
  · apply hk.symm
  · cases h

/-- The keys are those that were inserted, and those that were there. -/
theorem mem_insertAll (h : k ∈ bs.map key ∨ k ∈ wanted) :
  k ∈ insertAll key bs wanted
  := by
  induction bs generalizing wanted with
  | nil => simpa [insertAll] using h
  | cons b bs ih =>
      apply ih
      rw [AList.mem_insert]
      rw [List.map_cons, List.mem_cons] at h
      tauto

/-- Each of the values is in the map once, where values with the same key count as the same. -/
theorem values_insertAll_perm [DecidableEq γ] {f : β → γ}
    (hf : ∀ b ∈ bs, ∀ b' ∈ bs, key b = key b' ↔ f b = f b') :
  ((values (insertAll key bs ∅)).map f).Perm (bs.map f).dedup
  := by
  have hlookup : ∀ {k b}, (insertAll key bs ∅).lookup k = some b → b ∈ bs ∧ key b = k := by
    intro k b h
    rcases lookup_insertAll h with h | h
    · apply h
    · cases h
  rw [List.perm_ext_iff_of_nodup _ (List.nodup_dedup _)]
  · intro c
    rw [List.mem_dedup, List.mem_map, List.mem_map]
    constructor
    · rintro ⟨b, hb, rfl⟩
      obtain ⟨k, hk⟩ := mem_values_iff.mp hb
      exact ⟨b, (hlookup hk).1, rfl⟩
    · rintro ⟨b, hb, rfl⟩
      have hmem : key b ∈ insertAll key bs (∅ : AList fun _ : κ => β) :=
        mem_insertAll (Or.inl (List.mem_map_of_mem hb))
      obtain ⟨b', hb'⟩ := exists_lookup hmem
      use b', mem_values_iff.mpr ⟨_, hb'⟩
      obtain ⟨hmem', hkey⟩ := hlookup hb'
      apply (hf b' hmem' b hb).mp hkey
  · have hnodup := (insertAll key bs (∅ : AList fun _ : κ => β)).nodupKeys
    rw [List.nodupKeys_iff_pairwise] at hnodup
    rw [values, List.map_map, List.nodup_iff_pairwise_ne, List.pairwise_map]
    apply hnodup.imp_of_mem
    rintro ⟨k, b⟩ ⟨k', b'⟩ hentry hentry' hne heq
    obtain ⟨hb, rfl⟩ := hlookup (AList.mem_lookup_iff.mpr hentry)
    obtain ⟨hb', rfl⟩ := hlookup (AList.mem_lookup_iff.mpr hentry')
    exact hne ((hf b hb b' hb').mpr heq)

end

/-! ### Matching -/

/-- The items that are not matched, and what is left of the map. -/
def matchItems (key : α → κ) :
    List α → AList (fun _ : κ => β) → List α × AList (fun _ : κ => β)
  | [], wanted => ([], wanted)
  | item :: items, wanted =>
      if key item ∈ wanted then matchItems key items (wanted.erase (key item))
      else (item :: (matchItems key items wanted).1, (matchItems key items wanted).2)

variable {key : α → κ} {items : List α} {wanted : AList fun _ : κ => β} {k : κ} {b : β}

/-- Each item is matched or not, and the matched items take the place of entries of the map. -/
theorem exists_matched (key : α → κ) (items : List α) (wanted : AList fun _ : κ => β)
    (f : α → γ) (value : (Σ _ : κ, β) → γ)
    (h : ∀ item ∈ items, ∀ b, wanted.lookup (key item) = some b →
      f item = value ⟨key item, b⟩) :
  ∃ matched : List α, items.Perm (matched ++ (matchItems key items wanted).1) ∧
    (matched.map f ++ (matchItems key items wanted).2.entries.map value).Perm
      (wanted.entries.map value)
  := by
  induction items generalizing wanted with
  | nil =>
      use []
      exact ⟨.refl _, .refl _⟩
  | cons item items ih =>
      rw [matchItems]
      split
      · rename_i hmem
        obtain ⟨b, hb⟩ := exists_lookup hmem
        obtain ⟨matched, hitems, hvalues⟩ := ih (wanted.erase (key item)) (by
          intro other hother b' hb'
          by_cases hkey : key other = key item
          · rw [hkey, AList.lookup_erase] at hb'
            cases hb'
          · rw [AList.lookup_erase_ne hkey] at hb'
            apply h other (List.mem_cons_of_mem _ hother) b' hb')
        use item :: matched
        constructor
        · apply hitems.cons
        · rw [List.map_cons, List.cons_append, h item List.mem_cons_self b hb]
          apply (hvalues.cons _).trans
          apply ((perm_cons_erase hb).map value).symm
      · obtain ⟨matched, hitems, hvalues⟩ := ih wanted fun other hother =>
          h other (List.mem_cons_of_mem _ hother)
        use matched
        constructor
        · apply (hitems.cons item).trans List.perm_middle.symm
        · apply hvalues

/-- What is left of the map is as it was. -/
theorem lookup_left (h : (matchItems key items wanted).2.lookup k = some b) :
  wanted.lookup k = some b
  := by
  induction items generalizing wanted with
  | nil => apply h
  | cons item items ih =>
      rw [matchItems] at h
      split at h
      · have hlookup := ih h
        by_cases hk : k = key item
        · rw [hk, AList.lookup_erase] at hlookup
          cases hlookup
        · rwa [AList.lookup_erase_ne hk] at hlookup
      · apply ih h

/-- No item is left whose key is left. -/
theorem notMem_left {item : α} (h : item ∈ (matchItems key items wanted).1) :
  key item ∉ (matchItems key items wanted).2
  := by
  induction items generalizing wanted with
  | nil => cases h
  | cons other items ih =>
      rw [matchItems] at h ⊢
      split at h
      · rename_i hmem
        rw [if_pos hmem]
        apply ih h
      · rename_i hmem
        rw [if_neg hmem]
        rcases List.mem_cons.mp h with rfl | h
        · intro hleft
          obtain ⟨b, hb⟩ := exists_lookup hleft
          exact hmem (mem_of_lookup_eq (lookup_left hb))
        · apply ih h

/-- Items with exactly the wanted keys are matched, and nothing is left. -/
theorem matchItems_of_perm (h : (items.map key).Perm wanted.keys) :
  (matchItems key items wanted).1 = [] ∧ (matchItems key items wanted).2.entries = []
  := by
  obtain ⟨matched, hitems, hkeys⟩ :=
    exists_matched key items wanted key Sigma.fst fun _ _ _ _ => rfl
  have hleft : ((matchItems key items wanted).1.map key).Perm
      (matchItems key items wanted).2.keys := by
    apply (List.perm_append_left_iff (matched.map key)).mp
    rw [← List.map_append]
    apply (hitems.symm.map key).trans (h.trans hkeys.symm)
  have hnil : (matchItems key items wanted).1 = [] := by
    rw [List.eq_nil_iff_forall_not_mem]
    intro item hitem
    apply notMem_left hitem
    rw [AList.mem_keys]
    apply hleft.subset
    apply List.mem_map_of_mem hitem
  constructor
  · apply hnil
  · rw [hnil] at hleft
    apply List.map_eq_nil_iff.mp hleft.nil_eq.symm

/-! ### Contents that are brought to what is wanted -/

section

variable {p : α → Bool} {contents listing matched left added : List α}

/-- The contents are the items that are too much, and the others. -/
theorem perm_left_append (hlisting : listing.Perm contents)
    (hitems : (listing.filter p).Perm (matched ++ left)) :
  contents.Perm (left ++ (matched ++ listing.filter fun item => !p item))
  := by
  apply hlisting.symm.trans
  apply (List.filter_append_perm p listing).symm.trans
  rw [← List.append_assoc]
  apply (hitems.trans List.perm_append_comm).append_right

/-- The contents when the missing items have been added. -/
theorem filter_added (hcontents : contents.Perm
      (added ++ (matched ++ listing.filter fun item => !p item)))
    (hadded : ∀ item ∈ added, p item = true)
    (hitems : (listing.filter p).Perm (matched ++ left)) :
  (contents.filter p).Perm (matched ++ added) ∧
    (contents.filter fun item => !p item).Perm (listing.filter fun item => !p item)
  := by
  have hmatched : ∀ item ∈ matched, p item = true := fun item hitem =>
    (List.mem_filter.mp (hitems.mem_iff.mpr (List.mem_append_left _ hitem))).2
  constructor
  · apply (hcontents.filter p).trans
    rw [List.filter_append, List.filter_append, List.filter_eq_self.mpr hadded,
      List.filter_eq_self.mpr hmatched, List.filter_filter]
    simpa using List.perm_append_comm
  · apply (hcontents.filter _).trans
    rw [List.filter_append, List.filter_append, List.filter_filter,
      List.filter_eq_nil_iff.mpr, List.filter_eq_nil_iff.mpr]
    · simp
    · intro item hitem
      rw [hmatched item hitem]
      decide
    · intro item hitem
      rw [hadded item hitem]
      decide

end

end Matching
