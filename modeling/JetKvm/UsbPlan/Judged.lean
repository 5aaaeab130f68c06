import JetKvm.UsbPlan.Resolver

/-!
# The actions and the order of resolved changes

The action of a resolved change is that of the request in the state of the files, and a conditional
change comes before one that is to be made after it.
-/

namespace JetKvm.UsbPlan

/-- The action of the change is that of its request in the state of the files. -/
def Judged (fs : FileSystem) (change : FileChange) : Prop :=
  ∃ fc : FileChange, fc.toRequestedFileChange = change.toRequestedFileChange ∧
    change.action = (fc.getFileChangeResolvedAction fs).2

variable {own conditional : List RequestedFileChange} {r r' : ChangeSetResolver}
  {fs : FileSystem} {key : ChangeKey} {change earlier : FileChange} {changes : List FileChange}
  {dag : Bool → Dag ChangeKey}

/-- A change is judged by what is there when its action is resolved. -/
theorem judged_resolveAction (h : change.checked = true → Judged fs change) :
  Judged fs (change.resolveAction fs)
  := by
  have hsame : SameUpToState change (change.resolveAction fs) := sameUpToState_resolveAction
  by_cases hchecked : change.checked = true
  · rw [FileChange.resolveAction, if_pos hchecked]
    apply h hchecked
  · refine ⟨change, hsame.1.symm, ?_⟩
    rw [FileChange.resolveAction, if_neg hchecked]

/-! ### Finding changes -/

/-- The first change of a key is found. -/
theorem findChange_cons :
  findChange key (change :: changes) =
    if change.changeKey = key then some change else findChange key changes
  := by
  rw [findChange, List.find?_cons, findChange]
  by_cases h : change.changeKey = key
  · rw [if_pos h, decide_eq_true h]
  · rw [if_neg h, decide_eq_false h]

/-- Replacing a change leaves the others. -/
theorem findChange_replaceChange_of_ne (hkey : key ≠ change.changeKey) :
  findChange key (replaceChange change changes) = findChange key changes
  := by
  induction changes with
  | nil => rfl
  | cons other changes ih =>
      rw [replaceChange, List.map_cons, ← replaceChange, findChange_cons, findChange_cons, ih]
      by_cases hother : other.changeKey = change.changeKey
      · rw [if_pos hother, if_neg (Ne.symm hkey), hother, if_neg (Ne.symm hkey)]
      · rw [if_neg hother]

/-- The change that replaces another is found. -/
theorem findChange_replaceChange_self (h : findChange change.changeKey changes = some earlier) :
  findChange change.changeKey (replaceChange change changes) = some change
  := by
  induction changes with
  | nil => cases h
  | cons other changes ih =>
      rw [findChange_cons] at h
      rw [replaceChange, List.map_cons, ← replaceChange, findChange_cons]
      by_cases hother : other.changeKey = change.changeKey
      · rw [if_pos hother, if_pos rfl]
      · rw [if_neg hother] at h
        rw [if_neg hother, if_neg hother, ih h]

/-- Leaving out some keys leaves the others. -/
theorem findChange_filter (key : ChangeKey) (changes : List FileChange) (p : ChangeKey → Bool) :
  findChange key (changes.filter fun change => p change.changeKey) =
    if p key then findChange key changes else none
  := by
  induction changes with
  | nil => simp [findChange]
  | cons other changes ih =>
      rw [List.filter_cons, findChange_cons]
      by_cases hp : p other.changeKey = true
      · rw [if_pos hp, findChange_cons, ih]
        by_cases hother : other.changeKey = key
        · rw [if_pos hother, if_pos hother, ← hother, if_pos hp]
        · rw [if_neg hother, if_neg hother]
      · rw [if_neg hp, ih]
        by_cases hother : other.changeKey = key
        · rw [← hother, if_neg hp, if_neg hp]
        · rw [if_neg hother]

/-- A change of the map is a conditional one if its key has been triggered. -/
theorem findChange_changesMap :
  findChange key r.changesMap =
    if key ∈ r.triggered then findChange key r.conditionalChangesMap
    else findChange key r.unconditionalChanges
  := by
  have hown := findChange_filter key r.unconditionalChanges fun key => key ∉ r.triggered
  have hconditional := findChange_filter key r.conditionalChangesMap fun key => key ∈ r.triggered
  rw [findChange] at hown hconditional
  rw [ChangeSetResolver.changesMap, findChange, List.find?_append, hown, hconditional]
  by_cases hkey : key ∈ r.triggered
  · simp [hkey]
  · simp [hkey]

/-! ### What is noted while changes are resolved -/

/-- The actions that have been worked out are right, and a change that has been triggered has been
triggered by a change that depends on it. -/
structure Noted (fs : FileSystem) (r : ChangeSetResolver) : Prop where
  judged : ∀ change ∈ r.unconditionalChanges ++ r.conditionalChangesMap, change.checked = true →
    Judged fs change
  resolved : ∀ change ∈ r.resolvedChanges, Judged fs change
  owned : ∀ key ∈ r.triggered, ∃ owner change, findChange owner r.changesMap = some change ∧
    key ∈ change.resolvedDeps

/-- A change that has been resolved is found as it was resolved. -/
theorem findChange_resolved (hfound : findChange change.changeKey r.changesMap = some earlier) :
  findChange key (r.resolved change).changesMap =
    if key = change.changeKey then some change else findChange key r.changesMap
  := by
  rw [findChange_changesMap] at hfound
  rw [findChange_changesMap, findChange_changesMap]
  dsimp only [ChangeSetResolver.resolved]
  by_cases hkey : key = change.changeKey
  · subst hkey
    rw [if_pos rfl]
    split
    · rename_i htriggered
      rw [if_pos htriggered] at hfound
      apply findChange_replaceChange_self hfound
    · rename_i htriggered
      rw [if_neg htriggered] at hfound
      apply findChange_replaceChange_self hfound
  · rw [if_neg hkey]
    by_cases htriggered : key ∈ r.triggered
    · simp only [htriggered, if_true]
      split
      · apply findChange_replaceChange_of_ne hkey
      · rfl
    · simp only [htriggered, if_false]
      split
      · rfl
      · apply findChange_replaceChange_of_ne hkey

/-- A change that is judged may be noted. -/
theorem Noted.resolved_change (noted : Noted fs r)
    (hfound : findChange change.changeKey r.changesMap = some earlier)
    (hdeps : earlier.resolvedDeps ⊆ change.resolvedDeps) (hjudged : Judged fs change) :
  Noted fs (r.resolved change)
  := by
  constructor
  · intro c hc hchecked
    have hmem : c = change ∨ c ∈ r.unconditionalChanges ++ r.conditionalChangesMap := by
      rw [List.mem_append]
      dsimp only [ChangeSetResolver.resolved] at hc
      split at hc
      · rcases List.mem_append.mp hc with h | h
        · exact Or.inr (Or.inl h)
        · exact (mem_replaceChange h).imp_right Or.inr
      · rcases List.mem_append.mp hc with h | h
        · exact (mem_replaceChange h).imp_right Or.inl
        · exact Or.inr (Or.inr h)
    rcases hmem with rfl | hmem
    · apply hjudged
    · apply noted.judged c hmem hchecked
  · intro c hc
    rcases List.mem_append.mp hc with h | h
    · apply noted.resolved c h
    · rw [List.mem_singleton.mp h]
      apply hjudged
  · intro key hkey
    obtain ⟨owner, c, howner, hmem⟩ := noted.owned key hkey
    by_cases heq : owner = change.changeKey
    · subst heq
      use change.changeKey, change
      rw [findChange_resolved hfound, if_pos rfl]
      rw [hfound] at howner
      obtain rfl := Option.some.inj howner
      exact ⟨rfl, hdeps hmem⟩
    · use owner, c
      rw [findChange_resolved hfound, if_neg heq]
      exact ⟨howner, hmem⟩

/-- Triggering the conditional changes that a change depends on. -/
theorem Noted.trigger (noted : Noted fs r) {deps : List ChangeKey} {owner : ChangeKey}
    (hfound : findChange owner r.changesMap = some change) (hdeps : deps ⊆ change.resolvedDeps)
    (hdisjoint : ∀ dep ∈ deps, findChange dep r.unconditionalChanges = none) :
  Noted fs { r with triggered := r.triggered ++ deps, additionalResolveRequired := true }
  := by
  have hstays : ∀ {key c}, findChange key r.changesMap = some c →
      findChange key ({ r with
        triggered := r.triggered ++ deps
        additionalResolveRequired := true } : ChangeSetResolver).changesMap = some c := by
    intro key c hc
    rw [findChange_changesMap] at hc ⊢
    dsimp only
    split at hc
    · rename_i htriggered
      rw [if_pos (List.mem_append_left _ htriggered)]
      apply hc
    · rename_i htriggered
      rw [if_neg]
      · apply hc
      · intro hmem
        rw [hdisjoint key ((List.mem_append.mp hmem).resolve_left htriggered)] at hc
        cases hc
  constructor
  · apply noted.judged
  · apply noted.resolved
  · intro key hkey
    rcases List.mem_append.mp hkey with h | h
    · obtain ⟨owner, c, howner, hmem⟩ := noted.owned key h
      exact ⟨owner, c, hstays howner, hmem⟩
    · exact ⟨owner, change, hstays hfound, hdeps h⟩

section Passes

variable (nodup_own : (own.map (·.changeKey)).Nodup)
  (nodup_conditional : (conditional.map (·.changeKey)).Nodup)
  (found : DependenciesFound own conditional)
  (disjoint : ∀ f ∈ own, f.changeKey ∉ conditional.map (·.changeKey))

include disjoint

/-- A conditional change is none of the unconditional ones. -/
theorem findChange_eq_none_of_disjoint (tracks : Tracks own conditional r)
    (hkey : key ∈ conditional.map (·.changeKey)) :
  findChange key r.unconditionalChanges = none
  := by
  rw [findChange_eq_none, tracks.keys_own]
  intro hown
  obtain ⟨f, hf, rfl⟩ := List.mem_map.mp hown
  exact disjoint f hf hkey

include nodup_own nodup_conditional found

/-- Resolving a change notes it as judged. -/
theorem noted_resolveChange {initial : Bool} (tracks : Tracks own conditional r)
    (noted : Noted fs r) (h : ChangeSetResolver.resolveChange fs initial r key = .ok r') :
  Noted fs r'
  := by
  unfold ChangeSetResolver.resolveChange at h
  cases hfind : findChange key r.changesMap with
  | none =>
      rw [hfind] at h
      obtain rfl := Except.ok.inj h
      apply noted
  | some change =>
      obtain ⟨hchange, rfl⟩ := mem_of_findChange hfind
      obtain ⟨hrequest, hdeps⟩ := tracks.mem_of_mem_changesMap hchange
      rw [hfind] at h
      dsimp only at h
      generalize hreset : (if initial = true then change else change.resetActionResolution) =
        reset at h
      have hworked : SameUpToState change (reset.resolveAction fs) ∧
          Judged fs (reset.resolveAction fs) := by
        have hstep : SameUpToState reset (reset.resolveAction fs) := sameUpToState_resolveAction
        cases initial with
        | true =>
            subst hreset
            use hstep
            apply judged_resolveAction
            apply noted.judged
            rcases List.mem_append.mp hchange with h | h
            · apply List.mem_append_left _ (List.mem_filter.mp h).1
            · apply List.mem_append_right _ (List.mem_filter.mp h).1
        | false =>
            subst hreset
            use hstep
            apply judged_resolveAction
            exact nofun
      generalize reset.resolveAction fs = worked at h hworked
      obtain ⟨⟨same, hsameDeps⟩, hjudged⟩ := hworked
      have hkey : change.changeKey = worked.changeKey := by rw [same]
      rw [hkey] at hfind
      have hresolved : Noted fs (r.resolved worked) := by
        apply noted.resolved_change hfind _ hjudged
        rw [hsameDeps]
        apply List.Subset.refl
      split at h
      · obtain rfl := Except.ok.inj h
        apply hresolved
      · split at h
        · obtain rfl := Except.ok.inj h
          apply hresolved
        · rename_i beforeChange hbefore
          have hchangesBefore : worked.changesBefore = beforeChange := by
            rw [RequestedFileChange.changesBefore, hbefore]
            rfl
          have hconditional : ∀ dep ∈ beforeChange, dep ∈ conditional.map (·.changeKey) := by
            rw [← hchangesBefore, same]
            apply found _ hrequest
          let triggering : FileChange :=
            { worked with resolvedDeps := worked.resolvedDeps ++ beforeChange }
          have hfindTriggering : findChange triggering.changeKey r.changesMap = some change := hfind
          have hnext : Noted fs (r.resolved triggering) := by
            apply noted.resolved_change hfindTriggering
            · rw [← hsameDeps]
              apply List.subset_append_left
            · apply hjudged
          have htracks : Tracks own conditional (r.resolved triggering) := by
            have hsame : triggering.toRequestedFileChange = change.toRequestedFileChange := same
            apply tracks.resolved nodup_own nodup_conditional hchange hsame
            apply List.append_subset.mpr
            constructor
            · rw [hsameDeps, same]
              apply hdeps
            · rw [← hchangesBefore]
              apply List.Subset.refl
          rw [foldlM_trigger] at h
          · obtain rfl := Except.ok.inj h
            have hfound : findChange triggering.changeKey (r.resolved triggering).changesMap =
                some triggering := by
              rw [findChange_resolved hfindTriggering, if_pos rfl]
            apply hnext.trigger hfound (List.subset_append_right _ _)
            intro dep hdep
            apply findChange_eq_none_of_disjoint disjoint htracks (hconditional dep hdep)
          · dsimp only
            rw [htracks.keys_conditional]
            apply hconditional

/-- So does resolving them one after the other. -/
theorem noted_foldlM {initial : Bool} {keys : List ChangeKey} (tracks : Tracks own conditional r)
    (noted : Noted fs r)
    (h : keys.foldlM (ChangeSetResolver.resolveChange fs initial) r = .ok r') :
  Noted fs r'
  := by
  induction keys generalizing r with
  | nil =>
      obtain rfl := Except.ok.inj h
      apply noted
  | cons key keys ih =>
      obtain ⟨between, hstep, hresolves⟩ := resolveChange_resolves fs key nodup_own
        nodup_conditional found initial tracks
      rw [List.foldlM_cons, hstep] at h
      have hnoted := noted_resolveChange nodup_own nodup_conditional found disjoint tracks noted hstep
      exact ih hresolves.tracks hnoted h

/-- A pass works out the actions of the changes that it resolves. -/
theorem noted_resolvePass {initial : Bool} (tracks : Tracks own conditional r)
    (noted : Noted fs r) (h : r.resolvePass fs dag initial = .ok r') :
  Noted fs r' ∧ Tracks own conditional r' ∧ r'.g = r.graph ∧
    (initial = false → r'.triggered = r.triggered) ∧
    (r'.triggered = r.triggered → ∀ change ∈ r'.resolvedChanges,
      inMap own r.triggered change.changeKey = true)
  := by
  unfold ChangeSetResolver.resolvePass ChangeSetResolver.toOrderedChanges at h
  split at h
  · let ordered : ChangeSetResolver :=
      { r with
        g := r.graph
        orderedChanges := (dag initial).topologicalOrder r.graph
        resolvedChanges := [] }
    replace h : ordered.orderedChanges.foldlM (ChangeSetResolver.resolveChange fs initial) ordered =
        .ok r' := h
    have htracks : Tracks own conditional ordered :=
      ⟨tracks.own_eq, tracks.conditional_eq, tracks.resolvedDeps, tracks.triggered, tracks.quiet⟩
    have hnoted : Noted fs ordered := by
      constructor
      · apply noted.judged
      · exact fun change hchange => absurd hchange List.not_mem_nil
      · apply noted.owned
    obtain ⟨r'', hrun, hresolves⟩ := foldlM_resolveChange_resolves fs nodup_own
      nodup_conditional found initial ordered.orderedChanges htracks
    obtain rfl : r' = r'' := by
      rw [h] at hrun
      exact Except.ok.inj hrun
    refine ⟨?_, hresolves.tracks, hresolves.g, hresolves.settled, ?_⟩
    · apply noted_foldlM nodup_own nodup_conditional found disjoint htracks hnoted h
    · intro hsame change hchange
      have hmem : change.changeKey ∈ r'.resolvedChanges.map (·.changeKey) :=
        List.mem_map_of_mem hchange
      rw [hresolves.resolved hsame] at hmem
      exact (List.mem_filter.mp hmem).2
  · cases h

/-- In the end, a conditional change is resolved because of a change that depends on it. -/
theorem noted_resolveChanges (tracks : Tracks own conditional r) (noted : Noted fs r)
    (htriggered : r.triggered = []) (h : r.resolveChanges fs dag = .ok r') :
  (∀ change ∈ r'.resolvedChanges, Judged fs change) ∧
    ∀ change ∈ r'.resolvedChanges, change.changeKey ∈ conditional.map (·.changeKey) →
      ∃ f ∈ own ++ conditional, change.changeKey ∈ f.changesBefore ∧
        r'.g.Edge change.changeKey f.changeKey
  := by
  have hnotOwn : ∀ {triggered key}, inMap own triggered key = true →
      key ∈ conditional.map (·.changeKey) → key ∈ triggered := by
    intro triggered key hmap hkey
    rw [inMap, decide_eq_true_eq] at hmap
    apply hmap.resolve_right
    intro hown
    obtain ⟨f, hf, rfl⟩ := List.mem_map.mp hown
    exact disjoint f hf hkey
  unfold ChangeSetResolver.resolveChanges at h
  cases hfirst : r.resolvePass fs dag true with
  | error e =>
      rw [hfirst] at h
      cases h
  | ok r₁ =>
      rw [hfirst] at h
      obtain ⟨hnoted₁, htracks₁, hg₁, -, hmap₁⟩ := noted_resolvePass nodup_own nodup_conditional
        found disjoint tracks noted hfirst
      dsimp only [bind, Except.bind] at h
      split at h
      · obtain ⟨hnoted₂, -, hg₂, hsame, hmap₂⟩ := noted_resolvePass nodup_own nodup_conditional
          found disjoint htracks₁ hnoted₁ h
        use hnoted₂.resolved
        intro change hchange hkey
        have hmem := hnotOwn (hmap₂ (hsame rfl) change hchange) hkey
        obtain ⟨owner, c, howner, hdep⟩ := hnoted₁.owned _ hmem
        obtain ⟨hc, -⟩ := mem_of_findChange howner
        obtain ⟨hrequest, hdeps⟩ := htracks₁.mem_of_mem_changesMap hc
        refine ⟨_, hrequest, hdeps hdep, ?_⟩
        rw [hg₂]
        exact edge_graph.mpr (Or.inr ⟨c, hc, rfl, List.mem_append_right _ hdep⟩)
      · rename_i hadditional
        obtain rfl := Except.ok.inj h
        use hnoted₁.resolved
        intro change hchange hkey
        have hquiet : r₁.triggered = r.triggered := by
          rw [htriggered]
          apply htracks₁.quiet (Bool.eq_false_iff.mpr hadditional)
        have hmem := hnotOwn (hmap₁ hquiet change hchange) hkey
        rw [htriggered] at hmem
        cases hmem

end Passes

/-- The actions of the resolved changes of an acceptable change set are right, and its conditional
changes are there because of changes that depend on them. -/
theorem Acceptable.getChanges_judged {changes : ChangeSet} (h : Acceptable changes)
    (disjoint : ∀ f ∈ unconditionalRequests changes,
      f.changeKey ∉ (conditionalRequests changes).map (·.changeKey))
    (fs : FileSystem) (lawful : ∀ initial, (dag initial).Lawful) :
  ∃ initial g resolved, getChanges dag fs changes = .ok resolved ∧
    IsResolution (unconditionalRequests changes) (conditionalRequests changes) (dag initial) g
      resolved ∧
    (∀ change ∈ resolved, Judged fs change) ∧
    ∀ change ∈ resolved, change.changeKey ∈ (conditionalRequests changes).map (·.changeKey) →
      ∃ f ∈ unconditionalRequests changes ++ conditionalRequests changes,
        change.changeKey ∈ f.changesBefore ∧ g.Edge change.changeKey f.changeKey
  := by
  obtain ⟨r, hbuild, htracks, hg, htriggered, hresolved, hchecked⟩ :=
    buildMaps_ok h.nodup_own h.nodup_conditional
  obtain ⟨initial, r', hrun, hresolution⟩ := resolveChanges_ok fs h.nodup_own
    h.nodup_conditional h.found h.acyclic lawful htracks hg htriggered
  have hnoted : Noted fs r := by
    constructor
    · intro change hchange hcheck
      rw [hchecked change hchange] at hcheck
      cases hcheck
    · intro change hchange
      rw [hresolved] at hchange
      exact absurd hchange List.not_mem_nil
    · intro key hkey
      rw [htriggered] at hkey
      exact absurd hkey List.not_mem_nil
  have hjudged := noted_resolveChanges h.nodup_own h.nodup_conditional h.found disjoint htracks
    hnoted htriggered hrun
  refine ⟨initial, r'.g, r'.resolvedChanges, ?_, hresolution, hjudged⟩
  unfold getChanges
  rw [hbuild]
  dsimp only [bind, Except.bind]
  rw [hrun]
  rfl

end JetKvm.UsbPlan
