import JetKvm.UsbPlan.Resolver

/-!
# What two passes resolve

Whatever requests are in the maps, when the passes succeed the resolved changes are the
unconditional ones and the conditional ones that are triggered in the first pass, each once, in an
order that respects the dependencies and puts what was triggered before what has triggered it.
-/

namespace JetKvm.UsbPlan

variable {own conditional : List RequestedFileChange} {r r' : ChangeSetResolver}
  {fs : FileSystem} {key : ChangeKey} {keys : List ChangeKey} {initial : Bool}

/-! ### What a step does -/

/-- Each of the changes to be made before is found, and nothing else happens. -/
theorem eq_of_foldlM_trigger {deps : List ChangeKey}
    (h : deps.foldlM ChangeSetResolver.trigger r = .ok r') :
  (∀ dep ∈ deps, dep ∈ r.conditionalChangesMap.map (·.changeKey)) ∧
    r' = { r with triggered := r.triggered ++ deps }
  := by
  induction deps generalizing r with
  | nil =>
      obtain rfl := Except.ok.inj h
      rw [List.append_nil]
      exact ⟨fun dep hdep => (by cases hdep), rfl⟩
  | cons dep deps ih =>
      rw [List.foldlM_cons, ChangeSetResolver.trigger] at h
      cases hfind : findChange dep r.conditionalChangesMap with
      | none =>
          rw [hfind] at h
          cases h
      | some change =>
          rw [hfind] at h
          obtain ⟨hdeps, rfl⟩ := ih h
          obtain ⟨hchange, rfl⟩ := mem_of_findChange hfind
          rw [List.forall_mem_cons, List.append_assoc]
          exact ⟨⟨List.mem_map_of_mem hchange, hdeps⟩, rfl⟩

/-- A change that takes the place of another one has its key. -/
theorem map_changeKey_replaceChange (change : FileChange) (changes : List FileChange) :
  (replaceChange change changes).map (·.changeKey) = changes.map (·.changeKey)
  := by
  rw [replaceChange, List.map_map]
  apply List.map_congr_left
  intro other _
  rw [Function.comp_apply]
  split
  · next heq => exact heq.symm
  · rfl

theorem conditional_keys_resolved (change : FileChange) :
  (r.resolved change).conditionalChangesMap.map (·.changeKey) =
    r.conditionalChangesMap.map (·.changeKey)
  := by
  dsimp only [ChangeSetResolver.resolved]
  split
  · apply map_changeKey_replaceChange
  · rfl

/-- The change as it is worked out in a pass. -/
def workedOut (fs : FileSystem) (initial : Bool) (change : FileChange) : FileChange :=
  (if initial then change else change.resetActionResolution).resolveAction fs

theorem sameUpToState_workedOut (change : FileChange) :
  SameUpToState change (workedOut fs initial change)
  := by
  cases initial with
  | true => exact sameUpToState_resolveAction
  | false =>
      have h : SameUpToState change.resetActionResolution (workedOut fs false change) :=
        sameUpToState_resolveAction
      exact h

/-- The change after the ones that are to be made before. -/
def dependingOn (change : FileChange) (beforeChange : List ChangeKey) : FileChange :=
  { change with resolvedDeps := change.resolvedDeps ++ beforeChange }

/-- The resolver after a change that makes others to be made before. -/
def ChangeSetResolver.triggering (r : ChangeSetResolver) (change : FileChange)
    (beforeChange : List ChangeKey) : ChangeSetResolver :=
  { r.resolved (dependingOn change beforeChange) with
    additionalResolveRequired := true
    triggered := r.triggered ++ beforeChange }

/-- A key is passed over, its change is resolved, or its change also triggers others. -/
theorem resolveChange_cases (h : ChangeSetResolver.resolveChange fs initial r key = .ok r') :
  key ∉ r.changesMap.map (·.changeKey) ∧ r' = r ∨
  ∃ change ∈ r.changesMap, change.changeKey = key ∧
    (((workedOut fs initial change).action = .doNothing ∨ initial = false ∨
        change.beforeChange = none) ∧ r' = r.resolved (workedOut fs initial change) ∨
      (workedOut fs initial change).action ≠ .doNothing ∧ initial = true ∧
        ∃ beforeChange, change.beforeChange = some beforeChange ∧
          (∀ dep ∈ beforeChange, dep ∈ r.conditionalChangesMap.map (·.changeKey)) ∧
          r' = r.triggering (workedOut fs initial change) beforeChange)
  := by
  rw [ChangeSetResolver.resolveChange] at h
  cases hfind : findChange key r.changesMap with
  | none =>
      rw [hfind] at h
      exact Or.inl ⟨findChange_eq_none.mp hfind, (Except.ok.inj h).symm⟩
  | some change =>
      obtain ⟨hchange, hkey⟩ := mem_of_findChange hfind
      refine Or.inr ⟨change, hchange, hkey, ?_⟩
      rw [hfind] at h
      dsimp only at h
      rw [← workedOut] at h
      have hbefore : (workedOut fs initial change).beforeChange = change.beforeChange := by
        rw [(sameUpToState_workedOut change).1]
      rw [hbefore] at h
      by_cases hquiet : (workedOut fs initial change).action = .doNothing ∨ initial = false
      · rw [if_pos hquiet] at h
        exact Or.inl ⟨hquiet.imp_right Or.inl, (Except.ok.inj h).symm⟩
      · rw [if_neg hquiet] at h
        cases hsome : change.beforeChange with
        | none =>
            rw [hsome] at h
            exact Or.inl ⟨Or.inr (Or.inr rfl), (Except.ok.inj h).symm⟩
        | some beforeChange =>
            rw [hsome] at h
            obtain ⟨hdeps, rfl⟩ := eq_of_foldlM_trigger h
            rw [not_or, Bool.not_eq_false] at hquiet
            dsimp only at hdeps
            rw [conditional_keys_resolved] at hdeps
            exact Or.inr ⟨hquiet.1, hquiet.2, beforeChange, rfl, hdeps, rfl⟩

/-! ### What a pass keeps -/

variable (nodup_own : (own.map (·.changeKey)).Nodup)
  (nodup_conditional : (conditional.map (·.changeKey)).Nodup)

section

include nodup_own nodup_conditional

/-- What is kept by a step that succeeds. -/
theorem resolves_of_resolveChange (tracks : Tracks own conditional r)
    (h : ChangeSetResolver.resolveChange fs initial r key = .ok r') :
  Resolves own conditional initial r [key] r'
  := by
  obtain ⟨hnot, rfl⟩ | ⟨change, hchange, hkey, hcases⟩ := resolveChange_cases h
  · have hpassed : ¬ inMap own r'.triggered key = true := by
      rwa [← tracks.mem_keys_changesMap]
    refine ⟨tracks, rfl, List.prefix_refl _, fun _ => rfl, fun _ => ?_, fun _ h => Or.inl h⟩
    rw [List.filter_cons_of_neg hpassed]
    exact (List.append_nil _).symm
  · have hdeps := (tracks.mem_of_mem_changesMap hchange).2
    obtain ⟨same, hsameDeps⟩ : SameUpToState change (workedOut fs initial change) :=
      sameUpToState_workedOut change
    have hworked : (workedOut fs initial change).resolvedDeps ⊆
        (workedOut fs initial change).changesBefore := by
      rw [hsameDeps, same]
      exact hdeps
    obtain ⟨-, rfl⟩ | ⟨-, rfl, beforeChange, hbefore, hfound, rfl⟩ := hcases
    · exact resolves_resolved nodup_own nodup_conditional tracks hchange hkey same hworked
    · have hchangesBefore : (workedOut fs true change).changesBefore = beforeChange := by
        rw [same, RequestedFileChange.changesBefore, hbefore]
        rfl
      have hresolves : Resolves own conditional true r [key]
          (r.resolved (dependingOn (workedOut fs true change) beforeChange)) := by
        apply resolves_resolved nodup_own nodup_conditional tracks hchange hkey
        · exact same
        · apply List.append_subset.mpr
          use hworked
          rw [← hchangesBefore]
          exact List.Subset.refl _
      have htracks := hresolves.tracks
      refine ⟨⟨htracks.own_eq, htracks.conditional_eq, htracks.resolvedDeps, ?_,
        fun h => (by cases h)⟩, hresolves.g, List.prefix_append _ _, fun h => (by cases h),
        fun _ => hresolves.resolved rfl, hresolves.requests⟩
      intro dep hdep
      obtain hdep | hdep := List.mem_append.mp hdep
      · exact tracks.triggered dep hdep
      · rw [← tracks.keys_conditional]
        exact hfound dep hdep

/-- What is kept by a pass that succeeds. -/
theorem resolves_of_foldlM (tracks : Tracks own conditional r)
    (h : keys.foldlM (ChangeSetResolver.resolveChange fs initial) r = .ok r') :
  Resolves own conditional initial r keys r'
  := by
  induction keys generalizing r with
  | nil =>
      obtain rfl := Except.ok.inj h
      exact Resolves.refl tracks
  | cons key keys ih =>
      rw [List.foldlM_cons] at h
      cases hstep : ChangeSetResolver.resolveChange fs initial r key with
      | error err =>
          rw [hstep] at h
          cases h
      | ok r₁ =>
          rw [hstep] at h
          have hfirst := resolves_of_resolveChange nodup_own nodup_conditional tracks hstep
          exact hfirst.trans (ih hfirst.tracks h)

end

/-! ### The first pass -/

/-- The action of a request about which nothing has been found out. -/
def firstPassAction (fs : FileSystem) (f : RequestedFileChange) : FileChangeResolvedAction :=
  ((toFileChange f).resolveAction fs).action

/-- What is known in the first pass when the changes with the given keys have been resolved. -/
structure FirstPass (fs : FileSystem) (own : List RequestedFileChange) (done : List ChangeKey)
    (r : ChangeSetResolver) : Prop where
  triggered : ∀ dep, dep ∈ r.triggered ↔ ∃ f ∈ own, f.changeKey ∈ done ∧
    firstPassAction fs f ≠ .doNothing ∧ dep ∈ f.changesBefore
  untouched : ∀ change ∈ r.unconditionalChanges, change.changeKey ∉ done →
    change = toFileChange change.toRequestedFileChange
  resolvedDeps : ∀ change ∈ r.unconditionalChanges, change.changeKey ∈ done →
    firstPassAction fs change.toRequestedFileChange ≠ .doNothing →
    change.changesBefore ⊆ change.resolvedDeps
  additional : r.additionalResolveRequired = false → ∀ f ∈ own, f.changeKey ∈ done →
    firstPassAction fs f ≠ .doNothing → f.changesBefore = []

section

variable {done : List ChangeKey} (first : FirstPass fs own done r)

include first

/-- A key that no unconditional change has makes no difference. -/
theorem FirstPass.skip (tracks : Tracks own conditional r) (hkey : key ∉ own.map (·.changeKey))
    (hchanges : r'.unconditionalChanges = r.unconditionalChanges)
    (htriggered : r'.triggered = r.triggered)
    (hadditional : r'.additionalResolveRequired = false → r.additionalResolveRequired = false) :
  FirstPass fs own (done ++ [key]) r'
  := by
  have hdone : ∀ f ∈ own, f.changeKey ∈ done ++ [key] ↔ f.changeKey ∈ done := by
    intro f hf
    rw [List.mem_append, List.mem_singleton]
    exact or_iff_left fun heq => hkey (heq ▸ List.mem_map_of_mem hf)
  constructor
  · intro dep
    rw [htriggered, first.triggered]
    constructor
    · rintro ⟨f, hf, hmem, h⟩
      exact ⟨f, hf, (hdone f hf).mpr hmem, h⟩
    · rintro ⟨f, hf, hmem, h⟩
      exact ⟨f, hf, (hdone f hf).mp hmem, h⟩
  · rw [hchanges]
    intro change hchange hnot
    exact first.untouched change hchange
      ((hdone _ (tracks.mem_unconditional hchange)).not.mp hnot)
  · rw [hchanges]
    intro change hchange hmem
    exact first.resolvedDeps change hchange
      ((hdone _ (tracks.mem_unconditional hchange)).mp hmem)
  · intro hfalse f hf hmem
    exact first.additional (hadditional hfalse) f hf ((hdone f hf).mp hmem)

include nodup_own

/-- The unconditional change with the key is resolved, and triggers what is to be made before. -/
theorem FirstPass.resolve {f : RequestedFileChange} (hf : f ∈ own) {change : FileChange}
    (same : change.toRequestedFileChange = f) {added : List ChangeKey}
    (hchanges : r'.unconditionalChanges = replaceChange change r.unconditionalChanges)
    (htriggered : r'.triggered = r.triggered ++ added)
    (hadded : ∀ dep, dep ∈ added ↔ firstPassAction fs f ≠ .doNothing ∧ dep ∈ f.changesBefore)
    (hdeps : firstPassAction fs f ≠ .doNothing → f.changesBefore ⊆ change.resolvedDeps)
    (hadditional : r'.additionalResolveRequired = false → r.additionalResolveRequired = false ∧
      (firstPassAction fs f ≠ .doNothing → f.changesBefore = [])) :
  FirstPass fs own (done ++ [f.changeKey]) r'
  := by
  have hunique : ∀ g ∈ own, g.changeKey = f.changeKey → g = f :=
    fun g hg heq => List.inj_on_of_nodup_map nodup_own hg hf heq
  have hdone : ∀ g ∈ own, g.changeKey ∈ done ++ [f.changeKey] → g.changeKey ∈ done ∨ g = f := by
    intro g hg hmem
    rw [List.mem_append, List.mem_singleton] at hmem
    exact hmem.imp_right (hunique g hg)
  have hreplaced : ∀ c ∈ r'.unconditionalChanges, c = change ∨
      c ∈ r.unconditionalChanges ∧ c.changeKey ≠ f.changeKey := by
    rw [hchanges]
    intro c hc
    obtain ⟨other, hother, rfl⟩ := List.mem_map.mp hc
    rw [← same]
    split
    · exact Or.inl rfl
    · next hne => exact Or.inr ⟨hother, hne⟩
  constructor
  · intro dep
    rw [htriggered, List.mem_append, first.triggered, hadded]
    constructor
    · rintro (⟨g, hg, hmem, h⟩ | h)
      · exact ⟨g, hg, List.mem_append_left _ hmem, h⟩
      · exact ⟨f, hf, List.mem_append_right _ (List.mem_singleton_self _), h⟩
    · rintro ⟨g, hg, hmem, h⟩
      obtain hmem | rfl := hdone g hg hmem
      · exact Or.inl ⟨g, hg, hmem, h⟩
      · exact Or.inr h
  · intro c hc hnot
    rw [List.mem_append, List.mem_singleton, not_or] at hnot
    obtain rfl | ⟨hc, -⟩ := hreplaced c hc
    · exact absurd (congrArg RequestedFileChange.changeKey same) hnot.2
    · exact first.untouched c hc hnot.1
  · intro c hc hmem htriggers
    obtain rfl | ⟨hc, hne⟩ := hreplaced c hc
    · rw [same] at htriggers ⊢
      exact hdeps htriggers
    · rw [List.mem_append, List.mem_singleton, or_iff_left hne] at hmem
      exact first.resolvedDeps c hc hmem htriggers
  · intro hfalse g hg hmem
    obtain ⟨hbefore, hnone⟩ := hadditional hfalse
    obtain hmem | rfl := hdone g hg hmem
    · exact first.additional hbefore g hg hmem
    · exact hnone

variable (disjoint : ∀ f ∈ own, f.changeKey ∉ conditional.map (·.changeKey))
  (quiet : ∀ f ∈ conditional, f.changesBefore = [])

include disjoint quiet

/-- What is known is kept up by a step of the first pass. -/
theorem FirstPass.resolveChange (tracks : Tracks own conditional r) (hnew : key ∉ done)
    (h : ChangeSetResolver.resolveChange fs true r key = .ok r') :
  FirstPass fs own (done ++ [key]) r'
  := by
  obtain ⟨hnot, rfl⟩ | ⟨change, hchange, hkey, hcases⟩ := resolveChange_cases h
  · apply first.skip tracks _ rfl rfl id
    intro hmem
    rw [tracks.mem_keys_changesMap] at hnot
    exact hnot (decide_eq_true (Or.inr hmem))
  · obtain ⟨same, hsameDeps⟩ : SameUpToState change (workedOut fs true change) :=
      sameUpToState_workedOut change
    have hworkedKey : (workedOut fs true change).changeKey = key := by
      rw [same, hkey]
    obtain hmem | hmem := List.mem_append.mp hchange
    · -- an unconditional change, which is worked out for the first time
      obtain ⟨hmem, hfresh⟩ := List.mem_filter.mp hmem
      have hfresh : key ∉ r.triggered := hkey ▸ of_decide_eq_true hfresh
      have hf := tracks.mem_unconditional hmem
      have haction : (workedOut fs true change).action =
          firstPassAction fs change.toRequestedFileChange := by
        rw [firstPassAction, ← first.untouched change hmem (hkey ▸ hnew)]
        rfl
      have hreplaced : ∀ c : FileChange, c.changeKey = key →
          (r.resolved c).unconditionalChanges = replaceChange c r.unconditionalChanges := by
        intro c hc
        exact if_neg (hc ▸ hfresh)
      rw [haction] at hcases
      subst hkey
      obtain ⟨hquiet, rfl⟩ | ⟨htriggers, -, beforeChange, hbefore, -, rfl⟩ := hcases
      · have hnone : firstPassAction fs change.toRequestedFileChange ≠ .doNothing →
            change.changesBefore = [] := by
          intro htriggers
          obtain h | h | h := hquiet
          · exact absurd h htriggers
          · cases h
          · rw [RequestedFileChange.changesBefore, h]
            rfl
        refine first.resolve nodup_own hf same (hreplaced _ hworkedKey)
          (List.append_nil _).symm ?_ ?_ ?_
        · intro dep
          constructor
          · exact fun hdep => by cases hdep
          · rintro ⟨htriggers, hdep⟩
            rw [hnone htriggers] at hdep
            exact hdep
        · intro htriggers
          rw [hnone htriggers]
          exact List.nil_subset _
        · exact fun hfalse => ⟨hfalse, hnone⟩
      · have hchangesBefore : change.changesBefore = beforeChange := by
          rw [RequestedFileChange.changesBefore, hbefore]
          rfl
        have hsame : (dependingOn (workedOut fs true change) beforeChange).toRequestedFileChange =
            change.toRequestedFileChange := same
        refine first.resolve nodup_own hf hsame (hreplaced _ hworkedKey) rfl ?_ ?_ ?_
        · intro dep
          rw [hchangesBefore]
          exact (and_iff_right htriggers).symm
        · rw [hchangesBefore]
          exact fun _ => List.subset_append_right _ _
        · exact fun hfalse => by cases hfalse
    · -- a conditional change, which triggers nothing
      obtain ⟨hmem, htriggered⟩ := List.mem_filter.mp hmem
      have htriggered : key ∈ r.triggered := hkey ▸ of_decide_eq_true htriggered
      have hf := tracks.mem_conditional hmem
      have hnot : key ∉ own.map (·.changeKey) := by
        intro hown
        obtain ⟨f, hfown, heq⟩ := List.mem_map.mp hown
        apply disjoint f hfown
        rw [heq, ← hkey]
        exact List.mem_map_of_mem hf
      have hunchanged : ∀ c : FileChange, c.changeKey = key →
          (r.resolved c).unconditionalChanges = r.unconditionalChanges := by
        intro c hc
        exact if_pos (hc ▸ htriggered)
      obtain ⟨-, rfl⟩ | ⟨-, -, beforeChange, hbefore, -, rfl⟩ := hcases
      · exact first.skip tracks hnot (hunchanged _ hworkedKey) rfl id
      · apply first.skip tracks hnot
        · exact hunchanged _ hworkedKey
        · have hnil : beforeChange = [] := by
            rw [← quiet _ hf, RequestedFileChange.changesBefore, hbefore]
            rfl
          rw [hnil]
          exact List.append_nil _
        · exact fun hfalse => by cases hfalse

include nodup_conditional

/-- What is known is kept up by the first pass. -/
theorem FirstPass.foldlM (tracks : Tracks own conditional r) (nodup : (done ++ keys).Nodup)
    (h : keys.foldlM (ChangeSetResolver.resolveChange fs true) r = .ok r') :
  FirstPass fs own (done ++ keys) r'
  := by
  induction keys generalizing done r with
  | nil =>
      obtain rfl := Except.ok.inj h
      rwa [List.append_nil]
  | cons key keys ih =>
      rw [List.foldlM_cons] at h
      cases hstep : ChangeSetResolver.resolveChange fs true r key with
      | error err =>
          rw [hstep] at h
          cases h
      | ok r₁ =>
          rw [hstep] at h
          rw [List.append_cons] at nodup ⊢
          have hnew : key ∉ done := by
            intro hmem
            have hdone := (List.nodup_append.mp nodup).1
            exact List.disjoint_of_nodup_append hdone hmem (List.mem_singleton_self key)
          have htracks := (resolves_of_resolveChange nodup_own nodup_conditional tracks hstep).tracks
          exact ih (first.resolveChange nodup_own disjoint quiet tracks hnew hstep) htracks nodup h

end

/-! ### The last pass -/

/-- A pass that succeeds has resolved the changes of its graph in the order of the library. -/
theorem resolvePass_eq_ok {dag : Bool → Dag ChangeKey}
    (h : r.resolvePass fs dag initial = .ok r') :
  (dag initial).cycles r.graph = [] ∧
    ((dag initial).topologicalOrder r.graph).foldlM
      (ChangeSetResolver.resolveChange fs initial)
      { r with
        g := r.graph
        orderedChanges := (dag initial).topologicalOrder r.graph
        resolvedChanges := [] } = .ok r'
  := by
  rw [ChangeSetResolver.resolvePass, ChangeSetResolver.toOrderedChanges] at h
  cases hcycles : (dag initial).cycles r.graph with
  | nil =>
      rw [hcycles] at h
      exact ⟨rfl, h⟩
  | cons cycle cycles =>
      rw [hcycles] at h
      cases h

section

variable {order : List ChangeKey} (horder : r.graph.IsTopologicalOrder order)
  (hkeys : r'.resolvedChanges.map (·.changeKey) = order.filter (inMap own r.triggered))

include horder hkeys

theorem nodup_resolved : (r'.resolvedChanges.map (·.changeKey)).Nodup
  := by
  rw [hkeys]
  exact horder.nodup.filter _

/-- The edges of the graph are respected. -/
theorem before_of_edge {u v : ChangeKey} (edge : r.graph.Edge u v)
    (hu : u ∈ r'.resolvedChanges.map (·.changeKey))
    (hv : v ∈ r'.resolvedChanges.map (·.changeKey)) :
  Before (r'.resolvedChanges.map (·.changeKey)) u v
  := by
  rw [hkeys] at hu hv ⊢
  obtain ⟨hu, hmapu⟩ := List.mem_filter.mp hu
  obtain ⟨hv, hmapv⟩ := List.mem_filter.mp hv
  exact (horder.respects u v edge hu hv).filter hmapu hmapv

variable (tracks : Tracks own conditional r)

include tracks

/-- The resolved changes are the unconditional ones and the ones that have been triggered. -/
theorem mem_keys_resolved :
  key ∈ r'.resolvedChanges.map (·.changeKey) ↔
    key ∈ r.triggered ∨ key ∈ own.map (·.changeKey)
  := by
  rw [hkeys, List.mem_filter]
  constructor
  · exact fun h => of_decide_eq_true h.2
  · intro h
    have hmap : inMap own r.triggered key = true := decide_eq_true h
    use horder.complete key (mem_vertices_graph.mpr (Or.inr (tracks.mem_keys_changesMap.mpr hmap)))

variable (disjoint : ∀ f ∈ own, f.changeKey ∉ conditional.map (·.changeKey))
  (requests : ∀ change ∈ r'.resolvedChanges,
    change.toRequestedFileChange ∈ own ++ conditional)

include disjoint requests

/-- What is resolved is in the map of the changes, up to what has been found out about it. -/
theorem exists_mem_changesMap {change : FileChange} (h : change ∈ r'.resolvedChanges) :
  ∃ c ∈ r.changesMap, c.toRequestedFileChange = change.toRequestedFileChange
  := by
  have hkey := (mem_keys_resolved horder hkeys tracks).mp (List.mem_map_of_mem h)
  obtain hown | hconditional := List.mem_append.mp (requests change h)
  · rw [← tracks.own_eq] at hown
    obtain ⟨c, hc, heq⟩ := List.mem_map.mp hown
    use c
    constructor
    · apply List.mem_append_left
      rw [List.mem_filter]
      use hc
      apply decide_eq_true
      intro htriggered
      exact disjoint _ (tracks.mem_unconditional hc) (tracks.triggered _ htriggered)
    · exact heq
  · have hnot : change.changeKey ∉ own.map (·.changeKey) := by
      intro hown
      obtain ⟨f, hf, heq⟩ := List.mem_map.mp hown
      apply disjoint f hf
      rw [heq]
      exact List.mem_map_of_mem hconditional
    rw [← tracks.conditional_eq] at hconditional
    obtain ⟨c, hc, heq⟩ := List.mem_map.mp hconditional
    use c
    constructor
    · apply List.mem_append_right
      rw [List.mem_filter]
      use hc
      apply decide_eq_true
      rw [congrArg RequestedFileChange.changeKey heq]
      exact hkey.resolve_right hnot
    · exact heq

/-- A change is made after the ones that it depends on. -/
theorem before_of_requested_dependsOn {change : FileChange} (h : change ∈ r'.resolvedChanges)
    {dep : ChangeKey} (hdep : dep ∈ change.dependsOn)
    (hmem : dep ∈ r'.resolvedChanges.map (·.changeKey)) :
  Before (r'.resolvedChanges.map (·.changeKey)) dep change.changeKey
  := by
  obtain ⟨c, hc, heq⟩ := exists_mem_changesMap horder hkeys tracks disjoint requests h
  apply before_of_edge horder hkeys _ hmem (List.mem_map_of_mem h)
  rw [edge_graph]
  right
  rw [← heq] at hdep ⊢
  exact ⟨c, hc, rfl, List.mem_append_left _ hdep⟩

end

/-! ### Both passes -/

/-- What the requests are resolved to: the unconditional ones and the ones that are triggered, each
once, what a change depends on and what it triggers before it. -/
structure Resolution (fs : FileSystem) (own conditional : List RequestedFileChange)
    (resolved : List FileChange) : Prop where
  nodup : (resolved.map (·.changeKey)).Nodup
  mem_keys : ∀ key, key ∈ resolved.map (·.changeKey) ↔ key ∈ own.map (·.changeKey) ∨
    ∃ f ∈ own, firstPassAction fs f ≠ .doNothing ∧ key ∈ f.changesBefore
  dependsOn : ∀ change ∈ resolved, ∀ dep ∈ change.dependsOn,
    dep ∈ resolved.map (·.changeKey) → Before (resolved.map (·.changeKey)) dep change.changeKey
  before : ∀ f ∈ own, firstPassAction fs f ≠ .doNothing → ∀ dep ∈ f.changesBefore,
    Before (resolved.map (·.changeKey)) dep f.changeKey
  requests : ∀ change ∈ resolved, change.toRequestedFileChange ∈ own ++ conditional

/-- The order of a graph without cycles is a topological one. -/
def Dag.Orders (dag : Dag ChangeKey) : Prop :=
  ∀ g : FiniteDigraph ChangeKey, dag.cycles g = [] → g.IsTopologicalOrder (dag.topologicalOrder g)

section

variable {dag : Bool → Dag ChangeKey} (orders : ∀ initial, (dag initial).Orders)
  (disjoint : ∀ f ∈ own, f.changeKey ∉ conditional.map (·.changeKey))
  (quiet : ∀ f ∈ conditional, f.changesBefore = [])
  (tracks : Tracks own conditional r)

include nodup_own nodup_conditional tracks

/-- What a pass does to the resolver that it starts with. -/
theorem resolves_of_resolvePass (h : r.resolvePass fs dag initial = .ok r') :
  Resolves own conditional initial { r with g := r.graph, resolvedChanges := [] }
    ((dag initial).topologicalOrder r.graph) r'
  := by
  have htracks : Tracks own conditional
      { r with
        g := r.graph
        orderedChanges := (dag initial).topologicalOrder r.graph
        resolvedChanges := [] } :=
    ⟨tracks.own_eq, tracks.conditional_eq, tracks.resolvedDeps, tracks.triggered, tracks.quiet⟩
  have hresolves := resolves_of_foldlM nodup_own nodup_conditional htracks (resolvePass_eq_ok h).2
  exact ⟨hresolves.tracks, hresolves.g, hresolves.grows, hresolves.settled, hresolves.resolved,
    hresolves.requests⟩

include orders disjoint quiet

/-- The first pass has worked out all unconditional changes. -/
theorem firstPass_of_resolvePass (hnone : r.triggered = [])
    (hfresh : ∀ change ∈ r.unconditionalChanges,
      change = toFileChange change.toRequestedFileChange)
    (h : r.resolvePass fs dag true = .ok r') :
  FirstPass fs own ((dag true).topologicalOrder r.graph) r' ∧
    ∀ f ∈ own, f.changeKey ∈ (dag true).topologicalOrder r.graph
  := by
  obtain ⟨hcycles, hrun⟩ := resolvePass_eq_ok h
  have horder := orders true r.graph hcycles
  constructor
  · have htracks : Tracks own conditional
        { r with
          g := r.graph
          orderedChanges := (dag true).topologicalOrder r.graph
          resolvedChanges := [] } :=
      ⟨tracks.own_eq, tracks.conditional_eq, tracks.resolvedDeps, tracks.triggered, tracks.quiet⟩
    have hfirst : FirstPass fs own []
        { r with
          g := r.graph
          orderedChanges := (dag true).topologicalOrder r.graph
          resolvedChanges := [] } := by
      constructor
      · intro dep
        dsimp only
        rw [hnone]
        constructor
        · exact fun hdep => by cases hdep
        · rintro ⟨f, -, hf, -⟩
          cases hf
      · exact fun change hchange _ => hfresh change hchange
      · exact fun change _ hmem => by cases hmem
      · exact fun _ f _ hmem => by cases hmem
    have hnodup : ([] ++ (dag true).topologicalOrder r.graph).Nodup := horder.nodup
    exact hfirst.foldlM nodup_own nodup_conditional disjoint quiet htracks hnodup hrun
  · intro f hf
    apply horder.complete
    rw [mem_vertices_graph, tracks.mem_keys_changesMap, inMap, decide_eq_true_eq]
    exact Or.inr (Or.inr (List.mem_map_of_mem hf))

omit quiet in
/-- The resolved changes of the last pass, which triggers nothing. -/
theorem resolution_of_resolvePass (h : r.resolvePass fs dag initial = .ok r')
    (hsame : r'.triggered = r.triggered)
    (htriggered : ∀ dep, dep ∈ r.triggered ↔
      ∃ f ∈ own, firstPassAction fs f ≠ .doNothing ∧ dep ∈ f.changesBefore)
    (hdeps : ∀ change ∈ r.unconditionalChanges,
      firstPassAction fs change.toRequestedFileChange ≠ .doNothing →
      change.changesBefore ⊆ change.resolvedDeps) :
  Resolution fs own conditional r'.resolvedChanges
  := by
  have hresolves := resolves_of_resolvePass nodup_own nodup_conditional tracks h
  have horder := orders initial r.graph (resolvePass_eq_ok h).1
  have hkeys : r'.resolvedChanges.map (·.changeKey) =
      ((dag initial).topologicalOrder r.graph).filter (inMap own r.triggered) :=
    hresolves.resolved hsame
  have hrequests : ∀ change ∈ r'.resolvedChanges,
      change.toRequestedFileChange ∈ own ++ conditional := by
    intro change hchange
    obtain hnil | hmem := hresolves.requests change hchange
    · cases hnil
    · exact hmem
  constructor
  · exact nodup_resolved horder hkeys
  · intro key
    rw [mem_keys_resolved horder hkeys tracks, htriggered, or_comm]
  · intro change hchange dep hdep hmem
    exact before_of_requested_dependsOn horder hkeys tracks disjoint hrequests hchange hdep hmem
  · intro f hf htriggers dep hdep
    obtain ⟨change, hchange, rfl⟩ := List.mem_map.mp (tracks.own_eq ▸ hf)
    apply before_of_edge horder hkeys
    · rw [edge_graph]
      refine Or.inr ⟨change, ?_, rfl, List.mem_append_right _ (hdeps change hchange htriggers hdep)⟩
      apply List.mem_append_left
      rw [List.mem_filter]
      use hchange
      apply decide_eq_true
      exact fun hmem => disjoint _ hf (tracks.triggered _ hmem)
    · rw [mem_keys_resolved horder hkeys tracks, htriggered]
      exact Or.inl ⟨_, hf, htriggers, hdep⟩
    · rw [mem_keys_resolved horder hkeys tracks]
      exact Or.inr (List.mem_map_of_mem hf)
  · exact hrequests

/-- Both passes resolve the requests. -/
theorem resolution_of_resolveChanges (hnone : r.triggered = [])
    (hfresh : ∀ change ∈ r.unconditionalChanges,
      change = toFileChange change.toRequestedFileChange)
    (h : r.resolveChanges fs dag = .ok r') :
  Resolution fs own conditional r'.resolvedChanges
  := by
  rw [ChangeSetResolver.resolveChanges] at h
  cases hpass : r.resolvePass fs dag true with
  | error err =>
      rw [hpass] at h
      cases h
  | ok r₁ =>
      rw [hpass] at h
      dsimp only [bind, Except.bind] at h
      have hresolves := resolves_of_resolvePass nodup_own nodup_conditional tracks hpass
      obtain ⟨hfirst, hdone⟩ := firstPass_of_resolvePass nodup_own nodup_conditional orders disjoint
        quiet tracks hnone hfresh hpass
      cases hadditional : r₁.additionalResolveRequired with
      | false =>
          rw [hadditional] at h
          obtain rfl := Except.ok.inj h
          have hnothing : ∀ f ∈ own, firstPassAction fs f ≠ .doNothing → f.changesBefore = [] :=
            fun f hf => hfirst.additional hadditional f hf (hdone f hf)
          apply resolution_of_resolvePass nodup_own nodup_conditional orders disjoint tracks hpass
          · rw [hnone]
            exact hresolves.tracks.quiet hadditional
          · intro dep
            rw [hnone]
            constructor
            · exact fun hdep => by cases hdep
            · rintro ⟨f, hf, htriggers, hdep⟩
              rw [hnothing f hf htriggers] at hdep
              exact hdep
          · intro change hchange htriggers
            rw [hnothing _ (tracks.mem_unconditional hchange) htriggers]
            exact List.nil_subset _
      | true =>
          rw [hadditional, if_pos rfl] at h
          have hlast := resolves_of_resolvePass nodup_own nodup_conditional hresolves.tracks h
          apply resolution_of_resolvePass nodup_own nodup_conditional orders disjoint
            hresolves.tracks h
          · exact hlast.settled rfl
          · intro dep
            rw [hfirst.triggered]
            constructor
            · rintro ⟨f, hf, -, h⟩
              exact ⟨f, hf, h⟩
            · rintro ⟨f, hf, h⟩
              exact ⟨f, hf, hdone f hf, h⟩
          · intro change hchange
            exact hfirst.resolvedDeps change hchange
              (hdone _ (hresolves.tracks.mem_unconditional hchange))

end

end JetKvm.UsbPlan
