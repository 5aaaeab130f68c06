import JetKvm.Library.Digraph
import JetKvm.UsbPlan.ChangeSet

/-!
# Resolving a change set

A change set is resolved in one pass or two. The first pass orders the unconditional changes
along their dependencies, and finds the ones that change a file although others are to be
made before. Those others are conditional changes, which the second pass orders along with
the rest. The orders are those of a library for directed graphs, about which it is assumed
that it reports cycles and that it returns some topological order.
-/

namespace JetKvm.UsbPlan

/-- What the library for directed graphs answers. -/
structure Dag (V : Type) where
  cycles : FiniteDigraph V → List (List V)
  topologicalOrder : FiniteDigraph V → List V

/-- Cycles through several vertices are reported, and a graph without cycles is ordered. -/
structure Dag.Lawful {V : Type} (dag : Dag V) : Prop where
  cycles_nil : ∀ g : FiniteDigraph V, dag.cycles g = [] ↔
    ∀ u v, Relation.TransGen g.Edge u v → Relation.TransGen g.Edge v u → u = v
  order : ∀ g : FiniteDigraph V, g.Acyclic → g.IsTopologicalOrder (dag.topologicalOrder g)

inductive ResolveError where
  | cyclesDetected (cycles : List (List ChangeKey))
  | dependencyNotFound (dep : ChangeKey)
  | duplicateChange (key : ChangeKey) (current requested : RequestedFileChange)
deriving DecidableEq

/-- The changes that were requested, in the order of the requests. -/
abbrev ChangeSet : Type :=
  List RequestedFileChange

/-- The change that is requested, about which nothing has been found out yet. -/
def toFileChange (f : RequestedFileChange) : FileChange :=
  { toRequestedFileChange := f }

/-- The map of the changes holds the unconditional ones, and the conditional ones under the
keys in `triggered`. -/
structure ChangeSetResolver where
  g : FiniteDigraph ChangeKey := .empty
  unconditionalChanges : List FileChange := []
  conditionalChangesMap : List FileChange := []
  triggered : List ChangeKey := []
  orderedChanges : List ChangeKey := []
  resolvedChanges : List FileChange := []
  additionalResolveRequired : Bool := false

/-- The change of the list with the given key. -/
def findChange (key : ChangeKey) (changes : List FileChange) : Option FileChange :=
  changes.find? fun change => change.changeKey = key

/-- Puts a change in the place of the one with its key. -/
def replaceChange (change : FileChange) (changes : List FileChange) : List FileChange :=
  changes.map fun other => if other.changeKey = change.changeKey then change else other

namespace ChangeSetResolver

variable (r : ChangeSetResolver) (fs : FileSystem)

def changesMap : List FileChange :=
  r.unconditionalChanges.filter (·.changeKey ∉ r.triggered) ++
    r.conditionalChangesMap.filter (·.changeKey ∈ r.triggered)

/-! ### Building the maps -/

/-- Enters a change into the maps. A later conditional change replaces an earlier one. -/
def addChange (change : FileChange) : Except ResolveError ChangeSetResolver :=
  if change.IsConditional then
    .ok { r with
      conditionalChangesMap :=
        r.conditionalChangesMap.filter (·.changeKey ≠ change.changeKey) ++ [change] }
  else match findChange change.changeKey r.unconditionalChanges with
  | some current =>
      if current.isSame change.toRequestedFileChange then .ok r
      else .error (.duplicateChange change.changeKey current.toRequestedFileChange
        change.toRequestedFileChange)
  | none => .ok { r with unconditionalChanges := r.unconditionalChanges ++ [change] }

def buildMaps (changes : ChangeSet) : Except ResolveError ChangeSetResolver :=
  changes.foldlM (fun r change => r.addChange (toFileChange change)) {}

/-! ### Resolving -/

/-- The graph with the changes of the map and their dependencies. -/
def graph : FiniteDigraph ChangeKey :=
  r.changesMap.foldl
    (fun g change => g.addDependent change.changeKey (change.dependsOn ++ change.resolvedDeps))
    r.g

def toOrderedChanges (dag : Dag ChangeKey) : Except ResolveError ChangeSetResolver :=
  match dag.cycles r.graph with
  | [] => .ok { r with g := r.graph, orderedChanges := dag.topologicalOrder r.graph }
  | cycles => .error (.cyclesDetected cycles)

/-- Keeps what has been worked out about a change, and puts it after the resolved ones. -/
def resolved (change : FileChange) : ChangeSetResolver :=
  { r with
    unconditionalChanges :=
      if change.changeKey ∈ r.triggered then r.unconditionalChanges
      else replaceChange change r.unconditionalChanges
    conditionalChangesMap :=
      if change.changeKey ∈ r.triggered then replaceChange change r.conditionalChangesMap
      else r.conditionalChangesMap
    resolvedChanges := r.resolvedChanges ++ [change] }

/-- Adds a conditional change to the map of the changes. -/
def trigger (dep : ChangeKey) : Except ResolveError ChangeSetResolver :=
  match findChange dep r.conditionalChangesMap with
  | none => .error (.dependencyNotFound dep)
  | some _ => .ok { r with triggered := r.triggered ++ [dep] }

def resolveChange (initial : Bool) (r : ChangeSetResolver) (key : ChangeKey) :
    Except ResolveError ChangeSetResolver :=
  match findChange key r.changesMap with
  -- logged only
  | none => .ok r
  | some change =>
      let change := if initial then change else change.resetActionResolution
      let change := change.resolveAction fs
      if change.action = .doNothing ∨ initial = false then .ok (r.resolved change)
      else match change.beforeChange with
      | none => .ok (r.resolved change)
      | some beforeChange =>
          beforeChange.foldlM trigger
            { r.resolved { change with resolvedDeps := change.resolvedDeps ++ beforeChange } with
              additionalResolveRequired := true }

def doResolveChanges (initial : Bool) : Except ResolveError ChangeSetResolver :=
  r.orderedChanges.foldlM (resolveChange fs initial) { r with resolvedChanges := [] }

/-- One pass. -/
def resolvePass (dag : Bool → Dag ChangeKey) (initial : Bool) :
    Except ResolveError ChangeSetResolver := do
  let r ← r.toOrderedChanges (dag initial)
  r.doResolveChanges fs initial

def resolveChanges (dag : Bool → Dag ChangeKey) : Except ResolveError ChangeSetResolver := do
  let r ← r.resolvePass fs dag true
  if r.additionalResolveRequired then r.resolvePass fs dag false else pure r

end ChangeSetResolver

/-- The resolved changes of a change set. The library for graphs may answer the two passes
differently. -/
def getChanges (dag : Bool → Dag ChangeKey) (fs : FileSystem) (changes : ChangeSet) :
    Except ResolveError (List FileChange) := do
  let r ← ChangeSetResolver.buildMaps changes
  let r ← r.resolveChanges fs dag
  pure r.resolvedChanges

/-! ### What the passes keep -/

section Passes

variable {own conditional : List RequestedFileChange} {r r' : ChangeSetResolver}
  {fs : FileSystem} {key : ChangeKey} {change : FileChange} {changes : List FileChange}

theorem mem_of_findChange (h : findChange key changes = some change) :
  change ∈ changes ∧ change.changeKey = key
  := ⟨List.mem_of_find?_eq_some h, by simpa using List.find?_some h⟩

theorem findChange_eq_none :
  findChange key changes = none ↔ key ∉ changes.map (·.changeKey)
  := by
  simp [findChange, List.find?_eq_none]

/-- A change may take the place of one that was requested in the same way. -/
theorem map_replaceChange
    (h : ∀ other ∈ changes, other.changeKey = change.changeKey →
      other.toRequestedFileChange = change.toRequestedFileChange) :
  (replaceChange change changes).map (·.toRequestedFileChange) =
    changes.map (·.toRequestedFileChange)
  := by
  rw [replaceChange, List.map_map]
  apply List.map_congr_left
  intro other hother
  rw [Function.comp_apply]
  split
  · next heq => rw [h other hother heq]
  · rfl

theorem mem_replaceChange {other : FileChange} (h : other ∈ replaceChange change changes) :
  other = change ∨ other ∈ changes
  := by
  obtain ⟨c, hc, rfl⟩ := List.mem_map.mp h
  split
  · exact Or.inl rfl
  · exact Or.inr hc

/-- The resolver works on the given requests: it only adds dependencies on changes that are to
be made before. -/
structure Tracks (own conditional : List RequestedFileChange) (r : ChangeSetResolver) :
    Prop where
  own_eq : r.unconditionalChanges.map (·.toRequestedFileChange) = own
  conditional_eq : r.conditionalChangesMap.map (·.toRequestedFileChange) = conditional
  resolvedDeps : ∀ change ∈ r.unconditionalChanges ++ r.conditionalChangesMap,
    change.resolvedDeps ⊆ change.changesBefore
  triggered : ∀ key ∈ r.triggered, key ∈ conditional.map (·.changeKey)
  quiet : r.additionalResolveRequired = false → r.triggered = []

theorem Tracks.mem_unconditional (tracks : Tracks own conditional r)
    (h : change ∈ r.unconditionalChanges) :
  change.toRequestedFileChange ∈ own
  := tracks.own_eq ▸ List.mem_map_of_mem h

theorem Tracks.mem_conditional (tracks : Tracks own conditional r)
    (h : change ∈ r.conditionalChangesMap) :
  change.toRequestedFileChange ∈ conditional
  := tracks.conditional_eq ▸ List.mem_map_of_mem h

theorem Tracks.keys_own (tracks : Tracks own conditional r) :
  r.unconditionalChanges.map (·.changeKey) = own.map (·.changeKey)
  := by
  rw [← tracks.own_eq, List.map_map]
  rfl

theorem Tracks.keys_conditional (tracks : Tracks own conditional r) :
  r.conditionalChangesMap.map (·.changeKey) = conditional.map (·.changeKey)
  := by
  rw [← tracks.conditional_eq, List.map_map]
  rfl

/-- The keys of the map of the changes: those of the unconditional changes and the triggered
ones. -/
def inMap (own : List RequestedFileChange) (triggered : List ChangeKey) (key : ChangeKey) :
    Bool :=
  key ∈ triggered ∨ key ∈ own.map (·.changeKey)

theorem Tracks.mem_keys_changesMap (tracks : Tracks own conditional r) :
  key ∈ r.changesMap.map (·.changeKey) ↔ inMap own r.triggered key = true
  := by
  rw [inMap, decide_eq_true_eq, ← tracks.keys_own]
  have htriggered := tracks.triggered key
  rw [← tracks.keys_conditional] at htriggered
  simp only [ChangeSetResolver.changesMap, List.map_append, List.mem_append, List.mem_map,
    List.mem_filter, decide_eq_true_eq] at htriggered ⊢
  constructor
  · rintro (⟨c, ⟨hc, -⟩, rfl⟩ | ⟨c, ⟨-, hc⟩, rfl⟩)
    · exact Or.inr ⟨c, hc, rfl⟩
    · exact Or.inl hc
  · intro h
    by_cases hkey : key ∈ r.triggered
    · obtain ⟨c, hc, rfl⟩ := htriggered hkey
      exact Or.inr ⟨c, ⟨hc, hkey⟩, rfl⟩
    · obtain ⟨c, hc, rfl⟩ := h.resolve_left hkey
      exact Or.inl ⟨c, ⟨hc, hkey⟩, rfl⟩

theorem Tracks.mem_of_mem_changesMap (tracks : Tracks own conditional r)
    (h : change ∈ r.changesMap) :
  change.toRequestedFileChange ∈ own ++ conditional ∧
    change.resolvedDeps ⊆ change.changesBefore
  := by
  rcases List.mem_append.mp h with h | h
  · have hmem := (List.mem_filter.mp h).1
    use List.mem_append_left _ (tracks.mem_unconditional hmem)
    apply tracks.resolvedDeps change (List.mem_append_left _ hmem)
  · have hmem := (List.mem_filter.mp h).1
    use List.mem_append_right _ (tracks.mem_conditional hmem)
    apply tracks.resolvedDeps change (List.mem_append_right _ hmem)

variable (nodup_own : (own.map (·.changeKey)).Nodup)
  (nodup_conditional : (conditional.map (·.changeKey)).Nodup)

include nodup_own nodup_conditional

/-- What has been worked out about a change is kept. -/
theorem Tracks.resolved (tracks : Tracks own conditional r) {found : FileChange}
    (hfound : found ∈ r.changesMap)
    (same : change.toRequestedFileChange = found.toRequestedFileChange)
    (hdeps : change.resolvedDeps ⊆ change.changesBefore) :
  Tracks own conditional (r.resolved change)
  := by
  have hkey : change.changeKey = found.changeKey := by
    rw [same]
  have hinj : ∀ {changes : List FileChange},
      ((changes.map (·.toRequestedFileChange)).map (·.changeKey)).Nodup → found ∈ changes →
      ∀ other ∈ changes, other.changeKey = change.changeKey →
        other.toRequestedFileChange = change.toRequestedFileChange := by
    intro changes nodup hmem other hother heq
    rw [same]
    apply List.inj_on_of_nodup_map nodup
    · apply List.mem_map_of_mem hother
    · apply List.mem_map_of_mem hmem
    · rw [heq, hkey]
  constructor
  · dsimp only [ChangeSetResolver.resolved]
    split
    · apply tracks.own_eq
    · next hnot =>
        rw [map_replaceChange, tracks.own_eq]
        apply hinj
        · rw [tracks.own_eq]
          apply nodup_own
        · rcases List.mem_append.mp hfound with h | h
          · apply (List.mem_filter.mp h).1
          · exact absurd (hkey ▸ of_decide_eq_true (List.mem_filter.mp h).2) hnot
  · dsimp only [ChangeSetResolver.resolved]
    split
    · next hin =>
        rw [map_replaceChange, tracks.conditional_eq]
        apply hinj
        · rw [tracks.conditional_eq]
          apply nodup_conditional
        · rcases List.mem_append.mp hfound with h | h
          · exact absurd (hkey ▸ hin) (of_decide_eq_true (List.mem_filter.mp h).2)
          · apply (List.mem_filter.mp h).1
    · apply tracks.conditional_eq
  · intro c hc
    have hmem : c = change ∨ c ∈ r.unconditionalChanges ++ r.conditionalChangesMap := by
      rw [List.mem_append]
      dsimp only [ChangeSetResolver.resolved] at hc
      split at hc
      · rcases List.mem_append.mp hc with h | h
        · exact Or.inr (Or.inl h)
        · exact (mem_replaceChange h).imp_right Or.inr
      · rcases List.mem_append.mp hc with h | h
        · exact (mem_replaceChange h).imp_right Or.inl
        · exact Or.inr (Or.inr h)
    rcases hmem with rfl | hmem
    · apply hdeps
    · apply tracks.resolvedDeps c hmem
  · apply tracks.triggered
  · apply tracks.quiet

omit nodup_own nodup_conditional in
theorem foldlM_trigger {deps : List ChangeKey}
    (hdeps : ∀ dep ∈ deps, dep ∈ r.conditionalChangesMap.map (·.changeKey)) :
  deps.foldlM ChangeSetResolver.trigger r = .ok { r with triggered := r.triggered ++ deps }
  := by
  induction deps generalizing r with
  | nil =>
      rw [List.append_nil]
      rfl
  | cons dep deps ih =>
      have hstep : r.trigger dep = .ok { r with triggered := r.triggered ++ [dep] } := by
        unfold ChangeSetResolver.trigger
        cases hfind : findChange dep r.conditionalChangesMap with
        | none =>
            exact absurd (hdeps dep List.mem_cons_self) (findChange_eq_none.mp hfind)
        | some _ => rfl
      rw [List.foldlM_cons, hstep]
      have hrest := ih (r := { r with triggered := r.triggered ++ [dep] })
        fun dep hdep => hdeps dep (List.mem_cons_of_mem _ hdep)
      rw [List.append_assoc] at hrest
      apply hrest

/-- What becomes of the resolver while the changes with the given keys are resolved. -/
structure Resolves (own conditional : List RequestedFileChange) (initial : Bool)
    (r : ChangeSetResolver) (keys : List ChangeKey) (r' : ChangeSetResolver) : Prop where
  tracks : Tracks own conditional r'
  g : r'.g = r.g
  grows : r.triggered <+: r'.triggered
  settled : initial = false → r'.triggered = r.triggered
  resolved : r'.triggered = r.triggered →
    r'.resolvedChanges.map (·.changeKey) = r.resolvedChanges.map (·.changeKey) ++
      keys.filter (inMap own r.triggered)
  requests : ∀ change ∈ r'.resolvedChanges, change ∈ r.resolvedChanges ∨
    change.toRequestedFileChange ∈ own ++ conditional

omit nodup_own nodup_conditional in
theorem Resolves.refl {initial : Bool} (tracks : Tracks own conditional r) :
  Resolves own conditional initial r [] r
  := by
  constructor
  · apply tracks
  · rfl
  · apply List.prefix_refl
  · exact fun _ => rfl
  · exact fun _ => (List.append_nil _).symm
  · exact fun _ h => Or.inl h

omit nodup_own nodup_conditional in
theorem Resolves.trans {initial : Bool} {keys keys' : List ChangeKey}
    {r'' : ChangeSetResolver} (first : Resolves own conditional initial r keys r')
    (second : Resolves own conditional initial r' keys' r'') :
  Resolves own conditional initial r (keys ++ keys') r''
  := by
  constructor
  · apply second.tracks
  · rw [second.g, first.g]
  · apply first.grows.trans second.grows
  · intro hinitial
    rw [second.settled hinitial, first.settled hinitial]
  · intro hsame
    have hgrows := second.grows
    rw [hsame] at hgrows
    have hfirst : r'.triggered = r.triggered :=
      hgrows.eq_of_length (Nat.le_antisymm hgrows.length_le first.grows.length_le)
    rw [second.resolved (hsame.trans hfirst.symm), first.resolved hfirst, hfirst,
      List.filter_append, List.append_assoc]
  · intro change hchange
    rcases second.requests change hchange with h | h
    · apply first.requests change h
    · exact Or.inr h

/-- A change that is found is resolved as it was requested. -/
theorem resolves_resolved {initial : Bool} (tracks : Tracks own conditional r)
    {found : FileChange} (hfound : found ∈ r.changesMap) (hkey : found.changeKey = key)
    (same : change.toRequestedFileChange = found.toRequestedFileChange)
    (hdeps : change.resolvedDeps ⊆ change.changesBefore) :
  Resolves own conditional initial r [key] (r.resolved change)
  := by
  constructor
  · apply tracks.resolved nodup_own nodup_conditional hfound same hdeps
  · rfl
  · apply List.prefix_refl
  · exact fun _ => rfl
  · intro _
    have hmem : inMap own r.triggered key = true := by
      rw [← tracks.mem_keys_changesMap, ← hkey]
      apply List.mem_map_of_mem hfound
    rw [List.filter_cons_of_pos hmem]
    dsimp only [ChangeSetResolver.resolved]
    rw [List.map_append, List.map_singleton, same, hkey]
    rfl
  · intro c hc
    rcases List.mem_append.mp hc with h | h
    · exact Or.inl h
    · right
      rw [List.mem_singleton.mp h, same]
      apply (tracks.mem_of_mem_changesMap hfound).1

/-- The condition that every change which is to be made before another one is there. -/
def DependenciesFound (own conditional : List RequestedFileChange) : Prop :=
  ∀ f ∈ own ++ conditional, ∀ dep ∈ f.changesBefore, dep ∈ conditional.map (·.changeKey)

variable (found : DependenciesFound own conditional)

include found

variable (fs key) in
/-- A change is resolved, if it is one of the map. -/
theorem resolveChange_resolves (initial : Bool) (tracks : Tracks own conditional r) :
  ∃ r', ChangeSetResolver.resolveChange fs initial r key = .ok r' ∧
    Resolves own conditional initial r [key] r'
  := by
  unfold ChangeSetResolver.resolveChange
  cases hfind : findChange key r.changesMap with
  | none =>
      use r, rfl
      have hnot : ¬ inMap own r.triggered key = true := by
        rw [← tracks.mem_keys_changesMap]
        apply findChange_eq_none.mp hfind
      constructor
      · apply tracks
      · rfl
      · apply List.prefix_refl
      · exact fun _ => rfl
      · intro _
        rw [List.filter_cons_of_neg hnot]
        exact (List.append_nil _).symm
      · exact fun _ h => Or.inl h
  | some change =>
      obtain ⟨hchange, hkey⟩ := mem_of_findChange hfind
      obtain ⟨hrequest, hdeps⟩ := tracks.mem_of_mem_changesMap hchange
      dsimp only
      generalize hreset : (if initial = true then change else change.resetActionResolution) =
        reset
      have hsame : SameUpToState change (reset.resolveAction fs) := by
        have hstep : SameUpToState reset (reset.resolveAction fs) := sameUpToState_resolveAction
        cases initial with
        | true =>
            subst hreset
            apply hstep
        | false =>
            subst hreset
            apply hstep
      generalize reset.resolveAction fs = worked at hsame
      obtain ⟨same, hsameDeps⟩ := hsame
      have hworked : worked.resolvedDeps ⊆ worked.changesBefore := by
        rw [hsameDeps, same]
        apply hdeps
      by_cases hquiet : worked.action = .doNothing ∨ initial = false
      · rw [if_pos hquiet]
        exact ⟨_, rfl, resolves_resolved nodup_own nodup_conditional tracks hchange hkey same
          hworked⟩
      · rw [if_neg hquiet]
        cases hbefore : worked.beforeChange with
        | none =>
            exact ⟨_, rfl, resolves_resolved nodup_own nodup_conditional tracks hchange hkey
              same hworked⟩
        | some beforeChange =>
            have hchangesBefore : worked.changesBefore = beforeChange := by
              rw [RequestedFileChange.changesBefore, hbefore]
              rfl
            have hconditional : ∀ dep ∈ beforeChange, dep ∈ conditional.map (·.changeKey) := by
              rw [← hchangesBefore, same]
              apply found _ hrequest
            let triggering : FileChange :=
              { worked with resolvedDeps := worked.resolvedDeps ++ beforeChange }
            have hresolves : Resolves own conditional initial r [key] (r.resolved triggering) := by
              apply resolves_resolved nodup_own nodup_conditional tracks hchange hkey
              · apply same
              · apply List.append_subset.mpr
                use hworked
                rw [← hchangesBefore]
                apply List.Subset.refl
            refine ⟨_, foldlM_trigger ?_, ?_, hresolves.g, ?_, ?_, ?_, hresolves.requests⟩
            · dsimp only
              rw [hresolves.tracks.keys_conditional]
              apply hconditional
            · have htracks := hresolves.tracks
              refine ⟨htracks.own_eq, htracks.conditional_eq, htracks.resolvedDeps, ?_, nofun⟩
              intro key hmem
              rcases List.mem_append.mp hmem with h | h
              · apply tracks.triggered key h
              · apply hconditional key h
            · apply List.prefix_append
            · exact fun hinitial => absurd (Or.inr hinitial) hquiet
            · exact fun _ => hresolves.resolved rfl

variable (fs) in
/-- Each change of a list is resolved in turn. -/
theorem foldlM_resolveChange_resolves (initial : Bool) (keys : List ChangeKey)
    (tracks : Tracks own conditional r) :
  ∃ r', keys.foldlM (ChangeSetResolver.resolveChange fs initial) r = .ok r' ∧
    Resolves own conditional initial r keys r'
  := by
  induction keys generalizing r with
  | nil => exact ⟨r, rfl, Resolves.refl tracks⟩
  | cons key keys ih =>
      obtain ⟨r₁, hstep, hfirst⟩ :=
        resolveChange_resolves fs key nodup_own nodup_conditional found initial tracks
      obtain ⟨r₂, hrest, hsecond⟩ := ih hfirst.tracks
      use r₂
      constructor
      · rw [List.foldlM_cons, hstep]
        apply hrest
      · apply hfirst.trans hsecond

end Passes

/-! ### The graphs -/

section Graphs

variable {own conditional requests : List RequestedFileChange} {r r' : ChangeSetResolver}
  {fs : FileSystem} {dag : Bool → Dag ChangeKey} {u v : ChangeKey} {g : FiniteDigraph ChangeKey}

/-- The graph has no vertices and edges but those of the given requests. -/
structure Within (requests : List RequestedFileChange) (g : FiniteDigraph ChangeKey) : Prop where
  vertices : ∀ v ∈ g.vertices, v ∈ requests.map (·.changeKey)
  edges : ∀ u v, g.Edge u v →
    ∃ f ∈ requests, f.changeKey = v ∧ u ∈ f.dependsOn ++ f.changesBefore

theorem mem_vertices_graph :
  v ∈ r.graph.vertices ↔ v ∈ r.g.vertices ∨ v ∈ r.changesMap.map (·.changeKey)
  := by
  unfold ChangeSetResolver.graph
  generalize r.g = g
  induction r.changesMap generalizing g with
  | nil => simp
  | cons change changes ih =>
      rw [List.foldl_cons, ih, FiniteDigraph.mem_vertices_addDependent, List.map_cons,
        List.mem_cons, or_assoc, or_left_comm]

theorem edge_graph :
  r.graph.Edge u v ↔ r.g.Edge u v ∨
    ∃ change ∈ r.changesMap, v = change.changeKey ∧ u ∈ change.dependsOn ++ change.resolvedDeps
  := by
  unfold ChangeSetResolver.graph
  generalize r.g = g
  induction r.changesMap generalizing g with
  | nil => simp
  | cons change changes ih =>
      rw [List.foldl_cons, ih, FiniteDigraph.edge_addDependent, List.exists_mem_cons_iff, or_assoc]

theorem Tracks.within_graph (tracks : Tracks own conditional r)
    (within : Within (own ++ conditional) r.g) :
  Within (own ++ conditional) r.graph
  := by
  constructor
  · intro v hv
    rcases mem_vertices_graph.mp hv with h | h
    · apply within.vertices v h
    · obtain ⟨change, hchange, rfl⟩ := List.mem_map.mp h
      exact List.mem_map_of_mem (tracks.mem_of_mem_changesMap hchange).1
  · intro u v edge
    rcases edge_graph.mp edge with h | ⟨change, hchange, rfl, hu⟩
    · apply within.edges u v h
    · obtain ⟨hrequest, hdeps⟩ := tracks.mem_of_mem_changesMap hchange
      refine ⟨_, hrequest, rfl, ?_⟩
      rcases List.mem_append.mp hu with h | h
      · apply List.mem_append_left _ h
      · apply List.mem_append_right _ (hdeps h)

/-- What the resolved changes are: the changes of a graph, in an order of that graph. -/
structure IsResolution (own conditional : List RequestedFileChange) (dag : Dag ChangeKey)
    (g : FiniteDigraph ChangeKey) (resolved : List FileChange) : Prop where
  within : Within (own ++ conditional) g
  vertices : ∀ f ∈ own, f.changeKey ∈ g.vertices
  edges : ∀ f ∈ own, ∀ dep ∈ f.dependsOn, g.Edge dep f.changeKey
  keys : resolved.map (·.changeKey) = (dag.topologicalOrder g).filter (· ∈ g.vertices)
  requests : ∀ change ∈ resolved, change.toRequestedFileChange ∈ own ++ conditional

variable (nodup_own : (own.map (·.changeKey)).Nodup)
  (nodup_conditional : (conditional.map (·.changeKey)).Nodup)
  (found : DependenciesFound own conditional)
  (acyclic : ∀ g, Within (own ++ conditional) g → g.Acyclic)
  (lawful : ∀ initial, (dag initial).Lawful)

include nodup_own nodup_conditional found acyclic lawful

variable (fs) in
/-- A pass resolves the changes of its graph in the order of the library. -/
theorem resolvePass_resolves (initial : Bool) (tracks : Tracks own conditional r)
    (within : Within (own ++ conditional) r.g) :
  ∃ r', r.resolvePass fs dag initial = .ok r' ∧
    Resolves own conditional initial { r with g := r.graph, resolvedChanges := [] }
      ((dag initial).topologicalOrder r.graph) r'
  := by
  have hacyclic : r.graph.Acyclic := acyclic _ (tracks.within_graph within)
  have hcycles : (dag initial).cycles r.graph = [] := by
    rw [(lawful initial).cycles_nil]
    exact fun u v forth back => absurd (forth.trans back) (hacyclic u)
  let ordered : ChangeSetResolver :=
    { r with
      g := r.graph
      orderedChanges := (dag initial).topologicalOrder r.graph
      resolvedChanges := [] }
  have htracks : Tracks own conditional ordered :=
    ⟨tracks.own_eq, tracks.conditional_eq, tracks.resolvedDeps, tracks.triggered, tracks.quiet⟩
  obtain ⟨r', hrun, hresolves⟩ := foldlM_resolveChange_resolves fs nodup_own
    nodup_conditional found initial ordered.orderedChanges htracks
  use r'
  constructor
  · unfold ChangeSetResolver.resolvePass ChangeSetResolver.toOrderedChanges
    rw [hcycles]
    apply hrun
  · exact ⟨hresolves.tracks, hresolves.g, hresolves.grows, hresolves.settled,
      hresolves.resolved, hresolves.requests⟩

omit nodup_own nodup_conditional found acyclic lawful in
/-- A pass that triggers nothing resolves the changes of its graph. -/
theorem Resolves.isResolution {initial : Bool} (tracks : Tracks own conditional r)
    (resolves : Resolves own conditional initial { r with g := r.graph, resolvedChanges := [] }
      ((dag initial).topologicalOrder r.graph) r')
    (same : r'.triggered = r.triggered) (within : Within (own ++ conditional) r.g)
    (subset : ∀ v ∈ r.g.vertices, inMap own r.triggered v = true)
    (vertices : ∀ f ∈ own, f.changeKey ∈ r.graph.vertices)
    (edges : ∀ f ∈ own, ∀ dep ∈ f.dependsOn, r.graph.Edge dep f.changeKey) :
  IsResolution own conditional (dag initial) r.graph r'.resolvedChanges
  := by
  constructor
  · apply tracks.within_graph within
  · apply vertices
  · apply edges
  · rw [resolves.resolved same, List.map_nil, List.nil_append]
    apply List.filter_congr
    intro v _
    have hmem : inMap own r.triggered v = true ↔ v ∈ r.graph.vertices := by
      rw [mem_vertices_graph, tracks.mem_keys_changesMap]
      exact ⟨Or.inr, fun h => h.elim (subset v) id⟩
    rw [Bool.eq_iff_iff, hmem, decide_eq_true_eq]
  · intro change hchange
    apply (resolves.requests change hchange).resolve_left nofun

variable (fs) in
/-- The passes end with the changes in an order of a graph that has all unconditional changes
and their dependencies. -/
theorem resolveChanges_ok (tracks : Tracks own conditional r) (hg : r.g = .empty)
    (htriggered : r.triggered = []) :
  ∃ initial r', r.resolveChanges fs dag = .ok r' ∧
    IsResolution own conditional (dag initial) r'.g r'.resolvedChanges
  := by
  have within : Within (own ++ conditional) r.g := by
    rw [hg]
    exact ⟨fun v hv => absurd hv (Finset.notMem_empty v),
      fun u v edge => absurd edge FiniteDigraph.edge_empty⟩
  have hown : ∀ f ∈ own, ∃ change ∈ r.changesMap, change.toRequestedFileChange = f := by
    rw [← tracks.own_eq]
    intro f hf
    obtain ⟨change, hchange, rfl⟩ := List.mem_map.mp hf
    use change
    simp [ChangeSetResolver.changesMap, htriggered, hchange]
  have hvertices : ∀ f ∈ own, f.changeKey ∈ r.graph.vertices := by
    intro f hf
    obtain ⟨change, hchange, rfl⟩ := hown f hf
    exact mem_vertices_graph.mpr (Or.inr (List.mem_map_of_mem hchange))
  have hedges : ∀ f ∈ own, ∀ dep ∈ f.dependsOn, r.graph.Edge dep f.changeKey := by
    intro f hf dep hdep
    obtain ⟨change, hchange, rfl⟩ := hown f hf
    exact edge_graph.mpr (Or.inr ⟨change, hchange, rfl, List.mem_append_left _ hdep⟩)
  obtain ⟨r₁, hpass, hfirst⟩ := resolvePass_resolves fs nodup_own nodup_conditional found
    acyclic lawful true tracks within
  cases hadditional : r₁.additionalResolveRequired with
  | false =>
      refine ⟨true, r₁, ?_, ?_⟩
      · unfold ChangeSetResolver.resolveChanges
        rw [hpass]
        dsimp only [bind, Except.bind]
        rw [if_neg (by simp [hadditional])]
        rfl
      · rw [hfirst.g]
        apply hfirst.isResolution tracks _ within _ hvertices hedges
        · rw [htriggered]
          apply hfirst.tracks.quiet hadditional
        · rw [hg]
          exact fun v hv => absurd hv (Finset.notMem_empty v)
  | true =>
      have hwithin₁ : Within (own ++ conditional) r₁.g := by
        rw [hfirst.g]
        apply tracks.within_graph within
      obtain ⟨r₂, hpass₂, hsecond⟩ := resolvePass_resolves fs nodup_own
        nodup_conditional found acyclic lawful false hfirst.tracks hwithin₁
      refine ⟨false, r₂, ?_, ?_⟩
      · unfold ChangeSetResolver.resolveChanges
        rw [hpass]
        dsimp only [bind, Except.bind]
        rw [if_pos hadditional]
        apply hpass₂
      · rw [hsecond.g]
        apply hsecond.isResolution hfirst.tracks (hsecond.settled rfl) hwithin₁
        · rw [hfirst.g]
          intro v hv
          rcases mem_vertices_graph.mp hv with h | h
          · rw [hg] at h
            exact absurd h (Finset.notMem_empty v)
          · have hmem := tracks.mem_keys_changesMap.mp h
            rw [inMap, htriggered, decide_eq_true_eq] at hmem
            rw [inMap, decide_eq_true_eq]
            exact Or.inr (hmem.resolve_left List.not_mem_nil)
        · intro f hf
          apply mem_vertices_graph.mpr
          left
          rw [hfirst.g]
          apply hvertices f hf
        · intro f hf dep hdep
          apply edge_graph.mpr
          left
          rw [hfirst.g]
          apply hedges f hf dep hdep

end Graphs

/-! ### The maps -/

section Maps

variable {changes : ChangeSet} {r : ChangeSetResolver}

def unconditionalRequests (changes : ChangeSet) : ChangeSet :=
  changes.filter fun f => ¬ f.IsConditional

def conditionalRequests (changes : ChangeSet) : ChangeSet :=
  changes.filter fun f => f.IsConditional

theorem changeKey_notMem {front back : List FileChange} {change : FileChange}
    (h : ((front ++ [change] ++ back).map (·.changeKey)).Nodup) :
  change.changeKey ∉ front.map (·.changeKey)
  := by
  rw [List.append_assoc, List.map_append] at h
  exact fun hmem => List.disjoint_of_nodup_append h hmem (by simp)

/-- A conditional change with a new key is entered. -/
theorem addChange_conditional {change : FileChange} (h : change.IsConditional)
    (hkey : change.changeKey ∉ r.conditionalChangesMap.map (·.changeKey)) :
  r.addChange change =
    .ok { r with conditionalChangesMap := r.conditionalChangesMap ++ [change] }
  := by
  have hfilter : r.conditionalChangesMap.filter (·.changeKey ≠ change.changeKey) =
      r.conditionalChangesMap := by
    apply List.filter_eq_self.mpr
    intro other hother
    apply decide_eq_true
    exact fun heq => hkey (heq ▸ List.mem_map_of_mem hother)
  rw [ChangeSetResolver.addChange, if_pos h, hfilter]

/-- An unconditional change with a new key is entered. -/
theorem addChange_unconditional {change : FileChange} (h : ¬ change.IsConditional)
    (hkey : change.changeKey ∉ r.unconditionalChanges.map (·.changeKey)) :
  r.addChange change =
    .ok { r with unconditionalChanges := r.unconditionalChanges ++ [change] }
  := by
  rw [ChangeSetResolver.addChange, if_neg h, findChange_eq_none.mpr hkey]

/-- Requests with different keys are all entered into the maps. -/
theorem foldlM_addChange
    (own : ((r.unconditionalChanges ++ (unconditionalRequests changes).map toFileChange).map
      (·.changeKey)).Nodup)
    (conditional : ((r.conditionalChangesMap ++ (conditionalRequests changes).map toFileChange).map
      (·.changeKey)).Nodup) :
  changes.foldlM (fun r change => r.addChange (toFileChange change)) r = .ok { r with
    unconditionalChanges :=
      r.unconditionalChanges ++ (unconditionalRequests changes).map toFileChange
    conditionalChangesMap :=
      r.conditionalChangesMap ++ (conditionalRequests changes).map toFileChange }
  := by
  induction changes generalizing r with
  | nil => simp [unconditionalRequests, conditionalRequests, pure, Except.pure]
  | cons f changes ih =>
      rw [List.foldlM_cons]
      by_cases hf : f.IsConditional
      · have hown : unconditionalRequests (f :: changes) = unconditionalRequests changes := by
          simp [unconditionalRequests, hf]
        have hconditional : conditionalRequests (f :: changes) =
            f :: conditionalRequests changes := by
          simp [conditionalRequests, hf]
        rw [hown] at own ⊢
        rw [hconditional, List.map_cons, List.append_cons] at conditional ⊢
        have hstep : r.addChange (toFileChange f) = .ok { r with
            conditionalChangesMap := r.conditionalChangesMap ++ [toFileChange f] } := by
          apply addChange_conditional hf (changeKey_notMem conditional)
        rw [hstep]
        apply ih (r := { r with
          conditionalChangesMap := r.conditionalChangesMap ++ [toFileChange f] }) own conditional
      · have hown : unconditionalRequests (f :: changes) = f :: unconditionalRequests changes := by
          simp [unconditionalRequests, hf]
        have hconditional : conditionalRequests (f :: changes) = conditionalRequests changes := by
          simp [conditionalRequests, hf]
        rw [hconditional] at conditional ⊢
        rw [hown, List.map_cons, List.append_cons] at own ⊢
        have hstep : r.addChange (toFileChange f) = .ok { r with
            unconditionalChanges := r.unconditionalChanges ++ [toFileChange f] } := by
          apply addChange_unconditional hf (changeKey_notMem own)
        rw [hstep]
        apply ih (r := { r with
          unconditionalChanges := r.unconditionalChanges ++ [toFileChange f] }) own conditional

/-- The maps of a change set whose keys are different. -/
theorem buildMaps_ok (nodup_own : ((unconditionalRequests changes).map (·.changeKey)).Nodup)
    (nodup_conditional : ((conditionalRequests changes).map (·.changeKey)).Nodup) :
  ∃ r, ChangeSetResolver.buildMaps changes = .ok r ∧
    Tracks (unconditionalRequests changes) (conditionalRequests changes) r ∧ r.g = .empty ∧
    r.triggered = [] ∧ r.resolvedChanges = [] ∧
    ∀ change ∈ r.unconditionalChanges ++ r.conditionalChangesMap, change.checked = false
  := by
  let r : ChangeSetResolver :=
    { unconditionalChanges := (unconditionalRequests changes).map toFileChange
      conditionalChangesMap := (conditionalRequests changes).map toFileChange }
  have hrequests : ∀ requests : ChangeSet,
      (requests.map toFileChange).map (·.toRequestedFileChange) = requests := by
    intro requests
    rw [List.map_map]
    apply List.map_id
  have hkeys : ∀ requests : ChangeSet,
      (requests.map toFileChange).map (·.changeKey) = requests.map (·.changeKey) := by
    intro requests
    rw [List.map_map]
    rfl
  refine ⟨r, ?_, ⟨hrequests _, hrequests _, ?_, nofun, fun _ => rfl⟩, rfl, rfl, rfl, ?_⟩
  · apply foldlM_addChange
    · rw [List.nil_append, hkeys]
      apply nodup_own
    · rw [List.nil_append, hkeys]
      apply nodup_conditional
  · intro change hchange
    rw [← List.map_append] at hchange
    obtain ⟨f, -, rfl⟩ := List.mem_map.mp hchange
    apply List.nil_subset
  · intro change hchange
    rw [← List.map_append] at hchange
    obtain ⟨f, -, rfl⟩ := List.mem_map.mp hchange
    rfl

/-- The keys of a change set are different, the changes that are to be made before others are
there, and the dependencies make no cycle. -/
structure Acceptable (changes : ChangeSet) : Prop where
  nodup_own : ((unconditionalRequests changes).map (·.changeKey)).Nodup
  nodup_conditional : ((conditionalRequests changes).map (·.changeKey)).Nodup
  found : DependenciesFound (unconditionalRequests changes) (conditionalRequests changes)
  acyclic : ∀ g, Within (unconditionalRequests changes ++ conditionalRequests changes) g →
    g.Acyclic

/-- An acceptable change set is accepted. -/
theorem Acceptable.getChanges_ok {dag : Bool → Dag ChangeKey} (h : Acceptable changes)
    (fs : FileSystem) (lawful : ∀ initial, (dag initial).Lawful) :
  ∃ initial g resolved, getChanges dag fs changes = .ok resolved ∧
    IsResolution (unconditionalRequests changes) (conditionalRequests changes) (dag initial) g
      resolved
  := by
  obtain ⟨r, hbuild, htracks, hg, htriggered, -⟩ := buildMaps_ok h.nodup_own h.nodup_conditional
  obtain ⟨initial, r', hrun, hresolution⟩ := resolveChanges_ok fs h.nodup_own
    h.nodup_conditional h.found h.acyclic lawful htracks hg htriggered
  refine ⟨initial, r'.g, r'.resolvedChanges, ?_, hresolution⟩
  unfold getChanges
  rw [hbuild]
  dsimp only [bind, Except.bind]
  rw [hrun]
  rfl

end Maps

end JetKvm.UsbPlan
