import JetKvm.Library.Log
import Mathlib.Data.Finset.Sort
import Mathlib.Logic.Relation
import Mathlib.Order.Extension.Linear

/-!
# Topological orders of finite directed graphs

A list of the vertices is a topological order when every edge leads from an earlier vertex
to a later one. Acyclic graphs have topological orders. When the vertices can be listed so
that each one depends only on vertices listed before it, the graph is acyclic and that list
is a topological order.
-/

/-! ### The order of a list -/

section Before

variable {V : Type*} {l : List V} {u v : V}

/-- The item `u` occurs in the list before the item `v`. -/
def Before (l : List V) (u v : V) : Prop :=
  [u, v].Sublist l

theorem Before.mem (h : Before l u v) : u ∈ l ∧ v ∈ l
  := ⟨h.subset (by simp), h.subset (by simp)⟩

/-- What is selected from a list comes in the order of the list. -/
theorem Before.filter {p : V → Bool} (h : Before l u v) (hu : p u = true) (hv : p v = true) :
  Before (l.filter p) u v
  := by
  have hselected := List.Sublist.filter p h
  rw [List.filter_cons_of_pos hu, List.filter_cons_of_pos hv] at hselected
  apply hselected

/-- What is in the first of two lists comes before what is in the second. -/
theorem before_append {l' : List V} (hu : u ∈ l) (hv : v ∈ l') : Before (l ++ l') u v
  := List.Sublist.append (List.singleton_sublist.mpr hu) (List.singleton_sublist.mpr hv)

theorem Before.append_left {l' : List V} (h : Before l u v) : Before (l' ++ l) u v
  := List.Sublist.trans h (List.sublist_append_right _ _)

theorem Before.append_right {l' : List V} (h : Before l u v) : Before (l ++ l') u v
  := List.Sublist.trans h (List.sublist_append_left _ _)

theorem before_cons {x : V} : Before (x :: l) u v ↔ Before l u v ∨ u = x ∧ v ∈ l
  := by
  rw [Before, List.sublist_cons_iff]
  constructor
  · rintro (h | ⟨rest, heq, hrest⟩)
    · exact Or.inl h
    · obtain ⟨rfl, rfl⟩ := List.cons.inj heq
      exact Or.inr ⟨rfl, List.singleton_sublist.mp hrest⟩
  · rintro (h | ⟨rfl, hv⟩)
    · exact Or.inl h
    · exact Or.inr ⟨[v], rfl, List.singleton_sublist.mpr hv⟩

/-- What comes before has the lower index. -/
theorem Before.idxOf_lt [DecidableEq V] (nodup : l.Nodup) (h : Before l u v) :
  l.idxOf u < l.idxOf v
  := by
  induction l with
  | nil => cases h
  | cons x l ih =>
      obtain ⟨hx, nodup⟩ := List.nodup_cons.mp nodup
      have hne : ∀ {w}, w ∈ l → x ≠ w := fun hw heq => hx (heq ▸ hw)
      rcases before_cons.mp h with h | ⟨rfl, hv⟩
      · rw [List.idxOf_cons_ne _ (hne h.mem.1), List.idxOf_cons_ne _ (hne h.mem.2)]
        apply Nat.succ_lt_succ (ih nodup h)
      · rw [List.idxOf_cons_self, List.idxOf_cons_ne _ (hne hv)]
        apply Nat.succ_pos

/-- In a list without repetition, no two items come before each other. -/
theorem Before.asymm (nodup : l.Nodup) (h : Before l u v) : ¬ Before l v u
  := by
  classical
  exact fun h' => Nat.lt_asymm (h.idxOf_lt nodup) (h'.idxOf_lt nodup)

/-- Of two items of a list, one comes before the other. -/
theorem before_or_before (hu : u ∈ l) (hv : v ∈ l) (hne : u ≠ v) :
  Before l u v ∨ Before l v u
  := by
  induction l with
  | nil => cases hu
  | cons x l ih =>
      rw [before_cons, before_cons]
      rcases List.mem_cons.mp hu with rfl | hu
      · left
        right
        exact ⟨rfl, (List.mem_cons.mp hv).resolve_left hne.symm⟩
      · rcases List.mem_cons.mp hv with rfl | hv
        · exact Or.inr (Or.inr ⟨rfl, (List.mem_cons.mp hu).resolve_left hne⟩)
        · exact (ih hu hv).imp Or.inl Or.inl

theorem Before.trans {w : V} (nodup : l.Nodup) (first : Before l u v) (second : Before l v w) :
  Before l u w
  := by
  have hne : u ≠ w := by
    rintro rfl
    apply first.asymm nodup second
  apply (before_or_before first.mem.1 second.mem.2 hne).resolve_right
  classical
  intro h
  have hcycle := ((h.idxOf_lt nodup).trans (first.idxOf_lt nodup)).trans (second.idxOf_lt nodup)
  exact Nat.lt_irrefl _ hcycle

/-- Items of a sorted list come in the order by which it is sorted. -/
theorem before_of_pairwise {r : V → V → Prop} [Std.Antisymm r] (sorted : l.Pairwise r)
    (hu : u ∈ l) (hv : v ∈ l) (hne : u ≠ v) (h : r u v) :
  Before l u v
  := by
  apply (before_or_before hu hv hne).resolve_right
  intro hbefore
  apply hne
  apply Std.Antisymm.antisymm u v h
  apply List.pairwise_iff_forall_sublist.mp sorted hbefore

/-- What comes before an item of a list without repetitions is in front of it. -/
theorem Before.mem_front {front back : List V} (nodup : (front ++ v :: back).Nodup)
    (h : Before (front ++ v :: back) u v) :
  u ∈ front
  := by
  obtain hu | hu := List.mem_append.mp h.mem.1
  · exact hu
  · obtain rfl | hu := List.mem_cons.mp hu
    · exact absurd h (h.asymm nodup)
    · have hback : Before (front ++ v :: back) v u :=
        (before_cons.mpr (Or.inr ⟨rfl, hu⟩)).append_left
      exact absurd hback (h.asymm nodup)

end Before

/-! ### Graphs -/

/-- A finite directed graph. The ends of an edge need not be vertices. -/
@[ext]
structure FiniteDigraph (V : Type*) where
  vertices : Finset V
  edges : Finset (V × V)

namespace FiniteDigraph

variable {V : Type*} (g : FiniteDigraph V)

/-- The graph without vertices and edges. -/
def empty : FiniteDigraph V :=
  ⟨∅, ∅⟩

def Edge (u v : V) : Prop :=
  (u, v) ∈ g.edges

/-- No path leads from a vertex to itself. -/
def Acyclic : Prop :=
  ∀ v, ¬ Relation.TransGen g.Edge v v

/-- The list holds every vertex once, and perhaps other ends of edges, and every edge leads
from an earlier item to a later one. -/
structure IsTopologicalOrder (order : List V) : Prop where
  nodup : order.Nodup
  complete : ∀ v ∈ g.vertices, v ∈ order
  sound : ∀ v ∈ order, v ∈ g.vertices ∨ ∃ u, g.Edge u v ∨ g.Edge v u
  respects : ∀ u v, g.Edge u v → u ∈ order → v ∈ order → Before order u v

/-- A vertex that depends on the given ones is added to the graph. -/
def addDependent [DecidableEq V] (v : V) (dependsOn : List V) : FiniteDigraph V where
  vertices := insert v g.vertices
  edges := g.edges ∪ (dependsOn.map fun u => (u, v)).toFinset

variable {g} {u v w : V} {dependsOn : List V}

@[simp]
theorem edge_empty : ¬ (empty : FiniteDigraph V).Edge u v
  := Finset.notMem_empty _

@[simp]
theorem mem_vertices_addDependent [DecidableEq V] :
  u ∈ (g.addDependent v dependsOn).vertices ↔ u = v ∨ u ∈ g.vertices
  := Finset.mem_insert

@[simp]
theorem edge_addDependent [DecidableEq V] :
  (g.addDependent w dependsOn).Edge u v ↔ g.Edge u v ∨ v = w ∧ u ∈ dependsOn
  := by
  simp only [Edge, addDependent, Finset.mem_union, List.mem_toFinset, List.mem_map,
    Prod.mk.injEq]
  constructor
  · rintro (h | ⟨u', h, rfl, rfl⟩)
    · exact Or.inl h
    · exact Or.inr ⟨rfl, h⟩
  · rintro (h | ⟨rfl, h⟩)
    · exact Or.inl h
    · exact Or.inr ⟨u, h, rfl, rfl⟩

/-! ### Orders -/

/-- Edges that lead up in rank make no cycle. -/
theorem acyclic_of_rank (rank : V → Nat) (h : ∀ u v, g.Edge u v → rank u < rank v) :
  g.Acyclic
  := by
  have hpath : ∀ u v, Relation.TransGen g.Edge u v → rank u < rank v := by
    intro u v path
    induction path with
    | single edge => apply h _ _ edge
    | tail _ edge ih => apply ih.trans (h _ _ edge)
  exact fun v path => Nat.lt_irrefl _ (hpath v v path)

theorem Acyclic.irrefl (acyclic : g.Acyclic) (v : V) :
  ¬ g.Edge v v
  := fun edge => acyclic v (Relation.TransGen.single edge)

section Entries

/-! A list of entries, each of which names a vertex and what it depends on. -/

variable {entries : List (V × List V)}

/-- Each entry depends only on earlier ones. -/
def DependsBackwards (entries : List (V × List V)) : Prop :=
  Permitted (fun before e => ∀ u ∈ e.2, u ∈ before.map Prod.fst) entries

/-- What an entry depends on is listed before it. -/
theorem before_of_dependsBackwards (backwards : DependsBackwards entries)
    {e : V × List V} (he : e ∈ entries) (hu : u ∈ e.2) :
  Before (entries.map Prod.fst) u e.1
  := by
  obtain ⟨front, back, rfl⟩ := List.append_of_mem he
  have hfront := backwards front e back rfl u hu
  rw [List.map_append, List.map_cons]
  apply List.Sublist.append (List.singleton_sublist.mpr hfront)
  apply List.Sublist.cons_cons
  apply List.nil_sublist

variable (nodup : (entries.map Prod.fst).Nodup) (backwards : DependsBackwards entries)
  (edges : ∀ u v, g.Edge u v → ∃ e ∈ entries, e.1 = v ∧ u ∈ e.2)

include nodup backwards edges

/-- Entries that depend only on earlier ones make no cycle. -/
theorem acyclic_of_dependsBackwards [DecidableEq V] :
  g.Acyclic
  := by
  apply acyclic_of_rank fun v => (entries.map Prod.fst).idxOf v
  intro u v edge
  obtain ⟨e, he, rfl, hu⟩ := edges u v edge
  apply (before_of_dependsBackwards backwards he hu).idxOf_lt nodup

/-- Their vertices are listed in a topological order. -/
theorem isTopologicalOrder_of_dependsBackwards [DecidableEq V]
    (vertices : ∀ v ∈ g.vertices, v ∈ entries.map Prod.fst) :
  g.IsTopologicalOrder ((entries.map Prod.fst).filter (· ∈ g.vertices))
  := by
  constructor
  · apply nodup.filter
  · intro v hv
    exact List.mem_filter.mpr ⟨vertices v hv, decide_eq_true hv⟩
  · intro v hv
    exact Or.inl (of_decide_eq_true (List.mem_filter.mp hv).2)
  · intro u v edge hu hv
    obtain ⟨e, he, rfl, hdep⟩ := edges u v edge
    apply Before.filter (before_of_dependsBackwards backwards he hdep)
    · exact (List.mem_filter.mp hu).2
    · exact (List.mem_filter.mp hv).2

end Entries

/-! ### Existence of topological orders -/

/-- Without cycles, paths both ways lead nowhere. -/
theorem Acyclic.eq_of_paths (acyclic : g.Acyclic)
    (forth : Relation.ReflTransGen g.Edge u v) (back : Relation.ReflTransGen g.Edge v u) :
  u = v
  := by
  rcases Relation.reflTransGen_iff_eq_or_transGen.mp forth with h | path
  · apply h.symm
  · exfalso
    apply acyclic u (path.trans_left back)

/-- An acyclic graph has a topological order. -/
theorem Acyclic.exists_order (acyclic : g.Acyclic) :
  ∃ order, g.IsTopologicalOrder order
  := by
  classical
  have : IsPartialOrder V (Relation.ReflTransGen g.Edge) :=
    { refl := fun _ => Relation.ReflTransGen.refl
      trans := fun _ _ _ => Relation.ReflTransGen.trans
      antisymm := fun _ _ => acyclic.eq_of_paths }
  obtain ⟨s, hs, hextends⟩ := extend_partialOrder (Relation.ReflTransGen g.Edge)
  use g.vertices.sort s
  constructor
  · apply Finset.sort_nodup
  · exact fun v => (Finset.mem_sort s).mpr
  · exact fun v hv => Or.inl ((Finset.mem_sort s).mp hv)
  · intro u v edge hu hv
    apply before_of_pairwise (g.vertices.pairwise_sort s) hu hv
    · rintro rfl
      apply acyclic.irrefl u edge
    · apply hextends u v (Relation.ReflTransGen.single edge)

end FiniteDigraph
