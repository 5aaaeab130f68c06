import Mathlib.Data.List.Induction

/-!
# Labelled transition systems

Runs of a labelled transition system carry the list of the transitions they took, so
that a property of a run may speak about its last state, about its actions, or about
each of its steps. An invariant need only be preserved by the transitions of the run,
which is what lets a theorem about the runs that meet a condition be proved by one
step lemma.
-/

/-- A labelled transition system: `step s a t` says that the action `a` may lead from
the state `s` to the state `t`. -/
structure Lts (State Action : Type*) where
  step : State → Action → State → Prop

namespace Lts

variable {State Action Observation : Type*}

/-- A transition that was taken. -/
structure Transition (State Action : Type*) where
  before : State
  action : Action
  after : State

/-- `L.Run s tr t` says that the transitions `tr`, oldest first, lead from `s` to `t`. -/
inductive Run (L : Lts State Action) (s : State) :
    List (Transition State Action) → State → Prop
  | nil : Run L s [] s
  | snoc {tr : List (Transition State Action)} {t u : State} {a : Action}
      (run : Run L s tr t) (step : L.step t a u) : Run L s (tr ++ [⟨t, a, u⟩]) u

variable {L : Lts State Action} {s t u : State} {tr tr' : List (Transition State Action)}

/-- A predicate that holds initially and is preserved by every transition of a run holds
at the end of the run. -/
theorem Run.invariant {I : State → Prop} (run : L.Run s tr t) (init : I s)
    (preserved : ∀ e ∈ tr, I e.before → L.step e.before e.action e.after → I e.after) :
  I t
  := by
  induction run with
  | nil => apply init
  | snoc run step ih =>
      apply preserved _ (List.mem_append_right _ (List.mem_singleton_self _)) _ step
      apply ih
      intro e he
      apply preserved e (List.mem_append_left _ he)

/-- A predicate that holds initially and is preserved by every transition of a run holds
before every transition of the run. -/
theorem Run.invariant_before {I : State → Prop} (run : L.Run s tr t) (init : I s)
    (preserved : ∀ e ∈ tr, I e.before → L.step e.before e.action e.after → I e.after) :
  ∀ e ∈ tr, I e.before
  := by
  induction run with
  | nil =>
      intro e he
      cases he
  | @snoc tr _ _ _ run step ih =>
      have earlier : ∀ e ∈ tr, I e.before → L.step e.before e.action e.after → I e.after :=
        fun e he => preserved e (List.mem_append_left _ he)
      intro e he
      rcases List.mem_append.mp he with he | he
      · apply ih earlier e he
      · obtain rfl := List.mem_singleton.mp he
        apply run.invariant init earlier

/-- Every transition of a run is a step of the system. -/
theorem Run.step_of_mem (run : L.Run s tr t) {e : Transition State Action} (he : e ∈ tr) :
  L.step e.before e.action e.after
  := by
  induction run with
  | nil => cases he
  | snoc run step ih =>
      rcases List.mem_append.mp he with he | he
      · apply ih he
      · obtain rfl := List.mem_singleton.mp he
        apply step

/-- The last transition of a run leads to its end. -/
theorem Run.after_of_getLast? (run : L.Run s tr t) {e : Transition State Action}
    (he : tr.getLast? = some e) :
  e.after = t
  := by
  cases run with
  | nil => cases he
  | snoc run step =>
      rw [List.getLast?_concat] at he
      obtain rfl := Option.some.inj he
      rfl

/-- When two properties of the transitions of a run agree where an invariant holds, and the second
of them preserves it, they agree on the run if the invariant holds where it starts. -/
theorem Run.forall_iff_of_mem {I : State → Prop} {P Q : Transition State Action → Prop}
    (run : L.Run s tr t) (init : I s)
    (agree : ∀ e ∈ tr, I e.before → L.step e.before e.action e.after → (P e ↔ Q e))
    (preserved : ∀ e ∈ tr, Q e → I e.before → L.step e.before e.action e.after → I e.after) :
  (∀ e ∈ tr, P e) ↔ ∀ e ∈ tr, Q e
  := by
  induction run with
  | nil => simp
  | @snoc tr t u a run step ih =>
      rw [List.forall_mem_append, List.forall_mem_singleton] at agree preserved
      have hlast : (∀ e ∈ tr, Q e) → (P ⟨t, a, u⟩ ↔ Q ⟨t, a, u⟩) := by
        intro hQ
        apply agree.2 _ step
        apply run.invariant init
        intro e he
        apply preserved.1 e he (hQ e he)
      rw [List.forall_mem_append, List.forall_mem_append, List.forall_mem_singleton,
        List.forall_mem_singleton, ih agree.1 preserved.1, and_congr_right hlast]

/-- When two properties of transitions agree where an invariant holds, and the second of them
preserves it, they agree on the runs from a state in which it holds. -/
theorem Run.forall_iff {I : State → Prop} {P Q : Transition State Action → Prop}
    (run : L.Run s tr t) (init : I s)
    (agree : ∀ e, I e.before → L.step e.before e.action e.after → (P e ↔ Q e))
    (preserved : ∀ e, Q e → I e.before → L.step e.before e.action e.after → I e.after) :
  (∀ e ∈ tr, P e) ↔ ∀ e ∈ tr, Q e
  := run.forall_iff_of_mem init (fun e _ => agree e) fun e _ => preserved e

/-- Two runs, the second starting where the first ends, make one run. -/
theorem Run.append (first : L.Run s tr t) (second : L.Run t tr' u) :
  L.Run s (tr ++ tr') u
  := by
  induction second with
  | nil =>
      rw [List.append_nil]
      apply first
  | snoc _ step ih =>
      rw [← List.append_assoc]
      apply Run.snoc ih step

/-- A run without transitions stays where it is. -/
theorem run_nil (run : L.Run s [] t) :
  t = s
  := by
  generalize hnil : [] = tr at run
  cases run with
  | nil => rfl
  | snoc => simp at hnil

/-- A run begins with its first transition. -/
theorem run_cons {e : Transition State Action} (run : L.Run s (e :: tr) u) :
  e.before = s ∧ L.step s e.action e.after ∧ L.Run e.after tr u
  := by
  generalize hall : e :: tr = all at run
  induction run generalizing tr with
  | nil => cases hall
  | @snoc front t u a run step ih =>
      cases tr using List.reverseRecOn with
      | nil =>
          cases front with
          | nil =>
              obtain rfl := List.singleton_inj.mp hall
              obtain rfl := run_nil run
              exact ⟨rfl, step, .nil⟩
          | cons => simp at hall
      | append_singleton tr last =>
          rw [← List.cons_append] at hall
          obtain ⟨rfl, hlast⟩ := List.append_inj' hall rfl
          obtain rfl := List.singleton_inj.mp hlast
          obtain ⟨hbefore, hstep, hrest⟩ := ih rfl
          exact ⟨hbefore, hstep, hrest.snoc step⟩

/-- The two parts of a run are runs. -/
theorem run_append (run : L.Run s (tr ++ tr') u) :
  ∃ t, L.Run s tr t ∧ L.Run t tr' u
  := by
  induction tr generalizing s with
  | nil => exact ⟨s, .nil, run⟩
  | cons e tr ih =>
      obtain ⟨rfl, hstep, hrest⟩ := run_cons run
      obtain ⟨t, hfirst, hsecond⟩ := ih hrest
      exact ⟨t, (Run.nil.snoc hstep).append hfirst, hsecond⟩

/-- What holds of the actions of a run holds of the action of each of its transitions. -/
theorem forall_action (P : Action → Prop) {actions : List Action}
    (hactions : tr.map Transition.action = actions) (h : ∀ a ∈ actions, P a) :
  ∀ e ∈ tr, P e.action
  := by
  intro e he
  apply h
  rw [← hactions]
  apply List.mem_map_of_mem he

/-- The run of a system is a run of every system that allows its steps. -/
theorem Run.mono {M : Lts State Action} (run : L.Run s tr t)
    (h : ∀ s a t, L.step s a t → M.step s a t) :
  M.Run s tr t
  := by
  induction run with
  | nil => apply Run.nil
  | snoc _ step ih => apply ih.snoc (h _ _ _ step)

/-! ### Simulations -/

section Simulation

variable {State' Action' : Type*}

/-- A transition, seen through `f` on states and `g` on actions. -/
def Transition.map (f : State → State') (g : State → Action → Action')
    (e : Transition State Action) : Transition State' Action' where
  before := f e.before
  action := g e.before e.action
  after := f e.after

/-- When the steps of a run are steps of the system `M`, seen through `f` and `g`, the run is a
run of `M`. -/
theorem Run.map {M : Lts State' Action'} {f : State → State'} {g : State → Action → Action'}
    (run : L.Run s tr t)
    (h : ∀ e ∈ tr, L.step e.before e.action e.after →
      M.step (f e.before) (g e.before e.action) (f e.after)) :
  M.Run (f s) (tr.map (Transition.map f g)) (f t)
  := by
  induction run with
  | nil => apply Run.nil
  | snoc run step ih =>
      rw [List.map_append]
      apply Run.snoc
      · apply ih
        intro e he
        apply h e (List.mem_append_left _ he)
      · apply h _ (List.mem_append_right _ (List.mem_singleton_self _)) step

end Simulation

/-! ### Systems given by a partial function -/

/-- The system whose steps are the defined values of `f`. -/
def ofStep (f : State → Action → Option State) : Lts State Action where
  step s a t := f s a = some t

/-- The state the actions lead to, when each of them is defined in turn. -/
def play (f : State → Action → Option State) (s : State) : List Action → Option State
  | [] => some s
  | a :: rest => (f s a).bind fun t => play f t rest

/-- Actions that can be played in turn are the actions of a run. -/
theorem exists_run_of_play {f : State → Action → Option State} {actions : List Action}
    (h : play f s actions = some t) :
  ∃ tr, (ofStep f).Run s tr t ∧ tr.map Transition.action = actions
  := by
  induction actions generalizing s with
  | nil =>
      obtain rfl := Option.some.inj h
      use [], .nil
      rfl
  | cons a rest ih =>
      obtain ⟨next, hstep, hrest⟩ := Option.bind_eq_some_iff.mp h
      obtain ⟨tr, run, hactions⟩ := ih hrest
      use [⟨s, a, next⟩] ++ tr, Run.append (Run.snoc .nil hstep) run
      simp [hactions]

/-- When what is observed after playing the actions is `o`, there is a run with these
actions whose last state is observed as `o`. -/
theorem exists_run_of_observe (f : State → Action → Option State) (s : State)
    (actions : List Action) (observe : State → Observation) {o : Observation}
    (h : (play f s actions).map observe = some o) :
  ∃ tr t, (ofStep f).Run s tr t ∧ tr.map Transition.action = actions ∧ observe t = o
  := by
  obtain ⟨t, hplay, hobserve⟩ := Option.map_eq_some_iff.mp h
  obtain ⟨tr, run, hactions⟩ := exists_run_of_play hplay
  use tr, t, run, hactions, hobserve

/-- The steps of `f` that meet the condition `P`. -/
def restrict (f : State → Action → Option State) (P : State → Action → Prop)
    [∀ s a, Decidable (P s a)] (s : State) (a : Action) : Option State :=
  if P s a then f s a else none

/-- When the actions can be played and every step meets the condition `P`, there is a run
with these actions all of whose steps meet it. -/
theorem exists_run_of_restrict (f : State → Action → Option State)
    (P : State → Action → Prop) [∀ s a, Decidable (P s a)] (s : State)
    (actions : List Action) (observe : State → Observation) {o : Observation}
    (h : (play (restrict f P) s actions).map observe = some o) :
  ∃ tr t, (ofStep f).Run s tr t ∧ tr.map Transition.action = actions ∧
    (∀ e ∈ tr, P e.before e.action) ∧ observe t = o
  := by
  obtain ⟨tr, t, run, hactions, hobserve⟩ := exists_run_of_observe _ s actions observe h
  have hsteps : ∀ s a t, (ofStep (restrict f P)).step s a t → P s a ∧ f s a = some t :=
    fun _ _ _ step => Option.ite_none_right_eq_some.mp step
  use tr, t, run.mono fun s a t step => (hsteps s a t step).2
  use hactions
  constructor
  · intro e he
    exact (hsteps _ _ _ (run.step_of_mem he)).1
  · apply hobserve

/-- The transitions of the actions, when each of them is defined in turn. -/
def transitions (f : State → Action → Option State) (s : State) :
    List Action → Option (List (Transition State Action))
  | [] => some []
  | a :: rest => (f s a).bind fun t => (transitions f t rest).map (⟨s, a, t⟩ :: ·)

theorem exists_run_of_transitions {f : State → Action → Option State} {actions : List Action}
    (h : transitions f s actions = some tr) :
  ∃ t, (ofStep f).Run s tr t ∧ tr.map Transition.action = actions
  := by
  induction actions generalizing s tr with
  | nil =>
      obtain rfl := Option.some.inj h
      exact ⟨s, .nil, rfl⟩
  | cons a rest ih =>
      obtain ⟨next, hstep, hrest⟩ := Option.bind_eq_some_iff.mp h
      obtain ⟨tr, htr, rfl⟩ := Option.map_eq_some_iff.mp hrest
      obtain ⟨t, run, hactions⟩ := ih htr
      use t, (Run.nil.snoc hstep).append run
      rw [List.map_cons, hactions]

/-- When what is observed of the transitions of the actions is `o`, there is a run with these
actions whose transitions are observed as `o`. -/
theorem exists_run_of_observe_transitions (f : State → Action → Option State) (s : State)
    (actions : List Action) (observe : List (Transition State Action) → Observation)
    {o : Observation} (h : (transitions f s actions).map observe = some o) :
  ∃ tr t, (ofStep f).Run s tr t ∧ tr.map Transition.action = actions ∧ observe tr = o
  := by
  obtain ⟨tr, htr, hobserve⟩ := Option.map_eq_some_iff.mp h
  obtain ⟨t, run, hactions⟩ := exists_run_of_transitions htr
  exact ⟨tr, t, run, hactions, hobserve⟩

end Lts
