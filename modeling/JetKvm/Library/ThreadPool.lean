import JetKvm.Library.Transition
import Mathlib.Logic.Function.Basic
import Mathlib.Data.List.Induction

/-!
# Interleavings of threads

A pool has a shared state and one local state for each thread. The program of the
threads is a partial function that takes one atomic step of one thread; what the
environment decides in that step is a choice given with it. The runs of a pool are the
interleavings of the steps of its threads. Any type may number the threads, so that a
pool has room for any number of them.

A lock is followed through a pool by two readings: who holds it according to the shared
state, and whether a thread is inside the region it protects. When every step of the
program acquires, releases or leaves the lock alone, the two agree in every run, and at
most one thread is inside.
-/

/-- A shared state and the local state of each thread. -/
structure Pool (Shared Local Thread : Type*) where
  shared : Shared
  threads : Thread → Local

namespace Pool

variable {Shared Local Thread Choice : Type*} [DecidableEq Thread]

/-- The pool after thread `a.1` has taken one step under the choice `a.2`. -/
def advance (exec : Thread → Choice → Shared → Local → Option (Shared × Local))
    (c : Pool Shared Local Thread) (a : Thread × Choice) :
    Option (Pool Shared Local Thread) :=
  (exec a.1 a.2 c.shared (c.threads a.1)).map fun next =>
    ⟨next.1, Function.update c.threads a.1 next.2⟩

/-- The interleavings of the threads that run the program `exec`. -/
def lts (exec : Thread → Choice → Shared → Local → Option (Shared × Local)) :
    Lts (Pool Shared Local Thread) (Thread × Choice) :=
  Lts.ofStep (advance exec)

variable {exec : Thread → Choice → Shared → Local → Option (Shared × Local)}
  {c c' : Pool Shared Local Thread}

/-- A step of a pool is a step of one thread, and the other threads stay where they are. -/
theorem lts_step {a : Thread × Choice} :
  (lts exec).step c a c' ↔ ∃ s l, exec a.1 a.2 c.shared (c.threads a.1) = some (s, l) ∧
    c' = ⟨s, Function.update c.threads a.1 l⟩
  := by
  constructor
  · intro h
    obtain ⟨⟨s, l⟩, hexec, rfl⟩ := Option.map_eq_some_iff.mp h
    use s, l, hexec
  · rintro ⟨s, l, hexec, rfl⟩
    apply Option.map_eq_some_iff.mpr
    use (s, l), hexec

/-- What holds of all threads and of what a step makes of one of them holds afterwards. -/
theorem forall_update {P : Local → Prop} {threads : Thread → Local} {i : Thread} {l : Local}
    (h : ∀ j, P (threads j)) (hl : P l) :
  ∀ j, P (Function.update threads i l j)
  := by
  intro j
  by_cases hj : j = i
  · subst hj
    rwa [Function.update_self]
  · rw [Function.update_of_ne hj]
    apply h

/-- What holds of some thread still holds of some thread after a step that keeps it. -/
theorem exists_update {P : Local → Prop} {threads : Thread → Local} {i : Thread} {l : Local}
    (h : ∃ j, P (threads j)) (hi : P (threads i) → P l) :
  ∃ j, P (Function.update threads i l j)
  := by
  obtain ⟨j, hj⟩ := h
  use j
  by_cases hji : j = i
  · subst hji
    rw [Function.update_self]
    apply hi hj
  · rwa [Function.update_of_ne hji]

/-- What holds of some thread, and not of the one that takes a step, still holds of some
thread afterwards. -/
theorem exists_update_of_not (P : Local → Prop) {threads : Thread → Local} {i : Thread}
    (l : Local) (h : ∃ j, P (threads j)) (hi : ¬ P (threads i)) :
  ∃ j, P (Function.update threads i l j)
  := exists_update h fun hPi => absurd hPi hi

/-- What holds of the thread that takes a step holds of some thread. -/
theorem exists_update_self (P : Local → Prop) {threads : Thread → Local} {l : Local}
    (i : Thread) (h : P l) :
  ∃ j, P (Function.update threads i l j)
  := by
  use i
  rwa [Function.update_self]

/-! ### Locks -/

/-- The lock read by `holder` from the shared state is held by the thread inside the
region described by `inside`, and by no other. -/
def Consistent (holder : Shared → Option Thread) (inside : Local → Prop)
    (c : Pool Shared Local Thread) : Prop :=
  ∀ i, inside (c.threads i) ↔ holder c.shared = some i

/-- Every step of the program leaves the lock alone, acquires it when it is free and
enters the region, or leaves the region and releases the lock. -/
def Locks (exec : Thread → Choice → Shared → Local → Option (Shared × Local))
    (holder : Shared → Option Thread) (inside : Local → Prop) : Prop :=
  ∀ i x s l s' l', exec i x s l = some (s', l') →
    (inside l' ↔ inside l) ∧ holder s' = holder s
      ∨ holder s = none ∧ inside l' ∧ holder s' = some i
      ∨ inside l ∧ ¬ inside l' ∧ holder s' = none

variable {holder : Shared → Option Thread} {inside : Local → Prop}

omit [DecidableEq Thread] in
/-- At most one thread is inside the region of a consistent lock. -/
theorem Consistent.unique (h : Consistent holder inside c) {i j : Thread}
    (hi : inside (c.threads i)) (hj : inside (c.threads j)) :
  i = j
  := Option.some.inj ((h i).mp hi ▸ (h j).mp hj)

omit [DecidableEq Thread] in
/-- No thread is inside the region of a consistent lock that is free. -/
theorem Consistent.not_inside (h : Consistent holder inside c)
    (hfree : holder c.shared = none) (i : Thread) :
  ¬ inside (c.threads i)
  := by
  intro hi
  rw [(h i).mp hi] at hfree
  cases hfree

/-- A step of a program that follows the lock keeps the lock consistent. -/
theorem Consistent.step {a : Thread × Choice} (h : Consistent holder inside c)
    (locks : Locks exec holder inside) (step : (lts exec).step c a c') :
  Consistent holder inside c'
  := by
  obtain ⟨s, l, hexec, rfl⟩ := lts_step.mp step
  intro j
  dsimp only
  by_cases hj : j = a.1
  · subst hj
    rw [Function.update_self]
    rcases locks _ _ _ _ _ _ hexec with ⟨hl, hs⟩ | ⟨-, hl, hs⟩ | ⟨-, hl, hs⟩
    · rw [hl, hs]
      apply h
    · simp [hl, hs]
    · simp [hl, hs]
  · rw [Function.update_of_ne hj]
    rcases locks _ _ _ _ _ _ hexec with ⟨-, hs⟩ | ⟨hfree, -, hs⟩ | ⟨hl, -, hs⟩
    · rw [hs]
      apply h
    · simp [h.not_inside hfree j, hs, Ne.symm hj]
    · have hother : ¬ inside (c.threads j) := fun hin => hj (h.unique hin hl)
      simp [hother, hs]

/-- The lock is consistent at the end of a run that starts with a consistent lock. -/
theorem Consistent.run {tr : List (Lts.Transition (Pool Shared Local Thread) (Thread × Choice))}
    (h : Consistent holder inside c) (locks : Locks exec holder inside)
    (run : (lts exec).Run c tr c') :
  Consistent holder inside c'
  := run.invariant h fun _ _ hbefore step => hbefore.step locks step

/-! ### What the other threads make of a variable -/

section Others

variable {Value : Type*} [DecidableEq Value] {read : Shared → Value} {i : Thread}
  {tr : List (Lts.Transition (Pool Shared Local Thread) (Thread × Choice))}

/-- The value of a shared variable after a transition of another thread. The transitions of
thread `i` and those that do not change the variable are left out. -/
def othersStep (read : Shared → Value) (i : Thread) (v : Value)
    (e : Lts.Transition (Pool Shared Local Thread) (Thread × Choice)) : Value :=
  if e.action.1 = i ∨ read e.after.shared = read e.before.shared then v else read e.after.shared

/-- What a run makes of a shared variable, as if thread `i` had never changed it. -/
def othersValue (read : Shared → Value) (i : Thread) (init : Value)
    (tr : List (Lts.Transition (Pool Shared Local Thread) (Thread × Choice))) : Value :=
  tr.foldl (othersStep read i) init

theorem othersValue_append {init : Value}
    {e : Lts.Transition (Pool Shared Local Thread) (Thread × Choice)} :
  othersValue read i init (tr ++ [e]) = othersStep read i (othersValue read i init tr) e
  := by
  simp [othersValue]

/-- A run in which only thread `i` takes steps leaves nothing to the others. -/
theorem othersValue_of_forall {init : Value} (h : ∀ e ∈ tr, e.action.1 = i) :
  othersValue read i init tr = init
  := by
  induction tr using List.reverseRecOn with
  | nil => rfl
  | append_singleton tr e ih =>
      rw [othersValue_append, othersStep,
        if_pos (Or.inl (h e (List.mem_append_right _ (List.mem_singleton_self e))))]
      apply ih
      intro e he
      apply h e (List.mem_append_left _ he)

/-- Let a thread change the variable only by coming to own it, and lose it only when another
thread changes it. Then, whenever the thread does not own the variable, the value is the one
that the other threads have made of it. -/
theorem eq_othersValue (owns : Local → Value → Prop) (run : (lts exec).Run c tr c')
    (h : ∀ e ∈ tr, e.action.1 = i →
      read e.after.shared = read e.before.shared ∧
          (owns (e.before.threads i) (read e.before.shared) →
            owns (e.after.threads i) (read e.after.shared)) ∨
        owns (e.after.threads i) (read e.after.shared)) :
  owns (c'.threads i) (read c'.shared) ∨ read c'.shared = othersValue read i (read c.shared) tr
  := by
  induction run with
  | nil =>
      right
      rfl
  | @snoc tr d c' a run step ih =>
      have before := ih fun e he => h e (List.mem_append_left _ he)
      rw [othersValue_append, othersStep]
      dsimp only
      by_cases hi : a.1 = i
      · rw [if_pos (Or.inl hi)]
        rcases h _ (List.mem_append_right _ (List.mem_singleton_self _)) hi with
          ⟨hread, howns⟩ | howns
        · rcases before with before | before
          · exact Or.inl (howns before)
          · right
            rw [← before]
            apply hread
        · exact Or.inl howns
      · obtain ⟨s, l, -, rfl⟩ := lts_step.mp step
        dsimp only
        rw [Function.update_of_ne (Ne.symm hi)]
        by_cases hread : read s = read d.shared
        · rw [if_pos (Or.inr hread), hread]
          apply before
        · rw [if_neg (not_or.mpr ⟨hi, hread⟩)]
          exact Or.inr rfl

end Others

end Pool
