import JetKvm.Library.ThreadPool
import Mathlib.Order.WellFounded

/-!
# Lock orders

A program locks and unlocks mutexes and does other things in between, which depend on a shared
state and on what the environment decides. When every program takes its locks in the order of
their ranks and gives them back, no thread of a pool ever locks a mutex that it holds, and the
threads that have not finished never all wait for each other.
-/

/-- A program that returns a value. What it does apart from locking depends on the shared state
and on a choice. -/
inductive LockProgram (Lock Shared Choice Value : Type) : Type where
  | done (value : Value)
  | lock (l : Lock) (next : LockProgram Lock Shared Choice Value)
  | unlock (l : Lock) (next : LockProgram Lock Shared Choice Value)
  | act (effect : Choice → Shared → Shared)
      (next : Choice → Shared → LockProgram Lock Shared Choice Value)

namespace LockProgram

variable {Lock Shared Choice Value Result : Type}

/-- One program after the other. -/
def bind : LockProgram Lock Shared Choice Value →
    (Value → LockProgram Lock Shared Choice Result) → LockProgram Lock Shared Choice Result
  | done value, f => f value
  | lock l next, f => lock l (next.bind f)
  | unlock l next, f => unlock l (next.bind f)
  | act effect next, f => act effect fun x s => (next x s).bind f

instance : Monad (LockProgram Lock Shared Choice) where
  pure := done
  bind := bind

/-- Waits for a mutex and locks it. -/
def acquire (l : Lock) : LockProgram Lock Shared Choice Unit :=
  lock l (done ())

def release (l : Lock) : LockProgram Lock Shared Choice Unit :=
  unlock l (done ())

/-- Changes the shared state in one step, and returns a value. -/
def perform (f : Choice → Shared → Shared × Value) : LockProgram Lock Shared Choice Value :=
  act (fun x s => (f x s).1) fun x s => done (f x s).2

/-! ### Programs that obey an order -/

variable {Rank : Type} [Preorder Rank] {rank : Lock → Rank} {held held' held'' : List Lock}
  {l : Lock}

/-- The lock comes after all locks that are held. -/
def Above (rank : Lock → Rank) (held : List Lock) (l : Lock) : Prop :=
  ∀ h ∈ held, rank h < rank l

/-- With the given locks held, the program takes its locks in their order, gives back only locks
that it holds, and ends with the other given locks held. -/
def Obeys [DecidableEq Lock] (rank : Lock → Rank) :
    LockProgram Lock Shared Choice Value → List Lock → List Lock → Prop
  | done _, held, held' => held = held'
  | lock l next, held, held' => Above rank held l ∧ next.Obeys rank (l :: held) held'
  | unlock l next, held, held' => l ∈ held ∧ next.Obeys rank (held.erase l) held'
  | act _ next, held, held' => ∀ x s, (next x s).Obeys rank held held'

variable [DecidableEq Lock]

@[simp]
theorem obeys_pure {value : Value} :
  (pure value : LockProgram Lock Shared Choice Value).Obeys rank held held
  := rfl

@[simp]
theorem obeys_perform {f : Choice → Shared → Shared × Value} :
  (perform f : LockProgram Lock Shared Choice Value).Obeys rank held held
  := fun _ _ => rfl

/-- A program that obeys the order may be followed by programs that obey it. -/
theorem Obeys.bind {p : LockProgram Lock Shared Choice Value}
    {f : Value → LockProgram Lock Shared Choice Result} (first : p.Obeys rank held held')
    (second : ∀ value, (f value).Obeys rank held' held'') :
  (p >>= f).Obeys rank held held''
  := by
  change (p.bind f).Obeys rank held held''
  induction p generalizing held with
  | done value =>
      obtain rfl : held = held' := first
      apply second
  | lock l next ih => exact ⟨first.1, ih first.2⟩
  | unlock l next ih => exact ⟨first.1, ih first.2⟩
  | act effect next ih => exact fun x s => ih x s (first x s)

/-- A lock is held from when it is taken until it is given back. -/
theorem Obeys.locked {f : Unit → LockProgram Lock Shared Choice Value} (habove : Above rank held l)
    (h : (f ()).Obeys rank (l :: held) held') :
  (acquire l >>= f).Obeys rank held held'
  := ⟨habove, h⟩

theorem Obeys.unlocked {f : Unit → LockProgram Lock Shared Choice Value}
    (h : (f ()).Obeys rank held held') :
  (release l >>= f).Obeys rank (l :: held) held'
  := by
  use List.mem_cons_self
  rw [List.erase_cons_head]
  exact h

theorem Obeys.release :
  (release l : LockProgram Lock Shared Choice Unit).Obeys rank (l :: held) held
  := ⟨List.mem_cons_self, List.erase_cons_head ..⟩

omit [DecidableEq Lock] in
theorem above_nil :
  Above rank [] l
  := fun _ h => absurd h List.not_mem_nil

omit [DecidableEq Lock] in
/-- What comes after the lock that has been taken last comes after all. -/
theorem Above.cons {l' : Lock} (h : Above rank held l) (hlt : rank l < rank l') :
  Above rank (l :: held) l'
  := by
  intro h' hmem
  rcases List.mem_cons.mp hmem with rfl | hmem
  · apply hlt
  · apply (h h' hmem).trans hlt

/-! ### Pools -/

/-- The shared state, and who holds each mutex. -/
structure Locked (Lock Shared Thread : Type) where
  data : Shared
  holder : Lock → Option Thread

variable {Thread : Type}

/-- One step of a thread. A thread that waits for a mutex that is held, or is done, takes none. -/
def exec (i : Thread) (x : Choice) (s : Locked Lock Shared Thread) :
    LockProgram Lock Shared Choice Unit →
      Option (Locked Lock Shared Thread × LockProgram Lock Shared Choice Unit)
  | done _ => none
  | lock l next =>
      if (s.holder l).isNone then
        some ({ s with holder := Function.update s.holder l (some i) }, next)
      else none
  | unlock l next => some ({ s with holder := Function.update s.holder l none }, next)
  | act effect next => some ({ s with data := effect x s.data }, next x s.data)

/-- Some threads, and what they share. -/
abbrev LockPool (Lock Shared Choice Thread : Type) :=
  Pool (Locked Lock Shared Thread) (LockProgram Lock Shared Choice Unit) Thread

/-- The locks that a thread holds, and with which its program obeys the order. -/
structure HoldsExactly (rank : Lock → Rank) (c : LockPool Lock Shared Choice Thread) (i : Thread)
    (held : List Lock) : Prop where
  holder : ∀ l, c.shared.holder l = some i ↔ l ∈ held
  nodup : held.Nodup
  obeys : (c.threads i).Obeys rank held []

/-- Every thread obeys the order with the locks that it holds. -/
def Disciplined (rank : Lock → Rank) (c : LockPool Lock Shared Choice Thread) : Prop :=
  ∀ i, ∃ held, HoldsExactly rank c i held

variable {c c' : LockPool Lock Shared Choice Thread} {i : Thread}

/-- Threads that hold nothing and obey the order are disciplined. -/
theorem disciplined_of_obeys (hfree : ∀ l, c.shared.holder l = none)
    (h : ∀ i, (c.threads i).Obeys rank [] []) :
  Disciplined rank c
  := by
  intro i
  use []
  constructor
  · intro l
    simp [hfree]
  · apply List.nodup_nil
  · apply h

variable [DecidableEq Thread] {a : Thread × Choice}

theorem Disciplined.step (h : Disciplined rank c) (step : (Pool.lts exec).step c a c') :
  Disciplined rank c'
  := by
  obtain ⟨s, p, hexec, rfl⟩ := Pool.lts_step.mp step
  have hstays : ∀ {j held}, j ≠ a.1 → HoldsExactly rank c j held →
      (∀ l, s.holder l = some j ↔ c.shared.holder l = some j) →
      HoldsExactly rank ⟨s, Function.update c.threads a.1 p⟩ j held := by
    intro j held hj hheld hsame
    constructor
    · intro l
      rw [hsame, hheld.holder]
    · apply hheld.nodup
    · dsimp only
      rw [Function.update_of_ne hj]
      apply hheld.obeys
  intro j
  obtain ⟨held, hheld⟩ := h j
  obtain ⟨own, hown⟩ := h a.1
  have hobeys := hown.obeys
  cases hprogram : c.threads a.1 with
  | done value =>
      rw [hprogram] at hexec
      cases hexec
  | lock l next =>
      rw [hprogram] at hexec hobeys
      obtain ⟨hfree, hnext⟩ := Option.ite_none_right_eq_some.mp hexec
      obtain ⟨rfl, rfl⟩ := Prod.mk.inj (Option.some.inj hnext)
      have hnone := Option.isNone_iff_eq_none.mp hfree
      by_cases hj : j = a.1
      · subst hj
        use l :: own
        constructor
        · intro l'
          dsimp only
          rw [List.mem_cons, ← hown.holder]
          by_cases hl : l' = l
          · simp [hl]
          · simp [hl]
        · rw [List.nodup_cons]
          refine ⟨?_, hown.nodup⟩
          intro hmem
          exact absurd (hobeys.1 l hmem) (lt_irrefl _)
        · dsimp only
          rw [Function.update_self]
          apply hobeys.2
      · use held
        apply hstays hj hheld
        intro l'
        dsimp only
        by_cases hl : l' = l
        · subst hl
          rw [Function.update_self, hnone]
          simp [Ne.symm hj]
        · rw [Function.update_of_ne hl]
  | unlock l next =>
      rw [hprogram] at hexec hobeys
      obtain ⟨rfl, rfl⟩ := Prod.mk.inj (Option.some.inj hexec)
      have hholds : c.shared.holder l = some a.1 := (hown.holder l).mpr hobeys.1
      by_cases hj : j = a.1
      · subst hj
        use own.erase l
        constructor
        · intro l'
          dsimp only
          rw [hown.nodup.mem_erase_iff, ← hown.holder]
          by_cases hl : l' = l
          · simp [hl]
          · simp [hl]
        · apply hown.nodup.erase
        · dsimp only
          rw [Function.update_self]
          apply hobeys.2
      · use held
        apply hstays hj hheld
        intro l'
        dsimp only
        by_cases hl : l' = l
        · subst hl
          rw [Function.update_self, hholds]
          simp [Ne.symm hj]
        · rw [Function.update_of_ne hl]
  | act effect next =>
      rw [hprogram] at hexec hobeys
      obtain ⟨rfl, rfl⟩ := Prod.mk.inj (Option.some.inj hexec)
      by_cases hj : j = a.1
      · subst hj
        use own
        constructor
        · apply hown.holder
        · apply hown.nodup
        · dsimp only
          rw [Function.update_self]
          apply hobeys
      · use held
        apply hstays hj hheld
        intro l'
        rfl

theorem Disciplined.run
    {tr : List (Lts.Transition (LockPool Lock Shared Choice Thread) (Thread × Choice))}
    (h : Disciplined rank c) (run : (Pool.lts exec).Run c tr c') :
  Disciplined rank c'
  := run.invariant h fun _ _ hbefore step => hbefore.step step

/-! ### No deadlock -/

omit [DecidableEq Thread] in
/-- No thread is about to lock a mutex that it holds. -/
theorem Disciplined.not_holder (h : Disciplined rank c)
    {next : LockProgram Lock Shared Choice Unit} (hi : c.threads i = lock l next) :
  c.shared.holder l ≠ some i
  := by
  obtain ⟨held, hheld⟩ := h i
  have hobeys := hheld.obeys
  rw [hi] at hobeys
  intro hholder
  exact absurd (hobeys.1 l ((hheld.holder l).mp hholder)) (lt_irrefl _)

/-- A thread can take a step unless it is done or waits for a mutex that is held. -/
theorem exists_step (x : Choice) (hi : ∀ value, c.threads i ≠ done value)
    (hfree : ∀ l next, c.threads i = lock l next → c.shared.holder l = none) :
  ∃ c', (Pool.lts exec).step c (i, x) c'
  := by
  have hstep : ∃ next, exec i x c.shared (c.threads i) = some next := by
    cases hprogram : c.threads i with
    | done value => exact absurd hprogram (hi value)
    | lock l next =>
        rw [exec, hfree l next hprogram]
        exact ⟨_, rfl⟩
    | unlock l next => exact ⟨_, rfl⟩
    | act effect next => exact ⟨_, rfl⟩
  obtain ⟨⟨s, p⟩, hexec⟩ := hstep
  exact ⟨_, Pool.lts_step.mpr ⟨s, p, hexec, rfl⟩⟩

/-- While a thread waits for a mutex, some thread can take a step: who holds the mutex, or whoever
that thread waits for. -/
theorem Disciplined.exists_step_of_waits [WellFoundedGT Rank] (h : Disciplined rank c) (x : Choice)
    {next : LockProgram Lock Shared Choice Unit} (hi : c.threads i = lock l next) :
  ∃ j c', (Pool.lts exec).step c (j, x) c'
  := by
  induction hrank : rank l using WellFoundedGT.induction generalizing i l next with
  | ind r ih =>
      subst hrank
      cases hholder : c.shared.holder l with
      | none =>
          use i
          apply exists_step x
          · intro value hdone
            rw [hi] at hdone
            cases hdone
          · intro l' next' hi'
            rw [hi] at hi'
            cases hi'
            apply hholder
      | some j =>
          obtain ⟨held, hheld⟩ := h j
          have hmem : l ∈ held := (hheld.holder l).mp hholder
          have hobeys := hheld.obeys
          cases hprogram : c.threads j with
          | done value =>
              rw [hprogram] at hobeys
              obtain rfl : held = [] := hobeys
              cases hmem
          | lock l' next' =>
              rw [hprogram] at hobeys
              exact ih (rank l') (hobeys.1 l hmem) hprogram rfl
          | unlock l' next' =>
              use j
              apply exists_step x
              · simp [hprogram]
              · simp [hprogram]
          | act effect next' =>
              use j
              apply exists_step x
              · simp [hprogram]
              · simp [hprogram]

/-- As long as a thread has not finished, some thread can take a step. -/
theorem Disciplined.progress [WellFoundedGT Rank] (h : Disciplined rank c) (x : Choice)
    (hi : ∀ value, c.threads i ≠ done value) :
  ∃ j c', (Pool.lts exec).step c (j, x) c'
  := by
  by_cases hwaits : ∃ l next, c.threads i = lock l next
  · obtain ⟨l, next, hprogram⟩ := hwaits
    apply h.exists_step_of_waits x hprogram
  · use i
    apply exists_step x hi
    intro l next hprogram
    exact absurd ⟨l, next, hprogram⟩ hwaits

end LockProgram
