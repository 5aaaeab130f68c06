import JetKvm.Library.ThreadPool
import Mathlib.Data.List.Count

/-!
# Read-write locks

A read-write lock knows the threads that hold it. A thread that follows a program takes and gives
back the lock by instructions of their own, and a program that says at each of its positions what
the thread holds there is followed by comparing neighbouring positions.
-/

/-- What a thread holds of a lock. -/
structure HeldLock where
  reads : Nat
  writes : Nat
deriving DecidableEq, Repr

namespace HeldLock

/-- What a thread holds after it has taken the lock for reading once more. -/
def takeRead (h : HeldLock) : HeldLock :=
  { h with reads := h.reads + 1 }

/-- What a thread holds after it has taken the lock for writing once more. -/
def takeWrite (h : HeldLock) : HeldLock :=
  { h with writes := h.writes + 1 }

theorem takeRead_injective {h h' : HeldLock} (heq : h.takeRead = h'.takeRead) :
  h = h'
  := by
  cases h
  cases h'
  simpa [takeRead] using heq

theorem takeWrite_injective {h h' : HeldLock} (heq : h.takeWrite = h'.takeWrite) :
  h = h'
  := by
  cases h
  cases h'
  simpa [takeWrite] using heq

end HeldLock

/-- A lock that many threads may hold for reading, or one for writing. A thread is listed among the
readers as often as it holds the lock for reading. -/
structure RWMutex (Thread : Type*) where
  readers : List Thread
  writer : Option Thread

namespace RWMutex

variable {Thread : Type*} [DecidableEq Thread] (m : RWMutex Thread) {m' : RWMutex Thread}
  {i j : Thread}

def rLock (i : Thread) : Option (RWMutex Thread) :=
  if m.writer = none then some { m with readers := i :: m.readers } else none

def rUnlock (i : Thread) : Option (RWMutex Thread) :=
  if i ∈ m.readers then some { m with readers := m.readers.erase i } else none

def lock (i : Thread) : Option (RWMutex Thread) :=
  if m.readers = [] ∧ m.writer = none then some { m with writer := some i } else none

def unlock (i : Thread) : Option (RWMutex Thread) :=
  if m.writer = some i then some { m with writer := none } else none

/-- What a thread holds. -/
def holds (i : Thread) : HeldLock where
  reads := m.readers.count i
  writes := if m.writer = some i then 1 else 0

variable {m}

theorem holds_rLock (h : m.rLock i = some m') (j : Thread) :
  m'.holds j = if j = i then (m.holds j).takeRead else m.holds j
  := by
  obtain ⟨-, h⟩ := Option.ite_none_right_eq_some.mp h
  obtain rfl := Option.some.inj h
  by_cases hj : j = i
  · rw [if_pos hj, hj, holds, List.count_cons_self]
    rfl
  · rw [if_neg hj, holds, List.count_cons_of_ne (Ne.symm hj)]
    rfl

theorem holds_rUnlock (h : m.rUnlock i = some m') (j : Thread) :
  m.holds j = if j = i then (m'.holds j).takeRead else m'.holds j
  := by
  obtain ⟨hmem, h⟩ := Option.ite_none_right_eq_some.mp h
  obtain rfl := Option.some.inj h
  have hcount : m.readers.count j = (i :: m.readers.erase i).count j :=
    (List.perm_cons_erase hmem).count_eq j
  by_cases hj : j = i
  · rw [if_pos hj, holds, hcount, hj, List.count_cons_self]
    rfl
  · rw [if_neg hj, holds, hcount, List.count_cons_of_ne (Ne.symm hj)]
    rfl

theorem holds_lock (h : m.lock i = some m') (j : Thread) :
  m'.holds j = if j = i then (m.holds j).takeWrite else m.holds j
  := by
  obtain ⟨⟨-, hwriter⟩, h⟩ := Option.ite_none_right_eq_some.mp h
  obtain rfl := Option.some.inj h
  by_cases hj : j = i
  · simp [hj, holds, hwriter, HeldLock.takeWrite]
  · simp [hj, holds, hwriter, Ne.symm hj]

theorem holds_unlock (h : m.unlock i = some m') (j : Thread) :
  m.holds j = if j = i then (m'.holds j).takeWrite else m'.holds j
  := by
  obtain ⟨hwriter, h⟩ := Option.ite_none_right_eq_some.mp h
  obtain rfl := Option.some.inj h
  by_cases hj : j = i
  · simp [hj, holds, hwriter, HeldLock.takeWrite]
  · simp [hj, holds, hwriter, Ne.symm hj]

/-- A lock that nobody holds can be taken for writing. -/
theorem lock_of_holds_nothing (h : ∀ j, m.holds j = ⟨0, 0⟩) (i : Thread) :
  (m.lock i).isSome
  := by
  have hreaders : m.readers = [] := by
    apply List.eq_nil_iff_forall_not_mem.mpr
    intro j hj
    exact absurd (congrArg HeldLock.reads (h j)) (Nat.ne_of_gt (List.count_pos_iff.mpr hj))
  have hwriter : m.writer = none := by
    cases hholder : m.writer with
    | none => rfl
    | some j =>
        have hj := congrArg HeldLock.writes (h j)
        rw [holds, if_pos hholder] at hj
        cases hj
  rw [lock, if_pos ⟨hreaders, hwriter⟩]
  rfl

/-- A lock that somebody holds for reading cannot be taken for writing. -/
theorem lock_of_reads (h : 0 < (m.holds j).reads) (i : Thread) :
  m.lock i = none
  := by
  apply if_neg
  rintro ⟨hreaders, -⟩
  rw [holds, hreaders, List.count_nil] at h
  cases h

end RWMutex

/-- A state that is protected by a lock. -/
structure Guarded (State Thread : Type*) where
  state : State
  mutex : RWMutex Thread

/-- What a thread does next. -/
inductive LockInstruction (State Choice Position : Type*) where
  | act (effect : Choice → State → State × Position)
  | rLock (next : Position)
  | rUnlock (next : Position)
  | lock (next : Position)
  | unlock (next : Position)
  | halt

namespace LockInstruction

variable {State Choice Position Thread : Type*} [DecidableEq Thread]

/-- One step of a thread. -/
def exec (program : Position → LockInstruction State Choice Position) (i : Thread) (x : Choice)
    (g : Guarded State Thread) (p : Position) : Option (Guarded State Thread × Position) :=
  match program p with
  | act effect => some ({ g with state := (effect x g.state).1 }, (effect x g.state).2)
  | rLock next => (g.mutex.rLock i).map fun m => ({ g with mutex := m }, next)
  | rUnlock next => (g.mutex.rUnlock i).map fun m => ({ g with mutex := m }, next)
  | lock next => (g.mutex.lock i).map fun m => ({ g with mutex := m }, next)
  | unlock next => (g.mutex.unlock i).map fun m => ({ g with mutex := m }, next)
  | halt => none

/-- What a thread holds before the instruction is what the instruction makes of it, according to
what a thread is said to hold at each position. -/
def Agrees (held : Position → HeldLock) (x : Choice) (s : State) (p : Position) :
    LockInstruction State Choice Position → Prop
  | act effect => held (effect x s).2 = held p
  | rLock next => held next = (held p).takeRead
  | rUnlock next => held p = (held next).takeRead
  | lock next => held next = (held p).takeWrite
  | unlock next => held p = (held next).takeWrite
  | halt => held p = ⟨0, 0⟩

variable {program : Position → LockInstruction State Choice Position} {held : Position → HeldLock}
  {i j : Thread} {x : Choice} {g g' : Guarded State Thread} {p q : Position}

/-- A step of a thread changes what it holds as the instruction says, and leaves what the other
threads hold. -/
theorem exec_cases (h : exec program i x g p = some (g', q)) :
  match program p with
  | act effect => g'.mutex = g.mutex ∧ q = (effect x g.state).2
  | rLock next => g.mutex.rLock i = some g'.mutex ∧ q = next
  | rUnlock next => g.mutex.rUnlock i = some g'.mutex ∧ q = next
  | lock next => g.mutex.lock i = some g'.mutex ∧ q = next
  | unlock next => g.mutex.unlock i = some g'.mutex ∧ q = next
  | halt => False
  := by
  rw [exec] at h
  cases hprogram : program p with
  | act effect =>
      rw [hprogram] at h
      obtain ⟨rfl, rfl⟩ := Prod.mk.inj (Option.some.inj h)
      exact ⟨rfl, rfl⟩
  | rLock next =>
      rw [hprogram] at h
      obtain ⟨m, hm, heq⟩ := Option.map_eq_some_iff.mp h
      obtain ⟨rfl, rfl⟩ := Prod.mk.inj heq
      exact ⟨hm, rfl⟩
  | rUnlock next =>
      rw [hprogram] at h
      obtain ⟨m, hm, heq⟩ := Option.map_eq_some_iff.mp h
      obtain ⟨rfl, rfl⟩ := Prod.mk.inj heq
      exact ⟨hm, rfl⟩
  | lock next =>
      rw [hprogram] at h
      obtain ⟨m, hm, heq⟩ := Option.map_eq_some_iff.mp h
      obtain ⟨rfl, rfl⟩ := Prod.mk.inj heq
      exact ⟨hm, rfl⟩
  | unlock next =>
      rw [hprogram] at h
      obtain ⟨m, hm, heq⟩ := Option.map_eq_some_iff.mp h
      obtain ⟨rfl, rfl⟩ := Prod.mk.inj heq
      exact ⟨hm, rfl⟩
  | halt =>
      rw [hprogram] at h
      cases h

/-- A step of a thread leaves what the other threads hold. -/
theorem holds_exec_of_ne (h : exec program i x g p = some (g', q)) (hj : j ≠ i) :
  g'.mutex.holds j = g.mutex.holds j
  := by
  have hcases := exec_cases h
  cases hprogram : program p with
  | act effect =>
      rw [hprogram] at hcases
      rw [hcases.1]
  | rLock next =>
      rw [hprogram] at hcases
      rw [RWMutex.holds_rLock hcases.1, if_neg hj]
  | rUnlock next =>
      rw [hprogram] at hcases
      rw [RWMutex.holds_rUnlock hcases.1 j, if_neg hj]
  | lock next =>
      rw [hprogram] at hcases
      rw [RWMutex.holds_lock hcases.1, if_neg hj]
  | unlock next =>
      rw [hprogram] at hcases
      rw [RWMutex.holds_unlock hcases.1 j, if_neg hj]
  | halt =>
      rw [hprogram] at hcases
      exact hcases.elim

/-- A thread holds what it is said to hold. -/
theorem holds_exec (h : exec program i x g p = some (g', q))
    (hp : g.mutex.holds i = held p) (hagrees : (program p).Agrees held x g.state p) :
  g'.mutex.holds i = held q
  := by
  have hcases := exec_cases h
  cases hprogram : program p with
  | act effect =>
      rw [hprogram] at hcases hagrees
      rw [hcases.1, hcases.2, hp]
      exact hagrees.symm
  | rLock next =>
      rw [hprogram] at hcases hagrees
      rw [RWMutex.holds_rLock hcases.1, if_pos rfl, hcases.2, hp]
      exact hagrees.symm
  | rUnlock next =>
      rw [hprogram] at hcases hagrees
      have hholds := RWMutex.holds_rUnlock hcases.1 i
      rw [if_pos rfl, hp, hagrees] at hholds
      rw [hcases.2]
      exact (HeldLock.takeRead_injective hholds).symm
  | lock next =>
      rw [hprogram] at hcases hagrees
      rw [RWMutex.holds_lock hcases.1, if_pos rfl, hcases.2, hp]
      exact hagrees.symm
  | unlock next =>
      rw [hprogram] at hcases hagrees
      have hholds := RWMutex.holds_unlock hcases.1 i
      rw [if_pos rfl, hp, hagrees] at hholds
      rw [hcases.2]
      exact (HeldLock.takeWrite_injective hholds).symm
  | halt =>
      rw [hprogram] at hcases
      exact hcases.elim

end LockInstruction
