import Mathlib.Data.List.Basic

/-!
# Timers that call a function

A timer that expires hands the call of its function to a thread of its own, so that stopping the
timer afterwards does not keep the function from being called. What a later proof has to know is
which calls are still to come, and with which captured values.
-/

/-- A timer runs until it is stopped or expires. The function of a timer that has expired is called
once, at any later time. -/
inductive TimerPhase where
  | running
  | stopped
  | expired
  | called
deriving DecidableEq, Repr

/-- The value that the function of a timer has captured, and the phase of the timer. -/
structure Timer (α : Type*) where
  captured : α
  phase : TimerPhase
deriving DecidableEq, Repr

/-- The timers that have been started, oldest first. A timer is known by its place. -/
structure Timers (α : Type*) where
  started : List (Timer α)
deriving DecidableEq, Repr

namespace TimerPhase

/-- The phase after the timer has been stopped. -/
def stop : TimerPhase → TimerPhase
  | running => stopped
  | stopped => stopped
  | expired => expired
  | called => called

/-- The function may still be called. -/
def Pending : TimerPhase → Prop
  | running => True
  | stopped => False
  | expired => True
  | called => False

theorem pending_of_stop {phase : TimerPhase} (h : phase.stop.Pending) :
  phase.Pending
  := by
  cases phase with
  | running => trivial
  | stopped => exact h
  | expired => trivial
  | called => exact h

end TimerPhase

namespace Timers

variable {α : Type*} (ts : Timers α) {ts' : Timers α} {i j : ℕ} {a b : α}

def empty : Timers α where
  started := []

/-- Starts a timer. -/
def afterFunc (a : α) : Timers α where
  started := ts.started ++ [⟨a, .running⟩]

/-- Replaces the phase of a timer. -/
def setPhase (i : ℕ) (timer : Timer α) (phase : TimerPhase) : Timers α where
  started := ts.started.set i { timer with phase := phase }

/-- Stops a timer, if it is still running. -/
def stop (i : ℕ) : Timers α :=
  match ts.started[i]? with
  | some timer => ts.setPhase i timer timer.phase.stop
  | none => ts

/-- A running timer expires. -/
def expire (i : ℕ) : Option (Timers α) :=
  ts.started[i]?.bind fun timer =>
    if timer.phase = .running then some (ts.setPhase i timer .expired) else none

/-- The function of a timer that has expired is called with the value that it has captured. -/
def call (i : ℕ) : Option (Timers α × α) :=
  ts.started[i]?.bind fun timer =>
    if timer.phase = .expired then some (ts.setPhase i timer .called, timer.captured) else none

/-- The function of the timer may still be called, with the value `a`. -/
def Pending (i : ℕ) (a : α) : Prop :=
  ∃ timer ∈ ts.started[i]?, timer.captured = a ∧ timer.phase.Pending

variable {ts}

theorem not_pending_empty :
  ¬ (empty : Timers α).Pending i a
  := by
  rintro ⟨timer, htimer, -⟩
  cases htimer

theorem Pending.lt (h : ts.Pending i a) :
  i < ts.started.length
  := by
  obtain ⟨timer, htimer, -⟩ := h
  apply (List.getElem?_eq_some_iff.mp htimer).1

/-- What is pending after a timer has been started: what was pending before, or the new timer. -/
theorem pending_of_afterFunc (h : (ts.afterFunc a).Pending i b) :
  ts.Pending i b ∨ i = ts.started.length ∧ b = a
  := by
  obtain ⟨timer, htimer, hcaptured, hphase⟩ := h
  rw [Option.mem_def, afterFunc, List.getElem?_append] at htimer
  split at htimer
  · left
    use timer, htimer, hcaptured
  · rename_i hlength
    right
    obtain ⟨hlast, htimer⟩ := List.getElem?_eq_some_iff.mp htimer
    rw [List.length_singleton] at hlast
    constructor
    · omega
    · rw [List.getElem_singleton] at htimer
      rw [← hcaptured, ← htimer]

/-- What is pending after the phase of a timer has been replaced. -/
theorem pending_of_setPhase {timer : Timer α} {phase : TimerPhase}
    (htimer : ts.started[i]? = some timer) (h : (ts.setPhase i timer phase).Pending j b) :
  (j = i → phase.Pending) ∧ ((phase.Pending → timer.phase.Pending) → ts.Pending j b)
  := by
  obtain ⟨other, hother, hcaptured, hphase⟩ := h
  rw [Option.mem_def, setPhase, List.getElem?_set] at hother
  split at hother
  · rename_i hij
    obtain ⟨-, hother⟩ := Option.ite_none_right_eq_some.mp hother
    obtain rfl := Option.some.inj hother
    constructor
    · intro _
      apply hphase
    · intro himp
      rw [hij] at htimer
      use timer, htimer, hcaptured
      apply himp hphase
  · rename_i hij
    constructor
    · intro hji
      exact absurd hji.symm hij
    · intro _
      use other, hother, hcaptured

/-- Stopping a timer makes nothing pending. -/
theorem pending_of_stop (h : (ts.stop i).Pending j b) :
  ts.Pending j b
  := by
  rw [stop] at h
  split at h
  · rename_i timer htimer
    apply (pending_of_setPhase htimer h).2
    apply TimerPhase.pending_of_stop
  · apply h

/-- A timer that expires makes nothing pending that was not. -/
theorem pending_of_expire (hexpire : ts.expire i = some ts') (h : ts'.Pending j b) :
  ts.Pending j b
  := by
  obtain ⟨timer, htimer, hexpire⟩ := Option.bind_eq_some_iff.mp hexpire
  obtain ⟨hrunning, hexpire⟩ := Option.ite_none_right_eq_some.mp hexpire
  obtain rfl := Option.some.inj hexpire
  apply (pending_of_setPhase htimer h).2
  intro _
  rw [hrunning]
  trivial

/-- Only a pending function is called. -/
theorem pending_of_call (hcall : ts.call i = some (ts', a)) :
  ts.Pending i a
  := by
  obtain ⟨timer, htimer, hcall⟩ := Option.bind_eq_some_iff.mp hcall
  obtain ⟨hexpired, hcall⟩ := Option.ite_none_right_eq_some.mp hcall
  use timer, htimer
  constructor
  · exact congrArg Prod.snd (Option.some.inj hcall)
  · rw [hexpired]
    trivial

/-- A function is not called again, and the others stay as they were. -/
theorem pending_after_call (hcall : ts.call i = some (ts', a)) (h : ts'.Pending j b) :
  j ≠ i ∧ ts.Pending j b
  := by
  obtain ⟨timer, htimer, hcall⟩ := Option.bind_eq_some_iff.mp hcall
  obtain ⟨-, hcall⟩ := Option.ite_none_right_eq_some.mp hcall
  obtain rfl := congrArg Prod.fst (Option.some.inj hcall)
  obtain ⟨hsame, hother⟩ := pending_of_setPhase htimer h
  constructor
  · intro hji
    exact hsame hji
  · apply hother
    intro hcalled
    cases hcalled

end Timers
