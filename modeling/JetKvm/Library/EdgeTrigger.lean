import JetKvm.Library.ThreadPool

/-!
# Acting on the edges of a counter

Threads count something up and down, and the thread that takes the counter from zero to one turns
something on afterwards, and the one that takes it to zero turns it off. In between the two do not
agree, but then a thread is on its way to make them agree. `starting` and `stopping` say where a
thread is on its way.
-/

/-- Where the counter is positive, it is on or a thread is on its way to turn it on, and where the
counter is zero, it is off or a thread is on its way to turn it off. -/
structure EdgeTriggered {Thread Local : Type*} (threads : Thread → Local) (n : Int) (on : Prop)
    (starting stopping : Local → Prop) : Prop where
  starts : 0 < n → on ∨ ∃ i, starting (threads i)
  stops : n = 0 → ¬ on ∨ ∃ i, stopping (threads i)

namespace EdgeTriggered

variable {Thread Local : Type*} {threads : Thread → Local} {n : Int} {on : Prop}
  {starting stopping : Local → Prop} {i : Thread} {l : Local}

/-- It is on exactly when the counter is positive, when no thread is on its way. -/
theorem on_iff (h : EdgeTriggered threads n on starting stopping) (hn : 0 ≤ n)
    (hstarting : ∀ i, ¬ starting (threads i)) (hstopping : ∀ i, ¬ stopping (threads i)) :
  on ↔ 0 < n
  := by
  constructor
  · intro hon
    by_contra hnot
    rcases h.stops (by omega) with hoff | ⟨i, hi⟩
    · apply hoff hon
    · apply hstopping i hi
  · intro hpos
    rcases h.starts hpos with hon | ⟨i, hi⟩
    · apply hon
    · cases hstarting i hi

/-- It is turned on where the counter is positive. -/
theorem turnOn (hon : on) (hn : 0 < n) :
  EdgeTriggered threads n on starting stopping
  := by
  constructor
  · exact fun _ => Or.inl hon
  · intro hzero
    omega

/-- It is turned off where the counter is zero or a thread is on its way to turn it on. -/
theorem turnOff (hoff : ¬ on) (hn : n = 0 ∨ ∃ i, starting (threads i)) :
  EdgeTriggered threads n on starting stopping
  := by
  constructor
  · intro hpos
    rcases hn with hzero | h
    · omega
    · apply Or.inr h
  · exact fun _ => Or.inl hoff

/-- It agrees with the counter, whatever the threads are about to do. -/
theorem of_iff (h : on ↔ 0 < n) :
  EdgeTriggered threads n on starting stopping
  := by
  constructor
  · intro hpos
    apply Or.inl (h.mpr hpos)
  · intro hzero
    left
    intro hon
    have hpos := h.mp hon
    omega

variable [DecidableEq Thread]

/-- A thread takes a step that neither counts nor turns anything on or off. -/
theorem update (h : EdgeTriggered threads n on starting stopping)
    (hstarting : starting (threads i) → starting l) (hstopping : stopping (threads i) → stopping l) :
  EdgeTriggered (Function.update threads i l) n on starting stopping
  := by
  constructor
  · intro hpos
    rcases h.starts hpos with hon | hstart
    · apply Or.inl hon
    · apply Or.inr (Pool.exists_update hstart hstarting)
  · intro hzero
    rcases h.stops hzero with hoff | hstop
    · apply Or.inl hoff
    · apply Or.inr (Pool.exists_update hstop hstopping)

/-- A thread counts up, and is on its way if it is the first. -/
theorem countUp (h : EdgeTriggered threads n on starting stopping) (hn : 0 ≤ n)
    (hbefore : ¬ starting (threads i)) (hfirst : n + 1 = 1 → starting l) :
  EdgeTriggered (Function.update threads i l) (n + 1) on starting stopping
  := by
  constructor
  · intro _
    by_cases hzero : n = 0
    · right
      apply Pool.exists_update_self starting i
      apply hfirst
      omega
    · rcases h.starts (by omega) with hon | hstart
      · apply Or.inl hon
      · apply Or.inr (Pool.exists_update_of_not starting l hstart hbefore)
  · intro hzero
    omega

/-- A thread counts down, and is on its way if it was the last. -/
theorem countDown (h : EdgeTriggered threads n on starting stopping)
    (hbefore : ¬ starting (threads i)) (hlast : n - 1 = 0 → stopping l) :
  EdgeTriggered (Function.update threads i l) (n - 1) on starting stopping
  := by
  constructor
  · intro hpos
    rcases h.starts (by omega) with hon | hstart
    · apply Or.inl hon
    · apply Or.inr (Pool.exists_update_of_not starting l hstart hbefore)
  · intro hzero
    right
    apply Pool.exists_update_self stopping i
    apply hlast hzero

end EdgeTriggered
