import JetKvm.Library.Transition
import Mathlib.Data.List.Pairwise

/-!
# Keep-alive messages

While keys are held, the browser sends keep-alive messages, and each one that is accepted
moves the auto-release timers. A message is accepted when it is the first since the times
were reset, or when it does not come too late after the one accepted before it. Messages may
arrive in any pattern, with resets between them.
-/

namespace JetKvm

/-- Points in time and durations are in nanoseconds. -/
def millisecond : Int := 1000000

def expectedRate : Int := 50 * millisecond
def maxLateness : Int := 50 * millisecond
def baseExtension : Int := expectedRate + maxLateness
def maxStaleness : Int := 225 * millisecond

/-- The times that a session keeps of its keep-alive messages. A time that has been reset is
`none`. -/
structure KeepAliveTimes where
  lastKeepAliveArrivalTime : Option Int
  lastTimerResetTime : Option Int
deriving DecidableEq, Repr

/-- The times of a new session, and what `resetKeepAliveTime` sets them to. -/
def resetKeepAliveTime : KeepAliveTimes where
  lastKeepAliveArrivalTime := none
  lastTimerResetTime := none

/-- The extension of a message that arrives after the given last one, if it is not too late. -/
def timerExtension (now : Int) : Option Int → Option Int
  | none => some baseExtension
  | some last =>
      let timeSinceLastTick := now - last
      let lateness := timeSinceLastTick - expectedRate
      if 0 < lateness then
        if lateness ≤ maxLateness then some (baseExtension - lateness) else none
      else some baseExtension

/-- Handles a keep-alive message. The result is the duration after which the timers are to
fire, if the message is accepted. -/
def handleHidRPCKeypressKeepAlive (session : KeepAliveTimes) (now : Int) :
    KeepAliveTimes × Option Int :=
  if ∃ last ∈ session.lastTimerResetTime, maxStaleness < now - last then (session, none)
  else match timerExtension now session.lastKeepAliveArrivalTime with
  | none => (session, none)
  | some extension =>
      ({ lastKeepAliveArrivalTime := some now, lastTimerResetTime := some now }, some extension)

/-- When the timers of the keys are due. -/
abbrev Deadlines : Type := UInt8 → Option Int

/-- Resets every timer to fire after the given duration. -/
def delayAutoReleaseWithDuration (timers : Deadlines) (now resetDuration : Int) : Deadlines :=
  fun key => (timers key).map fun _ => now + resetDuration

/-- What an accepted message does to the timers. -/
def delayTimers (timers : Deadlines) (now : Int) : Option Int → Deadlines
  | none => timers
  | some extension => delayAutoReleaseWithDuration timers now extension

/-! ### Runs -/

/-- A session with timers, and the time of the last message. -/
structure KeepAliveState where
  times : KeepAliveTimes
  timers : Deadlines
  now : Int

/-- A keep-alive message arrives, or the times are reset. -/
inductive KeepAliveAction where
  | keepAlive (now : Int)
  | reset
deriving DecidableEq, Repr

/-- The next state. Messages do not arrive before earlier ones. -/
def keepAliveStep (s : KeepAliveState) : KeepAliveAction → Option KeepAliveState
  | .keepAlive now =>
      if s.now ≤ now then
        let handled := handleHidRPCKeypressKeepAlive s.times now
        some
          { times := handled.1
            timers := delayTimers s.timers now handled.2
            now := now }
      else none
  | .reset => some { s with times := resetKeepAliveTime }

def keepAliveLts : Lts KeepAliveState KeepAliveAction :=
  Lts.ofStep keepAliveStep

/-- The message of a transition is accepted with the given extension. -/
def AcceptsWith (e : Lts.Transition KeepAliveState KeepAliveAction) (extension : Int) : Prop :=
  ∃ now, e.action = .keepAlive now ∧
    (handleHidRPCKeypressKeepAlive e.before.times now).2 = some extension

/-- The message of a transition is accepted. -/
def Accepts (e : Lts.Transition KeepAliveState KeepAliveAction) : Prop :=
  ∃ extension, AcceptsWith e extension

/-- The message of a transition is rejected. -/
def Rejects (e : Lts.Transition KeepAliveState KeepAliveAction) : Prop :=
  ∃ now, e.action = .keepAlive now ∧
    (handleHidRPCKeypressKeepAlive e.before.times now).2 = none

/-- The times are reset. -/
def Resets (e : Lts.Transition KeepAliveState KeepAliveAction) : Prop :=
  e.action = .reset

variable {session : KeepAliveTimes} {now now' last extension : Int} {s t : KeepAliveState}
  {e : Lts.Transition KeepAliveState KeepAliveAction}
  {tr : List (Lts.Transition KeepAliveState KeepAliveAction)}

/-! ### One message -/

/-- An extension lies between the expected rate and twice the expected rate. -/
theorem timerExtension_mem {lastArrival : Option Int}
    (h : timerExtension now lastArrival = some extension) :
  50 * millisecond ≤ extension ∧ extension ≤ 100 * millisecond
  := by
  cases lastArrival with
  | none =>
      obtain rfl := Option.some.inj h
      decide
  | some last =>
      simp only [timerExtension] at h
      split at h
      · split at h
        · obtain rfl := Option.some.inj h
          simp only [baseExtension, expectedRate, maxLateness, millisecond] at *
          omega
        · cases h
      · obtain rfl := Option.some.inj h
        decide

/-- A message is not too late when it comes within 100 ms of the last one. -/
theorem timerExtension_isSome_iff (now last : Int) :
  (timerExtension now (some last)).isSome = true ↔ now - last ≤ 100 * millisecond
  := by
  rw [timerExtension]
  by_cases hlate : 0 < now - last - expectedRate
  · rw [if_pos hlate]
    by_cases hwithin : now - last - expectedRate ≤ maxLateness
    · rw [if_pos hwithin]
      apply iff_of_true rfl
      simp only [expectedRate, maxLateness, millisecond] at hwithin ⊢
      omega
    · rw [if_neg hwithin]
      apply iff_of_false Bool.false_ne_true
      simp only [expectedRate, maxLateness, millisecond] at hwithin ⊢
      omega
  · rw [if_neg hlate]
    apply iff_of_true rfl
    simp only [expectedRate, millisecond] at hlate ⊢
    omega

theorem handle_of_accepted
    (h : (handleHidRPCKeypressKeepAlive session now).2 = some extension) :
  timerExtension now session.lastKeepAliveArrivalTime = some extension ∧
    (handleHidRPCKeypressKeepAlive session now).1
      = { lastKeepAliveArrivalTime := some now, lastTimerResetTime := some now }
  := by
  rw [handleHidRPCKeypressKeepAlive] at h ⊢
  split at h
  · cases h
  · rename_i hfresh
    rw [if_neg hfresh]
    cases hextension : timerExtension now session.lastKeepAliveArrivalTime with
    | none =>
        rw [hextension] at h
        cases h
    | some extension' =>
        rw [hextension] at h
        exact ⟨h, rfl⟩

theorem handle_of_rejected (h : (handleHidRPCKeypressKeepAlive session now).2 = none) :
  (handleHidRPCKeypressKeepAlive session now).1 = session
  := by
  rw [handleHidRPCKeypressKeepAlive] at h ⊢
  split at h
  · rename_i hstale
    rw [if_pos hstale]
  · rename_i hfresh
    rw [if_neg hfresh]
    cases hextension : timerExtension now session.lastKeepAliveArrivalTime with
    | none => rfl
    | some extension =>
        rw [hextension] at h
        cases h

/-- Both times are the same. -/
def SameTimes (session : KeepAliveTimes) : Prop :=
  session.lastKeepAliveArrivalTime = session.lastTimerResetTime

/-- The last accepted message is more than 100 ms ago. -/
def Stalled (session : KeepAliveTimes) (now : Int) : Prop :=
  ∃ last, session.lastKeepAliveArrivalTime = some last ∧ 100 * millisecond < now - last

/-- While the times are the same, exactly the messages that come more than 100 ms after the
last accepted one are rejected. -/
theorem rejected_iff (h : SameTimes session) :
  (handleHidRPCKeypressKeepAlive session now).2 = none ↔ Stalled session now
  := by
  rw [handleHidRPCKeypressKeepAlive, ← h, Stalled]
  cases session.lastKeepAliveArrivalTime with
  | none => simp [timerExtension]
  | some last =>
      simp only [Option.mem_def, Option.some.injEq, exists_eq_left']
      by_cases hstale : maxStaleness < now - last
      · rw [if_pos hstale]
        apply iff_of_true rfl
        simp only [maxStaleness, millisecond] at hstale ⊢
        omega
      · rw [if_neg hstale]
        have hlate := timerExtension_isSome_iff now last
        cases hextension : timerExtension now (some last) with
        | none =>
            rw [hextension] at hlate
            apply iff_of_true rfl
            apply Int.not_le.mp
            intro hle
            cases hlate.mpr hle
        | some extension =>
            rw [hextension] at hlate
            apply iff_of_false
            · intro hnone
              cases hnone
            · apply Int.not_lt.mpr (hlate.mp rfl)

/-! ### One step -/

/-- What a transition does: it resets the times, or its message is rejected and nothing is
changed, or its message is accepted and moves the timers. -/
theorem keepAliveStep_cases (h : keepAliveLts.step e.before e.action e.after) :
  (Resets e ∧ e.after = { e.before with times := resetKeepAliveTime }) ∨
    ∃ now, e.action = .keepAlive now ∧ e.before.now ≤ now ∧ e.after.now = now ∧
      ((Rejects e ∧ e.after.times = e.before.times ∧ e.after.timers = e.before.timers) ∨
        ∃ extension, AcceptsWith e extension ∧
          timerExtension now e.before.times.lastKeepAliveArrivalTime = some extension ∧
          e.after.times = ⟨some now, some now⟩ ∧
          e.after.timers = delayAutoReleaseWithDuration e.before.timers now extension)
  := by
  obtain ⟨s, a, t⟩ := e
  dsimp only at h
  cases a with
  | reset =>
      obtain rfl := Option.some.inj h
      exact Or.inl ⟨rfl, rfl⟩
  | keepAlive now =>
      obtain ⟨hle, hnext⟩ := Option.ite_none_right_eq_some.mp h
      obtain rfl := Option.some.inj hnext
      refine Or.inr ⟨now, rfl, hle, rfl, ?_⟩
      cases hresult : (handleHidRPCKeypressKeepAlive s.times now).2 with
      | none =>
          left
          exact ⟨⟨now, rfl, hresult⟩, handle_of_rejected hresult, rfl⟩
      | some extension =>
          right
          obtain ⟨hextension, htimes⟩ := handle_of_accepted hresult
          exact ⟨extension, ⟨now, rfl, hresult⟩, hextension, htimes, rfl⟩

/-- A message is not both accepted and rejected. -/
theorem not_accepts_of_rejects (h : Rejects e) :
  ¬ Accepts e
  := by
  rintro ⟨extension, now, haction, hsome⟩
  obtain ⟨now', haction', hnone⟩ := h
  rw [haction] at haction'
  obtain rfl : now = now' := KeepAliveAction.keepAlive.inj haction'
  rw [hnone] at hsome
  cases hsome

theorem sameTimes_of_run (run : keepAliveLts.Run s tr t) (h : SameTimes s.times) :
  SameTimes t.times
  := by
  apply run.invariant (I := fun s => SameTimes s.times) h
  intro e _ hbefore step
  rcases keepAliveStep_cases step with ⟨-, hafter⟩ | ⟨now, -, -, -, hafter⟩
  · rw [hafter]
    rfl
  · rcases hafter with ⟨-, htimes, -⟩ | ⟨extension, -, -, htimes, -⟩
    · rw [htimes]
      apply hbefore
    · rw [htimes]
      rfl

/-- Messages that are all rejected, without a reset, leave the times and the timers as they
are. -/
theorem same_of_rejected (run : keepAliveLts.Run s tr t) (hresets : ∀ e ∈ tr, ¬ Resets e)
    (haccepts : ∀ e ∈ tr, ¬ Accepts e) :
  t.times = s.times ∧ t.timers = s.timers
  := by
  apply run.invariant (I := fun t => t.times = s.times ∧ t.timers = s.timers) ⟨rfl, rfl⟩
  intro e he hbefore step
  rcases keepAliveStep_cases step with ⟨hreset, -⟩ | ⟨now, -, -, -, hafter⟩
  · exact absurd hreset (hresets e he)
  · rcases hafter with ⟨-, htimes, htimers⟩ | ⟨extension, haccept, -⟩
    · rw [htimes, htimers]
      apply hbefore
    · exact absurd ⟨extension, haccept⟩ (haccepts e he)

/-- Messages without an accepted one between them leave the timers as they are. -/
theorem timers_of_not_accepted (run : keepAliveLts.Run s tr t)
    (haccepts : ∀ e ∈ tr, ¬ Accepts e) :
  t.timers = s.timers
  := by
  apply run.invariant (I := fun t => t.timers = s.timers) rfl
  intro e he hbefore step
  rcases keepAliveStep_cases step with ⟨-, hafter⟩ | ⟨now, -, -, -, hafter⟩
  · rw [hafter]
    apply hbefore
  · rcases hafter with ⟨-, -, htimers⟩ | ⟨extension, haccept, -⟩
    · rw [htimers]
      apply hbefore
    · exact absurd ⟨extension, haccept⟩ (haccepts e he)

/-- Once the last accepted message is more than 100 ms ago, this stays so until a reset. -/
theorem stalled_of_run (run : keepAliveLts.Run s tr t) (hresets : ∀ e ∈ tr, ¬ Resets e)
    (hsame : SameTimes s.times) (h : Stalled s.times s.now) :
  Stalled t.times t.now
  := by
  have hboth : SameTimes t.times ∧ Stalled t.times t.now := by
    apply run.invariant (I := fun s => SameTimes s.times ∧ Stalled s.times s.now) ⟨hsame, h⟩
    rintro e he ⟨hsame, last, hlast, hlate⟩ step
    rcases keepAliveStep_cases step with ⟨hreset, -⟩ | ⟨now, haction, hle, hnow, hafter⟩
    · exact absurd hreset (hresets e he)
    · have hstalled : Stalled e.before.times now := ⟨last, hlast, by omega⟩
      rcases hafter with ⟨-, htimes, -⟩ | ⟨extension, ⟨now', haction', haccepted⟩, -⟩
      · rw [htimes, hnow]
        exact ⟨hsame, hstalled⟩
      · rw [haction] at haction'
        obtain rfl : now = now' := KeepAliveAction.keepAlive.inj haction'
        rw [(rejected_iff hsame).mpr hstalled] at haccepted
        cases haccepted
  apply hboth.2

/-! ### Runs of messages and resets -/

/-- What the messages of a run cannot do. Both times stay the same. Extensions lie between 50
and 100 ms. Accepted messages that follow each other without a reset are at most 100 ms apart.
Once a message has been rejected, no later one is accepted before a reset. And when no later
message is accepted, all timers are due within 100 ms of an accepted one. -/
structure HoldsBounded (tr : List (Lts.Transition KeepAliveState KeepAliveAction))
    (t : KeepAliveState) : Prop where
  same : SameTimes t.times ∧ ∀ e ∈ tr, SameTimes e.before.times
  extension : ∀ e ∈ tr, ∀ extension, AcceptsWith e extension →
    50 * millisecond ≤ extension ∧ extension ≤ 100 * millisecond
  apart : ∀ front e between e' back, tr = front ++ e :: (between ++ e' :: back) →
    Accepts e → Accepts e' → (∀ m ∈ between, ¬ Resets m) → (∀ m ∈ between, ¬ Accepts m) →
    e'.after.now - e.after.now ≤ 100 * millisecond
  rejected : ∀ front e between e' back, tr = front ++ e :: (between ++ e' :: back) →
    Rejects e → (∀ m ∈ between, ¬ Resets m) → ¬ Accepts e'
  due : ∀ front e back, tr = front ++ e :: back → Accepts e → (∀ m ∈ back, ¬ Accepts m) →
    ∀ key, ∀ deadline ∈ t.timers key, deadline ≤ e.after.now + 100 * millisecond

/-- A transition of a run from the initial times, and what comes after it. -/
theorem run_split {back front : List (Lts.Transition KeepAliveState KeepAliveAction)}
    (run : keepAliveLts.Run s (front ++ e :: back) t) (h : SameTimes s.times) :
  SameTimes e.before.times ∧ keepAliveLts.step e.before e.action e.after ∧
    SameTimes e.after.times ∧ keepAliveLts.Run e.after back t
  := by
  obtain ⟨u, hfront, hback⟩ := Lts.run_append run
  obtain ⟨rfl, step, hrest⟩ := Lts.run_cons hback
  have hbefore := sameTimes_of_run hfront h
  exact ⟨hbefore, step, sameTimes_of_run (Lts.Run.nil.snoc step) hbefore, hrest⟩

/-- What an accepted message leaves. -/
theorem accepted_step (step : keepAliveLts.step e.before e.action e.after) (h : Accepts e) :
  ∃ extension, AcceptsWith e extension ∧
    timerExtension e.after.now e.before.times.lastKeepAliveArrivalTime = some extension ∧
    e.after.times = ⟨some e.after.now, some e.after.now⟩ ∧
    e.after.timers = delayAutoReleaseWithDuration e.before.timers e.after.now extension
  := by
  rcases keepAliveStep_cases step with ⟨hreset, -⟩ | ⟨now, -, -, rfl, hafter⟩
  · obtain ⟨extension, now, haction, -⟩ := h
    rw [Resets, haction] at hreset
    cases hreset
  · rcases hafter with ⟨hrejects, -⟩ | ⟨extension, haccepts⟩
    · exact absurd h (not_accepts_of_rejects hrejects)
    · exact ⟨extension, haccepts⟩

theorem HoldsBounded.of_run (run : keepAliveLts.Run s tr t) (h : SameTimes s.times) :
  HoldsBounded tr t
  := by
  constructor
  · use sameTimes_of_run run h
    intro e he
    obtain ⟨front, back, rfl⟩ := List.append_of_mem he
    apply (run_split run h).1
  · rintro e he extension ⟨now, -, hsome⟩
    exact timerExtension_mem (handle_of_accepted hsome).1
  · rintro front e between e' back rfl haccepts haccepts' hresets hnone
    obtain ⟨-, step, hsame, hrest⟩ := run_split run h
    obtain ⟨-, -, -, htimes, -⟩ := accepted_step step haccepts
    obtain ⟨u, hbetween, hback⟩ := Lts.run_append hrest
    obtain ⟨rfl, step', -⟩ := Lts.run_cons hback
    obtain ⟨extension, -, hextension, -, -⟩ := accepted_step step' haccepts'
    rw [(same_of_rejected hbetween hresets hnone).1, htimes] at hextension
    apply (timerExtension_isSome_iff _ _).mp
    rw [hextension]
    rfl
  · rintro front e between e' back rfl hrejects hresets ⟨extension, now, haction, haccepted⟩
    obtain ⟨hbefore, step, hsame, hrest⟩ := run_split run h
    have hstalled : Stalled e.after.times e.after.now := by
      rcases keepAliveStep_cases step with ⟨hreset, -⟩ | ⟨now, hkeepAlive, -, hnow, hafter⟩
      · obtain ⟨now, hkeepAlive, -⟩ := hrejects
        rw [Resets, hkeepAlive] at hreset
        cases hreset
      · obtain ⟨now', hkeepAlive', hnone⟩ := hrejects
        rw [hkeepAlive] at hkeepAlive'
        obtain rfl : now = now' := KeepAliveAction.keepAlive.inj hkeepAlive'
        rcases hafter with ⟨-, htimes, -⟩ | ⟨extension, haccepts, -⟩
        · rw [htimes, hnow]
          apply (rejected_iff hbefore).mp hnone
        · exact absurd ⟨extension, haccepts⟩ (not_accepts_of_rejects ⟨now, hkeepAlive, hnone⟩)
    obtain ⟨u, hbetween, hback⟩ := Lts.run_append hrest
    obtain ⟨rfl, step', -⟩ := Lts.run_cons hback
    obtain ⟨last, hlast, hlate⟩ := stalled_of_run hbetween hresets hsame hstalled
    have hsame' := sameTimes_of_run hbetween hsame
    rcases keepAliveStep_cases step' with ⟨hreset, -⟩ | ⟨now', haction', hle, -, -⟩
    · rw [Resets, haction] at hreset
      cases hreset
    · rw [haction] at haction'
      obtain rfl : now = now' := KeepAliveAction.keepAlive.inj haction'
      rw [(rejected_iff hsame').mpr ⟨last, hlast, by omega⟩] at haccepted
      cases haccepted
  · rintro front e back rfl haccepts hnone key deadline hdeadline
    obtain ⟨-, step, -, hrest⟩ := run_split run h
    obtain ⟨extension, -, hextension, -, htimers⟩ := accepted_step step haccepts
    rw [timers_of_not_accepted hrest hnone, htimers] at hdeadline
    obtain ⟨-, -, rfl⟩ := Option.map_eq_some_iff.mp hdeadline
    have hle := (timerExtension_mem hextension).2
    omega

/-- Keep-alive messages of a new session cannot revive or over-extend a hold. -/
theorem keepAlives_bounded (run : keepAliveLts.Run s tr t) (new : s.times = resetKeepAliveTime) :
  HoldsBounded tr t
  := by
  apply HoldsBounded.of_run run
  rw [new]
  rfl

/-- A timer is due after 100 ms. One message comes after 40 ms, the next one 70 ms later, and the
one that comes another 120 ms later is too late. -/
theorem keepAlives_bounded_late :
  ∃ tr t, keepAliveLts.Run ⟨resetKeepAliveTime, fun _ => some (100 * millisecond), 0⟩ tr t ∧
    t.timers 0x04 = some (190 * millisecond) ∧ HoldsBounded tr t
  := by
  obtain ⟨tr, t, run, -, hobserve⟩ :=
    Lts.exists_run_of_observe keepAliveStep
      ⟨resetKeepAliveTime, fun _ => some (100 * millisecond), 0⟩
      [.keepAlive (40 * millisecond), .keepAlive (110 * millisecond),
        .keepAlive (230 * millisecond)]
      (fun t => decide (t.timers 0x04 = some (190 * millisecond)))
      (by decide +kernel : _ = some true)
  use tr, t, run, of_decide_eq_true hobserve
  exact keepAlives_bounded run rfl

end JetKvm
