import JetKvm.Keyboard.Gadget
import JetKvm.Session.KeepAlive
import Mathlib.Data.Fintype.Card
import Mathlib.Data.FinEnum

/-!
# How long keys are held

The keyboard of one session with a clock: keys are pressed and released, keep-alive messages
arrive, and timers fire when they are due. An accepted message gives all timers one new
deadline, which is computed from the message before it and not from the deadlines that it
replaces. A key that is pressed again while it is held starts its timer anew without resetting
the times of the messages, and then the next message may move its deadline forward.
-/

namespace JetKvm

/-- How long after its start a timer of a key is due. -/
def autoReleaseDuration : Int := 100 * millisecond

/-- A gadget whose timers have deadlines, the times of the messages of the session, and the
time of the last event. -/
structure TimedKeyboard where
  gadget : UsbGadget
  times : KeepAliveTimes
  timers : Deadlines
  now : Int

/-- A `KeypressReport` call, a keep-alive message, or a timer that fires. -/
inductive TimedAction where
  | keypress (now : Int) (key : UInt8) (press : Bool) (write : HidWrite)
  | keepAlive (now : Int)
  | fire (key : UInt8) (write : HidWrite)
deriving DecidableEq, Repr

namespace TimedKeyboard

/-- The deadlines once `state` has been reported for the press or the release of a key. -/
def deadlinesAfter (timers : Deadlines) (now : Int) (key : UInt8) (press : Bool)
    (state : KeysDownState) : Deadlines :=
  if isModifier key then timers
  else if state.keys.head? = some hidErrorRollOver ∨ press = false then
    Function.update timers key none
  else Function.update timers key (some (now + autoReleaseDuration))

/-- What `onKeysDownChange` does to the times of the messages when the gadget becomes `u`. -/
def timesAfter (s : TimedKeyboard) (u : UsbGadget) : KeepAliveTimes :=
  if u.keysDownState = s.gadget.keysDownState then s.times else resetKeepAliveTime

/-- An event may happen now: it does not come before an earlier one, and no timer was due
before. -/
def MayHappen (s : TimedKeyboard) (now : Int) : Prop :=
  s.now ≤ now ∧ ∀ key, ∀ deadline ∈ s.timers key, now ≤ deadline

instance (s : TimedKeyboard) (now : Int) : Decidable (s.MayHappen now) :=
  inferInstanceAs (Decidable (_ ∧ _))

/-- The next state. A timer fires at its deadline. -/
def step (s : TimedKeyboard) : TimedAction → Option TimedKeyboard
  | .keypress now key press write =>
      if s.MayHappen now then
        let reported := s.gadget.keypressReport key press write
        let gadget := (s.gadget.KeypressReport key press write).1
        some
          { gadget := gadget
            times := s.timesAfter gadget
            timers := deadlinesAfter s.timers now key press reported.2.1
            now := now }
      else none
  | .keepAlive now =>
      if s.MayHappen now then
        let handled := handleHidRPCKeypressKeepAlive s.times now
        some
          { s with
            times := handled.1
            timers := delayTimers s.timers now handled.2
            now := now }
      else none
  | .fire key write =>
      (s.timers key).bind fun deadline =>
        if s.MayHappen deadline then
          let gadget := s.gadget.performAutoRelease key write
          some
            { gadget := gadget
              times := s.timesAfter gadget
              timers := Function.update s.timers key none
              now := deadline }
        else none

end TimedKeyboard

/-- Runs of presses, releases, messages and timers of one session. -/
def timedLts : Lts TimedKeyboard TimedAction :=
  Lts.ofStep TimedKeyboard.step

/-- The message of a transition is accepted. -/
def AcceptsKeepAlive (e : Lts.Transition TimedKeyboard TimedAction) : Prop :=
  ∃ now extension, e.action = .keepAlive now ∧
    (handleHidRPCKeypressKeepAlive e.before.times now).2 = some extension

/-- No timer comes to be due earlier than it was. -/
def KeepsDeadlines (e : Lts.Transition TimedKeyboard TimedAction) : Prop :=
  ∀ key, ∀ deadline ∈ e.before.timers key, ∃ later ∈ e.after.timers key, deadline ≤ later

namespace TimedKeyboard

/-- No timer is due later than one that is started when the next message is expected. -/
def DueInTime (s : TimedKeyboard) : Prop :=
  ∀ last ∈ s.times.lastKeepAliveArrivalTime, ∀ key, ∀ deadline ∈ s.timers key,
    deadline ≤ last + expectedRate + autoReleaseDuration

/-- No timer is due later than one that is started now. -/
def DueSoon (s : TimedKeyboard) : Prop :=
  ∀ key, ∀ deadline ∈ s.timers key, deadline ≤ s.now + autoReleaseDuration

/-- The timers that have deadlines are those that run in the gadget. -/
def TimersRun (s : TimedKeyboard) : Prop :=
  ∀ key, (s.timers key).isSome = true ↔ s.gadget.kbdAutoReleaseTimers key = some .armed

/-- The keyboard at the begin of a session. -/
structure Begins (s : TimedKeyboard) : Prop where
  times : s.times = resetKeepAliveTime
  soon : s.DueSoon

/-- What holds in every state of a session. -/
structure Paced (s : TimedKeyboard) : Prop where
  same : SameTimes s.times
  soon : s.DueSoon

end TimedKeyboard

variable {s t : TimedKeyboard} {u : UsbGadget} {timers : Deadlines} {now deadline : Int}
  {key : UInt8} {press : Bool} {state : KeysDownState}
  {e : Lts.Transition TimedKeyboard TimedAction}
  {tr : List (Lts.Transition TimedKeyboard TimedAction)}

/-! ### Deadlines -/

/-- A deadline after a press or a release was one before, or is that of a press. -/
theorem deadlinesAfter_cases {k : UInt8}
    (h : deadline ∈ TimedKeyboard.deadlinesAfter timers now key press state k) :
  deadline ∈ timers k ∨
    press = true ∧ k = key ∧ deadline = now + autoReleaseDuration
  := by
  rw [TimedKeyboard.deadlinesAfter] at h
  split at h
  · exact Or.inl h
  · by_cases hk : k = key
    · subst hk
      split at h
      · rw [Function.update_self] at h
        cases h
      · rename_i hstart
        rw [Function.update_self] at h
        obtain rfl := Option.some.inj h
        right
        simpa using (not_or.mp hstart).2
    · left
      split at h <;> rwa [Function.update_of_ne hk] at h

/-- A deadline after a timer has been removed was one before. -/
theorem mem_of_mem_update_none {k : UInt8} (h : deadline ∈ Function.update timers key none k) :
  deadline ∈ timers k
  := by
  by_cases hk : k = key
  · subst hk
    rw [Function.update_self] at h
    cases h
  · rwa [Function.update_of_ne hk] at h

/-- All timers that are delayed are due at the same time. -/
theorem mem_delayed_iff {resetDuration : Int} :
  deadline ∈ delayAutoReleaseWithDuration timers now resetDuration key ↔
    (timers key).isSome = true ∧ deadline = now + resetDuration
  := by
  rw [delayAutoReleaseWithDuration]
  cases timers key with
  | none => simp
  | some before => simp [eq_comm]

/-- The times are reset exactly when the keys that are down change. -/
theorem timesAfter_cases (s : TimedKeyboard) (u : UsbGadget) :
  s.timesAfter u = s.times ∨ s.timesAfter u = resetKeepAliveTime
  := by
  rw [TimedKeyboard.timesAfter]
  split
  · exact Or.inl rfl
  · exact Or.inr rfl

/-! ### One step -/

/-- What a transition does: the times are kept or reset, and deadlines are removed or started
now; or a message is accepted and moves all deadlines; or a message is rejected. -/
theorem timedStep_cases (h : timedLts.step e.before e.action e.after) :
  e.before.MayHappen e.after.now ∧
    ((∃ key press write, e.action = .keypress e.after.now key press write ∧
        e.after.times = e.before.timesAfter e.after.gadget ∧
        ∀ k, ∀ deadline ∈ e.after.timers k, deadline ∈ e.before.timers k ∨
          press = true ∧ deadline = e.after.now + autoReleaseDuration) ∨
      (∃ key write, e.action = .fire key write ∧
        e.after.times = e.before.timesAfter e.after.gadget ∧
        ∀ k, ∀ deadline ∈ e.after.timers k, deadline ∈ e.before.timers k) ∨
      e.action = .keepAlive e.after.now ∧
        e.after.times = (handleHidRPCKeypressKeepAlive e.before.times e.after.now).1 ∧
        e.after.timers = delayTimers e.before.timers e.after.now
          (handleHidRPCKeypressKeepAlive e.before.times e.after.now).2)
  := by
  obtain ⟨s, a, t⟩ := e
  dsimp only at h
  cases a with
  | keypress now key press write =>
      obtain ⟨hmay, hnext⟩ := Option.ite_none_right_eq_some.mp h
      obtain rfl := Option.some.inj hnext
      refine ⟨hmay, Or.inl ⟨key, press, write, rfl, rfl, ?_⟩⟩
      intro k deadline hdeadline
      rcases deadlinesAfter_cases hdeadline with hbefore | ⟨hpress, -, hstart⟩
      · exact Or.inl hbefore
      · exact Or.inr ⟨hpress, hstart⟩
  | keepAlive now =>
      obtain ⟨hmay, hnext⟩ := Option.ite_none_right_eq_some.mp h
      obtain rfl := Option.some.inj hnext
      exact ⟨hmay, Or.inr (Or.inr ⟨rfl, rfl, rfl⟩)⟩
  | fire key write =>
      obtain ⟨deadline, -, hrest⟩ := Option.bind_eq_some_iff.mp h
      obtain ⟨hmay, hnext⟩ := Option.ite_none_right_eq_some.mp hrest
      obtain rfl := Option.some.inj hnext
      refine ⟨hmay, Or.inr (Or.inl ⟨key, write, rfl, rfl, ?_⟩)⟩
      intro k deadline hdeadline
      apply mem_of_mem_update_none hdeadline

namespace TimedKeyboard

/-- Deadlines that were there before are still due soon. -/
theorem DueSoon.mono (h : s.DueSoon) (hle : s.now ≤ t.now)
    (htimers : ∀ k, ∀ deadline ∈ t.timers k,
      deadline ∈ s.timers k ∨ deadline = t.now + autoReleaseDuration) :
  t.DueSoon
  := by
  intro k deadline hdeadline
  rcases htimers k deadline hdeadline with hbefore | rfl
  · have hsoon := h k deadline hbefore
    omega
  · apply Int.le_refl

theorem sameTimes_timesAfter (h : SameTimes s.times) (u : UsbGadget) :
  SameTimes (s.timesAfter u)
  := by
  rcases timesAfter_cases s u with htimes | htimes
  · rw [htimes]
    apply h
  · rw [htimes]
    rfl

/-- Every step keeps the pace. -/
theorem Paced.step (h : e.before.Paced) (step : timedLts.step e.before e.action e.after) :
  e.after.Paced
  := by
  obtain ⟨hmay, hcases⟩ := timedStep_cases step
  rcases hcases with ⟨key, press, write, -, htimes, htimers⟩ |
    ⟨key, write, -, htimes, htimers⟩ | ⟨-, htimes, htimers⟩
  · constructor
    · rw [htimes]
      apply sameTimes_timesAfter h.same
    · apply h.soon.mono hmay.1
      intro k deadline hdeadline
      exact (htimers k deadline hdeadline).imp_right And.right
  · constructor
    · rw [htimes]
      apply sameTimes_timesAfter h.same
    · apply h.soon.mono hmay.1
      intro k deadline hdeadline
      exact Or.inl (htimers k deadline hdeadline)
  · cases hresult : (handleHidRPCKeypressKeepAlive e.before.times e.after.now).2 with
    | none =>
        rw [hresult] at htimers
        constructor
        · rw [htimes, handle_of_rejected hresult]
          apply h.same
        · apply h.soon.mono hmay.1
          intro k deadline hdeadline
          rw [htimers] at hdeadline
          exact Or.inl hdeadline
    | some extension =>
        obtain ⟨hextension, hafter⟩ := handle_of_accepted hresult
        have hle := (timerExtension_mem hextension).2
        rw [hresult] at htimers
        constructor
        · rw [htimes, hafter]
          rfl
        · intro k deadline hdeadline
          rw [htimers] at hdeadline
          obtain ⟨-, rfl⟩ := mem_delayed_iff.mp hdeadline
          simp only [autoReleaseDuration]
          omega

/-- The deadlines stay those of the timers that run in the gadget. -/
theorem TimersRun.step (h : e.before.TimersRun)
    (step : timedLts.step e.before e.action e.after) :
  e.after.TimersRun
  := by
  obtain ⟨s, a, t⟩ := e
  dsimp only at h step ⊢
  cases a with
  | keypress now key press write =>
      obtain ⟨-, hnext⟩ := Option.ite_none_right_eq_some.mp step
      obtain rfl := Option.some.inj hnext
      intro k
      simp only [deadlinesAfter, UsbGadget.keypressReport_state]
      cases hmodifier : isModifier key with
      | true =>
          simp only [UsbGadget.KeypressReport, UsbGadget.updateTimer_modifier hmodifier,
            UsbGadget.keypressReport_timers, if_true]
          apply h k
      | false =>
          rw [UsbGadget.KeypressReport_timers hmodifier]
          by_cases hk : k = key
          · subst hk
            simp only [Bool.false_eq_true, if_false, Function.update_self]
            split <;> simp
          · simp only [Bool.false_eq_true, if_false, Function.update_of_ne hk]
            split <;> simp only [Function.update_of_ne hk] <;> apply h k
  | keepAlive now =>
      obtain ⟨-, hnext⟩ := Option.ite_none_right_eq_some.mp step
      obtain rfl := Option.some.inj hnext
      intro k
      rw [← h k]
      dsimp only
      cases (handleHidRPCKeypressKeepAlive s.times now).2 with
      | none => apply Iff.rfl
      | some extension =>
          rw [delayTimers, delayAutoReleaseWithDuration, Option.isSome_map]
  | fire key write =>
      obtain ⟨deadline, hdeadline, hrest⟩ := Option.bind_eq_some_iff.mp step
      obtain ⟨-, hnext⟩ := Option.ite_none_right_eq_some.mp hrest
      obtain rfl := Option.some.inj hnext
      have harmed := (h key).mp (Option.isSome_iff_exists.mpr ⟨deadline, hdeadline⟩)
      intro k
      dsimp only
      rw [UsbGadget.performAutoRelease_some harmed]
      have htimers : ∀ u : UsbGadget,
          u.kbdAutoReleaseTimers = Function.update s.gadget.kbdAutoReleaseTimers key none →
          ((Function.update s.timers key none k).isSome = true ↔
            u.kbdAutoReleaseTimers k = some .armed) := by
        rintro u hu
        rw [hu]
        by_cases hk : k = key
        · subst hk
          simp
        · rw [Function.update_of_ne hk, Function.update_of_ne hk]
          apply h k
      apply htimers
      split
      · rw [UsbGadget.keypressReport_timers]
        rfl
      · rfl

theorem Begins.paced (h : s.Begins) :
  s.Paced
  := by
  constructor
  · rw [h.times]
    rfl
  · apply h.soon

end TimedKeyboard

/-! ### Accepted messages -/

/-- An accepted message gives all timers the deadline that its extension leads to. -/
theorem accepted_timers (step : timedLts.step e.before e.action e.after)
    (h : AcceptsKeepAlive e) :
  ∃ extension,
    timerExtension e.after.now e.before.times.lastKeepAliveArrivalTime = some extension ∧
    e.after.timers = delayAutoReleaseWithDuration e.before.timers e.after.now extension
  := by
  obtain ⟨now, extension, haction, haccepted⟩ := h
  obtain ⟨-, hcases⟩ := timedStep_cases step
  rcases hcases with ⟨key, press, write, hkeypress, -⟩ | ⟨key, write, hfire, -⟩ |
    ⟨hkeepAlive, -, htimers⟩
  · rw [haction] at hkeypress
    cases hkeypress
  · rw [haction] at hfire
    cases hfire
  · rw [haction] at hkeepAlive
    obtain rfl : now = e.after.now := TimedAction.keepAlive.inj hkeepAlive
    rw [haccepted] at htimers
    exact ⟨extension, (handle_of_accepted haccepted).1, htimers⟩

/-- The new deadline is the one that the message before allows for, unless the message comes no
later than expected. -/
theorem extended_eq {last extension : Int}
    (h : timerExtension now (some last) = some extension) :
  now ≤ last + expectedRate ∧ now + extension = now + autoReleaseDuration ∨
    last + expectedRate < now ∧ now + extension = last + expectedRate + autoReleaseDuration
  := by
  simp only [timerExtension] at h
  split at h
  · split at h
    · obtain rfl := Option.some.inj h
      right
      simp only [baseExtension, expectedRate, maxLateness, autoReleaseDuration, millisecond] at *
      omega
    · cases h
  · obtain rfl := Option.some.inj h
    left
    simp only [baseExtension, expectedRate, maxLateness, autoReleaseDuration, millisecond] at *
    omega

/-- An accepted message moves no deadline to an earlier time exactly when all timers are due in
time. -/
theorem keepsDeadlines_iff (step : timedLts.step e.before e.action e.after)
    (paced : e.before.Paced) (accepted : AcceptsKeepAlive e) :
  KeepsDeadlines e ↔ e.before.DueInTime
  := by
  obtain ⟨extension, hextension, htimers⟩ := accepted_timers step accepted
  obtain ⟨hmay, -⟩ := timedStep_cases step
  have hsoon : ∀ key, ∀ deadline ∈ e.before.timers key,
      deadline ≤ e.after.now + autoReleaseDuration := by
    intro key deadline hdeadline
    have hle := paced.soon key deadline hdeadline
    have hnow := hmay.1
    omega
  have hkeeps : KeepsDeadlines e ↔ ∀ key, ∀ deadline ∈ e.before.timers key,
      deadline ≤ e.after.now + extension := by
    apply forall_congr'
    intro key
    apply forall₂_congr
    intro deadline hdeadline
    have hpending : (e.before.timers key).isSome = true :=
      Option.isSome_iff_exists.mpr ⟨deadline, hdeadline⟩
    rw [htimers]
    constructor
    · rintro ⟨later, hlater, hle⟩
      obtain ⟨-, rfl⟩ := mem_delayed_iff.mp hlater
      apply hle
    · intro hle
      use e.after.now + extension, mem_delayed_iff.mpr ⟨hpending, rfl⟩
  rw [hkeeps, TimedKeyboard.DueInTime]
  cases hlast : e.before.times.lastKeepAliveArrivalTime with
  | none =>
      rw [hlast] at hextension
      obtain rfl := Option.some.inj hextension
      apply iff_of_true
      · apply hsoon
      · intro last hnone
        cases hnone
  | some last =>
      rw [hlast] at hextension
      simp only [Option.mem_some_iff, forall_eq']
      rcases extended_eq hextension with ⟨hearly, heq⟩ | ⟨-, heq⟩
      · rw [heq]
        apply iff_of_true
        · apply hsoon
        · intro key deadline hdeadline
          have hle := hsoon key deadline hdeadline
          omega
      · rw [heq]

/-- In every run of a session, the accepted messages never shorten a hold exactly when all
timers are due in time whenever a message is accepted. -/
theorem keepAlives_keep_deadlines_iff (run : timedLts.Run s tr t) (begins : s.Begins) :
  (∀ e ∈ tr, AcceptsKeepAlive e → KeepsDeadlines e) ↔
    ∀ e ∈ tr, AcceptsKeepAlive e → e.before.DueInTime
  := by
  have hpaced := run.invariant_before begins.paced fun e _ h step => h.step step
  apply forall₂_congr
  intro e he
  apply forall_congr'
  intro accepted
  apply keepsDeadlines_iff (run.step_of_mem he) (hpaced e he) accepted

/-- The key `a` is pressed, a message arrives 40 ms later, and another one 70 ms after it. -/
theorem keepAlives_keep_deadlines_iff_held :
  ∃ tr t, timedLts.Run ⟨newUsbGadget, resetKeepAliveTime, fun _ => none, 0⟩ tr t ∧
    t.timers 0x04 = some (190 * millisecond) ∧
    ((∀ e ∈ tr, AcceptsKeepAlive e → KeepsDeadlines e) ↔
      ∀ e ∈ tr, AcceptsKeepAlive e → e.before.DueInTime)
  := by
  obtain ⟨tr, t, run, -, hobserve⟩ :=
    Lts.exists_run_of_observe TimedKeyboard.step
      ⟨newUsbGadget, resetKeepAliveTime, fun _ => none, 0⟩
      [.keypress 0 0x04 true .written, .keepAlive (40 * millisecond),
        .keepAlive (110 * millisecond)]
      (fun t => decide (t.timers 0x04 = some (190 * millisecond)))
      (by decide +kernel : _ = some true)
  use tr, t, run, of_decide_eq_true hobserve
  apply keepAlives_keep_deadlines_iff run
  constructor
  · rfl
  · intro key deadline hnone
    cases hnone

/-- A key is pressed again while it is held, 65 ms after a message. The next message, 70 ms after
the first one, moves the deadline from 175 ms to 160 ms. -/
theorem keepAlive_shortens_hold :
  ¬ ∀ (s t : TimedKeyboard) (tr : List (Lts.Transition TimedKeyboard TimedAction)),
    s.Begins → timedLts.Run s tr t → ∀ e ∈ tr, AcceptsKeepAlive e → KeepsDeadlines e
  := by
  intro claim
  obtain ⟨tr, s, run, -, hobserve⟩ :=
    Lts.exists_run_of_observe TimedKeyboard.step
      ⟨newUsbGadget, resetKeepAliveTime, fun _ => none, 0⟩
      [.keypress 0 0x04 true .written, .keepAlive (10 * millisecond),
        .keypress (75 * millisecond) 0x04 true .written]
      (fun s => decide (s.timers 0x04 = some (175 * millisecond) ∧
        (handleHidRPCKeypressKeepAlive s.times (80 * millisecond)).2
          = some (80 * millisecond) ∧
        (s.step (.keepAlive (80 * millisecond))).isSome = true))
      (by decide +kernel : _ = some true)
  obtain ⟨hbefore, haccepted, hmay⟩ := of_decide_eq_true hobserve
  obtain ⟨t, hstep⟩ := Option.isSome_iff_exists.mp hmay
  have begins : TimedKeyboard.Begins ⟨newUsbGadget, resetKeepAliveTime, fun _ => none, 0⟩ := by
    constructor
    · rfl
    · intro key deadline hnone
      cases hnone
  have accepts : AcceptsKeepAlive ⟨s, .keepAlive (80 * millisecond), t⟩ :=
    ⟨_, _, rfl, haccepted⟩
  have hkept := claim _ _ _ begins (run.snoc hstep) ⟨s, _, t⟩ (by simp) accepts
  obtain ⟨later, hlater, hle⟩ := hkept 0x04 _ hbefore
  obtain ⟨-, hnext⟩ := Option.ite_none_right_eq_some.mp hstep
  obtain rfl := Option.some.inj hnext
  rw [haccepted, delayTimers] at hlater
  obtain ⟨-, rfl⟩ := mem_delayed_iff.mp hlater
  revert hle
  decide

/-! ### Late presses -/

/-- A press leaves the keys that are down as they are, and comes later after the last accepted
message than the next one is expected. -/
def PressesLate (e : Lts.Transition TimedKeyboard TimedAction) : Prop :=
  ∃ key write, e.action = .keypress e.after.now key true write ∧
    e.after.gadget.keysDownState = e.before.gadget.keysDownState ∧
    ∃ last ∈ e.before.times.lastKeepAliveArrivalTime, last + expectedRate < e.after.now

/-- All timers stay due in time unless a press comes late. -/
theorem TimedKeyboard.DueInTime.step (h : e.before.DueInTime)
    (step : timedLts.step e.before e.action e.after) (hlate : ¬ PressesLate e) :
  e.after.DueInTime
  := by
  obtain ⟨-, hcases⟩ := timedStep_cases step
  rcases hcases with ⟨key, press, write, haction, htimes, htimers⟩ |
    ⟨key, write, -, htimes, htimers⟩ | ⟨-, htimes, htimers⟩
  · intro last hlast
    rw [htimes, TimedKeyboard.timesAfter] at hlast
    split at hlast
    · rename_i hsame
      intro k deadline hdeadline
      rcases htimers k deadline hdeadline with hbefore | ⟨hpress, hstart⟩
      · apply h last hlast k deadline hbefore
      · rw [hpress] at haction
        have hearly : ¬ last + expectedRate < e.after.now := fun hafter =>
          hlate ⟨key, write, haction, hsame, last, hlast, hafter⟩
        omega
    · cases hlast
  · intro last hlast k deadline hdeadline
    have hbefore := htimers k deadline hdeadline
    rcases timesAfter_cases e.before e.after.gadget with hkept | hreset
    · rw [htimes, hkept] at hlast
      apply h last hlast k deadline hbefore
    · rw [htimes, hreset] at hlast
      cases hlast
  · cases hresult : (handleHidRPCKeypressKeepAlive e.before.times e.after.now).2 with
    | none =>
        rw [handle_of_rejected hresult] at htimes
        rw [hresult] at htimers
        rw [TimedKeyboard.DueInTime, htimes, htimers]
        apply h
    | some extension =>
        obtain ⟨hextension, hafter⟩ := handle_of_accepted hresult
        have hle := (timerExtension_mem hextension).2
        rw [hafter] at htimes
        rw [hresult] at htimers
        intro last hlast k deadline hdeadline
        rw [htimes] at hlast
        obtain rfl : e.after.now = last := Option.some.inj hlast
        rw [htimers] at hdeadline
        obtain ⟨-, rfl⟩ := mem_delayed_iff.mp hdeadline
        simp only [expectedRate, autoReleaseDuration, millisecond] at *
        omega

/-- When no press comes late, accepted messages never shorten a hold. -/
theorem keepsDeadlines_of_not_pressesLate (run : timedLts.Run s tr t) (begins : s.Begins)
    (hlate : ∀ e ∈ tr, ¬ PressesLate e) :
  ∀ e ∈ tr, AcceptsKeepAlive e → KeepsDeadlines e
  := by
  have hpaced := run.invariant_before begins.paced fun e _ h step => h.step step
  have init : s.DueInTime := by
    intro last hlast
    rw [begins.times] at hlast
    cases hlast
  have hdue := run.invariant_before init fun e he h step => h.step step (hlate e he)
  intro e he accepted
  apply (keepsDeadlines_iff (run.step_of_mem he) (hpaced e he) accepted).mpr (hdue e he)

end JetKvm
