import JetKvm.Keyboard.AutoRelease
import JetKvm.Library.ThreadPool

/-!
# Releases on their way

`KeypressReport` updates the key buffer under `keyboardMutex` and then the timer of the key
under the lock of the timers, and the callback of a timer takes the same locks one after the
other. Any number of calls and callbacks interleave at these regions. Each key of the buffer
has a timer or a call on its way that will start its timer or release it, as long as no
release stops the timer of a key that has been pressed again in the meantime.
-/

namespace JetKvm

/-- Where a `KeypressReport` call or the callback of a timer is. -/
inductive KeypressCall where
  /-- At the beginning of `KeypressReport`. -/
  | keypressReport (key : UInt8) (press : Bool)
  /-- In `KeypressReport`, after the report, about to start or stop the timer of the key. -/
  | updateTimer (key : UInt8) (press : Bool) (state : KeysDownState)
  /-- A timer that has been created for the key. -/
  | timer (key : UInt8)
  /-- At the beginning of `performAutoRelease`. -/
  | autoRelease (key : UInt8)
  /-- In `performAutoRelease`, after the timer has been removed. -/
  | autoReleaseCheck (key : UInt8)
  /-- In `performAutoRelease`, about to report the release of the key. -/
  | autoReleaseReport (key : UInt8)
  | done
deriving DecidableEq, Repr

namespace KeypressCall

variable {Thread : Type*}

/-- One region of a call, with what becomes of its write. A timer that is not running and a
call that is done take no step. -/
def exec (_ : Thread) (write : HidWrite) (u : UsbGadget) :
    KeypressCall → Option (UsbGadget × KeypressCall)
  | keypressReport key press =>
      let next := u.keypressReport key press write
      some (next.1, updateTimer key press next.2.1)
  | updateTimer key press state => some (u.updateTimer key press state, done)
  | timer key =>
      if u.kbdAutoReleaseTimers key = some .armed then
        some (u.setTimer key (some .expired), autoRelease key)
      else none
  | autoRelease key =>
      if (u.kbdAutoReleaseTimers key).isNone then some (u, done)
      else some (u.setTimer key none, autoReleaseCheck key)
  | autoReleaseCheck key =>
      if key ∈ u.keysDownState.keys then some (u, autoReleaseReport key) else some (u, done)
  | autoReleaseReport key => some ((u.keypressReport key false write).1, done)
  | done => none

/-- Where a call may begin: `KeypressReport` for an ordinary key, or the timer of one. -/
inductive Begins : KeypressCall → Prop
  | keypressReport {key : UInt8} (press : Bool) (h : Ordinary key) :
      Begins (keypressReport key press)
  | timer {key : UInt8} (h : Ordinary key) : Begins (timer key)
  | done : Begins done

/-- The call is in progress. -/
def InProgress : KeypressCall → Bool
  | updateTimer .. | autoRelease _ | autoReleaseCheck _ | autoReleaseReport _ => true
  | _ => false

/-- The call is in progress and will start the timer of the key or release it. -/
def Settles (key : UInt8) : KeypressCall → Bool
  | updateTimer k press _ => key = k && press
  | autoReleaseCheck k => key = k
  | autoReleaseReport k => key = k
  | _ => false

/-- The key of a call is an ordinary one, and what its report has left in the first slot is
not an overflow. -/
def Sound : KeypressCall → Prop
  | keypressReport key _ | timer key | autoRelease key | autoReleaseCheck key
  | autoReleaseReport key => Ordinary key
  | updateTimer key _ state => Ordinary key ∧ state.keys.head? ≠ some hidErrorRollOver
  | done => True

theorem Begins.sound {g : KeypressCall} (h : g.Begins) :
  g.Sound
  := by
  cases h with
  | keypressReport press h => apply h
  | timer h => apply h
  | done => trivial

theorem inProgress_of_settles {g : KeypressCall} {key : UInt8} (h : g.Settles key = true) :
  g.InProgress = true
  := by
  cases g with
  | keypressReport | timer | autoRelease | done => cases h
  | updateTimer | autoReleaseCheck | autoReleaseReport => rfl

end KeypressCall

/-- The calls and the gadget that they share. -/
abbrev KeypressPool (Thread : Type*) := Pool UsbGadget KeypressCall Thread

/-- The interleavings of the calls and callbacks. -/
def keypressLts (Thread : Type*) [DecidableEq Thread] :
    Lts (KeypressPool Thread) (Thread × HidWrite) :=
  Pool.lts KeypressCall.exec

/-! ### The buffer -/

variable {u : UsbGadget} {held keys : List UInt8} {key : UInt8} {press : Bool}

/-- What is recorded of a buffer are all its keys or none. -/
theorem Holds.clearRollOver (h : Holds keys held) :
  ∃ recorded, Holds (clearRollOver keys) recorded ∧ recorded.Sublist held
  := by
  rw [JetKvm.clearRollOver]
  split
  · use []
    rw [List.map_const', h.length_eq]
    exact ⟨Holds.none, List.nil_sublist _⟩
  · exact ⟨held, h, List.Sublist.refl _⟩

/-- After the report of an ordinary key, each key of the buffer was in the buffer before and
has not been released, or has been pressed. -/
theorem Holds.keypressReport (h : Holds u.keysDownState.keys held) (nodup : held.Nodup)
    (hkey : Ordinary key) (press : Bool) (write : HidWrite) :
  ∃ recorded, Holds (u.keypressReport key press write).1.keysDownState.keys recorded ∧
    recorded.Nodup ∧
    ∀ k ∈ recorded, k = key ∧ press = true ∨ k ∈ held ∧ (press = true ∨ k ≠ key)
  := by
  rw [UsbGadget.keypressReport_keysDownState hkey.1, KeysDownState.after_ordinary hkey.2]
  dsimp only
  by_cases slot : FindsSlot u.keysDownState.keys key press
  · obtain ⟨recorded, hrecorded, hsub⟩ := (h.after slot).clearRollOver
    use recorded, hrecorded, List.Nodup.sublist hsub (nodup_heldAfter nodup key press)
    intro k hk
    apply mem_heldAfter nodup (hsub.subset hk)
  · use []
    rw [h.overrun slot, clearRollOver_rolledOver]
    exact ⟨Holds.none, List.nodup_nil, fun k hk => absurd hk List.not_mem_nil⟩

/-! ### The timers -/

/-- What an ordinary call does to the timer of its key when its report has not overflown. -/
theorem UsbGadget.updateTimer_eq {state : KeysDownState} (hkey : isModifier key = false)
    (hstate : state.keys.head? ≠ some hidErrorRollOver) :
  u.updateTimer key press state = u.setTimer key (if press then some .armed else none)
  := by
  rw [UsbGadget.updateTimer, hkey]
  cases press with
  | true => simp [hstate, UsbGadget.scheduleAutoRelease]
  | false => simp [UsbGadget.cancelAutoRelease]

/-! ### The invariant -/

section Invariant

variable {Thread : Type*} [DecidableEq Thread] {c c' : KeypressPool Thread}
  {a : Thread × HidWrite}

/-- Each key of the buffer has a timer or a call on its way to settle it, and the callback of
each timer that has expired is on its way. -/
structure ReleasesOnTheirWay (c : KeypressPool Thread) : Prop where
  buffer : ∃ held, Holds c.shared.keysDownState.keys held ∧ held.Nodup
  sound : ∀ i, (c.threads i).Sound
  expired : ∀ key, c.shared.kbdAutoReleaseTimers key = some .expired →
    ∃ i, c.threads i = .autoRelease key
  settled : ∀ key ∈ c.shared.keysDownState.keys, key ≠ 0 →
    c.shared.kbdAutoReleaseTimers key = none → ∃ i, (c.threads i).Settles key = true

/-- A release that is about to stop the timer of a key that is down leaves another call that
will start the timer again or release the key. -/
def LeavesRelease (c : KeypressPool Thread) (i : Thread) : Prop :=
  match c.threads i with
  | .updateTimer key false _ =>
      key ∈ c.shared.keysDownState.keys → key ≠ 0 →
        ∃ j, j ≠ i ∧ (c.threads j).Settles key = true
  | _ => True

instance [Fintype Thread] (c : KeypressPool Thread) (i : Thread) :
    Decidable (LeavesRelease c i) := by
  unfold LeavesRelease
  split <;> infer_instance

/-- After the report of a call, the keys of the buffer have their releases on their way if the
call settles the key that it has pressed. -/
theorem ReleasesOnTheirWay.report (h : ReleasesOnTheirWay c) {i : Thread} {g : KeypressCall}
    (hkey : Ordinary key) (hg : g.Sound)
    (hnot : ∀ k, c.threads i ≠ .autoRelease k)
    (hsettles : ∀ k, (c.threads i).Settles k = true → k = key ∧ press = false)
    (hpress : press = true → g.Settles key = true) (write : HidWrite) :
  ReleasesOnTheirWay
    ⟨(c.shared.keypressReport key press write).1, Function.update c.threads i g⟩
  := by
  obtain ⟨held, hholds, hnodup⟩ := h.buffer
  obtain ⟨recorded, hrecorded, hdistinct, hmem⟩ :=
    hholds.keypressReport hnodup hkey press write
  constructor
  · exact ⟨recorded, hrecorded, hdistinct⟩
  · exact Pool.forall_update h.sound hg
  · dsimp only
    intro k hexpired
    rw [UsbGadget.keypressReport_timers] at hexpired
    exact Pool.exists_update_of_not (· = .autoRelease k) g (h.expired k hexpired) (hnot k)
  · dsimp only
    intro k hk hzero hnone
    rw [UsbGadget.keypressReport_timers] at hnone
    rcases hmem k ((hrecorded.mem_iff hzero).mp hk) with ⟨rfl, hpressed⟩ | ⟨hheld, hkept⟩
    · exact Pool.exists_update_self (KeypressCall.Settles k · = true) i (hpress hpressed)
    · apply Pool.exists_update_of_not (KeypressCall.Settles k · = true) g
      · apply h.settled k ((hholds.mem_iff hzero).mpr hheld) hzero hnone
      · intro hi
        obtain ⟨rfl, hreleased⟩ := hsettles k hi
        rcases hkept with hpressed | hne
        · rw [hpressed] at hreleased
          cases hreleased
        · exact hne rfl

/-- When a call sets the timer of the key that it settles, the releases stay on their way if
a timer that has expired leaves its callback, and a timer that is removed leaves a call that
settles the key. -/
theorem ReleasesOnTheirWay.setTimer (h : ReleasesOnTheirWay c) {i : Thread} {g : KeypressCall}
    {timer : Option AutoReleaseTimer} (hg : g.Sound)
    (hnot : ∀ k, c.threads i = .autoRelease k → k = key)
    (hsettles : ∀ k, (c.threads i).Settles k = true → k = key)
    (hexpired : timer = some .expired → g = .autoRelease key)
    (hnone : timer = none → key ∈ c.shared.keysDownState.keys → key ≠ 0 →
      ∃ j, KeypressCall.Settles key (Function.update c.threads i g j) = true) :
  ReleasesOnTheirWay ⟨c.shared.setTimer key timer, Function.update c.threads i g⟩
  := by
  constructor
  · apply h.buffer
  · exact Pool.forall_update h.sound hg
  · intro k htimer
    dsimp only at htimer ⊢
    rw [UsbGadget.setTimer_timers] at htimer
    by_cases hk : k = key
    · subst hk
      rw [Function.update_self] at htimer
      exact Pool.exists_update_self (· = KeypressCall.autoRelease k) i (hexpired htimer)
    · rw [Function.update_of_ne hk] at htimer
      apply Pool.exists_update_of_not (· = .autoRelease k) g (h.expired k htimer)
      exact fun hi => hk (hnot k hi)
  · intro k hmem hzero htimer
    dsimp only at htimer ⊢
    rw [UsbGadget.setTimer_timers] at htimer
    by_cases hk : k = key
    · subst hk
      rw [Function.update_self] at htimer
      apply hnone htimer hmem hzero
    · rw [Function.update_of_ne hk] at htimer
      apply Pool.exists_update_of_not (KeypressCall.Settles k · = true) g
      · apply h.settled k hmem hzero htimer
      · exact fun hi => hk (hsettles k hi)

/-- When a call goes on without touching the gadget, the releases stay on their way if it is
not the callback of a timer that has expired, and goes on to settle what it was to settle. -/
theorem ReleasesOnTheirWay.goOn (h : ReleasesOnTheirWay c) {i : Thread} {g : KeypressCall}
    (hg : g.Sound)
    (hnot : ∀ k, c.threads i = .autoRelease k → c.shared.kbdAutoReleaseTimers k = none)
    (hsettles : ∀ k ∈ c.shared.keysDownState.keys, (c.threads i).Settles k = true →
      g.Settles k = true) :
  ReleasesOnTheirWay ⟨c.shared, Function.update c.threads i g⟩
  := by
  constructor
  · apply h.buffer
  · exact Pool.forall_update h.sound hg
  · intro k htimer
    dsimp only at htimer ⊢
    apply Pool.exists_update_of_not (· = .autoRelease k) g (h.expired k htimer)
    intro hi
    rw [hnot k hi] at htimer
    cases htimer
  · intro k hmem hzero htimer
    dsimp only at hmem htimer ⊢
    by_cases hi : (c.threads i).Settles k = true
    · exact Pool.exists_update_self (KeypressCall.Settles k · = true) i (hsettles k hmem hi)
    · exact Pool.exists_update_of_not (KeypressCall.Settles k · = true) g
        (h.settled k hmem hzero htimer) hi

/-- A step keeps the releases on their way, if a release that stops the timer of a key that is
down leaves another call that settles the key. -/
theorem ReleasesOnTheirWay.step (h : ReleasesOnTheirWay c) (step : (keypressLts Thread).step c a c')
    (leaves : LeavesRelease c a.1) :
  ReleasesOnTheirWay c'
  := by
  obtain ⟨u, g, hexec, rfl⟩ := Pool.lts_step.mp step
  have hsound := h.sound a.1
  cases hcall : c.threads a.1 with
  | keypressReport key press =>
      rw [hcall] at hexec hsound
      obtain ⟨rfl, rfl⟩ := Prod.mk.inj (Option.some.inj hexec)
      apply h.report hsound
      · use hsound
        rw [UsbGadget.keypressReport_state, UsbGadget.keypressReport_keysDownState hsound.1]
        apply head?_clearRollOver
      · simp [hcall]
      · simp [hcall, KeypressCall.Settles]
      · simp [KeypressCall.Settles]
  | updateTimer key press state =>
      rw [hcall] at hexec hsound
      obtain ⟨rfl, rfl⟩ := Prod.mk.inj (Option.some.inj hexec)
      rw [UsbGadget.updateTimer_eq hsound.1.2 hsound.2]
      apply h.setTimer
      · trivial
      · simp [hcall]
      · intro k hk
        rw [hcall, KeypressCall.Settles, Bool.and_eq_true] at hk
        apply of_decide_eq_true hk.1
      · cases press <;> simp
      · intro hnone hmem hzero
        have hrelease : press = false := by
          cases press with
          | true => cases hnone
          | false => rfl
        subst hrelease
        rw [LeavesRelease, hcall] at leaves
        obtain ⟨j, hj, hsettles⟩ := leaves hmem hzero
        use j
        rwa [Function.update_of_ne hj]
  | timer key =>
      rw [hcall] at hexec hsound
      obtain ⟨harmed, hnext⟩ := Option.ite_none_right_eq_some.mp hexec
      obtain ⟨rfl, rfl⟩ := Prod.mk.inj (Option.some.inj hnext)
      apply h.setTimer
      · apply hsound
      · simp [hcall]
      · simp [hcall, KeypressCall.Settles]
      · simp
      · simp
  | autoRelease key =>
      rw [hcall] at hexec hsound
      rw [KeypressCall.exec] at hexec
      split at hexec <;> obtain ⟨rfl, rfl⟩ := Prod.mk.inj (Option.some.inj hexec)
      · rename_i hnone
        apply h.goOn
        · trivial
        · rw [hcall]
          rintro k ⟨⟩
          apply Option.isNone_iff_eq_none.mp hnone
        · simp [hcall, KeypressCall.Settles]
      · apply h.setTimer
        · apply hsound
        · rw [hcall]
          rintro k ⟨⟩
          rfl
        · simp [hcall, KeypressCall.Settles]
        · simp
        · intro _ _ _
          exact Pool.exists_update_self (KeypressCall.Settles key · = true) a.1
            (by simp [KeypressCall.Settles])
  | autoReleaseCheck key =>
      rw [hcall] at hexec hsound
      rw [KeypressCall.exec] at hexec
      split at hexec <;> obtain ⟨rfl, rfl⟩ := Prod.mk.inj (Option.some.inj hexec)
      · apply h.goOn
        · apply hsound
        · simp [hcall]
        · simp [hcall, KeypressCall.Settles]
      · rename_i hup
        apply h.goOn
        · trivial
        · simp [hcall]
        · intro k hk hsettles
          rw [hcall] at hsettles
          obtain rfl : k = key := of_decide_eq_true hsettles
          exact absurd hk hup
  | autoReleaseReport key =>
      rw [hcall] at hexec hsound
      obtain ⟨rfl, rfl⟩ := Prod.mk.inj (Option.some.inj hexec)
      apply h.report hsound
      · trivial
      · simp [hcall]
      · intro k hk
        rw [hcall] at hk
        exact ⟨of_decide_eq_true hk, rfl⟩
      · simp
  | done =>
      rw [hcall] at hexec
      cases hexec

/-- Nothing has been pressed, and every call is where it may begin. -/
structure NothingPressed (c : KeypressPool Thread) : Prop where
  gadget : c.shared = newUsbGadget
  begins : ∀ i, (c.threads i).Begins

omit [DecidableEq Thread] in
theorem NothingPressed.releasesOnTheirWay (init : NothingPressed c) :
  ReleasesOnTheirWay c
  := by
  obtain ⟨hgadget, hbegins⟩ := init
  constructor
  · rw [hgadget]
    exact ⟨[], Holds.none, List.nodup_nil⟩
  · exact fun i => (hbegins i).sound
  · rw [hgadget]
    exact fun key h => nomatch h
  · rw [hgadget]
    intro key hkey hzero
    exact absurd ((Holds.none.mem_iff hzero).mp hkey) List.not_mem_nil

/-- Whenever no call is in progress, each key of the buffer has a timer that is running, as
long as no release has stopped the timer of a key that was down without leaving another call
that would settle the key. -/
theorem armed_of_no_call {c₀ c : KeypressPool Thread}
    {tr : List (Lts.Transition (KeypressPool Thread) (Thread × HidWrite))}
    (init : NothingPressed c₀) (run : (keypressLts Thread).Run c₀ tr c)
    (leaves : ∀ e ∈ tr, LeavesRelease e.before e.action.1)
    (quiet : ∀ i, (c.threads i).InProgress = false) :
  ∀ key ∈ c.shared.keysDownState.keys, key ≠ 0 →
    c.shared.kbdAutoReleaseTimers key = some .armed
  := by
  have h : ReleasesOnTheirWay c := by
    apply run.invariant init.releasesOnTheirWay
    intro e he hbefore step
    apply hbefore.step step (leaves e he)
  intro key hkey hzero
  cases htimer : c.shared.kbdAutoReleaseTimers key with
  | none =>
      obtain ⟨i, hi⟩ := h.settled key hkey hzero htimer
      have hprogress := KeypressCall.inProgress_of_settles hi
      rw [quiet i] at hprogress
      cases hprogress
  | some timer =>
      cases timer with
      | armed => rfl
      | expired =>
          obtain ⟨i, hi⟩ := h.expired key htimer
          have hquiet := quiet i
          rw [hi] at hquiet
          cases hquiet

end Invariant

/-! ### A press between the two regions of a release -/

/-- The key `a` is pressed, and it is released and pressed again by two calls at a time. -/
def pressAndRelease : KeypressPool (Fin 3) where
  shared := newUsbGadget
  threads
    | 0 => .keypressReport 0x04 true
    | 1 => .keypressReport 0x04 false
    | 2 => .keypressReport 0x04 true

theorem nothingPressed_pressAndRelease : NothingPressed pressAndRelease where
  gadget := rfl
  begins
    | 0 => .keypressReport _ (by decide)
    | 1 => .keypressReport _ (by decide)
    | 2 => .keypressReport _ (by decide)

/-- The steps of the given calls, every write succeeding. -/
def writingSteps (calls : List (Fin 3)) : List (Fin 3 × HidWrite) :=
  calls.map fun i => (i, .written)

/-- The report of the call, if it is about to make one, finds a slot. -/
def ReportFits {Thread : Type*} (c : KeypressPool Thread) (i : Thread) : Prop :=
  match c.threads i with
  | .keypressReport key press => FindsSlot c.shared.keysDownState.keys key press
  | _ => True

instance {Thread : Type*} (c : KeypressPool Thread) (i : Thread) :
    Decidable (ReportFits c i) := by
  unfold ReportFits
  split <;> infer_instance

/-- The key is pressed, released and pressed again, one call after the other. -/
theorem armed_of_no_call_pressAndRelease :
  ∃ tr c, (keypressLts (Fin 3)).Run pressAndRelease tr c ∧
    0x04 ∈ c.shared.keysDownState.keys ∧ c.shared.kbdAutoReleaseTimers 0x04 = some .armed
  := by
  obtain ⟨tr, c, run, hactions, hleaves, hobserve⟩ :=
    Lts.exists_run_of_restrict (Pool.advance KeypressCall.exec)
      (fun c a => LeavesRelease c a.1) pressAndRelease (writingSteps [0, 0, 1, 1, 2, 2])
      (fun c => decide ((∀ i, (c.threads i).InProgress = false) ∧
        0x04 ∈ c.shared.keysDownState.keys))
      (by decide +kernel : _ = some true)
  obtain ⟨hquiet, hkey⟩ := of_decide_eq_true hobserve
  use tr, c, run, hkey
  exact armed_of_no_call nothingPressed_pressAndRelease run hleaves hquiet 0x04 hkey (by decide)

/-- The second press comes between the report of the release and the stopping of the timer,
which is the timer of the second press by then. -/
theorem release_stops_new_timer :
  ¬ ∀ (c₀ c : KeypressPool (Fin 3))
      (tr : List (Lts.Transition (KeypressPool (Fin 3)) (Fin 3 × HidWrite))),
    NothingPressed c₀ → (keypressLts (Fin 3)).Run c₀ tr c →
    (∀ e ∈ tr, e.action.2 = .written) → (∀ e ∈ tr, ReportFits e.before e.action.1) →
    (∀ i, (c.threads i).InProgress = false) →
    ∀ key ∈ c.shared.keysDownState.keys, key ≠ 0 →
      c.shared.kbdAutoReleaseTimers key = some .armed
  := by
  intro claim
  obtain ⟨tr, c, run, hactions, hfits, hobserve⟩ :=
    Lts.exists_run_of_restrict (Pool.advance KeypressCall.exec)
      (fun c a => ReportFits c a.1) pressAndRelease (writingSteps [0, 0, 1, 2, 2, 1])
      (fun c => decide ((∀ i, (c.threads i).InProgress = false) ∧
        0x04 ∈ c.shared.keysDownState.keys ∧ c.shared.kbdAutoReleaseTimers 0x04 = none))
      (by decide +kernel : _ = some true)
  obtain ⟨hquiet, hkey, hnone⟩ := of_decide_eq_true hobserve
  have hwritten := Lts.forall_action (fun a => a.2 = HidWrite.written) hactions (by decide)
  have harmed := claim _ c tr nothingPressed_pressAndRelease run hwritten hfits hquiet 0x04 hkey
    (by decide)
  rw [hnone] at harmed
  cases harmed

end JetKvm
