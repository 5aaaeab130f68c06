import JetKvm.Library.Transition
import JetKvm.Keyboard.Gadget
import Mathlib.Data.Fintype.Card
import Mathlib.Data.FinEnum

/-!
# Auto-release

Presses, releases and timers that fire, one after the other. As long as no report begins
with `hidErrorRollOver`, every key of the buffer has a timer and the host has been told
exactly the keys of the buffer, so that no key is left down when the last timer has run
out. An overflow breaks this: the host is told `hidErrorRollOver` while the buffer is
cleared, and the timers find nothing to release.
-/

namespace JetKvm

/-- A `KeypressReport` call, or the expiry of the timer of a key together with its
callback. -/
inductive AutoReleaseAction where
  | keypress (key : UInt8) (press : Bool)
  | fire (key : UInt8)
deriving DecidableEq, Repr

namespace AutoReleaseAction

/-- The key an action is about. -/
def key : AutoReleaseAction → UInt8
  | keypress key _ => key
  | fire key => key

/-- Whether the action presses its key. A timer that fires releases it. -/
def press : AutoReleaseAction → Bool
  | keypress _ press => press
  | fire _ => false

end AutoReleaseAction

/-- The gadget after an action, every write succeeding. Only a timer that is running
fires. -/
def autoReleaseStep (u : UsbGadget) : AutoReleaseAction → Option UsbGadget
  | .keypress key press => some (u.KeypressReport key press .written).1
  | .fire key =>
      if u.kbdAutoReleaseTimers key = some .armed then some (u.performAutoRelease key .written)
      else none

/-- Sequential runs of presses, releases and timers. -/
def autoReleaseLts : Lts UsbGadget AutoReleaseAction :=
  Lts.ofStep autoReleaseStep

/-- The host has been told that the keys of the buffer are down. Before the first report
it takes all keys to be up. -/
def HostSees (u : UsbGadget) (keys : List UInt8) : Prop :=
  (lastKeyboardReport u.hidg0).elim noKeys KeysDownState.keys = keys

instance (u : UsbGadget) (keys : List UInt8) : Decidable (HostSees u keys) :=
  inferInstanceAs (Decidable (_ = _))

/-- The buffer, the timers and what the host was told last are in step: the buffer holds
`held`, each of whose keys has a timer, and the host sees the buffer. -/
structure InStep (u : UsbGadget) (held : List UInt8) : Prop where
  holds : Holds u.keysDownState.keys held
  nodup : held.Nodup
  first : held.headD 0 ≠ hidErrorRollOver
  timer : ∀ key ∈ held, u.kbdAutoReleaseTimers key ≠ none
  host : HostSees u u.keysDownState.keys

variable {u v : UsbGadget} {held keys : List UInt8} {key : UInt8} {press : Bool}

theorem HostSees.of_eq (h : HostSees u keys) (hreports : v.hidg0 = u.hidg0) :
  HostSees v keys
  := by
  rw [HostSees, hreports]
  apply h

/-- The held keys stay distinct. -/
theorem nodup_heldAfter (h : held.Nodup) (key : UInt8) (press : Bool) :
  (heldAfter held key press).Nodup
  := by
  rw [heldAfter]
  split
  · split
    · apply h
    · rename_i hnot
      rw [← List.concat_eq_append]
      apply h.concat (not_or.mp hnot).1
  · apply h.erase

/-- A key held after a press or a release was held before or is the key pressed. -/
theorem mem_heldAfter {k : UInt8} (h : held.Nodup) (hk : k ∈ heldAfter held key press) :
  k = key ∧ press = true ∨ k ∈ held ∧ (press = true ∨ k ≠ key)
  := by
  cases press with
  | true =>
      rw [heldAfter, if_pos rfl] at hk
      split at hk
      · simp [hk]
      · rcases List.mem_append.mp hk with hk | hk
        · simp [hk]
        · simp [List.mem_singleton.mp hk]
  | false =>
      rw [heldAfter, if_neg Bool.false_ne_true] at hk
      obtain ⟨hne, hmem⟩ := h.mem_erase_iff.mp hk
      simp [hne, hmem]

/-- The buffer after the report of an ordinary key that does not overflow. -/
theorem Holds.keypressReport_keys
    (h : Holds (bufferAfter u.keysDownState.keys key press) held) (hkey : Ordinary key)
    (hfirst : held.headD 0 ≠ hidErrorRollOver) :
  (u.keypressReport key press .written).1.keysDownState.keys
    = bufferAfter u.keysDownState.keys key press
  := by
  rw [UsbGadget.keypressReport_keysDownState hkey.1, KeysDownState.after_ordinary hkey.2]
  apply h.clearRollOver_eq hfirst

/-- What the host sees after the report of an ordinary key. -/
theorem Holds.hostSees_keypressReport
    (h : Holds (bufferAfter u.keysDownState.keys key press) held) (hkey : Ordinary key) :
  HostSees (u.keypressReport key press .written).1
    (bufferAfter u.keysDownState.keys key press)
  := by
  rw [HostSees, UsbGadget.keypressReport_lastKeyboardReport hkey.1,
    KeysDownState.after_ordinary hkey.2]
  apply h.take_eq

namespace InStep

theorem new : InStep newUsbGadget []
  := ⟨.none, List.nodup_nil, by decide, fun _ hkey => absurd hkey List.not_mem_nil, rfl⟩

/-- When the buffer and the host have followed a press or a release that finds a slot, and
each held key has a timer, everything is in step again. -/
theorem reported (h : InStep u held) (slot : FindsSlot u.keysDownState.keys key press)
    (kept : FirstSlotKept u.keysDownState.keys key press)
    (hkeys : v.keysDownState.keys = bufferAfter u.keysDownState.keys key press)
    (hhost : HostSees v (bufferAfter u.keysDownState.keys key press))
    (htimer : ∀ k ∈ heldAfter held key press, v.kbdAutoReleaseTimers k ≠ none) :
  InStep v (heldAfter held key press)
  := by
  constructor
  · rw [hkeys]
    apply h.holds.after slot
  · apply nodup_heldAfter h.nodup
  · apply h.holds.headD_heldAfter_ne h.first kept
  · apply htimer
  · rw [hkeys]
    apply hhost

/-- A `KeypressReport` call that finds a slot keeps everything in step. -/
theorem keypress (h : InStep u held) (hkey : Ordinary key)
    (slot : FindsSlot u.keysDownState.keys key press)
    (kept : FirstSlotKept u.keysDownState.keys key press) :
  InStep (u.KeypressReport key press .written).1 (heldAfter held key press)
  := by
  have hholds := h.holds.after slot
  have hfirst := h.holds.headD_heldAfter_ne h.first kept
  have hkeys := hholds.keypressReport_keys hkey hfirst
  have htimers : (u.KeypressReport key press .written).1.kbdAutoReleaseTimers
      = Function.update u.kbdAutoReleaseTimers key
          (if press = false then none else some .armed) := by
    rw [UsbGadget.KeypressReport_timers hkey.2, hkeys, hholds.head?_eq]
    simp only [Option.some_inj, hfirst, false_or]
  apply h.reported slot kept
  · rw [UsbGadget.KeypressReport_keysDownState, hkeys]
  · apply (hholds.hostSees_keypressReport hkey).of_eq
    apply UsbGadget.KeypressReport_hidg0
  · intro k hk
    rw [htimers]
    by_cases hkk : k = key
    · subst hkk
      have hpress : press = true := by
        rcases mem_heldAfter h.nodup hk with hself | hother
        · exact hself.2
        · exact hother.2.resolve_right (not_not_intro rfl)
      simp [hpress]
    · rw [Function.update_of_ne hkk]
      rcases mem_heldAfter h.nodup hk with hself | hother
      · exact absurd hself.1 hkk
      · apply h.timer k hother.1

/-- A timer that fires keeps everything in step. -/
theorem fire (h : InStep u held) (hkey : Ordinary key)
    (hfire : u.kbdAutoReleaseTimers key = some .armed)
    (kept : FirstSlotKept u.keysDownState.keys key false) :
  InStep (u.performAutoRelease key .written) (heldAfter held key false)
  := by
  have htimer : ∀ k ∈ heldAfter held key false,
      Function.update u.kbdAutoReleaseTimers key none k ≠ none := by
    intro k hk
    obtain ⟨hmem, hne⟩ := (mem_heldAfter h.nodup hk).resolve_left (by simp)
    rw [Function.update_of_ne (hne.resolve_left Bool.false_ne_true)]
    apply h.timer k hmem
  rw [UsbGadget.performAutoRelease_some hfire]
  split
  · have slot : FindsSlot u.keysDownState.keys key false := by simp [FindsSlot]
    have hholds := h.holds.after slot
    have hfirst := h.holds.headD_heldAfter_ne h.first kept
    apply h.reported slot kept
    · apply Holds.keypressReport_keys (u := u.setTimer key none) hholds hkey hfirst
    · apply Holds.hostSees_keypressReport (u := u.setTimer key none) hholds hkey
    · rw [UsbGadget.keypressReport_timers]
      apply htimer
  · rename_i hup
    have hnot : key ∉ held := by
      intro hmem
      apply hup
      rw [h.holds.eq]
      apply List.mem_append_left _ hmem
    have hheld : heldAfter held key false = held := List.erase_of_not_mem hnot
    rw [hheld] at htimer ⊢
    exact ⟨h.holds, h.nodup, h.first, htimer, h.host⟩

/-- When no timer is left, the host has been told that all keys are up. -/
theorem noKeys_of_idle (h : InStep u held) (idle : ∀ key, u.kbdAutoReleaseTimers key = none) :
  HostSees u noKeys
  := by
  have hnone : held = [] := by
    apply List.eq_nil_iff_forall_not_mem.mpr
    intro key hmem
    exact h.timer key hmem (idle key)
  subst hnone
  rw [← h.holds.eq_noKeys]
  apply h.host

end InStep

/-- The action writes no report that begins with `hidErrorRollOver`: a press finds its key
or a free slot, and the key 1 does not come to be in the first slot. -/
def NoRollOver (u : UsbGadget) (a : AutoReleaseAction) : Prop :=
  FindsSlot u.keysDownState.keys a.key a.press ∧
    FirstSlotKept u.keysDownState.keys a.key a.press

instance (u : UsbGadget) (a : AutoReleaseAction) : Decidable (NoRollOver u a) :=
  inferInstanceAs (Decidable (_ ∧ _))

/-- An action that writes no report beginning with `hidErrorRollOver` keeps the buffer, the
timers and the host in step. -/
theorem InStep.step (h : InStep u held) {a : AutoReleaseAction}
    (step : autoReleaseLts.step u a v) (hkey : Ordinary a.key)
    (kept : NoRollOver u a) :
  InStep v (heldAfter held a.key a.press)
  := by
  cases a with
  | keypress key press =>
      obtain rfl := Option.some.inj step
      apply h.keypress hkey kept.1 kept.2
  | fire key =>
      obtain ⟨hfire, hnext⟩ := Option.ite_none_right_eq_some.mp step
      obtain rfl := Option.some.inj hnext
      apply h.fire hkey hfire kept.2

/-- No key stays stuck once auto-release has run out. -/
theorem hostSees_noKeys_of_idle
    {tr : List (Lts.Transition UsbGadget AutoReleaseAction)}
    (run : autoReleaseLts.Run newUsbGadget tr u)
    (hkeys : ∀ e ∈ tr, Ordinary e.action.key)
    (kept : ∀ e ∈ tr, NoRollOver e.before e.action)
    (idle : ∀ key, u.kbdAutoReleaseTimers key = none) :
  HostSees u noKeys
  := by
  have invariant : ∃ held, InStep u held := by
    apply run.invariant ⟨[], .new⟩
    rintro e he ⟨held, h⟩ step
    use heldAfter held e.action.key e.action.press
    apply h.step step (hkeys e he) (kept e he)
  obtain ⟨held, h⟩ := invariant
  apply h.noKeys_of_idle idle

/-- The key `a` is pressed and its timer fires. -/
theorem hostSees_noKeys_of_idle_press_fire :
  HostSees ((newUsbGadget.KeypressReport 0x04 true .written).1.performAutoRelease 0x04 .written)
    noKeys
  := by
  have press : autoReleaseLts.step newUsbGadget (.keypress 0x04 true)
      (newUsbGadget.KeypressReport 0x04 true .written).1 := rfl
  have fire : autoReleaseLts.step (newUsbGadget.KeypressReport 0x04 true .written).1
      (.fire 0x04)
      ((newUsbGadget.KeypressReport 0x04 true .written).1.performAutoRelease 0x04 .written) := rfl
  apply hostSees_noKeys_of_idle ((Lts.Run.nil.snoc press).snoc fire)
  · decide
  · decide
  · decide +kernel

/-- Seven keys are pressed and their timers fire. The seventh press tells the host
`hidErrorRollOver`, and no timer tells it otherwise. -/
theorem overflow_stuck :
  ¬ ∀ (tr : List (Lts.Transition UsbGadget AutoReleaseAction)) (u : UsbGadget),
    autoReleaseLts.Run newUsbGadget tr u → (∀ e ∈ tr, Ordinary e.action.key) →
    (∀ key, u.kbdAutoReleaseTimers key = none) → HostSees u noKeys
  := by
  intro claim
  obtain ⟨tr, u, run, hactions, hobserve⟩ :=
    Lts.exists_run_of_observe autoReleaseStep newUsbGadget
      [.keypress 4 true, .keypress 5 true, .keypress 6 true, .keypress 7 true,
        .keypress 8 true, .keypress 9 true, .keypress 10 true,
        .fire 4, .fire 5, .fire 6, .fire 7, .fire 8, .fire 9, .fire 10]
      (fun u => decide ((∀ key, u.kbdAutoReleaseTimers key = none) ∧ ¬ HostSees u noKeys))
      (by decide +kernel : _ = some true)
  obtain ⟨hidle, hsees⟩ := of_decide_eq_true hobserve
  have hkeys := Lts.forall_action (fun a => Ordinary a.key) hactions (by decide)
  exact hsees (claim tr u run hkeys hidle)

end JetKvm
