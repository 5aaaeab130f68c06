import JetKvm.Keyboard.Goroutine

/-!
# What the host was told

Whenever `keyboardMutex` is free, the state of the keys that are down should be the last
keyboard report written, an overflow report counting as all keys up. The regions under the
mutex keep it so: inside a region the state and the report differ only until the goroutine
records what it has written. Two things get in the way. The macro executor records a
release of all keys outside the mutex, after the report for it has been made, so that a key
pressed in between is forgotten. And a report whose first key has the code of
`hidErrorRollOver` is recorded as all keys up.
-/

namespace JetKvm

open HidRpc (KeyboardMacroStep)

/-- What a report says about the keys, an overflow counting as all keys up. -/
def KeysDownState.seen (report : KeysDownState) : KeysDownState :=
  { report with keys := if report.keys = rolledOver then noKeys else report.keys }

/-- What the host takes to be down after the last keyboard report. -/
def hostState (u : UsbGadget) : KeysDownState :=
  (lastKeyboardReport u.hidg0).elim .allUp KeysDownState.seen

/-- The state that is kept agrees with what the host was told. -/
def Agrees (u : UsbGadget) : Prop :=
  u.keysDownState = hostState u

instance (u : UsbGadget) : Decidable (Agrees u) :=
  inferInstanceAs (Decidable (_ = _))

/-- Keys without holes that do not begin with `hidErrorRollOver`. -/
def WellFormed (keys : List UInt8) : Prop :=
  ∃ held, Holds keys held ∧ held.headD 0 ≠ hidErrorRollOver

/-- Keys that a report gives to the host and to the state alike: well-formed keys and an
overflow. -/
def Reportable (keys : List UInt8) : Prop :=
  keys = rolledOver ∨ WellFormed keys

variable {keys : List UInt8} {key modifier : UInt8} {press : Bool} {u v : UsbGadget}

theorem wellFormed_noKeys : WellFormed noKeys
  := ⟨[], .none, by decide⟩

theorem WellFormed.ne_rolledOver (h : WellFormed keys) :
  keys ≠ rolledOver
  := by
  rintro rfl
  obtain ⟨held, hholds, hfirst⟩ := h
  have hhead := hholds.head?_eq
  apply hfirst
  exact (Option.some.inj hhead).symm

theorem WellFormed.clearRollOver_eq (h : WellFormed keys) :
  clearRollOver keys = keys
  := by
  obtain ⟨held, hholds, hfirst⟩ := h
  apply hholds.clearRollOver_eq hfirst

namespace Reportable

theorem length_eq (h : Reportable keys) :
  keys.length = hidKeyBufferSize
  := by
  rcases h with rfl | ⟨held, hholds, -⟩
  · rfl
  · apply hholds.length_eq

/-- What is recorded of reportable keys is well-formed. -/
theorem wellFormed (h : Reportable keys) :
  WellFormed (clearRollOver keys)
  := by
  rcases h with rfl | h
  · rw [clearRollOver_rolledOver]
    apply wellFormed_noKeys
  · rw [h.clearRollOver_eq]
    apply h

/-- What is recorded of reportable keys is what the host takes them to be. -/
theorem seen_eq (h : Reportable keys) :
  KeysDownState.seen { modifier, keys } = { modifier, keys := clearRollOver keys }
  := by
  rcases h with rfl | h
  · rfl
  · rw [KeysDownState.seen, if_neg h.ne_rolledOver, h.clearRollOver_eq]

/-- A press or a release of a key makes well-formed keys reportable, unless it brings the
code of `hidErrorRollOver` into the first slot. -/
theorem after {state : KeysDownState} (h : WellFormed state.keys)
    (kept : Ordinary key → FirstSlotKept state.keys key press)
    (hmedia : isKeyboardMediaKey key = false) :
  Reportable (state.after key press).2
  := by
  cases hmod : isModifier key with
  | true =>
      obtain ⟨mask, hmask⟩ := Option.isSome_iff_exists.mp hmod
      rw [KeysDownState.after_modifier hmask]
      exact .inr h
  | false =>
      rw [KeysDownState.after_ordinary hmod]
      obtain ⟨held, hholds, hfirst⟩ := h
      by_cases slot : FindsSlot state.keys key press
      · right
        use heldAfter held key press, hholds.after slot
        apply hholds.headD_heldAfter_ne hfirst (kept ⟨hmedia, hmod⟩)
      · left
        apply hholds.overrun slot

end Reportable

/-- Keys that begin with `hidErrorRollOver` only if all of them are. -/
def NoPartialRollOver (keys : List UInt8) : Prop :=
  keys.head? = some hidErrorRollOver → keys = rolledOver

instance : Decidable (NoPartialRollOver keys) :=
  inferInstanceAs (Decidable (_ → _))

/-- The six keys of a keyboard report without its media keys are without holes. -/
theorem holds_stripMediaKeys (h : keys.length = hidKeyBufferSize) :
  Holds (stripMediaKeys keys).1 (stripMediaKeysLoop keys).1
  := by
  constructor
  · rw [stripMediaKeys, h]
  · rw [← h]
    apply stripMediaKeysLoop_length_le
  · intro hzero
    exact (stripMediaKeysLoop_mem hzero).2.1 rfl

@[simp]
theorem length_padKeys (keys : List UInt8) :
  (padKeys keys).length = hidKeyBufferSize
  := by
  rw [padKeys]
  by_cases hlong : keys.length > hidKeyBufferSize
  · simp [hlong, Nat.le_of_lt hlong]
  · by_cases hshort : keys.length < hidKeyBufferSize
    · simp [hlong, hshort, Nat.le_of_lt hshort]
    · simp [hlong, hshort]
      omega

theorem reportable_stripMediaKeys (h : NoPartialRollOver (stripMediaKeys (padKeys keys)).1) :
  Reportable (stripMediaKeys (padKeys keys)).1
  := by
  have hholds := holds_stripMediaKeys (length_padKeys keys)
  by_cases hfirst : (stripMediaKeysLoop (padKeys keys)).1.headD 0 = hidErrorRollOver
  · left
    apply h
    rw [hholds.head?_eq, hfirst]
  · right
    exact ⟨_, hholds, hfirst⟩

/-! ### Inside the region -/

/-- What is known of a goroutine inside the `keyboardMutex` region: whether the state agrees
with what the host was told, or what it has read or written. -/
def RegionInvariant (u : UsbGadget) : Goroutine → Prop
  | .locked (.keypress key _) _ => isKeyboardMediaKey key = true → Agrees u
  | .loaded key press state _ =>
      (isKeyboardMediaKey key = true → Agrees u) ∧
        (isKeyboardMediaKey key = false → Reportable (state.after key press).2)
  | .wrote modifier keys _ _ =>
      lastKeyboardReport u.hidg0 = some { modifier, keys } ∧ Reportable keys
  | .unlock .. | .unlockMedia .. => Agrees u
  | _ => True

/-- The goroutine is inside the region and has yet to record the state it will leave. -/
def WillUpdate : Goroutine → Prop
  | .locked (.keyboard ..) _ | .wrote .. => True
  | .locked (.keypress key _) _ | .loaded key _ _ _ => isKeyboardMediaKey key = false
  | _ => False

instance : DecidablePred WillUpdate
  | .locked (.keyboard ..) _ | .wrote .. => .isTrue trivial
  | .locked (.keypress key _) _ | .loaded key _ _ _ =>
      inferInstanceAs (Decidable (isKeyboardMediaKey key = false))
  | .guard .. | .lock .. | .unlock .. | .unlockMedia .. | .reload .. | .updateTimer ..
  | .keyboardMacro .. | .macroClear .. | .macroSleep .. | .timer .. | .autoRelease ..
  | .autoReleaseCheck .. | .closeSession | .usbMonitor | .done => .isFalse id

theorem Agrees.congr (h : SameReports u v) (hu : Agrees u) :
  Agrees v
  := by
  rw [Agrees, h.1, hostState, h.2]
  apply hu

theorem RegionInvariant.congr {g : Goroutine} (h : SameReports u v)
    (hu : RegionInvariant u g) :
  RegionInvariant v g
  := by
  cases g with
  | locked report caller =>
      cases report with
      | keyboard modifier keys => trivial
      | keypress key press => exact fun hmedia => (hu hmedia).congr h
  | loaded key press state caller => exact ⟨fun hmedia => (hu.1 hmedia).congr h, hu.2⟩
  | wrote modifier keys err caller =>
      rw [RegionInvariant, h.2]
      apply hu
  | unlock state err caller => exact Agrees.congr h hu
  | unlockMedia err caller => exact Agrees.congr h hu
  | _ => trivial

/-- Outside the region nothing need be known. -/
theorem RegionInvariant.of_not_inside {g : Goroutine} (h : ¬ g.Inside) :
  RegionInvariant u g
  := by
  cases g with
  | locked | loaded | wrote | unlock | unlockMedia => exact absurd trivial h
  | _ => trivial

/-- Recording that all keys are up, when the host takes them to be up, keeps what is known
inside the region. -/
theorem RegionInvariant.clear {g : Goroutine} (hu : RegionInvariant u g)
    (hclear : hostState u = .allUp ∨ WillUpdate g) :
  RegionInvariant (u.updateKeysDown 0 noKeys).1 g
  := by
  have hagrees : hostState u = .allUp → Agrees (u.updateKeysDown 0 noKeys).1 := by
    intro hup
    rw [Agrees, hostState, UsbGadget.updateKeysDown_hidg0, ← hostState, hup,
      UsbGadget.updateKeysDown_keysDownState]
    rfl
  have hmedia : ∀ {key : UInt8}, isKeyboardMediaKey key = true →
      (hostState u = .allUp ∨ isKeyboardMediaKey key = false) → hostState u = .allUp := by
    intro key hkey hor
    apply hor.resolve_right
    simp [hkey]
  cases g with
  | locked report caller =>
      cases report with
      | keyboard modifier keys => trivial
      | keypress key press => exact fun hkey => hagrees (hmedia hkey hclear)
  | loaded key press state caller => exact ⟨fun hkey => hagrees (hmedia hkey hclear), hu.2⟩
  | wrote modifier keys err caller =>
      rw [RegionInvariant, UsbGadget.updateKeysDown_hidg0]
      apply hu
  | unlock state err caller => exact hagrees (hclear.resolve_right id)
  | unlockMedia err caller => exact hagrees (hclear.resolve_right id)
  | _ => trivial

/-! ### The steps of the goroutines -/

variable {Thread : Type*} {i : Thread} {env : Environment} {s s' : Keyboard Thread}
  {g g' : Goroutine}

/-- The step meets the condition under which the state keeps agreeing with the host: a
keyboard report begins with `hidErrorRollOver` only if all its keys are that, the key with
that code does not come to be in the first slot, and a macro records that all keys are up
only when the host takes them to be up, or while a goroutine inside the region has yet to
record its own state. -/
def FaithfulStep (c : KeyboardPool Thread) (i : Thread) : Prop :=
  match c.threads i with
  | .locked (.keyboard _ keys) _ => NoPartialRollOver (stripMediaKeys (padKeys keys)).1
  | .locked (.keypress key press) _ =>
      Ordinary key → FirstSlotKept c.shared.gadget.keysDownState.keys key press
  | .macroClear step _ =>
      isClearKeyStep step = true →
        hostState c.shared.gadget = .allUp ∨ ∃ j, WillUpdate (c.threads j)
  | _ => True

/-- Every write of the step succeeds. -/
def Environment.Writes (env : Environment) : Prop :=
  env.consumerWrite = .written ∧ env.keyboardWrite = .written

/-- The invariant of the goroutines: the mutex is held by the goroutine inside its region,
the state of the keys is well-formed, it agrees with the host while the mutex is free, and
what is known of a goroutine inside the region holds. -/
structure KeyboardInvariant (c : KeyboardPool Thread) : Prop where
  lock : Pool.Consistent Keyboard.keyboardMutex Goroutine.Inside c
  wellFormed : WellFormed c.shared.gadget.keysDownState.keys
  free : c.shared.keyboardMutex = none → Agrees c.shared.gadget
  region : ∀ j, RegionInvariant c.shared.gadget (c.threads j)

/-- A step inside the region keeps what is known there, and leaves an agreeing state behind
when it releases the mutex. -/
theorem exec_inside {c : KeyboardPool Thread} (inv : KeyboardInvariant c)
    (h : Goroutine.exec i env c.shared (c.threads i) = some (s', g'))
    (hin : (c.threads i).Inside) (writes : env.Writes) (faithful : FaithfulStep c i) :
  WellFormed s'.gadget.keysDownState.keys ∧ RegionInvariant s'.gadget g' ∧
    (s'.keyboardMutex = none → Agrees s'.gadget)
  := by
  have hregion := inv.region i
  have hheld := (inv.lock i).mp hin
  have hbusy : c.shared.keyboardMutex ≠ none := by
    rw [hheld]
    exact Option.some_ne_none i
  obtain ⟨hconsumer, hkeyboard⟩ := writes
  rw [FaithfulStep] at faithful
  cases hg : c.threads i with
  | locked report caller =>
      rw [hg] at h faithful hregion
      cases report with
      | keyboard modifier keys =>
          have hreportable := reportable_stripMediaKeys faithful
          have htake := List.take_of_length_le (Nat.le_of_eq hreportable.length_eq)
          rw [Goroutine.exec, hkeyboard] at h
          obtain ⟨rfl, rfl⟩ := Prod.mk.inj (Option.some.inj h)
          refine ⟨?_, ⟨?_, hreportable⟩, fun hfree => absurd hfree hbusy⟩
          · simpa using inv.wellFormed
          · simp [htake]
      | keypress key press =>
          obtain ⟨rfl, rfl⟩ := h
          refine ⟨inv.wellFormed, ⟨hregion, ?_⟩, fun hfree => absurd hfree hbusy⟩
          apply Reportable.after inv.wellFormed faithful
  | loaded key press state caller =>
      rw [hg] at h hregion
      rw [Goroutine.exec] at h
      cases hmedia : isKeyboardMediaKey key with
      | true =>
          rw [hmedia, if_pos rfl] at h
          obtain ⟨rfl, rfl⟩ := Prod.mk.inj (Option.some.inj h)
          refine ⟨?_, ?_, fun hfree => absurd hfree hbusy⟩
          · simpa using inv.wellFormed
          · have hagrees := hregion.1 hmedia
            rw [Agrees, hostState] at hagrees
            rw [RegionInvariant, Agrees, hostState]
            simpa using hagrees
      | false =>
          have hreportable := hregion.2 hmedia
          have htake := List.take_of_length_le (Nat.le_of_eq hreportable.length_eq)
          rw [hmedia, if_neg Bool.false_ne_true, hkeyboard] at h
          obtain ⟨rfl, rfl⟩ := Prod.mk.inj (Option.some.inj h)
          refine ⟨?_, ⟨?_, hreportable⟩, fun hfree => absurd hfree hbusy⟩
          · simpa using inv.wellFormed
          · simp [htake]
  | wrote modifier keys err caller =>
      rw [hg] at h hregion
      obtain ⟨hlast, hreportable⟩ := hregion
      rw [Goroutine.exec] at h
      obtain ⟨rfl, rfl⟩ := Prod.mk.inj (Option.some.inj h)
      refine ⟨?_, ?_, fun hfree => absurd hfree hbusy⟩
      · simpa using hreportable.wellFormed
      · rw [RegionInvariant, Agrees, hostState]
        simp [hlast, hreportable.seen_eq]
  | unlock state err caller =>
      rw [hg] at h hregion
      obtain ⟨rfl, rfl⟩ := h
      exact ⟨inv.wellFormed, .of_not_inside (Goroutine.not_inside_resume _ _ _), fun _ => hregion⟩
  | unlockMedia err caller =>
      rw [hg] at h hregion
      obtain ⟨rfl, rfl⟩ := h
      exact ⟨inv.wellFormed, trivial, fun _ => hregion⟩
  | _ =>
      rw [hg] at hin
      exact absurd hin id

/-- A goroutine that will record its state is inside the region. -/
theorem WillUpdate.inside (h : WillUpdate g) :
  g.Inside
  := by
  cases g with
  | locked | loaded | wrote | unlock | unlockMedia => trivial
  | _ => exact absurd h id

namespace KeyboardInvariant

variable {c c' : KeyboardPool Thread} {a : Thread × Environment}

/-- The invariant holds when the device has just started. -/
theorem initial (h : Initial c) :
  KeyboardInvariant c
  := by
  constructor
  · intro j
    rw [h.mutex]
    exact iff_of_false (h.begins j).not_inside (Option.some_ne_none j).symm
  · rw [h.gadget]
    apply wellFormed_noKeys
  · intro _
    rw [h.gadget]
    rfl
  · intro j
    apply RegionInvariant.of_not_inside (h.begins j).not_inside

/-- A macro that records that all keys are up keeps what is known inside the region. -/
theorem clear (inv : KeyboardInvariant c)
    (hclear : hostState c.shared.gadget = .allUp ∨ ∃ j, WillUpdate (c.threads j)) (j : Thread) :
  RegionInvariant (c.shared.gadget.updateKeysDown 0 noKeys).1 (c.threads j)
  := by
  by_cases hin : (c.threads j).Inside
  · apply (inv.region j).clear
    rcases hclear with hup | ⟨k, hk⟩
    · exact .inl hup
    · obtain rfl := inv.lock.unique hin hk.inside
      exact .inr hk
  · apply RegionInvariant.of_not_inside hin

/-- A step that meets the condition keeps the invariant. -/
theorem step [DecidableEq Thread] (inv : KeyboardInvariant c)
    (step : (keyboardLts Thread).step c a c') (writes : a.2.Writes) (faithful : FaithfulStep c a.1) :
  KeyboardInvariant c'
  := by
  have hlock := inv.lock.step Goroutine.locks step
  obtain ⟨s, g, hexec, rfl⟩ := Pool.lts_step.mp step
  by_cases hin : (c.threads a.1).Inside
  · obtain ⟨hkeys, hregion, hfree⟩ := exec_inside inv hexec hin writes faithful
    use hlock, hkeys, hfree
    intro j
    dsimp only
    by_cases hj : j = a.1
    · subst hj
      rw [Function.update_self]
      apply hregion
    · rw [Function.update_of_ne hj]
      apply RegionInvariant.of_not_inside
      exact fun hother => hj (inv.lock.unique hother hin)
  · rcases Goroutine.exec_outside hexec hin with
      ⟨hout, hsame, hmutex⟩ | ⟨report, caller, hg, rfl, hfree, rfl⟩
        | ⟨macroStep, steps, hg, rfl, hclear, rfl⟩
    · constructor
      · apply hlock
      · rw [hsame.1]
        apply inv.wellFormed
      · intro hfree
        rw [hmutex] at hfree
        apply (inv.free hfree).congr hsame
      · intro j
        dsimp only
        by_cases hj : j = a.1
        · subst hj
          rw [Function.update_self]
          apply RegionInvariant.of_not_inside hout
        · rw [Function.update_of_ne hj]
          apply (inv.region j).congr hsame
    · use hlock, inv.wellFormed, fun h => absurd h (Option.some_ne_none _)
      intro j
      dsimp only
      by_cases hj : j = a.1
      · subst hj
        rw [Function.update_self]
        cases report with
        | keyboard modifier keys => trivial
        | keypress key press => exact fun _ => inv.free hfree
      · rw [Function.update_of_ne hj]
        apply inv.region j
    · rw [FaithfulStep, hg] at faithful
      have hclear := faithful hclear
      constructor
      · apply hlock
      · rw [UsbGadget.updateKeysDown_keysDownState]
        apply wellFormed_noKeys
      · intro hfree
        have hup : hostState c.shared.gadget = .allUp := by
          apply hclear.resolve_right
          rintro ⟨j, hj⟩
          exact inv.lock.not_inside hfree j hj.inside
        rw [Agrees, hostState, UsbGadget.updateKeysDown_hidg0, ← hostState, hup,
          UsbGadget.updateKeysDown_keysDownState]
        rfl
      · intro j
        dsimp only
        by_cases hj : j = a.1
        · subst hj
          rw [Function.update_self]
          trivial
        · rw [Function.update_of_ne hj]
          apply inv.clear hclear

end KeyboardInvariant

/-- The key state agrees with the host. In every interleaving of the goroutines in which
all writes succeed and every step meets the condition, the state of the keys is the last
keyboard report whenever `keyboardMutex` is free. -/
theorem agrees_of_mutex_free [DecidableEq Thread] {c c' : KeyboardPool Thread}
    {tr : List (Lts.Transition (KeyboardPool Thread) (Thread × Environment))}
    (init : Initial c) (run : (keyboardLts Thread).Run c tr c')
    (writes : ∀ e ∈ tr, e.action.2.Writes)
    (faithful : ∀ e ∈ tr, FaithfulStep e.before e.action.1)
    (free : c'.shared.keyboardMutex = none) :
  Agrees c'.shared.gadget
  := by
  have inv : KeyboardInvariant c' := by
    apply run.invariant (.initial init)
    intro e he hbefore step
    apply hbefore.step step (writes e he) (faithful e he)
  apply inv.free free

/-! ### A macro and a key press -/

/-- The step of a macro that releases all keys. -/
def clearStep : KeyboardMacroStep :=
  { modifier := 0, keys := noKeys, delay := 0 }

/-- A macro that releases all keys, beside a press of the key `a`. -/
def macroAndKeypress : KeyboardPool (Fin 2) where
  shared := { gadget := newUsbGadget, keyboardMutex := none, usbState := "configured" }
  threads
    | 0 => .keyboardMacro [clearStep]
    | 1 => .guard (.keypress 0x04 true) (.keypress 0x04 true)

/-- Every write succeeds and the USB stays as it is. -/
def quiet : Environment where
  consumerWrite := .written
  keyboardWrite := .written
  ctxDone := false
  usbState := "configured"

theorem macroAndKeypress_initial : Initial macroAndKeypress where
  gadget := rfl
  mutex := rfl
  begins
    | 0 => .rpcDoExecuteKeyboardMacro _
    | 1 => .rpcKeypressReport _ _

instance (c : KeyboardPool (Fin 2)) (i : Fin 2) : Decidable (FaithfulStep c i) := by
  unfold FaithfulStep
  split <;> infer_instance

/-- The key is pressed after the macro is done. -/
theorem agrees_of_mutex_free_after_macro :
  ∃ tr c, (keyboardLts (Fin 2)).Run macroAndKeypress tr c ∧
    c.shared.gadget.keysDownState = { modifier := 0, keys := [4, 0, 0, 0, 0, 0] } ∧
    Agrees c.shared.gadget
  := by
  obtain ⟨tr, c, run, hactions, faithful, hobserve⟩ :=
    Lts.exists_run_of_restrict (Pool.advance Goroutine.exec)
      (fun c a => FaithfulStep c a.1) macroAndKeypress
      (([0, 0, 0, 0, 0, 0, 0, 1, 1, 1, 1, 1, 1] : List (Fin 2)).map fun i => (i, quiet))
      (fun c => decide (c.shared.keyboardMutex = none ∧
        c.shared.gadget.keysDownState = { modifier := 0, keys := [4, 0, 0, 0, 0, 0] }))
      (by decide +kernel : _ = some true)
  obtain ⟨hfree, hkeys⟩ := of_decide_eq_true hobserve
  have writes := Lts.forall_action (fun a => a.2.Writes) hactions
    (by simp [Environment.Writes, quiet])
  use tr, c, run, hkeys
  apply agrees_of_mutex_free macroAndKeypress_initial run writes faithful hfree

/-- The key is pressed between the macro's report and its recording that all keys are up.
The device then believes released a key that the host was told is down. -/
theorem macro_forgets_keypress :
  ¬ ∀ (c c' : KeyboardPool (Fin 2))
      (tr : List (Lts.Transition (KeyboardPool (Fin 2)) (Fin 2 × Environment))),
    Initial c → (keyboardLts (Fin 2)).Run c tr c' → (∀ e ∈ tr, e.action.2.Writes) →
    c'.shared.keyboardMutex = none → Agrees c'.shared.gadget
  := by
  intro claim
  obtain ⟨tr, c, run, hactions, hobserve⟩ :=
    Lts.exists_run_of_observe (Pool.advance Goroutine.exec) macroAndKeypress
      (([0, 0, 0, 0, 0, 0, 1, 1, 1, 1, 1, 1, 0] : List (Fin 2)).map fun i => (i, quiet))
      (fun c => decide (c.shared.keyboardMutex = none ∧ ¬ Agrees c.shared.gadget))
      (by decide +kernel : _ = some true)
  obtain ⟨hfree, hdiffers⟩ := of_decide_eq_true hobserve
  have writes := Lts.forall_action (fun a => a.2.Writes) hactions
    (by simp [Environment.Writes, quiet])
  exact hdiffers (claim _ _ tr macroAndKeypress_initial run writes hfree)

end JetKvm
