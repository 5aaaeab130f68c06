import JetKvm.Keyboard.AutoRelease
import JetKvm.Keyboard.HeldKeys

/-!
# Media keys and auto-release

A media key has a timer like any other key, but it is recorded in the Consumer Control bits
and not in the key buffer, where the callback of the timer looks for it. In every run of
presses, releases and timers, a media key is on exactly when it has been pressed and not
released by a call since. The firing of its timer does not count.
-/

namespace JetKvm

/-- The bits of the newest Consumer Control report, or zero before the first one. -/
def lastConsumerReport (reports : List HidReport) : UInt8 :=
  (reports.findSome? fun
    | .keyboard _ _ => none
    | .consumer bits => some bits).getD 0

/-- The last action about a key. -/
def lastAction (actions : List AutoReleaseAction) (key : UInt8) : Option AutoReleaseAction :=
  actions.reverse.find? fun a => a.key = key

/-- Whether a media key is on when the last action about it is the given one. -/
def leavesOn : Option AutoReleaseAction → Bool
  | none => false
  | some (.keypress _ press) => press
  | some (.fire _) => true

/-- No media key is on. -/
def MediaKeysUp (u : UsbGadget) : Prop :=
  lastConsumerReport u.hidg0 = 0 ∧ u.consumerState = 0

instance (u : UsbGadget) : Decidable (MediaKeysUp u) :=
  inferInstanceAs (Decidable (_ ∧ _))

/-- The Consumer Control bits and the timers of the media keys after the actions: the bits of
the keys that are left on are set and have been reported, and the keys that have been pressed
last have timers. No media key is in the buffer. -/
structure FollowsMedia (u : UsbGadget) (actions : List AutoReleaseAction) : Prop where
  first : u.keysDownState.keys.head? ≠ some hidErrorRollOver
  keys : ∀ key ∈ u.keysDownState.keys, isKeyboardMediaKey key = false
  consumer : u.consumerState
    = Bitmask.maskOf keyboardMediaKeyBits fun key => leavesOn (lastAction actions key)
  reported : lastConsumerReport u.hidg0 = u.consumerState
  timers : ∀ key, isKeyboardMediaKey key = true →
    u.kbdAutoReleaseTimers key
      = if lastAction actions key = some (.keypress key true) then some .armed else none

variable {u v : UsbGadget} {actions : List AutoReleaseAction} {a : AutoReleaseAction}
  {keys : List UInt8} {key k : UInt8} {press : Bool}

/-! ### The last action -/

theorem lastAction_append (actions : List AutoReleaseAction) (a : AutoReleaseAction)
    (key : UInt8) :
  lastAction (actions ++ [a]) key = if a.key = key then some a else lastAction actions key
  := by
  rw [lastAction, List.reverse_append, List.reverse_singleton, List.singleton_append,
    List.find?_cons]
  by_cases h : a.key = key
  · simp [h]
  · simp [h, lastAction]

theorem lastAction_append_of_ne (h : a.key ≠ key) :
  lastAction (actions ++ [a]) key = lastAction actions key
  := by
  rw [lastAction_append, if_neg h]

theorem key_of_lastAction (h : lastAction actions key = some a) :
  a.key = key
  := by
  rw [lastAction] at h
  simpa using List.find?_some h

theorem leavesOn_append (actions : List AutoReleaseAction) (a : AutoReleaseAction) :
  (fun key => leavesOn (lastAction (actions ++ [a]) key))
    = Function.update (fun key => leavesOn (lastAction actions key)) a.key (leavesOn (some a))
  := by
  funext key
  rw [lastAction_append]
  by_cases h : a.key = key
  · subst h
    rw [if_pos rfl, Function.update_self]
  · rw [if_neg h, Function.update_of_ne (Ne.symm h)]

/-! ### The buffer -/

/-- The slot search brings no key into the buffer but the one that is pressed. -/
theorem mem_of_mem_updateSlot {slots : List UInt8} (h : updateSlot key press keys = some slots)
    (hk : k ∈ slots) :
  k ∈ keys ∨ k = key ∨ k = 0
  := by
  induction keys generalizing slots with
  | nil => cases h
  | cons first keys ih =>
      rw [updateSlot] at h
      split at h
      · obtain rfl := Option.some.inj h
        split at hk
        · rcases List.mem_cons.mp hk with rfl | hk
          · simp
          · simp [hk]
        · split at hk
          · rcases List.mem_append.mp hk with hk | hk
            · simp [hk]
            · simp [List.mem_singleton.mp hk]
          · simp [hk]
      · obtain ⟨rest, hrest, rfl⟩ := Option.map_eq_some_iff.mp h
        rcases List.mem_cons.mp hk with rfl | hk
        · simp
        · rcases ih hrest hk with hk | hk
          · simp [hk]
          · simp [hk]

theorem isKeyboardMediaKey_clearRollOver (hkeys : ∀ k ∈ keys, isKeyboardMediaKey k = false) :
  ∀ k ∈ clearRollOver keys, isKeyboardMediaKey k = false
  := by
  intro k hk
  rw [clearRollOver] at hk
  split at hk
  · obtain ⟨-, -, rfl⟩ := List.mem_map.mp hk
    decide
  · apply hkeys k hk

/-- No media key comes into the buffer. -/
theorem isKeyboardMediaKey_clearRollOver_bufferAfter
    (hkeys : ∀ k ∈ keys, isKeyboardMediaKey k = false) (hkey : isKeyboardMediaKey key = false) :
  ∀ k ∈ clearRollOver (bufferAfter keys key press), isKeyboardMediaKey k = false
  := by
  have hbuffer : ∀ k ∈ bufferAfter keys key press, isKeyboardMediaKey k = false := by
    intro k hk
    rw [bufferAfter] at hk
    split at hk
    · rename_i slots hslots
      rcases mem_of_mem_updateSlot hslots hk with hk | rfl | rfl
      · apply hkeys k hk
      · apply hkey
      · decide
    · split at hk
      · obtain ⟨-, -, rfl⟩ := List.mem_map.mp hk
        decide
      · apply hkeys k hk
  apply isKeyboardMediaKey_clearRollOver hbuffer

/-! ### Reports -/

@[simp]
theorem lastConsumerReport_consumer (bits : UInt8) (reports : List HidReport) :
  lastConsumerReport (.consumer bits :: reports) = bits
  := rfl

@[simp]
theorem lastConsumerReport_keyboard (modifier : UInt8) (keys : List UInt8)
    (reports : List HidReport) :
  lastConsumerReport (.keyboard modifier keys :: reports) = lastConsumerReport reports
  := rfl

/-- The report of a key other than a media key is a keyboard report. -/
theorem keypressReport_lastConsumerReport (h : isKeyboardMediaKey key = false) :
  lastConsumerReport (u.keypressReport key press .written).1.hidg0
    = lastConsumerReport u.hidg0
  := by
  simp [UsbGadget.keypressReport, h, UsbGadget.keyboardWriteHidFileLocked,
    UsbGadget.writeHidFile]

/-- The report of a media key. -/
theorem keypressReport_media_written {bit : UInt8}
    (h : keyboardMediaKeyBits.lookup key = some bit) :
  (u.keypressReport key press .written).1
    = { u with
        hidg0 := .consumer (if press then u.consumerState ||| bit
          else u.consumerState &&& ~~~bit) :: u.hidg0
        consumerState := if press then u.consumerState ||| bit else u.consumerState &&& ~~~bit }
  := by
  have hmedia : isKeyboardMediaKey key = true := by
    rw [isKeyboardMediaKey, h]
    rfl
  have hbit : keyboardMediaKeyToConsumerBit key = bit := by
    rw [keyboardMediaKeyToConsumerBit, h]
    rfl
  rw [UsbGadget.keypressReport_media hmedia, UsbGadget.consumerControlReport_written,
    UsbGadget.consumerBitsAfter, hbit]

namespace FollowsMedia

theorem new : FollowsMedia newUsbGadget []
  := by
  constructor
  · decide
  · intro key hkey
    rw [List.eq_of_mem_replicate hkey]
    decide
  · exact (Bitmask.maskOf_none fun _ _ => rfl).symm
  · rfl
  · exact fun _ _ => rfl

/-- A step about a key other than a media key leaves the bits, the newest Consumer Control
report and the timers of the media keys alone. -/
theorem other (h : FollowsMedia u actions) (hkey : isKeyboardMediaKey a.key = false)
    (hfirst : v.keysDownState.keys.head? ≠ some hidErrorRollOver)
    (hkeys : ∀ key ∈ v.keysDownState.keys, isKeyboardMediaKey key = false)
    (hconsumer : v.consumerState = u.consumerState)
    (hreported : lastConsumerReport v.hidg0 = lastConsumerReport u.hidg0)
    (htimers : ∀ key, key ≠ a.key → v.kbdAutoReleaseTimers key = u.kbdAutoReleaseTimers key) :
  FollowsMedia v (actions ++ [a])
  := by
  have hne : ∀ key, isKeyboardMediaKey key = true → a.key ≠ key := by
    rintro key hmedia rfl
    rw [hkey] at hmedia
    cases hmedia
  constructor
  · apply hfirst
  · apply hkeys
  · rw [hconsumer, h.consumer]
    apply Bitmask.maskOf_congr
    intro e he
    rw [lastAction_append_of_ne]
    apply hne
    rw [isKeyboardMediaKey, List.lookup_isSome_iff]
    exact ⟨e, he, by simp⟩
  · rw [hreported, hconsumer]
    apply h.reported
  · intro key hmedia
    rw [htimers key (hne key hmedia).symm, lastAction_append_of_ne (hne key hmedia)]
    apply h.timers key hmedia

/-- The report of a key other than a media key brings no media key into the buffer. -/
theorem keys_keypressReport (h : FollowsMedia u actions)
    (hkey : isKeyboardMediaKey key = false) (press : Bool) :
  ∀ k ∈ (u.keypressReport key press .written).1.keysDownState.keys,
    isKeyboardMediaKey k = false
  := by
  rw [UsbGadget.keypressReport_keysDownState hkey]
  cases hmask : keyCodeToMaskMap.lookup key with
  | some mask =>
      rw [KeysDownState.after_modifier hmask]
      apply isKeyboardMediaKey_clearRollOver h.keys
  | none =>
      have hmodifier : isModifier key = false := by
        rw [isModifier, hmask]
        rfl
      rw [KeysDownState.after_ordinary hmodifier]
      apply isKeyboardMediaKey_clearRollOver_bufferAfter h.keys hkey

/-- A press or a release of a media key sets or clears its bit, and starts or stops its
timer. -/
theorem keypress_media (h : FollowsMedia u actions) (hkey : isKeyboardMediaKey key = true) :
  FollowsMedia (u.KeypressReport key press .written).1 (actions ++ [.keypress key press])
  := by
  obtain ⟨bit, hbit⟩ := Option.isSome_iff_exists.mp hkey
  have hmodifier := isModifier_of_media hkey
  have hconsumer : (u.keypressReport key press .written).1.consumerState
      = if press then u.consumerState ||| bit else u.consumerState &&& ~~~bit := by
    rw [keypressReport_media_written hbit]
  have hkeys : (u.keypressReport key press .written).1.keysDownState = u.keysDownState := by
    rw [keypressReport_media_written hbit]
  constructor
  · rw [UsbGadget.KeypressReport_keysDownState, hkeys]
    apply h.first
  · rw [UsbGadget.KeypressReport_keysDownState, hkeys]
    apply h.keys
  · rw [UsbGadget.KeypressReport_consumerState, hconsumer, leavesOn_append, h.consumer]
    cases press with
    | true =>
        exact (Bitmask.maskOf_press (mem_of_lookup hbit) keyboardMediaKeyBits_separated).symm
    | false =>
        exact (Bitmask.maskOf_release (mem_of_lookup hbit) keyboardMediaKeyBits_separated).symm
  · rw [UsbGadget.KeypressReport_consumerState, UsbGadget.KeypressReport_hidg0,
      keypressReport_media_written hbit]
    rfl
  · intro k hk
    rw [UsbGadget.KeypressReport_timers hmodifier, hkeys]
    by_cases heq : k = key
    · subst heq
      cases press with
      | true => simp [h.first, lastAction_append, AutoReleaseAction.key]
      | false => simp [lastAction_append, AutoReleaseAction.key]
    · rw [Function.update_of_ne heq,
        lastAction_append_of_ne (a := .keypress key press) (Ne.symm heq)]
      apply h.timers k hk

/-- A call for a key other than a media key. -/
theorem keypress_other (h : FollowsMedia u actions) (hkey : isKeyboardMediaKey key = false) :
  FollowsMedia (u.KeypressReport key press .written).1 (actions ++ [.keypress key press])
  := by
  apply h.other (a := .keypress key press) hkey
  · rw [UsbGadget.KeypressReport_keysDownState, UsbGadget.keypressReport_keysDownState hkey]
    apply head?_clearRollOver
  · rw [UsbGadget.KeypressReport_keysDownState]
    apply h.keys_keypressReport hkey
  · rw [UsbGadget.KeypressReport_consumerState, UsbGadget.keypressReport_consumerState hkey]
  · rw [UsbGadget.KeypressReport_hidg0, keypressReport_lastConsumerReport hkey]
  · intro k hk
    cases hmodifier : isModifier key with
    | true => simp [UsbGadget.KeypressReport, UsbGadget.updateTimer_modifier hmodifier]
    | false =>
        rw [UsbGadget.KeypressReport_timers hmodifier]
        apply Function.update_of_ne hk

/-- The firing of the timer of a media key removes the timer and leaves the key on. -/
theorem fire_media (h : FollowsMedia u actions) (hkey : isKeyboardMediaKey key = true)
    (harmed : u.kbdAutoReleaseTimers key = some .armed) :
  FollowsMedia (u.performAutoRelease key .written) (actions ++ [.fire key])
  := by
  have hpressed : lastAction actions key = some (.keypress key true) := by
    by_contra hnot
    rw [h.timers key hkey, if_neg hnot] at harmed
    cases harmed
  have hup : key ∉ u.keysDownState.keys := by
    intro hmem
    rw [h.keys key hmem] at hkey
    cases hkey
  rw [UsbGadget.performAutoRelease_some harmed, if_neg hup]
  constructor
  · apply h.first
  · apply h.keys
  · rw [leavesOn_append]
    have hon : leavesOn (lastAction actions key) = true := by
      rw [hpressed]
      rfl
    rw [Function.update_eq_self_iff.mpr]
    · apply h.consumer
    · exact hon.symm
  · apply h.reported
  · intro k hk
    rw [UsbGadget.setTimer_timers]
    by_cases heq : k = key
    · subst heq
      simp [lastAction_append, AutoReleaseAction.key]
    · rw [Function.update_of_ne heq, lastAction_append_of_ne (a := .fire key) (Ne.symm heq)]
      apply h.timers k hk

/-- The firing of the timer of a key other than a media key. -/
theorem fire_other (h : FollowsMedia u actions) (hkey : isKeyboardMediaKey key = false)
    (harmed : u.kbdAutoReleaseTimers key = some .armed) :
  FollowsMedia (u.performAutoRelease key .written) (actions ++ [.fire key])
  := by
  have htimers : ∀ k, k ≠ key →
      Function.update u.kbdAutoReleaseTimers key none k = u.kbdAutoReleaseTimers k :=
    fun k hk => Function.update_of_ne hk _ _
  rw [UsbGadget.performAutoRelease_some harmed]
  split
  · have hkeys := h.keys_keypressReport hkey false
    apply h.other (a := .fire key) hkey
    · rw [UsbGadget.keypressReport_keysDownState hkey]
      apply head?_clearRollOver
    · rw [UsbGadget.keypressReport_keysDownState hkey] at hkeys ⊢
      apply hkeys
    · rw [UsbGadget.keypressReport_consumerState hkey, UsbGadget.setTimer_consumerState]
    · rw [keypressReport_lastConsumerReport hkey, UsbGadget.setTimer_hidg0]
    · rw [UsbGadget.keypressReport_timers]
      apply htimers
  · apply h.other (a := .fire key) (v := u.setTimer key none) hkey h.first h.keys rfl rfl htimers

/-- Every action is followed. -/
theorem step (h : FollowsMedia u actions) (step : autoReleaseLts.step u a v) :
  FollowsMedia v (actions ++ [a])
  := by
  cases a with
  | keypress key press =>
      obtain rfl := Option.some.inj step
      cases hkey : isKeyboardMediaKey key with
      | true => apply h.keypress_media hkey
      | false => apply h.keypress_other hkey
  | fire key =>
      obtain ⟨harmed, hnext⟩ := Option.ite_none_right_eq_some.mp step
      obtain rfl := Option.some.inj hnext
      cases hkey : isKeyboardMediaKey key with
      | true => apply h.fire_media hkey harmed
      | false => apply h.fire_other hkey harmed

theorem run {tr : List (Lts.Transition UsbGadget AutoReleaseAction)}
    (run : autoReleaseLts.Run newUsbGadget tr u) :
  FollowsMedia u (tr.map Lts.Transition.action)
  := by
  induction run with
  | nil => apply FollowsMedia.new
  | snoc run step ih =>
      rw [List.map_append]
      apply ih.step step

end FollowsMedia

/-! ### When the media keys are up -/

/-- When no timer is left, no media key is on exactly when none of them was left to its timer:
the last action about it is not the firing of its timer. -/
theorem mediaKeysUp_iff {tr : List (Lts.Transition UsbGadget AutoReleaseAction)}
    (run : autoReleaseLts.Run newUsbGadget tr u)
    (idle : ∀ key, u.kbdAutoReleaseTimers key = none) :
  MediaKeysUp u ↔ ∀ key, isKeyboardMediaKey key = true →
    lastAction (tr.map Lts.Transition.action) key ≠ some (.fire key)
  := by
  have h := FollowsMedia.run run
  rw [MediaKeysUp, h.reported, and_self, h.consumer]
  constructor
  · intro hzero key hkey hfire
    obtain ⟨bit, hbit⟩ := Option.isSome_iff_exists.mp hkey
    have hoff := Bitmask.not_held_of_maskOf_eq_zero hzero (mem_of_lookup hbit)
      (keyboardMediaKeyBits_ne_zero _ (mem_of_lookup hbit))
    rw [hfire] at hoff
    cases hoff
  · intro hleft
    apply Bitmask.maskOf_none
    intro e he
    have hkey : isKeyboardMediaKey e.1 = true :=
      List.lookup_isSome_iff.mpr ⟨e, he, by simp⟩
    have htimer := h.timers e.1 hkey
    rw [idle, eq_comm, ite_eq_right_iff] at htimer
    cases hlast : lastAction (tr.map Lts.Transition.action) e.1 with
    | none => rfl
    | some a =>
        have hsame := key_of_lastAction hlast
        cases a with
        | fire key =>
            obtain rfl : key = e.1 := hsame
            exact absurd hlast (hleft e.1 hkey)
        | keypress key press =>
            obtain rfl : key = e.1 := hsame
            cases press with
            | false => rfl
            | true => cases htimer hlast

/-- Volume up is pressed and released by calls, and the key `a` is left to its timer. -/
theorem mediaKeysUp_iff_released :
  ∃ tr u, autoReleaseLts.Run newUsbGadget tr u ∧ lastAction (tr.map Lts.Transition.action) 0x80
      = some (.keypress 0x80 false) ∧
    (MediaKeysUp u ↔ ∀ key, isKeyboardMediaKey key = true →
      lastAction (tr.map Lts.Transition.action) key ≠ some (.fire key))
  := by
  obtain ⟨tr, u, run, hactions, hobserve⟩ :=
    Lts.exists_run_of_observe autoReleaseStep newUsbGadget
      [.keypress 0x80 true, .keypress 0x04 true, .keypress 0x80 false, .fire 0x04]
      (fun u => decide (∀ key, u.kbdAutoReleaseTimers key = none))
      (by decide +kernel : _ = some true)
  use tr, u, run
  constructor
  · rw [hactions]
    decide
  · exact mediaKeysUp_iff run (of_decide_eq_true hobserve)

/-- Volume up is pressed and left to its timer, which does not release it. -/
theorem media_key_stays_on :
  ¬ ∀ (tr : List (Lts.Transition UsbGadget AutoReleaseAction)) (u : UsbGadget),
    autoReleaseLts.Run newUsbGadget tr u → (∀ key, u.kbdAutoReleaseTimers key = none) →
    MediaKeysUp u
  := by
  intro claim
  obtain ⟨tr, u, run, -, hobserve⟩ :=
    Lts.exists_run_of_observe autoReleaseStep newUsbGadget
      [.keypress 0x80 true, .fire 0x80]
      (fun u => decide ((∀ key, u.kbdAutoReleaseTimers key = none) ∧ ¬ MediaKeysUp u))
      (by decide +kernel : _ = some true)
  obtain ⟨hidle, hup⟩ := of_decide_eq_true hobserve
  exact hup (claim tr u run hidle)

end JetKvm
