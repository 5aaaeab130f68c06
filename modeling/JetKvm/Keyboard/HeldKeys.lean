import JetKvm.Keyboard.Gadget
import Mathlib.Data.List.Induction
import Mathlib.Data.Fintype.Card
import Mathlib.Data.FinEnum

/-!
# The keys held by a sequence of presses and releases

What is held is read off the sequence alone: a key is held since the press that made it
held, until its next release. After a sequence of `keypressReport` calls whose reports
are all written, the gadget's key buffer lists the held ordinary keys in the order in
which they became held, the modifier byte is the mask of the held modifiers, and the
Consumer Control bits are the mask of the held media keys.
-/

namespace JetKvm

/-- A press or a release of a key. -/
structure KeyEvent where
  key : UInt8
  press : Bool
deriving DecidableEq, Repr

/-! ### Held keys -/

/-- One event, at position `e.2`, changes since when the key is held: a press of a key
that is not held makes it held, a release lets go of it. -/
def heldStep (key : UInt8) (since : Option Nat) (e : KeyEvent × Nat) : Option Nat :=
  if e.1.key = key then if e.1.press then since.or (some e.2) else none else since

/-- The position of the press since which the key is held, when it is held. -/
def heldSince (events : List KeyEvent) (key : UInt8) : Option Nat :=
  events.zipIdx.foldl (heldStep key) none

/-- Whether the key was pressed and not released since. -/
def isHeld (events : List KeyEvent) (key : UInt8) : Bool :=
  (heldSince events key).isSome

/-- The list names exactly the held ordinary keys, in the order of the presses that made
them held. -/
structure InHeldOrder (events : List KeyEvent) (held : List UInt8) : Prop where
  mem_iff : ∀ key, key ∈ held ↔ Ordinary key ∧ isHeld events key = true
  sorted : held.Pairwise fun a b =>
    ∃ i j, heldSince events a = some i ∧ heldSince events b = some j ∧ i < j

variable {events : List KeyEvent} {held : List UInt8} {key : UInt8} {e : KeyEvent}

theorem heldSince_append (events : List KeyEvent) (e : KeyEvent) (key : UInt8) :
  heldSince (events ++ [e]) key = heldStep key (heldSince events key) (e, events.length)
  := by
  simp [heldSince, List.zipIdx_append]

theorem heldSince_append_of_ne (h : e.key ≠ key) :
  heldSince (events ++ [e]) key = heldSince events key
  := by
  rw [heldSince_append, heldStep, if_neg h]

/-- The positions at which keys became held lie in the sequence. -/
theorem heldSince_lt {i : Nat} (h : heldSince events key = some i) :
  i < events.length
  := by
  induction events using List.reverseRecOn generalizing i with
  | nil => cases h
  | append_singleton events e ih =>
      rw [List.length_append, List.length_singleton]
      rw [heldSince_append, heldStep] at h
      split at h
      · split at h
        · cases hsince : heldSince events key with
          | none =>
              rw [hsince] at h
              obtain rfl := Option.some.inj h
              apply Nat.lt_succ_self
          | some j =>
              rw [hsince] at h
              obtain rfl := Option.some.inj h
              apply Nat.lt_succ_of_lt (ih hsince)
        · cases h
      · apply Nat.lt_succ_of_lt (ih h)

/-- The last event about a key decides whether it is held. -/
theorem isHeld_append (events : List KeyEvent) (e : KeyEvent) :
  isHeld (events ++ [e]) = Function.update (isHeld events) e.key e.press
  := by
  funext key
  by_cases h : e.key = key
  · subst h
    rw [Function.update_self, isHeld, heldSince_append, heldStep, if_pos rfl]
    cases e.press
    · rfl
    · cases heldSince events e.key <;> rfl
  · rw [Function.update_of_ne (Ne.symm h), isHeld, heldSince_append_of_ne h, isHeld]

theorem isHeld_append_of_ne (h : e.key ≠ key) :
  isHeld (events ++ [e]) key = isHeld events key
  := by
  rw [isHeld_append, Function.update_of_ne (Ne.symm h)]

@[simp]
theorem isHeld_append_self (events : List KeyEvent) (key : UInt8) (press : Bool) :
  isHeld (events ++ [⟨key, press⟩]) key = press
  := by
  rw [isHeld_append, Function.update_self]

/-- A key that is held was named by an event. -/
theorem mem_keys_of_isHeld (h : isHeld events key = true) :
  key ∈ events.map KeyEvent.key
  := by
  induction events using List.reverseRecOn with
  | nil => cases h
  | append_singleton events e ih =>
      rw [List.map_append, List.mem_append]
      by_cases hkey : e.key = key
      · right
        simp [hkey]
      · left
        rw [isHeld_append_of_ne hkey] at h
        apply ih h

namespace InHeldOrder

/-- No key is listed twice. -/
theorem nodup (h : InHeldOrder events held) :
  held.Nodup
  := by
  apply h.sorted.imp
  rintro a _ ⟨i, j, hi, hj, hlt⟩ rfl
  rw [hi] at hj
  exact Nat.ne_of_lt hlt (Option.some.inj hj)

theorem nil : InHeldOrder [] []
  := ⟨fun _ => by simp [isHeld, heldSince], List.Pairwise.nil⟩

/-- An event about a key that is not listed before or after it does not change the list. -/
theorem append_of_not_ordinary (h : InHeldOrder events held) (hkey : ¬ Ordinary e.key) :
  InHeldOrder (events ++ [e]) held
  := by
  have hne : ∀ k, Ordinary k → e.key ≠ k := by
    rintro k hk rfl
    exact hkey hk
  constructor
  · intro k
    rw [h.mem_iff]
    apply and_congr_right
    intro hk
    rw [isHeld_append_of_ne (hne k hk)]
  · apply h.sorted.imp_of_mem
    intro a b ha hb hab
    rw [heldSince_append_of_ne (hne a ((h.mem_iff a).mp ha).1),
      heldSince_append_of_ne (hne b ((h.mem_iff b).mp hb).1)]
    exact hab

/-- Pressing a key that is held does not change the list. -/
theorem press_of_mem (h : InHeldOrder events held) (hkey : key ∈ held) :
  InHeldOrder (events ++ [⟨key, true⟩]) held
  := by
  have hheld := ((h.mem_iff key).mp hkey).2
  have hsince : ∀ k, heldSince (events ++ [⟨key, true⟩]) k = heldSince events k := by
    intro k
    by_cases hk : key = k
    · subst hk
      obtain ⟨i, hi⟩ := Option.isSome_iff_exists.mp hheld
      rw [heldSince_append, heldStep, hi]
      simp
    · apply heldSince_append_of_ne hk
  constructor
  · intro k
    rw [h.mem_iff, isHeld, isHeld, hsince]
  · apply h.sorted.imp
    intro a b hab
    rw [hsince, hsince]
    exact hab

/-- Pressing an ordinary key that is not held appends it to the list. -/
theorem press_of_notMem (h : InHeldOrder events held) (hkey : key ∉ held)
    (hord : Ordinary key) :
  InHeldOrder (events ++ [⟨key, true⟩]) (held ++ [key])
  := by
  have hne : ∀ k ∈ held, key ≠ k := by
    rintro k hk rfl
    exact hkey hk
  have hnone : heldSince events key = none := by
    cases hsince : heldSince events key with
    | none => rfl
    | some i =>
        exfalso
        apply hkey
        apply (h.mem_iff key).mpr ⟨hord, _⟩
        rw [isHeld, hsince]
        rfl
  have hself : heldSince (events ++ [⟨key, true⟩]) key = some events.length := by
    rw [heldSince_append, heldStep, hnone]
    simp
  constructor
  · intro k
    rw [List.mem_append, List.mem_singleton, h.mem_iff]
    by_cases hk : key = k
    · subst hk
      simp [hord]
    · rw [isHeld_append_of_ne hk]
      simp [Ne.symm hk]
  · apply List.pairwise_append.mpr
    refine ⟨?_, List.pairwise_singleton _ _, ?_⟩
    · apply h.sorted.imp_of_mem
      intro a b ha hb hab
      rw [heldSince_append_of_ne (hne a ha), heldSince_append_of_ne (hne b hb)]
      exact hab
    · intro a ha b hb
      obtain rfl := List.mem_singleton.mp hb
      obtain ⟨i, hi⟩ := Option.isSome_iff_exists.mp ((h.mem_iff a).mp ha).2
      use i, events.length
      rw [heldSince_append_of_ne (hne a ha)]
      exact ⟨hi, hself, heldSince_lt hi⟩

/-- Releasing a key erases it from the list. -/
theorem release (h : InHeldOrder events held) (key : UInt8) :
  InHeldOrder (events ++ [⟨key, false⟩]) (held.erase key)
  := by
  have hne : ∀ k ∈ held.erase key, key ≠ k := by
    rintro k hk rfl
    exact h.nodup.not_mem_erase hk
  constructor
  · intro k
    rw [h.nodup.mem_erase_iff, h.mem_iff]
    by_cases hk : key = k
    · subst hk
      simp
    · rw [isHeld_append_of_ne hk]
      simp [Ne.symm hk]
  · apply (h.sorted.sublist List.erase_sublist).imp_of_mem
    intro a b ha hb hab
    rw [heldSince_append_of_ne (hne a ha), heldSince_append_of_ne (hne b hb)]
    exact hab

end InHeldOrder

/-! ### The gadget follows the held keys -/

/-- The gadget after `keypressReport` calls for the events in turn, every write
succeeding. -/
def keypressReports (u : UsbGadget) (events : List KeyEvent) : UsbGadget :=
  events.foldl (fun u e => (u.keypressReport e.key e.press .written).1) u

/-- The ordinary keys that are held. -/
def heldOrdinary (events : List KeyEvent) : Finset UInt8 :=
  Finset.univ.filter fun key => Ordinary key ∧ isHeld events key = true

/-- The gadget shows the keys held after the events: the ordinary ones, listed in `held`,
in the key slots, the modifiers in the modifier byte and the media keys in the Consumer
Control bits. -/
structure Shows (u : UsbGadget) (events : List KeyEvent) (held : List UInt8) : Prop where
  order : InHeldOrder events held
  keys : Holds u.keysDownState.keys held
  rollOver_notMem : hidErrorRollOver ∉ held
  modifier : u.keysDownState.modifier = Bitmask.maskOf keyCodeToMaskMap (isHeld events)
  consumer : u.consumerState = Bitmask.maskOf keyboardMediaKeyBits (isHeld events)

variable {u : UsbGadget}

/-- A list of the held ordinary keys has as many elements as there are such keys. -/
theorem InHeldOrder.length_eq_card (h : InHeldOrder events held) :
  held.length = (heldOrdinary events).card
  := by
  rw [← List.toFinset_card_of_nodup h.nodup]
  congr 1
  ext k
  simp [heldOrdinary, h.mem_iff]

/-- No more keys are held than there were events. -/
theorem heldOrdinary_card_le (events : List KeyEvent) :
  (heldOrdinary events).card ≤ events.length
  := by
  have hsub : heldOrdinary events ⊆ (events.map KeyEvent.key).toFinset := by
    intro key hkey
    have hheld : isHeld events key = true := (Finset.mem_filter.mp hkey).2.2
    rw [List.mem_toFinset]
    apply mem_keys_of_isHeld hheld
  calc (heldOrdinary events).card ≤ (events.map KeyEvent.key).toFinset.card :=
        Finset.card_le_card hsub
    _ ≤ (events.map KeyEvent.key).length := List.toFinset_card_le _
    _ = events.length := List.length_map _

/-- A key pressed or released sets or clears its mask in a table that has it. -/
theorem maskOf_isHeld_append {table : List (UInt8 × UInt8)} {mask : UInt8}
    (hsep : Bitmask.Separated table) (hlookup : table.lookup e.key = some mask) :
  Bitmask.maskOf table (isHeld (events ++ [e]))
    = if e.press then Bitmask.maskOf table (isHeld events) ||| mask
      else Bitmask.maskOf table (isHeld events) &&& ~~~mask
  := by
  rw [isHeld_append]
  cases e.press
  · apply Bitmask.maskOf_release (mem_of_lookup hlookup) hsep
  · apply Bitmask.maskOf_press (mem_of_lookup hlookup) hsep

/-- A key that a table does not have leaves the mask of the table as it is. -/
theorem maskOf_isHeld_append_of_none {table : List (UInt8 × UInt8)}
    (hlookup : (table.lookup e.key).isSome = false) :
  Bitmask.maskOf table (isHeld (events ++ [e])) = Bitmask.maskOf table (isHeld events)
  := by
  rw [isHeld_append]
  apply Bitmask.maskOf_update_of_notMem
  intro hmem
  obtain ⟨p, hp, hkey⟩ := List.mem_map.mp hmem
  rw [List.lookup_isSome_iff.mpr ⟨p, hp, by simp [hkey]⟩] at hlookup
  cases hlookup

/-- A media key is not a modifier. -/
theorem isModifier_of_media {key : UInt8} (h : isKeyboardMediaKey key = true) :
  isModifier key = false
  := by
  cases hmod : isModifier key with
  | false => rfl
  | true =>
      obtain ⟨mask, hmask⟩ := Option.isSome_iff_exists.mp hmod
      obtain ⟨bit, hbit⟩ := Option.isSome_iff_exists.mp h
      exfalso
      apply tables_disjoint _ (mem_of_lookup hmask)
      apply List.mem_map.mpr
      use (key, bit), mem_of_lookup hbit

namespace Shows

theorem new : Shows newUsbGadget [] []
  := ⟨.nil, .none, List.not_mem_nil, (Bitmask.maskOf_none fun _ _ => rfl).symm,
    (Bitmask.maskOf_none fun _ _ => rfl).symm⟩

/-- A media key changes its bit of the Consumer Control report. -/
theorem media (h : Shows u events held) (hkey : isKeyboardMediaKey e.key = true) :
  Shows (u.keypressReport e.key e.press .written).1 (events ++ [e]) held
  := by
  obtain ⟨bit, hbit⟩ := Option.isSome_iff_exists.mp hkey
  have hto : keyboardMediaKeyToConsumerBit e.key = bit := by
    rw [keyboardMediaKeyToConsumerBit, hbit]
    rfl
  rw [UsbGadget.keypressReport_media hkey]
  constructor
  · apply h.order.append_of_not_ordinary
    simp [Ordinary, hkey]
  · simpa using h.keys
  · apply h.rollOver_notMem
  · rw [maskOf_isHeld_append_of_none (isModifier_of_media hkey), ← h.modifier]
    simp
  · rw [maskOf_isHeld_append keyboardMediaKeyBits_separated hbit, ← h.consumer,
      UsbGadget.consumerControlReport_written]
    simp [UsbGadget.consumerBitsAfter, hto]

/-- A modifier changes its bit of the modifier byte. -/
theorem modifier_key (h : Shows u events held) (hmedia : isKeyboardMediaKey e.key = false)
    (hkey : isModifier e.key = true) :
  Shows (u.keypressReport e.key e.press .written).1 (events ++ [e]) held
  := by
  obtain ⟨mask, hmask⟩ := Option.isSome_iff_exists.mp hkey
  have hstate : (u.keypressReport e.key e.press .written).1.keysDownState = _ :=
    UsbGadget.keypressReport_keysDownState hmedia .written
  rw [KeysDownState.after_modifier hmask,
    h.keys.clearRollOver_eq (Holds.headD_ne_of_notMem h.rollOver_notMem)] at hstate
  constructor
  · apply h.order.append_of_not_ordinary
    simp [Ordinary, hkey]
  · rw [hstate]
    apply h.keys
  · apply h.rollOver_notMem
  · rw [hstate, maskOf_isHeld_append keyCodeToMaskMap_separated hmask, ← h.modifier]
  · rw [UsbGadget.keypressReport_consumerState hmedia, h.consumer,
      maskOf_isHeld_append_of_none hmedia]

/-- An ordinary key leaves the masks as they are, and the key slots as `held'` says. -/
theorem ordinary (h : Shows u events held) (hkey : Ordinary e.key) {held' : List UInt8}
    (horder : InHeldOrder (events ++ [e]) held') (hnot : hidErrorRollOver ∉ held')
    (hkeys : Holds (bufferAfter u.keysDownState.keys e.key e.press) held') :
  Shows (u.keypressReport e.key e.press .written).1 (events ++ [e]) held'
  := by
  have hstate : (u.keypressReport e.key e.press .written).1.keysDownState = _ :=
    UsbGadget.keypressReport_keysDownState hkey.1 .written
  rw [KeysDownState.after_ordinary hkey.2,
    hkeys.clearRollOver_eq (Holds.headD_ne_of_notMem hnot)] at hstate
  constructor
  · apply horder
  · rw [hstate]
    apply hkeys
  · apply hnot
  · rw [hstate, h.modifier, maskOf_isHeld_append_of_none hkey.2]
  · rw [UsbGadget.keypressReport_consumerState hkey.1, h.consumer,
      maskOf_isHeld_append_of_none hkey.1]

/-- One more event keeps the gadget in step with the held keys, as long as no more than
six ordinary keys are then held. -/
theorem step (h : Shows u events held) (h0 : e.key ≠ 0) (h1 : e.key ≠ hidErrorRollOver)
    (hcard : (heldOrdinary (events ++ [e])).card ≤ hidKeyBufferSize) :
  ∃ held', Shows (u.keypressReport e.key e.press .written).1 (events ++ [e]) held'
  := by
  by_cases hord : Ordinary e.key
  · obtain ⟨key, press⟩ := e
    cases press with
    | false =>
        use held.erase key
        apply h.ordinary hord (h.order.release key) _ h.keys.release
        exact fun hmem => h.rollOver_notMem (List.mem_of_mem_erase hmem)
    | true =>
        by_cases hmem : key ∈ held
        · use held
          apply h.ordinary hord (h.order.press_of_mem hmem) h.rollOver_notMem
          rw [h.keys.press_of_mem hmem]
          apply h.keys
        · have horder := h.order.press_of_notMem hmem hord
          use held ++ [key]
          apply h.ordinary hord horder
          · simp [h.rollOver_notMem, Ne.symm h1]
          · rw [← horder.length_eq_card, List.length_append] at hcard
            apply h.keys.press_of_notMem hmem h0 hcard
  · use held
    cases hmedia : isKeyboardMediaKey e.key with
    | true => apply h.media hmedia
    | false =>
        apply h.modifier_key hmedia
        cases hmod : isModifier e.key with
        | true => rfl
        | false => exact absurd ⟨hmedia, hmod⟩ hord

end Shows

/-- The gadget shows the held keys after every sequence of events that never has more
than six ordinary keys held at once. -/
theorem shows_keypressReports
    (hkeys : ∀ e ∈ events, e.key ≠ 0 ∧ e.key ≠ hidErrorRollOver)
    (hcard : ∀ front, front <+: events → (heldOrdinary front).card ≤ hidKeyBufferSize) :
  ∃ held, Shows (keypressReports newUsbGadget events) events held
  := by
  induction events using List.reverseRecOn with
  | nil => exact ⟨[], .new⟩
  | append_singleton events e ih =>
      obtain ⟨held, h⟩ := ih (fun f hf => hkeys f (List.mem_append_left _ hf))
        (fun front hfront => hcard front (hfront.trans (List.prefix_append _ _)))
      obtain ⟨h0, h1⟩ := hkeys e (by simp)
      rw [keypressReports, List.foldl_append]
      apply h.step h0 h1 (hcard _ (List.prefix_refl _))

/-- Set semantics of the key buffer. After any sequence of `keypressReport` calls, every
write succeeding, over keys other than 0 and 1, that never has more than six ordinary keys
held at once, the key slots list exactly the held ordinary keys in the order of the
presses that made them held, followed by zeros, the modifier byte is the or of the masks
of the held modifiers, and the Consumer Control bits are the or of the bits of the held
media keys. -/
theorem keypressReports_eq_held (events : List KeyEvent)
    (hkeys : ∀ e ∈ events, e.key ≠ 0 ∧ e.key ≠ 1)
    (hcard : ∀ front, front <+: events → (heldOrdinary front).card ≤ 6) :
  ∃ held, InHeldOrder events held ∧
    (keypressReports newUsbGadget events).keysDownState
      = { modifier := Bitmask.maskOf keyCodeToMaskMap (isHeld events),
          keys := held ++ List.replicate (6 - held.length) 0 } ∧
    (keypressReports newUsbGadget events).consumerState
      = Bitmask.maskOf keyboardMediaKeyBits (isHeld events)
  := by
  obtain ⟨held, h⟩ := shows_keypressReports hkeys hcard
  use held, h.order
  constructor
  · rw [← h.modifier]
    have hkeys := h.keys.eq
    rw [hidKeyBufferSize] at hkeys
    rw [← hkeys]
  · apply h.consumer

/-- Left shift, the key `a` and volume up are pressed, and volume up is released. -/
theorem keypressReports_eq_held_typing :
  ∃ held,
    InHeldOrder [⟨0xE1, true⟩, ⟨0x04, true⟩, ⟨0x80, true⟩, ⟨0x80, false⟩] held ∧
    (keypressReports newUsbGadget
        [⟨0xE1, true⟩, ⟨0x04, true⟩, ⟨0x80, true⟩, ⟨0x80, false⟩]).keysDownState
      = { modifier := Bitmask.maskOf keyCodeToMaskMap
            (isHeld [⟨0xE1, true⟩, ⟨0x04, true⟩, ⟨0x80, true⟩, ⟨0x80, false⟩]),
          keys := held ++ List.replicate (6 - held.length) 0 } ∧
    (keypressReports newUsbGadget
        [⟨0xE1, true⟩, ⟨0x04, true⟩, ⟨0x80, true⟩, ⟨0x80, false⟩]).consumerState
      = Bitmask.maskOf keyboardMediaKeyBits
          (isHeld [⟨0xE1, true⟩, ⟨0x04, true⟩, ⟨0x80, true⟩, ⟨0x80, false⟩])
  := by
  apply keypressReports_eq_held
  · decide
  · intro front hfront
    apply le_trans (heldOrdinary_card_le front)
    apply le_trans hfront.length_le
    decide

end JetKvm
