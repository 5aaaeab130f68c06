import JetKvm.Keyboard.HostAgreement
import JetKvm.Keyboard.PendingRelease

/-!
# The shape of the key buffer

Keyboard reports, presses and releases of keys and the callbacks of the timers leave a buffer of six
bytes without holes, in which there is no media key and whose first byte is not `hidErrorRollOver`,
whatever becomes of their writes. As long as no keyboard report repeats a key, the buffer repeats
none either.
-/

namespace JetKvm

/-- An operation on the keyboard, with what becomes of its writes. -/
inductive KeyboardOperation where
  | keyboardReport (modifier : UInt8) (keys : List UInt8) (consumerWrite keyboardWrite : HidWrite)
  | keypressReport (key : UInt8) (press : Bool) (write : HidWrite)
  /-- The timer of the key expires. -/
  | autoRelease (key : UInt8) (write : HidWrite)
deriving DecidableEq, Repr

/-- What the operation makes of the gadget. -/
def KeyboardOperation.apply (u : UsbGadget) : KeyboardOperation → UsbGadget
  | keyboardReport modifier keys consumerWrite keyboardWrite =>
      (u.keyboardReport modifier keys consumerWrite keyboardWrite).1
  | keypressReport key press write => (u.KeypressReport key press write).1
  | autoRelease key write => u.performAutoRelease key write

/-- The sequences of operations. -/
def keyboardOperationLts : Lts UsbGadget KeyboardOperation :=
  Lts.ofStep fun u a => some (a.apply u)

/-- No byte other than zero is repeated. -/
def NoRepeats (keys : List UInt8) : Prop :=
  keys.Pairwise fun a b => a ≠ 0 → a ≠ b

/-- The keyboard reports repeat no key. -/
def KeyboardOperation.NoRepeats : KeyboardOperation → Prop
  | keyboardReport _ keys _ _ => JetKvm.NoRepeats keys
  | _ => True

/-- What holds of every buffer. -/
structure BufferShape (keys : List UInt8) : Prop where
  length : keys.length = hidKeyBufferSize
  noHoles : keys.Pairwise fun a b => a = 0 → b = 0
  noMedia : ∀ key ∈ keys, isKeyboardMediaKey key = false
  first : keys.head? ≠ some hidErrorRollOver

/-! ### The held keys -/

variable {keys held : List UInt8} {key k : UInt8} {press : Bool} {u v : UsbGadget}
  {a : KeyboardOperation} {tr : List (Lts.Transition UsbGadget KeyboardOperation)}

/-- The buffer holds keys other than media keys, and does not begin with `hidErrorRollOver`. -/
structure Shaped (keys held : List UInt8) : Prop where
  holds : Holds keys held
  noMedia : ∀ key ∈ held, isKeyboardMediaKey key = false
  first : keys.head? ≠ some hidErrorRollOver

theorem Shaped.none : Shaped noKeys [] where
  holds := .none
  noMedia := nofun
  first := by decide

/-- A buffer of held keys has its shape. -/
theorem Shaped.bufferShape (h : Shaped keys held) :
  BufferShape keys
  := by
  constructor
  · apply h.holds.length_eq
  · rw [h.holds.eq, List.pairwise_append]
    refine ⟨?_, ?_, ?_⟩
    · apply List.Pairwise.imp_of_mem _ (List.pairwise_of_forall fun _ _ => trivial)
      rintro a b ha - - rfl
      exact absurd ha h.holds.zero_notMem
    · rw [List.pairwise_replicate]
      exact Or.inr fun _ => rfl
    · rintro a - b hb -
      apply List.eq_of_mem_replicate hb
  · intro key hkey
    by_cases hzero : key = 0
    · rw [hzero]
      decide
    · apply h.noMedia key ((h.holds.mem_iff hzero).mp hkey)
  · apply h.first

/-- Distinct held keys are not repeated in the buffer. -/
theorem Shaped.noRepeats (h : Shaped keys held) (nodup : held.Nodup) :
  NoRepeats keys
  := by
  rw [NoRepeats, h.holds.eq, List.pairwise_append]
  refine ⟨?_, ?_, ?_⟩
  · apply List.Pairwise.imp _ nodup
    exact fun hne _ => hne
  · rw [List.pairwise_replicate]
    exact Or.inr fun hne => absurd rfl hne
  · rintro a ha b hb hne rfl
    exact hne (List.eq_of_mem_replicate hb)

theorem mem_of_mem_heldAfter (h : k ∈ heldAfter held key press) :
  k = key ∨ k ∈ held
  := by
  rw [heldAfter] at h
  split at h
  · split at h
    · exact Or.inr h
    · rcases List.mem_append.mp h with h | h
      · exact Or.inr h
      · exact Or.inl (List.mem_singleton.mp h)
  · exact Or.inr (List.mem_of_mem_erase h)

/-- What is recorded of a buffer without holes has its shape. -/
theorem Shaped.clearRollOver (holds : Holds keys held)
    (noMedia : ∀ key ∈ held, isKeyboardMediaKey key = false) :
  ∃ recorded, Shaped (clearRollOver keys) recorded ∧ recorded.Sublist held
  := by
  obtain ⟨recorded, hrecorded, hsub⟩ := holds.clearRollOver
  use recorded
  refine ⟨⟨hrecorded, ?_, head?_clearRollOver keys⟩, hsub⟩
  exact fun key hkey => noMedia key (hsub.subset hkey)

/-! ### The operations -/

/-- The keys of a keyboard report that repeats none are distinct. -/
theorem nodup_stripMediaKeysLoop (h : NoRepeats keys) :
  (stripMediaKeysLoop keys).1.Nodup
  := by
  induction keys with
  | nil => exact List.nodup_nil
  | cons key keys ih =>
      obtain ⟨hfirst, hrest⟩ := List.pairwise_cons.mp h
      simp only [stripMediaKeysLoop]
      split
      · apply ih hrest
      · rename_i hzero
        split
        · apply ih hrest
        · apply List.nodup_cons.mpr
          refine ⟨?_, ih hrest⟩
          intro hmem
          exact hfirst key (stripMediaKeysLoop_mem hmem).1 hzero rfl

theorem NoRepeats.padKeys (h : NoRepeats keys) :
  NoRepeats (padKeys keys)
  := by
  have htake : NoRepeats (keys.take hidKeyBufferSize) := h.sublist (List.take_sublist _ _)
  have hpad : ∀ keys, NoRepeats keys → ∀ n, NoRepeats (keys ++ List.replicate n 0) := by
    intro keys h n
    rw [NoRepeats, List.pairwise_append]
    refine ⟨h, ?_, ?_⟩
    · rw [List.pairwise_replicate]
      exact Or.inr fun hne => absurd rfl hne
    · rintro a - b hb hne rfl
      exact hne (List.eq_of_mem_replicate hb)
  rw [JetKvm.padKeys]
  split
  · split
    · apply hpad _ htake
    · apply htake
  · split
    · apply hpad _ h
    · apply h

/-- What the buffer of a gadget holds. -/
def UsbGadget.Holding (u : UsbGadget) (held : List UInt8) : Prop :=
  Shaped u.keysDownState.keys held

theorem holding_keyboardReport (modifier : UInt8) (keys : List UInt8)
    (consumerWrite keyboardWrite : HidWrite) :
  ∃ held, (u.keyboardReport modifier keys consumerWrite keyboardWrite).1.Holding held ∧
    (NoRepeats keys → held.Nodup)
  := by
  obtain ⟨recorded, hshaped, hsub⟩ := Shaped.clearRollOver
    (holds_stripMediaKeys (length_padKeys keys)) fun key hkey => (stripMediaKeysLoop_mem hkey).2.2
  use recorded
  constructor
  · rw [UsbGadget.Holding, UsbGadget.keyboardReport]
    simpa using hshaped
  · intro hdistinct
    exact List.Nodup.sublist hsub (nodup_stripMediaKeysLoop hdistinct.padKeys)

theorem holding_keypressReport (h : u.Holding held) (key : UInt8) (press : Bool)
    (write : HidWrite) :
  ∃ held', (u.keypressReport key press write).1.Holding held' ∧ (held.Nodup → held'.Nodup)
  := by
  cases hmedia : isKeyboardMediaKey key with
  | true =>
      refine ⟨held, ?_, id⟩
      rw [UsbGadget.Holding, UsbGadget.keypressReport_media hmedia,
        UsbGadget.consumerControlReport_keysDownState]
      apply h
  | false =>
      simp only [UsbGadget.Holding]
      rw [UsbGadget.keypressReport_keysDownState hmedia]
      cases hlookup : keyCodeToMaskMap.lookup key with
      | some mask =>
          rw [KeysDownState.after_modifier hlookup]
          obtain ⟨recorded, hshaped, hsub⟩ := Shaped.clearRollOver h.holds h.noMedia
          exact ⟨recorded, hshaped, fun nodup => List.Nodup.sublist hsub nodup⟩
      | none =>
          rw [KeysDownState.after_ordinary (by rw [isModifier, hlookup]; rfl)]
          dsimp only
          by_cases slot : FindsSlot u.keysDownState.keys key press
          · obtain ⟨recorded, hshaped, hsub⟩ := Shaped.clearRollOver (h.holds.after slot) (by
              intro k hk
              rcases mem_of_mem_heldAfter hk with rfl | hk
              · exact hmedia
              · exact h.noMedia k hk)
            exact ⟨recorded, hshaped, fun nodup =>
              List.Nodup.sublist hsub (nodup_heldAfter nodup key press)⟩
          · rw [h.holds.overrun slot, clearRollOver_rolledOver]
            exact ⟨[], .none, fun _ => List.nodup_nil⟩

/-- Every operation keeps the shape of the buffer. -/
theorem holding_step (h : u.Holding held) (step : keyboardOperationLts.step u a v) :
  ∃ held', v.Holding held' ∧ (held.Nodup → a.NoRepeats → held'.Nodup)
  := by
  obtain rfl := Option.some.inj step
  cases a with
  | keyboardReport modifier keys consumerWrite keyboardWrite =>
      obtain ⟨held', hheld, hnodup⟩ :=
        holding_keyboardReport (u := u) modifier keys consumerWrite keyboardWrite
      exact ⟨held', hheld, fun _ => hnodup⟩
  | keypressReport key press write =>
      obtain ⟨held', hheld, hnodup⟩ := holding_keypressReport h key press write
      use held'
      rw [UsbGadget.Holding, KeyboardOperation.apply, UsbGadget.KeypressReport_keysDownState]
      exact ⟨hheld, fun nodup _ => hnodup nodup⟩
  | autoRelease key write =>
      rw [KeyboardOperation.apply]
      cases htimer : u.kbdAutoReleaseTimers key with
      | none =>
          rw [UsbGadget.performAutoRelease_none htimer]
          exact ⟨held, h, fun nodup _ => nodup⟩
      | some timer =>
          rw [UsbGadget.performAutoRelease_some htimer]
          have hset : (u.setTimer key none).Holding held := h
          split
          · obtain ⟨held', hheld, hnodup⟩ := holding_keypressReport hset key false write
            exact ⟨held', hheld, fun nodup _ => hnodup nodup⟩
          · exact ⟨held, hset, fun nodup _ => nodup⟩

/-- In every state that is reached the buffer has its shape, and it repeats no key if the keyboard
reports repeat none. -/
theorem bufferShape_of_run (run : keyboardOperationLts.Run newUsbGadget tr u) :
  BufferShape u.keysDownState.keys ∧
    ((∀ e ∈ tr, e.action.NoRepeats) → NoRepeats u.keysDownState.keys)
  := by
  have h : ∃ held, u.Holding held ∧ ((∀ e ∈ tr, e.action.NoRepeats) → held.Nodup) := by
    induction run with
    | nil => exact ⟨[], .none, fun _ => List.nodup_nil⟩
    | snoc run step ih =>
        obtain ⟨held, hheld, hnodup⟩ := ih
        obtain ⟨held', hheld', hnodup'⟩ := holding_step hheld step
        use held', hheld'
        intro hactions
        rw [List.forall_mem_append, List.forall_mem_singleton] at hactions
        exact hnodup' (hnodup hactions.1) hactions.2
  obtain ⟨held, hheld, hnodup⟩ := h
  use hheld.bufferShape
  exact fun hactions => hheld.noRepeats (hnodup hactions)

/-- A report of two keys, a press of a third that is released again, and a timer. -/
theorem bufferShape_of_run_typing :
  ∃ tr u, keyboardOperationLts.Run newUsbGadget tr u ∧ u.keysDownState.keys = [4, 5, 0, 0, 0, 0] ∧
    BufferShape u.keysDownState.keys
  := by
  obtain ⟨tr, u, run, -, hobserve⟩ :=
    Lts.exists_run_of_observe (fun (u : UsbGadget) (a : KeyboardOperation) => some (a.apply u))
      newUsbGadget
      [.keyboardReport 0 [4, 5] .written .timedOut, .keypressReport 6 true .written,
        .autoRelease 6 .written] (fun u => u.keysDownState.keys)
      (by decide +kernel : _ = some ([4, 5, 0, 0, 0, 0] : List UInt8))
  exact ⟨tr, u, run, hobserve, (bufferShape_of_run run).1⟩

end JetKvm
