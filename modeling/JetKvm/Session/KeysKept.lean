import JetKvm.Keyboard.HostAgreement
import JetKvm.Session.Takeover

/-!
# Whose keys are down

Once the keys have been cleared for a takeover, the old session can still press keys. An ordinary
key that it presses is released by its timer, and what a macro reports is replaced by its last step.
A step that presses nothing else for the old session keeps each key that is down set by the new
session, or on its way to be released.
-/

namespace JetKvm

/-- The keys and modifiers of the first state are among those of the second. -/
structure KeysDownState.Within (state other : KeysDownState) : Prop where
  modifier : Bitmask.Within state.modifier other.modifier
  keys : ∀ key ∈ state.keys, key ≠ 0 → key ∈ other.keys

instance (state other : KeysDownState) : Decidable (state.Within other) :=
  decidable_of_iff (Bitmask.Within state.modifier other.modifier ∧
      ∀ key ∈ state.keys, key ≠ 0 → key ∈ other.keys)
    ⟨fun h => ⟨h.1, h.2⟩, fun h => ⟨h.modifier, h.keys⟩⟩

namespace Takeover

open HidRpc (KeyboardMacroStep)

/-- Each key and modifier that is down has been set by a message of the new session. -/
def SetByNew {Thread : Type*} (s : Shared Thread) : Prop :=
  s.gadget.keysDownState.Within s.setByNew

/-! ### The goroutines -/

/-- The steps that a macro has still to report. -/
def MacroHandler.macroLeft : MacroHandler → List KeyboardMacroStep
  | execute steps | register steps | loop steps | reported _ steps | sleep steps => steps
  | finished => []

/-- The goroutine is about to report all keys anew for the old session, or to clear them. -/
def Goroutine.Replaces : Goroutine → Bool
  | worker .old _ (.handle (.keyboardMacro call)) => call.macroLeft ≠ []
  | request r => r ∈ [Request.cancelTimers, .clear]
  | closing h => h ∈ [Closing.cancelMacro, .cancelTimers, .clear]
  | _ => false

/-- The goroutine is about to start the timer of a key that the old session has pressed, or to
release the key. -/
def Goroutine.Settles (key : UInt8) : Goroutine → Bool
  | worker .old _ (.handle (.updateTimer k press _)) => key = k && press
  | timer (.autoReleaseCheck k) | timer (.autoReleaseReport k) => key = k
  | _ => false

/-- What the report of an ordinary key has left does not begin with `hidErrorRollOver`. -/
def Goroutine.Sound : Goroutine → Prop
  | worker _ _ (.handle (.updateTimer key _ state)) =>
      Ordinary key → state.keys.head? ≠ some hidErrorRollOver
  | _ => True

/-- What the old session is about to report is already down for the new one, or is an ordinary key
that it presses. A release that is about to stop the timer of a key that the old session has pressed
again leaves another goroutine that will start the timer or release the key. -/
def AddsNothing {Thread : Type*} (c : SessionPool Thread) (i : Thread) : Prop :=
  match c.threads i with
  | .worker .old _ (.handle (.keyboardReport modifier keys)) =>
      (reportSets modifier keys).Within c.shared.setByNew
  | .worker .old _ (.handle (.keyboardMacro (.loop [step]))) =>
      (reportSets step.modifier step.keys).Within c.shared.setByNew
  | .worker .old _ (.handle (.keypressReport key true)) =>
      Bitmask.Within (keypressSets key true).modifier c.shared.setByNew.modifier
  | .worker _ _ (.handle (.updateTimer key false _)) =>
      key ∈ c.shared.gadget.keysDownState.keys → key ≠ 0 →
        key ∈ c.shared.setByNew.keys ∨ ∃ j, j ≠ i ∧ (c.threads j).Settles key = true
  | _ => True

/-! ### The keys after a report -/

/-- Clearing an overflow adds no key. -/
theorem mem_of_mem_clearRollOver {keys : List UInt8} {key : UInt8} (h : key ∈ clearRollOver keys)
    (hzero : key ≠ 0) :
  key ∈ keys
  := by
  rw [clearRollOver] at h
  split at h
  · obtain ⟨-, -, rfl⟩ := List.mem_map.mp h
    exact absurd rfl hzero
  · exact h

/-- A report sets the keys that are down. -/
theorem rpcKeyboardReport_keysDownState (u : UsbGadget) (modifier : UInt8) (keys : List UInt8) :
  (Macro.rpcKeyboardReport u modifier keys).keysDownState =
    { modifier, keys := clearRollOver (reportSets modifier keys).keys }
  := by
  rw [Macro.rpcKeyboardReport, UsbGadget.keyboardReport]
  apply UsbGadget.updateKeysDown_keysDownState

/-- The keys of a report are held in its slots. -/
theorem holds_reportSets (modifier : UInt8) (keys : List UInt8) :
  ∃ held, Holds (clearRollOver (reportSets modifier keys).keys) held
  := by
  obtain ⟨held, hholds, -⟩ := (holds_stripMediaKeys (length_padKeys keys)).clearRollOver
  exact ⟨held, hholds⟩

section Keypress

variable {u : UsbGadget} {held : List UInt8} {key k : UInt8} {press : Bool}

/-- A key has as many slots as it is held. -/
theorem count_eq_of_holds {keys : List UInt8} (h : Holds keys held) (hk : k ≠ 0) :
  keys.count k = held.count k
  := by
  rw [h.eq, List.count_append, List.count_replicate, if_neg (by simpa using Ne.symm hk),
    Nat.add_zero]

/-- What a press or a release makes of the keys that are held. -/
structure HeldAfterKey (held recorded : List UInt8) (key : UInt8) (press : Bool) : Prop where
  mem : ∀ k ∈ recorded, k ∈ held ∨ k = key ∧ press = true ∧ Ordinary key
  once : ∀ k, held.count k ≤ 1 → recorded.count k ≤ 1
  released : press = false → Ordinary key → held.count key ≤ 1 → key ∉ recorded

/-- A key that is not held in the slots adds none. -/
theorem HeldAfterKey.of_sublist {recorded : List UInt8} (h : recorded.Sublist held)
    (hkey : ¬ Ordinary key) :
  HeldAfterKey held recorded key press
  := by
  constructor
  case mem => exact fun k hk => .inl (h.subset hk)
  case once => exact fun k hk => (h.count_le k).trans hk
  case released => exact fun _ hordinary => absurd hordinary hkey

/-- Less may be held. -/
theorem HeldAfterKey.sublist {after recorded : List UInt8} (h : HeldAfterKey held after key press)
    (hsublist : recorded.Sublist after) :
  HeldAfterKey held recorded key press
  := by
  constructor
  case mem => exact fun k hk => h.mem k (hsublist.subset hk)
  case once => exact fun k hk => (hsublist.count_le k).trans (h.once k hk)
  case released =>
    intro hrelease hordinary hcount hmem
    exact h.released hrelease hordinary hcount (hsublist.subset hmem)

/-- What is held after a key is what the key makes of it. -/
theorem heldAfterKey_heldAfter (hkey : Ordinary key) :
  HeldAfterKey held (heldAfter held key press) key press
  := by
  cases press with
  | false =>
      rw [heldAfter, if_neg Bool.false_ne_true]
      constructor
      case mem => exact fun k hk => .inl (List.mem_of_mem_erase hk)
      case once => exact fun k hk => (List.erase_sublist.count_le k).trans hk
      case released =>
        rintro - - hcount
        rw [← List.count_eq_zero, List.count_erase_self]
        omega
  | true =>
      rw [heldAfter, if_pos rfl]
      by_cases hheld : key ∈ held ∨ key = 0
      · rw [if_pos hheld]
        constructor
        case mem => exact fun k hk => .inl hk
        case once => exact fun k hk => hk
        case released => rintro ⟨⟩
      · rw [if_neg hheld]
        constructor
        case mem =>
          intro k hk
          rcases List.mem_append.mp hk with hk | hk
          · exact .inl hk
          · exact .inr ⟨List.mem_singleton.mp hk, rfl, hkey⟩
        case once =>
          intro k hk
          rw [List.count_append, List.count_singleton]
          by_cases hself : key = k
          · have hnone : held.count k = 0 := by
              rw [List.count_eq_zero, ← hself]
              exact fun hmem => hheld (.inl hmem)
            rw [hnone]
            split <;> omega
          · rw [if_neg (by simpa using hself), Nat.add_zero]
            exact hk
        case released => rintro ⟨⟩

/-- What the report of a key leaves of the keys that are held. -/
theorem exists_heldAfterKey (h : Holds u.keysDownState.keys held) (key : UInt8) (press : Bool)
    (write : HidWrite) :
  ∃ recorded, Holds (u.keypressReport key press write).1.keysDownState.keys recorded ∧
    HeldAfterKey held recorded key press
  := by
  cases hmedia : isKeyboardMediaKey key with
  | true =>
      use held
      rw [UsbGadget.keypressReport_media hmedia, UsbGadget.consumerControlReport_keysDownState]
      refine ⟨h, .of_sublist (List.Sublist.refl held) ?_⟩
      intro hkey
      rw [hkey.1] at hmedia
      cases hmedia
  | false =>
      rw [UsbGadget.keypressReport_keysDownState hmedia]
      by_cases hkey : Ordinary key
      · rw [KeysDownState.after_ordinary hkey.2]
        by_cases slot : FindsSlot u.keysDownState.keys key press
        · obtain ⟨recorded, hrecorded, hsub⟩ := (h.after slot).clearRollOver
          exact ⟨recorded, hrecorded, (heldAfterKey_heldAfter hkey).sublist hsub⟩
        · use []
          dsimp only
          rw [h.overrun slot, clearRollOver_rolledOver]
          refine ⟨Holds.none, ?_⟩
          constructor
          case mem => nofun
          case once => exact fun _ _ => Nat.zero_le _
          case released => exact fun _ _ _ => List.not_mem_nil
      · have hmodifier : isModifier key = true := by
          simpa [Ordinary, hmedia] using hkey
        obtain ⟨mask, hmask⟩ := Option.isSome_iff_exists.mp hmodifier
        rw [KeysDownState.after_modifier hmask]
        obtain ⟨recorded, hrecorded, hsub⟩ := h.clearRollOver
        exact ⟨recorded, hrecorded, .of_sublist hsub hkey⟩

/-- The modifiers after the report of a key. -/
theorem within_keypressReport {mask : UInt8} (write : HidWrite)
    (h : Bitmask.Within u.keysDownState.modifier mask)
    (hpress : press = true → Bitmask.Within (keypressSets key true).modifier mask) :
  Bitmask.Within (u.keypressReport key press write).1.keysDownState.modifier mask
  := by
  cases hmedia : isKeyboardMediaKey key with
  | true =>
      rw [UsbGadget.keypressReport_media hmedia, UsbGadget.consumerControlReport_keysDownState]
      exact h
  | false =>
      rw [UsbGadget.keypressReport_keysDownState hmedia]
      cases hlookup : keyCodeToMaskMap.lookup key with
      | none =>
          rw [KeysDownState.after_ordinary (by rw [isModifier, hlookup]; rfl)]
          exact h
      | some bits =>
          rw [KeysDownState.after_modifier hlookup]
          cases press with
          | true =>
              have hbits := hpress rfl
              rw [keypressSets, if_pos rfl, hlookup] at hbits
              exact h.or hbits
          | false => exact h.of_and _

end Keypress

/-! ### The keys that are down -/

section Kept

variable {Thread : Type*}

/-- The timer of the key is there, or a goroutine is about to start it or to release the key. -/
def ReleaseOnItsWay (c : SessionPool Thread) (key : UInt8) : Prop :=
  c.shared.gadget.kbdAutoReleaseTimers key ≠ none ∨ ∃ i, (c.threads i).Settles key = true

/-- A key that the old session has pressed, which is down once and will be released. -/
structure Leaving (c : SessionPool Thread) (key : UInt8) : Prop where
  ordinary : Ordinary key
  once : c.shared.gadget.keysDownState.keys.count key ≤ 1
  release : ReleaseOnItsWay c key

/-- The modifiers have been set by the new session, and so have the keys, but for those that will be
released. -/
structure Kept (c : SessionPool Thread) : Prop where
  modifier : Bitmask.Within c.shared.gadget.keysDownState.modifier c.shared.setByNew.modifier
  keys : ∀ key ∈ c.shared.gadget.keysDownState.keys, key ≠ 0 →
    key ∈ c.shared.setByNew.keys ∨ Leaving c key

/-- What is known once the keys have been cleared: they are kept, or will be replaced. -/
structure KeysKept (c : SessionPool Thread) : Prop where
  buffer : ∃ held, Holds c.shared.gadget.keysDownState.keys held
  kept : (∃ i, (c.threads i).Replaces = true) ∨ Kept c

variable {s : Shared Thread} {adds : KeysDownState} {u : UsbGadget}

/-- A report of what the new session has set or sets is its own. -/
theorem setByNew_record
    (hmodifier : Bitmask.Within u.keysDownState.modifier (s.setByNew.modifier ||| adds.modifier))
    (hkeys : ∀ key ∈ u.keysDownState.keys, key ≠ 0 → key ∈ s.setByNew.keys ∨ key ∈ adds.keys) :
  SetByNew (s.record adds u)
  := by
  constructor
  case modifier => exact (Bitmask.Within.refl _).and hmodifier
  case keys =>
    intro key hkey hzero
    exact List.mem_filter.mpr ⟨hkey, decide_eq_true (hkeys key hkey hzero)⟩

/-- When no key is down, every key that is down was set by the new session. -/
theorem setByNew_record_up (hstate : u.keysDownState = .allUp) :
  SetByNew (s.record nothing u)
  := by
  apply setByNew_record
  · rw [hstate]
    apply Bitmask.Within.zero
  · rw [hstate]
    intro key hkey hzero
    exact absurd (List.eq_of_mem_replicate hkey) hzero

/-- A report of the old session sets no key that the new one has not set. -/
theorem setByNew_rpcKeyboardReport {session : Session} {modifier : UInt8} {keys : List UInt8}
    (h : session = .old → (reportSets modifier keys).Within s.setByNew) :
  SetByNew (s.rpcKeyboardReport session modifier keys)
  := by
  apply setByNew_record
  · rw [rpcKeyboardReport_keysDownState]
    cases session with
    | old => exact (h rfl).modifier.left _
    | new => exact (Bitmask.Within.refl _).right _
  · rw [rpcKeyboardReport_keysDownState]
    intro key hkey hzero
    have hmem := mem_of_mem_clearRollOver hkey hzero
    cases session with
    | old => exact .inl ((h rfl).keys key hmem hzero)
    | new => exact .inr hmem

/-- A report without keys lets go of all of them. -/
theorem rpcKeyboardReport_noKeys :
  (Macro.rpcKeyboardReport u 0 noKeys).keysDownState = .allUp
  := by
  rw [rpcKeyboardReport_keysDownState]
  rfl

variable {c : SessionPool Thread} {threads : Thread → Goroutine}

/-- Keys that were set by the new session are kept. -/
theorem keysKept_of_setByNew (hbuffer : ∃ held, Holds s.gadget.keysDownState.keys held)
    (h : SetByNew s) :
  KeysKept ⟨s, threads⟩
  := by
  use hbuffer
  right
  use h.modifier
  exact fun key hkey hzero => .inl (h.keys key hkey hzero)

/-- So are none. -/
theorem keysKept_of_up (hstate : u.keysDownState = .allUp) :
  KeysKept ⟨s.record nothing u, threads⟩
  := by
  apply keysKept_of_setByNew
  · use []
    change Holds u.keysDownState.keys []
    rw [hstate]
    exact Holds.none
  · exact setByNew_record_up hstate

/-- Clearing the keys keeps none. -/
theorem keysKept_clearKeys :
  KeysKept ⟨s.clearKeys, threads⟩
  := keysKept_of_up rpcKeyboardReport_noKeys

/-- The keys are kept when they have just been cleared. -/
theorem keysKept_clear :
  KeysKept ⟨{ s.clearKeys with cleared := true }, threads⟩
  := keysKept_of_up (s := { s with cleared := true }) rpcKeyboardReport_noKeys

/-- A report of all keys keeps the keys if it adds nothing for the old session, or is about to be
replaced. -/
theorem keysKept_rpcKeyboardReport {session : Session} {modifier : UInt8} {keys : List UInt8}
    (h : (session = .old → (reportSets modifier keys).Within s.setByNew) ∨
      ∃ j, (threads j).Replaces = true) :
  KeysKept ⟨s.rpcKeyboardReport session modifier keys, threads⟩
  := by
  have hbuffer : ∃ held,
      Holds (s.rpcKeyboardReport session modifier keys).gadget.keysDownState.keys held := by
    dsimp only [Shared.rpcKeyboardReport, Shared.record]
    rw [rpcKeyboardReport_keysDownState]
    exact holds_reportSets modifier keys
  rcases h with hwithin | hreplaces
  · exact keysKept_of_setByNew hbuffer (setByNew_rpcKeyboardReport hwithin)
  · exact ⟨hbuffer, .inl hreplaces⟩

/-- A step after which the keys are about to be replaced keeps them. -/
theorem KeysKept.replaced (h : KeysKept c)
    (hstate : s.gadget.keysDownState = c.shared.gadget.keysDownState)
    (hreplaces : ∃ j, (threads j).Replaces = true) :
  KeysKept ⟨s, threads⟩
  := by
  constructor
  case buffer =>
    dsimp only
    rw [hstate]
    exact h.buffer
  case kept => exact .inl hreplaces

end Kept

/-! ### One step -/

section Step

variable {Thread : Type*} [DecidableEq Thread] {c : SessionPool Thread} {s : Shared Thread}
  {i : Thread} {g : Goroutine}

/-- A goroutine that will replace the keys may go on. -/
theorem exists_replaces_update (h : ∃ j, (c.threads j).Replaces = true)
    (hreplaces : (c.threads i).Replaces = true → g.Replaces = true) :
  ∃ j, (Function.update c.threads i g j).Replaces = true
  := Pool.exists_update (P := fun g => Goroutine.Replaces g = true) h hreplaces

/-- A release stays on its way when its timer is not removed, and the goroutine that takes the step
leaves it on its way if it was about to settle the key. -/
theorem ReleaseOnItsWay.update {key : UInt8} (h : ReleaseOnItsWay c key)
    (htimer : c.shared.gadget.kbdAutoReleaseTimers key ≠ none →
      s.gadget.kbdAutoReleaseTimers key ≠ none)
    (hsettles : (c.threads i).Settles key = true →
      ReleaseOnItsWay ⟨s, Function.update c.threads i g⟩ key) :
  ReleaseOnItsWay ⟨s, Function.update c.threads i g⟩ key
  := by
  rcases h with hsome | ⟨j, hj⟩
  · exact .inl (htimer hsome)
  · by_cases hji : j = i
    · rw [hji] at hj
      exact hsettles hj
    · right
      use j
      dsimp only
      rw [Function.update_of_ne hji]
      exact hj

/-- A key is released by the goroutine that is about to settle it. -/
theorem releaseOnItsWay_of_settles {key : UInt8} (h : g.Settles key = true) :
  ReleaseOnItsWay ⟨s, Function.update c.threads i g⟩ key
  := .inr (Pool.exists_update_self (Goroutine.Settles key · = true) i h)

/-- Another goroutine may go on meanwhile. -/
theorem exists_replaces_of_ne (h : ∃ j, j ≠ i ∧ (c.threads j).Replaces = true) :
  ∃ j, (Function.update c.threads i g j).Replaces = true
  := by
  obtain ⟨j, hj, hreplaces⟩ := h
  use j
  rw [Function.update_of_ne hj]
  exact hreplaces

/-- A step that leaves the keys as they are keeps them, when it goes on to replace them if it was
about to, and leaves the releases on their way. -/
theorem KeysKept.goOn (h : KeysKept c)
    (hstate : s.gadget.keysDownState = c.shared.gadget.keysDownState)
    (hset : s.setByNew = c.shared.setByNew)
    (hreplaces : (c.threads i).Replaces = true → g.Replaces = true)
    (hrelease : ∀ key ∈ c.shared.gadget.keysDownState.keys, key ≠ 0 →
      key ∈ c.shared.setByNew.keys ∨ (Ordinary key → ReleaseOnItsWay c key →
        ReleaseOnItsWay ⟨s, Function.update c.threads i g⟩ key)) :
  KeysKept ⟨s, Function.update c.threads i g⟩
  := by
  constructor
  case buffer =>
    dsimp only
    rw [hstate]
    exact h.buffer
  case kept =>
    rcases h.kept with hreplacing | hkept
    · exact .inl (exists_replaces_update hreplacing hreplaces)
    · right
      constructor
      case modifier =>
        dsimp only
        rw [hstate, hset]
        exact hkept.modifier
      case keys =>
        dsimp only
        rw [hstate, hset]
        intro key hkey hzero
        rcases hrelease key hkey hzero with hnew | hrelease
        · exact .inl hnew
        · apply (hkept.keys key hkey hzero).imp_right
          intro hleaving
          constructor
          case ordinary => exact hleaving.ordinary
          case once =>
            dsimp only
            rw [hstate]
            exact hleaving.once
          case release => exact hrelease hleaving.ordinary hleaving.release

/-- A step that has nothing to do with the keys keeps them. -/
theorem KeysKept.idle (h : KeysKept c)
    (hstate : s.gadget.keysDownState = c.shared.gadget.keysDownState)
    (hset : s.setByNew = c.shared.setByNew)
    (htimers : ∀ key, c.shared.gadget.kbdAutoReleaseTimers key ≠ none →
      s.gadget.kbdAutoReleaseTimers key ≠ none)
    (hreplaces : (c.threads i).Replaces = true → g.Replaces = true)
    (hsettles : ∀ key, (c.threads i).Settles key = false) :
  KeysKept ⟨s, Function.update c.threads i g⟩
  := by
  apply h.goOn hstate hset hreplaces
  rintro key - -
  right
  rintro - hrelease
  apply hrelease.update (htimers key)
  rw [hsettles]
  nofun

/-- A step that touches neither the gadget nor what the new session has set keeps the keys. -/
theorem KeysKept.untouched (h : KeysKept c) (hgadget : s.gadget = c.shared.gadget)
    (hset : s.setByNew = c.shared.setByNew)
    (hreplaces : (c.threads i).Replaces = true → g.Replaces = true)
    (hsettles : ∀ key, (c.threads i).Settles key = false) :
  KeysKept ⟨s, Function.update c.threads i g⟩
  := by
  apply h.idle
  case hstate => rw [hgadget]
  case hset => exact hset
  case htimers =>
    rw [hgadget]
    exact fun _ => id
  case hreplaces => exact hreplaces
  case hsettles => exact hsettles

/-- So does a step of a goroutine that neither replaces the keys nor settles one. -/
theorem KeysKept.aside (h : KeysKept c) {before : Goroutine} (hthread : c.threads i = before)
    (hreplaces : before.Replaces = false) (hsettles : ∀ key, before.Settles key = false)
    (hgadget : s.gadget = c.shared.gadget) (hset : s.setByNew = c.shared.setByNew) :
  KeysKept ⟨s, Function.update c.threads i g⟩
  := by
  apply h.untouched hgadget hset
  · rw [hthread, hreplaces]
    nofun
  · rw [hthread]
    exact hsettles

/-- The report of a key keeps the keys when what is pressed is set by the new session, or a timer is
about to be started for it. -/
theorem KeysKept.keypress (h : KeysKept c) {adds : KeysDownState} {key : UInt8} {press : Bool}
    (hreplaces : (c.threads i).Replaces = true → g.Replaces = true)
    (hmodifier : press = true →
      Bitmask.Within (keypressSets key true).modifier
        (c.shared.setByNew.modifier ||| adds.modifier))
    (hpress : press = true → Ordinary key → key ∈ adds.keys ∨ g.Settles key = true)
    (hsettles : ∀ k, (c.threads i).Settles k = true → k = key ∧ press = false) :
  KeysKept
    ⟨c.shared.record adds (c.shared.gadget.keypressReport key press .written).1,
      Function.update c.threads i g⟩
  := by
  obtain ⟨held, hholds⟩ := h.buffer
  obtain ⟨recorded, hrecorded, hafter⟩ := exists_heldAfterKey hholds key press .written
  use ⟨recorded, hrecorded⟩
  rcases h.kept with hreplacing | hkept
  · exact .inl (exists_replaces_update hreplacing hreplaces)
  right
  constructor
  case modifier =>
    apply (Bitmask.Within.refl _).and
    apply within_keypressReport
    · exact hkept.modifier.left _
    · exact hmodifier
  case keys =>
    intro k hk hzero
    have hnew (hset : k ∈ c.shared.setByNew.keys ∨ k ∈ adds.keys) :
        k ∈ (c.shared.record adds
          (c.shared.gadget.keypressReport key press .written).1).setByNew.keys :=
      List.mem_filter.mpr ⟨hk, decide_eq_true hset⟩
    have honce (hcount : c.shared.gadget.keysDownState.keys.count k ≤ 1) :
        (c.shared.gadget.keypressReport key press .written).1.keysDownState.keys.count k ≤ 1 := by
      rw [count_eq_of_holds hholds hzero] at hcount
      exact (count_eq_of_holds hrecorded hzero).trans_le (hafter.once k hcount)
    have hmem := (hrecorded.mem_iff hzero).mp hk
    rcases hafter.mem k hmem with hheld | ⟨rfl, hpressed, hordinary⟩
    · rcases hkept.keys k ((hholds.mem_iff hzero).mpr hheld) hzero with hset | hleaving
      · exact .inl (hnew (.inl hset))
      · right
        use hleaving.ordinary, honce hleaving.once
        apply hleaving.release.update
        · dsimp only [Shared.record]
          rw [UsbGadget.keypressReport_timers]
          exact id
        · -- the goroutine has just released its key
          intro hi
          obtain ⟨rfl, hrelease⟩ := hsettles k hi
          have hcount := hleaving.once
          rw [count_eq_of_holds hholds hzero] at hcount
          exact absurd hmem (hafter.released hrelease hleaving.ordinary hcount)
    · by_cases hset : k ∈ c.shared.setByNew.keys
      · exact .inl (hnew (.inl hset))
      · rcases hpress hpressed hordinary with hadds | hsettles
        · exact .inl (hnew (.inr hadds))
        · right
          refine ⟨hordinary, honce ?_, ?_⟩
          · by_cases hdown : k ∈ c.shared.gadget.keysDownState.keys
            · exact ((hkept.keys k hdown hzero).resolve_left hset).once
            · rw [List.count_eq_zero.mpr hdown]
              exact Nat.zero_le 1
          · exact releaseOnItsWay_of_settles hsettles

/-! #### Timers -/

/-- Setting a timer takes none away. -/
theorem ne_none_of_setTimer_some {key k : UInt8} {timer : AutoReleaseTimer} {u : UsbGadget}
    (h : u.kbdAutoReleaseTimers k ≠ none) :
  (u.setTimer key (some timer)).kbdAutoReleaseTimers k ≠ none
  := by
  rw [UsbGadget.setTimer_timers]
  by_cases hk : k = key
  · rw [hk, Function.update_self]
    exact Option.some_ne_none timer
  · rw [Function.update_of_ne hk]
    exact h

/-- A timer may go on. -/
theorem KeysKept.timer (h : KeysKept c) {call call' : KeypressCall}
    (hthread : c.threads i = .timer call) (hexec : timerExec c.shared call = some (s, call')) :
  KeysKept ⟨s, Function.update c.threads i (.timer call')⟩
  := by
  have hreplaces : (c.threads i).Replaces = true → (Goroutine.timer call').Replaces = true := by
    rw [hthread]
    nofun
  cases call with
  | autoReleaseReport key =>
      obtain ⟨rfl, rfl⟩ := Prod.mk.inj (Option.some.inj hexec)
      apply h.keypress hreplaces
      · nofun
      · nofun
      · intro k hk
        rw [hthread] at hk
        exact ⟨of_decide_eq_true hk, rfl⟩
  | timer key =>
      obtain ⟨-, hnext⟩ := Option.ite_none_right_eq_some.mp hexec
      obtain ⟨rfl, rfl⟩ := Prod.mk.inj (Option.some.inj hnext)
      apply h.idle
      case hstate => rfl
      case hset => rfl
      case htimers => exact fun _ => ne_none_of_setTimer_some
      case hreplaces => exact hreplaces
      case hsettles =>
        intro k
        rw [hthread]
        rfl
  | autoRelease key =>
      rw [timerExec] at hexec
      split at hexec
      case isTrue =>
        obtain ⟨rfl, rfl⟩ := Prod.mk.inj (Option.some.inj hexec)
        apply h.idle rfl rfl (fun _ => id) hreplaces
        intro k
        rw [hthread]
        rfl
      case isFalse =>
        obtain ⟨rfl, rfl⟩ := Prod.mk.inj (Option.some.inj hexec)
        apply h.goOn
        case hstate => rfl
        case hset => rfl
        case hreplaces => exact hreplaces
        case hrelease =>
          rintro k - -
          right
          rintro - hrelease
          by_cases hk : k = key
          · exact releaseOnItsWay_of_settles (decide_eq_true hk)
          · apply hrelease.update
            · dsimp only
              rw [UsbGadget.setTimer_timers, Function.update_of_ne hk]
              exact id
            · rw [hthread]
              nofun
  | autoReleaseCheck key =>
      rw [timerExec] at hexec
      split at hexec
      case isTrue =>
        obtain ⟨rfl, rfl⟩ := Prod.mk.inj (Option.some.inj hexec)
        apply h.goOn rfl rfl hreplaces
        rintro k - -
        right
        rintro - hrelease
        apply hrelease.update id
        rw [hthread]
        intro hk
        exact releaseOnItsWay_of_settles hk
      case isFalse hup =>
        obtain ⟨rfl, rfl⟩ := Prod.mk.inj (Option.some.inj hexec)
        apply h.goOn rfl rfl hreplaces
        rintro k hdown -
        right
        rintro - hrelease
        apply hrelease.update id
        rw [hthread]
        intro hk
        obtain rfl : k = key := of_decide_eq_true hk
        exact absurd hdown hup
  | keypressReport | updateTimer | done => cases hexec

/-! #### Workers -/

section Worker

variable {session : Session} {queue : ℕ} {choice : Choice}

/-- A macro replaces the keys as long as steps are left. -/
theorem replaces_keyboardMacro {call call' : MacroHandler}
    (h : call.macroLeft ≠ [] → call'.macroLeft ≠ [])
    (hreplaces : (Goroutine.worker session queue (.handle (.keyboardMacro call))).Replaces = true) :
  (Goroutine.worker session queue (.handle (.keyboardMacro call'))).Replaces = true
  := by
  cases session with
  | old => exact decide_eq_true (h (of_decide_eq_true hreplaces))
  | new => cases hreplaces

/-- A macro may go on. -/
theorem KeysKept.keyboardMacro (h : KeysKept c) {call : MacroHandler} {next : Option MacroHandler}
    (hthread : c.threads i = .worker session queue (.handle (.keyboardMacro call)))
    (hexec : call.exec i session choice c.shared = some (s, next))
    (hadds : AddsNothing c i ∨ ∃ j, j ≠ i ∧ (c.threads j).Replaces = true) :
  KeysKept
    ⟨s, Function.update c.threads i
      (.worker session queue (Worker.next (next.map Handler.keyboardMacro)))⟩
  := by
  have hsettles : ∀ key, (c.threads i).Settles key = false := by
    intro key
    rw [hthread]
    cases session with
    | old => rfl
    | new => rfl
  have hreplaces (call' : MacroHandler) (hleft : call.macroLeft ≠ [] → call'.macroLeft ≠ []) :
      (c.threads i).Replaces = true →
        (Goroutine.worker session queue (.handle (.keyboardMacro call'))).Replaces = true := by
    rw [hthread]
    exact replaces_keyboardMacro hleft
  cases call with
  | execute steps =>
      obtain ⟨rfl, rfl⟩ := Prod.mk.inj (Option.some.inj hexec)
      exact h.untouched rfl rfl (hreplaces _ id) hsettles
  | register steps =>
      obtain ⟨rfl, rfl⟩ := Prod.mk.inj (Option.some.inj hexec)
      exact h.untouched rfl rfl (hreplaces _ id) hsettles
  | loop steps =>
      cases steps with
      | nil =>
          obtain ⟨rfl, rfl⟩ := Prod.mk.inj (Option.some.inj hexec)
          exact h.untouched rfl rfl (hreplaces _ id) hsettles
      | cons step steps =>
          obtain ⟨rfl, rfl⟩ := Prod.mk.inj (Option.some.inj hexec)
          apply keysKept_rpcKeyboardReport
          cases session with
          | new => exact .inl nofun
          | old =>
              cases steps with
              | nil =>
                  rw [AddsNothing, hthread] at hadds
                  exact hadds.imp (fun hwithin _ => hwithin) exists_replaces_of_ne
              | cons =>
                  right
                  exact Pool.exists_update_self (Goroutine.Replaces · = true) i rfl
  | reported step steps =>
      rw [MacroHandler.exec] at hexec
      split at hexec
      case isTrue =>
        obtain ⟨rfl, rfl⟩ := Prod.mk.inj (Option.some.inj hexec)
        exact keysKept_of_up (UsbGadget.updateKeysDown_keysDownState _ _ _)
      case isFalse =>
        obtain ⟨rfl, rfl⟩ := Prod.mk.inj (Option.some.inj hexec)
        exact h.untouched rfl rfl (hreplaces _ id) hsettles
  | sleep steps =>
      rw [MacroHandler.exec] at hexec
      split at hexec
      case isTrue =>
        obtain ⟨rfl, rfl⟩ := Prod.mk.inj (Option.some.inj hexec)
        exact h.untouched rfl rfl (hreplaces _ id) hsettles
      case isFalse =>
        obtain ⟨-, hnext⟩ := Option.ite_none_right_eq_some.mp hexec
        obtain ⟨rfl, rfl⟩ := Prod.mk.inj (Option.some.inj hnext)
        exact keysKept_clearKeys
  | finished =>
      obtain ⟨rfl, rfl⟩ := Prod.mk.inj (Option.some.inj hexec)
      have hnone : (c.threads i).Replaces = true →
          (Goroutine.worker session queue Worker.check).Replaces = true := by
        rw [hthread]
        cases session with
        | old => nofun
        | new => nofun
      exact h.untouched rfl rfl hnone hsettles

/-- The timer of a key settles that key alone. -/
theorem settles_updateTimer {key k : UInt8} {press : Bool} {state : KeysDownState}
    (h : (Goroutine.worker session queue
      (.handle (.updateTimer key press state))).Settles k = true) :
  k = key
  := by
  cases session with
  | old => exact of_decide_eq_true (Bool.and_eq_true _ _ ▸ h).1
  | new => cases h

/-- It leaves the timers of the others. -/
theorem updateTimer_timers_of_ne {u : UsbGadget} {key k : UInt8} (hk : k ≠ key) (press : Bool)
    (state : KeysDownState) :
  (u.updateTimer key press state).kbdAutoReleaseTimers k = u.kbdAutoReleaseTimers k
  := by
  cases hkey : isModifier key with
  | true => rw [UsbGadget.updateTimer_modifier hkey]
  | false => rw [UsbGadget.updateTimer_timers hkey, Function.update_of_ne hk]

/-- A key may be reported. -/
theorem KeysKept.keypressReport (h : KeysKept c) {key : UInt8} {press : Bool}
    (hthread : c.threads i = .worker session queue (.handle (.keypressReport key press)))
    (hadds : AddsNothing c i ∨ ∃ j, j ≠ i ∧ (c.threads j).Replaces = true)
    (state : KeysDownState) :
  KeysKept
    ⟨c.shared.record (session.adds (keypressSets key press))
        (c.shared.gadget.keypressReport key press .written).1,
      Function.update c.threads i
        (.worker session queue (.handle (.updateTimer key press state)))⟩
  := by
  rcases hadds with hadds | hreplaces
  · apply h.keypress
    case hreplaces =>
      rw [hthread]
      cases session with
      | old => nofun
      | new => nofun
    case hmodifier =>
      rintro rfl
      cases session with
      | old =>
          rw [AddsNothing, hthread] at hadds
          exact hadds.left _
      | new => exact (Bitmask.Within.refl _).right _
    case hpress =>
      rintro rfl hkey
      cases session with
      | old =>
          right
          simp [Goroutine.Settles]
      | new =>
          left
          have hnone : keyCodeToMaskMap.lookup key = none := by
            simpa [isModifier] using hkey.2
          simp [Session.adds, keypressSets, hnone]
    case hsettles =>
      rw [hthread]
      cases session with
      | old => nofun
      | new => nofun
  · obtain ⟨held, hholds⟩ := h.buffer
    obtain ⟨recorded, hrecorded, -⟩ := exists_heldAfterKey hholds key press .written
    exact ⟨⟨recorded, hrecorded⟩, .inl (exists_replaces_of_ne hreplaces)⟩

/-- Its timer may be set. -/
theorem KeysKept.updateTimer (h : KeysKept c) {key : UInt8} {press : Bool} {state : KeysDownState}
    (hthread : c.threads i = .worker session queue (.handle (.updateTimer key press state)))
    (hsound : Ordinary key → state.keys.head? ≠ some hidErrorRollOver)
    (hadds : AddsNothing c i ∨ ∃ j, j ≠ i ∧ (c.threads j).Replaces = true) :
  KeysKept
    ⟨{ c.shared with gadget := c.shared.gadget.updateTimer key press state },
      Function.update c.threads i (.worker session queue .check)⟩
  := by
  rcases hadds with hadds | hreplaces
  · apply h.goOn
    case hstate => exact UsbGadget.updateTimer_keysDownState state
    case hset => rfl
    case hreplaces =>
      rw [hthread]
      cases session with
      | old => nofun
      | new => nofun
    case hrelease =>
      intro k hdown hzero
      by_cases hk : k = key
      · subst hk
        cases press with
        | true =>
            right
            rintro hkey -
            left
            dsimp only
            rw [UsbGadget.updateTimer_eq hkey.2 (hsound hkey), UsbGadget.setTimer_timers,
              Function.update_self]
            nofun
        | false =>
            have hleaves : k ∈ c.shared.setByNew.keys ∨
                ∃ j, j ≠ i ∧ (c.threads j).Settles k = true := by
              rw [AddsNothing, hthread] at hadds
              cases session with
              | old => exact hadds hdown hzero
              | new => exact hadds hdown hzero
            apply hleaves.imp_right
            rintro ⟨j, hj, hsettles⟩ - -
            right
            use j
            dsimp only
            rw [Function.update_of_ne hj]
            exact hsettles
      · right
        rintro - hrelease
        apply hrelease.update
        · dsimp only
          rw [updateTimer_timers_of_ne hk]
          exact id
        · rw [hthread]
          exact fun hsettles => absurd (settles_updateTimer hsettles) hk
  · apply h.replaced
    · exact UsbGadget.updateTimer_keysDownState state
    · exact exists_replaces_of_ne hreplaces

/-- Delaying the timers takes none away. -/
theorem delayAutoRelease_timers_ne_none {u : UsbGadget} {key : UInt8}
    (h : u.kbdAutoReleaseTimers key ≠ none) :
  (delayAutoRelease u).kbdAutoReleaseTimers key ≠ none
  := Option.map_eq_none_iff.not.mpr h

/-- A worker that neither reports a macro nor is about to set a timer keeps the keys when it leaves
them as they are. -/
theorem KeysKept.idleWorker (h : KeysKept c) {worker : Worker}
    (hthread : c.threads i = .worker session queue worker)
    (hcall : ∀ call, worker ≠ .handle (.keyboardMacro call))
    (htimer : ∀ key press state, worker ≠ .handle (.updateTimer key press state))
    (hstate : s.gadget.keysDownState = c.shared.gadget.keysDownState)
    (hset : s.setByNew = c.shared.setByNew)
    (htimers : ∀ key, c.shared.gadget.kbdAutoReleaseTimers key ≠ none →
      s.gadget.kbdAutoReleaseTimers key ≠ none) :
  KeysKept ⟨s, Function.update c.threads i g⟩
  := by
  apply h.idle hstate hset htimers
  · rw [hthread]
    cases session with
    | new => nofun
    | old =>
        cases worker with
        | check | select | stopped => nofun
        | handle handler =>
            cases handler with
            | keyboardMacro call => exact absurd rfl (hcall call)
            | keyboardReport | keypressReport | updateTimer | cancelKeyboardMacro | keepAlive =>
                nofun
  · intro key
    rw [hthread]
    cases session with
    | new => rfl
    | old =>
        cases worker with
        | check | select | stopped => rfl
        | handle handler =>
            cases handler with
            | updateTimer k press state => exact absurd rfl (htimer k press state)
            | keyboardReport | keypressReport | keyboardMacro | cancelKeyboardMacro | keepAlive =>
                rfl

/-- A step of a handler keeps the keys. -/
theorem KeysKept.handler (h : KeysKept c) {handler : Handler} {next : Option Handler}
    (hthread : c.threads i = .worker session queue (.handle handler))
    (hsound : (c.threads i).Sound)
    (hadds : AddsNothing c i ∨ ∃ j, j ≠ i ∧ (c.threads j).Replaces = true)
    (hexec : handler.exec i session choice c.shared = some (s, next)) :
  KeysKept ⟨s, Function.update c.threads i (.worker session queue (Worker.next next))⟩
  := by
  cases handler with
  | keyboardReport modifier keys =>
      obtain ⟨rfl, rfl⟩ := Prod.mk.inj (Option.some.inj hexec)
      apply keysKept_rpcKeyboardReport
      cases session with
      | new => exact .inl nofun
      | old =>
          rw [AddsNothing, hthread] at hadds
          exact hadds.imp (fun hwithin _ => hwithin) exists_replaces_of_ne
  | keypressReport key press =>
      obtain ⟨rfl, rfl⟩ := Prod.mk.inj (Option.some.inj hexec)
      exact h.keypressReport hthread hadds _
  | updateTimer key press state =>
      obtain ⟨rfl, rfl⟩ := Prod.mk.inj (Option.some.inj hexec)
      rw [hthread] at hsound
      exact h.updateTimer hthread hsound hadds
  | keyboardMacro call =>
      obtain ⟨⟨s', next'⟩, hcall, heq⟩ := Option.map_eq_some_iff.mp hexec
      obtain ⟨rfl, rfl⟩ := Prod.mk.inj heq
      exact h.keyboardMacro hthread hcall hadds
  | cancelKeyboardMacro =>
      obtain ⟨rfl, rfl⟩ := Prod.mk.inj (Option.some.inj hexec)
      exact h.idleWorker hthread nofun nofun rfl rfl fun _ => id
  | keepAlive =>
      rw [Handler.exec] at hexec
      split at hexec
      case isTrue =>
        obtain ⟨rfl, rfl⟩ := Prod.mk.inj (Option.some.inj hexec)
        exact h.idleWorker hthread nofun nofun rfl rfl fun _ => delayAutoRelease_timers_ne_none
      case isFalse =>
        obtain ⟨rfl, rfl⟩ := Prod.mk.inj (Option.some.inj hexec)
        exact h.idleWorker hthread nofun nofun rfl rfl fun _ => id

/-- A step of a worker keeps the keys. -/
theorem KeysKept.worker (h : KeysKept c) {worker worker' : Worker}
    (hthread : c.threads i = .worker session queue worker)
    (hsound : (c.threads i).Sound)
    (hadds : AddsNothing c i ∨ ∃ j, j ≠ i ∧ (c.threads j).Replaces = true)
    (hexec : worker.exec i session queue choice c.shared = some (s, worker')) :
  KeysKept ⟨s, Function.update c.threads i (.worker session queue worker')⟩
  := by
  cases worker with
  | check =>
      rw [Worker.exec] at hexec
      split at hexec
      case isTrue | isFalse =>
        obtain ⟨rfl, rfl⟩ := Prod.mk.inj (Option.some.inj hexec)
        exact h.idleWorker hthread nofun nofun rfl rfl fun _ => id
  | select =>
      rw [Worker.exec] at hexec
      split at hexec
      case h_1 =>
        obtain ⟨-, hnext⟩ := Option.ite_none_right_eq_some.mp hexec
        obtain ⟨rfl, rfl⟩ := Prod.mk.inj (Option.some.inj hnext)
        exact h.idleWorker hthread nofun nofun rfl rfl fun _ => id
      case h_2 =>
        split at hexec
        case isTrue | isFalse =>
          obtain ⟨rfl, rfl⟩ := Prod.mk.inj (Option.some.inj hexec)
          exact h.idleWorker hthread nofun nofun rfl rfl fun _ => id
  | handle handler =>
      obtain ⟨⟨s', next⟩, hhandler, heq⟩ := Option.map_eq_some_iff.mp hexec
      obtain ⟨rfl, rfl⟩ := Prod.mk.inj heq
      exact h.handler hthread hsound hadds hhandler
  | stopped => cases hexec

end Worker

/-! #### The takeover and the closing -/

/-- A request may go on. -/
theorem KeysKept.request (h : KeysKept c) {request request' : Request}
    (hthread : c.threads i = .request request)
    (hexec : request.exec c.shared = some (s, request')) :
  KeysKept ⟨s, Function.update c.threads i (.request request')⟩
  := by
  cases request with
  | check =>
      rw [Request.exec] at hexec
      split at hexec
      case isTrue | isFalse =>
        obtain ⟨rfl, rfl⟩ := Prod.mk.inj (Option.some.inj hexec)
        exact h.aside hthread rfl (fun _ => rfl) rfl rfl
  | cancelTimers =>
      obtain ⟨rfl, rfl⟩ := Prod.mk.inj (Option.some.inj hexec)
      apply h.replaced
      · rfl
      · exact Pool.exists_update_self (Goroutine.Replaces · = true) i rfl
  | clear =>
      obtain ⟨rfl, rfl⟩ := Prod.mk.inj (Option.some.inj hexec)
      exact keysKept_clear
  | peerConnection =>
      rw [Request.exec] at hexec
      split at hexec
      case isTrue | isFalse =>
        obtain ⟨rfl, rfl⟩ := Prod.mk.inj (Option.some.inj hexec)
        exact h.aside hthread rfl (fun _ => rfl) rfl rfl
  | cancelMacro | setCurrent =>
      obtain ⟨rfl, rfl⟩ := Prod.mk.inj (Option.some.inj hexec)
      exact h.aside hthread rfl (fun _ => rfl) rfl rfl
  | done | panicked => cases hexec

/-- A session that is closing may go on. -/
theorem KeysKept.closing (h : KeysKept c) {closing closing' : Closing} {choice : Choice}
    (hthread : c.threads i = .closing closing)
    (hexec : closing.exec choice c.shared = some (s, closing')) :
  KeysKept ⟨s, Function.update c.threads i (.closing closing')⟩
  := by
  cases closing with
  | start | setNil | close =>
      obtain ⟨rfl, rfl⟩ := Prod.mk.inj (Option.some.inj hexec)
      exact h.aside hthread rfl (fun _ => rfl) rfl rfl
  | check =>
      rw [Closing.exec] at hexec
      split at hexec
      case isTrue | isFalse =>
        obtain ⟨rfl, rfl⟩ := Prod.mk.inj (Option.some.inj hexec)
        exact h.aside hthread rfl (fun _ => rfl) rfl rfl
  | cancelMacro =>
      obtain ⟨rfl, rfl⟩ := Prod.mk.inj (Option.some.inj hexec)
      apply h.untouched
      case hgadget => rfl
      case hset => rfl
      case hreplaces => exact fun _ => rfl
      case hsettles =>
        rw [hthread]
        exact fun _ => rfl
  | cancelTimers =>
      obtain ⟨rfl, rfl⟩ := Prod.mk.inj (Option.some.inj hexec)
      apply h.replaced
      · rfl
      · exact Pool.exists_update_self (Goroutine.Replaces · = true) i rfl
  | clear =>
      obtain ⟨rfl, rfl⟩ := Prod.mk.inj (Option.some.inj hexec)
      exact keysKept_clear
  | count =>
      rw [Closing.exec] at hexec
      split at hexec
      case isTrue | isFalse =>
        obtain ⟨rfl, rfl⟩ := Prod.mk.inj (Option.some.inj hexec)
        exact h.aside hthread rfl (fun _ => rfl) rfl rfl
  | lastDisconnected =>
      obtain ⟨rfl, rfl⟩ := Prod.mk.inj (Option.some.inj hexec)
      exact keysKept_clearKeys
  | done => cases hexec

/-- A step keeps the keys. -/
theorem KeysKept.step (h : KeysKept c) {choice : Choice} (hsound : (c.threads i).Sound)
    (hadds : AddsNothing c i ∨ ∃ j, j ≠ i ∧ (c.threads j).Replaces = true)
    (hexec : (c.threads i).exec i choice c.shared = some (s, g)) :
  KeysKept ⟨s, Function.update c.threads i g⟩
  := by
  cases hthread : c.threads i with
  | worker session queue worker =>
      rw [hthread] at hexec
      obtain ⟨⟨s', worker'⟩, hworker, heq⟩ := Option.map_eq_some_iff.mp hexec
      obtain ⟨rfl, rfl⟩ := Prod.mk.inj heq
      exact h.worker hthread hsound hadds hworker
  | timer call =>
      rw [hthread] at hexec
      obtain ⟨⟨s', call'⟩, hcall, heq⟩ := Option.map_eq_some_iff.mp hexec
      obtain ⟨rfl, rfl⟩ := Prod.mk.inj heq
      exact h.timer hthread hcall
  | peer session =>
      rw [hthread] at hexec
      obtain ⟨-, hnext⟩ := Option.ite_none_left_eq_some.mp hexec
      obtain ⟨rfl, rfl⟩ := Prod.mk.inj (Option.some.inj hnext)
      exact h.aside hthread rfl (fun _ => rfl) rfl rfl
  | request request =>
      rw [hthread] at hexec
      obtain ⟨⟨s', request'⟩, hrequest, heq⟩ := Option.map_eq_some_iff.mp hexec
      obtain ⟨rfl, rfl⟩ := Prod.mk.inj heq
      exact h.request hthread hrequest
  | closing closing =>
      rw [hthread] at hexec
      obtain ⟨⟨s', closing'⟩, hclosing, heq⟩ := Option.map_eq_some_iff.mp hexec
      obtain ⟨rfl, rfl⟩ := Prod.mk.inj heq
      exact h.closing hthread hclosing

end Step

end Takeover

end JetKvm
