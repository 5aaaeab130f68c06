import JetKvm.Keyboard.KeyCodes

/-!
# The key buffer

The six bytes of a keyboard report that hold the ordinary keys. A press or a release
walks the slots up to the first one that is free or holds the key. The abstract content
of a buffer is the list of the keys it holds, in order: a buffer without holes is that
list followed by zeros. Pressing a new key appends it to the list, releasing a key erases
it from the list, and a press that finds six other keys leaves no slot, so that the
report is filled with `hidErrorRollOver`.
-/

namespace JetKvm

/-- The slot search of `keypressReport`. At the first slot that is free or holds the key,
a press writes the key and a release moves the later slots forward and clears the last;
there is no such slot when the buffer overruns. -/
def updateSlot (key : UInt8) (press : Bool) : List UInt8 → Option (List UInt8)
  | [] => none
  | k :: keys =>
      if k = key ∨ k = 0 then
        some (if press then key :: keys else if k ≠ 0 then keys ++ [0] else k :: keys)
      else
        (updateSlot key press keys).map (k :: ·)

/-- The key slots after a press or a release of an ordinary key. An overrun press fills
the slots with `hidErrorRollOver`; an overrun release changes nothing. -/
def bufferAfter (keys : List UInt8) (key : UInt8) (press : Bool) : List UInt8 :=
  match updateSlot key press keys with
  | some keys => keys
  | none => if press then keys.map fun _ => hidErrorRollOver else keys

/-- The six zeros of an empty buffer. -/
def noKeys : List UInt8 :=
  List.replicate hidKeyBufferSize 0

/-- The six bytes that report an overflow. -/
def rolledOver : List UInt8 :=
  List.replicate hidKeyBufferSize hidErrorRollOver

/-- The buffer `keys` holds exactly the keys `held`, in this order and without holes. -/
structure Holds (keys held : List UInt8) : Prop where
  eq : keys = held ++ List.replicate (hidKeyBufferSize - held.length) 0
  length_le : held.length ≤ hidKeyBufferSize
  zero_notMem : 0 ∉ held

/-! ### The slot search -/

variable {key : UInt8} {held keys : List UInt8}

/-- The search passes over the slots of other keys. -/
theorem updateSlot_append (press : Bool) (h0 : 0 ∉ held) (hk : key ∉ held)
    (rest : List UInt8) :
  updateSlot key press (held ++ rest) = (updateSlot key press rest).map (held ++ ·)
  := by
  induction held with
  | nil => simp
  | cons k held ih =>
      obtain ⟨hk0, h0⟩ := List.ne_and_not_mem_of_not_mem_cons h0
      obtain ⟨hkk, hk⟩ := List.ne_and_not_mem_of_not_mem_cons hk
      rw [List.cons_append, updateSlot, if_neg (by simp [Ne.symm hkk, Ne.symm hk0]), ih h0 hk,
        Option.map_map]
      rfl

/-- Pressing a key that is held writes it over itself. -/
theorem updateSlot_press_of_mem (h0 : 0 ∉ held) (hk : key ∈ held) (rest : List UInt8) :
  updateSlot key true (held ++ rest) = some (held ++ rest)
  := by
  obtain ⟨front, back, rfl, hfront⟩ := List.eq_append_cons_of_mem hk
  have h0front : 0 ∉ front := fun h => h0 (List.mem_append_left _ h)
  rw [List.append_assoc, updateSlot_append true h0front hfront, List.cons_append, updateSlot]
  simp

/-- Releasing a key that is held moves the slots behind it forward. -/
theorem updateSlot_release_of_mem (h0 : 0 ∉ held) (hk : key ∈ held) (rest : List UInt8) :
  updateSlot key false (held ++ rest) = some (held.erase key ++ rest ++ [0])
  := by
  obtain ⟨front, back, rfl, hfront⟩ := List.eq_append_cons_of_mem hk
  have h0front : 0 ∉ front := fun h => h0 (List.mem_append_left _ h)
  have hkey : key ≠ 0 := fun h => h0 (h ▸ hk)
  rw [List.append_assoc, updateSlot_append false h0front hfront, List.cons_append, updateSlot,
    List.erase_append_right _ hfront, List.erase_cons_head]
  simp [hkey]

/-! ### Buffers without holes -/

namespace Holds

@[simp]
theorem length_eq (h : Holds keys held) :
  keys.length = hidKeyBufferSize
  := by
  have hle := h.length_le
  rw [h.eq, List.length_append, List.length_replicate]
  omega

/-- The keys a buffer holds are its bytes other than zero. -/
theorem mem_iff (h : Holds keys held) {k : UInt8} (hk : k ≠ 0) :
  k ∈ keys ↔ k ∈ held
  := by
  rw [h.eq, List.mem_append, List.mem_replicate]
  simp [hk]

/-- The empty buffer holds no key. -/
theorem none : Holds noKeys []
  := ⟨rfl, by decide, List.not_mem_nil⟩

/-- A buffer that holds no key is the empty buffer. -/
theorem eq_noKeys (h : Holds keys []) :
  keys = noKeys
  := h.eq

/-- A buffer that holds fewer than six keys has a free slot behind them. -/
theorem exists_free (h : Holds keys held) (hlt : held.length < hidKeyBufferSize) :
  keys = held ++ 0 :: List.replicate (hidKeyBufferSize - (held.length + 1)) 0
  := by
  have hsize : hidKeyBufferSize - held.length = hidKeyBufferSize - (held.length + 1) + 1 := by
    omega
  rw [h.eq, hsize, List.replicate_succ]

/-- Pressing a key that is held changes nothing. -/
theorem press_of_mem (h : Holds keys held) (hk : key ∈ held) :
  bufferAfter keys key true = keys
  := by
  rw [bufferAfter, h.eq, updateSlot_press_of_mem h.zero_notMem hk]

/-- Pressing the key zero changes nothing while a slot is free. -/
theorem press_zero (h : Holds keys held) (hlt : held.length < hidKeyBufferSize) :
  bufferAfter keys 0 true = keys
  := by
  rw [bufferAfter, h.exists_free hlt, updateSlot_append true h.zero_notMem h.zero_notMem]
  simp [updateSlot]

/-- Pressing a new key appends it while a slot is free. -/
theorem press_of_notMem (h : Holds keys held) (hk : key ∉ held) (hk0 : key ≠ 0)
    (hlt : held.length < hidKeyBufferSize) :
  Holds (bufferAfter keys key true) (held ++ [key])
  := by
  constructor
  · rw [bufferAfter, h.exists_free hlt, updateSlot_append true h.zero_notMem hk]
    simp [updateSlot]
  · rw [List.length_append]
    exact hlt
  · simp [h.zero_notMem, Ne.symm hk0]

/-- A press that finds six other keys fills the slots with `hidErrorRollOver`. -/
theorem press_of_full (h : Holds keys held) (hk : key ∉ held)
    (hfull : held.length = hidKeyBufferSize) :
  bufferAfter keys key true = rolledOver
  := by
  have hkeys : keys = held ++ [] := by
    rw [h.eq, hfull]
    rfl
  rw [bufferAfter, hkeys, updateSlot_append true h.zero_notMem hk]
  simp [updateSlot, rolledOver, hfull, List.map_const']

/-- Releasing a key erases it. -/
theorem release (h : Holds keys held) :
  Holds (bufferAfter keys key false) (held.erase key)
  := by
  have hle := h.length_le
  have hzero : 0 ∉ held.erase key := fun h0 => h.zero_notMem (List.mem_of_mem_erase h0)
  by_cases hk : key ∈ held
  · have hlength := List.length_erase_of_mem hk
    have hpos := List.length_pos_of_mem hk
    constructor
    · rw [bufferAfter, h.eq, updateSlot_release_of_mem h.zero_notMem hk, List.append_assoc,
        ← List.replicate_succ']
      dsimp only
      congr 2
      omega
    · omega
    · apply hzero
  · rw [List.erase_of_not_mem hk]
    convert h using 1
    rw [bufferAfter]
    by_cases hlt : held.length < hidKeyBufferSize
    · rw [h.exists_free hlt, updateSlot_append false h.zero_notMem hk]
      simp [updateSlot]
    · have hkeys : keys = held ++ [] := by
        rw [h.eq, Nat.sub_eq_zero_of_le (Nat.le_of_not_lt hlt)]
        rfl
      rw [hkeys, updateSlot_append false h.zero_notMem hk]
      rfl

/-- A slot is free exactly when fewer than six keys are held. -/
theorem zero_mem_iff (h : Holds keys held) :
  0 ∈ keys ↔ held.length < hidKeyBufferSize
  := by
  rw [h.eq, List.mem_append, List.mem_replicate]
  simp only [h.zero_notMem, false_or, and_true]
  omega

end Holds

/-! ### The held keys after a press or a release -/

/-- The held keys after a press or a release that finds a slot. -/
def heldAfter (held : List UInt8) (key : UInt8) (press : Bool) : List UInt8 :=
  if press then if key ∈ held ∨ key = 0 then held else held ++ [key] else held.erase key

/-- A press finds a slot: the one that holds the key, or a free one. -/
def FindsSlot (keys : List UInt8) (key : UInt8) (press : Bool) : Prop :=
  press = true → key ∈ keys ∨ 0 ∈ keys

instance (press : Bool) : Decidable (FindsSlot keys key press) :=
  inferInstanceAs (Decidable (press = true → key ∈ keys ∨ 0 ∈ keys))

/-- The key that has the code of `hidErrorRollOver` does not come to be in the first slot,
neither by a press nor by moving forward. -/
def FirstSlotKept (keys : List UInt8) (key : UInt8) (press : Bool) : Prop :=
  if press then ¬ (key = hidErrorRollOver ∧ keys.head? = some 0)
  else ¬ (keys.head? = some key ∧ keys[1]? = some hidErrorRollOver)

instance (press : Bool) : Decidable (FirstSlotKept keys key press) :=
  match press with
  | true => inferInstanceAs (Decidable (¬ (key = hidErrorRollOver ∧ keys.head? = some 0)))
  | false =>
      inferInstanceAs
        (Decidable (¬ (keys.head? = some key ∧ keys[1]? = some hidErrorRollOver)))

namespace Holds

/-- A press or a release that finds a slot does to the buffer what `heldAfter` does to the
held keys. -/
theorem after {press : Bool} (h : Holds keys held) (slot : FindsSlot keys key press) :
  Holds (bufferAfter keys key press) (heldAfter held key press)
  := by
  cases press with
  | false => apply h.release
  | true =>
      rw [heldAfter, if_pos rfl]
      by_cases hk : key ∈ held
      · rw [if_pos (Or.inl hk), h.press_of_mem hk]
        apply h
      · by_cases hk0 : key = 0
        · subst hk0
          have hfree := h.zero_mem_iff.mp ((or_self_iff).mp (slot rfl))
          rw [if_pos (Or.inr rfl), h.press_zero hfree]
          apply h
        · have hfree := (slot rfl).resolve_left ((h.mem_iff hk0).not.mpr hk)
          rw [if_neg (not_or.mpr ⟨hk, hk0⟩)]
          apply h.press_of_notMem hk hk0 (h.zero_mem_iff.mp hfree)

/-- A press that finds no slot overruns the buffer. -/
theorem overrun {press : Bool} (h : Holds keys held)
    (slot : ¬ FindsSlot keys key press) :
  bufferAfter keys key press = rolledOver
  := by
  obtain ⟨rfl, hnot⟩ := Classical.not_imp.mp slot
  obtain ⟨hkey, hfull⟩ := not_or.mp hnot
  have hle := h.length_le
  rw [h.zero_mem_iff] at hfull
  apply h.press_of_full _ (by omega)
  intro hmem
  apply hkey
  rw [h.eq]
  apply List.mem_append_left _ hmem

theorem head?_eq (h : Holds keys held) :
  keys.head? = some (held.headD 0)
  := by
  rw [h.eq]
  cases held <;> rfl

theorem headD_ne_of_notMem (h : hidErrorRollOver ∉ held) :
  held.headD 0 ≠ hidErrorRollOver
  := by
  cases held with
  | nil => decide
  | cons k held => exact (List.ne_of_not_mem_cons h).symm

/-- A buffer whose first slot is not `hidErrorRollOver` keeps it so when the key with that
code stays out of the first slot. -/
theorem headD_heldAfter_ne {press : Bool} (h : Holds keys held)
    (hhead : held.headD 0 ≠ hidErrorRollOver) (kept : FirstSlotKept keys key press) :
  (heldAfter held key press).headD 0 ≠ hidErrorRollOver
  := by
  have hfirst := h.head?_eq
  cases press with
  | true =>
      rw [heldAfter, if_pos rfl]
      split
      · apply hhead
      · cases held with
        | nil =>
            rintro rfl
            exact kept ⟨rfl, hfirst⟩
        | cons k held => apply hhead
  | false =>
      rw [heldAfter, if_neg Bool.false_ne_true]
      cases held with
      | nil => apply hhead
      | cons k held =>
          by_cases hk : k = key
          · subst hk
            rw [List.erase_cons_head]
            intro hnext
            apply kept
            use hfirst
            rw [h.eq]
            cases held with
            | nil => cases hnext
            | cons next held =>
                obtain rfl : next = hidErrorRollOver := hnext
                rfl
          · rw [List.erase_cons_tail (by simpa using hk)]
            apply hhead

/-- A press or a release that finds a slot brings `hidErrorRollOver` into the first slot when
it does not keep it out. -/
theorem headD_heldAfter_eq {press : Bool} (h : Holds keys held)
    (kept : ¬ FirstSlotKept keys key press) :
  (heldAfter held key press).headD 0 = hidErrorRollOver
  := by
  have hfirst := h.head?_eq
  cases press with
  | true =>
      obtain ⟨rfl, hfree⟩ := not_not.mp kept
      rw [hfree] at hfirst
      cases held with
      | nil => rfl
      | cons k held =>
          obtain rfl : 0 = k := Option.some.inj hfirst
          exact absurd List.mem_cons_self h.zero_notMem
  | false =>
      obtain ⟨hkey, hnext⟩ := not_not.mp kept
      rw [hkey] at hfirst
      cases held with
      | nil =>
          rw [h.eq] at hnext
          cases hnext
      | cons k held =>
          obtain rfl : key = k := Option.some.inj hfirst
          rw [heldAfter, if_neg Bool.false_ne_true, List.erase_cons_head]
          rw [h.eq] at hnext
          cases held with
          | nil =>
              cases hnext
          | cons next held =>
              obtain rfl : next = hidErrorRollOver := Option.some.inj hnext
              rfl

/-- The report of a buffer begins with `hidErrorRollOver` exactly when a press finds no slot or
the key with that code comes to be in the first slot. -/
theorem head?_bufferAfter_iff (h : Holds keys held)
    (hhead : held.headD 0 ≠ hidErrorRollOver) (key : UInt8) (press : Bool) :
  (bufferAfter keys key press).head? = some hidErrorRollOver ↔
    ¬ (FindsSlot keys key press ∧ FirstSlotKept keys key press)
  := by
  by_cases slot : FindsSlot keys key press
  · rw [(h.after slot).head?_eq, Option.some_inj]
    by_cases kept : FirstSlotKept keys key press
    · exact iff_of_false (h.headD_heldAfter_ne hhead kept) (not_not_intro ⟨slot, kept⟩)
    · exact iff_of_true (h.headD_heldAfter_eq kept) fun both => kept both.2
  · rw [h.overrun slot]
    exact iff_of_true rfl fun both => slot both.1

end Holds

example : bufferAfter [4, 5, 6, 0, 0, 0] 5 false = [4, 6, 0, 0, 0, 0] := by decide

end JetKvm
