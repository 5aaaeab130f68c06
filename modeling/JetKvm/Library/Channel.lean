import Mathlib.Data.List.Basic

/-!
# Buffered channels

A channel with room for a fixed number of values. A sender that does not wait loses its value
when the channel is full, and a receiver takes the oldest value. Taking values changes nothing
about which value is the newest: it is the last one in the channel, or the one that was taken
last when the channel is empty.
-/

/-- A channel that holds values, oldest first. -/
structure Channel (α : Type*) (capacity : Nat) where
  items : List α
  length_le : items.length ≤ capacity

namespace Channel

variable {α : Type*} {capacity : Nat} {c c' : Channel α capacity} {a : α} {taken : Option α}

/-- A channel without values. -/
def empty : Channel α capacity where
  items := []
  length_le := Nat.zero_le _

/-- Sends a value unless the channel is full. -/
def trySend (c : Channel α capacity) (a : α) : Option (Channel α capacity) :=
  if h : c.items.length < capacity then
    some
      { items := c.items ++ [a]
        length_le := by
          rw [List.length_append]
          apply h }
  else none

/-- Takes the oldest value. -/
def receive : Channel α capacity → Option (α × Channel α capacity)
  | ⟨[], _⟩ => none
  | ⟨a :: items, h⟩ => some (a, ⟨items, Nat.le_of_succ_le h⟩)

/-- The value that was sent last, when `taken` is the one that was taken last. -/
def newest (c : Channel α capacity) (taken : Option α) : Option α :=
  c.items.getLast?.or taken

theorem trySend_eq_some (h : c.trySend a = some c') :
  c'.items = c.items ++ [a]
  := by
  rw [trySend] at h
  split at h
  · rw [← Option.some.inj h]
  · cases h

/-- A value is lost exactly when the channel is full. -/
theorem trySend_eq_none_iff :
  c.trySend a = none ↔ c.items.length = capacity
  := by
  have hle := c.length_le
  rw [trySend]
  split
  · apply iff_of_false
    · intro hnone
      cases hnone
    · omega
  · apply iff_of_true rfl
    omega

theorem receive_eq_some (h : c.receive = some (a, c')) :
  c.items = a :: c'.items
  := by
  obtain ⟨_ | ⟨b, items⟩, hle⟩ := c
  · cases h
  · obtain ⟨rfl, rfl⟩ := Prod.mk.inj (Option.some.inj h)
    rfl

/-- The value that is sent becomes the newest. -/
theorem newest_trySend (h : c.trySend a = some c') :
  c'.newest taken = some a
  := by
  rw [newest, trySend_eq_some h, List.getLast?_concat]
  rfl

/-- Taking a value leaves the newest one the newest. -/
theorem newest_receive (h : c.receive = some (a, c')) :
  c'.newest (some a) = c.newest taken
  := by
  rw [newest, newest, receive_eq_some h]
  cases hitems : c'.items with
  | nil => rfl
  | cons b items =>
      rw [List.getLast?_cons_cons, List.getLast?_cons]
      rfl

/-- The newest value of an empty channel is the one that was taken last. -/
theorem newest_of_items_eq_nil (h : c.items = []) :
  c.newest taken = taken
  := by
  rw [newest, h]
  rfl

end Channel
