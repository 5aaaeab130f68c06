import Mathlib.Data.List.Basic
import Mathlib.Data.List.Forall2

/-!
# Computations that may fault

A computation on a buffer returns a value, returns an error, or faults: it reads outside
the buffer or is stopped by the runtime. Reading a byte or a slice faults exactly when it
leaves the buffer, and a sequence of steps faults when one of the steps it reaches does.
-/

/-- What becomes of a computation. -/
inductive Outcome (α : Type*) where
  | value (a : α)
  | error (message : String)
  | fault
deriving DecidableEq, Repr

namespace Outcome

variable {α β : Type*} {x : Outcome α} {f : α → Outcome β}

/-- Runs `f` on the value of `x`, if it has one. -/
def bind (x : Outcome α) (f : α → Outcome β) : Outcome β :=
  match x with
  | value a => f a
  | error message => error message
  | fault => fault

instance : Monad Outcome where
  pure := value
  bind := bind

@[simp]
theorem pure_eq (a : α) : (pure a : Outcome α) = value a
  := rfl

@[simp]
theorem value_bind {γ δ : Type} (c : γ) (g : γ → Outcome δ) : (value c >>= g) = g c
  := rfl

@[simp]
theorem error_bind {γ δ : Type} (message : String) (g : γ → Outcome δ) :
  (error message >>= g) = error message
  := rfl

@[simp]
theorem fault_bind {γ δ : Type} (g : γ → Outcome δ) : (fault >>= g) = fault
  := rfl

/-- A sequence of two steps has a value when both have one. -/
theorem bind_eq_value {γ δ : Type} {y : Outcome γ} {g : γ → Outcome δ} {d : δ} :
  (y >>= g) = value d ↔ ∃ c, y = value c ∧ g c = value d
  := by
  cases y with
  | value c => simp
  | error message => simp
  | fault => simp

/-- The computation returns a value or an error. -/
def Safe (x : Outcome α) : Prop :=
  x ≠ fault

@[simp]
theorem safe_value (a : α) : (value a).Safe
  := nofun

@[simp]
theorem safe_error (message : String) : (error message : Outcome α).Safe
  := nofun

@[simp]
theorem not_safe_fault : ¬ (fault : Outcome α).Safe
  := fun h => h rfl

instance : Decidable x.Safe :=
  match x with
  | value _ => .isTrue (safe_value _)
  | error _ => .isTrue (safe_error _)
  | fault => .isFalse not_safe_fault

/-- A last step that returns a value makes no difference. -/
@[simp]
theorem safe_bind_value {γ δ : Type} (y : Outcome γ) (g : γ → δ) :
  (y >>= fun c => value (g c)).Safe ↔ y.Safe
  := by
  cases y <;> simp

/-! ### Sequences -/

/-- Runs `f` on each item in turn, up to the first one that fails. -/
def traverse (f : α → Outcome β) : List α → Outcome (List β)
  | [] => value []
  | a :: rest => (f a).bind fun b => (traverse f rest).bind fun bs => value (b :: bs)

/-- An error is returned when an item has one and no item before it faults. -/
theorem traverse_of_error {before rest : List α} {a : α} {message : String}
    (hbefore : ∀ c ∈ before, f c ≠ fault) (h : f a = error message) :
  ∃ message, traverse f (before ++ a :: rest) = error message
  := by
  induction before with
  | nil =>
      use message
      rw [List.nil_append, traverse, h]
      rfl
  | cons c before ih =>
      obtain ⟨other, hother⟩ := ih fun d hd => hbefore d (List.mem_cons_of_mem _ hd)
      rw [List.cons_append, traverse, hother]
      cases hc : f c with
      | value b => exact ⟨other, rfl⟩
      | error first => exact ⟨first, rfl⟩
      | fault => exact absurd hc (hbefore c List.mem_cons_self)

/-- The sequence faults at an item that does when the items before it have values. -/
theorem traverse_of_fault {before rest : List α} {a : α}
    (hbefore : ∀ c ∈ before, ∃ b, f c = value b) (h : f a = fault) :
  traverse f (before ++ a :: rest) = fault
  := by
  induction before with
  | nil =>
      rw [List.nil_append, traverse, h]
      rfl
  | cons c before ih =>
      obtain ⟨b, hb⟩ := hbefore c List.mem_cons_self
      rw [List.cons_append, traverse, hb, ih fun d hd => hbefore d (List.mem_cons_of_mem _ hd)]
      rfl

/-- The values of a sequence are those of its items. -/
theorem traverse_eq_value {items : List α} {bs : List β} (h : traverse f items = value bs) :
  List.Forall₂ (fun a b => f a = value b) items bs
  := by
  induction items generalizing bs with
  | nil =>
      obtain rfl := value.inj h
      exact .nil
  | cons a rest ih =>
      rw [traverse] at h
      cases ha : f a with
      | value b =>
          cases hrest : traverse f rest with
          | value values =>
              rw [ha, hrest] at h
              obtain rfl := value.inj h
              exact .cons ha (ih hrest)
          | error message =>
              rw [ha, hrest] at h
              cases h
          | fault =>
              rw [ha, hrest] at h
              cases h
      | error message =>
          rw [ha] at h
          cases h
      | fault =>
          rw [ha] at h
          cases h

theorem exists_value_of_traverse {items : List α} {bs : List β}
    (h : traverse f items = value bs) :
  ∀ a ∈ items, ∃ b, f a = value b
  := by
  have hvalues := traverse_eq_value h
  clear h
  induction hvalues with
  | nil => exact fun a ha => absurd ha List.not_mem_nil
  | cons hvalue _ ih =>
      intro a ha
      rcases List.mem_cons.mp ha with rfl | ha
      · exact ⟨_, hvalue⟩
      · apply ih a ha

/-- The error of a sequence is that of an item, and no item before it faults. -/
theorem traverse_eq_error {items : List α} {message : String}
    (h : traverse f items = error message) :
  ∃ before a rest, items = before ++ a :: rest ∧ (∀ c ∈ before, f c ≠ fault) ∧
    f a = error message
  := by
  induction items with
  | nil => cases h
  | cons a rest ih =>
      rw [traverse] at h
      cases ha : f a with
      | value b =>
          cases hrest : traverse f rest with
          | value values =>
              rw [ha, hrest] at h
              cases h
          | error other =>
              rw [ha, hrest] at h
              obtain rfl := error.inj h
              obtain ⟨before, c, back, rfl, hbefore, hc⟩ := ih hrest
              refine ⟨a :: before, c, back, rfl, ?_, hc⟩
              intro d hd
              rcases List.mem_cons.mp hd with rfl | hd
              · rw [ha]
                apply safe_value
              · apply hbefore d hd
          | fault =>
              rw [ha, hrest] at h
              cases h
      | error other =>
          rw [ha] at h
          obtain rfl := error.inj h
          exact ⟨[], a, rest, rfl, fun c hc => absurd hc List.not_mem_nil, ha⟩
      | fault =>
          rw [ha] at h
          cases h

/-- A sequence that faults has an item that does. -/
theorem traverse_eq_fault {items : List α} (h : traverse f items = fault) :
  ∃ a ∈ items, f a = fault
  := by
  by_contra hnone
  have hitems : ∀ a ∈ items, f a ≠ fault := fun a ha hfault => hnone ⟨a, ha, hfault⟩
  induction items with
  | nil => cases h
  | cons a rest ih =>
      rw [traverse] at h
      cases ha : f a with
      | value b =>
          cases hrest : traverse f rest with
          | fault =>
              apply ih hrest
              · rintro ⟨c, hc, hfault⟩
                exact hitems c (List.mem_cons_of_mem _ hc) hfault
              · exact fun c hc => hitems c (List.mem_cons_of_mem _ hc)
          | value values =>
              rw [ha, hrest] at h
              cases h
          | error message =>
              rw [ha, hrest] at h
              cases h
      | error message =>
          rw [ha] at h
          cases h
      | fault => exact hitems a List.mem_cons_self ha

/-! ### Reading a buffer -/

variable {Item : Type} {buffer front back mid : List Item} {i j : Nat}

/-- The item at position `i`. -/
def index (buffer : List Item) (i : Nat) : Outcome Item :=
  match buffer[i]? with
  | some a => value a
  | none => fault

/-- The items from position `i` up to position `j`. -/
def slice (buffer : List Item) (i j : Nat) : Outcome (List Item) :=
  if i ≤ j ∧ j ≤ buffer.length then value ((buffer.take j).drop i) else fault

theorem index_of_lt (h : i < buffer.length) :
  index buffer i = value buffer[i]
  := by
  rw [index, List.getElem?_eq_getElem h]

theorem index_of_le (h : buffer.length ≤ i) :
  index buffer i = fault
  := by
  rw [index, List.getElem?_eq_none h]

/-- A step that follows the reading of an item. -/
theorem safe_index_bind {γ : Type} {g : Item → Outcome γ} :
  (index buffer i >>= g).Safe ↔ ∃ h : i < buffer.length, (g buffer[i]).Safe
  := by
  by_cases h : i < buffer.length
  · simp [index_of_lt, h]
  · simp [index_of_le (Nat.le_of_not_lt h), h]

theorem slice_of_le (hij : i ≤ j) (hj : j ≤ buffer.length) :
  slice buffer i j = value ((buffer.take j).drop i)
  := if_pos ⟨hij, hj⟩

theorem slice_of_lt (hj : buffer.length < j) :
  slice buffer i j = fault
  := by
  apply if_neg
  omega

/-- The items between the front and the back of a buffer. -/
theorem take_drop_append (hi : i = front.length) (hj : j = front.length + mid.length) :
  ((front ++ (mid ++ back)).take j).drop i = mid
  := by
  subst hi hj
  rw [← List.append_assoc, List.take_append_of_le_length (by simp),
    List.take_of_length_le (by simp), List.drop_left]

end Outcome
