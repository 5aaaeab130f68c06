import Mathlib.Data.List.Basic

/-!
# Procedures

A procedure changes a state and returns a value or an error message. What is to hold of
its end is a pair of assertions, one about the value and the state it returns, the other
about the message and the state it fails with. The rules reduce the assertions about a
compound procedure to assertions about its parts, so that a straight-line procedure is
verified by rewriting.
-/

/-- A procedure that changes a state and returns a value or an error message. -/
abbrev Procedure (State Value : Type) :=
  EStateM String State Value

namespace Procedure

variable {State Value Result : Type} {s : State} {Q Q' : Value → State → Prop}
  {R R' : String → State → Prop} {p : Procedure State Value}

/-- Started in `s`, the procedure returns a value and a state that satisfy `Q`, or fails
with a message and a state that satisfy `R`. -/
def Ends (p : Procedure State Value) (s : State) (Q : Value → State → Prop)
    (R : String → State → Prop) : Prop :=
  match p s with
  | .ok a t => Q a t
  | .error message t => R message t

/-- Started in `s`, the procedure leaves a state that satisfies `P`. -/
abbrev Leaves (p : Procedure State Value) (s : State) (P : State → Prop) : Prop :=
  p.Ends s (fun _ => P) (fun _ => P)

/-- Started in `s`, the procedure returns a value and a state that satisfy `Q`. -/
abbrev Returns (p : Procedure State Value) (s : State) (Q : Value → State → Prop) : Prop :=
  p.Ends s Q (fun _ _ => False)

/-- The state a procedure leaves. -/
def after (p : Procedure State Value) (s : State) : State :=
  match p s with
  | .ok _ t => t
  | .error _ t => t

/-- Fails with the message, after the text, when there is one. -/
def failOn (text : String) : Option String → Procedure State Unit
  | some message => throw (text ++ message)
  | none => pure ()

/-- Runs `p` when the condition holds. -/
def runWhen (c : Prop) [Decidable c] (p : Procedure State Unit) : Procedure State Unit :=
  if c then p else pure ()

/-- Fails with the message when the condition holds. -/
def failWhen (c : Prop) [Decidable c] (message : String) : Procedure State Unit :=
  runWhen c (throw message)

/-- Runs `p`, putting the text before the message it fails with. -/
def describe (text : String) (p : Procedure State Value) : Procedure State Value :=
  tryCatch p fun message => throw (text ++ message)

/-! ### Rules -/

/-- Weaker assertions hold at the end. -/
theorem Ends.mono (h : p.Ends s Q R) (value : ∀ a t, Q a t → Q' a t)
    (error : ∀ message t, R message t → R' message t) :
  p.Ends s Q' R'
  := by
  rw [Ends] at h ⊢
  split
  · rename_i hp
    rw [hp] at h
    apply value _ _ h
  · rename_i hp
    rw [hp] at h
    apply error _ _ h

/-- A state that is left has every weaker property. -/
theorem Leaves.mono {P P' : State → Prop} (h : p.Leaves s P) (weaker : ∀ t, P t → P' t) :
  p.Leaves s P'
  := Ends.mono h (fun _ => weaker) (fun _ => weaker)

/-- Of what a procedure ends with, only what is known of its end is to be compared. -/
theorem Ends.congr (h : p.Ends s Q R) {Q₁ Q₂ : Value → State → Prop}
    {R₁ R₂ : String → State → Prop} (value : ∀ a t, Q a t → (Q₁ a t ↔ Q₂ a t))
    (error : ∀ message t, R message t → (R₁ message t ↔ R₂ message t)) :
  p.Ends s Q₁ R₁ ↔ p.Ends s Q₂ R₂
  := by
  rw [Ends] at h ⊢
  rw [Ends]
  split
  · rename_i hp
    rw [hp] at h
    apply value _ _ h
  · rename_i hp
    rw [hp] at h
    apply error _ _ h

/-- Two things hold at the end when each of them does. -/
theorem Ends.and (h : p.Ends s Q R) (h' : p.Ends s Q' R') :
  p.Ends s (fun a t => Q a t ∧ Q' a t) fun message t => R message t ∧ R' message t
  := by
  rw [Ends] at h h' ⊢
  cases hp : p s with
  | ok a t =>
      rw [hp] at h h'
      exact ⟨h, h'⟩
  | error message t =>
      rw [hp] at h h'
      exact ⟨h, h'⟩

/-- A procedure that is to return with a fact about no state has to return, and the fact to hold. -/
theorem ends_returns_iff {P : Prop} :
  p.Ends s (fun _ _ => P) (fun _ _ => False) ↔ P ∧ p.Ends s (fun _ _ => True) fun _ _ => False
  := by
  rw [Ends, Ends]
  cases p s with
  | ok a t => exact ⟨fun h => ⟨h, trivial⟩, fun h => h.1⟩
  | error message t => exact ⟨False.elim, fun h => h.2⟩

/-- A procedure leaves the state after it. -/
theorem leaves_iff {P : State → Prop} :
  p.Leaves s P ↔ P (p.after s)
  := by
  rw [Leaves, Ends, after]
  cases p s <;> rfl

/-- A value is returned in the same state. -/
@[simp]
theorem ends_pure {a : Value} :
  (pure a : Procedure State Value).Ends s Q R ↔ Q a s
  := .rfl

/-- An error is thrown in the same state. -/
@[simp]
theorem ends_throw {message : String} :
  (throw message : Procedure State Value).Ends s Q R ↔ R message s
  := .rfl

/-- The state is read. -/
@[simp]
theorem ends_get {Q : State → State → Prop} :
  (get : Procedure State State).Ends s Q R ↔ Q s s
  := .rfl

/-- The state is changed. -/
@[simp]
theorem ends_modify {f : State → State} {Q : Unit → State → Prop} :
  (modify f : Procedure State Unit).Ends s Q R ↔ Q () (f s)
  := .rfl

/-- What holds after the first step is what the second is to start from. -/
@[simp]
theorem ends_bind {Q : Result → State → Prop} {f : Value → Procedure State Result} :
  (p >>= f).Ends s Q R ↔ p.Ends s (fun a t => (f a).Ends t Q R) R
  := by
  change (match EStateM.bind p f s with | .ok a t => Q a t | .error m t => R m t) ↔ _
  rw [EStateM.bind, Ends]
  cases p s <;> rfl

/-- The handler starts where the failing procedure stopped. -/
@[simp]
theorem ends_tryCatch {handler : String → Procedure State Value} :
  (tryCatch p handler).Ends s Q R ↔
    p.Ends s Q fun message t => (handler message).Ends t Q R
  := by
  change (match EStateM.tryCatch p handler s with | .ok a t => Q a t | .error m t => R m t) ↔ _
  rw [EStateM.tryCatch, Ends]
  cases p s <;> rfl

/-- Each branch ends under its condition. -/
@[simp]
theorem ends_ite {c : Prop} [Decidable c] {p' : Procedure State Value} :
  (if c then p else p').Ends s Q R ↔ (c → p.Ends s Q R) ∧ (¬ c → p'.Ends s Q R)
  := by
  split <;> simp [*]

/-- A failure is thrown with the text before it. -/
@[simp]
theorem ends_failOn {text : String} {failure : Option String} {Q : Unit → State → Prop} :
  (failOn text failure).Ends s Q R ↔
    (failure = none → Q () s) ∧ ∀ message, failure = some message → R (text ++ message) s
  := by
  cases failure <;> simp [failOn]

/-- A procedure runs when its condition holds. -/
@[simp]
theorem ends_runWhen {c : Prop} [Decidable c] {p : Procedure State Unit}
    {Q : Unit → State → Prop} :
  (runWhen c p).Ends s Q R ↔ (c → p.Ends s Q R) ∧ (¬ c → Q () s)
  := by
  rw [runWhen, ends_ite, ends_pure]

/-- A check fails when its condition holds. -/
@[simp]
theorem ends_failWhen {c : Prop} [Decidable c] {message : String} {Q : Unit → State → Prop} :
  (failWhen c message).Ends s Q R ↔ (c → R message s) ∧ (¬ c → Q () s)
  := by
  rw [failWhen, ends_runWhen, ends_throw]

/-- Under its condition, the procedure runs. -/
theorem ends_runWhen_of_pos {c : Prop} [Decidable c] (h : c) {p : Procedure State Unit}
    {Q : Unit → State → Prop} :
  (runWhen c p).Ends s Q R ↔ p.Ends s Q R
  := by
  rw [runWhen, if_pos h]

/-- Without it, nothing happens. -/
theorem ends_runWhen_of_neg {c : Prop} [Decidable c] (h : ¬ c) {p : Procedure State Unit}
    {Q : Unit → State → Prop} :
  (runWhen c p).Ends s Q R ↔ Q () s
  := by
  rw [runWhen, if_neg h, ends_pure]

/-- A check that does not fail. -/
theorem ends_failWhen_of_neg {c : Prop} [Decidable c] (h : ¬ c) {message : String}
    {Q : Unit → State → Prop} :
  (failWhen c message).Ends s Q R ↔ Q () s
  := ends_runWhen_of_neg h

/-- An error is thrown with the text before it. -/
@[simp]
theorem ends_describe {text : String} :
  (describe text p).Ends s Q R ↔ p.Ends s Q fun message t => R (text ++ message) t
  := by
  simp [describe]

/-- A check whose message does not matter. -/
theorem failOn_ends {text : String} {failure : Option String} {Q : Unit → State → Prop}
    (value : Q () s) (error : ∀ message, R message s) :
  (failOn text failure).Ends s Q R
  := ends_failOn.mpr ⟨fun _ => value, fun _ _ => error _⟩

/-- A procedure that returns the value of a fallible expression. -/
@[simp]
theorem ends_ofExcept {x : Except String Value} :
  (MonadExcept.ofExcept x : Procedure State Value).Ends s Q R ↔
    (∀ a, x = .ok a → Q a s) ∧ ∀ message, x = .error message → R message s
  := by
  cases x <;> simp [MonadExcept.ofExcept]

/-! ### Procedures that return -/

/-- What throws does not return. -/
theorem returns_throw {message : String} :
  (throw message : Procedure State Value).Returns s Q ↔ False
  := ends_throw

/-- A procedure that may fail returns when it does not. -/
theorem returns_failOn {text : String} {failure : Option String} {Q : Unit → State → Prop} :
  (failOn text failure).Returns s Q ↔ failure = none ∧ Q () s
  := by
  cases failure <;> simp [failOn]

/-- A procedure returns when it has run, or need not run. -/
theorem returns_runWhen {c : Prop} [Decidable c] {p : Procedure State Unit}
    {Q : Unit → State → Prop} :
  (runWhen c p).Returns s Q ↔ (c ∧ p.Returns s Q) ∨ (¬ c ∧ Q () s)
  := by
  rw [Returns, ends_runWhen]
  by_cases hc : c <;> simp [hc]

/-- A check returns when its condition does not hold. -/
theorem returns_failWhen {c : Prop} [Decidable c] {message : String} {Q : Unit → State → Prop} :
  (failWhen c message).Returns s Q ↔ ¬ c ∧ Q () s
  := by
  rw [failWhen, returns_runWhen, returns_throw, and_false, false_or]

/-- A result is returned when it is no error. -/
theorem returns_ofExcept {x : Except String Value} :
  (MonadExcept.ofExcept x : Procedure State Value).Returns s Q ↔ ∃ a, x = .ok a ∧ Q a s
  := by
  cases x <;> simp

/-- A message that is described is one all the same. -/
theorem returns_describe {text : String} :
  (describe text p).Returns s Q ↔ p.Returns s Q
  := ends_describe

/-- A handler that fails does not make a procedure return. -/
theorem returns_tryCatch {handler : String → Procedure State Value}
    (fails : ∀ message t, ¬ (handler message).Returns t Q) :
  (tryCatch p handler).Returns s Q ↔ p.Returns s Q
  := by
  rw [Returns, ends_tryCatch]
  constructor
  · intro h
    apply h.mono
    · exact fun _ _ hQ => hQ
    · exact fails
  · intro h
    apply h.mono
    · exact fun _ _ hQ => hQ
    · exact fun _ _ hfalse => hfalse.elim

/-! ### Invariants -/

/-- The procedure keeps what holds of the state, whether it fails or not. -/
def Keeps (p : Procedure State Value) (I : State → Prop) : Prop :=
  ∀ s, I s → p.Leaves s I

variable {I : State → Prop}

/-- Reading the state keeps it. -/
theorem keeps_get : (get : Procedure State State).Keeps I
  := fun _ h => h

/-- So does a failure. -/
theorem keeps_failOn {text : String} {failure : Option String} : (failOn text failure).Keeps I
  := fun _ h => failOn_ends h fun _ => h

/-- A change keeps what is kept by its function. -/
theorem keeps_modify {f : State → State} (h : ∀ s, I s → I (f s)) :
  (modify f : Procedure State Unit).Keeps I
  := h

/-- Two procedures keep together what each of them keeps. -/
theorem Keeps.bind {f : Value → Procedure State Result} (first : p.Keeps I)
    (second : ∀ a, (f a).Keeps I) :
  (p >>= f).Keeps I
  := by
  intro s hs
  rw [Leaves, ends_bind]
  apply Ends.mono (first s hs)
  · intro a t ht
    apply second a t ht
  · intro _ _ ht
    apply ht

/-- So does a procedure with its handler. -/
theorem Keeps.tryCatch {handler : String → Procedure State Value} (first : p.Keeps I)
    (second : ∀ message, (handler message).Keeps I) :
  (tryCatch p handler).Keeps I
  := by
  intro s hs
  rw [Leaves, ends_tryCatch]
  apply Ends.mono (first s hs)
  · intro _ _ ht
    apply ht
  · intro message t ht
    apply second message t ht

/-- The text of an error does not matter. -/
theorem Keeps.describe {text : String} (h : p.Keeps I) :
  (describe text p).Keeps I
  := fun s hs => ends_describe.mpr (h s hs)

/-- Neither does it matter whether the procedure runs. -/
theorem Keeps.runWhen {c : Prop} [Decidable c] {p : Procedure State Unit} (h : p.Keeps I) :
  (runWhen c p).Keeps I
  := fun s hs => ends_runWhen.mpr ⟨fun _ => h s hs, fun _ => hs⟩

end Procedure

/-! ### Fallible expressions -/

section Fallible

variable {α β ε ε' : Type} {x : Except ε α}

/-- Both parts of a computation succeed. -/
theorem bind_eq_ok {f : α → Except ε β} {b : β} :
  (x >>= f) = .ok b ↔ ∃ a, x = .ok a ∧ f a = .ok b
  := by
  cases x with
  | error e => simp [bind, Except.bind]
  | ok a => simp [bind, Except.bind]

/-- A change of the errors leaves the values. -/
theorem mapError_eq_ok {f : ε → ε'} {a : α} :
  x.mapError f = .ok a ↔ x = .ok a
  := by
  cases x <;> simp [Except.mapError]

/-- An error is no value. -/
theorem throw_ne_ok {e : ε} {a : α} :
  (throw e : Except ε α) ≠ .ok a
  := nofun

/-- A value is itself. -/
theorem pure_eq_ok {a b : α} :
  (pure a : Except ε α) = .ok b ↔ a = b
  := by
  simp [pure, Except.pure]

/-- A check that fails when the condition holds. -/
theorem ite_throw_eq_ok {c : Prop} [Decidable c] {e : ε} {a : α} :
  (if c then throw e else x) = .ok a ↔ ¬ c ∧ x = .ok a
  := by
  by_cases h : c <;> simp [h, throw_ne_ok]

end Fallible
