import Mathlib.Data.List.Basic
import Mathlib.Tactic.Common

/-!
# Decoding into values that exist

Decoding a document stores into a value that is there already, member by member. What does not have
its type is passed over, and the decoding goes on, unless a type with a decoder of its own gives up.
So it is described by its effect: how it ends, and what it makes of a value. Behind a pointer the
effect is on what the pointer points to, and when that is shared with another structure, it is seen
there too, up to the first null.
-/

namespace Unmarshal

/-- A JSON document. A number is its literal, and an object has its members in the order of the
text. -/
inductive Document where
  | null
  | bool (b : Bool)
  | number (literal : String)
  | string (s : String)
  | array (elements : List Document)
  | object (members : List (String × Document))

/-- How decoding ends. -/
inductive Verdict where
  | fits
  /-- Something does not have its type and has been passed over. -/
  | wrongType
  /-- A decoder has given up, and nothing that comes later is decoded. -/
  | aborted
deriving DecidableEq, Repr

/-- What decoding makes of a value, and how it ends. -/
structure Effect (σ : Type*) where
  verdict : Verdict
  run : σ → σ

/-- How two parts end together. -/
def Verdict.andThen : Verdict → Verdict → Verdict
  | .fits, v => v
  | .wrongType, .fits => .wrongType
  | .wrongType, v => v
  | .aborted, _ => .aborted

theorem Verdict.andThen_eq_aborted {v w : Verdict} (h : v ≠ .aborted) :
  v.andThen w = .aborted ↔ w = .aborted
  := by
  cases v with
  | fits => rfl
  | wrongType => cases w <;> decide
  | aborted => exact absurd rfl h

namespace Effect

variable {σ τ : Type*}

/-- Nothing is stored. -/
def skip (verdict : Verdict) : Effect σ :=
  ⟨verdict, id⟩

/-- One after the other, unless the first one gives up. -/
def andThen (a b : Effect σ) : Effect σ where
  verdict := a.verdict.andThen b.verdict
  run s := if a.verdict = .aborted then a.run s else b.run (a.run s)

/-- All in turn. -/
def all : List (Effect σ) → Effect σ
  | [] => skip .fits
  | a :: rest => a.andThen (all rest)

/-- The effect on a part of a structure. -/
def on (get : σ → τ) (set : σ → τ → σ) (a : Effect τ) : Effect σ where
  verdict := a.verdict
  run s := set s (a.run (get s))

/-- The second effect is what the first one does to the part that `f` shows. -/
structure Shows (f : σ → τ) (a : Effect σ) (b : Effect τ) : Prop where
  verdict : a.verdict = b.verdict
  run : ∀ s, f (a.run s) = b.run (f s)

variable {f : σ → τ} {a a' : Effect σ} {b b' : Effect τ}

theorem andThen_of_aborted (a' : Effect σ) (h : a.verdict = .aborted) :
  (a.andThen a').verdict = .aborted ∧ ∀ s, (a.andThen a').run s = a.run s
  := by
  rw [Effect.andThen]
  dsimp only
  rw [h]
  exact ⟨rfl, fun _ => if_pos rfl⟩

theorem andThen_of_not_aborted (a' : Effect σ) (h : a.verdict ≠ .aborted) :
  ((a.andThen a').verdict = .aborted ↔ a'.verdict = .aborted) ∧
    ∀ s, (a.andThen a').run s = a'.run (a.run s)
  := ⟨Verdict.andThen_eq_aborted h, fun _ => if_neg h⟩

theorem Shows.andThen (h : Shows f a b) (h' : Shows f a' b') :
  Shows f (a.andThen a') (b.andThen b')
  := by
  constructor
  · rw [Effect.andThen, Effect.andThen, h.verdict, h'.verdict]
  · intro s
    rw [Effect.andThen, Effect.andThen]
    dsimp only
    rw [h.verdict, apply_ite f, h.run, h'.run, h.run]

end Effect

/-! ### Decoders -/

/-- How a JSON value is decoded into a type. -/
abbrev Decoder (α : Type*) :=
  Document → Effect α

namespace Decoder

variable {α σ : Type*}

/-- A value that is replaced by the one that is read. Null leaves it as it is. -/
def literal (read : Document → Option α) : Decoder α
  | .null => .skip .fits
  | value => (read value).elim (.skip .wrongType) fun a => ⟨.fits, fun _ => a⟩

/-- A type with a decoder of its own, whose error ends everything. -/
def custom (unmarshalJSON : Document → Option (α → α)) : Decoder α :=
  fun value => (unmarshalJSON value).elim (.skip .aborted) fun run => ⟨.fits, run⟩

/-- A slice is emptied, and the elements are appended to it. Null stands for the empty slice too. -/
def slice (element : Decoder α) (zero : α) : Decoder (List α)
  | .null => ⟨.fits, fun _ => []⟩
  | .array elements =>
      (⟨.fits, fun _ => []⟩ : Effect (List α)).andThen <|
        .all <| elements.map fun value =>
          ⟨(element value).verdict, fun slice => slice ++ [(element value).run zero]⟩
  | _ => .skip .wrongType

/-- Null sets a pointer to nil, and another value is decoded into what it points to. For a pointer
that is nil a new value is made. -/
def pointer (target : Decoder α) (zero : α) : Decoder (Option α)
  | .null => ⟨.fits, fun _ => none⟩
  | value => ⟨(target value).verdict, fun p => some ((target value).run (p.getD zero))⟩

/-- The members of an object are decoded into the fields of a structure, one after the other. -/
def struct (field : String → Option (Decoder σ)) : Decoder σ
  | .null => .skip .fits
  | .object members =>
      .all <| members.map fun m => (field m.1).elim (.skip .fits) fun decoder => decoder m.2
  | _ => .skip .wrongType

end Decoder

/-- What relates the effects on the fields relates the effects on the structure, when it relates
what stores nothing and is kept by doing one after the other. -/
theorem related_struct {σ τ T : Type*} {R : Effect σ → Effect τ → Prop}
    {find : String → Option T} {a : T → Decoder σ} {b : T → Decoder τ}
    (hskip : ∀ verdict, R (.skip verdict) (.skip verdict))
    (handThen : ∀ {p p' q q'}, R p q → R p' q' → R (p.andThen p') (q.andThen q'))
    (h : ∀ t value, R (a t value) (b t value)) (document : Document) :
  R (Decoder.struct (fun key => (find key).map a) document)
    (Decoder.struct (fun key => (find key).map b) document)
  := by
  cases document with
  | object members =>
      induction members with
      | nil => exact hskip .fits
      | cons m members ih =>
          apply handThen _ ih
          dsimp only
          cases find m.1 with
          | none => exact hskip .fits
          | some t => exact h t m.2
  | null => exact hskip .fits
  | _ => exact hskip .wrongType

/-- What is shown of a structure that is decoded, when it is known for each field. -/
theorem shows_struct {σ τ T : Type*} {f : σ → τ} {find : String → Option T} {a : T → Decoder σ}
    {b : T → Decoder τ} (h : ∀ t value, Effect.Shows f (a t value) (b t value))
    (document : Document) :
  Effect.Shows f (Decoder.struct (fun key => (find key).map a) document)
    (Decoder.struct (fun key => (find key).map b) document)
  := related_struct (fun _ => ⟨rfl, fun _ => rfl⟩) Effect.Shows.andThen h document

/-- A letter is folded with the other ones that stand for it. -/
def foldRune (c : Char) : Char :=
  if c = '\u212A' then 'k' else if c = '\u017F' then 's' else c.toLower

/-- The field with the key, or else one whose name has the same letters. -/
def findField {β : Type*} (fields : List (String × β)) (key : String) : Option β :=
  (fields.lookup key).or <| (fields.find? fun field =>
    field.1.toList.map foldRune = key.toList.map foldRune).map Prod.snd

/-! ### Shared values -/

/-- What a pointer in a shallow copy points to: the value that it shares with the original, or one
of its own. -/
inductive Cell (α : Type*) where
  | shared
  | own (a : α)
deriving DecidableEq

/-- The shared value, and the pointer of the copy. -/
abbrev Place (α : Type*) :=
  α × Option (Cell α)

namespace Place

variable {α σ : Type*}

/-- What the pointer of the copy shows. -/
def read (place : Place α) : Option α :=
  place.2.map fun
    | .shared => place.1
    | .own a => a

/-- Writes through the pointer of the copy. -/
def write (f : α → α) (place : Place α) : Place α :=
  match place.2 with
  | none => place
  | some .shared => (f place.1, some .shared)
  | some (.own a) => (place.1, some (.own (f a)))

/-- A value is decoded into what the pointer of the copy points to. -/
def decode (target : Decoder α) (zero : α) : Decoder (Place α)
  | .null => ⟨.fits, fun place => (place.1, none)⟩
  | value =>
      { verdict := (target value).verdict
        run := fun place =>
          write (target value).run
            (if place.2 = none then (place.1, some (.own zero)) else place) }

/-- What decoding does to the shared value. A null ends it: from then on the copy has a value of its
own. -/
def decodeShared (target : Decoder α) : Decoder α
  | .null => .skip .aborted
  | value => target value

variable {target : Decoder α} {zero : α} {get : σ → Place α} {p p' : Effect σ} {q q' : Effect α}

theorem read_write (f : α → α) (place : Place α) :
  (write f place).read = place.read.map f
  := by
  obtain ⟨a, _ | _ | b⟩ := place
  · rfl
  · rfl
  · rfl

/-- The pointer of the copy shows what a pointer of its own would show. -/
theorem shows_read_decode (value : Document) :
  Effect.Shows read (decode target zero value) (Decoder.pointer target zero value)
  := by
  have hvalue : ∀ place : Place α,
      (write (target value).run
        (if place.2 = none then (place.1, some (.own zero)) else place)).read =
      some ((target value).run (place.read.getD zero)) := by
    intro place
    rw [read_write]
    obtain ⟨a, _ | _ | b⟩ := place
    · rfl
    · rfl
    · rfl
  cases value with
  | null => exact ⟨rfl, fun _ => rfl⟩
  | _ => exact ⟨rfl, hvalue⟩

/-- The second effect is what the first one does to the shared value of a place, as long as it is
shared. -/
structure Shares (get : σ → Place α) (p : Effect σ) (q : Effect α) : Prop where
  detached : ∀ s, (get s).2 ≠ some .shared →
    (get (p.run s)).1 = (get s).1 ∧ (get (p.run s)).2 ≠ some .shared
  attached : ∀ s, (get s).2 = some .shared → (get (p.run s)).1 = q.run (get s).1
  ends : (p.verdict = .aborted ↔ q.verdict = .aborted) ∧
      (∀ s, (get s).2 = some .shared → (get (p.run s)).2 = some .shared) ∨
    q.verdict = .aborted ∧ ∀ s, (get s).2 = some .shared → (get (p.run s)).2 ≠ some .shared

/-- The place is left as it is. -/
theorem shares_of_unchanged (h : ∀ s, get (p.run s) = get s) :
  Shares get p (.skip p.verdict)
  := by
  constructor
  · intro s hs
    rw [h]
    exact ⟨rfl, hs⟩
  · intro s _
    rw [h]
    rfl
  · refine Or.inl ⟨Iff.rfl, fun s hs => ?_⟩
    rw [h]
    exact hs

/-- A value is decoded into the place. -/
theorem shares_decode {set : σ → Place α → σ} (h : ∀ s place, get (set s place) = place)
    (value : Document) :
  Shares get ((decode target zero value).on get set) (decodeShared target value)
  := by
  have hvalue : Shares get
      (Effect.on get set
        { verdict := (target value).verdict
          run := fun place => write (target value).run
            (if place.2 = none then (place.1, some (.own zero)) else place) })
      (target value) := by
    constructor
    · intro s hs
      rw [Effect.on]
      dsimp only
      rw [h]
      revert hs
      obtain ⟨a, _ | _ | b⟩ := get s
      · intro _
        exact ⟨rfl, fun hshared => by cases hshared⟩
      · exact fun hs => absurd rfl hs
      · intro _
        exact ⟨rfl, fun hshared => by cases hshared⟩
    · intro s hs
      rw [Effect.on]
      dsimp only
      rw [h, if_neg (by rw [hs]; exact Option.some_ne_none _), write, hs]
    · refine Or.inl ⟨Iff.rfl, fun s hs => ?_⟩
      rw [Effect.on]
      dsimp only
      rw [h, if_neg (by rw [hs]; exact Option.some_ne_none _), write, hs]
  cases value with
  | null =>
      constructor
      · intro s _
        rw [Effect.on]
        dsimp only
        rw [h]
        exact ⟨rfl, fun hshared => by cases hshared⟩
      · intro s _
        rw [Effect.on]
        dsimp only
        rw [h]
        rfl
      · refine Or.inr ⟨rfl, fun s _ hshared => ?_⟩
        rw [Effect.on] at hshared
        dsimp only at hshared
        rw [h] at hshared
        cases hshared
  | _ => exact hvalue

/-- What happens to the shared value is put together from what happens to it in turn. -/
theorem Shares.andThen (h : Shares get p q) (h' : Shares get p' q') :
  Shares get (p.andThen p') (q.andThen q')
  := by
  constructor
  · intro s hs
    obtain ⟨hvalue, hpointer⟩ := h.detached s hs
    by_cases haborted : p.verdict = .aborted
    · rw [(Effect.andThen_of_aborted _ haborted).2]
      exact ⟨hvalue, hpointer⟩
    · rw [(Effect.andThen_of_not_aborted _ haborted).2]
      obtain ⟨hvalue', hpointer'⟩ := h'.detached _ hpointer
      exact ⟨hvalue'.trans hvalue, hpointer'⟩
  · intro s hs
    obtain ⟨hiff, hshared⟩ | ⟨hq, hown⟩ := h.ends
    · by_cases haborted : p.verdict = .aborted
      · rw [(Effect.andThen_of_aborted _ haborted).2,
          (Effect.andThen_of_aborted _ (hiff.mp haborted)).2, h.attached s hs]
      · rw [(Effect.andThen_of_not_aborted _ haborted).2,
          (Effect.andThen_of_not_aborted _ (mt hiff.mpr haborted)).2,
          h'.attached _ (hshared s hs), h.attached s hs]
    · rw [(Effect.andThen_of_aborted _ hq).2, ← h.attached s hs]
      by_cases haborted : p.verdict = .aborted
      · rw [(Effect.andThen_of_aborted _ haborted).2]
      · rw [(Effect.andThen_of_not_aborted _ haborted).2]
        exact (h'.detached _ (hown s hs)).1
  · obtain ⟨hiff, hshared⟩ | ⟨hq, hown⟩ := h.ends
    · by_cases haborted : p.verdict = .aborted
      · obtain ⟨hverdict, hrun⟩ := Effect.andThen_of_aborted p' haborted
        obtain ⟨hverdict', -⟩ := Effect.andThen_of_aborted q' (hiff.mp haborted)
        refine Or.inl ⟨iff_of_true hverdict hverdict', fun s hs => ?_⟩
        rw [hrun, hshared s hs]
      · obtain ⟨hverdict, hrun⟩ := Effect.andThen_of_not_aborted p' haborted
        obtain ⟨hverdict', -⟩ := Effect.andThen_of_not_aborted q' (mt hiff.mpr haborted)
        obtain ⟨hiff', hshared'⟩ | ⟨hq', hown'⟩ := h'.ends
        · refine Or.inl ⟨hverdict.trans (hiff'.trans hverdict'.symm), fun s hs => ?_⟩
          rw [hrun, hshared' _ (hshared s hs)]
        · refine Or.inr ⟨hverdict'.mpr hq', fun s hs => ?_⟩
          rw [hrun]
          exact hown' _ (hshared s hs)
    · refine Or.inr ⟨(Effect.andThen_of_aborted _ hq).1, fun s hs => ?_⟩
      by_cases haborted : p.verdict = .aborted
      · rw [(Effect.andThen_of_aborted _ haborted).2]
        exact hown s hs
      · rw [(Effect.andThen_of_not_aborted _ haborted).2]
        exact (h'.detached _ (hown s hs)).2

/-- What decoding a structure does to a shared value, when it is known for each field. -/
theorem shares_struct {T : Type*} {find : String → Option T} {a : T → Decoder σ} {b : T → Decoder α}
    (h : ∀ t value, Shares get (a t value) (b t value)) (document : Document) :
  Shares get (Decoder.struct (fun key => (find key).map a) document)
    (Decoder.struct (fun key => (find key).map b) document)
  := related_struct (fun _ => shares_of_unchanged fun _ => rfl) Shares.andThen h document

end Place

end Unmarshal
