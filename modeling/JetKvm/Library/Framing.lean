import Mathlib.Data.List.Basic
import Mathlib.Tactic.Common

/-!
# Frames with a length in front

A stream of frames, each of which begins with a header of a fixed length that says how long its body
is. The bodies are read one after the other, until the stream ends, in a frame or between two, or a
header is not valid. What is read is a front of the stream, and the rest of it has no whole frame in
front.
-/

/-- The length of the headers, and the length of the body that a header announces, if it is
valid. -/
structure Framing (Item : Type*) where
  width : Nat
  width_pos : 0 < width
  size : List Item → Option Nat

namespace Framing

variable {Item : Type*} (F : Framing Item)

/-- Why no more frames are read. -/
inductive Stop where
  | ended
  | headerCut
  | invalid
  | bodyCut
deriving DecidableEq, Repr

/-- The body of the first frame, and the stream after it. -/
def next (stream : List Item) : Except Stop (List Item × List Item) :=
  if stream.length = 0 then .error .ended
  else if stream.length < F.width then .error .headerCut
  else
    match F.size (stream.take F.width) with
    | none => .error .invalid
    | some size =>
        if (stream.drop F.width).length < size then .error .bodyCut
        else .ok ((stream.drop F.width).take size, (stream.drop F.width).drop size)

/-- The bodies of the frames, of which there are at most `n`, and why there are no more. -/
def readUpTo : Nat → List Item → List (List Item) × Stop
  | 0, _ => ([], .ended)
  | n + 1, stream =>
      match F.next stream with
      | .error stop => ([], stop)
      | .ok (body, rest) => (body :: (readUpTo n rest).1, (readUpTo n rest).2)

/-- The bodies of the frames of a stream, and why there are no more. -/
def read (stream : List Item) : List (List Item) × Stop :=
  F.readUpTo stream.length stream

/-- A header and the body that it announces. -/
structure IsFrame (header body : List Item) : Prop where
  length : header.length = F.width
  size : F.size header = some body.length

variable {F} {header body rest stream : List Item} {stop : Stop} {n m size : Nat}

/-! ### The first frame -/

theorem next_of_empty (h : stream.length = 0) :
  F.next stream = .error .ended
  := if_pos h

theorem next_of_headerCut (hpos : stream.length ≠ 0) (h : stream.length < F.width) :
  F.next stream = .error .headerCut
  := by
  rw [next, if_neg hpos, if_pos h]

theorem next_of_invalid (hwidth : F.width ≤ stream.length)
    (h : F.size (stream.take F.width) = none) :
  F.next stream = .error .invalid
  := by
  have hpos := F.width_pos
  rw [next, if_neg (by omega), if_neg (Nat.not_lt.mpr hwidth), h]

theorem next_of_bodyCut (hwidth : F.width ≤ stream.length)
    (hsize : F.size (stream.take F.width) = some size)
    (h : (stream.drop F.width).length < size) :
  F.next stream = .error .bodyCut
  := by
  have hpos := F.width_pos
  rw [next, if_neg (by omega), if_neg (Nat.not_lt.mpr hwidth), hsize]
  exact if_pos h

theorem next_of_whole (hwidth : F.width ≤ stream.length)
    (hsize : F.size (stream.take F.width) = some size)
    (h : size ≤ (stream.drop F.width).length) :
  F.next stream = .ok ((stream.drop F.width).take size, (stream.drop F.width).drop size)
  := by
  have hpos := F.width_pos
  rw [next, if_neg (by omega), if_neg (Nat.not_lt.mpr hwidth), hsize]
  exact if_neg (Nat.not_lt.mpr h)

theorem next_frame (h : F.IsFrame header body) (rest : List Item) :
  F.next (header ++ (body ++ rest)) = .ok (body, rest)
  := by
  have hlength := h.length
  have hsize : F.size ((header ++ (body ++ rest)).take F.width) = some body.length := by
    rw [List.take_left' hlength, h.size]
  rw [next_of_whole _ hsize, List.drop_left' hlength, List.take_left, List.drop_left]
  · rw [List.drop_left' hlength, List.length_append]
    omega
  · rw [List.length_append]
    omega

/-- What is read is a frame in front of the stream. -/
theorem next_eq_ok (h : F.next stream = .ok (body, rest)) :
  ∃ header, F.IsFrame header body ∧ stream = header ++ (body ++ rest)
  := by
  rw [next] at h
  split at h
  · cases h
  · split at h
    · cases h
    case isFalse hwidth =>
      split at h
      · cases h
      case h_2 size hsize =>
        split at h
        · cases h
        case isFalse hbody =>
          obtain ⟨rfl, rfl⟩ := Prod.mk.inj (Except.ok.inj h)
          use stream.take F.width
          constructor
          · constructor
            · rw [List.length_take]
              omega
            · rw [hsize, List.length_take, Nat.min_eq_left (Nat.not_lt.mp hbody)]
          · rw [List.take_append_drop, List.take_append_drop]

theorem length_of_next (h : F.next stream = .ok (body, rest)) :
  rest.length < stream.length
  := by
  obtain ⟨header, hframe, rfl⟩ := next_eq_ok h
  have hpos := F.width_pos
  have hlength := hframe.length
  rw [List.length_append, List.length_append]
  omega

/-! ### All frames -/

theorem readUpTo_of_error (h : F.next stream = .error stop) (n : Nat) :
  F.readUpTo (n + 1) stream = ([], stop)
  := by
  rw [readUpTo, h]

theorem readUpTo_of_ok (h : F.next stream = .ok (body, rest)) (n : Nat) :
  F.readUpTo (n + 1) stream = (body :: (F.readUpTo n rest).1, (F.readUpTo n rest).2)
  := by
  rw [readUpTo, h]

/-- A stream has no more frames than items. -/
theorem readUpTo_eq (hn : stream.length ≤ n) (hm : stream.length ≤ m) :
  F.readUpTo n stream = F.readUpTo m stream
  := by
  have hnil : ∀ k, F.readUpTo k [] = ([], .ended) := by
    intro k
    cases k with
    | zero => rfl
    | succ => rfl
  induction n generalizing m stream with
  | zero =>
      obtain rfl := List.eq_nil_of_length_eq_zero (Nat.le_zero.mp hn)
      rw [hnil, hnil]
  | succ n ih =>
      cases m with
      | zero =>
          obtain rfl := List.eq_nil_of_length_eq_zero (Nat.le_zero.mp hm)
          rw [hnil, hnil]
      | succ m =>
          cases hnext : F.next stream with
          | error stop => rw [readUpTo_of_error hnext, readUpTo_of_error hnext]
          | ok found =>
              obtain ⟨body, rest⟩ := found
              have hlt := length_of_next hnext
              rw [readUpTo_of_ok hnext, readUpTo_of_ok hnext, ih (m := m) (by omega) (by omega)]

theorem read_of_ok (h : F.next stream = .ok (body, rest)) :
  F.read stream = (body :: (F.read rest).1, (F.read rest).2)
  := by
  have hlt := length_of_next h
  obtain ⟨n, hn⟩ := Nat.exists_eq_add_of_lt hlt
  rw [read, hn, readUpTo_of_ok h, read, readUpTo_eq (by omega) (Nat.le_refl rest.length)]

theorem read_of_error (h : F.next stream = .error stop) :
  F.read stream = ([], stop)
  := by
  cases stream with
  | nil =>
      rw [next, if_pos List.length_nil] at h
      obtain rfl := Except.error.inj h
      rfl
  | cons item stream => rw [read, List.length_cons, readUpTo_of_error h]

/-- The frame in front is read first. -/
theorem read_frame (h : F.IsFrame header body) (rest : List Item) :
  F.read (header ++ (body ++ rest)) = (body :: (F.read rest).1, (F.read rest).2)
  := read_of_ok (next_frame h rest)

/-- What holds of the streams without a whole frame in front, and of the stream that begins with a
frame when it holds of the rest, holds of every stream. -/
theorem induction {motive : List Item → Prop}
    (stop : ∀ stream stop, F.next stream = .error stop → motive stream)
    (frame : ∀ header body rest, F.IsFrame header body → motive rest →
      motive (header ++ (body ++ rest)))
    (stream : List Item) :
  motive stream
  := by
  induction hn : stream.length using Nat.strongRecOn generalizing stream with
  | _ n ih =>
      cases hnext : F.next stream with
      | error why => exact stop stream why hnext
      | ok found =>
          obtain ⟨body, rest⟩ := found
          have hlt := length_of_next hnext
          obtain ⟨header, hframe, rfl⟩ := next_eq_ok hnext
          apply frame _ _ _ hframe
          apply ih _ (hn ▸ hlt) _ rfl

/-- A stream consists of the frames that are read from it and of a rest without a whole frame in
front. -/
theorem exists_frames (stream : List Item) :
  ∃ frames : List (List Item × List Item), ∃ rest,
    (∀ f ∈ frames, F.IsFrame f.1 f.2) ∧ stream = (frames.flatMap fun f => f.1 ++ f.2) ++ rest ∧
    (F.read stream).1 = frames.map Prod.snd ∧ F.next rest = .error (F.read stream).2
  := by
  induction stream using F.induction with
  | stop stream why h =>
      rw [read_of_error h]
      exact ⟨[], stream, by simp, rfl, rfl, h⟩
  | frame header body rest hframe ih =>
      obtain ⟨frames, left, hframes, hrest, hbodies, hstop⟩ := ih
      rw [read_frame hframe]
      use (header, body) :: frames, left
      constructor
      · rw [List.forall_mem_cons]
        exact ⟨hframe, hframes⟩
      · constructor
        · rw [List.flatMap_cons, hrest]
          simp only [List.append_assoc]
        · exact ⟨congrArg (body :: ·) hbodies, hstop⟩

end Framing
