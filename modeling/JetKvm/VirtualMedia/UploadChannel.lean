import JetKvm.Library.Transition
import Mathlib.Algebra.GroupWithZero.Nat

/-!
# The data channel of an upload

`handleUploadChannel` counts the bytes of the messages that it writes to the file, and closes
`uploadComplete` when a message could not be written and when the declared size has been reached.
The message handler stays registered after that, so that the channel may be closed twice, which
panics.
-/

namespace JetKvm.VirtualMedia

/-- What the message handler of an upload counts. -/
structure Receiver where
  size : Int
  totalBytesWritten : Int
  /-- `uploadComplete` has been closed. -/
  complete : Bool
deriving DecidableEq, Repr

namespace Receiver

/-- Closes `uploadComplete`. There is no receiver after a panic. -/
def closeComplete (r : Receiver) : Option Receiver :=
  if r.complete then none else some { r with complete := true }

/-- A message of which `n` bytes have been written. -/
def count (r : Receiver) (n : Nat) : Receiver :=
  { r with totalBytesWritten := r.totalBytesWritten + n }

/-- The message handler. A message that could not be written has no number of bytes. -/
def onMessage (r : Receiver) : Option Nat → Option Receiver
  | none => r.closeComplete
  | some n => if r.size ≤ (r.count n).totalBytesWritten then (r.count n).closeComplete
      else some (r.count n)

end Receiver

/-- A data channel of an upload. -/
structure UploadChannel where
  /-- The message handler, unless it has panicked. -/
  receiver : Option Receiver
  fileClosed : Bool
deriving DecidableEq, Repr

/-- A message and what its writing to the file returns, or the deferred end of the upload. -/
inductive ChannelEvent where
  | message (written : Option Nat)
  | finish
deriving DecidableEq, Repr

namespace ChannelEvent

/-- What the writing of a message returns. -/
def written : ChannelEvent → Option (Option Nat)
  | message written => some written
  | finish => none

end ChannelEvent

namespace UploadChannel

/-- The channel of an upload that goes on after the bytes that have been uploaded already. -/
def opened (size alreadyUploadedBytes : Int) : UploadChannel where
  receiver := some ⟨size, alreadyUploadedBytes, false⟩
  fileClosed := false

/-- The next state. A file that has been closed cannot be written, and the upload ends when it is
complete. -/
def step (c : UploadChannel) : ChannelEvent → Option UploadChannel
  | .message written =>
      c.receiver.bind fun r =>
        if c.fileClosed ∧ written.isSome then none
        else some { c with receiver := r.onMessage written }
  | .finish =>
      c.receiver.bind fun r =>
        if r.complete ∧ c.fileClosed = false then some { c with fileClosed := true } else none

def lts : Lts UploadChannel ChannelEvent :=
  Lts.ofStep step

/-- A message after which `uploadComplete` is closed: it could not be written, or the declared size
is reached with it. -/
def closes (size total : Int) : Option Nat → Bool
  | none => true
  | some n => size ≤ total + n

/-- The number of messages after which `uploadComplete` is closed. -/
def closings (size total : Int) : List (Option Nat) → Nat
  | [] => 0
  | written :: rest =>
      (if closes size total written then 1 else 0) +
        closings size (total + written.getD 0) rest

/-- The number of bytes that have been written. -/
def bytesWritten (messages : List (Option Nat)) : Nat :=
  (messages.map fun written => written.getD 0).sum

/-- What the messages of a run return when they are written. -/
def messages (tr : List (Lts.Transition UploadChannel ChannelEvent)) : List (Option Nat) :=
  tr.filterMap fun e => e.action.written

variable {size already total : Int} {written : Option Nat} {earlier : List (Option Nat)}
  {tr : List (Lts.Transition UploadChannel ChannelEvent)} {c : UploadChannel} {r : Receiver}

theorem closings_snoc (size total : Int) (earlier : List (Option Nat)) (written : Option Nat) :
  closings size total (earlier ++ [written]) =
    closings size total earlier +
      if closes size (total + bytesWritten earlier) written then 1 else 0
  := by
  induction earlier generalizing total with
  | nil => simp [closings, bytesWritten]
  | cons first rest ih =>
      rw [List.cons_append, closings, closings, ih, Nat.add_assoc]
      simp [bytesWritten, Int.add_assoc]

theorem bytesWritten_snoc (earlier : List (Option Nat)) (written : Option Nat) :
  bytesWritten (earlier ++ [written]) = bytesWritten earlier + written.getD 0
  := by
  simp [bytesWritten]

/-- The message handler after some messages: it has counted their bytes and has closed
`uploadComplete` once for each message after which it is closed, or has panicked. -/
def Counts (size already : Int) (earlier : List (Option Nat)) : Option Receiver → Prop
  | some r => r.size = size ∧ r.totalBytesWritten = already + bytesWritten earlier ∧
      closings size already earlier = if r.complete then 1 else 0
  | none => 2 ≤ closings size already earlier

/-- `uploadComplete` is closed for the first time, or panics. -/
theorem counts_closeComplete {messages : List (Option Nat)} (hsize : r.size = size)
    (htotal : r.totalBytesWritten = already + bytesWritten messages)
    (hclosings : closings size already messages = (if r.complete then 1 else 0) + 1) :
  Counts size already messages r.closeComplete
  := by
  rw [Receiver.closeComplete]
  cases hcomplete : r.complete with
  | false =>
      rw [hcomplete] at hclosings
      exact ⟨hsize, htotal, hclosings⟩
  | true =>
      rw [hcomplete] at hclosings
      exact Nat.le_of_eq hclosings.symm

/-- A message is counted, and closes `uploadComplete` if it is one after which it is closed. -/
theorem Counts.onMessage (h : Counts size already earlier (some r)) (written : Option Nat) :
  Counts size already (earlier ++ [written]) (r.onMessage written)
  := by
  obtain ⟨hsize, htotal, hclosings⟩ := h
  have hnext := closings_snoc size already earlier written
  rw [hclosings] at hnext
  cases written with
  | none =>
      apply counts_closeComplete hsize
      · rw [htotal, bytesWritten_snoc]
        rfl
      · rw [hnext]
        rfl
  | some n =>
      have hcount : (r.count n).totalBytesWritten =
          already + bytesWritten (earlier ++ [some n]) := by
        rw [Receiver.count, htotal, bytesWritten_snoc]
        push_cast
        apply Int.add_assoc
      rw [Receiver.onMessage, hsize]
      have hcloses : closes size (already + bytesWritten earlier) (some n) =
          decide (size ≤ (r.count n).totalBytesWritten) := by
        rw [closes, Receiver.count, htotal]
      rw [hcloses] at hnext
      split
      · rename_i hreached
        rw [decide_eq_true hreached] at hnext
        exact counts_closeComplete hsize hcount hnext
      · rename_i hreached
        rw [decide_eq_false hreached] at hnext
        exact ⟨hsize, hcount, hnext⟩

theorem messages_snoc (tr : List (Lts.Transition UploadChannel ChannelEvent))
    (e : Lts.Transition UploadChannel ChannelEvent) :
  messages (tr ++ [e]) = messages tr ++ e.action.written.toList
  := by
  rw [messages, List.filterMap_append]
  cases h : e.action.written with
  | none => simp [messages, h]
  | some written => simp [messages, h]

theorem counts_run (run : lts.Run (opened size already) tr c) :
  Counts size already (messages tr) c.receiver
  := by
  induction run with
  | nil => exact ⟨rfl, (Int.add_zero already).symm, rfl⟩
  | @snoc tr c c' event run step ih =>
      obtain ⟨r, hr, hstep⟩ : ∃ r, c.receiver = some r ∧ c.step event = some c' := by
        cases hreceiver : c.receiver with
        | none =>
            cases event with
            | message written =>
                change Option.bind c.receiver _ = _ at step
                rw [hreceiver] at step
                cases step
            | finish =>
                change Option.bind c.receiver _ = _ at step
                rw [hreceiver] at step
                cases step
        | some r => exact ⟨r, rfl, step⟩
      rw [hr] at ih
      rw [messages_snoc]
      cases event with
      | message written =>
          rw [UploadChannel.step, hr, Option.bind_some] at hstep
          obtain ⟨-, hnext⟩ := Option.ite_none_left_eq_some.mp hstep
          obtain rfl := Option.some.inj hnext
          exact ih.onMessage written
      | finish =>
          rw [UploadChannel.step, hr, Option.bind_some] at hstep
          obtain ⟨-, hnext⟩ := Option.ite_none_right_eq_some.mp hstep
          obtain rfl := Option.some.inj hnext
          simpa [ChannelEvent.written] using ih

/-- Whatever messages are delivered, `uploadComplete` is closed at most once exactly when there is
at most one message that could not be written or with which the declared size is reached. -/
theorem closed_once_iff (run : lts.Run (opened size already) tr c) :
  c.receiver.isSome ↔ closings size already (messages tr) ≤ 1
  := by
  have hcounts := counts_run run
  cases hreceiver : c.receiver with
  | none =>
      rw [hreceiver] at hcounts
      apply iff_of_false Bool.false_ne_true
      exact Nat.not_le.mpr hcounts
  | some r =>
      rw [hreceiver] at hcounts
      apply iff_of_true rfl
      rw [hcounts.2.2]
      split
      · apply Nat.le_refl
      · apply Nat.zero_le

/-- A file of four bytes is uploaded in two messages. -/
theorem closed_once_when_complete :
  ∃ tr c, lts.Run (opened 4 0) tr c ∧ c.fileClosed = true ∧ c.receiver.isSome
  := by
  obtain ⟨tr, c, run, hactions, hclosed⟩ := Lts.exists_run_of_observe step (opened 4 0)
    [.message (some 3), .message (some 1), .finish] fileClosed (by decide : _ = some true)
  use tr, c, run, hclosed
  apply (closed_once_iff run).mpr
  have hmessages : messages tr = [some 3, some 1] := by
    have hmap : messages tr =
        (tr.map Lts.Transition.action).filterMap ChannelEvent.written := by
      rw [List.filterMap_map]
      rfl
    rw [hmap, hactions]
    rfl
  rw [hmessages]
  decide

/-- A message comes after the declared size has been reached. -/
theorem closed_twice :
  ¬ ∀ (size already : Int) (tr : List (Lts.Transition UploadChannel ChannelEvent))
      (c : UploadChannel), lts.Run (opened size already) tr c → c.receiver.isSome
  := by
  intro claim
  obtain ⟨tr, c, run, -, hpanic⟩ := Lts.exists_run_of_observe step (opened 4 0)
    [.message (some 4), .message (some 1)] receiver (by decide : _ = some none)
  have hsome := claim 4 0 tr c run
  rw [hpanic] at hsome
  cases hsome

end UploadChannel

end JetKvm.VirtualMedia
