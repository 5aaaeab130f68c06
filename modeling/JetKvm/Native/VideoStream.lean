import JetKvm.Library.Transition
import Mathlib.Logic.Function.Basic

/-!
# The video stream

A streaming thread captures frames as long as `streaming_flag` is set. `video_start_streaming` makes
such a thread, `video_stop_streaming` clears the flag, waits for the thread, joins it and frees its
handle, and `video_restart_streaming` does one after the other. The calls come from Go, one at a
time, and from the thread that detects the format, which only restarts. Each access to the flags
and to the pointer is one step. What is logged is left out, and so is the time that is slept.
-/

namespace JetKvm.Native

/-! ### The streaming thread -/

/-- The errors on which `run_video_stream` returns at once. -/
inductive EarlyReturn where
  | reqbufs
  | querybuf
  | getMB
  | handle2Fd
  | qbuf
  | streamon
deriving DecidableEq, Repr

/-- Where a streaming thread is in `run_video_stream`. -/
inductive StreamPoint where
  /-- Before `set_streaming_stopped(false)`. -/
  | created
  /-- Before the test of the outer loop. -/
  | outer
  /-- In the outer loop, before the inner one. -/
  | preparing
  /-- Before the test of the inner loop. -/
  | inner
  /-- At the label `cleanup`. -/
  | cleanup
  /-- Before `set_streaming_stopped(true)`. -/
  | leaving
  | ended
deriving DecidableEq, Repr

/-- What a streaming thread meets with. -/
inductive StreamEvent where
  | succeeds
  /-- There is no signal, or the device cannot be opened, or its format not be set. -/
  | retries
  | returns (error : EarlyReturn)
  /-- The encoder cannot be started. -/
  | skips
  /-- No frame can be read. -/
  | breaksOff
deriving DecidableEq, Repr

/-- `run_video_stream` returns at once. -/
def StreamEvent.isReturn : StreamEvent → Bool
  | .returns _ => true
  | _ => false

/-- The next point of `run_video_stream`, depending on `streaming_flag`. -/
def StreamPoint.next (streamingFlag : Bool) : StreamPoint → StreamEvent → Option StreamPoint
  | .created, .succeeds => some .outer
  | .outer, .succeeds => some (if streamingFlag then .preparing else .leaving)
  | .preparing, .succeeds => some .inner
  | .preparing, .retries => some .outer
  | .preparing, .returns _ => some .ended
  | .preparing, .skips => some .cleanup
  | .inner, .succeeds => some (if streamingFlag then .inner else .cleanup)
  | .inner, .breaksOff => if streamingFlag then some .cleanup else none
  | .cleanup, .succeeds => some .outer
  | .leaving, .succeeds => some .ended
  | _, _ => none

/-- A streaming thread and its handle, with the number of times that the thread has been joined and
that the handle has been freed. -/
structure Stream where
  point : StreamPoint := .created
  joined : ℕ := 0
  freed : ℕ := 0
deriving DecidableEq, Repr

/-- The variables of the video stream, and the threads ever made. A pointer to a handle is the
place of its thread. -/
structure Video where
  streamingFlag : Bool := false
  streamingStopped : Bool := true
  streamingThread : Option ℕ := none
  streams : List Stream := []
deriving DecidableEq, Repr

namespace Video

variable (video : Video)

def setStreamingFlag (flag : Bool) : Video :=
  { video with streamingFlag := flag }

def setStreamingStopped (stopped : Bool) : Video :=
  { video with streamingStopped := stopped }

def setStreamingThread (thread : Option ℕ) : Video :=
  { video with streamingThread := thread }

def setStream (handle : ℕ) (stream : Stream) : Video :=
  { video with streams := video.streams.set handle stream }

/-- `video_get_streaming_status`, when nothing happens in between. -/
def getStreamingStatus : ℕ :=
  if video.streamingFlag then 1
  else if video.streamingStopped then 0
  else 2

/-- One step of a streaming thread. -/
def execStream (handle : ℕ) (event : StreamEvent) : Option Video :=
  video.streams[handle]?.bind fun stream =>
    (stream.point.next video.streamingFlag event).map fun point =>
      let video := match stream.point with
        | .created => video.setStreamingStopped false
        | .leaving => video.setStreamingStopped true
        | _ => video
      video.setStream handle { stream with point := point }

end Video

/-! ### The calls -/

/-- Where a call is in `video_start_streaming`. -/
inductive StartPoint where
  /-- Before the test of `streaming_thread`. -/
  | check
  /-- Before `malloc` and `set_streaming_flag(true)`. -/
  | flag
  /-- Before `pthread_create`. -/
  | create
  /-- Before `set_streaming_flag(false)`. -/
  | undo
  /-- Before the handle is stored. -/
  | store (handle : ℕ)
deriving DecidableEq, Repr

/-- Where a call is in `video_stop_streaming`. -/
inductive StopPoint where
  /-- Before the test of `streaming_thread`. -/
  | check
  /-- Before `set_streaming_flag(false)`. -/
  | flag
  /-- In `wait_for_streaming_stopped`. -/
  | wait (attempts : ℕ)
  /-- Before the pointer is dereferenced. -/
  | dereference
  /-- In `pthread_join`. -/
  | join (handle : ℕ)
  /-- Before `free`. -/
  | free
  /-- Before the pointer is set to `NULL`. -/
  | clear
deriving DecidableEq, Repr

inductive Command where
  | videoStartStreaming
  | videoStopStreaming
  /-- Also `video_set_quality_factor`, which sets the factor and restarts. -/
  | videoRestartStreaming
deriving DecidableEq, Repr

/-- Where a call is, and whether the start or the stop is part of a restart. -/
inductive Call where
  | idle
  | start (restart : Bool) (point : StartPoint)
  | stop (restart : Bool) (point : StopPoint)
  /-- In `video_get_streaming_status`, before `get_streaming_flag`. -/
  | statusFlag
  /-- In `video_get_streaming_status`, before `get_streaming_stopped`. -/
  | statusStopped
  /-- In `wait_for_streaming_stopped`, between the stop and the start of a restart. -/
  | restartWait (attempts : ℕ)
  /-- A pointer that is `NULL` or to a freed handle has been dereferenced. -/
  | crashed
deriving DecidableEq, Repr

def maxAttempts : ℕ :=
  30

namespace Call

/-- The beginning of a call. -/
def begin : Command → Call
  | .videoStartStreaming => start false .check
  | .videoStopStreaming => stop false .check
  | .videoRestartStreaming => statusFlag

/-- What is called, if anything is. -/
def command : Call → Option Command
  | start false _ => some .videoStartStreaming
  | stop false _ => some .videoStopStreaming
  | idle | crashed => none
  | _ => some .videoRestartStreaming

/-- What comes after a stop. -/
def afterStop (restart : Bool) : Call :=
  if restart then restartWait 0 else idle

/-- One step of `video_start_streaming`. What is asked of the system succeeds or not. -/
def execStart (video : Video) (restart succeeds : Bool) : StartPoint → Video × Call
  | .check => (video, if video.streamingThread.isNone then start restart .flag else idle)
  | .flag =>
      if succeeds then (video.setStreamingFlag true, start restart .create) else (video, idle)
  | .create =>
      if succeeds then
        ({ video with streams := video.streams ++ [{}] },
          start restart (.store video.streams.length))
      else (video, start restart .undo)
  | .undo => (video.setStreamingFlag false, idle)
  | .store handle => (video.setStreamingThread (some handle), idle)

/-- One step of `video_stop_streaming`. A thread is joined when it has ended. -/
def execStop (video : Video) (restart : Bool) : StopPoint → Option (Video × Call)
  | .check =>
      some (video, if video.streamingThread.isNone then afterStop restart else stop restart .flag)
  | .flag => some (video.setStreamingFlag false, stop restart (.wait 0))
  | .wait attempts =>
      some (video, if attempts < maxAttempts ∧ video.streamingStopped = false
        then stop restart (.wait (attempts + 1)) else stop restart .dereference)
  | .dereference =>
      some (video, match video.streamingThread with
        | some handle =>
            if (video.streams[handle]?.map Stream.freed) = some 0 then stop restart (.join handle)
            else crashed
        | none => crashed)
  | .join handle =>
      video.streams[handle]?.bind fun stream =>
        if stream.point = .ended then
          some (video.setStream handle { stream with joined := stream.joined + 1 },
            stop restart .free)
        else none
  | .free =>
      some (match video.streamingThread.bind fun handle =>
          video.streams[handle]?.map fun stream => (handle, stream) with
        | some (handle, stream) => video.setStream handle { stream with freed := stream.freed + 1 }
        | none => video, stop restart .clear)
  | .clear => some (video.setStreamingThread none, afterStop restart)

/-- One step of a call. -/
def exec (video : Video) (succeeds : Bool) : Call → Option (Video × Call)
  | start restart point => some (execStart video restart succeeds point)
  | stop restart point => execStop video restart point
  | statusFlag => some (video, if video.streamingFlag then stop true .check else statusStopped)
  | statusStopped => some (video, if video.streamingStopped then idle else stop true .check)
  | restartWait attempts =>
      some (video,
        if attempts < maxAttempts then
          if video.streamingStopped then start true .check else restartWait (attempts + 1)
        else idle)
  | idle | crashed => none

end Call

/-! ### The interleavings -/

/-- Who calls: Go, with `cgoLock` held, or the thread that detects the format. -/
inductive Party where
  | go
  | detectFormat
deriving DecidableEq, Repr

def Party.other : Party → Party
  | .go => .detectFormat
  | .detectFormat => .go

theorem Party.eq_or_eq_other (party party' : Party) :
  party' = party ∨ party' = party.other
  := by
  cases party <;> cases party' <;> decide

theorem Party.other_ne (party : Party) :
  party.other ≠ party
  := by
  cases party <;> decide

@[simp]
theorem Party.other_other (party : Party) :
  party.other.other = party
  := by
  cases party <;> rfl

/-- The thread that detects the format only restarts. -/
def Party.mayCall : Party → Command → Bool
  | .go, _ => true
  | .detectFormat, command => command = .videoRestartStreaming

structure Streaming where
  video : Video := {}
  calls : Party → Call := fun _ => .idle

inductive StreamingAction where
  | begins (party : Party) (command : Command)
  | call (party : Party) (succeeds : Bool)
  | stream (handle : ℕ) (event : StreamEvent)
deriving DecidableEq, Repr

namespace Streaming

def step (c : Streaming) : StreamingAction → Option Streaming
  | .begins party command =>
      if c.calls party = .idle ∧ party.mayCall command = true then
        some { c with calls := Function.update c.calls party (.begin command) }
      else none
  | .call party succeeds =>
      ((c.calls party).exec c.video succeeds).map fun next =>
        ⟨next.1, Function.update c.calls party next.2⟩
  | .stream handle event =>
      (c.video.execStream handle event).map fun video => { c with video := video }

def lts : Lts Streaming StreamingAction :=
  Lts.ofStep step

end Streaming

end JetKvm.Native
