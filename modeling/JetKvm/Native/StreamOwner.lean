import JetKvm.Native.VideoStream

/-!
# The owner of the streaming thread

As long as no call goes past its first reads while another one is past them, only one call at a time
is about to make, join or free a streaming thread, and finds the variables as it relies on.
-/

namespace JetKvm.Native

/-! ### The calls that own the thread -/

/-- The call is past its first reads, and will change the variables. -/
def Call.engaged : Call → Bool
  | idle | start false .check | stop false .check | statusFlag | statusStopped => false
  | _ => true

/-- The next step of the call takes it past its first reads, or finds that there is nothing to
stop. -/
def Call.engages (video : Video) : Call → Bool
  | start false .check => video.streamingThread.isNone
  | stop false .check => true
  | statusFlag => video.streamingFlag
  | statusStopped => !video.streamingStopped
  | _ => false

/-- No call goes past its first reads while another one is past them. -/
def Exclusive (c : Streaming) : StreamingAction → Prop
  | .call party _ => (c.calls party).engages c.video = true →
      (c.calls party.other).engaged = false
  | _ => True

instance (c : Streaming) (a : StreamingAction) : Decidable (Exclusive c a) :=
  match a with
  | .begins _ _ => inferInstanceAs (Decidable True)
  | .call _ _ => inferInstanceAs (Decidable (_ → _))
  | .stream _ _ => inferInstanceAs (Decidable True)

/-- A thread that has ended and has been joined, and whose handle has been freed. -/
def finished : Stream where
  point := .ended
  joined := 1
  freed := 1

/-- The thread has not been joined, and its handle not been freed. -/
def Stream.Fresh (stream : Stream) : Prop :=
  stream.joined = 0 ∧ stream.freed = 0

namespace Video

/-- All threads are finished. -/
def Quiet (video : Video) : Prop :=
  ∀ stream ∈ video.streams, stream = finished

/-- All threads but one are finished. -/
def Owns (video : Video) (handle : ℕ) (stream : Stream) : Prop :=
  video.streams[handle]? = some stream ∧
    ∀ other stream', other ≠ handle → video.streams[other]? = some stream' → stream' = finished

/-- There is no thread, and the stream is off. -/
def Off (video : Video) : Prop :=
  video.streamingThread = none ∧ video.streamingFlag = false ∧ video.Quiet

/-- There is one thread that is not finished. -/
def Running (video : Video) (streamingFlag : Bool) (handle : ℕ) (stream : Stream) : Prop :=
  video.streamingThread = some handle ∧ video.streamingFlag = streamingFlag ∧
    video.Owns handle stream

/-- The variables fit together when no call is past its first reads. -/
def Resting (video : Video) : Prop :=
  video.Off ∨ ∃ handle stream, video.Running true handle stream ∧ stream.Fresh

end Video

/-- What a start relies on. A restart does not look at the variables again. -/
def StartPoint.Suits (video : Video) (restart : Bool) : StartPoint → Prop
  | .check => if restart then video.Off else video.Resting
  | .flag => video.Off
  | .create => video.streamingThread = none ∧ video.streamingFlag = true ∧ video.Quiet
  | .undo => video.streamingThread = none ∧ video.Quiet
  | .store handle => video.streamingThread = none ∧ video.streamingFlag = true ∧
      ∃ stream, video.Owns handle stream ∧ stream.Fresh

/-- What a stop relies on. -/
def StopPoint.Suits (video : Video) : StopPoint → Prop
  | .check => video.Resting
  | .flag => ∃ handle stream, video.Running true handle stream ∧ stream.Fresh
  | .wait _ | .dereference => ∃ handle stream, video.Running false handle stream ∧ stream.Fresh
  | .join handle => ∃ stream, video.Running false handle stream ∧ stream.Fresh
  | .free => ∃ handle, video.Running false handle ⟨.ended, 1, 0⟩
  | .clear => ∃ handle, video.Running false handle finished

/-- The variables fit together when no call but this one is past its first reads. -/
def Call.Suits (video : Video) : Call → Prop
  | start restart point => point.Suits video restart
  | stop _ point => point.Suits video
  | restartWait _ => video.Off
  | crashed => False
  | idle | statusFlag | statusStopped => video.Resting

variable {video video' : Video} {handle : ℕ} {stream stream' : Stream} {call call' : Call}

/-! ### The threads -/

theorem Video.Owns.setStream (h : video.Owns handle stream) :
  (video.setStream handle stream').Owns handle stream'
  := by
  obtain ⟨hstream, hrest⟩ := h
  obtain ⟨hlt, -⟩ := List.getElem?_eq_some_iff.mp hstream
  constructor
  · exact List.getElem?_set_self hlt
  · intro other stream'' hne hother
    apply hrest other stream'' hne
    rw [← hother]
    exact (List.getElem?_set_ne hne.symm).symm

theorem Video.Owns.quiet (h : video.Owns handle finished) :
  video.Quiet
  := by
  intro stream hstream
  obtain ⟨other, hother⟩ := List.mem_iff_getElem?.mp hstream
  by_cases hsame : other = handle
  · rw [hsame, h.1] at hother
    exact (Option.some.inj hother).symm
  · exact h.2 other stream hsame hother

/-- A new thread is the only one that is not finished. -/
theorem Video.Quiet.owns_append (h : video.Quiet) :
  Owns { video with streams := video.streams ++ [stream] } video.streams.length stream
  := by
  constructor
  · simp
  · intro other stream' hne hother
    have hmem := List.mem_of_getElem? hother
    obtain hmem | hmem := List.mem_append.mp hmem
    · exact h stream' hmem
    · have hlt := (List.getElem?_eq_some_iff.mp hother).1
      simp only [List.length_append, List.length_singleton] at hlt
      rw [List.getElem?_append_left (by omega)] at hother
      exact h stream' (List.mem_of_getElem? hother)

/-- A finished thread does not do anything. -/
theorem Video.Quiet.execStream_eq (h : video.Quiet) (event : StreamEvent) :
  video.execStream handle event = none
  := by
  rw [execStream]
  cases hstream : video.streams[handle]? with
  | none => rfl
  | some stream =>
      rw [h stream (List.mem_of_getElem? hstream)]
      rfl

/-- The place of a thread changes in one step. -/
theorem Video.execStream_eq {event : StreamEvent}
    (hexec : video.execStream handle event = some video') :
  ∃ stream point, video.streams[handle]? = some stream ∧
    stream.point.next video.streamingFlag event = some point ∧
    video'.streams = video.streams.set handle { stream with point := point } ∧
    video'.streamingFlag = video.streamingFlag ∧
    video'.streamingThread = video.streamingThread ∧
    (stream.point ≠ .created → stream.point ≠ .leaving →
      video'.streamingStopped = video.streamingStopped) ∧
    (stream.point = .leaving → video'.streamingStopped = true)
  := by
  rw [execStream] at hexec
  obtain ⟨stream, hstream, hexec⟩ := Option.bind_eq_some_iff.mp hexec
  obtain ⟨point, hpoint, rfl⟩ := Option.map_eq_some_iff.mp hexec
  use stream, point, hstream, hpoint
  cases hat : stream.point with
  | created => exact ⟨rfl, rfl, rfl, fun h => absurd rfl h, fun h => by cases h⟩
  | leaving => exact ⟨rfl, rfl, rfl, fun _ h => absurd rfl h, fun _ => rfl⟩
  | outer => exact ⟨rfl, rfl, rfl, fun _ _ => rfl, fun h => by cases h⟩
  | preparing => exact ⟨rfl, rfl, rfl, fun _ _ => rfl, fun h => by cases h⟩
  | inner => exact ⟨rfl, rfl, rfl, fun _ _ => rfl, fun h => by cases h⟩
  | cleanup => exact ⟨rfl, rfl, rfl, fun _ _ => rfl, fun h => by cases h⟩
  | ended => exact ⟨rfl, rfl, rfl, fun _ _ => rfl, fun h => by cases h⟩

/-- A step of a thread that is not finished. -/
theorem Video.Owns.execStream (h : video.Owns handle stream) {other : ℕ} {event : StreamEvent}
    (hexec : video.execStream other event = some video') :
  ∃ point, stream.point.next video.streamingFlag event = some point ∧
    video'.Owns handle { stream with point := point } ∧
    video'.streamingThread = video.streamingThread ∧ video'.streamingFlag = video.streamingFlag
  := by
  obtain ⟨stepped, point, hstepped, hpoint, hstreams, hflag, hthread, -⟩ := execStream_eq hexec
  by_cases hsame : other = handle
  · subst hsame
    rw [h.1] at hstepped
    obtain rfl := Option.some.inj hstepped
    refine ⟨point, hpoint, ?_, hthread, hflag⟩
    rw [Owns, hstreams]
    exact h.setStream
  · rw [h.2 other stepped hsame hstepped] at hpoint
    cases hpoint

/-- A step of a thread keeps what a call relies on. -/
theorem Call.Suits.execStream {event : StreamEvent} (h : call.Suits video)
    (hexec : video.execStream handle event = some video') :
  call.Suits video'
  := by
  have hquiet : ¬ video.Quiet := by
    intro hquiet
    rw [hquiet.execStream_eq] at hexec
    cases hexec
  have hrunning : ∀ {flag owner stream}, video.Running flag owner stream →
      ∃ point, stream.point.next flag event = some point ∧
        video'.Running flag owner { stream with point := point } := by
    rintro flag owner stream ⟨hthread, rfl, howns⟩
    obtain ⟨point, hpoint, howns', hthread', hflag'⟩ := howns.execStream hexec
    exact ⟨point, hpoint, hthread'.trans hthread, hflag', howns'⟩
  have hfresh : ∀ {flag owner stream}, video.Running flag owner stream → stream.Fresh →
      ∃ stream', video'.Running flag owner stream' ∧ stream'.Fresh := by
    intro flag owner stream hrun hnew
    obtain ⟨point, -, hrun'⟩ := hrunning hrun
    exact ⟨_, hrun', hnew⟩
  have hresting : video.Resting → video'.Resting := by
    rintro (hoff | ⟨owner, stream, hrun, hnew⟩)
    · exact absurd hoff.2.2 hquiet
    · obtain ⟨stream', hrun', hnew'⟩ := hfresh hrun hnew
      exact Or.inr ⟨owner, stream', hrun', hnew'⟩
  cases call with
  | idle => exact hresting h
  | statusFlag => exact hresting h
  | statusStopped => exact hresting h
  | restartWait attempts => exact absurd h.2.2 hquiet
  | crashed => exact h
  | start restart point =>
      cases point with
      | check =>
          cases restart with
          | false => exact hresting h
          | true => exact absurd h.2.2 hquiet
      | flag => exact absurd h.2.2 hquiet
      | create => exact absurd h.2.2 hquiet
      | undo => exact absurd h.2 hquiet
      | store owner =>
          obtain ⟨hthread, hflag, stream, howns, hnew⟩ := h
          obtain ⟨point, -, howns', hthread', hflag'⟩ := howns.execStream hexec
          exact ⟨hthread'.trans hthread, hflag'.trans hflag, _, howns', hnew⟩
  | stop restart point =>
      cases point with
      | check => exact hresting h
      | flag =>
          obtain ⟨owner, stream, hrun, hnew⟩ := h
          obtain ⟨stream', hrun', hnew'⟩ := hfresh hrun hnew
          exact ⟨owner, stream', hrun', hnew'⟩
      | wait attempts =>
          obtain ⟨owner, stream, hrun, hnew⟩ := h
          obtain ⟨stream', hrun', hnew'⟩ := hfresh hrun hnew
          exact ⟨owner, stream', hrun', hnew'⟩
      | dereference =>
          obtain ⟨owner, stream, hrun, hnew⟩ := h
          obtain ⟨stream', hrun', hnew'⟩ := hfresh hrun hnew
          exact ⟨owner, stream', hrun', hnew'⟩
      | join owner =>
          obtain ⟨stream, hrun, hnew⟩ := h
          exact hfresh hrun hnew
      | free =>
          obtain ⟨owner, hrun⟩ := h
          obtain ⟨point, hpoint, -⟩ := hrunning hrun
          cases hpoint
      | clear =>
          obtain ⟨owner, hrun⟩ := h
          obtain ⟨point, hpoint, -⟩ := hrunning hrun
          cases hpoint

/-! ### The calls -/

theorem Video.Resting.off (h : video.Resting) (hthread : video.streamingThread = none) :
  video.Off
  := by
  obtain hoff | ⟨handle, stream, ⟨hsome, -⟩, -⟩ := h
  · exact hoff
  · rw [hthread] at hsome
    cases hsome

theorem Video.Resting.running (h : video.Resting) (hthread : video.streamingThread ≠ none) :
  ∃ handle stream, video.Running true handle stream ∧ stream.Fresh
  := h.resolve_left fun hoff => hthread hoff.1

variable {restart succeeds : Bool}

theorem Call.suits_afterStop (h : video.Off) :
  (Call.afterStop restart).Suits video
  := by
  cases restart with
  | false => exact Or.inl h
  | true => exact h

/-- A step of a start keeps what it relies on. -/
theorem StartPoint.Suits.exec {point : StartPoint} (h : point.Suits video restart)
    (hexec : Call.execStart video restart succeeds point = (video', call')) :
  call'.Suits video'
  := by
  cases point with
  | check =>
      obtain ⟨rfl, rfl⟩ := Prod.mk.inj hexec
      have hresting : video.Resting := by
        cases restart with
        | false => exact h
        | true => exact Or.inl h
      split
      · rename_i hnone
        exact hresting.off (Option.isNone_iff_eq_none.mp hnone)
      · exact hresting
  | flag =>
      rw [Call.execStart] at hexec
      split at hexec
      · obtain ⟨rfl, rfl⟩ := Prod.mk.inj hexec
        exact ⟨h.1, rfl, h.2.2⟩
      · obtain ⟨rfl, rfl⟩ := Prod.mk.inj hexec
        exact Or.inl h
  | create =>
      rw [Call.execStart] at hexec
      split at hexec
      · obtain ⟨rfl, rfl⟩ := Prod.mk.inj hexec
        exact ⟨h.1, h.2.1, {}, h.2.2.owns_append, rfl, rfl⟩
      · obtain ⟨rfl, rfl⟩ := Prod.mk.inj hexec
        exact ⟨h.1, h.2.2⟩
  | undo =>
      obtain ⟨rfl, rfl⟩ := Prod.mk.inj hexec
      exact Or.inl ⟨h.1, rfl, h.2⟩
  | store handle =>
      obtain ⟨rfl, rfl⟩ := Prod.mk.inj hexec
      obtain ⟨-, hflag, stream, howns, hfresh⟩ := h
      exact Or.inr ⟨handle, stream, ⟨rfl, hflag, howns⟩, hfresh⟩

/-- A step of a stop keeps what it relies on. -/
theorem StopPoint.Suits.exec {point : StopPoint} (h : point.Suits video)
    (hexec : Call.execStop video restart point = some (video', call')) :
  call'.Suits video'
  := by
  cases point with
  | check =>
      obtain ⟨rfl, rfl⟩ := Prod.mk.inj (Option.some.inj hexec)
      split
      · rename_i hnone
        exact Call.suits_afterStop (h.off (Option.isNone_iff_eq_none.mp hnone))
      · rename_i hsome
        exact h.running fun hnone => hsome (Option.isNone_iff_eq_none.mpr hnone)
  | flag =>
      obtain ⟨rfl, rfl⟩ := Prod.mk.inj (Option.some.inj hexec)
      obtain ⟨handle, stream, ⟨hthread, -, howns⟩, hfresh⟩ := h
      exact ⟨handle, stream, ⟨hthread, rfl, howns⟩, hfresh⟩
  | wait attempts =>
      obtain ⟨rfl, rfl⟩ := Prod.mk.inj (Option.some.inj hexec)
      split
      · exact h
      · exact h
  | dereference =>
      obtain ⟨rfl, rfl⟩ := Prod.mk.inj (Option.some.inj hexec)
      obtain ⟨handle, stream, hrun, hfresh⟩ := h
      rw [hrun.1]
      dsimp only
      rw [hrun.2.2.1, Option.map_some, hfresh.2, if_pos rfl]
      exact ⟨stream, hrun, hfresh⟩
  | join handle =>
      obtain ⟨stream, ⟨hthread, hflag, howns⟩, hjoined, hfreed⟩ := h
      rw [Call.execStop, howns.1, Option.bind_some] at hexec
      split at hexec
      · rename_i hended
        obtain ⟨rfl, rfl⟩ := Prod.mk.inj (Option.some.inj hexec)
        have hstream : (⟨stream.point, stream.joined + 1, stream.freed⟩ : Stream) =
            ⟨.ended, 1, 0⟩ := by
          rw [hended, hjoined, hfreed]
        rw [hstream]
        exact ⟨handle, hthread, hflag, howns.setStream⟩
      · cases hexec
  | free =>
      obtain ⟨rfl, rfl⟩ := Prod.mk.inj (Option.some.inj hexec)
      obtain ⟨handle, hthread, hflag, howns⟩ := h
      rw [hthread, Option.bind_some, howns.1, Option.map_some]
      exact ⟨handle, hthread, hflag, howns.setStream⟩
  | clear =>
      obtain ⟨rfl, rfl⟩ := Prod.mk.inj (Option.some.inj hexec)
      obtain ⟨handle, -, hflag, howns⟩ := h
      exact Call.suits_afterStop ⟨rfl, hflag, howns.quiet⟩

/-- A step of a call keeps what it relies on. -/
theorem Call.Suits.exec (h : call.Suits video)
    (hexec : call.exec video succeeds = some (video', call')) :
  call'.Suits video'
  := by
  cases call with
  | idle => cases hexec
  | crashed => cases hexec
  | start restart point => exact StartPoint.Suits.exec h (Option.some.inj hexec)
  | stop restart point => exact StopPoint.Suits.exec h hexec
  | statusFlag =>
      obtain ⟨rfl, rfl⟩ := Prod.mk.inj (Option.some.inj hexec)
      split
      · exact h
      · exact h
  | statusStopped =>
      obtain ⟨rfl, rfl⟩ := Prod.mk.inj (Option.some.inj hexec)
      split
      · exact h
      · exact h
  | restartWait attempts =>
      obtain ⟨rfl, rfl⟩ := Prod.mk.inj (Option.some.inj hexec)
      split
      · split
        · exact h
        · exact h
      · exact Or.inl h

theorem Call.cases_of_not_engaged (h : call.engaged = false) :
  call = idle ∨ call = start false .check ∨ call = stop false .check ∨ call = statusFlag ∨
    call = statusStopped
  := by
  unfold engaged at h
  split at h
  · simp
  · simp
  · simp
  · simp
  · simp
  · cases h

/-- Calls that are not past their first reads rely on the same. -/
theorem Call.suits_iff_resting (h : call.engaged = false) :
  call.Suits video ↔ video.Resting
  := by
  obtain rfl | rfl | rfl | rfl | rfl := cases_of_not_engaged h
  · rfl
  · rfl
  · rfl
  · rfl
  · rfl

/-- A call that is not past its first reads leaves the variables alone, and goes past them only if
its next step is said to. -/
theorem Call.exec_of_not_engaged (h : call.engaged = false)
    (hexec : call.exec video succeeds = some (video', call')) :
  video' = video ∧ (call.engages video = false → call'.engaged = false)
  := by
  obtain rfl | rfl | rfl | rfl | rfl := cases_of_not_engaged h
  · cases hexec
  · obtain ⟨rfl, rfl⟩ := Prod.mk.inj (Option.some.inj hexec)
    use rfl
    intro hquiet
    rw [engages] at hquiet
    rw [hquiet]
    rfl
  · obtain ⟨rfl, rfl⟩ := Prod.mk.inj (Option.some.inj hexec)
    use rfl
    intro hquiet
    cases hquiet
  · obtain ⟨rfl, rfl⟩ := Prod.mk.inj (Option.some.inj hexec)
    use rfl
    intro hquiet
    rw [engages] at hquiet
    rw [hquiet]
    rfl
  · obtain ⟨rfl, rfl⟩ := Prod.mk.inj (Option.some.inj hexec)
    use rfl
    intro hquiet
    rw [engages, Bool.not_eq_false'] at hquiet
    rw [hquiet]
    rfl

/-! ### One call at a time owns the thread -/

/-- At most one call is past its first reads, and the variables are as it relies on. -/
def Sound (c : Streaming) : Prop :=
  ∃ party, (c.calls party.other).engaged = false ∧ (c.calls party).Suits c.video

variable {c c' : Streaming} {a : StreamingAction} {party : Party}

theorem sound_init : Sound {}
  := by
  use .go, rfl
  exact Or.inl ⟨rfl, rfl, nofun⟩

/-- When neither call is past its first reads, either may be said to own the thread. -/
theorem Sound.resting (h : Sound c) (hquiet : ∀ party, (c.calls party).engaged = false) :
  c.video.Resting
  := by
  obtain ⟨party, -, hsuits⟩ := h
  exact (Call.suits_iff_resting (hquiet party)).mp hsuits

/-- A step in which no call overtakes another keeps the variables sound. -/
theorem Sound.step (h : Sound c) (exclusive : Exclusive c a) (step : Streaming.lts.step c a c') :
  Sound c'
  := by
  obtain ⟨party, hother, hsuits⟩ := h
  cases a with
  | begins caller command =>
      obtain ⟨⟨hidle, -⟩, hstep⟩ := Option.ite_none_right_eq_some.mp step
      obtain rfl := Option.some.inj hstep
      have hbegin : (Call.begin command).engaged = false := by
        cases command <;> rfl
      have hrest : (Call.idle).engaged = false := rfl
      rw [← hidle] at hrest
      obtain rfl | rfl := party.eq_or_eq_other caller
      · refine ⟨caller, ?_, ?_⟩
        · dsimp only
          rw [Function.update_of_ne caller.other_ne]
          exact hother
        · dsimp only
          rw [Function.update_self, Call.suits_iff_resting hbegin]
          exact (Call.suits_iff_resting hrest).mp hsuits
      · refine ⟨party, ?_, ?_⟩
        · dsimp only
          rw [Function.update_self]
          exact hbegin
        · dsimp only
          rw [Function.update_of_ne party.other_ne.symm]
          exact hsuits
  | call caller succeeds =>
      obtain ⟨⟨video', call'⟩, hexec, rfl⟩ := Option.map_eq_some_iff.mp step
      obtain rfl | rfl := party.eq_or_eq_other caller
      · refine ⟨caller, ?_, ?_⟩
        · dsimp only
          rw [Function.update_of_ne caller.other_ne]
          exact hother
        · dsimp only
          rw [Function.update_self]
          exact hsuits.exec hexec
      · obtain ⟨rfl, hquiet⟩ := Call.exec_of_not_engaged hother hexec
        cases hengages : (c.calls party.other).engages c.video with
        | false =>
            refine ⟨party, ?_, ?_⟩
            · dsimp only
              rw [Function.update_self]
              exact hquiet hengages
            · dsimp only
              rw [Function.update_of_ne party.other_ne.symm]
              exact hsuits
        | true =>
            have hparty : (c.calls party).engaged = false := by
              have hfree := exclusive hengages
              rw [Party.other_other] at hfree
              exact hfree
            have hresting := (Call.suits_iff_resting hparty).mp hsuits
            refine ⟨party.other, ?_, ?_⟩
            · dsimp only
              rw [Party.other_other, Function.update_of_ne party.other_ne.symm]
              exact hparty
            · dsimp only
              rw [Function.update_self]
              exact Call.Suits.exec ((Call.suits_iff_resting hother).mpr hresting) hexec
  | stream handle event =>
      obtain ⟨video', hexec, rfl⟩ := Option.map_eq_some_iff.mp step
      exact ⟨party, hother, hsuits.execStream hexec⟩

end JetKvm.Native
