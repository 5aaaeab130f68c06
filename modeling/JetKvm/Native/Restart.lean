import JetKvm.Native.StopWins

/-!
# Restarts of the video stream

The calls are made one at a time. As long as no streaming thread returns early, a stop leaves the
stream stopped in all three variables, and once the stream has been started again a restart leaves
a thread that goes on, if the threads for these could be made. A thread that returns early is never
said to have stopped, and a restart then waits in vain.
-/

namespace JetKvm.Native

/-- A call begins only when no call is in progress. -/
def Sequential (c : Streaming) : StreamingAction → Prop
  | .begins party _ => c.calls party.other = .idle
  | _ => True

instance (c : Streaming) (a : StreamingAction) : Decidable (Sequential c a) :=
  match a with
  | .begins _ _ => inferInstanceAs (Decidable (_ = _))
  | .call _ _ => inferInstanceAs (Decidable True)
  | .stream _ _ => inferInstanceAs (Decidable True)

/-- No streaming thread returns early. -/
def Regular : StreamingAction → Prop
  | .begins _ _ | .call _ _ => True
  | .stream _ event => event.isReturn = false

instance (a : StreamingAction) : Decidable (Regular a) :=
  match a with
  | .begins _ _ => inferInstanceAs (Decidable True)
  | .call _ _ => inferInstanceAs (Decidable True)
  | .stream _ _ => inferInstanceAs (Decidable (_ = _))

/-- A start, which may be part of a restart, returns since `malloc` or `pthread_create` has
failed. -/
def FailsToStart (e : Lts.Transition Streaming StreamingAction) : Prop :=
  ∃ party restart, (e.before.calls party = .start restart .flag ∨
    e.before.calls party = .start restart .undo) ∧ e.after.calls party = .idle

/-- The stream has a thread that goes on. -/
def Video.Live (video : Video) : Prop :=
  ∃ handle stream, video.streamingThread = some handle ∧ video.streams[handle]? = some stream ∧
    stream.point ≠ .ended

/-- The stream is said to have stopped unless a thread is between the two places where that is
said, and no thread ends while the stream is on. -/
structure Video.Orderly (video : Video) : Prop where
  stopped : video.streamingStopped = true ∨ ∃ stream ∈ video.streams,
    stream.point ∈ [.outer, .preparing, .inner, .cleanup, .leaving]
  running : video.streamingFlag = true → ∀ stream ∈ video.streams, stream.point ≠ .leaving ∧
    (stream.point = .ended → stream.joined ≠ 0)

variable {video video' : Video} {handle : ℕ} {stream stream' : Stream} {call call' : Call}
  {restart : Bool} {c c' : Streaming} {a : StreamingAction} {party : Party}

/-! ### The threads -/

theorem Video.Orderly.stopped_of_quiet (h : video.Orderly) (hquiet : video.Quiet) :
  video.streamingStopped = true
  := by
  obtain hstopped | ⟨stream, hstream, hpoint⟩ := h.stopped
  · exact hstopped
  · rw [hquiet stream hstream] at hpoint
    simp [finished] at hpoint

/-- A thread that is joined or whose handle is freed is where it was. -/
theorem Video.Orderly.setStream (h : video.Orderly) (hstream : video.streams[handle]? = some stream)
    (hpoint : stream'.point = stream.point) (hjoined : stream.joined ≤ stream'.joined) :
  (video.setStream handle stream').Orderly
  := by
  obtain ⟨hlt, hat⟩ := List.getElem?_eq_some_iff.mp hstream
  have hmem : stream ∈ video.streams := List.mem_of_getElem? hstream
  constructor
  · obtain hstopped | ⟨other, hother, hplace⟩ := h.stopped
    · exact Or.inl hstopped
    · right
      by_cases hsame : other = stream
      · use stream'
        rw [hpoint, ← hsame]
        exact ⟨List.mem_set hlt stream', hplace⟩
      · use other
        refine ⟨?_, hplace⟩
        obtain ⟨place, hat'⟩ := List.mem_iff_getElem?.mp hother
        apply List.mem_of_getElem? (i := place)
        rw [Video.setStream]
        dsimp only
        rw [List.getElem?_set_ne]
        · exact hat'
        · rintro rfl
          rw [hstream] at hat'
          exact hsame (Option.some.inj hat').symm
  · intro hflag other hother
    obtain hother | rfl := List.mem_or_eq_of_mem_set hother
    · exact h.running hflag other hother
    · obtain ⟨hleaving, hended⟩ := h.running hflag stream hmem
      rw [hpoint]
      refine ⟨hleaving, fun hpoint => ?_⟩
      exact Nat.ne_of_gt (Nat.lt_of_lt_of_le (Nat.pos_of_ne_zero (hended hpoint)) hjoined)

/-- A thread that does not return early goes from place to place. -/
theorem StreamPoint.next_cases {streamingFlag : Bool} {point point' : StreamPoint}
    {event : StreamEvent} (regular : event.isReturn = false)
    (h : point.next streamingFlag event = some point') :
  (point = .created ∧ point' = .outer ∨ point = .leaving ∧ point' = .ended ∨
    point ∈ [.outer, .preparing, .inner, .cleanup] ∧
      point' ∈ [.outer, .preparing, .inner, .cleanup, .leaving]) ∧
    (streamingFlag = true → point' = .leaving ∨ point' = .ended → point = .leaving)
  := by
  unfold StreamPoint.next at h
  split at h
  · obtain rfl := Option.some.inj h
    exact ⟨by simp, by simp⟩
  · obtain rfl := Option.some.inj h
    cases streamingFlag with
    | false => exact ⟨by simp, by simp⟩
    | true => exact ⟨by simp, by simp⟩
  · obtain rfl := Option.some.inj h
    exact ⟨by simp, by simp⟩
  · obtain rfl := Option.some.inj h
    exact ⟨by simp, by simp⟩
  · cases regular
  · obtain rfl := Option.some.inj h
    exact ⟨by simp, by simp⟩
  · obtain rfl := Option.some.inj h
    cases streamingFlag with
    | false => exact ⟨by simp, by simp⟩
    | true => exact ⟨by simp, by simp⟩
  · obtain ⟨-, h⟩ := Option.ite_none_right_eq_some.mp h
    obtain rfl := Option.some.inj h
    exact ⟨by simp, by simp⟩
  · obtain rfl := Option.some.inj h
    exact ⟨by simp, by simp⟩
  · obtain rfl := Option.some.inj h
    exact ⟨by simp, by simp⟩
  · cases h

theorem Video.Orderly.execStream (h : video.Orderly) {event : StreamEvent}
    (regular : event.isReturn = false)
    (hexec : video.execStream handle event = some video') :
  video'.Orderly
  := by
  obtain ⟨stream, point, hstream, hnext, hstreams, hflag, -, hsame, hleft⟩ := execStream_eq hexec
  obtain ⟨hlt, -⟩ := List.getElem?_eq_some_iff.mp hstream
  have hmem : stream ∈ video.streams := List.mem_of_getElem? hstream
  obtain ⟨hplaces, hruns⟩ := StreamPoint.next_cases regular hnext
  constructor
  · have hinside : point ∈ [.outer, .preparing, .inner, .cleanup, .leaving] →
        ∃ stream ∈ video'.streams,
          stream.point ∈ [.outer, .preparing, .inner, .cleanup, .leaving] := by
      intro hpoint
      rw [hstreams]
      exact ⟨_, List.mem_set hlt _, hpoint⟩
    obtain ⟨-, rfl⟩ | ⟨hleaving, -⟩ | ⟨-, hpoint⟩ := hplaces
    · exact Or.inr (hinside (by simp))
    · exact Or.inl (hleft hleaving)
    · exact Or.inr (hinside hpoint)
  · intro hon other hother
    rw [hflag] at hon
    rw [hstreams] at hother
    obtain hother | rfl := List.mem_or_eq_of_mem_set hother
    · exact h.running hon other hother
    · have hat := (h.running hon stream hmem).1
      constructor
      · intro hleaving
        exact hat (hruns hon (Or.inl hleaving))
      · intro hended
        exact absurd (hruns hon (Or.inr hended)) hat

/-! ### The calls -/

theorem Video.Orderly.execStart (h : video.Orderly) {point : StartPoint} {succeeds : Bool}
    (hsuits : point.Suits video restart)
    (hexec : Call.execStart video restart succeeds point = (video', call')) :
  video'.Orderly
  := by
  have hvideo := (Prod.mk.inj hexec).1
  subst hvideo
  cases point with
  | check => exact h
  | flag =>
      cases succeeds with
      | false => exact h
      | true =>
          refine ⟨h.stopped, fun _ stream hstream => ?_⟩
          rw [hsuits.2.2 stream hstream]
          exact ⟨nofun, fun _ => Nat.one_ne_zero⟩
  | create =>
      cases succeeds with
      | false => exact h
      | true =>
          constructor
          · obtain hstopped | ⟨stream, hstream, hpoint⟩ := h.stopped
            · exact Or.inl hstopped
            · exact Or.inr ⟨stream, List.mem_append_left _ hstream, hpoint⟩
          · intro hflag stream hstream
            obtain hstream | hstream := List.mem_append.mp hstream
            · exact h.running hflag stream hstream
            · rw [List.mem_singleton.mp hstream]
              exact ⟨nofun, nofun⟩
  | undo => exact ⟨h.stopped, nofun⟩
  | store handle => exact ⟨h.stopped, h.running⟩

theorem Video.Orderly.execStop (h : video.Orderly) {point : StopPoint}
    (hexec : Call.execStop video restart point = some (video', call')) :
  video'.Orderly
  := by
  cases point with
  | check =>
      obtain ⟨rfl, -⟩ := Prod.mk.inj (Option.some.inj hexec)
      exact h
  | flag =>
      obtain ⟨rfl, -⟩ := Prod.mk.inj (Option.some.inj hexec)
      exact ⟨h.stopped, nofun⟩
  | wait attempts =>
      obtain ⟨rfl, -⟩ := Prod.mk.inj (Option.some.inj hexec)
      exact h
  | dereference =>
      obtain ⟨rfl, -⟩ := Prod.mk.inj (Option.some.inj hexec)
      exact h
  | join handle =>
      obtain ⟨stream, hstream, hexec⟩ := Option.bind_eq_some_iff.mp hexec
      obtain ⟨-, hexec⟩ := Option.ite_none_right_eq_some.mp hexec
      obtain ⟨rfl, -⟩ := Prod.mk.inj (Option.some.inj hexec)
      exact h.setStream hstream rfl (Nat.le_succ _)
  | free =>
      obtain ⟨rfl, -⟩ := Prod.mk.inj (Option.some.inj hexec)
      split
      · rename_i handle stream hfound
        obtain ⟨handle', -, hfound⟩ := Option.bind_eq_some_iff.mp hfound
        obtain ⟨stream', hstream, hsame⟩ := Option.map_eq_some_iff.mp hfound
        obtain ⟨rfl, rfl⟩ := Prod.mk.inj hsame
        exact h.setStream hstream rfl (Nat.le_refl _)
      · exact h
  | clear =>
      obtain ⟨rfl, -⟩ := Prod.mk.inj (Option.some.inj hexec)
      exact ⟨h.stopped, h.running⟩

theorem Video.Orderly.exec (h : video.Orderly) {succeeds : Bool} (hsuits : call.Suits video)
    (hexec : call.exec video succeeds = some (video', call')) :
  video'.Orderly
  := by
  cases call with
  | idle => cases hexec
  | crashed => cases hexec
  | start restart point => exact h.execStart hsuits (Option.some.inj hexec)
  | stop restart point => exact h.execStop hexec
  | statusFlag =>
      obtain ⟨rfl, -⟩ := Prod.mk.inj (Option.some.inj hexec)
      exact h
  | statusStopped =>
      obtain ⟨rfl, -⟩ := Prod.mk.inj (Option.some.inj hexec)
      exact h
  | restartWait attempts =>
      obtain ⟨rfl, -⟩ := Prod.mk.inj (Option.some.inj hexec)
      exact h

/-! ### One call after the other -/

/-- At most one call is in progress and finds the variables as it relies on. -/
structure Orderly (c : Streaming) (party : Party) : Prop where
  alone : c.calls party.other = .idle
  suits : (c.calls party).Suits c.video
  orderly : c.video.Orderly

theorem orderly_init : Orderly {} .go
  := ⟨rfl, Or.inl ⟨rfl, rfl, nofun⟩, ⟨Or.inl rfl, nofun⟩⟩

/-- When no call is in progress, either party may be said to make one. -/
theorem Orderly.of_idle (h : Orderly c party) (hidle : c.calls party = .idle) (party' : Party) :
  Orderly c party'
  := by
  obtain rfl | rfl := party.eq_or_eq_other party'
  · exact h
  · refine ⟨?_, ?_, h.orderly⟩
    · rw [Party.other_other]
      exact hidle
    · have hsuits := h.suits
      rw [hidle] at hsuits
      rw [h.alone]
      exact hsuits

/-- The party that takes a step is the one that makes a call. -/
theorem Orderly.party_eq (h : Orderly c party) {caller : Party} (hcall : c.calls caller ≠ .idle) :
  caller = party
  := by
  obtain rfl | rfl := party.eq_or_eq_other caller
  · rfl
  · exact absurd h.alone hcall

/-- A step of a call that is the only one. -/
theorem Orderly.exec {caller : Party} {succeeds : Bool} (h : Orderly c caller)
    (hexec : (c.calls caller).exec c.video succeeds = some (video', call')) :
  Orderly ⟨video', Function.update c.calls caller call'⟩ caller
  := by
  constructor
  · dsimp only
    rw [Function.update_of_ne caller.other_ne]
    exact h.alone
  · dsimp only
    rw [Function.update_self]
    exact h.suits.exec hexec
  · exact h.orderly.exec h.suits hexec

/-- The call that a step begins is the only one. -/
theorem Orderly.begins {caller : Party} {command : Command} (h : Orderly c party)
    (hother : c.calls caller.other = .idle) (hidle : c.calls caller = .idle) :
  Orderly { c with calls := Function.update c.calls caller (.begin command) } caller
  := by
  have hparty : c.calls party = .idle := by
    obtain rfl | rfl := caller.eq_or_eq_other party
    · exact hidle
    · exact hother
  have hcaller := h.of_idle hparty caller
  have hsuits := hcaller.suits
  rw [hidle] at hsuits
  constructor
  · dsimp only
    rw [Function.update_of_ne caller.other_ne]
    exact hother
  · dsimp only
    rw [Function.update_self]
    cases command with
    | videoStartStreaming => exact hsuits
    | videoStopStreaming => exact hsuits
    | videoRestartStreaming => exact hsuits
  · exact h.orderly

theorem Orderly.step (h : Orderly c party) (sequential : Sequential c a) (regular : Regular a)
    (step : Streaming.lts.step c a c') :
  ∃ party', Orderly c' party'
  := by
  cases a with
  | begins caller command =>
      obtain ⟨⟨hidle, -⟩, hstep⟩ := Option.ite_none_right_eq_some.mp step
      obtain rfl := Option.some.inj hstep
      exact ⟨caller, h.begins sequential hidle⟩
  | call caller succeeds =>
      obtain ⟨⟨video', call'⟩, hexec, rfl⟩ := Option.map_eq_some_iff.mp step
      obtain rfl : caller = party := by
        apply h.party_eq
        intro hidle
        rw [hidle] at hexec
        cases hexec
      exact ⟨caller, h.exec hexec⟩
  | stream handle event =>
      obtain ⟨video', hexec, rfl⟩ := Option.map_eq_some_iff.mp step
      exact ⟨party, h.alone, h.suits.execStream hexec, h.orderly.execStream regular hexec⟩

/-! ### A stream that has been started -/

/-- The start leaves the stream with a thread. -/
def StartPoint.Keeps (video : Video) (restart : Bool) : StartPoint → Prop
  | .check => restart = false → video.streamingThread ≠ none
  | _ => True

/-- The call leaves the stream with a thread. -/
def Call.Keeps (video : Video) : Call → Prop
  | idle | statusFlag => video.streamingThread ≠ none
  | start restart point => point.Keeps video restart
  | stop restart _ => restart = true
  | restartWait attempts => attempts = 0
  | statusStopped | crashed => False

/-- A start leaves the stream with a thread unless it returns since it has failed. -/
theorem StartPoint.Keeps.exec {point : StartPoint} {succeeds : Bool} (h : point.Keeps video restart)
    (made : ¬ ((point = .flag ∨ point = .undo) ∧ call' = .idle))
    (hexec : Call.execStart video restart succeeds point = (video', call')) :
  call'.Keeps video'
  := by
  cases point with
  | check =>
      obtain ⟨rfl, rfl⟩ := Prod.mk.inj hexec
      split
      · trivial
      · rename_i hsome
        exact fun hnone => hsome (Option.isNone_iff_eq_none.mpr hnone)
  | flag =>
      cases succeeds with
      | false =>
          obtain ⟨-, rfl⟩ := Prod.mk.inj hexec
          exact absurd ⟨Or.inl rfl, rfl⟩ made
      | true =>
          obtain ⟨-, rfl⟩ := Prod.mk.inj hexec
          trivial
  | create =>
      cases succeeds with
      | false =>
          obtain ⟨-, rfl⟩ := Prod.mk.inj hexec
          trivial
      | true =>
          obtain ⟨-, rfl⟩ := Prod.mk.inj hexec
          trivial
  | undo =>
      obtain ⟨-, rfl⟩ := Prod.mk.inj hexec
      exact absurd ⟨Or.inr rfl, rfl⟩ made
  | store handle =>
      obtain ⟨rfl, rfl⟩ := Prod.mk.inj hexec
      exact Option.some_ne_none handle

/-- A start or a restart leaves the stream with a thread. -/
theorem Call.Keeps.exec (h : call.Keeps video) {succeeds : Bool} (hsuits : call.Suits video)
    (orderly : video.Orderly)
    (made : ¬ ((∃ restart, call = .start restart .flag ∨ call = .start restart .undo) ∧
      call' = .idle))
    (hexec : call.exec video succeeds = some (video', call')) :
  call'.Keeps video'
  := by
  cases call with
  | idle => cases hexec
  | crashed => cases hexec
  | statusStopped => cases h
  | statusFlag =>
      obtain ⟨rfl, rfl⟩ := Prod.mk.inj (Option.some.inj hexec)
      obtain ⟨handle, stream, ⟨-, hflag, -⟩, -⟩ := Video.Resting.running hsuits h
      rw [hflag]
      rfl
  | restartWait attempts =>
      obtain ⟨rfl, rfl⟩ := Prod.mk.inj (Option.some.inj hexec)
      rw [show attempts = 0 from h, orderly.stopped_of_quiet hsuits.2.2]
      exact nofun
  | start restart point =>
      apply StartPoint.Keeps.exec h _ (Option.some.inj hexec)
      rintro ⟨rfl | rfl, hidle⟩
      · exact made ⟨⟨restart, Or.inl rfl⟩, hidle⟩
      · exact made ⟨⟨restart, Or.inr rfl⟩, hidle⟩
  | stop restart point =>
      obtain rfl : restart = true := h
      obtain rfl | rfl | ⟨point', rfl⟩ := execStop_cases hexec
      · rfl
      · exact absurd (hsuits.exec hexec) id
      · rfl

/-- The stream is started, or is going to be. -/
def Started (c : Streaming) (party : Party) : Prop :=
  Orderly c party ∧ (c.calls party).Keeps c.video

theorem Started.step (h : Started c party) (sequential : Sequential c a) (regular : Regular a)
    (hstop : ∀ party, a ≠ .begins party .videoStopStreaming) (made : ¬ FailsToStart ⟨c, a, c'⟩)
    (step : Streaming.lts.step c a c') :
  ∃ party', Started c' party'
  := by
  obtain ⟨orderly, keeps⟩ := h
  cases a with
  | begins caller command =>
      obtain ⟨⟨hidle, -⟩, hstep⟩ := Option.ite_none_right_eq_some.mp step
      obtain rfl := Option.some.inj hstep
      have hparty : c.calls party = .idle := by
        obtain rfl | rfl := caller.eq_or_eq_other party
        · exact hidle
        · exact sequential
      rw [hparty] at keeps
      refine ⟨caller, orderly.begins sequential hidle, ?_⟩
      dsimp only
      rw [Function.update_self]
      cases command with
      | videoStartStreaming => exact fun _ => keeps
      | videoStopStreaming => exact absurd rfl (hstop caller)
      | videoRestartStreaming => exact keeps
  | call caller succeeds =>
      obtain ⟨⟨video', call'⟩, hexec, rfl⟩ := Option.map_eq_some_iff.mp step
      obtain rfl : caller = party := by
        apply orderly.party_eq
        intro hidle
        rw [hidle] at hexec
        cases hexec
      refine ⟨caller, orderly.exec hexec, ?_⟩
      dsimp only
      rw [Function.update_self]
      apply keeps.exec orderly.suits orderly.orderly _ hexec
      rintro ⟨⟨restart, hpoint⟩, hidle⟩
      refine made ⟨caller, restart, hpoint, ?_⟩
      dsimp only
      rw [Function.update_self]
      exact hidle
  | stream handle event =>
      obtain ⟨video', hexec, rfl⟩ := Option.map_eq_some_iff.mp step
      obtain ⟨stream, point, -, -, -, -, hthread, -⟩ := Video.execStream_eq hexec
      refine ⟨party, ⟨orderly.alone, orderly.suits.execStream hexec,
        orderly.orderly.execStream regular hexec⟩, ?_⟩
      generalize c.calls party = call at keeps
      cases call with
      | idle => exact hthread.trans_ne keeps
      | statusFlag => exact hthread.trans_ne keeps
      | start restart point =>
          cases point with
          | check => exact fun hrestart => hthread.trans_ne (keeps hrestart)
          | flag => trivial
          | create => trivial
          | undo => trivial
          | store handle => trivial
      | stop restart point => exact keeps
      | restartWait attempts => exact keeps
      | statusStopped => exact absurd keeps id
      | crashed => exact absurd keeps id

/-- When no call is in progress, a stream that is started has a thread that goes on. -/
theorem Started.live (h : Started c party) (hidle : ∀ party, c.calls party = .idle) :
  c.video.Live
  := by
  obtain ⟨orderly, keeps⟩ := h
  have hsuits := orderly.suits
  rw [hidle party] at keeps hsuits
  obtain ⟨handle, stream, ⟨hthread, hflag, howns⟩, hfresh⟩ := Video.Resting.running hsuits keeps
  refine ⟨handle, stream, hthread, howns.1, ?_⟩
  intro hended
  exact (orderly.orderly.running hflag stream (List.mem_of_getElem? howns.1)).2 hended hfresh.1

/-! ### Calls that return -/

/-- When a call returns, no call is in progress. -/
theorem Orderly.idle_of_returns {command : Command} (h : Orderly c party)
    (returns : Returns party command ⟨c, a, c'⟩) (step : Streaming.lts.step c a c')
    (party' : Party) :
  c'.calls party' = .idle
  := by
  obtain ⟨⟨succeeds, haction⟩, -, hidle⟩ := returns
  dsimp only at haction hidle
  subst haction
  obtain ⟨⟨video', call'⟩, -, rfl⟩ := Option.map_eq_some_iff.mp step
  obtain rfl | rfl := party.eq_or_eq_other party'
  · exact hidle
  · dsimp only
    rw [Function.update_of_ne party.other_ne]
    exact h.alone

/-- The party that returns from a call was the one that made it. -/
theorem Orderly.party_eq_of_returns {caller : Party} {command : Command} (h : Orderly c party)
    (returns : Returns caller command ⟨c, a, c'⟩) :
  caller = party
  := by
  apply h.party_eq
  intro hidle
  have hcommand := returns.2.1
  dsimp only at hcommand
  rw [hidle] at hcommand
  cases hcommand

theorem Call.exists_startPoint_of_command (h : call.command = some .videoStartStreaming) :
  ∃ point, call = start false point
  := by
  unfold command at h
  split at h
  · exact ⟨_, rfl⟩
  · cases h
  · cases h
  · cases h
  · cases h

/-- After a stop the three variables say that the stream is off. -/
theorem Orderly.off_of_returns {caller : Party} (h : Orderly c party)
    (step : Streaming.lts.step c a c') (returns : Returns caller .videoStopStreaming ⟨c, a, c'⟩) :
  c'.video.Off ∧ c'.video.streamingStopped = true
  := by
  obtain rfl := h.party_eq_of_returns returns
  obtain ⟨⟨succeeds, haction⟩, hcommand, hidle⟩ := returns
  dsimp only at haction hcommand hidle
  subst haction
  obtain ⟨⟨video', call'⟩, hexec, rfl⟩ := Option.map_eq_some_iff.mp step
  obtain ⟨point, hcall⟩ := Call.exists_point_of_command hcommand
  have horderly : video'.Orderly := (h.exec hexec).orderly
  have hsuits := h.suits
  dsimp only at hidle
  rw [Function.update_self] at hidle
  rw [hcall] at hexec hsuits
  rw [hidle] at hexec
  have hoff : video'.Off := Call.off_of_execStop hsuits hexec
  exact ⟨hoff, horderly.stopped_of_quiet hoff.2.2⟩

/-- After a start that has not failed the stream has a thread. -/
theorem Orderly.started_of_returns {caller : Party} (h : Orderly c party)
    (made : ¬ FailsToStart ⟨c, a, c'⟩) (step : Streaming.lts.step c a c')
    (returns : Returns caller .videoStartStreaming ⟨c, a, c'⟩) :
  Started c' caller
  := by
  obtain rfl := h.party_eq_of_returns returns
  obtain ⟨⟨succeeds, haction⟩, hcommand, hidle⟩ := returns
  dsimp only at haction hcommand hidle
  subst haction
  obtain ⟨⟨video', call'⟩, hexec, rfl⟩ := Option.map_eq_some_iff.mp step
  use h.exec hexec
  obtain ⟨point, hcall⟩ := Call.exists_startPoint_of_command hcommand
  have hmade : ¬ (point = .flag ∨ point = .undo) := by
    rintro (rfl | rfl)
    · exact made ⟨caller, false, Or.inl hcall, hidle⟩
    · exact made ⟨caller, false, Or.inr hcall, hidle⟩
  dsimp only at hidle ⊢
  rw [Function.update_self] at hidle ⊢
  subst hidle
  rw [hcall] at hexec
  have hnext := Option.some.inj hexec
  cases point with
  | check =>
      obtain ⟨rfl, hnone⟩ := Prod.mk.inj hnext
      split at hnone
      · cases hnone
      · rename_i hsome
        exact fun hnone => hsome (Option.isNone_iff_eq_none.mpr hnone)
  | flag => exact absurd (Or.inl rfl) hmade
  | create => cases succeeds <;> cases hnext
  | undo => exact absurd (Or.inr rfl) hmade
  | store handle =>
      obtain ⟨rfl, -⟩ := Prod.mk.inj hnext
      exact Option.some_ne_none handle

/-! ### Every run -/

variable {tr : List (Lts.Transition Streaming StreamingAction)}

theorem orderly_of_run (run : Streaming.lts.Run {} tr c)
    (sequential : ∀ e ∈ tr, Sequential e.before e.action) (regular : ∀ e ∈ tr, Regular e.action) :
  ∃ party, Orderly c party
  := by
  apply run.invariant ⟨.go, orderly_init⟩
  rintro e he ⟨party, h⟩ step
  exact h.step (sequential e he) (regular e he) step

/-- When the calls are made one at a time and no streaming thread returns early, a stop leaves the
stream stopped, and a restart of a stream that has been started and not been stopped leaves a thread
that goes on, unless this start or a restart since has failed. -/
theorem brought_back_of_regular (run : Streaming.lts.Run {} tr c)
    (sequential : ∀ e ∈ tr, Sequential e.before e.action) (regular : ∀ e ∈ tr, Regular e.action) :
  (∀ stop ∈ tr, ∀ party, Returns party .videoStopStreaming stop →
    stop.after.video.streamingThread = none ∧ stop.after.video.streamingFlag = false ∧
      stop.after.video.streamingStopped = true ∧ stop.after.video.getStreamingStatus = 0) ∧
  ∀ front start middle restart back, tr = front ++ start :: (middle ++ restart :: back) →
    (∃ party, Returns party .videoStartStreaming start) →
    (∃ party, Returns party .videoRestartStreaming restart) →
    (∀ e ∈ middle, ∀ party, e.action ≠ .begins party .videoStopStreaming) →
    (∀ e ∈ start :: (middle ++ [restart]), ¬ FailsToStart e) →
      restart.after.video.Live
  := by
  constructor
  · intro stop hmem party returns
    obtain ⟨front, back, rfl⟩ := List.append_of_mem hmem
    obtain ⟨before, hfront, hrest⟩ := Lts.run_append run
    obtain ⟨rfl, hstep, -⟩ := Lts.run_cons hrest
    obtain ⟨party', horderly⟩ := orderly_of_run hfront
      (fun e he => sequential e (List.mem_append_left _ he))
      (fun e he => regular e (List.mem_append_left _ he))
    obtain ⟨⟨hthread, hflag, -⟩, hstopped⟩ := horderly.off_of_returns hstep returns
    refine ⟨hthread, hflag, hstopped, ?_⟩
    rw [Video.getStreamingStatus, hflag, hstopped]
    rfl
  · rintro front start middle restart back rfl ⟨starter, hstarts⟩ ⟨restarter, hrestarts⟩ hmiddle hmade
    obtain ⟨before, hfront, hrest⟩ := Lts.run_append run
    obtain ⟨rfl, hstart, hrest⟩ := Lts.run_cons hrest
    obtain ⟨between, hrun, hlast⟩ := Lts.run_append hrest
    obtain ⟨rfl, hrestart, -⟩ := Lts.run_cons hlast
    obtain ⟨party, horderly⟩ := orderly_of_run hfront
      (fun e he => sequential e (List.mem_append_left _ he))
      (fun e he => regular e (List.mem_append_left _ he))
    have hstarted : ∃ party, Started start.after party :=
      ⟨starter, horderly.started_of_returns (hmade start (by simp)) hstart hstarts⟩
    obtain ⟨party', hbefore⟩ : ∃ party, Started restart.before party := by
      apply hrun.invariant (I := fun c => ∃ party, Started c party) hstarted
      rintro e he ⟨party, h⟩ step
      exact h.step (sequential e (by simp [he])) (regular e (by simp [he])) (hmiddle e he)
        (hmade e (by simp [he])) step
    have hnostop : ∀ party, restart.action ≠ .begins party .videoStopStreaming := by
      intro party haction
      obtain ⟨⟨succeeds, hcall⟩, -⟩ := hrestarts
      rw [hcall] at haction
      cases haction
    obtain ⟨party'', hafter⟩ :=
      hbefore.step (sequential restart (by simp)) (regular restart (by simp)) hnostop
        (hmade restart (by simp)) hrestart
    obtain rfl := hbefore.1.party_eq_of_returns hrestarts
    exact hafter.live (hbefore.1.idle_of_returns hrestarts hrestart)

/-- The stream is started, stopped, started again and restarted. -/
def startStopStartRestart : List StreamingAction :=
  startActions ++
    .begins .go .videoStopStreaming :: List.replicate 2 (.call .go true) ++
    List.replicate 4 (.stream 0 .succeeds) ++ List.replicate 5 (.call .go true) ++
    .begins .go .videoStartStreaming :: List.replicate 4 (.call .go true) ++
    List.replicate 3 (.stream 1 .succeeds) ++
    .begins .detectFormat .videoRestartStreaming :: List.replicate 3 (.call .detectFormat true) ++
    List.replicate 4 (.stream 1 .succeeds) ++ List.replicate 10 (.call .detectFormat true)

theorem brought_back_startStopStartRestart :
  ∃ tr c, Streaming.lts.Run {} tr c ∧ tr.map Lts.Transition.action = startStopStartRestart ∧
    (∀ e ∈ tr, Sequential e.before e.action ∧ Regular e.action) ∧
    ∀ stop ∈ tr, ∀ party, Returns party .videoStopStreaming stop →
      stop.after.video.getStreamingStatus = 0
  := by
  obtain ⟨tr, c, run, hactions, hsteps, -⟩ := Lts.exists_run_of_restrict Streaming.step
    (fun c a => Sequential c a ∧ Regular a) {} startStopStartRestart (fun c => c.calls .detectFormat)
    (o := .idle) (by decide +kernel)
  refine ⟨tr, c, run, hactions, hsteps, fun stop hstop party returns => ?_⟩
  exact ((brought_back_of_regular run (fun e he => (hsteps e he).1) (fun e he => (hsteps e he).2)).1
    stop hstop party returns).2.2.2

/-- The stream is started, and no buffers are given to its thread. -/
def startWithoutBuffers : List StreamingAction :=
  .begins .go .videoStartStreaming :: List.replicate 4 (.call .go true) ++
    List.replicate 2 (.stream 0 .succeeds) ++ [.stream 0 (.returns .reqbufs)]

/-- When the thread has returned early, a stop leaves the stream stopping. -/
theorem stopping_after_early_return :
  ∃ tr c, Streaming.lts.Run {} tr c ∧ tr.map Lts.Transition.action = startWithoutBuffers ++
      .begins .go .videoStopStreaming :: List.replicate 37 (.call .go true) ∧
    (∀ e ∈ tr, Sequential e.before e.action) ∧
    ∃ stop, tr.getLast? = some stop ∧ Returns .go .videoStopStreaming stop ∧
      stop.after.video.streamingStopped = false ∧ stop.after.video.getStreamingStatus = 2
  := by
  obtain ⟨tr, c, run, hactions, hobserve⟩ := Lts.exists_run_of_observe_transitions Streaming.step {}
    (startWithoutBuffers ++ .begins .go .videoStopStreaming :: List.replicate 37 (.call .go true))
    (fun tr => (tr.all fun e => Sequential e.before e.action) && tr.getLast?.any fun e =>
      e.action = .call .go true ∧ (e.before.calls .go).command = some .videoStopStreaming ∧
        e.after.calls .go = .idle ∧ e.after.video.streamingStopped = false ∧
        e.after.video.getStreamingStatus = 2) (o := true) (by decide +kernel)
  rw [Bool.and_eq_true] at hobserve
  obtain ⟨hsequential, hlast⟩ := hobserve
  obtain ⟨stop, hstop, hlast⟩ := (Option.any_eq_true _ _).mp hlast
  obtain ⟨haction, hcommand, hidle, hstopped, hstatus⟩ := of_decide_eq_true hlast
  refine ⟨tr, c, run, hactions, fun e he => ?_, stop, hstop, ⟨⟨true, haction⟩, hcommand, hidle⟩,
    hstopped, hstatus⟩
  exact of_decide_eq_true (List.all_eq_true.mp hsequential e he)

end JetKvm.Native
