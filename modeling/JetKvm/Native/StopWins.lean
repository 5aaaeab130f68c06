import JetKvm.Native.StreamOwner

/-!
# Stops of the video stream

As long as no call goes past its first reads while another one is past them, each streaming thread
is joined once and its handle freed once, and after a stop from Go the stream stays off until Go
starts it again. Otherwise a thread may be joined twice, and a stop may be lost.
-/

namespace JetKvm.Native

variable {video video' : Video} {handle : ℕ} {stream stream' : Stream} {call call' : Call}
  {restart succeeds : Bool} {c c' : Streaming} {a : StreamingAction}

/-! ### What holds when the variables are sound -/

theorem Video.Owns.bounded (h : video.Owns handle stream) (hjoined : stream.joined ≤ 1)
    (hfreed : stream.freed ≤ 1) :
  ∀ stream ∈ video.streams, stream.joined ≤ 1 ∧ stream.freed ≤ 1
  := by
  intro stream' hstream'
  obtain ⟨other, hother⟩ := List.mem_iff_getElem?.mp hstream'
  by_cases hsame : other = handle
  · rw [hsame, h.1] at hother
    obtain rfl := Option.some.inj hother
    exact ⟨hjoined, hfreed⟩
  · rw [h.2 other stream' hsame hother]
    exact ⟨Nat.le_refl 1, Nat.le_refl 1⟩

theorem Video.Quiet.bounded (h : video.Quiet) :
  ∀ stream ∈ video.streams, stream.joined ≤ 1 ∧ stream.freed ≤ 1
  := by
  intro stream hstream
  rw [h stream hstream]
  exact ⟨Nat.le_refl 1, Nat.le_refl 1⟩

theorem Stream.Fresh.bounded (h : stream.Fresh) :
  stream.joined ≤ 1 ∧ stream.freed ≤ 1
  := by
  rw [h.1, h.2]
  exact ⟨Nat.zero_le 1, Nat.zero_le 1⟩

theorem Video.Resting.bounded (h : video.Resting) :
  ∀ stream ∈ video.streams, stream.joined ≤ 1 ∧ stream.freed ≤ 1
  := by
  obtain hoff | ⟨handle, stream, hrun, hfresh⟩ := h
  · exact hoff.2.2.bounded
  · exact hrun.2.2.bounded hfresh.bounded.1 hfresh.bounded.2

theorem Call.Suits.bounded (h : call.Suits video) :
  ∀ stream ∈ video.streams, stream.joined ≤ 1 ∧ stream.freed ≤ 1
  := by
  cases call with
  | idle => exact Video.Resting.bounded h
  | statusFlag => exact Video.Resting.bounded h
  | statusStopped => exact Video.Resting.bounded h
  | restartWait attempts => exact h.2.2.bounded
  | crashed => cases h
  | start restart point =>
      cases point with
      | check =>
          cases restart with
          | false => exact Video.Resting.bounded h
          | true => exact h.2.2.bounded
      | flag => exact h.2.2.bounded
      | create => exact h.2.2.bounded
      | undo => exact h.2.bounded
      | store handle =>
          obtain ⟨-, -, stream, howns, hfresh⟩ := h
          exact howns.bounded hfresh.bounded.1 hfresh.bounded.2
  | stop restart point =>
      cases point with
      | check => exact Video.Resting.bounded h
      | flag =>
          obtain ⟨handle, stream, hrun, hfresh⟩ := h
          exact hrun.2.2.bounded hfresh.bounded.1 hfresh.bounded.2
      | wait attempts =>
          obtain ⟨handle, stream, hrun, hfresh⟩ := h
          exact hrun.2.2.bounded hfresh.bounded.1 hfresh.bounded.2
      | dereference =>
          obtain ⟨handle, stream, hrun, hfresh⟩ := h
          exact hrun.2.2.bounded hfresh.bounded.1 hfresh.bounded.2
      | join handle =>
          obtain ⟨stream, hrun, hfresh⟩ := h
          exact hrun.2.2.bounded hfresh.bounded.1 hfresh.bounded.2
      | free =>
          obtain ⟨handle, hrun⟩ := h
          exact hrun.2.2.bounded (Nat.le_refl 1) (Nat.zero_le 1)
      | clear =>
          obtain ⟨handle, hrun⟩ := h
          exact hrun.2.2.bounded (Nat.le_refl 1) (Nat.le_refl 1)

theorem Sound.not_crashed (h : Sound c) (party : Party) :
  c.calls party ≠ .crashed
  := by
  obtain ⟨owner, hother, hsuits⟩ := h
  intro hcrashed
  obtain rfl | rfl := owner.eq_or_eq_other party
  · rw [hcrashed] at hsuits
    exact hsuits
  · rw [hcrashed] at hother
    cases hother

/-! ### After a stop -/

/-- The party returns from the command. -/
def Returns (party : Party) (command : Command)
    (e : Lts.Transition Streaming StreamingAction) : Prop :=
  (∃ succeeds, e.action = .call party succeeds) ∧
    (e.before.calls party).command = some command ∧ e.after.calls party = .idle

/-- The call does not turn the stream on when it is off. -/
def Call.Late (video : Video) : Call → Prop
  | idle | stop false .check | statusFlag | statusStopped => True
  | stop true .check | restartWait _ => video.streamingStopped = false
  | _ => False

/-- The stream is off, and no call turns it on. -/
structure StaysOff (c : Streaming) : Prop where
  off : c.video.Off
  late : ∀ party, (c.calls party).Late c.video

theorem StaysOff.step (h : StaysOff c) (hstart : a ≠ .begins .go .videoStartStreaming)
    (step : Streaming.lts.step c a c') :
  StaysOff c'
  := by
  cases a with
  | begins caller command =>
      obtain ⟨⟨-, hmay⟩, hstep⟩ := Option.ite_none_right_eq_some.mp step
      obtain rfl := Option.some.inj hstep
      refine ⟨h.off, ?_⟩
      intro party
      dsimp only
      by_cases hsame : party = caller
      · subst hsame
        rw [Function.update_self]
        cases command with
        | videoStartStreaming =>
            cases party with
            | go => exact absurd rfl hstart
            | detectFormat => cases hmay
        | videoStopStreaming => trivial
        | videoRestartStreaming => trivial
      · rw [Function.update_of_ne hsame]
        exact h.late party
  | call caller succeeds =>
      obtain ⟨⟨video', call'⟩, hexec, rfl⟩ := Option.map_eq_some_iff.mp step
      have hlate := h.late caller
      have hnext : video' = c.video ∧ call'.Late c.video := by
        generalize c.calls caller = call at hexec hlate
        unfold Call.Late at hlate
        split at hlate
        · cases hexec
        · obtain ⟨rfl, rfl⟩ := Prod.mk.inj (Option.some.inj hexec)
          rw [h.off.1]
          exact ⟨rfl, trivial⟩
        · obtain ⟨rfl, rfl⟩ := Prod.mk.inj (Option.some.inj hexec)
          rw [h.off.2.1]
          exact ⟨rfl, trivial⟩
        · obtain ⟨rfl, rfl⟩ := Prod.mk.inj (Option.some.inj hexec)
          use rfl
          split
          · trivial
          · rename_i hstopped
            exact Bool.eq_false_iff.mpr hstopped
        · obtain ⟨rfl, rfl⟩ := Prod.mk.inj (Option.some.inj hexec)
          rw [h.off.1]
          exact ⟨rfl, hlate⟩
        · obtain ⟨rfl, rfl⟩ := Prod.mk.inj (Option.some.inj hexec)
          use rfl
          rw [hlate]
          split
          · exact hlate
          · trivial
        · exact absurd hlate id
      obtain ⟨rfl, hcall⟩ := hnext
      refine ⟨h.off, ?_⟩
      intro party
      dsimp only
      by_cases hsame : party = caller
      · subst hsame
        rw [Function.update_self]
        exact hcall
      · rw [Function.update_of_ne hsame]
        exact h.late party
  | stream handle event =>
      obtain ⟨video', hexec, rfl⟩ := Option.map_eq_some_iff.mp step
      rw [h.off.2.2.execStream_eq] at hexec
      cases hexec

/-- The thread that detects the format does nothing but restart. -/
def OnlyRestarts (c : Streaming) : Prop :=
  ∀ command, (c.calls .detectFormat).command = some command → command = .videoRestartStreaming

/-- A start stays a start until it returns. -/
theorem Call.execStart_cases {point : StartPoint}
    (hexec : execStart video restart succeeds point = (video', call')) :
  call' = idle ∨ ∃ point', call' = start restart point'
  := by
  cases point with
  | check =>
      obtain ⟨rfl, rfl⟩ := Prod.mk.inj hexec
      split
      · exact Or.inr ⟨_, rfl⟩
      · exact Or.inl rfl
  | flag =>
      cases succeeds with
      | true => exact Or.inr ⟨_, (Prod.mk.inj hexec).2.symm⟩
      | false => exact Or.inl (Prod.mk.inj hexec).2.symm
  | create =>
      cases succeeds with
      | true => exact Or.inr ⟨_, (Prod.mk.inj hexec).2.symm⟩
      | false => exact Or.inr ⟨_, (Prod.mk.inj hexec).2.symm⟩
  | undo => exact Or.inl (Prod.mk.inj hexec).2.symm
  | store handle => exact Or.inl (Prod.mk.inj hexec).2.symm

/-- A stop stays a stop until it is over. -/
theorem Call.execStop_cases {point : StopPoint}
    (hexec : execStop video restart point = some (video', call')) :
  call' = afterStop restart ∨ call' = crashed ∨ ∃ point', call' = stop restart point'
  := by
  cases point with
  | check =>
      obtain ⟨rfl, rfl⟩ := Prod.mk.inj (Option.some.inj hexec)
      split
      · exact Or.inl rfl
      · exact Or.inr (Or.inr ⟨_, rfl⟩)
  | flag =>
      obtain ⟨rfl, rfl⟩ := Prod.mk.inj (Option.some.inj hexec)
      exact Or.inr (Or.inr ⟨_, rfl⟩)
  | wait attempts =>
      obtain ⟨rfl, rfl⟩ := Prod.mk.inj (Option.some.inj hexec)
      split
      · exact Or.inr (Or.inr ⟨_, rfl⟩)
      · exact Or.inr (Or.inr ⟨_, rfl⟩)
  | dereference =>
      obtain ⟨rfl, rfl⟩ := Prod.mk.inj (Option.some.inj hexec)
      split
      · split
        · exact Or.inr (Or.inr ⟨_, rfl⟩)
        · exact Or.inr (Or.inl rfl)
      · exact Or.inr (Or.inl rfl)
  | join handle =>
      obtain ⟨stream, -, hexec⟩ := Option.bind_eq_some_iff.mp hexec
      obtain ⟨-, hexec⟩ := Option.ite_none_right_eq_some.mp hexec
      obtain ⟨rfl, rfl⟩ := Prod.mk.inj (Option.some.inj hexec)
      exact Or.inr (Or.inr ⟨_, rfl⟩)
  | free =>
      obtain ⟨rfl, rfl⟩ := Prod.mk.inj (Option.some.inj hexec)
      exact Or.inr (Or.inr ⟨_, rfl⟩)
  | clear =>
      obtain ⟨rfl, rfl⟩ := Prod.mk.inj (Option.some.inj hexec)
      exact Or.inl rfl

/-- A restart stays a restart until it returns. -/
theorem Call.command_exec (h : ∀ command, call.command = some command →
      command = .videoRestartStreaming) (hexec : call.exec video succeeds = some (video', call')) :
  ∀ command, call'.command = some command → command = .videoRestartStreaming
  := by
  have hrestart : ∀ command, some Command.videoRestartStreaming = some command →
      command = .videoRestartStreaming := fun command h => (Option.some.inj h).symm
  have hnone : ∀ command, (none : Option Command) = some command →
      command = .videoRestartStreaming := fun command h => by cases h
  cases call with
  | idle => cases hexec
  | crashed => cases hexec
  | statusFlag =>
      obtain ⟨rfl, rfl⟩ := Prod.mk.inj (Option.some.inj hexec)
      split
      · exact hrestart
      · exact hrestart
  | statusStopped =>
      obtain ⟨rfl, rfl⟩ := Prod.mk.inj (Option.some.inj hexec)
      split
      · exact hnone
      · exact hrestart
  | restartWait attempts =>
      obtain ⟨rfl, rfl⟩ := Prod.mk.inj (Option.some.inj hexec)
      split
      · split
        · exact hrestart
        · exact hrestart
      · exact hnone
  | start restart point =>
      cases restart with
      | false => exact absurd (h _ rfl) (by decide)
      | true =>
          obtain rfl | ⟨point', rfl⟩ := execStart_cases (Option.some.inj hexec)
          · exact hnone
          · exact hrestart
  | stop restart point =>
      cases restart with
      | false => exact absurd (h _ rfl) (by decide)
      | true =>
          obtain rfl | rfl | ⟨point', rfl⟩ := execStop_cases hexec
          · exact hrestart
          · exact hnone
          · exact hrestart

theorem OnlyRestarts.step (h : OnlyRestarts c) (step : Streaming.lts.step c a c') :
  OnlyRestarts c'
  := by
  cases a with
  | begins caller command =>
      obtain ⟨⟨-, hmay⟩, hstep⟩ := Option.ite_none_right_eq_some.mp step
      obtain rfl := Option.some.inj hstep
      rw [OnlyRestarts]
      dsimp only
      cases caller with
      | go =>
          rw [Function.update_of_ne (by decide)]
          exact h
      | detectFormat =>
          rw [Function.update_self]
          obtain rfl := of_decide_eq_true hmay
          exact fun command h => (Option.some.inj h).symm
  | call caller succeeds =>
      obtain ⟨⟨video', call'⟩, hexec, rfl⟩ := Option.map_eq_some_iff.mp step
      rw [OnlyRestarts]
      dsimp only
      cases caller with
      | go =>
          rw [Function.update_of_ne (by decide)]
          exact h
      | detectFormat =>
          rw [Function.update_self]
          exact Call.command_exec h hexec
  | stream handle event =>
      obtain ⟨video', -, rfl⟩ := Option.map_eq_some_iff.mp step
      exact h

theorem Call.exists_point_of_command (h : call.command = some .videoStopStreaming) :
  ∃ point, call = stop false point
  := by
  unfold command at h
  split at h
  · cases h
  · exact ⟨_, rfl⟩
  · cases h
  · cases h
  · cases h

/-- A stop that is over leaves the stream off. -/
theorem Call.off_of_execStop {point : StopPoint} (h : point.Suits video)
    (hexec : execStop video false point = some (video', idle)) :
  video'.Off
  := by
  cases point with
  | check =>
      obtain ⟨rfl, hcall⟩ := Prod.mk.inj (Option.some.inj hexec)
      split at hcall
      · rename_i hnone
        exact h.off (Option.isNone_iff_eq_none.mp hnone)
      · cases hcall
  | flag => cases hexec
  | wait attempts =>
      have hcall := (Prod.mk.inj (Option.some.inj hexec)).2
      split at hcall
      · cases hcall
      · cases hcall
  | dereference =>
      have hcall := (Prod.mk.inj (Option.some.inj hexec)).2
      split at hcall
      · split at hcall
        · cases hcall
        · cases hcall
      · cases hcall
  | join handle =>
      obtain ⟨stream, -, hexec⟩ := Option.bind_eq_some_iff.mp hexec
      obtain ⟨-, hexec⟩ := Option.ite_none_right_eq_some.mp hexec
      cases hexec
  | free => cases hexec
  | clear =>
      obtain ⟨rfl, -⟩ := Prod.mk.inj (Option.some.inj hexec)
      obtain ⟨handle, -, hflag, howns⟩ := h
      exact ⟨rfl, hflag, howns.quiet⟩

/-- When a stop from Go returns, the stream is off and stays so. -/
theorem Sound.staysOff (h : Sound c) (restarts : OnlyRestarts c) (exclusive : Exclusive c a)
    (step : Streaming.lts.step c a c') (returns : Returns .go .videoStopStreaming ⟨c, a, c'⟩) :
  StaysOff c'
  := by
  obtain ⟨⟨succeeds, haction⟩, hcommand, hidle⟩ := returns
  dsimp only at haction hcommand hidle
  subst haction
  obtain ⟨⟨video', call'⟩, hexec, rfl⟩ := Option.map_eq_some_iff.mp step
  dsimp only at hidle
  rw [Function.update_self] at hidle
  obtain ⟨point, hcall⟩ := Call.exists_point_of_command hcommand
  -- no other call is past its first reads
  have hdetect : (c.calls .detectFormat).engaged = false ∧ point.Suits c.video := by
    obtain ⟨party, hother, hsuits⟩ := h
    by_cases hcheck : point = .check
    · have hgo : (c.calls .go).engaged = false := by
        rw [hcall, hcheck]
        rfl
      have hquiet : (c.calls .detectFormat).engaged = false := by
        apply exclusive
        rw [hcall, hcheck]
        rfl
      use hquiet
      have hresting : c.video.Resting := by
        apply Sound.resting ⟨party, hother, hsuits⟩
        intro party
        cases party with
        | go => exact hgo
        | detectFormat => exact hquiet
      rw [hcheck]
      exact hresting
    · cases party with
      | go =>
          use hother
          rw [hcall] at hsuits
          exact hsuits
      | detectFormat =>
          change (c.calls .go).engaged = false at hother
          rw [hcall] at hother
          cases point with
          | check => exact absurd rfl hcheck
          | flag => cases hother
          | wait attempts => cases hother
          | dereference => cases hother
          | join handle => cases hother
          | free => cases hother
          | clear => cases hother
  rw [hcall, hidle] at hexec
  use Call.off_of_execStop hdetect.2 hexec
  intro party
  dsimp only
  cases party with
  | go =>
      rw [Function.update_self, hidle]
      trivial
  | detectFormat =>
      rw [Function.update_of_ne (by decide)]
      obtain hdetect | hdetect | hdetect | hdetect | hdetect :=
        Call.cases_of_not_engaged hdetect.1
      · rw [hdetect]
        trivial
      · exact absurd (restarts _ (congrArg Call.command hdetect)) (by decide)
      · rw [hdetect]
        trivial
      · rw [hdetect]
        trivial
      · rw [hdetect]
        trivial

/-! ### Every run -/

/-- As long as no call overtakes another one, every thread is joined at most once and its handle is
freed at most once, no freed handle is dereferenced, and after a stop from Go the stream stays off
until Go starts it. -/
theorem stop_wins_of_exclusive {tr : List (Lts.Transition Streaming StreamingAction)}
    (run : Streaming.lts.Run {} tr c) (exclusive : ∀ e ∈ tr, Exclusive e.before e.action) :
  (∀ party, c.calls party ≠ .crashed) ∧
    (∀ stream ∈ c.video.streams, stream.joined ≤ 1 ∧ stream.freed ≤ 1) ∧
    ∀ front stop back, tr = front ++ stop :: back → Returns .go .videoStopStreaming stop →
      (∀ e ∈ back, e.action ≠ .begins .go .videoStartStreaming) → c.video.streamingFlag = false
  := by
  have hsound : Sound c :=
    run.invariant sound_init fun e he h step => h.step (exclusive e he) step
  refine ⟨hsound.not_crashed, ?_, ?_⟩
  · obtain ⟨party, -, hsuits⟩ := hsound
    exact hsuits.bounded
  · rintro front stop back rfl returns hback
    obtain ⟨before, hfront, hrest⟩ := Lts.run_append run
    obtain ⟨rfl, hstop, hlate⟩ := Lts.run_cons hrest
    have hbefore : Sound stop.before := by
      apply hfront.invariant sound_init
      exact fun e he h step => h.step (exclusive e (List.mem_append_left _ he)) step
    have hrestarts : OnlyRestarts stop.before :=
      hfront.invariant nofun fun e _ h step => h.step step
    have hafter : StaysOff stop.after :=
      hbefore.staysOff hrestarts (exclusive stop List.mem_append_cons_self) hstop returns
    have hoff : StaysOff c :=
      hlate.invariant hafter fun e he h step => h.step (hback e he) step
    exact hoff.off.2.1

/-- Go starts the stream, and a first frame is read. -/
def startActions : List StreamingAction :=
  .begins .go .videoStartStreaming :: List.replicate 4 (.call .go true) ++
    List.replicate 3 (.stream 0 .succeeds)

/-- The format is detected to have changed, and then Go stops the stream. -/
def stopAfterRestart : List StreamingAction :=
  startActions ++ .begins .detectFormat .videoRestartStreaming ::
    List.replicate 3 (.call .detectFormat true) ++ List.replicate 4 (.stream 0 .succeeds) ++
    List.replicate 10 (.call .detectFormat true) ++
    .begins .go .videoStopStreaming :: List.replicate 3 (.call .go true) ++
    List.replicate 3 (.stream 1 .succeeds) ++ List.replicate 4 (.call .go true)

theorem stop_wins_stopAfterRestart :
  ∃ tr c, Streaming.lts.Run {} tr c ∧ tr.map Lts.Transition.action = stopAfterRestart ∧
    (∀ e ∈ tr, Exclusive e.before e.action) ∧
    ∀ stream ∈ c.video.streams, stream.joined ≤ 1 ∧ stream.freed ≤ 1
  := by
  obtain ⟨tr, c, run, hactions, hexclusive, -⟩ := Lts.exists_run_of_restrict Streaming.step
    Exclusive {} stopAfterRestart (fun c => c.calls .go) (o := .idle) (by decide +kernel)
  exact ⟨tr, c, run, hactions, hexclusive, (stop_wins_of_exclusive run hexclusive).2.1⟩

/-- Go stops the stream while it is stopped for a restart, and both wait for the thread. -/
def stopDuringStop : List StreamingAction :=
  startActions ++ .begins .detectFormat .videoRestartStreaming ::
    List.replicate 3 (.call .detectFormat true) ++
    .begins .go .videoStopStreaming :: List.replicate 2 (.call .go true) ++
    List.replicate 4 (.stream 0 .succeeds) ++
    [.call .detectFormat true, .call .go true, .call .detectFormat true, .call .go true,
      .call .detectFormat true, .call .go true]

/-- Go stops the stream when it has been stopped for a restart and not been started again. -/
def stopDuringRestart : List StreamingAction :=
  startActions ++ .begins .detectFormat .videoRestartStreaming ::
    List.replicate 3 (.call .detectFormat true) ++ List.replicate 4 (.stream 0 .succeeds) ++
    List.replicate 5 (.call .detectFormat true) ++
    .begins .go .videoStopStreaming :: .call .go true ::
    List.replicate 5 (.call .detectFormat true)

/-- A stop from Go during a restart may join the thread a second time, and it may be lost. -/
theorem stop_during_restart :
  (∃ tr c, Streaming.lts.Run {} tr c ∧ tr.map Lts.Transition.action = stopDuringStop ∧
    ∃ stream ∈ c.video.streams, stream.joined = 2) ∧
  ∃ tr c, Streaming.lts.Run {} tr c ∧ tr.map Lts.Transition.action = stopDuringRestart ∧
    (∃ front stop back, tr = front ++ stop :: back ∧ Returns .go .videoStopStreaming stop ∧
      ∀ e ∈ back, e.action ≠ .begins .go .videoStartStreaming) ∧
    (∀ party, c.calls party = .idle) ∧ c.video.streamingFlag = true
  := by
  constructor
  · obtain ⟨tr, c, run, hactions, hjoined⟩ := Lts.exists_run_of_observe Streaming.step {}
      stopDuringStop (fun c => c.video.streams.map Stream.joined) (o := [2]) (by decide +kernel)
    use tr, c, run, hactions
    obtain ⟨stream, hstream, hjoined⟩ := List.mem_map.mp (hjoined ▸ List.mem_singleton_self 2)
    exact ⟨stream, hstream, hjoined⟩
  · obtain ⟨tr, c, run, hactions, hobserve⟩ := Lts.exists_run_of_observe_transitions Streaming.step {}
      stopDuringRestart (fun tr =>
        ((tr[22]?.any fun e => e.action = .call .go true ∧
            (e.before.calls .go).command = some .videoStopStreaming ∧ e.after.calls .go = .idle) &&
          (tr.drop 23).all fun e => e.action ≠ .begins .go .videoStartStreaming) &&
        tr.getLast?.any fun e => e.after.calls .go = .idle ∧ e.after.calls .detectFormat = .idle ∧
          e.after.video.streamingFlag = true) (o := true) (by decide +kernel)
    rw [Bool.and_eq_true, Bool.and_eq_true] at hobserve
    obtain ⟨⟨hstop, hback⟩, hlast⟩ := hobserve
    obtain ⟨stop, hstop, hreturns⟩ := (Option.any_eq_true _ _).mp hstop
    obtain ⟨last, hlast, hend⟩ := (Option.any_eq_true _ _).mp hlast
    obtain ⟨haction, hcommand, hidle⟩ := of_decide_eq_true hreturns
    obtain ⟨hgo, hdetect, hflag⟩ := of_decide_eq_true hend
    rw [run.after_of_getLast? hlast] at hgo hdetect hflag
    obtain ⟨hlt, hat⟩ := List.getElem?_eq_some_iff.mp hstop
    refine ⟨tr, c, run, hactions,
      ⟨tr.take 22, stop, tr.drop 23, ?_, ⟨⟨true, haction⟩, hcommand, hidle⟩, ?_⟩, ?_, hflag⟩
    · rw [← hat, List.getElem_cons_drop, List.take_append_drop]
    · exact fun e he => of_decide_eq_true (List.all_eq_true.mp hback e he)
    · intro party
      cases party with
      | go => exact hgo
      | detectFormat => exact hdetect

end JetKvm.Native
