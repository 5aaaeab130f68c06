import JetKvm.Library.EdgeTrigger
import JetKvm.Session.Handlers

/-!
# Capturing video and audio

The handlers start the video stream after the first session has been counted and stop it after the
last one has been uncounted, and between the counting and the call other handlers run. The stream and
the capture of audio are right as long as what a closing handler stops has not been started for
another session in between, and sessions capture audio in the order in which they are counted.
-/

namespace JetKvm.Sessions

/-! ### On the way -/

/-- The handler of the first connection has still to start the video stream. -/
def Point.startsVideo : Point → Bool
  | .setHostDisplayAdvertised | .videoSetCodecType | .videoStart => true
  | _ => false

/-- The handler of the last end has still to stop the video stream. -/
def Point.stopsVideo : Point → Bool
  | .stopAudio | .videoStop => true
  | _ => false

/-- The handler of a connection that has been counted has still to capture audio. -/
def Point.startsAudio : Point → Bool
  | .startAudio => true
  | point => point.startsVideo

def Session.StartsVideo (session : Session) : Prop :=
  session.point.startsVideo = true

def Session.StopsVideo (session : Session) : Prop :=
  session.point.stopsVideo = true

/-- The session has an audio track, and its connection has not been closed. -/
def Session.Listens (session : Session) : Prop :=
  session.hasAudioTrack = true ∧ session.closed = false

namespace State

variable {Id : Type*} (s : State Id)

/-- The session that was counted last listens, and its audio is not still to be captured. -/
def Captures (i : Id) : Prop :=
  s.lastConnected = some i ∧ (s.sessions i).Listens ∧ (s.sessions i).point.startsAudio = false

/-- The video stream runs while there are sessions, up to handlers on their way. -/
def VideoFollows : Prop :=
  EdgeTriggered s.sessions s.actionSessions (s.lastCall = some .videoStart) Session.StartsVideo
    Session.StopsVideo

/-- The audio of the session that was counted last is captured, unless its handler is on its way. -/
def AudioFollows : Prop :=
  ∀ i, s.Captures i → s.audioTrack = some i

/-- The video stream runs exactly while there are sessions, and the audio of the session that was
counted last is captured when it listens. -/
structure FollowsSessions : Prop where
  running : 0 < s.actionSessions → s.lastCall = some .videoStart
  stopped : s.actionSessions = 0 → s.lastCall ≠ some .videoStart
  audio : ∀ i, s.lastConnected = some i → (s.sessions i).Listens → s.audioTrack = some i

/-- What the handler of session `i` does next leaves alone what has been started for other sessions:
the stream is not stopped when it has been started for one that is still counted, and the audio of
the session that was counted last is neither stopped nor replaced once it is captured. -/
def HandlesApart (i : Id) : Prop :=
  match (s.sessions i).point with
  | .videoStop => s.actionSessions = 0 ∨ ∃ j, (s.sessions j).StartsVideo
  | .stopAudio => ∀ j, ¬ s.Captures j
  | .startAudio => (s.sessions i).hasAudioTrack = true → ∀ j, ¬ s.Captures j
  | _ => True

/-- Every step of a handler leaves alone what has been started for other sessions. -/
def StepsApart : Action Id → Prop
  | .handle i _ => s.HandlesApart i
  | _ => True

end State

variable {Id : Type*} [DecidableEq Id] {s t : State Id} {i : Id} {x : Session} {hide : Bool}
  {edidString : String} {a : Action Id}

/-! ### The video stream -/

omit [DecidableEq Id] in
theorem videoFollows_start : (State.start : State Id).VideoFollows
  := by
  constructor
  · intro hpos
    cases hpos
  · exact fun _ => Or.inl fun h => by cases h

namespace State.VideoFollows

/-- A session changes whose handler is on its way afterwards if it was before. -/
theorem setSession (hf : s.VideoFollows)
    (hstarts : (s.sessions i).StartsVideo → x.StartsVideo)
    (hstops : (s.sessions i).StopsVideo → x.StopsVideo) :
  (s.setSession i x).VideoFollows
  := EdgeTriggered.update hf hstarts hstops

/-- A handler goes to a point where it is about to do what it was about to do before. -/
theorem setPoint (hf : s.VideoFollows) {p : Point} (q : Point) (hp : (s.sessions i).point = p)
    (h : (p.startsVideo = true → q.startsVideo = true) ∧
      (p.stopsVideo = true → q.stopsVideo = true)) :
  (s.setPoint i q).VideoFollows
  := by
  apply hf.setSession
  · intro hi
    rw [Session.StartsVideo, hp] at hi
    exact h.1 hi
  · intro hi
    rw [Session.StopsVideo, hp] at hi
    exact h.2 hi

/-- A step of a handler that leaves alone what has been started for others. -/
theorem execHandler (hf : s.VideoFollows) (hs : s.Sound) (hapart : s.HandlesApart i)
    (h : s.execHandler hide edidString i = some t) :
  t.VideoFollows
  := by
  obtain ⟨n, hn, -⟩ := hs.counted
  cases hp : (s.sessions i).point with
  | idle =>
      rw [State.execHandler, hp] at h
      cases h
  | incrActiveSessions =>
      rw [State.execHandler, hp] at h
      obtain rfl := Option.some.inj h
      apply EdgeTriggered.countUp hf
      · omega
      · intro hi
        rw [Session.StartsVideo, hp] at hi
        cases hi
      · intro hfirst
        rw [Session.StartsVideo, if_pos hfirst]
        rfl
  | setHostDisplayAdvertised =>
      rw [State.execHandler, hp, State.setHostDisplayAdvertised_eq] at h
      obtain rfl := Option.some.inj h
      exact hf.setPoint _ hp (by decide)
  | videoStart =>
      rw [State.execHandler, hp] at h
      obtain rfl := Option.some.inj h
      apply EdgeTriggered.turnOn rfl
      apply hs.actionSessions_pos_iff.mpr
      use i
      apply (hs.sessions i).counted
      rw [hp]
      rfl
  | compareCurrent =>
      rw [State.execHandler, hp] at h
      obtain rfl := Option.some.inj h
      apply hf.setPoint _ hp
      split <;> decide
  | stopAudioIfOwner =>
      rw [State.execHandler, hp, State.stopAudioIfOwner_eq] at h
      obtain rfl := Option.some.inj h
      apply hf.setPoint _ hp
      split <;> decide
  | decrActiveSessions =>
      rw [State.execHandler, hp] at h
      obtain rfl := Option.some.inj h
      apply EdgeTriggered.countDown hf
      · intro hi
        rw [Session.StartsVideo, hp] at hi
        cases hi
      · intro hlast
        rw [Session.StopsVideo, if_pos hlast]
        rfl
  | videoStop =>
      rw [State.execHandler, hp] at h
      obtain rfl := Option.some.inj h
      rw [State.HandlesApart, hp] at hapart
      apply EdgeTriggered.turnOff
      · intro hstart
        cases hstart
      · obtain hzero | hstarts := hapart
        · exact Or.inl hzero
        · right
          apply Pool.exists_update_of_not Session.StartsVideo _ hstarts
          intro hi
          rw [Session.StartsVideo, hp] at hi
          cases hi
  | applyHostDisplayAdvertisement =>
      rw [State.execHandler, hp] at h
      obtain rfl := Option.some.inj h
      rw [State.updateHostDisplayAdvertisement, State.setHostDisplayAdvertised_eq]
      exact hf.setPoint .idle hp (by decide)
  | _ =>
      rw [State.execHandler, hp] at h
      obtain rfl := Option.some.inj h
      exact hf.setPoint _ hp (by decide)

theorem step (hf : s.VideoFollows) (hs : s.Sound) (hapart : s.StepsApart a)
    (h : s.step hide a = some t) :
  t.VideoFollows
  := by
  cases a with
  | exchangeOffer i videoCodecPreference offerSDP hasAudioTrack =>
      obtain ⟨-, h⟩ := Option.ite_none_left_eq_some.mp h
      obtain rfl := Option.some.inj h
      exact hf.setSession id id
  | accept i =>
      obtain ⟨-, h⟩ := Option.ite_none_right_eq_some.mp h
      obtain rfl := Option.some.inj h
      exact hf.setSession (x := { s.sessions i with accepted := true }) id id
  | connected i =>
      obtain ⟨⟨-, -, hidle⟩, h⟩ := Option.ite_none_right_eq_some.mp h
      obtain rfl := Option.some.inj h
      split
      · exact hf
      · exact hf.setPoint _ hidle (by decide)
  | closed i =>
      obtain ⟨⟨-, hidle⟩, h⟩ := Option.ite_none_right_eq_some.mp h
      obtain rfl := Option.some.inj h
      apply hf.setSession
      · intro hi
        rw [Session.StartsVideo, hidle] at hi
        cases hi
      · intro hi
        rw [Session.StopsVideo, hidle] at hi
        cases hi
  | handle i edidString => exact hf.execHandler hs hapart h
  | applyHostDisplayAdvertisement edidString =>
      rw [State.step, State.updateHostDisplayAdvertisement, State.setHostDisplayAdvertised_eq] at h
      obtain rfl := Option.some.inj h
      exact hf
  | reapplyHostDisplayAdvertisement edidString =>
      rw [State.step, State.updateHostDisplayAdvertisement, State.setHostDisplayAdvertised_eq] at h
      obtain rfl := Option.some.inj h
      exact hf
  | encodeFrame =>
      obtain ⟨-, h⟩ := Option.ite_none_right_eq_some.mp h
      obtain rfl := Option.some.inj h
      exact hf
  | writeFrame =>
      obtain ⟨-, h⟩ := Option.ite_none_left_eq_some.mp h
      obtain rfl := Option.some.inj h
      exact hf

end State.VideoFollows

/-! ### Audio -/

namespace State.AudioFollows

omit [DecidableEq Id] in
theorem mono (hf : s.AudioFollows) (haudio : t.audioTrack = s.audioTrack)
    (h : ∀ j, t.Captures j → s.Captures j) :
  t.AudioFollows
  := by
  intro j hj
  rw [haudio]
  exact hf j (h j hj)

/-- A session changes that is captured afterwards only if it was before. -/
theorem captures_setSession {j : Id}
    (h : x.Listens → x.point.startsAudio = false →
      (s.sessions i).Listens ∧ (s.sessions i).point.startsAudio = false)
    (hj : (s.setSession i x).Captures j) :
  s.Captures j
  := by
  obtain ⟨hlast, hlistens, hpoint⟩ := hj
  by_cases hji : j = i
  · subst hji
    rw [State.sessions_setSession_self] at hlistens hpoint
    exact ⟨hlast, h hlistens hpoint⟩
  · rw [State.sessions_setSession_of_ne s hji] at hlistens hpoint
    exact ⟨hlast, hlistens, hpoint⟩

/-- A handler goes to another point, and is on its way to capture audio if it was before. -/
theorem captures_setPoint {p : Point} (q : Point) (hp : (s.sessions i).point = p)
    (h : p.startsAudio = true → q.startsAudio = true) (j : Id) :
  (s.setPoint i q).Captures j → s.Captures j
  := by
  apply captures_setSession
  intro hlistens hq
  use hlistens
  rw [hp]
  by_contra hnot
  rw [h (eq_true_of_ne_false hnot)] at hq
  cases hq

/-- A step of a handler that leaves alone what has been started for others. -/
theorem execHandler (hf : s.AudioFollows) (hs : s.Sound) (hapart : s.HandlesApart i)
    (h : s.execHandler hide edidString i = some t) :
  t.AudioFollows
  := by
  cases hp : (s.sessions i).point with
  | idle =>
      rw [State.execHandler, hp] at h
      cases h
  | incrActiveSessions =>
      rw [State.execHandler, hp] at h
      obtain rfl := Option.some.inj h
      rintro j ⟨hlast, -, hpoint⟩
      obtain rfl := Option.some.inj hlast
      dsimp only at hpoint
      rw [State.sessions_setSession_self] at hpoint
      dsimp only at hpoint
      split at hpoint
      · cases hpoint
      · cases hpoint
  | setHostDisplayAdvertised =>
      rw [State.execHandler, hp, State.setHostDisplayAdvertised_eq] at h
      obtain rfl := Option.some.inj h
      exact hf.mono rfl (captures_setPoint .videoSetCodecType hp (by decide))
  | videoSetCodecType =>
      rw [State.execHandler, hp] at h
      obtain rfl := Option.some.inj h
      exact hf.mono rfl (captures_setPoint .videoStart hp (by decide))
  | videoStart =>
      rw [State.execHandler, hp] at h
      obtain rfl := Option.some.inj h
      exact hf.mono rfl (captures_setPoint .startAudio hp (by decide))
  | startAudio =>
      rw [State.execHandler, hp] at h
      obtain rfl := Option.some.inj h
      rw [State.HandlesApart, hp] at hapart
      rintro j ⟨hlast, hlistens, hpoint⟩
      dsimp only [State.setPoint] at hlistens hpoint
      by_cases hji : j = i
      · subst hji
        rw [State.sessions_setSession_self] at hlistens
        exact if_pos hlistens.1
      · rw [State.sessions_setSession_of_ne s hji] at hlistens hpoint
        have hcaptures : s.Captures j := ⟨hlast, hlistens, hpoint⟩
        have htrack : ¬ (s.sessions i).hasAudioTrack = true := fun h => hapart h j hcaptures
        exact (if_neg htrack).trans (hf j hcaptures)
  | compareCurrent =>
      rw [State.execHandler, hp] at h
      obtain rfl := Option.some.inj h
      refine hf.mono rfl (captures_setPoint _ hp ?_)
      intro hstarts
      cases hstarts
  | clearCurrent =>
      rw [State.execHandler, hp] at h
      obtain rfl := Option.some.inj h
      exact hf.mono rfl (captures_setPoint .stopAudioIfOwner hp (by decide))
  | stopAudioIfOwner =>
      rw [State.execHandler, hp, State.stopAudioIfOwner_eq] at h
      obtain rfl := Option.some.inj h
      intro j hj
      have hcaptures : s.Captures j := by
        apply captures_setPoint (i := i)
          (if (s.sessions i).isConnected = true then .decrActiveSessions else .idle) hp _ j hj
        intro hstarts
        cases hstarts
      have haudio := hf j hcaptures
      -- the session has been closed, so that the track is not its own
      have hother : s.audioTrack ≠ s.trackOf i := by
        intro htrack
        rw [haudio, State.trackOf] at htrack
        split at htrack
        · obtain rfl := Option.some.inj htrack
          have hclosed := (hs.sessions j).closed (hp ▸ rfl)
          cases hclosed.symm.trans hcaptures.2.1.2
        · cases htrack
      exact (if_neg hother).trans haudio
  | decrActiveSessions =>
      rw [State.execHandler, hp] at h
      obtain rfl := Option.some.inj h
      refine hf.mono rfl fun j hj => captures_setSession ?_ hj
      rintro hlistens -
      exact ⟨hlistens, hp ▸ rfl⟩
  | stopAudio =>
      rw [State.execHandler, hp] at h
      obtain rfl := Option.some.inj h
      rw [State.HandlesApart, hp] at hapart
      intro j hj
      exact absurd (captures_setPoint .videoStop hp (by decide) j hj) (hapart j)
  | videoStop =>
      rw [State.execHandler, hp] at h
      obtain rfl := Option.some.inj h
      exact hf.mono rfl (captures_setPoint .applyHostDisplayAdvertisement hp (by decide))
  | applyHostDisplayAdvertisement =>
      rw [State.execHandler, hp] at h
      obtain rfl := Option.some.inj h
      rw [State.updateHostDisplayAdvertisement, State.setHostDisplayAdvertised_eq]
      exact hf.mono rfl (captures_setPoint .idle hp (by decide))

theorem step (hf : s.AudioFollows) (hs : s.Sound) (hapart : s.StepsApart a)
    (h : s.step hide a = some t) :
  t.AudioFollows
  := by
  cases a with
  | exchangeOffer i videoCodecPreference offerSDP hasAudioTrack =>
      obtain ⟨hoffered, h⟩ := Option.ite_none_left_eq_some.mp h
      obtain rfl := Option.some.inj h
      rintro j ⟨hlast, hlistens, hpoint⟩
      have hji : j ≠ i := by
        rintro rfl
        exact hoffered (hs.lastConnected j hlast)
      rw [State.sessions_setSession_of_ne s hji] at hlistens hpoint
      exact hf j ⟨hlast, hlistens, hpoint⟩
  | accept i =>
      obtain ⟨-, h⟩ := Option.ite_none_right_eq_some.mp h
      obtain rfl := Option.some.inj h
      exact hf.mono rfl fun j hj =>
        captures_setSession (x := { s.sessions i with accepted := true }) (fun h h' => ⟨h, h'⟩) hj
  | connected i =>
      obtain ⟨⟨-, -, hidle⟩, h⟩ := Option.ite_none_right_eq_some.mp h
      obtain rfl := Option.some.inj h
      split
      · exact hf
      · exact hf.mono rfl (captures_setPoint .incrActiveSessions hidle (by decide))
  | closed i =>
      obtain ⟨-, h⟩ := Option.ite_none_right_eq_some.mp h
      obtain rfl := Option.some.inj h
      refine hf.mono rfl fun j hj => captures_setSession ?_ hj
      rintro ⟨-, hclosed⟩
      cases hclosed
  | handle i edidString => exact hf.execHandler hs hapart h
  | applyHostDisplayAdvertisement edidString =>
      rw [State.step, State.updateHostDisplayAdvertisement, State.setHostDisplayAdvertised_eq] at h
      obtain rfl := Option.some.inj h
      exact hf
  | reapplyHostDisplayAdvertisement edidString =>
      rw [State.step, State.updateHostDisplayAdvertisement, State.setHostDisplayAdvertised_eq] at h
      obtain rfl := Option.some.inj h
      exact hf
  | encodeFrame =>
      obtain ⟨-, h⟩ := Option.ite_none_right_eq_some.mp h
      obtain rfl := Option.some.inj h
      exact hf
  | writeFrame =>
      obtain ⟨-, h⟩ := Option.ite_none_left_eq_some.mp h
      obtain rfl := Option.some.inj h
      exact hf

end State.AudioFollows

/-! ### Runs -/

omit [DecidableEq Id] in
/-- When no handler runs, the stream and the audio are as they should be. -/
theorem followsSessions_of_quiet (hs : s.Sound) (hvideo : s.VideoFollows) (haudio : s.AudioFollows)
    (quiet : s.Quiet) :
  s.FollowsSessions
  := by
  obtain ⟨n, hn, -⟩ := hs.counted
  have hrunning : s.lastCall = some .videoStart ↔ 0 < s.actionSessions := by
    apply hvideo.on_iff
    · rw [hn]
      exact Int.natCast_nonneg n
    · intro i hi
      rw [Session.StartsVideo, quiet i] at hi
      cases hi
    · intro i hi
      rw [Session.StopsVideo, quiet i] at hi
      cases hi
  constructor
  · exact hrunning.mpr
  · intro hzero hstart
    exact absurd (hrunning.mp hstart) (by omega)
  · intro i hlast hlistens
    apply haudio i
    use hlast, hlistens
    rw [quiet i]
    rfl

/-- In a run in which every handler leaves alone what has been started for other sessions, video and
audio follow the sessions whenever no handler runs. -/
theorem followsSessions_of_run {tr : List (Lts.Transition (State Id) (Action Id))}
    (run : (lts hide).Run .start tr s) (hapart : ∀ e ∈ tr, e.before.StepsApart e.action)
    (quiet : s.Quiet) :
  s.FollowsSessions
  := by
  have hinv : s.Sound ∧ s.VideoFollows ∧ s.AudioFollows := by
    apply run.invariant (I := fun s => s.Sound ∧ s.VideoFollows ∧ s.AudioFollows)
    · use State.start_sound, videoFollows_start
      rintro i ⟨hlast, -⟩
      cases hlast
    · rintro e he ⟨hs, hvideo, haudio⟩ hstep
      exact ⟨hs.step hstep, hvideo.step hs (hapart e he) hstep, haudio.step hs (hapart e he) hstep⟩
  exact followsSessions_of_quiet hinv.1 hinv.2.1 hinv.2.2 quiet

instance : DecidablePred Session.StartsVideo :=
  fun session => inferInstanceAs (Decidable (session.point.startsVideo = true))

section Decide

variable [Fintype Id] (s : State Id)

instance (i : Id) : Decidable (s.Captures i) :=
  inferInstanceAs (Decidable (_ ∧ (_ ∧ _) ∧ _))

instance (i : Id) : Decidable (s.HandlesApart i) := by
  delta State.HandlesApart
  cases (s.sessions i).point <;> infer_instance

instance : (a : Action Id) → Decidable (s.StepsApart a)
  | .handle i _ => inferInstanceAs (Decidable (s.HandlesApart i))
  | .exchangeOffer _ _ _ _ => .isTrue trivial
  | .accept _ => .isTrue trivial
  | .connected _ => .isTrue trivial
  | .closed _ => .isTrue trivial
  | .applyHostDisplayAdvertisement _ => .isTrue trivial
  | .reapplyHostDisplayAdvertisement _ => .isTrue trivial
  | .encodeFrame => .isTrue trivial
  | .writeFrame => .isTrue trivial

end Decide

/-- The offers of two sessions, the first of which connects. -/
def firstConnects : List (Action Bool) :=
  [.exchangeOffer false "h264" "" true, .exchangeOffer true "h264" "" true, .connected false] ++
    List.replicate 5 (.handle false "")

/-- The second session connects before the first one is closed. -/
theorem followsSessions_of_takeover :
  ∃ (tr : List (Lts.Transition (State Bool) (Action Bool))) (s : State Bool),
    (lts false).Run .start tr s ∧ s.actionSessions = 1 ∧ s.lastConnected = some true ∧
      s.FollowsSessions
  := by
  obtain ⟨tr, s, run, -, hapart, hobserve⟩ := Lts.exists_run_of_restrict (State.step false)
    State.StepsApart (State.start : State Bool)
    (firstConnects ++ .connected true :: List.replicate 2 (.handle true "") ++
      .closed false :: List.replicate 3 (.handle false ""))
    (fun s => decide ((∀ i, (s.sessions i).point = .idle) ∧ s.actionSessions = 1 ∧
      s.lastConnected = some true)) (o := true) (by decide +kernel)
  obtain ⟨quiet, hcount, hlast⟩ := of_decide_eq_true hobserve
  use tr, s, run, hcount, hlast
  exact followsSessions_of_run run hapart quiet

/-- The handler of the first session has been about to stop the video stream when the second session
connects, and stops the stream and the audio of the second session afterwards. -/
theorem not_followsSessions :
  (¬ ∀ (tr : List (Lts.Transition (State Bool) (Action Bool))) (s : State Bool),
    (lts false).Run .start tr s → s.Quiet →
      0 < s.actionSessions → s.lastCall = some .videoStart) ∧
  ¬ ∀ (tr : List (Lts.Transition (State Bool) (Action Bool))) (s : State Bool),
    (lts false).Run .start tr s → s.Quiet →
      ∀ i, s.lastConnected = some i → (s.sessions i).Listens → s.audioTrack = some i
  := by
  obtain ⟨tr, s, run, -, hobserve⟩ := Lts.exists_run_of_observe (State.step false)
    (State.start : State Bool)
    (firstConnects ++ .closed false :: List.replicate 3 (.handle false "") ++
      .connected true :: List.replicate 5 (.handle true "") ++ List.replicate 3 (.handle false ""))
    (fun s => decide ((∀ i, (s.sessions i).point = .idle) ∧ 0 < s.actionSessions ∧
      s.lastCall = some .videoStop ∧ s.lastConnected = some true ∧
      (s.sessions true).hasAudioTrack = true ∧ (s.sessions true).closed = false ∧
      s.audioTrack = none)) (o := true) (by decide +kernel)
  obtain ⟨quiet, hcount, hstop, hlast, htrack, hclosed, hnone⟩ := of_decide_eq_true hobserve
  constructor
  · intro claim
    cases hstop.symm.trans (claim tr s run quiet hcount)
  · intro claim
    cases hnone.symm.trans (claim tr s run quiet true hlast ⟨htrack, hclosed⟩)

end JetKvm.Sessions
