import JetKvm.Session.Handlers

/-!
# The codec of the frames

A session negotiates the codec of its video track, and the encoder, which all sessions share, is set
to the codec of the session that connects when no other one is connected. A session that takes over
gets the frames of a stream that may have been started for another codec. The frames have the codec of
the current session as long as a session becomes the current one only when the stream has its codec.
-/

namespace JetKvm.Sessions

/-! ### Frames of the right codec -/

namespace State

variable {Id : Type*} (s : State Id)

/-- The frame has been encoded after the last handler of a connection has returned. -/
def Fresh (f : Frame) : Prop :=
  0 < f.connections ∧ f.connections = s.connections

instance (f : Frame) : Decidable (s.Fresh f) :=
  inferInstanceAs (Decidable (_ ∧ _))

/-- The stream, when it runs, and the fresh frames on their way have the codec of the session. -/
structure HasCodecOf (i : Id) : Prop where
  stream : s.lastCall = some .videoStart → s.streamCodecType = sessionVideoCodecType (s.sessions i)
  frames : ∀ f ∈ s.frames, s.Fresh f → f.codecType = sessionVideoCodecType (s.sessions i)

/-- The stream and the fresh frames have the codec of the current session, and no frame is newer than
the last connection. -/
structure CodecAgrees : Prop where
  current : ∀ i, s.currentSession = some i → s.HasCodecOf i
  connections : ∀ f ∈ s.frames, f.connections ≤ s.connections

/-- The handler of session `i` does not start a stream with another codec than that of the current
session. -/
def StartsCodec (i : Id) : Prop :=
  (s.sessions i).point = .videoStart → s.lastCall ≠ some .videoStart →
    ∀ j, s.currentSession = some j → s.codecType = sessionVideoCodecType (s.sessions j)

/-- A session becomes the current one only when the stream and the fresh frames have its codec, and a
stream is started with the codec of the current session. -/
def KeepsCodec : Action Id → Prop
  | .accept i => s.HasCodecOf i
  | .handle i _ => s.StartsCodec i
  | _ => True

/-- A fresh frame that is written to the track of the current session has its codec. -/
def WritesCodec : Action Id → Prop
  | .writeFrame => ∀ i, s.currentSession = some i → ∀ f ∈ s.frames.head?, s.Fresh f →
      f.codecType = sessionVideoCodecType (s.sessions i)
  | _ => True

end State

variable {Id : Type*} [DecidableEq Id] {s t : State Id} {i : Id} {x : Session} {hide : Bool}
  {edidString : String} {a : Action Id}

/-! ### Steps -/

namespace State.CodecAgrees

omit [DecidableEq Id] in
/-- What becomes of the codecs is seen in the stream, the frames, the current session and the codecs of
the sessions. -/
theorem congr (hf : s.CodecAgrees) (hcurrent : ∀ j, t.currentSession = some j →
      s.currentSession = some j ∧
        sessionVideoCodecType (t.sessions j) = sessionVideoCodecType (s.sessions j))
    (hstream : t.lastCall = some .videoStart →
      s.lastCall = some .videoStart ∧ t.streamCodecType = s.streamCodecType)
    (hframes : t.frames = s.frames) (hconnections : t.connections = s.connections) :
  t.CodecAgrees
  := by
  constructor
  · intro j hj
    obtain ⟨hj, htype⟩ := hcurrent j hj
    obtain ⟨hrunning, hfresh⟩ := hf.current j hj
    constructor
    · intro hstart
      obtain ⟨hstart, hsame⟩ := hstream hstart
      rw [hsame, htype]
      exact hrunning hstart
    · intro f hmem h
      rw [State.Fresh, hconnections] at h
      rw [hframes] at hmem
      rw [htype]
      exact hfresh f hmem h
  · rw [hframes, hconnections]
    exact hf.connections

/-- The codecs of the sessions do not change when that of the session that changes does not. -/
theorem codecType_of_update (h : t.sessions = Function.update s.sessions i x)
    (hx : x.codecMimeType = (s.sessions i).codecMimeType) (j : Id) :
  sessionVideoCodecType (t.sessions j) = sessionVideoCodecType (s.sessions j)
  := by
  rw [h]
  by_cases hji : j = i
  · subst hji
    rw [Function.update_self, sessionVideoCodecType, hx, sessionVideoCodecType]
  · rw [Function.update_of_ne hji]

/-- A handler does not change the codec of a session. -/
theorem codecType_execHandler (h : s.execHandler hide edidString i = some t) (j : Id) :
  sessionVideoCodecType (t.sessions j) = sessionVideoCodecType (s.sessions j)
  := by
  obtain ⟨x, hsessions, hx⟩ : ∃ x : Session, t.sessions = Function.update s.sessions i x ∧
      x.codecMimeType = (s.sessions i).codecMimeType := by
    cases hp : (s.sessions i).point with
    | idle =>
        rw [State.execHandler, hp] at h
        cases h
    | setHostDisplayAdvertised =>
        rw [State.execHandler, hp, State.setHostDisplayAdvertised_eq] at h
        obtain rfl := Option.some.inj h
        exact ⟨_, rfl, rfl⟩
    | stopAudioIfOwner =>
        rw [State.execHandler, hp, State.stopAudioIfOwner_eq] at h
        obtain rfl := Option.some.inj h
        exact ⟨_, rfl, rfl⟩
    | applyHostDisplayAdvertisement =>
        rw [State.execHandler, hp] at h
        obtain rfl := Option.some.inj h
        rw [State.updateHostDisplayAdvertisement, State.setHostDisplayAdvertised_eq]
        exact ⟨_, rfl, rfl⟩
    | _ =>
        rw [State.execHandler, hp] at h
        obtain rfl := Option.some.inj h
        exact ⟨_, rfl, rfl⟩
  exact codecType_of_update hsessions hx j

/-- A session changes, and not its codec. -/
theorem setSession (hf : s.CodecAgrees) (hx : x.codecMimeType = (s.sessions i).codecMimeType) :
  (s.setSession i x).CodecAgrees
  := hf.congr (fun j hj => ⟨hj, codecType_of_update rfl hx j⟩) (fun h => ⟨h, rfl⟩) rfl rfl

/-- A step of a handler that starts no stream with another codec. -/
theorem execHandler (hf : s.CodecAgrees) (hkeeps : s.StartsCodec i)
    (h : s.execHandler hide edidString i = some t) :
  t.CodecAgrees
  := by
  have htype : ∀ j, sessionVideoCodecType (t.sessions j) = sessionVideoCodecType (s.sessions j) :=
    codecType_execHandler h
  cases hp : (s.sessions i).point with
  | idle =>
      rw [State.execHandler, hp] at h
      cases h
  | setHostDisplayAdvertised =>
      rw [State.execHandler, hp, State.setHostDisplayAdvertised_eq] at h
      obtain rfl := Option.some.inj h
      exact hf.congr (fun j hj => ⟨hj, htype j⟩) (fun h => ⟨h, rfl⟩) rfl rfl
  | videoStart =>
      rw [State.execHandler, hp] at h
      obtain rfl := Option.some.inj h
      constructor
      · intro j hj
        obtain ⟨hrunning, hfresh⟩ := hf.current j hj
        constructor
        · intro _
          rw [htype]
          change (if s.lastCall = some .videoStart then s.streamCodecType else s.codecType) = _
          by_cases hstart : s.lastCall = some .videoStart
          · rw [if_pos hstart]
            exact hrunning hstart
          · rw [if_neg hstart]
            exact hkeeps hp hstart j hj
        · intro f hmem h
          rw [htype]
          exact hfresh f hmem h
      · exact hf.connections
  | startAudio =>
      rw [State.execHandler, hp] at h
      obtain rfl := Option.some.inj h
      constructor
      · intro j hj
        obtain ⟨hrunning, -⟩ := hf.current j hj
        constructor
        · intro hstart
          exact (hrunning hstart).trans (htype j).symm
        · rintro f hmem ⟨-, hfresh⟩
          have hold := hf.connections f hmem
          dsimp only at hfresh
          omega
      · intro f hmem
        have hold := hf.connections f hmem
        dsimp only
        omega
  | clearCurrent =>
      rw [State.execHandler, hp] at h
      obtain rfl := Option.some.inj h
      exact hf.congr (fun j hj => by cases hj) (fun h => ⟨h, rfl⟩) rfl rfl
  | stopAudioIfOwner =>
      rw [State.execHandler, hp, State.stopAudioIfOwner_eq] at h
      obtain rfl := Option.some.inj h
      exact hf.congr (fun j hj => ⟨hj, htype j⟩) (fun h => ⟨h, rfl⟩) rfl rfl
  | videoStop =>
      rw [State.execHandler, hp] at h
      obtain rfl := Option.some.inj h
      exact hf.congr (fun j hj => ⟨hj, htype j⟩) (fun h => by cases h) rfl rfl
  | applyHostDisplayAdvertisement =>
      rw [State.execHandler, hp] at h
      obtain rfl := Option.some.inj h
      rw [State.updateHostDisplayAdvertisement, State.setHostDisplayAdvertised_eq] at htype ⊢
      exact hf.congr (fun j hj => ⟨hj, htype j⟩) (fun h => ⟨h, rfl⟩) rfl rfl
  | _ =>
      rw [State.execHandler, hp] at h
      obtain rfl := Option.some.inj h
      exact hf.congr (fun j hj => ⟨hj, htype j⟩) (fun h => ⟨h, rfl⟩) rfl rfl

theorem step (hf : s.CodecAgrees) (hs : s.Sound) (hkeeps : s.KeepsCodec a)
    (h : s.step hide a = some t) :
  t.CodecAgrees
  := by
  cases a with
  | exchangeOffer i videoCodecPreference offerSDP hasAudioTrack =>
      obtain ⟨hoffered, h⟩ := Option.ite_none_left_eq_some.mp h
      obtain rfl := Option.some.inj h
      refine hf.congr (fun j hj => ⟨hj, ?_⟩) (fun h => ⟨h, rfl⟩) rfl rfl
      have hji : j ≠ i := by
        rintro rfl
        exact hoffered (hs.currentSession j hj)
      rw [State.sessions_setSession_of_ne s hji]
  | accept i =>
      obtain ⟨-, h⟩ := Option.ite_none_right_eq_some.mp h
      obtain rfl := Option.some.inj h
      constructor
      · intro j hj
        obtain rfl := Option.some.inj hj
        have htype : sessionVideoCodecType
            ((s.setSession i { s.sessions i with accepted := true }).sessions i) =
            sessionVideoCodecType (s.sessions i) := by
          rw [State.sessions_setSession_self]
          rfl
        exact ⟨fun hstart => (hkeeps.stream hstart).trans htype.symm,
          fun f hmem h => (hkeeps.frames f hmem h).trans htype.symm⟩
      · exact hf.connections
  | connected i =>
      obtain ⟨-, h⟩ := Option.ite_none_right_eq_some.mp h
      obtain rfl := Option.some.inj h
      split
      · exact hf
      · exact hf.setSession rfl
  | closed i =>
      obtain ⟨-, h⟩ := Option.ite_none_right_eq_some.mp h
      obtain rfl := Option.some.inj h
      exact hf.setSession rfl
  | handle i edidString => exact hf.execHandler hkeeps h
  | applyHostDisplayAdvertisement edidString =>
      rw [State.step, State.updateHostDisplayAdvertisement, State.setHostDisplayAdvertised_eq] at h
      obtain rfl := Option.some.inj h
      exact hf.congr (fun j hj => ⟨hj, rfl⟩) (fun h => ⟨h, rfl⟩) rfl rfl
  | reapplyHostDisplayAdvertisement edidString =>
      rw [State.step, State.updateHostDisplayAdvertisement, State.setHostDisplayAdvertised_eq] at h
      obtain rfl := Option.some.inj h
      exact hf.congr (fun j hj => ⟨hj, rfl⟩) (fun h => ⟨h, rfl⟩) rfl rfl
  | encodeFrame =>
      obtain ⟨hstart, h⟩ := Option.ite_none_right_eq_some.mp h
      obtain rfl := Option.some.inj h
      constructor
      · intro j hj
        obtain ⟨hrunning, hfresh⟩ := hf.current j hj
        use hrunning
        intro f hmem h
        obtain hmem | hmem := List.mem_append.mp hmem
        · exact hfresh f hmem h
        · obtain rfl := List.mem_singleton.mp hmem
          exact hrunning hstart
      · intro f hmem
        obtain hmem | hmem := List.mem_append.mp hmem
        · exact hf.connections f hmem
        · obtain rfl := List.mem_singleton.mp hmem
          exact Nat.le_refl _
  | writeFrame =>
      obtain ⟨-, h⟩ := Option.ite_none_left_eq_some.mp h
      obtain rfl := Option.some.inj h
      constructor
      · intro j hj
        obtain ⟨hrunning, hfresh⟩ := hf.current j hj
        exact ⟨hrunning, fun f hmem h => hfresh f (List.mem_of_mem_tail hmem) h⟩
      · exact fun f hmem => hf.connections f (List.mem_of_mem_tail hmem)

end State.CodecAgrees

/-! ### Runs -/

/-- In a run in which a session becomes the current one only when the stream has its codec, and a
stream is started only with the codec of the current session, every fresh frame that is written has
the codec of the current session. -/
theorem writesCodec_of_keepsCodec {tr : List (Lts.Transition (State Id) (Action Id))}
    (run : (lts hide).Run .start tr s) (hkeeps : ∀ e ∈ tr, e.before.KeepsCodec e.action) :
  ∀ e ∈ tr, e.before.WritesCodec e.action
  := by
  have hinv : ∀ e ∈ tr, e.before.Sound ∧ e.before.CodecAgrees := by
    apply run.invariant_before (I := fun s => s.Sound ∧ s.CodecAgrees)
    · use State.start_sound
      constructor
      · intro i hi
        cases hi
      · intro f hf
        cases hf
    · rintro e he ⟨hs, hf⟩ hstep
      exact ⟨hs.step hstep, hf.step hs (hkeeps e he) hstep⟩
  intro e he
  obtain ⟨before, action, after⟩ := e
  cases action with
  | writeFrame =>
      intro i hi f hf hfresh
      exact ((hinv _ he).2.current i hi).frames f (List.mem_of_head? hf) hfresh
  | _ => exact trivial

section Decide

variable [Fintype Id] (s : State Id)

instance (i : Id) : Decidable (s.HasCodecOf i) :=
  decidable_of_iff (_ ∧ _) ⟨fun h => ⟨h.1, h.2⟩, fun h => ⟨h.stream, h.frames⟩⟩

instance (i : Id) : Decidable (s.StartsCodec i) :=
  inferInstanceAs (Decidable (_ → _ → ∀ _, _))

instance : (a : Action Id) → Decidable (s.KeepsCodec a)
  | .accept i => inferInstanceAs (Decidable (s.HasCodecOf i))
  | .handle i _ => inferInstanceAs (Decidable (s.StartsCodec i))
  | .exchangeOffer _ _ _ _ => .isTrue trivial
  | .connected _ => .isTrue trivial
  | .closed _ => .isTrue trivial
  | .applyHostDisplayAdvertisement _ => .isTrue trivial
  | .reapplyHostDisplayAdvertisement _ => .isTrue trivial
  | .encodeFrame => .isTrue trivial
  | .writeFrame => .isTrue trivial

instance : (a : Action Id) → Decidable (s.WritesCodec a)
  | .writeFrame => inferInstanceAs (Decidable (∀ _, _ → ∀ f ∈ s.frames.head?, s.Fresh f → _))
  | .handle _ _ => .isTrue trivial
  | .exchangeOffer _ _ _ _ => .isTrue trivial
  | .accept _ => .isTrue trivial
  | .connected _ => .isTrue trivial
  | .closed _ => .isTrue trivial
  | .applyHostDisplayAdvertisement _ => .isTrue trivial
  | .reapplyHostDisplayAdvertisement _ => .isTrue trivial
  | .encodeFrame => .isTrue trivial

end Decide

/-- A session with H.264 is connected, and another one, with the given offer, takes over. Then a frame
is encoded and written. -/
def takeover (offerSDP : String) : List (Action Bool) :=
  [.exchangeOffer false "" "H264" false, .accept false, .connected false] ++
    List.replicate 5 (.handle false "") ++
    [.exchangeOffer true "" offerSDP false, .accept true, .connected true] ++
    List.replicate 2 (.handle true "") ++ [.encodeFrame, .writeFrame]

/-- A session with H.264 takes over, and a frame is written to its track. -/
theorem writesCodec_takeover :
  ∃ (tr : List (Lts.Transition (State Bool) (Action Bool))) (s : State Bool),
    (lts false).Run .start tr s ∧ s.currentSession = some true ∧
      tr.map Lts.Transition.action = takeover "H264" ∧
      ∀ e ∈ tr, e.before.WritesCodec e.action
  := by
  obtain ⟨tr, s, run, hactions, hkeeps, hobserve⟩ := Lts.exists_run_of_restrict (State.step false)
    State.KeepsCodec (State.start : State Bool) (takeover "H264") (·.currentSession)
    (o := some true) (by decide +kernel)
  exact ⟨tr, s, run, hobserve, hactions, writesCodec_of_keepsCodec run hkeeps⟩

/-- A session with H.265 takes over, and a frame encoded for H.264 is written to its track. -/
theorem not_writesCodec_takeover :
  ¬ ∀ (tr : List (Lts.Transition (State Bool) (Action Bool))) (s : State Bool),
    (lts false).Run .start tr s → ∀ e ∈ tr, e.before.WritesCodec e.action
  := by
  intro claim
  obtain ⟨tr, s, run, -, hobserve⟩ := Lts.exists_run_of_observe_transitions (State.step false)
    (State.start : State Bool) (takeover "H264 H265")
    (fun tr => tr.all fun e => decide (e.before.WritesCodec e.action)) (o := false)
    (by decide +kernel)
  apply absurd hobserve
  rw [Bool.not_eq_false, List.all_eq_true]
  exact fun e he => decide_eq_true (claim tr s run e he)

end JetKvm.Sessions
