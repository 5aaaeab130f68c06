import JetKvm.Library.EdgeTrigger
import JetKvm.Session.Handlers

/-!
# The advertisement of the host's display

The handler of the first connection advertises the host's display, whatever the number of sessions is
by then, and the handler of the last end and the two calls read the number anew. Whenever no handler
runs, the display is advertised as it should be.
-/

namespace JetKvm.Sessions

/-- The handler is about to advertise the host's display. -/
def Session.Advertises (session : Session) : Prop :=
  session.point = .setHostDisplayAdvertised

/-- The handler of the last end has still to read the number of sessions anew. -/
def Point.reconciles : Point → Bool
  | .stopAudio | .videoStop | .applyHostDisplayAdvertisement => true
  | _ => false

def Session.Reconciles (session : Session) : Prop :=
  session.point.reconciles = true

/-- The host's display is advertised while there are sessions, up to handlers on their way. -/
def State.DisplayFollows {Id : Type*} (s : State Id) : Prop :=
  EdgeTriggered s.sessions s.actionSessions (s.hostDisplayAdvertised = true) Session.Advertises
    Session.Reconciles

variable {Id : Type*} [DecidableEq Id] {s t : State Id} {i : Id} {x : Session} {hide : Bool}
  {edidString : String} {a : Action Id}

/-! ### When the display is hidden while there is no session -/

omit [DecidableEq Id] in
theorem displayFollows_start : (State.start : State Id).DisplayFollows
  := by
  constructor
  · intro hpos
    cases hpos
  · intro _
    left
    simp [State.start]

omit [DecidableEq Id] in
/-- Reading the number anew makes the advertisement right at once. -/
theorem updateHostDisplayAdvertisement_iff (force : Bool) :
  (s.updateHostDisplayAdvertisement true edidString force).hostDisplayAdvertised = true ↔
    0 < s.actionSessions
  := by
  rw [State.updateHostDisplayAdvertisement, State.setHostDisplayAdvertised_eq]
  simp [State.shouldAdvertiseHostDisplay]

namespace State.DisplayFollows

omit [DecidableEq Id] in
theorem update (force : Bool) :
  (s.updateHostDisplayAdvertisement true edidString force).DisplayFollows
  := by
  apply EdgeTriggered.of_iff
  rw [updateHostDisplayAdvertisement_iff, State.updateHostDisplayAdvertisement,
    State.setHostDisplayAdvertised_eq]

/-- A handler goes to a point where it is about to do what it was about to do before. -/
theorem setPoint (hf : s.DisplayFollows) {p : Point} (q : Point) (hp : (s.sessions i).point = p)
    (h : p ≠ .setHostDisplayAdvertised ∧ (p.reconciles = true → q.reconciles = true)) :
  (s.setPoint i q).DisplayFollows
  := by
  apply EdgeTriggered.update hf
  · intro hi
    cases h.1 (hp ▸ hi)
  · intro hi
    rw [Session.Reconciles, hp] at hi
    apply h.2 hi

/-- A step of a handler keeps the display following the sessions. -/
theorem execHandler (hf : s.DisplayFollows) (hs : s.Sound)
    (h : s.execHandler true edidString i = some t) :
  t.DisplayFollows
  := by
  have hx := hs.sessions i
  obtain ⟨n, hn, -⟩ := hs.counted
  cases hp : (s.sessions i).point with
  | idle =>
      rw [State.execHandler, hp] at h
      cases h
  | incrActiveSessions =>
      rw [State.execHandler, hp] at h
      obtain rfl := Option.some.inj h
      apply EdgeTriggered.countUp hf
      · omega
      · intro h
        cases hp.symm.trans h
      · intro hfirst
        apply if_pos hfirst
  | setHostDisplayAdvertised =>
      rw [State.execHandler, hp, State.setHostDisplayAdvertised_eq] at h
      obtain rfl := Option.some.inj h
      apply EdgeTriggered.turnOn rfl
      apply hs.actionSessions_pos_iff.mpr
      use i
      apply hx.counted
      rw [hp]
      rfl
  | videoSetCodecType =>
      rw [State.execHandler, hp] at h
      obtain rfl := Option.some.inj h
      exact hf.setPoint .videoStart hp (by decide)
  | videoStart =>
      rw [State.execHandler, hp] at h
      obtain rfl := Option.some.inj h
      exact hf.setPoint .startAudio hp (by decide)
  | startAudio =>
      rw [State.execHandler, hp] at h
      obtain rfl := Option.some.inj h
      exact hf.setPoint .idle hp (by decide)
  | compareCurrent =>
      rw [State.execHandler, hp] at h
      obtain rfl := Option.some.inj h
      apply hf.setPoint _ hp
      split <;> decide
  | clearCurrent =>
      rw [State.execHandler, hp] at h
      obtain rfl := Option.some.inj h
      exact hf.setPoint .stopAudioIfOwner hp (by decide)
  | stopAudioIfOwner =>
      rw [State.execHandler, hp, State.stopAudioIfOwner_eq] at h
      obtain rfl := Option.some.inj h
      apply hf.setPoint _ hp
      split <;> decide
  | decrActiveSessions =>
      rw [State.execHandler, hp] at h
      obtain rfl := Option.some.inj h
      apply EdgeTriggered.countDown hf
      · intro h
        cases hp.symm.trans h
      · intro hlast
        rw [Session.Reconciles, if_pos hlast]
        rfl
  | stopAudio =>
      rw [State.execHandler, hp] at h
      obtain rfl := Option.some.inj h
      exact hf.setPoint .videoStop hp (by decide)
  | videoStop =>
      rw [State.execHandler, hp] at h
      obtain rfl := Option.some.inj h
      exact hf.setPoint .applyHostDisplayAdvertisement hp (by decide)
  | applyHostDisplayAdvertisement =>
      rw [State.execHandler, hp] at h
      obtain rfl := Option.some.inj h
      apply EdgeTriggered.of_iff
      apply (updateHostDisplayAdvertisement_iff false).trans
      rw [State.updateHostDisplayAdvertisement, State.setHostDisplayAdvertised_eq]
      rfl

/-- A step keeps the display following the sessions. -/
theorem step (hf : s.DisplayFollows) (hs : s.Sound) (h : s.step true a = some t) :
  t.DisplayFollows
  := by
  cases a with
  | exchangeOffer i =>
      obtain ⟨-, h⟩ := Option.ite_none_left_eq_some.mp h
      obtain rfl := Option.some.inj h
      apply EdgeTriggered.update hf
      · exact id
      · exact id
  | accept i =>
      obtain ⟨-, h⟩ := Option.ite_none_right_eq_some.mp h
      obtain rfl := Option.some.inj h
      apply EdgeTriggered.update hf
      · exact id
      · exact id
  | connected i =>
      obtain ⟨⟨-, -, hidle⟩, h⟩ := Option.ite_none_right_eq_some.mp h
      obtain rfl := Option.some.inj h
      split
      · apply hf
      · exact hf.setPoint .incrActiveSessions hidle (by decide)
  | closed i =>
      obtain ⟨⟨-, hidle⟩, h⟩ := Option.ite_none_right_eq_some.mp h
      obtain rfl := Option.some.inj h
      apply EdgeTriggered.update hf
      · intro hi
        cases hidle.symm.trans hi
      · intro hi
        rw [Session.Reconciles, hidle] at hi
        cases hi
  | handle i edidString => apply hf.execHandler hs h
  | applyHostDisplayAdvertisement edidString =>
      obtain rfl := Option.some.inj h
      apply update
  | reapplyHostDisplayAdvertisement edidString =>
      obtain rfl := Option.some.inj h
      apply update
  | encodeFrame =>
      obtain ⟨-, h⟩ := Option.ite_none_right_eq_some.mp h
      obtain rfl := Option.some.inj h
      apply hf
  | writeFrame =>
      obtain ⟨-, h⟩ := Option.ite_none_left_eq_some.mp h
      obtain rfl := Option.some.inj h
      apply hf

end State.DisplayFollows

/-! ### When the display is not hidden -/

/-- The handler is about to count its session, or to advertise the host's display. -/
def Session.Connects (session : Session) : Prop :=
  session.point = .incrActiveSessions ∨ session.Advertises

/-- A connection, or a call that reads the number of sessions anew. -/
def Action.Asks : Action Id → Prop
  | .connected _ => True
  | .applyHostDisplayAdvertisement _ => True
  | .reapplyHostDisplayAdvertisement _ => True
  | _ => False

/-- The display is advertised, or a handler is on its way to do it, once it is asked for, and while
there are sessions. -/
structure OnceAsked {Id : Type*} (sessions : Id → Session) (actionSessions : Int)
    (hostDisplayAdvertised : Bool) (asked : Prop) : Prop where
  asked : asked → hostDisplayAdvertised = true ∨ ∃ i, (sessions i).Connects
  counted : 0 < actionSessions → hostDisplayAdvertised = true ∨ ∃ i, (sessions i).Advertises

/-- The host's display is advertised once it is asked for, up to handlers on their way. -/
def State.StaysAdvertised {Id : Type*} (s : State Id) (asked : Prop) : Prop :=
  OnceAsked s.sessions s.actionSessions s.hostDisplayAdvertised asked

omit [DecidableEq Id] in
/-- It is advertised whatever the number of sessions is. -/
theorem updateHostDisplayAdvertisement_shown (force : Bool) :
  (s.updateHostDisplayAdvertisement false edidString force).hostDisplayAdvertised = true
  := by
  rw [State.updateHostDisplayAdvertisement, State.setHostDisplayAdvertised_eq]
  rfl

namespace State.StaysAdvertised

variable {asked asked' : Prop}

omit [DecidableEq Id] in
theorem of_advertised (h : s.hostDisplayAdvertised = true) :
  s.StaysAdvertised asked
  := ⟨fun _ => Or.inl h, fun _ => Or.inl h⟩

omit [DecidableEq Id] in
theorem mono (hf : s.StaysAdvertised asked) (h : asked' → asked) :
  s.StaysAdvertised asked'
  := ⟨fun h' => hf.asked (h h'), hf.counted⟩

/-- A session changes whose handler is on its way to advertise the display afterwards if it was
before. -/
theorem setSession (hf : s.StaysAdvertised asked)
    (hconnects : (s.sessions i).Connects → x.Connects)
    (hadvertises : (s.sessions i).Advertises → x.Advertises) :
  (s.setSession i x).StaysAdvertised asked
  := by
  constructor
  · intro h
    obtain hshown | hsome := hf.asked h
    · exact Or.inl hshown
    · exact Or.inr (Pool.exists_update hsome hconnects)
  · intro hpos
    obtain hshown | hsome := hf.counted hpos
    · exact Or.inl hshown
    · exact Or.inr (Pool.exists_update hsome hadvertises)

/-- A handler goes from a point that is not one of a connection. -/
theorem setPoint (hf : s.StaysAdvertised asked) {p : Point} (q : Point)
    (hp : (s.sessions i).point = p)
    (h : p ≠ .incrActiveSessions ∧ p ≠ .setHostDisplayAdvertised) :
  (s.setPoint i q).StaysAdvertised asked
  := by
  apply hf.setSession
  · rintro (hi | hi)
    · exact absurd (hp.symm.trans hi) h.1
    · exact absurd (hp.symm.trans hi) h.2
  · intro hi
    exact absurd (hp.symm.trans hi) h.2

/-- A step of a handler. -/
theorem execHandler (hf : s.StaysAdvertised asked) (hs : s.Sound)
    (h : s.execHandler false edidString i = some t) :
  t.StaysAdvertised asked
  := by
  cases hp : (s.sessions i).point with
  | idle =>
      rw [State.execHandler, hp] at h
      cases h
  | incrActiveSessions =>
      rw [State.execHandler, hp] at h
      obtain rfl := Option.some.inj h
      obtain ⟨n, hn, -⟩ := hs.counted
      have hadvertises : s.hostDisplayAdvertised = true ∨ ∃ j, ((Function.update s.sessions i
          { s.sessions i with
            isConnected := true
            point :=
              if s.actionSessions + 1 = 1 then .setHostDisplayAdvertised
              else .startAudio }) j).Advertises := by
        by_cases hfirst : s.actionSessions + 1 = 1
        · right
          apply Pool.exists_update_self Session.Advertises i
          rw [Session.Advertises, if_pos hfirst]
        · obtain hshown | hsome := hf.counted (by omega)
          · exact Or.inl hshown
          · right
            apply Pool.exists_update_of_not Session.Advertises _ hsome
            intro hi
            cases hp.symm.trans hi
      constructor
      · intro _
        obtain hshown | ⟨j, hj⟩ := hadvertises
        · exact Or.inl hshown
        · exact Or.inr ⟨j, Or.inr hj⟩
      · exact fun _ => hadvertises
  | setHostDisplayAdvertised =>
      rw [State.execHandler, hp, State.setHostDisplayAdvertised_eq] at h
      obtain rfl := Option.some.inj h
      exact of_advertised rfl
  | applyHostDisplayAdvertisement =>
      rw [State.execHandler, hp] at h
      obtain rfl := Option.some.inj h
      exact of_advertised (updateHostDisplayAdvertisement_shown false)
  | stopAudioIfOwner =>
      rw [State.execHandler, hp, State.stopAudioIfOwner_eq] at h
      obtain rfl := Option.some.inj h
      exact hf.setPoint _ hp (by decide)
  | decrActiveSessions =>
      rw [State.execHandler, hp] at h
      obtain rfl := Option.some.inj h
      have hconnects : ¬ (s.sessions i).Connects := by
        rintro (hi | hi)
        · cases hp.symm.trans hi
        · cases hp.symm.trans hi
      constructor
      · intro h
        obtain hshown | hsome := hf.asked h
        · exact Or.inl hshown
        · exact Or.inr (Pool.exists_update_of_not Session.Connects _ hsome hconnects)
      · intro hpos
        have hcounted : 0 < s.actionSessions := Int.lt_of_lt_of_le hpos (Int.sub_le_self _ (by decide))
        obtain hshown | hsome := hf.counted hcounted
        · exact Or.inl hshown
        · right
          apply Pool.exists_update_of_not Session.Advertises _ hsome
          exact fun hi => hconnects (Or.inr hi)
  | _ =>
      rw [State.execHandler, hp] at h
      obtain rfl := Option.some.inj h
      exact hf.setPoint _ hp (by decide)

/-- A step that asks for the display puts a handler on its way, or advertises the display. -/
theorem step (hf : s.StaysAdvertised asked) (hs : s.Sound) (h : s.step false a = some t) :
  t.StaysAdvertised (asked ∨ a.Asks)
  := by
  have hsame : ∀ {u : State Id}, ¬ a.Asks → u.StaysAdvertised asked →
      u.StaysAdvertised (asked ∨ a.Asks) :=
    fun hnot hu => hu.mono fun h => h.resolve_right hnot
  cases a with
  | exchangeOffer i videoCodecPreference offerSDP hasAudioTrack =>
      obtain ⟨-, h⟩ := Option.ite_none_left_eq_some.mp h
      obtain rfl := Option.some.inj h
      exact hsame id (hf.setSession id id)
  | accept i =>
      obtain ⟨-, h⟩ := Option.ite_none_right_eq_some.mp h
      obtain rfl := Option.some.inj h
      exact hsame id (hf.setSession (x := { s.sessions i with accepted := true }) id id)
  | connected i =>
      obtain ⟨⟨-, -, hidle⟩, h⟩ := Option.ite_none_right_eq_some.mp h
      obtain rfl := Option.some.inj h
      split
      · next hconnected =>
          have hpos := hs.actionSessions_pos_iff.mpr ⟨i, hconnected⟩
          constructor
          · intro _
            obtain hshown | ⟨j, hj⟩ := hf.counted hpos
            · exact Or.inl hshown
            · exact Or.inr ⟨j, Or.inr hj⟩
          · exact hf.counted
      · obtain ⟨-, hcounted⟩ := hf.setPoint .incrActiveSessions hidle (by decide)
        constructor
        · intro _
          right
          apply Pool.exists_update_self Session.Connects i
          exact Or.inl rfl
        · exact hcounted
  | closed i =>
      obtain ⟨⟨-, hidle⟩, h⟩ := Option.ite_none_right_eq_some.mp h
      obtain rfl := Option.some.inj h
      apply hsame id
      apply hf.setSession
      · rintro (hi | hi)
        · cases hidle.symm.trans hi
        · cases hidle.symm.trans hi
      · intro hi
        cases hidle.symm.trans hi
  | handle i edidString => exact hsame id (hf.execHandler hs h)
  | applyHostDisplayAdvertisement edidString =>
      obtain rfl := Option.some.inj h
      exact of_advertised (updateHostDisplayAdvertisement_shown false)
  | reapplyHostDisplayAdvertisement edidString =>
      obtain rfl := Option.some.inj h
      exact of_advertised (updateHostDisplayAdvertisement_shown true)
  | encodeFrame =>
      obtain ⟨-, h⟩ := Option.ite_none_right_eq_some.mp h
      obtain rfl := Option.some.inj h
      exact hsame id hf
  | writeFrame =>
      obtain ⟨-, h⟩ := Option.ite_none_left_eq_some.mp h
      obtain rfl := Option.some.inj h
      exact hsame id hf

end State.StaysAdvertised

/-! ### The EDID -/

/-- The EDID that was sent last, if there is one, is the one that says whether the display is
advertised. -/
def State.EdidAgrees {Id : Type*} (s : State Id) : Prop :=
  ∀ edid ∈ s.edid, edid = disabledEDID ↔ s.hostDisplayAdvertised = false

theorem configuredVideoEDID_ne : configuredVideoEDID edidString ≠ disabledEDID
  := by
  have hdefault : defaultEDID ≠ disabledEDID := by decide +kernel
  rw [configuredVideoEDID]
  split
  · exact hdefault
  · next h => exact fun heq => h (Or.inr heq)

namespace State.EdidAgrees

omit [DecidableEq Id] in
theorem congr (hf : s.EdidAgrees) (hedid : t.edid = s.edid)
    (hadvertised : t.hostDisplayAdvertised = s.hostDisplayAdvertised) :
  t.EdidAgrees
  := by
  rw [EdidAgrees, hedid, hadvertised]
  exact hf

omit [DecidableEq Id] in
/-- Whatever is asked for, the EDID that is sent says it. -/
theorem setHostDisplayAdvertised (hf : s.EdidAgrees) (enabled force : Bool) :
  (s.setHostDisplayAdvertised enabled edidString force).EdidAgrees
  := by
  rw [State.setHostDisplayAdvertised]
  split
  · exact hf
  · intro edid hedid
    obtain rfl := Option.some.inj hedid
    cases enabled with
    | true => exact iff_of_false configuredVideoEDID_ne fun h => by cases h
    | false => exact iff_of_true rfl rfl

theorem execHandler (hf : s.EdidAgrees) (h : s.execHandler hide edidString i = some t) :
  t.EdidAgrees
  := by
  cases hp : (s.sessions i).point with
  | idle =>
      rw [State.execHandler, hp] at h
      cases h
  | setHostDisplayAdvertised =>
      rw [State.execHandler, hp] at h
      obtain rfl := Option.some.inj h
      exact (hf.setHostDisplayAdvertised true false).congr rfl rfl
  | applyHostDisplayAdvertisement =>
      rw [State.execHandler, hp] at h
      obtain rfl := Option.some.inj h
      exact (hf.setHostDisplayAdvertised _ false).congr rfl rfl
  | stopAudioIfOwner =>
      rw [State.execHandler, hp, State.stopAudioIfOwner_eq] at h
      obtain rfl := Option.some.inj h
      exact hf.congr rfl rfl
  | _ =>
      rw [State.execHandler, hp] at h
      obtain rfl := Option.some.inj h
      exact hf.congr rfl rfl

theorem step (hf : s.EdidAgrees) (h : s.step hide a = some t) :
  t.EdidAgrees
  := by
  cases a with
  | exchangeOffer i videoCodecPreference offerSDP hasAudioTrack =>
      obtain ⟨-, h⟩ := Option.ite_none_left_eq_some.mp h
      obtain rfl := Option.some.inj h
      exact hf
  | accept i =>
      obtain ⟨-, h⟩ := Option.ite_none_right_eq_some.mp h
      obtain rfl := Option.some.inj h
      exact hf
  | connected i =>
      obtain ⟨-, h⟩ := Option.ite_none_right_eq_some.mp h
      obtain rfl := Option.some.inj h
      split
      · exact hf
      · exact hf
  | closed i =>
      obtain ⟨-, h⟩ := Option.ite_none_right_eq_some.mp h
      obtain rfl := Option.some.inj h
      exact hf
  | handle i edidString => exact hf.execHandler h
  | applyHostDisplayAdvertisement edidString =>
      obtain rfl := Option.some.inj h
      exact hf.setHostDisplayAdvertised _ false
  | reapplyHostDisplayAdvertisement edidString =>
      obtain rfl := Option.some.inj h
      exact hf.setHostDisplayAdvertised _ true
  | encodeFrame =>
      obtain ⟨-, h⟩ := Option.ite_none_right_eq_some.mp h
      obtain rfl := Option.some.inj h
      exact hf
  | writeFrame =>
      obtain ⟨-, h⟩ := Option.ite_none_left_eq_some.mp h
      obtain rfl := Option.some.inj h
      exact hf

end State.EdidAgrees

/-! ### Runs -/

variable {tr : List (Lts.Transition (State Id) (Action Id))}

theorem sound_of_run (run : (lts hide).Run .start tr s) : s.Sound
  := run.invariant State.start_sound fun _ _ hs hstep => hs.step hstep

theorem displayFollows_of_run (run : (lts true).Run .start tr s) : s.DisplayFollows
  := by
  induction run with
  | nil => exact displayFollows_start
  | snoc run step ih => exact ih.step (sound_of_run run) step

theorem staysAdvertised_of_run (run : (lts false).Run .start tr s) :
  s.StaysAdvertised (∃ e ∈ tr, e.action.Asks)
  := by
  induction run with
  | nil =>
      constructor
      · rintro ⟨e, he, -⟩
        cases he
      · intro hpos
        cases hpos
  | snoc run step ih =>
      apply (ih.step (sound_of_run run) step).mono
      rintro ⟨e, he, hasks⟩
      obtain he | he := List.mem_append.mp he
      · exact Or.inl ⟨e, he, hasks⟩
      · obtain rfl := List.mem_singleton.mp he
        exact Or.inr hasks

/-- Whenever nothing is in progress, the display is advertised as it should be, once a session has
connected or a call has asked for it, and the EDID that was sent last says so. -/
theorem display_follows_sessions (run : (lts hide).Run .start tr s) (quiet : s.Quiet) :
  ((∃ e ∈ tr, e.action.Asks) →
    (s.hostDisplayAdvertised = true ↔ hide = false ∨ 0 < s.actionSessions)) ∧
  ∀ edid ∈ s.edid, edid = disabledEDID ↔ s.hostDisplayAdvertised = false
  := by
  have hedid : s.EdidAgrees := by
    apply run.invariant (I := State.EdidAgrees)
    · intro edid hedid
      cases hedid
    · intro e _ hf hstep
      exact hf.step hstep
  constructor
  · intro hasks
    have hpoint : ∀ {p : Point} {i : Id}, (s.sessions i).point = p → p = .idle :=
      fun {_ i} hp => hp.symm.trans (quiet i)
    cases hide with
    | true =>
        obtain ⟨n, hn, -⟩ := (sound_of_run run).counted
        rw [or_iff_right (by decide)]
        apply (displayFollows_of_run run).on_iff
        · rw [hn]
          exact Int.natCast_nonneg n
        · intro i hi
          cases hpoint hi
        · intro i hi
          rw [Session.Reconciles, quiet i] at hi
          cases hi
    | false =>
        apply iff_of_true _ (Or.inl rfl)
        obtain hshown | ⟨i, hi | hi⟩ := (staysAdvertised_of_run run).asked hasks
        · exact hshown
        · cases hpoint hi
        · cases hpoint hi
  · exact hedid

/-- A session connects, and the display, which is hidden otherwise, is advertised. -/
theorem display_follows_one_session :
  ∃ (tr : List (Lts.Transition (State Unit) (Action Unit))) (s : State Unit),
    (lts true).Run .start tr s ∧ s.actionSessions = 1 ∧ s.hostDisplayAdvertised = true ∧
      ∀ edid ∈ s.edid, edid ≠ disabledEDID
  := by
  obtain ⟨tr, s, run, hactions, hobserve⟩ := Lts.exists_run_of_observe (State.step true)
    (State.start : State Unit)
    (.exchangeOffer () "h264" "" false :: .connected () :: List.replicate 5 (.handle () ""))
    (fun s => decide ((s.sessions ()).point = .idle ∧ s.actionSessions = 1)) (o := true)
    (by decide +kernel)
  obtain ⟨hidle, hcount⟩ := of_decide_eq_true hobserve
  have hasks : ∃ e ∈ tr, e.action.Asks := by
    have hmem : .connected () ∈ tr.map Lts.Transition.action := by
      rw [hactions]
      exact List.mem_cons_of_mem _ List.mem_cons_self
    obtain ⟨e, he, hconnected⟩ := List.mem_map.mp hmem
    exact ⟨e, he, hconnected ▸ trivial⟩
  obtain ⟨hdisplay, hedid⟩ := display_follows_sessions run fun _ => hidle
  have hshown := (hdisplay hasks).mpr (Or.inr (by omega))
  use tr, s, run, hcount, hshown
  intro edid hsent hdisabled
  cases hshown.symm.trans ((hedid edid hsent).mp hdisabled)

/-- A handler takes a step, or a call is made. -/
def Action.Runs : Action Id → Prop
  | .handle _ _ => True
  | .applyHostDisplayAdvertisement _ => True
  | .reapplyHostDisplayAdvertisement _ => True
  | _ => False

/-- A session that has never connected is closed while the display is not hidden: nothing is
advertised, and no EDID is sent. -/
theorem not_display_follows_closed :
  (¬ ∀ (tr : List (Lts.Transition (State Unit) (Action Unit))) (s : State Unit),
    (lts false).Run .start tr s → s.Quiet → (∃ e ∈ tr, e.action.Runs) →
      (s.hostDisplayAdvertised = true ↔ false = false ∨ 0 < s.actionSessions)) ∧
  ¬ ∀ (tr : List (Lts.Transition (State Unit) (Action Unit))) (s : State Unit),
    (lts false).Run .start tr s → s.Quiet → (∃ e ∈ tr, e.action.Runs) →
      (s.edid = some disabledEDID ↔ s.hostDisplayAdvertised = false)
  := by
  obtain ⟨tr, s, run, hactions, hobserve⟩ := Lts.exists_run_of_observe (State.step false)
    (State.start : State Unit)
    [.exchangeOffer () "h264" "" false, .closed (), .handle () "", .handle () ""]
    (fun s => decide ((s.sessions ()).point = .idle ∧ s.hostDisplayAdvertised = false ∧
      s.edid = none)) (o := true) (by decide +kernel)
  obtain ⟨hidle, hhidden, hnone⟩ := of_decide_eq_true hobserve
  have hruns : ∃ e ∈ tr, e.action.Runs := by
    have hmem : .handle () "" ∈ tr.map Lts.Transition.action := by
      rw [hactions]
      simp
    obtain ⟨e, he, hhandle⟩ := List.mem_map.mp hmem
    exact ⟨e, he, hhandle ▸ trivial⟩
  constructor
  · intro claim
    cases hhidden.symm.trans ((claim tr s run (fun _ => hidle) hruns).mpr (Or.inl rfl))
  · intro claim
    cases hnone.symm.trans ((claim tr s run (fun _ => hidle) hruns).mpr hhidden)

end JetKvm.Sessions
