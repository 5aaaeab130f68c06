import JetKvm.Library.ThreadCount
import Mathlib.Data.List.Infix
import Mathlib.Logic.Function.Basic

/-!
# The handlers of a session's connection

Every session has a handler for the states of its ICE connection. The handlers of one session run
one after the other, and those of different sessions at the same time. They count the sessions that
are connected, and on the first and on the last one they start and stop what the sessions share: the
advertisement of the host's display, the video stream and the capture of audio. A region under a
lock is one step, and so is a call of the native side. What the handlers do with the keyboard, with
virtual media and with what is shown is left out. A session's audio track is named by the session.
-/

namespace JetKvm.Sessions

/-! ### Sessions -/

def mimeTypeH264 : String :=
  "video/H264"

def mimeTypeH265 : String :=
  "video/H265"

/-- `resolveCodec`, with `config.VideoCodecPreference`. -/
def resolveCodec (videoCodecPreference offerSDP : String) : String :=
  let browserSupportsH265 := decide ("H265".toList <:+: offerSDP.toList.map Char.toUpper)
  if videoCodecPreference = "h265" then
    if browserSupportsH265 then mimeTypeH265 else mimeTypeH264
  else if videoCodecPreference = "h264" then mimeTypeH264
  else if browserSupportsH265 then mimeTypeH265
  else mimeTypeH264

/-- Where the handler of a session is. The first five points are those of a connection, and those
from `compareCurrent` on those of its end. -/
inductive Point where
  /-- Before `incrActiveSessions`. -/
  | incrActiveSessions
  /-- In `onFirstSessionConnected`. -/
  | setHostDisplayAdvertised
  | videoSetCodecType
  | videoStart
  /-- In `onSessionConnected`. -/
  | startAudio
  /-- Before the test whether the session is the current one. -/
  | compareCurrent
  /-- Before `currentSession` is set to `nil`. -/
  | clearCurrent
  | stopAudioIfOwner
  | decrActiveSessions
  /-- In `onLastSessionDisconnected`. -/
  | stopAudio
  | videoStop
  | applyHostDisplayAdvertisement
  /-- No handler runs. -/
  | idle
deriving DecidableEq, Repr

/-- A session: what it has negotiated, whether it has been made the current one, and what its
handlers know. -/
structure Session where
  offered : Bool := false
  codecMimeType : String := ""
  hasAudioTrack : Bool := false
  accepted : Bool := false
  isConnected : Bool := false
  closed : Bool := false
  point : Point := .idle
deriving DecidableEq, Repr

def sessionVideoCodecType (session : Session) : ℕ :=
  if session.codecMimeType = mimeTypeH265 then 1 else 0

/-! ### What the sessions share -/

/-- A call that starts or stops the video stream. -/
inductive VideoCall where
  | videoStart
  | videoStop
deriving DecidableEq, Repr

/-- A frame on its way, with the codec type in force when its stream was started and the number of
connections that had been handled when it was encoded. -/
structure Frame where
  codecType : ℕ
  connections : ℕ
deriving DecidableEq, Repr

/-- The sessions and what they share. The EDID is the one sent last, `streamCodecType` the codec type
in force when the stream was started, and `audioTrack` names the session to whose track audio is
captured. `lastConnected` is the session counted last, and `connections` is the number of
connections that have been handled. -/
structure State (Id : Type*) where
  sessions : Id → Session
  actionSessions : Int := 0
  currentSession : Option Id := none
  hostDisplayAdvertised : Bool := false
  edid : Option String := none
  codecType : ℕ := 0
  lastCall : Option VideoCall := none
  streamCodecType : ℕ := 0
  audioTrack : Option Id := none
  frames : List Frame := []
  lastConnected : Option Id := none
  connections : ℕ := 0

/-- Nothing has happened yet. -/
def State.start {Id : Type*} : State Id where
  sessions _ := {}

/-- Neither a handler nor a call of its own is in progress. -/
def State.Quiet {Id : Type*} (s : State Id) : Prop :=
  ∀ i, (s.sessions i).point = .idle

/-! ### The host's display -/

def defaultEDID : String :=
  "00FFFFFFFFFFFF0028B4010001EEFFC0302301038047287856EE91A3544C99260F5054000000D1C081C0318001" ++
  "010101010101010101023A801871382D40582C4500C48E2100001E773300A050D02B2030203500122C2100001A" ++
  "000000FD00174C0F5111000A202020202020000000FC004A65744B564D2076310A20202001D5020322D1431004" ++
  "012309070783010000E200CFE40D100401E305000065030C001000000000000000000000000000000000000000" ++
  "000000000000000000000000000000000000000000000000000000000000000000000000000000000000000000" ++
  "000000000000000000000000000000000000000000000000000000000000CF"

def disabledEDID : String :=
  "__JETKVM_DISABLED_EDID__"

def configuredVideoEDID (edidString : String) : String :=
  if edidString = "" ∨ edidString = disabledEDID then defaultEDID else edidString

namespace State

variable {Id : Type*} (s : State Id)

/-- `setHostDisplayAdvertisedLocked`, when `VideoSetEDID` succeeds. -/
def setHostDisplayAdvertised (enabled : Bool) (edidString : String) (force : Bool) : State Id :=
  if force = false ∧ enabled = s.hostDisplayAdvertised then s
  else
    { s with
      edid := some (if enabled then configuredVideoEDID edidString else disabledEDID)
      hostDisplayAdvertised := enabled }

/-- `shouldAdvertiseHostDisplayLocked`. -/
def shouldAdvertiseHostDisplay (hideDisplayWhenIdle : Bool) : Bool :=
  !hideDisplayWhenIdle || decide (0 < s.actionSessions)

def updateHostDisplayAdvertisement (hideDisplayWhenIdle : Bool) (edidString : String)
    (force : Bool) : State Id :=
  s.setHostDisplayAdvertised (s.shouldAdvertiseHostDisplay hideDisplayWhenIdle) edidString force

/-! ### Video and audio -/

/-- `VideoStart`, which leaves a stream alone that has been started. -/
def videoStart : State Id :=
  { s with
    streamCodecType := if s.lastCall = some .videoStart then s.streamCodecType else s.codecType
    lastCall := some .videoStart }

variable [DecidableEq Id]

def setSession (i : Id) (session : Session) : State Id :=
  { s with sessions := Function.update s.sessions i session }

def setPoint (i : Id) (point : Point) : State Id :=
  s.setSession i { s.sessions i with point := point }

/-- The track of a session. -/
def trackOf (i : Id) : Option Id :=
  if (s.sessions i).hasAudioTrack then some i else none

def stopAudioIfOwner (i : Id) : State Id :=
  if s.audioTrack = s.trackOf i then { s with audioTrack := none } else s

/-! ### The handlers -/

/-- The next step of the handler of a session, with `config.EdidString`. -/
def execHandler (hideDisplayWhenIdle : Bool) (edidString : String) (i : Id) : Option (State Id) :=
  match (s.sessions i).point with
  | .incrActiveSessions =>
      let actionSessions := s.actionSessions + 1
      some
        { s.setSession i
            { s.sessions i with
              isConnected := true
              point := if actionSessions = 1 then .setHostDisplayAdvertised else .startAudio } with
          actionSessions := actionSessions
          lastConnected := some i }
  | .setHostDisplayAdvertised =>
      some ((s.setHostDisplayAdvertised true edidString false).setPoint i .videoSetCodecType)
  | .videoSetCodecType =>
      some { s.setPoint i .videoStart with codecType := sessionVideoCodecType (s.sessions i) }
  | .videoStart => some (s.videoStart.setPoint i .startAudio)
  | .startAudio =>
      some
        { s.setPoint i .idle with
          audioTrack := if (s.sessions i).hasAudioTrack then some i else s.audioTrack
          connections := s.connections + 1 }
  | .compareCurrent =>
      some (s.setPoint i (if s.currentSession = some i then .clearCurrent else .stopAudioIfOwner))
  | .clearCurrent => some { s.setPoint i .stopAudioIfOwner with currentSession := none }
  | .stopAudioIfOwner =>
      some ((s.stopAudioIfOwner i).setPoint i
        (if (s.sessions i).isConnected then .decrActiveSessions else .idle))
  | .decrActiveSessions =>
      let actionSessions := s.actionSessions - 1
      some
        { s.setSession i
            { s.sessions i with
              isConnected := false
              point := if actionSessions = 0 then .stopAudio else .idle } with
          actionSessions := actionSessions }
  | .stopAudio => some { s.setPoint i .videoStop with audioTrack := none }
  | .videoStop =>
      some { s.setPoint i .applyHostDisplayAdvertisement with lastCall := some .videoStop }
  | .applyHostDisplayAdvertisement =>
      some
        ((s.updateHostDisplayAdvertisement hideDisplayWhenIdle edidString false).setPoint i .idle)
  | .idle => none

end State

/-- What may happen next. -/
inductive Action (Id : Type*) where
  /-- `ExchangeOffer`, with `config.VideoCodecPreference`, and whether there is an audio track. -/
  | exchangeOffer (i : Id) (videoCodecPreference offerSDP : String) (hasAudioTrack : Bool)
  /-- `currentSession = session`, at the end of the request. -/
  | accept (i : Id)
  /-- The connection is connected. -/
  | connected (i : Id)
  /-- The connection is closed. -/
  | closed (i : Id)
  /-- The handler of a session takes its next step. -/
  | handle (i : Id) (edidString : String)
  | applyHostDisplayAdvertisement (edidString : String)
  | reapplyHostDisplayAdvertisement (edidString : String)
  /-- The stream encodes a frame. -/
  | encodeFrame
  /-- `OnVideoFrameReceived`. -/
  | writeFrame
deriving DecidableEq, Repr

variable {Id : Type*} [DecidableEq Id]

/-- The next state, when the action is possible. The connection of a session that has been closed is
not connected again. -/
def State.step (hideDisplayWhenIdle : Bool) (s : State Id) : Action Id → Option (State Id)
  | .exchangeOffer i videoCodecPreference offerSDP hasAudioTrack =>
      if (s.sessions i).offered then none
      else
        some (s.setSession i
          { s.sessions i with
            offered := true
            codecMimeType := resolveCodec videoCodecPreference offerSDP
            hasAudioTrack := hasAudioTrack })
  | .accept i =>
      if (s.sessions i).offered ∧ ¬ (s.sessions i).accepted then
        some
          { s.setSession i { s.sessions i with accepted := true } with
            currentSession := some i }
      else none
  | .connected i =>
      if (s.sessions i).offered ∧ ¬ (s.sessions i).closed ∧ (s.sessions i).point = .idle then
        some (if (s.sessions i).isConnected then s else s.setPoint i .incrActiveSessions)
      else none
  | .closed i =>
      if (s.sessions i).offered ∧ (s.sessions i).point = .idle then
        some (s.setSession i { s.sessions i with closed := true, point := .compareCurrent })
      else none
  | .handle i edidString => s.execHandler hideDisplayWhenIdle edidString i
  | .applyHostDisplayAdvertisement edidString =>
      some (s.updateHostDisplayAdvertisement hideDisplayWhenIdle edidString false)
  | .reapplyHostDisplayAdvertisement edidString =>
      some (s.updateHostDisplayAdvertisement hideDisplayWhenIdle edidString true)
  | .encodeFrame =>
      if s.lastCall = some .videoStart then
        some { s with frames := s.frames ++ [⟨s.streamCodecType, s.connections⟩] }
      else none
  | .writeFrame => if s.frames = [] then none else some { s with frames := s.frames.tail }

/-- Any number of sessions, with `config.HideDisplayWhenIdle`. -/
def lts (hideDisplayWhenIdle : Bool) : Lts (State Id) (Action Id) :=
  Lts.ofStep (State.step hideDisplayWhenIdle)

/-! ### Sound states -/

/-- What is advertised is what was asked for, and an EDID is sent unless that was so before. -/
theorem State.setHostDisplayAdvertised_eq {Id : Type*} (s : State Id) (enabled : Bool)
    (edidString : String) (force : Bool) :
  s.setHostDisplayAdvertised enabled edidString force =
    { s with
      edid :=
        if force = false ∧ enabled = s.hostDisplayAdvertised then s.edid
        else some (if enabled then configuredVideoEDID edidString else disabledEDID)
      hostDisplayAdvertised := enabled }
  := by
  rw [setHostDisplayAdvertised]
  split
  · next h =>
      rw [h.2]
  · rfl

theorem State.stopAudioIfOwner_eq {Id : Type*} [DecidableEq Id] (s : State Id) (i : Id) :
  s.stopAudioIfOwner i =
    { s with audioTrack := if s.audioTrack = s.trackOf i then none else s.audioTrack }
  := by
  rw [stopAudioIfOwner]
  split <;> rfl

@[simp]
theorem State.sessions_setSession_self {Id : Type*} [DecidableEq Id] (s : State Id) (i : Id)
    (x : Session) :
  (s.setSession i x).sessions i = x
  := Function.update_self ..

theorem State.sessions_setSession_of_ne {Id : Type*} [DecidableEq Id] (s : State Id) {i j : Id}
    (h : j ≠ i) (x : Session) :
  (s.setSession i x).sessions j = s.sessions j
  := Function.update_of_ne h ..

/-- Whether a session is counted, as far as the point of its handler says. -/
def Point.counted : Point → Option Bool
  | .incrActiveSessions => some false
  | .setHostDisplayAdvertised | .videoSetCodecType | .videoStart | .startAudio => some true
  | .compareCurrent | .clearCurrent | .stopAudioIfOwner => none
  | .decrActiveSessions => some true
  | .stopAudio | .videoStop | .applyHostDisplayAdvertisement => some false
  | .idle => none

/-- The handler of the end of a session is at this point. -/
def Point.isClosing : Point → Bool
  | .incrActiveSessions | .setHostDisplayAdvertised | .videoSetCodecType | .videoStart => false
  | .startAudio | .idle => false
  | _ => true

/-- What a session knows agrees with where its handler is. -/
structure Session.Sound (session : Session) : Prop where
  counted : ∀ b, session.point.counted = some b → session.isConnected = b
  closed : session.point.isClosing = true → session.closed = true
  offered : session.point ≠ .idle → session.offered = true

/-- The sessions that are connected are counted, and a session of which another part knows has
exchanged its offer. -/
structure State.Sound {Id : Type*} (s : State Id) : Prop where
  sessions : ∀ i, (s.sessions i).Sound
  counted : ∃ n : ℕ, s.actionSessions = n ∧ {i | (s.sessions i).isConnected = true}.encard = n
  currentSession : ∀ i, s.currentSession = some i → (s.sessions i).offered = true
  lastConnected : ∀ i, s.lastConnected = some i → (s.sessions i).offered = true

variable {s t : State Id} {i : Id} {x : Session} {hide : Bool}
  {edidString : String} {a : Action Id}

/-- The sessions, their number, and the sessions that are named. -/
def State.roster (s : State Id) : (Id → Session) × Int × Option Id × Option Id :=
  (s.sessions, s.actionSessions, s.currentSession, s.lastConnected)

/-- A handler may go from one point to another without a session being counted. -/
def Point.Precedes (p q : Point) : Prop :=
  p ≠ .idle ∧ (∀ b, q.counted = some b → p.counted = some b) ∧
    (q.isClosing = true → p.isClosing = true)

instance (p q : Point) : Decidable (p.Precedes q) :=
  inferInstanceAs (Decidable (_ ∧ _ ∧ _))

omit [DecidableEq Id] in
theorem State.start_sound : (State.start : State Id).Sound
  := by
  constructor
  · intro i
    constructor <;> simp [State.start, Point.counted, Point.isClosing]
  · use 0
    simp [State.start]
  · simp [State.start]
  · simp [State.start]

namespace State.Sound

omit [DecidableEq Id] in
/-- The number of sessions is positive exactly when one of them is connected. -/
theorem actionSessions_pos_iff (hs : s.Sound) :
  0 < s.actionSessions ↔ ∃ i, (s.sessions i).isConnected = true
  := by
  obtain ⟨n, hn, hcard⟩ := hs.counted
  rw [hn, Int.natCast_pos, Nat.pos_iff_ne_zero, ← Nat.cast_ne_zero (R := ℕ∞), ← hcard,
    Set.encard_ne_zero]
  rfl

omit [DecidableEq Id] in
/-- Only the sessions and what names them matter. -/
theorem congr (hs : s.Sound) (h : t.roster = s.roster) :
  t.Sound
  := by
  obtain ⟨hsessions, hcount, hcurrent, hlast⟩ : t.sessions = s.sessions ∧
      t.actionSessions = s.actionSessions ∧ t.currentSession = s.currentSession ∧
      t.lastConnected = s.lastConnected := by simpa [State.roster] using h
  constructor
  · rw [hsessions]
    apply hs.sessions
  · rw [hsessions, hcount]
    apply hs.counted
  · rw [hsessions, hcurrent]
    apply hs.currentSession
  · rw [hsessions, hlast]
    apply hs.lastConnected

/-- A session that has exchanged its offer still has when a session changes. -/
theorem offered_update {j : Id} (hj : (s.sessions j).offered = true)
    (h : (s.sessions i).offered = true → x.offered = true) :
  (Function.update s.sessions i x j).offered = true
  := by
  by_cases hji : j = i
  · subst hji
    rw [Function.update_self]
    apply h hj
  · rwa [Function.update_of_ne hji]

/-- A session changes without being counted. -/
theorem setSession (hs : s.Sound) (hx : x.Sound)
    (hconnected : x.isConnected = (s.sessions i).isConnected)
    (hoffered : (s.sessions i).offered = true → x.offered = true) :
  (s.setSession i x).Sound
  := by
  constructor
  · apply Pool.forall_update hs.sessions hx
  · obtain ⟨n, hn, hcard⟩ := hs.counted
    use n, hn
    rw [State.setSession, Pool.encard_update_of_iff (P := fun y : Session => y.isConnected = true),
      hcard]
    rw [hconnected]
  · intro j hj
    apply offered_update (hs.currentSession j hj) hoffered
  · intro j hj
    apply offered_update (hs.lastConnected j hj) hoffered

/-- A handler goes to a point that agrees with what its session knows. -/
theorem setPoint (hs : s.Sound) {q : Point} (hp : (s.sessions i).point ≠ .idle)
    (hcounted : ∀ b, q.counted = some b → (s.sessions i).isConnected = b)
    (hclosing : q.isClosing = true → (s.sessions i).closed = true) :
  (s.setPoint i q).Sound
  := by
  apply hs.setSession
  · constructor
    · apply hcounted
    · apply hclosing
    · intro _
      apply (hs.sessions i).offered hp
  · rfl
  · exact id

/-- A handler goes from one point to another, and no session is counted. -/
theorem goTo (hs : s.Sound) {p : Point} (q : Point) (hp : (s.sessions i).point = p)
    (h : p.Precedes q) :
  (s.setPoint i q).Sound
  := by
  obtain ⟨hidle, hcounted, hclosing⟩ := h
  rw [← hp] at hidle hcounted hclosing
  apply hs.setPoint hidle
  · intro b hb
    apply (hs.sessions i).counted b (hcounted b hb)
  · intro hq
    apply (hs.sessions i).closed (hclosing hq)

/-- A session that was not connected is counted. -/
theorem incrActiveSessions (hs : s.Sound) (hconnected : (s.sessions i).isConnected = false)
    (hoffered : (s.sessions i).offered = true) (hx : x.Sound) (hxconnected : x.isConnected = true)
    (hxoffered : x.offered = true) :
  ({ s.setSession i x with
      actionSessions := s.actionSessions + 1
      lastConnected := some i } : State Id).Sound
  := by
  constructor
  · apply Pool.forall_update hs.sessions hx
  · obtain ⟨n, hn, hcard⟩ := hs.counted
    use n + 1
    constructor
    · dsimp only
      rw [hn]
      rfl
    · rw [State.setSession,
        Pool.encard_update_of_not (P := fun y : Session => y.isConnected = true), hcard]
      · rfl
      · simp [hconnected]
      · apply hxconnected
  · intro j hj
    apply offered_update (hs.currentSession j hj) fun _ => hxoffered
  · intro j hj
    obtain rfl := Option.some.inj hj
    apply offered_update hoffered fun _ => hxoffered

/-- A session that was connected is no longer counted. -/
theorem decrActiveSessions (hs : s.Sound) (hconnected : (s.sessions i).isConnected = true)
    (hx : x.Sound) (hxconnected : x.isConnected = false)
    (hoffered : (s.sessions i).offered = true → x.offered = true) :
  ({ s.setSession i x with actionSessions := s.actionSessions - 1 } : State Id).Sound
  := by
  constructor
  · apply Pool.forall_update hs.sessions hx
  · obtain ⟨n, hn, hcard⟩ := hs.counted
    have hcard' := Pool.encard_update_add_one (P := fun y : Session => y.isConnected = true)
      hconnected (ne_true_of_eq_false hxconnected)
    rw [hcard] at hcard'
    cases n with
    | zero =>
        rw [Nat.cast_zero, add_eq_zero] at hcard'
        cases hcard'.2
    | succ n =>
        use n
        constructor
        · dsimp only
          rw [hn]
          omega
        · apply WithTop.add_right_cancel ENat.one_ne_top hcard'
  · intro j hj
    apply offered_update (hs.currentSession j hj) hoffered
  · intro j hj
    apply offered_update (hs.lastConnected j hj) hoffered

/-- A step of a handler keeps a state sound. -/
theorem execHandler (hs : s.Sound) (h : s.execHandler hide edidString i = some t) :
  t.Sound
  := by
  have hx := hs.sessions i
  cases hp : (s.sessions i).point with
  | idle =>
      rw [State.execHandler, hp] at h
      cases h
  | incrActiveSessions =>
      rw [State.execHandler, hp] at h
      obtain rfl := Option.some.inj h
      have hoffered := hx.offered (by simp [hp])
      refine (hs.incrActiveSessions (hx.counted false (hp ▸ rfl)) hoffered ?_ rfl ?_)
      · constructor
        · intro b hb
          dsimp only at hb
          split at hb <;> exact Option.some.inj hb
        · intro hclosing
          dsimp only at hclosing
          split at hclosing <;> cases hclosing
        · intro _
          apply hoffered
      · apply hoffered
  | setHostDisplayAdvertised =>
      rw [State.execHandler, hp] at h
      obtain rfl := Option.some.inj h
      apply (hs.goTo .videoSetCodecType hp (by decide)).congr
      rw [State.setHostDisplayAdvertised_eq]
      rfl
  | videoSetCodecType =>
      rw [State.execHandler, hp] at h
      obtain rfl := Option.some.inj h
      exact (hs.goTo .videoStart hp (by decide)).congr rfl
  | videoStart =>
      rw [State.execHandler, hp] at h
      obtain rfl := Option.some.inj h
      exact (hs.goTo .startAudio hp (by decide)).congr rfl
  | startAudio =>
      rw [State.execHandler, hp] at h
      obtain rfl := Option.some.inj h
      exact (hs.goTo .idle hp (by decide)).congr rfl
  | compareCurrent =>
      rw [State.execHandler, hp] at h
      obtain rfl := Option.some.inj h
      apply hs.goTo _ hp
      split <;> decide
  | clearCurrent =>
      rw [State.execHandler, hp] at h
      obtain rfl := Option.some.inj h
      have hnext := hs.goTo .stopAudioIfOwner hp (by decide)
      refine ⟨hnext.sessions, hnext.counted, ?_, hnext.lastConnected⟩
      intro j hj
      cases hj
  | stopAudioIfOwner =>
      rw [State.execHandler, hp] at h
      obtain rfl := Option.some.inj h
      rw [State.stopAudioIfOwner_eq]
      have hnext : (s.setPoint i
          (if (s.sessions i).isConnected then .decrActiveSessions else .idle)).Sound := by
        apply hs.setPoint
        · simp [hp]
        · intro b hb
          split at hb
          · next hconnected => rwa [← Option.some.inj hb]
          · cases hb
        · intro _
          apply hx.closed (hp ▸ rfl)
      exact hnext.congr rfl
  | decrActiveSessions =>
      rw [State.execHandler, hp] at h
      obtain rfl := Option.some.inj h
      refine (hs.decrActiveSessions (hx.counted true (hp ▸ rfl)) ?_ rfl id)
      constructor
      · intro b hb
        dsimp only at hb
        split at hb
        · exact Option.some.inj hb
        · cases hb
      · intro _
        apply hx.closed (hp ▸ rfl)
      · intro _
        apply hx.offered
        simp [hp]
  | stopAudio =>
      rw [State.execHandler, hp] at h
      obtain rfl := Option.some.inj h
      exact (hs.goTo .videoStop hp (by decide)).congr rfl
  | videoStop =>
      rw [State.execHandler, hp] at h
      obtain rfl := Option.some.inj h
      exact (hs.goTo .applyHostDisplayAdvertisement hp (by decide)).congr rfl
  | applyHostDisplayAdvertisement =>
      rw [State.execHandler, hp] at h
      obtain rfl := Option.some.inj h
      apply (hs.goTo .idle hp (by decide)).congr
      rw [State.updateHostDisplayAdvertisement, State.setHostDisplayAdvertised_eq]
      rfl

/-- A step keeps a state sound. -/
theorem step (hs : s.Sound) (h : s.step hide a = some t) :
  t.Sound
  := by
  cases a with
  | exchangeOffer i =>
      obtain ⟨-, h⟩ := Option.ite_none_left_eq_some.mp h
      obtain rfl := Option.some.inj h
      apply hs.setSession
      · exact ⟨(hs.sessions i).counted, (hs.sessions i).closed, fun _ => rfl⟩
      · rfl
      · exact fun _ => rfl
  | accept i =>
      obtain ⟨⟨hoffered, -⟩, h⟩ := Option.ite_none_right_eq_some.mp h
      obtain rfl := Option.some.inj h
      have hnext : (s.setSession i { s.sessions i with accepted := true }).Sound := by
        apply hs.setSession
        · exact ⟨(hs.sessions i).counted, (hs.sessions i).closed, (hs.sessions i).offered⟩
        · rfl
        · exact id
      refine ⟨hnext.sessions, hnext.counted, ?_, hnext.lastConnected⟩
      intro j hj
      obtain rfl := Option.some.inj hj
      apply offered_update hoffered
      exact id
  | connected i =>
      obtain ⟨⟨hoffered, -, hidle⟩, h⟩ := Option.ite_none_right_eq_some.mp h
      obtain rfl := Option.some.inj h
      split
      · apply hs
      · next hconnected =>
          apply hs.setSession
          · constructor
            · intro b hb
              rw [← Option.some.inj hb]
              apply eq_false_of_ne_true hconnected
            · intro hclosing
              cases hclosing
            · exact fun _ => hoffered
          · rfl
          · exact id
  | closed i =>
      obtain ⟨⟨hoffered, -⟩, h⟩ := Option.ite_none_right_eq_some.mp h
      obtain rfl := Option.some.inj h
      apply hs.setSession
      · constructor
        · intro b hb
          cases hb
        · exact fun _ => rfl
        · exact fun _ => hoffered
      · rfl
      · exact id
  | handle i edidString => apply hs.execHandler h
  | applyHostDisplayAdvertisement edidString =>
      obtain rfl := Option.some.inj h
      apply hs.congr
      rw [State.updateHostDisplayAdvertisement, State.setHostDisplayAdvertised_eq]
      rfl
  | reapplyHostDisplayAdvertisement edidString =>
      obtain rfl := Option.some.inj h
      apply hs.congr
      rw [State.updateHostDisplayAdvertisement, State.setHostDisplayAdvertised_eq]
      rfl
  | encodeFrame =>
      obtain ⟨-, h⟩ := Option.ite_none_right_eq_some.mp h
      obtain rfl := Option.some.inj h
      exact hs.congr rfl
  | writeFrame =>
      obtain ⟨-, h⟩ := Option.ite_none_left_eq_some.mp h
      obtain rfl := Option.some.inj h
      exact hs.congr rfl

end State.Sound

end JetKvm.Sessions
