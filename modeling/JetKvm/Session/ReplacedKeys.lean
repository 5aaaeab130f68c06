import JetKvm.Session.KeysKept

/-!
# The keys of a replaced session

The keys are cleared by the takeover or by the handler of the closing, whichever comes first. From
then on the steps keep the keys that are down set by the new session, unless the old one presses a
modifier, which has no timer, or reports a key as held, and nothing replaces it.
-/

namespace JetKvm.Takeover

section Promise

variable {Thread : Type*}

/-- The old session is current. The takeover and the handler of its closing have not begun, and the
workers and timers may be anywhere. -/
structure Begins (c : SessionPool Thread) : Prop where
  currentSession : c.shared.currentSession = some .old
  notDone : c.shared.done .old = false
  notCleared : c.shared.cleared = false
  setByNew : c.shared.setByNew = nothing
  request : ∀ i request, c.threads i = .request request → request = .check
  closing : ∀ i closing, c.threads i = .closing closing → closing = .start
  sound : ∀ i, (c.threads i).Sound

/-- The old session is closed, its workers have stopped, the takeover has ended, and no timer is
pending. -/
structure Quiet (c : SessionPool Thread) : Prop where
  done : c.shared.done .old = true
  closing : ∀ i closing, c.threads i = .closing closing →
    closing ∈ [.count, .lastDisconnected, .done]
  request : ∀ i request, c.threads i = .request request → request ∈ [.done, .panicked]
  stopped : ∀ i queue worker, c.threads i = .worker .old queue worker → worker = .stopped
  timers : ∀ key, c.shared.gadget.kbdAutoReleaseTimers key = none
  callbacks : ∀ i call, c.threads i = .timer call → call.InProgress = false

/-- Once the keys have been cleared, the step adds nothing for the old session, unless another
goroutine is about to replace it. -/
def Harmless (c : SessionPool Thread) (i : Thread) : Prop :=
  c.shared.cleared = true →
    AddsNothing c i ∨ ∃ j, j ≠ i ∧ (c.threads j).Replaces = true

instance [Fintype Thread] [DecidableEq Thread] (c : SessionPool Thread) (i : Thread) :
    Decidable (Harmless c i) := by
  unfold Harmless AddsNothing
  split <;> infer_instance

end Promise

/-! ### Until the keys are cleared -/

section NotYet

variable {Thread : Type*} [DecidableEq Thread] {c : SessionPool Thread} {s s' : Shared Thread}
  {i : Thread} {g : Goroutine} {session : Session} {queue : ℕ} {choice : Choice}

/-- Which session is current, which sessions are closed, and whether the keys have been cleared. -/
def Shared.control (s : Shared Thread) : Option Session × (Session → Bool) × Bool :=
  (s.currentSession, s.done, s.cleared)

/-- A macro does not concern who is in control. -/
theorem MacroHandler.exec_control {call : MacroHandler} {next : Option MacroHandler}
    (h : call.exec i session choice s = some (s', next)) :
  s'.control = s.control
  := by
  cases call with
  | execute | register | finished => grind [exec, Shared.control, Shared.modifyMacros]
  | loop steps =>
      cases steps with
      | nil | cons =>
          grind [exec, Shared.control, Shared.rpcKeyboardReport, Shared.record]
  | reported | sleep => grind [exec, Shared.control, Shared.clearKeys, Shared.record]

/-- Neither does a message. -/
theorem Handler.exec_control {handler : Handler} {next : Option Handler}
    (h : handler.exec i session choice s = some (s', next)) :
  s'.control = s.control
  := by
  cases handler with
  | keyboardMacro call =>
      obtain ⟨next, hcall, heq⟩ := Option.map_eq_some_iff.mp h
      obtain ⟨rfl, -⟩ := Prod.mk.inj heq
      exact MacroHandler.exec_control hcall
  | keyboardReport | keypressReport | updateTimer | cancelKeyboardMacro | keepAlive =>
      grind [exec, Shared.control, Shared.rpcKeyboardReport, Shared.record, Shared.modifyMacros]

/-- Neither does the goroutine that handles them. -/
theorem Worker.exec_control {worker worker' : Worker}
    (h : worker.exec i session queue choice s = some (s', worker')) :
  s'.control = s.control
  := by
  cases worker with
  | handle handler =>
      obtain ⟨next, hhandler, heq⟩ := Option.map_eq_some_iff.mp h
      obtain ⟨rfl, -⟩ := Prod.mk.inj heq
      exact Handler.exec_control hhandler
  | check | select | stopped => grind [exec, Shared.control, Shared.setQueue]

omit [DecidableEq Thread] in
/-- Neither does a timer. -/
theorem timerExec_control {call call' : KeypressCall} (h : timerExec s call = some (s', call')) :
  s'.control = s.control
  := by
  cases call with
  | autoReleaseReport | timer | autoRelease | autoReleaseCheck | keypressReport | updateTimer
    | done =>
      grind [timerExec, Shared.control, Shared.record]

/-- A request clears the keys, or leaves alone whether they were. -/
theorem Request.exec_cleared {request request' : Request}
    (h : request.exec s = some (s', request')) :
  s'.cleared = s.cleared ∨ s' = { s.clearKeys with cleared := true }
  := by
  cases request with
  | clear =>
      obtain ⟨rfl, -⟩ := Prod.mk.inj (Option.some.inj h)
      exact .inr rfl
  | check | cancelTimers | peerConnection | cancelMacro | setCurrent | done | panicked =>
      grind [exec, Shared.cancelAllAutoReleaseTimers, Shared.modifyMacros]

/-- So does a session that is closing. -/
theorem Closing.exec_cleared {closing closing' : Closing}
    (h : closing.exec choice s = some (s', closing')) :
  s'.cleared = s.cleared ∨ s' = { s.clearKeys with cleared := true }
  := by
  cases closing with
  | clear =>
      obtain ⟨rfl, -⟩ := Prod.mk.inj (Option.some.inj h)
      exact .inr rfl
  | start | check | cancelMacro | cancelTimers | setNil | close | count | lastDisconnected | done =>
      grind [exec, Shared.cancelAllAutoReleaseTimers, Shared.modifyMacros, Shared.clearKeys,
        Shared.record]

omit [DecidableEq Thread] in
/-- Whether the keys were cleared belongs to the control. -/
theorem cleared_eq_of_control (h : s'.control = s.control) :
  s'.cleared = s.cleared
  := (Prod.mk.inj (Prod.mk.inj h).2).2

/-- A step leaves the keys not cleared, cleared, or clears them. -/
theorem Goroutine.exec_cleared {before : Goroutine} (h : before.exec i choice s = some (s', g)) :
  s'.cleared = s.cleared ∨ s' = { s.clearKeys with cleared := true }
  := by
  cases before with
  | worker session queue worker =>
      obtain ⟨next, hworker, heq⟩ := Option.map_eq_some_iff.mp h
      obtain ⟨rfl, -⟩ := Prod.mk.inj heq
      exact .inl (cleared_eq_of_control (Worker.exec_control hworker))
  | timer call =>
      obtain ⟨next, hcall, heq⟩ := Option.map_eq_some_iff.mp h
      obtain ⟨rfl, -⟩ := Prod.mk.inj heq
      exact .inl (cleared_eq_of_control (timerExec_control hcall))
  | peer session =>
      obtain ⟨-, hnext⟩ := Option.ite_none_left_eq_some.mp h
      obtain ⟨rfl, -⟩ := Prod.mk.inj (Option.some.inj hnext)
      exact .inl rfl
  | request request =>
      obtain ⟨next, hrequest, heq⟩ := Option.map_eq_some_iff.mp h
      obtain ⟨rfl, -⟩ := Prod.mk.inj heq
      exact Request.exec_cleared hrequest
  | closing closing =>
      obtain ⟨next, hclosing, heq⟩ := Option.map_eq_some_iff.mp h
      obtain ⟨rfl, -⟩ := Prod.mk.inj heq
      exact Closing.exec_cleared hclosing

/-- The goroutine has not cleared the keys yet, nor passed a place where it would have. -/
def Goroutine.NotCleared : Goroutine → Bool
  | request r => r ∈ [Request.check, .cancelTimers, .clear]
  | closing h => h ∈ [Closing.start, .check, .cancelMacro, .cancelTimers, .clear]
  | _ => true

/-- What is known until the keys are cleared. -/
structure NotYet (c : SessionPool Thread) : Prop where
  currentSession : c.shared.currentSession = some .old
  notDone : c.shared.done .old = false
  notCleared : ∀ i, (c.threads i).NotCleared = true

/-- As long as the keys are not cleared, a goroutine may go on that has not cleared them. -/
theorem NotYet.update (h : NotYet c) (hcontrol : s.control = c.shared.control)
    (hg : g.NotCleared = true) :
  NotYet ⟨s, Function.update c.threads i g⟩
  := by
  obtain ⟨hcurrent, hrest⟩ := Prod.mk.inj hcontrol
  obtain ⟨hdone, -⟩ := Prod.mk.inj hrest
  constructor
  case currentSession => exact hcurrent.trans h.currentSession
  case notDone => exact (congrFun hdone .old).trans h.notDone
  case notCleared => exact Pool.forall_update (P := (Goroutine.NotCleared · = true)) h.notCleared hg

/-- A request that has not cleared the keys may go on. -/
theorem NotYet.request (h : c.shared.cleared = false → NotYet c) {request request' : Request}
    (hthread : c.threads i = .request request) (hexec : request.exec c.shared = some (s, request'))
    (hcleared : s.cleared = false) :
  NotYet ⟨s, Function.update c.threads i (.request request')⟩
  := by
  have hnot (hbefore : c.shared.cleared = false) :
      (Goroutine.request request).NotCleared = true := by
    rw [← hthread]
    exact (h hbefore).notCleared i
  cases request with
  | check =>
      rw [Request.exec] at hexec
      split at hexec
      case isTrue =>
        obtain ⟨rfl, rfl⟩ := Prod.mk.inj (Option.some.inj hexec)
        exact (h hcleared).update rfl rfl
      case isFalse hgone =>
        obtain ⟨rfl, rfl⟩ := Prod.mk.inj (Option.some.inj hexec)
        rw [(h hcleared).currentSession] at hgone
        exact absurd rfl hgone
  | cancelTimers =>
      obtain ⟨rfl, rfl⟩ := Prod.mk.inj (Option.some.inj hexec)
      exact (h hcleared).update rfl rfl
  | clear =>
      obtain ⟨rfl, rfl⟩ := Prod.mk.inj (Option.some.inj hexec)
      cases hcleared
  | peerConnection =>
      rw [Request.exec] at hexec
      split at hexec
      case isTrue | isFalse =>
        obtain ⟨rfl, rfl⟩ := Prod.mk.inj (Option.some.inj hexec)
        cases hnot hcleared
  | cancelMacro | setCurrent =>
      obtain ⟨rfl, rfl⟩ := Prod.mk.inj (Option.some.inj hexec)
      cases hnot hcleared
  | done | panicked => cases hexec

/-- So may a session that is closing. -/
theorem NotYet.closing (h : c.shared.cleared = false → NotYet c) {closing closing' : Closing}
    (hthread : c.threads i = .closing closing)
    (hexec : closing.exec choice c.shared = some (s, closing')) (hcleared : s.cleared = false) :
  NotYet ⟨s, Function.update c.threads i (.closing closing')⟩
  := by
  have hnot (hbefore : c.shared.cleared = false) :
      (Goroutine.closing closing).NotCleared = true := by
    rw [← hthread]
    exact (h hbefore).notCleared i
  cases closing with
  | start | cancelMacro | cancelTimers =>
      obtain ⟨rfl, rfl⟩ := Prod.mk.inj (Option.some.inj hexec)
      exact (h hcleared).update rfl rfl
  | check =>
      rw [Closing.exec] at hexec
      split at hexec
      case isTrue =>
        obtain ⟨rfl, rfl⟩ := Prod.mk.inj (Option.some.inj hexec)
        exact (h hcleared).update rfl rfl
      case isFalse hother =>
        obtain ⟨rfl, rfl⟩ := Prod.mk.inj (Option.some.inj hexec)
        exact absurd (h hcleared).currentSession hother
  | clear =>
      obtain ⟨rfl, rfl⟩ := Prod.mk.inj (Option.some.inj hexec)
      cases hcleared
  | count =>
      rw [Closing.exec] at hexec
      split at hexec
      case isTrue | isFalse =>
        obtain ⟨rfl, rfl⟩ := Prod.mk.inj (Option.some.inj hexec)
        cases hnot hcleared
  | setNil | close | lastDisconnected =>
      obtain ⟨rfl, rfl⟩ := Prod.mk.inj (Option.some.inj hexec)
      cases hnot hcleared
  | done => cases hexec

/-- A step of a goroutine that neither takes over nor closes leaves the keys not cleared yet. -/
theorem NotYet.other (h : c.shared.cleared = false → NotYet c)
    (hcontrol : s.control = c.shared.control) (hg : g.NotCleared = true)
    (hcleared : s.cleared = false) :
  NotYet ⟨s, Function.update c.threads i g⟩
  := (h ((cleared_eq_of_control hcontrol).symm.trans hcleared)).update hcontrol hg

/-- A step that does not clear the keys comes before they are cleared. -/
theorem NotYet.step (h : c.shared.cleared = false → NotYet c)
    (hexec : (c.threads i).exec i choice c.shared = some (s, g)) (hcleared : s.cleared = false) :
  NotYet ⟨s, Function.update c.threads i g⟩
  := by
  cases hthread : c.threads i with
  | worker session queue worker =>
      rw [hthread] at hexec
      obtain ⟨⟨s', worker'⟩, hworker, heq⟩ := Option.map_eq_some_iff.mp hexec
      obtain ⟨rfl, rfl⟩ := Prod.mk.inj heq
      exact NotYet.other h (Worker.exec_control hworker) rfl hcleared
  | timer call =>
      rw [hthread] at hexec
      obtain ⟨⟨s', call'⟩, hcall, heq⟩ := Option.map_eq_some_iff.mp hexec
      obtain ⟨rfl, rfl⟩ := Prod.mk.inj heq
      exact NotYet.other h (timerExec_control hcall) rfl hcleared
  | peer session =>
      rw [hthread] at hexec
      obtain ⟨-, hnext⟩ := Option.ite_none_left_eq_some.mp hexec
      obtain ⟨rfl, rfl⟩ := Prod.mk.inj (Option.some.inj hnext)
      exact (h hcleared).update rfl rfl
  | request request =>
      rw [hthread] at hexec
      obtain ⟨⟨s', request'⟩, hrequest, heq⟩ := Option.map_eq_some_iff.mp hexec
      obtain ⟨rfl, rfl⟩ := Prod.mk.inj heq
      exact NotYet.request h hthread hrequest hcleared
  | closing closing =>
      rw [hthread] at hexec
      obtain ⟨⟨s', closing'⟩, hclosing, heq⟩ := Option.map_eq_some_iff.mp hexec
      obtain ⟨rfl, rfl⟩ := Prod.mk.inj heq
      exact NotYet.closing h hthread hclosing hcleared

end NotYet

/-! ### Runs -/

section Run

variable {Thread : Type*} [DecidableEq Thread] {c c' : SessionPool Thread} {s s' : Shared Thread}
  {i : Thread} {session : Session} {queue : ℕ} {choice : Choice}

/-- A key that is handled does not leave an overflow behind. -/
theorem head?_keypressReport {key : UInt8} {press : Bool} (hkey : Ordinary key) (u : UsbGadget)
    (write : HidWrite) :
  (u.keypressReport key press write).2.1.keys.head? ≠ some hidErrorRollOver
  := by
  rw [UsbGadget.keypressReport_state, UsbGadget.keypressReport_keysDownState hkey.1]
  apply head?_clearRollOver

/-- A handler stays sound. -/
theorem Handler.exec_sound {handler : Handler} {next : Option Handler}
    (h : handler.exec i session choice s = some (s', next)) :
  (Goroutine.worker session queue (Worker.next next)).Sound
  := by
  cases handler with
  | keypressReport key press =>
      obtain ⟨-, rfl⟩ := Prod.mk.inj (Option.some.inj h)
      exact fun hkey => head?_keypressReport hkey _ _
  | keyboardMacro call =>
      obtain ⟨⟨s', next⟩, -, heq⟩ := Option.map_eq_some_iff.mp h
      obtain ⟨-, rfl⟩ := Prod.mk.inj heq
      cases next with
      | none | some => trivial
  | keyboardReport | updateTimer | cancelKeyboardMacro =>
      obtain ⟨-, rfl⟩ := Prod.mk.inj (Option.some.inj h)
      trivial
  | keepAlive =>
      rw [exec] at h
      split at h
      case isTrue | isFalse =>
        obtain ⟨-, rfl⟩ := Prod.mk.inj (Option.some.inj h)
        trivial

/-- Every message begins with a sound handler. -/
theorem HidMessage.handler_sound (message : HidMessage) :
  (Goroutine.worker session queue (Worker.next message.handler)).Sound
  := by
  cases message with
  | handshake | keyboardReport | keypressReport | keyboardMacroReport | pointerReport | mouseReport
    | cancelKeyboardMacroReport | keypressKeepAliveReport => trivial

/-- What a worker has reported does not begin with `hidErrorRollOver`. -/
theorem Worker.exec_sound {worker worker' : Worker}
    (h : worker.exec i session queue choice s = some (s', worker')) :
  (Goroutine.worker session queue worker').Sound
  := by
  cases worker with
  | check =>
      rw [exec] at h
      split at h
      case isTrue | isFalse =>
        obtain ⟨-, rfl⟩ := Prod.mk.inj (Option.some.inj h)
        trivial
  | select =>
      rw [exec] at h
      split at h
      case h_1 =>
        obtain ⟨-, hnext⟩ := Option.ite_none_right_eq_some.mp h
        obtain ⟨-, rfl⟩ := Prod.mk.inj (Option.some.inj hnext)
        trivial
      case h_2 message rest hqueue =>
        split at h
        case isTrue =>
          obtain ⟨-, rfl⟩ := Prod.mk.inj (Option.some.inj h)
          trivial
        case isFalse =>
          obtain ⟨-, rfl⟩ := Prod.mk.inj (Option.some.inj h)
          exact message.handler_sound
  | handle handler =>
      obtain ⟨next, hhandler, heq⟩ := Option.map_eq_some_iff.mp h
      obtain ⟨-, rfl⟩ := Prod.mk.inj heq
      exact Handler.exec_sound hhandler
  | stopped => cases h

/-- Every goroutine stays sound. -/
theorem Goroutine.exec_sound {before g : Goroutine} (h : before.exec i choice s = some (s', g)) :
  g.Sound
  := by
  cases before with
  | worker session queue worker =>
      obtain ⟨next, hworker, heq⟩ := Option.map_eq_some_iff.mp h
      obtain ⟨-, rfl⟩ := Prod.mk.inj heq
      exact Worker.exec_sound hworker
  | timer | request | closing =>
      obtain ⟨next, -, heq⟩ := Option.map_eq_some_iff.mp h
      obtain ⟨-, rfl⟩ := Prod.mk.inj heq
      trivial
  | peer session =>
      obtain ⟨-, hnext⟩ := Option.ite_none_left_eq_some.mp h
      obtain ⟨-, rfl⟩ := Prod.mk.inj (Option.some.inj hnext)
      trivial

/-- What is known throughout a run. -/
structure Invariant (c : SessionPool Thread) : Prop where
  sound : ∀ i, (c.threads i).Sound
  notYet : c.shared.cleared = false → NotYet c
  kept : c.shared.cleared = true → KeysKept c

omit [DecidableEq Thread] in
/-- The invariant holds at first. -/
theorem Begins.invariant (h : Begins c) :
  Invariant c
  := by
  constructor
  case sound => exact h.sound
  case notYet =>
    rintro -
    constructor
    case currentSession => exact h.currentSession
    case notDone => exact h.notDone
    case notCleared =>
      intro i
      cases hthread : c.threads i with
      | request request =>
          rw [h.request i request hthread]
          rfl
      | closing closing =>
          rw [h.closing i closing hthread]
          rfl
      | worker | timer | peer => rfl
  case kept =>
    rw [h.notCleared]
    nofun

/-- Every harmless step keeps it. -/
theorem Invariant.step {a : Thread × Choice} (h : Invariant c)
    (step : (takeoverLts Thread).step c a c') (harmless : Harmless c a.1) :
  Invariant c'
  := by
  obtain ⟨s, g, hexec, rfl⟩ := Pool.lts_step.mp step
  constructor
  case sound => exact Pool.forall_update h.sound (Goroutine.exec_sound hexec)
  case notYet => exact NotYet.step h.notYet hexec
  case kept =>
    intro hcleared
    rcases Goroutine.exec_cleared hexec with hsame | rfl
    · have hbefore : c.shared.cleared = true := hsame.symm.trans hcleared
      exact (h.kept hbefore).step (h.sound a.1) (harmless hbefore) hexec
    · exact keysKept_clear

omit [DecidableEq Thread] in
/-- No goroutine is about to replace the keys once all is quiet. -/
theorem Quiet.not_replaces (quiet : Quiet c) (i : Thread) :
  (c.threads i).Replaces = false
  := by
  cases hthread : c.threads i with
  | worker session queue worker =>
      cases session with
      | new => rfl
      | old =>
          rw [quiet.stopped i queue worker hthread]
          rfl
  | timer | peer => rfl
  | request request =>
      have hended := quiet.request i request hthread
      cases request with
      | check | peerConnection | cancelMacro | setCurrent | done | panicked => rfl
      | cancelTimers | clear => simp at hended
  | closing closing =>
      have hclosed := quiet.closing i closing hthread
      cases closing with
      | start | check | setNil | close | count | lastDisconnected | done => rfl
      | cancelMacro | cancelTimers | clear => simp at hclosed

omit [DecidableEq Thread] in
/-- Nor is one about to settle a key. -/
theorem Quiet.not_releaseOnItsWay (quiet : Quiet c) (key : UInt8) :
  ¬ ReleaseOnItsWay c key
  := by
  rintro (htimer | ⟨i, hsettles⟩)
  · exact htimer (quiet.timers key)
  · cases hthread : c.threads i with
    | worker session queue worker =>
        rw [hthread] at hsettles
        cases session with
        | new => cases hsettles
        | old =>
            rw [quiet.stopped i queue worker hthread] at hsettles
            cases hsettles
    | timer call =>
        have hended := quiet.callbacks i call hthread
        rw [hthread] at hsettles
        cases call with
        | autoReleaseCheck | autoReleaseReport => cases hended
        | keypressReport | updateTimer | timer | autoRelease | done => cases hsettles
    | peer | request | closing =>
        rw [hthread] at hsettles
        cases hsettles

/-- When no step adds something for the old session once the keys have been cleared, what is down
after the old session has been closed has been set by the new one. -/
theorem setByNew_of_harmless {c₀ : SessionPool Thread}
    {tr : List (Lts.Transition (SessionPool Thread) (Thread × Choice))} (begins : Begins c₀)
    (run : (takeoverLts Thread).Run c₀ tr c) (harmless : ∀ e ∈ tr, Harmless e.before e.action.1)
    (quiet : Quiet c) :
  SetByNew c.shared
  := by
  have h : Invariant c := by
    apply run.invariant begins.invariant
    intro e he hbefore step
    exact hbefore.step step (harmless e he)
  have hcleared : c.shared.cleared = true := by
    by_contra hnot
    have hdone := (h.notYet (Bool.eq_false_of_not_eq_true hnot)).notDone
    rw [quiet.done] at hdone
    cases hdone
  have hkept : Kept c := by
    apply (h.kept hcleared).kept.resolve_left
    rintro ⟨i, hreplaces⟩
    rw [quiet.not_replaces i] at hreplaces
    cases hreplaces
  constructor
  case modifier => exact hkept.modifier
  case keys =>
    intro key hkey hzero
    apply (hkept.keys key hkey hzero).resolve_right
    exact fun hleaving => quiet.not_releaseOnItsWay key hleaving.release

end Run

/-! ### A press after the keys have been cleared -/

/-- The old session with the worker of its keyboard queue, and a timer. -/
def beforeTakeover : SessionPool (Fin 5) where
  shared :=
    { gadget := newUsbGadget
      setByNew := nothing
      currentSession := some .old
      hidQueue := fun _ _ => []
      peerClosed := fun _ => false
      done := fun _ => false
      macros := { keyboardMacroCancel := none, cancelled := fun _ => false }
      cleared := false }
  threads
    | 0 => .peer .old
    | 1 => .worker .old 1 .check
    | 2 => .request .check
    | 3 => .closing .start
    | 4 => .timer (.timer 0x04)

/-- The run begins as it must. -/
theorem begins_beforeTakeover :
  Begins beforeTakeover
  := by
  constructor
  case currentSession | notDone | notCleared | setByNew => rfl
  case request =>
    intro i request h
    match i with
    | 2 => exact (Goroutine.request.inj h).symm
    | 0 | 1 | 3 | 4 => cases h
  case closing =>
    intro i closing h
    match i with
    | 3 => exact (Goroutine.closing.inj h).symm
    | 0 | 1 | 2 | 4 => cases h
  case sound =>
    intro i
    match i with
    | 0 | 1 | 2 | 3 | 4 => trivial

/-- A key is pressed after the keys have been cleared, and the old session closes after the new one
has become current. The timer takes some steps then. -/
def pressAfterClear (key : UInt8) (timer : List (Fin 5)) : List (Fin 5 × Choice) :=
  ([2, 2, 2, 0, 1, 1, 1, 1, 2, 2, 2, 3, 3, 3, 3, 1] ++ timer).map fun i =>
    (i, { message := .keypressReport key true, first := true, accepted := false, last := false })

/-- Where the goroutines are then. -/
def afterTakeover (call : KeypressCall) : Fin 5 → Goroutine
  | 0 => .peer .old
  | 1 => .worker .old 1 .stopped
  | 2 => .request .done
  | 3 => .closing .done
  | 4 => .timer call

/-- After the run, nothing that concerns the keys is going on. -/
theorem quiet_afterTakeover {c : SessionPool (Fin 5)} {call : KeypressCall}
    (hthreads : ∀ i, c.threads i = afterTakeover call i) (hcall : call.InProgress = false)
    (hdone : c.shared.done .old = true)
    (htimers : ∀ n < 256, c.shared.gadget.kbdAutoReleaseTimers (UInt8.ofNat n) = none) :
  Quiet c
  := by
  constructor
  case done => exact hdone
  case closing =>
    intro i closing h
    rw [hthreads] at h
    match i with
    | 3 =>
        obtain rfl := Goroutine.closing.inj h
        decide
    | 0 | 1 | 2 | 4 => cases h
  case request =>
    intro i request h
    rw [hthreads] at h
    match i with
    | 2 =>
        obtain rfl := Goroutine.request.inj h
        decide
    | 0 | 1 | 3 | 4 => cases h
  case stopped =>
    intro i queue worker h
    rw [hthreads] at h
    match i with
    | 1 => exact (Goroutine.worker.inj h).2.2.symm
    | 0 | 2 | 3 | 4 => cases h
  case timers =>
    intro key
    rw [← UInt8.ofNat_toNat (x := key)]
    exact htimers key.toNat key.toNat_lt
  case callbacks =>
    intro i call' h
    rw [hthreads] at h
    match i with
    | 4 =>
        obtain rfl := Goroutine.timer.inj h
        exact hcall
    | 0 | 1 | 2 | 3 => cases h

/-- A modifier that is pressed then stays down. -/
theorem modifier_stays_down :
  ¬ ∀ (c₀ c : SessionPool (Fin 5))
      (tr : List (Lts.Transition (SessionPool (Fin 5)) (Fin 5 × Choice))),
    Begins c₀ → (takeoverLts (Fin 5)).Run c₀ tr c → Quiet c → SetByNew c.shared
  := by
  intro claim
  obtain ⟨tr, c, run, -, hobserve⟩ :=
    Lts.exists_run_of_observe (Pool.advance Goroutine.exec) beforeTakeover
      (pressAfterClear leftShift [])
      (fun c => decide ((∀ i, c.threads i = afterTakeover (.timer 0x04) i) ∧
        c.shared.done .old = true ∧
        (∀ n : ℕ, n < 256 → c.shared.gadget.kbdAutoReleaseTimers (UInt8.ofNat n) = none) ∧
        c.shared.gadget.keysDownState.modifier = modifierMaskLeftShift ∧
        c.shared.setByNew.modifier = 0))
      (by decide +kernel : _ = some true)
  obtain ⟨hthreads, hdone, htimers, hdown, hset⟩ := of_decide_eq_true hobserve
  have hmodifier := (claim _ c tr begins_beforeTakeover run
    (quiet_afterTakeover hthreads rfl hdone htimers)).modifier
  rw [hdown, hset] at hmodifier
  revert hmodifier
  decide

/-- The timer of an ordinary key releases it. -/
theorem setByNew_of_harmless_ordinary :
  ∃ tr c, (takeoverLts (Fin 5)).Run beforeTakeover tr c ∧
    tr.map Lts.Transition.action = pressAfterClear 0x04 [4, 4, 4, 4] ∧ SetByNew c.shared
  := by
  obtain ⟨tr, c, run, hactions, hharmless, hobserve⟩ :=
    Lts.exists_run_of_restrict (Pool.advance Goroutine.exec) (fun c a => Harmless c a.1)
      beforeTakeover (pressAfterClear 0x04 [4, 4, 4, 4])
      (fun c => decide ((∀ i, c.threads i = afterTakeover .done i) ∧
        c.shared.done .old = true ∧
        (∀ n : ℕ, n < 256 → c.shared.gadget.kbdAutoReleaseTimers (UInt8.ofNat n) = none)))
      (by decide +kernel : _ = some true)
  obtain ⟨hthreads, hdone, htimers⟩ := of_decide_eq_true hobserve
  use tr, c, run, hactions
  exact setByNew_of_harmless begins_beforeTakeover run hharmless
    (quiet_afterTakeover hthreads rfl hdone htimers)

end JetKvm.Takeover
