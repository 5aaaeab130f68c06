import JetKvm.Rpc.Handler
import JetKvm.Trackpad.Host

/-!
# The buttons of the trackpad

As long as every report goes over the HID RPC and is written, what the host is told of the buttons
are the locked ones, and a clicked one until it is let go. There are two ways in which it is left
with others. When the trackpad is hidden during a click, and no button is locked, the timer that
would let go of the clicked button is cleared and nothing is sent. And a report of the wheel of the
relative mouse says that no button is down.
-/

namespace JetKvm.Trackpad

namespace Session

variable {setup : Setup} {page : Page} {gadget : Gadget} {s s' t : Session} {tr : List Transition}

/-- A movement that is asked for is sent over the HID RPC, and a message that is handled is
written. -/
def OverHid (e : Transition) : Prop :=
  match e.action with
  | .event page event =>
      ∀ v dx dy buttons,
        e.before.trackpad.handle event = some (v, some (.sendTrackpadRelMouse dx dy buttons)) →
          page.rpcHidReady = true ∧ page.hidChannelOpen = true
  | .handleMessage gadget => gadget.WritesMoves
  | _ => True

/-- When the messages under way have arrived, the host has been told the buttons that are locked, or
those and one that is being clicked. -/
def Follows (s : Session) : Prop :=
  s.awaited.buttons = s.trackpad.lockedButtons ∨
    s.trackpad.clickReleaseTimer = true ∧
      ∃ button : Button, s.awaited.buttons = s.trackpad.lockedButtons ||| button.bit

/-- The trackpad is hidden while a button is down that is not locked, and none is locked. -/
def HidesClick (e : Transition) : Prop :=
  (∃ page, e.action = .event page .effect) ∧
    e.before.trackpad.isVirtualTrackpadEnabled = false ∧
    e.before.trackpad.lockedButtons = 0 ∧ e.before.awaited.buttons ≠ 0

/-- The wheel of the relative mouse is turned while a button is locked, and no newer message is
under way. -/
def TurnsLocked (e : Transition) : Prop :=
  e.before.trackpad.lockedButtons ≠ 0 ∧
    ∃ position gadget call, e.action = .handleWheel position gadget ∧
      e.before.wheelCalls[position]? = some call ∧ TurnsRelative e.before gadget call

/-! ### Steps -/

/-- What is awaited of the buttons when what is asked for has been sent over the HID RPC. -/
theorem buttons_send (setup : Setup) (s : Session) {call : Option Call}
    (h : ∀ dx dy buttons, call = some (.sendTrackpadRelMouse dx dy buttons) →
      page.rpcHidReady = true ∧ page.hidChannelOpen = true) :
  (s.send setup page call).awaited.buttons =
    match call with
    | some (.sendTrackpadRelMouse _ _ buttons) => buttons &&& 0x1f
    | _ => s.awaited.buttons
  := by
  cases call with
  | none => rfl
  | some call =>
      cases call with
      | sendTrackpadRelMouse dx dy buttons =>
          obtain ⟨hready, hopen⟩ := h dx dy buttons rfl
          rw [send, awaited_sendTrackpadRelMouse hready hopen]
          rfl
      | sendWheelReport deltaY deltaX =>
          rw [send, (sameMoves_sendWheelReport deltaY deltaX).awaited]

/-- No call for a movement is made. -/
theorem relMouseCalls_send {call : Option Call}
    (h : ∀ dx dy buttons, call = some (.sendTrackpadRelMouse dx dy buttons) →
      page.rpcHidReady = true ∧ page.hidChannelOpen = true) :
  (s.send setup page call).relMouseCalls = s.relMouseCalls
  := by
  cases call with
  | none => rfl
  | some call =>
      cases call with
      | sendTrackpadRelMouse dx dy buttons =>
          obtain ⟨hready, hopen⟩ := h dx dy buttons rfl
          rw [send, sendTrackpadRelMouse, if_pos hready, if_pos hopen]
      | sendWheelReport deltaY deltaX =>
          exact (sameMoves_sendWheelReport deltaY deltaX).relMouseCalls

/-- Hiding the trackpad lets go of what is locked, but not of what is clicked. -/
theorem follows_effect_iff (h : s.Reachable)
    (hstep : step setup s (.event page .effect) = some s')
    (hover : OverHid ⟨s, .event page .effect, s'⟩) :
  s'.Follows ↔ ¬ HidesClick ⟨s, .event page .effect, s'⟩
  := by
  obtain ⟨v, call, hhandle, rfl⟩ := step_event hstep
  have hbuttons := buttons_send setup { s with trackpad := v }
    fun dx dy buttons hcall => hover v dx dy buttons (hcall ▸ hhandle)
  have hrelease := Option.some.inj hhandle
  rw [VirtualTrackpad.releaseAllButtons] at hrelease
  rw [Follows, hbuttons, send_trackpad]
  split at hrelease
  case isTrue hsends =>
    obtain ⟨rfl, rfl⟩ := Prod.mk.inj hrelease
    apply iff_of_true
    · left
      rfl
    · rintro ⟨-, hdisabled, hunlocked, -⟩
      rw [h.held] at hsends
      rcases hsends with hlocked | henabled
      · exact hlocked hunlocked
      · exact Bool.false_ne_true (hdisabled.symm.trans henabled)
  case isFalse hquiet =>
    obtain ⟨rfl, rfl⟩ := Prod.mk.inj hrelease
    rw [not_or, not_not, Bool.not_eq_true, h.held] at hquiet
    simp [HidesClick, hquiet, VirtualTrackpad.clearSurfacePointers,
      VirtualTrackpad.resetMmbGesture, awaited]

/-- Whatever else happens to the trackpad, the host follows. -/
theorem Follows.event {event : Event} (h : s.Reachable) (hfollows : s.Follows)
    (hother : event ≠ .effect) (hstep : step setup s (.event page event) = some s')
    (hover : OverHid ⟨s, .event page event, s'⟩) :
  s'.Follows
  := by
  obtain ⟨v, call, hhandle, rfl⟩ := step_event hstep
  have hbuttons := buttons_send setup { s with trackpad := v }
    fun dx dy buttons hcall => hover v dx dy buttons (hcall ▸ hhandle)
  have hawaited : ({ s with trackpad := v } : Session).awaited = s.awaited := rfl
  have handled := VirtualTrackpad.handled h.held hhandle
  rw [Follows, hbuttons, send_trackpad, hawaited]
  cases handled with
  | quiet same =>
      rw [same.lockedButtons, same.clickReleaseTimer]
      exact hfollows
  | scroll same =>
      rw [same.lockedButtons, same.clickReleaseTimer]
      exact hfollows
  | move same =>
      left
      dsimp only
      rw [same.lockedButtons, h.held, h.covered]
  | click locked held timer button =>
      right
      refine ⟨timer, button, ?_⟩
      dsimp only
      rw [locked, h.held, and_or_distrib, h.covered, bit_and]
  | sync held timer covered =>
      left
      dsimp only
      rw [held, covered h.covered]
  | hide => exact absurd rfl hother

/-- A report of the relative mouse's wheel lets go of what is locked. -/
theorem follows_handleWheel_iff {position : ℕ} (h : s.Reachable) (hfollows : s.Follows)
    (hstep : step setup s (.handleWheel position gadget) = some s') :
  s'.Follows ↔ ¬ TurnsLocked ⟨s, .handleWheel position gadget, s'⟩
  := by
  obtain ⟨htrackpad, -, -, -, call, hcall, hlost, hkept⟩ := awaited_handleWheel h.sound hstep
  have hturns : TurnsLocked ⟨s, .handleWheel position gadget, s'⟩ ↔
      s.trackpad.lockedButtons ≠ 0 ∧ TurnsRelative s gadget call := by
    apply and_congr_right
    rintro -
    constructor
    · rintro ⟨position', gadget', call', haction, hcall', hrelative⟩
      obtain ⟨rfl, rfl⟩ := Action.handleWheel.inj haction
      obtain rfl := Option.some.inj (hcall.symm.trans hcall')
      exact hrelative
    · exact fun hrelative => ⟨position, gadget, call, rfl, hcall, hrelative⟩
  rw [hturns, Follows, htrackpad]
  by_cases hrelative : TurnsRelative s gadget call
  · rw [hlost hrelative]
    simp only [hrelative, and_true, not_not]
    constructor
    · rintro (hzero | ⟨-, button, hzero⟩)
      · exact hzero.symm
      · exact (UInt8.or_eq_zero_iff.mp hzero.symm).1
    · exact fun hzero => Or.inl hzero.symm
  · rw [hkept hrelative]
    exact iff_of_true hfollows fun hboth => hrelative hboth.2

/-! ### Runs -/

/-- What holds as long as the host follows. -/
structure Kept (s : Session) : Prop where
  reachable : s.Reachable
  follows : s.Follows
  relMouseCalls : s.relMouseCalls = []

/-- A step over the HID RPC makes no call for a movement, and tells when the host follows. -/
theorem follows_step_iff {a : Action} (h : s.Kept) (hover : OverHid ⟨s, a, s'⟩)
    (hstep : step setup s a = some s') :
  s'.relMouseCalls = [] ∧
    (s'.Follows ↔ ¬ HidesClick ⟨s, a, s'⟩ ∧ ¬ TurnsLocked ⟨s, a, s'⟩)
  := by
  have hhides : (∀ page, a ≠ .event page .effect) → ¬ HidesClick ⟨s, a, s'⟩ := by
    rintro hother ⟨⟨page, haction⟩, -⟩
    exact hother page haction
  have hturns : (∀ position gadget, a ≠ .handleWheel position gadget) →
      ¬ TurnsLocked ⟨s, a, s'⟩ := by
    rintro hother ⟨-, position, gadget, call, haction, -⟩
    exact hother position gadget haction
  cases a with
  | event page event =>
      rw [and_iff_left (hturns (by simp))]
      constructor
      · obtain ⟨v, call, hhandle, rfl⟩ := step_event hstep
        rw [relMouseCalls_send fun dx dy buttons hcall => hover v dx dy buttons (hcall ▸ hhandle)]
        exact h.relMouseCalls
      · by_cases heffect : event = .effect
        · subst heffect
          exact follows_effect_iff h.reachable hstep hover
        · apply iff_of_true (h.follows.event h.reachable heffect hstep hover)
          exact hhides (by simpa using heffect)
  | render =>
      obtain rfl := Option.some.inj hstep
      exact ⟨h.relMouseCalls, iff_of_true h.follows ⟨hhides (by simp), hturns (by simp)⟩⟩
  | unblock =>
      obtain rfl := step_unblock hstep
      exact ⟨h.relMouseCalls, iff_of_true h.follows ⟨hhides (by simp), hturns (by simp)⟩⟩
  | handleMessage gadget =>
      have hawaited := awaited_handleMessage h.reachable.sound hover hstep
      obtain ⟨data, rest, -, rfl⟩ := step_handleMessage hstep
      refine ⟨h.relMouseCalls, iff_of_true ?_ ⟨hhides (by simp), hturns (by simp)⟩⟩
      rw [Follows, hawaited]
      exact h.follows
  | handleRelMouse position gadget =>
      obtain ⟨call, hcall, -⟩ := step_handleRelMouse hstep
      rw [h.relMouseCalls] at hcall
      cases hcall
  | handleWheel position gadget =>
      rw [and_iff_right (hhides (by simp))]
      obtain ⟨-, hcalls, -⟩ := awaited_handleWheel h.reachable.sound hstep
      exact ⟨hcalls.trans h.relMouseCalls, follows_handleWheel_iff h.reachable h.follows hstep⟩

/-- In every run over the HID RPC, the host is always told the buttons that are locked, or those and
one that is being clicked, if and only if the trackpad is never hidden during a click while no
button is locked, and the wheel of the relative mouse never turned while one is. -/
theorem buttons_iff (run : (lts setup).Run start tr t) (hover : ∀ e ∈ tr, OverHid e) :
  (∀ e ∈ tr, e.after.Follows) ↔ ∀ e ∈ tr, ¬ HidesClick e ∧ ¬ TurnsLocked e
  := by
  apply run.forall_iff_of_mem (I := Kept) ⟨reachable_start, Or.inl rfl, rfl⟩
  · intro e he hkept hstep
    exact (follows_step_iff hkept (hover e he) hstep).2
  · intro e he hnot hkept hstep
    obtain ⟨hcalls, hfollows⟩ := follows_step_iff hkept (hover e he) hstep
    exact ⟨hkept.reachable.step hstep, hfollows.mpr hnot, hcalls⟩

/-- A click during which the trackpad is hidden. -/
def hiddenClick : List Action :=
  [.event .working (.setVirtualTrackpadEnabled true), .event .working .effect,
    .handleMessage .working, .event .working (.buttonPointerDown .LMB),
    .event .working (.buttonPointerUp .LMB), .handleMessage .working,
    .event .working (.setVirtualTrackpadEnabled false), .event .working .effect]

/-- The button that was clicked is still down when the trackpad has been hidden. -/
theorem buttons_iff_hidden :
  let setup : Setup := ⟨false, .wrapping⟩
  ∃ tr t, (lts setup).Run start tr t ∧ tr.map Lts.Transition.action = hiddenClick ∧
    ¬ (∀ e ∈ tr, ¬ HidesClick e ∧ ¬ TurnsLocked e) ∧ t.messages = [] ∧ t.host.buttons = 1
  := by
  intro setup
  let observe := fun t : Session =>
    (t.messages, t.host.buttons, t.trackpad.lockedButtons, t.trackpad.clickReleaseTimer)
  have hplay : (Lts.play (step setup) start hiddenClick).map observe = some ([], 1, 0, false) := by
    decide +kernel
  obtain ⟨tr, t, run, hactions, hobserve⟩ :=
    Lts.exists_run_of_observe (step setup) start hiddenClick observe hplay
  obtain ⟨hmessages, hbuttons, hlocked, htimer⟩ :
      t.messages = [] ∧ t.host.buttons = 1 ∧ t.trackpad.lockedButtons = 0 ∧
        t.trackpad.clickReleaseTimer = false := by
    simpa only [observe, Prod.mk.injEq] using hobserve
  have hlast : ¬ t.Follows := by
    rw [Follows, hlocked, htimer, awaited, hmessages, List.foldl_nil, hbuttons]
    simp
  have hover : ∀ e ∈ tr, OverHid e := by
    intro e he
    have haction := Lts.forall_action
      (fun a => (∃ event, a = .event .working event) ∨ a = .handleMessage .working) hactions
      (by simp [hiddenClick]) e he
    rw [OverHid]
    rcases haction with ⟨event, heq⟩ | heq
    · rw [heq]
      exact fun _ _ _ _ _ => ⟨rfl, rfl⟩
    · rw [heq]
      exact Gadget.writesMoves_working
  refine ⟨tr, t, run, hactions, ?_, hmessages, hbuttons⟩
  rw [← buttons_iff run hover]
  intro hfollows
  cases run with
  | nil => cases hactions
  | snoc => exact hlast (hfollows _ (List.mem_append_right _ (List.mem_singleton_self _)))

end Session

end JetKvm.Trackpad
