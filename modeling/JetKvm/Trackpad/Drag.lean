import JetKvm.Rpc.Handler
import JetKvm.Trackpad.Host

/-!
# Moving the pointer

A finger on the surface moves the pointer of the host by as much as it is moved itself, rounded at
every step, apart from its slow movements, which count double, and the very slow ones, which are
lost. It does not matter what is done to the buttons meanwhile, nor in which way the reports are
sent and when they arrive, as long as each of them does.
-/

namespace JetKvm.Trackpad

/-! ### The way of a finger -/

/-- How far the pointer is moved by a step of a finger. -/
def accelerated (dx dy : ℚ) : ℤ × ℤ :=
  if |dx| < 2 ∧ |dy| < 2 then 0 else (mathRound (calcDelta dx), mathRound (calcDelta dy))

/-- How far the pointer is moved on the way of a finger. -/
def travelled : Point → List Point → ℤ × ℤ
  | _, [] => 0
  | last, point :: path =>
      accelerated (point.x - last.x) (point.y - last.y) + travelled point path

/-- The way of a finger grows at its end. -/
theorem travelled_concat (start : Point) (path : List Point) (point : Point) :
  travelled start (path ++ [point]) =
    travelled start path +
      accelerated (point.x - (path.getLastD start).x) (point.y - (path.getLastD start).y)
  := by
  induction path generalizing start with
  | nil => simp [travelled]
  | cons next path ih =>
      rw [List.cons_append, travelled, travelled, ih next, List.getLastD_cons, add_assoc]

/-- The events that touch the surface, or clear it. -/
def Event.touches : Event → Bool
  | .surfacePointerDown _ _ => true
  | .surfacePointerMove _ _ => true
  | .surfacePointerUp _ _ => true
  | .surfacePointerCancel _ => true
  | .effect => true
  | .unmount => true
  | _ => false

/-- The event by which an action touches the surface. -/
def Action.touch : Action → Option Event
  | .event _ e => if e.touches then some e else none
  | _ => none

/-- A movement that is asked for is sent, in one way or the other. -/
def Page.SendsMoves (page : Page) : Prop :=
  if page.rpcHidReady = true then page.hidChannelOpen = true else page.rpcChannelOpen = true

/-! ### What does not touch the surface -/

/-- The fingers are where they were. -/
structure SameSurface (v v' : VirtualTrackpad) : Prop where
  pointers : v'.pointers = v.pointers
  lastPoint : v'.lastPoint = v.lastPoint

namespace VirtualTrackpad

variable {v v' : VirtualTrackpad} {event : Event} {call : Option Call}

/-- A button that is let go leaves the fingers. -/
theorem sameSurface_letGo (button : Button) :
  SameSurface v (v.letGo button).1
  := by
  rw [letGo]
  split
  · exact ⟨rfl, rfl⟩
  · split
    · exact ⟨rfl, rfl⟩
    · split <;> exact ⟨rfl, rfl⟩

/-- The middle button is dragged without the fingers. -/
theorem sameSurface_mmbPointerMove (pointerId : ℕ) (clientY : ℚ) :
  SameSurface v (v.handleMmbPointerMove pointerId clientY).1
  := by
  rw [handleMmbPointerMove]
  split
  · split
    · exact ⟨rfl, rfl⟩
    · split
      · exact ⟨rfl, rfl⟩
      · dsimp only [sendScrollDelta]
        split <;> exact ⟨rfl, rfl⟩
  · exact ⟨rfl, rfl⟩

/-- The middle button is let go without the fingers. -/
theorem sameSurface_mmbPointerUp (pointerId : ℕ) :
  SameSurface v (v.handleMmbPointerUp pointerId).1
  := by
  rw [handleMmbPointerUp]
  split
  · exact ⟨rfl, rfl⟩
  · dsimp only
    split
    · exact ⟨rfl, rfl⟩
    · obtain ⟨hpointers, hlast⟩ :=
        sameSurface_letGo (v := (v.clearLongPressTimer .MMB).resetMmbGesture) .MMB
      exact ⟨hpointers, hlast⟩

/-- Only the events of the surface move the fingers. -/
theorem sameSurface (h : v.handle event = some (v', call)) (hother : event.touches = false) :
  SameSurface v v'
  := by
  have hof : ∀ {result : VirtualTrackpad × Option Call}, result = (v', call) →
      SameSurface v result.1 → SameSurface v v' := by
    rintro _ rfl hsame
    exact hsame
  cases event with
  | surfacePointerDown => cases hother
  | surfacePointerMove => cases hother
  | surfacePointerUp => cases hother
  | surfacePointerCancel => cases hother
  | effect => cases hother
  | unmount => cases hother
  | mmbPointerDown pointerId clientY =>
      apply hof (Option.some.inj h)
      rw [handleMmbPointerDown]
      split <;> exact ⟨rfl, rfl⟩
  | mmbPointerMove pointerId clientY =>
      exact hof (Option.some.inj h) (sameSurface_mmbPointerMove pointerId clientY)
  | mmbPointerUp pointerId =>
      exact hof (Option.some.inj h) (sameSurface_mmbPointerUp pointerId)
  | mmbPointerCancel pointerId =>
      apply hof (Option.some.inj h)
      rw [handleMmbPointerCancel]
      split <;> exact ⟨rfl, rfl⟩
  | buttonPointerDown button =>
      obtain ⟨-, h⟩ := Option.ite_none_left_eq_some.mp h
      apply hof (Option.some.inj h)
      rw [handleButtonPointerDown]
      split <;> exact ⟨rfl, rfl⟩
  | buttonPointerUp button =>
      obtain ⟨-, h⟩ := Option.ite_none_left_eq_some.mp h
      obtain ⟨hpointers, hlast⟩ := sameSurface_letGo (v := v.clearLongPressTimer button) button
      exact hof (Option.some.inj h) ⟨hpointers, hlast⟩
  | buttonPointerCancel button =>
      obtain ⟨-, h⟩ := Option.ite_none_left_eq_some.mp h
      exact hof (Option.some.inj h) ⟨rfl, rfl⟩
  | longPress button =>
      obtain ⟨-, h⟩ := Option.ite_none_right_eq_some.mp h
      apply hof (Option.some.inj h)
      rw [longPress]
      split <;> exact ⟨rfl, rfl⟩
  | clickRelease =>
      obtain ⟨-, h⟩ := Option.ite_none_right_eq_some.mp h
      exact hof (Option.some.inj h) ⟨rfl, rfl⟩
  | setVirtualTrackpadEnabled enabled => exact hof (Option.some.inj h) ⟨rfl, rfl⟩

end VirtualTrackpad

/-! ### What touches it -/

/-- The movement that is asked for. -/
def Call.movement : Option Call → ℤ × ℤ
  | some (.sendTrackpadRelMouse dx dy _) => (mathRound (calcDelta dx), mathRound (calcDelta dy))
  | _ => 0

/-- The buttons are sent with a movement by nothing. -/
theorem movement_still (buttons : UInt8) :
  Call.movement (some (.sendTrackpadRelMouse 0 0 buttons)) = 0
  := by
  have hzero : mathRound (calcDelta 0) = 0 := by decide +kernel
  rw [Call.movement, hzero]
  rfl

/-- No other event asks for a movement. -/
theorem Handled.movement {v v' : VirtualTrackpad} {event : Event} {call : Option Call}
    (handled : Handled v event v' call) (hother : event.touches = false) :
  Call.movement call = 0
  := by
  cases handled with
  | quiet => rfl
  | scroll => rfl
  | move => cases hother
  | click => exact movement_still _
  | sync => exact movement_still _
  | hide => rfl

/-- One finger is on the surface. -/
structure OneFinger (v : VirtualTrackpad) (pointerId : ℕ) (point : Point) : Prop where
  pointers : v.pointers = [(pointerId, point.toPlace)]
  lastPoint : v.lastPoint = some point

/-- A finger is put down. -/
theorem oneFinger_surfacePointerDown {v : VirtualTrackpad} (h : v.pointers = []) (pointerId : ℕ)
    (point : Point) :
  OneFinger (v.handleSurfacePointerDown pointerId point) pointerId point
  := by
  have hpointers : v.pointers.set pointerId point.toPlace = [(pointerId, point.toPlace)] := by
    rw [h]
    rfl
  rw [VirtualTrackpad.handleSurfacePointerDown, hpointers]
  exact ⟨rfl, rfl⟩

/-- The finger is moved, and so is the pointer. -/
theorem OneFinger.surfacePointerMove {v : VirtualTrackpad} {pointerId : ℕ} {last : Point}
    (h : OneFinger v pointerId last) (point : Point) :
  OneFinger (v.handleSurfacePointerMove pointerId point).1 pointerId point ∧
    Call.movement (v.handleSurfacePointerMove pointerId point).2 =
      accelerated (point.x - last.x) (point.y - last.y)
  := by
  have hhas : v.pointers.has pointerId = true := by simp [h.pointers, Pointers.has]
  have hset : v.pointers.set pointerId point.toPlace = [(pointerId, point.toPlace)] := by
    simp [h.pointers, Pointers.set]
  have hlength : ¬ 2 ≤ v.pointers.length := by simp [h.pointers]
  rw [VirtualTrackpad.handleSurfacePointerMove, if_neg (by simp [hhas])]
  dsimp only
  rw [if_neg hlength, hset, h.lastPoint]
  refine ⟨⟨rfl, rfl⟩, ?_⟩
  dsimp only [VirtualTrackpad.sendDelta]
  rw [accelerated]
  split <;> rfl

/-! ### Runs -/

namespace Session

variable {setup : Setup} {page : Page} {s s' t : Session} {tr : List Transition}

/-- A movement that is asked for is sent, and one that is handled is written. -/
def MovesArrive (e : Transition) : Prop :=
  match e.action with
  | .event page event =>
      ∀ v dx dy buttons,
        e.before.trackpad.handle event = some (v, some (.sendTrackpadRelMouse dx dy buttons)) →
          page.SendsMoves
  | .handleMessage gadget => gadget.WritesMoves
  | .handleRelMouse _ gadget => gadget.WritesMoves
  | _ => True

/-- Where the pointer is when the movements under way have been handled and written. -/
def position (s : Session) : ℤ × ℤ :=
  (s.awaited.x + (s.relMouseCalls.map Browser.MouseReportMessage.dx).sum,
    s.awaited.y + (s.relMouseCalls.map Browser.MouseReportMessage.dy).sum)

theorem SameMoves.position (h : SameMoves s s') :
  s'.position = s.position
  := by
  rw [Session.position, Session.position, h.awaited, h.relMouseCalls]

/-- A movement that is sent is under way, whether it is a message or some calls. -/
theorem position_sendTrackpadRelMouse (h : page.SendsMoves) (dx dy : ℚ) (buttons : UInt8) :
  (s.sendTrackpadRelMouse page dx dy buttons).position =
    s.position + (mathRound (calcDelta dx), mathRound (calcDelta dy))
  := by
  rw [Page.SendsMoves] at h
  split at h
  case isTrue hready =>
    rw [position, awaited_sendTrackpadRelMouse hready h, sendTrackpadRelMouse, if_pos hready,
      if_pos h, position]
    ext
    · exact add_right_comm _ _ _
    · exact add_right_comm _ _ _
  case isFalse hready =>
    obtain ⟨hx, hy⟩ := sum_chunks (mathRound (calcDelta dx)) (mathRound (calcDelta dy))
      (buttons &&& 0x1f).toNat
    rw [sendTrackpadRelMouse, if_neg hready, if_pos h, position, position]
    dsimp only
    rw [List.map_append, List.map_append, List.sum_append, List.sum_append, trackpadReports, hx, hy,
      ← add_assoc, ← add_assoc]
    rfl

/-- What is asked for moves the pointer by its movement. -/
theorem position_send (setup : Setup) (s : Session) {call : Option Call}
    (h : ∀ dx dy buttons, call = some (.sendTrackpadRelMouse dx dy buttons) → page.SendsMoves) :
  (s.send setup page call).position = s.position + Call.movement call
  := by
  cases call with
  | none => exact (add_zero _).symm
  | some call =>
      cases call with
      | sendTrackpadRelMouse dx dy buttons =>
          exact position_sendTrackpadRelMouse (h dx dy buttons rfl) dx dy buttons
      | sendWheelReport deltaY deltaX =>
          exact (sameMoves_sendWheelReport deltaY deltaX).position.trans (add_zero _).symm

/-- A movement that is handled was counted before. -/
theorem position_handleRelMouse {gadget : Gadget} {index : ℕ} (h : s.Sound)
    (hwrites : gadget.WritesMoves) (hstep : step setup s (.handleRelMouse index gadget) = some s') :
  s'.position = s.position ∧ s'.trackpad = s.trackpad
  := by
  obtain ⟨htrackpad, hcalls, call, hcall, hx, hy⟩ := awaited_handleRelMouse h hwrites hstep
  rw [position, position, hcalls, hx, hy, ← sum_eraseIdx Browser.MouseReportMessage.dx hcall,
    ← sum_eraseIdx Browser.MouseReportMessage.dy hcall, add_assoc, add_assoc]
  exact ⟨rfl, htrackpad⟩

/-- A step that does not touch the surface leaves the fingers and the pointer where they are. -/
theorem position_step {a : Action} (h : s.Reachable) (hstep : step setup s a = some s')
    (harrives : MovesArrive ⟨s, a, s'⟩) (hother : a.touch = none) :
  s'.position = s.position ∧ SameSurface s.trackpad s'.trackpad
  := by
  cases a with
  | event page event =>
      obtain ⟨v, call, hhandle, rfl⟩ := step_event hstep
      have htouches : event.touches = false := by
        simpa [Action.touch] using hother
      rw [position_send setup _ fun dx dy buttons hcall => harrives v dx dy buttons (hcall ▸ hhandle),
        (VirtualTrackpad.handled h.held hhandle).movement htouches, send_trackpad]
      exact ⟨add_zero _, VirtualTrackpad.sameSurface hhandle htouches⟩
  | render =>
      obtain rfl := Option.some.inj hstep
      exact ⟨rfl, rfl, rfl⟩
  | unblock =>
      obtain rfl := step_unblock hstep
      exact ⟨rfl, rfl, rfl⟩
  | handleMessage gadget =>
      have hawaited := awaited_handleMessage h.sound harrives hstep
      obtain ⟨data, rest, -, rfl⟩ := step_handleMessage hstep
      rw [position, hawaited]
      exact ⟨rfl, rfl, rfl⟩
  | handleRelMouse index gadget =>
      obtain ⟨hposition, htrackpad⟩ := position_handleRelMouse h.sound harrives hstep
      rw [hposition, htrackpad]
      exact ⟨rfl, rfl, rfl⟩
  | handleWheel index gadget =>
      obtain ⟨htrackpad, hcalls, hx, hy, -⟩ := awaited_handleWheel h.sound hstep
      rw [position, hcalls, hx, hy, htrackpad]
      exact ⟨rfl, rfl, rfl⟩

/-- As long as nothing touches the surface, the pointer stays. -/
theorem position_untouched (h : s.Reachable) (run : (lts setup).Run s tr t)
    (harrives : ∀ e ∈ tr, MovesArrive e)
    (hnone : tr.filterMap (fun e => e.action.touch) = []) :
  t.position = s.position ∧ SameSurface s.trackpad t.trackpad
  := by
  rw [List.filterMap_eq_nil_iff] at hnone
  refine (run.invariant (I := fun u => u.Reachable ∧ u.position = s.position ∧
    SameSurface s.trackpad u.trackpad) ⟨h, rfl, rfl, rfl⟩ ?_).2
  rintro e he ⟨hreachable, hposition, hsame⟩ hstep
  obtain ⟨hposition', hsame'⟩ := position_step hreachable hstep (harrives e he) (hnone e he)
  exact ⟨hreachable.step hstep, hposition'.trans hposition,
    hsame'.pointers.trans hsame.pointers, hsame'.lastPoint.trans hsame.lastPoint⟩

/-- The event of an action that touches the surface is handled. -/
theorem step_of_touch {a : Action} {event : Event} (htouch : a.touch = some event)
    (hstep : step setup s a = some s') (harrives : MovesArrive ⟨s, a, s'⟩) :
  ∃ v call, s.trackpad.handle event = some (v, call) ∧ s'.trackpad = v ∧
    s'.position = s.position + Call.movement call
  := by
  cases a with
  | event page e =>
      obtain ⟨-, htouch⟩ := Option.ite_none_right_eq_some.mp htouch
      obtain rfl := Option.some.inj htouch
      obtain ⟨v, call, hhandle, rfl⟩ := step_event hstep
      have hposition := position_send setup { s with trackpad := v }
        fun dx dy buttons hcall => harrives v dx dy buttons (hcall ▸ hhandle)
      exact ⟨v, call, hhandle, send_trackpad call, hposition⟩
  | render => cases htouch
  | unblock => cases htouch
  | handleMessage => cases htouch
  | handleRelMouse => cases htouch
  | handleWheel => cases htouch

/-- After a part of the way of a finger, the finger is where it was moved last, and the pointer has
been moved along. -/
theorem oneFinger_of_run {pointerId : ℕ} {first : Point} {path : List Point} (h : s.Reachable)
    (hnone : s.trackpad.pointers = []) (run : (lts setup).Run s tr t)
    (harrives : ∀ e ∈ tr, MovesArrive e)
    (hfinger : tr.filterMap (fun e => e.action.touch) =
      .surfacePointerDown pointerId first :: path.map (Event.surfacePointerMove pointerId)) :
  t.position = s.position + travelled first path ∧
    OneFinger t.trackpad pointerId (path.getLastD first)
  := by
  induction run generalizing path with
  | nil => cases hfinger
  | @snoc tr t u a run hstep ih =>
      rw [List.filterMap_append, List.filterMap_cons, List.filterMap_nil] at hfinger
      rw [List.forall_mem_append, List.forall_mem_singleton] at harrives
      cases htouch : a.touch with
      | none =>
          rw [htouch, List.append_nil] at hfinger
          obtain ⟨hposition, hfinger⟩ := ih harrives.1 hfinger
          obtain ⟨hposition', hsame⟩ :=
            position_step (reachable_of_run h run) hstep harrives.2 htouch
          exact ⟨hposition'.trans hposition, hsame.pointers.trans hfinger.pointers,
            hsame.lastPoint.trans hfinger.lastPoint⟩
      | some event =>
          rw [htouch] at hfinger
          obtain ⟨v, call, hhandle, hv, hposition⟩ := step_of_touch htouch hstep harrives.2
          cases path using List.reverseRecOn with
          | nil =>
              rw [List.map_nil] at hfinger
              change _ ++ [event] = [] ++ [.surfacePointerDown pointerId first] at hfinger
              obtain ⟨hbefore, hevent⟩ := List.append_inj' hfinger rfl
              obtain rfl := List.singleton_inj.mp hevent
              obtain ⟨hposition', hsame⟩ := position_untouched h run harrives.1 hbefore
              have heq : (t.trackpad.handleSurfacePointerDown pointerId first, none) = (v, call) :=
                Option.some.inj hhandle
              have hdown :=
                oneFinger_surfacePointerDown (hsame.pointers.trans hnone) pointerId first
              obtain ⟨rfl, rfl⟩ := Prod.ext_iff.mp heq
              rw [hposition, hposition', hv]
              exact ⟨rfl, hdown⟩
          | append_singleton path point =>
              rw [List.map_append, ← List.cons_append] at hfinger
              obtain ⟨hbefore, hevent⟩ := List.append_inj' hfinger rfl
              obtain rfl := List.singleton_inj.mp hevent
              obtain ⟨hposition', hlast⟩ := ih harrives.1 hbefore
              obtain ⟨hmoved, hmovement⟩ := hlast.surfacePointerMove point
              have heq : t.trackpad.handleSurfacePointerMove pointerId point = (v, call) :=
                Option.some.inj hhandle
              rw [heq] at hmoved hmovement
              rw [hposition, hposition', hmovement, hv, travelled_concat, add_assoc,
                List.getLastD_concat]
              exact ⟨rfl, hmoved⟩

/-- As long as every movement arrives, and whatever happens apart from it, a finger that is put down
where no other is, and moved on, moves the pointer by the rounded lengths of its steps, as far as
they are not lost. -/
theorem position_of_drag {before : List Transition} {pointerId : ℕ} {first : Point}
    {path : List Point} (reached : (lts setup).Run start before s)
    (hnone : s.trackpad.pointers = []) (run : (lts setup).Run s tr t)
    (harrives : ∀ e ∈ tr, MovesArrive e)
    (hfinger : tr.filterMap (fun e => e.action.touch) =
      .surfacePointerDown pointerId first :: path.map (Event.surfacePointerMove pointerId)) :
  t.position = s.position + travelled first path
  := (oneFinger_of_run (reachable_of_run reachable_start reached) hnone run harrives hfinger).1

/-- A page on which the HID RPC is not ready. -/
def calling : Page :=
  ⟨false, 0, true, true⟩

/-- The trackpad is shown. -/
def shown : List Action :=
  [.event calling (.setVirtualTrackpadEnabled true), .event calling .effect]

/-- A drag during which a button is locked. The calls are handled in another order. -/
def lockedDrag : List Action :=
  [.event calling (.surfacePointerDown 7 ⟨⟨0, 0⟩, 0⟩), .event calling (.buttonPointerDown .LMB),
    .event calling (.surfacePointerMove 7 ⟨⟨20, 0⟩, 40⟩), .handleRelMouse 1 .working,
    .event calling (.longPress .LMB), .event calling (.surfacePointerMove 7 ⟨⟨50, 1⟩, 80⟩),
    .handleRelMouse 2 .working, .handleRelMouse 0 .working,
    .event calling (.surfacePointerMove 7 ⟨⟨51, 1⟩, 120⟩),
    .event calling (.surfacePointerMove 7 ⟨⟨54, 1⟩, 160⟩)]

/-- The fast steps count once, the slow one twice, and one is lost. -/
theorem position_of_drag_locked :
  let setup : Setup := ⟨false, .wrapping⟩
  ∃ before s tr t, (lts setup).Run start before s ∧ (lts setup).Run s tr t ∧
    tr.map Lts.Transition.action = lockedDrag ∧ t.position = (56, 2)
  := by
  intro setup
  have hplay : ((Lts.play (step setup) start shown).bind fun s =>
      (Lts.play (step setup) s lockedDrag).map fun _ => (s.trackpad.pointers, s.position)) =
        some ([], (0, 0)) := by
    decide +kernel
  obtain ⟨s, hshown, hrest⟩ := Option.bind_eq_some_iff.mp hplay
  obtain ⟨t, hdrag, hobserve⟩ := Option.map_eq_some_iff.mp hrest
  obtain ⟨hnone, hposition⟩ := Prod.mk.inj hobserve
  obtain ⟨before, reached, -⟩ := Lts.exists_run_of_play hshown
  obtain ⟨tr, run, hactions⟩ := Lts.exists_run_of_play hdrag
  have hfinger : tr.filterMap (fun e => e.action.touch) =
      .surfacePointerDown 7 ⟨⟨0, 0⟩, 0⟩ ::
        [⟨⟨20, 0⟩, 40⟩, ⟨⟨50, 1⟩, 80⟩, ⟨⟨51, 1⟩, 120⟩, ⟨⟨54, 1⟩, 160⟩].map
          (Event.surfacePointerMove 7) := by
    have hmap : tr.filterMap (fun e => e.action.touch) =
        (tr.map Lts.Transition.action).filterMap Action.touch := by
      rw [List.filterMap_map]
      rfl
    rw [hmap, hactions]
    rfl
  have harrives : ∀ e ∈ tr, MovesArrive e := by
    intro e he
    have haction := Lts.forall_action
      (fun a => (∃ event, a = .event calling event) ∨ ∃ index, a = .handleRelMouse index .working)
      hactions (by simp [lockedDrag]) e he
    rw [MovesArrive]
    rcases haction with ⟨event, heq⟩ | ⟨index, heq⟩
    · rw [heq]
      exact fun _ _ _ _ _ => rfl
    · rw [heq]
      exact Gadget.writesMoves_working
  refine ⟨before, s, tr, t, reached, run, hactions, ?_⟩
  rw [position_of_drag reached hnone run harrives hfinger, hposition]
  decide +kernel

end Session

end JetKvm.Trackpad
