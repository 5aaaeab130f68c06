import JetKvm.Rpc.Handler
import JetKvm.Trackpad.Host

/-!
# Scrolling

Two fingers on the surface, or one that drags the middle button, turn the wheel of the host by one
for every sixteen pixels. What is left over is kept for the next movement, so that nothing is lost
as long as the gesture lasts, in whatever order the calls arrive. But a call that is made while the
wheel is blocked is lost with its ticks, and so is one that is not sent or not written.
-/

namespace JetKvm.Trackpad

/-! ### What is dragged -/

/-- How far the fingers and the middle button have been dragged. -/
def VirtualTrackpad.dragged (v : VirtualTrackpad) : Place :=
  let fingers : Place := if 2 ≤ v.pointers.length then centroid v.pointers else ⟨0, 0⟩
  ⟨fingers.x, fingers.y + v.mmbLastY.getD 0⟩

/-- The events that neither begin a gesture nor end it. -/
def Event.goesOn : Event → Bool
  | .surfacePointerDown _ _ => false
  | .surfacePointerUp _ _ => false
  | .surfacePointerCancel _ => false
  | .mmbPointerDown _ _ => false
  | .mmbPointerUp _ => false
  | .mmbPointerCancel _ => false
  | .effect => false
  | .unmount => false
  | _ => true

/-- The way for which there are some turns of the wheel. -/
def Setup.way (setup : Setup) (turned : ℤ × ℤ) : Place where
  x := (if setup.invertScroll then -1 else 1) * (16 * turned.2)
  y := (if setup.invertScroll then 1 else -1) * (16 * turned.1)

/-! ### Ticks -/

/-- A way is counted in ticks, and what is left over is kept. -/
structure Counted (accum way : ℚ) (ticks : ℤ) (rest : ℚ) : Prop where
  eq : 16 * ticks + rest = accum + way
  lt : |rest| < 16

/-- No way is counted in no ticks. -/
theorem counted_zero {accum : ℚ} (h : |accum| < 16) :
  Counted accum 0 0 accum
  := ⟨by simp, h⟩

/-- The loop moves sixteen pixels at a time from what is left over to the ticks. -/
theorem scrollLoop_spec (ticks : ℤ) (accum : ℚ) :
  16 * (scrollLoop ticks accum).1 + (scrollLoop ticks accum).2 = 16 * ticks + accum ∧
    |(scrollLoop ticks accum).2| < 16
  := by
  induction ticks, accum using scrollLoop.induct with
  | case1 ticks accum h ih =>
      rw [scrollLoop, dif_pos h]
      refine ⟨ih.1.trans ?_, ih.2⟩
      push_cast
      ring
  | case2 ticks accum h =>
      rw [scrollLoop, dif_neg h]
      exact ⟨rfl, not_le.mp h⟩

/-- A way is counted by the loop. -/
theorem counted_scrollLoop (accum way : ℚ) :
  Counted accum way (scrollLoop 0 (accum + way)).1 (scrollLoop 0 (accum + way)).2
  := by
  obtain ⟨heq, hlt⟩ := scrollLoop_spec 0 (accum + way)
  rw [Int.cast_zero, mul_zero, zero_add] at heq
  exact ⟨heq, hlt⟩

/-- A way that is not too long is counted in ticks that fit into a report. -/
theorem Counted.clampTicks {accum way rest : ℚ} {ticks : ℤ} (h : Counted accum way ticks rest)
    (haccum : |accum| < 16) (hway : |way| ≤ 2016) :
  Session.clampTicks ticks = ticks
  := by
  have heq := h.eq
  rw [abs_lt] at haccum
  rw [abs_le] at hway
  obtain ⟨hlow, hhigh⟩ := abs_lt.mp h.lt
  have hmin : (-128 : ℚ) < ticks := by linarith
  have hmax : (ticks : ℚ) < 128 := by linarith
  have hmin' : -128 < ticks := by exact_mod_cast hmin
  have hmax' : ticks < 128 := by exact_mod_cast hmax
  rw [Session.clampTicks]
  omega

/-- The ticks that are sent. -/
inductive Sends : Option Call → ℤ → ℤ → Prop
  | none :
      Sends none 0 0
  | move (dx dy : ℚ) (buttons : UInt8) :
      Sends (some (.sendTrackpadRelMouse dx dy buttons)) 0 0
  | scroll (ticksY ticksX : ℤ) :
      Sends (some (.sendWheelReport (ticksY * 100) (ticksX * 100))) ticksY ticksX

/-- For what is dragged, some ticks are sent. -/
structure Scrolled (v v' : VirtualTrackpad) (call : Option Call) (ticksY ticksX : ℤ) : Prop where
  y : Counted v.scrollAccum.y (v'.dragged.y - v.dragged.y) ticksY v'.scrollAccum.y
  x : Counted v.scrollAccum.x (v'.dragged.x - v.dragged.x) ticksX v'.scrollAccum.x
  sends : Sends call ticksY ticksX

/-- Less than a tick is left over. -/
structure Small (v : VirtualTrackpad) : Prop where
  y : |v.scrollAccum.y| < 16
  x : |v.scrollAccum.x| < 16

namespace VirtualTrackpad

variable {v v' u : VirtualTrackpad} {event : Event} {call : Option Call}

/-- The ticks that were counted are sent. -/
theorem sends_sendScrollDelta (dx dy : ℚ) :
  Sends (u.sendScrollDelta dx dy).2 (scrollLoop 0 (u.scrollAccum.y + dy)).1
    (scrollLoop 0 (u.scrollAccum.x + dx)).1
  := by
  rw [sendScrollDelta]
  dsimp only
  split
  case isTrue hzero =>
    rw [hzero.1, hzero.2]
    exact .none
  case isFalse => exact .scroll _ _

/-- What is dragged is scrolled. -/
theorem scrolled_sendScrollDelta (haccum : u.scrollAccum = v.scrollAccum) {dx dy : ℚ}
    (hx : u.dragged.x - v.dragged.x = dx) (hy : u.dragged.y - v.dragged.y = dy) :
  ∃ ticksY ticksX,
    Scrolled v (u.sendScrollDelta dx dy).1 (u.sendScrollDelta dx dy).2 ticksY ticksX
  := by
  refine ⟨_, _, ?_, ?_, sends_sendScrollDelta dx dy⟩
  · have hdragged : (u.sendScrollDelta dx dy).1.dragged.y - v.dragged.y = dy := hy
    rw [hdragged, ← haccum]
    exact counted_scrollLoop _ _
  · have hdragged : (u.sendScrollDelta dx dy).1.dragged.x - v.dragged.x = dx := hx
    rw [hdragged, ← haccum]
    exact counted_scrollLoop _ _

/-- When nothing is dragged, nothing is scrolled. -/
theorem scrolled_still (h : Small v) (haccum : v'.scrollAccum = v.scrollAccum)
    (hdragged : v'.dragged = v.dragged) (hsends : Sends call 0 0) :
  ∃ ticksY ticksX, Scrolled v v' call ticksY ticksX
  := by
  refine ⟨0, 0, ?_, ?_, hsends⟩
  · rw [haccum, hdragged, sub_self]
    exact counted_zero h.y
  · rw [haccum, hdragged, sub_self]
    exact counted_zero h.x

/-- The fingers and the middle button are where they were, and so is what is left over. -/
theorem scrolled_same (h : Small v) (haccum : v'.scrollAccum = v.scrollAccum)
    (hpointers : v'.pointers = v.pointers) (hlast : v'.mmbLastY = v.mmbLastY)
    (hsends : Sends call 0 0) :
  ∃ ticksY ticksX, Scrolled v v' call ticksY ticksX
  := by
  apply scrolled_still h haccum _ hsends
  rw [dragged, dragged, hpointers, hlast]

/-- A finger that is moved is still one finger. -/
theorem length_set {pointers : Pointers} {pointerId : ℕ} (h : pointers.has pointerId = true)
    (place : Place) :
  (pointers.set pointerId place).length = pointers.length
  := by
  rw [Pointers.set, if_pos (of_decide_eq_true h), List.length_map]

/-- Fingers that are moved scroll. -/
theorem scrolled_surfacePointerMove (h : Small v) (pointerId : ℕ) (point : Point) :
  ∃ ticksY ticksX, Scrolled v (v.handleSurfacePointerMove pointerId point).1
    (v.handleSurfacePointerMove pointerId point).2 ticksY ticksX
  := by
  rw [handleSurfacePointerMove]
  split
  case isTrue => exact scrolled_same h rfl rfl rfl .none
  case isFalse hhas =>
    have hlength := length_set (eq_true_of_ne_false hhas) point.toPlace
    dsimp only
    split
    case isTrue htwo =>
      -- the fingers scroll by as much as their centroid is moved
      apply scrolled_sendScrollDelta
      · rfl
      · simp only [dragged, hlength, if_pos htwo]
      · simp only [dragged, hlength, if_pos htwo]
        ring
    case isFalse hone =>
      split
      case h_1 => exact scrolled_same h rfl rfl rfl .none
      case h_2 last hlast =>
        apply scrolled_still h
        · rfl
        · simp only [dragged, hlength, if_neg hone]
        · dsimp only [sendDelta]
          split
          · exact .none
          · exact .move _ _ _

/-- The middle button is dragged up and down. -/
theorem dragged_sub (hpointers : u.pointers = v.pointers) {lastY clientY : ℚ}
    (hlast : v.mmbLastY = some lastY) (hnext : u.mmbLastY = some clientY) :
  u.dragged.x - v.dragged.x = 0 ∧ u.dragged.y - v.dragged.y = clientY - lastY
  := by
  rw [dragged, dragged, hpointers, hlast, hnext]
  exact ⟨sub_self _, add_sub_add_left_eq_sub _ _ _⟩

/-- The middle button scrolls when it is moved. -/
theorem scrolled_mmbPointerMove (h : Small v) (pointerId : ℕ) (clientY : ℚ) :
  ∃ ticksY ticksX, Scrolled v (v.handleMmbPointerMove pointerId clientY).1
    (v.handleMmbPointerMove pointerId clientY).2 ticksY ticksX
  := by
  rw [handleMmbPointerMove]
  split
  case h_1 startY lastY hstart hlast =>
    split
    · exact scrolled_same h rfl rfl rfl .none
    · split
      · exact scrolled_same h rfl rfl rfl .none
      · -- what was dragged before the threshold counts too
        apply scrolled_sendScrollDelta
        · split <;> rfl
        · apply (dragged_sub _ hlast rfl).1
          split <;> rfl
        · apply (dragged_sub _ hlast rfl).2
          split <;> rfl
  case h_2 => exact scrolled_same h rfl rfl rfl .none

/-- A button that is let go does not scroll. -/
theorem scrolled_letGo (h : Small v) (haccum : u.scrollAccum = v.scrollAccum)
    (hpointers : u.pointers = v.pointers) (hlast : u.mmbLastY = v.mmbLastY) (button : Button) :
  ∃ ticksY ticksX, Scrolled v (u.letGo button).1 (u.letGo button).2 ticksY ticksX
  := by
  rw [letGo]
  split
  · exact scrolled_same h haccum hpointers hlast .none
  · split
    · exact scrolled_same h haccum hpointers hlast .none
    · split
      · exact scrolled_same h haccum hpointers hlast .none
      · exact scrolled_same h haccum hpointers hlast (.move _ _ _)

/-- As long as a gesture goes on, what is dragged is scrolled. -/
theorem scrolled (h : Small v) (hhandle : v.handle event = some (v', call))
    (hgoes : event.goesOn = true) :
  ∃ ticksY ticksX, Scrolled v v' call ticksY ticksX
  := by
  have hof : ∀ {result : VirtualTrackpad × Option Call}, result = (v', call) →
      (∃ ticksY ticksX, Scrolled v result.1 result.2 ticksY ticksX) →
        ∃ ticksY ticksX, Scrolled v v' call ticksY ticksX := by
    rintro _ rfl hscrolled
    exact hscrolled
  cases event with
  | surfacePointerDown => cases hgoes
  | surfacePointerUp => cases hgoes
  | surfacePointerCancel => cases hgoes
  | mmbPointerDown => cases hgoes
  | mmbPointerUp => cases hgoes
  | mmbPointerCancel => cases hgoes
  | effect => cases hgoes
  | unmount => cases hgoes
  | surfacePointerMove pointerId point =>
      exact hof (Option.some.inj hhandle) (scrolled_surfacePointerMove h pointerId point)
  | mmbPointerMove pointerId clientY =>
      exact hof (Option.some.inj hhandle) (scrolled_mmbPointerMove h pointerId clientY)
  | buttonPointerDown button =>
      obtain ⟨-, hhandle⟩ := Option.ite_none_left_eq_some.mp hhandle
      apply hof (Option.some.inj hhandle)
      rw [handleButtonPointerDown]
      split
      · exact scrolled_same h rfl rfl rfl (.move _ _ _)
      · exact scrolled_same h rfl rfl rfl .none
  | buttonPointerUp button =>
      obtain ⟨-, hhandle⟩ := Option.ite_none_left_eq_some.mp hhandle
      apply hof (Option.some.inj hhandle)
      apply scrolled_letGo h <;> rfl
  | buttonPointerCancel button =>
      obtain ⟨-, hhandle⟩ := Option.ite_none_left_eq_some.mp hhandle
      exact hof (Option.some.inj hhandle) (scrolled_same h rfl rfl rfl .none)
  | longPress button =>
      obtain ⟨-, hhandle⟩ := Option.ite_none_right_eq_some.mp hhandle
      apply hof (Option.some.inj hhandle)
      rw [longPress]
      split
      · exact scrolled_same h rfl rfl rfl .none
      · exact scrolled_same h rfl rfl rfl (.move _ _ _)
  | clickRelease =>
      obtain ⟨-, hhandle⟩ := Option.ite_none_right_eq_some.mp hhandle
      exact hof (Option.some.inj hhandle) (scrolled_same h rfl rfl rfl (.move _ _ _))
  | setVirtualTrackpadEnabled enabled =>
      exact hof (Option.some.inj hhandle) (scrolled_same h rfl rfl rfl .none)

end VirtualTrackpad

/-! ### Runs -/

namespace Session

variable {setup : Setup} {page : Page} {s s' t : Session} {tr : List Transition}

theorem awaitedWheel_block :
  (s.block page).awaitedWheel setup = s.awaitedWheel setup
  := (same_block page s).2.awaitedWheel

/-- The turns for some ticks are under way, when their call is sent. -/
theorem awaitedWheel_sendWheelReport (hopen : page.rpcChannelOpen = true)
    (hfree : page.scrollThrottling = 0 ∨ s.blockWheelEvent = false) (ticksY ticksX : ℤ) :
  (s.sendWheelReport setup page (ticksY * 100) (ticksX * 100)).awaitedWheel setup =
    s.awaitedWheel setup + turns setup.invertScroll ticksY ticksX
  := by
  have hunblocked : ¬ (page.scrollThrottling ≠ 0 ∧ s.blockWheelEvent = true) := by
    rintro ⟨hthrottled, hblocked⟩
    rcases hfree with hfree | hfree
    · exact hthrottled hfree
    · exact Bool.false_ne_true (hfree.symm.trans hblocked)
  obtain ⟨⟨nY, hY, hconvertY, -⟩, ⟨nX, hX, hconvertX, -⟩⟩ :=
    And.imp (convertInt_turn setup) (convertInt_turn setup)
      (turns_mem setup.invertScroll ticksY ticksX)
  rw [sendWheelReport, if_neg hunblocked, wheelParams_ticks]
  split
  case h_1 hnone =>
    have hzero : turns setup.invertScroll ticksY ticksX = 0 := by
      by_contra hne
      rw [if_neg hne] at hnone
      cases hnone
    rw [hzero, add_zero]
  case h_2 call hcall =>
    obtain ⟨-, hcall⟩ := Option.ite_none_left_eq_some.mp hcall
    obtain rfl := Option.some.inj hcall
    rw [Int.cast_inj] at hY hX
    rw [if_pos hopen, awaitedWheel_block, awaitedWheel, awaitedWheel]
    simp only [List.map_append, List.sum_append, List.map_singleton, List.sum_singleton, hconvertY,
      hconvertX, ← hY, ← hX, ← add_assoc]
    rfl

/-- The turns for the ticks that are sent are under way. -/
theorem awaitedWheel_send {call : Option Call} {ticksY ticksX : ℤ}
    (h : ∀ deltaY deltaX, call = some (.sendWheelReport deltaY deltaX) →
      page.rpcChannelOpen = true ∧ (page.scrollThrottling = 0 ∨ s.blockWheelEvent = false))
    (hsends : Sends call ticksY ticksX) :
  (s.send setup page call).awaitedWheel setup =
    s.awaitedWheel setup + turns setup.invertScroll ticksY ticksX
  := by
  have hzero : turns setup.invertScroll 0 0 = 0 := by
    simp [turns, clampTicks]
  cases hsends with
  | none => rw [hzero, add_zero]; rfl
  | move dx dy buttons =>
      rw [hzero, add_zero]
      exact (sameTurns_sendTrackpadRelMouse dx dy buttons).awaitedWheel
  | scroll =>
      obtain ⟨hopen, hfree⟩ := h _ _ rfl
      exact awaitedWheel_sendWheelReport hopen hfree ticksY ticksX

/-- The way of some turns, in the direction in which the ticks were counted. -/
theorem way_turns (setup : Setup) {ticksY ticksX : ℤ} (hY : clampTicks ticksY = ticksY)
    (hX : clampTicks ticksX = ticksX) :
  setup.way (turns setup.invertScroll ticksY ticksX) = ⟨16 * ticksX, 16 * ticksY⟩
  := by
  rw [Setup.way, turns, hY, hX]
  cases setup.invertScroll <;> simp

/-- The ways of turns add up. -/
theorem way_add (setup : Setup) (a b : ℤ × ℤ) :
  (setup.way (a + b)).x = (setup.way a).x + (setup.way b).x ∧
    (setup.way (a + b)).y = (setup.way a).y + (setup.way b).y
  := by
  simp only [Setup.way, Prod.fst_add, Prod.snd_add]
  push_cast
  constructor <;> ring

/-- A turn of the wheel that is asked for is sent, which it is not while the wheel is blocked, and
one that is handled is written. -/
def TurnsArrive (e : Transition) : Prop :=
  match e.action with
  | .event page event =>
      ∀ v deltaY deltaX,
        e.before.trackpad.handle event = some (v, some (.sendWheelReport deltaY deltaX)) →
          page.rpcChannelOpen = true ∧
            (page.scrollThrottling = 0 ∨ e.before.blockWheelEvent = false)
  | .handleWheel _ gadget => gadget.WritesTurns
  | _ => True

/-- A transition that belongs to a gesture. -/
structure GoesOn (e : Transition) : Prop where
  goesOn : ∀ page event, e.action = .event page event → event.goesOn = true
  arrives : TurnsArrive e
  y : |e.after.trackpad.dragged.y - e.before.trackpad.dragged.y| ≤ 2016
  x : |e.after.trackpad.dragged.x - e.before.trackpad.dragged.x| ≤ 2016

/-- The way that is left over when the turns under way have been made. -/
def owed (setup : Setup) (s : Session) : Place where
  x := s.trackpad.dragged.x - (setup.way (s.awaitedWheel setup)).x
  y := s.trackpad.dragged.y - (setup.way (s.awaitedWheel setup)).y

/-- A step that leaves the trackpad and the wheel as they are leaves what is owed. -/
theorem owed_eq (htrackpad : s'.trackpad = s.trackpad)
    (hwheel : s'.awaitedWheel setup = s.awaitedWheel setup) :
  s'.owed setup = s.owed setup
  := by
  rw [owed, owed, htrackpad, hwheel]

/-- What is owed is always what is left over, apart from what was owed at first. -/
theorem owed_step {a : Action} (h : s.Reachable) (hsmall : Small s.trackpad)
    (hgoes : GoesOn ⟨s, a, s'⟩) (hstep : step setup s a = some s') :
  Small s'.trackpad ∧
    (s'.owed setup).y - s'.trackpad.scrollAccum.y =
      (s.owed setup).y - s.trackpad.scrollAccum.y ∧
    (s'.owed setup).x - s'.trackpad.scrollAccum.x =
      (s.owed setup).x - s.trackpad.scrollAccum.x
  := by
  have hsame : s'.trackpad = s.trackpad → s'.awaitedWheel setup = s.awaitedWheel setup →
      Small s'.trackpad ∧
        (s'.owed setup).y - s'.trackpad.scrollAccum.y =
          (s.owed setup).y - s.trackpad.scrollAccum.y ∧
        (s'.owed setup).x - s'.trackpad.scrollAccum.x =
          (s.owed setup).x - s.trackpad.scrollAccum.x := by
    intro htrackpad hwheel
    rw [owed_eq htrackpad hwheel, htrackpad]
    exact ⟨hsmall, rfl, rfl⟩
  cases a with
  | event page event =>
      obtain ⟨v, call, hhandle, rfl⟩ := step_event hstep
      obtain ⟨ticksY, ticksX, hscrolled⟩ :=
        VirtualTrackpad.scrolled hsmall hhandle (hgoes.goesOn page event rfl)
      have hY := hgoes.y
      have hX := hgoes.x
      simp only [send_trackpad] at hY hX
      have hturns := way_turns setup (hscrolled.y.clampTicks hsmall.y hY)
        (hscrolled.x.clampTicks hsmall.x hX)
      have hwheel : (({ s with trackpad := v } : Session).send setup page call).awaitedWheel setup =
          s.awaitedWheel setup + turns setup.invertScroll ticksY ticksX :=
        awaitedWheel_send
          (fun deltaY deltaX hcall => hgoes.arrives v deltaY deltaX (hcall ▸ hhandle))
          hscrolled.sends
      obtain ⟨hwayX, hwayY⟩ := way_add setup (s.awaitedWheel setup)
        (turns setup.invertScroll ticksY ticksX)
      have hcountY := hscrolled.y.eq
      have hcountX := hscrolled.x.eq
      rw [owed, owed, hwheel]
      dsimp only
      rw [send_trackpad, hwayX, hwayY, hturns]
      refine ⟨⟨hscrolled.y.lt, hscrolled.x.lt⟩, ?_, ?_⟩
      · linarith
      · linarith
  | render =>
      obtain rfl := Option.some.inj hstep
      exact hsame rfl rfl
  | unblock =>
      obtain rfl := step_unblock hstep
      exact hsame rfl rfl
  | handleMessage gadget =>
      have hwheel := awaitedWheel_handleMessage hstep
      obtain ⟨data, rest, -, rfl⟩ := step_handleMessage hstep
      exact hsame rfl hwheel
  | handleRelMouse position gadget =>
      obtain ⟨htrackpad, hwheel⟩ := awaitedWheel_handleRelMouse hstep
      exact hsame htrackpad hwheel
  | handleWheel position gadget =>
      obtain ⟨htrackpad, hwheel⟩ := awaitedWheel_handleWheel h.sound hgoes.arrives hstep
      exact hsame htrackpad hwheel

/-- As long as a gesture goes on, less than sixteen pixels of it are lost. -/
theorem owed_of_gesture {before : List Transition} (reached : (lts setup).Run start before s)
    (hnone : s.trackpad.scrollAccum = ⟨0, 0⟩) (run : (lts setup).Run s tr t)
    (hgoes : ∀ e ∈ tr, GoesOn e) :
  |(t.owed setup).y - (s.owed setup).y| < 16 ∧ |(t.owed setup).x - (s.owed setup).x| < 16
  := by
  have hsmall : Small s.trackpad := by
    constructor <;> rw [hnone] <;> norm_num
  have hreachable := reachable_of_run reachable_start reached
  obtain ⟨-, hlast, hy, hx⟩ := run.invariant
    (I := fun u => u.Reachable ∧ Small u.trackpad ∧
      (u.owed setup).y - u.trackpad.scrollAccum.y =
        (s.owed setup).y - s.trackpad.scrollAccum.y ∧
      (u.owed setup).x - u.trackpad.scrollAccum.x =
        (s.owed setup).x - s.trackpad.scrollAccum.x)
    ⟨hreachable, hsmall, rfl, rfl⟩ (by
      rintro e he ⟨hbefore, hsmall', hy, hx⟩ hstep
      obtain ⟨hlast, hy', hx'⟩ := owed_step hbefore hsmall' (hgoes e he) hstep
      exact ⟨hbefore.step hstep, hlast, hy'.trans hy, hx'.trans hx⟩)
  rw [hnone, sub_zero] at hy hx
  rw [← hy, ← hx, sub_sub_cancel, sub_sub_cancel]
  exact ⟨hlast.y, hlast.x⟩

/-- Two fingers are put down on the trackpad. -/
def twoFingers : List Action :=
  [.event .working (.setVirtualTrackpadEnabled true), .event .working .effect,
    .event .working (.surfacePointerDown 1 ⟨⟨0, 100⟩, 0⟩),
    .event .working (.surfacePointerDown 2 ⟨⟨50, 100⟩, 10⟩)]

/-- A page on which the wheel is blocked for ten milliseconds. -/
def throttled : Page :=
  ⟨true, 10, true, true⟩

/-- They are dragged up, the second no sooner than the wheel is free again, and the calls for the
wheel are handled in the other order. -/
def draggedUp : List Action :=
  [.event throttled (.surfacePointerMove 1 ⟨⟨0, 50⟩, 60⟩), .render, .unblock, .render,
    .event throttled (.surfacePointerMove 2 ⟨⟨50, 70⟩, 80⟩), .handleMessage .working,
    .handleWheel 1 .working, .handleWheel 0 .working]

/-- The step is short, and is not an event while the wheel is blocked. -/
def isShortAndFree (e : Transition) : Bool :=
  decide (|e.after.trackpad.dragged.y - e.before.trackpad.dragged.y| ≤ 2016 ∧
    |e.after.trackpad.dragged.x - e.before.trackpad.dragged.x| ≤ 2016) &&
  match e.action with
  | .event _ _ => !e.before.blockWheelEvent
  | _ => true

/-- Of forty pixels, two turns of the wheel are made. -/
theorem owed_of_gesture_up :
  let setup : Setup := ⟨false, .wrapping⟩
  ∃ before s tr t, (lts setup).Run start before s ∧ (lts setup).Run s tr t ∧
    tr.map Lts.Transition.action = draggedUp ∧
    |(t.owed setup).y - (s.owed setup).y| < 16 ∧ |(t.owed setup).x - (s.owed setup).x| < 16 ∧
    t.wheelCalls = [] ∧ t.host.wheelY = 2
  := by
  intro setup
  have hplay : ((Lts.play (step setup) start twoFingers).bind fun s =>
      (Lts.transitions (step setup) s draggedUp).map fun tr =>
        ((s.trackpad.scrollAccum, tr.all isShortAndFree),
          tr.getLast?.map fun e => (e.after.wheelCalls, e.after.host.wheelY))) =
        some ((⟨0, 0⟩, true), some ([], 2)) := by
    decide +kernel
  obtain ⟨s, htwo, hrest⟩ := Option.bind_eq_some_iff.mp hplay
  obtain ⟨tr, hup, hobserve⟩ := Option.map_eq_some_iff.mp hrest
  obtain ⟨hfirst, hlast⟩ := Prod.mk.inj hobserve
  obtain ⟨hnone, hall⟩ := Prod.mk.inj hfirst
  obtain ⟨before, reached, -⟩ := Lts.exists_run_of_play htwo
  obtain ⟨t, run, hactions⟩ := Lts.exists_run_of_transitions hup
  have hgoes : ∀ e ∈ tr, GoesOn e := by
    intro e he
    obtain ⟨hshort, hunblocked⟩ := Bool.and_eq_true_iff.mp (List.all_eq_true.mp hall e he)
    obtain ⟨hy, hx⟩ := of_decide_eq_true hshort
    have haction := Lts.forall_action
      (fun a => (∃ event, a = .event throttled event ∧ event.goesOn = true) ∨
        ¬ (∃ page event, a = .event page event) ∧
          ∀ position gadget, a = .handleWheel position gadget → gadget = .working) hactions
      (by simp [draggedUp, Event.goesOn]) e he
    rcases haction with ⟨event, heq, hgoes⟩ | ⟨hother, hworking⟩
    · refine ⟨?_, ?_, hy, hx⟩
      · rintro page event' haction
        obtain ⟨-, rfl⟩ := Action.event.inj (heq.symm.trans haction)
        exact hgoes
      · rw [heq] at hunblocked
        rw [TurnsArrive, heq]
        exact fun _ _ _ _ => ⟨rfl, .inr (by simpa using hunblocked)⟩
    · refine ⟨fun page event haction => absurd ⟨page, event, haction⟩ hother, ?_, hy, hx⟩
      rw [TurnsArrive]
      split
      case h_1 page event haction => exact absurd ⟨page, event, haction⟩ hother
      case h_2 position gadget haction =>
        rw [hworking position gadget haction]
        exact Gadget.writesTurns_working
      case h_3 => trivial
  obtain ⟨e, he, hlast⟩ := Option.map_eq_some_iff.mp hlast
  obtain ⟨hcalls, hwheel⟩ := Prod.mk.inj hlast
  rw [run.after_of_getLast? he] at hcalls hwheel
  obtain ⟨hy, hx⟩ := owed_of_gesture reached hnone run hgoes
  exact ⟨before, s, tr, t, reached, run, hactions, hy, hx, hcalls, hwheel⟩

end Session

end JetKvm.Trackpad
