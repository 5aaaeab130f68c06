import Mathlib.Algebra.Order.Floor.Semiring
import Mathlib.Data.Rat.Floor
import Mathlib.Logic.Function.Basic
import Mathlib.Tactic.Linarith

/-!
# The virtual trackpad

A finger on the surface moves the pointer of the host, two fingers scroll, and two taps click. A
button clicks when it is pressed and let go, is locked when it is held for half a second, and is let
go by the next press. Dragging the middle button scrolls. Coordinates are numbers, and the arithmetic
on them is exact.
-/

namespace JetKvm.Trackpad

/-! ### The state -/

/-- A place on the page, or the difference of two. -/
structure Place where
  x : ℚ
  y : ℚ
deriving DecidableEq

/-- A place and the time in milliseconds. -/
structure Point extends Place where
  time : ℕ
deriving DecidableEq

/-- The buttons, and their bits. -/
inductive Button where
  | LMB
  | RMB
  | MMB
deriving DecidableEq, Repr

/-- The masks `LMB`, `RMB` and `MMB`. -/
def Button.bit : Button → UInt8
  | LMB => 1
  | RMB => 2
  | MMB => 4

/-- `pointersRef`, in the order in which the fingers were put down. -/
abbrev Pointers :=
  List (ℕ × Place)

/-- The value of a pointer is replaced, or else the pointer is new. -/
def Pointers.set (pointers : Pointers) (pointerId : ℕ) (place : Place) : Pointers :=
  if pointerId ∈ pointers.map Prod.fst then
    pointers.map fun entry => if entry.1 = pointerId then (pointerId, place) else entry
  else pointers ++ [(pointerId, place)]

/-- Whether a finger is on the surface. -/
def Pointers.has (pointers : Pointers) (pointerId : ℕ) : Bool :=
  pointerId ∈ pointers.map Prod.fst

/-- A finger is lifted. -/
def Pointers.delete (pointers : Pointers) (pointerId : ℕ) : Pointers :=
  pointers.filter fun entry => entry.1 ≠ pointerId

/-- The mean of the places, and the origin when there is none. -/
def centroid (pointers : Pointers) : Place :=
  let n : ℚ := if pointers.length = 0 then 1 else pointers.length
  ⟨(pointers.map fun entry => entry.2.x).sum / n, (pointers.map fun entry => entry.2.y).sum / n⟩

/-- The references of the component, a timer being the fact that it is set, and the setting from
the store. What is only displayed is left out. -/
structure VirtualTrackpad where
  isVirtualTrackpadEnabled : Bool
  lockedButtons : UInt8
  heldButtons : UInt8
  pointers : Pointers
  isScrolling : Bool
  scrollAccum : Place
  gestureStart : Option Point
  lastPoint : Option Point
  lastTap : Option Point
  longPressTimers : Button → Bool
  longPressFired : Button → Bool
  skipButtonUp : Button → Bool
  clickReleaseTimer : Bool
  mmbPointerId : Option ℕ
  mmbStartY : Option ℚ
  mmbLastY : Option ℚ
  mmbDidScroll : Bool

/-- What the component asks of `useMouse`. -/
inductive Call where
  | sendTrackpadRelMouse (dx dy : ℚ) (buttons : UInt8)
  | sendWheelReport (deltaY deltaX : ℚ)

namespace VirtualTrackpad

/-- A trackpad that has just been mounted. -/
def new : VirtualTrackpad where
  isVirtualTrackpadEnabled := false
  lockedButtons := 0
  heldButtons := 0
  pointers := []
  isScrolling := false
  scrollAccum := ⟨0, 0⟩
  gestureStart := none
  lastPoint := none
  lastTap := none
  longPressTimers _ := false
  longPressFired _ := false
  skipButtonUp _ := false
  clickReleaseTimer := false
  mmbPointerId := none
  mmbStartY := none
  mmbLastY := none
  mmbDidScroll := false

/-! ### Sending -/

/-- What is locked is also held. -/
def updateLockedButtons (v : VirtualTrackpad) (next : UInt8) : VirtualTrackpad :=
  { v with lockedButtons := next, heldButtons := next }

/-- The buttons that are held are sent as they are. -/
def sendHeld (v : VirtualTrackpad) : Call :=
  .sendTrackpadRelMouse 0 0 v.heldButtons

/-- A step that drifts by less than two pixels is not sent. -/
def sendDelta (v : VirtualTrackpad) (dx dy : ℚ) : Option Call :=
  if |dx| < 2 ∧ |dy| < 2 then none else some (.sendTrackpadRelMouse dx dy v.heldButtons)

end VirtualTrackpad

/-- `Math.sign`. -/
def mathSign (x : ℚ) : ℤ :=
  if 0 < x then 1 else if x < 0 then -1 else 0

/-- An iteration of the loop that counts ticks comes sixteen pixels closer to zero. -/
theorem mathSign_of_le_abs {x : ℚ} (h : 16 ≤ |x|) :
  |x - mathSign x * 16| = |x| - 16
  := by
  rw [mathSign]
  split_ifs with hpos hneg
  · rw [abs_of_pos hpos] at h ⊢
    push_cast
    rw [one_mul, abs_of_nonneg (by linarith)]
  · rw [abs_of_neg hneg] at h ⊢
    push_cast
    rw [abs_of_nonpos (by linarith)]
    linarith
  · have hzero : x = 0 := le_antisymm (not_lt.mp hpos) (not_lt.mp hneg)
    rw [hzero, abs_zero] at h
    linarith

/-- This is why the loop ends. -/
theorem floor_abs_lt {x : ℚ} (h : 16 ≤ |x|) :
  ⌊|x - mathSign x * 16|⌋₊ < ⌊|x|⌋₊
  := by
  rw [mathSign_of_le_abs h, Nat.floor_sub_ofNat]
  have hle : 16 ≤ ⌊|x|⌋₊ := Nat.le_floor (by exact_mod_cast h)
  omega

/-- A loop of `sendScrollDelta`, with the ticks that have been counted. -/
def scrollLoop (ticks : ℤ) (accum : ℚ) : ℤ × ℚ :=
  if h : 16 ≤ |accum| then scrollLoop (ticks + mathSign accum) (accum - mathSign accum * 16)
  else (ticks, accum)
termination_by ⌊|accum|⌋₊
decreasing_by exact floor_abs_lt h

namespace VirtualTrackpad

/-- The ticks are sent like notches of a wheel. -/
def sendScrollDelta (v : VirtualTrackpad) (dx dy : ℚ) : VirtualTrackpad × Option Call :=
  let y := scrollLoop 0 (v.scrollAccum.y + dy)
  let x := scrollLoop 0 (v.scrollAccum.x + dx)
  ({ v with scrollAccum := ⟨x.2, y.2⟩ },
    if x.1 = 0 ∧ y.1 = 0 then none else some (.sendWheelReport (y.1 * 100) (x.1 * 100)))

/-- The timer that is pending, if any, is replaced. -/
def sendClick (v : VirtualTrackpad) (button : Button) : VirtualTrackpad × Option Call :=
  ({ v with clickReleaseTimer := true },
    some (.sendTrackpadRelMouse 0 0 (v.heldButtons ||| button.bit)))

/-- The timer of a click. -/
def clickRelease (v : VirtualTrackpad) : VirtualTrackpad × Option Call :=
  let v := { v with clickReleaseTimer := false }
  (v, some v.sendHeld)

/-- The button is no longer locked by being held. -/
def clearLongPressTimer (v : VirtualTrackpad) (button : Button) : VirtualTrackpad :=
  { v with longPressTimers := Function.update v.longPressTimers button false }

/-- The timer of a button that is held. Scrolling with the middle button prevents that it is
locked. -/
def longPress (v : VirtualTrackpad) (button : Button) : VirtualTrackpad × Option Call :=
  let v := v.clearLongPressTimer button
  if button = .MMB ∧ v.mmbDidScroll = true then (v, none)
  else
    let v := { v with longPressFired := Function.update v.longPressFired button true }
    let v := v.updateLockedButtons (v.lockedButtons ||| button.bit)
    (v, some v.sendHeld)

/-! ### The surface -/

/-- A second finger begins to scroll, a first one to move the pointer or to tap. -/
def handleSurfacePointerDown (v : VirtualTrackpad) (pointerId : ℕ) (point : Point) :
    VirtualTrackpad :=
  let pointers := v.pointers.set pointerId point.toPlace
  if 2 ≤ pointers.length then
    { v with
      pointers
      isScrolling := true
      scrollAccum := ⟨0, 0⟩
      gestureStart := none
      lastPoint := none }
  else { v with pointers, gestureStart := some point, lastPoint := some point }

/-- Two fingers scroll by as much as their centroid is moved. One moves the pointer. -/
def handleSurfacePointerMove (v : VirtualTrackpad) (pointerId : ℕ) (point : Point) :
    VirtualTrackpad × Option Call :=
  if v.pointers.has pointerId = false then (v, none)
  else
    let pointers := v.pointers.set pointerId point.toPlace
    if 2 ≤ v.pointers.length then
      let before := centroid v.pointers
      let after := centroid pointers
      { v with isScrolling := true, pointers }.sendScrollDelta
        (after.x - before.x) (after.y - before.y)
    else
      match v.lastPoint with
      | none => (v, none)
      | some last =>
          let v := { v with pointers, lastPoint := some point }
          (v, v.sendDelta (point.x - last.x) (point.y - last.y))

/-- The square of the distance. -/
def distanceSq (a b : Point) : ℚ :=
  (a.x - b.x) ^ 2 + (a.y - b.y) ^ 2

/-- The second of two taps clicks. -/
def tap (v : VirtualTrackpad) (finish : Point) : VirtualTrackpad × Option Call :=
  match v.lastTap with
  | some last =>
      if finish.time - last.time < 380 ∧ distanceSq last finish < 35 ^ 2 then
        { v with lastTap := none }.sendClick .LMB
      else ({ v with lastTap := some finish }, none)
  | none => ({ v with lastTap := some finish }, none)

/-- Scrolling ends when less than two fingers are left. -/
def endScrolling (v : VirtualTrackpad) : VirtualTrackpad :=
  if v.pointers.length < 2 then { v with isScrolling := false, scrollAccum := ⟨0, 0⟩ } else v

/-- The last finger taps when it neither scrolled, nor stayed for long, nor was moved far. -/
def handleSurfacePointerUp (v : VirtualTrackpad) (pointerId : ℕ) (finish : Point) :
    VirtualTrackpad × Option Call :=
  if v.pointers.has pointerId = false then (v, none)
  else
    let wasScrolling := v.isScrolling
    let start := v.gestureStart
    let v := { v with pointers := v.pointers.delete pointerId }.endScrolling
    let v := { v with gestureStart := none, lastPoint := none }
    if v.pointers.length > 0 then (v, none)
    else
      match start with
      | none => (v, none)
      | some start =>
          if wasScrolling = true then (v, none)
          else if finish.time - start.time ≥ 450 ∨ distanceSq start finish ≥ 18 ^ 2 then (v, none)
          else v.tap finish

/-- A finger that is taken away by the browser does not tap. -/
def handleSurfacePointerCancel (v : VirtualTrackpad) (pointerId : ℕ) : VirtualTrackpad :=
  if v.pointers.has pointerId = false then v
  else
    let v := { v with pointers := v.pointers.delete pointerId }.endScrolling
    if v.pointers.length = 0 then { v with gestureStart := none, lastPoint := none } else v

/-! ### The buttons -/

/-- The middle button is no longer dragged. -/
def resetMmbGesture (v : VirtualTrackpad) : VirtualTrackpad :=
  { v with
    mmbPointerId := none
    mmbStartY := none
    mmbLastY := none
    mmbDidScroll := false
    scrollAccum := ⟨0, 0⟩ }

/-- A press of a button that is locked lets it go. -/
def unlock (v : VirtualTrackpad) (button : Button) : VirtualTrackpad × Option Call :=
  let v := v.updateLockedButtons (v.lockedButtons &&& ~~~button.bit)
  ({ v with skipButtonUp := Function.update v.skipButtonUp button true }, some v.sendHeld)

/-- The timer is set anew when a button is pressed that is not locked. -/
def hold (v : VirtualTrackpad) (button : Button) : VirtualTrackpad :=
  { v with
    skipButtonUp := Function.update v.skipButtonUp button false
    longPressFired := Function.update v.longPressFired button false
    longPressTimers := Function.update v.longPressTimers button true }

/-- A button that is let go clicks, unless its press has unlocked it, or it has been locked. -/
def letGo (v : VirtualTrackpad) (button : Button) : VirtualTrackpad × Option Call :=
  if v.skipButtonUp button = true then
    ({ v with skipButtonUp := Function.update v.skipButtonUp button false }, none)
  else if v.longPressFired button = true then (v, none)
  else if v.lockedButtons &&& button.bit ≠ 0 then (v, none)
  else v.sendClick button

/-- The middle button is let go if it was locked. Otherwise it may now be dragged or held. -/
def handleMmbPointerDown (v : VirtualTrackpad) (pointerId : ℕ) (clientY : ℚ) :
    VirtualTrackpad × Option Call :=
  if v.lockedButtons &&& Button.MMB.bit ≠ 0 then
    let unlocked := v.unlock .MMB
    (unlocked.1.resetMmbGesture, unlocked.2)
  else
    ({ v with
        mmbPointerId := some pointerId
        mmbStartY := some clientY
        mmbLastY := some clientY
        mmbDidScroll := false
        scrollAccum := ⟨0, 0⟩ }.hold .MMB,
      none)

/-- A drag begins after eight pixels, and prevents that the button is locked. -/
def handleMmbPointerMove (v : VirtualTrackpad) (pointerId : ℕ) (clientY : ℚ) :
    VirtualTrackpad × Option Call :=
  match v.mmbStartY, v.mmbLastY with
  | some startY, some lastY =>
      if some pointerId ≠ v.mmbPointerId then (v, none)
      else if v.mmbDidScroll = false ∧ |clientY - startY| < 8 then (v, none)
      else
        let v :=
          if v.mmbDidScroll = false then
            { v.clearLongPressTimer .MMB with
              longPressFired := Function.update v.longPressFired .MMB false }
          else v
        { v with mmbLastY := some clientY, mmbDidScroll := true }.sendScrollDelta 0
          (clientY - lastY)
  | _, _ => (v, none)

/-- The middle button clicks like the others, unless it was dragged. -/
def handleMmbPointerUp (v : VirtualTrackpad) (pointerId : ℕ) : VirtualTrackpad × Option Call :=
  if some pointerId ≠ v.mmbPointerId ∧ v.skipButtonUp .MMB = false then (v, none)
  else
    let didScroll := v.mmbDidScroll
    let v := (v.clearLongPressTimer .MMB).resetMmbGesture
    if didScroll = true ∧ v.skipButtonUp .MMB = false then (v, none) else v.letGo .MMB

/-- The drag ends, and nothing is clicked. -/
def handleMmbPointerCancel (v : VirtualTrackpad) (pointerId : ℕ) : VirtualTrackpad :=
  if some pointerId ≠ v.mmbPointerId ∧ v.skipButtonUp .MMB = false then v
  else (v.clearLongPressTimer .MMB).resetMmbGesture

/-- A side button is let go if it was locked, and otherwise may now be held. -/
def handleButtonPointerDown (v : VirtualTrackpad) (button : Button) :
    VirtualTrackpad × Option Call :=
  if v.lockedButtons &&& button.bit ≠ 0 then v.unlock button else (v.hold button, none)

/-- The button clicks, if it is not held for long. -/
def handleButtonPointerUp (v : VirtualTrackpad) (button : Button) :
    VirtualTrackpad × Option Call :=
  (v.clearLongPressTimer button).letGo button

/-- The button does not click. -/
def handleButtonPointerCancel (v : VirtualTrackpad) (button : Button) : VirtualTrackpad :=
  v.clearLongPressTimer button

/-! ### Hiding -/

/-- No finger is on the surface any more, whatever the browser will say of it. -/
def clearSurfacePointers (v : VirtualTrackpad) : VirtualTrackpad :=
  { v with
    pointers := []
    isScrolling := false
    scrollAccum := ⟨0, 0⟩
    gestureStart := none
    lastPoint := none }

/-- All timers are cleared. -/
def releaseAllButtons (v : VirtualTrackpad) (forceHostRelease : Bool) :
    VirtualTrackpad × Option Call :=
  let held := v.heldButtons
  let v :=
    { v with
        longPressTimers := fun _ => false
        clickReleaseTimer := false
        lockedButtons := 0 }.clearSurfacePointers.resetMmbGesture
  if held ≠ 0 ∨ forceHostRelease = true then
    ({ v with heldButtons := 0 }, some (.sendTrackpadRelMouse 0 0 0))
  else (v, none)

end VirtualTrackpad

/-- What happens to the trackpad. The effect runs when the setting has changed, and also when the
way of sending has. -/
inductive Event where
  | surfacePointerDown (pointerId : ℕ) (point : Point)
  | surfacePointerMove (pointerId : ℕ) (point : Point)
  | surfacePointerUp (pointerId : ℕ) (finish : Point)
  | surfacePointerCancel (pointerId : ℕ)
  | mmbPointerDown (pointerId : ℕ) (clientY : ℚ)
  | mmbPointerMove (pointerId : ℕ) (clientY : ℚ)
  | mmbPointerUp (pointerId : ℕ)
  | mmbPointerCancel (pointerId : ℕ)
  | buttonPointerDown (button : Button)
  | buttonPointerUp (button : Button)
  | buttonPointerCancel (button : Button)
  | longPress (button : Button)
  | clickRelease
  | setVirtualTrackpadEnabled (enabled : Bool)
  | effect
  | unmount

/-- A timer expires only when it is set. The side buttons have handlers of their own. -/
def VirtualTrackpad.handle (v : VirtualTrackpad) : Event → Option (VirtualTrackpad × Option Call)
  | .surfacePointerDown pointerId point => some (v.handleSurfacePointerDown pointerId point, none)
  | .surfacePointerMove pointerId point => some (v.handleSurfacePointerMove pointerId point)
  | .surfacePointerUp pointerId finish => some (v.handleSurfacePointerUp pointerId finish)
  | .surfacePointerCancel pointerId => some (v.handleSurfacePointerCancel pointerId, none)
  | .mmbPointerDown pointerId clientY => some (v.handleMmbPointerDown pointerId clientY)
  | .mmbPointerMove pointerId clientY => some (v.handleMmbPointerMove pointerId clientY)
  | .mmbPointerUp pointerId => some (v.handleMmbPointerUp pointerId)
  | .mmbPointerCancel pointerId => some (v.handleMmbPointerCancel pointerId, none)
  | .buttonPointerDown button =>
      if button = .MMB then none else some (v.handleButtonPointerDown button)
  | .buttonPointerUp button => if button = .MMB then none else some (v.handleButtonPointerUp button)
  | .buttonPointerCancel button =>
      if button = .MMB then none else some (v.handleButtonPointerCancel button, none)
  | .longPress button => if v.longPressTimers button = true then some (v.longPress button) else none
  | .clickRelease => if v.clickReleaseTimer = true then some v.clickRelease else none
  | .setVirtualTrackpadEnabled enabled =>
      some ({ v with isVirtualTrackpadEnabled := enabled }, none)
  | .effect => some (v.releaseAllButtons v.isVirtualTrackpadEnabled)
  | .unmount => some (v.releaseAllButtons true)

/-! ### What a handler does -/

/-- The mask that is sent is taken of each button. -/
theorem and_or_distrib (a b m : UInt8) :
  (a ||| b) &&& m = a &&& m ||| b &&& m
  := UInt8.toBitVec_inj.mp BitVec.and_or_distrib_right

/-- Letting go of a button commutes with the mask that is sent. -/
theorem and_and_comm (a b m : UInt8) :
  (a &&& b) &&& m = (a &&& m) &&& b
  := by
  rw [UInt8.and_assoc, UInt8.and_comm b, UInt8.and_assoc]

/-- The mask that is sent covers the bits of the buttons. -/
theorem bit_and (button : Button) :
  button.bit &&& 0x1f = button.bit
  := by
  cases button <;> rfl

/-- The mask that is sent covers all buttons that are locked. -/
def VirtualTrackpad.Covered (v : VirtualTrackpad) : Prop :=
  v.lockedButtons &&& 0x1f = v.lockedButtons

/-- The buttons are as they were, and so is the timer of a click. -/
structure SameButtons (v v' : VirtualTrackpad) : Prop where
  lockedButtons : v'.lockedButtons = v.lockedButtons
  heldButtons : v'.heldButtons = v.heldButtons
  clickReleaseTimer : v'.clickReleaseTimer = v.clickReleaseTimer

/-- A handler that does nothing leaves the buttons. -/
theorem SameButtons.refl (v : VirtualTrackpad) :
  SameButtons v v
  := ⟨rfl, rfl, rfl⟩

/-- Two handlers that leave the buttons leave them together. -/
theorem SameButtons.trans {v v' v'' : VirtualTrackpad} (h : SameButtons v v')
    (h' : SameButtons v' v'') :
  SameButtons v v''
  := ⟨h'.lockedButtons.trans h.lockedButtons, h'.heldButtons.trans h.heldButtons,
    h'.clickReleaseTimer.trans h.clickReleaseTimer⟩

/-- What can become of the buttons, and what is sent: nothing changes, ticks are sent, a movement is
sent, a click begins, the buttons that are locked are sent, or the trackpad is hidden and sends
nothing. -/
inductive Handled (v : VirtualTrackpad) : Event → VirtualTrackpad → Option Call → Prop
  | quiet {event : Event} {v' : VirtualTrackpad} (same : SameButtons v v') :
      Handled v event v' none
  | scroll {event : Event} {v' : VirtualTrackpad} (same : SameButtons v v') (ticksY ticksX : ℤ) :
      Handled v event v' (some (.sendWheelReport (ticksY * 100) (ticksX * 100)))
  | move {pointerId : ℕ} {point : Point} {v' : VirtualTrackpad} (same : SameButtons v v')
      (dx dy : ℚ) :
      Handled v (.surfacePointerMove pointerId point) v'
        (some (.sendTrackpadRelMouse dx dy v.heldButtons))
  | click {event : Event} {v' : VirtualTrackpad} (locked : v'.lockedButtons = v.lockedButtons)
      (held : v'.heldButtons = v.heldButtons) (timer : v'.clickReleaseTimer = true)
      (button : Button) :
      Handled v event v' (some (.sendTrackpadRelMouse 0 0 (v.heldButtons ||| button.bit)))
  | sync {event : Event} {v' : VirtualTrackpad} (held : v'.heldButtons = v'.lockedButtons)
      (timer : v'.clickReleaseTimer = true → v.clickReleaseTimer = true)
      (covered : v.Covered → v'.Covered) :
      Handled v event v' (some (.sendTrackpadRelMouse 0 0 v'.heldButtons))
  | hide {v' : VirtualTrackpad} (enabled : v.isVirtualTrackpadEnabled = false)
      (unheld : v.heldButtons = 0) (locked : v'.lockedButtons = 0) (held : v'.heldButtons = 0)
      (timer : v'.clickReleaseTimer = false) :
      Handled v .effect v' none

namespace VirtualTrackpad

variable {v v' : VirtualTrackpad} {event : Event} {call : Option Call}

/-- A handler is judged by its result. -/
theorem handled_of_eq {result : VirtualTrackpad × Option Call} (heq : result = (v', call))
    (h : Handled v event result.1 result.2) :
  Handled v event v' call
  := by
  rwa [heq] at h

/-- Scrolling sends ticks, or nothing when there is not a whole one. -/
theorem handled_sendScrollDelta (same : SameButtons v v') (dx dy : ℚ) :
  Handled v event (v'.sendScrollDelta dx dy).1 (v'.sendScrollDelta dx dy).2
  := by
  have hsame : SameButtons v (v'.sendScrollDelta dx dy).1 := same.trans ⟨rfl, rfl, rfl⟩
  rw [sendScrollDelta] at hsame ⊢
  dsimp only at hsame ⊢
  split
  · exact .quiet hsame
  · exact .scroll hsame _ _

/-- A click adds one button to those that are held. -/
theorem handled_sendClick (same : SameButtons v v') (button : Button) :
  Handled v event (v'.sendClick button).1 (v'.sendClick button).2
  := by
  have hcall : (v'.sendClick button).2 =
      some (.sendTrackpadRelMouse 0 0 (v.heldButtons ||| button.bit)) := by
    rw [sendClick, same.heldButtons]
  rw [hcall]
  apply Handled.click
  · exact same.lockedButtons
  · exact same.heldButtons
  · rfl

/-- A button that is let go clicks, or nothing is sent. -/
theorem handled_letGo (same : SameButtons v v') (button : Button) :
  Handled v event (v'.letGo button).1 (v'.letGo button).2
  := by
  rw [letGo]
  split
  · exact .quiet (same.trans ⟨rfl, rfl, rfl⟩)
  · split
    · exact .quiet same
    · split
      · exact .quiet same
      · exact handled_sendClick same button

/-- Of two taps the second clicks. -/
theorem handled_tap (same : SameButtons v v') (finish : Point) :
  Handled v event (v'.tap finish).1 (v'.tap finish).2
  := by
  rw [tap]
  split
  · split
    · apply handled_sendClick
      exact same.trans ⟨rfl, rfl, rfl⟩
    · exact .quiet (same.trans ⟨rfl, rfl, rfl⟩)
  · exact .quiet (same.trans ⟨rfl, rfl, rfl⟩)

/-- Scrolling ends without the buttons. -/
theorem sameButtons_endScrolling (v : VirtualTrackpad) :
  SameButtons v v.endScrolling
  := by
  rw [endScrolling]
  split <;> exact ⟨rfl, rfl, rfl⟩

/-- A finger that is moved sends ticks, a movement, or nothing, and leaves the buttons. -/
theorem handled_surfacePointerMove (pointerId : ℕ) (point : Point) :
  Handled v (.surfacePointerMove pointerId point) (v.handleSurfacePointerMove pointerId point).1
    (v.handleSurfacePointerMove pointerId point).2
  := by
  rw [handleSurfacePointerMove]
  split
  · exact .quiet (.refl v)
  · dsimp only
    split
    · apply handled_sendScrollDelta
      exact ⟨rfl, rfl, rfl⟩
    · split
      · exact .quiet (.refl v)
      · dsimp only [sendDelta]
        split
        · exact .quiet ⟨rfl, rfl, rfl⟩
        · apply Handled.move (v := v)
          exact ⟨rfl, rfl, rfl⟩

/-- A finger that is lifted may click. -/
theorem handled_surfacePointerUp (pointerId : ℕ) (finish : Point) :
  Handled v event (v.handleSurfacePointerUp pointerId finish).1
    (v.handleSurfacePointerUp pointerId finish).2
  := by
  rw [handleSurfacePointerUp]
  split
  · exact .quiet (.refl v)
  · have hsame := sameButtons_endScrolling { v with pointers := v.pointers.delete pointerId }
    set u := { v with pointers := v.pointers.delete pointerId }.endScrolling
    have hend : SameButtons v { u with gestureStart := none, lastPoint := none } :=
      ⟨hsame.lockedButtons, hsame.heldButtons, hsame.clickReleaseTimer⟩
    dsimp only
    split
    · exact .quiet hend
    · split
      · exact .quiet hend
      · split
        · exact .quiet hend
        · split
          · exact .quiet hend
          · exact handled_tap hend finish

/-- A finger that is taken away leaves the buttons. -/
theorem sameButtons_surfacePointerCancel (pointerId : ℕ) :
  SameButtons v (v.handleSurfacePointerCancel pointerId)
  := by
  rw [handleSurfacePointerCancel]
  split
  · exact .refl v
  · have hsame := sameButtons_endScrolling { v with pointers := v.pointers.delete pointerId }
    set u := { v with pointers := v.pointers.delete pointerId }.endScrolling
    dsimp only
    split <;> exact ⟨hsame.lockedButtons, hsame.heldButtons, hsame.clickReleaseTimer⟩

/-- The middle button sends ticks when it is dragged. -/
theorem handled_mmbPointerMove (pointerId : ℕ) (clientY : ℚ) :
  Handled v event (v.handleMmbPointerMove pointerId clientY).1
    (v.handleMmbPointerMove pointerId clientY).2
  := by
  rw [handleMmbPointerMove]
  split
  · split
    · exact .quiet (.refl v)
    · split
      · exact .quiet (.refl v)
      · apply handled_sendScrollDelta
        split <;> exact ⟨rfl, rfl, rfl⟩
  · exact .quiet (.refl v)

/-- A button that is let go is still covered by the mask. -/
theorem covered_unlock (button : Button) (hcovered : v.Covered) :
  (v.unlock button).1.Covered
  := by
  change (v.lockedButtons &&& ~~~button.bit) &&& 0x1f = v.lockedButtons &&& ~~~button.bit
  rw [and_and_comm, hcovered]

/-- The middle button lets go of itself when it was locked. -/
theorem handled_mmbPointerDown (pointerId : ℕ) (clientY : ℚ) :
  Handled v event (v.handleMmbPointerDown pointerId clientY).1
    (v.handleMmbPointerDown pointerId clientY).2
  := by
  rw [handleMmbPointerDown]
  split
  · exact .sync rfl id (covered_unlock .MMB)
  · exact .quiet ⟨rfl, rfl, rfl⟩

/-- The middle button clicks, or nothing is sent. -/
theorem handled_mmbPointerUp (pointerId : ℕ) :
  Handled v event (v.handleMmbPointerUp pointerId).1 (v.handleMmbPointerUp pointerId).2
  := by
  have hsame : SameButtons v (v.clearLongPressTimer .MMB).resetMmbGesture := ⟨rfl, rfl, rfl⟩
  rw [handleMmbPointerUp]
  split
  · exact .quiet (.refl v)
  · dsimp only
    split
    · exact .quiet hsame
    · exact handled_letGo hsame .MMB

/-- A button that is held for long is locked, and sent. -/
theorem handled_longPress (button : Button) :
  Handled v event (v.longPress button).1 (v.longPress button).2
  := by
  rw [longPress]
  split
  · exact .quiet ⟨rfl, rfl, rfl⟩
  · refine .sync rfl id ?_
    intro hcovered
    change (v.lockedButtons ||| button.bit) &&& 0x1f = v.lockedButtons ||| button.bit
    rw [and_or_distrib, hcovered, bit_and]

/-- All buttons are let go, and this is sent unless the trackpad is hidden while none is held. -/
theorem handled_releaseAllButtons (forceHostRelease : Bool)
    (h : forceHostRelease = false → event = .effect ∧ v.isVirtualTrackpadEnabled = false) :
  Handled v event (v.releaseAllButtons forceHostRelease).1
    (v.releaseAllButtons forceHostRelease).2
  := by
  rw [releaseAllButtons]
  split
  case isTrue =>
    have hcovered : (0 : UInt8) &&& 0x1f = 0 := rfl
    exact .sync rfl (fun htimer => by cases htimer) fun _ => hcovered
  case isFalse hquiet =>
    rw [not_or, not_not, Bool.not_eq_true] at hquiet
    obtain ⟨rfl, henabled⟩ := h hquiet.2
    exact .hide henabled hquiet.1 rfl hquiet.1 rfl

/-- A side button lets go of itself when it was locked. -/
theorem handled_buttonPointerDown (button : Button) :
  Handled v event (v.handleButtonPointerDown button).1 (v.handleButtonPointerDown button).2
  := by
  rw [handleButtonPointerDown]
  split
  · exact .sync rfl id (covered_unlock button)
  · exact .quiet ⟨rfl, rfl, rfl⟩

/-- What a handler does to the buttons that are held, which are those that are locked. -/
theorem handled (hheld : v.heldButtons = v.lockedButtons)
    (h : v.handle event = some (v', call)) :
  Handled v event v' call
  := by
  cases event with
  | surfacePointerDown pointerId point =>
      apply handled_of_eq (Option.some.inj h) (.quiet _)
      rw [handleSurfacePointerDown]
      split <;> exact ⟨rfl, rfl, rfl⟩
  | surfacePointerMove pointerId point =>
      exact handled_of_eq (Option.some.inj h) (handled_surfacePointerMove pointerId point)
  | surfacePointerUp pointerId finish =>
      exact handled_of_eq (Option.some.inj h) (handled_surfacePointerUp pointerId finish)
  | surfacePointerCancel pointerId =>
      exact handled_of_eq (Option.some.inj h) (.quiet (sameButtons_surfacePointerCancel pointerId))
  | mmbPointerDown pointerId clientY =>
      exact handled_of_eq (Option.some.inj h) (handled_mmbPointerDown pointerId clientY)
  | mmbPointerMove pointerId clientY =>
      exact handled_of_eq (Option.some.inj h) (handled_mmbPointerMove pointerId clientY)
  | mmbPointerUp pointerId =>
      exact handled_of_eq (Option.some.inj h) (handled_mmbPointerUp pointerId)
  | mmbPointerCancel pointerId =>
      apply handled_of_eq (Option.some.inj h) (.quiet _)
      rw [handleMmbPointerCancel]
      split <;> exact ⟨rfl, rfl, rfl⟩
  | buttonPointerDown button =>
      obtain ⟨-, h⟩ := Option.ite_none_left_eq_some.mp h
      exact handled_of_eq (Option.some.inj h) (handled_buttonPointerDown button)
  | buttonPointerUp button =>
      obtain ⟨-, h⟩ := Option.ite_none_left_eq_some.mp h
      apply handled_of_eq (Option.some.inj h) (handled_letGo _ button)
      exact ⟨rfl, rfl, rfl⟩
  | buttonPointerCancel button =>
      obtain ⟨-, h⟩ := Option.ite_none_left_eq_some.mp h
      exact handled_of_eq (Option.some.inj h) (.quiet ⟨rfl, rfl, rfl⟩)
  | longPress button =>
      obtain ⟨-, h⟩ := Option.ite_none_right_eq_some.mp h
      exact handled_of_eq (Option.some.inj h) (handled_longPress button)
  | clickRelease =>
      obtain ⟨-, h⟩ := Option.ite_none_right_eq_some.mp h
      exact handled_of_eq (Option.some.inj h) (.sync hheld (fun htimer => by cases htimer) id)
  | setVirtualTrackpadEnabled enabled =>
      exact handled_of_eq (Option.some.inj h) (.quiet ⟨rfl, rfl, rfl⟩)
  | effect =>
      exact handled_of_eq (Option.some.inj h)
        (handled_releaseAllButtons _ fun hdisabled => ⟨rfl, hdisabled⟩)
  | unmount =>
      exact handled_of_eq (Option.some.inj h)
        (handled_releaseAllButtons _ fun hdisabled => by cases hdisabled)

end VirtualTrackpad

end JetKvm.Trackpad
