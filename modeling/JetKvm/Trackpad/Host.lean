import JetKvm.HidRpc.Agreement
import JetKvm.Library.Transition
import JetKvm.Rpc.Conversion
import JetKvm.Trackpad.Gestures

/-!
# The trackpad and the host

The browser cuts a movement into pieces that fit into a report, and sends these over a channel that
keeps their order. The reports of the wheel are calls of a method, each of which is handled in a
goroutine of its own, so that they may overtake each other. The host adds up what it is told.
-/

namespace JetKvm.Trackpad

open HidRpc

/-! ### Sending -/

/-- Slow movements count twice. -/
def calcDelta (pos : ℚ) : ℚ :=
  if |pos| < 10 then pos * 2 else pos

/-- `Math.round`. -/
def mathRound (x : ℚ) : ℤ :=
  ⌊x + 1 / 2⌋

/-- The part of a movement that fits into a report. -/
def chunk (remaining : ℤ) : ℤ :=
  max (-127) (min 127 remaining)

/-- Every piece brings the rest closer to zero. -/
theorem natAbs_sub_chunk (remaining : ℤ) :
  (remaining - chunk remaining).natAbs = remaining.natAbs - 127
  := by
  rw [chunk]
  omega

/-- The loop of `sendTrackpadRelMouse`. -/
def chunks (remainingDx remainingDy buttons : ℤ) : List Browser.MouseReportMessage :=
  let nextDx := remainingDx - chunk remainingDx
  let nextDy := remainingDy - chunk remainingDy
  ⟨chunk remainingDx, chunk remainingDy, buttons⟩ ::
    if nextDx ≠ 0 ∨ nextDy ≠ 0 then chunks nextDx nextDy buttons else []
termination_by remainingDx.natAbs + remainingDy.natAbs
decreasing_by
  have hx := natAbs_sub_chunk remainingDx
  have hy := natAbs_sub_chunk remainingDy
  omega

/-- The reports of `sendTrackpadRelMouse`, in whichever way they are sent. -/
def trackpadReports (dx dy : ℚ) (buttons : UInt8) : List Browser.MouseReportMessage :=
  chunks (mathRound (calcDelta dx)) (mathRound (calcDelta dy)) (buttons &&& 0x1f).toNat

/-- A notch of the wheel is a hundred, and anything less is one of its directions. -/
def clampWheel (delta : ℚ) : ℚ :=
  let isAccel := 100 ≤ |delta|
  let scrollValue : ℚ := if isAccel then delta / 100 else mathSign delta
  max (-127) (min 127 scrollValue)

/-- The parameters of the call that `sendWheelReport` makes, if it makes one. -/
def wheelParams (invertScroll : Bool) (deltaY deltaX : ℚ) : Option (ℚ × ℚ) :=
  let wheelY := (if invertScroll then 1 else -1) * clampWheel deltaY
  let wheelX := (if invertScroll then -1 else 1) * clampWheel deltaX
  if wheelY = 0 ∧ wheelX = 0 then none else some (wheelY, wheelX)

/-! ### The device -/

/-- The device as a report finds it: whether `usbReadyForHidReports`, which mice are enabled, and
whether what is written gets through. It does not when the file cannot be opened, and when the write
fails or times out. -/
structure Gadget where
  usbReady : Bool
  absoluteMouse : Bool
  relativeMouse : Bool
  writes : Bool

namespace Gadget

/-- The bytes that get through, none standing for a report that does not. -/
def writeWithTimeout (gadget : Gadget) (data : List UInt8) : List UInt8 :=
  if gadget.writes then data else []

/-- The numbers of a report are given as their bytes. -/
def relMouseReport (gadget : Gadget) (mx my buttons : UInt8) : List UInt8 :=
  if gadget.relativeMouse = false then [] else gadget.writeWithTimeout [buttons, mx, my, 0, 0]

/-- A turn of the relative mouse goes with no button and no movement. -/
def relMouseWheelReport (gadget : Gadget) (wheelY wheelX : ℤ) : List UInt8 :=
  if gadget.relativeMouse = false then []
  else if wheelY = 0 ∧ wheelX = 0 then []
  else gadget.writeWithTimeout [0, 0, 0, Word.toByte wheelY, Word.toByte wheelX]

/-- A turn of the absolute mouse goes without its buttons. -/
def absMouseWheelReport (gadget : Gadget) (wheelY wheelX : ℤ) : List UInt8 :=
  if gadget.absoluteMouse = false then []
  else if wheelY = 0 ∧ wheelX = 0 then []
  else gadget.writeWithTimeout [2, Word.toByte wheelY, Word.toByte wheelX]

/-- Nothing is written when the USB is not ready. -/
def rpcHidReport (gadget : Gadget) (written : List UInt8) : List UInt8 :=
  if gadget.usbReady then written else []

def rpcRelMouseReport (gadget : Gadget) (dx dy buttons : UInt8) : List UInt8 :=
  gadget.rpcHidReport (gadget.relMouseReport dx dy buttons)

/-- The absolute mouse turns the wheel, when there is one. -/
def rpcWheelReport (gadget : Gadget) (wheelY wheelX : ℤ) : List UInt8 :=
  gadget.rpcHidReport <|
    if gadget.absoluteMouse then gadget.absMouseWheelReport wheelY wheelX
    else gadget.relMouseWheelReport wheelY wheelX

/-- The reports of movements are written. -/
structure WritesMoves (gadget : Gadget) : Prop where
  usbReady : gadget.usbReady = true
  relativeMouse : gadget.relativeMouse = true
  writes : gadget.writes = true

/-- The turns of the wheel are written, for one mouse or the other. -/
structure WritesTurns (gadget : Gadget) : Prop where
  usbReady : gadget.usbReady = true
  mouse : gadget.absoluteMouse = true ∨ gadget.relativeMouse = true
  writes : gadget.writes = true

/-- A device with both mice on which everything works. -/
def working : Gadget :=
  ⟨true, true, true, true⟩

theorem writesMoves_working :
  working.WritesMoves
  := ⟨rfl, rfl, rfl⟩

theorem writesTurns_working :
  working.WritesTurns
  := ⟨rfl, .inl rfl, rfl⟩

end Gadget

/-! ### The host -/

/-- What the host has been told: how far the pointer and the wheel have been moved, and the buttons
that are down. -/
structure Host where
  x : ℤ
  y : ℤ
  wheelY : ℤ
  wheelX : ℤ
  buttons : UInt8
deriving DecidableEq

namespace Host

/-- A report of the relative mouse has the buttons, the movement, and the wheel. One of the absolute
mouse that begins with two has the wheel only. -/
def read (host : Host) : List UInt8 → Host
  | [buttons, x, y, wheelY, wheelX] =>
      { x := host.x + x.toInt8.toInt
        y := host.y + y.toInt8.toInt
        wheelY := host.wheelY + wheelY.toInt8.toInt
        wheelX := host.wheelX + wheelX.toInt8.toInt
        buttons }
  | [2, wheelY, wheelX] =>
      { host with
        wheelY := host.wheelY + wheelY.toInt8.toInt
        wheelX := host.wheelX + wheelX.toInt8.toInt }
  | _ => host

/-- What the device writes for a message is read. -/
def receive (gadget : Gadget) (host : Host) (data : List UInt8) : Host :=
  match onHidMessage data with
  | .value (.mouse report) =>
      host.read
        (gadget.rpcRelMouseReport report.dx.toUInt8 report.dy.toUInt8 report.button)
  | _ => host

end Host

/-! ### The system -/

/-- The setting of the browser, and how the device converts numbers. -/
structure Setup where
  invertScroll : Bool
  platform : Rpc.Platform

/-- What a handler of the page finds: whether the HID RPC was ready when the handler was made, how
long the wheel is blocked after a report, zero being not at all, and whether the channels are
open. -/
structure Page where
  rpcHidReady : Bool
  scrollThrottling : ℕ
  hidChannelOpen : Bool
  rpcChannelOpen : Bool

/-- A page on which everything works, and the wheel is never blocked. -/
def Page.working : Page :=
  ⟨true, 0, true, true⟩

/-- `blockWheelEvent` as it was rendered, the values it has been set to since, oldest first, and the
timers that will set it to false. The messages that the HID channel and the queue behind it have
still to deliver, oldest first, and the calls that have not been handled. -/
structure Session where
  trackpad : VirtualTrackpad
  blockWheelEvent : Bool
  updates : List Bool
  unblockTimers : ℕ
  messages : List (List UInt8)
  relMouseCalls : List Browser.MouseReportMessage
  wheelCalls : List (ℚ × ℚ)
  host : Host

/-- Every call is handled in a goroutine of its own, whenever it comes to it. What is lost on its
way is handled by a device on which nothing is written. -/
inductive Action where
  | event (page : Page) (event : Event)
  | render
  | unblock
  | handleMessage (gadget : Gadget)
  | handleRelMouse (position : ℕ) (gadget : Gadget)
  | handleWheel (position : ℕ) (gadget : Gadget)

namespace Session

/-- A new session, with a host on which no button is down. -/
def start : Session where
  trackpad := .new
  blockWheelEvent := false
  updates := []
  unblockTimers := 0
  messages := []
  relMouseCalls := []
  wheelCalls := []
  host := ⟨0, 0, 0, 0, 0⟩

/-- The messages that can be encoded. -/
def encoded (messages : List Browser.MouseReportMessage) : List (List UInt8) :=
  messages.filterMap fun message =>
    match message.marshal with
    | .ok data => some data
    | .error _ => none

/-- Without the HID RPC, the reports are sent as calls. A channel that is not open takes nothing. -/
def sendTrackpadRelMouse (page : Page) (s : Session) (dx dy : ℚ) (buttons : UInt8) : Session :=
  if page.rpcHidReady then
    if page.hidChannelOpen then
      { s with messages := s.messages ++ encoded (trackpadReports dx dy buttons) }
    else s
  else if page.rpcChannelOpen then
    { s with relMouseCalls := s.relMouseCalls ++ trackpadReports dx dy buttons }
  else s

/-- The wheel is blocked from its first report on until a timer expires. -/
def block (page : Page) (s : Session) : Session :=
  if page.scrollThrottling ≠ 0 ∧ s.blockWheelEvent = false then
    { s with updates := s.updates ++ [true], unblockTimers := s.unblockTimers + 1 }
  else s

/-- A report is dropped while the wheel is blocked. -/
def sendWheelReport (setup : Setup) (page : Page) (s : Session) (deltaY deltaX : ℚ) : Session :=
  if page.scrollThrottling ≠ 0 ∧ s.blockWheelEvent = true then s
  else
    match wheelParams setup.invertScroll deltaY deltaX with
    | none => s
    | some call =>
        if page.rpcChannelOpen then { s with wheelCalls := s.wheelCalls ++ [call] }.block page
        else s.block page

/-- What is asked of `useMouse` is done. -/
def send (setup : Setup) (page : Page) (s : Session) : Option Call → Session
  | none => s
  | some (.sendTrackpadRelMouse dx dy buttons) => s.sendTrackpadRelMouse page dx dy buttons
  | some (.sendWheelReport deltaY deltaX) => s.sendWheelReport setup page deltaY deltaX

/-- A call of `relMouseReport`. -/
def handleRelMouse (setup : Setup) (gadget : Gadget) (s : Session)
    (call : Browser.MouseReportMessage) : Session :=
  let dx := Rpc.convertInt setup.platform .int8 call.dx
  let dy := Rpc.convertInt setup.platform .int8 call.dy
  let buttons := Rpc.convertInt setup.platform .uint8 call.buttons
  { s with
    host := s.host.read
      (gadget.rpcRelMouseReport (Word.toByte dx) (Word.toByte dy) (Word.toByte buttons)) }

/-- A call of `wheelReport`. -/
def handleWheel (setup : Setup) (gadget : Gadget) (s : Session) (call : ℚ × ℚ) : Session :=
  let wheelY := Rpc.convertInt setup.platform .int8 call.1
  let wheelX := Rpc.convertInt setup.platform .int8 call.2
  { s with host := s.host.read (gadget.rpcWheelReport wheelY wheelX) }

/-- What the page, the timers of the browser, and the device do. -/
def step (setup : Setup) (s : Session) : Action → Option Session
  | .event page event =>
      (s.trackpad.handle event).map fun next =>
        { s with trackpad := next.1 }.send setup page next.2
  | .render =>
      some { s with blockWheelEvent := s.updates.getLastD s.blockWheelEvent, updates := [] }
  | .unblock =>
      if s.unblockTimers = 0 then none
      else
        some { s with updates := s.updates ++ [false], unblockTimers := s.unblockTimers - 1 }
  | .handleMessage gadget =>
      match s.messages with
      | [] => none
      | data :: rest => some { s with messages := rest, host := s.host.receive gadget data }
  | .handleRelMouse position gadget =>
      s.relMouseCalls[position]?.map fun call =>
        { s with relMouseCalls := s.relMouseCalls.eraseIdx position }.handleRelMouse setup gadget
          call
  | .handleWheel position gadget =>
      s.wheelCalls[position]?.map fun call =>
        { s with wheelCalls := s.wheelCalls.eraseIdx position }.handleWheel setup gadget call

def lts (setup : Setup) : Lts Session Action :=
  Lts.ofStep (step setup)

end Session

abbrev Transition :=
  Lts.Transition Session Action

/-! ### Reading a movement -/

namespace Host

variable {host : Host} {gadget : Gadget}

/-- The host as it is moved by a report. -/
def move (host : Host) (dx dy : ℤ) (buttons : UInt8) : Host :=
  { host with x := host.x + dx, y := host.y + dy, buttons }

/-- Of two movements, the buttons are those of the second. -/
theorem move_move (dx dy dx' dy' : ℤ) (buttons buttons' : UInt8) :
  (host.move dx dy buttons).move dx' dy' buttons' = host.move (dx + dx') (dy + dy') buttons'
  := by
  rw [move, move, move, Int.add_assoc, Int.add_assoc]

theorem zero_toInt8 :
  (0 : UInt8).toInt8.toInt = 0
  := rfl

/-- A movement that is written moves the host. -/
theorem read_rpcRelMouseReport (h : gadget.WritesMoves) (mx my buttons : UInt8) :
  host.read (gadget.rpcRelMouseReport mx my buttons) =
    host.move mx.toInt8.toInt my.toInt8.toInt buttons
  := by
  rw [Gadget.rpcRelMouseReport, Gadget.rpcHidReport, if_pos h.usbReady, Gadget.relMouseReport,
    if_neg (by simp [h.relativeMouse]), Gadget.writeWithTimeout, if_pos h.writes, read, move,
    zero_toInt8, Int.add_zero, Int.add_zero]

/-- No movement turns the wheel, whether it is written or not. -/
theorem wheel_rpcRelMouseReport (mx my buttons : UInt8) :
  (host.read (gadget.rpcRelMouseReport mx my buttons)).wheelY = host.wheelY ∧
    (host.read (gadget.rpcRelMouseReport mx my buttons)).wheelX = host.wheelX
  := by
  rw [Gadget.rpcRelMouseReport, Gadget.rpcHidReport]
  split
  case isTrue =>
    rw [Gadget.relMouseReport]
    split
    · exact ⟨rfl, rfl⟩
    · rw [Gadget.writeWithTimeout]
      split
      · rw [read, zero_toInt8, Int.add_zero, Int.add_zero]
        exact ⟨rfl, rfl⟩
      · exact ⟨rfl, rfl⟩
  case isFalse => exact ⟨rfl, rfl⟩

/-- No message turns the wheel. -/
theorem wheel_receive (gadget : Gadget) (data : List UInt8) :
  (host.receive gadget data).wheelY = host.wheelY ∧
    (host.receive gadget data).wheelX = host.wheelX
  := by
  rw [receive]
  split
  · exact wheel_rpcRelMouseReport _ _ _
  · exact ⟨rfl, rfl⟩

end Host

/-- A message of this type is dispatched to its accessor. -/
theorem onHidMessage_of_receive {data : List UInt8} {report : MouseReport}
    (h : receive Message.mouseReport data = .value report) :
  onHidMessage data = .value (.mouse report)
  := by
  cases data with
  | nil => cases h
  | cons t d =>
      rw [receive_cons] at h
      have ht : t = typeMouseReport := by
        by_contra hne
        rw [Message.mouseReport, if_pos hne] at h
        cases h
      subst ht
      have hdispatch : onHidMessage (typeMouseReport :: d) =
          (Message.mouseReport ⟨typeMouseReport, d⟩ >>= fun r => pure (.mouse r)) := rfl
      rw [hdispatch, h]
      rfl

/-- The bytes make any host move, when what they ask for is written. -/
def Moves (data : List UInt8) (dx dy : ℤ) (buttons : UInt8) : Prop :=
  ∀ gadget : Gadget, gadget.WritesMoves →
    ∀ host : Host, host.receive gadget data = host.move dx dy buttons

/-- A report with these buttons whose movement fits. -/
structure Fits (buttons : UInt8) (report : Browser.MouseReportMessage) : Prop where
  dx : -2 ^ 7 ≤ report.dx ∧ report.dx < 2 ^ 7
  dy : -2 ^ 7 ≤ report.dy ∧ report.dy < 2 ^ 7
  buttons_eq : report.buttons = buttons.toNat

/-- It is encoded, and read as its movement. -/
theorem Fits.moves_marshal {buttons : UInt8} {report : Browser.MouseReportMessage}
    (h : Fits buttons report) :
  ∃ data, report.marshal = .ok data ∧ Moves data report.dx report.dy buttons
  := by
  have hlt := buttons.toNat_lt
  obtain ⟨data, read, hmarshal, hreceive, hx, hy, hbutton⟩ :=
    receive_mouse report.dx report.dy report.buttons h.dx.1 h.dx.2 h.dy.1 h.dy.2
      (by rw [h.buttons_eq]; omega) (by rw [h.buttons_eq]; omega)
  have heq : read.button = buttons := by
    apply UInt8.toNat_inj.mp
    exact_mod_cast hbutton.trans h.buttons_eq
  refine ⟨data, hmarshal, ?_⟩
  intro gadget hwrites host
  rw [Host.receive, onHidMessage_of_receive hreceive]
  dsimp only
  rw [Host.read_rpcRelMouseReport hwrites, Int8.toInt8_toUInt8, Int8.toInt8_toUInt8, hx, hy, heq]

/-- The pieces of a movement fit. -/
theorem fits_chunks (dx dy : ℤ) (buttons : UInt8) :
  ∀ report ∈ chunks dx dy buttons.toNat, Fits buttons report
  := by
  induction dx, dy using chunks.induct with
  | case1 dx dy nextDx nextDy ih =>
      have hfits : ∀ remaining, -2 ^ 7 ≤ chunk remaining ∧ chunk remaining < 2 ^ 7 := by
        intro remaining
        rw [chunk]
        omega
      rw [chunks, List.forall_mem_cons]
      refine ⟨⟨hfits dx, hfits dy, rfl⟩, ?_⟩
      split
      case isTrue hmore => exact ih hmore
      case isFalse => simp

/-- They add up to it. -/
theorem sum_chunks (dx dy buttons : ℤ) :
  ((chunks dx dy buttons).map Browser.MouseReportMessage.dx).sum = dx ∧
    ((chunks dx dy buttons).map Browser.MouseReportMessage.dy).sum = dy
  := by
  induction dx, dy using chunks.induct with
  | case1 dx dy nextDx nextDy ih =>
      rw [chunks, List.map_cons, List.map_cons, List.sum_cons, List.sum_cons]
      split
      case isTrue hmore =>
        obtain ⟨hx, hy⟩ := ih hmore
        rw [hx, hy]
        dsimp only
        omega
      case isFalse hlast =>
        rw [List.map_nil, List.map_nil, List.sum_nil]
        dsimp only
        omega

/-- Even a movement by nothing is a report, since it has the buttons. -/
theorem chunks_ne_nil (dx dy buttons : ℤ) :
  chunks dx dy buttons ≠ []
  := by
  rw [chunks]
  exact List.cons_ne_nil _ _

namespace Session

/-- What reports that fit do to a host. -/
theorem receive_encoded {buttons : UInt8} {reports : List Browser.MouseReportMessage}
    (h : ∀ report ∈ reports, Fits buttons report) :
  (∀ data ∈ encoded reports, ∃ dx dy, Moves data dx dy buttons) ∧
    ∀ host : Host, (encoded reports).foldl (Host.receive .working) host =
      host.move (reports.map Browser.MouseReportMessage.dx).sum
        (reports.map Browser.MouseReportMessage.dy).sum
        (if reports = [] then host.buttons else buttons)
  := by
  induction reports with
  | nil =>
      refine ⟨by simp [encoded], ?_⟩
      intro host
      simp [encoded, Host.move]
  | cons report reports ih =>
      rw [List.forall_mem_cons] at h
      obtain ⟨data, hmarshal, hmoves⟩ := h.1.moves_marshal
      obtain ⟨hall, hrest⟩ := ih h.2
      have hencoded : encoded (report :: reports) = data :: encoded reports := by
        rw [encoded, List.filterMap_cons, hmarshal]
        rfl
      rw [hencoded, List.forall_mem_cons]
      refine ⟨⟨⟨_, _, hmoves⟩, hall⟩, ?_⟩
      intro host
      rw [List.foldl_cons, hmoves _ Gadget.writesMoves_working, hrest, Host.move_move,
        if_neg (List.cons_ne_nil _ _)]
      dsimp only [Host.move]
      rw [ite_self]
      rfl

/-- The reports of a movement move a host by it. -/
theorem receive_trackpadReports (dx dy : ℚ) (buttons : UInt8) (host : Host) :
  (encoded (trackpadReports dx dy buttons)).foldl (Host.receive .working) host =
    host.move (mathRound (calcDelta dx)) (mathRound (calcDelta dy)) (buttons &&& 0x1f)
  := by
  rw [trackpadReports, (receive_encoded (fits_chunks _ _ _)).2, (sum_chunks _ _ _).1,
    (sum_chunks _ _ _).2, if_neg (chunks_ne_nil _ _ _)]

/-! ### What is under way -/

variable {setup : Setup} {page : Page} {gadget : Gadget} {s s' t : Session} {tr : List Transition}

/-- The host when the messages under way have been handled, and what they ask for is written. -/
def awaited (s : Session) : Host :=
  s.messages.foldl (Host.receive .working) s.host

/-- The turns of the wheel when the calls under way have been handled. -/
def awaitedWheel (setup : Setup) (s : Session) : ℤ × ℤ :=
  (s.host.wheelY + (s.wheelCalls.map fun call =>
      Rpc.convertInt setup.platform .int8 call.1).sum,
    s.host.wheelX + (s.wheelCalls.map fun call =>
      Rpc.convertInt setup.platform .int8 call.2).sum)

/-- A number of the wheel that fits into its report. -/
def Turn (x : ℚ) : Prop :=
  ∃ n : ℤ, x = n ∧ -2 ^ 7 ≤ n ∧ n < 2 ^ 7

/-- The messages and the calls under way are movements that fit, or turn the wheel. -/
structure Sound (s : Session) : Prop where
  messages : ∀ data ∈ s.messages, ∃ dx dy buttons, Moves data dx dy buttons
  relMouseCalls : ∀ call ∈ s.relMouseCalls, ∃ buttons, Fits buttons call
  wheelCalls : ∀ call ∈ s.wheelCalls, Turn call.1 ∧ Turn call.2

/-- What some movements do to any host. The buttons are those of the last. -/
theorem exists_foldl {messages : List (List UInt8)}
    (h : ∀ data ∈ messages, ∃ dx dy buttons, Moves data dx dy buttons) :
  ∃ dx dy, ∃ buttons : Option UInt8, (buttons = none ↔ messages = []) ∧
    ∀ host : Host, messages.foldl (Host.receive .working) host =
      host.move dx dy (buttons.getD host.buttons)
  := by
  induction messages with
  | nil =>
      refine ⟨0, 0, none, by simp, ?_⟩
      intro host
      simp [Host.move]
  | cons data messages ih =>
      rw [List.forall_mem_cons] at h
      obtain ⟨dx, dy, buttons, hmoves⟩ := h.1
      obtain ⟨dx', dy', buttons', -, hrest⟩ := ih h.2
      refine ⟨dx + dx', dy + dy', some (buttons'.getD buttons), by simp, ?_⟩
      intro host
      rw [List.foldl_cons, hmoves _ Gadget.writesMoves_working, hrest, Host.move_move]
      rfl

/-- The messages under way do the same to any other host. -/
theorem Sound.awaited_of_host (h : s.Sound) (host : Host) :
  ({ s with host } : Session).awaited.x = s.awaited.x + (host.x - s.host.x) ∧
    ({ s with host } : Session).awaited.y = s.awaited.y + (host.y - s.host.y) ∧
    ({ s with host } : Session).awaited.buttons =
      if s.messages = [] then host.buttons else s.awaited.buttons
  := by
  obtain ⟨dx, dy, buttons, hnone, hfold⟩ := exists_foldl h.messages
  rw [awaited, awaited, hfold, hfold]
  dsimp only [Host.move]
  refine ⟨by omega, by omega, ?_⟩
  cases buttons with
  | none => rw [if_pos (hnone.mp rfl)]; rfl
  | some buttons => rw [if_neg (mt hnone.mpr (by simp))]; rfl

/-! ### Sending -/

/-- What concerns the movements is as it was. -/
structure SameMoves (s s' : Session) : Prop where
  trackpad : s'.trackpad = s.trackpad
  messages : s'.messages = s.messages
  relMouseCalls : s'.relMouseCalls = s.relMouseCalls
  host : s'.host = s.host

theorem SameMoves.awaited (h : SameMoves s s') :
  s'.awaited = s.awaited
  := by
  rw [Session.awaited, Session.awaited, h.messages, h.host]

/-- What concerns the turns of the wheel is as it was. -/
structure SameTurns (s s' : Session) : Prop where
  trackpad : s'.trackpad = s.trackpad
  wheelCalls : s'.wheelCalls = s.wheelCalls
  host : s'.host = s.host

theorem SameTurns.awaitedWheel (h : SameTurns s s') :
  s'.awaitedWheel setup = s.awaitedWheel setup
  := by
  rw [Session.awaitedWheel, Session.awaitedWheel, h.wheelCalls, h.host]

/-- Blocking the wheel concerns neither. -/
theorem same_block (page : Page) (s : Session) :
  SameMoves s (s.block page) ∧ SameTurns s (s.block page)
  := by
  rw [block]
  split <;> exact ⟨⟨rfl, rfl, rfl, rfl⟩, rfl, rfl, rfl⟩

/-- Turning the wheel does not concern the movements. -/
theorem sameMoves_sendWheelReport (deltaY deltaX : ℚ) :
  SameMoves s (s.sendWheelReport setup page deltaY deltaX)
  := by
  rw [sendWheelReport]
  split
  case isTrue => exact ⟨rfl, rfl, rfl, rfl⟩
  case isFalse =>
    split
    case h_1 => exact ⟨rfl, rfl, rfl, rfl⟩
    case h_2 call _ =>
      split
      case isTrue =>
        obtain ⟨⟨htrackpad, hmessages, hcalls, hhost⟩, -⟩ :=
          same_block page { s with wheelCalls := s.wheelCalls ++ [call] }
        exact ⟨htrackpad, hmessages, hcalls, hhost⟩
      case isFalse => exact (same_block page s).1

/-- A movement does not concern the wheel. -/
theorem sameTurns_sendTrackpadRelMouse (dx dy : ℚ) (buttons : UInt8) :
  SameTurns s (s.sendTrackpadRelMouse page dx dy buttons)
  := by
  rw [sendTrackpadRelMouse]
  split
  · split <;> exact ⟨rfl, rfl, rfl⟩
  · split <;> exact ⟨rfl, rfl, rfl⟩

@[simp]
theorem send_trackpad (call : Option Call) :
  (s.send setup page call).trackpad = s.trackpad
  := by
  cases call with
  | none => rfl
  | some call =>
      cases call with
      | sendTrackpadRelMouse => exact (sameTurns_sendTrackpadRelMouse _ _ _).trackpad
      | sendWheelReport => exact (sameMoves_sendWheelReport _ _).trackpad

/-- What is sent is awaited after what is under way. -/
theorem awaited_append (messages : List (List UInt8)) :
  ({ s with messages := s.messages ++ messages } : Session).awaited =
    messages.foldl (Host.receive .working) s.awaited
  := List.foldl_append

/-- Over the HID RPC, a movement is a message. -/
theorem awaited_sendTrackpadRelMouse (hready : page.rpcHidReady = true)
    (hopen : page.hidChannelOpen = true) (dx dy : ℚ) (buttons : UInt8) :
  (s.sendTrackpadRelMouse page dx dy buttons).awaited =
    s.awaited.move (mathRound (calcDelta dx)) (mathRound (calcDelta dy)) (buttons &&& 0x1f)
  := by
  rw [sendTrackpadRelMouse, if_pos hready, if_pos hopen, awaited_append, receive_trackpadReports]

/-! ### Steps -/

/-- An event is handled, and what is asked for is sent. -/
theorem step_event {event : Event} (h : step setup s (.event page event) = some s') :
  ∃ v call, s.trackpad.handle event = some (v, call) ∧
    s' = ({ s with trackpad := v } : Session).send setup page call
  := by
  obtain ⟨⟨v, call⟩, hhandle, rfl⟩ := Option.map_eq_some_iff.mp h
  exact ⟨v, call, hhandle, rfl⟩

theorem step_unblock (h : step setup s .unblock = some s') :
  s' = { s with updates := s.updates ++ [false], unblockTimers := s.unblockTimers - 1 }
  := by
  obtain ⟨-, h⟩ := Option.ite_none_left_eq_some.mp h
  exact (Option.some.inj h).symm

/-- The oldest message is handled. -/
theorem step_handleMessage (h : step setup s (.handleMessage gadget) = some s') :
  ∃ data rest, s.messages = data :: rest ∧
    s' = { s with messages := rest, host := s.host.receive gadget data }
  := by
  rw [step] at h
  split at h
  case h_1 => cases h
  case h_2 data rest hmessages => exact ⟨data, rest, hmessages, (Option.some.inj h).symm⟩

/-- A message that is written was awaited. -/
theorem awaited_handleMessage (h : s.Sound) (hwrites : gadget.WritesMoves)
    (hstep : step setup s (.handleMessage gadget) = some s') :
  s'.awaited = s.awaited
  := by
  obtain ⟨data, rest, hmessages, rfl⟩ := step_handleMessage hstep
  obtain ⟨dx, dy, buttons, hmoves⟩ := h.messages data (hmessages ▸ List.mem_cons_self)
  rw [awaited, awaited, hmessages, List.foldl_cons, hmoves _ Gadget.writesMoves_working]
  dsimp only
  rw [hmoves gadget hwrites]

/-- No message turns the wheel. -/
theorem awaitedWheel_handleMessage (hstep : step setup s (.handleMessage gadget) = some s') :
  s'.awaitedWheel setup = s.awaitedWheel setup
  := by
  obtain ⟨data, rest, -, rfl⟩ := step_handleMessage hstep
  obtain ⟨hY, hX⟩ := s.host.wheel_receive gadget data
  rw [awaitedWheel, awaitedWheel]
  dsimp only
  rw [hY, hX]

/-- The sum over the calls that are left, and one that is taken out. -/
theorem sum_eraseIdx {Call : Type} {calls : List Call} {call : Call} {position : ℕ} (f : Call → ℤ)
    (h : calls[position]? = some call) :
  f call + ((calls.eraseIdx position).map f).sum = (calls.map f).sum
  := by
  obtain ⟨hlt, rfl⟩ := List.getElem?_eq_some_iff.mp h
  rw [← List.sum_cons, ← List.map_cons]
  exact ((List.getElem_cons_eraseIdx_perm hlt).map f).sum_eq

/-- The byte of a number that fits is read as the number. -/
theorem toInt_toByte {n : ℤ} (hlow : -2 ^ 7 ≤ n) (hhigh : n < 2 ^ 7) :
  (Word.toByte n).toInt8.toInt = n
  := by
  have hbyte : Word.toByte n = Word.toByte (n % 256) := by
    apply UInt8.toNat_inj.mp
    have h := Word.toNat_toByte n
    have h' := Word.toNat_toByte (n % 256)
    omega
  rw [hbyte]
  exact toInt_toInt8 hlow hhigh

/-- A movement that fits is converted to itself. -/
theorem handleRelMouse_of_fits {buttons : UInt8} {call : Browser.MouseReportMessage}
    (h : Fits buttons call) (hwrites : gadget.WritesMoves) :
  s.handleRelMouse setup gadget call = { s with host := s.host.move call.dx call.dy buttons }
  := by
  have hlt := buttons.toNat_lt
  have hx : Rpc.convertInt setup.platform .int8 call.dx = call.dx := Rpc.convertInt_intCast h.dx
  have hy : Rpc.convertInt setup.platform .int8 call.dy = call.dy := Rpc.convertInt_intCast h.dy
  have hrange : Word.InRange false 8 (buttons.toNat : ℤ) := by
    constructor
    · omega
    · omega
  have hbuttons : Rpc.convertInt setup.platform .uint8 call.buttons = buttons.toNat := by
    rw [h.buttons_eq]
    exact Rpc.convertInt_intCast hrange
  have hbyte : Word.toByte (buttons.toNat : ℤ) = buttons := by
    have hnat := Browser.toNat_toByte_of_mem (n := buttons.toNat) ⟨by omega, by omega⟩
    apply UInt8.toNat_inj.mp
    exact_mod_cast hnat
  rw [handleRelMouse, hx, hy, hbuttons, hbyte, Host.read_rpcRelMouseReport hwrites,
    toInt_toByte h.dx.1 h.dx.2, toInt_toByte h.dy.1 h.dy.2]

/-- A movement that is called for is handled. -/
theorem step_handleRelMouse {position : ℕ}
    (h : step setup s (.handleRelMouse position gadget) = some s') :
  ∃ call, s.relMouseCalls[position]? = some call ∧
    s' = { s with relMouseCalls := s.relMouseCalls.eraseIdx position }.handleRelMouse setup gadget
      call
  := by
  obtain ⟨call, hcall, rfl⟩ := Option.map_eq_some_iff.mp h
  exact ⟨call, hcall, rfl⟩

/-- When it is written, it moves what is awaited. -/
theorem awaited_handleRelMouse (h : s.Sound) (hwrites : gadget.WritesMoves) {position : ℕ}
    (hstep : step setup s (.handleRelMouse position gadget) = some s') :
  s'.trackpad = s.trackpad ∧ s'.relMouseCalls = s.relMouseCalls.eraseIdx position ∧
    ∃ call, s.relMouseCalls[position]? = some call ∧
      s'.awaited.x = s.awaited.x + call.dx ∧ s'.awaited.y = s.awaited.y + call.dy
  := by
  obtain ⟨call, hcall, rfl⟩ := step_handleRelMouse hstep
  obtain ⟨buttons, hfits⟩ := h.relMouseCalls call (List.mem_of_getElem? hcall)
  obtain ⟨hx, hy, -⟩ := h.awaited_of_host (s.host.move call.dx call.dy buttons)
  rw [handleRelMouse_of_fits hfits hwrites]
  refine ⟨rfl, rfl, call, hcall, hx.trans ?_, hy.trans ?_⟩
  · dsimp only [Host.move]
    omega
  · dsimp only [Host.move]
    omega

/-- Neither does a call for a movement. -/
theorem awaitedWheel_handleRelMouse {position : ℕ}
    (hstep : step setup s (.handleRelMouse position gadget) = some s') :
  s'.trackpad = s.trackpad ∧ s'.awaitedWheel setup = s.awaitedWheel setup
  := by
  obtain ⟨call, -, rfl⟩ := step_handleRelMouse hstep
  refine ⟨rfl, ?_⟩
  rw [awaitedWheel, awaitedWheel, handleRelMouse]
  dsimp only
  rw [(Host.wheel_rpcRelMouseReport _ _ _).1, (Host.wheel_rpcRelMouseReport _ _ _).2]

/-! ### Turning the wheel -/

/-- A turn is converted to itself. -/
theorem convertInt_turn (setup : Setup) {x : ℚ} (h : Turn x) :
  ∃ n : ℤ, x = n ∧ Rpc.convertInt setup.platform .int8 x = n ∧
    (Word.toByte n).toInt8.toInt = n
  := by
  obtain ⟨n, rfl, hlow, hhigh⟩ := h
  exact ⟨n, rfl, Rpc.convertInt_intCast ⟨hlow, hhigh⟩, toInt_toByte hlow hhigh⟩

/-- A report of the wheel that is written turns it. That of the relative mouse says that no button
is down. -/
theorem read_rpcWheelReport (h : gadget.WritesTurns) (host : Host) {wheelY wheelX : ℤ}
    (hY : (Word.toByte wheelY).toInt8.toInt = wheelY)
    (hX : (Word.toByte wheelX).toInt8.toInt = wheelX) :
  host.read (gadget.rpcWheelReport wheelY wheelX) =
    { host with
      wheelY := host.wheelY + wheelY
      wheelX := host.wheelX + wheelX
      buttons :=
        if gadget.absoluteMouse = true ∨ wheelY = 0 ∧ wheelX = 0 then host.buttons else 0 }
  := by
  rw [Gadget.rpcWheelReport, Gadget.rpcHidReport, if_pos h.usbReady]
  by_cases hzero : wheelY = 0 ∧ wheelX = 0
  · obtain ⟨rfl, rfl⟩ := hzero
    simp [Gadget.absMouseWheelReport, Gadget.relMouseWheelReport, Host.read]
  · cases habsolute : gadget.absoluteMouse with
    | true =>
        simp [Gadget.absMouseWheelReport, Gadget.writeWithTimeout, Host.read, habsolute, h.writes,
          hzero, hY, hX]
    | false =>
        have hrelative : gadget.relativeMouse = true := by
          simpa [habsolute] using h.mouse
        simp [Gadget.relMouseWheelReport, Gadget.writeWithTimeout, Host.read, hrelative, h.writes,
          hzero, hY, hX]

/-- Nothing else is written of the wheel. -/
theorem rpcWheelReport_of_not (h : ¬ gadget.WritesTurns) (wheelY wheelX : ℤ) :
  gadget.rpcWheelReport wheelY wheelX = []
  := by
  by_contra hwritten
  rw [Gadget.rpcWheelReport, Gadget.rpcHidReport] at hwritten
  obtain ⟨hready, hwritten⟩ := ite_ne_right_iff.mp hwritten
  apply h
  split at hwritten
  case isTrue habsolute =>
    rw [Gadget.absMouseWheelReport] at hwritten
    split_ifs at hwritten
    · simp at hwritten
    · simp at hwritten
    · exact ⟨hready, .inl habsolute, (ite_ne_right_iff.mp hwritten).1⟩
  case isFalse =>
    rw [Gadget.relMouseWheelReport] at hwritten
    split_ifs at hwritten with hrelative
    · simp at hwritten
    · simp at hwritten
    · exact ⟨hready, .inr (eq_true_of_ne_false hrelative), (ite_ne_right_iff.mp hwritten).1⟩

/-- What becomes of the host when a call for the wheel is handled. -/
theorem host_handleWheel (setup : Setup) (gadget : Gadget) (s : Session) {call : ℚ × ℚ}
    (hY : Turn call.1) (hX : Turn call.2) :
  (gadget.WritesTurns →
      (s.handleWheel setup gadget call).host =
        { s.host with
          wheelY := s.host.wheelY + Rpc.convertInt setup.platform .int8 call.1
          wheelX := s.host.wheelX + Rpc.convertInt setup.platform .int8 call.2
          buttons :=
            if gadget.absoluteMouse = true ∨ call = (0, 0) then s.host.buttons else 0 }) ∧
    (¬ gadget.WritesTurns → (s.handleWheel setup gadget call).host = s.host)
  := by
  obtain ⟨wheelY, hwheelY, hconvertY, hbyteY⟩ := convertInt_turn setup hY
  obtain ⟨wheelX, hwheelX, hconvertX, hbyteX⟩ := convertInt_turn setup hX
  have hzero : call = (0, 0) ↔ wheelY = 0 ∧ wheelX = 0 := by
    rw [Prod.ext_iff, hwheelY, hwheelX]
    exact and_congr Int.cast_eq_zero Int.cast_eq_zero
  rw [handleWheel, hconvertY, hconvertX]
  dsimp only
  constructor
  · intro hwrites
    rw [read_rpcWheelReport hwrites _ hbyteY hbyteX]
    simp only [hzero]
  · intro hlost
    rw [rpcWheelReport_of_not hlost]
    rfl

theorem step_handleWheel {position : ℕ}
    (h : step setup s (.handleWheel position gadget) = some s') :
  ∃ call, s.wheelCalls[position]? = some call ∧
    s' = { s with wheelCalls := s.wheelCalls.eraseIdx position }.handleWheel setup gadget call
  := by
  obtain ⟨call, hcall, rfl⟩ := Option.map_eq_some_iff.mp h
  exact ⟨call, hcall, rfl⟩

/-- A turn of the relative mouse's wheel is written, and no newer message is under way. -/
structure TurnsRelative (s : Session) (gadget : Gadget) (call : ℚ × ℚ) : Prop where
  absoluteMouse : gadget.absoluteMouse = false
  writes : gadget.WritesTurns
  call_ne : call ≠ (0, 0)
  messages : s.messages = []

/-- Only such a turn lets go of the buttons, and none moves the pointer. -/
theorem awaited_handleWheel (h : s.Sound) {position : ℕ}
    (hstep : step setup s (.handleWheel position gadget) = some s') :
  s'.trackpad = s.trackpad ∧ s'.relMouseCalls = s.relMouseCalls ∧
    s'.awaited.x = s.awaited.x ∧ s'.awaited.y = s.awaited.y ∧
    ∃ call, s.wheelCalls[position]? = some call ∧
      (TurnsRelative s gadget call → s'.awaited.buttons = 0) ∧
      (¬ TurnsRelative s gadget call → s'.awaited.buttons = s.awaited.buttons)
  := by
  obtain ⟨call, hcall, rfl⟩ := step_handleWheel hstep
  obtain ⟨hturnY, hturnX⟩ := h.wheelCalls call (List.mem_of_getElem? hcall)
  obtain ⟨hwritten, hlost⟩ :=
    host_handleWheel setup gadget { s with wheelCalls := s.wheelCalls.eraseIdx position }
      hturnY hturnX
  set handled := { s with wheelCalls := s.wheelCalls.eraseIdx position }.handleWheel setup gadget
    call
  have hhost : handled.host.x = s.host.x ∧ handled.host.y = s.host.y := by
    by_cases hwrites : gadget.WritesTurns
    · rw [hwritten hwrites]
      exact ⟨rfl, rfl⟩
    · rw [hlost hwrites]
      exact ⟨rfl, rfl⟩
  obtain ⟨hx, hy, hbuttons⟩ := h.awaited_of_host handled.host
  rw [hhost.1, sub_self, add_zero] at hx
  rw [hhost.2, sub_self, add_zero] at hy
  refine ⟨rfl, rfl, hx, hy, call, hcall, ?_, ?_⟩
  · intro hturns
    refine hbuttons.trans ?_
    rw [if_pos hturns.messages, hwritten hturns.writes]
    simp [hturns.absoluteMouse, hturns.call_ne]
  · intro hnot
    refine hbuttons.trans ?_
    split
    case isFalse => rfl
    case isTrue hempty =>
      have hawaited : s.awaited = s.host := by
        rw [awaited, hempty]
        rfl
      rw [hawaited]
      by_cases hwrites : gadget.WritesTurns
      · rw [hwritten hwrites]
        apply if_pos
        by_contra hkept
        rw [not_or, Bool.not_eq_true] at hkept
        exact hnot ⟨hkept.1, hwrites, hkept.2, hempty⟩
      · rw [hlost hwrites]

/-- A turn that is written was awaited. -/
theorem awaitedWheel_handleWheel (h : s.Sound) (hwrites : gadget.WritesTurns) {position : ℕ}
    (hstep : step setup s (.handleWheel position gadget) = some s') :
  s'.trackpad = s.trackpad ∧ s'.awaitedWheel setup = s.awaitedWheel setup
  := by
  obtain ⟨call, hcall, rfl⟩ := step_handleWheel hstep
  obtain ⟨hturnY, hturnX⟩ := h.wheelCalls call (List.mem_of_getElem? hcall)
  have hsumY := sum_eraseIdx (fun c => Rpc.convertInt setup.platform .int8 c.1) hcall
  have hsumX := sum_eraseIdx (fun c => Rpc.convertInt setup.platform .int8 c.2) hcall
  refine ⟨rfl, ?_⟩
  rw [awaitedWheel, awaitedWheel, (host_handleWheel setup gadget _ hturnY hturnX).1 hwrites, ← hsumY, ← hsumX]
  dsimp only [handleWheel]
  rw [Int.add_assoc, Int.add_assoc]

/-! ### An invariant -/

/-- A whole number of ticks, clamped. -/
def clampTicks (ticks : ℤ) : ℤ :=
  max (-127) (min 127 ticks)

/-- Ticks are sent as notches, and keep their number. -/
theorem clampWheel_ticks (ticks : ℤ) :
  clampWheel (ticks * 100) = clampTicks ticks
  := by
  have hvalue : (if 100 ≤ |(ticks * 100 : ℚ)| then (ticks * 100 : ℚ) / 100
      else mathSign (ticks * 100)) = ticks := by
    split
    case isTrue => exact mul_div_cancel_right₀ _ (by norm_num)
    case isFalse hlt =>
      have hzero : ticks = 0 := by
        by_contra hne
        apply hlt
        have hone : (1 : ℚ) ≤ |(ticks : ℚ)| := by exact_mod_cast Int.one_le_abs hne
        rw [abs_mul, abs_of_pos (by norm_num : (0 : ℚ) < 100)]
        linarith
      rw [hzero]
      simp [mathSign]
  rw [clampWheel, hvalue, clampTicks]
  push_cast
  rfl

/-- The turns of the wheel for some ticks. -/
def turns (invertScroll : Bool) (ticksY ticksX : ℤ) : ℤ × ℤ :=
  ((if invertScroll then 1 else -1) * clampTicks ticksY,
    (if invertScroll then -1 else 1) * clampTicks ticksX)

/-- The parameters for some ticks are their turns, if there are any. -/
theorem wheelParams_ticks (invertScroll : Bool) (ticksY ticksX : ℤ) :
  wheelParams invertScroll (ticksY * 100) (ticksX * 100) =
    if turns invertScroll ticksY ticksX = 0 then none
    else
      some (((turns invertScroll ticksY ticksX).1 : ℚ), ((turns invertScroll ticksY ticksX).2 : ℚ))
  := by
  have hY : (if invertScroll then 1 else -1) * clampWheel (ticksY * 100) =
      ((turns invertScroll ticksY ticksX).1 : ℚ) := by
    rw [clampWheel_ticks, turns]
    push_cast
    rfl
  have hX : (if invertScroll then -1 else 1) * clampWheel (ticksX * 100) =
      ((turns invertScroll ticksY ticksX).2 : ℚ) := by
    rw [clampWheel_ticks, turns]
    push_cast
    rfl
  rw [wheelParams, hY, hX]
  simp only [Int.cast_eq_zero, Prod.ext_iff, Prod.fst_zero, Prod.snd_zero]

/-- Turns fit into their report. -/
theorem turns_mem (invertScroll : Bool) (ticksY ticksX : ℤ) :
  Turn (turns invertScroll ticksY ticksX).1 ∧ Turn (turns invertScroll ticksY ticksX).2
  := by
  have hmem : ∀ ticks, -127 ≤ clampTicks ticks ∧ clampTicks ticks ≤ 127 := by
    intro ticks
    rw [clampTicks]
    omega
  have hY := hmem ticksY
  have hX := hmem ticksX
  rw [turns]
  constructor
  · refine ⟨_, rfl, ?_⟩
    dsimp only
    split <;> omega
  · refine ⟨_, rfl, ?_⟩
    dsimp only
    split <;> omega

/-- What holds in every state: the messages and the calls under way are such as are sent, the
buttons that are held are those that are locked, and they are sent. -/
structure Reachable (s : Session) : Prop where
  sound : s.Sound
  held : s.trackpad.heldButtons = s.trackpad.lockedButtons
  covered : s.trackpad.Covered

/-- Nothing is under way at first. -/
theorem reachable_start :
  start.Reachable
  := by
  refine ⟨⟨?_, ?_, ?_⟩, rfl, rfl⟩
  · exact fun _ h => absurd h List.not_mem_nil
  · exact fun _ h => absurd h List.not_mem_nil
  · exact fun _ h => absurd h List.not_mem_nil

/-- The pieces of a movement may be sent, in either way. -/
theorem Sound.sendTrackpadRelMouse (h : s.Sound) (dx dy : ℚ) (buttons : UInt8) :
  (s.sendTrackpadRelMouse page dx dy buttons).Sound
  := by
  rw [Session.sendTrackpadRelMouse]
  split
  case isTrue =>
    split
    case isTrue =>
      refine ⟨?_, h.relMouseCalls, h.wheelCalls⟩
      intro data hdata
      rcases List.mem_append.mp hdata with hdata | hdata
      · exact h.messages data hdata
      · obtain ⟨dx', dy', hmoves⟩ := (receive_encoded (fits_chunks _ _ _)).1 data hdata
        exact ⟨dx', dy', _, hmoves⟩
    case isFalse => exact h
  case isFalse =>
    split
    case isTrue =>
      refine ⟨h.messages, ?_, h.wheelCalls⟩
      intro call hcall
      rcases List.mem_append.mp hcall with hcall | hcall
      · exact h.relMouseCalls call hcall
      · exact ⟨_, fits_chunks _ _ _ call hcall⟩
    case isFalse => exact h

theorem sound_block (h : s.Sound) :
  (s.block page).Sound
  := by
  rw [block]
  split
  · exact ⟨h.messages, h.relMouseCalls, h.wheelCalls⟩
  · exact h

/-- So may a whole number of ticks. -/
theorem Sound.sendWheelReport (h : s.Sound) (ticksY ticksX : ℤ) :
  (s.sendWheelReport setup page (ticksY * 100) (ticksX * 100)).Sound
  := by
  rw [Session.sendWheelReport, wheelParams_ticks]
  split
  case isTrue => exact h
  case isFalse =>
    split
    case h_1 => exact h
    case h_2 call hcall =>
      obtain ⟨-, hcall⟩ := Option.ite_none_left_eq_some.mp hcall
      obtain rfl := Option.some.inj hcall
      split
      case isFalse => exact sound_block h
      case isTrue =>
        apply sound_block
        refine ⟨h.messages, h.relMouseCalls, ?_⟩
        intro call hcall
        rcases List.mem_append.mp hcall with hcall | hcall
        · exact h.wheelCalls call hcall
        · obtain rfl := List.mem_singleton.mp hcall
          exact turns_mem _ _ _

/-- What an event asks for may be sent. -/
theorem Sound.send (h : s.Sound) {event : Event} {v v' : VirtualTrackpad} {call : Option Call}
    (handled : Handled v event v' call) :
  (s.send setup page call).Sound
  := by
  cases handled with
  | quiet => exact h
  | scroll same ticksY ticksX => exact h.sendWheelReport ticksY ticksX
  | move => exact h.sendTrackpadRelMouse _ _ _
  | click => exact h.sendTrackpadRelMouse _ _ _
  | sync => exact h.sendTrackpadRelMouse _ _ _
  | hide => exact h

/-- An event keeps the buttons that are held those that are locked, and covered. -/
theorem Reachable.handled {v : VirtualTrackpad} {event : Event} {call : Option Call}
    (h : s.Reachable) (handled : Handled s.trackpad event v call) :
  v.heldButtons = v.lockedButtons ∧ v.Covered
  := by
  have hkept : v.lockedButtons = s.trackpad.lockedButtons →
      v.heldButtons = s.trackpad.heldButtons → v.heldButtons = v.lockedButtons ∧ v.Covered := by
    intro hlocked hheld
    refine ⟨(hheld.trans h.held).trans hlocked.symm, ?_⟩
    rw [VirtualTrackpad.Covered, hlocked]
    exact h.covered
  cases handled with
  | quiet same => exact hkept same.lockedButtons same.heldButtons
  | scroll same => exact hkept same.lockedButtons same.heldButtons
  | move same => exact hkept same.lockedButtons same.heldButtons
  | click locked held => exact hkept locked held
  | sync held _ covered => exact ⟨held, covered h.covered⟩
  | hide _ _ locked held =>
      refine ⟨held.trans locked.symm, ?_⟩
      rw [VirtualTrackpad.Covered, locked]
      rfl

/-- Every step keeps the invariant. -/
theorem Reachable.step {a : Action} (h : s.Reachable) (hstep : step setup s a = some s') :
  s'.Reachable
  := by
  cases a with
  | event page event =>
      obtain ⟨v, call, hhandle, rfl⟩ := step_event hstep
      have handled := VirtualTrackpad.handled h.held hhandle
      obtain ⟨hheld, hcovered⟩ := h.handled handled
      constructor
      · apply Sound.send _ handled
        exact ⟨h.sound.messages, h.sound.relMouseCalls, h.sound.wheelCalls⟩
      · rw [send_trackpad]
        exact hheld
      · rw [send_trackpad]
        exact hcovered
  | render =>
      obtain rfl := Option.some.inj hstep
      exact ⟨⟨h.sound.messages, h.sound.relMouseCalls, h.sound.wheelCalls⟩, h.held, h.covered⟩
  | unblock =>
      obtain rfl := step_unblock hstep
      exact ⟨⟨h.sound.messages, h.sound.relMouseCalls, h.sound.wheelCalls⟩, h.held, h.covered⟩
  | handleMessage gadget =>
      obtain ⟨data, rest, hmessages, rfl⟩ := step_handleMessage hstep
      refine ⟨⟨?_, h.sound.relMouseCalls, h.sound.wheelCalls⟩, h.held, h.covered⟩
      intro data hdata
      exact h.sound.messages data (hmessages ▸ List.mem_cons_of_mem _ hdata)
  | handleRelMouse position gadget =>
      obtain ⟨call, -, rfl⟩ := step_handleRelMouse hstep
      refine ⟨⟨h.sound.messages, ?_, h.sound.wheelCalls⟩, h.held, h.covered⟩
      intro call hmem
      exact h.sound.relMouseCalls call (List.mem_of_mem_eraseIdx hmem)
  | handleWheel position gadget =>
      obtain ⟨call, -, rfl⟩ := step_handleWheel hstep
      refine ⟨⟨h.sound.messages, h.sound.relMouseCalls, ?_⟩, h.held, h.covered⟩
      intro call hmem
      exact h.sound.wheelCalls call (List.mem_of_mem_eraseIdx hmem)

theorem reachable_of_run (h : s.Reachable) (run : (lts setup).Run s tr t) :
  t.Reachable
  := run.invariant h fun _ _ hbefore hstep => hbefore.step hstep

end Session

end JetKvm.Trackpad
