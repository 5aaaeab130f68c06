import JetKvm.HidRpc.Agreement
import JetKvm.Library.Channel
import JetKvm.Library.Stutter
import JetKvm.Library.Transition

/-!
# Buttons of the absolute mouse

The browser sends a report that changes the buttons over the reliable channel, and any other over
the unreliable one, with the same buttons as before. The device puts the messages of both into one
queue, in the order in which they arrive, so that a report that is overtaken by a change brings back
the buttons from before it.
-/

namespace JetKvm.AbsMouse

open HidRpc

/-- A call of `reportAbsMouseEvent`. Its callers round the coordinates, and mask the buttons. -/
structure Call where
  x : ℤ
  y : ℤ
  buttons : ℤ
  x_low : -2 ^ 31 ≤ x
  x_high : x < 2 ^ 31
  y_low : -2 ^ 31 ≤ y
  y_high : y < 2 ^ 31
  buttons_low : 0 ≤ buttons
  buttons_high : buttons ≤ 255

/-- The channels that are used, both of which are open. -/
inductive DataChannel where
  | hidrpc
  | hidrpcUnreliableOrdered
deriving DecidableEq, Repr

/-- The reference to the last buttons, the messages that each channel still has to deliver, the
queues of the session, and the reports that have been written to the mouse. -/
structure State where
  lastAbsButtons : ℤ
  inFlight : DataChannel → List (List UInt8)
  hidQueue : ℕ → Channel (List UInt8) 256
  absMouse : List (List UInt8)

/-- A new session. -/
def start : State where
  lastAbsButtons := 0
  inFlight _ := []
  hidQueue _ := .empty
  absMouse := []

/-- The browser reports the mouse, a channel delivers its next message, a message of the unreliable
channel is lost, or the worker of a queue handles a message. -/
inductive Action where
  | reportAbsMouseEvent (call : Call)
  | deliver (channel : DataChannel)
  | lose (position : ℕ)
  | handle (queue : ℕ)

/-! ### The browser -/

/-- `sendMessage`, for a message that has to stay in order. -/
def State.sendMessage (s : State) (message : Except String (List UInt8))
    (useUnreliableChannel : Bool) : State :=
  match message with
  | .error _ => s
  | .ok data =>
      let channel : DataChannel :=
        if useUnreliableChannel then .hidrpcUnreliableOrdered else .hidrpc
      { s with inFlight := Function.update s.inFlight channel (s.inFlight channel ++ [data]) }

def State.reportAbsMouseEvent (s : State) (call : Call) : State :=
  let buttonsChanged : Bool := call.buttons ≠ s.lastAbsButtons
  { s with lastAbsButtons := call.buttons }.sendMessage
    (Browser.PointerReportMessage.marshal ⟨call.x, call.y, call.buttons⟩) (!buttonsChanged)

/-! ### The device -/

def getQueueIndex (messageType : MessageType) : ℕ :=
  if messageType = typeHandshake then 0
  else if messageType ∈ [typeKeyboardReport, typeKeypressReport, typeKeyboardMacroReport,
      typeKeyboardLedState, typeKeydownState, typeKeyboardMacroState] then 1
  else if messageType ∈ [typePointerReport, typeMouseReport, typeWheelReport] then 2
  else 3

/-- `enqueueHidMessage`, which waits when the queue is full. -/
def State.enqueueHidMessage (s : State) (queueIndex : ℕ) (data : List UInt8) : Option State :=
  ((s.hidQueue queueIndex).trySend data).map fun queue =>
    { s with hidQueue := Function.update s.hidQueue queueIndex queue }

/-- The handler of the messages of both channels. -/
def State.onHidMessageHandler (s : State) : List UInt8 → Option State
  | [] => some s
  | t :: d => s.enqueueHidMessage (getQueueIndex t) (t :: d)

/-- What `AbsMouseReport` writes. -/
def absMouseReport (report : PointerReport) : List UInt8 :=
  [1, report.button, Word.toByte report.x, Word.toByte (report.x / 256), Word.toByte report.y,
    Word.toByte (report.y / 256)]

/-- A message is handled. The USB is ready, and every write succeeds. -/
def State.handleMessage (s : State) (data : List UInt8) : State :=
  match onHidMessage data with
  | .value (.pointer report) => { s with absMouse := s.absMouse ++ [absMouseReport report] }
  | _ => s

def step (s : State) : Action → Option State
  | .reportAbsMouseEvent call => some (s.reportAbsMouseEvent call)
  | .deliver channel =>
      match s.inFlight channel with
      | [] => none
      | data :: rest =>
          { s with inFlight := Function.update s.inFlight channel rest }.onHidMessageHandler data
  | .lose position =>
      some
        { s with
          inFlight := Function.update s.inFlight .hidrpcUnreliableOrdered
            ((s.inFlight .hidrpcUnreliableOrdered).eraseIdx position) }
  | .handle queue =>
      (s.hidQueue queue).receive.map fun next =>
        { s with hidQueue := Function.update s.hidQueue queue next.2 }.handleMessage next.1

/-- The runs of a session. -/
def lts : Lts State Action :=
  Lts.ofStep step

abbrev Transition :=
  Lts.Transition State Action

/-! ### What is promised -/

/-- All messages have been delivered or lost, and handled. -/
def State.Quiet (s : State) : Prop :=
  (∀ channel, s.inFlight channel = []) ∧ ∀ queue, (s.hidQueue queue).items = []

/-- The buttons that are called for. -/
def Action.buttons : Action → Option ℤ
  | .reportAbsMouseEvent call => some call.buttons
  | _ => none

/-- The buttons of the calls of a run. -/
def calledButtons (tr : List Transition) : List ℤ :=
  (tr.map Lts.Transition.action).filterMap Action.buttons

/-- The buttons of the reports that have been written. -/
def State.writtenButtons (s : State) : List ℤ :=
  s.absMouse.map fun report => (report.getD 1 0).toNat

/-- The buttons of the calls have been written in their order, but for repeats. -/
structure KeepsButtons (tr : List Transition) (t : State) : Prop where
  same : t.writtenButtons.destutter (· ≠ ·) = (calledButtons tr).destutter (· ≠ ·)
  last : t.writtenButtons.getLast? = (calledButtons tr).getLast?

/-! ### The condition -/

/-- The buttons that the device reads from a message. -/
def buttonsOf (data : List UInt8) : ℤ :=
  match onHidMessage data with
  | .value (.pointer report) => report.button.toNat
  | _ => 0

/-- The buttons of the messages that arrive in a run. Those of the reliable channel are pinned. -/
def arrivals (tr : List Transition) : List (Stutter.Item ℤ) :=
  tr.filterMap fun e =>
    match e.action with
    | .deliver channel =>
        (e.before.inFlight channel).head?.map fun data => ⟨channel = .hidrpc, buttonsOf data⟩
    | _ => none

/-- The first message that arrives has the buttons of the first call, and any other message that
comes over the unreliable channel has those of the message that arrives before it, or of the next
change that arrives. -/
structure ArrivesInOrder (tr : List Transition) : Prop where
  first : ((arrivals tr).map Stutter.Item.value).head? = (calledButtons tr).head?
  follows : ∀ v ∈ (calledButtons tr).head?, Stutter.Follows v (arrivals tr)

/-! ### Messages -/

variable {s t : State} {tr : List Transition} {data : List UInt8} {a : Action}

/-- The device reads a pointer report from a message. -/
def IsReport (data : List UInt8) : Prop :=
  ∃ d report, data = typePointerReport :: d ∧ onHidMessage data = .value (.pointer report)

theorem isReport_of_receive {report : PointerReport}
    (h : receive Message.pointerReport data = .value report) :
  IsReport data ∧ buttonsOf data = report.button.toNat
  := by
  cases data with
  | nil => cases h
  | cons messageType d =>
      rw [receive_cons] at h
      have htype : messageType = typePointerReport := by
        by_contra hne
        rw [Message.pointerReport, if_pos hne] at h
        cases h
      obtain rfl := htype
      have hhandled : onHidMessage (typePointerReport :: d) = .value (.pointer report) := by
        change (do return HidRequest.pointer (← Message.pointerReport ⟨typePointerReport, d⟩)) = _
        rw [h]
        rfl
      constructor
      · exact ⟨d, report, rfl, hhandled⟩
      · rw [buttonsOf, hhandled]

/-- A call sends a report with its buttons, over the reliable channel when they have changed. -/
theorem reportAbsMouseEvent_eq (s : State) (call : Call) :
  ∃ data, IsReport data ∧ buttonsOf data = call.buttons ∧
    s.reportAbsMouseEvent call =
      { s with
        lastAbsButtons := call.buttons
        inFlight :=
          if s.lastAbsButtons = call.buttons then
            Function.update s.inFlight .hidrpcUnreliableOrdered
              (s.inFlight .hidrpcUnreliableOrdered ++ [data])
          else Function.update s.inFlight .hidrpc (s.inFlight .hidrpc ++ [data]) }
  := by
  obtain ⟨data, report, hmarshal, hreceive, -, -, hbutton⟩ := receive_pointer call.x call.y
    call.buttons call.x_low call.x_high call.y_low call.y_high call.buttons_low call.buttons_high
  obtain ⟨hreport, hbuttons⟩ := isReport_of_receive hreceive
  refine ⟨data, hreport, hbuttons.trans hbutton, ?_⟩
  rw [State.reportAbsMouseEvent, hmarshal]
  by_cases hsame : s.lastAbsButtons = call.buttons
  · simp [State.sendMessage, hsame]
  · simp [State.sendMessage, hsame, Ne.symm hsame]

/-- A report that arrives waits in the queue of the mouse. -/
theorem onHidMessageHandler_eq (hreport : IsReport data) (h : s.onHidMessageHandler data = some t) :
  ∃ queue, queue.items = (s.hidQueue 2).items ++ [data] ∧
    t = { s with hidQueue := Function.update s.hidQueue 2 queue }
  := by
  obtain ⟨d, report, rfl, -⟩ := hreport
  obtain ⟨queue, hqueue, rfl⟩ := Option.map_eq_some_iff.mp h
  exact ⟨queue, Channel.trySend_eq_some hqueue, rfl⟩

/-- A report that is handled is written with its buttons. -/
theorem handleMessage_eq (hreport : IsReport data) :
  ∃ report, s.handleMessage data = { s with absMouse := s.absMouse ++ [report] } ∧
    ((report.getD 1 0).toNat : ℤ) = buttonsOf data
  := by
  obtain ⟨d, report, -, hhandled⟩ := hreport
  use absMouseReport report
  rw [State.handleMessage, buttonsOf, hhandled]
  exact ⟨rfl, rfl⟩

/-! ### Runs -/

/-- What the state of a session has to do with the buttons that have been called for and the
messages that have arrived. -/
structure Tracks (called : List ℤ) (arrived : List (Stutter.Item ℤ)) (s : State) : Prop where
  last : s.lastAbsButtons = called.getLast?.getD 0
  sent : ∀ channel, ∀ data ∈ s.inFlight channel, IsReport data
  reliable : Stutter.pinned arrived ++ (s.inFlight .hidrpc).map buttonsOf =
    Stutter.changes 0 called
  queued : ∀ queue, ∀ data ∈ (s.hidQueue queue).items, queue = 2 ∧ IsReport data
  handled : s.writtenButtons ++ ((s.hidQueue 2).items).map buttonsOf =
    arrived.map Stutter.Item.value

theorem tracks_start :
  Tracks [] [] start
  := by
  constructor
  case last => rfl
  case sent => exact fun channel => List.forall_mem_nil _
  case reliable => rfl
  case queued => exact fun queue => List.forall_mem_nil _
  case handled => rfl

section Updates

variable {inFlight : DataChannel → List (List UInt8)} {hidQueue : ℕ → Channel (List UInt8) 256}
  {channel : DataChannel} {messages : List (List UInt8)} {queue : Channel (List UInt8) 256}

theorem sent_update (h : ∀ channel, ∀ data ∈ inFlight channel, IsReport data)
    (hmessages : ∀ data ∈ messages, IsReport data) :
  ∀ other, ∀ data ∈ Function.update inFlight channel messages other, IsReport data
  := by
  apply (Function.forall_update_iff _ fun _ messages => ∀ data ∈ messages, IsReport data).mpr
  exact ⟨hmessages, fun other _ => h other⟩

theorem queued_update (h : ∀ queue, ∀ data ∈ (hidQueue queue).items, queue = 2 ∧ IsReport data)
    (hqueue : ∀ data ∈ queue.items, IsReport data) :
  ∀ other, ∀ data ∈ (Function.update hidQueue 2 queue other).items, other = 2 ∧ IsReport data
  := by
  apply (Function.forall_update_iff _ fun (other : ℕ) (messages : Channel (List UInt8) 256) =>
    ∀ data ∈ messages.items, other = 2 ∧ IsReport data).mpr
  exact ⟨fun data hdata => ⟨rfl, hqueue data hdata⟩, fun other _ => h other⟩

end Updates

namespace Tracks

variable {called : List ℤ} {arrived : List (Stutter.Item ℤ)} {channel : DataChannel}
  {rest : List (List UInt8)}

theorem report (h : Tracks called arrived s) (call : Call) :
  Tracks (called ++ [call.buttons]) arrived (s.reportAbsMouseEvent call)
  := by
  obtain ⟨data, hreport, hbuttons, heq⟩ := reportAbsMouseEvent_eq s call
  have hsent : ∀ channel, ∀ other ∈ s.inFlight channel ++ [data], IsReport other := by
    intro channel
    rw [List.forall_mem_append, List.forall_mem_singleton]
    exact ⟨h.sent channel, hreport⟩
  rw [heq]
  constructor
  case last => rw [List.getLast?_concat, Option.getD_some]
  case sent =>
    dsimp only
    split
    · exact sent_update h.sent (hsent _)
    · exact sent_update h.sent (hsent _)
  case reliable =>
    rw [Stutter.changes_concat, ← h.last, ← h.reliable]
    dsimp only
    by_cases hsame : s.lastAbsButtons = call.buttons
    · rw [if_pos hsame, if_pos hsame, Function.update_of_ne (by decide), List.append_nil]
    · rw [if_neg hsame, if_neg hsame, Function.update_self, List.map_append, List.append_assoc,
        List.map_singleton, hbuttons]
  case queued => exact h.queued
  case handled => exact h.handled

theorem deliver (h : Tracks called arrived s) (hflight : s.inFlight channel = data :: rest)
    (hstep : ({ s with inFlight := Function.update s.inFlight channel rest } :
      State).onHidMessageHandler data = some t) :
  Tracks called (arrived ++ [⟨channel = .hidrpc, buttonsOf data⟩]) t
  := by
  have hsent := h.sent channel
  rw [hflight, List.forall_mem_cons] at hsent
  obtain ⟨hreport, hrest⟩ := hsent
  obtain ⟨queue, hqueue, rfl⟩ := onHidMessageHandler_eq hreport hstep
  constructor
  case last => exact h.last
  case sent => exact sent_update h.sent hrest
  case reliable =>
    rw [← h.reliable, Stutter.pinned_append]
    dsimp only
    cases channel with
    | hidrpc =>
        rw [Function.update_self, hflight, List.append_assoc]
        rfl
    | hidrpcUnreliableOrdered =>
        rw [Function.update_of_ne (by decide)]
        exact congrArg (· ++ _) (List.append_nil _)
  case queued =>
    apply queued_update h.queued
    rw [hqueue, List.forall_mem_append, List.forall_mem_singleton]
    exact ⟨fun other hother => (h.queued 2 other hother).2, hreport⟩
  case handled =>
    dsimp only [State.writtenButtons]
    rw [Function.update_self, hqueue, List.map_append, List.map_append, ← h.handled,
      List.append_assoc]
    rfl

theorem lose (h : Tracks called arrived s) (position : ℕ) (hstep : step s (.lose position) = some t) :
  Tracks called arrived t
  := by
  obtain rfl := Option.some.inj hstep
  constructor
  case last => exact h.last
  case sent =>
    apply sent_update h.sent
    intro data hdata
    apply h.sent _ data (List.mem_of_mem_eraseIdx hdata)
  case reliable =>
    rw [← h.reliable]
    dsimp only
    rw [Function.update_of_ne (by decide)]
  case queued => exact h.queued
  case handled => exact h.handled

theorem handle (h : Tracks called arrived s) (queue : ℕ) (hstep : step s (.handle queue) = some t) :
  Tracks called arrived t
  := by
  obtain ⟨⟨data, rest⟩, hreceive, rfl⟩ := Option.map_eq_some_iff.mp hstep
  have hitems := Channel.receive_eq_some hreceive
  have hqueued := h.queued queue
  rw [hitems, List.forall_mem_cons] at hqueued
  obtain ⟨⟨rfl, hreport⟩, hrest⟩ := hqueued
  obtain ⟨report, heq, hbuttons⟩ := handleMessage_eq
    (s := { s with hidQueue := Function.update s.hidQueue 2 rest }) hreport
  rw [heq]
  constructor
  case last => exact h.last
  case sent => exact h.sent
  case reliable => exact h.reliable
  case queued =>
    apply queued_update h.queued
    exact fun other hother => (hrest other hother).2
  case handled =>
    rw [← h.handled, hitems]
    dsimp only [State.writtenButtons]
    rw [Function.update_self, List.map_append, List.map_singleton, hbuttons, List.append_assoc]
    rfl

end Tracks

theorem calledButtons_snoc (e : Transition) :
  calledButtons (tr ++ [e]) = calledButtons tr ++ calledButtons [e]
  := by
  rw [calledButtons, List.map_append, List.filterMap_append]
  rfl

theorem arrivals_snoc (e : Transition) :
  arrivals (tr ++ [e]) = arrivals tr ++ arrivals [e]
  := List.filterMap_append

/-- The state of a session is tracked from its start. -/
theorem tracks_of_run (run : lts.Run start tr t) :
  Tracks (calledButtons tr) (arrivals tr) t
  := by
  induction run with
  | nil => exact tracks_start
  | @snoc tr s t a run hstep ih =>
      rw [calledButtons_snoc, arrivals_snoc]
      cases a with
      | reportAbsMouseEvent call =>
          obtain rfl := Option.some.inj hstep
          have harrivals : arrivals [(⟨s, .reportAbsMouseEvent call,
              s.reportAbsMouseEvent call⟩ : Transition)] = [] := rfl
          rw [harrivals, List.append_nil]
          apply ih.report
      | deliver channel =>
          change step s (.deliver channel) = some t at hstep
          rw [step] at hstep
          cases hflight : s.inFlight channel with
          | nil =>
              rw [hflight] at hstep
              cases hstep
          | cons data rest =>
              rw [hflight] at hstep
              have hcalled : calledButtons [(⟨s, .deliver channel, t⟩ : Transition)] = [] := rfl
              have harrivals : arrivals [(⟨s, .deliver channel, t⟩ : Transition)] =
                  [⟨channel = .hidrpc, buttonsOf data⟩] := by
                simp [arrivals, hflight]
              rw [hcalled, harrivals, List.append_nil]
              apply ih.deliver hflight hstep
      | lose position =>
          have hcalled : calledButtons [(⟨s, .lose position, t⟩ : Transition)] = [] := rfl
          have harrivals : arrivals [(⟨s, .lose position, t⟩ : Transition)] = [] := rfl
          rw [hcalled, harrivals, List.append_nil, List.append_nil]
          apply ih.lose position hstep
      | handle queue =>
          have hcalled : calledButtons [(⟨s, .handle queue, t⟩ : Transition)] = [] := rfl
          have harrivals : arrivals [(⟨s, .handle queue, t⟩ : Transition)] = [] := rfl
          rw [hcalled, harrivals, List.append_nil, List.append_nil]
          apply ih.handle queue hstep

theorem arrivesInOrder_iff {v : ℤ} {called : List ℤ} (hcalled : calledButtons tr = v :: called) :
  ArrivesInOrder tr ↔ ((arrivals tr).map Stutter.Item.value).head? = some v ∧
    Stutter.Follows v (arrivals tr)
  := by
  constructor
  · intro h
    have hfirst := h.first
    have hfollows := h.follows
    rw [hcalled, List.head?_cons] at hfirst hfollows
    exact ⟨hfirst, hfollows v rfl⟩
  · rintro ⟨hfirst, hfollows⟩
    constructor
    · rw [hcalled, List.head?_cons, hfirst]
    · intro w hw
      rw [hcalled, List.head?_cons] at hw
      obtain rfl := Option.some.inj hw
      exact hfollows

/-- Without calls there is nothing to follow. -/
theorem arrivesInOrder_iff_of_nil (hcalled : calledButtons tr = []) :
  ArrivesInOrder tr ↔ (arrivals tr).map Stutter.Item.value = []
  := by
  constructor
  · intro h
    have hfirst := h.first
    rw [hcalled] at hfirst
    exact List.head?_eq_none_iff.mp hfirst
  · intro hnil
    constructor
    · rw [hnil, hcalled]
    · rw [hcalled]
      nofun

/-- The buttons are kept exactly when the messages arrive in order. -/
theorem keepsButtons_iff (run : lts.Run start tr t) (quiet : t.Quiet) :
  KeepsButtons tr t ↔ ArrivesInOrder tr
  := by
  obtain ⟨hflight, hqueues⟩ := quiet
  have htracks := tracks_of_run run
  have hpinned := htracks.reliable
  have hwritten := htracks.handled
  rw [hflight, List.map_nil, List.append_nil] at hpinned
  rw [hqueues, List.map_nil, List.append_nil] at hwritten
  have hchain : (Stutter.pinned (arrivals tr)).IsChain (· ≠ ·) := by
    rw [hpinned]
    apply Stutter.isChain_changes
  have hsame : t.writtenButtons.destutter (· ≠ ·) = (calledButtons tr).destutter (· ≠ ·) ↔
      ArrivesInOrder tr := by
    rw [hwritten]
    cases hcalled : calledButtons tr with
    | nil =>
        rw [arrivesInOrder_iff_of_nil hcalled, List.destutter_nil, List.destutter_eq_nil]
    | cons v called =>
        rw [arrivesInOrder_iff hcalled, ← Stutter.destutter_eq_iff hchain, hpinned, hcalled,
          Stutter.changes_changes_cons, Stutter.destutter_cons v called]
  rw [← hsame]
  constructor
  · exact KeepsButtons.same
  · intro h
    refine ⟨h, ?_⟩
    rw [← Stutter.getLast?_destutter, h, Stutter.getLast?_destutter]

/-! ### A report that is overtaken -/

/-- Nothing is left when nothing is left in the queue of the mouse. -/
theorem quiet_of_run (run : lts.Run start tr t) (hreliable : t.inFlight .hidrpc = [])
    (hunreliable : t.inFlight .hidrpcUnreliableOrdered = []) (hqueue : (t.hidQueue 2).items = []) :
  t.Quiet
  := by
  constructor
  · intro channel
    cases channel with
    | hidrpc => exact hreliable
    | hidrpcUnreliableOrdered => exact hunreliable
  · intro queue
    apply List.eq_nil_iff_forall_not_mem.mpr
    intro data hdata
    obtain ⟨rfl, -⟩ := (tracks_of_run run).queued queue data hdata
    rw [hqueue] at hdata
    exact List.not_mem_nil hdata

/-- A call with the mouse in one place. -/
def callWith (buttons : ℤ) (hlow : 0 ≤ buttons) (hhigh : buttons ≤ 255) : Call where
  x := 100
  y := 100
  buttons := buttons
  x_low := by decide
  x_high := by decide
  y_low := by decide
  y_high := by decide
  buttons_low := hlow
  buttons_high := hhigh

def move : Action :=
  .reportAbsMouseEvent (callWith 0 (by decide) (by decide))

def press : Action :=
  .reportAbsMouseEvent (callWith 1 (by decide) (by decide))

/-- The button is pressed after a move, and both are delivered in some order and handled. -/
def pressAfterMove (first second : DataChannel) : List Action :=
  [move, press, .deliver first, .deliver second, .handle 2, .handle 2]

theorem exists_pressAfterMove (first second : DataChannel) (written : List ℤ)
    (h : (Lts.play step start (pressAfterMove first second)).map (fun t =>
      (t.inFlight .hidrpc, t.inFlight .hidrpcUnreliableOrdered, (t.hidQueue 2).items,
        t.writtenButtons)) = some ([], [], [], written)) :
  ∃ tr t, lts.Run start tr t ∧ t.Quiet ∧
    tr.map Lts.Transition.action = pressAfterMove first second ∧ t.writtenButtons = written
  := by
  obtain ⟨tr, t, run, hactions, hobserve⟩ := Lts.exists_run_of_observe _ _ _ _ h
  obtain ⟨hreliable, hrest⟩ := Prod.mk.inj hobserve
  obtain ⟨hunreliable, hrest⟩ := Prod.mk.inj hrest
  obtain ⟨hqueue, hwritten⟩ := Prod.mk.inj hrest
  exact ⟨tr, t, run, quiet_of_run run hreliable hunreliable hqueue, hactions, hwritten⟩

/-- The press overtakes the move, which releases the button again. -/
theorem not_keepsButtons_overtaken :
  ∃ tr t, lts.Run start tr t ∧ t.Quiet ∧
    tr.map Lts.Transition.action = pressAfterMove .hidrpc .hidrpcUnreliableOrdered ∧
    t.writtenButtons = [1, 0] ∧ ¬ KeepsButtons tr t
  := by
  obtain ⟨tr, t, run, quiet, hactions, hwritten⟩ :=
    exists_pressAfterMove .hidrpc .hidrpcUnreliableOrdered [1, 0] (by decide +kernel)
  refine ⟨tr, t, run, quiet, hactions, hwritten, ?_⟩
  intro h
  have hlast := h.last
  rw [hwritten, calledButtons, hactions] at hlast
  revert hlast
  decide

theorem keepsButtons_iff_inOrder :
  ∃ tr t, lts.Run start tr t ∧ t.Quiet ∧
    tr.map Lts.Transition.action = pressAfterMove .hidrpcUnreliableOrdered .hidrpc ∧
    (KeepsButtons tr t ↔ ArrivesInOrder tr)
  := by
  obtain ⟨tr, t, run, quiet, hactions, -⟩ :=
    exists_pressAfterMove .hidrpcUnreliableOrdered .hidrpc [0, 1] (by decide +kernel)
  exact ⟨tr, t, run, quiet, hactions, keepsButtons_iff run quiet⟩

end JetKvm.AbsMouse
