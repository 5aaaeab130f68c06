import JetKvm.Keyboard.PendingRelease
import JetKvm.Macro.Cancel
import JetKvm.Macro.Executor

/-!
# A session takes over from another

A session that has exchanged its offer becomes the current one, and the session that was current
before is told to close. Its keys are cleared at that moment, but its peer connection lives on for a
second, and the workers of its queues handle what is in them without asking whether the session is
still the current one. Each report is one step, taken under `keyboardMutex`, and so is each region
under one of the other locks. The USB is ready, and every write succeeds. Beside the keys that are
down the state keeps which of them the messages of the new session have set.
-/

namespace JetKvm.Takeover

open HidRpc (KeyboardMacroStep)
open Macro (Control)

/-- The session that is replaced, and the one that replaces it. -/
inductive Session where
  | old
  | new
deriving DecidableEq, Repr

/-- The messages, as far as they matter for the keyboard. -/
inductive HidMessage where
  | handshake
  | keyboardReport (modifier : UInt8) (keys : List UInt8)
  | keypressReport (key : UInt8) (press : Bool)
  | keyboardMacroReport (steps : List KeyboardMacroStep)
  | pointerReport
  | mouseReport
  | cancelKeyboardMacroReport
  | keypressKeepAliveReport
deriving DecidableEq, Repr

/-- `hidrpc.GetQueueIndex`. -/
def HidMessage.getQueueIndex : HidMessage → ℕ
  | handshake => 0
  | keyboardReport .. | keypressReport .. | keyboardMacroReport _ => 1
  | pointerReport | mouseReport => 2
  | cancelKeyboardMacroReport | keypressKeepAliveReport => 3

/-- What the goroutines share. `cleared` says that the keys have been cleared because the old
session is replaced or has closed. -/
structure Shared (Thread : Type*) where
  gadget : UsbGadget
  setByNew : KeysDownState
  currentSession : Option Session
  hidQueue : Session → ℕ → List HidMessage
  peerClosed : Session → Bool
  done : Session → Bool
  macros : Control Thread
  cleared : Bool

/-- Where `rpcExecuteKeyboardMacro` is. -/
inductive MacroHandler where
  /-- Before the macro that is kept is cancelled. -/
  | execute (steps : List KeyboardMacroStep)
  /-- With a context of its own that is not kept yet. -/
  | register (steps : List KeyboardMacroStep)
  /-- Before the next of the steps that are left. -/
  | loop (steps : List KeyboardMacroStep)
  /-- After the report of a step. -/
  | reported (step : KeyboardMacroStep) (steps : List KeyboardMacroStep)
  /-- In the `select` that ends when the time is up or the context is cancelled. -/
  | sleep (steps : List KeyboardMacroStep)
  /-- After the macro has returned. -/
  | finished
deriving DecidableEq, Repr

/-- Where `handleHidRPCMessage` is. -/
inductive Handler where
  | keyboardReport (modifier : UInt8) (keys : List UInt8)
  | keypressReport (key : UInt8) (press : Bool)
  /-- In `KeypressReport`, after the report, about to start or stop the timer of the key. -/
  | updateTimer (key : UInt8) (press : Bool) (state : KeysDownState)
  | keyboardMacro (call : MacroHandler)
  | cancelKeyboardMacro
  | keepAlive
deriving DecidableEq, Repr

/-- Where `handleHidQueue` is. -/
inductive Worker where
  /-- Before the check whether the session is closed. -/
  | check
  /-- In the `select` between a message and the end of the session. -/
  | select
  | handle (handler : Handler)
  | stopped
deriving DecidableEq, Repr

/-- Where `handleSessionRequest` is, after `ExchangeOffer`. -/
inductive Request where
  | check
  | cancelTimers
  | clear
  | peerConnection
  | cancelMacro
  | setCurrent
  | done
  /-- The current session has gone between the check and the reading of its connection. -/
  | panicked
deriving DecidableEq, Repr

/-- Where the handler of the closed state of the old session is. -/
inductive Closing where
  | start
  | check
  | cancelMacro
  | cancelTimers
  | clear
  | setNil
  | close
  | count
  /-- In `onLastSessionDisconnected`. -/
  | lastDisconnected
  | done
deriving DecidableEq, Repr

inductive Goroutine where
  /-- The worker of a queue of a session. -/
  | worker (session : Session) (queue : ℕ) (worker : Worker)
  /-- An auto-release timer and its callback. -/
  | timer (call : KeypressCall)
  /-- The connection that delivers the messages of a session. -/
  | peer (session : Session)
  | request (request : Request)
  | closing (closing : Closing)
deriving DecidableEq, Repr

/-- What the environment decides: the message that is delivered, whether a `select` takes its first
branch, whether a keep-alive is accepted, and whether the last session disconnects. -/
structure Choice where
  message : HidMessage
  first : Bool
  accepted : Bool
  last : Bool
deriving DecidableEq, Repr

/-! ### The keys -/

/-- No key and no modifier. -/
def nothing : KeysDownState where
  modifier := 0
  keys := []

/-- What a keyboard report says is down. -/
def reportSets (modifier : UInt8) (keys : List UInt8) : KeysDownState where
  modifier := modifier
  keys := (stripMediaKeys (padKeys keys)).1

/-- What the report of a key says is down. -/
def keypressSets (key : UInt8) (press : Bool) : KeysDownState :=
  if press then
    match keyCodeToMaskMap.lookup key with
    | some mask => { modifier := mask, keys := [] }
    | none => { modifier := 0, keys := [key] }
  else nothing

/-- What a message of the session adds to what the new session has set. -/
def Session.adds (session : Session) (sets : KeysDownState) : KeysDownState :=
  match session with
  | old => nothing
  | new => sets

/-- All timers run again. -/
def delayAutoRelease (u : UsbGadget) : UsbGadget :=
  { u with kbdAutoReleaseTimers := fun key => (u.kbdAutoReleaseTimers key).map fun _ => .armed }

namespace Shared

variable {Thread : Type*} (s : Shared Thread)

/-- The gadget after a report. What the new session has set stays its own as long as it is down. -/
def record (adds : KeysDownState) (u : UsbGadget) : Shared Thread :=
  { s with
    gadget := u
    setByNew :=
      { modifier := u.keysDownState.modifier &&& (s.setByNew.modifier ||| adds.modifier)
        keys := u.keysDownState.keys.filter fun key =>
          key ∈ s.setByNew.keys ∨ key ∈ adds.keys } }

def rpcKeyboardReport (session : Session) (modifier : UInt8) (keys : List UInt8) : Shared Thread :=
  s.record (session.adds (reportSets modifier keys))
    (Macro.rpcKeyboardReport s.gadget modifier keys)

/-- `rpcKeyboardReport(0, keyboardClearStateKeys)`. -/
def clearKeys : Shared Thread :=
  s.record nothing (Macro.rpcKeyboardReport s.gadget 0 noKeys)

def cancelAllAutoReleaseTimers : Shared Thread :=
  { s with gadget := s.gadget.cancelAllAutoReleaseTimers }

def modifyMacros (f : Control Thread → Control Thread) : Shared Thread :=
  { s with macros := f s.macros }

def setQueue (session : Session) (queue : ℕ) (messages : List HidMessage) : Shared Thread :=
  { s with
    hidQueue := Function.update s.hidQueue session
      (Function.update (s.hidQueue session) queue messages) }

end Shared

/-! ### The steps -/

section Steps

variable {Thread : Type*} [DecidableEq Thread]

/-- A step of `rpcExecuteKeyboardMacro`, called by goroutine `i`. The second result is `none` when
it returns. -/
def MacroHandler.exec (i : Thread) (session : Session) (choice : Choice) (s : Shared Thread) :
    MacroHandler → Option (Shared Thread × Option MacroHandler)
  | execute steps => some (s.modifyMacros Control.cancelKeyboardMacro, some (register steps))
  | register steps =>
      some (s.modifyMacros fun m =>
        { (m.setKeyboardMacroCancel (some i)) with
          cancelled := Function.update m.cancelled i false }, some (loop steps))
  | loop [] => some (s, some finished)
  | loop (step :: steps) =>
      some (s.rpcKeyboardReport session step.modifier step.keys, some (reported step steps))
  | reported step steps =>
      if isClearKeyStep step then
        some (s.record nothing (s.gadget.updateKeysDown 0 noKeys).1, some (sleep steps))
      else some (s, some (sleep steps))
  | sleep steps =>
      if choice.first then some (s, some (loop steps))
      else if s.macros.cancelled i then some (s.clearKeys, some finished)
      else none
  | finished => some (s.modifyMacros fun m => m.setKeyboardMacroCancel none, none)

/-- A step of `handleHidRPCMessage`. The second result is `none` when it returns. -/
def Handler.exec (i : Thread) (session : Session) (choice : Choice) (s : Shared Thread) :
    Handler → Option (Shared Thread × Option Handler)
  | keyboardReport modifier keys => some (s.rpcKeyboardReport session modifier keys, none)
  | keypressReport key press =>
      let next := s.gadget.keypressReport key press .written
      some (s.record (session.adds (keypressSets key press)) next.1,
        some (updateTimer key press next.2.1))
  | updateTimer key press state =>
      some ({ s with gadget := s.gadget.updateTimer key press state }, none)
  | keyboardMacro call =>
      (call.exec i session choice s).map fun next => (next.1, next.2.map keyboardMacro)
  | cancelKeyboardMacro => some (s.modifyMacros Control.cancelKeyboardMacro, none)
  | keepAlive =>
      if choice.accepted then some ({ s with gadget := delayAutoRelease s.gadget }, none)
      else some (s, none)

/-- What is called for a message, unless it has nothing to do with the keyboard. -/
def HidMessage.handler : HidMessage → Option Handler
  | keyboardReport modifier keys => some (.keyboardReport modifier keys)
  | keypressReport key press => some (.keypressReport key press)
  | keyboardMacroReport steps => some (.keyboardMacro (.execute steps))
  | cancelKeyboardMacroReport => some .cancelKeyboardMacro
  | keypressKeepAliveReport => some .keepAlive
  | handshake | pointerReport | mouseReport => none

/-- The worker handles a message, or goes on with the next one. -/
def Worker.next : Option Handler → Worker
  | some handler => handle handler
  | none => check

/-- A step of `handleHidQueue`. -/
def Worker.exec (i : Thread) (session : Session) (queue : ℕ) (choice : Choice) (s : Shared Thread) :
    Worker → Option (Shared Thread × Worker)
  | check => if s.done session then some (s, stopped) else some (s, select)
  | select =>
      match s.hidQueue session queue with
      | [] => if s.done session then some (s, stopped) else none
      | message :: rest =>
          -- when both branches are ready, either may be taken
          if s.done session ∧ choice.first = false then some (s, stopped)
          else some (s.setQueue session queue rest, next message.handler)
  | handle handler =>
      (handler.exec i session choice s).map fun result => (result.1, next result.2)
  | stopped => none

/-- A step of the life of a timer. -/
def timerExec (s : Shared Thread) : KeypressCall → Option (Shared Thread × KeypressCall)
  | .autoReleaseReport key =>
      some (s.record nothing (s.gadget.keypressReport key false .written).1, .done)
  | .timer key =>
      if s.gadget.kbdAutoReleaseTimers key = some .armed then
        some ({ s with gadget := s.gadget.setTimer key (some .expired) }, .autoRelease key)
      else none
  | .autoRelease key =>
      if (s.gadget.kbdAutoReleaseTimers key).isNone then some (s, .done)
      else some ({ s with gadget := s.gadget.setTimer key none }, .autoReleaseCheck key)
  | .autoReleaseCheck key =>
      if key ∈ s.gadget.keysDownState.keys then some (s, .autoReleaseReport key)
      else some (s, .done)
  | _ => none

/-- A step of `handleSessionRequest`, which `handleWebRTCSession` shares. -/
def Request.exec (s : Shared Thread) : Request → Option (Shared Thread × Request)
  | check => if s.currentSession.isSome then some (s, cancelTimers) else some (s, cancelMacro)
  | cancelTimers => some (s.cancelAllAutoReleaseTimers, clear)
  | clear => some ({ s.clearKeys with cleared := true }, peerConnection)
  | peerConnection =>
      if s.currentSession.isSome then some (s, cancelMacro) else some (s, panicked)
  | cancelMacro => some (s.modifyMacros Control.cancelKeyboardMacro, setCurrent)
  | setCurrent => some ({ s with currentSession := some .new }, done)
  | done => none
  | panicked => none

/-- A step of the handler of the closed state of the old session, as far as it matters for the
keyboard. -/
def Closing.exec (choice : Choice) (s : Shared Thread) : Closing → Option (Shared Thread × Closing)
  | start => some ({ s with peerClosed := Function.update s.peerClosed .old true }, check)
  | check =>
      if s.currentSession = some .old then some (s, cancelMacro) else some (s, close)
  | cancelMacro => some (s.modifyMacros Control.cancelKeyboardMacro, cancelTimers)
  | cancelTimers => some (s.cancelAllAutoReleaseTimers, clear)
  | clear => some ({ s.clearKeys with cleared := true }, setNil)
  | setNil => some ({ s with currentSession := none }, close)
  | close => some ({ s with done := Function.update s.done .old true }, count)
  | count => if choice.last then some (s, lastDisconnected) else some (s, done)
  | lastDisconnected => some (s.clearKeys, done)
  | done => none

/-- One step of goroutine `i`. -/
def Goroutine.exec (i : Thread) (choice : Choice) (s : Shared Thread) :
    Goroutine → Option (Shared Thread × Goroutine)
  | worker session queue w =>
      (w.exec i session queue choice s).map fun next => (next.1, worker session queue next.2)
  | timer call => (timerExec s call).map fun next => (next.1, timer next.2)
  | peer session =>
      if s.peerClosed session then none
      else
        let queue := choice.message.getQueueIndex
        some (s.setQueue session queue (s.hidQueue session queue ++ [choice.message]), peer session)
  | request r => (r.exec s).map fun next => (next.1, request next.2)
  | closing h => (h.exec choice s).map fun next => (next.1, closing next.2)

/-- The sessions and what they share. -/
abbrev SessionPool (Thread : Type*) := Pool (Shared Thread) Goroutine Thread

variable (Thread) in
/-- The interleavings of the goroutines. -/
def takeoverLts : Lts (SessionPool Thread) (Thread × Choice) :=
  Pool.lts Goroutine.exec

end Steps

end JetKvm.Takeover
