import JetKvm.Keyboard.Gadget
import JetKvm.Library.LockOrder
import JetKvm.Session.KeepAlive
import Mathlib.Data.Fintype.EquivFin

/-!
# The locks of the keyboard

The calls that touch the keyboard, with the five kinds of locks that they take: `keyboardMutex`
around the making of a report, `keyboardLock` around the opening and closing of the file,
`keyboardStateLock` around the states of keys and lights, `kbdAutoReleaseLock` around the timers,
and the lock of each session around its keep-alive times. The locks are taken in one order, which
no call violates, so that the calls never wait for each other forever.
-/

namespace JetKvm

/-! ### What is shared -/

/-- The locks around the keyboard, the last of which every session has of its own. -/
inductive KeyboardLock where
  | keyboardMutex
  | keyboardLock
  | keyboardStateLock
  | kbdAutoReleaseLock
  | keepAliveJitterLock (session : Nat)
deriving DecidableEq

/-- What the calls share. The file is open or not, and each session has its keep-alive times. The
states of the lights that were reported to the browser are kept newest first. -/
structure KeyboardShared where
  gadget : UsbGadget
  keyboardHidFile : Bool
  keyboardState : UInt8
  keyboardStateReports : List UInt8
  keepAliveTimes : Nat → KeepAliveTimes

/-- What the environment decides in a step: what becomes of opening the file and of a write, the
session that is current, whether there is a gadget, and the time. -/
structure KeyboardSurroundings where
  openErr : Option HidError
  write : HidWrite
  currentSession : Option Nat
  gadget : Bool
  now : Int

/-- A program that takes and gives back the locks of the keyboard. -/
abbrev KeyboardProgram : Type → Type :=
  LockProgram KeyboardLock KeyboardShared KeyboardSurroundings

namespace KeyboardProgram

open LockProgram KeyboardLock

/-- Changes the gadget in one step. -/
def modifyGadget (f : UsbGadget → UsbGadget) : KeyboardProgram Unit :=
  perform fun _ s => ({ s with gadget := f s.gadget }, ())

/-- Reads what is shared. -/
def read {Value : Type} (f : KeyboardShared → Value) : KeyboardProgram Value :=
  perform fun _ s => (s, f s)

/-! ### The file -/

/-- The caller holds `keyboardLock`. -/
def closeKeyboardHidFileLocked : KeyboardProgram Unit :=
  perform fun _ s => ({ s with keyboardHidFile := false }, ())

/-- A file that is open stays open unless it is forced to be opened again. The caller holds
`keyboardLock`. -/
def openKeyboardHidFileLocked (forceReopen : Bool) : KeyboardProgram (Option HidError) :=
  perform fun x s =>
    if forceReopen = false ∧ s.keyboardHidFile = true then (s, none)
    else ({ s with keyboardHidFile := x.openErr.isNone }, x.openErr)

/-- The file is opened under its lock. -/
def openKeyboardHidFile : KeyboardProgram (Option HidError) := do
  acquire keyboardLock
  let err ← openKeyboardHidFileLocked false
  release keyboardLock
  return err

/-- The file is opened again under its lock. -/
def reopenKeyboardHidFile : KeyboardProgram (Option HidError) := do
  acquire keyboardLock
  let err ← openKeyboardHidFileLocked true
  release keyboardLock
  return err

/-- Writes a report to the file. -/
def writeWithTimeout (report : HidReport) : KeyboardProgram (Option HidError) :=
  perform fun x s =>
    let written := s.gadget.writeHidFile report x.write
    ({ s with gadget := written.1 }, written.2)

/-- What `ConsumerControlReport` does under the lock. -/
def consumerWriteLocked (bits : UInt8) : KeyboardProgram (Option HidError) := do
  let openErr ← openKeyboardHidFileLocked false
  match openErr with
  | some err => return some err
  | none => do
    let err ← writeWithTimeout (.consumer bits)
    match err with
    | some err => do
      closeKeyboardHidFileLocked
      return some err
    | none => do
      modifyGadget fun u => { u with consumerState := bits }
      return none

/-- A report of the media keys, under the lock of the file. -/
def consumerControlReport (bits : UInt8) : KeyboardProgram (Option HidError) := do
  acquire keyboardLock
  let err ← consumerWriteLocked bits
  release keyboardLock
  return err

/-- A report of the keyboard. The file is opened, and closed when it fails, under its lock, and
written to without it. -/
def keyboardWriteHidFileLocked (modifier : UInt8) (keys : List UInt8) :
    KeyboardProgram (Option HidError) := do
  let openErr ← openKeyboardHidFile
  match openErr with
  | some err => return some err
  | none => do
    let err ← writeWithTimeout (.keyboard modifier (keys.take hidKeyBufferSize))
    match err with
    | some err => do
      acquire keyboardLock
      closeKeyboardHidFileLocked
      release keyboardLock
      return some err
    | none => return none

/-! ### The state of the keys -/

/-- The keys are read under the lock of the state. -/
def getKeysDownState : KeyboardProgram KeysDownState := do
  acquire keyboardStateLock
  let state ← read fun s => s.gadget.keysDownState
  release keyboardStateLock
  return state

/-- `resetKeepAliveTime` of a session. -/
def resetKeepAliveTimeOf (session : Nat) : KeyboardProgram Unit := do
  acquire (keepAliveJitterLock session)
  perform fun _ s =>
    ({ s with keepAliveTimes := Function.update s.keepAliveTimes session resetKeepAliveTime }, ())
  release (keepAliveJitterLock session)

/-- The handler that is called when the keys that are down change. -/
def onKeysDownChange (state : KeysDownState) : KeyboardProgram Unit := do
  let session ← perform fun x s =>
    ({ s with gadget := { s.gadget with keysDownChanges := state :: s.gadget.keysDownChanges } },
      x.currentSession)
  match session with
  | none => return ()
  | some session => resetKeepAliveTimeOf session

/-- The keys are written under the lock of the state, and the session is told when they have
changed. -/
def updateKeysDown (modifier : UInt8) (keys : List UInt8) : KeyboardProgram KeysDownState := do
  let state : KeysDownState := { modifier, keys := clearRollOver keys }
  acquire keyboardStateLock
  let unchanged ← perform fun _ s =>
    ({ s with gadget := { s.gadget with keysDownState := state } },
      decide (s.gadget.keysDownState = state))
  release keyboardStateLock
  if unchanged then return state
  else do
    onKeysDownChange state
    return state

/-! ### Reports -/

/-- The Consumer Control report is skipped when it would say again that no media key is down. -/
def reportMediaKeys (bits : UInt8) : KeyboardProgram (Option HidError) := do
  let consumerState ← read fun s => s.gadget.consumerState
  if bits ≠ 0 ∨ consumerState ≠ 0 then consumerControlReport bits
  else return none

/-- The whole sequence of a report, under `keyboardMutex`. -/
def keyboardReport (modifier : UInt8) (keys : List UInt8) :
    KeyboardProgram (Option HidError) := do
  let (cleaned, bits) := stripMediaKeys (padKeys keys)
  acquire keyboardMutex
  let consumerErr ← reportMediaKeys bits
  let keyboardErr ← keyboardWriteHidFileLocked modifier cleaned
  let _ ← updateKeysDown modifier cleaned
  release keyboardMutex
  return consumerErr.or keyboardErr

/-- The whole sequence of a key press, under `keyboardMutex`. -/
def keypressReport (key : UInt8) (press : Bool) :
    KeyboardProgram (KeysDownState × Option HidError) := do
  acquire keyboardMutex
  let state ← getKeysDownState
  if isKeyboardMediaKey key then do
    let bits ← read fun s => s.gadget.consumerBitsAfter key press
    let err ← consumerControlReport bits
    release keyboardMutex
    let state ← getKeysDownState
    return (state, err)
  else do
    let (modifier, keys) := state.after key press
    let err ← keyboardWriteHidFileLocked modifier keys
    let newState ← updateKeysDown modifier keys
    release keyboardMutex
    return (newState, err)

/-! ### Timers -/

/-- The timer of a key is set under its lock. -/
def scheduleAutoRelease (key : UInt8) : KeyboardProgram Unit := do
  acquire kbdAutoReleaseLock
  modifyGadget (·.scheduleAutoRelease key)
  release kbdAutoReleaseLock

/-- The timer of a key is stopped under its lock. -/
def cancelAutoRelease (key : UInt8) : KeyboardProgram Unit := do
  acquire kbdAutoReleaseLock
  modifyGadget (·.cancelAutoRelease key)
  release kbdAutoReleaseLock

/-- All timers are stopped under their lock. -/
def cancelAllAutoReleaseTimers : KeyboardProgram Unit := do
  acquire kbdAutoReleaseLock
  modifyGadget (·.cancelAllAutoReleaseTimers)
  release kbdAutoReleaseLock

/-- Resets every timer, also one that has expired. -/
def delayAutoReleaseWithDuration : KeyboardProgram Unit := do
  acquire kbdAutoReleaseLock
  modifyGadget fun u =>
    { u with kbdAutoReleaseTimers := fun key => (u.kbdAutoReleaseTimers key).map fun _ => .armed }
  release kbdAutoReleaseLock

/-- The timers are changed after the report, when `keyboardMutex` has been given back. -/
def KeypressReport (key : UInt8) (press : Bool) : KeyboardProgram (Option HidError) := do
  let (state, err) ← keypressReport key press
  if isModifier key then return err
  else if state.keys.head? = some hidErrorRollOver ∨ press = false then do
    cancelAutoRelease key
    return err
  else do
    scheduleAutoRelease key
    return err

/-- The timer of a key releases it, if it is still down. -/
def performAutoRelease (key : UInt8) : KeyboardProgram Unit := do
  acquire kbdAutoReleaseLock
  let found ← perform fun _ s =>
    ({ s with gadget := s.gadget.setTimer key none }, (s.gadget.kbdAutoReleaseTimers key).isSome)
  release kbdAutoReleaseLock
  if found then do
    let state ← getKeysDownState
    if key ∈ state.keys then do
      let _ ← keypressReport key false
      return ()
    else return ()
  else return ()

/-! ### Other calls -/

/-- `handleHidRPCKeypressKeepAlive` of a session. -/
def keypressKeepAlive (session : Nat) : KeyboardProgram Unit := do
  acquire (keepAliveJitterLock session)
  let extension ← perform fun x s =>
    let handled := handleHidRPCKeypressKeepAlive (s.keepAliveTimes session) x.now
    ({ s with keepAliveTimes := Function.update s.keepAliveTimes session handled.1 },
      handled.2.isSome && x.gadget)
  if extension then do
    delayAutoReleaseWithDuration
    release (keepAliveJitterLock session)
  else release (keepAliveJitterLock session)

/-- Closes the file of the keyboard. The other files have locks of their own, which are taken one
after the other. -/
def resetHIDFiles : KeyboardProgram Unit := do
  acquire keyboardLock
  closeKeyboardHidFileLocked
  modifyGadget fun u => { u with consumerState := 0 }
  release keyboardLock

/-- The bits of the lights that there are. -/
def validKeyboardLedMasks : UInt8 := 0x5f

/-- The lights are reported to the browser under the lock. -/
def updateKeyboardState (state : UInt8) : KeyboardProgram Unit := do
  acquire keyboardStateLock
  if state &&& ~~~validKeyboardLedMasks ≠ 0 then release keyboardStateLock
  else do
    perform fun x s =>
      if s.keyboardState = state then (s, ())
      else
        ({ s with
            keyboardState := state
            keyboardStateReports := if x.currentSession.isSome then state :: s.keyboardStateReports
              else s.keyboardStateReports }, ())
    release keyboardStateLock

end KeyboardProgram

/-- A call that touches the keyboard. A goroutine that listens for lights makes many of them. -/
inductive KeyboardCall where
  | keypressReport (key : UInt8) (press : Bool)
  | keyboardReport (modifier : UInt8) (keys : List UInt8)
  | performAutoRelease (key : UInt8)
  | keypressKeepAlive (session : Nat)
  | cancelAllAutoReleaseTimers
  | resetHIDFiles
  | updateKeyboardState (state : UInt8)
  | reopenKeyboardHidFile

namespace KeyboardCall

/-- What a call does. -/
def program : KeyboardCall → KeyboardProgram Unit
  | keypressReport key press => do
    let _ ← KeyboardProgram.KeypressReport key press
  | keyboardReport modifier keys => do
    let _ ← KeyboardProgram.keyboardReport modifier keys
  | performAutoRelease key => KeyboardProgram.performAutoRelease key
  | keypressKeepAlive session => KeyboardProgram.keypressKeepAlive session
  | cancelAllAutoReleaseTimers => KeyboardProgram.cancelAllAutoReleaseTimers
  | resetHIDFiles => KeyboardProgram.resetHIDFiles
  | updateKeyboardState state => KeyboardProgram.updateKeyboardState state
  | reopenKeyboardHidFile => do
    let _ ← KeyboardProgram.reopenKeyboardHidFile

/-- What a thread does that makes the calls one after the other. -/
def programs (calls : List KeyboardCall) : KeyboardProgram Unit :=
  calls.forM program

end KeyboardCall

/-! ### The order of the locks -/

namespace KeyboardProgram

open LockProgram KeyboardLock

/-- `keyboardMutex` is taken first, then the lock of a session, and then one of the others. -/
def lockRank : KeyboardLock → Fin 3
  | keyboardMutex => (Fin.last 0).castSucc.castSucc
  | keepAliveJitterLock _ => (Fin.last 1).castSucc
  | keyboardLock => Fin.last 2
  | keyboardStateLock => Fin.last 2
  | kbdAutoReleaseLock => Fin.last 2

variable {held : List KeyboardLock} {Value : Type}

/-- Closing the file takes no lock. -/
theorem obeys_closeKeyboardHidFileLocked :
  closeKeyboardHidFileLocked.Obeys lockRank held held
  := obeys_perform

/-- Opening the file takes no lock by itself. -/
theorem obeys_openKeyboardHidFileLocked {forceReopen : Bool} :
  (openKeyboardHidFileLocked forceReopen).Obeys lockRank held held
  := obeys_perform

/-- A change of the state takes no lock by itself. -/
theorem obeys_modifyGadget {f : UsbGadget → UsbGadget} :
  (modifyGadget f).Obeys lockRank held held
  := obeys_perform

/-- A write takes no lock. -/
theorem obeys_writeWithTimeout {report : HidReport} :
  (writeWithTimeout report).Obeys lockRank held held
  := obeys_perform

/-- A lock is taken, a value is worked out, and the lock is given back. -/
theorem obeys_within {l : KeyboardLock} {body : KeyboardProgram Value}
    (habove : Above lockRank held l) (hbody : body.Obeys lockRank (l :: held) (l :: held)) :
  (do
    acquire l
    let value ← body
    release l
    return value : KeyboardProgram Value).Obeys lockRank held held
  := by
  apply Obeys.locked habove
  apply hbody.bind
  intro value
  apply Obeys.unlocked
  apply obeys_pure

/-- The file may be opened when no lock from its own on is held. -/
theorem obeys_openKeyboardHidFile (h : Above lockRank held keyboardLock) :
  openKeyboardHidFile.Obeys lockRank held held
  := obeys_within h obeys_perform

/-- Writing to the media keys takes no lock by itself. -/
theorem obeys_consumerWriteLocked {bits : UInt8} :
  (consumerWriteLocked bits).Obeys lockRank held held
  := by
  apply obeys_openKeyboardHidFileLocked.bind
  intro openErr
  cases openErr with
  | some err => apply obeys_pure
  | none =>
      apply obeys_writeWithTimeout.bind
      intro err
      cases err with
      | some err =>
          apply obeys_closeKeyboardHidFileLocked.bind
          intro _
          apply obeys_pure
      | none =>
          apply obeys_modifyGadget.bind
          intro _
          apply obeys_pure

/-- The media keys may be reported when no lock from that of the file on is held. -/
theorem obeys_consumerControlReport {bits : UInt8} (h : Above lockRank held keyboardLock) :
  (consumerControlReport bits).Obeys lockRank held held
  := obeys_within h obeys_consumerWriteLocked

/-- The keyboard may be written to when no lock from that of the file on is held. -/
theorem obeys_keyboardWriteHidFileLocked {modifier : UInt8} {keys : List UInt8}
    (h : Above lockRank held keyboardLock) :
  (keyboardWriteHidFileLocked modifier keys).Obeys lockRank held held
  := by
  apply (obeys_openKeyboardHidFile h).bind
  intro openErr
  cases openErr with
  | some err => apply obeys_pure
  | none =>
      apply obeys_writeWithTimeout.bind
      intro err
      cases err with
      | some err =>
          apply Obeys.locked h
          apply obeys_closeKeyboardHidFileLocked.bind
          intro _
          apply Obeys.unlocked
          apply obeys_pure
      | none => apply obeys_pure

/-- The keys may be read when no lock from that of the state on is held. -/
theorem obeys_getKeysDownState (h : Above lockRank held keyboardStateLock) :
  getKeysDownState.Obeys lockRank held held
  := obeys_within h obeys_perform

/-- A session may be told of the keys when the locks of no session are held. -/
theorem obeys_onKeysDownChange {state : KeysDownState}
    (h : ∀ session, Above lockRank held (keepAliveJitterLock session)) :
  (onKeysDownChange state).Obeys lockRank held held
  := by
  apply obeys_perform.bind
  intro session
  cases session with
  | none => apply obeys_pure
  | some session =>
      apply Obeys.locked (h session)
      apply obeys_perform.bind
      intro _
      apply Obeys.release

/-- The handler is called when the lock of the state has been given back. -/
theorem obeys_updateKeysDown {modifier : UInt8} {keys : List UInt8}
    (h : ∀ session, Above lockRank held (keepAliveJitterLock session))
    (hstate : Above lockRank held keyboardStateLock) :
  (updateKeysDown modifier keys).Obeys lockRank held held
  := by
  apply Obeys.locked hstate
  apply obeys_perform.bind
  intro unchanged
  apply Obeys.unlocked
  cases unchanged with
  | true => apply obeys_pure
  | false =>
      apply (obeys_onKeysDownChange h).bind
      intro _
      apply obeys_pure

/-- With `keyboardMutex`, every other lock may be taken. -/
theorem above_keyboardMutex {l : KeyboardLock} (h : keyboardMutex ≠ l) :
  Above lockRank [keyboardMutex] l
  := by
  apply above_nil.cons
  cases l with
  | keyboardMutex => exact absurd rfl h
  | keyboardLock | keyboardStateLock | kbdAutoReleaseLock => decide
  | keepAliveJitterLock session =>
      change (0 : Fin 3) < 1
      decide

/-- The media keys are reported under `keyboardMutex`. -/
theorem obeys_reportMediaKeys {bits : UInt8} :
  (reportMediaKeys bits).Obeys lockRank [keyboardMutex] [keyboardMutex]
  := by
  apply obeys_perform.bind
  intro consumerState
  split
  · apply obeys_consumerControlReport (above_keyboardMutex nofun)
  · apply obeys_pure

/-- A report takes its locks in order. -/
theorem obeys_keyboardReport {modifier : UInt8} {keys : List UInt8} :
  (keyboardReport modifier keys).Obeys lockRank [] []
  := by
  apply Obeys.locked above_nil
  apply obeys_reportMediaKeys.bind
  intro consumerErr
  apply (obeys_keyboardWriteHidFileLocked (above_keyboardMutex nofun)).bind
  intro keyboardErr
  apply (obeys_updateKeysDown (fun _ => above_keyboardMutex nofun)
    (above_keyboardMutex nofun)).bind
  intro _
  apply Obeys.unlocked
  apply obeys_pure

/-- So does a key press. -/
theorem obeys_keypressReport {key : UInt8} {press : Bool} :
  (keypressReport key press).Obeys lockRank [] []
  := by
  apply Obeys.locked above_nil
  apply (obeys_getKeysDownState (above_keyboardMutex nofun)).bind
  intro state
  split
  · apply obeys_perform.bind
    intro bits
    apply (obeys_consumerControlReport (above_keyboardMutex nofun)).bind
    intro err
    apply Obeys.unlocked
    apply (obeys_getKeysDownState above_nil).bind
    intro state
    apply obeys_pure
  · apply (obeys_keyboardWriteHidFileLocked (above_keyboardMutex nofun)).bind
    intro err
    apply (obeys_updateKeysDown (fun _ => above_keyboardMutex nofun)
      (above_keyboardMutex nofun)).bind
    intro newState
    apply Obeys.unlocked
    apply obeys_pure

/-- A change of the timers under their lock. -/
theorem obeys_modifyTimers {f : UsbGadget → UsbGadget} (h : Above lockRank held kbdAutoReleaseLock) :
  (do
    acquire kbdAutoReleaseLock
    modifyGadget f
    release kbdAutoReleaseLock : KeyboardProgram Unit).Obeys lockRank held held
  := by
  apply Obeys.locked h
  apply obeys_modifyGadget.bind
  intro _
  apply Obeys.release

/-- So it does with its timers. -/
theorem obeys_KeypressReport {key : UInt8} {press : Bool} :
  (KeypressReport key press).Obeys lockRank [] []
  := by
  apply obeys_keypressReport.bind
  rintro ⟨state, err⟩
  dsimp only
  split
  · apply obeys_pure
  · split
    · apply (obeys_modifyTimers above_nil).bind
      intro _
      apply obeys_pure
    · apply (obeys_modifyTimers above_nil).bind
      intro _
      apply obeys_pure

/-- The release of a key takes its locks in order. -/
theorem obeys_performAutoRelease {key : UInt8} :
  (performAutoRelease key).Obeys lockRank [] []
  := by
  apply Obeys.locked above_nil
  apply obeys_perform.bind
  intro found
  apply Obeys.unlocked
  cases found with
  | true =>
      apply (obeys_getKeysDownState above_nil).bind
      intro state
      split
      · apply obeys_keypressReport.bind
        intro _
        apply obeys_pure
      · apply obeys_pure
  | false => apply obeys_pure

/-- The lock of the timers is taken under the lock of the session. -/
theorem obeys_keypressKeepAlive {session : Nat} :
  (keypressKeepAlive session).Obeys lockRank [] []
  := by
  apply Obeys.locked above_nil
  apply obeys_perform.bind
  intro extension
  cases extension with
  | true =>
      have habove : Above lockRank [keepAliveJitterLock session] kbdAutoReleaseLock := by
        apply above_nil.cons
        change (1 : Fin 3) < 2
        decide
      apply (obeys_modifyTimers habove).bind
      intro _
      apply Obeys.release
  | false => apply Obeys.release

/-- The file of the keyboard is closed under its lock. -/
theorem obeys_resetHIDFiles :
  resetHIDFiles.Obeys lockRank [] []
  := by
  apply Obeys.locked above_nil
  apply obeys_closeKeyboardHidFileLocked.bind
  intro _
  apply obeys_modifyGadget.bind
  intro _
  apply Obeys.release

/-- The lights are changed and reported under the lock of the state. -/
theorem obeys_updateKeyboardState {state : UInt8} :
  (updateKeyboardState state).Obeys lockRank [] []
  := by
  apply Obeys.locked above_nil
  split
  · apply Obeys.release
  · apply obeys_perform.bind
    intro _
    apply Obeys.release

/-- Every call takes its locks in their order, and gives them back. -/
theorem obeys_program (call : KeyboardCall) :
  call.program.Obeys lockRank [] []
  := by
  cases call with
  | keypressReport key press =>
      apply obeys_KeypressReport.bind
      exact fun _ => obeys_pure
  | keyboardReport modifier keys =>
      apply obeys_keyboardReport.bind
      exact fun _ => obeys_pure
  | performAutoRelease key => apply obeys_performAutoRelease
  | keypressKeepAlive session => apply obeys_keypressKeepAlive
  | cancelAllAutoReleaseTimers => apply obeys_modifyTimers above_nil
  | resetHIDFiles => apply obeys_resetHIDFiles
  | updateKeyboardState state => apply obeys_updateKeyboardState
  | reopenKeyboardHidFile =>
      apply (obeys_within above_nil obeys_openKeyboardHidFileLocked).bind
      exact fun _ => obeys_pure

/-- Whatever a goroutine calls one after the other, it takes the locks in order. -/
theorem obeys_programs (calls : List KeyboardCall) :
  (KeyboardCall.programs calls).Obeys lockRank [] []
  := by
  induction calls with
  | nil => apply obeys_pure
  | cons call calls ih =>
      apply (obeys_program call).bind
      exact fun _ => ih

end KeyboardProgram

/-! ### No deadlock -/

/-- The threads and what they share. -/
abbrev KeyboardLockPool (Thread : Type) :=
  LockProgram.LockPool KeyboardLock KeyboardShared KeyboardSurroundings Thread

/-- No lock is held, and every thread is about to make some calls. -/
structure KeyboardLockPool.Starts {Thread : Type} (c : KeyboardLockPool Thread) : Prop where
  free : ∀ l, c.shared.holder l = none
  calls : ∀ i, ∃ calls, c.threads i = KeyboardCall.programs calls

/-- In every run of any number of threads that make calls, no thread is about to lock a mutex that
it holds, and as long as a thread has not finished, some thread can take a step. -/
theorem keyboard_locks_no_deadlock {Thread : Type} [DecidableEq Thread]
    {c c' : KeyboardLockPool Thread}
    {tr : List (Lts.Transition (KeyboardLockPool Thread) (Thread × KeyboardSurroundings))}
    (starts : c.Starts) (run : (Pool.lts LockProgram.exec).Run c tr c') :
  (∀ i l next, c'.threads i = .lock l next → c'.shared.holder l ≠ some i) ∧
    ((∃ i, c'.threads i ≠ .done ()) → ∀ x, ∃ i c'', (Pool.lts LockProgram.exec).step c' (i, x) c'')
  := by
  have hstart : LockProgram.Disciplined KeyboardProgram.lockRank c := by
    apply LockProgram.disciplined_of_obeys starts.free
    intro i
    obtain ⟨calls, hcalls⟩ := starts.calls i
    rw [hcalls]
    apply KeyboardProgram.obeys_programs
  have hend := hstart.run run
  constructor
  · exact fun i l next hi => hend.not_holder hi
  · rintro ⟨i, hi⟩ x
    exact hend.progress x fun _ => hi

/-- A key is pressed while a keep-alive message is handled. -/
def keyAndKeepAlive : KeyboardLockPool Bool where
  shared :=
    { data :=
        { gadget := newUsbGadget
          keyboardHidFile := true
          keyboardState := 0
          keyboardStateReports := []
          keepAliveTimes := fun _ => resetKeepAliveTime }
      holder := fun _ => none }
  threads i := KeyboardCall.programs [if i then .keypressReport 4 true else .keypressKeepAlive 0]

/-- No lock is held at first. -/
theorem starts_keyAndKeepAlive :
  keyAndKeepAlive.Starts
  := by
  constructor
  · exact fun _ => rfl
  · exact fun i => ⟨_, rfl⟩

/-- Nothing fails around the keyboard. -/
def idleSurroundings : KeyboardSurroundings where
  openErr := none
  write := .written
  currentSession := some 0
  gadget := true
  now := 0

theorem keyboard_locks_no_deadlock_keyAndKeepAlive :
  ∃ c, (Pool.lts LockProgram.exec).step keyAndKeepAlive (false, idleSurroundings) c ∧
    c.shared.holder (.keepAliveJitterLock 0) = some false ∧
    (∀ i l next, c.threads i = .lock l next → c.shared.holder l ≠ some i) ∧
    ((∃ i, c.threads i ≠ .done ()) → ∀ x, ∃ i c', (Pool.lts LockProgram.exec).step c (i, x) c')
  := by
  obtain ⟨c, hstep⟩ : ∃ c, (Pool.lts LockProgram.exec).step keyAndKeepAlive
      (false, idleSurroundings) c := ⟨_, Pool.lts_step.mpr ⟨_, _, rfl, rfl⟩⟩
  use c, hstep
  constructor
  · obtain ⟨s, p, hexec, rfl⟩ := Pool.lts_step.mp hstep
    cases hexec
    rfl
  · exact keyboard_locks_no_deadlock starts_keyAndKeepAlive (.snoc .nil hstep)

end JetKvm
