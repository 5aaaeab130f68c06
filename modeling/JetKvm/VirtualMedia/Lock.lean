import JetKvm.Library.RWMutex
import JetKvm.VirtualMedia.Exclusion

/-!
# The lock of the virtual media

`virtualMediaStateMutex` is taken for reading or for writing around a region of a call and given
back at the end of the region. The network block device reads the image through calls of their
own, which may come after the image has been unmounted. A read that finds nothing mounted returns
in the middle of its region and keeps the lock.
-/

namespace JetKvm.VirtualMedia

/-- What a step meets. -/
structure LockSurroundings extends Surroundings where
  /-- What the reader of the URL reads. -/
  rangeRead : Nat × Option String
  mqttConnected : Bool

/-- A region that is under the lock. -/
inductive LockedRegion where
  /-- `remoteImageBackend.ReadAt`. -/
  | readAt (len : Nat) (off : Int)
  /-- `remoteImageBackend.Size`. -/
  | size
  | rpcGetVirtualMediaState
  | unmountImageLocked
  /-- The first look of `prepareHTTPMount` at what is mounted. -/
  | checkMounted (url mode : String)
  | prepareHTTPMount (url mode : String) (size : Int)
  | prepareStorageMount (filename mode : String)
  | publishVirtualMediaState
deriving DecidableEq, Repr

/-- Where a call is when it is not in a region under the lock. -/
inductive Outside where
  /-- Before a region. -/
  | enter (region : LockedRegion)
  /-- `ReadAt`, having given back the lock. -/
  | readSource (source : VirtualMediaSource) (len : Nat) (off : Int)
  /-- `rpcMountWithHTTP`, before the check of the URL. -/
  | checkUrl (url mode : String)
  /-- `rpcMountWithHTTP`, before `NewNBDDevice`. -/
  | newDevice
  /-- `rpcMountWithHTTP`, before the start of the device. -/
  | startDevice
  /-- `rpcMountWithHTTP`, before the device is handed to the gadget. -/
  | setImage
  /-- `rpcMountWithStorage`, before the check of the file name. -/
  | mountStorage (filename mode : String)
  /-- Before the state is published. -/
  | publish
  | readReturned (n : Nat) (err : Option String)
  | sizeReturned (size : Int) (err : Option String)
  | stateReturned (state : Option VirtualMediaState)
  | returned (err : Option String)
deriving DecidableEq, Repr

/-- Where a call is. -/
inductive LockedCall where
  | outside (p : Outside)
  /-- In a region, with the lock. -/
  | inside (region : LockedRegion)
  /-- At the end of a region, before the lock is given back. -/
  | leave (region : LockedRegion) (next : Outside)
deriving DecidableEq, Repr

namespace LockedRegion

/-- Whether the lock is taken for reading. -/
def reads : LockedRegion → Bool
  | readAt .. => true
  | size => false
  | rpcGetVirtualMediaState => true
  | unmountImageLocked => false
  | checkMounted .. => true
  | prepareHTTPMount .. => false
  | prepareStorageMount .. => false
  | publishVirtualMediaState => true

/-- A region that runs a procedure goes on where `next` says, and returns the error when the
procedure fails. -/
def finish {α : Type} (region : LockedRegion) (p : Procedure Media α) (next : α → Outside)
    (s : Media) : Media × LockedCall :=
  match p s with
  | .ok a t => (t, .leave region (next a))
  | .error message t => (t, .leave region (.returned (some message)))

/-- What is done in a region. -/
def body (x : LockSurroundings) (s : Media) : LockedRegion → Media × LockedCall
  | readAt len off =>
      match s.currentVirtualMediaState with
      -- returns from between `RLock` and `RUnlock`
      | none => (s, .outside (.readReturned 0 (some "image not mounted")))
      | some state => (s, .leave (readAt len off) (.readSource state.source len off))
  | size =>
      match s.currentVirtualMediaState with
      | none => (s, .leave size (.sizeReturned 0 (some "no virtual media state")))
      | some state => (s, .leave size (.sizeReturned state.size none))
  | rpcGetVirtualMediaState =>
      (s, .leave rpcGetVirtualMediaState (.stateReturned s.currentVirtualMediaState))
  | unmountImageLocked =>
      unmountImageLocked.finish (VirtualMedia.unmountImageLocked x.toSurroundings)
        (fun _ => .publish) s
  | checkMounted url mode =>
      (checkMounted url mode).finish checkNotMounted (fun _ => .checkUrl (trimSpace url) mode) s
  | prepareHTTPMount url mode urlSize =>
      (prepareHTTPMount url mode urlSize).finish
        (prepareHTTPMountLocked x.toSurroundings url mode urlSize) (fun _ => .newDevice) s
  | prepareStorageMount filename mode =>
      (prepareStorageMount filename mode).finish
        (VirtualMedia.prepareStorageMount x.toSurroundings filename mode) (fun _ => .publish) s
  | publishVirtualMediaState => (s, .leave publishVirtualMediaState (.returned none))

/-- What a call holds in a region. -/
def held (region : LockedRegion) : HeldLock :=
  if region.reads then ⟨1, 0⟩ else ⟨0, 1⟩

end LockedRegion

namespace Outside

/-- A step that runs a procedure goes on where `next` says, and returns the error when the
procedure fails. -/
def finish {α : Type} (p : Procedure Media α) (next : α → Outside) (s : Media) :
    Media × LockedCall :=
  match p s with
  | .ok a t => (t, .outside (next a))
  | .error message t => (t, .outside (.returned (some message)))

/-- What is done next. -/
def instruction : Outside → LockInstruction Media LockSurroundings LockedCall
  | enter region => if region.reads then .rLock (.inside region) else .lock (.inside region)
  | readSource source _ _ => .act fun x s =>
      match source with
      | .http => (s, .outside (.readReturned x.rangeRead.1 x.rangeRead.2))
      | .storage => (s, .outside (.readReturned 0 (some "unknown image source")))
  | checkUrl url mode => .act fun x s =>
      match x.checkMountUrl with
      | .error message => (s, .outside (.returned (some message)))
      | .ok urlInfo =>
          if urlInfo.usable then (s, .outside (.enter (.prepareHTTPMount url mode urlInfo.size)))
          else (s, .outside (.returned (some urlInfo.reason)))
  | newDevice => .act fun _ s => ({ s with nbdDevice := true }, .outside .startDevice)
  | startDevice => .act fun x =>
      finish (startNBDDevice x.toSurroundings) fun _ => .setImage
  | setImage => .act fun x =>
      finish (setMassStorageImage x.writeImage "/dev/nbd0") fun _ => .publish
  | mountStorage filename mode => .act fun _ s =>
      match sanitizeFilename filename with
      | .error message => (s, .outside (.returned (some message)))
      | .ok sanitized => (s, .outside (.enter (.prepareStorageMount sanitized mode)))
  | publish => .act fun x s =>
      if x.mqttConnected then (s, .outside (.enter .publishVirtualMediaState))
      else (s, .outside (.returned none))
  | readReturned .. => .halt
  | sizeReturned .. => .halt
  | stateReturned _ => .halt
  | returned _ => .halt

/-- The call has returned. -/
def Returned : Outside → Prop
  | readReturned .. => True
  | sizeReturned .. => True
  | stateReturned _ => True
  | returned _ => True
  | _ => False

/-- Where a call begins. -/
inductive Begins : Outside → Prop
  | readAt (len : Nat) (off : Int) : Begins (enter (.readAt len off))
  | size : Begins (enter .size)
  | rpcGetVirtualMediaState : Begins (enter .rpcGetVirtualMediaState)
  | rpcMountWithHTTP (url mode : String) : Begins (enter (.checkMounted url mode))
  | rpcMountWithStorage (filename mode : String) : Begins (mountStorage filename mode)
  | rpcUnmountImage : Begins (enter .unmountImageLocked)
  | publishVirtualMediaState : Begins publish

end Outside

namespace LockedCall

/-- What is done next. -/
def instruction : LockedCall → LockInstruction Media LockSurroundings LockedCall
  | outside p => p.instruction
  | inside region => .act fun x s => region.body x s
  | leave region next =>
      if region.reads then .rUnlock (.outside next) else .unlock (.outside next)

/-- The call is in the region of `ReadAt`. -/
def isReadAt : LockedCall → Bool
  | inside (.readAt ..) => true
  | _ => false

/-- What a call holds. -/
def held : LockedCall → HeldLock
  | outside _ => ⟨0, 0⟩
  | inside region => region.held
  | leave region _ => region.held

end LockedCall

variable {Thread : Type} [DecidableEq Thread]

/-- The interleavings of the calls. -/
def lockLts (Thread : Type) [DecidableEq Thread] :
    Lts (Pool (Guarded Media Thread) LockedCall Thread) (Thread × LockSurroundings) :=
  Pool.lts (LockInstruction.exec LockedCall.instruction)

/-- A call of `ReadAt` looks at what is mounted, and nothing is. -/
def ReadsUnmounted (c : Pool (Guarded Media Thread) LockedCall Thread) (i : Thread) : Prop :=
  (c.threads i).isReadAt = true ∧ c.shared.state.currentVirtualMediaState = none

instance (c : Pool (Guarded Media Thread) LockedCall Thread) (i : Thread) :
    Decidable (ReadsUnmounted c i) :=
  inferInstanceAs (Decidable (_ ∧ _))

/-- No call has begun, and nobody holds the lock. -/
structure Initial (c : Pool (Guarded Media Thread) LockedCall Thread) : Prop where
  begins : ∀ i, ∃ p, c.threads i = .outside p ∧ p.Begins
  holds : ∀ i, c.shared.mutex.holds i = ⟨0, 0⟩

/-- The calls that have returned hold nothing, and the lock can be taken for writing when no call
is in a region. -/
structure GivenBack (c : Pool (Guarded Media Thread) LockedCall Thread) : Prop where
  holds : ∀ i p, c.threads i = .outside p → p.Returned → c.shared.mutex.holds i = ⟨0, 0⟩
  free : (∀ i, ∃ p, c.threads i = .outside p) → ∀ i, (c.shared.mutex.lock i).isSome

/-! ### One step -/

section Step

variable {x : LockSurroundings} {s : Media}

theorem LockedRegion.held_finish {α : Type} {region : LockedRegion} {p : Procedure Media α}
    {next : α → Outside} :
  (region.finish p next s).2.held = region.held
  := by
  rw [LockedRegion.finish]
  split
  · rfl
  · rfl

theorem Outside.held_finish {α : Type} {p : Procedure Media α} {next : α → Outside} :
  (Outside.finish p next s).2.held = ⟨0, 0⟩
  := by
  rw [Outside.finish]
  split
  · rfl
  · rfl

/-- The lock is taken as the region says. -/
theorem LockedRegion.agrees_enter (region : LockedRegion) :
  (Outside.enter region).instruction.Agrees LockedCall.held x s (.outside (.enter region))
  := by
  rw [Outside.instruction]
  cases hreads : region.reads with
  | false =>
      change region.held = _
      rw [LockedRegion.held, hreads]
      rfl
  | true =>
      change region.held = _
      rw [LockedRegion.held, hreads]
      rfl

/-- The lock is given back as it has been taken. -/
theorem LockedRegion.agrees_leave (region : LockedRegion) (next : Outside) :
  (LockedCall.leave region next).instruction.Agrees LockedCall.held x s (.leave region next)
  := by
  rw [LockedCall.instruction]
  cases hreads : region.reads with
  | false =>
      change region.held = _
      rw [LockedRegion.held, hreads]
      rfl
  | true =>
      change region.held = _
      rw [LockedRegion.held, hreads]
      rfl

/-- Every region ends with the lock, but for a read that finds nothing mounted. -/
theorem LockedRegion.held_body (region : LockedRegion)
    (h : ¬ ((LockedCall.inside region).isReadAt = true ∧ s.currentVirtualMediaState = none)) :
  (region.body x s).2.held = region.held
  := by
  cases region with
  | readAt len off =>
      rw [LockedRegion.body]
      split
      · rename_i hnone
        exact absurd ⟨rfl, hnone⟩ h
      · rfl
  | size =>
      rw [LockedRegion.body]
      split
      · rfl
      · rfl
  | rpcGetVirtualMediaState => rfl
  | unmountImageLocked => apply held_finish
  | checkMounted url mode => apply held_finish
  | prepareHTTPMount url mode size => apply held_finish
  | prepareStorageMount filename mode => apply held_finish
  | publishVirtualMediaState => rfl

/-- Outside of the regions nothing is held. -/
theorem Outside.agrees (p : Outside) :
  p.instruction.Agrees LockedCall.held x s (.outside p)
  := by
  cases p with
  | enter region => apply LockedRegion.agrees_enter
  | readSource source len off =>
      cases source with
      | http => rfl
      | storage => rfl
  | checkUrl url mode =>
      change LockedCall.held (Prod.snd (match x.checkMountUrl with | .error _ => _ | .ok _ => _)) = _
      split
      · rfl
      · split
        · rfl
        · rfl
  | newDevice => rfl
  | startDevice => apply held_finish
  | setImage => apply held_finish
  | mountStorage filename mode =>
      change LockedCall.held (Prod.snd (match sanitizeFilename filename with
        | .error _ => _ | .ok _ => _)) = _
      split
      · rfl
      · rfl
  | publish =>
      change LockedCall.held (Prod.snd (if x.mqttConnected then _ else _)) = _
      split
      · rfl
      · rfl
  | readReturned n err => rfl
  | sizeReturned size err => rfl
  | stateReturned state => rfl
  | returned err => rfl

/-- Every instruction agrees with what the call holds, but for a read that finds nothing
mounted. -/
theorem LockedCall.agrees (call : LockedCall)
    (h : ¬ (call.isReadAt = true ∧ s.currentVirtualMediaState = none)) :
  call.instruction.Agrees LockedCall.held x s call
  := by
  cases call with
  | outside p => apply Outside.agrees
  | inside region => apply LockedRegion.held_body region h
  | leave region next => apply LockedRegion.agrees_leave

end Step

/-! ### Runs -/

section Runs

variable {c c' : Pool (Guarded Media Thread) LockedCall Thread}
  {tr : List (Lts.Transition (Pool (Guarded Media Thread) LockedCall Thread)
    (Thread × LockSurroundings))} {i : Thread}

/-- A call has returned from a read, and still holds the lock. -/
def Leaked (c : Pool (Guarded Media Thread) LockedCall Thread) (i : Thread) : Prop :=
  (∃ n err, c.threads i = .outside (.readReturned n err)) ∧ c.shared.mutex.holds i = ⟨1, 0⟩

/-- A call holds what it is said to hold. -/
def HoldsHeld (c : Pool (Guarded Media Thread) LockedCall Thread) (i : Thread) : Prop :=
  c.shared.mutex.holds i = (c.threads i).held

/-- A call that has returned takes no step. -/
theorem Leaked.ne {a : Thread × LockSurroundings} (h : Leaked c i)
    (step : (lockLts Thread).step c a c') :
  i ≠ a.1
  := by
  rintro rfl
  obtain ⟨⟨n, err, hthread⟩, -⟩ := h
  obtain ⟨g, call, hexec, -⟩ := Pool.lts_step.mp step
  rw [hthread] at hexec
  cases hexec

/-- The lock is not given back afterwards. -/
theorem Leaked.step {a : Thread × LockSurroundings} (h : Leaked c i)
    (step : (lockLts Thread).step c a c') :
  Leaked c' i
  := by
  have hne := h.ne step
  obtain ⟨g, call, hexec, rfl⟩ := Pool.lts_step.mp step
  rw [Leaked, LockInstruction.holds_exec_of_ne hexec hne]
  dsimp only
  rw [Function.update_of_ne hne]
  apply h

/-- A step changes neither what the other calls hold nor where they are. -/
theorem HoldsHeld.step_of_ne {a : Thread × LockSurroundings} (h : HoldsHeld c i) (hne : i ≠ a.1)
    (step : (lockLts Thread).step c a c') :
  HoldsHeld c' i
  := by
  obtain ⟨g, call, hexec, rfl⟩ := Pool.lts_step.mp step
  rw [HoldsHeld, LockInstruction.holds_exec_of_ne hexec hne]
  dsimp only
  rw [Function.update_of_ne hne]
  apply h

theorem HoldsHeld.step_self {a : Thread × LockSurroundings} (h : HoldsHeld c a.1)
    (hreads : ¬ ReadsUnmounted c a.1) (step : (lockLts Thread).step c a c') :
  HoldsHeld c' a.1
  := by
  obtain ⟨g, call, hexec, rfl⟩ := Pool.lts_step.mp step
  rw [HoldsHeld]
  dsimp only
  rw [Function.update_self]
  exact LockInstruction.holds_exec hexec h (LockedCall.agrees _ hreads)

/-- A read that finds nothing mounted keeps the lock. -/
theorem HoldsHeld.leaks {a : Thread × LockSurroundings} (h : HoldsHeld c a.1)
    (hreads : ReadsUnmounted c a.1) (step : (lockLts Thread).step c a c') :
  Leaked c' a.1
  := by
  obtain ⟨hlooks, hnone⟩ := hreads
  obtain ⟨g, call, hexec, rfl⟩ := Pool.lts_step.mp step
  obtain ⟨len, off, hthread⟩ : ∃ len off, c.threads a.1 = .inside (.readAt len off) := by
    cases hcall : c.threads a.1 with
    | outside p =>
        rw [hcall] at hlooks
        cases hlooks
    | inside region =>
        rw [hcall] at hlooks
        cases region with
        | readAt len off => exact ⟨len, off, rfl⟩
        | _ => cases hlooks
    | leave region next =>
        rw [hcall] at hlooks
        cases hlooks
  have hbody : (LockedRegion.readAt len off).body a.2 c.shared.state =
      (c.shared.state, .outside (.readReturned 0 (some "image not mounted"))) := by
    unfold LockedRegion.body
    rw [hnone]
  rw [HoldsHeld, hthread] at h
  rw [hthread] at hexec
  obtain ⟨rfl, rfl⟩ := Prod.mk.inj (Option.some.inj hexec)
  rw [Leaked]
  dsimp only
  rw [hbody, Function.update_self]
  exact ⟨⟨0, _, rfl⟩, h⟩

theorem holdsHeld_or_leaked (initial : Initial c) (run : (lockLts Thread).Run c tr c') :
  ∀ i, HoldsHeld c' i ∨ Leaked c' i
  := by
  apply run.invariant (I := fun c => ∀ i, HoldsHeld c i ∨ Leaked c i)
  · intro i
    obtain ⟨p, hp, -⟩ := initial.begins i
    apply Or.inl
    rw [HoldsHeld, initial.holds, hp]
    rfl
  · intro e _ hbefore step i
    obtain hheld | hleaked := hbefore i
    · by_cases hne : i = e.action.1
      · subst hne
        by_cases hreads : ReadsUnmounted e.before e.action.1
        · exact .inr (hheld.leaks hreads step)
        · exact .inl (hheld.step_self hreads step)
      · exact .inl (hheld.step_of_ne hne step)
    · exact .inr (hleaked.step step)

/-- A call that reads when nothing is mounted holds the lock for ever. -/
theorem leaked_of_readsUnmounted (initial : Initial c) (run : (lockLts Thread).Run c tr c')
    {e : Lts.Transition (Pool (Guarded Media Thread) LockedCall Thread)
      (Thread × LockSurroundings)} (he : e ∈ tr)
    (hreads : ReadsUnmounted e.before e.action.1) :
  Leaked c' e.action.1
  := by
  obtain ⟨front, back, rfl⟩ := List.append_of_mem he
  obtain ⟨t, hfront, hback⟩ := Lts.run_append run
  obtain ⟨rfl, hstep, hback⟩ := Lts.run_cons hback
  obtain hheld | hleaked := holdsHeld_or_leaked initial hfront e.action.1
  · apply hback.invariant (I := fun c => Leaked c e.action.1) (hheld.leaks hreads hstep)
    intro e' _ hbefore step
    apply hbefore.step step
  · exact absurd rfl (hleaked.ne hstep)

/-- While no read finds that nothing is mounted, every call holds what it is said to hold. -/
theorem holdsHeld (initial : Initial c) (run : (lockLts Thread).Run c tr c')
    (h : ∀ e ∈ tr, ¬ ReadsUnmounted e.before e.action.1) :
  ∀ i, HoldsHeld c' i
  := by
  apply run.invariant (I := fun c => ∀ i, HoldsHeld c i)
  · intro i
    obtain ⟨p, hp, -⟩ := initial.begins i
    rw [HoldsHeld, initial.holds, hp]
    rfl
  · intro e he hbefore step i
    by_cases hne : i = e.action.1
    · subst hne
      exact (hbefore _).step_self (h e he) step
    · exact (hbefore i).step_of_ne hne step

/-- In every interleaving of the calls the lock is given back exactly when no read finds that
nothing is mounted. -/
theorem givenBack_iff (initial : Initial c) (run : (lockLts Thread).Run c tr c') :
  GivenBack c' ↔ ∀ e ∈ tr, ¬ ReadsUnmounted e.before e.action.1
  := by
  constructor
  · intro h e he hreads
    obtain ⟨⟨n, err, hthread⟩, hholds⟩ := leaked_of_readsUnmounted initial run he hreads
    rw [h.holds _ _ hthread trivial] at hholds
    cases hholds
  · intro h
    have hheld := holdsHeld initial run h
    constructor
    · intro i p hp _
      rw [hheld i, hp]
      rfl
    · intro houtside
      apply RWMutex.lock_of_holds_nothing
      intro j
      obtain ⟨p, hp⟩ := houtside j
      rw [hheld j, hp]
      rfl

/-- After a read that finds nothing mounted, no call takes the lock for writing any more. -/
theorem never_locked (initial : Initial c) (run : (lockLts Thread).Run c tr c')
    {e : Lts.Transition (Pool (Guarded Media Thread) LockedCall Thread)
      (Thread × LockSurroundings)} (he : e ∈ tr)
    (hreads : ReadsUnmounted e.before e.action.1) (i : Thread) :
  c'.shared.mutex.lock i = none
  := by
  obtain ⟨-, hholds⟩ := leaked_of_readsUnmounted initial run he hreads
  apply RWMutex.lock_of_reads (j := e.action.1)
  rw [hholds]
  exact Nat.zero_lt_one

end Runs

/-! ### Examples -/

/-- What the steps of the examples meet. -/
def exampleLockSurroundings : LockSurroundings where
  toSurroundings := exampleSurroundings true
  rangeRead := (512, none)
  mqttConnected := true

/-- One call reads from the image, the other unmounts it. -/
def exampleLockPool : Pool (Guarded Media Bool) LockedCall Bool where
  shared :=
    { state :=
        { currentVirtualMediaState := some
            { source := .http, mode := modeCDROM, url := "http://localhost/image", size := 1024 }
          nbdDevice := true
          httpRangeReader := some "http://localhost/image"
          massStorageImage := "/dev/nbd0"
          massStorageCdrom := "1" }
      mutex := { readers := [], writer := none } }
  threads reads := .outside (.enter (if reads then .readAt 512 0 else .unmountImageLocked))

theorem exampleLockPool_initial :
  Initial exampleLockPool
  where
    begins reads := by
      cases reads with
      | false => exact ⟨_, rfl, .rpcUnmountImage⟩
      | true => exact ⟨_, rfl, .readAt 512 0⟩
    holds _ := rfl

/-- The steps of the pool. -/
def exampleLockStep (c : Pool (Guarded Media Bool) LockedCall Bool)
    (a : Bool × LockSurroundings) : Option (Pool (Guarded Media Bool) LockedCall Bool) :=
  Pool.advance (LockInstruction.exec LockedCall.instruction) c a

/-- The image is read, and unmounted afterwards. -/
theorem givenBack_after_reading :
  ∃ tr c', (lockLts Bool).Run exampleLockPool tr c' ∧
    c'.threads true = .outside (.readReturned 512 none) ∧
    c'.threads false = .outside (.returned none) ∧ GivenBack c'
  := by
  obtain ⟨tr, c', run, -, h, hreturned⟩ := Lts.exists_run_of_restrict exampleLockStep
    (fun c a => ¬ ReadsUnmounted c a.1) exampleLockPool
    (List.replicate 4 (true, exampleLockSurroundings) ++
      List.replicate 7 (false, exampleLockSurroundings))
    (fun c => decide (c.threads true = .outside (.readReturned 512 none) ∧
      c.threads false = .outside (.returned none))) (by decide : _ = some true)
  obtain ⟨hread, hunmounted⟩ := of_decide_eq_true hreturned
  exact ⟨tr, c', run, hread, hunmounted, (givenBack_iff exampleLockPool_initial run).mpr h⟩

/-- The image is unmounted, and read afterwards. The read has returned, and holds the lock. -/
theorem lock_kept_after_unmounting :
  ¬ ∀ (c c' : Pool (Guarded Media Bool) LockedCall Bool) tr, Initial c →
    (lockLts Bool).Run c tr c' → GivenBack c'
  := by
  intro claim
  obtain ⟨tr, c', run, -, hobserve⟩ := Lts.exists_run_of_observe exampleLockStep exampleLockPool
    (List.replicate 7 (false, exampleLockSurroundings) ++
      List.replicate 2 (true, exampleLockSurroundings))
    (fun c => decide (c.threads true = .outside (.readReturned 0 (some "image not mounted")) ∧
      c.shared.mutex.holds true = ⟨1, 0⟩)) (by decide : _ = some true)
  obtain ⟨hreturned, hholds⟩ := of_decide_eq_true hobserve
  rw [(claim _ _ _ exampleLockPool_initial run).holds true _ hreturned trivial] at hholds
  cases hholds

end JetKvm.VirtualMedia
