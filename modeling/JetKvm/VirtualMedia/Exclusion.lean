import JetKvm.VirtualMedia.Mount

/-!
# Exclusion of mounts

Each step of a call leaves what is mounted as it is, mounts something when nothing is
mounted, or unmounts. A mount over HTTP publishes its state before the network block device
is started and handed to the gadget, and does not take it back when one of these fails.
-/

namespace JetKvm.VirtualMedia

open Procedure

variable {surr : Surroundings} {s s' : Media} {call call' : MediaCall}
  {current : Option VirtualMediaState}

/-- What is mounted is `current`. -/
abbrev Mounted (current : Option VirtualMediaState) (s : Media) : Prop :=
  s.currentVirtualMediaState = current

/-! ### The locked regions -/

theorem setMassStorageImage_keeps {write : FileWrite} {imagePath : String} :
  (setMassStorageImage write imagePath).Keeps (Mounted current)
  := by
  apply keeps_failOn.bind
  intro _
  apply keeps_modify
  intro _ h
  apply h

theorem setMassStorageMode_keeps {cdrom : Bool} :
  (setMassStorageMode surr cdrom).Keeps (Mounted current)
  := by
  apply keeps_failOn.bind
  intro _
  apply keeps_get.bind
  intro _
  apply Keeps.runWhen
  apply Keeps.bind
  · apply keeps_modify
    intro _ h
    apply h
  · intro _
    apply keeps_failOn.bind
    intro _
    apply Keeps.runWhen keeps_failOn

theorem ejectImage_keeps : (ejectImage surr).Keeps (Mounted current)
  := by
  rw [ejectImage]
  split
  · apply (Keeps.describe keeps_failOn).bind
    intro _
    apply Keeps.describe setMassStorageImage_keeps
  · apply Keeps.describe setMassStorageImage_keeps

/-- Unmounting leaves nothing mounted, or fails and changes nothing. -/
theorem unmountImageLocked_ends :
  (unmountImageLocked surr).Ends s (fun _ => Mounted none)
    (fun _ => Mounted s.currentVirtualMediaState)
  := by
  rw [unmountImageLocked, ends_bind]
  apply Ends.mono (ejectImage_keeps s rfl)
  · intro _ _ _
    rw [ends_modify]
  · intro _ _ h
    apply h

theorem checkNotMounted_keeps : checkNotMounted.Keeps (Mounted current)
  := by
  apply keeps_get.bind
  intro _ _ h
  rw [Leaves, ends_failWhen]
  exact ⟨fun _ => h, fun _ => h⟩

/-- A step of a mount that is taken when nothing is mounted. -/
theorem checkNotMounted_bind_ends {α : Type} {p : Unit → Procedure Media α}
    {Q : α → Media → Prop}
    (h : s.currentVirtualMediaState = none → (p ()).Ends s Q fun _ => Mounted none) :
  (checkNotMounted >>= p).Ends s
    (fun a t => s.currentVirtualMediaState = none ∧ Q a t)
    (fun _ => Mounted s.currentVirtualMediaState)
  := by
  rw [ends_bind, checkNotMounted, ends_bind, ends_get, ends_failWhen]
  use fun _ => rfl
  intro hnone
  have hnone : s.currentVirtualMediaState = none := Option.not_isSome_iff_eq_none.mp hnone
  rw [hnone]
  apply (h hnone).mono
  · intro a t hQ
    exact ⟨rfl, hQ⟩
  · intro _ _ ht
    apply ht

/-- Preparing a mount over HTTP mounts the state it returns, when nothing is mounted, or
fails and changes nothing. -/
theorem prepareHTTPMountLocked_ends {url mode : String} {size : Int} :
  (prepareHTTPMountLocked surr url mode size).Ends s
    (fun state t => s.currentVirtualMediaState = none ∧ Mounted (some state) t)
    (fun _ => Mounted s.currentVirtualMediaState)
  := by
  apply checkNotMounted_bind_ends
  intro hnone
  rw [ends_bind, ends_modify, ends_bind]
  apply Ends.mono (setMassStorageMode_keeps.describe { s with httpRangeReader := some url } hnone)
  · intro _ _ _
    rw [ends_bind, ends_modify, ends_pure]
  · intro _ _ h
    apply h

/-- Mounting an image of the storage does so when nothing is mounted, or fails and changes
nothing. -/
theorem prepareStorageMount_ends {filename mode : String} :
  (prepareStorageMount surr filename mode).Ends s
    (fun _ t => s.currentVirtualMediaState = none ∧ ∃ state, Mounted (some state) t)
    (fun _ => Mounted s.currentVirtualMediaState)
  := by
  apply checkNotMounted_bind_ends
  intro hnone
  rw [ends_bind, ends_describe, ends_ofExcept]
  constructor
  · intro size _
    rw [ends_bind]
    apply Ends.mono (setMassStorageMode_keeps.describe s hnone)
    · intro _ t ht
      rw [ends_bind]
      apply Ends.mono (setMassStorageImage_keeps.describe t ht)
      · intro _ u hu
        rw [ends_modify]
        exact ⟨_, rfl⟩
      · intro _ _ h
        apply h
    · intro _ _ h
      apply h
  · intro _ _
    apply hnone

/-- There is a network block device, and it starts. -/
def NbdStarts (surr : Surroundings) (s : Media) : Prop :=
  surr.nbdExists = true ∧ s.nbdDevice = true ∧ surr.nbdStart = none

instance : Decidable (NbdStarts surr s) :=
  inferInstanceAs (Decidable (_ ∧ _ ∧ _))

/-- Starting the device changes nothing, and fails only when the device does not start. -/
theorem startNBDDevice_ends :
  (startNBDDevice surr).Ends s (fun _ => Mounted s.currentVirtualMediaState)
    (fun _ t => Mounted s.currentVirtualMediaState t ∧ ¬ NbdStarts surr s)
  := by
  rw [startNBDDevice, ends_bind, ends_failWhen]
  constructor
  · intro hexists
    simp [NbdStarts, hexists]
  · intro _
    rw [ends_bind, ends_get, ends_bind, ends_failWhen, ends_failOn]
    constructor
    · intro hdevice
      simp [NbdStarts, hdevice]
    · intro _
      use fun _ => rfl
      intro message hstart
      simp [NbdStarts, hstart]

/-- Handing an image to the gadget changes nothing, and fails only when the write fails. -/
theorem setMassStorageImage_ends {write : FileWrite} {imagePath : String} :
  (setMassStorageImage write imagePath).Ends s (fun _ => Mounted s.currentVirtualMediaState)
    (fun _ t => Mounted s.currentVirtualMediaState t ∧ write.error ≠ none)
  := by
  rw [setMassStorageImage, ends_bind, ends_failOn]
  use fun _ => rfl
  intro message hwrite
  simp [hwrite]

/-! ### Steps -/

/-- The call has published what is mounted, or has returned without an error. -/
def Owns : MediaCall → Option VirtualMediaState → Prop
  | .newDevice published, current => current = some published
  | .startDevice published, current => current = some published
  | .setImage published, current => current = some published
  | .mountReturned none, _ => True
  | .unmountReturned _, _ => True
  | _, _ => False

/-- The step does not fail after the call has published a state that is still mounted: the
network block device starts, and it can be handed to the gadget. -/
def KeepsPublished (surr : Surroundings) (s : Media) : MediaCall → Prop
  | .startDevice published =>
      s.currentVirtualMediaState = some published → NbdStarts surr s
  | .setImage published =>
      s.currentVirtualMediaState = some published → surr.writeImage.error = none
  | _ => True

instance : Decidable (KeepsPublished surr s call) :=
  match call with
  | .startDevice _ => inferInstanceAs (Decidable (_ → _))
  | .setImage _ => inferInstanceAs (Decidable (_ → _))
  | .checkMounted .. | .checkUrl .. | .prepareHTTP .. | .newDevice .. | .mountStorage ..
  | .prepareStorage .. | .unmount | .mountReturned _ | .unmountReturned _ => .isTrue trivial

/-- What a step from `s` by `call` may lead to. -/
structure StepTo (surr : Surroundings) (s : Media) (call : MediaCall) (s' : Media)
    (call' : MediaCall) : Prop where
  exclusive : s'.currentVirtualMediaState = s.currentVirtualMediaState ∨
    s'.currentVirtualMediaState = none ∨ s.currentVirtualMediaState = none
  owned : KeepsPublished surr s call →
    s'.currentVirtualMediaState = s.currentVirtualMediaState ∧
        (Owns call s.currentVirtualMediaState → Owns call' s'.currentVirtualMediaState) ∨
      Owns call' s'.currentVirtualMediaState

/-- A step that changes nothing. -/
theorem StepTo.unchanged (h : Mounted s.currentVirtualMediaState s')
    (owned : KeepsPublished surr s call → Owns call s.currentVirtualMediaState →
      Owns call' s.currentVirtualMediaState) :
  StepTo surr s call s' call'
  := by
  constructor
  · left
    apply h
  · intro kept
    left
    rw [h]
    exact ⟨rfl, owned kept⟩

/-- A step that mounts something when nothing is mounted, or unmounts. -/
theorem StepTo.owns (h : s'.currentVirtualMediaState = none ∨ s.currentVirtualMediaState = none)
    (owned : Owns call' s'.currentVirtualMediaState) :
  StepTo surr s call s' call'
  := ⟨Or.inr h, fun _ => Or.inr owned⟩

/-- What a procedure ends with holds after the step that runs it. -/
theorem proceed_of_ends {α : Type} {p : Procedure Media α} {next : α → MediaCall}
    {failed : Option String → MediaCall} {Q : α → Media → Prop} {R : String → Media → Prop}
    {P : Media → MediaCall → Prop} (h : p.Ends s Q R) (value : ∀ a t, Q a t → P t (next a))
    (error : ∀ message t, R message t → P t (failed (some message))) :
  P (proceed p next failed s).1 (proceed p next failed s).2
  := by
  rw [Ends] at h
  rw [proceed]
  split
  · rename_i hp
    rw [hp] at h
    apply value _ _ h
  · rename_i hp
    rw [hp] at h
    apply error _ _ h

theorem MediaCall.exec_stepTo {next : Media × MediaCall} (h : call.exec surr s = some next) :
  StepTo surr s call next.1 next.2
  := by
  cases call with
  | checkMounted url mode =>
      obtain rfl := Option.some.inj h
      apply proceed_of_ends (checkNotMounted_keeps s rfl)
      · intro _ t ht
        exact StepTo.unchanged ht fun _ => False.elim
      · intro _ t ht
        exact StepTo.unchanged ht fun _ => False.elim
  | checkUrl url mode =>
      rw [MediaCall.exec] at h
      split at h
      · obtain rfl := Option.some.inj h
        exact StepTo.unchanged rfl fun _ => False.elim
      · split at h
        · obtain rfl := Option.some.inj h
          exact StepTo.unchanged rfl fun _ => False.elim
        · obtain rfl := Option.some.inj h
          exact StepTo.unchanged rfl fun _ => False.elim
  | prepareHTTP url mode size =>
      obtain rfl := Option.some.inj h
      apply proceed_of_ends prepareHTTPMountLocked_ends
      · rintro state t ⟨hnone, ht⟩
        exact StepTo.owns (Or.inr hnone) ht
      · intro _ _ ht
        exact StepTo.unchanged ht fun _ => False.elim
  | newDevice published =>
      obtain rfl := Option.some.inj h
      exact StepTo.unchanged rfl fun _ howns => howns
  | startDevice published =>
      obtain rfl := Option.some.inj h
      apply proceed_of_ends startNBDDevice_ends
      · intro _ t ht
        exact StepTo.unchanged ht fun _ howns => howns
      · rintro _ t ⟨ht, hfails⟩
        apply StepTo.unchanged ht
        intro kept howns
        exact absurd (kept howns) hfails
  | setImage published =>
      obtain rfl := Option.some.inj h
      apply proceed_of_ends setMassStorageImage_ends
      · intro _ t ht
        exact StepTo.unchanged ht fun _ _ => trivial
      · rintro _ t ⟨ht, hfails⟩
        apply StepTo.unchanged ht
        intro kept howns
        exact absurd (kept howns) hfails
  | mountStorage filename mode =>
      rw [MediaCall.exec] at h
      split at h
      · obtain rfl := Option.some.inj h
        exact StepTo.unchanged rfl fun _ => False.elim
      · obtain rfl := Option.some.inj h
        exact StepTo.unchanged rfl fun _ => False.elim
  | prepareStorage filename mode =>
      obtain rfl := Option.some.inj h
      apply proceed_of_ends prepareStorageMount_ends
      · rintro _ t ⟨hnone, -⟩
        exact StepTo.owns (Or.inr hnone) trivial
      · intro _ _ ht
        exact StepTo.unchanged ht fun _ => False.elim
  | unmount =>
      obtain rfl := Option.some.inj h
      apply proceed_of_ends unmountImageLocked_ends
      · intro _ t ht
        exact StepTo.owns (Or.inl ht) trivial
      · intro _ _ ht
        exact StepTo.unchanged ht fun _ => False.elim
  | mountReturned _ => cases h
  | unmountReturned _ => cases h

/-! ### Runs -/

section Runs

variable {Thread : Type} [DecidableEq Thread] {c c' : Pool Media MediaCall Thread}
  {tr : List (Lts.Transition (Pool Media MediaCall Thread) (Thread × Surroundings))} {i : Thread}

/-- What is mounted changes only from nothing or to nothing. -/
def Exclusive
    (tr : List (Lts.Transition (Pool Media MediaCall Thread) (Thread × Surroundings))) : Prop :=
  ∀ e ∈ tr, e.after.shared.currentVirtualMediaState = e.before.shared.currentVirtualMediaState ∨
    e.after.shared.currentVirtualMediaState = none ∨
    e.before.shared.currentVirtualMediaState = none

/-- After a mount call has returned an error, what is mounted is what the other calls have
made of it. -/
def AtomicOnError (c : Pool Media MediaCall Thread)
    (tr : List (Lts.Transition (Pool Media MediaCall Thread) (Thread × Surroundings)))
    (c' : Pool Media MediaCall Thread) : Prop :=
  ∀ i err, c'.threads i = .mountReturned (some err) →
    c'.shared.currentVirtualMediaState =
      Pool.othersValue Media.currentVirtualMediaState i c.shared.currentVirtualMediaState tr

/-- A step of a run is a step of one call. -/
theorem stepTo_of_mem (run : (mediaLts Thread).Run c tr c')
    {e : Lts.Transition (Pool Media MediaCall Thread) (Thread × Surroundings)} (he : e ∈ tr) :
  StepTo e.action.2 e.before.shared (e.before.threads e.action.1) e.after.shared
    (e.after.threads e.action.1)
  := by
  obtain ⟨s, call, hexec, hafter⟩ := Pool.lts_step.mp (run.step_of_mem he)
  rw [hafter]
  dsimp only
  rw [Function.update_self]
  apply MediaCall.exec_stepTo hexec

theorem exclusive (run : (mediaLts Thread).Run c tr c') : Exclusive tr
  := fun _ he => (stepTo_of_mem run he).exclusive

/-- Mounts are exclusive, and leave nothing behind when they fail. -/
theorem exclusive_and_atomic (run : (mediaLts Thread).Run c tr c')
    (kept : ∀ e ∈ tr,
      KeepsPublished e.action.2 e.before.shared (e.before.threads e.action.1)) :
  Exclusive tr ∧ AtomicOnError c tr c'
  := by
  use exclusive run
  intro i err hreturned
  apply Or.resolve_left (Pool.eq_othersValue Owns run _)
  · rw [hreturned]
    exact id
  · rintro e he rfl
    apply (stepTo_of_mem run he).owned (kept e he)

end Runs

/-! ### Examples -/

/-- Everything succeeds, provided that there is the file of the network block device. -/
def exampleSurroundings (nbdExists : Bool) : Surroundings where
  checkMountUrl := .ok { usable := true, size := 1024 }
  stat := .ok 1024
  overrideGadgetConfig := none
  updateGadgetConfig := none
  openKeyboardHidFile := none
  rebindUsb := none
  writeImage := .written
  rewriteImage := .written
  nbdExists := nbdExists
  nbdStart := none

/-- One call mounts an image over HTTP, the other unmounts. Nothing is mounted. -/
def examplePool : Pool Media MediaCall Bool where
  shared :=
    { currentVirtualMediaState := none
      nbdDevice := false
      httpRangeReader := none
      massStorageImage := ""
      massStorageCdrom := "0" }
  threads mounts := if mounts then .checkMounted "http://localhost/image" modeCDROM else .unmount

/-- The steps of the pool. -/
def exampleStep (c : Pool Media MediaCall Bool) (a : Bool × Surroundings) :
    Option (Pool Media MediaCall Bool) :=
  Pool.advance (fun _ surr s call => call.exec surr s) c a

/-- The message of the failed mount. -/
def exampleReturned : MediaCall :=
  .mountReturned (some "NBD device does not exist")

/-- The device fails to start after the image has been unmounted. -/
theorem exclusive_and_atomic_unmounted :
  ∃ tr c', (mediaLts Bool).Run examplePool tr c' ∧ c'.threads true = exampleReturned ∧
    Exclusive tr ∧ AtomicOnError examplePool tr c'
  := by
  obtain ⟨tr, c', run, -, kept, hreturned⟩ := Lts.exists_run_of_restrict exampleStep
    (fun c a => KeepsPublished a.2 c.shared (c.threads a.1)) examplePool
    [(true, exampleSurroundings true), (true, exampleSurroundings true),
      (true, exampleSurroundings true), (true, exampleSurroundings true),
      (false, exampleSurroundings true), (true, exampleSurroundings false)]
    (fun c => decide (c.threads true = exampleReturned)) (by decide : _ = some true)
  exact ⟨tr, c', run, of_decide_eq_true hreturned, exclusive_and_atomic run kept⟩

/-- The device fails to start, and what the call has published stays mounted although the call
returns an error and no other call has taken a step. -/
theorem failed_mount_stays :
  ¬ ∀ (c c' : Pool Media MediaCall Bool) tr, (∀ i, (c.threads i).Begins) →
    (mediaLts Bool).Run c tr c' → Exclusive tr ∧ AtomicOnError c tr c'
  := by
  intro claim
  have begins : ∀ i, (examplePool.threads i).Begins := by
    intro i
    cases i with
    | false => exact .rpcUnmountImage
    | true => exact .rpcMountWithHTTP _ _
  obtain ⟨tr, c', run, hactions, hobserve⟩ := Lts.exists_run_of_observe exampleStep examplePool
    [(true, exampleSurroundings true), (true, exampleSurroundings true),
      (true, exampleSurroundings true), (true, exampleSurroundings true),
      (true, exampleSurroundings false)]
    (fun c => decide (c.threads true = exampleReturned ∧
      c.shared.currentVirtualMediaState ≠ none)) (by decide : _ = some true)
  obtain ⟨hreturned, hmounted⟩ := of_decide_eq_true hobserve
  have hothers := (claim _ _ _ begins run).2 true _ hreturned
  rw [Pool.othersValue_of_forall
    (Lts.forall_action (fun a => a.1 = true) hactions (by simp))] at hothers
  exact hmounted hothers

end JetKvm.VirtualMedia
