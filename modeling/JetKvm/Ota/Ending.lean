import JetKvm.Ota.Update

/-!
# How an update ends

An update that is not refused ends in one of three ways: it has updated what was pending, and is
still said to be updating; there was nothing to update; or it has failed and has recorded an error,
which the next update does not clear.
-/

namespace JetKvm.Ota

open Procedure

/-- What the update state tells the outside about the update, whatever it tells of the
components. -/
structure RPCState where
  Updating : Bool
  Error : String
deriving DecidableEq, Repr

/-- What the browser is told of an update. -/
def State.ToRPCState {Entity : Type} (s : State Entity) : RPCState where
  Updating := s.updating
  Error := s.error

/-- How an update ends. -/
inductive Ending where
  | updated
  | noUpdates
  | failed (text message : String)
deriving DecidableEq, Repr

namespace Ending

/-- Whether the state is said to be updating after the update. -/
def updating : Ending → Bool
  | updated => true
  | noUpdates => false
  | failed _ _ => false

/-- The error after the update. -/
def error (previous : String) : Ending → String
  | updated => previous
  | noUpdates => previous
  | failed text message => text ++ ": " ++ message

/-- What the state tells after the update. -/
def result (ending : Ending) (previous : RPCState) : RPCState where
  Updating := ending.updating
  Error := ending.error previous.Error

/-- What a failed update records is not the empty error. -/
theorem error_failed_ne (previous text message : String) :
  (failed text message).error previous ≠ ""
  := by
  intro h
  have hlength := congrArg String.length h
  simp [error] at hlength

end Ending

variable {Version Entity Value : Type} {lib : Libraries Version Entity}
  {surr : Surroundings Version} {params : UpdateParams} {d : Device Entity} {c : Component}
  {csurr : ComponentSurroundings} {p : Update Entity Value} {text previous : String}

/-- An update goes on, and has recorded no error. -/
def GoesOn (previous : String) (d : Device Entity) : Prop :=
  d.state.updating = true ∧ d.state.error = previous

/-- The update has ended as `ending` says. -/
def EndsAs (previous : String) (ending : Ending) (d : Device Entity) : Prop :=
  d.state.updating = ending.updating ∧ d.state.error = ending.error previous

/-- The update has failed. -/
def Failed (previous : String) (d : Device Entity) : Prop :=
  ∃ text message, EndsAs previous (.failed text message) d

/-- The procedure goes on with the update, or fails it. -/
def Proceeding (previous : String) (p : Update Entity Value) : Prop :=
  ∀ d, GoesOn previous d → p.Ends d (fun _ => GoesOn previous) fun _ => Failed previous

/-- One part goes on where the other has ended. -/
theorem Proceeding.bind {Result : Type} {f : Value → Update Entity Result}
    (first : Proceeding previous p) (second : ∀ a, Proceeding previous (f a)) :
  Proceeding previous (p >>= f)
  := by
  intro d h
  rw [ends_bind]
  apply Ends.mono (first d h)
  · intro a t ht
    apply second a t ht
  · intro _ _ ht
    apply ht

/-- A part may be left out. -/
theorem Proceeding.runWhen {p : Update Entity Unit} {condition : Prop} [Decidable condition]
    (h : Proceeding previous p) :
  Proceeding previous (runWhen condition p)
  := by
  intro d hd
  rw [ends_runWhen]
  constructor
  · intro _
    apply h d hd
  · intro _
    apply hd

/-- Whatever fails, the error is recorded. -/
theorem Proceeding.orUpdateError
    (h : ∀ d, GoesOn previous d → p.Ends d (fun _ => GoesOn previous) fun _ _ => True) :
  Proceeding previous (orUpdateError text p)
  := by
  intro d hd
  rw [Ota.orUpdateError, ends_tryCatch]
  apply Ends.mono (h d hd)
  · intro _ _ ht
    apply ht
  · intro message t _
    exact ⟨text, message, rfl, rfl⟩

/-- A part that keeps the update going may fail, and its error is recorded. -/
theorem Proceeding.orUpdateError_of_keeps (h : p.Keeps (GoesOn previous)) :
  Proceeding previous (Ota.orUpdateError text p)
  := by
  apply Proceeding.orUpdateError
  intro d hd
  apply Ends.mono (h d hd)
  · intro _ _ ht
    apply ht
  · intro _ _ _
    trivial

/-- A change that leaves the error and whether an update is running goes on. -/
theorem Proceeding.modifyState {f : State Entity → State Entity}
    (h : ∀ s, (f s).updating = s.updating ∧ (f s).error = s.error) :
  Proceeding previous (modifyState f)
  := by
  intro d hd
  apply ends_modify.mpr
  rw [GoesOn, (h d.state).1, (h d.state).2]
  apply hd

/-- An event changes nothing. -/
theorem Proceeding.emit {e : Event Entity} :
  Proceeding previous (emit e)
  := fun _ h => h

/-! ### Downloads and verification do not touch the state -/

/-- What is said depends on the update state alone, and not on its verifier. -/
def Insensitive (I : Device Entity → Prop) : Prop :=
  ∀ d t, t.state = { d.state with gpgVerifier := t.state.gpgVerifier } → I d → I t

/-- Whether an update goes on is seen in the state alone, and not in the files. -/
theorem insensitive_goesOn :
  Insensitive (GoesOn previous : Device Entity → Prop)
  := by
  intro d t h hd
  rw [GoesOn, h]
  exact hd

/-- A check changes nothing. -/
theorem keeps_failWhen {State : Type} {I : State → Prop} {condition : Prop}
    [Decidable condition] {message : String} :
  (failWhen condition message).Keeps I
  := fun _ h => ends_failWhen.mpr ⟨fun _ => h, fun _ => h⟩

/-- A result that is passed on changes nothing. -/
theorem keeps_ofExcept {State Value : Type} {I : State → Prop} {x : Except String Value} :
  (MonadExcept.ofExcept x : Procedure State Value).Keeps I
  := fun _ h => ends_ofExcept.mpr ⟨fun _ _ => h, fun _ _ => h⟩

section

variable {I : Device Entity → Prop}

/-- A signature is downloaded without a change of the state. -/
theorem downloadSignature_keeps {url : String} :
  (downloadSignature csurr url : Update Entity _).Keeps I
  := by
  rw [downloadSignature]
  split
  · intro d hd
    apply hd
  · intro d hd
    apply hd
  · apply keeps_failWhen.bind
    intro _
    apply keeps_failOn.bind
    intro _
    apply keeps_failWhen.bind
    intro _ d hd
    apply hd

/-- So is that of a component. -/
theorem downloadComponentSignature_keeps {update : ComponentUpdateStatus} {bypass : Bool} :
  (downloadComponentSignature csurr update bypass : Update Entity _).Keeps I
  := by
  rw [downloadComponentSignature]
  split
  · intro d hd
    apply hd
  · apply keeps_failWhen.bind
    intro _
    apply downloadSignature_keeps

/-- The files are flushed without a change of the state. -/
theorem syncFilesystem_keeps :
  (syncFilesystem csurr : Update Entity Unit).Keeps I
  := by
  apply keeps_failOn.bind
  intro _
  apply keeps_failOn

/-- The unverified file is opened without one. -/
theorem openUnverified_keeps {failure : Option String} :
  (openUnverified c text failure : Update Entity _).Keeps I
  := by
  apply keeps_failOn.bind
  intro _
  apply keeps_get.bind
  intro d
  cases (d.files c).unverified with
  | some contents =>
      intro d hd
      apply hd
  | none =>
      intro d hd
      apply hd

variable (insensitive : Insensitive I)

include insensitive

/-- The files are no part of the state. -/
theorem keeps_modifyFiles {f : UpdateFiles → UpdateFiles} :
  (modifyFiles c f : Update Entity Unit).Keeps I
  := keeps_modify fun d h => insensitive d _ rfl h

/-- Neither are the events. -/
theorem keeps_emit {e : Event Entity} :
  (emit e).Keeps I
  := keeps_modify fun d h => insensitive d _ rfl h

/-- A file is downloaded without a change of the state. -/
theorem downloadFile_keeps {url : String} :
  (downloadFile csurr c url : Update Entity Unit).Keeps I
  := by
  apply keeps_failOn.bind
  intro _
  apply (keeps_modifyFiles insensitive).bind
  intro _
  apply keeps_failOn.bind
  intro _
  apply (keeps_modifyFiles insensitive).bind
  intro _
  apply keeps_failOn.bind
  intro _
  apply (keeps_modifyFiles insensitive).bind
  intro _
  split
  · intro d hd
    apply hd
  · intro d hd
    apply hd
  · apply keeps_failWhen.bind
    intro _
    apply keeps_failWhen.bind
    intro _
    split
    · apply (keeps_modifyFiles insensitive).bind
      intro _ d hd
      apply hd
    · apply (keeps_modifyFiles insensitive).bind
      intro _
      apply keeps_failOn.bind
      intro _
      apply syncFilesystem_keeps.describe

/-- A signature is verified without a change of the state. -/
theorem VerifySignatureFromFile_keeps {signature : List UInt8} :
  (VerifySignatureFromFile lib csurr c signature).Keeps I
  := by
  apply keeps_get.bind
  intro _
  apply keeps_ofExcept.bind
  intro _
  apply Keeps.bind
  · apply keeps_modify
    intro d h
    apply insensitive d _ _ h
    rfl
  · intro _
    apply openUnverified_keeps.bind
    intro _
    apply keeps_failOn.bind
    intro _
    apply keeps_emit insensitive

/-- The file is renamed without one. -/
theorem renameUnverified_keeps :
  (renameUnverified csurr c : Update Entity Unit).Keeps I
  := by
  apply openUnverified_keeps.bind
  intro _
  apply (keeps_modifyFiles insensitive).bind
  intro _
  apply keeps_emit insensitive

/-- A file is verified without a change of the state. -/
theorem verifyFile_keeps {expectedHash : String} {signature : List UInt8} :
  (verifyFile lib csurr c expectedHash signature).Keeps I
  := by
  apply openUnverified_keeps.bind
  intro _
  apply keeps_failOn.bind
  intro _
  apply keeps_failOn.bind
  intro _
  apply keeps_failWhen.bind
  intro _
  apply Keeps.bind (VerifySignatureFromFile_keeps insensitive).describe.runWhen
  intro _
  apply (renameUnverified_keeps insensitive).bind
  intro _
  apply keeps_failOn

end

/-! ### The update -/

/-- The status of a component is stored apart from the error. -/
theorem Proceeding.triggerComponentUpdateState {update : ComponentUpdateStatus} :
  Proceeding previous (triggerComponentUpdateState c update : Update Entity Unit)
  := Proceeding.modifyState fun _ => ⟨rfl, rfl⟩

/-- That a reboot is needed does not end the update. -/
theorem Proceeding.needReboot :
  Proceeding previous (needReboot : Update Entity Unit)
  := Proceeding.modifyState fun _ => ⟨rfl, rfl⟩

/-- A failure ends the update with its error. -/
theorem Proceeding.orUpdateError_failOn {failure : Option String} :
  Proceeding previous (Ota.orUpdateError text (failOn "" failure) : Update Entity Unit)
  := Proceeding.orUpdateError_of_keeps keeps_failOn

/-- A component is downloaded and verified, or the update ends with an error. -/
theorem Proceeding.downloadAndVerify {update : ComponentUpdateStatus} {bypass : Bool} :
  Proceeding previous (downloadAndVerify lib surr c update bypass)
  := by
  apply (Proceeding.orUpdateError_of_keeps downloadComponentSignature_keeps).bind
  intro _
  apply (Proceeding.orUpdateError_of_keeps (downloadFile_keeps insensitive_goesOn)).bind
  intro _
  apply Proceeding.triggerComponentUpdateState.bind
  intro _
  apply (Proceeding.orUpdateError_of_keeps (verifyFile_keeps insensitive_goesOn)).bind
  intro _
  apply Proceeding.triggerComponentUpdateState

/-- A component is updated, or the update ends with an error. -/
theorem Proceeding.updateComponent {update : ComponentUpdateStatus} {bypass : Bool} :
  Proceeding previous (updateComponent lib surr c update bypass)
  := by
  cases c with
  | app =>
      apply Proceeding.emit.bind
      intro _
      apply Proceeding.downloadAndVerify.bind
      intro _
      apply Proceeding.needReboot
  | system =>
      apply Proceeding.emit.bind
      intro _
      apply Proceeding.downloadAndVerify.bind
      intro _
      apply Proceeding.orUpdateError_failOn.bind
      intro _
      apply Proceeding.orUpdateError_failOn.bind
      intro _
      apply Proceeding.needReboot.bind
      intro _
      apply Proceeding.triggerComponentUpdateState

/-- A component that is not pending is left out. -/
theorem Proceeding.updatePending {update : ComponentUpdateStatus} :
  Proceeding previous (updatePending lib surr params c update)
  := by
  apply Proceeding.runWhen
  apply Proceeding.orUpdateError
  intro d hd
  apply Ends.mono (Proceeding.updateComponent d hd)
  · intro _ _ ht
    apply ht
  · intro _ _ _
    trivial

/-- The reboot is asked for before the update ends. -/
theorem Proceeding.rebootWhenNeeded {customVersionUpdate : Bool} :
  Proceeding previous (rebootWhenNeeded surr params customVersionUpdate : Update Entity Unit)
  := by
  apply Proceeding.bind
  · intro d hd
    apply hd
  · intro _
    apply Proceeding.runWhen
    apply Proceeding.emit.runWhen.bind
    intro _
    apply Proceeding.bind
    · apply Proceeding.runWhen
      apply Proceeding.emit.bind
      intro _
      apply Proceeding.orUpdateError_failOn
    · intro _
      apply Proceeding.emit.bind
      intro _
      apply Proceeding.orUpdateError_failOn

/-- Both components are updated one after the other. -/
theorem Proceeding.updateAllPending {appUpdate systemUpdate : ComponentUpdateStatus} :
  Proceeding previous (updateAllPending lib surr params appUpdate systemUpdate)
  := by
  apply Proceeding.updatePending.bind
  intro _
  apply Proceeding.updatePending.bind
  intro _
  apply Proceeding.rebootWhenNeeded

/-- A component is marked as pending. -/
theorem Proceeding.markPending {update : ComponentUpdateStatus} :
  Proceeding previous (markPending params c update : Update Entity _)
  := by
  apply Proceeding.bind
  · apply Proceeding.runWhen
    apply Proceeding.bind
    · rintro d ⟨-, herror⟩
      exact ⟨rfl, herror⟩
    · intro _
      apply Proceeding.triggerComponentUpdateState
  · intro _ d hd
    apply hd

/-- The update ends with an error when its status cannot be found out. -/
theorem Proceeding.getUpdateStatus :
  Proceeding previous
    (Ota.orUpdateError text (getUpdateStatus lib surr params) : Update Entity _)
  := by
  apply Proceeding.orUpdateError_of_keeps
  apply keeps_get.bind
  intro _
  apply keeps_ofExcept.bind
  intro _
  apply Keeps.bind
  · apply keeps_modify
    intro _ hd
    exact hd
  · intro _ d hd
    apply hd

/-- An update that has begun ends in one of the three ways. -/
theorem doUpdateComponents_leaves_ending (h : GoesOn previous d) :
  (doUpdateComponents lib surr params).Leaves d fun t => ∃ ending, EndsAs previous ending t
  := by
  have failed : ∀ (_ : String) (t : Device Entity), Failed previous t →
      ∃ ending, EndsAs previous ending t := by
    rintro _ t ⟨text, message, ht⟩
    use .failed text message
  rw [doUpdateComponents, Leaves, ends_bind, ends_runWhen]
  constructor
  · intro _
    exact failed "" _ ⟨_, _, rfl, rfl⟩
  · intro _
    rw [ends_bind]
    apply Ends.mono (Proceeding.getUpdateStatus d h) _ failed
    intro updates t ht
    rw [ends_bind]
    apply Ends.mono (Proceeding.markPending t ht) _ failed
    intro appUpdate u hu
    rw [ends_bind]
    apply Ends.mono (Proceeding.markPending u hu) _ failed
    intro systemUpdate v hv
    rw [ends_ite]
    constructor
    · intro _
      exact ⟨.noUpdates, rfl, hv.2⟩
    · intro _
      apply Ends.mono (Proceeding.updateAllPending v hv) _ failed
      intro _ w hw
      exact ⟨.updated, hw⟩

/-- An update that is not refused ends in one of the three ways. -/
theorem TryUpdate_leaves_ending (idle : d.state.updating = false) :
  (TryUpdate lib surr params false).Leaves d fun t =>
    ∃ ending : Ending, t.state.ToRPCState = ending.result d.state.ToRPCState
  := by
  have told : ∀ t : Device Entity, (∃ ending, EndsAs d.state.error ending t) →
      ∃ ending : Ending, t.state.ToRPCState = ending.result d.state.ToRPCState := by
    rintro t ⟨ending, hupdating, herror⟩
    use ending
    rw [State.ToRPCState, hupdating, herror]
    rfl
  rw [TryUpdate, Leaves, ends_bind, ends_failWhen]
  constructor
  · intro hlocked
    cases hlocked
  · intro _
    rw [doUpdate, ends_bind, ends_get, ends_bind, ends_failWhen, idle]
    constructor
    · intro hupdating
      cases hupdating
    · intro _
      rw [ends_bind, setUpdating, modifyState, ends_modify]
      apply Leaves.mono _ told
      apply doUpdateComponents_leaves_ending
      exact ⟨rfl, rfl⟩

end JetKvm.Ota
