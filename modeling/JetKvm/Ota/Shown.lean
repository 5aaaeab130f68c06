import JetKvm.Ota.Ending
import JetKvm.Ota.History
import JetKvm.Ota.Success

/-!
# What the update state shows

The update state that the user sees is kept from one call to the next. An error is recorded by a
call that fails and is cleared by none, and a component is marked as pending before it is updated
and stays marked, whatever becomes of the update. So the state is that of the latest call as long
as nothing is left over from an earlier one, and no call fails after it has marked a component.
-/

namespace JetKvm.Ota

open Procedure

variable {Version Entity : Type} (lib : Libraries Version Entity)

/-! ### Calls and what is shown -/

/-- `AppUpdatePending` and `SystemUpdatePending`. -/
def State.UpdatePending (s : State Entity) (c : Component) : Bool :=
  (s.componentUpdateStatuses c).pending

/-- The call is refused because an update is in progress. -/
def Call.Refused (call : Call Version) (d : Device Entity) : Prop :=
  call.locked = true ∨ d.state.updating = true

instance (call : Call Version) (d : Device Entity) : Decidable (call.Refused d) :=
  inferInstanceAs (Decidable (_ ∨ _))

/-- How a call has ended: the error that it has returned, and whether its request for a reboot has
succeeded. -/
structure CallEnding where
  returned : Option String
  rebooted : Bool
deriving DecidableEq

/-- The events have a request for a reboot, which succeeds. -/
def rebooted (surr : Surroundings Version) (log : List (Event Entity)) : Bool :=
  log.any (fun
    | .reboot _ => true
    | _ => false) && surr.reboot.isNone

/-- The ending of a call that is not refused. -/
def Call.ending (call : Call Version) (d : Device Entity) : CallEnding :=
  match TryUpdate lib call.surroundings call.params call.locked { d with log := [] } with
  | .ok _ t => { returned := none, rebooted := rebooted call.surroundings t.log }
  | .error message t => { returned := some message, rebooted := rebooted call.surroundings t.log }

/-- The device, and the ending of the latest call that has not been refused. -/
structure Watched (Entity : Type) where
  device : Device Entity
  latest : Option CallEnding

namespace Watched

/-- A call is made. -/
def call (w : Watched Entity) (call : Call Version) : Watched Entity where
  device := callStep lib w.device call
  latest := if call.Refused w.device then w.latest else some (call.ending lib w.device)

/-- Sequences of calls. -/
def lts : Lts (Watched Entity) (Call Version) :=
  .ofStep fun w call => some (w.call lib call)

/-- A device with a new update state, before any call. -/
def new (files : Component → UpdateFiles) : Watched Entity :=
  ⟨newDevice files, none⟩

/-- The state that is shown is that of the latest call. -/
structure ShowsLatest (w : Watched Entity) : Prop where
  error : w.device.state.ToRPCState.Error ≠ "" ↔ ∃ ending ∈ w.latest, ending.returned ≠ none
  updating : w.device.state.ToRPCState.Updating = true → ∃ ending ∈ w.latest, ending.rebooted = true
  pending : ∀ c, w.device.state.UpdatePending c = true →
    w.device.state.ToRPCState.Updating = true

end Watched

/-- No component is pending. -/
def NonePending (statuses : Component → ComponentUpdateStatus) : Prop :=
  ∀ c, (statuses c).pending = false

instance (statuses : Component → ComponentUpdateStatus) : Decidable (NonePending statuses) :=
  decidable_of_iff ((statuses .app).pending = false ∧ (statuses .system).pending = false)
    ⟨fun h c => by cases c; exacts [h.1, h.2], fun h => ⟨h .app, h .system⟩⟩

/-- The device after the check, with the components marked. -/
def markedDevice (d : Device Entity) (params : UpdateParams)
    (updates : Component → ComponentUpdateStatus) : Device Entity :=
  { d with
    state :=
      { d.state with
        updating := true
        componentUpdateStatuses := fun c => marked params c (updates c) }
    log := [] }

/-- A call that asks for no component, or whose check fails, finds no component pending. A call
whose check succeeds finds no error recorded, and what it updates is updated. -/
def Settles (d : Device Entity) (call : Call Version) : Prop :=
  if call.asked.asksFor .app = false ∧ call.asked.asksFor .system = false then
    NonePending d.state.componentUpdateStatuses
  else
    match checkUpdateStatus lib call.surroundings call.asked d.state.componentUpdateStatuses with
    | .error _ => NonePending d.state.componentUpdateStatuses
    | .ok updates =>
        d.state.error = "" ∧
          (¬ NonePending (fun c => marked call.asked c (updates c)) →
            StepsSucceed lib call.surroundings call.asked (marked call.asked .app (updates .app))
              (marked call.asked .system (updates .system)) d.state.gpgVerifier)

/-- The call is refused, or settles. -/
def Watched.Regular (e : Lts.Transition (Watched Entity) (Call Version)) : Prop :=
  e.action.Refused e.before.device ∨ Settles lib e.before.device e.action

/-! ### What is marked stays marked -/

variable {lib} {surr : Surroundings Version} {params : UpdateParams} {d t : Device Entity}
  {c : Component} {update appUpdate systemUpdate : ComponentUpdateStatus} {Value : Type}
  {p : Update Entity Value} {text message previous : String}

/-- A component is pending. -/
def PendingLeft (d : Device Entity) : Prop :=
  ¬ NonePending d.state.componentUpdateStatuses

theorem insensitive_pendingLeft :
  Insensitive (PendingLeft : Device Entity → Prop)
  := by
  intro d t h hd
  rw [PendingLeft, h]
  exact hd

theorem pendingLeft_of_pending (h : (d.state.componentUpdateStatuses c).pending = true) :
  PendingLeft d
  := by
  intro hnone
  rw [hnone c] at h
  cases h

theorem orUpdateError_keepsPending (h : p.Keeps PendingLeft) :
  (orUpdateError text p).Keeps PendingLeft
  := by
  apply h.tryCatch
  intro message d hd
  exact hd

theorem triggerComponentUpdateState_keepsPending (h : update.pending = true) :
  (triggerComponentUpdateState c update : Update Entity Unit).Keeps PendingLeft
  := by
  apply keeps_modify
  intro d _
  apply pendingLeft_of_pending (c := c)
  dsimp only
  rw [Function.update_self, h]

theorem needReboot_keepsPending :
  (needReboot : Update Entity Unit).Keeps PendingLeft
  := keeps_modify fun _ h => h

theorem downloadAndVerify_keepsPending {bypass : Bool} (h : update.pending = true) :
  (downloadAndVerify lib surr c update bypass).Keeps PendingLeft
  := by
  apply (orUpdateError_keepsPending downloadComponentSignature_keeps).bind
  intro _
  apply (orUpdateError_keepsPending (downloadFile_keeps insensitive_pendingLeft)).bind
  intro _
  apply (triggerComponentUpdateState_keepsPending h).bind
  intro _
  apply (orUpdateError_keepsPending (verifyFile_keeps insensitive_pendingLeft)).bind
  intro _
  apply triggerComponentUpdateState_keepsPending h

theorem updateComponent_keepsPending {bypass : Bool} (h : update.pending = true) :
  (updateComponent lib surr c update bypass).Keeps PendingLeft
  := by
  cases c with
  | app =>
      apply (keeps_emit insensitive_pendingLeft).bind
      intro _
      apply (downloadAndVerify_keepsPending h).bind
      intro _
      apply needReboot_keepsPending
  | system =>
      apply (keeps_emit insensitive_pendingLeft).bind
      intro _
      apply (downloadAndVerify_keepsPending h).bind
      intro _
      apply (orUpdateError_keepsPending keeps_failOn).bind
      intro _
      apply (orUpdateError_keepsPending keeps_failOn).bind
      intro _
      apply needReboot_keepsPending.bind
      intro _
      apply triggerComponentUpdateState_keepsPending h

theorem updatePending_keepsPending :
  (updatePending lib surr params c update).Keeps PendingLeft
  := by
  intro d hd
  rw [updatePending, Leaves, ends_runWhen]
  constructor
  · intro h
    apply orUpdateError_keepsPending (updateComponent_keepsPending h) d hd
  · intro _
    exact hd

theorem rebootWhenNeeded_keepsPending {customVersionUpdate : Bool} :
  (rebootWhenNeeded surr params customVersionUpdate : Update Entity Unit).Keeps PendingLeft
  := by
  have hemit : ∀ e : Event Entity, (emit e).Keeps PendingLeft :=
    fun _ => keeps_emit insensitive_pendingLeft
  apply keeps_get.bind
  intro _
  apply Keeps.runWhen
  apply (hemit _).runWhen.bind
  intro _
  apply Keeps.bind
  · apply Keeps.runWhen
    apply (hemit _).bind
    intro _
    apply orUpdateError_keepsPending keeps_failOn
  · intro _
    apply (hemit _).bind
    intro _
    apply orUpdateError_keepsPending keeps_failOn

/-- Whatever becomes of the update, a component stays pending. -/
theorem updateAllPending_keepsPending :
  (updateAllPending lib surr params appUpdate systemUpdate).Keeps PendingLeft
  := by
  apply updatePending_keepsPending.bind
  intro _
  apply updatePending_keepsPending.bind
  intro _
  apply rebootWhenNeeded_keepsPending

/-! ### What has been updated is rebooted -/

/-- What the second part of a procedure does, wherever it starts, is done when the procedure
returns a value. -/
theorem ends_bind_of_second {State First Second : Type} {p : Procedure State First}
    {f : First → Procedure State Second} {s : State} {Q : Second → State → Prop}
    (h : ∀ a t, (f a).Ends t Q fun _ _ => True) :
  (p >>= f).Ends s Q fun _ _ => True
  := by
  rw [ends_bind, Ends]
  split
  · apply h
  · trivial

/-- When a component is updated, a reboot is needed. -/
theorem updateComponent_needsReboot {bypass : Bool} :
  (updateComponent lib surr c update bypass).Ends d (fun _ t => t.state.rebootNeeded = true)
    fun _ _ => True
  := by
  cases c with
  | app =>
      apply ends_bind_of_second
      intro _ _
      apply ends_bind_of_second
      intro _ _
      rfl
  | system =>
      apply ends_bind_of_second
      intro _ _
      apply ends_bind_of_second
      intro _ _
      apply ends_bind_of_second
      intro _ _
      apply ends_bind_of_second
      intro _ _
      rfl

theorem updatePending_needsReboot (h : update.pending = true ∨ d.state.rebootNeeded = true) :
  (updatePending lib surr params c update).Ends d (fun _ t => t.state.rebootNeeded = true)
    fun _ _ => True
  := by
  rw [updatePending, ends_runWhen]
  constructor
  · intro _
    rw [orUpdateError, ends_tryCatch]
    apply updateComponent_needsReboot.mono
    · exact fun _ _ h => h
    · intro _ _ _
      trivial
  · intro hnot
    exact h.resolve_left hnot

/-- When a reboot is needed and everything succeeds, the device is rebooted. -/
theorem rebootWhenNeeded_reboots {customVersionUpdate : Bool} (h : d.state.rebootNeeded = true) :
  (rebootWhenNeeded surr params customVersionUpdate : Update Entity Unit).Ends d
    (fun _ t => rebooted surr t.log = true) fun _ _ => True
  := by
  rw [rebootWhenNeeded, ends_bind, ends_get, ends_runWhen]
  use fun _ => ?_, fun hnot => absurd h hnot
  apply ends_bind_of_second
  intro _ _
  apply ends_bind_of_second
  intro _ t
  rw [ends_bind, emit, ends_modify, orUpdateError, ends_tryCatch, ends_failOn]
  constructor
  · intro hnone
    rw [rebooted, hnone, List.any_append]
    simp
  · intro _ _
    trivial

/-- The pending components are updated and the device is rebooted, or a step fails with a component
pending. -/
theorem updateAllPending_ends (h : GoesOn previous d) (hpending : PendingLeft d)
    (hupdates : appUpdate.pending = true ∨ systemUpdate.pending = true) :
  (updateAllPending lib surr params appUpdate systemUpdate).Ends d
    (fun _ t => GoesOn previous t ∧ rebooted surr t.log = true)
    fun _ t => t.state.updating = false ∧ PendingLeft t
  := by
  have hreboots : (updateAllPending lib surr params appUpdate systemUpdate).Ends d
      (fun _ t => rebooted surr t.log = true) fun _ _ => True := by
    have hsystem : ∀ t : Device Entity,
        systemUpdate.pending = true ∨ t.state.rebootNeeded = true →
        (do
          updatePending lib surr params .system systemUpdate
          rebootWhenNeeded surr params
            (appUpdate.customVersionUpdate || systemUpdate.customVersionUpdate)).Ends t
          (fun _ t => rebooted surr t.log = true) fun _ _ => True := by
      intro t ht
      rw [ends_bind]
      apply (updatePending_needsReboot ht).mono
      · exact fun _ _ hneeded => rebootWhenNeeded_reboots hneeded
      · exact fun _ _ h => h
    obtain happ | hsys := hupdates
    · rw [updateAllPending, ends_bind]
      apply (updatePending_needsReboot (Or.inl happ)).mono
      · exact fun _ t hneeded => hsystem t (Or.inr hneeded)
      · exact fun _ _ h => h
    · apply ends_bind_of_second
      exact fun _ t => hsystem t (Or.inl hsys)
  apply (((Proceeding.updateAllPending d h).and
    (updateAllPending_keepsPending d hpending)).and hreboots).mono
  · rintro _ t ⟨⟨hgoes, -⟩, hrebooted⟩
    exact ⟨hgoes, hrebooted⟩
  · rintro _ t ⟨⟨⟨text, message, hfailed⟩, hleft⟩, -⟩
    exact ⟨hfailed.1, hleft⟩

/-! ### What a call shows -/

/-- What is shown after a call that has ended. -/
def EndsShowing (surr : Surroundings Version) (returned : Option String) (t : Device Entity) :
    Prop :=
  Watched.ShowsLatest ⟨t, some ⟨returned, rebooted surr t.log⟩⟩

theorem endsShowing_iff {returned : Option String} :
  EndsShowing surr returned t ↔
    (t.state.error ≠ "" ↔ returned ≠ none) ∧
    (t.state.updating = true → rebooted surr t.log = true) ∧
    (PendingLeft t → t.state.updating = true)
  := by
  have hending : ∀ P : CallEnding → Prop,
      (∃ ending ∈ some (CallEnding.mk returned (rebooted surr t.log)), P ending) ↔
        P ⟨returned, rebooted surr t.log⟩ :=
    fun P => by simp only [Option.mem_def, Option.some.injEq, exists_eq_left']
  have hpending : (∀ c, t.state.UpdatePending c = true → t.state.updating = true) ↔
      (PendingLeft t → t.state.updating = true) := by
    constructor
    · intro h hleft
      by_contra hnot
      exact hleft fun c => eq_false_of_ne_true fun hc => hnot (h c hc)
    · exact fun h c hc => h (pendingLeft_of_pending hc)
  constructor
  · rintro ⟨herror, hupdating, hleft⟩
    rw [hending] at herror hupdating
    exact ⟨herror, hupdating, hpending.mp hleft⟩
  · rintro ⟨herror, hupdating, hleft⟩
    constructor
    · rw [hending]
      exact herror
    · rw [hending]
      exact hupdating
    · exact hpending.mpr hleft

/-- After an error that has been recorded no component may be pending. -/
theorem endsShowing_failed (hupdating : t.state.updating = false) (herror : t.state.error ≠ "") :
  EndsShowing surr (some message) t ↔ NonePending t.state.componentUpdateStatuses
  := by
  rw [endsShowing_iff, hupdating]
  constructor
  · rintro ⟨-, -, hleft⟩
    by_contra hnone
    cases hleft hnone
  · intro hnone
    use iff_of_true herror (Option.some_ne_none _)
    constructor
    · intro htrue
      cases htrue
    · exact fun hleft => absurd hnone hleft

/-- After a call that returns nil no error may be recorded. -/
theorem endsShowing_none (hupdating : t.state.updating = true → rebooted surr t.log = true)
    (hleft : PendingLeft t → t.state.updating = true) :
  EndsShowing surr none t ↔ t.state.error = ""
  := by
  rw [endsShowing_iff]
  constructor
  · rintro ⟨herror, -⟩
    by_contra hne
    exact herror.mp hne rfl
  · exact fun herror => ⟨iff_of_false (not_not.mpr herror) (not_not.mpr rfl), hupdating, hleft⟩

/-- The status is stored as it is marked. -/
theorem ends_markPending {Q : ComponentUpdateStatus → Device Entity → Prop}
    {R : String → Device Entity → Prop} (hupdating : d.state.updating = true)
    (hstatus : d.state.componentUpdateStatuses c = update) :
  (markPending params c update).Ends d Q R ↔
    Q (marked params c update)
      { d with
        state :=
          { d.state with
            componentUpdateStatuses :=
              Function.update d.state.componentUpdateStatuses c (marked params c update) } }
  := by
  obtain rfl := hstatus
  have hstate : { d.state with updating := true } = d.state := by
    rw [← hupdating]
  rw [markPending, ends_bind, ends_runWhen]
  by_cases havailable :
      (params.asksFor c && (d.state.componentUpdateStatuses c).available) = true
  · rw [ends_bind, setUpdating, modifyState, ends_modify, hstate]
    exact ⟨fun h => h.1 havailable, fun h => ⟨fun _ => h, fun hnot => absurd havailable hnot⟩⟩
  · have hmarked : marked params c (d.state.componentUpdateStatuses c) =
        d.state.componentUpdateStatuses c := if_neg havailable
    rw [hmarked, Function.update_eq_self]
    exact ⟨fun h => h.2 havailable, fun h => ⟨fun h' => absurd h' havailable, fun _ => h⟩⟩

/-- Recording an error shows the call when nothing is pending. -/
theorem componentUpdateError_endsShowing {Q : Value → Device Entity → Prop} :
  (componentUpdateError text message : Update Entity Value).Ends d Q
      (fun message t => EndsShowing surr (some message) t) ↔
    NonePending d.state.componentUpdateStatuses
  := endsShowing_failed rfl (Ending.error_failed_ne "" text message)

/-- The check has been made, and the components are marked. -/
theorem markAll_ends {updates : Component → ComponentUpdateStatus}
    {f : ComponentUpdateStatus → ComponentUpdateStatus → Update Entity Value}
    {Q : Value → Device Entity → Prop} {R : String → Device Entity → Prop} :
  (do
    let appUpdate ← markPending params .app (updates .app)
    let systemUpdate ← markPending params .system (updates .system)
    f appUpdate systemUpdate).Ends
      { d with
        state := { d.state with updating := true, componentUpdateStatuses := updates }, log := [] }
      Q R ↔
    (f (marked params .app (updates .app)) (marked params .system (updates .system))).Ends
      (markedDevice d params updates) Q R
  := by
  have hmarked : Function.update (Function.update updates .app (marked params .app (updates .app)))
      .system (marked params .system (updates .system)) = fun c => marked params c (updates c) := by
    funext c
    cases c <;> rfl
  rw [ends_bind]
  refine (ends_markPending rfl ?_).trans ?_
  · rfl
  rw [ends_bind]
  refine (ends_markPending rfl ?_).trans ?_
  · rfl
  rw [markedDevice, ← hmarked]

/-- What is shown after the components have been marked. -/
theorem updateMarked_endsShowing {call : Call Version}
    {updates : Component → ComponentUpdateStatus} :
  (if !(marked call.asked .app (updates .app)).pending &&
        !(marked call.asked .system (updates .system)).pending then setUpdating false
      else
        updateAllPending lib call.surroundings call.asked (marked call.asked .app (updates .app))
          (marked call.asked .system (updates .system))).Ends (markedDevice d call.asked updates)
      (fun _ t => EndsShowing call.surroundings none t)
      (fun message t => EndsShowing call.surroundings (some message) t) ↔
    d.state.error = "" ∧
      (¬ NonePending (fun c => marked call.asked c (updates c)) →
        StepsSucceed lib call.surroundings call.asked (marked call.asked .app (updates .app))
          (marked call.asked .system (updates .system)) d.state.gpgVerifier)
  := by
  have hnone : (!(marked call.asked .app (updates .app)).pending &&
      !(marked call.asked .system (updates .system)).pending) = true ↔
      NonePending fun c => marked call.asked c (updates c) := by
    rw [Bool.and_eq_true, Bool.not_eq_true', Bool.not_eq_true']
    constructor
    · rintro ⟨happ, hsystem⟩ c
      cases c with
      | app => exact happ
      | system => exact hsystem
    · exact fun h => ⟨h .app, h .system⟩
  by_cases hpending : NonePending fun c => marked call.asked c (updates c)
  · have hleft : PendingLeft
        { markedDevice d call.asked updates with
          state := { (markedDevice d call.asked updates).state with updating := false } } → False :=
      fun hleft => hleft hpending
    rw [if_pos (hnone.mpr hpending)]
    apply (endsShowing_none (fun hupdating => ?_) fun h => (hleft h).elim).trans
    · exact ⟨fun herror => ⟨herror, fun hnot => absurd hpending hnot⟩, fun h => h.1⟩
    · cases hupdating
  · have hupdates : (marked call.asked .app (updates .app)).pending = true ∨
        (marked call.asked .system (updates .system)).pending = true := by
      by_contra hnot
      obtain ⟨happ, hsystem⟩ := not_or.mp hnot
      apply mt hnone.mp hpending
      rw [eq_false_of_ne_true happ, eq_false_of_ne_true hsystem]
      rfl
    have hgoes : GoesOn d.state.error (markedDevice d call.asked updates) := ⟨rfl, rfl⟩
    rw [if_neg (mt hnone.mp hpending), imp_iff_right hpending]
    refine Iff.trans ?_ (and_congr_right' (updateAllPending_returns
      (d := markedDevice d call.asked updates) hupdates))
    rw [← ends_returns_iff]
    apply Ends.congr (updateAllPending_ends hgoes hpending hupdates)
    · rintro _ t ⟨⟨hupdating, herror⟩, hrebooted⟩
      rw [← herror]
      exact endsShowing_none (fun _ => hrebooted) fun _ => hupdating
    · rintro message t ⟨hupdating, hleft⟩
      apply iff_of_false _ not_false
      intro hshows
      obtain ⟨-, -, hpending⟩ := endsShowing_iff.mp hshows
      rw [hupdating] at hpending
      cases hpending hleft

/-- A call that is not refused is shown exactly when it settles. -/
theorem TryUpdate_endsShowing {call : Call Version} (h : ¬ call.Refused d) :
  (TryUpdate lib call.surroundings call.params call.locked).Ends { d with log := [] }
      (fun _ t => EndsShowing call.surroundings none t)
      (fun message t => EndsShowing call.surroundings (some message) t) ↔
    Settles lib d call
  := by
  obtain ⟨hlocked, hidle⟩ := not_or.mp h
  rw [TryUpdate, ends_bind, ends_failWhen_of_neg hlocked, doUpdate, ends_bind, ends_get, ends_bind,
    ends_failWhen_of_neg hidle, ends_bind, setUpdating, modifyState, ends_modify,
    doUpdateComponents, ends_bind, Settles]
  by_cases hasks : call.asked.asksFor .app = false ∧ call.asked.asksFor .system = false
  · rw [if_pos hasks]
    apply (ends_runWhen_of_pos hasks).trans
    apply componentUpdateError_endsShowing
  · rw [if_neg hasks]
    apply (ends_runWhen_of_neg hasks).trans
    rw [ends_bind, orUpdateError, ends_tryCatch, getUpdateStatus, ends_bind, ends_get, ends_bind]
    change (MonadExcept.ofExcept (checkUpdateStatus lib call.surroundings call.asked
      d.state.componentUpdateStatuses) : Update Entity _).Ends _ _ _ ↔ _
    cases checkUpdateStatus lib call.surroundings call.asked d.state.componentUpdateStatuses with
    | error message =>
        apply ends_throw.trans
        apply componentUpdateError_endsShowing
    | ok updates =>
        apply ends_pure.trans
        rw [ends_bind, modifyState, ends_modify, ends_pure]
        apply markAll_ends.trans
        apply updateMarked_endsShowing

/-! ### Runs -/

/-- A call that is refused leaves the update state as it is. -/
theorem callStep_state_of_refused {call : Call Version} (h : call.Refused d) :
  (callStep lib d call).state = d.state
  := by
  have hleaves : (TryUpdate lib call.surroundings call.params call.locked).Leaves
      { d with log := [] } fun t => t.state = d.state := by
    rw [TryUpdate, Leaves, ends_bind, ends_failWhen]
    use fun _ => rfl
    intro hlocked
    rw [doUpdate, ends_bind, ends_get, ends_bind, ends_failWhen]
    use fun _ => rfl
    intro hidle
    exact absurd h (not_or.mpr ⟨hlocked, hidle⟩)
  exact leaves_iff.mp hleaves

namespace Watched

variable {w u : Watched Entity} {call : Call Version} {files : Component → UpdateFiles}

theorem showsLatest_congr (hstate : u.device.state = w.device.state)
    (hlatest : u.latest = w.latest) :
  u.ShowsLatest ↔ w.ShowsLatest
  := by
  constructor
  · rintro ⟨herror, hupdating, hpending⟩
    rw [hstate, hlatest] at herror hupdating
    rw [hstate] at hpending
    exact ⟨herror, hupdating, hpending⟩
  · rintro ⟨herror, hupdating, hpending⟩
    rw [← hstate, ← hlatest] at herror hupdating
    rw [← hstate] at hpending
    exact ⟨herror, hupdating, hpending⟩

/-- Before any call there is no error, no update and no pending component. -/
theorem showsLatest_new :
  (new files : Watched Entity).ShowsLatest
  := by
  constructor
  · apply iff_of_false
    · exact fun h => h rfl
    · rintro ⟨_, ⟨⟩, -⟩
  · intro hupdating
    cases hupdating
  · intro c hpending
    cases hpending

/-- A call that is not refused is shown after it exactly when it settles. -/
theorem showsLatest_call_iff (h : ¬ call.Refused w.device) :
  (w.call lib call).ShowsLatest ↔ Settles lib w.device call
  := by
  rw [← TryUpdate_endsShowing h, Watched.call, if_neg h, callStep, after, Call.ending, Ends]
  cases TryUpdate lib call.surroundings call.params call.locked { w.device with log := [] } with
  | ok a t => exact Iff.rfl
  | error message t => exact Iff.rfl

theorem showsLatest_call_of_refused (h : call.Refused w.device) :
  (w.call lib call).ShowsLatest ↔ w.ShowsLatest
  := showsLatest_congr (callStep_state_of_refused h) (if_pos h)

/-- What is shown is that of the latest call after every call of a run exactly when every call is
refused or settles. -/
theorem shows_latest_iff {tr : List (Lts.Transition (Watched Entity) (Call Version))}
    (run : (lts lib).Run (new files) tr w) :
  (new files : Watched Entity).ShowsLatest ∧
    ((∀ e ∈ tr, e.after.ShowsLatest) ↔ ∀ e ∈ tr, Regular lib e)
  := by
  have agree : ∀ e : Lts.Transition (Watched Entity) (Call Version), e.before.ShowsLatest →
      (lts lib).step e.before e.action e.after → (e.after.ShowsLatest ↔ Regular lib e) := by
    intro e hshows hstep
    rw [← Option.some.inj hstep, Regular]
    by_cases h : e.action.Refused e.before.device
    · rw [showsLatest_call_of_refused h]
      exact iff_of_true hshows (Or.inl h)
    · rw [showsLatest_call_iff h, or_iff_right h]
  use showsLatest_new
  apply run.forall_iff showsLatest_new agree
  intro e hregular hshows hstep
  apply (agree e hshows hstep).mpr hregular

/-- A call for version 0.4.1 of the application. The server offers the given version. -/
def exampleCall (version : String) : Call (Nat × Nat × Nat) where
  surroundings := exampleSurroundings version (exampleAnswer [0]) (exampleAnswer exampleFile)
  params := { components := [("app", "0.4.1")], includePreRelease := false, resetConfig := false }

/-- A watched device, before any call. -/
abbrev exampleWatched : Watched (List UInt8) :=
  new fun _ => {}

/-- The application is updated, and the device is rebooted. -/
theorem shows_latest_update :
  ((exampleWatched.call exampleLibraries (exampleCall "0.4.1")).latest = some ⟨none, true⟩) ∧
    (exampleWatched.call exampleLibraries (exampleCall "0.4.1")).ShowsLatest
  := by
  use by decide
  have run := (Lts.Run.nil (L := lts exampleLibraries)
    (s := exampleWatched)).snoc (a := exampleCall "0.4.1") rfl
  apply (shows_latest_iff run).2.mpr _ _ (List.mem_singleton_self _)
  intro e he
  obtain rfl := List.mem_singleton.mp he
  right
  refine ⟨rfl, fun _ => ⟨⟨.new, .new, .of_pending rfl ?_ trivial, .of_not_pending rfl⟩, ?_⟩⟩
  · refine ⟨[], exampleFile, rfl, ⟨rfl, rfl, rfl, ?_, rfl, rfl, rfl⟩,
      ⟨rfl, rfl, rfl, by decide, rfl, rfl, rfl⟩⟩
    exact ⟨_, rfl, rfl, by decide, rfl, rfl⟩
  · exact ⟨nofun, rfl⟩

/-- A call that finds no update returns nil and still shows the error of a call whose check has
failed, and the application is pending after an update of it that has failed. -/
theorem not_shows_latest :
  (¬ ∀ (tr : List (Lts.Transition (Watched (List UInt8)) (Call (Nat × Nat × Nat)))) w,
    (lts exampleLibraries).Run exampleWatched tr w →
      (w.device.state.ToRPCState.Error ≠ "" ↔ ∃ ending ∈ w.latest, ending.returned ≠ none)) ∧
  ¬ ∀ (tr : List (Lts.Transition (Watched (List UInt8)) (Call (Nat × Nat × Nat)))) w,
    (lts exampleLibraries).Run exampleWatched tr w →
      ∀ c, w.device.state.UpdatePending c = true → w.device.state.ToRPCState.Updating = true
  := by
  constructor
  · intro claim
    have run := (Lts.Run.nil (L := lts exampleLibraries)
      (s := exampleWatched)).snoc (a := exampleCall "0.6.0") rfl
    have run' := run.snoc (a := exampleCall "0.4.0") rfl
    have hlatest : ((exampleWatched.call exampleLibraries (exampleCall "0.6.0")).call
        exampleLibraries (exampleCall "0.4.0")).latest = some ⟨none, false⟩ := by decide
    obtain ⟨ending, hending, hreturned⟩ := (claim _ _ run').mp (by decide)
    rw [hlatest] at hending
    obtain rfl := Option.some.inj hending
    exact hreturned rfl
  · intro claim
    have run := (Lts.Run.nil (L := lts exampleLibraries)
      (s := exampleWatched)).snoc (a := failedCall "0.5.0" "") rfl
    have hpending : (exampleWatched.call exampleLibraries
        (failedCall "0.5.0" "")).device.state.UpdatePending .app = true := by decide
    exact absurd (claim _ _ run .app hpending) (by decide)

end Watched

end JetKvm.Ota
