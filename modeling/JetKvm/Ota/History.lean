import JetKvm.Library.Transition
import JetKvm.Ota.Update
import Mathlib.Data.Fintype.Card

/-!
# Histories of updates

Sequences of `TryUpdate` calls on one update state. What an update does to a component is
decided by the status the component had before the call as well as by the call: a component
left pending by a call that failed is updated by every later call that gets past its check,
and one left marked as a custom version is not checked for a signature.
-/

namespace JetKvm.Ota

open Procedure

variable {Version Entity : Type} (lib : Libraries Version Entity)

/-- A `TryUpdate` call and what it meets. -/
structure Call (Version : Type) where
  locked : Bool := false
  surroundings : Surroundings Version
  params : UpdateParams

/-- The parameters of the call after an empty map of components has been replaced. -/
def Call.asked (call : Call Version) : UpdateParams :=
  call.params.withDefault

/-- The device after a call, with the events of this call. -/
def callStep (d : Device Entity) (call : Call Version) : Device Entity :=
  (TryUpdate lib call.surroundings call.params call.locked).after { d with log := [] }

/-- Sequences of calls. -/
def updateLts : Lts (Device Entity) (Call Version) :=
  Lts.ofStep fun d call => some (callStep lib d call)

/-- A device with a new update state. -/
def newDevice (files : Component → UpdateFiles) : Device Entity where
  state := { gpgVerifier := .new }
  files := files

/-- The call gets past its check, which finds the statuses. -/
def Call.Proceeds (call : Call Version) (d : Device Entity)
    (updates : Component → ComponentUpdateStatus) : Prop :=
  call.locked = false ∧ Ota.Proceeds lib call.surroundings call.asked d.state updates

/-! ### An example -/

/-- The versions of the examples. -/
def exampleVersions : List (String × Nat × Nat × Nat) :=
  [("0.2.0", 0, 2, 0), ("0.3.0", 0, 3, 0), ("0.4.0", 0, 4, 0), ("0.4.1", 0, 4, 1),
   ("0.5.0", 0, 5, 0)]

/-- The file `abc`. -/
def exampleFile : List UInt8 :=
  [0x61, 0x62, 0x63]

/-- The libraries on the values of the examples. The key servers answer with no key. -/
def exampleLibraries : Libraries (Nat × Nat × Nat) (List UInt8) where
  newVersion v := (exampleVersions.lookup v).elim (.error "Invalid Semantic Version") .ok
  greaterThan v w := v.1 > w.1 || v.1 == w.1 && (v.2.1 > w.2.1 || v.2.1 == w.2.1 && v.2.2 > w.2.2)
  prerelease _ := ""
  versionString v := ((exampleVersions.find? fun version => version.2 = v).map Prod.fst).getD ""
  sha256 contents :=
    if contents = exampleFile then
      [0xba, 0x78, 0x16, 0xbf, 0x8f, 0x01, 0xcf, 0xea, 0x41, 0x41, 0x40, 0xde, 0x5d, 0xae, 0x22,
       0x23, 0xb0, 0x03, 0x61, 0xa3, 0x96, 0x17, 0x7a, 0x9c, 0xb4, 0x10, 0xff, 0x61, 0xf2, 0x00,
       0x15, 0xad]
    else []
  readArmoredKeyRing _ := .error "EOF"
  fingerprint := some
  checkDetachedSignature _ _ _ := some "EOF"

/-- The server offers the version of the application, and version 0.3.0 of the system, to a
device that runs 0.4.0 and 0.2.0. -/
def exampleSurroundings (version : String) (signature download : Exchange Answer) :
    Surroundings (Nat × Nat × Nat) where
  getLocalVersion := .ok ((0, 2, 0), (0, 4, 0))
  metadata _ := .answered
    { statusCode := 200
      metadata := .ok
        { app :=
            { version := version
              url := "jetkvm_app"
              hash := "ba7816bf8f01cfea414140de5dae2223b00361a396177a9cb410ff61f20015ad"
              sigUrl := "jetkvm_app.sig" }
          system :=
            { version := "0.3.0", url := "system.tar", hash := "", sigUrl := "system.tar.sig" } } }
  component _ :=
    { signature := fun _ => signature
      download := fun _ => download
      keyservers :=
        { now := 0
          cancelled := fun _ => none
          keyserver := fun _ => .answered { statusCode := 200 }
          cancelledAfter := none } }

def exampleAnswer (contents : List UInt8) : Exchange Answer :=
  .answered { statusCode := 200, contentLength := contents.length, body := contents }

/-- An update of the application whose requests for files fail. -/
def failedCall (version constraint : String) : Call (Nat × Nat × Nat) where
  surroundings := exampleSurroundings version (.notSent "EOF") (.notSent "EOF")
  params := { components := [("app", constraint)], includePreRelease := false, resetConfig := false }

/-- An update to version 0.5.0 of the application whose file is `abc`. -/
def ordinaryCall (components : List (String × String)) : Call (Nat × Nat × Nat) where
  surroundings := exampleSurroundings "0.5.0" (exampleAnswer [0]) (exampleAnswer exampleFile)
  params := { components := components, includePreRelease := false, resetConfig := false }

/-- The device after the call. -/
abbrev exampleStep (d : Device (List UInt8)) (call : Call (Nat × Nat × Nat)) :
    Device (List UInt8) :=
  callStep exampleLibraries d call

abbrev exampleDevice : Device (List UInt8) :=
  newDevice fun _ => {}

/-! ### Runs -/

variable {lib} {d t : Device Entity} {call : Call Version} {c : Component}
  {files : Component → UpdateFiles} {tr : List (Lts.Transition (Device Entity) (Call Version))}

/-- A call logs the events of its update, and the verifier stays pinned. -/
theorem callStep_leaves (pinned : d.state.gpgVerifier.Pinned lib) :
  UpdateLog lib call.surroundings call.asked d.state (callStep lib d call).log ∧
    (callStep lib d call).state.gpgVerifier.Pinned lib
  := by
  have hleaves : (TryUpdate lib call.surroundings call.params call.locked).Leaves
      { d with log := [] }
      (Logged lib { d with log := [] }
        (UpdateLog lib call.surroundings call.params.withDefault d.state)) :=
    TryUpdate_leaves pinned
  obtain ⟨events, hlog, hevents, hpinned⟩ := leaves_iff.mp hleaves
  rw [List.nil_append] at hlog
  rw [callStep, hlog]
  exact ⟨hevents, hpinned⟩

theorem callStep_log_of_locked (h : call.locked = true) :
  (callStep lib d call).log = []
  := by
  rw [callStep, h]
  rfl

/-- In a run from a new update state, each step is a call made with the pinned key. -/
theorem pinned_before (run : (updateLts lib).Run (newDevice files) tr t)
    {e : Lts.Transition (Device Entity) (Call Version)} (he : e ∈ tr) :
  e.before.state.gpgVerifier.Pinned lib ∧ e.after = callStep lib e.before e.action
  := by
  constructor
  · apply run.invariant_before (I := fun d => d.state.gpgVerifier.Pinned lib) .new _ e he
    intro e _ pinned step
    rw [← Option.some.inj step]
    apply (callStep_leaves pinned).2
  · apply (Option.some.inj (run.step_of_mem he)).symm

/-! ### Components that were asked for -/

/-- The call updates only components that it asks for and that its own metadata makes
available. -/
def UpdatesOnlyAsked (lib : Libraries Version Entity) (call : Call Version)
    (log : List (Event Entity)) : Prop :=
  ∀ c, .update c ∈ log →
    call.asked.asksFor c = true ∧ madeAvailable lib call.surroundings call.asked c = true

/-- If the call gets past its check, each component left pending before is asked for by the
call and found available by the check. -/
def PendingAsked (lib : Libraries Version Entity) (d : Device Entity) (call : Call Version) :
    Prop :=
  ∀ updates, call.Proceeds lib d updates → ∀ c,
    (d.state.componentUpdateStatuses c).pending = true →
      call.asked.asksFor c = true ∧ (updates c).available = true

/-- A call that finds nothing pending but what it asks for updates nothing else. -/
theorem callStep_updatesOnlyAsked (pinned : d.state.gpgVerifier.Pinned lib)
    (pending : PendingAsked lib d call) :
  UpdatesOnlyAsked lib call (callStep lib d call).log
  := by
  intro c hmem
  cases hlocked : call.locked with
  | true =>
      rw [callStep_log_of_locked hlocked] at hmem
      cases hmem
  | false =>
      obtain ⟨update, ⟨updates, proceeds, rfl⟩, hupdated⟩ :=
        (callStep_leaves pinned).1.of_update hmem
      obtain ⟨metadata, -, hupdates⟩ := checkUpdateStatus_updates proceeds.checked
      obtain ⟨-, hpending, -, havailable⟩ := hupdates c
      rw [← havailable]
      rcases hupdated with hupdated | hupdated
      · apply pending updates ⟨hlocked, proceeds⟩ c
        rw [← hpending]
        apply hupdated
      · apply hupdated

/-- No component is updated that was not asked for. -/
theorem updates_only_asked (run : (updateLts lib).Run (newDevice files) tr t)
    (pending : ∀ e ∈ tr, PendingAsked lib e.before e.action) :
  ∀ e ∈ tr, UpdatesOnlyAsked lib e.action e.after.log
  := by
  intro e he
  obtain ⟨pinned, hafter⟩ := pinned_before run he
  rw [hafter]
  apply callStep_updatesOnlyAsked pinned (pending e he)

/-- The application is updated by a call that asks for it. -/
theorem updates_only_asked_ordinary :
  .update .app ∈ (exampleStep exampleDevice (ordinaryCall [("app", "")])).log ∧
    UpdatesOnlyAsked exampleLibraries (ordinaryCall [("app", "")])
      (exampleStep exampleDevice (ordinaryCall [("app", "")])).log
  := by
  use by decide
  apply updates_only_asked (t := exampleStep exampleDevice (ordinaryCall [("app", "")]))
    (Lts.Run.nil.snoc rfl) _ _ (List.mem_singleton_self _)
  intro e he updates _ c hpending
  obtain rfl := List.mem_singleton.mp he
  cases hpending

/-- An update of the application fails, and an update of the system updates the
application. -/
theorem update_not_asked :
  ¬ ∀ (tr : List (Lts.Transition (Device (List UInt8)) (Call (Nat × Nat × Nat)))) t,
    (updateLts exampleLibraries).Run exampleDevice tr t →
    ∀ e ∈ tr, UpdatesOnlyAsked exampleLibraries e.action e.after.log
  := by
  intro claim
  have run := (Lts.Run.nil (L := updateLts exampleLibraries)
    (s := exampleDevice)).snoc (a := failedCall "0.5.0" "") rfl
  have run' := run.snoc (a := ordinaryCall [("system", "")]) rfl
  have updated : Event.update .app ∈ (exampleStep (exampleStep exampleDevice
    (failedCall "0.5.0" "")) (ordinaryCall [("system", "")])).log := by decide
  obtain ⟨asked, -⟩ := claim _ _ run' _ (List.mem_append_right _ (List.mem_singleton_self _)) _
    updated
  exact absurd asked (by decide)

/-! ### Signatures -/

/-- The file of a component for which no version is asked, pre-releases not being included, is
renamed only when its digest is the one of the metadata of the call, and after a signature over
it has been accepted. -/
def RenamesSigned (lib : Libraries Version Entity) (call : Call Version)
    (log : List (Event Entity)) : Prop :=
  ∀ c, (call.params.constraint c).getD "" = "" → call.params.includePreRelease = false →
    Permitted (fun before e => ∀ contents, e = .rename c contents →
      SignatureAccepted lib contents before ∧
        ∃ metadata, fetchUpdateMetadata call.surroundings call.asked = .ok metadata ∧
          encodeToString (lib.sha256 contents) = (metadata.component c).hash) log

/-- If the call gets past its check, no component is left marked as a custom version before, for
which the call asks no version while pre-releases are not included. -/
def NoCustomVersionLeft (lib : Libraries Version Entity) (d : Device Entity)
    (call : Call Version) : Prop :=
  ∀ updates, call.Proceeds lib d updates → ∀ c,
    (call.params.constraint c).getD "" = "" → call.params.includePreRelease = false →
      (d.state.componentUpdateStatuses c).customVersionUpdate = false

/-- The default map of components asks for no version. -/
theorem constraint_asked :
  (call.asked.constraint c).getD "" = (call.params.constraint c).getD ""
  := by
  rw [Call.asked, UpdateParams.withDefault]
  split
  · rename_i h
    rw [UpdateParams.constraint, UpdateParams.constraint, h]
    cases c <;> rfl
  · rfl

theorem includePreRelease_asked :
  call.asked.includePreRelease = call.params.includePreRelease
  := by
  rw [Call.asked, UpdateParams.withDefault]
  split <;> rfl

/-- The check of a signature is not skipped unless a version was asked for or pre-releases are
included. -/
theorem shouldBypassSignatureCheck_false {version : String} :
  shouldBypassSignatureCheck lib version false false = false
  := by
  rw [shouldBypassSignatureCheck, if_neg Bool.false_ne_true]
  split
  · rfl
  · rw [Bool.and_false]

/-- A call that finds no component marked as a custom version checks the signatures. -/
theorem callStep_renamesSigned (pinned : d.state.gpgVerifier.Pinned lib)
    (left : NoCustomVersionLeft lib d call) :
  RenamesSigned lib call (callStep lib d call).log
  := by
  intro c hconstraint hpreRelease
  cases hlocked : call.locked with
  | true =>
      rw [callStep_log_of_locked hlocked]
      apply permitted_nil
  | false =>
      refine (callStep_leaves pinned).1.permitted.mono ?_
      intro before e allowed contents he
      obtain ⟨update, ⟨⟨updates, proceeds, rfl⟩, -⟩, digest, hsigned⟩ := allowed c contents he
      obtain ⟨metadata, hmetadata, hupdates⟩ := checkUpdateStatus_updates proceeds.checked
      obtain ⟨hhash, -, hcustom, -⟩ := hupdates c
      constructor
      · apply hsigned.resolve_right
        rw [hcustom (constraint_asked.trans hconstraint), includePreRelease_asked, hpreRelease,
          left updates ⟨hlocked, proceeds⟩ c hconstraint hpreRelease,
          shouldBypassSignatureCheck_false]
        apply Bool.false_ne_true
      · use metadata, hmetadata
        rw [digest, hhash]

/-- Files of ordinary updates are renamed after their signatures have been accepted. -/
theorem renames_signed (run : (updateLts lib).Run (newDevice files) tr t)
    (left : ∀ e ∈ tr, NoCustomVersionLeft lib e.before e.action) :
  ∀ e ∈ tr, RenamesSigned lib e.action e.after.log
  := by
  intro e he
  obtain ⟨pinned, hafter⟩ := pinned_before run he
  rw [hafter]
  apply callStep_renamesSigned pinned (left e he)

/-- The key that a key server has in the example below. -/
def exampleKey : List UInt8 :=
  [0x2d]

/-- The fingerprint of the root key. -/
def exampleFingerprint : List UInt8 :=
  [0xaf, 0x5a, 0x36, 0xa9, 0x93, 0xd8, 0x28, 0xfe, 0xfe, 0x7c, 0x18, 0xc2, 0xd1, 0xb9, 0x85, 0x6c,
   0x26, 0xa7, 0x9e, 0x95]

/-- The libraries of the examples. They read the key, and accept one signature over `abc`. -/
def signedLibraries : Libraries (Nat × Nat × Nat) (List UInt8) :=
  { exampleLibraries with
    readArmoredKeyRing := fun key =>
      if key = exampleKey then .ok [exampleFingerprint] else .error "EOF"
    checkDetachedSignature := fun _ contents signature =>
      if contents = exampleFile ∧ signature = [0] then none else some "EOF" }

/-- The update of the application when the second key server has the key. -/
def signedCall : Call (Nat × Nat × Nat) :=
  { ordinaryCall [("app", "")] with
    surroundings :=
      { (ordinaryCall []).surroundings with
        component := fun c =>
          { (ordinaryCall []).surroundings.component c with
            keyservers :=
              { now := 0
                cancelled := fun _ => none
                keyserver := fun url =>
                  if url = "https://keys.openpgp.org/vks/v1/by-fingerprint/" ++ rootKeyFingerprint then
                    .notSent "EOF"
                  else .answered { statusCode := 200, body := exampleKey }
                cancelledAfter := none } } } }

/-- The file of an ordinary update is renamed after its signature has been accepted. -/
theorem renames_signed_ordinary :
  (callStep signedLibraries exampleDevice signedCall).log =
      [.update .app, .accept [exampleFingerprint] [0] exampleFile, .rename .app exampleFile,
        .reboot "/settings/general/update"] ∧
    RenamesSigned signedLibraries signedCall (callStep signedLibraries exampleDevice signedCall).log
  := by
  use by decide +kernel
  apply renames_signed (t := callStep signedLibraries exampleDevice signedCall)
    (Lts.Run.nil.snoc rfl) _ _ (List.mem_singleton_self _)
  intro e he updates _ c _ _
  obtain rfl := List.mem_singleton.mp he
  rfl

/-- An update to a custom version of the application fails, and the next ordinary update
renames a file without a signature. -/
theorem rename_not_signed :
  ¬ ∀ (tr : List (Lts.Transition (Device (List UInt8)) (Call (Nat × Nat × Nat)))) t,
    (updateLts exampleLibraries).Run exampleDevice tr t →
    ∀ e ∈ tr, RenamesSigned exampleLibraries e.action e.after.log
  := by
  intro claim
  have run := (Lts.Run.nil (L := updateLts exampleLibraries)
    (s := exampleDevice)).snoc (a := failedCall "0.4.1" "0.4.1") rfl
  have run' := run.snoc (a := ordinaryCall []) rfl
  have renamed : (exampleStep (exampleStep exampleDevice (failedCall "0.4.1" "0.4.1"))
      (ordinaryCall [])).log = [.update .app] ++ .rename .app exampleFile :: [.update .system] := by
    decide
  have signed := claim _ _ run' _ (List.mem_append_right _ (List.mem_singleton_self _)) .app rfl rfl
  obtain ⟨⟨_, _, accepted, -⟩, -⟩ := signed _ _ _ renamed _ rfl
  simp at accepted

end JetKvm.Ota
