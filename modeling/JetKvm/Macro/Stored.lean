import JetKvm.Macro.Compile

/-!
# Macros that are stored and those that can be run

A macro is validated when it is stored and converted when it is run. The validator allows ten keys
in a step and the converter as many as a keyboard report holds, so that a stored macro can be run
exactly when none of its steps has more keys than that.
-/

namespace JetKvm.Macro

open HidRpc (KeyboardMacroStep)

/-! ### The validator -/

def MaxStepsPerMacro : ℕ := 10
def MaxKeysPerStep : ℕ := 10
def MinStepDelay : ℤ := 50
def MaxStepDelay : ℤ := 2000

/-- A stored macro. -/
structure KeyboardMacro where
  id : String
  name : String
  steps : List MacroStep
deriving DecidableEq, Repr

/-- The step with its delay put within the limits, unless it has too many keys. -/
def MacroStep.Validate (step : MacroStep) : Except String MacroStep :=
  if step.keys.length > MaxKeysPerStep then
    .error s!"too many keys in step (max {MaxKeysPerStep})"
  else if step.delay < MinStepDelay then .ok { step with delay := MinStepDelay }
  else if step.delay > MaxStepDelay then .ok { step with delay := MaxStepDelay }
  else .ok step

/-- The loop of `KeyboardMacro.Validate` from the step of index `i`. -/
def validateSteps (i : ℕ) : List MacroStep → Except String (List MacroStep)
  | [] => .ok []
  | step :: steps =>
      match step.Validate with
      | .error err => .error s!"invalid step {i + 1}: {err}"
      | .ok valid => (validateSteps (i + 1) steps).map (valid :: ·)

/-- The macro as it is stored, unless it is refused. -/
def KeyboardMacro.Validate (stored : KeyboardMacro) : Except String KeyboardMacro :=
  if stored.name = "" then .error "macro name cannot be empty"
  else if stored.steps.length = 0 then .error "macro must have at least one step"
  else if stored.steps.length > MaxStepsPerMacro then
    .error s!"too many steps in macro (max {MaxStepsPerMacro})"
  else (validateSteps 0 stored.steps).map fun steps => { stored with steps }

/-! ### Valid macros -/

/-- The step with its delay put within the limits. -/
def MacroStep.clamp (step : MacroStep) : MacroStep :=
  { step with delay := max MinStepDelay (min MaxStepDelay step.delay) }

@[simp]
theorem MacroStep.clamp_keys (step : MacroStep) : step.clamp.keys = step.keys := rfl

@[simp]
theorem MacroStep.clamp_modifiers (step : MacroStep) : step.clamp.modifiers = step.modifiers := rfl

theorem MacroStep.clamp_delay (step : MacroStep) :
  50 ≤ step.clamp.delay ∧ step.clamp.delay ≤ 2000
  := by
  rw [clamp, MinStepDelay, MaxStepDelay]
  dsimp only
  omega

/-- A step that is accepted has had its delay put within the limits, and nothing else changed. -/
theorem MacroStep.Validate_eq_ok {step valid : MacroStep} (h : step.Validate = .ok valid) :
  step.keys.length ≤ MaxKeysPerStep ∧ valid = step.clamp
  := by
  rw [Validate] at h
  by_cases hkeys : step.keys.length > MaxKeysPerStep
  · rw [if_pos hkeys] at h
    cases h
  · rw [if_neg hkeys] at h
    use Nat.le_of_not_lt hkeys
    rw [clamp]
    by_cases hlow : step.delay < MinStepDelay
    · rw [if_pos hlow] at h
      rw [← Except.ok.inj h]
      congr 1
      dsimp only [MinStepDelay, MaxStepDelay] at *
      omega
    · rw [if_neg hlow] at h
      by_cases hhigh : step.delay > MaxStepDelay
      · rw [if_pos hhigh] at h
        rw [← Except.ok.inj h]
        congr 1
        dsimp only [MinStepDelay, MaxStepDelay] at *
        omega
      · rw [if_neg hhigh] at h
        rw [← Except.ok.inj h]
        obtain ⟨keys, modifiers, delay⟩ := step
        congr 1
        dsimp only [MinStepDelay, MaxStepDelay] at *
        omega

theorem validateSteps_eq_ok {steps valid : List MacroStep} {i : ℕ}
    (h : validateSteps i steps = .ok valid) :
  (∀ step ∈ steps, step.keys.length ≤ MaxKeysPerStep) ∧ valid = steps.map MacroStep.clamp
  := by
  induction steps generalizing i valid with
  | nil =>
      rw [← Except.ok.inj h]
      simp
  | cons step steps ih =>
      rw [validateSteps] at h
      cases hstep : step.Validate with
      | error err =>
          rw [hstep] at h
          cases h
      | ok first =>
          rw [hstep] at h
          cases hrest : validateSteps (i + 1) steps with
          | error err =>
              rw [hrest] at h
              cases h
          | ok rest =>
              rw [hrest] at h
              obtain ⟨hkeys, rfl⟩ := MacroStep.Validate_eq_ok hstep
              obtain ⟨hothers, rfl⟩ := ih hrest
              rw [← Except.ok.inj h, List.forall_mem_cons, List.map_cons]
              exact ⟨⟨hkeys, hothers⟩, rfl⟩

/-- A macro that is accepted has had its delays put within the limits, and nothing else changed. -/
theorem KeyboardMacro.Validate_eq_ok {stored valid : KeyboardMacro}
    (h : stored.Validate = .ok valid) :
  valid = { stored with steps := stored.steps.map MacroStep.clamp }
  := by
  rw [Validate] at h
  split_ifs at h
  cases hsteps : validateSteps 0 stored.steps with
  | error err =>
      rw [hsteps] at h
      cases h
  | ok steps =>
      rw [hsteps] at h
      rw [← Except.ok.inj h, (validateSteps_eq_ok hsteps).2]

/-! ### Running a stored macro -/

/-- The names of the step are in the tables of the device. -/
structure Named (step : MacroStep) : Prop where
  keys : ∀ name ∈ step.keys, (List.lookup name hidKeys).isSome
  modifiers : ∀ name ∈ step.modifiers, (List.lookup name hidModifiers).isSome

/-- All keys are released, for the delay of the step. -/
structure IsRelease (step : MacroStep) (release : KeyboardMacroStep) : Prop where
  modifier : release.modifier = 0
  keys : release.keys = List.replicate hidKeyBufferSize 0
  delay : (release.delay.toNat : ℤ) = step.delay

/-- The macro is converted to two steps for each of its steps that is not empty, in their order, the
second of which is the release. -/
def Runs (stored : KeyboardMacro) : Prop :=
  ∃ pairs : List (KeyboardMacroStep × KeyboardMacroStep),
    convertConfigMacroToHidSteps stored.id stored.steps =
      .ok (pairs.flatMap fun pair => [pair.1, pair.2]) ∧
    List.Forall₂ (fun step pair => IsRelease step pair.2)
      (stored.steps.filter fun step => ¬ Empty step) pairs

/-- A step whose names are in the tables of the device is known once its delay is within the limits,
when its keys fit into a report. -/
theorem Named.known {step : MacroStep} (h : Named step)
    (hfew : step.keys.length ≤ hidKeyBufferSize) :
  Known step.clamp
  := by
  constructor
  · intro name hname
    have hdevice := h.keys name hname
    use (Option.isSome_map (f := UInt8.ofNat)).symm.trans
      (by rwa [← lookup_map, ← hidKeys_eq])
  · intro name hname
    have hdevice := h.modifiers name hname
    use (Option.isSome_map (f := UInt8.ofNat)).symm.trans
      (by rwa [← lookup_map, ← hidModifiers_eq])
  · exact hfew
  · exact step.clamp_delay

/-- What is made of the steps that are not empty, a pair for each. -/
theorem flatMap_deviceSteps (steps : List MacroStep) :
  (steps.flatMap fun step => if Empty step then [] else deviceSteps step) =
    (steps.filter fun step => ¬ Empty step).flatMap deviceSteps
  := by
  induction steps with
  | nil => rfl
  | cons step steps ih =>
      rw [List.flatMap_cons, ih]
      by_cases hempty : Empty step
      · rw [if_pos hempty, List.filter_cons_of_neg (by simpa using hempty), List.nil_append]
      · rw [if_neg hempty, List.filter_cons_of_pos (by simpa using hempty), List.flatMap_cons]

/-- The press and the release that the device makes of a step. -/
def devicePair (step : MacroStep) : KeyboardMacroStep × KeyboardMacroStep :=
  ({ modifier := UInt8.ofNat ((masks step).foldr (· ||| ·) 0)
     keys := (codes step).map UInt8.ofNat ++
      List.replicate (hidKeyBufferSize - (codes step).length) 0
     delay := 20 },
   { modifier := 0, keys := List.replicate hidKeyBufferSize 0
     delay := UInt16.ofNat step.delay.toNat })

theorem flatMap_devicePair (steps : List MacroStep) :
  steps.flatMap deviceSteps = (steps.map devicePair).flatMap fun pair => [pair.1, pair.2]
  := by
  rw [List.flatMap_map]
  rfl

/-- The second of the steps that are made of a step is its release. -/
theorem Known.isRelease {step : MacroStep} (h : Known step) :
  IsRelease step (devicePair step).2
  := by
  constructor
  · rfl
  · rfl
  · have hdelay := h.delay
    rw [devicePair]
    dsimp only
    rw [UInt16.toNat_ofNat']
    omega

theorem convertStep_error {step : MacroStep} (hmany : hidKeyBufferSize < step.keys.length) :
  convertStep step = .error .tooManyKeys
  := by
  rw [convertStep, if_neg fun hnone => by omega, configKeysToHID, if_pos hmany]
  rfl

/-- A step that is not converted stops the conversion. -/
theorem exists_convertStep_of_ok {id : String} {steps : List MacroStep}
    {converted : List KeyboardMacroStep}
    (h : convertConfigMacroToHidSteps id steps = .ok converted) {step : MacroStep}
    (hstep : step ∈ steps) :
  ∃ part, convertStep step = .ok part
  := by
  cases hparts : steps.mapM convertStep with
  | error err =>
      rw [convertConfigMacroToHidSteps, hparts] at h
      cases h
  | ok parts =>
      clear h
      induction steps generalizing parts with
      | nil => cases hstep
      | cons first steps ih =>
          rw [List.mapM_cons] at hparts
          cases hfirst : convertStep first with
          | error err =>
              rw [hfirst] at hparts
              cases hparts
          | ok part =>
              rw [hfirst] at hparts
              cases hrest : steps.mapM convertStep with
              | error err =>
                  rw [hrest] at hparts
                  cases hparts
              | ok rest =>
                  obtain rfl | hmem := List.mem_cons.mp hstep
                  · exact ⟨part, hfirst⟩
                  · exact ih hmem rest hrest

/-- A macro that was accepted, whose names are known and which has a step that is not empty can be
run exactly when no step has more keys than a report. -/
theorem runs_iff {stored valid : KeyboardMacro} (hvalid : stored.Validate = .ok valid)
    (hnamed : ∀ step ∈ stored.steps, Named step)
    (hsome : ∃ step ∈ stored.steps, ¬ Empty step) :
  Runs valid ↔ ∀ step ∈ stored.steps, step.keys.length ≤ hidKeyBufferSize
  := by
  obtain rfl := KeyboardMacro.Validate_eq_ok hvalid
  constructor
  · rintro ⟨pairs, hconvert, -⟩ step hstep
    obtain ⟨part, hpart⟩ := exists_convertStep_of_ok hconvert (List.mem_map_of_mem hstep)
    rw [← not_lt]
    intro hmany
    rw [@convertStep_error step.clamp hmany] at hpart
    cases hpart
  · intro hfew
    have hknown : ∀ step ∈ stored.steps.map MacroStep.clamp, Known step := by
      rw [List.forall_mem_map]
      exact fun step hstep => (hnamed step hstep).known (hfew step hstep)
    have hconvert := convertConfigMacroToHidSteps_eq hknown stored.id
    rw [flatMap_deviceSteps, flatMap_devicePair] at hconvert
    use ((stored.steps.map MacroStep.clamp).filter fun step => ¬ Empty step).map devicePair
    constructor
    · rw [hconvert, if_neg]
      obtain ⟨step, hstep, hempty⟩ := hsome
      rw [← flatMap_devicePair, List.length_eq_zero_iff, List.flatMap_eq_nil_iff]
      intro hnone
      have hmem : step.clamp ∈ (stored.steps.map MacroStep.clamp).filter fun step => ¬ Empty step :=
        List.mem_filter.mpr ⟨List.mem_map_of_mem hstep, decide_eq_true hempty⟩
      cases hnone _ hmem
    · rw [List.forall₂_map_right_iff, List.forall₂_same]
      intro step hstep
      exact (hknown step (List.mem_filter.mp hstep).1).isRelease

/-- The macro that is run, for a step with no more than six keys. -/
def sixKeys : KeyboardMacro :=
  { id := "six", name := "Six keys"
    steps := [{ keys := ["KeyA", "KeyB", "KeyC", "KeyD", "KeyE", "KeyF"], modifiers := [],
                delay := 10 }] }

theorem runs_iff_sixKeys :
  Runs { sixKeys with steps := sixKeys.steps.map MacroStep.clamp } ↔
    ∀ step ∈ sixKeys.steps, step.keys.length ≤ hidKeyBufferSize
  := by
  apply runs_iff rfl
  · intro step hstep
    obtain rfl := List.mem_singleton.mp hstep
    constructor
    · decide
    · exact fun name hname => by cases hname
  · exact ⟨_, List.mem_singleton_self _, by decide⟩

/-- A macro with seven keys in its only step. -/
def sevenKeys : KeyboardMacro :=
  { id := "seven", name := "Seven keys"
    steps := [{ keys := ["KeyA", "KeyB", "KeyC", "KeyD", "KeyE", "KeyF", "KeyG"], modifiers := [],
                delay := 100 }] }

/-- It is accepted as it is, its names are known, and it is not converted. -/
theorem not_runs_sevenKeys :
  sevenKeys.Validate = .ok sevenKeys ∧
  (∀ step ∈ sevenKeys.steps, Named step ∧ ¬ Empty step) ∧
  convertConfigMacroToHidSteps sevenKeys.id sevenKeys.steps = .error .tooManyKeys ∧
  ¬ Runs sevenKeys
  := by
  have hnot : convertConfigMacroToHidSteps sevenKeys.id sevenKeys.steps = .error .tooManyKeys :=
    rfl
  constructor
  · rfl
  · constructor
    · intro step hstep
      obtain rfl := List.mem_singleton.mp hstep
      constructor
      · constructor
        · decide
        · exact fun name hname => by cases hname
      · decide
    · use hnot
      rintro ⟨pairs, hconvert, -⟩
      rw [hnot] at hconvert
      cases hconvert

end JetKvm.Macro
