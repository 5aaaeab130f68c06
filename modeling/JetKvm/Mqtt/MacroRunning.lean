import JetKvm.Library.Transition
import JetKvm.Text

/-!
# The macro that is shown to be running

Each macro command starts a goroutine that enters the macro as the running one, runs it and removes
it again. It is removed by its identifier, so that an older goroutine that runs the same macro
removes the entry of a newer one.
-/

namespace JetKvm.Mqtt

/-- The identifier of a macro in a topic, which is not empty. -/
abbrev MacroID :=
  { id : String // id ≠ "" }

/-! ### Commands -/

/-- `strings.EqualFold` with `PRESS`. The letter `S` has three cases. -/
def equalFoldPress (s : String) : Bool :=
  match s.toList with
  | [p, r, e, s, s'] =>
      p ∈ ['P', 'p'] && r ∈ ['R', 'r'] && e ∈ ['E', 'e'] && s ∈ ['S', 's', 'ſ'] &&
        s' ∈ ['S', 's', 'ſ']
  | _ => false

/-- The part of the topic between `macro` and `set`, if it is not empty. -/
def extractMacroIDFromTopic (topic : String) : Option MacroID :=
  match ((topic.toList.splitOn '/').map String.ofList).reverse with
  | last :: id :: kind :: _ =>
      if last = "set" ∧ kind = "macro" then
        if h : id ≠ "" then some ⟨id, h⟩ else none
      else none
  | _ => none

/-- The macro that a command is to run. `unmarshal` reads the field `id` of a body. -/
def handleMacroCommand (unmarshal : String → Option String) (actionsAllowed : Bool)
    (topic payload : String) : Option MacroID :=
  if actionsAllowed = false then none
  else
    (extractMacroIDFromTopic topic).bind fun id =>
      if id.val = "cancel" then none
      else if trimSpace payload = "" then some id
      else if equalFoldPress (trimSpace payload) then some id
      else if (trimSpace payload).toList.head? = some '\x7b' then
        (unmarshal (trimSpace payload)).bind fun bodyID =>
          if bodyID ≠ "" ∧ bodyID ≠ id.val then none else some id
      else none

/-- Whether a command cancels the macro. -/
def handleMacroCancelCommand (actionsAllowed : Bool) (payload : String) : Bool :=
  actionsAllowed && equalFoldPress (trimSpace payload)

/-- The identifier of the running macro, after a macro has been entered or removed. -/
def setMacroRunning (macroRunningID id : String) (running : Bool) : String :=
  if running then id
  else if id = "" ∨ macroRunningID = id then ""
  else macroRunningID

/-! ### Runs -/

/-- Where the goroutine of a macro is. -/
inductive MacroPhase where
  | waiting
  | running
  | finished
deriving DecidableEq, Repr

/-- The goroutine of a command. -/
structure MacroGoroutine where
  id : MacroID
  phase : MacroPhase
deriving DecidableEq, Repr

/-- A command arrives, or a goroutine enters its macro or removes it. -/
inductive MacroEvent where
  | command (actionsAllowed : Bool) (topic payload : String)
  | cancel (actionsAllowed : Bool) (payload : String)
  | start (goroutine : ℕ)
  | finish (goroutine : ℕ)
deriving DecidableEq, Repr

/-- The running macro, the goroutines, and the one that was started last, unless a cancellation has
come since. -/
structure MacroPublisher where
  macroRunningID : String
  goroutines : List MacroGoroutine
  newest : Option ℕ
deriving DecidableEq, Repr

namespace MacroPublisher

def new : MacroPublisher where
  macroRunningID := ""
  goroutines := []
  newest := none

/-- A goroutine goes on. -/
def setPhase (m : MacroPublisher) (i : ℕ) (id : MacroID) (phase : MacroPhase) : MacroPublisher :=
  { m with goroutines := m.goroutines.set i ⟨id, phase⟩ }

/-- A goroutine enters its macro. -/
def start (m : MacroPublisher) (i : ℕ) : Option MacroPublisher :=
  m.goroutines[i]?.bind fun goroutine =>
    if goroutine.phase = .waiting then
      some { m.setPhase i goroutine.id .running with
        macroRunningID := setMacroRunning m.macroRunningID goroutine.id true
        newest := some i }
    else none

/-- A goroutine removes its macro. -/
def finish (m : MacroPublisher) (i : ℕ) : Option MacroPublisher :=
  m.goroutines[i]?.bind fun goroutine =>
    if goroutine.phase = .running then
      some { m.setPhase i goroutine.id .finished with
        macroRunningID := setMacroRunning m.macroRunningID goroutine.id false }
    else none

/-- The next state. -/
def step (unmarshal : String → Option String) (m : MacroPublisher) :
    MacroEvent → Option MacroPublisher
  | .command actionsAllowed topic payload =>
      match handleMacroCommand unmarshal actionsAllowed topic payload with
      | some id => some { m with goroutines := m.goroutines ++ [⟨id, .waiting⟩] }
      | none => some m
  | .cancel actionsAllowed payload =>
      if handleMacroCancelCommand actionsAllowed payload then
        some { m with macroRunningID := setMacroRunning m.macroRunningID "" false, newest := none }
      else some m
  | .start i => m.start i
  | .finish i => m.finish i

def lts (unmarshal : String → Option String) : Lts MacroPublisher MacroEvent :=
  Lts.ofStep (step unmarshal)

/-- The goroutine was started last, has not finished, and no cancellation has come since. -/
def IsNewest (m : MacroPublisher) (i : ℕ) (id : MacroID) : Prop :=
  m.newest = some i ∧ m.goroutines[i]? = some ⟨id, .running⟩

/-- The running macro is the one of the goroutine that was started last. -/
def ShowsNewest (m : MacroPublisher) : Prop :=
  ∀ i id, m.IsNewest i id → m.macroRunningID = id

/-- A goroutine that finishes is the newest one itself, or runs another macro. -/
def FinishesApart (m : MacroPublisher) : MacroEvent → Prop
  | .finish i => ∀ j id, m.IsNewest j id → j ≠ i → (m.goroutines[i]?.map MacroGoroutine.id) ≠ some id
  | .command _ _ _ => True
  | .cancel _ _ => True
  | .start _ => True

variable {m m' : MacroPublisher} {i j : ℕ} {id : MacroID} {event : MacroEvent}
  {unmarshal : String → Option String}

/-- What is to hold of the newest goroutine, if it runs. -/
theorem forall_isNewest {P : ℕ → MacroID → Prop} :
  (∀ i id, m.IsNewest i id → P i id) ↔
    ∀ i ∈ m.newest, ∀ goroutine ∈ m.goroutines[i]?, goroutine.phase = .running → P i goroutine.id
  := by
  constructor
  · rintro h i hnewest ⟨id, phase⟩ hgoroutine rfl
    apply h i id ⟨hnewest, hgoroutine⟩
  · rintro h i id ⟨hnewest, hgoroutine⟩
    apply h i hnewest ⟨id, .running⟩ hgoroutine rfl

instance (m : MacroPublisher) : Decidable m.ShowsNewest :=
  decidable_of_iff _ forall_isNewest.symm

instance (m : MacroPublisher) (event : MacroEvent) : Decidable (m.FinishesApart event) :=
  match event with
  | .finish _ => decidable_of_iff _ forall_isNewest.symm
  | .command _ _ _ => .isTrue trivial
  | .cancel _ _ => .isTrue trivial
  | .start _ => .isTrue trivial

theorem showsNewest_new :
  new.ShowsNewest
  := by
  rintro i id ⟨hnewest, -⟩
  cases hnewest

/-- A command keeps the newest goroutine. -/
theorem ShowsNewest.command (h : m.ShowsNewest) (id : MacroID) :
  ShowsNewest { m with goroutines := m.goroutines ++ [⟨id, .waiting⟩] }
  := by
  rintro i id' ⟨hnewest, hrunning⟩
  rw [List.getElem?_append] at hrunning
  split at hrunning
  · apply h i id' ⟨hnewest, hrunning⟩
  · have hwaiting := List.mem_singleton.mp (List.mem_of_getElem? hrunning)
    cases hwaiting

/-- A goroutine that starts is the newest one. -/
theorem showsNewest_of_start (hstart : m.start i = some m') :
  m'.ShowsNewest
  := by
  obtain ⟨goroutine, hgoroutine, hstart⟩ := Option.bind_eq_some_iff.mp hstart
  obtain ⟨-, hstart⟩ := Option.ite_none_right_eq_some.mp hstart
  obtain rfl := Option.some.inj hstart
  rintro j id ⟨hnewest, hrunning⟩
  obtain rfl := Option.some.inj hnewest
  obtain ⟨hlt, -⟩ := List.getElem?_eq_some_iff.mp hgoroutine
  rw [setPhase, List.getElem?_set_self hlt] at hrunning
  obtain ⟨rfl, -⟩ := MacroGoroutine.mk.inj (Option.some.inj hrunning)
  rfl

/-- A macro that is removed is the running one or not, and has an identifier. -/
theorem setMacroRunning_false (macroRunningID : String) (id : MacroID) :
  setMacroRunning macroRunningID id false = if macroRunningID = id then "" else macroRunningID
  := by
  simp [setMacroRunning, id.property]

/-- What a goroutine that finishes leaves. -/
theorem finish_eq_some (hfinish : m.finish i = some m') :
  ∃ id, m.goroutines[i]? = some ⟨id, .running⟩ ∧
    m'.macroRunningID = (if m.macroRunningID = id.val then "" else m.macroRunningID) ∧
    ∀ j id', m'.IsNewest j id' ↔ m.IsNewest j id' ∧ j ≠ i
  := by
  obtain ⟨⟨id, phase⟩, hgoroutine, hfinish⟩ := Option.bind_eq_some_iff.mp hfinish
  obtain ⟨rfl, hfinish⟩ := Option.ite_none_right_eq_some.mp hfinish
  obtain rfl := Option.some.inj hfinish
  use id, hgoroutine
  constructor
  · apply setMacroRunning_false
  · intro j id'
    rw [IsNewest, IsNewest, setPhase, List.getElem?_set]
    by_cases hij : i = j
    · subst hij
      simp [hgoroutine]
    · simp [hij, Ne.symm hij]

/-- The running macro stays the one of the newest goroutine exactly when the goroutine that
finishes is that one or runs another macro. -/
theorem ShowsNewest.finish_iff (h : m.ShowsNewest) (hfinish : m.finish i = some m') :
  m'.ShowsNewest ↔ m.FinishesApart (.finish i)
  := by
  obtain ⟨id, hgoroutine, hrunning, hnewest⟩ := finish_eq_some hfinish
  rw [FinishesApart, hgoroutine]
  constructor
  · intro hshows j id' hj hne heq
    obtain rfl := Option.some.inj heq
    have hbefore := h j id hj
    have hafter := hshows j id ((hnewest j id).mpr ⟨hj, hne⟩)
    rw [hrunning, if_pos hbefore] at hafter
    exact id.property hafter.symm
  · intro hapart j id' hj
    obtain ⟨hj, hne⟩ := (hnewest j id').mp hj
    have hbefore := h j id' hj
    have hid : m.macroRunningID ≠ id.val := by
      rw [hbefore]
      intro heq
      apply hapart j id' hj hne
      rw [Option.map_some, Subtype.ext heq]
    rw [hrunning, if_neg hid, hbefore]

/-- A step keeps the running macro the one of the newest goroutine exactly when it is not a
goroutine that finishes while a newer one runs the same macro. -/
theorem ShowsNewest.step_iff (h : m.ShowsNewest) (hstep : m.step unmarshal event = some m') :
  m'.ShowsNewest ↔ m.FinishesApart event
  := by
  cases event with
  | command actionsAllowed topic payload =>
      apply iff_of_true _ trivial
      rw [MacroPublisher.step] at hstep
      split at hstep
      · obtain rfl := Option.some.inj hstep
        apply h.command
      · obtain rfl := Option.some.inj hstep
        apply h
  | cancel actionsAllowed payload =>
      apply iff_of_true _ trivial
      rw [MacroPublisher.step] at hstep
      split at hstep
      · obtain rfl := Option.some.inj hstep
        rintro i id ⟨hnewest, -⟩
        cases hnewest
      · obtain rfl := Option.some.inj hstep
        apply h
  | start i =>
      apply iff_of_true _ trivial
      apply showsNewest_of_start hstep
  | finish i => apply h.finish_iff hstep

/-- Whatever order the goroutines start and finish in, the running macro is always the one of the
newest goroutine exactly when no goroutine finishes while a newer one runs the same macro. -/
theorem shows_newest_iff {tr : List (Lts.Transition MacroPublisher MacroEvent)}
    (run : (lts unmarshal).Run new tr m) :
  (∀ e ∈ tr, e.after.ShowsNewest) ↔ ∀ e ∈ tr, e.before.FinishesApart e.action
  := by
  apply run.forall_iff showsNewest_new
  · intro e hshows hstep
    apply hshows.step_iff hstep
  · intro e hapart hshows hstep
    apply (hshows.step_iff hstep).mpr hapart

/-- Two macros overlap, and the older one finishes first. -/
theorem shows_newest_two_macros :
  ∃ tr m, (lts fun _ => none).Run new tr m ∧ m.macroRunningID = "b" ∧
    ∀ e ∈ tr, e.after.ShowsNewest
  := by
  obtain ⟨tr, m, run, -, hapart, hrunning⟩ := Lts.exists_run_of_restrict
    (step fun _ => none) FinishesApart new
    [.command true "jetkvm/macro/a/set" "", .command true "jetkvm/macro/b/set" "PRESS", .start 0,
      .start 1, .finish 0]
    macroRunningID (by decide +kernel : _ = some "b")
  use tr, m, run, hrunning
  apply (shows_newest_iff run).mpr hapart

/-- A macro is started twice, and the first goroutine finishes. -/
theorem newest_not_shown :
  ¬ ∀ (tr : List (Lts.Transition MacroPublisher MacroEvent)) (m : MacroPublisher),
      (lts fun _ => none).Run new tr m → ∀ e ∈ tr, e.after.ShowsNewest
  := by
  intro claim
  obtain ⟨tr, m, run, hactions, hshows⟩ := Lts.exists_run_of_observe (step fun _ => none) new
    [.command true "jetkvm/macro/a/set" "", .command true "jetkvm/macro/a/set" "", .start 0,
      .start 1, .finish 0]
    (fun m => decide m.ShowsNewest) (by decide +kernel : _ = some false)
  have hhidden := of_decide_eq_false hshows
  cases run with
  | nil => cases hactions
  | snoc run last =>
      have hlast := claim _ m (run.snoc last) _
        (List.mem_append_right _ (List.mem_singleton_self _))
      exact hhidden hlast

end MacroPublisher

end JetKvm.Mqtt
