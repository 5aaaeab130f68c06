import JetKvm.Library.Channel
import JetKvm.Library.ThreadPool
import JetKvm.Keyboard.Gadget
import Mathlib.Data.Fintype.Basic

/-!
# Reports of the keys that are down

Whenever the keys that are down change, the new state is put into a queue of the session, from
which a consumer of its own reports it to the browser. A goroutine that changes the state puts
it into the queue afterwards, outside the lock of the state, and does not wait when the queue is
full. The browser ends up with the real state as long as the last of the goroutines that are
about to do so puts the current state into the queue.
-/

namespace JetKvm

def keysDownStateQueueSize : Nat := 64

/-- The gadget, the states that goroutines are about to put into the queue, the queue of the
session, the state that its consumer has taken, and the states that have been handed to
`reportHidRPCKeysDownState`, newest first. -/
structure KeysDownSession (Thread : Type*) where
  gadget : UsbGadget
  enqueuing : Thread → Option KeysDownState
  keysDownStateQueue : Channel KeysDownState keysDownStateQueueSize
  taken : Option KeysDownState
  reported : List KeysDownState

/-- A goroutine runs `UpdateKeysDown` up to its callback, or the callback; or the consumer takes
a state from the queue, or reports it. -/
inductive KeysDownAction (Thread : Type*) where
  | updateKeysDown (i : Thread) (modifier : UInt8) (keys : List UInt8)
  | enqueueKeysDownState (i : Thread)
  | receive
  | report
deriving DecidableEq, Repr

namespace KeysDownSession

variable {Thread : Type*}

/-- A new session. -/
def new (u : UsbGadget) : KeysDownSession Thread where
  gadget := u
  enqueuing _ := none
  keysDownStateQueue := .empty
  taken := none
  reported := []

/-- The state that has been sent last to the browser, or will be when the queue has run empty. -/
def latest (s : KeysDownSession Thread) : Option KeysDownState :=
  s.keysDownStateQueue.newest (s.taken.or s.reported.head?)

/-- The queue is empty, the consumer waits, and no goroutine is about to put a state into the
queue. -/
def Quiet (s : KeysDownSession Thread) : Prop :=
  s.keysDownStateQueue.items = [] ∧ s.taken = none ∧ ∀ i, s.enqueuing i = none

/-- The latest state has been reported when everything is quiet. -/
theorem latest_of_quiet {t : KeysDownSession Thread} (quiet : t.Quiet) :
  t.latest = t.reported.head?
  := by
  obtain ⟨hqueue, htaken, -⟩ := quiet
  rw [latest, Channel.newest_of_items_eq_nil hqueue, htaken]
  rfl

variable [DecidableEq Thread]

/-- The next state. A goroutine that is about to put a state into the queue does nothing else,
and a state that finds the queue full is dropped. -/
def step (s : KeysDownSession Thread) : KeysDownAction Thread → Option (KeysDownSession Thread)
  | .updateKeysDown i modifier keys =>
      if s.enqueuing i = none then
        let updated := s.gadget.updateKeysDown modifier keys
        if s.gadget.keysDownState = updated.2 then some { s with gadget := updated.1 }
        else
          some
            { s with
              gadget := updated.1
              enqueuing := Function.update s.enqueuing i (some updated.2) }
      else none
  | .enqueueKeysDownState i =>
      (s.enqueuing i).map fun state =>
        { s with
          enqueuing := Function.update s.enqueuing i none
          keysDownStateQueue :=
            (s.keysDownStateQueue.trySend state).getD s.keysDownStateQueue }
  | .receive =>
      if s.taken = none then
        s.keysDownStateQueue.receive.map fun next =>
          { s with taken := some next.1, keysDownStateQueue := next.2 }
      else none
  | .report =>
      s.taken.map fun state =>
        { s with taken := none, reported := state :: s.reported }

/-- Sessions with any number of goroutines that change the state. -/
def lts : Lts (KeysDownSession Thread) (KeysDownAction Thread) :=
  Lts.ofStep step

/-- A transition changes the state. -/
def Changes (e : Lts.Transition (KeysDownSession Thread) (KeysDownAction Thread)) : Prop :=
  e.after.gadget.keysDownState ≠ e.before.gadget.keysDownState

/-- If goroutine `i` is the only one that is about to put a state into the queue, this is the
current state and the queue has room for it; or the queue is full and the current state has been
put into it last. -/
def Delivers (s : KeysDownSession Thread) (i : Thread) : Prop :=
  (∀ j, j ≠ i → s.enqueuing j = none) →
    if s.keysDownStateQueue.items.length = keysDownStateQueueSize then
      s.latest = some s.gadget.keysDownState
    else s.enqueuing i = some s.gadget.keysDownState

/-- The condition of `Delivers` for the actions that put a state into the queue. -/
def ActionDelivers (s : KeysDownSession Thread) : KeysDownAction Thread → Prop
  | .enqueueKeysDownState i => s.Delivers i
  | _ => True

instance [Fintype Thread] (s : KeysDownSession Thread) (a : KeysDownAction Thread) :
    Decidable (s.ActionDelivers a) :=
  match a with
  | .enqueueKeysDownState _ => inferInstanceAs (Decidable (_ → _))
  | .updateKeysDown .. => inferInstanceAs (Decidable True)
  | .receive => inferInstanceAs (Decidable True)
  | .report => inferInstanceAs (Decidable True)

variable {s t : KeysDownSession Thread} {u : UsbGadget} {i : Thread} {modifier : UInt8}
  {keys : List UInt8} {e : Lts.Transition (KeysDownSession Thread) (KeysDownAction Thread)}
  {tr : List (Lts.Transition (KeysDownSession Thread) (KeysDownAction Thread))}

/-! ### One step -/

/-- A change of the state is on its way into the queue. -/
theorem updateKeysDown_cases (h : s.step (.updateKeysDown i modifier keys) = some t) :
  t.gadget.keysDownState = s.gadget.keysDownState ∧ t.latest = s.latest ∧
      t.enqueuing = s.enqueuing ∨
    t.enqueuing i = some t.gadget.keysDownState
  := by
  obtain ⟨-, hnext⟩ := Option.ite_none_right_eq_some.mp h
  have hstate := s.gadget.updateKeysDown_keysDownState modifier keys
  rw [s.gadget.updateKeysDown_snd] at hnext
  split at hnext
  · rename_i hsame
    obtain rfl := Option.some.inj hnext
    left
    rw [← hsame] at hstate
    exact ⟨hstate, rfl, rfl⟩
  · obtain rfl := Option.some.inj hnext
    right
    dsimp only
    rw [Function.update_self, hstate]

/-- Putting a state into the queue changes nothing else. -/
theorem enqueueKeysDownState_eq (h : s.step (.enqueueKeysDownState i) = some t) :
  ∃ state, s.enqueuing i = some state ∧ t.gadget = s.gadget ∧
    t.enqueuing = Function.update s.enqueuing i none ∧
    (s.keysDownStateQueue.items.length = keysDownStateQueueSize ∧ t.latest = s.latest ∨
      s.keysDownStateQueue.items.length ≠ keysDownStateQueueSize ∧ t.latest = some state)
  := by
  obtain ⟨state, hstate, rfl⟩ := Option.map_eq_some_iff.mp h
  refine ⟨state, hstate, rfl, rfl, ?_⟩
  cases hsend : s.keysDownStateQueue.trySend state with
  | none =>
      left
      use Channel.trySend_eq_none_iff.mp hsend
      simp only [latest, Option.getD_none]
  | some queue =>
      right
      constructor
      · intro hfull
        rw [Channel.trySend_eq_none_iff.mpr hfull] at hsend
        cases hsend
      · simp only [latest, Option.getD_some, Channel.newest_trySend hsend]

/-- Taking a state from the queue leaves the latest state the latest. -/
theorem receive_eq (h : s.step .receive = some t) :
  t.gadget = s.gadget ∧ t.enqueuing = s.enqueuing ∧ t.latest = s.latest
  := by
  obtain ⟨-, hnext⟩ := Option.ite_none_right_eq_some.mp h
  obtain ⟨⟨state, queue⟩, hreceive, rfl⟩ := Option.map_eq_some_iff.mp hnext
  refine ⟨rfl, rfl, ?_⟩
  apply Channel.newest_receive hreceive

/-- Reporting a state leaves the latest state the latest. -/
theorem report_eq (h : s.step .report = some t) :
  t.gadget = s.gadget ∧ t.enqueuing = s.enqueuing ∧ t.latest = s.latest
  := by
  obtain ⟨state, htaken, rfl⟩ := Option.map_eq_some_iff.mp h
  refine ⟨rfl, rfl, ?_⟩
  rw [latest, latest, htaken]
  rfl

/-- The state that has been put into the queue by the last of the goroutines that were about to
is the latest exactly when it is the current state and has found room, or it has been dropped
after the same state. -/
theorem latest_iff_delivers (h : s.step (.enqueueKeysDownState i) = some t)
    (hnone : ∀ j, t.enqueuing j = none) :
  t.latest = some t.gadget.keysDownState ↔ s.Delivers i
  := by
  obtain ⟨state, hstate, hgadget, henqueuing, hqueue⟩ := enqueueKeysDownState_eq h
  have hlast : ∀ j, j ≠ i → s.enqueuing j = none := by
    intro j hj
    have hj' := hnone j
    rwa [henqueuing, Function.update_of_ne hj] at hj'
  rw [Delivers, imp_iff_right hlast, hgadget, hstate]
  rcases hqueue with ⟨hfull, hlatest⟩ | ⟨hroom, hlatest⟩
  · rw [if_pos hfull, hlatest]
  · rw [if_neg hroom, hlatest]

/-! ### Runs -/

/-- Unless a goroutine is about to put a state into the queue, the latest state is the current
one once the state has changed. -/
theorem latest_of_run (run : lts.Run (new u) tr t)
    (delivers : ∀ e ∈ tr, e.before.ActionDelivers e.action) (changes : ∃ e ∈ tr, Changes e)
    (hnone : ∀ i, t.enqueuing i = none) :
  t.latest = some t.gadget.keysDownState
  := by
  induction run with
  | nil =>
      obtain ⟨e, he, -⟩ := changes
      cases he
  | @snoc tr s t a run step ih =>
      have earlier : ¬ Changes ⟨s, a, t⟩ → ∃ e ∈ tr, Changes e := by
        intro hlast
        obtain ⟨e, he, hchange⟩ := changes
        rcases List.mem_append.mp he with he | he
        · exact ⟨e, he, hchange⟩
        · obtain rfl := List.mem_singleton.mp he
          exact absurd hchange hlast
      have before : t.gadget.keysDownState = s.gadget.keysDownState →
          t.enqueuing = s.enqueuing → s.latest = some s.gadget.keysDownState := by
        intro hgadget henqueuing
        apply ih
        · intro e he
          apply delivers e (List.mem_append_left _ he)
        · apply earlier
          exact not_not_intro hgadget
        · rw [← henqueuing]
          apply hnone
      cases a with
      | updateKeysDown i modifier keys =>
          rcases updateKeysDown_cases step with ⟨hgadget, hlatest, henqueuing⟩ | hbusy
          · rw [hlatest, hgadget]
            apply before hgadget henqueuing
          · rw [hnone i] at hbusy
            cases hbusy
      | enqueueKeysDownState i =>
          apply (latest_iff_delivers step hnone).mpr
          apply delivers _ (List.mem_append_right _ (List.mem_singleton_self _))
      | receive =>
          obtain ⟨hgadget, henqueuing, hlatest⟩ := receive_eq step
          rw [hlatest, hgadget]
          apply before (congrArg _ hgadget) henqueuing
      | report =>
          obtain ⟨hgadget, henqueuing, hlatest⟩ := report_eq step
          rw [hlatest, hgadget]
          apply before (congrArg _ hgadget) henqueuing

/-- The browser ends up with the real state of the keys. -/
theorem reported_of_quiet (run : lts.Run (new u) tr t)
    (delivers : ∀ e ∈ tr, e.before.ActionDelivers e.action) (changes : ∃ e ∈ tr, Changes e)
    (quiet : t.Quiet) :
  t.reported.head? = some t.gadget.keysDownState
  := by
  rw [← latest_of_quiet quiet]
  apply latest_of_run run delivers changes quiet.2.2

/-- When the state is not what it was, a transition has changed it. -/
theorem exists_changes (run : lts.Run s tr t)
    (h : t.gadget.keysDownState ≠ s.gadget.keysDownState) :
  ∃ e ∈ tr, Changes e
  := by
  by_contra hnone
  apply h
  apply run.invariant (I := fun t => t.gadget.keysDownState = s.gadget.keysDownState) rfl
  intro e he hbefore _
  rw [← hbefore]
  by_contra hchange
  exact hnone ⟨e, he, hchange⟩

/-- A key is pressed and reported, then another one, and the same state is recorded once more. -/
theorem reported_of_quiet_typing :
  ∃ tr t, lts.Run (new newUsbGadget : KeysDownSession Unit) tr t ∧
    t.gadget.keysDownState.keys = [4, 5, 0, 0, 0, 0] ∧
    t.reported.head? = some t.gadget.keysDownState
  := by
  obtain ⟨tr, t, run, -, hdelivers, hobserve⟩ :=
    Lts.exists_run_of_restrict step ActionDelivers (new newUsbGadget : KeysDownSession Unit)
      [.updateKeysDown () 0 [4, 0, 0, 0, 0, 0], .enqueueKeysDownState (), .receive, .report,
        .updateKeysDown () 0 [4, 5, 0, 0, 0, 0], .enqueueKeysDownState (),
        .updateKeysDown () 0 [4, 5, 0, 0, 0, 0], .receive, .report]
      (fun t => decide (t.gadget.keysDownState.keys = [4, 5, 0, 0, 0, 0] ∧
        t.keysDownStateQueue.items = [] ∧ t.taken = none ∧ t.enqueuing () = none))
      (by decide +kernel : _ = some true)
  obtain ⟨hkeys, hqueue, htaken, hnone⟩ := of_decide_eq_true hobserve
  use tr, t, run, hkeys
  apply reported_of_quiet run hdelivers _ ⟨hqueue, htaken, fun _ => hnone⟩
  apply exists_changes run
  intro hsame
  rw [hsame] at hkeys
  revert hkeys
  decide

/-- The consumer is held up while it reports the first of 66 changes. The last one finds the
queue full and is lost, and the browser takes the key to be up that is down. -/
theorem latest_state_lost :
  ¬ ∀ (u : UsbGadget) (t : KeysDownSession Unit)
      (tr : List (Lts.Transition (KeysDownSession Unit) (KeysDownAction Unit))),
    lts.Run (new u) tr t → (∃ e ∈ tr, Changes e) → t.Quiet →
    t.reported.head? = some t.gadget.keysDownState
  := by
  intro claim
  obtain ⟨tr, t, run, -, hobserve⟩ :=
    Lts.exists_run_of_observe step (new newUsbGadget : KeysDownSession Unit)
      ([.updateKeysDown () 0 [4, 0, 0, 0, 0, 0], .enqueueKeysDownState (), .receive]
        ++ (List.replicate 32 [.updateKeysDown () 0 noKeys, .enqueueKeysDownState (),
            .updateKeysDown () 0 [4, 0, 0, 0, 0, 0], .enqueueKeysDownState ()]).flatten
        ++ [.updateKeysDown () 0 [5, 0, 0, 0, 0, 0], .enqueueKeysDownState (), .report]
        ++ (List.replicate 64 [.receive, .report]).flatten)
      (fun t => decide (t.gadget.keysDownState = ⟨0, [5, 0, 0, 0, 0, 0]⟩ ∧
        t.reported.head? = some ⟨0, [4, 0, 0, 0, 0, 0]⟩ ∧
        t.keysDownStateQueue.items = [] ∧ t.taken = none ∧ t.enqueuing () = none))
      (by decide +kernel : _ = some true)
  obtain ⟨hstate, hreported, hqueue, htaken, hnone⟩ := of_decide_eq_true hobserve
  have hchanges : ∃ e ∈ tr, Changes e := by
    apply exists_changes run
    rw [hstate]
    decide
  have hlast := claim _ t tr run hchanges ⟨hqueue, htaken, fun _ => hnone⟩
  rw [hreported, hstate] at hlast
  revert hlast
  decide

/-! ### Lost states -/

/-- The consumer can report everything that is in the queue, the latest state last. -/
theorem exists_quiet_of_waiting (htaken : t.taken = none) (hnone : ∀ i, t.enqueuing i = none) :
  ∃ tr v, lts.Run t tr v ∧ v.Quiet ∧ v.gadget = t.gadget ∧ v.reported.head? = t.latest
  := by
  generalize hitems : t.keysDownStateQueue.items = items
  induction items generalizing t with
  | nil =>
      have quiet : t.Quiet := ⟨hitems, htaken, hnone⟩
      exact ⟨[], t, .nil, quiet, rfl, (latest_of_quiet quiet).symm⟩
  | cons state items ih =>
      obtain ⟨gadget, enqueuing, ⟨queue, hqueue⟩, taken, reported⟩ := t
      dsimp only at htaken hitems
      subst htaken hitems
      let before : KeysDownSession Thread :=
        ⟨gadget, enqueuing, ⟨state :: items, hqueue⟩, none, reported⟩
      let next : KeysDownSession Thread :=
        ⟨gadget, enqueuing, ⟨items, Nat.le_of_succ_le hqueue⟩, some state, reported⟩
      let after : KeysDownSession Thread :=
        ⟨gadget, enqueuing, ⟨items, Nat.le_of_succ_le hqueue⟩, none, state :: reported⟩
      have receives : lts.step before .receive next := rfl
      have reports : lts.step next .report after := rfl
      obtain ⟨tr, v, run, quiet, hgadget, hreported⟩ := ih (t := after) rfl hnone rfl
      refine ⟨_, v, ((Lts.Run.nil.snoc receives).snoc reports).append run, quiet, hgadget, ?_⟩
      rw [hreported, (report_eq reports).2.2, (receive_eq receives).2.2]

/-- The consumer can go on until everything is quiet. -/
theorem exists_quiet (hnone : ∀ i, t.enqueuing i = none) :
  ∃ tr v, lts.Run t tr v ∧ v.Quiet ∧ v.gadget = t.gadget ∧ v.reported.head? = t.latest
  := by
  cases htaken : t.taken with
  | none => apply exists_quiet_of_waiting htaken hnone
  | some state =>
      let after : KeysDownSession Thread :=
        { t with taken := none, reported := state :: t.reported }
      have reports : lts.step t .report after := by
        change t.taken.map _ = some after
        rw [htaken]
        rfl
      obtain ⟨tr, v, run, quiet, hgadget, hreported⟩ :=
        exists_quiet_of_waiting (t := after) rfl hnone
      refine ⟨_, v, (Lts.Run.nil.snoc reports).append run, quiet, hgadget, ?_⟩
      rw [hreported, (report_eq reports).2.2]

/-- When the last of the goroutines does not deliver, the consumer may go on so that the browser
ends up with another state than the real one. -/
theorem exists_wrong_report (step : lts.step s (.enqueueKeysDownState i) t)
    (hnone : ∀ j, t.enqueuing j = none) (h : ¬ s.Delivers i) :
  ∃ tr v, lts.Run t tr v ∧ v.Quiet ∧ v.reported.head? ≠ some v.gadget.keysDownState
  := by
  obtain ⟨tr, v, run, quiet, hgadget, hreported⟩ := exists_quiet hnone
  use tr, v, run, quiet
  rw [hreported, hgadget]
  intro hlatest
  exact h ((latest_iff_delivers step hnone).mp hlatest)

end KeysDownSession

end JetKvm
