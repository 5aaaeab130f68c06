import Mathlib.Data.List.Basic

/-!
# Logs

An event of a log is *permitted* when it satisfies a condition together with the events
logged before it.
-/

variable {Event : Type*} {P : List Event → Event → Prop} {log log' : List Event} {e : Event}

/-- Every event of the log satisfies `P` together with the events before it. -/
def Permitted (P : List Event → Event → Prop) (log : List Event) : Prop :=
  ∀ before e after, log = before ++ e :: after → P before e

theorem permitted_nil : Permitted P []
  := by
  intro before e after h
  cases before <;> cases h

theorem Permitted.mono {P' : List Event → Event → Prop} (h : Permitted P log)
    (weaker : ∀ before e, P before e → P' before e) :
  Permitted P' log
  := fun before e after hlog => weaker before e (h before e after hlog)

/-- What is permitted after some events stays permitted when more events are put before
it. -/
theorem Permitted.append (first : Permitted P log)
    (second : Permitted (fun before => P (log ++ before)) log') :
  Permitted P (log ++ log')
  := by
  intro before e after h
  obtain ⟨rest, hbefore, hrest⟩ | ⟨rest, hlog, hrest⟩ := List.append_eq_append_iff.mp h
  · rw [hbefore]
    apply second rest e after hrest
  · cases rest with
    | nil =>
        rw [List.append_nil] at hlog
        rw [List.nil_append] at hrest
        subst hlog
        simpa using second [] e after hrest.symm
    | cons e' rest =>
        obtain ⟨rfl, -⟩ := List.cons.inj hrest
        apply first before e rest hlog

theorem Permitted.left (h : Permitted P (log ++ log')) :
  Permitted P log
  := by
  intro before e after hlog
  apply h before e (after ++ log')
  rw [hlog, List.append_assoc, List.cons_append]

theorem Permitted.right (h : Permitted P (log ++ log')) :
  Permitted (fun before => P (log ++ before)) log'
  := by
  intro before e after hlog
  apply h (log ++ before) e after
  rw [hlog, List.append_assoc]

/-- A last event, and the events before it. -/
theorem permitted_snoc :
  Permitted P (log ++ [e]) ↔ Permitted P log ∧ P log e
  := by
  constructor
  · intro h
    exact ⟨h.left, h log e [] rfl⟩
  · rintro ⟨first, last⟩
    apply first.append
    intro before e' after h
    obtain ⟨rfl, he⟩ | ⟨-, he⟩ := List.singleton_eq_append_iff.mp h
    · obtain ⟨rfl, -⟩ := List.cons.inj he
      rw [List.append_nil]
      apply last
    · cases he

theorem Permitted.map {Source : Type*} {f : Source → Event} {source : List Source}
    (h : Permitted (fun before e => P (before.map f) (f e)) source) :
  Permitted P (source.map f)
  := by
  intro before e after hlog
  obtain ⟨before', rest, rfl, rfl, hrest⟩ := List.map_eq_append_iff.mp hlog
  obtain ⟨e', after', rfl, rfl, rfl⟩ := List.map_eq_cons_iff.mp hrest
  apply h before' e' after' rfl

/-- A first event, and the events after it. -/
theorem Permitted.cons (first : P [] e) (rest : Permitted (fun before => P (e :: before)) log) :
  Permitted P (e :: log)
  := by
  intro before e' after hlog
  cases before with
  | nil =>
      obtain ⟨rfl, -⟩ := List.cons.inj hlog
      apply first
  | cons _ before =>
      obtain ⟨rfl, hrest⟩ := List.cons.inj hlog
      apply rest before e' after hrest

/-- Events that satisfy the condition whatever was logged before them. -/
theorem permitted_of_forall_mem (h : ∀ e ∈ log, ∀ before, P before e) :
  Permitted P log
  := by
  rintro before e after rfl
  apply h
  simp
