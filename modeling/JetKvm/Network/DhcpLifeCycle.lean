import JetKvm.Network.DhcpClient
import Mathlib.Tactic.Common

/-!
# The life cycle of the DHCP client

A client that has been forgotten goes on, and so does the loop of a family that has been disabled.
As long as no client is stopped while it runs a loop, and no family is disabled while its loop
runs, only the current client reports leases, and nothing is requested or stored for a family that
is disabled.
-/

namespace JetKvm.Dhcp

variable {c c' : Client} {dc dc' : DHCPClient} {i j : ℕ} {family other : Family} {reply : Reply}

/-- The client at a place has a loop for the family. -/
def DHCPClient.Live (dc : DHCPClient) (i : ℕ) (family : Family) : Prop :=
  ∃ c ∈ dc.clients[i]?, (c.loop family).isSome

/-- A lease of the family is stored as the current one of some client. -/
def DHCPClient.Stored (dc : DHCPClient) (family : Family) : Prop :=
  ∃ c ∈ dc.clients, (c.currentLease family).isSome

/-- The loop of a client is at a stage. -/
def DHCPClient.At (dc : DHCPClient) (i : ℕ) (family : Family) (stage : Stage) : Prop :=
  ∃ c ∈ dc.clients[i]?, ∃ loop ∈ c.loop family, loop.stage = stage

/-- The client at a place invokes `onLeaseChange` in the transition. -/
def Notifies (e : Lts.Transition DHCPClient Action) (i : ℕ) : Prop :=
  e.before.hasOnLeaseChange ∧ ∃ family reply lease,
    e.action = .requestLoop i family reply ∧ e.before.At i family (.onLeaseChange lease)

/-- A request of the family is started in the transition. -/
def Requests (e : Lts.Transition DHCPClient Action) (family : Family) : Prop :=
  ∃ i, e.action = .requestLoop i family .up ∧ e.before.At i family .ensureInterfaceUp

/-- No client is stopped while it runs a loop, and no family is disabled while the client runs its
loop. -/
def Careful (dc : DHCPClient) : Action → Prop
  | .stop => ∀ i ∈ dc.client, ∀ family, ¬ dc.Live i family
  | .setIPv4 false => ∀ i ∈ dc.client, ¬ dc.Live i .inet
  | .setIPv6 false => ∀ i ∈ dc.client, ¬ dc.Live i .inet6
  | _ => True

/-! ### Clients -/

/-- Leases are stored for families with a loop only, and a loop holds leases of its family. -/
structure Client.Sound (c : Client) : Prop where
  stored : ∀ family, (c.currentLease family).isSome → (c.loop family).isSome
  family : ∀ family, ∀ loop ∈ c.loop family, ∀ lease ∈ loop.stage.lease, lease.family = family

/-- A client that has stayed the same but for its timers and for leases that it has dropped. -/
theorem Client.Sound.of_drop (h : c.Sound) (hloop : c'.loop = c.loop)
  (hlease : ∀ family, (c'.currentLease family).isSome → (c.currentLease family).isSome) :
  c'.Sound
  := by
  constructor
  · intro family hs
    rw [hloop]
    exact h.stored family (hlease family hs)
  · rw [hloop]
    exact h.family

/-- A loop that comes to another stage. -/
theorem Client.Sound.goTo {loop : Loop} (h : c.Sound)
  (hlease : ∀ lease ∈ loop.stage.lease, lease.family = family) :
  (c.goTo family loop).Sound
  := by
  constructor
  · intro other hs
    rw [Client.goTo_loop]
    by_cases ho : other = family
    · subst ho
      rw [Function.update_self]
      rfl
    · rw [Function.update_of_ne ho]
      exact h.stored other hs
  · intro other l hl
    rw [Client.goTo_loop] at hl
    by_cases ho : other = family
    · subst ho
      rw [Function.update_self] at hl
      obtain rfl := Option.some.inj hl
      exact hlease
    · rw [Function.update_of_ne ho] at hl
      exact h.family other l hl

theorem Client.Sound.storeLease {lease : Lease} (h : c.Sound)
  (hloop : (c.loop lease.family).isSome) :
  (c.storeLease lease).Sound
  := by
  constructor
  · intro other hs
    by_cases ho : other = lease.family
    · rw [ho]
      exact hloop
    · rw [Client.storeLease_currentLease, Function.update_of_ne ho] at hs
      exact h.stored other hs
  · exact h.family

/-- What a step of a loop does: it sets timers, or stores the lease that the loop holds. The lease
that it holds afterwards is the one that it held, or one of its family. -/
theorem Client.requestLoop_cases (hc : c.requestLoop family reply = some c') :
  ∃ loop ∈ c.loop family, ∃ next : Loop,
    ((∃ timer, c' = { c with timer := timer }.goTo family next) ∨
      ∃ lease ∈ loop.stage.lease, c' = (c.storeLease lease).goTo family next) ∧
    ∀ lease ∈ next.stage.lease, lease ∈ loop.stage.lease ∨ lease.family = family
  := by
  rw [requestLoop] at hc
  cases hl : c.loop family with
  | none =>
      rw [hl] at hc
      exact nomatch hc
  | some loop =>
      obtain ⟨attempt, stage⟩ := loop
      rw [hl] at hc
      use ⟨attempt, stage⟩, rfl
      cases stage with
      | waiting =>
          obtain ⟨-, hc⟩ := Option.ite_none_right_eq_some.mp hc
          exact ⟨_, Or.inl ⟨_, (Option.some.inj hc).symm⟩, nofun⟩
      | ensureInterfaceUp =>
          cases reply with
          | failed => exact ⟨_, Or.inl ⟨_, (Option.some.inj hc).symm⟩, nofun⟩
          | up => exact ⟨_, Or.inl ⟨c.timer, (Option.some.inj hc).symm⟩, nofun⟩
          | leased => exact nomatch hc
      | requestLease =>
          cases reply with
          | failed => exact ⟨_, Or.inl ⟨_, (Option.some.inj hc).symm⟩, nofun⟩
          | up => exact nomatch hc
          | leased leaseTime renewalTime =>
              refine ⟨_, Or.inl ⟨c.timer, (Option.some.inj hc).symm⟩, ?_⟩
              intro lease hlease
              right
              obtain rfl := Option.some.inj hlease
              cases family with
              | inet => rfl
              | inet6 => rfl
      | handleLeaseChange lease =>
          exact ⟨_, Or.inr ⟨lease, rfl, (Option.some.inj hc).symm⟩, fun _ => Or.inl⟩
      | onLeaseChange lease =>
          exact ⟨_, Or.inl ⟨c.timer, (Option.some.inj hc).symm⟩, fun _ => Or.inl⟩
      | sleeping lease =>
          exact ⟨_, Or.inl ⟨_, (Option.some.inj hc).symm⟩, nofun⟩

/-- A step of a loop: the client stays sound. -/
theorem Client.Sound.requestLoop (h : c.Sound) (hc : c.requestLoop family reply = some c') :
  c'.Sound
  := by
  obtain ⟨loop, hl, next, hcases, hnext⟩ := Client.requestLoop_cases hc
  have hlease : ∀ lease ∈ next.stage.lease, lease.family = family := by
    intro lease hn
    obtain hn | hn := hnext lease hn
    · exact h.family family loop hl lease hn
    · exact hn
  obtain ⟨timer, rfl⟩ | ⟨lease, hheld, rfl⟩ := hcases
  · exact Client.Sound.goTo (h.of_drop rfl fun _ => id) hlease
  · apply (h.storeLease _).goTo hlease
    rw [h.family family loop hl lease hheld, hl]
    rfl

/-- A step of a loop is a step of a loop that runs, and no loop begins or ends in it. -/
theorem Client.loop_requestLoop (hc : c.requestLoop family reply = some c') (other : Family) :
  (c.loop family).isSome ∧ (c'.loop other).isSome = (c.loop other).isSome
  := by
  obtain ⟨loop, hl, next, hcases, -⟩ := Client.requestLoop_cases hc
  have hl : c.loop family = some loop := hl
  use Option.isSome_of_eq_some hl
  have hloop : c'.loop = Function.update c.loop family (some next) := by
    obtain ⟨timer, rfl⟩ | ⟨lease, -, rfl⟩ := hcases
    · rfl
    · rfl
  rw [hloop]
  by_cases ho : other = family
  · rw [ho, Function.update_self, hl]
    rfl
  · rw [Function.update_of_ne ho]

theorem Client.expire_eq (hc : c.expire family = some c') :
  ∃ timer, c' = { c with timer := timer }
  := by
  rw [expire] at hc
  split at hc
  · exact ⟨_, (Option.some.inj hc).symm⟩
  · exact nomatch hc
  · exact nomatch hc

/-- Enabling or disabling a family leaves the loops alone, and may drop a lease. -/
theorem Client.setFamily_eq (family : Family) (enabled : Bool) (c : Client) :
  (c.setFamily family enabled).loop = c.loop ∧
    ∀ other, ((c.setFamily family enabled).currentLease other).isSome →
      (c.currentLease other).isSome
  := by
  unfold setFamily
  dsimp only
  split
  · exact ⟨rfl, fun _ => id⟩
  · split
    · exact ⟨rfl, fun _ => id⟩
    · use rfl
      intro other h
      by_cases ho : other = family
      · rw [ho] at h
        simp at h
      · simpa [ho] using h

theorem Client.sound_start (cfg : Family → Bool) :
  (Client.new cfg).start.Sound
  := by
  constructor
  · exact nofun
  · intro family loop hl lease hlease
    obtain ⟨-, hl⟩ := Option.ite_none_right_eq_some.mp hl
    obtain rfl := Option.some.inj hl
    exact nomatch hlease

/-! ### Steps -/

/-- All clients are sound, and only the current one has loops, of families that are enabled. -/
structure Tidy (dc : DHCPClient) : Prop where
  sound : ∀ i : ℕ, ∀ c ∈ dc.clients[i]?, c.Sound
  current : ∀ i family, dc.Live i family → dc.client = some i ∧ dc.enabled family = true

theorem tidy_new (hasOnLeaseChange : Bool) :
  Tidy (DHCPClient.new hasOnLeaseChange)
  := by
  constructor
  · intro i c hc
    exact nomatch hc
  · rintro i family ⟨c, hc, -⟩
    exact nomatch hc

/-- A call changes the current client only. -/
theorem DHCPClient.onClient_spec (dc : DHCPClient) (call : Client → Client) :
  (dc.onClient call).client = dc.client ∧ (dc.onClient call).enabled = dc.enabled ∧
    ∀ i : ℕ, ∀ c ∈ (dc.onClient call).clients[i]?, ∃ c₀ ∈ dc.clients[i]?, c = c₀ ∨ c = call c₀
  := by
  rw [onClient]
  split
  · exact ⟨rfl, rfl, fun i c hc => ⟨c, hc, Or.inl rfl⟩⟩
  · refine ⟨rfl, rfl, ?_⟩
    intro i c hc
    rw [List.getElem?_modify] at hc
    obtain ⟨c₀, hc₀, rfl⟩ := Option.map_eq_some_iff.mp hc
    use c₀, hc₀
    split
    · exact Or.inr rfl
    · exact Or.inl rfl

/-- A call that leaves the loops of a client alone, and may drop leases, keeps everything tidy. -/
theorem Tidy.onClient {call : Client → Client} (h : Tidy dc)
  (hloop : ∀ c, (call c).loop = c.loop)
  (hlease : ∀ c family, ((call c).currentLease family).isSome → (c.currentLease family).isSome) :
  Tidy (dc.onClient call)
  := by
  obtain ⟨hclient, henabled, hclients⟩ := dc.onClient_spec call
  constructor
  · intro i c hc
    obtain ⟨c₀, hc₀, rfl | rfl⟩ := hclients i c hc
    · exact h.sound i c hc₀
    · exact (h.sound i c₀ hc₀).of_drop (hloop c₀) (hlease c₀)
  · rintro i family ⟨c, hc, hl⟩
    rw [hclient, henabled]
    apply h.current i family
    obtain ⟨c₀, hc₀, rfl | rfl⟩ := hclients i c hc
    · exact ⟨c, hc₀, hl⟩
    · rw [hloop] at hl
      exact ⟨c₀, hc₀, hl⟩

/-- Enabling a family, or disabling one without a loop, keeps everything tidy. -/
theorem Tidy.setFamily {call : Bool → Client → Client} {enabled : Bool} (h : Tidy dc)
  (hcall : ∀ c, call enabled c = c.setFamily family enabled)
  (hcareful : enabled = false → ∀ i ∈ dc.client, ¬ dc.Live i family) :
  Tidy (dc.setFamily family call enabled)
  := by
  apply Tidy.onClient
  · use h.sound
    intro i other hl
    obtain ⟨hclient, henabled⟩ := h.current i other hl
    use hclient
    change Function.update dc.enabled family enabled other = true
    rw [Function.update_apply]
    split
    · rename_i ho
      cases enabled with
      | true => rfl
      | false => exact absurd (ho ▸ hl) (hcareful rfl i hclient)
    · exact henabled
  · intro c
    rw [hcall]
    exact (Client.setFamily_eq family enabled c).1
  · intro c other
    rw [hcall]
    exact (Client.setFamily_eq family enabled c).2 other

theorem Tidy.start (h : Tidy dc) :
  Tidy dc.start
  := by
  rw [DHCPClient.start]
  split
  · exact h
  · rename_i hnone
    have hclients : ∀ i : ℕ, ∀ c ∈ (dc.clients ++ [(Client.new dc.enabled).start])[i]?,
        c ∈ dc.clients[i]? ∨ i = dc.clients.length ∧ c = (Client.new dc.enabled).start := by
      intro i c hc
      rw [List.getElem?_append] at hc
      split at hc
      · exact Or.inl hc
      · rename_i hi
        right
        obtain ⟨hlast, hc⟩ := List.getElem?_eq_some_iff.mp hc
        rw [List.length_singleton] at hlast
        rw [List.getElem_singleton] at hc
        exact ⟨by omega, hc.symm⟩
    constructor
    · intro i c hc
      obtain hc | ⟨-, rfl⟩ := hclients i c hc
      · exact h.sound i c hc
      · exact Client.sound_start dc.enabled
    · rintro i family ⟨c, hc, hl⟩
      obtain hc | ⟨rfl, rfl⟩ := hclients i c hc
      · -- Without a current client there is no loop.
        obtain ⟨hsome, -⟩ := h.current i family ⟨c, hc, hl⟩
        rw [hnone] at hsome
        exact nomatch hsome
      · use rfl
        obtain ⟨loop, hl⟩ := Option.isSome_iff_exists.mp hl
        exact (Option.ite_none_right_eq_some.mp hl).1

/-- A step of some client that stays sound and has no new loops keeps everything tidy. -/
theorem Tidy.onAny {move : Client → Option Client} (h : Tidy dc)
  (hmove : ∀ c c', c.Sound → move c = some c' →
    c'.Sound ∧ ∀ family, (c'.loop family).isSome → (c.loop family).isSome)
  (hdc : dc.onAny i move = some dc') :
  Tidy dc'
  := by
  obtain ⟨c, hc, hdc⟩ := Option.bind_eq_some_iff.mp hdc
  obtain ⟨c', hc', rfl⟩ := Option.map_eq_some_iff.mp hdc
  obtain ⟨hsound, hloop⟩ := hmove c c' (h.sound i c hc) hc'
  have hclients : ∀ j : ℕ, ∀ d ∈ (dc.clients.set i c')[j]?, d ∈ dc.clients[j]? ∨ j = i ∧ d = c' := by
    intro j d hd
    rw [Option.mem_def, List.getElem?_set] at hd
    split at hd
    · rename_i hij
      obtain ⟨-, hd⟩ := Option.ite_none_right_eq_some.mp hd
      exact Or.inr ⟨hij.symm, (Option.some.inj hd).symm⟩
    · exact Or.inl hd
  constructor
  · intro j d hd
    obtain hd | ⟨-, rfl⟩ := hclients j d hd
    · exact h.sound j d hd
    · exact hsound
  · rintro j family ⟨d, hd, hl⟩
    apply h.current j family
    obtain hd | ⟨rfl, rfl⟩ := hclients j d hd
    · exact ⟨d, hd, hl⟩
    · exact ⟨c, hc, hloop family hl⟩

/-- A careful step keeps everything tidy. -/
theorem Tidy.step {a : Action} (h : Tidy dc) (hcareful : Careful dc a) (hstep : lts.step dc a dc') :
  Tidy dc'
  := by
  cases a with
  | setIPv4 enabled =>
      obtain rfl := Option.some.inj hstep
      apply Tidy.setFamily h fun _ => rfl
      rintro rfl
      exact hcareful
  | setIPv6 enabled =>
      obtain rfl := Option.some.inj hstep
      apply Tidy.setFamily h fun _ => rfl
      rintro rfl
      exact hcareful
  | start =>
      obtain rfl := Option.some.inj hstep
      exact h.start
  | stop =>
      obtain rfl := Option.some.inj hstep
      use h.sound
      intro i family hl
      exact absurd hl (hcareful i (h.current i family hl).1 family)
  | renew =>
      obtain rfl := Option.some.inj hstep
      exact h.onClient (fun _ => rfl) fun _ _ => id
  | expire i family =>
      apply h.onAny _ hstep
      intro c c' hc hexpire
      obtain ⟨timer, rfl⟩ := Client.expire_eq hexpire
      exact ⟨hc.of_drop rfl fun _ => id, fun _ => id⟩
  | requestLoop i family reply =>
      apply h.onAny _ hstep
      intro c c' hc hloop
      use hc.requestLoop hloop
      intro other
      rw [(Client.loop_requestLoop hloop other).2]
      exact id

/-! ### Runs -/

theorem DHCPClient.At.live {stage : Stage} (h : dc.At i family stage) :
  dc.Live i family
  := by
  obtain ⟨c, hc, loop, hl, -⟩ := h
  exact ⟨c, hc, Option.isSome_of_eq_some hl⟩

/-- In every run of careful steps, `onLeaseChange` is invoked only by the client that the latest
`Start` has made, and not after `Stop`; at most one request loop of a family is running; and for a
family that is disabled no request is started and no lease is stored. -/
theorem lifeCycle_of_careful {hasOnLeaseChange : Bool}
  {tr : List (Lts.Transition DHCPClient Action)}
  (run : lts.Run (DHCPClient.new hasOnLeaseChange) tr dc)
  (h : ∀ e ∈ tr, Careful e.before e.action) :
  (∀ e ∈ tr, ∀ i, Notifies e i → e.before.client = some i) ∧
    (∀ family i j, dc.Live i family → dc.Live j family → i = j) ∧
    (∀ e ∈ tr, ∀ family, Requests e family → e.before.enabled family = true) ∧
    ∀ family, dc.enabled family = false → ¬ dc.Stored family
  := by
  have hpreserved : ∀ e ∈ tr, Tidy e.before → lts.step e.before e.action e.after →
      Tidy e.after := fun e he hbefore step => hbefore.step (h e he) step
  have hbefore := run.invariant_before (tidy_new _) hpreserved
  have hend := run.invariant (tidy_new _) hpreserved
  refine ⟨?_, ?_, ?_, ?_⟩
  · rintro e he i ⟨-, family, reply, lease, -, hat⟩
    exact ((hbefore e he).current i family hat.live).1
  · intro family i j hi hj
    have hi := (hend.current i family hi).1
    rw [(hend.current j family hj).1] at hi
    exact (Option.some.inj hi).symm
  · rintro e he family ⟨i, -, hat⟩
    exact ((hbefore e he).current i family hat.live).2
  · rintro family hdisabled ⟨c, hc, hs⟩
    obtain ⟨i, hi⟩ := List.getElem?_of_mem hc
    have hl := (hend.sound i c hi).stored family hs
    rw [(hend.current i family ⟨c, hi, hl⟩).2] at hdisabled
    exact nomatch hdisabled

/-- A lease is requested, stored and reported. -/
theorem lifeCycle_of_careful_lease :
  ∃ tr dc, lts.Run (DHCPClient.new true) tr dc ∧
    tr.map Lts.Transition.action =
      [.setIPv4 true, .start, .expire 0 .inet, .requestLoop 0 .inet .up,
        .requestLoop 0 .inet .up, .requestLoop 0 .inet (.leased 1800000000000 900000000000),
        .requestLoop 0 .inet .up, .requestLoop 0 .inet .up, .renew] ∧
    (∀ e ∈ tr, ∀ i, Notifies e i → e.before.client = some i) ∧
    ∀ family, dc.enabled family = false → ¬ dc.Stored family
  := by
  obtain ⟨tr, dc, run, hactions, -⟩ := Lts.exists_run_of_observe DHCPClient.step
    (DHCPClient.new true)
    [.setIPv4 true, .start, .expire 0 .inet, .requestLoop 0 .inet .up,
      .requestLoop 0 .inet .up, .requestLoop 0 .inet (.leased 1800000000000 900000000000),
      .requestLoop 0 .inet .up, .requestLoop 0 .inet .up, .renew]
    (·.client) (o := some 0) (by decide +kernel)
  have hcareful : ∀ e ∈ tr, ∀ dc, Careful dc e.action :=
    Lts.forall_action (fun a => ∀ dc, Careful dc a) hactions (by simp [Careful])
  have h := lifeCycle_of_careful run fun e he => hcareful e he e.before
  exact ⟨tr, dc, run, hactions, h.1, h.2.2.2⟩

theorem DHCPClient.at_of_stage {stage : Stage}
  (h : (dc.clients[i]?.map fun c => (c.loop family).map Loop.stage) = some (some stage)) :
  dc.At i family stage
  := by
  obtain ⟨c, hc, h⟩ := Option.map_eq_some_iff.mp h
  obtain ⟨loop, hl, h⟩ := Option.map_eq_some_iff.mp h
  exact ⟨c, hc, loop, hl, h⟩

/-- A client that has been stopped reports a lease, and a client requests one for a family that has
been disabled. -/
theorem stopped_client_reports :
  (∃ tr dc, lts.Run (DHCPClient.new true) tr dc ∧
    ∃ e ∈ tr, Notifies e 0 ∧ e.before.client = none) ∧
  ∃ tr dc, lts.Run (DHCPClient.new true) tr dc ∧
    ∃ e ∈ tr, Requests e .inet ∧ e.before.enabled .inet = false
  := by
  constructor
  · obtain ⟨tr, dc, run, -, hlast⟩ := Lts.exists_run_of_observe_transitions DHCPClient.step
      (DHCPClient.new true)
      [.setIPv4 true, .start, .expire 0 .inet, .requestLoop 0 .inet .up,
        .requestLoop 0 .inet .up, .stop, .requestLoop 0 .inet (.leased 1800000000000 900000000000),
        .requestLoop 0 .inet .up, .requestLoop 0 .inet .up]
      (fun tr => tr.getLast?.any fun e =>
        e.action = .requestLoop 0 .inet .up ∧ e.before.client = none ∧ e.before.hasOnLeaseChange ∧
          (e.before.clients[0]?.map fun c => (c.loop .inet).map Loop.stage) =
            some (some (.onLeaseChange ⟨true, 1800000000000, 900000000000⟩)))
      (o := true) (by decide +kernel)
    obtain ⟨e, he, hlast⟩ := (Option.any_eq_true _ _).mp hlast
    obtain ⟨haction, hclient, hlistens, hstage⟩ := of_decide_eq_true hlast
    use tr, dc, run, e, List.mem_of_getLast? he
    exact ⟨⟨hlistens, _, _, _, haction, DHCPClient.at_of_stage hstage⟩, hclient⟩
  · obtain ⟨tr, dc, run, -, hlast⟩ := Lts.exists_run_of_observe_transitions DHCPClient.step
      (DHCPClient.new true)
      [.setIPv4 true, .start, .setIPv4 false, .expire 0 .inet, .requestLoop 0 .inet .up,
        .requestLoop 0 .inet .up]
      (fun tr => tr.getLast?.any fun e =>
        e.action = .requestLoop 0 .inet .up ∧ e.before.enabled .inet = false ∧
          (e.before.clients[0]?.map fun c => (c.loop .inet).map Loop.stage) =
            some (some .ensureInterfaceUp))
      (o := true) (by decide +kernel)
    obtain ⟨e, he, hlast⟩ := (Option.any_eq_true _ _).mp hlast
    obtain ⟨haction, hdisabled, hstage⟩ := of_decide_eq_true hlast
    use tr, dc, run, e, List.mem_of_getLast? he
    exact ⟨⟨0, haction, DHCPClient.at_of_stage hstage⟩, hdisabled⟩

end JetKvm.Dhcp
