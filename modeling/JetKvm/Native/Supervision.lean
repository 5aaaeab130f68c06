import JetKvm.Library.Transition

/-!
# Supervision of the native process

The proxy starts the native process, waits for its handshake message and then for its server, and
starts it again when it has exited, a limited number of times. At most one process runs at a time.
The goroutine that copies the output of a process hands the message over to the proxy, and waits
until it is taken. When the message comes only after the proxy has given up waiting for it, nobody
takes it, the output is never copied to its end, and the proxy waits for the process for ever, even
after it has exited.
-/

namespace JetKvm.Native

/-! ### Processes -/

/-- How far a native process has come. -/
inductive CmdState where
  | notStarted
  | alive
  | exited
deriving DecidableEq, Repr

/-- Where the handshake message is. -/
inductive Handshake where
  | unwritten
  /-- Written to the pipe by the process. -/
  | written
  /-- Handed over by the goroutine that copies the output, which waits for a receiver. -/
  | sending
  | received
deriving DecidableEq, Repr

/-- A command, and whether `Wait` has returned for it. -/
structure Cmd where
  state : CmdState
  handshake : Handshake
  waited : Bool
deriving DecidableEq, Repr

/-- What a process does, and the goroutine that copies its output. -/
inductive ProcessEvent where
  | write
  | copy
  | exit
deriving DecidableEq, Repr

/-- What a process does by itself, when it can. -/
def Cmd.event (cmd : Cmd) : ProcessEvent → Option Cmd
  | .write =>
      if cmd.state = .alive ∧ cmd.handshake = .unwritten then
        some { cmd with handshake := .written }
      else none
  | .copy => if cmd.handshake = .written then some { cmd with handshake := .sending } else none
  | .exit => if cmd.state = .alive then some { cmd with state := .exited } else none

/-- The message is there and has not been received. -/
def Cmd.Unread (cmd : Cmd) : Prop :=
  cmd.handshake = .written ∨ cmd.handshake = .sending

instance (cmd : Cmd) : Decidable cmd.Unread :=
  inferInstanceAs (Decidable (_ ∨ _))

/-- `Wait` returns with an error at once when the command did not start or has been waited for, and
otherwise when the process has exited and its output has been copied to the end. -/
def Cmd.WaitReturns (cmd : Cmd) : Prop :=
  cmd.state = .notStarted ∨ cmd.waited = true ∨ cmd.state = .exited ∧ ¬ cmd.Unread

instance (cmd : Cmd) : Decidable cmd.WaitReturns :=
  inferInstanceAs (Decidable (_ ∨ _))

/-! ### The proxy -/

/-- How often the process may be started when nothing else is configured. -/
def defaultMaxRestartAttempts : ℕ := 5

/-- The attempts that are made, of those that are configured. -/
def maxRestartAttempts (configured : ℕ) : ℕ :=
  if configured > 0 then configured else defaultMaxRestartAttempts

/-- At least one start is allowed. -/
theorem maxRestartAttempts_pos (configured : ℕ) :
  0 < maxRestartAttempts configured
  := by
  rw [maxRestartAttempts]
  split
  · assumption
  · decide

/-- Where the proxy is. -/
inductive Monitor where
  /-- In `doStart`, before the process is started. -/
  | preparing
  /-- In `setUpGRPCClient`, waiting for the message. -/
  | handshake
  /-- In `setUpGRPCClient`, before the client is made. -/
  | connecting
  /-- In `WaitReady`. -/
  | ready
  /-- In `monitorProcess`, waiting for the process. -/
  | waiting
  /-- Before `restartProcess`. -/
  | exited
  /-- After `restartProcess` has failed. -/
  | failed
  /-- The program has ended. -/
  | fatal
deriving DecidableEq, Repr

/-- `NativeProxy`, with the commands before the present one, and the number of the command that the
client belongs to. -/
structure NativeProxy where
  monitor : Monitor
  cmd : Option Cmd
  earlier : List Cmd
  client : Option ℕ
  restarts : ℕ
deriving DecidableEq, Repr

/-- What the proxy and the processes do. -/
inductive ProxyAction where
  | start (succeeds : Bool)
  | receive
  | timeout
  | connect (succeeds : Bool)
  | ready (succeeds : Bool)
  | wait
  | restart
  | retry
  /-- Something happens to the present process, or to an earlier one. -/
  | process (earlier : Option ℕ) (event : ProcessEvent)
deriving DecidableEq, Repr

/-- Steps of the proxy, of which the copying of the output is one. -/
def ProxyAction.OfProxy : ProxyAction → Prop
  | .process _ event => event = .copy
  | _ => True

namespace NativeProxy

/-- No process has been started. -/
def new : NativeProxy where
  monitor := .preparing
  cmd := none
  earlier := []
  client := none
  restarts := 0

/-- All commands, the present one first. -/
def cmds (p : NativeProxy) : List Cmd :=
  p.cmd.toList ++ p.earlier

/-- `doStart` returns an error, which ends the program when it was called by `Start`. -/
def fails (p : NativeProxy) : NativeProxy :=
  { p with monitor := if p.restarts = 0 then .fatal else .failed }

/-- A process is started, or the attempt fails. -/
def start (p : NativeProxy) (succeeds : Bool) : NativeProxy :=
  if succeeds then
    { p with monitor := .handshake, cmd := some ⟨.alive, .unwritten, false⟩, earlier := p.cmds }
  else fails { p with cmd := some ⟨.notStarted, .unwritten, false⟩, earlier := p.cmds }

/-- The client is made for the present process. -/
def connect (p : NativeProxy) (succeeds : Bool) : NativeProxy :=
  if succeeds then { p with monitor := .ready, client := some p.cmds.length } else p.fails

/-- The process is killed and waited for when its server does not become ready. -/
def waitReady (p : NativeProxy) (cmd : Cmd) (succeeds : Bool) : NativeProxy :=
  if succeeds then { p with monitor := .waiting }
  else fails { p with cmd := some { cmd with state := .exited, waited := true } }

/-- Another attempt is made, or the program ends when there are no more. -/
def restartProcess (maxRestarts : ℕ) (p : NativeProxy) : NativeProxy :=
  if p.restarts + 1 ≥ maxRestarts then { p with monitor := .fatal, restarts := p.restarts + 1 }
  else { p with monitor := .preparing, restarts := p.restarts + 1, client := none }

/-- What happens to a process. -/
def process (p : NativeProxy) (event : ProcessEvent) : Option ℕ → Option NativeProxy
  | none => (p.cmd.bind (·.event event)).map fun cmd => { p with cmd := some cmd }
  | some i =>
      (p.earlier[i]?.bind (·.event event)).map fun cmd =>
        { p with earlier := p.earlier.set i cmd }

/-- The next state. -/
def step (maxRestarts : ℕ) (p : NativeProxy) : ProxyAction → Option NativeProxy
  | .start succeeds => if p.monitor = .preparing then some (p.start succeeds) else none
  | .receive =>
      p.cmd.bind fun cmd =>
        if p.monitor = .handshake ∧ cmd.handshake = .sending then
          some { p with monitor := .connecting, cmd := some { cmd with handshake := .received } }
        else none
  | .timeout => if p.monitor = .handshake then some p.fails else none
  | .connect succeeds => if p.monitor = .connecting then some (p.connect succeeds) else none
  | .ready succeeds =>
      p.cmd.bind fun cmd =>
        if p.monitor = .ready then some (p.waitReady cmd succeeds) else none
  | .wait =>
      p.cmd.bind fun cmd =>
        if p.monitor = .waiting ∧ cmd.WaitReturns then
          some { p with monitor := .exited, cmd := some { cmd with waited := true } }
        else none
  | .restart => if p.monitor = .exited then some (p.restartProcess maxRestarts) else none
  | .retry => if p.monitor = .failed then some { p with monitor := .waiting } else none
  | .process earlier event => p.process event earlier

/-- The steps come in any order. -/
def lts (maxRestarts : ℕ) : Lts NativeProxy ProxyAction :=
  Lts.ofStep (step maxRestarts)

variable {maxRestarts : ℕ} {p p' : NativeProxy} {cmd cmd' : Cmd} {event : ProcessEvent}
  {succeeds : Bool} {a : ProxyAction} {i : Option ℕ}
  {tr tr' : List (Lts.Transition NativeProxy ProxyAction)}

/-! ### What is kept -/

/-- A process that was started remains so. -/
theorem event_started (h : cmd.event event = some cmd') (hstarted : cmd.state ≠ .notStarted) :
  cmd'.state ≠ .notStarted
  := by
  cases event with
  | write =>
      obtain ⟨-, h⟩ := Option.ite_none_right_eq_some.mp h
      obtain rfl := Option.some.inj h
      exact hstarted
  | copy =>
      obtain ⟨-, h⟩ := Option.ite_none_right_eq_some.mp h
      obtain rfl := Option.some.inj h
      exact hstarted
  | exit =>
      obtain ⟨-, h⟩ := Option.ite_none_right_eq_some.mp h
      obtain rfl := Option.some.inj h
      simp

/-- No event makes a process alive, takes its message back or makes `Wait` return. -/
theorem event_cases (h : cmd.event event = some cmd') :
  (cmd'.state = .alive → cmd.state = .alive) ∧ cmd'.waited = cmd.waited ∧
    (cmd.handshake = .received → cmd'.handshake = .received) ∧ (cmd.Unread → cmd'.Unread)
  := by
  cases event with
  | write =>
      obtain ⟨⟨-, hunwritten⟩, h⟩ := Option.ite_none_right_eq_some.mp h
      obtain rfl := Option.some.inj h
      simp [hunwritten, Cmd.Unread]
  | copy =>
      obtain ⟨hwritten, h⟩ := Option.ite_none_right_eq_some.mp h
      obtain rfl := Option.some.inj h
      simp [hwritten, Cmd.Unread]
  | exit =>
      obtain ⟨-, h⟩ := Option.ite_none_right_eq_some.mp h
      obtain rfl := Option.some.inj h
      simp [Cmd.Unread]

/-- Only the present process can be alive, and there is none between two starts. Each restart has
started one more, and the client belongs to the present one. -/
structure Supervised (maxRestarts : ℕ) (p : NativeProxy) : Prop where
  earlier : ∀ cmd ∈ p.earlier, cmd.state ≠ .alive
  quiet : p.monitor = .preparing ∨ p.monitor = .exited → ∀ cmd ∈ p.cmd, cmd.state ≠ .alive
  waited : ∀ cmd ∈ p.cmd, cmd.waited = true → cmd.state ≠ .alive
  received : p.monitor = .connecting ∨ p.monitor = .ready →
    ∀ cmd ∈ p.cmd, cmd.handshake = .received
  present : p.monitor ≠ .preparing → p.cmd ≠ none
  length : p.cmds.length ≤ p.restarts + if p.monitor = .preparing then 0 else 1
  restarts : p.monitor ≠ .fatal → p.restarts < maxRestarts
  fatal : p.monitor = .fatal → p.restarts = 0 ∨ p.restarts = maxRestarts
  bound : p.cmds.length ≤ maxRestarts
  client : ∀ n ∈ p.client, n = p.cmds.length
  disconnected : p.monitor = .preparing → p.client = none

/-- No process is there at first. -/
theorem supervised_new (hmax : 0 < maxRestarts) :
  Supervised maxRestarts new
  := by
  constructor <;> simp [new, cmds, hmax]

/-- The proxy goes on with the present process. -/
theorem Supervised.goOn (h : Supervised maxRestarts p) {monitor : Monitor}
    (hpreparing : p.monitor ≠ .preparing) (hfatal : p.monitor ≠ .fatal)
    (hpreparing' : monitor ≠ .preparing) (hfatal' : monitor = .fatal → p.restarts = 0)
    (hquiet : monitor = .exited → ∀ cmd ∈ p.cmd, cmd.state ≠ .alive)
    (hreceived : monitor = .connecting ∨ monitor = .ready →
      ∀ cmd ∈ p.cmd, cmd.handshake = .received) :
  Supervised maxRestarts { p with monitor := monitor }
  where
  earlier := h.earlier
  quiet hmonitor := hquiet (hmonitor.resolve_left hpreparing')
  waited := h.waited
  received := hreceived
  present _ := h.present hpreparing
  length := by
    have hlength := h.length
    rw [if_neg hpreparing] at hlength
    rw [if_neg hpreparing']
    exact hlength
  restarts _ := h.restarts hfatal
  fatal hmonitor := Or.inl (hfatal' hmonitor)
  bound := h.bound
  client := h.client
  disconnected hmonitor := absurd hmonitor hpreparing'

/-- The present process is changed in a way in which it does not become alive. -/
theorem Supervised.setCmd (h : Supervised maxRestarts p) (hcmd : p.cmd = some cmd)
    (halive : cmd'.state = .alive → cmd.state = .alive)
    (hwaited : cmd'.waited = true → cmd'.state ≠ .alive)
    (hreceived : cmd.handshake = .received → cmd'.handshake = .received) :
  Supervised maxRestarts { p with cmd := some cmd' }
  where
  earlier := h.earlier
  quiet hmonitor := by
    intro other hother hstate
    obtain rfl := Option.mem_some_iff.mp hother
    exact h.quiet hmonitor cmd hcmd (halive hstate)
  waited := by
    intro other hother
    obtain rfl := Option.mem_some_iff.mp hother
    exact hwaited
  received hmonitor := by
    intro other hother
    obtain rfl := Option.mem_some_iff.mp hother
    exact hreceived (h.received hmonitor cmd hcmd)
  present _ := by simp
  length := by
    have hlength := h.length
    rw [cmds, hcmd] at hlength
    exact hlength
  restarts := h.restarts
  fatal := h.fatal
  bound := by
    have hbound := h.bound
    rw [cmds, hcmd] at hbound
    exact hbound
  client := by
    have hclient := h.client
    rw [cmds, hcmd] at hclient
    exact hclient
  disconnected := h.disconnected

/-- A command takes the place of the present one, which is not alive. -/
theorem Supervised.newCmd (h : Supervised maxRestarts p) (hpreparing : p.monitor = .preparing)
    {monitor : Monitor}
    (hmonitor : monitor = .handshake ∨ monitor = .failed ∨ monitor = .fatal ∧ p.restarts = 0)
    (hwaited : cmd.waited = false) :
  Supervised maxRestarts { p with monitor := monitor, cmd := some cmd, earlier := p.cmds }
  where
  earlier := by
    intro other hother
    rcases List.mem_append.mp hother with hother | hother
    · exact h.quiet (Or.inl hpreparing) other (Option.mem_toList.mp hother)
    · exact h.earlier other hother
  quiet := by
    rcases hmonitor with rfl | rfl | ⟨rfl, -⟩ <;> simp
  waited := by
    intro other hother htrue
    obtain rfl := Option.mem_some_iff.mp hother
    rw [hwaited] at htrue
    cases htrue
  received := by
    rcases hmonitor with rfl | rfl | ⟨rfl, -⟩ <;> simp
  present _ := by simp
  length := by
    have hlength := h.length
    rw [if_pos hpreparing] at hlength
    rcases hmonitor with rfl | rfl | ⟨rfl, -⟩ <;> simpa [cmds] using hlength
  restarts _ := h.restarts (by simp [hpreparing])
  fatal := by
    rcases hmonitor with rfl | rfl | ⟨rfl, hrestarts⟩
    · simp
    · simp
    · exact fun _ => Or.inl hrestarts
  bound := by
    have hlength := h.length
    have hrestarts := h.restarts (by simp [hpreparing])
    rw [if_pos hpreparing] at hlength
    simp only [cmds, Option.toList_some, List.length_append, List.length_singleton] at hlength ⊢
    omega
  client := by
    simp [h.disconnected hpreparing]
  disconnected _ := h.disconnected hpreparing

/-- A start that fails is waited for. -/
theorem Supervised.fails (h : Supervised maxRestarts p) (hpreparing : p.monitor ≠ .preparing)
    (hfatal : p.monitor ≠ .fatal) :
  Supervised maxRestarts p.fails
  := by
  rw [NativeProxy.fails]
  split
  case isTrue hrestarts =>
    exact h.goOn hpreparing hfatal (by simp) (fun _ => hrestarts) (by simp) (by simp)
  case isFalse => exact h.goOn hpreparing hfatal (by simp) (by simp) (by simp) (by simp)

/-- A process is started when none is alive. -/
theorem Supervised.start (h : Supervised maxRestarts p) (hpreparing : p.monitor = .preparing)
    (succeeds : Bool) :
  Supervised maxRestarts (p.start succeeds)
  := by
  rw [NativeProxy.start]
  split
  · exact h.newCmd hpreparing (Or.inl rfl) rfl
  · rw [NativeProxy.fails]
    split
    case isTrue hrestarts => exact h.newCmd hpreparing (Or.inr (Or.inr ⟨rfl, hrestarts⟩)) rfl
    case isFalse => exact h.newCmd hpreparing (Or.inr (Or.inl rfl)) rfl

/-- The client of the newest process is set up. -/
theorem Supervised.connect (h : Supervised maxRestarts p) (hconnecting : p.monitor = .connecting)
    (succeeds : Bool) :
  Supervised maxRestarts (p.connect succeeds)
  := by
  rw [NativeProxy.connect]
  split
  · have hready : Supervised maxRestarts { p with monitor := .ready } :=
      h.goOn (by simp [hconnecting]) (by simp [hconnecting]) (by simp) (by simp) (by simp)
        fun _ => h.received (Or.inl hconnecting)
    exact { hready with
      client := by
        intro n hn
        exact (Option.mem_some_iff.mp hn).symm
      disconnected := by simp }
  · exact h.fails (by simp [hconnecting]) (by simp [hconnecting])

/-- A process is waited for until it answers. -/
theorem Supervised.waitReady (h : Supervised maxRestarts p) (hready : p.monitor = .ready)
    (hcmd : p.cmd = some cmd) (succeeds : Bool) :
  Supervised maxRestarts (p.waitReady cmd succeeds)
  := by
  rw [NativeProxy.waitReady]
  split
  · exact h.goOn (by simp [hready]) (by simp [hready]) (by simp) (by simp) (by simp) (by simp)
  · apply Supervised.fails
    · exact h.setCmd hcmd (by simp) (by simp) id
    · simp [hready]
    · simp [hready]

/-- A process that has exited is noticed. -/
theorem Supervised.wait (h : Supervised maxRestarts p) (hwaiting : p.monitor = .waiting)
    (hcmd : p.cmd = some cmd) (hreturns : cmd.WaitReturns) :
  Supervised maxRestarts { p with monitor := .exited, cmd := some { cmd with waited := true } }
  := by
  have hdead : cmd.state ≠ .alive := by
    rcases hreturns with hstate | hwaited | ⟨hstate, -⟩
    · simp [hstate]
    · exact h.waited cmd hcmd hwaited
    · simp [hstate]
  have hset : Supervised maxRestarts { p with cmd := some { cmd with waited := true } } :=
    h.setCmd hcmd id (fun _ => hdead) id
  refine hset.goOn (by simp [hwaiting]) (by simp [hwaiting]) (by simp) (by simp) ?_ (by simp)
  intro _ other hother
  obtain rfl := Option.mem_some_iff.mp hother
  exact hdead

/-- A restart makes room for one more process. -/
theorem Supervised.restartProcess (h : Supervised maxRestarts p) (hexited : p.monitor = .exited) :
  Supervised maxRestarts (p.restartProcess maxRestarts)
  := by
  have hlength := h.length
  rw [if_neg (by simp [hexited])] at hlength
  rw [NativeProxy.restartProcess]
  have hrestarts := h.restarts (by simp [hexited])
  split
  case isTrue hmax =>
    exact {
      earlier := h.earlier
      quiet := by simp
      waited := h.waited
      received := by simp
      present := fun _ => h.present (by simp [hexited])
      length := by
        rw [if_neg (by simp)]
        exact Nat.le_trans hlength (Nat.le_succ _)
      restarts := by simp
      fatal := fun _ => Or.inr (by dsimp only; omega)
      bound := h.bound
      client := h.client
      disconnected := by simp }
  case isFalse hmax =>
    exact {
      earlier := h.earlier
      quiet := fun _ => h.quiet (Or.inr hexited)
      waited := h.waited
      received := by simp
      present := by simp
      length := by
        rw [if_pos rfl]
        exact hlength
      restarts := fun _ => Nat.lt_of_not_le hmax
      fatal := by simp
      bound := h.bound
      client := by simp
      disconnected := by simp }

/-- What a process does by itself concerns no other. -/
theorem Supervised.process (h : Supervised maxRestarts p)
    (hprocess : p.process event i = some p') :
  Supervised maxRestarts p'
  := by
  cases i with
  | none =>
      obtain ⟨cmd', hevent, rfl⟩ := Option.map_eq_some_iff.mp hprocess
      obtain ⟨cmd, hcmd, hevent⟩ := Option.bind_eq_some_iff.mp hevent
      obtain ⟨halive, hwaited, hreceived, -⟩ := event_cases hevent
      refine h.setCmd hcmd halive ?_ hreceived
      intro htrue hstate
      exact h.waited cmd hcmd (hwaited ▸ htrue) (halive hstate)
  | some i =>
      obtain ⟨cmd', hevent, rfl⟩ := Option.map_eq_some_iff.mp hprocess
      obtain ⟨cmd, hcmd, hevent⟩ := Option.bind_eq_some_iff.mp hevent
      obtain ⟨halive, -⟩ := event_cases hevent
      have hlength : (p.cmd.toList ++ p.earlier.set i cmd').length = p.cmds.length := by
        rw [cmds, List.length_append, List.length_append, List.length_set]
      exact { h with
        earlier := by
          intro other hother
          rcases List.mem_or_eq_of_mem_set hother with hother | rfl
          · exact h.earlier other hother
          · exact fun hstate => h.earlier cmd (List.mem_of_getElem? hcmd) (halive hstate)
        length := hlength ▸ h.length
        bound := hlength ▸ h.bound
        client := by
          intro n hn
          exact (h.client n hn).trans hlength.symm }

/-- Every step keeps the processes supervised. -/
theorem Supervised.step (h : Supervised maxRestarts p)
    (hstep : p.step maxRestarts a = some p') :
  Supervised maxRestarts p'
  := by
  cases a with
  | start succeeds =>
      obtain ⟨hmonitor, hstep⟩ := Option.ite_none_right_eq_some.mp hstep
      obtain rfl := Option.some.inj hstep
      exact h.start hmonitor succeeds
  | receive =>
      obtain ⟨cmd, hcmd, hstep⟩ := Option.bind_eq_some_iff.mp hstep
      obtain ⟨⟨hmonitor, -⟩, hstep⟩ := Option.ite_none_right_eq_some.mp hstep
      obtain rfl := Option.some.inj hstep
      have hset : Supervised maxRestarts { p with cmd := some { cmd with handshake := .received } } :=
        h.setCmd hcmd id (h.waited cmd hcmd) fun _ => rfl
      refine hset.goOn (by simp [hmonitor]) (by simp [hmonitor]) (by simp) (by simp) (by simp) ?_
      intro _ other hother
      obtain rfl := Option.mem_some_iff.mp hother
      rfl
  | timeout =>
      obtain ⟨hmonitor, hstep⟩ := Option.ite_none_right_eq_some.mp hstep
      obtain rfl := Option.some.inj hstep
      exact h.fails (by simp [hmonitor]) (by simp [hmonitor])
  | connect succeeds =>
      obtain ⟨hmonitor, hstep⟩ := Option.ite_none_right_eq_some.mp hstep
      obtain rfl := Option.some.inj hstep
      exact h.connect hmonitor succeeds
  | ready succeeds =>
      obtain ⟨cmd, hcmd, hstep⟩ := Option.bind_eq_some_iff.mp hstep
      obtain ⟨hmonitor, hstep⟩ := Option.ite_none_right_eq_some.mp hstep
      obtain rfl := Option.some.inj hstep
      exact h.waitReady hmonitor hcmd succeeds
  | wait =>
      obtain ⟨cmd, hcmd, hstep⟩ := Option.bind_eq_some_iff.mp hstep
      obtain ⟨⟨hmonitor, hreturns⟩, hstep⟩ := Option.ite_none_right_eq_some.mp hstep
      obtain rfl := Option.some.inj hstep
      exact h.wait hmonitor hcmd hreturns
  | restart =>
      obtain ⟨hmonitor, hstep⟩ := Option.ite_none_right_eq_some.mp hstep
      obtain rfl := Option.some.inj hstep
      exact h.restartProcess hmonitor
  | retry =>
      obtain ⟨hmonitor, hstep⟩ := Option.ite_none_right_eq_some.mp hstep
      obtain rfl := Option.some.inj hstep
      exact h.goOn (by simp [hmonitor]) (by simp [hmonitor]) (by simp) (by simp) (by simp) (by simp)
  | process i event => exact h.process hstep

/-- In every run, the processes are supervised. -/
theorem supervised_of_run (hmax : 0 < maxRestarts) (run : (lts maxRestarts).Run new tr p) :
  Supervised maxRestarts p
  := run.invariant (supervised_new hmax) fun _ _ h hstep => h.step hstep

/-- At any time at most one process is alive, none is when another one is started, and no more are
started than the attempts that are made. The client belongs to the process that was started last,
and the program ends only if the first start fails or the attempts have been used up. -/
theorem one_process {configured : ℕ}
    (run : (lts (maxRestartAttempts configured)).Run new tr p) :
  (p.cmds.filter fun cmd => cmd.state = .alive).length ≤ 1 ∧
    p.cmds.length ≤ maxRestartAttempts configured ∧ (∀ n ∈ p.client, n = p.cmds.length) ∧
    (p.monitor = .fatal → p.restarts = 0 ∨ p.restarts = maxRestartAttempts configured) ∧
    ∀ e ∈ tr, ∀ succeeds, e.action = .start succeeds → ∀ cmd ∈ e.before.cmds, cmd.state ≠ .alive
  := by
  have hmax := maxRestartAttempts_pos configured
  have h := supervised_of_run hmax run
  refine ⟨?_, h.bound, h.client, h.fatal, ?_⟩
  · have hearlier : (p.earlier.filter fun cmd => cmd.state = .alive) = [] := by
      rw [List.filter_eq_nil_iff]
      intro cmd hcmd
      simpa using h.earlier cmd hcmd
    rw [cmds, List.filter_append, hearlier, List.append_nil]
    apply Nat.le_trans (List.length_filter_le _ _)
    cases p.cmd <;> simp
  · intro e he succeeds haction cmd hcmd
    have hbefore := run.invariant_before (supervised_new hmax)
      (fun _ _ h hstep => h.step hstep) e he
    have hstep := run.step_of_mem he
    rw [haction] at hstep
    obtain ⟨hmonitor, -⟩ := Option.ite_none_right_eq_some.mp hstep
    rcases List.mem_append.mp hcmd with hcmd | hcmd
    · exact hbefore.quiet (Or.inl hmonitor) cmd (Option.mem_toList.mp hcmd)
    · exact hbefore.earlier cmd hcmd

/-- What happens until a process has been started a second time. -/
def startedAgain : List ProxyAction :=
  [.start true, .process none .write, .process none .copy, .receive, .connect true, .ready true,
    .process none .exit, .wait, .restart, .start true]

/-- A process that has exited is replaced by another. -/
theorem one_process_startedAgain :
  ∃ tr p, (lts (maxRestartAttempts 0)).Run new tr p ∧ tr.map Lts.Transition.action = startedAgain ∧
    p.cmds.length = 2 ∧ (p.cmds.filter fun cmd => cmd.state = .alive).length ≤ 1
  := by
  have hplay : (Lts.play (step (maxRestartAttempts 0)) new startedAgain).map
      (fun p => p.cmds.length) = some 2 := by decide
  obtain ⟨tr, p, run, hactions, hlength⟩ := Lts.exists_run_of_observe _ _ _ _ hplay
  exact ⟨tr, p, run, hactions, hlength, (one_process run).1⟩

/-! ### Recovery -/

/-- The proxy waits for a process whose message nobody takes. -/
def Stuck (p : NativeProxy) : Prop :=
  (p.monitor = .waiting ∨ p.monitor = .failed) ∧
    ∃ cmd ∈ p.cmd, cmd.state ≠ .notStarted ∧ cmd.waited = false ∧ cmd.Unread

/-- The proxy can go on until another process is started, or the program ends. -/
def Recovers (maxRestarts : ℕ) (p : NativeProxy) : Prop :=
  ∃ tr t, (lts maxRestarts).Run p tr t ∧ (∀ e ∈ tr, e.action.OfProxy) ∧
    (p.cmds.length < t.cmds.length ∨ t.monitor = .fatal)

/-- A proxy that is stuck remains stuck, and starts no process. -/
theorem Stuck.step (h : Stuck p) (hstep : p.step maxRestarts a = some p') :
  Stuck p' ∧ p'.cmds.length = p.cmds.length
  := by
  obtain ⟨hmonitor, cmd, hcmd, hstarted, hwaited, hunread⟩ := h
  have hreturns : ¬ cmd.WaitReturns := by
    rintro (hstate | htrue | ⟨-, hread⟩)
    · exact hstarted hstate
    · rw [hwaited] at htrue
      cases htrue
    · exact hread hunread
  cases a with
  | start succeeds =>
      obtain ⟨hpreparing, -⟩ := Option.ite_none_right_eq_some.mp hstep
      simp [hpreparing] at hmonitor
  | receive =>
      obtain ⟨other, -, hstep⟩ := Option.bind_eq_some_iff.mp hstep
      obtain ⟨⟨hhandshake, -⟩, -⟩ := Option.ite_none_right_eq_some.mp hstep
      simp [hhandshake] at hmonitor
  | timeout =>
      obtain ⟨hhandshake, -⟩ := Option.ite_none_right_eq_some.mp hstep
      simp [hhandshake] at hmonitor
  | connect succeeds =>
      obtain ⟨hconnecting, -⟩ := Option.ite_none_right_eq_some.mp hstep
      simp [hconnecting] at hmonitor
  | ready succeeds =>
      obtain ⟨other, -, hstep⟩ := Option.bind_eq_some_iff.mp hstep
      obtain ⟨hready, -⟩ := Option.ite_none_right_eq_some.mp hstep
      simp [hready] at hmonitor
  | wait =>
      obtain ⟨other, hother, hstep⟩ := Option.bind_eq_some_iff.mp hstep
      obtain ⟨⟨-, hother'⟩, -⟩ := Option.ite_none_right_eq_some.mp hstep
      obtain rfl : cmd = other := Option.some.inj (hcmd.symm.trans hother)
      exact absurd hother' hreturns
  | restart =>
      obtain ⟨hexited, -⟩ := Option.ite_none_right_eq_some.mp hstep
      simp [hexited] at hmonitor
  | retry =>
      obtain ⟨-, hstep⟩ := Option.ite_none_right_eq_some.mp hstep
      obtain rfl := Option.some.inj hstep
      exact ⟨⟨Or.inl rfl, cmd, hcmd, hstarted, hwaited, hunread⟩, rfl⟩
  | process i event =>
      cases i with
      | none =>
          obtain ⟨cmd', hevent, rfl⟩ := Option.map_eq_some_iff.mp hstep
          obtain ⟨other, hother, hevent⟩ := Option.bind_eq_some_iff.mp hevent
          obtain rfl : cmd = other := Option.some.inj (hcmd.symm.trans hother)
          obtain ⟨-, hwaited', -, hunread'⟩ := event_cases hevent
          refine ⟨⟨hmonitor, cmd', rfl, ?_, hwaited' ▸ hwaited, hunread' hunread⟩, ?_⟩
          · exact event_started hevent hstarted
          · rw [cmds, cmds, hother]
            rfl
      | some i =>
          obtain ⟨cmd', -, rfl⟩ := Option.map_eq_some_iff.mp hstep
          refine ⟨⟨hmonitor, cmd, hcmd, hstarted, hwaited, hunread⟩, ?_⟩
          rw [cmds, cmds, List.length_append, List.length_append, List.length_set]

/-- A proxy that is stuck remains stuck, and starts no process. -/
theorem Stuck.run (h : Stuck p) (run : (lts maxRestarts).Run p tr p') :
  Stuck p' ∧ p'.cmds.length = p.cmds.length
  := by
  refine run.invariant (I := fun q => Stuck q ∧ q.cmds.length = p.cmds.length) ⟨h, rfl⟩ ?_
  rintro e - ⟨hstuck, hlength⟩ hstep
  obtain ⟨hstuck, hsame⟩ := hstuck.step hstep
  exact ⟨hstuck, hsame.trans hlength⟩

/-- It does not recover. -/
theorem Stuck.not_recovers (h : Stuck p) :
  ¬ Recovers maxRestarts p
  := by
  rintro ⟨tr, t, run, -, hlength | hfatal⟩
  · have hsame := (h.run run).2
    omega
  · obtain ⟨⟨hmonitor, -⟩, -⟩ := h.run run
    simp [hfatal] at hmonitor

/-- A step of the proxy that starts no process. -/
theorem Recovers.of_step (h : Recovers maxRestarts p') (hstep : p.step maxRestarts a = some p')
    (ha : a.OfProxy) (hlength : p'.cmds.length = p.cmds.length) :
  Recovers maxRestarts p
  := by
  obtain ⟨tr, t, run, htr, hgoal⟩ := h
  refine ⟨[⟨p, a, p'⟩] ++ tr, t, (Lts.Run.nil.snoc hstep).append run, ?_, hlength ▸ hgoal⟩
  intro e he
  rcases List.mem_append.mp he with he | he
  · obtain rfl := List.mem_singleton.mp he
    exact ha
  · exact htr e he

/-- A program that ends need not recover. -/
theorem recovers_fatal (hmonitor : p.monitor = .fatal) :
  Recovers maxRestarts p
  := ⟨[], p, .nil, by simp, Or.inr hmonitor⟩

/-- A proxy that is about to start a process does so. -/
theorem recovers_preparing (hmonitor : p.monitor = .preparing) :
  Recovers maxRestarts p
  := by
  have hstep : p.step maxRestarts (.start true) = some (p.start true) := if_pos hmonitor
  refine ⟨[] ++ [_], p.start true, Lts.Run.nil.snoc hstep, ?_, Or.inl ?_⟩
  · intro e he
    obtain rfl := List.mem_singleton.mp he
    trivial
  · simp [NativeProxy.start, cmds]

/-- One that has noticed the exit starts another or ends the program. -/
theorem recovers_exited (hmonitor : p.monitor = .exited) :
  Recovers maxRestarts p
  := by
  have hstep : p.step maxRestarts .restart = some (p.restartProcess maxRestarts) := if_pos hmonitor
  by_cases hmax : p.restarts + 1 ≥ maxRestarts
  · rw [restartProcess, if_pos hmax] at hstep
    exact (recovers_fatal rfl).of_step hstep trivial rfl
  · rw [restartProcess, if_neg hmax] at hstep
    exact (recovers_preparing rfl).of_step hstep trivial rfl

/-- One that waits notices the exit. -/
theorem recovers_waiting (hmonitor : p.monitor = .waiting) (hcmd : p.cmd = some cmd)
    (hreturns : cmd.WaitReturns) :
  Recovers maxRestarts p
  := by
  have hstep : p.step maxRestarts .wait =
      some { p with monitor := .exited, cmd := some { cmd with waited := true } } := by
    rw [NativeProxy.step, hcmd]
    exact if_pos ⟨hmonitor, hreturns⟩
  refine (recovers_exited rfl).of_step hstep trivial ?_
  rw [cmds, cmds, hcmd]
  rfl

/-- So does one whose start has failed. -/
theorem recovers_failed (hmonitor : p.monitor = .failed) (hcmd : p.cmd = some cmd)
    (hreturns : cmd.WaitReturns) :
  Recovers maxRestarts p
  := by
  have hstep : p.step maxRestarts .retry = some { p with monitor := .waiting } := if_pos hmonitor
  have hwaiting : Recovers maxRestarts { p with monitor := .waiting } :=
    recovers_waiting rfl hcmd hreturns
  exact hwaiting.of_step hstep trivial rfl

/-- So does one whose start fails now. -/
theorem recovers_fails (hcmd : p.cmd = some cmd) (hreturns : cmd.WaitReturns) :
  Recovers maxRestarts p.fails
  := by
  rw [fails]
  split
  · exact recovers_fatal rfl
  · exact recovers_failed rfl hcmd hreturns

/-- A proxy that cannot connect gives up the start. -/
theorem recovers_connecting (hmonitor : p.monitor = .connecting) (hcmd : p.cmd = some cmd)
    (hreturns : cmd.WaitReturns) :
  Recovers maxRestarts p
  := by
  have hstep : p.step maxRestarts (.connect false) = some p.fails := if_pos hmonitor
  exact (recovers_fails hcmd hreturns).of_step hstep trivial rfl

/-- A proxy that waits for a handshake reads what a process has left. -/
theorem recovers_sending (hmonitor : p.monitor = .handshake) (hcmd : p.cmd = some cmd)
    (hexited : cmd.state = .exited) (hsending : cmd.handshake = .sending) :
  Recovers maxRestarts p
  := by
  have hstep : p.step maxRestarts .receive =
      some { p with monitor := .connecting, cmd := some { cmd with handshake := .received } } := by
    rw [NativeProxy.step, hcmd]
    exact if_pos ⟨hmonitor, hsending⟩
  have hreturns : Cmd.WaitReturns { cmd with handshake := .received } :=
    Or.inr (Or.inr ⟨hexited, by simp [Cmd.Unread]⟩)
  refine Recovers.of_step (recovers_connecting rfl rfl hreturns) hstep trivial ?_
  rw [cmds, cmds, hcmd]
  rfl

/-- While the proxy waits for the message, a process that has exited does no harm. -/
theorem recovers_handshake (hmonitor : p.monitor = .handshake) (hcmd : p.cmd = some cmd)
    (hexited : cmd.state = .exited) :
  Recovers maxRestarts p
  := by
  have htimeout : p.step maxRestarts .timeout = some p.fails := if_pos hmonitor
  cases hhandshake : cmd.handshake with
  | unwritten =>
      have hreturns : cmd.WaitReturns :=
        Or.inr (Or.inr ⟨hexited, by simp [Cmd.Unread, hhandshake]⟩)
      exact (recovers_fails hcmd hreturns).of_step htimeout trivial rfl
  | written =>
      have hcopy : p.step maxRestarts (.process none .copy) =
          some { p with cmd := some { cmd with handshake := .sending } } := by
        rw [NativeProxy.step, process, hcmd, Option.bind_some, Cmd.event, if_pos hhandshake]
        rfl
      have hsending : Recovers maxRestarts
          { p with cmd := some { cmd with handshake := .sending } } :=
        recovers_sending hmonitor rfl hexited rfl
      refine hsending.of_step hcopy rfl ?_
      rw [cmds, cmds, hcmd]
      rfl
  | sending => exact recovers_sending hmonitor hcmd hexited hhandshake
  | received =>
      have hreturns : cmd.WaitReturns :=
        Or.inr (Or.inr ⟨hexited, by simp [Cmd.Unread, hhandshake]⟩)
      exact (recovers_fails hcmd hreturns).of_step htimeout trivial rfl

/-- Wherever else the proxy is, it recovers. -/
theorem Supervised.recovers (h : Supervised maxRestarts p)
    (hdead : ∀ cmd ∈ p.cmds, cmd.state ≠ .alive) (hstuck : ¬ Stuck p) :
  Recovers maxRestarts p
  := by
  by_cases hpreparing : p.monitor = .preparing
  · exact recovers_preparing hpreparing
  obtain ⟨cmd, hcmd⟩ := Option.ne_none_iff_exists'.mp (h.present hpreparing)
  have halive := hdead cmd (by simp [cmds, hcmd])
  -- what can keep `Wait` from returning is a message that is not read
  have hreturns : ¬ cmd.Unread ∨ cmd.waited = true → cmd.WaitReturns := by
    intro hread
    cases hstate : cmd.state with
    | notStarted => exact Or.inl hstate
    | alive => exact absurd hstate halive
    | exited =>
        rcases hread with hread | hwaited
        · exact Or.inr (Or.inr ⟨hstate, hread⟩)
        · exact Or.inr (Or.inl hwaited)
  have hfree : p.monitor = .waiting ∨ p.monitor = .failed → cmd.WaitReturns := by
    intro hmonitor
    by_contra hwait
    refine hstuck ⟨hmonitor, cmd, hcmd, fun hstate => hwait (Or.inl hstate), ?_, ?_⟩
    · exact Bool.eq_false_iff.mpr fun hwaited => hwait (Or.inr (Or.inl hwaited))
    · exact not_imp_comm.mp (fun hread => hreturns (Or.inl hread)) hwait
  cases hmonitor : p.monitor with
  | preparing => exact absurd hmonitor hpreparing
  | handshake =>
      cases hstate : cmd.state with
      | notStarted =>
          have htimeout : p.step maxRestarts .timeout = some p.fails := if_pos hmonitor
          exact (recovers_fails hcmd (Or.inl hstate)).of_step htimeout trivial rfl
      | alive => exact absurd hstate halive
      | exited => exact recovers_handshake hmonitor hcmd hstate
  | connecting =>
      have hreceived := h.received (Or.inl hmonitor) cmd hcmd
      exact recovers_connecting hmonitor hcmd (hreturns (Or.inl (by simp [Cmd.Unread, hreceived])))
  | ready =>
      have hstep : p.step maxRestarts (.ready false) = some (p.waitReady cmd false) := by
        rw [NativeProxy.step, hcmd]
        exact if_pos hmonitor
      have hfails : Recovers maxRestarts (p.waitReady cmd false) :=
        recovers_fails rfl (Or.inr (Or.inl rfl))
      refine hfails.of_step hstep trivial ?_
      rw [cmds, cmds, hcmd]
      rfl
  | waiting => exact recovers_waiting hmonitor hcmd (hfree (Or.inl hmonitor))
  | exited => exact recovers_exited hmonitor
  | failed => exact recovers_failed hmonitor hcmd (hfree (Or.inr hmonitor))
  | fatal => exact recovers_fatal hmonitor

/-- When no process is alive, the proxy can go on until another one is started or the program ends,
unless it is stuck. -/
theorem recovers_iff {configured : ℕ} (run : (lts (maxRestartAttempts configured)).Run new tr p)
    (hdead : ∀ cmd ∈ p.cmds, cmd.state ≠ .alive) :
  Recovers (maxRestartAttempts configured) p ↔ ¬ Stuck p
  := by
  constructor
  · exact fun h hstuck => hstuck.not_recovers h
  · exact (supervised_of_run (maxRestartAttempts_pos configured) run).recovers hdead

/-- The message comes after the time-out, and then the process exits. -/
theorem recovers_iff_late :
  ∃ tr p, (lts (maxRestartAttempts 0)).Run new tr p ∧ tr.map Lts.Transition.action =
      startedAgain ++ [.timeout, .process none .write, .process none .exit] ∧
    ¬ Recovers (maxRestartAttempts 0) p
  := by
  have hplay : (Lts.play (step (maxRestartAttempts 0)) new
      (startedAgain ++ [.timeout, .process none .write, .process none .exit])).map
        (fun p => (p.monitor, p.cmd, p.cmds.map Cmd.state)) =
      some (.failed, some ⟨.exited, .written, false⟩, [.exited, .exited]) := by
    decide
  obtain ⟨tr, p, run, hactions, hobserved⟩ := Lts.exists_run_of_observe _ _ _ _ hplay
  obtain ⟨hmonitor, hcmd, hstates⟩ : p.monitor = .failed ∧
      p.cmd = some ⟨.exited, .written, false⟩ ∧ p.cmds.map Cmd.state = [.exited, .exited] := by
    simpa using hobserved
  have hdead : ∀ cmd ∈ p.cmds, cmd.state ≠ .alive := by
    intro cmd hmem
    have hstate := List.mem_map_of_mem (f := Cmd.state) hmem
    simp [hstates] at hstate
    simp [hstate]
  refine ⟨tr, p, run, hactions, ?_⟩
  rw [recovers_iff run hdead]
  exact not_not_intro ⟨Or.inr hmonitor, _, hcmd, by decide, rfl, Or.inl rfl⟩

/-- The proxy no longer waits for the message when it comes. -/
def Late (p : NativeProxy) (a : ProxyAction) : Prop :=
  (a = .process none .write ∧ (p.monitor = .waiting ∨ p.monitor = .failed)) ∨
    (a = .timeout ∧ ∃ cmd ∈ p.cmd, cmd.Unread)

instance (p : NativeProxy) (a : ProxyAction) : Decidable (Late p a) :=
  inferInstanceAs (Decidable (_ ∨ _))

/-- Nobody waits for a process whose message is not read. -/
def Punctual (p : NativeProxy) : Prop :=
  p.monitor = .waiting ∨ p.monitor = .failed → ∀ cmd ∈ p.cmd, ¬ cmd.Unread

/-- A handshake that comes in time is read. -/
theorem Punctual.not_stuck (h : Punctual p) :
  ¬ Stuck p
  := by
  rintro ⟨hmonitor, cmd, hcmd, -, -, hunread⟩
  exact h hmonitor cmd hcmd hunread

/-- When the proxy gives up on a process, its message is not there. -/
theorem punctual_fails (h : ∀ cmd ∈ p.cmd, ¬ cmd.Unread) :
  Punctual p.fails
  := fun _ => h

/-- A process that is not late leaves no unread handshake. -/
theorem Punctual.process (h : Punctual p) (hprocess : p.process event i = some p')
    (hlate : ¬ Late p (.process i event)) :
  Punctual p'
  := by
  cases i with
  | none =>
      obtain ⟨cmd', hevent, rfl⟩ := Option.map_eq_some_iff.mp hprocess
      obtain ⟨cmd, hcmd, hevent⟩ := Option.bind_eq_some_iff.mp hevent
      intro hmonitor other hother
      obtain rfl := Option.mem_some_iff.mp hother
      have hread := h hmonitor cmd hcmd
      cases event with
      | write => exact absurd (Or.inl ⟨rfl, hmonitor⟩) hlate
      | copy =>
          obtain ⟨hwritten, -⟩ := Option.ite_none_right_eq_some.mp hevent
          exact absurd (Or.inl hwritten) hread
      | exit =>
          obtain ⟨-, hevent⟩ := Option.ite_none_right_eq_some.mp hevent
          obtain rfl := Option.some.inj hevent
          exact hread
  | some i =>
      obtain ⟨cmd', -, rfl⟩ := Option.map_eq_some_iff.mp hprocess
      exact h

/-- As long as no handshake is late, none is left unread. -/
theorem Punctual.step (hsupervised : Supervised maxRestarts p) (h : Punctual p)
    (hstep : p.step maxRestarts a = some p') (hlate : ¬ Late p a) :
  Punctual p'
  := by
  have hread : p.monitor = .connecting ∨ p.monitor = .ready → ∀ cmd ∈ p.cmd, ¬ cmd.Unread := by
    intro hmonitor cmd hcmd
    simp [Cmd.Unread, hsupervised.received hmonitor cmd hcmd]
  cases a with
  | start succeeds =>
      obtain ⟨hmonitor, hstep⟩ := Option.ite_none_right_eq_some.mp hstep
      obtain rfl := Option.some.inj hstep
      rw [NativeProxy.start]
      split
      · simp [Punctual]
      · apply punctual_fails
        simp [Cmd.Unread]
  | receive =>
      obtain ⟨cmd, -, hstep⟩ := Option.bind_eq_some_iff.mp hstep
      obtain ⟨-, hstep⟩ := Option.ite_none_right_eq_some.mp hstep
      obtain rfl := Option.some.inj hstep
      simp [Punctual]
  | timeout =>
      obtain ⟨-, hstep⟩ := Option.ite_none_right_eq_some.mp hstep
      obtain rfl := Option.some.inj hstep
      apply punctual_fails
      intro cmd hcmd hunread
      exact hlate (Or.inr ⟨rfl, cmd, hcmd, hunread⟩)
  | connect succeeds =>
      obtain ⟨hmonitor, hstep⟩ := Option.ite_none_right_eq_some.mp hstep
      obtain rfl := Option.some.inj hstep
      rw [NativeProxy.connect]
      split
      · simp [Punctual]
      · exact punctual_fails (hread (Or.inl hmonitor))
  | ready succeeds =>
      obtain ⟨cmd, hcmd, hstep⟩ := Option.bind_eq_some_iff.mp hstep
      obtain ⟨hmonitor, hstep⟩ := Option.ite_none_right_eq_some.mp hstep
      obtain rfl := Option.some.inj hstep
      rw [NativeProxy.waitReady]
      split
      · exact fun _ => hread (Or.inr hmonitor)
      · apply punctual_fails
        intro other hother
        obtain rfl := Option.mem_some_iff.mp hother
        exact hread (Or.inr hmonitor) cmd hcmd
  | wait =>
      obtain ⟨cmd, -, hstep⟩ := Option.bind_eq_some_iff.mp hstep
      obtain ⟨-, hstep⟩ := Option.ite_none_right_eq_some.mp hstep
      obtain rfl := Option.some.inj hstep
      simp [Punctual]
  | restart =>
      obtain ⟨-, hstep⟩ := Option.ite_none_right_eq_some.mp hstep
      obtain rfl := Option.some.inj hstep
      rw [restartProcess]
      split <;> simp [Punctual]
  | retry =>
      obtain ⟨hmonitor, hstep⟩ := Option.ite_none_right_eq_some.mp hstep
      obtain rfl := Option.some.inj hstep
      exact fun _ => h (Or.inr hmonitor)
  | process i event => exact h.process hstep hlate

/-- As long as every message comes before its time-out or not at all, the proxy can go on after
every exit of the process. -/
theorem recovers_of_punctual {configured : ℕ}
    (run : (lts (maxRestartAttempts configured)).Run new tr p)
    (hlate : ∀ e ∈ tr, ¬ Late e.before e.action) (hdead : ∀ cmd ∈ p.cmds, cmd.state ≠ .alive) :
  Recovers (maxRestartAttempts configured) p
  := by
  have hpunctual : Supervised (maxRestartAttempts configured) p ∧ Punctual p := by
    refine run.invariant
      (I := fun q => Supervised (maxRestartAttempts configured) q ∧ Punctual q)
      ⟨supervised_new (maxRestartAttempts_pos configured), by simp [Punctual, new]⟩ ?_
    rintro e he ⟨hsupervised, hpunctual⟩ hstep
    exact ⟨hsupervised.step hstep, hpunctual.step hsupervised hstep (hlate e he)⟩
  exact hpunctual.1.recovers hdead hpunctual.2.not_stuck

/-- The process exits after it was started again. -/
theorem recovers_of_punctual_exit :
  ∃ tr p, (lts (maxRestartAttempts 0)).Run new tr p ∧
    tr.map Lts.Transition.action = startedAgain ++ [.process none .exit] ∧
    Recovers (maxRestartAttempts 0) p
  := by
  have hplay : (Lts.play (Lts.restrict (step (maxRestartAttempts 0)) fun p a => ¬ Late p a) new
      (startedAgain ++ [.process none .exit])).map (fun p => p.cmds.map Cmd.state) =
      some [.exited, .exited] := by
    decide
  obtain ⟨tr, p, run, hactions, hlate, hstates⟩ := Lts.exists_run_of_restrict _ _ _ _ _ hplay
  have hdead : ∀ cmd ∈ p.cmds, cmd.state ≠ .alive := by
    intro cmd hmem
    have hstate := List.mem_map_of_mem (f := Cmd.state) hmem
    simp [hstates] at hstate
    simp [hstate]
  exact ⟨tr, p, run, hactions, recovers_of_punctual run hlate hdead⟩

end NativeProxy

end JetKvm.Native
