import JetKvm.Library.Transition
import Mathlib.Data.List.Perm.Basic
import Mathlib.Logic.Function.Basic

/-!
# The stream of log messages

A message is written from a buffer of the logger, and a goroutine copies it out of the buffer after
that, when the buffer may already hold another message. What was copied is handed to a broker, which
offers it to the browsers that are registered and does not wait for those that are not ready. A
goroutine of each request is to have the browser removed after it has gone. It first reads the
browser's channel until that is closed, but it is the removal that closes the channel.

Messages are lists of their bytes.
-/

namespace JetKvm.Logging

/-- Where the handler of a request is, from its registration to the stream of events. -/
inductive Handler where
  | registering
  /-- It looks whether the browser has gone. -/
  | polling
  | receiving
  | writing (message : List Char)
  | returned
deriving DecidableEq, Repr

/-- Where the goroutine that waits for the end of a connection is. -/
inductive Closer where
  | notStarted
  | waiting
  | draining
  /-- It asks the broker to remove the browser. -/
  | sending
  | ended
deriving DecidableEq, Repr

/-- A request for log messages. The notification that the browser has gone is a single value. -/
structure Client where
  handler : Handler
  closer : Closer
  connected : Bool
  notification : Bool
  channelClosed : Bool
  /-- The events that have been written to the browser. -/
  events : List (List Char)
  /-- The number of messages that were broadcast before the registration. -/
  since : ℕ
deriving DecidableEq, Repr

/-- Who takes a message that is offered. -/
inductive Receiver where
  | handler
  | closer
  | nobody
deriving DecidableEq, Repr

namespace Client

/-- A client whose request has just come in. -/
def new : Client where
  handler := .registering
  closer := .notStarted
  connected := true
  notification := false
  channelClosed := false
  events := []
  since := 0

/-- The message can go to the receiver. A send on a closed channel does not return. -/
def Ready (client : Client) : Receiver → Prop
  | .handler => client.handler = .receiving ∧ client.channelClosed = false
  | .closer => client.closer = .draining ∧ client.channelClosed = false
  | .nobody =>
      client.handler ≠ .receiving ∧ client.closer ≠ .draining ∧ client.channelClosed = false

instance (client : Client) (receiver : Receiver) : Decidable (client.Ready receiver) := by
  cases receiver <;> exact inferInstanceAs (Decidable (_ ∧ _))

/-- A message is taken from the channel by one of the two. -/
def receive (client : Client) (message : List Char) : Receiver → Client
  | .handler => { client with handler := .writing message }
  | .closer => client
  | .nobody => client

/-- The events, and the one that is being written. -/
def received (client : Client) : List (List Char) :=
  match client.handler with
  | .writing message => client.events ++ [message]
  | _ => client.events

end Client

/-- A goroutine of `Write`, which has copied some of its part of a buffer. The part begins with the
buffer and has some length. -/
structure Copier where
  buffer : ℕ
  length : ℕ
  copied : List Char
deriving DecidableEq, Repr

/-- `sseEvent`, with the buffers of the logger, the goroutines that copy messages, the messages that
wait to be broadcast, and the requests. -/
structure SseEvent (Id : Type*) where
  buffers : ℕ → ℕ → Char
  copiers : List Copier
  messages : List (List Char)
  totalClients : List Id
  /-- The message that is being broadcast, and the clients to which it has still to be offered. -/
  broadcasting : Option (List Char × List Id)
  clients : Id → Option Client
  /-- All messages that were written to the log, and those that were broadcast. -/
  written : List (List Char)
  broadcast : List (List Char)

/-- What the loggers, the broker, the handlers and the browsers do. -/
inductive SseAction (Id : Type*) where
  /-- The logger puts a byte into a buffer. -/
  | store (buffer offset : ℕ) (byte : Char)
  | write (buffer length : ℕ)
  /-- A goroutine copies the next byte, or hands over what it has copied. -/
  | copy (copier : Copier)
  | send (copier : Copier)
  | broadcast (message : List Char)
  | offer (id : Id) (receiver : Receiver)
  | endBroadcast
  | connect (id : Id)
  | register (id : Id)
  | poll (id : Id)
  | writeEvent (id : Id)
  | disconnect (id : Id)
  | notify (id : Id)
  | endDraining (id : Id)
  | endStream (id : Id)
  | remove (id : Id)
deriving DecidableEq, Repr

/-- The client that registers. -/
def SseAction.registers {Id : Type*} : SseAction Id → Option Id
  | .register id => some id
  | _ => none

namespace SseEvent

variable {Id : Type*}

/-- Nothing has been logged, and nobody listens. -/
def start : SseEvent Id where
  buffers := fun _ _ => '\x00'
  copiers := []
  messages := []
  totalClients := []
  broadcasting := none
  clients := fun _ => none
  written := []
  broadcast := []

variable [DecidableEq Id]

/-- A client is changed. -/
def setClient (s : SseEvent Id) (id : Id) (client : Client) : SseEvent Id :=
  { s with clients := Function.update s.clients id (some client) }

/-- The request goes on if a condition is met. -/
def update (s : SseEvent Id) (id : Id) (condition : Client → Bool) (next : Client → Client) :
    Option (SseEvent Id) :=
  (s.clients id).bind fun client =>
    if condition client then some (s.setClient id (next client)) else none

/-- The first bytes of a buffer. -/
def slice (s : SseEvent Id) (buffer length : ℕ) : List Char :=
  (List.range length).map (s.buffers buffer)

/-- The next state. -/
def step (s : SseEvent Id) : SseAction Id → Option (SseEvent Id)
  | .store buffer offset byte =>
      some
        { s with
          buffers := Function.update s.buffers buffer
            (Function.update (s.buffers buffer) offset byte) }
  -- `Write` starts a goroutine and returns.
  | .write buffer length =>
      some
        { s with
          copiers := s.copiers ++ [⟨buffer, length, []⟩]
          written := s.written ++ [s.slice buffer length] }
  | .copy copier =>
      if copier ∈ s.copiers ∧ copier.copied.length < copier.length then
        some
          { s with
            copiers := s.copiers.erase copier ++
              [{ copier with
                copied := copier.copied ++ [s.buffers copier.buffer copier.copied.length] }] }
      else none
  | .send copier =>
      if copier ∈ s.copiers ∧ copier.copied.length = copier.length then
        some
          { s with
            copiers := s.copiers.erase copier
            messages := s.messages ++ [copier.copied] }
      else none
  | .broadcast message =>
      if s.broadcasting = none ∧ message ∈ s.messages then
        some
          { s with
            messages := s.messages.erase message
            broadcasting := some (message, s.totalClients)
            broadcast := s.broadcast ++ [message] }
      else none
  | .offer id receiver =>
      s.broadcasting.bind fun (message, remaining) =>
        if id ∈ remaining then
          ({ s with broadcasting := some (message, remaining.erase id) } : SseEvent Id).update id
            (fun client => client.Ready receiver) fun client => client.receive message receiver
        else none
  | .endBroadcast =>
      s.broadcasting.bind fun (_, remaining) =>
        if remaining = [] then some { s with broadcasting := none } else none
  | .connect id => if s.clients id = none then some (s.setClient id .new) else none
  | .register id =>
      if s.broadcasting = none then
        ({ s with totalClients := id :: s.totalClients } : SseEvent Id).update id
          (fun client => client.handler = .registering) fun client =>
            { client with handler := .polling, closer := .waiting, since := s.broadcast.length }
      else none
  -- The handler returns when it finds the notification, and waits for a message otherwise.
  | .poll id =>
      s.update id (fun client => client.handler = .polling) fun client =>
        if client.notification then { client with handler := .returned, notification := false }
        else { client with handler := .receiving }
  | .writeEvent id =>
      s.update id (fun client => client.handler matches .writing _) fun client =>
        { client with handler := .polling, events := client.received }
  | .disconnect id =>
      s.update id (fun client => client.connected) fun client =>
        { client with connected := false, notification := true }
  | .notify id =>
      s.update id (fun client => client.closer = .waiting ∧ client.notification = true)
        fun client => { client with closer := .draining, notification := false }
  | .endDraining id =>
      s.update id (fun client => client.closer = .draining ∧ client.channelClosed = true)
        fun client => { client with closer := .sending }
  | .endStream id =>
      s.update id (fun client => client.handler = .receiving ∧ client.channelClosed = true)
        fun client => { client with handler := .returned }
  | .remove id =>
      if s.broadcasting = none then
        ({ s with totalClients := s.totalClients.erase id } : SseEvent Id).update id
          (fun client => client.closer = .sending) fun client =>
            { client with closer := .ended, channelClosed := true }
      else none

/-- The steps come in any order. -/
def lts : Lts (SseEvent Id) (SseAction Id) :=
  Lts.ofStep step

/-- The messages that have been offered to a client, or could have been before it was there. -/
def offered (s : SseEvent Id) (id : Id) : List (List Char) :=
  match s.broadcasting with
  | some (_, remaining) => if id ∈ remaining then s.broadcast.dropLast else s.broadcast
  | none => s.broadcast

end SseEvent

/-! ### What is kept for a client -/

namespace Client

/-- The channel is open, and nobody is on the way to close it. -/
structure Open (client : Client) : Prop where
  channel : client.channelClosed = false
  closer : client.closer ≠ .sending ∧ client.closer ≠ .ended
  started : client.handler = .registering ↔ client.closer = .notStarted
  fresh : client.handler = .registering → client.events = []
  gone : client.notification = true → client.connected = false
  /-- The notification has been taken by one of the two. -/
  draining : client.closer = .draining →
    client.notification = false ∧ client.connected = false ∧ client.handler ≠ .returned
  returned : client.handler = .returned → client.notification = false ∧ client.connected = false

/-- Nothing was received but what was broadcast after the registration, in its order. -/
structure Streams (client : Client) (broadcast : List (List Char)) : Prop where
  since : client.since ≤ broadcast.length
  received : client.received.Sublist (broadcast.drop client.since)

variable {client : Client} {broadcast : List (List Char)} {message : List Char}

/-- A message that is broadcast later may still be on its way. -/
theorem Streams.append (h : client.Streams broadcast) (message : List Char) :
  client.Streams (broadcast ++ [message])
  := by
  refine ⟨?_, ?_⟩
  · rw [List.length_append]
    exact Nat.le_add_right_of_le h.since
  · rw [List.drop_append_of_le_length h.since]
    exact h.received.trans (List.sublist_append_left ..)

/-- The browser has got what its handler has received, apart from what is being written. -/
theorem events_sublist_received (client : Client) :
  client.events.Sublist client.received
  := by
  rw [received]
  split
  · exact List.sublist_append_left ..
  · exact List.Sublist.refl _

/-- A message that is offered is received after those before it. -/
theorem Streams.receive (h : client.Streams broadcast) {receiver : Receiver}
    (hready : client.Ready receiver) :
  (client.receive message receiver).Streams (broadcast ++ [message])
  := by
  cases receiver with
  | handler =>
      have hreceived : client.received = client.events := by
        rw [Client.received, hready.1]
      refine ⟨(h.append message).since, ?_⟩
      change (client.events ++ [message]).Sublist ((broadcast ++ [message]).drop client.since)
      rw [List.drop_append_of_le_length h.since, ← hreceived]
      exact h.received.append_right _
  | closer => exact h.append message
  | nobody => exact h.append message

end Client

/-! ### What is kept -/

namespace SseEvent

variable {Id : Type*} [DecidableEq Id] {s s' t : SseEvent Id} {a : SseAction Id} {id : Id}
  {client client' : Client} {condition : Client → Bool} {next : Client → Client}

/-- Only this client is changed. -/
theorem clients_setClient (s : SseEvent Id) (id : Id) (client : Client) :
  (s.setClient id client).clients = Function.update s.clients id (some client)
  := rfl

/-- A step of a client needs the client, in a state in which it can take the step. -/
theorem update_eq_some (h : s.update id condition next = some t) :
  ∃ client, s.clients id = some client ∧ condition client = true ∧
    t = s.setClient id (next client)
  := by
  obtain ⟨client, hclient, h⟩ := Option.bind_eq_some_iff.mp h
  obtain ⟨hcondition, h⟩ := Option.ite_none_right_eq_some.mp h
  exact ⟨client, hclient, hcondition, (Option.some.inj h).symm⟩

/-- The broker, its clients, and what has become of the messages. -/
structure Sound (s : SseEvent Id) : Prop where
  isOpen : ∀ id client, s.clients id = some client → client.Open
  registered : ∀ id, id ∈ s.totalClients ↔
    ∃ client, s.clients id = some client ∧ client.handler ≠ .registering
  remaining : ∀ message remaining, s.broadcasting = some (message, remaining) →
    remaining.Nodup ∧ ∃ before, s.broadcast = before ++ [message]
  streams : ∀ id client, s.clients id = some client → client.Streams (s.offered id)
  nodup : s.totalClients.Nodup

/-- No client is there at first. -/
theorem sound_start :
  Sound (start : SseEvent Id)
  where
  isOpen _ _ hclient := by cases hclient
  registered _ := by simp [start]
  remaining _ _ hbroadcasting := by cases hbroadcasting
  streams _ _ hclient := by cases hclient
  nodup := List.nodup_nil

/-- A property of the clients after one of them has changed. -/
theorem forall_setClient {P : Id → Client → Prop} (h : ∀ id client, s.clients id = some client →
    P id client) (hclient : P id client) :
  ∀ id' client', (s.setClient id client).clients id' = some client' → P id' client'
  := by
  intro id' client' hclient'
  by_cases hid : id' = id
  · obtain rfl := hid
    rw [clients_setClient, Function.update_self] at hclient'
    obtain rfl := Option.some.inj hclient'
    exact hclient
  · rw [clients_setClient, Function.update_of_ne hid] at hclient'
    exact h id' client' hclient'

/-- A client may be changed when it keeps what holds of every client. -/
theorem Sound.setClient (h : s.Sound) (hbefore : s.clients id = some client)
    (hopen : client'.Open)
    (hregistering : client'.handler = .registering ↔ client.handler = .registering)
    (hstreams : client'.Streams (s.offered id)) :
  (s.setClient id client').Sound
  where
  isOpen := forall_setClient h.isOpen hopen
  registered := by
    intro id'
    change id' ∈ s.totalClients ↔ _
    rw [clients_setClient, h.registered id']
    by_cases hid : id' = id
    · obtain rfl := hid
      rw [Function.update_self, hbefore]
      simp [hregistering]
    · rw [Function.update_of_ne hid]
  remaining := h.remaining
  streams := forall_setClient (P := fun id' client' => client'.Streams (s.offered id')) h.streams
    hstreams
  nodup := h.nodup

/-- What the loggers and their goroutines do has nothing to do with the clients. -/
theorem Sound.logger (h : s.Sound) (buffers : ℕ → ℕ → Char) (copiers : List Copier)
    (messages written : List (List Char)) :
  Sound
    { s with buffers := buffers, copiers := copiers, messages := messages, written := written }
  := ⟨h.isOpen, h.registered, h.remaining, h.streams, h.nodup⟩

/-- A message that is taken is offered to all clients. -/
theorem Sound.broadcast (h : s.Sound) {message : List Char} (hidle : s.broadcasting = none) :
  Sound
    { s with
      messages := s.messages.erase message
      broadcasting := some (message, s.totalClients)
      broadcast := s.broadcast ++ [message] }
  where
  isOpen := h.isOpen
  registered := h.registered
  remaining := by
    intro message' remaining hbroadcasting
    obtain ⟨rfl, rfl⟩ := Prod.mk.inj (Option.some.inj hbroadcasting)
    exact ⟨h.nodup, _, rfl⟩
  streams := by
    intro id client hclient
    have hstreams := h.streams id client hclient
    rw [offered, hidle] at hstreams
    dsimp only [offered]
    split
    · rwa [List.dropLast_concat]
    · exact hstreams.append message
  nodup := h.nodup

/-- A broadcast ends when every client has been offered the message. -/
theorem Sound.endBroadcast (h : s.Sound) {message : List Char}
    (hbroadcasting : s.broadcasting = some (message, [])) :
  Sound { s with broadcasting := none }
  := {
    h with
    remaining := by
      intro _ _ hsome
      cases hsome
    streams := by
      intro id client hclient
      have hstreams := h.streams id client hclient
      rw [offered, hbroadcasting] at hstreams
      exact hstreams }

/-- A message that is offered to a client is no longer to be offered to it. -/
theorem Sound.offer (h : s.Sound) {message : List Char} {remaining : List Id} {receiver : Receiver}
    (hbroadcasting : s.broadcasting = some (message, remaining)) (hid : id ∈ remaining)
    (hclient : s.clients id = some client) (hready : client.Ready receiver) :
  (({ s with broadcasting := some (message, remaining.erase id) } : SseEvent Id).setClient id
    (client.receive message receiver)).Sound
  := by
  obtain ⟨hnodup, before, hbefore⟩ := h.remaining _ _ hbroadcasting
  have hnotMem : id ∉ remaining.erase id := hnodup.not_mem_erase
  have hstreams := h.streams id client hclient
  rw [offered, hbroadcasting] at hstreams
  simp only [if_pos hid, hbefore, List.dropLast_concat] at hstreams
  have hsound : Sound { s with broadcasting := some (message, remaining.erase id) } := {
    h with
    remaining := by
      intro message' remaining' heq
      obtain ⟨rfl, rfl⟩ := Prod.mk.inj (Option.some.inj heq)
      exact ⟨hnodup.erase id, before, hbefore⟩
    streams := by
      intro id' client' hclient'
      have hstreams' := h.streams id' client' hclient'
      rw [offered, hbroadcasting] at hstreams'
      dsimp only [offered] at hstreams' ⊢
      by_cases heq : id' = id
      · obtain rfl := heq
        obtain rfl : client = client' := Option.some.inj (hclient.symm.trans hclient')
        rw [if_neg hnotMem, hbefore]
        exact hstreams.append message
      · simpa only [List.mem_erase_of_ne heq] using hstreams' }
  have hopen := h.isOpen id client hclient
  refine hsound.setClient hclient ?_ ?_ ?_
  · cases receiver with
    | handler =>
        refine ⟨hopen.channel, hopen.closer, ?_, ?_, hopen.gone, ?_, ?_⟩
        · simp [Client.receive, ← hopen.started, hready.1]
        · intro hregistering
          cases hregistering
        · intro hdraining
          obtain ⟨hnotification, hconnected, -⟩ := hopen.draining hdraining
          exact ⟨hnotification, hconnected, by simp [Client.receive]⟩
        · intro hreturned
          cases hreturned
    | closer => exact hopen
    | nobody => exact hopen
  · cases receiver with
    | handler => simp [Client.receive, hready.1]
    | closer => rfl
    | nobody => rfl
  · dsimp only [offered]
    rw [if_neg hnotMem, hbefore]
    exact hstreams.receive hready

/-- A new client has received nothing. -/
theorem Sound.connect (h : s.Sound) (hnone : s.clients id = none) :
  (s.setClient id .new).Sound
  where
  isOpen := forall_setClient h.isOpen ⟨rfl, by decide, by decide, by decide, by decide, by decide,
    by decide⟩
  registered := by
    intro id'
    change id' ∈ s.totalClients ↔ _
    rw [clients_setClient, h.registered id']
    by_cases hid : id' = id
    · obtain rfl := hid
      rw [Function.update_self, hnone]
      simp [Client.new]
    · rw [Function.update_of_ne hid]
  remaining := h.remaining
  streams := forall_setClient (P := fun id' client' => client'.Streams (s.offered id')) h.streams
    ⟨Nat.zero_le _, List.nil_sublist _⟩
  nodup := h.nodup

/-- A client that registers has received nothing yet, and is offered what is broadcast from then
on. -/
theorem Sound.register (h : s.Sound) (hidle : s.broadcasting = none)
    (hclient : s.clients id = some client) (hregistering : client.handler = .registering) :
  (({ s with totalClients := id :: s.totalClients } : SseEvent Id).setClient id
    { client with handler := .polling, closer := .waiting, since := s.broadcast.length }).Sound
  := by
  have hopen := h.isOpen id client hclient
  have hnotMem : id ∉ s.totalClients := by
    intro hid
    obtain ⟨client', hclient', hne⟩ := (h.registered id).mp hid
    obtain rfl : client = client' := Option.some.inj (hclient.symm.trans hclient')
    exact hne hregistering
  exact {
    isOpen := by
      refine forall_setClient h.isOpen
        ⟨hopen.channel, by simp, by simp, by simp, hopen.gone, ?_, ?_⟩
      · intro hdraining
        cases hdraining
      · intro hreturned
        cases hreturned
    registered := by
      intro id'
      change id' ∈ id :: s.totalClients ↔ _
      rw [clients_setClient, List.mem_cons, h.registered id']
      by_cases hid : id' = id
      · obtain rfl := hid
        simp
      · rw [Function.update_of_ne hid, or_iff_right hid]
    remaining := h.remaining
    streams := by
      refine forall_setClient (P := fun id' client' => client'.Streams (s.offered id')) h.streams ?_
      rw [offered, hidle]
      refine ⟨Nat.le_refl _, ?_⟩
      change client.events.Sublist _
      rw [hopen.fresh hregistering]
      exact List.nil_sublist _
    nodup := List.nodup_cons.mpr ⟨hnotMem, h.nodup⟩ }

/-- A handler that polls returns when its connection has ended, and waits for a message
otherwise. -/
theorem Sound.poll (h : s.Sound) (hclient : s.clients id = some client)
    (hpolling : client.handler = .polling) :
  (s.setClient id
    (if client.notification then { client with handler := .returned, notification := false }
      else { client with handler := .receiving })).Sound
  := by
  have hopen := h.isOpen id client hclient
  have hstreams := h.streams id client hclient
  have hreceived : client.received = client.events := by
    rw [Client.received, hpolling]
  have hstarted : client.closer ≠ .notStarted := by
    rw [ne_eq, ← hopen.started, hpolling]
    decide
  split
  case isTrue hnotification =>
    refine h.setClient hclient ?_ (by simp [hpolling])
      ⟨hstreams.since, hreceived ▸ hstreams.received⟩
    have hgone := hopen.gone hnotification
    refine ⟨hopen.channel, hopen.closer, by simp [hstarted], by simp, by simp, ?_, ?_⟩
    · intro hdraining
      rw [(hopen.draining hdraining).1] at hnotification
      cases hnotification
    · intro _
      exact ⟨rfl, hgone⟩
  case isFalse =>
    refine h.setClient hclient ?_ (by simp [hpolling])
      ⟨hstreams.since, hreceived ▸ hstreams.received⟩
    refine ⟨hopen.channel, hopen.closer, by simp [hstarted], by simp, hopen.gone, ?_, by simp⟩
    intro hdraining
    obtain ⟨hnotification, hconnected, -⟩ := hopen.draining hdraining
    exact ⟨hnotification, hconnected, by simp⟩

/-- The handler writes what it has received. -/
theorem Sound.writeEvent (h : s.Sound) (hclient : s.clients id = some client)
    (hwriting : (client.handler matches .writing _) = true) :
  (s.setClient id { client with handler := .polling, events := client.received }).Sound
  := by
  have hopen := h.isOpen id client hclient
  have hstreams := h.streams id client hclient
  obtain ⟨message, hhandler⟩ : ∃ message, client.handler = .writing message := by
    cases hhandler : client.handler <;> simp [hhandler] at hwriting ⊢
  have hstarted : client.closer ≠ .notStarted := by
    rw [ne_eq, ← hopen.started, hhandler]
    simp
  refine h.setClient hclient ?_ (by simp [hhandler]) ⟨hstreams.since, hstreams.received⟩
  refine ⟨hopen.channel, hopen.closer, by simp [hstarted], by simp, hopen.gone, ?_, by simp⟩
  intro hdraining
  obtain ⟨hnotification, hconnected, -⟩ := hopen.draining hdraining
  exact ⟨hnotification, hconnected, by simp⟩

/-- The end of a connection is notified once. -/
theorem Sound.disconnect (h : s.Sound) (hclient : s.clients id = some client)
    (hconnected : client.connected = true) :
  (s.setClient id { client with connected := false, notification := true }).Sound
  := by
  have hopen := h.isOpen id client hclient
  have hstreams := h.streams id client hclient
  refine h.setClient hclient ?_ Iff.rfl ⟨hstreams.since, hstreams.received⟩
  refine ⟨hopen.channel, hopen.closer, hopen.started, hopen.fresh, by simp, ?_, ?_⟩
  · intro hdraining
    simp [(hopen.draining hdraining).2.1] at hconnected
  · intro hreturned
    simp [(hopen.returned hreturned).2] at hconnected

/-- The goroutine that waits for the end of the connection begins to read the channel. -/
theorem Sound.notify (h : s.Sound) (hclient : s.clients id = some client)
    (hwaiting : client.closer = .waiting) (hnotification : client.notification = true) :
  (s.setClient id { client with closer := .draining, notification := false }).Sound
  := by
  have hopen := h.isOpen id client hclient
  have hstreams := h.streams id client hclient
  have hgone := hopen.gone hnotification
  have hreturned : client.handler ≠ .returned := by
    intro hreturned
    simp [(hopen.returned hreturned).1] at hnotification
  refine h.setClient hclient ?_ Iff.rfl ⟨hstreams.since, hstreams.received⟩
  refine ⟨hopen.channel, by simp, ?_, hopen.fresh, by simp, ?_, ?_⟩
  · simp [hopen.started, hwaiting]
  · intro _
    exact ⟨rfl, hgone, hreturned⟩
  · intro hreturned'
    exact absurd hreturned' hreturned

/-- Every step keeps what is kept. -/
theorem Sound.step (h : s.Sound) (hstep : s.step a = some t) :
  t.Sound
  := by
  cases a with
  | store buffer offset byte =>
      obtain rfl := Option.some.inj hstep
      exact h.logger ..
  | write buffer length =>
      obtain rfl := Option.some.inj hstep
      exact h.logger ..
  | copy copier =>
      obtain ⟨-, hstep⟩ := Option.ite_none_right_eq_some.mp hstep
      obtain rfl := Option.some.inj hstep
      exact h.logger ..
  | send copier =>
      obtain ⟨-, hstep⟩ := Option.ite_none_right_eq_some.mp hstep
      obtain rfl := Option.some.inj hstep
      exact h.logger ..
  | broadcast message =>
      obtain ⟨⟨hidle, -⟩, hstep⟩ := Option.ite_none_right_eq_some.mp hstep
      obtain rfl := Option.some.inj hstep
      exact h.broadcast hidle
  | offer id receiver =>
      obtain ⟨⟨message, remaining⟩, hbroadcasting, hstep⟩ := Option.bind_eq_some_iff.mp hstep
      obtain ⟨hid, hstep⟩ := Option.ite_none_right_eq_some.mp hstep
      obtain ⟨client, hclient, hready, rfl⟩ := update_eq_some hstep
      exact h.offer hbroadcasting hid hclient (of_decide_eq_true hready)
  | endBroadcast =>
      obtain ⟨⟨message, remaining⟩, hbroadcasting, hstep⟩ := Option.bind_eq_some_iff.mp hstep
      obtain ⟨rfl, hstep⟩ := Option.ite_none_right_eq_some.mp hstep
      obtain rfl := Option.some.inj hstep
      exact h.endBroadcast hbroadcasting
  | connect id =>
      obtain ⟨hnone, hstep⟩ := Option.ite_none_right_eq_some.mp hstep
      obtain rfl := Option.some.inj hstep
      exact h.connect hnone
  | register id =>
      obtain ⟨hidle, hstep⟩ := Option.ite_none_right_eq_some.mp hstep
      obtain ⟨client, hclient, hregistering, rfl⟩ := update_eq_some hstep
      exact h.register hidle hclient (of_decide_eq_true hregistering)
  | poll id =>
      obtain ⟨client, hclient, hpolling, rfl⟩ := update_eq_some hstep
      exact h.poll hclient (of_decide_eq_true hpolling)
  | writeEvent id =>
      obtain ⟨client, hclient, hwriting, rfl⟩ := update_eq_some hstep
      exact h.writeEvent hclient hwriting
  | disconnect id =>
      obtain ⟨client, hclient, hconnected, rfl⟩ := update_eq_some hstep
      exact h.disconnect hclient hconnected
  | notify id =>
      obtain ⟨client, hclient, hcondition, rfl⟩ := update_eq_some hstep
      obtain ⟨hwaiting, hnotification⟩ := of_decide_eq_true hcondition
      exact h.notify hclient hwaiting hnotification
  | endDraining id =>
      obtain ⟨client, hclient, hcondition, rfl⟩ := update_eq_some hstep
      obtain ⟨-, hclosed⟩ := of_decide_eq_true hcondition
      simp [(h.isOpen id client hclient).channel] at hclosed
  | endStream id =>
      obtain ⟨client, hclient, hcondition, rfl⟩ := update_eq_some hstep
      obtain ⟨-, hclosed⟩ := of_decide_eq_true hcondition
      simp [(h.isOpen id client hclient).channel] at hclosed
  | remove id =>
      obtain ⟨-, hstep⟩ := Option.ite_none_right_eq_some.mp hstep
      obtain ⟨client, hclient, hcondition, rfl⟩ := update_eq_some hstep
      exact absurd (of_decide_eq_true hcondition) (h.isOpen id client hclient).closer.1

/-! ### What becomes of the messages -/

/-- What a goroutine has copied, and what it would copy now. -/
def text (s : SseEvent Id) (copier : Copier) : List Char :=
  copier.copied ++
    (List.range' copier.copied.length (copier.length - copier.copied.length)).map
      (s.buffers copier.buffer)

/-- No byte that a goroutine has yet to copy is overwritten. -/
def Keeps (s : SseEvent Id) : SseAction Id → Prop
  | .store buffer offset _ =>
      ∀ copier ∈ s.copiers, copier.buffer = buffer →
        offset < copier.copied.length ∨ copier.length ≤ offset
  | _ => True

instance (s : SseEvent Id) (a : SseAction Id) : Decidable (s.Keeps a) := by
  cases a with
  | store => exact List.decidableBAll _ _
  | _ => exact .isTrue trivial

/-- What was written is copied, waits to be broadcast or was broadcast, as far as its length is
concerned. -/
structure Accounted (s : SseEvent Id) : Prop where
  copied : ∀ copier ∈ s.copiers, copier.copied.length ≤ copier.length
  lengths : (s.written.map List.length).Perm
    ((s.broadcast ++ s.messages).map List.length ++ s.copiers.map Copier.length)

/-- What was written is copied, waits to be broadcast or was broadcast. -/
def Intact (s : SseEvent Id) : Prop :=
  s.written.Perm (s.broadcast ++ s.messages ++ s.copiers.map s.text)

/-- The messages, and those who handle them, are the same. -/
structure SameMessages (s t : SseEvent Id) : Prop where
  buffers : t.buffers = s.buffers
  copiers : t.copiers = s.copiers
  messages : t.messages = s.messages
  written : t.written = s.written
  broadcast : t.broadcast = s.broadcast

/-- A step of a client does not concern the messages that are logged. -/
theorem sameMessages_update (h : s.update id condition next = some t) :
  s.SameMessages t
  := by
  obtain ⟨client, -, -, rfl⟩ := update_eq_some h
  exact ⟨rfl, rfl, rfl, rfl, rfl⟩

/-- The broker and the requests leave the messages alone, unless one is taken. -/
theorem sameMessages_step (hstep : s.step a = some t)
    (hstore : ∀ buffer offset byte, a ≠ .store buffer offset byte)
    (hwrite : ∀ buffer length, a ≠ .write buffer length) (hcopy : ∀ copier, a ≠ .copy copier)
    (hsend : ∀ copier, a ≠ .send copier) (hbroadcast : ∀ message, a ≠ .broadcast message) :
  s.SameMessages t
  := by
  cases a with
  | store buffer offset byte => exact absurd rfl (hstore buffer offset byte)
  | write buffer length => exact absurd rfl (hwrite buffer length)
  | copy copier => exact absurd rfl (hcopy copier)
  | send copier => exact absurd rfl (hsend copier)
  | broadcast message => exact absurd rfl (hbroadcast message)
  | offer id receiver =>
      obtain ⟨⟨message, remaining⟩, -, hstep⟩ := Option.bind_eq_some_iff.mp hstep
      obtain ⟨-, hstep⟩ := Option.ite_none_right_eq_some.mp hstep
      obtain ⟨hbuffers, hcopiers, hmessages, hwritten, hbroadcast⟩ := sameMessages_update hstep
      exact ⟨hbuffers, hcopiers, hmessages, hwritten, hbroadcast⟩
  | endBroadcast =>
      obtain ⟨⟨message, remaining⟩, -, hstep⟩ := Option.bind_eq_some_iff.mp hstep
      obtain ⟨-, hstep⟩ := Option.ite_none_right_eq_some.mp hstep
      obtain rfl := Option.some.inj hstep
      exact ⟨rfl, rfl, rfl, rfl, rfl⟩
  | connect id =>
      obtain ⟨-, hstep⟩ := Option.ite_none_right_eq_some.mp hstep
      obtain rfl := Option.some.inj hstep
      exact ⟨rfl, rfl, rfl, rfl, rfl⟩
  | register id =>
      obtain ⟨-, hstep⟩ := Option.ite_none_right_eq_some.mp hstep
      obtain ⟨hbuffers, hcopiers, hmessages, hwritten, hbroadcast⟩ := sameMessages_update hstep
      exact ⟨hbuffers, hcopiers, hmessages, hwritten, hbroadcast⟩
  | poll id => exact sameMessages_update hstep
  | writeEvent id => exact sameMessages_update hstep
  | disconnect id => exact sameMessages_update hstep
  | notify id => exact sameMessages_update hstep
  | endDraining id => exact sameMessages_update hstep
  | endStream id => exact sameMessages_update hstep
  | remove id =>
      obtain ⟨-, hstep⟩ := Option.ite_none_right_eq_some.mp hstep
      obtain ⟨hbuffers, hcopiers, hmessages, hwritten, hbroadcast⟩ := sameMessages_update hstep
      exact ⟨hbuffers, hcopiers, hmessages, hwritten, hbroadcast⟩

omit [DecidableEq Id] in
/-- Nor does it concern their number. -/
theorem Accounted.of_same (h : s.Accounted) (hsame : s.SameMessages t) :
  t.Accounted
  := by
  obtain ⟨-, hcopiers, hmessages, hwritten, hbroadcast⟩ := hsame
  constructor
  · rw [hcopiers]
    exact h.copied
  · rw [hcopiers, hmessages, hwritten, hbroadcast]
    exact h.lengths

omit [DecidableEq Id] in
/-- Nor their texts. -/
theorem Intact.of_same (h : s.Intact) (hsame : s.SameMessages t) :
  t.Intact
  := by
  obtain ⟨hbuffers, hcopiers, hmessages, hwritten, hbroadcast⟩ := hsame
  have htext : t.text = s.text := by
    funext copier
    rw [text, text, hbuffers]
  rw [Intact, hcopiers, hmessages, hwritten, hbroadcast, htext]
  exact h

/-- A goroutine that has copied another byte, in a sum over all of them. -/
theorem perm_erase_append {β : Type*} {copiers : List Copier} {copier copier' : Copier}
    (hmem : copier ∈ copiers) (f : Copier → β) (heq : f copier' = f copier) :
  ((copiers.erase copier ++ [copier']).map f).Perm (copiers.map f)
  := by
  rw [List.map_append, List.map_singleton, heq, ← List.map_singleton, ← List.map_append]
  apply List.Perm.map
  exact (List.perm_append_singleton ..).trans (List.perm_cons_erase hmem).symm

omit [DecidableEq Id] in
/-- The bytes that are left are copied one after the other. -/
theorem text_copy {copier : Copier} (hlt : copier.copied.length < copier.length) :
  s.text { copier with
    copied := copier.copied ++ [s.buffers copier.buffer copier.copied.length] } = s.text copier
  := by
  obtain ⟨n, hn⟩ : ∃ n, copier.length - copier.copied.length = n + 1 :=
    ⟨copier.length - copier.copied.length - 1, by omega⟩
  have hrest : copier.length - (copier.copied.length + 1) = n := by omega
  rw [text, text, hn, List.length_append, List.length_singleton, hrest, List.range'_succ,
    List.map_cons, List.append_assoc]
  rfl

omit [DecidableEq Id] in
/-- A goroutine that has copied its whole message holds it, whatever becomes of the buffer. -/
theorem text_of_length_eq {copier : Copier} (hlength : copier.copied.length = copier.length) :
  s.text copier = copier.copied
  := by
  rw [text, hlength, Nat.sub_self]
  exact List.append_nil _

omit [DecidableEq Id] in
/-- A goroutine that has copied nothing holds what is in the buffer. -/
theorem text_new (s : SseEvent Id) (buffer length : ℕ) :
  s.text ⟨buffer, length, []⟩ = s.slice buffer length
  := by
  rw [text, slice, List.range_eq_range']
  rfl

omit [DecidableEq Id] in
/-- A byte that has been copied, or is not to be copied, may be overwritten. -/
theorem text_store {buffer offset : ℕ} {byte : Char} {copier : Copier}
    (hkeeps : copier.buffer = buffer → offset < copier.copied.length ∨ copier.length ≤ offset) :
  SseEvent.text
    { s with
      buffers := Function.update s.buffers buffer
        (Function.update (s.buffers buffer) offset byte) } copier = s.text copier
  := by
  rw [text, text]
  congr 1
  apply List.map_congr_left
  intro i hi
  rw [List.mem_range'_1] at hi
  dsimp only
  by_cases hbuffer : copier.buffer = buffer
  · have hne : i ≠ offset := by
      have hcase := hkeeps hbuffer
      omega
    rw [hbuffer, Function.update_self, Function.update_of_ne hne]
  · rw [Function.update_of_ne hbuffer]

/-- No step loses a message. -/
theorem Accounted.step (h : s.Accounted) (hstep : s.step a = some t) :
  t.Accounted
  := by
  cases a with
  | store buffer offset byte =>
      obtain rfl := Option.some.inj hstep
      exact ⟨h.copied, h.lengths⟩
  | write buffer length =>
      obtain rfl := Option.some.inj hstep
      constructor
      · intro copier hcopier
        rcases List.mem_append.mp hcopier with hcopier | hcopier
        · exact h.copied copier hcopier
        · obtain rfl := List.mem_singleton.mp hcopier
          exact Nat.zero_le _
      · have hlength : (s.slice buffer length).length = length := by simp [slice]
        have hlengths := h.lengths.append_right [length]
        simpa only [List.map_append, List.map_singleton, hlength, ← List.append_assoc]
          using hlengths
  | copy copier =>
      obtain ⟨⟨hcopier, hlt⟩, hstep⟩ := Option.ite_none_right_eq_some.mp hstep
      obtain rfl := Option.some.inj hstep
      constructor
      · intro copier' hcopier'
        rcases List.mem_append.mp hcopier' with hcopier' | hcopier'
        · exact h.copied copier' (List.mem_of_mem_erase hcopier')
        · obtain rfl := List.mem_singleton.mp hcopier'
          rw [List.length_append]
          exact hlt
      · refine h.lengths.trans (List.Perm.append_left _ (perm_erase_append hcopier _ ?_).symm)
        rfl
  | send copier =>
      obtain ⟨⟨hcopier, hlength⟩, hstep⟩ := Option.ite_none_right_eq_some.mp hstep
      obtain rfl := Option.some.inj hstep
      constructor
      · intro copier' hcopier'
        exact h.copied copier' (List.mem_of_mem_erase hcopier')
      · refine h.lengths.trans ?_
        have herase := (List.perm_cons_erase hcopier).map Copier.length
        simpa only [List.map_append, List.map_cons, List.map_nil, hlength, List.append_assoc,
          List.singleton_append] using
            herase.append_left (s.broadcast.map List.length ++ s.messages.map List.length)
  | broadcast message =>
      obtain ⟨⟨-, hmessage⟩, hstep⟩ := Option.ite_none_right_eq_some.mp hstep
      obtain rfl := Option.some.inj hstep
      refine ⟨h.copied, h.lengths.trans ?_⟩
      apply List.Perm.append_right
      apply List.Perm.map
      rw [List.append_assoc]
      exact (List.perm_cons_erase hmessage).append_left _
  | _ => exact h.of_same (sameMessages_step hstep (by simp) (by simp) (by simp) (by simp) (by simp))

/-- As long as buffers are kept, no step changes one. -/
theorem Intact.step (h : s.Intact) (hkeeps : s.Keeps a) (hstep : s.step a = some t) :
  t.Intact
  := by
  cases a with
  | store buffer offset byte =>
      obtain rfl := Option.some.inj hstep
      refine List.Perm.trans h (List.Perm.of_eq ?_)
      congr 1
      exact List.map_congr_left fun copier hcopier => (text_store (hkeeps copier hcopier)).symm
  | write buffer length =>
      obtain rfl := Option.some.inj hstep
      have hwritten := List.Perm.append_right [s.text ⟨buffer, length, []⟩] h
      rw [Intact]
      dsimp only
      rw [← text_new, List.map_append, ← List.append_assoc]
      exact hwritten
  | copy copier =>
      obtain ⟨⟨hcopier, hlt⟩, hstep⟩ := Option.ite_none_right_eq_some.mp hstep
      obtain rfl := Option.some.inj hstep
      exact h.trans ((perm_erase_append hcopier s.text (text_copy hlt)).symm.append_left _)
  | send copier =>
      obtain ⟨⟨hcopier, hlength⟩, hstep⟩ := Option.ite_none_right_eq_some.mp hstep
      obtain rfl := Option.some.inj hstep
      refine List.Perm.trans h ?_
      dsimp only
      rw [← List.append_assoc, List.append_assoc _ [copier.copied]]
      apply List.Perm.append_left
      rw [← text_of_length_eq (s := s) hlength]
      exact (List.perm_cons_erase hcopier).map s.text
  | broadcast message =>
      obtain ⟨⟨-, hmessage⟩, hstep⟩ := Option.ite_none_right_eq_some.mp hstep
      obtain rfl := Option.some.inj hstep
      refine List.Perm.trans h ?_
      apply List.Perm.append_right
      rw [List.append_assoc]
      exact (List.perm_cons_erase hmessage).append_left _
  | _ => exact h.of_same (sameMessages_step hstep (by simp) (by simp) (by simp) (by simp) (by simp))

/-! ### Runs -/

variable {tr : List (Lts.Transition (SseEvent Id) (SseAction Id))}

/-- In every run, the clients are as they should be. -/
theorem sound_of_run (run : lts.Run start tr s) :
  s.Sound
  := run.invariant sound_start fun _ _ h hstep => h.step hstep

/-- In every run, no message is lost. -/
theorem accounted_of_run (run : lts.Run start tr s) :
  s.Accounted
  := by
  have hstart : (start : SseEvent Id).Accounted := ⟨by simp [start], List.Perm.refl []⟩
  exact run.invariant hstart fun _ _ h hstep => h.step hstep

/-- In every run in which buffers are kept, no message is changed. -/
theorem intact_of_run (run : lts.Run start tr s) (hkeeps : ∀ e ∈ tr, e.before.Keeps e.action) :
  s.Intact
  := by
  have hstart : (start : SseEvent Id).Intact := List.Perm.refl []
  exact run.invariant hstart fun e he h hstep => h.step (hkeeps e he) hstep

/-- What a browser has received are messages that were broadcast after its registration, in their
order, and none of them twice. There are as many messages of each length that were broadcast, wait
to be broadcast or are being copied as were written to the log, and they are those that were
written when no byte is overwritten before it is copied. -/
theorem events_sublist (run : lts.Run start tr s) :
  (∀ id client, s.clients id = some client →
      client.events.Sublist (s.broadcast.drop client.since)) ∧
    (s.written.map List.length).Perm
      ((s.broadcast ++ s.messages).map List.length ++ s.copiers.map Copier.length) ∧
    ((∀ e ∈ tr, e.before.Keeps e.action) →
      s.written.Perm (s.broadcast ++ s.messages ++ s.copiers.map s.text))
  := by
  have h := sound_of_run run
  refine ⟨?_, (accounted_of_run run).lengths, intact_of_run run⟩
  intro id client hclient
  have hstreams := h.streams id client hclient
  have hoffered : (s.offered id).Sublist s.broadcast := by
    rw [offered]
    split
    · split
      · exact List.dropLast_sublist _
      · exact List.Sublist.refl _
    · exact List.Sublist.refl _
  exact (client.events_sublist_received.trans hstreams.received).trans (hoffered.drop client.since)

/-- What happens until a browser has read the second of two messages, the first of which came while
the first browser was not ready. The second one was put where the first one had been. -/
def oneMissed : List (SseAction ℕ) :=
  [.connect 0, .register 0, .store 0 0 'a', .write 0 1, .copy ⟨0, 1, []⟩, .store 0 0 'b',
    .write 0 1, .copy ⟨0, 1, []⟩, .send ⟨0, 1, ['a']⟩, .send ⟨0, 1, ['b']⟩, .broadcast ['a'],
    .offer 0 .nobody, .endBroadcast, .poll 0, .broadcast ['b'], .offer 0 .handler, .writeEvent 0]

/-- A browser that comes late misses a message, and gets the next one. -/
theorem events_sublist_oneMissed :
  ∃ tr s, lts.Run start tr s ∧ tr.map Lts.Transition.action = oneMissed ∧
    (∃ client, s.clients 0 = some client ∧ client.events = [['b']] ∧
      client.events.Sublist (s.broadcast.drop client.since)) ∧
    s.written.Perm (s.broadcast ++ s.messages ++ s.copiers.map s.text)
  := by
  have hplay : (Lts.play (Lts.restrict step Keeps) start oneMissed).map
      (fun s => (s.clients 0).map Client.events) = some (some [['b']]) := by decide
  obtain ⟨tr, s, run, hactions, hkeeps, hevents⟩ := Lts.exists_run_of_restrict _ _ _ _ _ hplay
  obtain ⟨client, hclient, hevents⟩ := Option.map_eq_some_iff.mp hevents
  obtain ⟨hsublist, -, hwritten⟩ := events_sublist run
  exact ⟨tr, s, run, hactions, ⟨client, hclient, hevents, hsublist 0 client hclient⟩,
    hwritten hkeeps⟩

/-- A step of a client leaves the clients of the broker. -/
theorem update_totalClients (h : s.update id condition next = some t) :
  t.totalClients = s.totalClients
  := by
  obtain ⟨client, -, -, rfl⟩ := update_eq_some h
  rfl

/-- No step removes a client. -/
theorem Sound.totalClients_step (h : s.Sound) (hstep : s.step a = some t) :
  t.totalClients = a.registers.toList ++ s.totalClients
  := by
  cases a with
  | store buffer offset byte =>
      obtain rfl := Option.some.inj hstep
      rfl
  | write buffer length =>
      obtain rfl := Option.some.inj hstep
      rfl
  | copy copier =>
      obtain ⟨-, hstep⟩ := Option.ite_none_right_eq_some.mp hstep
      obtain rfl := Option.some.inj hstep
      rfl
  | send copier =>
      obtain ⟨-, hstep⟩ := Option.ite_none_right_eq_some.mp hstep
      obtain rfl := Option.some.inj hstep
      rfl
  | broadcast message =>
      obtain ⟨-, hstep⟩ := Option.ite_none_right_eq_some.mp hstep
      obtain rfl := Option.some.inj hstep
      rfl
  | offer id receiver =>
      obtain ⟨⟨message, remaining⟩, -, hstep⟩ := Option.bind_eq_some_iff.mp hstep
      obtain ⟨-, hstep⟩ := Option.ite_none_right_eq_some.mp hstep
      rw [update_totalClients hstep]
      rfl
  | endBroadcast =>
      obtain ⟨⟨message, remaining⟩, -, hstep⟩ := Option.bind_eq_some_iff.mp hstep
      obtain ⟨-, hstep⟩ := Option.ite_none_right_eq_some.mp hstep
      obtain rfl := Option.some.inj hstep
      rfl
  | connect id =>
      obtain ⟨-, hstep⟩ := Option.ite_none_right_eq_some.mp hstep
      obtain rfl := Option.some.inj hstep
      rfl
  | register id =>
      obtain ⟨-, hstep⟩ := Option.ite_none_right_eq_some.mp hstep
      exact update_totalClients hstep
  | poll id => exact update_totalClients hstep
  | writeEvent id => exact update_totalClients hstep
  | disconnect id => exact update_totalClients hstep
  | notify id => exact update_totalClients hstep
  | endDraining id => exact update_totalClients hstep
  | endStream id => exact update_totalClients hstep
  | remove id =>
      -- nobody asks for a removal
      obtain ⟨-, hstep⟩ := Option.ite_none_right_eq_some.mp hstep
      obtain ⟨client, hclient, hsending, -⟩ := update_eq_some hstep
      exact absurd (of_decide_eq_true hsending) (h.isOpen id client hclient).closer.1

/-- No client is ever removed: the clients of the broker are all that have registered, the channel
of each of them is open, and the goroutine that is to have it removed waits for the end of the
connection, or reads the channel for ever, together with the handler. -/
theorem never_removed (run : lts.Run start tr s) :
  s.totalClients = (tr.filterMap fun e => e.action.registers).reverse ∧
    ∀ id ∈ s.totalClients, ∃ client, s.clients id = some client ∧ client.channelClosed = false ∧
      (client.closer = .waiting ∨ client.closer = .draining ∧ client.handler ≠ .returned)
  := by
  constructor
  · induction run with
    | nil => rfl
    | @snoc tr s t a run hstep ih =>
        rw [(sound_of_run run).totalClients_step hstep, ih, List.filterMap_append,
          List.reverse_append]
        congr 1
        rw [List.filterMap_cons, List.filterMap_nil]
        cases a.registers <;> rfl
  · intro id hid
    have h := sound_of_run run
    obtain ⟨client, hclient, hregistering⟩ := (h.registered id).mp hid
    have hopen := h.isOpen id client hclient
    refine ⟨client, hclient, hopen.channel, ?_⟩
    obtain ⟨hsending, hended⟩ := hopen.closer
    cases hcloser : client.closer with
    | notStarted => exact absurd (hopen.started.mpr hcloser) hregistering
    | waiting => exact Or.inl rfl
    | draining => exact Or.inr ⟨rfl, (hopen.draining hcloser).2.2⟩
    | sending => exact absurd hcloser hsending
    | ended => exact absurd hcloser hended

/-- What happens until a browser that was registered has gone, which has been noticed. -/
def gone : List (SseAction ℕ) :=
  [.connect 0, .register 0, .poll 0, .disconnect 0, .notify 0, .store 0 0 'a', .write 0 1,
    .copy ⟨0, 1, []⟩, .send ⟨0, 1, ['a']⟩, .broadcast ['a'], .offer 0 .closer, .endBroadcast]

/-- A browser that has gone is still a client. -/
theorem never_removed_gone :
  ∃ tr s, lts.Run start tr s ∧ tr.map Lts.Transition.action = gone ∧
    s.totalClients = (tr.filterMap fun e => e.action.registers).reverse ∧
      (s.clients 0).map Client.closer = some .draining
  := by
  have hplay : (Lts.play step start gone).map
      (fun s => (s.clients 0).map Client.closer) = some (some .draining) := by decide
  obtain ⟨tr, s, run, hactions, hcloser⟩ := Lts.exists_run_of_observe _ _ _ _ hplay
  exact ⟨tr, s, run, hactions, (never_removed run).1, hcloser⟩

end SseEvent

end JetKvm.Logging
