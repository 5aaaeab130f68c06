import JetKvm.Library.Transition
import Mathlib.Data.List.Perm.Basic
import Mathlib.Data.List.Range

/-!
# Calls from the browser

The browser numbers its requests and stores a callback under the number. Requests go over a data
channel into the queue of the session, from which each is handled by a goroutine of its own, so that
responses come back in any order. Every component that makes calls listens to all responses, and
removes a callback after it has called it, unless the callback throws. When the connection is
replaced, what is on its way is lost to the browser: the old session may still handle requests, but
its answers get to nobody. Methods that are blocked in failsafe mode are not requested, their
callbacks being called at once with an error.
-/

namespace JetKvm.Rpc

variable {Params Answer : Type*}

/-- A request, as it is sent by the browser. Its parameters are an object, which is what the device
reads. -/
structure Request (Params : Type*) where
  id : ℕ
  method : String
  params : Params
deriving DecidableEq, Repr

/-- A response, with a result or an error. -/
structure Response (Answer : Type*) where
  id : ℕ
  answer : Answer
deriving DecidableEq, Repr

/-- A call of a callback with a response. -/
structure CallbackCall (Answer : Type*) where
  response : Response Answer
  /-- The callback has thrown an exception. -/
  threw : Bool
deriving DecidableEq, Repr

/-! ### Failsafe mode -/

/-- What a component knows of the failsafe mode. -/
structure FailsafeMode where
  isFailsafeMode : Bool
  reason : String
deriving DecidableEq, Repr

/-- The response that the callback of a blocked method is called with. -/
structure JsonRpcErrorResponse where
  code : ℤ
  message : String
  data : String
  id : ℕ
deriving DecidableEq, Repr

/-- The methods that cannot be used without the native process. -/
def blockedMethodsByReason : String → List String
  | "native" =>
      ["setStreamQualityFactor", "setVideoCodecPreference", "getEDID", "setEDID",
        "getHostDisplayIdleMode", "setHostDisplayIdleMode", "getVideoLogStatus",
        "setDisplayRotation", "getVideoSleepMode", "setVideoSleepMode", "getVideoState"]
  | _ => []

/-- Whether a method is blocked. -/
def FailsafeMode.blocks (mode : FailsafeMode) (method : String) : Bool :=
  mode.isFailsafeMode && mode.reason ≠ "" && method ∈ blockedMethodsByReason mode.reason

/-- What the callback of a blocked method is told. -/
def FailsafeMode.errorResponse (mode : FailsafeMode) (id : ℕ) : JsonRpcErrorResponse where
  code := -32000
  message := "Method unavailable in failsafe mode"
  data := "This feature is unavailable while in failsafe mode (" ++ mode.reason ++ ")"
  id := id

/-! ### Calls -/

/-- The capacity of `rpcQueue`. -/
def rpcQueueSize : ℕ := 256

/-- The browser, the connection and the device. -/
structure Calls (Params Answer : Type*) where
  requestCounter : ℕ
  /-- The requests that have a callback. -/
  callbackStore : List ℕ
  /-- On the data channel to the device. -/
  outgoing : List (Request Params)
  rpcQueue : List (Request Params)
  /-- Requests that are handled by goroutines of the session. -/
  running : List (Request Params)
  /-- Requests that are handled by goroutines of earlier sessions. -/
  orphans : List (Request Params)
  /-- On the data channel to the browser. -/
  incoming : List (Response Answer)
  /-- All requests that were made, and those that were made with a callback. -/
  sent : List (Request Params)
  registered : List ℕ
  /-- What the handlers have answered. -/
  executed : List (Request Params × Answer)
  /-- The responses that were seen by a listener, and the calls of callbacks. -/
  seen : List (Response Answer)
  called : List (CallbackCall Answer)
  /-- The requests that did not get to a handler, and the responses that were not seen. -/
  dropped : List (Request Params)
  unheard : List (Response Answer)
  /-- What callbacks of blocked methods were called with. -/
  refused : List JsonRpcErrorResponse
deriving DecidableEq, Repr

/-- What the browser, the channel and the device do. -/
inductive CallAction (Params Answer : Type*) where
  /-- `send` of `useJsonRpc`, the channel being open. `RTCDataChannel.send` may throw. -/
  | send (mode : FailsafeMode) (method : String) (params : Params) (callback throws : Bool)
  /-- `enqueueRPCMessage`, which waits while the queue is full. -/
  | enqueue
  /-- A goroutine is started for the first request of the queue. -/
  | dispatch
  /-- `onRPCMessage` writes its response, which may fail. -/
  | respond (i : ℕ) (answer : Answer) (written : Bool)
  | respondOrphan (i : ℕ) (answer : Answer)
  /-- A response arrives. For each of the listeners, whether the callback throws if it is called. -/
  | message (throws : List Bool)
  /-- The connection and the session are replaced by new ones. Some of the requests that are under
  way will still get to a handler of the old session. -/
  | reconnect (kept : ℕ)
deriving DecidableEq, Repr

namespace Calls

/-- No request has been sent. -/
def new : Calls Params Answer where
  requestCounter := 0
  callbackStore := []
  outgoing := []
  rpcQueue := []
  running := []
  orphans := []
  incoming := []
  sent := []
  registered := []
  executed := []
  seen := []
  called := []
  dropped := []
  unheard := []
  refused := []

/-- The request is made, with a callback or not. -/
def request (s : Calls Params Answer) (method : String) (params : Params)
    (callback throws : Bool) : Calls Params Answer :=
  { s with
    requestCounter := s.requestCounter + 1
    callbackStore :=
      if callback then s.callbackStore ++ [s.requestCounter + 1] else s.callbackStore
    outgoing :=
      if throws then s.outgoing else s.outgoing ++ [⟨s.requestCounter + 1, method, params⟩]
    sent := s.sent ++ [⟨s.requestCounter + 1, method, params⟩]
    registered := if callback then s.registered ++ [s.requestCounter + 1] else s.registered
    dropped :=
      if throws then s.dropped ++ [⟨s.requestCounter + 1, method, params⟩] else s.dropped }

/-- A blocked method is refused at once. Any other is requested. -/
def send (s : Calls Params Answer) (mode : FailsafeMode) (method : String) (params : Params)
    (callback throws : Bool) : Calls Params Answer :=
  if mode.blocks method then
    { s with
      refused :=
        if callback then s.refused ++ [mode.errorResponse (s.requestCounter + 1)] else s.refused }
  else s.request method params callback throws

/-- One listener sees a response. The callback is removed after it has returned. -/
def messageHandler (response : Response Answer) (s : Calls Params Answer) (throws : Bool) :
    Calls Params Answer :=
  if response.id ∈ s.callbackStore then
    { s with
      called := s.called ++ [⟨response, throws⟩]
      callbackStore :=
        if throws then s.callbackStore else s.callbackStore.filter (· != response.id) }
  else s

/-- A response has arrived, which nobody or somebody listens to. -/
def deliver (s : Calls Params Answer) (response : Response Answer) : List Bool → Calls Params Answer
  | [] => { s with unheard := s.unheard ++ [response] }
  | first :: rest =>
      (first :: rest).foldl (messageHandler response) { s with seen := s.seen ++ [response] }

/-- What was on its way over the old connection is lost to the browser. -/
def reconnect (s : Calls Params Answer) (kept : ℕ) : Calls Params Answer :=
  { s with
    outgoing := []
    rpcQueue := []
    running := []
    orphans := s.orphans ++ s.running ++ (s.rpcQueue ++ s.outgoing).take kept
    incoming := []
    dropped := s.dropped ++ (s.rpcQueue ++ s.outgoing).drop kept
    unheard := s.unheard ++ s.incoming }

/-- The next state. -/
def step (s : Calls Params Answer) : CallAction Params Answer → Option (Calls Params Answer)
  | .send mode method params callback throws => some (s.send mode method params callback throws)
  | .enqueue =>
      match s.outgoing with
      | [] => none
      | request :: rest =>
          if s.rpcQueue.length < rpcQueueSize then
            some { s with outgoing := rest, rpcQueue := s.rpcQueue ++ [request] }
          else none
  | .dispatch =>
      match s.rpcQueue with
      | [] => none
      | request :: rest => some { s with rpcQueue := rest, running := s.running ++ [request] }
  | .respond i answer written =>
      s.running[i]?.map fun request =>
        { s with
          running := s.running.eraseIdx i
          incoming := if written then s.incoming ++ [⟨request.id, answer⟩] else s.incoming
          executed := s.executed ++ [(request, answer)]
          unheard := if written then s.unheard else s.unheard ++ [⟨request.id, answer⟩] }
  | .respondOrphan i answer =>
      s.orphans[i]?.map fun request =>
        { s with
          orphans := s.orphans.eraseIdx i
          executed := s.executed ++ [(request, answer)]
          unheard := s.unheard ++ [⟨request.id, answer⟩] }
  | .message throws =>
      match s.incoming with
      | [] => none
      | response :: rest => some (deliver { s with incoming := rest } response throws)
  | .reconnect kept => some (s.reconnect kept)

/-- The steps come in any order. -/
def lts (Params Answer : Type*) : Lts (Calls Params Answer) (CallAction Params Answer) :=
  Lts.ofStep step

/-- The requests that may still be answered. -/
def unanswered (s : Calls Params Answer) : List (Request Params) :=
  s.outgoing ++ s.rpcQueue ++ s.running ++ s.orphans

/-- What is on its way, and what has been lost. -/
def inFlight (s : Calls Params Answer) : List ℕ :=
  s.unanswered.map Request.id ++ s.incoming.map Response.id

/-- The requests whose answers will not come. -/
def lost (s : Calls Params Answer) : List ℕ :=
  s.dropped.map Request.id ++ s.unheard.map Response.id

/-- The response of a handler. -/
def response (e : Request Params × Answer) : Response Answer where
  id := e.1.id
  answer := e.2

/-- Every request is in one place until it is answered, and every response is in one place. A
callback is stored until it has returned, and was called if its response has been seen. -/
structure Accounted (s : Calls Params Answer) : Prop where
  ids : s.sent.map Request.id = List.range' 1 s.requestCounter
  requests : (s.unanswered ++ s.dropped ++ s.executed.map Prod.fst).Perm s.sent
  responses : (s.incoming ++ s.seen ++ s.unheard).Perm (s.executed.map response)
  registered : s.registered ⊆ s.sent.map Request.id
  called : ∀ call ∈ s.called, call.response ∈ s.seen
  waiting : ∀ id ∈ s.registered, id ∈ s.seen.map Response.id →
    ∃ call ∈ s.called, call.response.id = id
  stored : ∀ id ∈ s.registered, id ∉ s.callbackStore →
    ∃ call ∈ s.called, call.response.id = id
  returned : ∀ call ∈ s.called, call.threw = false → call.response.id ∉ s.callbackStore
  threw : s.called.Pairwise fun call later =>
    call.response.id = later.response.id → call.threw = true

variable {s s' : Calls Params Answer} {a : CallAction Params Answer}

/-- There is nothing to account for at first. -/
theorem accounted_new :
  Accounted (new : Calls Params Answer)
  := by
  constructor <;> simp [new, unanswered]

/-- An element that is taken out of a list. -/
theorem count_of_getElem? {α : Type*} [DecidableEq α] {l : List α} {i : ℕ} {a : α}
    (h : l[i]? = some a) (x : α) :
  l.count x = (l.eraseIdx i).count x + if a = x then 1 else 0
  := by
  obtain ⟨hi, rfl⟩ := List.getElem?_eq_some_iff.mp h
  rw [← (List.getElem_cons_eraseIdx_perm hi).count_eq x, List.count_cons]
  simp

/-- No identifier is used twice. -/
theorem Accounted.nodup (h : s.Accounted) :
  (s.sent.map Request.id).Nodup
  := by
  rw [h.ids]
  exact List.nodup_range'

/-- A response that was seen answers a request that was sent. -/
theorem Accounted.id_of_seen (h : s.Accounted) {id : ℕ} (hid : id ∈ s.seen.map Response.id) :
  id ∈ s.sent.map Request.id
  := by
  obtain ⟨r, hr, rfl⟩ := List.mem_map.mp hid
  have hexecuted : r ∈ s.executed.map response := by
    rw [← h.responses.mem_iff]
    simp [hr]
  obtain ⟨e, he, rfl⟩ := List.mem_map.mp hexecuted
  apply List.mem_map_of_mem
  rw [← h.requests.mem_iff]
  exact List.mem_append_right _ (List.mem_map_of_mem he)

/-- The number of a request that is made next is not that of a response. -/
theorem Accounted.id_le_of_seen (h : s.Accounted) {id : ℕ} (hid : id ∈ s.seen.map Response.id) :
  id ≤ s.requestCounter
  := by
  have hsent := h.id_of_seen hid
  rw [h.ids, List.mem_range'_1] at hsent
  omega

/-- A request is accounted for while it is on its way. -/
theorem Accounted.request (h : s.Accounted) (method : String) (params : Params)
    (callback throws : Bool) :
  (s.request method params callback throws).Accounted
  := by
  classical
  have hregistered : ∀ id ∈ (s.request method params callback throws).registered,
      id ∈ s.registered ∨ id = s.requestCounter + 1 ∧ callback = true := by
    intro id hid
    cases callback with
    | false => exact Or.inl hid
    | true =>
        rcases List.mem_append.mp hid with hid | hid
        · exact Or.inl hid
        · exact Or.inr ⟨List.mem_singleton.mp hid, rfl⟩
  have hstore : ∀ id ∈ (s.request method params callback throws).callbackStore,
      id ∈ s.callbackStore ∨ id = s.requestCounter + 1 := by
    intro id hid
    cases callback with
    | false => exact Or.inl hid
    | true =>
        rcases List.mem_append.mp hid with hid | hid
        · exact Or.inl hid
        · exact Or.inr (List.mem_singleton.mp hid)
  refine ⟨?_, ?_, h.responses, ?_, h.called, ?_, ?_, ?_, h.threw⟩
  · rw [Calls.request, List.map_append, h.ids, List.range'_1_concat, Nat.add_comm]
    rfl
  · rw [List.perm_iff_count]
    intro x
    have hcount := h.requests.count_eq x
    cases throws <;>
      simp only [Calls.request, unanswered, List.count_append, if_true, Bool.false_eq_true,
        if_false] at hcount ⊢ <;>
      omega
  · intro id hid
    rw [Calls.request, List.map_append, List.mem_append]
    rcases hregistered id hid with hid | ⟨rfl, -⟩
    · exact Or.inl (h.registered hid)
    · exact Or.inr (List.mem_singleton_self _)
  · intro id hid hseen
    rcases hregistered id hid with hid | ⟨rfl, -⟩
    · exact h.waiting id hid hseen
    · have hle := h.id_le_of_seen hseen
      omega
  · intro id hid hnot
    rcases hregistered id hid with hid | ⟨rfl, rfl⟩
    · apply h.stored id hid
      intro hwaiting
      apply hnot
      cases callback with
      | false => exact hwaiting
      | true => exact List.mem_append_left _ hwaiting
    · exact absurd (List.mem_append_right _ (List.mem_singleton_self _)) hnot
  · intro call hcall hreturned hwaiting
    rcases hstore _ hwaiting with hwaiting | hid
    · exact h.returned call hcall hreturned hwaiting
    · have hle := h.id_le_of_seen (List.mem_map_of_mem (h.called call hcall))
      omega

/-- So is one that is not blocked, and one that is blocked is none. -/
theorem Accounted.send (h : s.Accounted) (mode : FailsafeMode) (method : String) (params : Params)
    (callback throws : Bool) :
  (s.send mode method params callback throws).Accounted
  := by
  rw [Calls.send]
  split
  · exact ⟨h.ids, h.requests, h.responses, h.registered, h.called, h.waiting, h.stored, h.returned,
      h.threw⟩
  · exact h.request method params callback throws

/-- What the browser knows is kept when only requests and responses that were not seen move. -/
theorem Accounted.move (h : s.Accounted) (hcounter : s'.requestCounter = s.requestCounter)
    (hstore : s'.callbackStore = s.callbackStore) (hsent : s'.sent = s.sent)
    (hregistered : s'.registered = s.registered) (hcalled : s'.called = s.called)
    (hseen : s'.seen = s.seen)
    (hrequests : (s'.unanswered ++ s'.dropped ++ s'.executed.map Prod.fst).Perm s'.sent)
    (hresponses : (s'.incoming ++ s'.seen ++ s'.unheard).Perm (s'.executed.map response)) :
  s'.Accounted
  where
  ids := by rw [hsent, hcounter, h.ids]
  requests := hrequests
  responses := hresponses
  registered := by
    rw [hregistered, hsent]
    exact h.registered
  called := by
    rw [hcalled, hseen]
    exact h.called
  waiting := by
    rw [hregistered, hseen, hcalled]
    exact h.waiting
  stored := by
    rw [hregistered, hstore, hcalled]
    exact h.stored
  returned := by
    rw [hcalled, hstore]
    exact h.returned
  threw := by
    rw [hcalled]
    exact h.threw

/-- A request is accounted for in the queue. -/
theorem Accounted.enqueue (h : s.Accounted) (hstep : s.step .enqueue = some s') :
  s'.Accounted
  := by
  classical
  rw [step] at hstep
  split at hstep
  case h_1 => cases hstep
  case h_2 request rest houtgoing =>
    obtain ⟨-, hstep⟩ := Option.ite_none_right_eq_some.mp hstep
    obtain rfl := Option.some.inj hstep
    refine h.move rfl rfl rfl rfl rfl rfl ?_ h.responses
    rw [List.perm_iff_count]
    intro x
    have hcount := h.requests.count_eq x
    simp only [unanswered, houtgoing, List.count_append, List.count_cons, List.count_nil]
      at hcount ⊢
    omega

/-- It is accounted for while it is handled. -/
theorem Accounted.dispatch (h : s.Accounted) (hstep : s.step .dispatch = some s') :
  s'.Accounted
  := by
  classical
  rw [step] at hstep
  split at hstep
  case h_1 => cases hstep
  case h_2 request rest hqueue =>
    obtain rfl := Option.some.inj hstep
    refine h.move rfl rfl rfl rfl rfl rfl ?_ h.responses
    rw [List.perm_iff_count]
    intro x
    have hcount := h.requests.count_eq x
    simp only [unanswered, hqueue, List.count_append, List.count_cons, List.count_nil] at hcount ⊢
    omega

/-- Its response is accounted for on its way back, or is lost. -/
theorem Accounted.respond (h : s.Accounted) {i : ℕ} {answer : Answer} {written : Bool}
    (hstep : s.step (.respond i answer written) = some s') :
  s'.Accounted
  := by
  classical
  obtain ⟨request, hrequest, rfl⟩ := Option.map_eq_some_iff.mp hstep
  refine h.move rfl rfl rfl rfl rfl rfl ?_ ?_
  · rw [List.perm_iff_count]
    intro x
    have hcount := h.requests.count_eq x
    have hrunning := count_of_getElem? hrequest x
    simp only [unanswered, List.map_append, List.map_cons, List.map_nil, List.count_append,
      List.count_cons, List.count_nil, beq_iff_eq] at hcount ⊢
    omega
  · rw [List.perm_iff_count]
    intro x
    have hcount := h.responses.count_eq x
    have hresponse : response (request, answer) = ⟨request.id, answer⟩ := rfl
    cases written <;>
      simp only [List.map_append, List.map_cons, List.map_nil, List.count_append, hresponse,
        if_true, Bool.false_eq_true, if_false] at hcount ⊢ <;>
      omega

/-- A handler whose connection is gone answers for nothing. -/
theorem Accounted.respondOrphan (h : s.Accounted) {i : ℕ} {answer : Answer}
    (hstep : s.step (.respondOrphan i answer) = some s') :
  s'.Accounted
  := by
  classical
  obtain ⟨request, hrequest, rfl⟩ := Option.map_eq_some_iff.mp hstep
  refine h.move rfl rfl rfl rfl rfl rfl ?_ ?_
  · rw [List.perm_iff_count]
    intro x
    have hcount := h.requests.count_eq x
    have horphans := count_of_getElem? hrequest x
    simp only [unanswered, List.map_append, List.map_cons, List.map_nil, List.count_append,
      List.count_cons, List.count_nil, beq_iff_eq] at hcount ⊢
    omega
  · rw [List.perm_iff_count]
    intro x
    have hcount := h.responses.count_eq x
    have hresponse : response (request, answer) = ⟨request.id, answer⟩ := rfl
    simp only [List.map_append, List.map_cons, List.map_nil, List.count_append, hresponse]
      at hcount ⊢
    omega

/-- What was on its way is accounted for as lost. -/
theorem Accounted.reconnect (h : s.Accounted) (kept : ℕ) :
  (s.reconnect kept).Accounted
  := by
  classical
  refine h.move rfl rfl rfl rfl rfl rfl ?_ ?_
  · rw [List.perm_iff_count]
    intro x
    have hcount := h.requests.count_eq x
    have hkept := congrArg (List.count x) (List.take_append_drop kept (s.rpcQueue ++ s.outgoing))
    simp only [Calls.reconnect, unanswered, List.count_append, List.count_nil] at hcount hkept ⊢
    omega
  · rw [List.perm_iff_count]
    intro x
    have hcount := h.responses.count_eq x
    simp only [Calls.reconnect, List.count_append, List.count_nil] at hcount ⊢
    omega

/-- A listener sees a response, which may have been seen by other listeners before. -/
theorem Accounted.messageHandler (h : s.Accounted) {r : Response Answer}
    {incoming seen : List (Response Answer)} (hold : s.seen ⊆ seen) (hr : r ∈ seen)
    (hnew : ∀ r' ∈ seen, r' ∈ s.seen ∨ r' = r)
    (hresponses : (incoming ++ seen ++ s.unheard).Perm (s.executed.map response)) (throws : Bool) :
  (messageHandler r { s with incoming := incoming, seen := seen } throws).Accounted
  := by
  rw [Calls.messageHandler]
  split
  · rename_i hid
    refine ⟨h.ids, h.requests, hresponses, h.registered, ?_, ?_, ?_, ?_, ?_⟩
    · intro call hcall
      rcases List.mem_append.mp hcall with hcall | hcall
      · exact hold (h.called call hcall)
      · rw [List.mem_singleton.mp hcall]
        exact hr
    · intro id hregistered hseen
      obtain ⟨r', hr', rfl⟩ := List.mem_map.mp hseen
      rcases hnew r' hr' with hr' | rfl
      · obtain ⟨call, hcall, hsame⟩ := h.waiting _ hregistered (List.mem_map_of_mem hr')
        exact ⟨call, List.mem_append_left _ hcall, hsame⟩
      · exact ⟨_, List.mem_append_right _ (List.mem_singleton_self _), rfl⟩
    · intro id hregistered hnot
      by_cases hsame : r.id = id
      · exact ⟨_, List.mem_append_right _ (List.mem_singleton_self _), hsame⟩
      · obtain ⟨call, hcall, hcallID⟩ := h.stored id hregistered fun hstored => by
          apply hnot
          cases throws with
          | false => exact List.mem_filter.mpr ⟨hstored, bne_iff_ne.mpr (Ne.symm hsame)⟩
          | true => exact hstored
        exact ⟨call, List.mem_append_left _ hcall, hcallID⟩
    · intro call hcall hreturned hstored
      have hbefore : call.response.id ∈ s.callbackStore := by
        cases throws with
        | false => exact (List.mem_filter.mp hstored).1
        | true => exact hstored
      rcases List.mem_append.mp hcall with hcall | hcall
      · exact h.returned call hcall hreturned hbefore
      · obtain rfl := List.mem_singleton.mp hcall
        obtain rfl : throws = false := hreturned
        exact bne_iff_ne.mp (List.mem_filter.mp hstored).2 rfl
    · rw [List.pairwise_append]
      refine ⟨h.threw, List.pairwise_singleton _ _, fun call hcall later hlater hsame => ?_⟩
      obtain rfl := List.mem_singleton.mp hlater
      -- a callback that has returned is not stored any more
      by_contra hthrew
      apply h.returned call hcall (eq_false_of_ne_true hthrew)
      rw [hsame]
      exact hid
  · rename_i hid
    refine ⟨h.ids, h.requests, hresponses, h.registered,
      fun call hcall => hold (h.called call hcall), ?_, h.stored, h.returned, h.threw⟩
    intro id hregistered hseen
    obtain ⟨r', hr', rfl⟩ := List.mem_map.mp hseen
    rcases hnew r' hr' with hr' | rfl
    · exact h.waiting _ hregistered (List.mem_map_of_mem hr')
    · exact h.stored _ hregistered hid

/-- A listener changes the callbacks only. -/
theorem messageHandler_eq (r : Response Answer) (s : Calls Params Answer) (throws : Bool) :
  ∃ called callbackStore,
    messageHandler r s throws = { s with called := called, callbackStore := callbackStore }
  := by
  rw [messageHandler]
  split
  · exact ⟨_, _, rfl⟩
  · exact ⟨_, _, rfl⟩

/-- Further listeners see a response. -/
theorem Accounted.listeners (h : s.Accounted) {r : Response Answer} (hr : r ∈ s.seen)
    (throws : List Bool) :
  (throws.foldl (Calls.messageHandler r) s).Accounted
  := by
  induction throws generalizing s with
  | nil => exact h
  | cons first rest ih =>
      have hnext := h.messageHandler (List.Subset.refl _) hr (fun _ => Or.inl) h.responses first
      obtain ⟨called, callbackStore, heq⟩ := messageHandler_eq r s first
      apply ih hnext
      rw [heq]
      exact hr

/-- A response is accounted for by the call of its callback. -/
theorem Accounted.message (h : s.Accounted) {throws : List Bool}
    (hstep : s.step (.message throws) = some s') :
  s'.Accounted
  := by
  classical
  rw [step] at hstep
  split at hstep
  case h_1 => cases hstep
  case h_2 r rest hincoming =>
    obtain rfl := Option.some.inj hstep
    cases throws with
    | nil =>
        refine h.move rfl rfl rfl rfl rfl rfl h.requests ?_
        rw [List.perm_iff_count]
        intro x
        have hcount := h.responses.count_eq x
        simp only [deliver, hincoming, List.count_append, List.count_cons, List.count_nil]
          at hcount ⊢
        omega
    | cons first others =>
        have hresponses : (rest ++ (s.seen ++ [r]) ++ s.unheard).Perm
            (s.executed.map response) := by
          rw [List.perm_iff_count]
          intro x
          have hcount := h.responses.count_eq x
          simp only [hincoming, List.count_append, List.count_cons, List.count_nil] at hcount ⊢
          omega
        have hfirst := h.messageHandler (List.subset_append_left _ _)
          (List.mem_append_right _ (List.mem_singleton_self r))
          (fun r' hr' => (List.mem_append.mp hr').imp_right List.mem_singleton.mp) hresponses first
        apply hfirst.listeners
        obtain ⟨called, callbackStore, heq⟩ :=
          messageHandler_eq r { s with incoming := rest, seen := s.seen ++ [r] } first
        rw [heq]
        exact List.mem_append_right _ (List.mem_singleton_self r)

/-- Every step keeps the accounts. -/
theorem Accounted.step (h : s.Accounted) (hstep : s.step a = some s') :
  s'.Accounted
  := by
  cases a with
  | send mode method params callback throws =>
      obtain rfl := Option.some.inj hstep
      exact h.send mode method params callback throws
  | enqueue => exact h.enqueue hstep
  | dispatch => exact h.dispatch hstep
  | respond i answer written => exact h.respond hstep
  | respondOrphan i answer => exact h.respondOrphan hstep
  | message throws => exact h.message hstep
  | reconnect kept =>
      obtain rfl := Option.some.inj hstep
      exact h.reconnect kept

variable {tr : List (Lts.Transition (Calls Params Answer) (CallAction Params Answer))}

/-- In every run, everything is accounted for. -/
theorem accounted_of_run (run : (lts Params Answer).Run new tr s) :
  s.Accounted
  := run.invariant accounted_new fun _ _ h hstep => h.step hstep

/-- Every request is in one of three places. -/
theorem Accounted.places (h : s.Accounted) :
  (s.inFlight ++ s.lost ++ s.seen.map Response.id).Perm (s.sent.map Request.id)
  := by
  have hexecuted : (s.executed.map response).map Response.id =
      (s.executed.map Prod.fst).map Request.id := by
    rw [List.map_map, List.map_map]
    rfl
  have hresponses := h.responses.map Response.id
  have hrequests := h.requests.map Request.id
  rw [hexecuted] at hresponses
  rw [List.perm_iff_count] at hresponses hrequests ⊢
  intro x
  have hcount := hresponses x
  have hcount' := hrequests x
  simp only [inFlight, lost, List.map_append, List.count_append] at hcount hcount' ⊢
  omega

/-- A callback was called just when its response has been seen. -/
theorem Accounted.called_iff (h : s.Accounted) {id : ℕ} (hid : id ∈ s.registered) :
  (∃ call ∈ s.called, call.response.id = id) ↔ id ∉ s.inFlight ∧ id ∉ s.lost
  := by
  have hnodup := h.nodup
  rw [← h.places.nodup_iff] at hnodup
  obtain ⟨-, -, hapart⟩ := List.nodup_append.mp hnodup
  constructor
  · rintro ⟨call, hcall, rfl⟩
    have hseen := List.mem_map_of_mem (f := Response.id) (h.called call hcall)
    constructor
    · intro hflight
      exact hapart _ (List.mem_append_left _ hflight) _ hseen rfl
    · intro hlost
      exact hapart _ (List.mem_append_right _ hlost) _ hseen rfl
  · rintro ⟨hflight, hlost⟩
    apply h.waiting id hid
    have hplace := h.places.mem_iff.mpr (h.registered hid)
    rcases List.mem_append.mp hplace with hplace | hseen
    · rcases List.mem_append.mp hplace with hplace | hplace
      · exact absurd hplace hflight
      · exact absurd hplace hlost
    · exact hseen

/-- A callback is called with what the handler has answered to its own request. -/
theorem Accounted.answered (h : s.Accounted) {call : CallbackCall Answer}
    (hcall : call ∈ s.called) :
  ∃ request ∈ s.sent, request.id = call.response.id ∧
    (request, call.response.answer) ∈ s.executed
  := by
  have hresponse : call.response ∈ s.executed.map response := by
    rw [← h.responses.mem_iff]
    exact List.mem_append_left _ (List.mem_append_right _ (h.called call hcall))
  obtain ⟨e, he, heq⟩ := List.mem_map.mp hresponse
  rw [← heq]
  refine ⟨e.1, ?_, rfl, he⟩
  rw [← h.requests.mem_iff]
  exact List.mem_append_right _ (List.mem_map_of_mem he)

/-- What the callback of a call is called with at once, if the method is blocked. -/
def refusal (e : Lts.Transition (Calls Params Answer) (CallAction Params Answer)) :
    Option JsonRpcErrorResponse :=
  match e.action with
  | .send mode method _ true _ =>
      if mode.blocks method then some (mode.errorResponse (e.before.requestCounter + 1)) else none
  | _ => none

/-- A response refuses nothing. -/
theorem listeners_refused (r : Response Answer) (throws : List Bool) :
  (throws.foldl (messageHandler r) s).refused = s.refused
  := by
  induction throws generalizing s with
  | nil => rfl
  | cons first rest ih =>
      obtain ⟨called, callbackStore, heq⟩ := messageHandler_eq r s first
      rw [List.foldl_cons, ih, heq]

/-- Neither does its delivery. -/
theorem deliver_refused (r : Response Answer) (throws : List Bool) :
  (s.deliver r throws).refused = s.refused
  := by
  cases throws with
  | nil => rfl
  | cons first rest =>
      rw [deliver, listeners_refused]

/-- A step refuses what it is to refuse. -/
theorem refused_step {e : Lts.Transition (Calls Params Answer) (CallAction Params Answer)}
    (hstep : e.before.step e.action = some e.after) :
  e.after.refused = e.before.refused ++ (refusal e).toList
  := by
  obtain ⟨before, action, after⟩ := e
  dsimp only at hstep ⊢
  cases action with
  | send mode method params callback throws =>
      obtain rfl := Option.some.inj hstep
      rw [send, refusal]
      split
      · rename_i hblocks
        cases callback <;> simp [hblocks]
      · rename_i hblocks
        cases callback <;> simp [hblocks, Calls.request]
  | enqueue =>
      rw [step] at hstep
      split at hstep
      case h_1 => cases hstep
      case h_2 =>
        obtain ⟨-, hstep⟩ := Option.ite_none_right_eq_some.mp hstep
        obtain rfl := Option.some.inj hstep
        exact (List.append_nil _).symm
  | dispatch =>
      rw [step] at hstep
      split at hstep
      case h_1 => cases hstep
      case h_2 =>
        obtain rfl := Option.some.inj hstep
        exact (List.append_nil _).symm
  | respond i answer written =>
      obtain ⟨request, -, rfl⟩ := Option.map_eq_some_iff.mp hstep
      exact (List.append_nil _).symm
  | respondOrphan i answer =>
      obtain ⟨request, -, rfl⟩ := Option.map_eq_some_iff.mp hstep
      exact (List.append_nil _).symm
  | message throws =>
      rw [step] at hstep
      split at hstep
      case h_1 => cases hstep
      case h_2 =>
        obtain rfl := Option.some.inj hstep
        rw [deliver_refused]
        exact (List.append_nil _).symm
  | reconnect kept =>
      obtain rfl := Option.some.inj hstep
      exact (List.append_nil _).symm

/-- The callbacks of blocked methods have been called, each of them once. -/
theorem refused_of_run (run : (lts Params Answer).Run new tr s) :
  s.refused = tr.filterMap refusal
  := by
  generalize hnew : new = first at run
  induction run with
  | nil =>
      rw [← hnew]
      rfl
  | snoc run hstep ih =>
      have hrefused := refused_step (e := ⟨_, _, _⟩) hstep
      dsimp only at hrefused
      rw [hrefused, ih, List.filterMap_append]
      rfl

/-- No request is handled twice. A callback is called again only after it has thrown, and with what
the handler has answered to its own request. It was called unless the request or the response is on
its way or was lost. The callbacks of blocked methods are called at once. -/
theorem calls_accounted (run : (lts Params Answer).Run new tr s) :
  (s.executed.map fun e => e.1.id).Nodup ∧
    (s.called.Pairwise fun call later =>
      call.response.id = later.response.id → call.threw = true) ∧
    (∀ call ∈ s.called, ∃ request ∈ s.sent, request.id = call.response.id ∧
      (request, call.response.answer) ∈ s.executed) ∧
    (∀ id ∈ s.registered, (∃ call ∈ s.called, call.response.id = id) ↔
      id ∉ s.inFlight ∧ id ∉ s.lost) ∧
    s.refused = tr.filterMap refusal
  := by
  have h := accounted_of_run run
  refine ⟨?_, h.threw, fun call hcall => h.answered hcall, fun id hid => h.called_iff hid,
    refused_of_run run⟩
  have hnodup := h.nodup
  rw [← (h.requests.map Request.id).nodup_iff, List.map_append, List.map_map] at hnodup
  exact (List.nodup_append.mp hnodup).2.1

/-- Two calls are answered in the other order. The first answer is seen by two listeners, the
callback throwing when it is called by the first of them. -/
theorem calls_accounted_two :
  ∃ tr s, (lts Unit ℕ).Run new tr s ∧
    s.called = [⟨⟨2, 20⟩, true⟩, ⟨⟨2, 20⟩, false⟩, ⟨⟨1, 10⟩, false⟩] ∧
    (s.called.Pairwise fun call later =>
      call.response.id = later.response.id → call.threw = true)
  := by
  have hplay : (Lts.play step (new : Calls Unit ℕ)
      [.send ⟨false, ""⟩ "ping" () true false, .send ⟨false, ""⟩ "getDeviceID" () true false,
        .enqueue, .enqueue, .dispatch, .dispatch, .respond 1 20 true, .respond 0 10 true,
        .message [true, false], .message [false]]).map called =
      some [⟨⟨2, 20⟩, true⟩, ⟨⟨2, 20⟩, false⟩, ⟨⟨1, 10⟩, false⟩] := by decide
  obtain ⟨tr, s, run, -, hcalled⟩ := Lts.exists_run_of_observe _ _ _ _ hplay
  exact ⟨tr, s, run, hcalled, (calls_accounted run).2.1⟩

/-! ### Answers -/

/-- How far the requests and responses have to go. -/
def weight (s : Calls Params Answer) : ℕ :=
  4 * s.outgoing.length + 3 * s.rpcQueue.length + 2 * s.running.length + s.incoming.length

/-- What has been answered between the two states is what `answers` says. -/
def AnswersSince (answers : Request Params → Answer) (s t : Calls Params Answer) : Prop :=
  ∃ requests : List (Request Params),
    t.executed = s.executed ++ requests.map fun request => (request, answers request)

/-- Nothing has been answered since now. -/
theorem AnswersSince.refl {answers : Request Params → Answer} :
  AnswersSince answers s s
  := ⟨[], (List.append_nil _).symm⟩

/-- What is answered in two parts is answered together. -/
theorem AnswersSince.trans {answers : Request Params → Answer} {t : Calls Params Answer}
    (h : AnswersSince answers s s') (h' : AnswersSince answers s' t) :
  AnswersSince answers s t
  := by
  obtain ⟨requests, heq⟩ := h
  obtain ⟨requests', heq'⟩ := h'
  use requests ++ requests'
  rw [heq', heq, List.map_append, List.append_assoc]

/-- Something that is on its way gets further, and nothing is lost. -/
theorem exists_step (answers : Request Params → Answer) (horphans : s.orphans = [])
    (hflight : s.inFlight ≠ []) :
  ∃ a s', s.step a = some s' ∧ s'.weight < s.weight ∧ s'.orphans = [] ∧ s'.lost = s.lost ∧
    s'.registered = s.registered ∧ AnswersSince answers s s'
  := by
  cases hincoming : s.incoming with
  | cons r rest =>
      obtain ⟨called, callbackStore, hmessage⟩ :=
        messageHandler_eq r { s with incoming := rest, seen := s.seen ++ [r] } false
      refine ⟨.message [false],
        messageHandler r { s with incoming := rest, seen := s.seen ++ [r] } false, ?_, ?_⟩
      · rw [step, hincoming]
        rfl
      · rw [hmessage]
        refine ⟨?_, horphans, rfl, rfl, [], (List.append_nil _).symm⟩
        simp [weight, hincoming]
  | nil =>
      cases hrunning : s.running with
      | cons request rest =>
          refine ⟨.respond 0 (answers request) true,
            { s with
              running := rest
              incoming := s.incoming ++ [⟨request.id, answers request⟩]
              executed := s.executed ++ [(request, answers request)] },
            ?_, ?_, horphans, rfl, rfl, [request], rfl⟩
          · rw [step, hrunning]
            rfl
          · simp [weight, hrunning, hincoming]
            omega
      | nil =>
          cases hqueue : s.rpcQueue with
          | cons request rest =>
              refine ⟨.dispatch, { s with rpcQueue := rest, running := s.running ++ [request] },
                ?_, ?_, horphans, rfl, rfl, .refl⟩
              · rw [step, hqueue]
              · simp [weight, hqueue]
                omega
          | nil =>
              cases houtgoing : s.outgoing with
              | cons request rest =>
                  refine ⟨.enqueue, { s with outgoing := rest, rpcQueue := [request] }, ?_, ?_,
                    horphans, rfl, rfl, .refl⟩
                  · rw [step, houtgoing, hqueue]
                    rfl
                  · simp [weight, houtgoing, hqueue]
                    omega
              | nil =>
                  exfalso
                  apply hflight
                  simp [inFlight, unanswered, houtgoing, hqueue, hrunning, horphans, hincoming]

/-- As long as the connection stays and nothing has been lost, all callbacks can still be called,
whatever the handlers answer. -/
theorem exists_all_called (answers : Request Params → Answer)
    (run : (lts Params Answer).Run new tr s) (horphans : s.orphans = []) (hlost : s.lost = []) :
  ∃ tr' t, (lts Params Answer).Run s tr' t ∧ t.registered = s.registered ∧
    AnswersSince answers s t ∧
    ∀ id ∈ t.registered, ∃ call ∈ t.called, call.response.id = id
  := by
  have hdrain : ∀ n (s : Calls Params Answer), s.weight = n → s.orphans = [] → s.lost = [] →
      ∃ tr' t, (lts Params Answer).Run s tr' t ∧ t.registered = s.registered ∧
        AnswersSince answers s t ∧ t.inFlight = [] ∧ t.lost = [] := by
    intro n
    induction n using Nat.strong_induction_on with
    | _ n ih =>
        intro s hn horphans hlost
        by_cases hflight : s.inFlight = []
        · exact ⟨[], s, .nil, rfl, .refl, hflight, hlost⟩
        · obtain ⟨a, s', hstep, hweight, horphans', hlost', hregistered, hanswers⟩ :=
            exists_step answers horphans hflight
          obtain ⟨tr', t, run, hsame, hanswers', hempty⟩ :=
            ih _ (hn ▸ hweight) s' rfl horphans' (hlost'.trans hlost)
          exact ⟨_, t, (Lts.Run.nil.snoc hstep).append run, hsame.trans hregistered,
            hanswers.trans hanswers', hempty⟩
  obtain ⟨tr', t, run', hregistered, hanswers, hflight, hlost'⟩ := hdrain _ s rfl horphans hlost
  refine ⟨tr', t, run', hregistered, hanswers, ?_⟩
  intro id hid
  rw [(accounted_of_run (run.append run')).called_iff hid, hflight, hlost']
  exact ⟨List.not_mem_nil, List.not_mem_nil⟩

/-- A call has just been made. -/
theorem exists_all_called_ping :
  ∃ (s : Calls Unit ℕ) (tr : _) (t : _), s.registered = [1] ∧ (lts Unit ℕ).Run s tr t ∧
    AnswersSince (fun request => 10 * request.id) s t ∧
    ∀ id ∈ s.registered, ∃ call ∈ t.called, call.response.id = id
  := by
  have hplay : (Lts.play step (new : Calls Unit ℕ) [.send ⟨false, ""⟩ "ping" () true false]).map
      (fun s => (s.registered, s.orphans, s.lost)) = some ([1], [], []) := by decide
  obtain ⟨tr, s, run, -, hobserved⟩ := Lts.exists_run_of_observe _ _ _ _ hplay
  obtain ⟨hregistered, hrest⟩ := Prod.mk.inj hobserved
  obtain ⟨horphans, hlost⟩ := Prod.mk.inj hrest
  obtain ⟨tr', t, run', hsame, hanswers, hcalled⟩ :=
    exists_all_called (fun request => 10 * request.id) run horphans hlost
  exact ⟨s, tr', t, hregistered, run', hanswers, hsame ▸ hcalled⟩

end Calls

end JetKvm.Rpc
