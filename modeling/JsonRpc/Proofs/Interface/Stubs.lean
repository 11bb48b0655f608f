import JsonRpc.Interface.Invocation
import JsonRpc.Proofs.Interface.Expansion
import JsonRpc.Proofs.Json.Proper
import JsonRpc.Proofs.Session.Transparency

/-!
# What a stub gives back

A stub hands one message to the transport, and the message reads as a request
with the very parameters of the stub.  What the stub gives back is then told
from what becomes of the message.

A stub that promises a result looks at the result of the reply.  Which values
are results of its type is a matter of the type alone: a reading follows a
relation between values and what they denote, and a stub gives back what the
relation says, or fails where the value denotes nothing.  Every other failure is
passed on as it is.  A stub that promises nothing looks at no reply at all.
-/

namespace JsonRpc

variable {α : Type}

namespace Reading

variable {reading : Reading α} {v : Json} {x : α}

/-- A value that lists each key once is read as what it denotes. -/
def Follows (reading : Reading α) (Denotes : Json → α → Prop) : Prop :=
  ∀ ⦃v : Json⦄, v.Proper → ∀ x, reading v = .ok x ↔ Denotes v x

/-- What a stub gives back that reads the result of a reply. -/
def taken (reading : Reading α) (v : Json) : Except RpcError (Option α) :=
  (ofResult reading (some v)).map some

variable {Denotes : Json → α → Prop}

theorem Follows.ofResult_eq_ok_iff (h : reading.Follows Denotes) (hv : v.Proper) :
    ofResult reading (some v) = .ok x ↔ Denotes v x := by
  rw [← h hv]
  cases hread : reading v with
  | ok y => simp [ofResult, hread]
  | error fault => simp [ofResult, hread]

theorem Follows.ofResult_of_mismatch (h : reading.Follows Denotes) (hv : v.Proper)
    (hnone : ∀ x, ¬Denotes v x) :
    ∃ detail, ofResult reading (some v) = .error (.serialization detail) := by
  cases hread : reading v with
  | ok y => exact absurd ((h hv y).1 hread) (hnone y)
  | error fault => exact ⟨fault.message, by simp [ofResult, hread]⟩

theorem Follows.taken_eq_ok_iff (h : reading.Follows Denotes) (hv : v.Proper)
    {given : Option α} : reading.taken v = .ok given ↔ ∃ x, Denotes v x ∧ given = some x := by
  rw [taken, map_eq_ok_iff]
  simp only [h.ofResult_eq_ok_iff hv, eq_comm]

theorem Follows.taken_of_mismatch (h : reading.Follows Denotes) (hv : v.Proper)
    (hnone : ∀ x, ¬Denotes v x) :
    ∃ detail, reading.taken v = .error (.serialization detail) := by
  obtain ⟨detail, hdetail⟩ := h.ofResult_of_mismatch hv hnone
  rw [taken, hdetail]
  exact ⟨detail, rfl⟩

end Reading

/-- The result of a reply lists each key once, however the reply is written. -/
theorem Reply.proper_of_resultOfOctets {octets : Octets} {v : Json}
    (h : resultOfOctets octets = .ok v) : v.Proper := by
  obtain ⟨written, hwritten, -, hresult⟩ := resultOfOctets_eq_ok_iff.mp h
  have hobject : (Json.object written).Proper :=
    Json.proper_of_parse (Json.parse_of_written? hwritten)
  have hmember : (Json.object written).member? "result" = some v := by
    rw [Json.member?_object]
    exact hresult
  exact hobject.member? hmember

/-! ## Calls of stubs -/

/-- A stub is called with values that become these parameters, as many as its signature wants, and
a reader can reach them. -/
structure Proxy.Passes (p : Proxy) (stub : Stub) (values : List Datum) (signature : Signature)
    (params : List Json) : Prop where
  invokes : p.signature? stub = some signature
  length : values.length = stub.arguments.length
  arity : params.length = signature.arity
  converts : values.mapM Datum.toParam = .ok params
  readable : ∀ q ∈ params, q.Exact ∧ q.depth ≤ 125

/-- A stub has called a method: one call went to the transport, and the stub gives back what the
result of the reply denotes. -/
structure Invoked.Calls (i : Invoked α) (s : Session) (carry : Carrier) (method : String)
    (params : List Json) (Denotes : Json → α → Prop) : Prop where
  handed : i.handed = some (.call s.destination s.config.versionTagging method params)
  asks : (Message.call s.destination s.config.versionTagging method params).Asks
    s.config.versionTagging method params
  ending : i.ending = carry (.call s.destination s.config.versionTagging method params)
  value_iff : ∀ {reply : Octets} {v : Json}, i.ending = some (.delivered reply) →
    Reply.resultOfOctets reply = .ok v →
    ∀ x, i.result = some (.ok x) ↔ ∃ y, Denotes v y ∧ x = some y
  mismatch : ∀ {reply : Octets} {v : Json}, i.ending = some (.delivered reply) →
    Reply.resultOfOctets reply = .ok v → (∀ x, ¬Denotes v x) →
    ∃ detail, i.result = some (.error (.serialization detail))
  passes : ∀ {ending : Ending} {e : RpcError}, i.ending = some ending →
    Session.callResult ending = .error e → i.result = some (.error e)
  waits : i.ending = none → i.result = none

/-- A stub has notified of a method: one notification went to the transport, and the stub gives
back nothing once that is published. -/
structure Invoked.Notifies (i : Invoked α) (s : Session) (carry : Carrier) (method : String)
    (params : List Json) : Prop where
  handed : i.handed = some (.notification s.destination s.config.versionTagging method params)
  asks : (Message.notification s.destination s.config.versionTagging method params).Asks
    s.config.versionTagging method params
  ending : i.ending = carry (.notification s.destination s.config.versionTagging method params)
  published : ∀ {reply : Octets}, i.ending = some (.delivered reply) → i.result = some (.ok none)
  passes : ∀ {ending : Ending} {e : RpcError}, i.ending = some ending →
    Session.publishResult ending = .error e → i.result = some (.error e)
  waits : i.ending = none → i.result = none

namespace Invoked

variable {i : Invoked α} {s : Session} {carry : Carrier} {method : String} {params : List Json}

theorem calls_of_result {reading : Reading α} {Denotes : Json → α → Prop}
    (hreading : reading.Follows Denotes)
    (hasks : (Message.call s.destination s.config.versionTagging method params).Asks
      s.config.versionTagging method params)
    (hhanded : i.handed = some (.call s.destination s.config.versionTagging method params))
    (hending : i.ending = carry (.call s.destination s.config.versionTagging method params))
    (hresult : i.result = i.ending.map fun ending =>
      (Session.callResult ending).bind reading.taken) :
    i.Calls s carry method params Denotes where
  handed := hhanded
  asks := hasks
  ending := hending
  value_iff := by
    intro reply v hdelivered hv given
    rw [hresult, hdelivered, Option.map_some, Option.some.injEq, Session.callResult, hv]
    exact hreading.taken_eq_ok_iff (Reply.proper_of_resultOfOctets hv)
  mismatch := by
    intro reply v hdelivered hv hnone
    obtain ⟨detail, hdetail⟩ :=
      hreading.taken_of_mismatch (Reply.proper_of_resultOfOctets hv) hnone
    rw [hresult, hdelivered, Option.map_some, Session.callResult, hv]
    exact ⟨detail, congrArg some hdetail⟩
  passes := by
    intro ending e hended he
    rw [hresult, hended, Option.map_some, he]
    rfl
  waits := by
    intro hended
    rw [hresult, hended, Option.map_none]

theorem notifies_of_result
    (hasks : (Message.notification s.destination s.config.versionTagging method params).Asks
      s.config.versionTagging method params)
    (hhanded : i.handed = some (.notification s.destination s.config.versionTagging method params))
    (hending : i.ending = carry (.notification s.destination s.config.versionTagging method params))
    (hresult : i.result = i.ending.map fun ending =>
      (Session.publishResult ending).map fun _ => none) :
    i.Notifies s carry method params where
  handed := hhanded
  asks := hasks
  ending := hending
  published := by
    intro reply hdelivered
    rw [hresult, hdelivered]
    rfl
  passes := by
    intro ending e hended he
    rw [hresult, hended, Option.map_some, he]
    rfl
  waits := by
    intro hended
    rw [hresult, hended, Option.map_none]

end Invoked

theorem Proxy.call?_of_operation {p : Proxy} {stub : Stub} {values : List Datum} {op : Operation}
    (h : p.operation? stub values = some (.ok op)) (reading : Reading α) (s : Session)
    (carry : Carrier) :
    p.call? stub reading values s carry =
      some ⟨(s.perform carry op).handed, (s.perform carry op).ending,
        (s.perform carry op).result.map (·.bind (stub.returned reading))⟩ := by
  rw [call?, h]
  rfl

namespace Proxy.Passes

variable {p : Proxy} {stub : Stub} {values : List Datum} {signature : Signature}
  {params : List Json}

theorem call?_eq (h : p.Passes stub values signature params) (reading : Reading α) (s : Session)
    (carry : Carrier) :
    let message := signature.message s params
    p.call? stub reading values s carry = some ⟨some message, carry message,
      (carry message).map fun ending =>
        (Session.verdict (.invoke signature params)
          ⟨signature.name, params, signature.returns = .value⟩ ending).bind
            (stub.returned reading)⟩ := by
  intro message
  obtain ⟨hhanded, hending, hresult⟩ := s.perform_invoke carry h.arity
  rw [call?_of_operation (operation?_eq h.invokes h.length h.converts), hhanded, hending, hresult,
    Option.map_map]
  rfl

theorem calls {reading : Reading α} {Denotes : Json → α → Prop}
    (h : p.Passes stub values signature params) (hreturns : signature.returns = .value)
    (hresult : stub.result.isSome = true) (hreading : reading.Follows Denotes) (s : Session)
    (carry : Carrier) :
    ∃ i, p.call? stub reading values s carry = some i ∧
      i.Calls s carry signature.name params Denotes := by
  have hcall := h.call?_eq reading s carry
  have hgiven : ∀ ending, (Session.verdict (.invoke signature params)
      ⟨signature.name, params, true⟩ ending).bind (stub.returned reading) =
        (Session.callResult ending).bind reading.taken := by
    intro ending
    simp only [Session.verdict, if_true]
    cases Session.callResult ending with
    | error e => rfl
    | ok v => exact if_pos hresult
  simp only [Signature.message, hreturns, decide_true, hgiven] at hcall
  have hasks := Message.asks_call s.destination s.config.versionTagging signature.name h.readable
  exact ⟨_, hcall, Invoked.calls_of_result hreading hasks rfl rfl rfl⟩

theorem notifies (h : p.Passes stub values signature params) (hreturns : signature.returns = .unit)
    (hresult : stub.result.isSome = false) (reading : Reading α) (s : Session) (carry : Carrier) :
    ∃ i, p.call? stub reading values s carry = some i ∧
      i.Notifies s carry signature.name params := by
  have hcall := h.call?_eq reading s carry
  have hgiven : ∀ ending, (Session.verdict (.invoke signature params)
      ⟨signature.name, params, false⟩ ending).bind (stub.returned reading) =
        (Session.publishResult ending).map fun _ => none := by
    intro ending
    simp only [Session.verdict, Bool.false_eq_true, if_false]
    cases Session.publishResult ending with
    | error e => rfl
    | ok _ => exact if_neg (by simp [hresult])
  simp only [Signature.message, hreturns, reduceCtorEq, decide_false, hgiven] at hcall
  have hasks := Message.asks_notification s.destination s.config.versionTagging signature.name
    h.readable
  exact ⟨_, hcall, Invoked.notifies_of_result hasks rfl rfl rfl⟩

end Proxy.Passes

/-! ## Peers in memory -/

theorem Reply.resultOfOctets_result {v : Json} (hv : v.Exact) (hdepth : v.depth ≤ 126) :
    resultOfOctets (.ofString (Json.obj [("result", v)]).text) = .ok v := by
  have hexact : (Json.obj [("result", v)]).Exact :=
    .obj (List.pairwise_singleton _ _) (List.forall_mem_singleton.mpr hv)
  have hfits : (Json.obj [("result", v)]).depth ≤ 127 := by
    simp only [Json.depth, Json.depthMembers]
    omega
  rw [resultOfOctets_text hexact hfits]
  exact result_of_result rfl rfl

/-- A peer that answers with the first parameter of a request. -/
def echo (_ : String) (request : Json) : Option Json :=
  match request.member? "params" with
  | some (.arr (v :: _)) => some (.obj [("result", v)])
  | _ => none

def Conversation.recorded (c : Conversation) (respond : Responder) (wait : Wait) (i : Invoked α) :
    List Message :=
  (c.memory.carried respond wait i.handed).sent

namespace Invoked

variable {i : Invoked α} {c : Conversation} {respond : Responder} {wait : Conversation.Wait}
  {method : String} {params : List Json} {Denotes : Json → α → Prop} {v : Json} {x : α}

theorem recorded_of_open {message : Message} (hopen : c.memory.closed = none)
    (h : i.handed = some message) : c.recorded respond wait i = c.memory.sent ++ [message] := by
  rw [Conversation.recorded, Memory.carried_sent, if_pos hopen, h, Option.toList_some]

/-- From a peer that echoes, a stub gets back what its first parameter denotes. -/
theorem Calls.result_of_echo
    (h : i.Calls c.session (c.memory.carrier (.ofJson echo) wait) method (v :: params) Denotes)
    (hopen : c.memory.closed = none) (hv : v.Exact) (hdepth : v.depth ≤ 125) (hx : Denotes v x) :
    i.result = some (.ok (some x)) := by
  have hecho : echo c.session.destination (callObject c.session.config.versionTagging method
      (v :: params)) = some (.obj [("result", v)]) := by
    cases c.session.config.versionTagging <;> rfl
  have hending : i.ending = some (.delivered (.ofString (Json.obj [("result", v)]).text)) := by
    rw [h.ending, Memory.carrier_ofJson hopen echo wait Message.call_expectsReply, h.asks,
      Message.call_destination, Message.call_expectsReply, Option.bind_some, ← callObject, hecho]
  have hresult := Reply.resultOfOctets_result hv (Nat.le_succ_of_le hdepth)
  exact (h.value_iff hending hresult _).mpr ⟨x, hx, rfl⟩

/-- What a peer makes of a notification is of no account. -/
theorem Notifies.result_of_open
    (h : i.Notifies c.session (c.memory.carrier respond wait) method params)
    (hopen : c.memory.closed = none) : i.result = some (.ok none) :=
  h.published (h.ending.trans (Memory.carrier_of_notification hopen respond wait rfl))

end Invoked

end JsonRpc
