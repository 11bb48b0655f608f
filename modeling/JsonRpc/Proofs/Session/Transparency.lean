import JsonRpc.Proofs.Session.Attribution
import JsonRpc.Proofs.Session.Traffic

/-!
# Calls as their peers see them

Between a caller and a peer that speaks JSON there are two texts, one of the
request and one of the reply.  Neither leaves a trace as long as the values have
no floats: the peer is asked with the very parameters of the call, and the
caller is given the very result or error of the peer.

There is a limit to this.  A parameter that nests deeper than 125 levels makes a
request that the peer cannot read and that is never answered.
-/

namespace JsonRpc

variable {params : List Json}

namespace Reply

variable {v : Json}

/-- A reply is taken for the value that the peer gave. -/
theorem resultOfOctets_text (h : v.Exact) (hdepth : v.depth ≤ 127) :
    resultOfOctets (.ofString v.text) = (ofJson v >>= result) :=
  resultOfOctets_of_parse (h.readsBack.parse_text.1 hdepth)

theorem resultOfOctets_text_of_deep (h : v.Exact) (hdepth : 127 < v.depth) :
    ∃ detail, resultOfOctets (.ofString v.text) = .error (.protocolViolation detail) := by
  obtain ⟨position, hparse⟩ := h.readsBack.parse_text.2 hdepth
  exact ⟨_, by rw [resultOfOctets, ofOctets, hparse]; rfl⟩

end Reply

namespace Session

variable {s : Session} {carry : Carrier} {method : String}

theorem handed_call :
    (s.perform carry (.call method params)).handed =
      some (.call s.destination s.config.versionTagging method params) := by
  have hhanded := s.toList_handed carry (.call method params)
  rw [Operation.traffic, Option.toList_eq_singleton_iff] at hhanded
  exact hhanded

theorem ending_call :
    (s.perform carry (.call method params)).ending =
      carry (.call s.destination s.config.versionTagging method params) := by
  have hrequest : s.request (.call method params) = .ok ⟨method, params, true⟩ := rfl
  obtain ⟨report, heq⟩ := perform_request carry hrequest
  rw [heq, message_call]

end Session

/-- A responder that speaks JSON is asked about what it can read. -/
theorem Responder.ofJson_eq (f : String → Json → Option Json) (message : Message) :
    Responder.ofJson f message.destination message.payload =
      (message.json?.bind (f message.destination)).map fun r => .ofString r.text := by
  rw [Responder.ofJson, Message.json?]
  cases Octets.json? message.payload with
  | none => rfl
  | some request =>
      change (f message.destination request >>= fun r => some (Octets.ofString r.text)) =
        (f message.destination request).map fun r => .ofString r.text
      cases f message.destination request <;> rfl

namespace Memory

/-- An open transport gives a call the responder's answer, or leaves it waiting. -/
theorem carrier_of_open {m : Memory} (hopen : m.closed = none) (respond : Responder)
    (wait : Conversation.Wait) {message : Message} (hreply : message.expectsReply = true) :
    m.carrier respond wait message =
      match respond message.destination message.payload with
      | some reply => some (.delivered reply)
      | none => wait.ending := by
  simp only [carrier, send_of_open hopen, hreply, if_true]
  cases respond message.destination message.payload <;> rfl

theorem carrier_of_notification {m : Memory} (hopen : m.closed = none) (respond : Responder)
    (wait : Conversation.Wait) {message : Message} (hreply : message.expectsReply = false) :
    m.carrier respond wait message = some (.delivered []) := by
  simp only [carrier, send_of_open hopen, hreply, Bool.false_eq_true, if_false]

theorem carrier_ofJson {m : Memory} (hopen : m.closed = none) (f : String → Json → Option Json)
    (wait : Conversation.Wait) {message : Message} (hreply : message.expectsReply = true) :
    m.carrier (.ofJson f) wait message =
      match message.json?.bind (f message.destination) with
      | some r => some (.delivered (.ofString r.text))
      | none => wait.ending := by
  rw [carrier_of_open hopen _ _ hreply, Responder.ofJson_eq]
  cases message.json?.bind (f message.destination) <;> rfl

end Memory

namespace Conversation

variable {c : Conversation} {f : String → Json → Option Json} {wait : Wait} {method : String}

theorem ending_of_call (hopen : c.memory.closed = none) :
    (c.course (.call method params) (.ofJson f) wait).ending =
      match (Message.call c.session.destination c.session.config.versionTagging method
        params).json?.bind (f c.session.destination) with
      | some r => some (.delivered (.ofString r.text))
      | none => wait.ending := by
  rw [course, Session.ending_call, Memory.carrier_ofJson hopen f wait Message.call_expectsReply,
    Message.call_destination]

/-- A call over a transport whose responder speaks JSON hands over one message.  The responder is
asked with the parameters of the call, unless they nest too deep to be read, and the call gives
back what the responder says. -/
theorem call_transparent (hopen : c.memory.closed = none) (f : String → Json → Option Json)
    (wait : Wait) (method : String) (hparams : ∀ p ∈ params, p.Exact) :
    let request := callObject c.session.config.versionTagging method params
    let course := c.course (.call method params) (.ofJson f) wait
    let after := c.step (.perform (.call method params) (.ofJson f) wait)
    (∃ message, course.handed = some message ∧
      after.memory.sent = c.memory.sent ++ [message] ∧
      message.destination = c.session.destination ∧ message.expectsReply = true ∧
      Responder.ofJson f message.destination message.payload =
        (message.json?.bind (f message.destination)).map (fun r => .ofString r.text) ∧
      message.json? = if ∀ p ∈ params, p.depth ≤ 125 then some request else none) ∧
    ((∃ p ∈ params, 125 < p.depth) → course.ending = wait.ending) ∧
    ((∀ p ∈ params, p.depth ≤ 125) →
      (f c.session.destination request = none → course.ending = wait.ending) ∧
      ∀ r, f c.session.destination request = some r → r.Exact →
        (∀ e, r.depth ≤ 127 → r.member? "error" = some e →
          course.result = some (.error (.remote ⟨e⟩))) ∧
        (∀ v, r.depth ≤ 127 → r.member? "error" = none → r.member? "result" = some v →
          course.result = some (.ok (.value v))) ∧
        (127 < r.depth ∨ r.isObject = false ∨
            r.member? "error" = none ∧ r.member? "result" = none →
          ∃ detail, course.result = some (.error (.protocolViolation detail)))) := by
  intro request course after
  have hop : Operation.call method params ≠ .describe := by
    intro h
    cases h
  have hread := json?_call c.session.destination c.session.config.versionTagging method hparams
  have hending : course.ending = _ := ending_of_call hopen
  rw [hread] at hending
  refine ⟨⟨_, Session.handed_call, ?_, Message.call_destination, Message.call_expectsReply,
    Responder.ofJson_eq f _, hread⟩, ?_, ?_⟩
  · have hsent := c.step_sent (.perform (.call method params) (.ofJson f) wait)
    rw [hopen] at hsent
    exact hsent
  · rintro ⟨p, hp, hdeep⟩
    have hnot : ¬∀ p ∈ params, p.depth ≤ 125 := fun h => Nat.not_le.mpr hdeep (h p hp)
    rw [if_neg hnot] at hending
    exact hending
  · intro hshallow
    rw [if_pos hshallow, Option.bind_some] at hending
    refine ⟨fun hf => by rw [hf] at hending; exact hending, ?_⟩
    intro r hf hr
    rw [hf] at hending
    have hresult : course.result =
        some ((Reply.resultOfOctets (.ofString r.text)).map .value) := by
      have hended : course.result =
          course.ending.map fun ending => (Session.callResult ending).map .value :=
        Session.result_of_expectsReply hop Session.handed_call Message.call_expectsReply
      rw [hended, hending, Option.map_some, Session.callResult]
    rw [hresult]
    refine ⟨?_, ?_, ?_⟩
    · intro e hdepth herror
      rw [Reply.resultOfOctets_text hr hdepth, Reply.result_of_error herror]
      rfl
    · intro v hdepth herror hvalue
      rw [Reply.resultOfOctets_text hr hdepth, Reply.result_of_result herror hvalue]
      rfl
    · intro hno
      have hviolation : ∃ detail, Reply.resultOfOctets (.ofString r.text) =
          .error (.protocolViolation detail) := by
        by_cases hdepth : r.depth ≤ 127
        · rw [Reply.resultOfOctets_text hr hdepth]
          rcases hno with hdeep | hobject | ⟨herror, hvalue⟩
          · exact absurd hdepth (Nat.not_le.mpr hdeep)
          · exact Reply.result_of_not_isObject hobject
          · exact Reply.result_of_neither herror hvalue
        · exact Reply.resultOfOctets_text_of_deep hr (Nat.lt_of_not_le hdepth)
      obtain ⟨detail, hdetail⟩ := hviolation
      rw [hdetail]
      exact ⟨detail, rfl⟩

/-- A null error is an error, also next to a result. -/
theorem call_transparent_of_null_error :
    let c : Conversation := ⟨.new "calculator" {} none, {}⟩
    let reply : Json := .obj [("error", .null), ("result", .int 5)]
    (∀ p ∈ [Json.int 2, Json.str "three"], p.Exact) ∧ c.memory.closed = none ∧
      (c.course (.call "add" [.int 2, .str "three"]) (.ofJson fun _ _ => some reply)
        .dropped).result = some (.error (.remote ⟨.null⟩)) := by
  intro c reply
  have hparams : ∀ p ∈ [Json.int 2, Json.str "three"], p.Exact := by
    intro p hp
    simp only [List.mem_cons, List.not_mem_nil, or_false] at hp
    rcases hp with rfl | rfl
    · exact .int (by decide)
    · exact .str "three"
  have hshallow : ∀ p ∈ [Json.int 2, Json.str "three"], p.depth ≤ 125 := by
    simp [Json.depth]
  have hreply : reply.Exact := by
    have hkeys : "error" < "result" := by decide
    refine .obj (List.pairwise_pair.mpr hkeys) ?_
    intro m hm
    simp only [List.mem_cons, List.not_mem_nil, or_false] at hm
    rcases hm with rfl | rfl
    · exact .null
    · exact .int (by decide)
  have htransparent := call_transparent (c := c) rfl (fun _ _ => some reply) .dropped "add"
    hparams
  have hanswer := (htransparent.2.2 hshallow).2 reply rfl hreply
  exact ⟨hparams, rfl, hanswer.1 .null (by simp [reply, Json.depth, Json.depthMembers]) rfl⟩

end Conversation

end JsonRpc
