import JsonRpc.Proofs.Description.RoundTrip
import JsonRpc.Proofs.Session.Transparency

/-!
# What a handshake hands on

A service that describes itself by a list of procedures is described by that
list from then on.  The description passes through the text of a reply, and the
readers of its members forgive much; but of a list that is written as it should
be they change nothing.  So the session knows the very procedures of the
service, in their order and with all that is said of each of them.
-/

namespace JsonRpc

def Reply.listing (ps : List Procedure) : Json := .obj [("result", Description.listing ps)]

namespace Reply

theorem exact_listing (ps : List Procedure) : (listing ps).Exact :=
  .obj (List.pairwise_singleton _ _)
    (List.forall_mem_singleton.mpr (Description.exact_listing ps))

theorem depth_listing_le (ps : List Procedure) : (listing ps).depth ≤ 127 := by
  have hdepth : (Description.listing ps).depth ≤ 5 := Description.depth_listing_le ps
  simp only [listing, Json.depth, Json.depthMembers]
  omega

theorem resultOfOctets_listing (ps : List Procedure) :
    resultOfOctets (.ofString (listing ps).text) = .ok (Description.listing ps) := by
  rw [resultOfOctets_text (exact_listing ps) (depth_listing_le ps)]
  exact result_of_result rfl rfl

end Reply

namespace Session

theorem handshake_listing (ps : List Procedure) :
    handshake (.delivered (.ofString (Reply.listing ps).text)) = .ok (.ofProcedures ps) := by
  rw [handshake, callResult, Reply.resultOfOctets_listing]
  exact Description.ofJson_listing ps

end Session

namespace Conversation

variable {c : Conversation} {f : String → Json → Option Json} {wait : Wait}

/-- The request for a description is a call without parameters, so every peer can read it. -/
theorem carrier_describe (hopen : c.memory.closed = none) (f : String → Json → Option Json)
    (wait : Wait) :
    c.memory.carrier (.ofJson f) wait
        (.call c.session.destination c.session.config.versionTagging describeProcedure []) =
      match f c.session.destination
          (callObject c.session.config.versionTagging describeProcedure []) with
      | some r => some (.delivered (.ofString r.text))
      | none => wait.ending := by
  have hexact : ∀ p ∈ ([] : List Json), p.Exact := nofun
  have hread := json?_call c.session.destination c.session.config.versionTagging
    describeProcedure hexact
  rw [if_pos nofun] at hread
  rw [Memory.carrier_ofJson hopen f wait Message.call_expectsReply, hread,
    Message.call_destination]
  rfl

/-- A session that asks for a list of procedures gets this list, whatever it was before. -/
theorem describe_listing (hopen : c.memory.closed = none) (wait : Wait) (ps : List Procedure)
    (hpeer : f c.session.destination
      (callObject c.session.config.versionTagging describeProcedure []) =
        some (Reply.listing ps)) :
    let course := c.course .describe (.ofJson f) wait
    let after := c.step (.perform .describe (.ofJson f) wait)
    ∃ d, course.result = some (.ok (.described d)) ∧ after.session.state = .ready ∧
      after.session.description = some d ∧ d.procs = ps ∧ d = .ofProcedures ps ∧
      ∀ name arity, d.get name arity = (Description.ofProcedures ps).get name arity ∧
        d.contains name arity = (Description.ofProcedures ps).contains name arity := by
  intro course after
  have hcarry : c.memory.carrier (.ofJson f) wait
      (c.session.message ⟨describeProcedure, [], true⟩) =
        some (.delivered (.ofString (Reply.listing ps).text)) := by
    rw [Session.message_call, carrier_describe hopen, hpeer]
  obtain ⟨report, hcourse⟩ := Session.perform_request (s := c.session)
    (c.memory.carrier (.ofJson f) wait) Session.request_describe
  rw [hcarry, Option.map_some] at hcourse
  have hresult : course.result = some (.ok (.described (.ofProcedures ps))) := by
    rw [show course = _ from hcourse, Session.verdict, Session.handshake_listing]
    rfl
  have hsession : after.session =
      { c.session with state := .ready, description := some (.ofProcedures ps) } := by
    rw [show after.session = course.session from rfl, show course = _ from hcourse]
    simp only [Session.ended, Session.concluded, Session.handshake_listing]
  refine ⟨.ofProcedures ps, hresult, ?_, ?_, rfl, rfl, fun _ _ => ⟨rfl, rfl⟩⟩
  · rw [hsession]
  · rw [hsession]

/-- Two procedures of one name and arity, and texts that are empty or absent. -/
theorem describe_listing_of_twins :
    let c : Conversation := ⟨.new "calculator" {} none, {}⟩
    let first : Procedure := ⟨"add", [⟨"a", "num"⟩, ⟨"", "blob"⟩], some ⟨"", "num"⟩, some "", none,
      true⟩
    let second : Procedure := ⟨"add", [⟨"b", "str"⟩, ⟨"c", "any"⟩], none, none, some "\"\n", false⟩
    let f := fun _ _ => some (Reply.listing [first, second])
    let after := c.step (.perform .describe (.ofJson f) .dropped)
    c.memory.closed = none ∧
      f c.session.destination (callObject true describeProcedure []) =
        some (Reply.listing [first, second]) ∧
      after.session.state = .ready ∧
      ∃ d, after.session.description = some d ∧ d.procs = [first, second] := by
  intro c first second f after
  obtain ⟨d, -, hstate, hdescription, hprocs, -⟩ :=
    describe_listing (c := c) (f := f) rfl .dropped [first, second] rfl
  exact ⟨rfl, rfl, hstate, d, hdescription, hprocs⟩

end Conversation

end JsonRpc
