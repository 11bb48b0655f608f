import JsonRpc.Proofs.Envelope
import JsonRpc.Session.Course

/-!
# Requests as their peers read them

A session sends its requests as texts.  A peer that reads such a text finds one
object with the method and its parameters.  The object has an id, which is
null, if the request expects a reply, and none if it does not.  It says the
version of the protocol if the session tags its requests.  It has no other
members.

There is a limit to this.  A reader accepts values that nest no deeper than 127
levels, and a request adds two of its own around each parameter.
-/

namespace JsonRpc

def Message.call (destination : String) (tagging : Bool) (method : String)
    (params : List Json) : Message :=
  ⟨destination, ((Envelope.call method params).tagged tagging).octets, true⟩

def Message.notification (destination : String) (tagging : Bool) (method : String)
    (params : List Json) : Message :=
  ⟨destination, ((Envelope.notification method params).tagged tagging).octets, false⟩

@[simp] theorem Message.call_destination {destination : String} {tagging : Bool}
    {method : String} {params : List Json} :
    (Message.call destination tagging method params).destination = destination := rfl

@[simp] theorem Message.call_expectsReply {destination : String} {tagging : Bool}
    {method : String} {params : List Json} :
    (Message.call destination tagging method params).expectsReply = true := rfl

/-- What a peer reads in a request. -/
def requestObject (expectsReply tagging : Bool) (method : String) (params : List Json) : Json :=
  .obj ((if expectsReply then [("id", .null)] else []) ++
    (if tagging then [("jsonrpc", .str "1.1")] else []) ++
    [("method", .str method), ("params", .arr params)])

def callObject (tagging : Bool) (method : String) (params : List Json) : Json :=
  requestObject true tagging method params

/-- A message reads as a request for a method with these parameters. -/
def Message.Asks (m : Message) (tagging : Bool) (method : String) (params : List Json) : Prop :=
  m.json? = some (requestObject m.expectsReply tagging method params)

namespace Request

variable (r : Request) (tagging : Bool)

theorem made_envelope : (r.envelope tagging).Made := by
  rw [envelope]
  split
  · exact .tagged (.call _ _) _
  · exact .tagged (.notification _ _) _

theorem params_envelope : (r.envelope tagging).params = r.params := by
  obtain ⟨method, params, expectsReply⟩ := r
  cases expectsReply <;> cases tagging <;> rfl

theorem toJson_envelope :
    (r.envelope tagging).toJson = requestObject r.expectsReply tagging r.method r.params := by
  obtain ⟨method, params, expectsReply⟩ := r
  rw [Envelope.toJson_eq]
  cases expectsReply <;> cases tagging <;> rfl

/-- A peer reads a request unless its parameters nest too deep. -/
theorem json?_envelope (hparams : ∀ p ∈ r.params, p.Exact) :
    Octets.json? (r.envelope tagging).octets =
      if ∀ p ∈ r.params, p.depth ≤ 125 then
        some (requestObject r.expectsReply tagging r.method r.params)
      else none := by
  have hobject := r.toJson_envelope tagging
  have hmade := r.made_envelope tagging
  rw [← r.params_envelope tagging] at hparams
  have hreads := (Envelope.readsAs_members hmade hparams).parse_text
  rw [Envelope.depth_members, r.params_envelope, hobject] at hreads
  obtain ⟨hfits, hdeep⟩ := hreads
  rw [Octets.json?, Envelope.octets, Envelope.text]
  -- Of the 127 levels that a reader allows, two are the envelope's own.
  by_cases hdepth : Json.depthItems r.params ≤ 125
  · have hshallow : ∀ p ∈ r.params, p.depth ≤ 125 := Json.depthItems_le_iff.mp hdepth
    rw [if_pos hshallow, hfits (Nat.add_le_add_right hdepth 2)]
    rfl
  · have hshallow : ¬∀ p ∈ r.params, p.depth ≤ 125 := mt Json.depthItems_le_iff.mpr hdepth
    obtain ⟨position, hparse⟩ := hdeep (Nat.add_lt_add_right (Nat.lt_of_not_le hdepth) 2)
    rw [if_neg hshallow, hparse]
    rfl

end Request

variable {params : List Json}

theorem json?_call (destination : String) (tagging : Bool) (method : String)
    (hparams : ∀ p ∈ params, p.Exact) :
    (Message.call destination tagging method params).json? =
      if ∀ p ∈ params, p.depth ≤ 125 then some (callObject tagging method params)
      else none := by
  have hread := Request.json?_envelope ⟨method, params, true⟩ tagging hparams
  rw [Request.envelope, if_pos rfl] at hread
  rw [Message.json?, Message.call, hread, callObject]

theorem json?_notification (destination : String) (tagging : Bool) (method : String)
    (hparams : ∀ p ∈ params, p.Exact) :
    (Message.notification destination tagging method params).json? =
      if ∀ p ∈ params, p.depth ≤ 125 then some (requestObject false tagging method params)
      else none := by
  have hread := Request.json?_envelope ⟨method, params, false⟩ tagging hparams
  rw [Request.envelope, if_neg Bool.false_ne_true] at hread
  rw [Message.json?, Message.notification, hread]

namespace Message

theorem asks_call (destination : String) (tagging : Bool) (method : String)
    (hparams : ∀ p ∈ params, p.Exact ∧ p.depth ≤ 125) :
    (call destination tagging method params).Asks tagging method params := by
  rw [Asks, json?_call destination tagging method fun p hp => (hparams p hp).1,
    if_pos fun p hp => (hparams p hp).2]
  rfl

theorem asks_notification (destination : String) (tagging : Bool) (method : String)
    (hparams : ∀ p ∈ params, p.Exact ∧ p.depth ≤ 125) :
    (notification destination tagging method params).Asks tagging method params := by
  rw [Asks, json?_notification destination tagging method fun p hp => (hparams p hp).1,
    if_pos fun p hp => (hparams p hp).2]
  rfl

end Message

namespace Session

theorem message_call (s : Session) (method : String) (params : List Json) :
    s.message ⟨method, params, true⟩ =
      .call s.destination s.config.versionTagging method params := rfl

theorem message_notification (s : Session) (method : String) (params : List Json) :
    s.message ⟨method, params, false⟩ =
      .notification s.destination s.config.versionTagging method params := rfl

end Session

end JsonRpc
