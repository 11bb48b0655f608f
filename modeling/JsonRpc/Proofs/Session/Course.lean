import JsonRpc.Session.Course

/-!
# What an operation comes to

The course of an operation has three shapes.  It is rejected by its own checks
and nothing is handed to the transport; it is given up while it waits; or it
is concluded with the ending that the transport gave.  The lemmas here say for
each of the three what the course consists of, so that later files need not
look into `Session.start` and `Session.conclude`.
-/

namespace JsonRpc.Session

def handshake (ending : Ending) : Except RpcError Description :=
  (callResult ending).bind Description.ofJson

/-- What an operation gives back whose request came to this ending. -/
def verdict (op : Operation) (r : Request) (ending : Ending) : Except RpcError Outcome :=
  match op with
  | .describe => (handshake ending).map .described
  | _ =>
    if r.expectsReply then (callResult ending).map .value
    else (publishResult ending).map fun _ => .done

def started (s : Session) : Operation → Session
  | .describe => s.describing
  | _ => s

variable {s : Session} {op : Operation} {carry : Carrier}

@[simp] theorem start_session : (s.start op).session = s.started op := by
  cases op <;> rfl

@[simp] theorem start_request : (s.start op).request = s.request op := by
  cases op <;> rfl

@[simp] theorem message_started (r : Request) : (s.started op).message r = s.message r := by
  cases op <;> rfl

theorem started_of_ne_describe (h : op ≠ .describe) : s.started op = s := by
  cases op with
  | describe => exact absurd rfl h
  | _ => rfl

theorem started_settings :
    (s.started op).destination = s.destination ∧ (s.started op).config = s.config := by
  cases op <;> exact ⟨rfl, rfl⟩

theorem request_describe : s.request .describe = .ok ⟨describeProcedure, [], true⟩ := rfl

def concluded (s : Session) (op : Operation) (ending : Ending) : Session :=
  match op with
  | .describe =>
    match handshake ending with
    | .ok d => { s with state := .ready, description := some d }
    | .error _ => { s with state := .failed, description := none }
  | _ => s

theorem concluded_of_ne_describe (h : op ≠ .describe) (ending : Ending) :
    s.concluded op ending = s := by
  cases op with
  | describe => exact absurd rfl h
  | _ => rfl

theorem concluded_settings (ending : Ending) :
    (s.concluded op ending).destination = s.destination ∧
      (s.concluded op ending).config = s.config := by
  unfold concluded
  split
  · split <;> exact ⟨rfl, rfl⟩
  · exact ⟨rfl, rfl⟩

theorem verdict_of_expectsReply (h : op ≠ .describe) {r : Request}
    (hreply : r.expectsReply = true) (ending : Ending) :
    verdict op r ending = (callResult ending).map .value := by
  cases op with
  | describe => exact absurd rfl h
  | _ => simp only [verdict, hreply, if_true]

theorem verdict_of_notification (h : op ≠ .describe) {r : Request}
    (hreply : r.expectsReply = false) (ending : Ending) :
    verdict op r ending = (publishResult ending).map fun _ => .done := by
  cases op with
  | describe => exact absurd rfl h
  | _ => simp only [verdict, hreply, Bool.false_eq_true, if_false]

theorem concludeDescribe_started (ending : Ending) :
    ∃ report, s.describing.concludeDescribe (callResult ending) =
      (s.concluded .describe ending, report, (handshake ending).map .described) := by
  cases hhandshake : handshake ending with
  | ok d =>
      have hbind : (callResult ending).bind Description.ofJson = .ok d := hhandshake
      simp only [concludeDescribe, hbind, concluded, hhandshake]
      exact ⟨_, rfl⟩
  | error e =>
      have hbind : (callResult ending).bind Description.ofJson = .error e := hhandshake
      simp only [concludeDescribe, hbind, concluded, hhandshake]
      exact ⟨_, rfl⟩

theorem conclude_started {r : Request} (h : s.request op = .ok r) (ending : Ending) :
    ∃ report, (s.started op).conclude op r ending =
      (s.concluded op ending, report, verdict op r ending) := by
  by_cases hop : op = .describe
  · subst hop
    cases h
    obtain ⟨report, hconclude⟩ := concludeDescribe_started (s := s) ending
    simp only [started, conclude, if_true, hconclude]
    exact ⟨_, rfl⟩
  · rw [started_of_ne_describe hop, concluded_of_ne_describe hop]
    cases hreply : r.expectsReply with
    | true =>
        rw [verdict_of_expectsReply hop hreply]
        cases op with
        | describe => exact absurd rfl hop
        | _ => exact ⟨_, by simp only [conclude, hreply, if_true]; rfl⟩
    | false =>
        rw [verdict_of_notification hop hreply]
        exact ⟨_, by simp only [conclude, hreply, Bool.false_eq_true, if_false]; rfl⟩

theorem perform_rejected (carry : Carrier) {e : RpcError} (h : s.request op = .error e) :
    ∃ report, s.perform carry op = ⟨s, report, none, none, some (.error e)⟩ := by
  have hop : op ≠ .describe := by
    rintro rfl
    cases h
  rw [perform]
  simp only [start_session, start_request, h, started_of_ne_describe hop]
  exact ⟨_, rfl⟩

/-- The session when the transport has given this ending to an operation's request, or none. -/
def ended (s : Session) (op : Operation) : Option Ending → Session
  | some ending => s.concluded op ending
  | none => s.started op

theorem perform_request (carry : Carrier) {r : Request} (h : s.request op = .ok r) :
    ∃ report, s.perform carry op =
      ⟨s.ended op (carry (s.message r)), report, some (s.message r), carry (s.message r),
        (carry (s.message r)).map (verdict op r)⟩ := by
  rw [perform]
  simp only [start_session, start_request, h, message_started]
  cases carry (s.message r) with
  | none => exact ⟨_, rfl⟩
  | some ending =>
      obtain ⟨report, hconclude⟩ := conclude_started h ending
      simp only [hconclude]
      exact ⟨_, rfl⟩

/-- The shapes that the course of an operation can have. -/
inductive Shape (s : Session) (carry : Carrier) (op : Operation) : Course → Prop where
  | rejected {e : RpcError} (report : Report) (h : s.request op = .error e) :
      Shape s carry op ⟨s, report, none, none, some (.error e)⟩
  | abandoned {r : Request} (report : Report) (h : s.request op = .ok r)
      (hcarry : carry (s.message r) = none) :
      Shape s carry op ⟨s.started op, report, some (s.message r), none, none⟩
  | concluded {r : Request} {ending : Ending} (report : Report) (h : s.request op = .ok r)
      (hcarry : carry (s.message r) = some ending) :
      Shape s carry op
        ⟨s.concluded op ending, report, some (s.message r), some ending,
          some (verdict op r ending)⟩

theorem shape_perform (s : Session) (carry : Carrier) (op : Operation) :
    Shape s carry op (s.perform carry op) := by
  cases hrequest : s.request op with
  | error e =>
      obtain ⟨report, heq⟩ := perform_rejected carry hrequest
      rw [heq]
      exact .rejected report hrequest
  | ok r =>
      obtain ⟨report, heq⟩ := perform_request carry hrequest
      rw [heq]
      cases hcarry : carry (s.message r) with
      | none => exact .abandoned report hrequest hcarry
      | some ending => exact .concluded report hrequest hcarry

theorem described_of_describe {outcome : Outcome}
    (h : (s.perform carry .describe).result = some (.ok outcome)) :
    ∃ d, outcome = .described d := by
  have hshape := shape_perform s carry .describe
  generalize s.perform carry .describe = c at hshape h
  cases hshape with
  | rejected => cases h
  | abandoned => cases h
  | @concluded r ending =>
      have hverdict : (handshake ending).map Outcome.described = .ok outcome :=
        Option.some.inj h
      cases hhandshake : handshake ending with
      | ok d =>
          rw [hhandshake] at hverdict
          cases hverdict
          exact ⟨d, rfl⟩
      | error e =>
          rw [hhandshake] at hverdict
          cases hverdict

/-- Of a transport an operation learns nothing but the ending of its own request. -/
theorem perform_congr {carry' : Carrier}
    (h : ∀ r, s.request op = .ok r → carry (s.message r) = carry' (s.message r)) :
    s.perform carry op = s.perform carry' op := by
  rw [perform, perform]
  simp only [start_session, start_request]
  cases hrequest : s.request op with
  | error e => rfl
  | ok r => simp only [message_started, h r hrequest]

/-- No operation but `describe` changes its session. -/
theorem perform_session_of_ne_describe (h : op ≠ .describe) (carry : Carrier) :
    (s.perform carry op).session = s := by
  have hshape := shape_perform s carry op
  generalize s.perform carry op = c at hshape
  cases hshape with
  | rejected => rfl
  | abandoned => exact started_of_ne_describe h
  | concluded => exact concluded_of_ne_describe h _

/-- An operation leaves the destination and the settings of its session alone. -/
theorem perform_session_settings (s : Session) (carry : Carrier) (op : Operation) :
    (s.perform carry op).session.destination = s.destination ∧
      (s.perform carry op).session.config = s.config := by
  have hshape := shape_perform s carry op
  generalize s.perform carry op = c at hshape
  cases hshape with
  | rejected => exact ⟨rfl, rfl⟩
  | abandoned => exact started_settings
  | concluded => exact concluded_settings _

end JsonRpc.Session
