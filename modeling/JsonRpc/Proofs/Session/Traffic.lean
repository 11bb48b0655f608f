import JsonRpc.Session.Conversation
import JsonRpc.Proofs.Session.Course
import JsonRpc.Proofs.Session.Request

/-!
# The traffic of a conversation

What a conversation sends can be told from its steps.  An operation sends one
message or none: none where its own checks reject it or the transport was shut
down before it started, and one in every other case, whatever becomes of the
message afterwards.  The message depends on the operation, on the destination
and the tagging of the session, and, where arguments are given as texts, on the
description that the session has at that moment.

`Operation.traffic` says this operation by operation without a look at how
requests are made, and `Step.shuts` says which steps shut the transport down.
`contributions` puts the two together: after the first step that shuts the
transport down, no step contributes anything.  One step of a conversation adds
its contribution to the record of the transport, and a run adds them all.
-/

namespace JsonRpc

/-- The parameters of a call by words, where the service is described and the words fit. -/
def Description.arguments? (d : Description) (method : String) (words : List String) :
    Option (List Json) := do
  let procedure ← d.find? method words.length
  (procedure.coerceArgs words).toOption

/-- What an operation sends over a transport that is open. -/
def Operation.traffic (destination : String) (tagging : Bool) (described : Option Description) :
    Operation → List Message
  | .describe => [.call destination tagging describeProcedure []]
  | .call method params => [.call destination tagging method params]
  | .notify method params => [.notification destination tagging method params]
  | .positional [] => []
  | .positional (method :: words) =>
    match described.bind fun d => d.arguments? method words with
    | some params => [.call destination tagging method params]
    | none => []
  | .invoke signature params =>
    if params.length = signature.arity then
      match signature.returns with
      | .value => [.call destination tagging signature.name params]
      | .unit => [.notification destination tagging signature.name params]
    else []

namespace Session

/-- The messages for a request, of which there is one, or for an error, for which there is none. -/
def messages (s : Session) : Except RpcError Request → List Message
  | .ok r => [s.message r]
  | .error _ => []

theorem messages_positionalRequest (s : Session) (method : String) (words : List String) :
    s.messages (s.positionalRequest (method :: words)) =
      match s.description.bind fun d => d.arguments? method words with
      | some params => [.call s.destination s.config.versionTagging method params]
      | none => [] := by
  rw [positionalRequest]
  cases s.description with
  | none => rfl
  | some d =>
      simp only [Option.bind_some, Description.arguments?, Description.get]
      cases d.find? method words.length with
      | none => rfl
      | some procedure =>
          change s.messages (procedure.coerceArgs words >>= fun params =>
              .ok ⟨method, params, true⟩) =
            match (procedure.coerceArgs words).toOption with
            | some params => [.call s.destination s.config.versionTagging method params]
            | none => []
          cases procedure.coerceArgs words <;> rfl

theorem messages_request (s : Session) (op : Operation) :
    s.messages (s.request op) =
      op.traffic s.destination s.config.versionTagging s.description := by
  cases op with
  | describe => rfl
  | call method params => rfl
  | notify method params => rfl
  | positional words =>
      cases words with
      | nil => rfl
      | cons method words => exact s.messages_positionalRequest method words
  | invoke signature params =>
      simp only [request, invocationRequest, Operation.traffic]
      by_cases hlength : params.length = signature.arity
      · simp only [hlength, ne_eq, not_true_eq_false, if_false, if_true]
        cases hreturns : signature.returns <;> rfl
      · simp only [hlength, ne_eq, not_false_eq_true, if_false, if_true]
        rfl

theorem toList_handed (s : Session) (carry : Carrier) (op : Operation) :
    (s.perform carry op).handed.toList =
      op.traffic s.destination s.config.versionTagging s.description := by
  rw [← messages_request]
  have hshape := shape_perform s carry op
  generalize s.perform carry op = c at hshape
  cases hshape with
  | rejected report hrequest => rw [hrequest]; rfl
  | abandoned report hrequest => rw [hrequest]; rfl
  | concluded report hrequest => rw [hrequest]; rfl

end Session

def Conversation.Wait.shuts : Conversation.Wait → Bool
  | .shutDown _ => true
  | _ => false

/-- Whether the sender of a message has to wait for a reply that does not come. -/
def Responder.leavesWaiting (respond : Responder) (message : Message) : Bool :=
  message.expectsReply && (respond message.destination message.payload).isNone

namespace Memory

theorem leave_sent (m : Memory) (wait : Conversation.Wait) : (wait.leave m).sent = m.sent := by
  cases wait <;> rfl

theorem leave_closed (m : Memory) (wait : Conversation.Wait) :
    (wait.leave m).closed.isSome = (m.closed.isSome || wait.shuts) := by
  cases wait with
  | shutDown reason => exact (Bool.or_true _).symm
  | _ => exact (Bool.or_false _).symm

theorem send_of_closed {m : Memory} {reason : String} (hclosed : m.closed = some reason)
    (respond : Responder) (message : Message) :
    m.send respond message = (m, some (.error (.shutdown reason))) := by
  simp only [send, take, refusal?, hclosed, Option.map_some]

theorem send_of_open {m : Memory} (hopen : m.closed = none) (respond : Responder)
    (message : Message) :
    m.send respond message = (m.record message,
      if message.expectsReply then
        (respond message.destination message.payload).map .ok
      else some (.ok [])) := by
  simp only [send, take, refusal?, hopen, Option.map_none]
  split <;> rfl

/-- An open transport records what it is handed, whatever then becomes of it. -/
theorem carried_sent (m : Memory) (respond : Responder) (wait : Conversation.Wait)
    (handed : Option Message) :
    (m.carried respond wait handed).sent =
      m.sent ++ if m.closed = none then handed.toList else [] := by
  cases handed with
  | none => simp [carried]
  | some message =>
      cases hclosed : m.closed with
      | some reason =>
          simp only [carried, send_of_closed hclosed, Option.isNone_some, Bool.false_eq_true,
            reduceCtorEq, if_false, List.append_nil]
      | none =>
          simp only [carried, send_of_open hclosed, if_true, Option.toList_some]
          rw [apply_ite Memory.sent, leave_sent, ite_self]
          rfl

/-- A transport is shut down after an operation if it was before, or if it was shut down while the
operation waited. -/
theorem carried_closed (m : Memory) (respond : Responder) (wait : Conversation.Wait)
    (handed : Option Message) :
    (m.carried respond wait handed).closed.isSome =
      (m.closed.isSome || wait.shuts && handed.any respond.leavesWaiting) := by
  cases handed with
  | none => rw [carried, Option.any_none, Bool.and_false, Bool.or_false]
  | some message =>
      cases hclosed : m.closed with
      | some reason =>
          simp only [carried, send_of_closed hclosed, Option.isNone_some, Bool.false_eq_true,
            if_false, hclosed, Option.isSome_some, Bool.true_or]
      | none =>
          simp only [carried, send_of_open hclosed, Option.any_some, Responder.leavesWaiting]
          cases hreply : message.expectsReply with
          | false => simp [record, hclosed]
          | true =>
              cases respond message.destination message.payload with
              | some reply => simp [record, hclosed]
              | none => simp [leave_closed, record, hclosed]

end Memory

namespace Conversation

def Step.traffic (destination : String) (tagging : Bool) (described : Option Description) :
    Step → List Message
  | .perform op _ _ => op.traffic destination tagging described
  | .shutDown _ => []

/-- Whether a step with this traffic shuts the transport down: by itself, or while its operation
waits. -/
def Step.shuts (traffic : List Message) : Step → Bool
  | .perform _ respond wait => wait.shuts && traffic.any respond.leavesWaiting
  | .shutDown _ => true

/-- What each step of a conversation sends that starts with its transport shut down or not.  The
first step that shuts the transport down is the last to send anything. -/
def contributions (destination : String) (tagging : Bool) (c : Conversation) (shut : Bool) :
    List Step → List (List Message)
  | [] => []
  | step :: steps =>
    let traffic := step.traffic destination tagging c.session.description
    (if shut then [] else traffic) ::
      contributions destination tagging (c.step step) (shut || step.shuts traffic) steps

variable (c : Conversation)

def trafficOf (step : Step) : List Message :=
  step.traffic c.session.destination c.session.config.versionTagging c.session.description

theorem step_settings (step : Step) :
    (c.step step).session.destination = c.session.destination ∧
      (c.step step).session.config = c.session.config := by
  cases step with
  | perform op respond wait => exact Session.perform_session_settings _ _ _
  | shutDown reason => exact ⟨rfl, rfl⟩

theorem step_sent (step : Step) :
    (c.step step).memory.sent =
      c.memory.sent ++ if c.memory.closed.isSome then [] else c.trafficOf step := by
  cases step with
  | perform op respond wait =>
      rw [Conversation.step, Memory.carried_sent, course, Session.toList_handed, trafficOf,
        Step.traffic]
      cases c.memory.closed <;> rfl
  | shutDown reason =>
      rw [trafficOf, Step.traffic, ite_self, List.append_nil]
      rfl

theorem step_closed (step : Step) :
    (c.step step).memory.closed.isSome =
      (c.memory.closed.isSome || step.shuts (c.trafficOf step)) := by
  cases step with
  | perform op respond wait =>
      have hany : ∀ handed : Option Message, handed.any respond.leavesWaiting =
          handed.toList.any respond.leavesWaiting := by
        intro handed
        cases handed <;> simp
      rw [Conversation.step, Memory.carried_closed, hany, course, Session.toList_handed,
        Step.shuts, trafficOf, Step.traffic]
  | shutDown reason => exact (Bool.or_true _).symm

theorem run_sent (steps : List Step) :
    (c.run steps).memory.sent = c.memory.sent ++
      (contributions c.session.destination c.session.config.versionTagging c
        c.memory.closed.isSome steps).flatten := by
  induction steps generalizing c with
  | nil => exact (List.append_nil _).symm
  | cons step steps ih =>
      -- The rest of the run speaks of its own session, which has kept its settings.
      obtain ⟨hdestination, hconfig⟩ := c.step_settings step
      have htail := ih (c.step step)
      rw [hdestination, hconfig, step_sent, step_closed, List.append_assoc] at htail
      rw [contributions, List.flatten_cons]
      exact htail

/-- A transport that is shut down stays so. -/
theorem run_closed (steps : List Step) :
    (c.run steps).memory.closed.isSome = (c.memory.closed.isSome ||
      (c.trail steps).any fun (earlier, step) => step.shuts (earlier.trafficOf step)) := by
  induction steps generalizing c with
  | nil => exact (Bool.or_false _).symm
  | cons step steps ih =>
      have htail := ih (c.step step)
      rw [step_closed, Bool.or_assoc] at htail
      rw [trail, List.any_cons]
      exact htail

theorem flatten_contributions_of_shut (destination : String) (tagging : Bool)
    (steps : List Step) : (contributions destination tagging c true steps).flatten = [] := by
  induction steps generalizing c with
  | nil => rfl
  | cons step steps ih =>
      rw [contributions, List.flatten_cons, if_pos rfl, Bool.true_or, List.nil_append]
      exact ih (c.step step)

theorem run_append (before after : List Step) :
    c.run (before ++ after) = (c.run before).run after :=
  List.foldl_append

theorem run_sent_of_shutDown (before after : List Step) (reason : String) :
    (c.run (before ++ .shutDown reason :: after)).memory.sent = (c.run before).memory.sent := by
  rw [run_append, run_sent, contributions, List.flatten_cons, Step.shuts, Bool.or_true,
    flatten_contributions_of_shut, Step.traffic, ite_self, List.append_nil, List.append_nil]

/-- A transport records what the steps of a conversation contribute, in their order, and no step
contributes anything once the transport is shut down.  What is recorded are calls and notifications
for the destination of the session, and they read as such. -/
theorem sent_run (steps : List Step) :
    let destination := c.session.destination
    let tagging := c.session.config.versionTagging
    (c.run steps).memory.sent = c.memory.sent ++
      (contributions destination tagging c c.memory.closed.isSome steps).flatten ∧
    ((c.run steps).memory.closed.isSome = true ↔ c.memory.closed.isSome = true ∨
      ∃ earlier step, (earlier, step) ∈ c.trail steps ∧
        step.shuts (earlier.trafficOf step) = true) ∧
    (∀ before reason after, steps = before ++ .shutDown reason :: after →
      (c.run steps).memory.sent = (c.run before).memory.sent) ∧
    ∀ method params, (∀ p ∈ params, p.Exact ∧ p.depth ≤ 125) →
      (Message.call destination tagging method params).Asks tagging method params ∧
        (Message.notification destination tagging method params).Asks tagging method params := by
  intro destination tagging
  refine ⟨c.run_sent steps, ?_, ?_, ?_⟩
  · rw [run_closed, Bool.or_eq_true, List.any_eq_true, Prod.exists]
  · rintro before reason after rfl
    exact c.run_sent_of_shutDown before after reason
  · intro method params hparams
    exact ⟨Message.asks_call destination tagging method hparams,
      Message.asks_notification destination tagging method hparams⟩

/-- A notification, a call that waits until the transport is shut down, and two operations that
find it so. -/
theorem sent_run_of_shutDown :
    let c : Conversation := ⟨.new "queue" {} none, {}⟩
    let silent : Responder := fun _ _ => none
    let now := c.run [.perform (.notify "log" [.str "a"]) silent .dropped,
      .perform (.call "slow" []) silent (.shutDown "bye"),
      .perform (.notify "log" [.str "b"]) silent .dropped,
      .perform .describe silent .expired]
    now.memory.closed.isSome = true ∧
      ∃ notification call, now.memory.sent = [notification, call] ∧
        notification.destination = "queue" ∧ notification.expectsReply = false ∧
        notification.json? = some (.obj [("jsonrpc", .str "1.1"), ("method", .str "log"),
          ("params", .arr [.str "a"])]) ∧
        call.destination = "queue" ∧ call.expectsReply = true ∧
        call.json? = some (.obj [("id", .null), ("jsonrpc", .str "1.1"), ("method", .str "slow"),
          ("params", .arr [])]) := by
  intro c silent now
  obtain ⟨hsent, hclosed, -, hasks⟩ := c.sent_run [.perform (.notify "log" [.str "a"]) silent
    .dropped, .perform (.call "slow" []) silent (.shutDown "bye"),
    .perform (.notify "log" [.str "b"]) silent .dropped, .perform .describe silent .expired]
  have hshallow : ∀ p ∈ [Json.str "a"], p.Exact ∧ p.depth ≤ 125 :=
    List.forall_mem_singleton.mpr ⟨.str "a", Nat.zero_le 125⟩
  have hnotification := (hasks "log" [.str "a"] hshallow).2
  have hcall := (hasks "slow" [] nofun).1
  refine ⟨hclosed.mpr (.inr ⟨_, _, .tail _ (.head _), rfl⟩), _, _, hsent, rfl, rfl, hnotification,
    rfl, rfl, hcall⟩

end Conversation

end JsonRpc
