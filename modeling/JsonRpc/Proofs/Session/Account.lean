import JsonRpc.Proofs.Session.Lifecycle
import JsonRpc.Proofs.Session.Positional

/-!
# What an operation measures

The instruments of a session are read at different places, and a `describe`
makes a call of its own.  Seen from the end it is simple: what an operation
measures depends on what came of its exchange or of its publication, if it got
so far, and on the state in which a `describe` leaves its session.

`Account` says which measurements belong to an entry of a log, and the course of
an operation has the account of its entry.
-/

namespace JsonRpc

def Operation.method : Operation → String
  | .describe => describeProcedure
  | .call method _ => method
  | .notify method _ => method
  | .positional words => words.headD ""
  | .invoke signature _ => signature.name

namespace Session

/-! ## Entries of a log -/

/-- What came of the exchange of an operation, if it made one that came to its end. -/
def exchanged? (entry : Operation × Course) : Option (Except RpcError Json) :=
  match entry.2.handed, entry.2.ending with
  | some message, some ending => if message.expectsReply then some (callResult ending) else none
  | _, _ => none

def published? (entry : Operation × Course) : Option (Except RpcError Unit) :=
  match entry.2.handed, entry.2.ending with
  | some message, some ending =>
    if message.expectsReply then none else some (publishResult ending)
  | _, _ => none

namespace Log

end Log

/-! ## Accounts -/

def exchangeMeasurements (method : String) : Except RpcError Json → List Measurement
  | .ok _ => [.call method true]
  | .error e => [.call method false, .error e.kind]

def publishMeasurements (method : String) : Except RpcError Unit → List Measurement
  | .ok _ => [.notification method]
  | .error e => [.error e.kind]

def settledState (succeeded : Bool) : State := if succeeded then .ready else .failed

/-- The measurements that belong to an entry of a log. -/
inductive Account : Operation × Course → List Measurement → Prop where
  | silent {op : Operation} {course : Course} (hop : op ≠ .describe)
      (hexchange : exchanged? (op, course) = none) (hpublish : published? (op, course) = none) :
      Account (op, course) []
  | exchange {op : Operation} {course : Course} {r : Except RpcError Json}
      (hop : op ≠ .describe) (hexchange : exchanged? (op, course) = some r)
      (hpublish : published? (op, course) = none) :
      Account (op, course) (exchangeMeasurements op.method r)
  | publish {op : Operation} {course : Course} {r : Except RpcError Unit}
      (hop : op ≠ .describe) (hexchange : exchanged? (op, course) = none)
      (hpublish : published? (op, course) = some r) :
      Account (op, course) (publishMeasurements op.method r)
  | waiting {course : Course} (hexchange : exchanged? (.describe, course) = none)
      (hpublish : published? (.describe, course) = none)
      (hstate : course.session.state = .describing) :
      Account (.describe, course) [.state .describing]
  | handshake {course : Course} {r : Except RpcError Json} (succeeded : Bool)
      (hexchange : exchanged? (.describe, course) = some r)
      (hpublish : published? (.describe, course) = none)
      (hstate : course.session.state = settledState succeeded) :
      Account (.describe, course)
        (.state .describing :: exchangeMeasurements describeProcedure r ++
          [.handshake succeeded, .state (settledState succeeded)])

variable {s : Session} {carry : Carrier} {op : Operation}

theorem method_of_request {r : Request} (h : s.request op = .ok r) : r.method = op.method := by
  cases op with
  | describe | call | notify =>
      cases h
      rfl
  | positional words => exact method_of_positional h
  | invoke signature params =>
      simp only [request, invocationRequest] at h
      split at h
      · cases h
      · cases h
        rfl

/-! ## The account of a course -/

/-- What an operation reports whose request comes to this ending, or is given up. -/
def reported (s : Session) (op : Operation) (r : Request) : Option Ending → Report
  | some ending => (s.start op).report ++ ((s.started op).conclude op r ending).2.1
  | none => (s.start op).report

theorem report_rejected (carry : Carrier) {e : RpcError} (h : s.request op = .error e) :
    (s.perform carry op).report = (s.start op).report := by
  rw [perform]
  simp only [start_request, h]

theorem report_request (carry : Carrier) {r : Request} (h : s.request op = .ok r) :
    (s.perform carry op).report = s.reported op r (carry (s.message r)) := by
  rw [perform]
  simp only [start_session, start_request, h, message_started]
  cases carry (s.message r) <;> rfl

theorem measurements_append (r r' : Report) :
    (r ++ r').measurements = r.measurements ++ r'.measurements := rfl

theorem measurements_start (hop : op ≠ .describe) : (s.start op).report.measurements = [] := by
  cases op with
  | describe => exact absurd rfl hop
  | _ => rfl

theorem measurements_callReport (method : String) (ending : Ending)
    (result : Except RpcError Json) :
    (callReport method ending result).measurements = exchangeMeasurements method result := by
  cases result <;> rfl

theorem measurements_publishReport (method : String) (result : Except RpcError Unit) :
    (publishReport method result).measurements = publishMeasurements method result := by
  cases result <;> rfl

theorem measurements_conclude_exchange (hop : op ≠ .describe) {r : Request}
    (hreply : r.expectsReply = true) (ending : Ending) :
    (s.conclude op r ending).2.1.measurements =
      exchangeMeasurements r.method (callResult ending) := by
  rw [← measurements_callReport r.method ending]
  cases op with
  | describe => exact absurd rfl hop
  | _ => simp only [conclude, hreply, if_true]

theorem measurements_conclude_publish {r : Request} (hreply : r.expectsReply = false)
    (ending : Ending) :
    (s.conclude op r ending).2.1.measurements =
      publishMeasurements r.method (publishResult ending) := by
  rw [← measurements_publishReport]
  simp only [conclude, hreply, Bool.false_eq_true, if_false]

theorem measurements_concludeDescribe (s : Session) (result : Except RpcError Json) :
    ∃ succeeded, (s.concludeDescribe result).2.1.measurements =
        [.handshake succeeded, .state (settledState succeeded)] ∧
      (s.concludeDescribe result).1.state = settledState succeeded := by
  cases hread : result.bind Description.ofJson with
  | ok d =>
      simp only [concludeDescribe, hread]
      exact ⟨true, rfl, rfl⟩
  | error e =>
      simp only [concludeDescribe, hread]
      exact ⟨false, rfl, rfl⟩

section

variable {r : Request} {e : RpcError}

theorem exchanged?_rejected (carry : Carrier) (h : s.request op = .error e) :
    exchanged? (op, s.perform carry op) = none := by
  obtain ⟨report, hcourse⟩ := perform_rejected carry h
  rw [hcourse]
  rfl

theorem published?_rejected (carry : Carrier) (h : s.request op = .error e) :
    published? (op, s.perform carry op) = none := by
  obtain ⟨report, hcourse⟩ := perform_rejected carry h
  rw [hcourse]
  rfl

theorem exchanged?_request (carry : Carrier) (h : s.request op = .ok r) :
    exchanged? (op, s.perform carry op) =
      if r.expectsReply then (carry (s.message r)).map callResult else none := by
  obtain ⟨report, hcourse⟩ := perform_request carry h
  have hreply : (s.message r).expectsReply = r.expectsReply := rfl
  rw [hcourse]
  cases hcarry : carry (s.message r) with
  | none => simp only [exchanged?, Option.map_none, ite_self]
  | some ending => simp only [exchanged?, hreply, Option.map_some]

theorem published?_request (carry : Carrier) (h : s.request op = .ok r) :
    published? (op, s.perform carry op) =
      if r.expectsReply then none else (carry (s.message r)).map publishResult := by
  obtain ⟨report, hcourse⟩ := perform_request carry h
  have hreply : (s.message r).expectsReply = r.expectsReply := rfl
  rw [hcourse]
  cases hcarry : carry (s.message r) with
  | none => simp only [published?, Option.map_none, ite_self]
  | some ending => simp only [published?, hreply, Option.map_some]

end

theorem account_describe (s : Session) (carry : Carrier) :
    Account (.describe, s.perform carry .describe)
      (s.perform carry .describe).report.measurements := by
  have hexchange := exchanged?_request carry (request_describe (s := s))
  have hpublish := published?_request carry (request_describe (s := s))
  rw [if_pos rfl] at hexchange hpublish
  rw [report_request carry request_describe]
  cases hcarry : carry (s.message ⟨describeProcedure, [], true⟩) with
  | none =>
      rw [hcarry] at hexchange
      have hstate : (s.perform carry .describe).session.state = .describing := by
        obtain ⟨report, hcourse⟩ := perform_request carry (request_describe (s := s))
        rw [hcourse, hcarry]
        rfl
      exact .waiting hexchange hpublish hstate
  | some ending =>
      rw [hcarry] at hexchange
      obtain ⟨succeeded, hmeasurements, hstate⟩ :=
        measurements_concludeDescribe s.describing (callResult ending)
      have hsettled : (s.perform carry .describe).session.state = settledState succeeded := by
        rw [perform]
        simp only [start_session, start_request, request_describe, message_started, hcarry]
        exact hstate
      have hreport : (s.reported .describe ⟨describeProcedure, [], true⟩
          (some ending)).measurements =
            .state .describing :: exchangeMeasurements describeProcedure (callResult ending) ++
              [.handshake succeeded, .state (settledState succeeded)] := by
        rw [← hmeasurements, ← measurements_callReport describeProcedure ending]
        rfl
      rw [hreport]
      exact .handshake succeeded hexchange hpublish hsettled

theorem account_of_ne_describe (hop : op ≠ .describe) (s : Session) (carry : Carrier) :
    Account (op, s.perform carry op) (s.perform carry op).report.measurements := by
  cases hrequest : s.request op with
  | error e =>
      rw [report_rejected carry hrequest, measurements_start hop]
      exact .silent hop (exchanged?_rejected carry hrequest) (published?_rejected carry hrequest)
  | ok r =>
      have hexchange := exchanged?_request carry hrequest
      have hpublish := published?_request carry hrequest
      rw [report_request carry hrequest]
      cases hcarry : carry (s.message r) with
      | none =>
          rw [hcarry, Option.map_none, ite_self] at hexchange hpublish
          rw [reported, measurements_start hop]
          exact .silent hop hexchange hpublish
      | some ending =>
          rw [hcarry] at hexchange hpublish
          rw [reported, measurements_append, measurements_start hop, List.nil_append,
            started_of_ne_describe hop]
          cases hreply : r.expectsReply with
          | true =>
              rw [hreply, if_pos rfl] at hexchange hpublish
              rw [measurements_conclude_exchange hop hreply, method_of_request hrequest]
              exact .exchange hop hexchange hpublish
          | false =>
              rw [hreply, if_neg Bool.false_ne_true] at hexchange hpublish
              rw [measurements_conclude_publish hreply, method_of_request hrequest]
              exact .publish hop hexchange hpublish

/-- The course of an operation has the account of its entry. -/
theorem account_perform (s : Session) (carry : Carrier) (op : Operation) :
    Account (op, s.perform carry op) (s.perform carry op).report.measurements := by
  by_cases hop : op = .describe
  · subst hop
    exact account_describe s carry
  · exact account_of_ne_describe hop s carry

end Session

end JsonRpc
