import JsonRpc.Session.Basic
import JsonRpc.Transport.Memory
/-!
# The course of an operation

From its start to its end an operation meets the transport at most once.  What
the transport makes of the message is all that the operation learns from
outside, so a transport is, for one operation, a function from messages to
endings.  Where it gives no ending the operation is given up while it waits.
-/

namespace JsonRpc

/-- What a transport makes of a message: its ending, or none where the operation that sent it is
given up while it waits. -/
abbrev Carrier := Message → Option Ending

/-- An operation on a session, seen from its end. -/
structure Course where
  /-- The session afterwards. -/
  session : Session
  report : Report
  /-- What was handed to the transport. -/
  handed : Option Message
  /-- What the transport made of it. -/
  ending : Option Ending
  /-- What the operation gave back, unless it was given up. -/
  result : Option (Except RpcError Outcome)

namespace Session

def message (s : Session) (r : Request) : Message :=
  ⟨s.destination, .ofString (s.requestText r), r.expectsReply⟩

/-- Performs an operation over a transport, up to its end or to where it is given up. -/
def perform (s : Session) (carry : Carrier) (op : Operation) : Course :=
  let started := s.start op
  match started.request with
  | .error e => ⟨started.session, started.report, none, none, some (.error e)⟩
  | .ok r =>
    let message := started.session.message r
    match carry message with
    | none => ⟨started.session, started.report, some message, none, none⟩
    | some ending =>
      let (session, report, result) := started.session.conclude op r ending
      ⟨session, started.report ++ report, some message, some ending, some result⟩

end Session

end JsonRpc
