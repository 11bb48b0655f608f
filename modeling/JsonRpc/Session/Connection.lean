import JsonRpc.Session.Builder
import JsonRpc.Session.Course
/-!
# Connecting a session

Connecting has three parts.  The reports that were asked for are started; the
session is set up; and the service is asked for its description, unless that
was turned off.  A part that fails ends it all with its error, and then there
is no session.
-/

namespace JsonRpc.Session

/-- The connecting of a session, seen from its end. -/
structure Connection where
  report : Report
  /-- What was handed to the transport. -/
  handed : Option Message
  /-- What the transport made of it. -/
  ending : Option Ending
  /-- The session, or the error, unless connecting was given up. -/
  result : Option (Except RpcError Session)

/-- Connects a session over a transport, in a program that starts its reports like this. -/
def Builder.connect (start : Starter) (b : Builder) (carry : Carrier) : Connection :=
  match b.prepareBy start with
  | .error e => ⟨{}, none, none, some (.error e)⟩
  | .ok (s, events) =>
    if s.config.describeOnConnect then
      let course := s.perform carry .describe
      ⟨{ events } ++ course.report, course.handed, course.ending,
        course.result.map fun result => result.map fun _ => course.session⟩
    else ⟨{ events }, none, none, some (.ok s)⟩

end JsonRpc.Session
