/-!
# States of a session

A session starts unconnected.  While it asks the service for its description
it is describing; afterwards it is ready, or it has failed.
-/

namespace JsonRpc.Session

/-- How far a session has come with the description of its service. -/
inductive State where
  | unconnected
  | describing
  | ready
  | failed
  deriving DecidableEq, Repr

namespace State

def metric : State → Nat
  | unconnected => 0
  | describing => 1
  | ready => 2
  | failed => 3

def isReady : State → Bool
  | ready => true
  | _ => false

def logText : State → String
  | unconnected => "Unconnected"
  | describing => "Describing"
  | ready => "Ready"
  | failed => "Failed"

end State

end JsonRpc.Session
