import JsonRpc.Json.Writer
import JsonRpc.Transport.Memory
/-!
# Scripted peers

A peer that follows a script answers each method by a list of turns.  The
n-th message of a method takes the n-th turn, and when the list is used up its
last turn is repeated.  Methods without turns take the default turn.

A turn is an answer, perhaps a late one, or silence, or a failure of the
transport, which then never sees the message.
-/

namespace JsonRpc.Simulation

inductive Action where
  | json (v : Json)
  | octets (payload : Octets)
  /-- Answers with the request itself and the destination it was sent to. -/
  | echo
  | silence
  | fail (fault : TransportFault)

/-- What a peer does, and how long an answer is on its way. -/
structure Turn where
  action : Action
  delay : Nat := 0

inductive Peer.Kind where
  /-- As octets. -/
  | raw
  /-- As JSON.  What is no JSON is not answered, and an answer given as octets is not sent. -/
  | json
  /-- Not at all. -/
  | silent
  deriving DecidableEq, Repr

/-- A peer with its script, and how many messages of each method it has had. -/
structure Peer where
  kind : Peer.Kind
  script : List (String × List Turn)
  default : Turn
  counts : List (String × Nat) := []

namespace Peer

def count (p : Peer) (method : String) : Nat := (p.counts.lookup method).getD 0

def turn (p : Peer) (method : String) : Turn :=
  match p.script.lookup method with
  | none => p.default
  | some turns => (turns[p.count method]? <|> turns.getLast?).getD p.default

def advance (p : Peer) (method : String) : Peer :=
  { p with counts := (method, p.count method + 1) :: p.counts }

def echoed (destination : String) (request : Json) : Json :=
  .object [("result", .object [("to", .str destination), ("request", request)])]

def respondRaw : Action → Responder
  | .json v => fun _ _ => some (.ofString v.text)
  | .octets payload => fun _ _ => some payload
  | .echo => Responder.ofJson fun destination request => some (echoed destination request)
  | .silence => fun _ _ => none
  | .fail _ => fun _ _ => none

def respondJson : Action → Responder
  | .json v => Responder.ofJson fun _ _ => some v
  | .echo => Responder.ofJson fun destination request => some (echoed destination request)
  | _ => fun _ _ => none

def respond (kind : Kind) (action : Action) : Responder :=
  match kind with
  | .raw => respondRaw action
  | .json => respondJson action
  | .silent => fun _ _ => none

end Peer

end JsonRpc.Simulation
