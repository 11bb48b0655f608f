import JsonRpc.Transport.Fault
import JsonRpc.Json.Reader
/-!
# A transport in memory

For trials and for peers in the same program there is a transport that moves
nothing: it keeps a record of every message and asks a responder for the
reply.  Once it is shut down it takes no more messages, and whoever still
waits for a reply is told the reason.
-/

namespace JsonRpc

structure Message where
  destination : String
  payload : Octets
  expectsReply : Bool
  deriving DecidableEq, Repr

def Octets.json? (octets : Octets) : Option Json := (Json.parse octets).toOption

def Message.json? (m : Message) : Option Json := Octets.json? m.payload

/-- A peer's answer to a payload sent to a destination; without one the peer stays silent. -/
abbrev Responder := String → Octets → Option Octets

/-- A responder that sees requests and gives replies as JSON.  It does not answer what is no
JSON. -/
def Responder.ofJson (respond : String → Json → Option Json) : Responder :=
  fun destination payload => do
    let request ← Octets.json? payload
    let v ← respond destination request
    return Octets.ofString v.text

structure Memory where
  /-- The messages taken so far, in their order. -/
  sent : List Message := []
  /-- Why the transport was shut down, if it was. -/
  closed : Option String := none

namespace Memory

/-- What stands against a message: the transport is shut down. -/
def refusal? (m : Memory) : Option TransportFault := m.closed.map .shutdown

def record (m : Memory) (message : Message) : Memory :=
  { m with sent := m.sent ++ [message] }

def take (m : Memory) (message : Message) : Except TransportFault Memory :=
  match m.refusal? with
  | some fault => .error fault
  | none => .ok (m.record message)

/-- Hands a message over, and so to the responder.  Returned are the transport afterwards and the
result, or `none` while the sender waits for a reply that the responder does not give.  Nobody
waits for what it makes of a notification. -/
def send (m : Memory) (respond : Responder) (message : Message) :
    Memory × Option (Except TransportFault Octets) :=
  match m.take message with
  | .error fault => (m, some (.error fault))
  | .ok m =>
    if message.expectsReply then (m, (respond message.destination message.payload).map .ok)
    else (m, some (.ok []))

/-- Shuts the transport down; a later reason replaces an earlier one. -/
def shutDown (m : Memory) (reason : String) : Memory := { m with closed := some reason }

end Memory

end JsonRpc
