import Mathlib.Logic.Relation
import JsonRpc.Session.Conversation
import JsonRpc.Transport.Memory.Shared
/-!
# Sessions that share a transport

Any number of sessions can talk over one transport in memory, and each can have
many operations under way.  An operation is with its session when it starts and
when it is concluded.  In between its message is on its way through the
transport, step by step, while others do the same.  It can be given up at any
point, and the timeout of its session can run out as long as it waits for a
reply.

An operation that is under way keeps its session as it was at the start.  No
operation but `describe` would change it, and a session that is asked to
describe its service does nothing else meanwhile.
-/

namespace JsonRpc

inductive Undertaking.Fate where
  | underway
  /-- It is over.  Without an ending it was given up, or had nothing to send. -/
  | over (ending : Option Ending)

structure Undertaking where
  /-- The session at the start. -/
  session : Session
  operation : Operation
  /-- What was handed to the transport. -/
  delivery : Option Memory.Delivery
  fate : Undertaking.Fate

namespace Undertaking

/-- An operation at its beginning.  It is over at once if there is nothing to send. -/
def begun (s : Session) (op : Operation) (version : Nat) : Undertaking :=
  let started := s.start op
  match started.request with
  | .error _ => ⟨s, op, none, .over none⟩
  | .ok r => ⟨s, op, some ⟨started.session.message r, version, .posted⟩, .underway⟩

def isRecorded (u : Undertaking) : Bool := u.delivery.any Memory.Delivery.isRecorded

def course? (u : Undertaking) : Option Course :=
  match u.fate with
  | .underway => none
  | .over ending => some (u.session.perform (fun _ => ending) u.operation)

end Undertaking

/-- What the transport has told the sender, as the ending of its request. -/
def Ending.ofResult : Except TransportFault Octets → Ending
  | .ok reply => .delivered reply
  | .error fault => .failed fault

/-- A transport in memory with everything that was begun over it. -/
structure Sharing where
  memory : Memory.Shared
  undertakings : List Undertaking := []

namespace Sharing

def sent (l : Sharing) : List Message := l.memory.memory.sent

def Handed (l : Sharing) (i : Nat) (message : Message) : Prop :=
  ∃ u d, l.undertakings[i]? = some u ∧ u.delivery = some d ∧ d.message = message

def Recorded (l : Sharing) (i : Nat) : Prop :=
  ∃ u, l.undertakings[i]? = some u ∧ u.isRecorded = true

def settle (l : Sharing) (i : Nat) (u : Undertaking) (ending : Option Ending) : Sharing :=
  { l with undertakings := l.undertakings.set i { u with fate := .over ending } }

inductive Step (respond : Responder) : Sharing → Sharing → Prop where
  | begin {l : Sharing} (s : Session) (op : Operation) :
      Step respond l
        { l with undertakings := l.undertakings ++ [.begun s op l.memory.version] }
  /-- The message of an operation comes one step further. -/
  | advance {l : Sharing} {i : Nat} {s : Session} {op : Operation} {d d' : Memory.Delivery}
      {m : Memory.Shared} (hundertaking : l.undertakings[i]? = some ⟨s, op, some d, .underway⟩)
      (hstep : d.Step respond l.memory m d') :
      Step respond l
        { memory := m, undertakings := l.undertakings.set i ⟨s, op, some d', .underway⟩ }
  | conclude {l : Sharing} {i : Nat} {s : Session} {op : Operation} {d : Memory.Delivery}
      {result : Except TransportFault Octets}
      (hundertaking : l.undertakings[i]? = some ⟨s, op, some d, .underway⟩)
      (hresult : d.result? = some result) :
      Step respond l (l.settle i ⟨s, op, some d, .underway⟩ (some (.ofResult result)))
  /-- The time of the session runs out. -/
  | expire {l : Sharing} {i : Nat} {s : Session} {op : Operation} {d : Memory.Delivery}
      (hundertaking : l.undertakings[i]? = some ⟨s, op, some d, .underway⟩)
      (htimeout : s.config.timeout.isSome = true) (hreply : d.message.expectsReply = true)
      (hresult : d.result? = none) :
      Step respond l (l.settle i ⟨s, op, some d, .underway⟩ (some .expired))
  | drop {l : Sharing} {i : Nat} {u : Undertaking} (hundertaking : l.undertakings[i]? = some u)
      (hfate : u.fate = .underway) :
      Step respond l (l.settle i u none)
  | shutDown {l : Sharing} (reason : String) :
      Step respond l { l with memory := l.memory.shutDown reason }

def Runs (respond : Responder) : Sharing → Sharing → Prop :=
  Relation.ReflTransGen (Step respond)

/-- What a shared transport can come to that starts as this one. -/
inductive Reachable (respond : Responder) (m : Memory) : Sharing → Prop where
  | start (version : Nat) : Reachable respond m ⟨⟨m, version⟩, []⟩
  | step {l l' : Sharing} (h : Reachable respond m l) (hstep : Step respond l l') :
      Reachable respond m l'

end Sharing

end JsonRpc
