import JsonRpc.Transport.Memory
/-!
# A transport in memory that many use at once

Whoever sends something takes several steps, and others take theirs in
between.  A sender first finds out whether the transport is shut down, then
waits for its turn with the record, and only then does the responder see the
message.  Where the responder stays silent, the sender waits for a shutdown.

The shutdown is watched through a version that every shutdown raises.  A
sender knows which version it has seen, from before it looks for the first
time whether the transport is shut down.  It sleeps while there is no newer
one, so a shutdown that it misses when it looks still wakes it up.
-/

namespace JsonRpc.Memory

/-- A transport in memory whose shutdown is watched. -/
structure Shared where
  memory : Memory := {}
  /-- How often the transport was shut down. -/
  version : Nat := 0

namespace Shared

def record (m : Shared) (message : Message) : Shared :=
  { m with memory := m.memory.record message }

def shutDown (m : Shared) (reason : String) : Shared :=
  ⟨m.memory.shutDown reason, m.version + 1⟩

end Shared

/-- How far a message has come. -/
inductive Delivery.Stage where
  /-- Nothing was asked of the transport yet. -/
  | posted
  /-- The transport was open, and the message waits for its turn with the record. -/
  | admitted
  | recorded
  /-- The responder has stayed silent. -/
  | waiting
  /-- The transport was shut down, and has not recorded the message. -/
  | refused (fault : TransportFault)
  | ended (result : Except TransportFault Octets)

structure Delivery where
  message : Message
  /-- The version of the shutdown that the sender has seen. -/
  seen : Nat
  stage : Delivery.Stage := .posted

namespace Delivery

def isRecorded (d : Delivery) : Bool :=
  match d.stage with
  | .recorded | .waiting | .ended _ => true
  | _ => false

def result? (d : Delivery) : Option (Except TransportFault Octets) :=
  match d.stage with
  | .refused fault => some (.error fault)
  | .ended result => some result
  | _ => none

inductive Step (respond : Responder) : Shared → Delivery → Shared → Delivery → Prop where
  | accept {m : Shared} {message : Message} {seen : Nat} (hopen : m.memory.refusal? = none) :
      Step respond m ⟨message, seen, .posted⟩ m ⟨message, seen, .admitted⟩
  | refuse {m : Shared} {message : Message} {seen : Nat} {fault : TransportFault}
      (hrefusal : m.memory.refusal? = some fault) :
      Step respond m ⟨message, seen, .posted⟩ m ⟨message, seen, .refused fault⟩
  | record {m : Shared} {message : Message} {seen : Nat} :
      Step respond m ⟨message, seen, .admitted⟩ (m.record message) ⟨message, seen, .recorded⟩
  /-- Nobody waits for what the responder makes of a notification. -/
  | acknowledge {m : Shared} {message : Message} {seen : Nat}
      (hreply : message.expectsReply = false) :
      Step respond m ⟨message, seen, .recorded⟩ m ⟨message, seen, .ended (.ok [])⟩
  | reply {m : Shared} {message : Message} {seen : Nat} {reply : Octets}
      (hreply : message.expectsReply = true)
      (hrespond : respond message.destination message.payload = some reply) :
      Step respond m ⟨message, seen, .recorded⟩ m ⟨message, seen, .ended (.ok reply)⟩
  | wait {m : Shared} {message : Message} {seen : Nat} (hreply : message.expectsReply = true)
      (hrespond : respond message.destination message.payload = none) :
      Step respond m ⟨message, seen, .recorded⟩ m ⟨message, seen, .waiting⟩
  /-- The sender learns that there was a shutdown. -/
  | wake {m : Shared} {message : Message} {seen : Nat} {reason : String}
      (hseen : seen ≠ m.version) (hclosed : m.memory.closed = some reason) :
      Step respond m ⟨message, seen, .waiting⟩ m
        ⟨message, m.version, .ended (.error (.shutdown reason))⟩
  /-- The sender learns of a new version and finds the transport open. -/
  | rest {m : Shared} {message : Message} {seen : Nat} (hseen : seen ≠ m.version)
      (hclosed : m.memory.closed = none) :
      Step respond m ⟨message, seen, .waiting⟩ m ⟨message, m.version, .waiting⟩

end Delivery

end JsonRpc.Memory
