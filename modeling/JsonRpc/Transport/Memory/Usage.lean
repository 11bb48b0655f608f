import Mathlib.Logic.Relation
import JsonRpc.Transport.Memory.Shared
/-!
# A transport in memory that is in use

A transport in memory is reached through handles, and any handle can be cloned
or let go of.  Whoever has one can hand over a message or shut the transport
down.  A call borrows its handle as long as it is under way, and nobody lets go
of a handle that is borrowed.

A sender that waits would also stop waiting if all handles were gone, since
nobody could shut the transport down any more.
-/

namespace JsonRpc.Memory

def isShutDown (m : Memory) : Bool := m.closed.isSome

/-- A message that was handed over through a handle. -/
structure Call where
  delivery : Delivery
  handle : Nat
  /-- Whether the sender has given up. -/
  dropped : Bool := false

def Call.isUnderway (c : Call) : Bool := !c.dropped && c.delivery.result?.isNone

def Call.recorded? (c : Call) : Option Message :=
  if c.delivery.isRecorded then some c.delivery.message else none

/-- A transport in memory with its handles and the calls that were begun. -/
structure Usage where
  shared : Shared := {}
  /-- Which of the handles are still there. -/
  handles : List Bool := [true]
  calls : List Call := []

namespace Usage

def isShutDown (l : Usage) : Bool := l.shared.memory.isShutDown

def result? (l : Usage) (i : Nat) : Option (Except TransportFault Octets) :=
  l.calls[i]?.bind (·.delivery.result?)

def recorded? (l : Usage) (i : Nat) : Option Message := l.calls[i]?.bind Call.recorded?

/-- Begins a call.  The sender has seen the shutdowns so far. -/
def begin (l : Usage) (handle : Nat) (message : Message) : Usage :=
  { l with calls := l.calls ++ [⟨⟨message, l.shared.version, .posted⟩, handle, false⟩] }

def shutDown (l : Usage) (reason : String) : Usage :=
  { l with shared := l.shared.shutDown reason }

/-- The call at this place goes one step further.  The responder need not answer one payload in
the same way twice. -/
inductive Advance : Usage → Nat → Usage → Prop where
  | intro {l : Usage} {i : Nat} {d d' : Delivery} {handle : Nat} {m : Shared}
      (respond : Responder) (hcall : l.calls[i]? = some ⟨d, handle, false⟩)
      (hstep : d.Step respond l.shared m d') :
      Advance l i { l with shared := m, calls := l.calls.set i ⟨d', handle, false⟩ }

/-- The call at this place stops waiting for a shutdown, since no handle is left. -/
inductive Abandon : Usage → Nat → Usage → Prop where
  | intro {l : Usage} {i : Nat} {message : Message} {handle : Nat}
      (hcall : l.calls[i]? = some ⟨⟨message, l.shared.version, .waiting⟩, handle, false⟩)
      (hhandles : true ∉ l.handles) :
      Abandon l i
        { l with
          calls := l.calls.set i ⟨⟨message, l.shared.version,
            .ended (.error (.shutdown "transport dropped"))⟩, handle, false⟩ }

def Turn (l : Usage) (i : Nat) (l' : Usage) : Prop := Advance l i l' ∨ Abandon l i l'

inductive Step : Usage → Usage → Prop where
  | begin {l : Usage} {handle : Nat} (message : Message)
      (hhandle : l.handles[handle]? = some true) : Step l (l.begin handle message)
  | turn {l l' : Usage} {i : Nat} (hturn : Turn l i l') : Step l l'
  | giveUp {l : Usage} {i : Nat} {c : Call} (hcall : l.calls[i]? = some c)
      (hunderway : c.isUnderway = true) :
      Step l { l with calls := l.calls.set i { c with dropped := true } }
  | clone {l : Usage} {handle : Nat} (hhandle : l.handles[handle]? = some true) :
      Step l { l with handles := l.handles ++ [true] }
  | letGo {l : Usage} {handle : Nat}
      (hfree : ∀ c ∈ l.calls, c.isUnderway = true → c.handle ≠ handle) :
      Step l { l with handles := l.handles.set handle false }
  | shutDown {l : Usage} {handle : Nat} (reason : String)
      (hhandle : l.handles[handle]? = some true) : Step l (l.shutDown reason)

def Runs : Usage → Usage → Prop := Relation.ReflTransGen Step

/-- What a fresh transport with one handle can come to. -/
def Reachable (l : Usage) : Prop := Runs {} l

end Usage

end JsonRpc.Memory
