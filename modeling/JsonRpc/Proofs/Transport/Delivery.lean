import Mathlib.Logic.Relation
import JsonRpc.Transport.Memory.Shared
import JsonRpc.Proofs.Session.Traffic

/-!
# A message on its way through a shared transport

A message takes several steps through a transport in memory.  One of them
records it, and the others leave the record alone.  What the responder makes
of the message depends on the message only, so what a sender is told does not
depend on what happens between the steps, unless the transport is shut down.
Where nothing happens between them, they come to what `Memory.send` does at one
go.
-/

namespace JsonRpc.Memory.Delivery

variable {respond : Responder} {m m' : Shared} {d d' : Delivery}

theorem Step.message_eq (h : d.Step respond m m' d') : d'.message = d.message := by
  cases h <;> rfl

/-- A step records the message, or leaves the transport as it is. -/
theorem Step.traffic (h : d.Step respond m m' d') :
    (m' = m ∧ d'.isRecorded = d.isRecorded) ∨
      (m' = m.record d.message ∧ d.isRecorded = false ∧ d'.isRecorded = true) := by
  cases h with
  | record => exact .inr ⟨rfl, rfl, rfl⟩
  | _ => exact .inl ⟨rfl, rfl⟩

/-- If the sender is given a reply, it is the one that an open transport gives. -/
def Sound (respond : Responder) (d : Delivery) : Prop :=
  ∀ reply, d.result? = some (.ok reply) →
    ∀ m : Memory, m.closed = none → (m.send respond d.message).2 = some (.ok reply)

theorem sound_posted (message : Message) (seen : Nat) : Sound respond ⟨message, seen, .posted⟩ :=
  nofun

theorem Sound.step (h : d.Step respond m m' d') : Sound respond d' := by
  cases h with
  | acknowledge hreply =>
      rintro reply ⟨⟩ m hopen
      simp [send_of_open hopen, hreply]
  | reply hreply hrespond =>
      rintro reply ⟨⟩ m hopen
      simp [send_of_open hopen, hreply, hrespond]
  | _ => nofun

def Runs (respond : Responder) : Shared × Delivery → Shared × Delivery → Prop :=
  Relation.ReflTransGen fun p q => p.2.Step respond p.1 q.1 q.2

/-- A message that has the transport to itself comes to what `send` makes of it. -/
theorem runs_send (respond : Responder) (m : Shared) (message : Message) (seen : Nat) :
    ∃ d, Runs respond (m, ⟨message, seen, .posted⟩)
        (⟨(m.memory.send respond message).1, m.version⟩, d) ∧
      d.result? = (m.memory.send respond message).2 := by
  cases hclosed : m.memory.closed with
  | some reason =>
      rw [send_of_closed hclosed]
      have hrefusal : m.memory.refusal? = some (.shutdown reason) := by simp [refusal?, hclosed]
      exact ⟨_, .single (.refuse hrefusal), rfl⟩
  | none =>
      rw [send_of_open hclosed]
      have haccept : Step respond m ⟨message, seen, .posted⟩ m ⟨message, seen, .admitted⟩ :=
        .accept (by simp [refusal?, hclosed])
      have hrecorded : Runs respond (m, ⟨message, seen, .posted⟩)
          (m.record message, ⟨message, seen, .recorded⟩) :=
        (Relation.ReflTransGen.single (b := (m, ⟨message, seen, .admitted⟩)) haccept).tail .record
      cases hreply : message.expectsReply with
      | false =>
          exact ⟨⟨message, seen, .ended (.ok [])⟩, hrecorded.tail (.acknowledge hreply), rfl⟩
      | true =>
          cases hrespond : respond message.destination message.payload with
          | none => exact ⟨⟨message, seen, .waiting⟩, hrecorded.tail (.wait hreply hrespond), rfl⟩
          | some reply =>
              exact ⟨⟨message, seen, .ended (.ok reply)⟩,
                hrecorded.tail (.reply hreply hrespond), rfl⟩

end JsonRpc.Memory.Delivery
