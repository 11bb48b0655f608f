import JsonRpc.Session.Course
/-!
# Conversations

A conversation is a session together with the transport in memory that it
talks over.  Each operation finds a responder that may answer as it likes, and
no two operations need to find the same one.  Where the responder stays silent
the operation waits, and what then ends its wait is part of the step.  The
transport can also be shut down between two operations.
-/

namespace JsonRpc

/-- What ends the wait for a reply that does not come. -/
inductive Conversation.Wait where
  | expired
  | shutDown (reason : String)
  /-- The operation is given up. -/
  | dropped

namespace Conversation.Wait

def ending : Wait → Option Ending
  | expired => some .expired
  | shutDown reason => some (.failed (.shutdown reason))
  | dropped => none

def leave (m : Memory) : Wait → Memory
  | shutDown reason => m.shutDown reason
  | _ => m

end Conversation.Wait

namespace Memory

/-- The transport as one operation sees it. -/
def carrier (m : Memory) (respond : Responder) (wait : Conversation.Wait) : Carrier :=
  fun message => match (m.send respond message).2 with
  | some (.ok reply) => some (.delivered reply)
  | some (.error fault) => some (.failed fault)
  | none => wait.ending

/-- The transport after an operation that handed over this much. -/
def carried (m : Memory) (respond : Responder) (wait : Conversation.Wait) :
    Option Message → Memory
  | none => m
  | some message =>
    let (m, result?) := m.send respond message
    if result?.isNone then wait.leave m else m

end Memory

structure Conversation where
  session : Session
  memory : Memory

namespace Conversation

inductive Step where
  | perform (op : Operation) (respond : Responder) (wait : Wait)
  | shutDown (reason : String)

def course (c : Conversation) (op : Operation) (respond : Responder) (wait : Wait) : Course :=
  c.session.perform (c.memory.carrier respond wait) op

def step (c : Conversation) : Step → Conversation
  | .perform op respond wait =>
    let course := c.course op respond wait
    ⟨course.session, c.memory.carried respond wait course.handed⟩
  | .shutDown reason => { c with memory := c.memory.shutDown reason }

def run (c : Conversation) (steps : List Step) : Conversation := steps.foldl step c

/-- The steps of a run, each with the conversation that it finds. -/
def trail (c : Conversation) : List Step → List (Conversation × Step)
  | [] => []
  | step :: steps => (c, step) :: (c.step step).trail steps

end Conversation

end JsonRpc
