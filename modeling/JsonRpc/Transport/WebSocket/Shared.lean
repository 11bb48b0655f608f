import Mathlib.Logic.Relation
import JsonRpc.Transport.WebSocket
/-!
# A connection that many use at once

While somebody waits for a reply, others may publish, close, or wait for
their turn to send.  A send holds the replies from the moment at which it
discards what is queued until it ends or is given up, so there is one of them
at a time.  Whoever writes holds the way out, and those who want to write wait
for it.  Any of them can be given up wherever it waits, and then it goes no
further; but a frame that it has handed over stays on its way.

Frames keep their order in both directions.  What is on its way from the peer
carries its origin with it, which the connection does not see.  It is there to
tell whose answer a send has returned.

`Step` says what can happen next.  What arrives while a send discards might as
well have arrived before, so discarding and counting are one step.
-/

namespace JsonRpc.WebSocket

/-- The closing frame of this side, where there is still one to be sent. -/
def hangUp (ws : WebSocket) : WebSocket × List Sent × Except TransportFault Unit :=
  match ws.link with
  | .live | .asked => ws.sendClose
  | .closing | .dropped => (ws, [], if ws.stuck then .error brokenPipe else .ok ())

theorem close_eq_hangUp (ws : WebSocket) :
    ws.close =
      let (ws', sent, result) := ws.hangUp
      if ws.link = .live then
        let (ws'', events) := ws'.receive .close []
        (ws'', events, sent, result)
      else (ws', [], sent, result) := by
  cases hlink : ws.link <;> simp [close, hangUp, hlink]

inductive Errand where
  | send (destination : String) (payload : Octets)
  | publish (destination : String) (payload : Octets)
  | close

namespace Errand

def isSend : Errand → Bool
  | send .. => true
  | _ => false

/-- What is to be written; a closing frame is the connection's own. -/
def payload? : Errand → Option Octets
  | send _ payload | publish _ payload => some payload
  | close => none

/-- The connection after a write that failed.  Only a send has counted its request. -/
def withdrawn (ws : WebSocket) : Errand → WebSocket
  | send .. => ws.withdraw
  | _ => ws

end Errand

inductive Origin where
  /-- It is the answer to the request of the task with this number. -/
  | answer (task : Nat)
  /-- It holds data that nobody asked for. -/
  | unasked
  /-- It holds no data. -/
  | control
  deriving DecidableEq

namespace Origin

def request? : Origin → Option Nat
  | answer i => some i
  | _ => none

end Origin

inductive Stage where
  /-- A send waits for its turn with the replies. -/
  | queueing
  /-- It waits for the way out. -/
  | posting
  /-- It has the way out, and has handed nothing over. -/
  | writing
  /-- Its frame is handed over, and it waits until that has left. -/
  | flushing
  /-- A send waits for its reply. -/
  | awaiting
  /-- A send has returned a reply, which has this origin. -/
  | answered (origin : Origin) (reply : Octets)
  | finished
  | failed (fault : TransportFault)

namespace Stage

def isOver : Stage → Bool
  | answered .. | finished | failed _ => true
  | _ => false

/-- Whether a send at this stage has counted its request and not handed it over. -/
def isCounted : Stage → Bool
  | posting | writing => true
  | _ => false

/-- Whether a send at this stage has handed its request over and waits for what comes of it. -/
def isSent : Stage → Bool
  | flushing | awaiting => true
  | _ => false

def isPast : Stage → Bool
  | queueing | posting | writing => false
  | _ => true

def isWriting : Stage → Bool
  | writing | flushing => true
  | _ => false

end Stage

/-- An errand under way.  One that was given up stays at the stage that it had reached. -/
structure Task where
  errand : Errand
  stage : Stage
  dropped : Bool := false

namespace Task

def begun (errand : Errand) : Task :=
  ⟨errand, if errand.isSend then .queueing else .posting, false⟩

def isLive (t : Task) : Bool := !t.dropped && !t.stage.isOver

/-- Whether the task is a send whose turn it is with the replies. -/
def hasTurn (t : Task) : Bool :=
  t.errand.isSend && t.isLive && (t.stage.isCounted || t.stage.isSent)

def hasWayOut (t : Task) : Bool := t.isLive && t.stage.isWriting

def isCounted (t : Task) : Bool := t.errand.isSend && t.stage.isCounted

end Task

structure Parcel where
  sender : Nat
  frame : Sent
  /-- Whether the peer is asked for an answer. -/
  request : Bool

def Parcel.request? (p : Parcel) : Option Nat := if p.request then some p.sender else none

/-- A connection with all who use it, and with the peer. -/
structure Shared where
  socket : WebSocket := {}
  /-- Everything that was begun, in this order. -/
  tasks : List Task := []
  /-- The send whose turn it is with the replies. -/
  turn : Option Nat := none
  /-- Who has the way out. -/
  writer : Option Nat := none
  /-- What was handed over and has not reached the peer. -/
  outbound : List Parcel := []
  /-- The requests that the peer has received and not answered. -/
  backlog : List Nat := []
  /-- The answers that the peer has given. -/
  answers : List (Nat × Octets) := []
  /-- What the peer has sent and the reader has not read. -/
  inbound : List (Origin × Frame) := []
  /-- The origins of what the reader has queued. -/
  queued : List Origin := []

namespace Shared

/-- The requests on their way to their answers: the answers that are coming, the requests that the
peer has, and those that are going. -/
def underway (l : Shared) : List Nat :=
  l.inbound.filterMap (fun arrival => arrival.1.request?) ++ l.backlog ++
    l.outbound.filterMap Parcel.request?

/-- The requests that were handed over and whose answers have not been taken, in the order in which
the answers come. -/
def unsettled (l : Shared) : List Nat := l.queued.filterMap Origin.request? ++ l.underway

/-- A lock after a task has let go of it, if it had it. -/
def release (lock : Option Nat) (i : Nat) : Option Nat := if lock = some i then none else lock

/-- A task goes on with what it has. -/
def resume (l : Shared) (i : Nat) (t : Task) : Shared := { l with tasks := l.tasks.set i t }

/-- A task ends or is given up, and lets go of what it has. -/
def leave (l : Shared) (i : Nat) (t : Task) : Shared :=
  { l with
    tasks := l.tasks.set i t
    turn := release l.turn i
    writer := release l.writer i }

def handed (l : Shared) (parcels : List Parcel) : Shared :=
  { l with outbound := l.outbound ++ parcels }

/-- The connection has discarded the first of what was queued. -/
def discarded (l : Shared) (ws : WebSocket) : Shared :=
  { l with
    socket := ws
    queued := l.queued.drop (l.socket.queue.length - ws.queue.length) }

def took (l : Shared) (rest : List (Except TransportFault Octets)) (left : Nat) : Shared :=
  { l with
    socket := { l.socket with queue := rest, outstanding := left }
    queued := l.queued.tail }

def read (l : Shared) (ws : WebSocket) (origin : Origin) (rest : List (Origin × Frame)) : Shared :=
  { l with
    socket := ws
    inbound := rest
    queued := l.queued ++ List.replicate (ws.queue.length - l.socket.queue.length) origin }

def Returns (l : Shared) (i : Nat) (origin : Origin) (reply : Octets) : Prop :=
  ∃ t, l.tasks[i]? = some t ∧ t.stage = .answered origin reply

def Awaits (l : Shared) (i : Nat) : Prop :=
  ∃ t, l.tasks[i]? = some t ∧ t.hasTurn = true ∧ t.stage = .awaiting

def GivenUp (l : Shared) (i : Nat) : Prop := ∃ t, l.tasks[i]? = some t ∧ t.dropped = true

end Shared

/-- What a step shows to those outside. -/
inductive Label where
  | within
  /-- The peer has sent a frame of this origin. -/
  | spoken (origin : Origin)
  /-- The reader has read a frame of this origin. -/
  | heard (origin : Origin)

inductive Step : Shared → Label → Shared → Prop where
  | begin {l : Shared} (errand : Errand) :
      Step l .within { l with tasks := l.tasks ++ [.begun errand] }
  /-- A send takes its turn: it discards what is queued and counts its request. -/
  | enter {l : Shared} {i : Nat} {destination : String} {payload : Octets} {ws : WebSocket}
      {events : List Event}
      (htask : l.tasks[i]? = some ⟨.send destination payload, .queueing, false⟩)
      (hturn : l.turn = none) (henter : l.socket.enter destination = (ws, events, .ok ())) :
      Step l .within
        { (l.discarded ws).resume i ⟨.send destination payload, .posting, false⟩ with
          turn := some i }
  /-- A send takes its turn and finds a failure in the queue. -/
  | bounce {l : Shared} {i : Nat} {destination : String} {payload : Octets} {ws : WebSocket}
      {events : List Event} {fault : TransportFault}
      (htask : l.tasks[i]? = some ⟨.send destination payload, .queueing, false⟩)
      (hturn : l.turn = none) (henter : l.socket.enter destination = (ws, events, .error fault)) :
      Step l .within
        ((l.discarded ws).leave i ⟨.send destination payload, .failed fault, false⟩)
  | seize {l : Shared} {i : Nat} {errand : Errand}
      (htask : l.tasks[i]? = some ⟨errand, .posting, false⟩) (hwriter : l.writer = none) :
      Step l .within { l.resume i ⟨errand, .writing, false⟩ with writer := some i }
  | handOver {l : Shared} {i : Nat} {errand : Errand} {payload : Octets} {frame : Sent}
      (htask : l.tasks[i]? = some ⟨errand, .writing, false⟩)
      (hpayload : errand.payload? = some payload) (hwrite : l.socket.write payload = .ok frame) :
      Step l .within
        ((l.handed [⟨i, frame, errand.isSend⟩]).resume i ⟨errand, .flushing, false⟩)
  | hangUp {l : Shared} {i : Nat} {ws : WebSocket} {frames : List Sent}
      (htask : l.tasks[i]? = some ⟨.close, .writing, false⟩)
      (hclose : l.socket.hangUp = (ws, frames, .ok ())) :
      Step l .within
        (({ l with socket := ws }.handed (frames.map fun frame => ⟨i, frame, false⟩)).resume i
          ⟨.close, .flushing, false⟩)
  | hangUpFailed {l : Shared} {i : Nat} {ws : WebSocket} {frames : List Sent}
      {fault : TransportFault} (htask : l.tasks[i]? = some ⟨.close, .writing, false⟩)
      (hclose : l.socket.hangUp = (ws, frames, .error fault)) :
      Step l .within ({ l with socket := ws }.leave i ⟨.close, .failed fault, false⟩)
  /-- A write fails before anything is handed over. -/
  | refuse {l : Shared} {i : Nat} {errand : Errand} (fault : TransportFault)
      (htask : l.tasks[i]? = some ⟨errand, .writing, false⟩) :
      Step l .within
        ({ l with socket := errand.withdrawn l.socket }.leave i ⟨errand, .failed fault, false⟩)
  /-- A write fails although its frame was handed over; then the peer never receives it. -/
  | spoil {l : Shared} {i : Nat} {errand : Errand} {frame : Sent} {before : List Parcel}
      (fault : TransportFault) (htask : l.tasks[i]? = some ⟨errand, .flushing, false⟩)
      (houtbound : l.outbound = before ++ [⟨i, frame, errand.isSend⟩]) :
      Step l .within
        ({ l with socket := errand.withdrawn l.socket, outbound := before }.leave i
          ⟨errand, .failed fault, false⟩)
  /-- The request of a send has left. -/
  | written {l : Shared} {i : Nat} {destination : String} {payload : Octets}
      (htask : l.tasks[i]? = some ⟨.send destination payload, .flushing, false⟩) :
      Step l .within
        { l.resume i ⟨.send destination payload, .awaiting, false⟩ with writer := none }
  /-- Whoever does not wait for a reply is done. -/
  | done {l : Shared} {i : Nat} {errand : Errand}
      (htask : l.tasks[i]? = some ⟨errand, .flushing, false⟩) (hsend : errand.isSend = false) :
      Step l .within (l.leave i ⟨errand, .finished, false⟩)
  /-- A send takes a reply and waits for another one. -/
  | skip {l : Shared} {i : Nat} {destination : String} {payload : Octets}
      {item : Except TransportFault Octets} {rest : List (Except TransportFault Octets)} {left : Nat}
      (htask : l.tasks[i]? = some ⟨.send destination payload, .awaiting, false⟩)
      (hqueue : l.socket.queue = item :: rest)
      (hjudge : judge l.socket.outstanding item = (.pending, left)) :
      Step l .within (l.took rest left)
  /-- A send takes a reply and returns it. -/
  | answered {l : Shared} {i : Nat} {destination : String} {payload reply : Octets}
      {item : Except TransportFault Octets} {rest : List (Except TransportFault Octets)} {left : Nat}
      {origin : Origin} {origins : List Origin}
      (htask : l.tasks[i]? = some ⟨.send destination payload, .awaiting, false⟩)
      (hqueue : l.socket.queue = item :: rest) (hqueued : l.queued = origin :: origins)
      (hjudge : judge l.socket.outstanding item = (.reply reply, left)) :
      Step l .within
        ((l.took rest left).leave i ⟨.send destination payload, .answered origin reply, false⟩)
  /-- A send takes the failure with which the queue ends. -/
  | failed {l : Shared} {i : Nat} {destination : String} {payload : Octets}
      {item : Except TransportFault Octets} {rest : List (Except TransportFault Octets)} {left : Nat}
      {fault : TransportFault}
      (htask : l.tasks[i]? = some ⟨.send destination payload, .awaiting, false⟩)
      (hqueue : l.socket.queue = item :: rest)
      (hjudge : judge l.socket.outstanding item = (.failed fault, left)) :
      Step l .within
        ((l.took rest left).leave i ⟨.send destination payload, .failed fault, false⟩)
  /-- A send finds that nothing will ever be queued. -/
  | stranded {l : Shared} {i : Nat} {destination : String} {payload : Octets}
      (htask : l.tasks[i]? = some ⟨.send destination payload, .awaiting, false⟩)
      (hqueue : l.socket.queue = []) (hreading : l.socket.reading = false) :
      Step l .within (l.leave i ⟨.send destination payload, .failed readerGone, false⟩)
  | drop {l : Shared} {i : Nat} {errand : Errand} {stage : Stage}
      (htask : l.tasks[i]? = some ⟨errand, stage, false⟩) (hover : stage.isOver = false) :
      Step l .within (l.leave i ⟨errand, stage, true⟩)
  /-- The peer receives a frame. -/
  | receive {l : Shared} {parcel : Parcel} {rest : List Parcel}
      (houtbound : l.outbound = parcel :: rest) :
      Step l .within
        { l with outbound := rest, backlog := l.backlog ++ parcel.request?.toList }
  /-- The peer answers the oldest request that it has not answered. -/
  | answer {l : Shared} {i : Nat} {rest : List Nat} (payload : Octets)
      (hbacklog : l.backlog = i :: rest) :
      Step l (.spoken (.answer i))
        { l with
          backlog := rest
          answers := l.answers ++ [(i, payload)]
          inbound := l.inbound ++ [(.answer i, .data payload)] }
  /-- The peer sends data that nobody asked for. -/
  | push {l : Shared} (payload : Octets) :
      Step l (.spoken .unasked) { l with inbound := l.inbound ++ [(.unasked, .data payload)] }
  /-- The peer pings, closes, or is gone. -/
  | signal {l : Shared} (frame : Frame) (hframe : ∀ payload, frame ≠ .data payload) :
      Step l (.spoken .control)
        { l with
          socket := { l.socket with gone := l.socket.gone || ends [frame] }
          inbound := l.inbound ++ [(.control, frame)] }
  /-- The reader reads a frame, while this many of those behind it have arrived as well. -/
  | arrive {l : Shared} {origin : Origin} {frame : Frame} {rest : List (Origin × Frame)}
      (together : Nat) (hinbound : l.inbound = (origin, frame) :: rest)
      (hreading : l.socket.reading = true) :
      Step l (.heard origin)
        (l.read (l.socket.receive frame ((rest.take together).map Prod.snd)).1 origin rest)

/-- What a connection can come to, if everything that happens is in keeping with this conduct. -/
inductive Reachable (conduct : Shared → Label → Prop) : Shared → Prop where
  | start : Reachable conduct {}
  | step {l l' : Shared} {label : Label} (h : Reachable conduct l) (hconduct : conduct l label)
      (hstep : Step l label l') : Reachable conduct l'

def Runs (conduct : Shared → Label → Prop) : Shared → Shared → Prop :=
  Relation.ReflTransGen fun l l' => ∃ label, conduct l label ∧ Step l label l'

def Free (_ : Shared) (_ : Label) : Prop := True

/-- The peer sends no data but answers. -/
def Quiet (_ : Shared) (label : Label) : Prop := label ≠ .spoken .unasked

/-- Data that nobody asked for arrive only while no send has its turn. -/
def Spaced (l : Shared) (label : Label) : Prop := label = .heard .unasked → l.turn = none

/-- Data that nobody asked for arrive only while no send has its turn and no answer is to come. -/
def Considerate (l : Shared) (label : Label) : Prop :=
  label = .heard .unasked → l.turn = none ∧ l.underway = []

end JsonRpc.WebSocket
