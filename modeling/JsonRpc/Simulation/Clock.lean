import JsonRpc.Session.Builder
import JsonRpc.Session.Course
import JsonRpc.Simulation.Peer
/-!
# Sessions under a clock of their own

To try out timeouts and delays nobody has to wait.  In a simulation the clock
stands still while there is anything to do, and moves on only when everything
waits.  Operations that are started together hand over their requests at the
same moment, in their order, and end when their replies, their deadlines or a
shutdown arrive.

At one moment a reply comes before a deadline, and a deadline before a
shutdown.  A delay of a reply is not cut short by a shutdown.  A simulation
gives up on an operation that takes longer than an hour.
-/

namespace JsonRpc.Simulation

/-- How long a simulation waits, in milliseconds. -/
def patience : Nat := 3600000

/-- When a request comes to its end, seen from the moment at which it was sent. -/
inductive Arrival where
  | now (ending : Ending)
  | later (ms : Nat) (reply : Octets)
  | never

/-- What sessions share in a simulation. -/
structure World where
  peer : Peer
  memory : Memory := {}
  /-- All sessions that were opened, or nothing where that failed.  What was given up before its end
  has no place here. -/
  sessions : List (Option Session) := []
  metrics : Session.Metrics := []
  events : List Event := []

/-- A shutdown that is to happen while operations wait. -/
structure Interruption where
  after : Nat
  reason : String

/-- What became of operations that were started together. -/
structure Completion where
  /-- The result of each operation, unless it was given up. -/
  results : List (Option (Except RpcError Outcome))
  ms : Nat
  /-- Whether everything came to its end. -/
  ended : Bool

namespace World

def report (w : World) (s : Session) (r : Report) : World :=
  { w with
    events := w.events ++ r.events
    metrics := match s.meter with
      | some service => w.metrics.recordAll service r.measurements
      | none => w.metrics }

/-- Hands a request over to the transport and the peer behind it. -/
def deliver (w : World) (s : Session) (r : Request) : World × Arrival :=
  let turn := w.peer.turn r.method
  let w := { w with peer := w.peer.advance r.method }
  match turn.action with
  | .fail fault => (w, .now (.failed fault))
  | action =>
    let (memory, result?) := w.memory.send (Peer.respond w.peer.kind action) (s.message r)
    let arrival := match result? with
      | none => .never
      | some (.error fault) => .now (.failed fault)
      | some (.ok reply) =>
        if r.expectsReply ∧ 0 < turn.delay then .later turn.delay reply
        else .now (.delivered reply)
    ({ w with memory := memory }, arrival)

/-- When a request ends that has this arrival, and how. -/
def ending? (timeout : Option Nat) (interruption : Option Interruption) :
    Arrival → Option (Nat × Ending)
  | .now ending => some (0, ending)
  | .later ms reply =>
    match timeout with
    | some limit => if limit < ms then some (limit, .expired) else some (ms, .delivered reply)
    | none => some (ms, .delivered reply)
  | .never =>
    match timeout, interruption with
    | none, none => none
    | some limit, none => some (limit, .expired)
    | none, some i => some (i.after, .failed (.shutdown i.reason))
    | some limit, some i =>
      if limit ≤ i.after then some (limit, .expired)
      else some (i.after, .failed (.shutdown i.reason))

structure Waiting where
  index : Nat
  operation : Operation
  request : Request
  ending : Option (Nat × Ending)

/-- Where operations on one session have come to. -/
structure Progress where
  world : World
  session : Session
  results : List (Nat × Except RpcError Outcome) := []
  waiting : List Waiting := []

def Progress.conclude (p : Progress) (index : Nat) (op : Operation) (r : Request)
    (ending : Ending) : Progress :=
  let (session, report, result) := p.session.conclude op r ending
  { p with
    world := p.world.report session report
    session := session
    results := (index, result) :: p.results }

def Progress.start (interruption : Option Interruption) (p : Progress) :
    Operation × Nat → Progress
  | (op, index) =>
    let started := p.session.start op
    let p := { p with
      world := p.world.report started.session started.report
      session := started.session }
    match started.request with
    | .error e => { p with results := (index, .error e) :: p.results }
    | .ok r =>
      let (world, arrival) := p.world.deliver p.session r
      let p := { p with world := world }
      match arrival with
      | .now ending => p.conclude index op r ending
      | _ =>
        let ending := ending? p.session.config.limit? interruption arrival
        { p with waiting := p.waiting ++ [⟨index, op, r, ending⟩] }

def Waiting.end? (wt : Waiting) : Option (Nat × Ending) :=
  wt.ending.filter fun (ms, _) => ms ≤ patience

def Progress.finish (p : Progress) (wt : Waiting) : Progress :=
  match wt.end? with
  | some (_, ending) => p.conclude wt.index wt.operation wt.request ending
  | none => p

def Waiting.time (wt : Waiting) : Nat :=
  match wt.end? with
  | some (ms, _) => ms
  | none => patience

/-- Performs operations on a session, all started together, while the transport may be shut down. -/
def perform (w : World) (s : Session) (ops : List Operation)
    (interruption : Option Interruption) : World × Session × Completion :=
  let started := ops.zipIdx.foldl (Progress.start interruption) ⟨w, s, [], []⟩
  let waiting := started.waiting.mergeSort fun a b => a.time ≤ b.time
  let p := waiting.foldl Progress.finish started
  let interrupted := interruption.filter fun i => i.after ≤ patience
  let memory := match interrupted with
    | some i => p.world.memory.shutDown i.reason
    | none => p.world.memory
  let times := waiting.map Waiting.time ++ (interruption.map Interruption.after).toList
  let results := ops.zipIdx.map fun (_, index) => p.results.lookup index
  ({ p.world with memory := memory }, p.session,
    ⟨results, min patience (times.foldl max 0),
      results.all Option.isSome && interruption.isSome == interrupted.isSome⟩)

def session? (w : World) (number : Nat) : Option Session := (w.sessions[number]?).join

def putSession (w : World) (number : Nat) (s : Session) : World :=
  { w with sessions := w.sessions.set number (some s) }

def operate (w : World) (number : Nat) (s : Session) (ops : List Operation)
    (interruption : Option Interruption) : World × Completion :=
  let (w, s, completion) := w.perform s ops interruption
  (w.putSession number s, completion)

/-- Adds a session that has been opened, or the trace of one that has not. -/
def add (w : World) (s : Option Session) : World := { w with sessions := w.sessions ++ [s] }

/-- Connects a session as its settings say, in a program that is being observed already.  Where the
description is asked for and does not come, there is no session; and where it is waited for in vain,
not even the trace of one. -/
def connect (w : World) (env : Observability.Environment) (b : Session.Builder) :
    World × Option (Except RpcError Unit) × Nat :=
  match b.prepareBy (.ofEnvironment true env) with
  | .error e => (w.add none, some (.error e), 0)
  | .ok (s, events) =>
    let w := { w with events := w.events ++ events }
    if !s.config.describeOnConnect then (w.add (some s), some (.ok ()), 0)
    else
      let (w, s, completion) := w.perform s [.describe] none
      match completion.results with
      | [some (.ok _)] => (w.add (some s), some (.ok ()), completion.ms)
      | [some (.error e)] => (w.add none, some (.error e), completion.ms)
      | _ => (w, none, completion.ms)

def metricsReport (w : World) : List Json := w.metrics.report

end World

end JsonRpc.Simulation
