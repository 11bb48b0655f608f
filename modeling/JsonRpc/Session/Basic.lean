import JsonRpc.Envelope
import JsonRpc.Reply
import JsonRpc.Description
import JsonRpc.Event
import JsonRpc.Interface.Basic
import JsonRpc.Session.Config
import JsonRpc.Session.Metrics
import JsonRpc.Transport.Fault
/-!
# Sessions

A session talks to one destination over a transport.  Its operations all have
the same course: local checks decide whether there is anything to send and
what; the request goes to the transport; and the ending that the transport
gives to it decides the outcome.  The transport itself is no part of this: an
operation starts with `Session.start`, and when the ending is known it is
concluded with `Session.conclude`.  An operation that is given up in between
is simply never concluded.

Only `describe` touches the state and the description of a session.  It
forgets the description before it asks for a new one.
-/

namespace JsonRpc

structure Session where
  destination : String
  config : Session.Config
  state : Session.State
  description : Option Description
  /-- The name under which the session reports its metrics, if it does. -/
  meter : Option String

/-- What can be asked of a session. -/
inductive Operation where
  /-- Asks the service for its description. -/
  | describe
  | call (method : String) (params : List Json)
  | notify (method : String) (params : List Json)
  /-- Calls a described procedure, the first word, with the texts of its arguments. -/
  | positional (words : List String)
  /-- Invokes a method of an interface. -/
  | invoke (signature : Signature) (params : List Json)

structure Request where
  method : String
  params : List Json
  expectsReply : Bool

/-- What becomes of a request. -/
inductive Ending where
  /-- The transport took the request; these octets answer it, if it expects a reply. -/
  | delivered (reply : Octets)
  | failed (fault : TransportFault)
  /-- The time of the session ran out first. -/
  | expired

inductive Outcome where
  | described (d : Description)
  | value (v : Json)
  | done

/-- What a session reports while an operation takes its course. -/
structure Report where
  events : List Event := []
  measurements : List Session.Measurement := []

def Report.append (r s : Report) : Report :=
  ⟨r.events ++ s.events, r.measurements ++ s.measurements⟩

instance : Append Report := ⟨Report.append⟩

/-- The procedure by which a service describes itself. -/
def describeProcedure : String := "system.describe"

namespace Request

def envelope (r : Request) (tagging : Bool) : Envelope :=
  (if r.expectsReply then Envelope.call r.method r.params
    else Envelope.notification r.method r.params).tagged tagging

end Request

namespace Session

def new (destination : String) (config : Config) (meter : Option String) : Session :=
  ⟨destination, config, .unconnected, none, meter⟩

/-- The request of a call by words, or what speaks against it.  Without words no procedure is
asked for; otherwise the service has to be described, the procedure has to be found, and every
word has to fit its parameter. -/
def positionalRequest (s : Session) : List String → Except RpcError Request
  | [] => .error (.procedureNotFound "" 0)
  | method :: words =>
    match s.description with
    | none => .error .noServiceDescription
    | some d => do
      let procedure ← d.get method words.length
      let params ← procedure.coerceArgs words
      return ⟨method, params, true⟩

/-- The request of an invocation, if the number of parameters is that of the signature. -/
def invocationRequest (signature : Signature) (params : List Json) : Except RpcError Request :=
  if params.length ≠ signature.arity then
    .error (.invalidParams
      (signature.name ++ " expects " ++ toString signature.arity ++ " argument(s), got " ++
        toString params.length))
  else
    .ok ⟨signature.name, params, signature.returns = .value⟩

def request (s : Session) : Operation → Except RpcError Request
  | .describe => .ok ⟨describeProcedure, [], true⟩
  | .call method params => .ok ⟨method, params, true⟩
  | .notify method params => .ok ⟨method, params, false⟩
  | .positional words => s.positionalRequest words
  | .invoke signature params => invocationRequest signature params

def requestText (s : Session) (r : Request) : String :=
  (r.envelope s.config.versionTagging).text

def outerSpan (s : Session) : Operation → List Event
  | .describe => [.describeSpan s.destination]
  | .positional _ => [.positionalSpan s.destination]
  | _ => []

def sendingEvents (s : Session) (r : Request) : List Event :=
  if r.expectsReply then [.callSpan r.method s.destination, .sending (s.requestText r)]
  else [.notifySpan r.method s.destination, .publishing (s.requestText r)]

def describing (s : Session) : Session :=
  { s with state := .describing, description := none }

/-- An operation that has started: the session from then on, what was reported, and the request to
be sent, or the error that ends the operation. -/
structure Started where
  session : Session
  report : Report
  request : Except RpcError Request

def start (s : Session) (op : Operation) : Started :=
  let (session, measurements) := match op with
    | .describe => (s.describing, [Measurement.state .describing])
    | _ => (s, [])
  let request := s.request op
  let sending := match request with
    | .ok r => s.sendingEvents r
    | .error _ => []
  ⟨session, ⟨s.outerSpan op ++ sending, measurements⟩, request⟩

def callResult : Ending → Except RpcError Json
  | .delivered reply => Reply.resultOfOctets reply
  | .failed fault => .error fault.toRpcError
  | .expired => .error .timeout

/-- The result of a notification with this ending.  Nothing waits for a notification, so its time
runs out only where a transport says so. -/
def publishResult : Ending → Except RpcError Unit
  | .delivered _ => .ok ()
  | .failed fault => .error fault.toRpcError
  | .expired => .error .timeout

def callReport (method : String) (ending : Ending) (result : Except RpcError Json) : Report :=
  let arrival := match ending with
    | .delivered reply => [Event.received reply.length]
    | _ => []
  match result with
  | .ok _ => ⟨arrival ++ [.completed], [.call method true]⟩
  | .error e => ⟨arrival ++ [.failed e], [.call method false, .error e.kind]⟩

def publishReport (method : String) : Except RpcError Unit → Report
  | .ok _ => ⟨[], [.notification method]⟩
  | .error e => ⟨[], [.error e.kind]⟩

def concludeDescribe (s : Session) (result : Except RpcError Json) :
    Session × Report × Except RpcError Outcome :=
  match result.bind Description.ofJson with
  | .ok d =>
    ({ s with state := .ready, description := some d },
      ⟨[.described d.size], [.handshake true, .state .ready]⟩, .ok (.described d))
  | .error e =>
    ({ s with state := .failed },
      ⟨[.handshakeFailed e], [.handshake false, .state .failed]⟩, .error e)

def conclude (s : Session) (op : Operation) (r : Request) (ending : Ending) :
    Session × Report × Except RpcError Outcome :=
  if r.expectsReply then
    let result := callResult ending
    let report := callReport r.method ending result
    match op with
    | .describe =>
      let (s, handshake, outcome) := s.concludeDescribe result
      (s, report ++ handshake, outcome)
    | _ => (s, report, result.map .value)
  else
    let result := publishResult ending
    (s, publishReport r.method result, result.map fun _ => .done)

def logText (s : Session) : String :=
  "RpcSession \x7b destination: " ++ Text.quoted s.destination ++
    ", config: " ++ s.config.logText ++ ", state: " ++ s.state.logText ++
    ", described: " ++ Config.flagText s.description.isSome ++ " \x7d"

end Session

end JsonRpc
