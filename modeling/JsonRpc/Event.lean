import JsonRpc.Error
import JsonRpc.Observability.Basic
/-!
# What is logged

Sessions and transports log what they do.  An operation opens a span, and what
happens on its way is an event in it.  Each kind of entry has its own data
here; names, levels and fields of the entries are derived from them.
-/

namespace JsonRpc

inductive Event where
  | describeSpan (destination : String)
  | callSpan (method destination : String)
  | notifySpan (method destination : String)
  | positionalSpan (destination : String)
  | sending (request : String)
  | received (bytes : Nat)
  | completed
  | failed (error : RpcError)
  | publishing (notification : String)
  | described (procedures : Nat)
  | handshakeFailed (error : RpcError)
  | opening (destination : String) (describe : Bool)
  | observing (config : Observability.Config)
  | observingEnded
  | discarding (destination : String)
  | awaiting (destination : String)
  | skipping (destination : String)
  | writing (destination : String)
  | readerFinished

namespace Event

def isSpan : Event → Bool
  | describeSpan _ | callSpan .. | notifySpan .. | positionalSpan _ => true
  | _ => false

/-- The name of a span or the message of an event. -/
def name : Event → String
  | describeSpan _ => "describe"
  | callSpan .. => "call"
  | notifySpan .. => "notify"
  | positionalSpan _ => "call_by_positional_strings"
  | sending _ => "Sending request"
  | received _ => "Reply received"
  | completed => "Call completed"
  | failed _ => "Call failed"
  | publishing _ => "Publishing notification"
  | described _ => "Service description cached"
  | handshakeFailed _ => "Handshake failed"
  | opening .. => "Opening session"
  | observing _ => "observability initialized"
  | observingEnded => "observability shut down"
  | discarding _ => "Discarding reply of an abandoned call"
  | awaiting _ => "Request written, waiting for reply"
  | skipping _ => "Skipping late reply of an abandoned call"
  | writing _ => "Publishing"
  | readerFinished => "WebSocket reader finished"

/-- Whether the entry is meant for operators, and not only for those who look for a fault. -/
def isInfo : Event → Bool
  | opening .. | observing _ | observingEnded => true
  | e => e.isSpan

def level (e : Event) : String := if e.isInfo then "INFO" else "DEBUG"

def fields : Event → List (String × Json)
  | describeSpan destination => [("destination", .str destination)]
  | callSpan method destination =>
    [("method", .str method), ("destination", .str destination)]
  | notifySpan method destination =>
    [("method", .str method), ("destination", .str destination)]
  | positionalSpan destination => [("destination", .str destination)]
  | sending request => [("request", .str request)]
  | received bytes => [("bytes", .int bytes)]
  | completed => []
  | failed error => [("error", .str error.message)]
  | publishing notification => [("notification", .str notification)]
  | described procedures => [("procedures", .int procedures)]
  | handshakeFailed error => [("error", .str error.message)]
  | opening destination describe =>
    [("destination", .str destination), ("describe", .bool describe)]
  | observing config =>
    [("service_name", .str config.serviceName), ("otlp_endpoint", .str config.endpoint),
      ("traces", .bool config.traces), ("metrics", .bool config.metrics),
      ("logs", .bool config.logs)]
  | observingEnded => []
  | discarding destination | awaiting destination | skipping destination
  | writing destination => [("destination", .str destination)]
  | readerFinished => []

end Event

end JsonRpc
