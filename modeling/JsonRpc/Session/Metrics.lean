import JsonRpc.Session.State
import JsonRpc.Json.Writer
import JsonRpc.Observability.Basic
/-!
# Metrics of sessions

An observed session measures itself with six instruments.  Two of them, the
number of calls and the time they took, are always used together.  Readings
with the same attributes add up, except for the state of the session, of which
only the latest counts.
-/

namespace JsonRpc.Session

inductive Instrument where
  | state
  | calls
  | callDuration
  | notifications
  | errors
  | handshakes
  deriving DecidableEq, Repr

namespace Instrument

def name : Instrument → String
  | state => "jrmt.session.state"
  | calls => "jrmt.session.calls.total"
  | callDuration => "jrmt.session.call.duration"
  | notifications => "jrmt.session.notifications.total"
  | errors => "jrmt.session.errors.total"
  | handshakes => "jrmt.session.handshakes.total"

def description : Instrument → String
  | state => "Session state (0=unconnected, 1=describing, 2=ready, 3=failed)"
  | calls => "Total number of calls made"
  | callDuration => "Call duration in seconds"
  | notifications => "Total number of notifications published"
  | errors => "Total number of failed calls and notifications"
  | handshakes => "Total number of system.describe handshakes"

/-- How readings are put together: of times only the number is reported. -/
def aggregation : Instrument → String
  | state => "gauge"
  | callDuration => "count"
  | _ => "sum"

end Instrument

inductive Measurement where
  | state (s : State)
  | call (method : String) (succeeded : Bool)
  | notification (method : String)
  | error (kind : String)
  | handshake (succeeded : Bool)
  deriving DecidableEq, Repr

/-- The value of a series of readings of one service, with one instrument and one set of
attributes. -/
structure Point where
  service : String
  instrument : Instrument
  attributes : List (String × String)
  value : Nat
  deriving DecidableEq, Repr

def statusText (succeeded : Bool) : String := if succeeded then "success" else "error"

def Measurement.readings (service : String) : Measurement → List Point
  | .state s => [⟨service, .state, [], s.metric⟩]
  | .call method succeeded =>
    let attributes := [("method", method), ("status", statusText succeeded)]
    [⟨service, .calls, attributes, 1⟩, ⟨service, .callDuration, attributes, 1⟩]
  | .notification method => [⟨service, .notifications, [("method", method)], 1⟩]
  | .error kind => [⟨service, .errors, [("kind", kind)], 1⟩]
  | .handshake succeeded => [⟨service, .handshakes, [("status", statusText succeeded)], 1⟩]

def Point.sameSeries (p q : Point) : Bool :=
  p.service == q.service && p.instrument == q.instrument && p.attributes == q.attributes

def Point.add (p reading : Point) : Point :=
  if p.instrument = .state then reading else { p with value := p.value + reading.value }

abbrev Metrics := List Point

namespace Metrics

/-- Adds a reading to its series, which it starts if need be. -/
def record : Metrics → Point → Metrics
  | [], reading => [reading]
  | p :: rest, reading =>
    if p.sameSeries reading then p.add reading :: rest else p :: record rest reading

def recordAll (m : Metrics) (service : String) (measurements : List Measurement) : Metrics :=
  (measurements.flatMap (Measurement.readings service)).foldl record m

def pointJson (p : Point) : Json :=
  .arr [.str p.service, .str Observability.version, .str p.instrument.name,
    .str p.instrument.description, .str p.instrument.aggregation,
    .object (p.attributes.map fun (k, v) => (k, .str v)), .int p.value]

/-- The report on all series, in the order of their texts. -/
def report (m : Metrics) : List Json :=
  m.map pointJson |>.mergeSort fun a b => a.text ≤ b.text

end Metrics

end JsonRpc.Session
