import JsonRpc.Error
import JsonRpc.Json.Shape
/-!
# Request envelopes

A request is an envelope around the name of a method and its parameters.  An
envelope with an id, be it null, is a call and asks for a reply; one without
an id is a notification.  An envelope may also say which version of the
protocol it follows.

The text of an envelope lists its members in a fixed order and leaves out the
absent ones.  A null id cannot be told from an absent one when it is read, so
reading finds no null ids.
-/

namespace JsonRpc

/-- What tells one request from another. -/
inductive Id where
  | string (s : String)
  | number (n : Int)
  | null
  deriving DecidableEq, Repr

namespace Id

def toJson : Id → Json
  | string s => .str s
  | number n => .int n
  | null => .null

/-- The id as a word: a string stands between quotes as it is. -/
def display : Id → String
  | string s => "\"" ++ s ++ "\""
  | number n => String.ofList (Decimal.integer n)
  | null => "null"

def variant : Id → String
  | string _ => "string"
  | number _ => "number"
  | null => "null"

/-- An id is a string, an integer of a signed word, or null. -/
def ofJson : Json → Except Json.Mismatch Id
  | .str s => .ok (string s)
  | .int n => if Json.FitsSigned n then .ok (number n) else .error (.noVariant "Id")
  | .null => .ok null
  | _ => .error (.noVariant "Id")

def shape : Json.Shape Id := .judged ofJson

end Id

structure Envelope where
  method : String
  params : List Json
  id : Option Id
  version : Option String

namespace Envelope

def protocolVersion : String := "1.1"

/-- A request that asks for a reply. -/
def call (method : String) (params : List Json) : Envelope :=
  ⟨method, params, some .null, none⟩

/-- A request that asks for none. -/
def notification (method : String) (params : List Json) : Envelope :=
  ⟨method, params, none, none⟩

def withId (e : Envelope) (id : Id) : Envelope := { e with id := some id }

def versioned (e : Envelope) : Envelope := { e with version := some protocolVersion }

def tagged (tagging : Bool) (e : Envelope) : Envelope := if tagging then e.versioned else e

def isNotification (e : Envelope) : Bool := e.id.isNone

/-- The members of the envelope, in the order in which they are written. -/
def members (e : Envelope) : List (String × Json) :=
  [("method", .str e.method), ("params", .arr e.params)] ++
    (e.id.map fun id => ("id", id.toJson)).toList ++
    (e.version.map fun v => ("jsonrpc", .str v)).toList

def toJson (e : Envelope) : Json := .object e.members

def text (e : Envelope) : String := (Json.obj e.members).text

def octets (e : Envelope) : Octets := .ofString e.text

/-- Equality of envelopes, with values compared as numbers where they are floats. -/
def same (e f : Envelope) : Bool :=
  e.method == f.method && Json.sameItems e.params f.params && e.id == f.id &&
    e.version == f.version

open Json in
def record : Record Envelope where
  name := "RequestEnvelope"
  blank := ⟨"", [], none, none⟩
  fields := [
    .of "method" true .string fun method e => { e with method },
    .of "params" false (.list .any) fun params e => { e with params },
    .of "id" false (.optional Id.shape) fun id e => { e with id },
    .of "jsonrpc" false (.optional .string) fun version e => { e with version }]

def shape : Json.Shape Envelope := record.shape

def roundTrips (e : Envelope) : Bool :=
  match shape.parse e.octets with
  | .ok f => f.same e
  | .error _ => false

end Envelope

end JsonRpc
