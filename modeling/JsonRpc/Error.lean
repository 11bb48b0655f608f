import JsonRpc.Json.Writer
import JsonRpc.Json.Fault
/-!
# Errors of a remote call

A call can fail in many places: the peer may refuse it, the reply may break
the protocol, the transport may lose it, or the caller may have asked for
something that was never sent.  Every failure has one of twelve causes, and
`RpcError.isLocalInput` singles out those that are found before anything is
sent.

What a peer reports is kept verbatim.  The accessors of `ErrorPayload` look
into it, and expect nothing of it.
-/

namespace JsonRpc

/-- The value that a peer gave as its error. -/
structure ErrorPayload where
  value : Json

namespace ErrorPayload

/-- A member of the payload, if it is an object, that is a string. -/
def text? (payload : ErrorPayload) (key : String) : Option String :=
  match payload.value.member? key with
  | some (.str s) => some s
  | _ => none

def name? (payload : ErrorPayload) : Option String := payload.text? "name"

def message? (payload : ErrorPayload) : Option String := payload.text? "message"

def code? (payload : ErrorPayload) : Option Int :=
  match payload.value.member? "code" with
  | some (.int n) => if Json.FitsSigned n then some n else none
  | _ => none

def detail? (payload : ErrorPayload) : Option Json := payload.value.member? "error"

/-- The message of the payload with its code, as far as it has them; otherwise its JSON text. -/
def display (payload : ErrorPayload) : String :=
  match payload.code?, payload.message? with
  | some code, some message =>
    "[" ++ String.ofList (Decimal.integer code) ++ "] " ++ message
  | none, some message => message
  | _, none => payload.value.text

end ErrorPayload

/-- Why an operation of a session failed. -/
inductive RpcError where
  /-- The peer answered with an error. -/
  | remote (payload : ErrorPayload)
  /-- The peer's answer is no reply. -/
  | protocolViolation (detail : String)
  /-- A text does not denote a value of the type. -/
  | coercion (value type reason : String)
  /-- There is no type with this tag. -/
  | unknownType (tag : String)
  /-- The service describes no procedure of this name with so many parameters. -/
  | procedureNotFound (name : String) (arity : Nat)
  /-- What the service gave as its description is none. -/
  | malformedDescription (detail : String)
  /-- The service has not been described yet. -/
  | noServiceDescription
  | timeout
  | io (detail : String)
  /-- A value could not be converted. -/
  | serialization (detail : String)
  | invalidParams (detail : String)
  | internal (detail : String)

namespace RpcError

def kind : RpcError → String
  | remote _ => "remote"
  | protocolViolation _ => "protocol_violation"
  | coercion .. => "coercion"
  | unknownType _ => "unknown_type"
  | procedureNotFound .. => "procedure_not_found"
  | malformedDescription _ => "malformed_description"
  | noServiceDescription => "no_service_description"
  | timeout => "timeout"
  | io _ => "io"
  | serialization _ => "serialization"
  | invalidParams _ => "invalid_params"
  | internal _ => "internal"

def message : RpcError → String
  | remote payload => "Remote procedure error: " ++ payload.display
  | protocolViolation detail => "Protocol violation: " ++ detail
  | coercion value type reason =>
    "Cannot coerce " ++ Text.quoted value ++ " to '" ++ type ++ "': " ++ reason
  | unknownType tag => "Bad type: " ++ tag
  | procedureNotFound name arity => "Procedure not found: " ++ name ++ "/" ++ toString arity
  | malformedDescription detail => "Malformed service description: " ++ detail
  | noServiceDescription => "No service description available"
  | timeout => "Request timeout"
  | io detail => "IO error: " ++ detail
  | serialization detail => "Serialization error: " ++ detail
  | invalidParams detail => "Invalid params: " ++ detail
  | internal detail => "Internal error: " ++ detail

def isRemote : RpcError → Bool
  | remote _ => true
  | _ => false

/-- Whether the caller's own input is at fault. -/
def isLocalInput : RpcError → Bool
  | coercion .. => true
  | unknownType _ => true
  | procedureNotFound .. => true
  | noServiceDescription => true
  | invalidParams _ => true
  | _ => false

end RpcError

end JsonRpc
