import JsonRpc.Error
import JsonRpc.Json.Reader
/-!
# Replies

A reply is an object with a member `error` or a member `result`.  If it has
both, the error counts; other members do not.  What is anything else is no
reply, and the peer that sent it has broken the protocol.
-/

namespace JsonRpc

inductive Reply where
  | success (result : Json)
  | failure (payload : ErrorPayload)

namespace Reply

def isSuccess : Reply → Bool
  | success _ => true
  | failure _ => false

def isFailure : Reply → Bool
  | success _ => false
  | failure _ => true

def ofJson (v : Json) : Except RpcError Reply :=
  if !v.isObject then .error (.protocolViolation ("reply is not an object: " ++ v.text))
  else
    match v.member? "error", v.member? "result" with
    | some e, _ => .ok (failure ⟨e⟩)
    | none, some r => .ok (success r)
    | none, none => .error (.protocolViolation "reply has neither 'result' nor 'error'")

def ofOctets (octets : Octets) : Except RpcError Reply :=
  match Json.parse octets with
  | .ok v => ofJson v
  | .error fault => .error (.protocolViolation ("reply is not valid JSON: " ++ fault.message))

def result : Reply → Except RpcError Json
  | success r => .ok r
  | failure payload => .error (.remote payload)

def resultOfOctets (octets : Octets) : Except RpcError Json := do
  (← ofOctets octets).result

end Reply

end JsonRpc
