import JsonRpc.Conversion
import JsonRpc.Interface.Expansion
import JsonRpc.Session.Course
/-!
# Invocations through a proxy

A stub is called with one value for each of its arguments.  It converts the
values in their order, and the first one that has no JSON form ends the call.
Then it invokes its method under the signature that stands at its position.
Where the method promises a result, what comes back is read as that; a stub
without a result gives nothing back, whatever comes.
-/

namespace JsonRpc

def Outcome.value? : Outcome → Option Json
  | .value v => some v
  | _ => none

namespace Stub

def parameters (s : Stub) (values : List Datum) : Except RpcError (List Json) :=
  (s.arguments.zip values).mapM fun (_, value) => value.toParam

/-- What a stub gives back when its operation came to this outcome.  `reading` reads the type of
the result. -/
def returned {α : Type} (s : Stub) (reading : Reading α) (outcome : Outcome) :
    Except RpcError (Option α) :=
  if s.result.isSome then (Reading.ofResult reading outcome.value?).map some else .ok none

end Stub

namespace Proxy

def signature? (p : Proxy) (s : Stub) : Option Signature := p.interface.methods[s.index]?

/-- The operation of a stub whose arguments have these values.  There is none where the position
of the stub is beyond the signatures. -/
def operation? (p : Proxy) (s : Stub) (values : List Datum) : Option (Except RpcError Operation) :=
  (p.signature? s).map fun signature => do
    return .invoke signature (← s.parameters values)

end Proxy

/-- The call of a stub, seen from its end. -/
structure Invoked (α : Type) where
  /-- What was handed to the transport. -/
  handed : Option Message
  /-- What the transport made of it. -/
  ending : Option Ending
  /-- What the stub gave back, unless the call was given up. -/
  result : Option (Except RpcError (Option α))

namespace Proxy

/-- Calls a stub on a session with these values for its arguments, up to the end of the call or to
where it is given up. -/
def call? {α : Type} (p : Proxy) (stub : Stub) (reading : Reading α) (values : List Datum)
    (s : Session) (carry : Carrier) : Option (Invoked α) :=
  (p.operation? stub values).map fun
    | .error e => ⟨none, none, some (.error e)⟩
    | .ok op =>
      let course := s.perform carry op
      ⟨course.handed, course.ending, course.result.map (·.bind (stub.returned reading))⟩

end Proxy

end JsonRpc
