import JsonRpc.TypeTag
import JsonRpc.Decimal.Reading
import JsonRpc.Json.Reader
/-!
# From texts to values

A caller who has only texts, such as the words of a command line, leaves it to
the type tag of a parameter what value a text stands for.  Strings stand for
themselves, structured values are written in JSON, and a text that does not
fit its tag is an error that repeats the text.
-/

namespace JsonRpc

/-- Equality of texts up to the case of ASCII letters. -/
def sameWord (s t : String) : Bool :=
  s.toList.map Char.toLower == t.toList.map Char.toLower

/-- The number that a text denotes, an integer where it can be one. -/
def coerceNumber (s : String) : Except RpcError Json :=
  match Decimal.signed? s.toList with
  | some n => .ok (.int n)
  | none =>
    match Decimal.float s.toList with
    | .error fault => .error (.coercion s TypeTag.num.name fault.message)
    | .ok x =>
      if x.isFinite then .ok (.float x)
      else .error (.coercion s TypeTag.num.name "not a finite number")

namespace TypeTag

def coerce (tag : TypeTag) (s : String) : Except RpcError Json :=
  match tag with
  | bit => .ok (.bool (sameWord s "true"))
  | num => coerceNumber s
  | str => .ok (.str s)
  | arr | obj | any =>
    match Json.parseText s with
    | .ok v => .ok v
    | .error fault => .error (.coercion s tag.name fault.message)
  | nil => .ok .null

end TypeTag

/-- The value that a text stands for, given the spelling of a tag. -/
def coerce (s type : String) : Except RpcError Json := do
  let tag ← TypeTag.ofName type
  tag.coerce s

end JsonRpc
