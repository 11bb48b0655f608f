import JsonRpc.Error
import JsonRpc.Json.Shape
/-!
# Values of a program as parameters and results

A program that calls a remote method has values of its own types.  On the way
out they become JSON: a `Datum` is any such value, and most of them have an
obvious form.  What has none is refused: integers beyond a word, and maps
whose keys are not words.  Floats that are no numbers become null.

On the way in a result is read as the type that the caller expects.  Nothing
is bent to fit: an integer is a float when a float is expected, but a float is
never an integer.
-/

namespace JsonRpc

/-- A value of a program. -/
inductive Datum where
  | unit
  | bool (b : Bool)
  | int (n : Int)
  | float (x : Float)
  | single (x : Float32)
  | text (s : String)
  | bytes (octets : Octets)
  | list (items : List Datum)
  | map (entries : List (Datum × Datum))
  | json (v : Json)

namespace Datum

/-- Why a value has no JSON form. -/
inductive Refusal where
  | numberOutOfRange
  | keyNotText
  deriving DecidableEq, Repr

def Refusal.message : Refusal → String
  | numberOutOfRange => Json.SyntaxFault.numberOutOfRange.message
  | keyNotText => Json.SyntaxFault.keyNotString.message

/-- A float as a value; infinities and what is no number are null. -/
def ofFloat (x : Float) : Json := if x.isFinite then .float x else .null

def key : Datum → Except Refusal String
  | text s => .ok s
  | int n => .ok (String.ofList (Decimal.integer n))
  | bool b => .ok (if b then "true" else "false")
  | json (.str s) => .ok s
  | _ => .error .keyNotText

mutual

def toJson : Datum → Except Refusal Json
  | unit => .ok .null
  | bool b => .ok (.bool b)
  | int n => if Json.Holds n then .ok (.int n) else .error .numberOutOfRange
  | float x => .ok (ofFloat x)
  | single x => .ok (ofFloat x.toFloat)
  | text s => .ok (.str s)
  | bytes octets => .ok (.arr (octets.map fun b => .int b.toNat))
  | list items => do return .arr (← itemsToJson items)
  | map entries => do return .object (← entriesToJson entries)
  | json v => .ok v

def itemsToJson : List Datum → Except Refusal (List Json)
  | [] => .ok []
  | x :: xs => do return (← toJson x) :: (← itemsToJson xs)

def entriesToJson : List (Datum × Datum) → Except Refusal (List (String × Json))
  | [] => .ok []
  | (k, x) :: xs => do
    let name ← key k
    return (name, ← toJson x) :: (← entriesToJson xs)

end

def toParam (x : Datum) : Except RpcError Json :=
  match toJson x with
  | .ok v => .ok v
  | .error refusal => .error (.serialization refusal.message)

end Datum

/-- How a value of a type is read off a result. -/
abbrev Reading (α : Type) := Json → Except Json.Mismatch α

namespace Reading

open Json (Mismatch Shape)

def signed : Reading Int := (Shape.integer "i64" fun n => Json.FitsSigned n).ofTree

def unsigned : Reading Int := (Shape.integer "u64" fun n => 0 ≤ n ∧ n < 0x10000000000000000).ofTree

def octet : Reading Int := (Shape.integer "u8" fun n => 0 ≤ n ∧ n < 0x100).ofTree

/-- A float; an integer is one as well. -/
def double : Reading Float
  | .float x => .ok x
  | .int n => .ok (Float.ofInt n)
  | v => .error (.of v "f64")

def truth : Reading Bool
  | .bool b => .ok b
  | v => .error (.of v "a boolean")

def text : Reading String := Shape.string.ofTree

def character : Reading Char
  | .str s =>
    match s.toList with
    | [c] => .ok c
    | _ => .error (.value (.str s) "a character")
  | v => .error (.of v "a character")

def unit : Reading Unit
  | .null => .ok ()
  | v => .error (.of v "unit")

def any : Reading Json := .ok

def optional {α : Type} (item : Reading α) : Reading (Option α)
  | .null => .ok none
  | v => (item v).map some

def list {α : Type} (item : Reading α) : Reading (List α)
  | .arr xs => xs.mapM item
  | v => .error (.of v "a sequence")

def pair {α β : Type} (first : Reading α) (second : Reading β) : Reading (α × β)
  | .arr [] => .error (.length 0 "a tuple of size 2")
  | .arr [v] => do
    let _ ← first v
    .error (.length 1 "a tuple of size 2")
  | .arr (v :: w :: more) => do
    let x ← first v
    let y ← second w
    if more.isEmpty then .ok (x, y)
    else .error (.length (more.length + 2) "fewer elements in array")
  | v => .error (.of v "a tuple of size 2")

def map {α : Type} (item : Reading α) : Reading (List (String × α))
  | .obj members => members.mapM fun (k, v) => do return (k, ← item v)
  | v => .error (.of v "a map")

/-- One of several names, given as a string or as the only key of an object around null. -/
def choice (names : List String) : Reading String :=
  let named (name : String) : Except Mismatch String :=
    if names.contains name then .ok name else .error (.unknownVariant name names)
  fun
  | .str s => named s
  | .obj [(name, v)] => do
    let name ← named name
    unit v
    return name
  | .obj _ => .error (.value .map "map with a single key")
  | v => .error (.of v "string or map")

/-- Reads the result of an invocation; a notification has the result null. -/
def ofResult {α : Type} (reading : Reading α) (result : Option Json) : Except RpcError α :=
  match reading (result.getD .null) with
  | .ok x => .ok x
  | .error fault => .error (.serialization fault.message)

end Reading

end JsonRpc
