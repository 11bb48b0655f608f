import JsonRpc.Coercion
import JsonRpc.Json.Shape
/-!
# Service descriptions

A service describes itself by its procedures, each with a name and a list of
parameters.  Those two members have to be there; all others are optional, and
an optional member that is not as it should be counts as absent.  So a service
that is careless about its summaries can still be used.

Procedures are found by name and number of parameters.  Of several procedures
with the same name and number the one described last is found.
-/

namespace JsonRpc

/-- A parameter of a procedure, with the spelling of its type tag. -/
structure Parameter where
  name : String
  type : String
  deriving DecidableEq, Repr

structure Procedure where
  name : String
  params : List Parameter
  returns : Option Parameter
  summary : Option String
  help : Option String
  idempotent : Bool
  deriving DecidableEq, Repr

/-- A text member: a string, or a number or truth value by its JSON text. -/
def lenientText : Json → Option String
  | .str s => some s
  | .int n => some (Json.int n).text
  | .float x => some (Json.float x).text
  | .bool b => some (Json.bool b).text
  | _ => none

/-- A type tag; what is no string stands for any type. -/
def lenientTag : Json → String
  | .str s => s
  | _ => TypeTag.any.name

/-- A truth value, given as such or as a word. -/
def lenientFlag : Json → Bool
  | .bool b => b
  | .str s => sameWord s "true"
  | _ => false

namespace Parameter

open Json in
def record : Record Parameter where
  name := "ParameterDescription"
  blank := ⟨"", TypeTag.any.name⟩
  fields := [
    .of "name" false (.view lenientText) fun name p => { p with name := name.getD "" },
    .of "type" false (.view lenientTag) fun type p => { p with type }]

def shape : Json.Shape Parameter := record.shape

def tag (p : Parameter) : Except RpcError TypeTag := TypeTag.ofName p.type

def coerce (p : Parameter) (s : String) : Except RpcError Json := JsonRpc.coerce s p.type

def toJson (p : Parameter) : Json :=
  .object [("name", .str p.name), ("type", .str p.type)]

/-- What a procedure returns: a parameter object, or a type tag alone. -/
def ofReturn : Json → Option Parameter
  | .obj members => (record.ofTree (.obj members)).toOption
  | .str tag => some ⟨"", tag⟩
  | _ => none

end Parameter

namespace Procedure

/-- A procedure of which nothing but name and parameters is known. -/
def ofSignature (name : String) (params : List Parameter) : Procedure :=
  ⟨name, params, none, none, none, false⟩

def returning (p : Procedure) (tag : String) : Procedure := { p with returns := some ⟨"", tag⟩ }

def arity (p : Procedure) : Nat := p.params.length

def returnType (p : Procedure) : String :=
  match p.returns with
  | some r => r.type
  | none => TypeTag.any.name

open Json in
def record : Record Procedure where
  name := "ProcedureDescription"
  blank := .ofSignature "" []
  fields := [
    .of "name" true .string fun name p => { p with name },
    .of "params" true (.list Parameter.shape) fun params p => { p with params },
    .of "return" false (.view Parameter.ofReturn) fun returns p => { p with returns },
    .of "summary" false (.view lenientText) fun summary p => { p with summary },
    .of "help" false (.view lenientText) fun help p => { p with help },
    .of "idempotent" false (.view lenientFlag) fun idempotent p => { p with idempotent }]

def shape : Json.Shape Procedure := record.shape

def toJson (p : Procedure) : Json :=
  .object <|
    [("name", .str p.name), ("params", .arr (p.params.map Parameter.toJson))] ++
    (p.returns.map fun r => ("return", r.toJson)).toList ++
    (p.summary.map fun s => ("summary", .str s)).toList ++
    (p.help.map fun s => ("help", .str s)).toList ++
    [("idempotent", .bool p.idempotent)]

/-- The arguments that texts stand for, or the error of the first text that does not fit. -/
def coerceArgs (p : Procedure) (args : List String) : Except RpcError (List Json) :=
  if args.length ≠ p.arity then
    .error (.invalidParams
      (p.name ++ " expects " ++ toString p.arity ++ " arguments, got " ++ toString args.length))
  else (p.params.zip args).mapM fun (param, arg) => param.coerce arg

end Procedure

/-- What a service says of itself. -/
structure Description where
  sdversion : Option String
  name : Option String
  id : Option String
  version : Option String
  summary : Option String
  help : Option String
  address : Option String
  procs : List Procedure
  deriving DecidableEq, Repr

/-- Where the procedures of a list stand, by name and number of parameters. -/
abbrev Index := List ((String × Nat) × Nat)

/-- The index of a list of procedures; entries for later procedures come first. -/
def Index.ofProcedures (procs : List Procedure) : Index :=
  procs.zipIdx.foldl (fun index (p, position) => ((p.name, p.arity), position) :: index) []

namespace Description

def ofProcedures (procs : List Procedure) : Description :=
  ⟨none, none, none, none, none, none, none, procs⟩

open Json in
def record : Record Description where
  name := "RawServiceDescription"
  blank := .ofProcedures []
  fields := [
    .of "sdversion" false (.view lenientText) fun sdversion d => { d with sdversion },
    .of "name" false (.view lenientText) fun name d => { d with name },
    .of "id" false (.view lenientText) fun id d => { d with id },
    .of "version" false (.view lenientText) fun version d => { d with version },
    .of "summary" false (.view lenientText) fun summary d => { d with summary },
    .of "help" false (.view lenientText) fun help d => { d with help },
    .of "address" false (.view lenientText) fun address d => { d with address },
    .of "procs" true (.list Procedure.shape) fun procs d => { d with procs }]

def ofJson (v : Json) : Except RpcError Description :=
  if !v.isObject then
    .error (.malformedDescription ("expected an object, got " ++ v.kind))
  else
    match record.ofTree v with
    | .ok d => .ok d
    | .error fault => .error (.malformedDescription fault.message)

def size (d : Description) : Nat := d.procs.length

def isEmpty (d : Description) : Bool := d.procs.isEmpty

def index (d : Description) : Index := .ofProcedures d.procs

/-- The procedure of this name and number of parameters that was described last. -/
def find? (d : Description) (name : String) (arity : Nat) : Option Procedure := do
  let position ← d.index.lookup (name, arity)
  d.procs[position]?

def get (d : Description) (name : String) (arity : Nat) : Except RpcError Procedure :=
  match d.find? name arity with
  | some p => .ok p
  | none => .error (.procedureNotFound name arity)

def contains (d : Description) (name : String) (arity : Nat) : Bool :=
  (d.index.lookup (name, arity)).isSome

end Description

end JsonRpc
