import JsonRpc.Error
/-!
# Type tags

A service describes the types of its parameters by seven tags.
-/

namespace JsonRpc

/-- The type of a parameter, as services describe it. -/
inductive TypeTag where
  | bit
  | num
  | str
  | arr
  | obj
  | any
  | nil
  deriving DecidableEq, Repr

namespace TypeTag

def all : List TypeTag := [bit, num, str, arr, obj, any, nil]

def name : TypeTag → String
  | bit => "bit"
  | num => "num"
  | str => "str"
  | arr => "arr"
  | obj => "obj"
  | any => "any"
  | nil => "nil"

def constant : TypeTag → String
  | bit => "Bit"
  | num => "Num"
  | str => "Str"
  | arr => "Arr"
  | obj => "Obj"
  | any => "Any"
  | nil => "Nil"

def ofName (s : String) : Except RpcError TypeTag :=
  match all.find? fun tag => tag.name = s with
  | some tag => .ok tag
  | none => .error (.unknownType s)

end TypeTag

end JsonRpc
