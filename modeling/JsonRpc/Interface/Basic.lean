import JsonRpc.Description
/-!
# Remote interfaces

An interface lists the methods that a program expects of a service, each under
the name by which the service knows it.  A method that returns nothing is
invoked by a notification, all others by a call.
-/

namespace JsonRpc

inductive Returns where
  | unit
  | value
  deriving DecidableEq, Repr

namespace Returns

/-- The kind of return as it appears in logs. -/
def logText : Returns → String
  | unit => "Unit"
  | value => "Value"

/-- The kind of return as an attribute of a method. -/
def name : Returns → String
  | unit => "unit"
  | value => "value"

end Returns

/-- A method of an interface, as seen from the wire. -/
structure Signature where
  name : String
  arity : Nat
  returns : Returns
  deriving DecidableEq, Repr

/-- The methods that a program expects of a service. -/
structure Interface where
  name : String
  methods : List Signature

namespace Interface

/-- The first method with this name on the wire. -/
def signature? (i : Interface) (name : String) : Option Signature :=
  i.methods.find? fun s => s.name = name

/-- The methods that a service does not describe. -/
def missing (i : Interface) (d : Description) : List Signature :=
  i.methods.filter fun s => !d.contains s.name s.arity

end Interface

end JsonRpc
