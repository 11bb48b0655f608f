import JsonRpc.Interface.Basic
import JsonRpc.Interface.Declaration
/-!
# From a declaration to a proxy

A declared interface becomes a proxy: a type with one stub for each method,
which converts its arguments, invokes the method on a session, and converts
the result.  The signatures that the stubs use are listed in the order of the
methods, so a stub refers to its signature by position.

Only methods without generic parameters can be invoked remotely, and only
traits made of such methods become proxies.  The name on the wire is that of
the method, unless an `rpc` attribute gives another.
-/

namespace JsonRpc

open Declaration

/-- Why a declaration is no remote interface. -/
inductive DeclarationError where
  | notMethod
  | genericMethod
  | genericTrait
  /-- An `rpc` attribute has nothing behind its path. -/
  | bareAttribute
  /-- An `rpc` attribute has a value where its entries should be in parentheses. -/
  | assignedAttribute
  | literalKey
  | noKey
  /-- The entries end behind the sign with which a path begins. -/
  | missingKey
  /-- A path goes on with something that is no word. -/
  | brokenPath
  | endedPath
  | unknownKey
  | missingSign
  | missingValue
  | valueNotText
  | emptyName
  | missingComma
  deriving DecidableEq, Repr

def DeclarationError.message : DeclarationError → String
  | .notMethod => "remote_interface traits may only contain methods"
  | .genericMethod => "remote methods cannot be generic"
  | .genericTrait => "remote_interface traits cannot be generic"
  | .bareAttribute => "expected attribute arguments in parentheses: #[rpc(...)]"
  | .assignedAttribute => "expected parentheses: #[rpc(...)]"
  | .literalKey => "unexpected literal in nested attribute, expected ident"
  | .noKey => "unexpected token in nested attribute, expected ident"
  | .missingKey => "unexpected end of input, expected nested attribute"
  | .brokenPath => "expected ident"
  | .endedPath => "unexpected end of input, expected ident"
  | .unknownKey => "unsupported rpc attribute, expected `name`"
  | .missingSign => "expected `=`"
  | .missingValue => "unexpected end of input, expected string literal"
  | .valueNotText => "expected string literal"
  | .emptyName => "rpc name cannot be empty"
  | .missingComma => "expected `,`"

structure Stub where
  name : String
  docs : List String
  /-- The arguments with their types; each is converted to one parameter. -/
  arguments : List (String × String)
  /-- The type as which the result is read, or `none` for a notification. -/
  result : Option String
  /-- The position of the stub's signature. -/
  index : Nat

/-- What is generated for a declared interface. -/
structure Proxy where
  interface : Interface
  traitName : String
  name : String
  doc : String
  isPublic : Bool
  stubs : List Stub
  /-- The attributes that are left on the methods of the trait. -/
  keptAttributes : List (List String)

namespace Declaration

/-- Whether some tokens begin with a literal; a number may have a minus sign. -/
def beginsWithLiteral : List Token → Bool
  | .literal .. :: _ => true
  | .sign "-" :: .literal text _ :: _ => text.toList.head?.any Char.isDigit
  | _ => false

/-- What is wrong with a path that goes on at some tokens, if anything is. -/
def pathFault? : List Token → Option DeclarationError
  | .sign "::" :: .word _ :: rest => pathFault? rest
  | .sign "::" :: [] => some .endedPath
  | .sign "::" :: _ => some .brokenPath
  | _ => none

/-- What is wrong with some tokens that do not begin with an entry for a name. -/
def entryFault : List Token → DeclarationError
  | .word "name" :: .sign "::" :: rest => (pathFault? (.sign "::" :: rest)).getD .unknownKey
  | .word "name" :: .sign "=" :: rest => if rest.isEmpty then .missingValue else .valueNotText
  | .word "name" :: _ => .missingSign
  | .word _ :: rest => (pathFault? rest).getD .unknownKey
  | .sign "::" :: .word w :: rest => (pathFault? (.sign "::" :: .word w :: rest)).getD .unknownKey
  | .sign "::" :: [] => .missingKey
  | .sign "::" :: tokens | tokens => if beginsWithLiteral tokens then .literalKey else .noKey

/-- The names that the entries of an `rpc` attribute give.  A comma may follow the last one. -/
def wireNames : List Token → Except DeclarationError (List String)
  | [] => .ok []
  | .word "name" :: .sign "=" :: .literal _ (some name) :: rest =>
    if name = "" then .error .emptyName
    else match rest with
      | [] => .ok [name]
      | .sign "," :: rest => do return name :: (← wireNames rest)
      | _ => .error .missingComma
  | tokens => .error (entryFault tokens)

namespace Attribute

def isNamed (a : Attribute) (name : String) : Bool := a.path = [.word name]

def wireNames (a : Attribute) : Except DeclarationError (List String) :=
  if a.isNamed "rpc" then
    match a.arguments with
    | .none => .error .bareAttribute
    | .assigned _ => .error .assignedAttribute
    | .enclosed content => Declaration.wireNames content
  else .ok []

/-- The name of an attribute that stays on its method. -/
def kept? (a : Attribute) : Option String :=
  if a.isNamed "rpc" then none else some (Token.textOf a.path)

def doc? (a : Attribute) : Option String :=
  match a.isNamed "doc", a.arguments with
  | true, .assigned [.literal _ (some text)] => some text
  | _, _ => none

end Attribute

def Argument.type? : Argument → Option (List Token)
  | .receiver => none
  | .typed _ type => some type

/-- The name of an argument at a position, other than the receiver.  A pattern that names nothing
is named for its position. -/
def Argument.name? (position : Nat) : Argument → Option String
  | .receiver => none
  | .typed pattern _ => some ((boundName? pattern).getD ("arg" ++ toString position))

namespace Method

/-- The name of a method on the wire: the last one that its attributes give, or its own. -/
def wireName (m : Method) : Except DeclarationError String := do
  let names ← m.attributes.mapM Attribute.wireNames
  return names.flatten.getLast?.getD m.name

/-- The names of the arguments other than the receiver, which counts for the positions. -/
def argumentNames (m : Method) : List String :=
  m.arguments.zipIdx.filterMap fun (a, position) => a.name? position

def argumentTypes (m : Method) : List String :=
  m.arguments.filterMap fun a => a.type?.map Token.textOf

/-- The type of the result, unless it is the empty tuple. -/
def result? (m : Method) : Option String :=
  match m.returns with
  | none => none
  | some type => if isUnitType type then none else some (Token.textOf type)

def returnKind (m : Method) : Returns := if m.result?.isSome then .value else .unit

def signature (m : Method) : Except DeclarationError Signature := do
  if !m.generics.isEmpty then throw .genericMethod
  return ⟨← m.wireName, m.argumentNames.length, m.returnKind⟩

def stub (m : Method) (index : Nat) : Stub where
  name := m.name
  docs := m.attributes.filterMap Attribute.doc?
  arguments := m.argumentNames.zip m.argumentTypes
  result := m.result?
  index := index

end Method

def Item.method? : Item → Option Method
  | .method m => some m
  | .other => none

def Item.signature : Item → Except DeclarationError Signature
  | .method m => m.signature
  | .other => .error .notMethod

namespace Trait

def methods (t : Trait) : List Method := t.items.filterMap Item.method?

/-- An identifier without the mark of a raw one. -/
def plain (name : String) : String :=
  match name.toList with
  | 'r' :: '#' :: rest => String.ofList rest
  | _ => name

def doc (t : Trait) : String :=
  "Remote proxy for [`" ++ t.name ++ "`], generated by `#[remote_interface]`"

/-- The proxy of a declared interface.  Items are checked in their order, and the trait itself
last. -/
def expand (t : Trait) : Except DeclarationError Proxy := do
  let signatures ← t.items.mapM Item.signature
  if !t.generics.isEmpty then throw .genericTrait
  return {
    interface := ⟨t.name, signatures⟩
    traitName := t.name
    name := plain t.name ++ "Proxy"
    doc := t.doc
    isPublic := t.isPublic
    stubs := t.methods.zipIdx.map fun (m, index) => m.stub index
    keptAttributes := t.methods.map fun m => m.attributes.filterMap Attribute.kept? }

end Trait

end Declaration

namespace Stub

def outputType (s : Stub) : String :=
  "::jrmt_core::Result<" ++ s.result.getD "()" ++ ">"

end Stub

namespace Proxy

/-- How many items a declaration expands to: the trait itself, the proxy's type, its methods, and
its interface. -/
def itemCount : Nat := 4

/-- The functions of a proxy: two that every proxy has, and the stubs. -/
def functionNames (p : Proxy) : List String := "new" :: "session" :: p.stubs.map Stub.name

end Proxy

end JsonRpc
