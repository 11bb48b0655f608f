import JsonRpc.Interface.Token
/-!
# Declarations of interfaces

A program declares the interface that it expects as a trait: a named list of
methods with typed arguments.  Types and patterns are kept as tokens, for they
are only passed on.  Of a pattern one thing matters, whether it names its
argument.

A declaration is read from its tokens.  What stands between brackets is taken
as a whole; angle brackets enclose as well, where types and generic parameters
are read.  A declaration is taken to be well formed, so nothing that a
compiler would refuse anyway is looked at.
-/

namespace JsonRpc.Declaration

/-! ### Parts of a declaration -/

/-- What follows the path of an attribute. -/
inductive Arguments where
  | none
  | assigned (value : List Token)
  | enclosed (content : List Token)

structure Attribute where
  path : List Token
  arguments : Arguments

inductive Argument where
  | receiver
  | typed (pattern type : List Token)

/-- A method of a trait.  `generics` are its generic parameters. -/
structure Method where
  name : String
  generics : List Token
  arguments : List Argument
  returns : Option (List Token)
  attributes : List Attribute

inductive Item where
  | method (m : Method)
  /-- A type, a constant or anything else that is no method. -/
  | other

structure Trait where
  name : String
  isPublic : Bool
  generics : List Token
  items : List Item

def isUnitType (type : List Token) : Bool := type = [.opening .round, .closing .round]

/-- Words that stand for something else than an identifier where a pattern could name its
argument. -/
def nameless : List String := ["_", "true", "false", "Self", "super", "crate"]

def dropWord (keyword : String) : List Token → List Token
  | .word w :: rest => if w = keyword then rest else .word w :: rest
  | tokens => tokens

/-- The identifier that a pattern names.  A pattern is an identifier, perhaps with a binding mode
in front and a subpattern behind; any other pattern names nothing. -/
def boundName? (pattern : List Token) : Option String :=
  match dropWord "mut" (dropWord "ref" pattern) with
  | .word w :: rest =>
    if !nameless.contains w && (rest.isEmpty || rest.head? = some (.sign "@")) then some w else none
  | _ => none

/-! ### Brackets -/

/-- The tokens up to the closing bracket that belongs to the opening one before them, and the
tokens behind it. -/
def enclosed (depth : Nat) : List Token → List Token × List Token
  | [] => ([], [])
  | t :: ts =>
    match t, depth with
    | .closing _, 0 => ([], ts)
    | t, depth =>
      let depth := match t with
        | .opening _ => depth + 1
        | .closing _ => depth - 1
        | _ => depth
      let (inside, rest) := enclosed depth ts
      (t :: inside, rest)

/-- How deep a place is inside brackets.  Angle brackets count only where they are not inside
others. -/
structure Nesting where
  brackets : Nat := 0
  angles : Nat := 0
  deriving DecidableEq, Repr

def Nesting.after (n : Nesting) : Token → Nesting
  | .opening _ => { n with brackets := n.brackets + 1 }
  | .closing _ => { n with brackets := n.brackets - 1 }
  | .sign "<" => if n.brackets = 0 then { n with angles := n.angles + 1 } else n
  | .sign ">" => if n.brackets = 0 then { n with angles := n.angles - 1 } else n
  | _ => n

/-- The tokens before the first one that passes a test and is inside no brackets, and the tokens
from there on. -/
def before (stop : Token → Bool) (n : Nesting) : List Token → List Token × List Token
  | [] => ([], [])
  | t :: ts =>
    if n = {} ∧ stop t then ([], t :: ts)
    else
      let (first, rest) := before stop (n.after t) ts
      (t :: first, rest)

/-- The tokens between commas that are inside no brackets. -/
def pieces (n : Nesting) : List Token → List (List Token)
  | [] => [[]]
  | t :: ts =>
    if n = {} ∧ t = .sign "," then [] :: pieces n ts
    else match pieces (n.after t) ts with
      | [] => [[t]]
      | p :: ps => (t :: p) :: ps

/-! ### Reading -/

/-- An attribute between its brackets. -/
def Attribute.ofTokens (tokens : List Token) : Attribute :=
  let isPath (t : Token) : Bool := match t with
    | .opening _ => false
    | t => t ≠ .sign "="
  ⟨tokens.takeWhile isPath, match tokens.dropWhile isPath with
    | [] => .none
    | .opening _ :: rest => .enclosed (Declaration.enclosed 0 rest).1
    | _ :: value => .assigned value⟩

/-- The attributes at the start of some tokens, and what follows them.  The first argument bounds
their number. -/
def attributesWithin : Nat → List Token → List Attribute × List Token
  | bound + 1, .sign "#" :: .opening _ :: rest =>
    let (content, rest) := enclosed 0 rest
    let (more, rest) := attributesWithin bound rest
    (.ofTokens content :: more, rest)
  | _, tokens => ([], tokens)

def attributes (tokens : List Token) : List Attribute × List Token :=
  attributesWithin tokens.length tokens

def generics : List Token → List Token × List Token
  | .sign "<" :: rest =>
    let (parameters, rest) := before (· = .sign ">") {} rest
    (parameters, rest.tail)
  | tokens => ([], tokens)

/-- Whether an argument is the receiver of its method, in any form. -/
def isReceiver (tokens : List Token) : Bool :=
  let tokens := match tokens with
    | .sign "&" :: .lifetime _ :: rest => rest
    | .sign "&" :: rest => rest
    | tokens => tokens
  (dropWord "mut" tokens).head? = some (.word "self")

def Argument.ofTokens (tokens : List Token) : Argument :=
  let tokens := (Declaration.attributes tokens).2
  if isReceiver tokens then .receiver
  else
    let (pattern, rest) := before (· = .sign ":") {} tokens
    .typed pattern rest.tail

def argumentsOf (tokens : List Token) : List Argument :=
  ((pieces {} tokens).filter (!·.isEmpty)).map .ofTokens

/-- Whether a token ends the head of an item: a semicolon, or the brace of a body. -/
def endsHead (t : Token) : Bool := t = .sign ";" || t = .opening .curly

def behindBody (tokens : List Token) : List Token :=
  match (before endsHead {} tokens).2 with
  | .opening _ :: rest => (enclosed 0 rest).2
  | tokens => tokens.tail

/-- Drops what may stand before a method's keyword: whether it can be evaluated by the compiler,
can wait, has to be trusted, or has a calling convention. -/
def dropQualifiers : List Token → List Token
  | .word w :: rest =>
    if ["const", "async", "unsafe", "extern"].contains w then dropQualifiers rest
    else .word w :: rest
  | .literal _ _ :: rest => dropQualifiers rest
  | tokens => tokens

/-- An item behind its attributes, and what follows it.  A constant may contain braces, so only a
semicolon ends what is no method, unless it is one that could be a method or a call of a
macro. -/
def Item.ofTokens (attributes : List Attribute) (tokens : List Token) : Item × List Token :=
  match dropQualifiers tokens with
  | .word "fn" :: .word name :: rest =>
    let (generics, rest) := Declaration.generics rest
    let (inputs, rest) := enclosed 0 rest.tail
    let (returns, rest) := match rest with
      | .sign "->" :: rest =>
        let (type, rest) := before (fun t => endsHead t || t = .word "where") {} rest
        (some type, rest)
      | rest => (none, rest)
    (.method ⟨name, generics, argumentsOf inputs, returns, attributes⟩, behindBody rest)
  | _ =>
    match tokens with
    | .word "const" :: _ | .word "type" :: _ => (.other, (before (· = .sign ";") {} tokens).2.tail)
    | _ => (.other, behindBody tokens)

/-- The items of a trait.  The first argument bounds their number.  Attributes of the trait itself
may stand among them. -/
def itemsWithin : Nat → List Token → List Item
  | 0, _ => []
  | _, [] => []
  | bound + 1, .sign "#" :: .sign "!" :: _ :: rest => itemsWithin bound (enclosed 0 rest).2
  | bound + 1, tokens =>
    let (attributes, rest) := Declaration.attributes tokens
    let (item, rest) := Item.ofTokens attributes rest
    item :: itemsWithin bound rest

/-- Whether a declaration behind its attributes is public without restriction. -/
def isPublic : List Token → Bool
  | .word "pub" :: .opening _ :: _ => false
  | .word "pub" :: _ => true
  | _ => false

def Trait.ofTokens? (tokens : List Token) : Option Trait :=
  let tokens := (attributes tokens).2
  match tokens.dropWhile (· ≠ .word "trait") with
  | _ :: .word name :: rest =>
    let (generics, rest) := Declaration.generics rest
    match (before endsHead {} rest).2 with
    | .opening _ :: rest =>
      let content := (enclosed 0 rest).1
      some ⟨name, Declaration.isPublic tokens, generics, itemsWithin content.length content⟩
    | _ => none
  | _ => none

def Trait.ofSource? (source : String) : Option Trait := (Token.scan? source).bind ofTokens?

end JsonRpc.Declaration
