import JsonRpc.Decimal.Reading
import JsonRpc.Observability.Pattern
import JsonRpc.Text.Utf8
/-!
# Log filters

A filter is a list of directives, separated by commas.  A directive is a word,
a span between brackets, or both, and may end in a level behind an equals
sign.  A word is a level or else a target, so no word is wrong.  A span may
ask for a field, in braces, which has a name and perhaps a value: a number or
a pattern.

Levels are given by name, in any case, or by number; a level that is left out
behind its equals sign lets everything through.

Blanks around a directive are passed over when it is split into its parts.
The parts are then cut out of the directive with its blanks, at the same
positions.  So blanks behind a level belong to it, and each blank in front of
a directive moves its parts by one octet or more.
-/

namespace JsonRpc.Observability.Filter

inductive Fault where
  | directive
  | level
  | field (fault : Pattern.Fault)
  deriving DecidableEq, Repr

/-- The names of the levels, from silent to most talkative. -/
def levelNames : List String := ["off", "error", "warn", "info", "debug", "trace"]

def Fault.message : Fault → String
  | .directive => "invalid filter directive"
  | .level =>
    "error parsing level filter: expected one of " ++
      ", ".intercalate (levelNames.map fun name => "\"" ++ name ++ "\"") ++
      ", or a number 0-5"
  | .field fault => "invalid field filter: " ++ fault.message

def isLevel (cs : List Char) : Bool :=
  cs.isEmpty || levelNames.contains (String.ofList (cs.map Char.toLower)) ||
    (Text.number? cs).any (· ≤ 5)

/-- The parts of a text between signs of one kind. -/
def parts (sign : Char) : List Char → List (List Char)
  | [] => [[]]
  | c :: cs =>
    if c = sign then [] :: parts sign cs
    else match parts sign cs with
      | [] => [[c]]
      | p :: ps => (c :: p) :: ps

def checkValue (cs : List Char) : Except Fault Unit :=
  match Decimal.floatWord cs with
  | .ok _ => .ok ()
  | .error _ => (Pattern.check cs).mapError .field

/-- Checks a field.  A second equals sign ends its value. -/
def checkField (cs : List Char) : Except Fault Unit :=
  if cs.isEmpty then .error .directive
  else match parts '=' cs with
    | _ :: value :: _ => checkValue value
    | _ => .ok ()

/-- What a character of a directive belongs to, and where that began if it matters. -/
inductive Stage where
  | start
  | word
  | span
  | field (first : Nat)
  /-- Behind the fields of a span. -/
  | fields
  /-- Behind a span. -/
  | target
  | level (first : Nat)

def isWordStart (c : Char) : Bool := c = '-' || c = ':' || c = '_' || Text.isWordChar c

/-- Takes a character at a position.  The first argument cuts a part out of the directive. -/
def Stage.next (cut : Nat → Nat → List Char) (position : Nat) (c : Char) :
    Stage → Except Fault Stage
  | start =>
    if c = '[' then .ok span
    else if isWordStart c then .ok word
    else .error .directive
  | word =>
    if c = '=' then .ok (level (position + 1))
    else if c = '[' then .ok span
    else .ok word
  | span =>
    if c = ']' then .ok target
    else if c = '\x7b' then .ok (field (position + 1))
    else .ok span
  | field first =>
    if c = '\x7d' then do
      checkField (cut first position)
      return fields
    else .ok (field first)
  | fields => if c = ']' then .ok target else .error .directive
  | target => if c = '=' then .ok (level (position + 1)) else .error .directive
  | level first => .ok (level first)

def Stage.run (cut : Nat → Nat → List Char) (position : Nat) (stage : Stage) :
    List Char → Except Fault Stage
  | [] => .ok stage
  | c :: cs => do
    let stage ← stage.next cut position c
    stage.run cut (position + (Utf8.encodeChar c).length) cs

def cutOut (octets : Octets) (first last : Nat) : List Char :=
  (Utf8.split ((octets.take last).drop first)).1

def checkDirective (cs : List Char) : Except Fault Unit := do
  let octets := Utf8.encode cs
  match ← Stage.start.run (cutOut octets) 0 (Text.trim cs) with
  | .word | .target => return ()
  | .level first =>
    if isLevel (cutOut octets first octets.length) then return () else throw .level
  | _ => throw .directive

/-- Checks a filter.  Nothing between two commas is no directive. -/
def check (filter : String) : Except Fault Unit :=
  ((parts ',' filter.toList).filter (!·.isEmpty)).forM checkDirective

end JsonRpc.Observability.Filter
