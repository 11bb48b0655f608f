import JsonRpc.Json.Basic
import JsonRpc.Decimal.Layout
import JsonRpc.Text.Utf8
import JsonRpc.Text.Quoted
/-!
# What can be wrong with JSON

Two things can be wrong with a text that should hold a certain value: it may
not be JSON at all, or it may be JSON of another shape than the one expected.
The first is a `SyntaxFault`, the second a `Mismatch`.

A fault of a text has a position.  Reading goes from left to right, so a
position is known by the number of octets that were still unread; only when
the whole text is at hand does it become a line and a column.
-/

namespace JsonRpc.Json

inductive SyntaxFault where
  | valueEnds
  | listEnds
  | objectEnds
  | stringEnds
  | expectedIdent
  | expectedValue
  | expectedColon
  | expectedListComma
  | expectedObjectComma
  | trailingComma
  | trailingCharacters
  | keyNotString
  | invalidNumber
  | numberOutOfRange
  | invalidEscape
  | controlCharacter
  | loneSurrogate
  | surrogateEnds
  | invalidCodePoint
  | tooDeep
  /-- The bound on the number of steps was too small for the text. -/
  | stalled
  deriving DecidableEq, Repr

def SyntaxFault.message : SyntaxFault → String
  | .valueEnds => "EOF while parsing a value"
  | .listEnds => "EOF while parsing a list"
  | .objectEnds => "EOF while parsing an object"
  | .stringEnds => "EOF while parsing a string"
  | .expectedIdent => "expected ident"
  | .expectedValue => "expected value"
  | .expectedColon => "expected `:`"
  | .expectedListComma => "expected `,` or `]`"
  | .expectedObjectComma => "expected `,` or `\x7d`"
  | .trailingComma => "trailing comma"
  | .trailingCharacters => "trailing characters"
  | .keyNotString => "key must be a string"
  | .invalidNumber => "invalid number"
  | .numberOutOfRange => "number out of range"
  | .invalidEscape => "invalid escape"
  | .controlCharacter => "control character (\\u0000-\\u001F) found while parsing a string"
  | .loneSurrogate => "lone leading surrogate in hex escape"
  | .surrogateEnds => "unexpected end of hex escape"
  | .invalidCodePoint => "invalid unicode code point"
  | .tooDeep => "recursion limit exceeded"
  | .stalled => "reading stalled"

/-- A value found where another one was expected, without the contents of lists and objects. -/
inductive Found where
  | null
  | bool (b : Bool)
  | int (n : Int)
  | float (x : Float)
  | str (s : String)
  | sequence
  | map

def Found.ofJson : Json → Found
  | .null => .null
  | .bool b => .bool b
  | .int n => .int n
  | .float x => .float x
  | .str s => .str s
  | .arr _ => .sequence
  | .obj _ => .map

def Found.message : Found → String
  | .null => "null"
  | .bool b => "boolean `" ++ (if b then "true" else "false") ++ "`"
  | .int n => "integer `" ++ String.ofList (Decimal.integer n) ++ "`"
  | .float x => "floating point `" ++ String.ofList (Decimal.ofFloat x) ++ "`"
  | .str s => "string " ++ Text.quoted s
  | .sequence => "sequence"
  | .map => "map"

inductive Mismatch where
  | type (got : Found) (expected : String)
  | value (got : Found) (expected : String)
  | length (got : Nat) (expected : String)
  | missingField (name : String)
  | duplicateField (name : String)
  | unknownVariant (name : String) (known : List String)
  | noVariant (type : String)

/-- The names of the known variants, each between backquotes. -/
def alternatives (names : List String) : String :=
  match names.map fun name => "`" ++ name ++ "`" with
  | [] => "there are no variants"
  | [a] => a
  | [a, b] => a ++ " or " ++ b
  | many => "one of " ++ ", ".intercalate many

def Mismatch.message : Mismatch → String
  | .type got expected => "invalid type: " ++ got.message ++ ", expected " ++ expected
  | .value got expected => "invalid value: " ++ got.message ++ ", expected " ++ expected
  | .length got expected => "invalid length " ++ toString got ++ ", expected " ++ expected
  | .missingField name => "missing field `" ++ name ++ "`"
  | .duplicateField name => "duplicate field `" ++ name ++ "`"
  | .unknownVariant name known =>
    "unknown variant `" ++ name ++ "`, expected " ++ alternatives known
  | .noVariant name => "data did not match any variant of untagged enum " ++ name

def Mismatch.of (v : Json) (expected : String) : Mismatch :=
  .type (.ofJson v) expected

inductive Fault where
  | syntaxFault (fault : SyntaxFault)
  | mismatch (fault : Mismatch)

def Fault.message : Fault → String
  | .syntaxFault fault => fault.message
  | .mismatch fault => fault.message

/-- A position in a text: the line, counted from one, and the octets of that line up to there. -/
structure Position where
  line : Nat
  column : Nat
  deriving DecidableEq, Repr

def Position.after (consumed : Octets) : Position :=
  consumed.foldl
    (fun p b => if b = 10 then ⟨p.line + 1, 0⟩ else ⟨p.line, p.column + 1⟩) ⟨1, 0⟩

structure TextFault where
  fault : Fault
  position : Option Position

def TextFault.message (f : TextFault) : String :=
  match f.position with
  | none => f.fault.message
  | some p => f.fault.message ++ " at line " ++ toString p.line ++ " column " ++ toString p.column

end JsonRpc.Json
