import JsonRpc.Json.Numeral
/-!
# Reading JSON

A text is read strictly from left to right, and the first fault ends it.  At
most `127` lists and objects may be open at once.

The reader recurses on the number of lists and objects that may still be
opened.  Within one list or object it goes from element to element; since each
element takes an octet, the length of the text bounds that loop, and
`Json.parse` hands the bound down.
-/

namespace JsonRpc.Json

/-- How many lists and objects may be open at once. -/
def maxDepth : Nat := 127

/-- The elements of a list, up to and with its closing bracket. -/
def elements {α : Type} (element : Reader α) : Nat → Bool → Reader (List α)
  | 0, _, input => .error (.past .stalled input)
  | bound + 1, first, input => do
    match ← ListStep.read first input with
    | .closing rest => return ([], rest.tail)
    | .element rest =>
      let (x, rest) ← element rest
      let (xs, rest) ← elements element bound false rest
      return (x :: xs, rest)

/-- The members of an object in written order, up to and with its closing brace. -/
def members {α : Type} (value : Reader α) : Nat → Bool → Reader (List (String × α))
  | 0, _, input => .error (.past .stalled input)
  | bound + 1, first, input => do
    match ← ObjectStep.read (bound + 1) first input with
    | .closing rest => return ([], rest.tail)
    | .member key rest =>
      let rest ← afterColon rest
      let (x, rest) ← value rest
      let (xs, rest) ← members value bound false rest
      return ((key, x) :: xs, rest)

/-- A literal or a number that starts with octet `b`, if `b` starts one. -/
def scalar? (b : UInt8) (rest : Octets) : Option (Except Snag (Json × Octets)) :=
  if b = Octet.ofChar 'n' then
    some (return (.null, ← literal ['u', 'l', 'l'] rest))
  else if b = Octet.ofChar 't' then
    some (return (.bool true, ← literal ['r', 'u', 'e'] rest))
  else if b = Octet.ofChar 'f' then
    some (return (.bool false, ← literal ['a', 'l', 's', 'e'] rest))
  else if b = Octet.minus then some (number true rest)
  else if Octet.isDigit b then some (number false (b :: rest))
  else none

/-- A value inside which `depth` more lists and objects may be open at once. -/
def value (bound : Nat) : Nat → Reader Json
  | depth, input =>
    match skipBlank input with
    | [] => .error (.here .valueEnds [])
    | b :: rest =>
      match scalar? b rest with
      | some result => result
      | none =>
        if b = Octet.quote then do
          let (s, rest) ← stringBody bound rest
          return (.str s, rest)
        else if b = Octet.openBracket then
          match depth with
          | 0 => .error (.here .tooDeep (b :: rest))
          | depth + 1 => do
            let (xs, rest) ← elements (value bound depth) bound true rest
            return (.arr xs, rest)
        else if b = Octet.openBrace then
          match depth with
          | 0 => .error (.here .tooDeep (b :: rest))
          | depth + 1 => do
            let (xs, rest) ← members (value bound depth) bound true rest
            return (object xs, rest)
        else .error (.here .expectedValue (b :: rest))

/-- The fault of a text, with the position to which its snag belongs.  A mismatch that is still
loose when the whole text has been read has no position. -/
def Snag.toTextFault (input : Octets) : Snag → TextFault
  | .placed fault unread => ⟨fault, some (.after (input.take (input.length - unread)))⟩
  | .loose fault _ => ⟨.mismatch fault, none⟩

/-- Reads a whole text: one value, and nothing but blanks after it. -/
def readAll {α : Type} (reader : Reader α) (input : Octets) : Except TextFault α :=
  match reader input with
  | .error snag => .error (snag.toTextFault input)
  | .ok (x, rest) =>
    match skipBlank rest with
    | [] => .ok x
    | rest => .error ((Snag.here .trailingCharacters rest).toTextFault input)

def parse (input : Octets) : Except TextFault Json :=
  readAll (value (input.length + 1) maxDepth) input

def parseText (s : String) : Except TextFault Json :=
  parse (Octets.ofString s)

end JsonRpc.Json
