import JsonRpc.Json.Fault
/-!
# The lexemes of JSON text

Blanks, literals, strings and the separators of lists and objects, read from
octets.  A reader takes the octets that are left and returns what it read with
the octets left after it.

Two octets can be at fault.  The octet that a reader looks at without taking
it is counted by `Snag.here`; one that it has taken is counted by
`Snag.past`.  Either way the position is that of the offending octet.
-/

namespace JsonRpc.Json

/-- A fault found while reading.  Most faults are placed at once.  A mismatch noticed between the
members of a list or an object is loose at first, and is placed where reading leaves that list or
object. -/
inductive Snag where
  | placed (fault : Fault) (unread : Nat)
  | loose (fault : Mismatch) (rest : Octets)

/-- A fault at the first of the octets left, which has not been taken. -/
def Snag.here (fault : SyntaxFault) (rest : Octets) : Snag :=
  .placed (.syntaxFault fault) (rest.length - 1)

/-- A fault at the octet taken last. -/
def Snag.past (fault : SyntaxFault) (rest : Octets) : Snag :=
  .placed (.syntaxFault fault) rest.length

/-- Reads a value from the start of the octets, and returns the octets after it. -/
abbrev Reader (α : Type) := Octets → Except Snag (α × Octets)

namespace Octet

@[match_pattern] abbrev quote : UInt8 := 0x22
@[match_pattern] abbrev plus : UInt8 := 0x2B
@[match_pattern] abbrev comma : UInt8 := 0x2C
@[match_pattern] abbrev minus : UInt8 := 0x2D
@[match_pattern] abbrev point : UInt8 := 0x2E
@[match_pattern] abbrev zero : UInt8 := 0x30
@[match_pattern] abbrev nine : UInt8 := 0x39
@[match_pattern] abbrev colon : UInt8 := 0x3A
@[match_pattern] abbrev openBracket : UInt8 := 0x5B
@[match_pattern] abbrev backslash : UInt8 := 0x5C
@[match_pattern] abbrev closeBracket : UInt8 := 0x5D
@[match_pattern] abbrev openBrace : UInt8 := 0x7B
@[match_pattern] abbrev closeBrace : UInt8 := 0x7D

def ofChar (c : Char) : UInt8 := UInt8.ofNat c.toNat

def isBlank (b : UInt8) : Bool := b = 0x20 ∨ b = 0x0A ∨ b = 0x09 ∨ b = 0x0D

def isDigit (b : UInt8) : Bool := zero ≤ b ∧ b ≤ nine

def digit (b : UInt8) : Nat := b.toNat - 0x30

def hex? (b : UInt8) : Option Nat :=
  if isDigit b then some (digit b)
  else if 0x61 ≤ b ∧ b ≤ 0x66 then some (b.toNat - 0x57)
  else if 0x41 ≤ b ∧ b ≤ 0x46 then some (b.toNat - 0x37)
  else none

/-- The octet that a letter after a backslash stands for. -/
def escaped? (b : UInt8) : Option UInt8 :=
  if b = quote ∨ b = backslash ∨ b = 0x2F then some b
  else if b = ofChar 'b' then some 0x08
  else if b = ofChar 'f' then some 0x0C
  else if b = ofChar 'n' then some 0x0A
  else if b = ofChar 'r' then some 0x0D
  else if b = ofChar 't' then some 0x09
  else none

end Octet

def skipBlank (input : Octets) : Octets := input.dropWhile Octet.isBlank

/-- The octets after the remaining letters of a literal. -/
def literal : List Char → Octets → Except Snag Octets
  | [], input => .ok input
  | _ :: _, [] => .error (.past .valueEnds [])
  | c :: cs, b :: rest =>
    if b = Octet.ofChar c then literal cs rest else .error (.past .expectedIdent rest)

def hexQuad : Reader Nat
  | a :: b :: c :: d :: rest =>
    match Octet.hex? a, Octet.hex? b, Octet.hex? c, Octet.hex? d with
    | some a, some b, some c, some d => .ok (((a * 16 + b) * 16 + c) * 16 + d, rest)
    | _, _, _, _ => .error (.past .invalidEscape rest)
  | _ => .error (.past .stringEnds [])

def isLeadingSurrogate (n : Nat) : Bool := 0xD800 ≤ n ∧ n < 0xDC00

def isTrailingSurrogate (n : Nat) : Bool := 0xDC00 ≤ n ∧ n < 0xE000

/-- The character written by hexadecimal digits after a backslash and a `u`.  A character beyond
the first plane is written by two such escapes, a leading surrogate and a trailing one. -/
def unicodeEscape : Reader Char := fun input => do
  let (n, rest) ← hexQuad input
  if isTrailingSurrogate n then .error (.past .loneSurrogate rest)
  else if isLeadingSurrogate n then
    match rest with
    | [] => .error (.past .stringEnds [])
    | b :: rest =>
      if b = Octet.backslash then
        match rest with
        | [] => .error (.past .stringEnds [])
        | u :: rest =>
          if u = Octet.ofChar 'u' then
            let (m, rest) ← hexQuad rest
            if isTrailingSurrogate m then
              .ok (Char.ofNat ((n - 0xD800) * 0x400 + (m - 0xDC00) + 0x10000), rest)
            else .error (.past .loneSurrogate rest)
          else .error (.past .surrogateEnds rest)
      else .error (.past .surrogateEnds rest)
  else .ok (Char.ofNat n, rest)

/-- The octets of a string after its opening quote, with escapes resolved, and the octets after
its closing quote. -/
def stringOctets : Nat → Reader Octets
  | 0, input => .error (.past .stalled input)
  | _ + 1, [] => .error (.past .stringEnds [])
  | bound + 1, b :: rest =>
    if b = Octet.quote then .ok ([], rest)
    else if b = Octet.backslash then
      match rest with
      | [] => .error (.past .stringEnds [])
      | e :: rest =>
        match Octet.escaped? e with
        | some c => do
          let (cs, rest) ← stringOctets bound rest
          return (c :: cs, rest)
        | none =>
          if e = Octet.ofChar 'u' then do
            let (c, rest) ← unicodeEscape rest
            let (cs, rest) ← stringOctets bound rest
            return (Utf8.encodeChar c ++ cs, rest)
          else .error (.past .invalidEscape rest)
    else if b < 0x20 then .error (.past .controlCharacter rest)
    else do
      let (cs, rest) ← stringOctets bound rest
      return (b :: cs, rest)

/-- A string after its opening quote.  Octets that are no text are found at the closing quote, and
placed as many octets before it as were left over. -/
def stringBody (bound : Nat) : Reader String := fun input => do
  let (octets, rest) ← stringOctets bound input
  match Utf8.split octets with
  | (cs, []) => .ok (String.ofList cs, rest)
  | (_, left) => .error (.placed (.syntaxFault .invalidCodePoint) (rest.length + left.length))

inductive ListStep where
  /-- Another element, at the start of these octets. -/
  | element (rest : Octets)
  /-- The closing bracket, which has not been taken. -/
  | closing (rest : Octets)

/-- Looks for the next element of a list; all but the first follow a comma. -/
def ListStep.read (first : Bool) (input : Octets) : Except Snag ListStep :=
  match skipBlank input with
  | [] => .error (.here .listEnds [])
  | b :: rest =>
    if b = Octet.closeBracket then .ok (.closing (b :: rest))
    else if first then .ok (.element (b :: rest))
    else if b = Octet.comma then
      match skipBlank rest with
      | [] => .ok (.element [])
      | c :: rest =>
        if c = Octet.closeBracket then .error (.here .trailingComma (c :: rest))
        else .ok (.element (c :: rest))
    else .error (.here .expectedListComma (b :: rest))

inductive ObjectStep where
  /-- Another member, whose key has been read. -/
  | member (key : String) (rest : Octets)
  /-- The closing brace, which has not been taken. -/
  | closing (rest : Octets)

/-- Looks for the next member of an object and reads its key; all but the first follow a comma. -/
def ObjectStep.read (bound : Nat) (first : Bool) (input : Octets) : Except Snag ObjectStep :=
  match skipBlank input with
  | [] => .error (.here .objectEnds [])
  | b :: rest =>
    if b = Octet.closeBrace then .ok (.closing (b :: rest))
    else if first then
      if b = Octet.quote then do
        let (key, rest) ← stringBody bound rest
        return .member key rest
      else .error (.here .keyNotString (b :: rest))
    else if b = Octet.comma then
      match skipBlank rest with
      | [] => .error (.here .valueEnds [])
      | c :: rest =>
        if c = Octet.quote then do
          let (key, rest) ← stringBody bound rest
          return .member key rest
        else if c = Octet.closeBrace then .error (.here .trailingComma (c :: rest))
        else .error (.here .keyNotString (c :: rest))
    else .error (.here .expectedObjectComma (b :: rest))

def afterColon (input : Octets) : Except Snag Octets :=
  match skipBlank input with
  | [] => .error (.here .objectEnds [])
  | b :: rest =>
    if b = Octet.colon then .ok rest else .error (.here .expectedColon (b :: rest))

end JsonRpc.Json
