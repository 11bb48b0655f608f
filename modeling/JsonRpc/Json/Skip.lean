import JsonRpc.Json.Reader
/-!
# Passing over a value

The value of a member that nobody asked for is passed over.  It has to look
like JSON, but less is asked of it than of a value that is read: it may nest
without limit, its strings need not be text, and its numbers need not fit
anything.

Since nesting is unlimited, the lists and objects that are open are kept on a
stack.  Every step takes an octet, which bounds the walk.
-/

namespace JsonRpc.Json

/-- Passes over the characters of a string and its closing quote. -/
def skipString : Nat → Octets → Except Snag Octets
  | 0, input => .error (.past .stalled input)
  | _ + 1, [] => .error (.past .stringEnds [])
  | bound + 1, b :: rest =>
    if b = Octet.quote then .ok rest
    else if b = Octet.backslash then
      match rest with
      | [] => .error (.past .stringEnds [])
      | e :: rest =>
        if (Octet.escaped? e).isSome then skipString bound rest
        else if e = Octet.ofChar 'u' then do
          let (_, rest) ← hexQuad rest
          skipString bound rest
        else .error (.past .invalidEscape rest)
    else if b < 0x20 then .error (.past .controlCharacter (b :: rest))
    else skipString bound rest

def skipExponent? : Octets → Except Snag Octets
  | [] => .ok []
  | b :: rest =>
    if isExponentMark b then
      let rest := match rest with
        | Octet.plus :: rest => rest
        | Octet.minus :: rest => rest
        | _ => rest
      match rest with
      | [] => .error (.past .invalidNumber [])
      | d :: rest =>
        if Octet.isDigit d then .ok (rest.dropWhile Octet.isDigit)
        else .error (.past .invalidNumber rest)
    else .ok (b :: rest)

def skipNumber : Octets → Except Snag Octets
  | [] => .error (.past .invalidNumber [])
  | b :: rest =>
    if !Octet.isDigit b then .error (.past .invalidNumber rest)
    else if b = Octet.zero && rest.head?.any Octet.isDigit then
      .error (.here .invalidNumber rest)
    else
      match rest.dropWhile Octet.isDigit with
      | Octet.point :: rest =>
        match digits rest with
        | ([], rest) => .error (.here .invalidNumber rest)
        | (_, rest) => skipExponent? rest
      | rest => skipExponent? rest

def skipScalar? (b : UInt8) (rest : Octets) : Option (Except Snag Octets) :=
  if b = Octet.ofChar 'n' then some (literal ['u', 'l', 'l'] rest)
  else if b = Octet.ofChar 't' then some (literal ['r', 'u', 'e'] rest)
  else if b = Octet.ofChar 'f' then some (literal ['a', 'l', 's', 'e'] rest)
  else if b = Octet.minus then some (skipNumber rest)
  else if Octet.isDigit b then some (skipNumber (b :: rest))
  else none

/-- What is open around the place that has been reached. -/
inductive Enclosure where
  | list
  | object
  deriving DecidableEq, Repr

/-- Passes over a key and its colon, where the enclosure has keys. -/
def skipKey (bound : Nat) : Enclosure → Octets → Except Snag Octets
  | .list, input => .ok input
  | .object, input =>
    match skipBlank input with
    | [] => .error (.here .objectEnds [])
    | b :: rest =>
      if b = Octet.quote then do
        let rest ← skipString bound rest
        afterColon rest
      else .error (.here .keyNotString (b :: rest))

def Enclosure.closedBy (e : Enclosure) (b : UInt8) : Bool :=
  match e with
  | .list => b = Octet.closeBracket
  | .object => b = Octet.closeBrace

/-- The place that a walk over a value has reached. -/
inductive Place where
  /-- Before a value. -/
  | before
  /-- After a value. -/
  | after
  /-- After an opening bracket or brace. -/
  | opened

/-- Passes over the rest of a value inside the open enclosures, the innermost first. -/
def skipFrom (bound : Nat) : Nat → Place → List Enclosure → Octets → Except Snag Octets
  | 0, _, _, input => .error (.past .stalled input)
  | _ + 1, .after, [], input => .ok input
  | _ + 1, .opened, [], input => .ok input
  | steps + 1, .before, stack, input =>
    match skipBlank input with
    | [] => .error (.here .valueEnds [])
    | b :: rest =>
      match skipScalar? b rest with
      | some result => do skipFrom bound steps .after stack (← result)
      | none =>
        if b = Octet.quote then do
          skipFrom bound steps .after stack (← skipString bound rest)
        else if b = Octet.openBracket then skipFrom bound steps .opened (.list :: stack) rest
        else if b = Octet.openBrace then skipFrom bound steps .opened (.object :: stack) rest
        else .error (.here .expectedValue (b :: rest))
  | steps + 1, .opened, e :: stack, input =>
    match skipBlank input with
    | [] => .error (.here (match e with | .list => .listEnds | .object => .objectEnds) [])
    | b :: rest =>
      if e.closedBy b then skipFrom bound steps .after stack rest
      else do
        skipFrom bound steps .before (e :: stack) (← skipKey bound e (b :: rest))
  | steps + 1, .after, e :: stack, input =>
    match skipBlank input with
    | [] => .error (.here (match e with | .list => .listEnds | .object => .objectEnds) [])
    | b :: rest =>
      if e.closedBy b then skipFrom bound steps .after stack rest
      else if b = Octet.comma then do
        skipFrom bound steps .before (e :: stack) (← skipKey bound e rest)
      else
        .error (.here
          (match e with | .list => .expectedListComma | .object => .expectedObjectComma)
          (b :: rest))

def skipValue (bound : Nat) (input : Octets) : Except Snag Octets :=
  skipFrom bound (2 * bound) .before [] input

end JsonRpc.Json
