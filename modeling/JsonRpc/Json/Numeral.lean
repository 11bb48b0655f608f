import JsonRpc.Json.Scanner
/-!
# Numbers in JSON text

A number without fraction and exponent is an integer when it fits a word; all
others are floats.  The digits of a float are gathered into a word, and digits
that no longer fit are dropped: a dropped digit before the point raises the
exponent by one, a dropped digit after it is ignored.  The word is then scaled
by one power of ten, or by several when the exponent is far below zero, so the
result is at times a neighbour of the nearest float.
-/

namespace JsonRpc.Json

def maxWord : Nat := 0xFFFFFFFFFFFFFFFF

def maxExponent : Nat := 0x7FFFFFFF

/-- The digits at the start of the octets, and the octets after them. -/
def digits (input : Octets) : List Nat × Octets :=
  ((input.takeWhile Octet.isDigit).map Octet.digit, input.dropWhile Octet.isDigit)

/-- Appends digits to a number for as long as it stays within the limit, and returns the digits
that are left. -/
def appendDigits (limit : Nat) : Nat → List Nat → Nat × List Nat
  | n, [] => (n, [])
  | n, d :: ds =>
    if limit < n * 10 + d then (n, d :: ds) else appendDigits limit (n * 10 + d) ds

def powerOfTen (k : Nat) : Float := Float.ofScientific 1 false k

/-- A float over a power of ten, in steps of at most `308` powers. -/
def divideByPower (x : Float) (k : Nat) : Float :=
  if k ≤ 308 then x / powerOfTen k
  else if x == 0 then x
  else divideByPower (x / powerOfTen 308) (k - 308)
  termination_by k

/-- The value of a significand scaled by a power of ten, or `none` if it is no finite float. -/
def scaled? (significand : Nat) (exponent : Int) : Option Float :=
  let x := significand.toUInt64.toFloat
  if exponent < 0 then some (divideByPower x exponent.natAbs)
  else if exponent ≤ 308 then
    let y := x * powerOfTen exponent.toNat
    if y.isInf then none else some y
  else if x == 0 then some x else none

/-- A number without its sign, as far as its text has been read. -/
inductive Numeral where
  | whole (n : Nat)
  | scaled (significand : Nat) (exponent : Int)
  /-- Zero by its digits, or because its exponent is below all bounds. -/
  | vanishing
  deriving DecidableEq, Repr

/-- The value of a number.  Zero with a minus sign is a float, for integers have one zero. -/
def Numeral.toJson? (negative : Bool) : Numeral → Option Json
  | .whole n =>
    if !negative then some (.int n)
    else if 0 < n ∧ n ≤ 0x8000000000000000 then some (.int (-n))
    else some (.float (-n.toUInt64.toFloat))
  | .scaled significand exponent =>
    (scaled? significand exponent).map fun x => .float (if negative then -x else x)
  | .vanishing => some (.float (if negative then -0.0 else 0.0))

def isExponentMark (b : UInt8) : Bool := b = Octet.ofChar 'e' ∨ b = Octet.ofChar 'E'

/-- The exponent after its mark, for a number whose significand and point are known. -/
def exponentPart (significand : Nat) (start : Int) : Reader Numeral := fun input =>
  let (negative, input) := match input with
    | Octet.plus :: rest => (false, rest)
    | Octet.minus :: rest => (true, rest)
    | _ => (false, input)
  match input with
  | [] => .error (.past .valueEnds [])
  | b :: rest =>
    if !Octet.isDigit b then .error (.past .invalidNumber rest)
    else
      let (ds, rest) := digits (b :: rest)
      match appendDigits maxExponent 0 ds with
      | (e, []) => .ok (.scaled significand (if negative then start - e else start + e), rest)
      | (_, dropped) =>
        if significand ≠ 0 ∧ !negative then
          -- the digit that no longer fits has been taken, the ones after it have not
          .error (.placed (.syntaxFault .numberOutOfRange) (dropped.length - 1 + rest.length))
        else .ok (.vanishing, rest)

def exponent? (significand : Nat) (start : Int) : Reader Numeral
  | [] => .ok (.scaled significand start, [])
  | b :: rest =>
    if isExponentMark b then exponentPart significand start rest
    else .ok (.scaled significand start, b :: rest)

/-- The fraction after the point, for a number of which `dropped` digits before the point did not
fit. -/
def fractionPart (significand dropped : Nat) : Reader Numeral := fun input =>
  match digits input with
  | ([], []) => .error (.here .valueEnds [])
  | ([], rest) => .error (.here .invalidNumber rest)
  | (ds, rest) =>
    let (significand, left) := appendDigits maxWord significand ds
    exponent? significand (dropped - ((ds.length - left.length : Nat) : Int)) rest

def numeral : Reader Numeral
  | [] => .error (.past .valueEnds [])
  | b :: rest =>
    if !Octet.isDigit b then .error (.past .invalidNumber rest)
    else
      let (ds, rest) := digits (b :: rest)
      match ds, rest with
      | 0 :: _ :: _, rest =>
        -- a second digit after a leading zero is looked at and not taken
        .error (.placed (.syntaxFault .invalidNumber) (ds.length - 2 + rest.length))
      | _, rest =>
        let (significand, dropped) := appendDigits maxWord 0 ds
        match rest with
        | Octet.point :: rest => fractionPart significand dropped.length rest
        | _ =>
          if dropped.isEmpty && !(rest.head?.any isExponentMark) then
            .ok (.whole significand, rest)
          else exponent? significand dropped.length rest

/-- A number as a value; `negative` says that a minus sign has been read. -/
def number (negative : Bool) : Reader Json := fun input => do
  let (n, rest) ← numeral input
  match n.toJson? negative with
  | some v => .ok (v, rest)
  | none => .error (.past .numberOutOfRange rest)

end JsonRpc.Json
