import JsonRpc.Json.Basic
import JsonRpc.Text.Digit
/-!
# Numbers written by people

A number given as text is an integer if it reads as one that fits a signed
word, and otherwise the float nearest to it.  Signs and leading zeros are
free, a point may stand at either end of the digits, and there is no blank
anywhere.
-/

namespace JsonRpc.Decimal

/-- Takes a sign off; the flag says whether it was a minus. -/
def splitSign : List Char → Bool × List Char
  | '-' :: cs => (true, cs)
  | '+' :: cs => (false, cs)
  | cs => (false, cs)

/-- The integer of a signed word that a text of a sign and digits denotes. -/
def signed? (cs : List Char) : Option Int :=
  let (negative, ds) := splitSign cs
  if ds.isEmpty || !ds.all Char.isDigit then none
  else
    let n : Int := Text.ofDigits ds
    let n := if negative then -n else n
    if Json.FitsSigned n then some n else none

inductive FloatFault where
  | empty
  | invalid
  deriving DecidableEq, Repr

def FloatFault.message : FloatFault → String
  | .empty => "cannot parse float from empty string"
  | .invalid => "invalid float literal"

/-- What a text without its sign says about a float. -/
inductive FloatWord where
  | decimal (digits : Nat) (exponent : Int)
  | infinity
  | nan
  deriving DecidableEq, Repr

/-- The exponent at the end of a number: nothing, or a mark, a sign and digits. -/
def exponent? : List Char → Option Int
  | [] => some 0
  | c :: cs =>
    if c = 'e' ∨ c = 'E' then
      let (negative, ds) := splitSign cs
      if ds.isEmpty || !ds.all Char.isDigit then none
      else some (if negative then -(Text.ofDigits ds : Int) else Text.ofDigits ds)
    else none

/-- Digits with at most one point among them, and an exponent. -/
def decimal? (cs : List Char) : Option FloatWord := do
  let whole := cs.takeWhile Char.isDigit
  let (fraction, rest) := match cs.dropWhile Char.isDigit with
    | '.' :: rest => (rest.takeWhile Char.isDigit, rest.dropWhile Char.isDigit)
    | rest => ([], rest)
  if whole.isEmpty && fraction.isEmpty then none
  else
    let e ← exponent? rest
    return .decimal (Text.ofDigits (whole ++ fraction)) (e - fraction.length)

/-- What a text says about a float, and whether it has a minus sign. -/
def floatWord (cs : List Char) : Except FloatFault (Bool × FloatWord) :=
  if cs.isEmpty then .error .empty
  else
    let (negative, cs) := splitSign cs
    let word := String.ofList (cs.map Char.toLower)
    if word = "inf" ∨ word = "infinity" then .ok (negative, .infinity)
    else if word = "nan" then .ok (negative, .nan)
    else match decimal? cs with
      | some w => .ok (negative, w)
      | none => .error .invalid

/-- Whether a decimal with these digits is certainly above all floats, or certainly nearer to zero
than to any other float.  Such decimals are told apart by their size alone. -/
inductive Magnitude where
  | huge
  | tiny
  | ordinary
  deriving DecidableEq, Repr

def magnitude (digits : Nat) (exponent : Int) : Magnitude :=
  let top := exponent + (Nat.toDigits 10 digits).length
  if digits = 0 ∨ top < -400 then .tiny else if 400 < top then .huge else .ordinary

def nearestFloat (digits : Nat) (exponent : Int) : Float :=
  match magnitude digits exponent with
  | .tiny => 0
  | .huge => 1 / 0
  | .ordinary => Float.ofScientific digits (exponent < 0) exponent.natAbs

/-- The float nearest to a word; the largest ones are infinite. -/
def FloatWord.toFloat : FloatWord → Float
  | .decimal digits exponent => nearestFloat digits exponent
  | .infinity => 1 / 0
  | .nan => 0 / 0

def nearestSingle (digits : Nat) (exponent : Int) : Float32 :=
  match magnitude digits exponent with
  | .tiny => 0
  | .huge => 1 / 0
  | .ordinary => Float32.ofScientific digits (exponent < 0) exponent.natAbs

def FloatWord.toSingle : FloatWord → Float32
  | .decimal digits exponent => nearestSingle digits exponent
  | .infinity => 1 / 0
  | .nan => 0 / 0

def float (cs : List Char) : Except FloatFault Float := do
  let (negative, word) ← floatWord cs
  return if negative then -word.toFloat else word.toFloat

def single (cs : List Char) : Except FloatFault Float32 := do
  let (negative, word) ← floatWord cs
  return if negative then -word.toSingle else word.toSingle

end JsonRpc.Decimal
