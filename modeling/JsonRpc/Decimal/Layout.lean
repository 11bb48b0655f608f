import JsonRpc.Decimal.Shortest
/-!
# Laying out a decimal

The digits of a number say what it is; the layout says how it looks.  Small
and large numbers carry an exponent with a sign and everything else is
positional, with at least one fraction digit, so that a float is never mistaken
for an integer.  A number looks the same in JSON text and in messages.
-/

namespace JsonRpc.Decimal

/-- Whether a number with this decimal exponent is positional: from a hundred-thousandth up to
sixteen integer digits. -/
def isPositional (exponent : Int) : Bool := -5 ≤ exponent ∧ exponent < 16

/-- Digits with the point in its place, and at least one digit on either side of it. -/
def Scientific.positional (s : Scientific) : List Char :=
  if s.exponent < 0 then
    '0' :: '.' :: (List.replicate ((-s.exponent).toNat - 1) '0' ++ s.digits)
  else
    let whole := s.exponent.toNat + 1
    let fraction := s.digits.drop whole
    s.digits.take whole ++ List.replicate (whole - s.digits.length) '0' ++
      '.' :: (if fraction.isEmpty then ['0'] else fraction)

/-- The first digit, the others after a point, and the exponent with its sign. -/
def Scientific.exponential (s : Scientific) : List Char :=
  let mantissa := match s.digits with
    | [] => []
    | [d] => [d]
    | d :: ds => d :: '.' :: ds
  let sign := if s.exponent < 0 then '-' else '+'
  mantissa ++ 'e' :: sign :: Nat.toDigits 10 s.exponent.natAbs

def Scientific.text (s : Scientific) : List Char :=
  if isPositional s.exponent then s.positional else s.exponential

def ofFloat (x : Float) : List Char :=
  let negative := 0x8000000000000000 ≤ x.toBits.toNat
  let magnitude := match Binary.ofFloat x with
    | none => ['0', '.', '0']
    | some b => b.shortest.text
  if negative then '-' :: magnitude else magnitude

def integer (n : Int) : List Char :=
  if n < 0 then '-' :: Nat.toDigits 10 n.natAbs else Nat.toDigits 10 n.natAbs

end JsonRpc.Decimal
