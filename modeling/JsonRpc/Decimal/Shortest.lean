/-!
# The fewest digits that identify a float

A finite float stands for an interval of reals: those that are nearer to it
than to its neighbours, the ends included when its significand is even.  Its
text needs only as many digits as it takes to land in that interval.

The search goes through decimal grids from coarse to fine.  On each grid the
value has one neighbour below and one above; a grid with a neighbour inside
the interval is fine enough, and of two such neighbours the nearer one is
taken.  All comparisons are between naturals, by cross-multiplication.
-/

namespace JsonRpc.Decimal

/-- A positive rational number, as a numerator over a denominator. -/
structure Ratio where
  num : Nat
  den : Nat

/-- The ratio times a power of ten. -/
def Ratio.scale (r : Ratio) (k : Int) : Ratio :=
  if 0 ≤ k then ⟨r.num * Nat.pow 10 k.toNat, r.den⟩ else ⟨r.num, r.den * Nat.pow 10 (-k).toNat⟩

/-- The decimal exponent of a positive ratio: the `e` with `10 ^ e ≤ r < 10 ^ (e + 1)`.  The
numbers of digits of numerator and denominator leave two candidates. -/
def Ratio.exponent (r : Ratio) : Int :=
  let e : Int := (Nat.toDigits 10 r.num).length - (Nat.toDigits 10 r.den).length
  let unit := r.scale (-e)
  if unit.den ≤ unit.num then e else e - 1

/-- A finite float other than zero, without its sign: `significand * 2 ^ exponent`. -/
structure Binary where
  significand : Nat
  exponent : Int
  /-- Whether the neighbour below is only half as far away as the one above. -/
  narrowBelow : Bool

/-- The magnitude of a finite float, or `none` for zero. -/
def Binary.ofFloat (x : Float) : Option Binary :=
  let bits : Nat := x.toBits.toNat
  let fraction : Nat := bits % 0x10000000000000
  let biased : Nat := bits / 0x10000000000000 % 0x800
  if biased = 0 then
    if fraction = 0 then none else some ⟨fraction, -1074, false⟩
  else some ⟨0x10000000000000 + fraction, biased - 1075, fraction = 0 ∧ 1 < biased⟩

/-- A quarter of the float's unit, `k` times, as a ratio. -/
def Binary.quarters (b : Binary) (k : Nat) : Ratio :=
  let q := b.exponent - 2
  if 0 ≤ q then ⟨k * Nat.pow 2 q.toNat, 1⟩ else ⟨k, Nat.pow 2 (-q).toNat⟩

/-- The value itself, and the ends of the interval that rounds to it. -/
def Binary.value (b : Binary) : Ratio := b.quarters (4 * b.significand)

def Binary.lower (b : Binary) : Ratio :=
  b.quarters (4 * b.significand - if b.narrowBelow then 1 else 2)

def Binary.upper (b : Binary) : Ratio := b.quarters (4 * b.significand + 2)

/-- Whether `n` on the grid of step `10 ^ k` reads back as the float. -/
def Binary.readsBack (b : Binary) (k : Int) (n : Nat) : Bool :=
  let low := b.lower.scale (-k)
  let high := b.upper.scale (-k)
  if b.significand % 2 = 0 then low.num ≤ n * low.den ∧ n * high.den ≤ high.num
  else low.num < n * low.den ∧ n * high.den < high.num

/-- The neighbour of the value on the grid of step `10 ^ k` that identifies it, if one does.  Of two
that are equally near the even one is taken. -/
def Binary.onGrid (b : Binary) (k : Int) : Option Nat :=
  let v := b.value.scale (-k)
  let below := v.num / v.den
  let above := below + 1
  match b.readsBack k below, b.readsBack k above with
  | true, true =>
    let twice := 2 * v.num
    let middle := (below + above) * v.den
    if twice < middle then some below
    else if middle < twice then some above
    else some (if below % 2 = 0 then below else above)
  | true, false => some below
  | false, true => some above
  | false, false => none

/-- A positive decimal in scientific form: the first digit stands before the point, and the whole
is multiplied by `10 ^ exponent`. -/
structure Scientific where
  digits : List Char
  exponent : Int
  deriving DecidableEq, Repr

/-- The decimal `n * 10 ^ k`, without its trailing zeros. -/
def Scientific.ofGrid (n : Nat) (k : Int) : Scientific :=
  let digits := Nat.toDigits 10 n
  let kept := (digits.reverse.dropWhile (· = '0')).reverse
  ⟨if kept.isEmpty then ['0'] else kept, k + digits.length - 1⟩

/-- Seventeen digits identify every double, so the search stops there at the latest. -/
def Binary.shortestFrom (b : Binary) (top : Int) : Nat → Nat → Scientific
  | 0, n => .ofGrid ((b.value.scale (n - top)).num / (b.value.scale (n - top)).den) (top - n)
  | more + 1, n =>
    match b.onGrid (top - n) with
    | some m => .ofGrid m (top - n)
    | none => b.shortestFrom top more (n + 1)

/-- The shortest decimal that reads back as the float, the nearest one of that length. -/
def Binary.shortest (b : Binary) : Scientific :=
  b.shortestFrom b.value.exponent 17 0

end JsonRpc.Decimal
