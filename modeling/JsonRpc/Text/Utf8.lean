/-!
# Texts as octets

A transport carries octets, and most of them are meant as text.  This file
gives the passage between the two: every text has one encoding, and every
sequence of octets splits into the text it starts with and the octets left
over.  A sequence is a text exactly when nothing is left over.

The first octet that is left over is the start of a sequence that no scalar
value has: too short, too long for its value, a surrogate, or beyond the last
code point.
-/

namespace JsonRpc

/-- A payload as it travels. -/
abbrev Octets := List UInt8

namespace Utf8

/-- The octets of a character: one for the seven-bit characters, else a first octet that tells
their number, and one for each further six bits. -/
def encodeChar (c : Char) : Octets :=
  let n := c.toNat
  if n < 0x80 then [.ofNat n]
  else if n < 0x800 then [.ofNat (0xC0 + n / 64), .ofNat (0x80 + n % 64)]
  else if n < 0x10000 then
    [.ofNat (0xE0 + n / 4096), .ofNat (0x80 + n / 64 % 64), .ofNat (0x80 + n % 64)]
  else
    [.ofNat (0xF0 + n / 262144), .ofNat (0x80 + n / 4096 % 64), .ofNat (0x80 + n / 64 % 64),
      .ofNat (0x80 + n % 64)]

def encode (cs : List Char) : Octets := cs.flatMap encodeChar

/-- The six payload bits of a continuation octet, or `none` for another octet. -/
def continuation? (b : UInt8) : Option Nat :=
  if 0x80 ≤ b ∧ b < 0xC0 then some (b.toNat - 0x80) else none

/-- The scalar value of a sequence of `n` octets whose payload bits are `value`, when the
sequence is the shortest for its value and the value is no surrogate. -/
def scalar? (n value : Nat) : Option Char :=
  let least := if n = 2 then 0x80 else if n = 3 then 0x800 else 0x10000
  if least ≤ value ∧ value.isValidChar then some (Char.ofNat value) else none

/-- The first scalar value of a sequence and the octets after it. -/
def next? : Octets → Option (Char × Octets)
  | [] => none
  | a :: rest =>
    if a < 0x80 then some (Char.ofNat a.toNat, rest)
    else if 0xC0 ≤ a ∧ a < 0xE0 then
      match rest with
      | b :: rest => do
        let b ← continuation? b
        let c ← scalar? 2 ((a.toNat - 0xC0) * 64 + b)
        return (c, rest)
      | _ => none
    else if 0xE0 ≤ a ∧ a < 0xF0 then
      match rest with
      | b :: c :: rest => do
        let b ← continuation? b
        let c ← continuation? c
        let d ← scalar? 3 (((a.toNat - 0xE0) * 64 + b) * 64 + c)
        return (d, rest)
      | _ => none
    else if 0xF0 ≤ a ∧ a < 0xF8 then
      match rest with
      | b :: c :: d :: rest => do
        let b ← continuation? b
        let c ← continuation? c
        let d ← continuation? d
        let e ← scalar? 4 ((((a.toNat - 0xF0) * 64 + b) * 64 + c) * 64 + d)
        return (e, rest)
      | _ => none
    else none

/-- The longest text that the octets start with, and the octets after it.  The first argument
bounds the number of scalar values. -/
def splitWithin : Nat → Octets → List Char × Octets
  | 0, octets => ([], octets)
  | bound + 1, octets =>
    match next? octets with
    | none => ([], octets)
    | some (c, rest) =>
      let (cs, left) := splitWithin bound rest
      (c :: cs, left)

def split (octets : Octets) : List Char × Octets :=
  splitWithin octets.length octets

def decode? (octets : Octets) : Option String :=
  match split octets with
  | (cs, []) => some (String.ofList cs)
  | _ => none

end Utf8

def Octets.ofString (s : String) : Octets := Utf8.encode s.toList

end JsonRpc
