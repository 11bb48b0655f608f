/-!
# JSON values

A value is a tree of the six JSON kinds, with integers and floats kept apart:
`1` and `1.0` are different values, and only the text of a number decides
which it is.  Members of an object are listed by key, each key once.  The
order is that of code points, which is also the order of the keys' octets.

Objects are built with `Members.insert`, so a repeated key keeps the value
that was written last, and two objects with the same members are the same
tree.
-/

namespace JsonRpc

inductive Json where
  | null
  | bool (b : Bool)
  | int (n : Int)
  | float (x : Float)
  | str (s : String)
  | arr (items : List Json)
  | obj (members : List (String × Json))
  deriving Inhabited

/-- The members of an object, by ascending key. -/
abbrev Members := List (String × Json)

namespace Members

/-- Adds a member in the place of its key, or replaces the value that the key has. -/
def insert (key : String) (value : Json) : Members → Members
  | [] => [(key, value)]
  | (k, v) :: rest =>
    if key = k then (key, value) :: rest
    else if key < k then (key, value) :: (k, v) :: rest
    else (k, v) :: insert key value rest

/-- The members of an object whose members were written in this order. -/
def ofList (written : List (String × Json)) : Members :=
  written.foldl (fun members (key, value) => insert key value members) []

end Members

namespace Json

/-- The object with these members; of two members with one key the later one stays. -/
def object (written : List (String × Json)) : Json :=
  .obj (Members.ofList written)

def member? (key : String) : Json → Option Json
  | .obj members => members.lookup key
  | _ => none

def isObject : Json → Bool
  | .obj _ => true
  | _ => false

def kind : Json → String
  | .null => "null"
  | .bool _ => "boolean"
  | .int _ => "number"
  | .float _ => "number"
  | .str _ => "string"
  | .arr _ => "array"
  | .obj _ => "object"

/-- The integers that a value can hold: a signed or an unsigned word of 64 bits. -/
def Holds (n : Int) : Prop := -0x8000000000000000 ≤ n ∧ n < 0x10000000000000000

instance (n : Int) : Decidable (Holds n) :=
  inferInstanceAs (Decidable (-0x8000000000000000 ≤ n ∧ n < 0x10000000000000000))

/-- The integers of a signed word of 64 bits. -/
def FitsSigned (n : Int) : Prop := -0x8000000000000000 ≤ n ∧ n < 0x8000000000000000

instance (n : Int) : Decidable (FitsSigned n) :=
  inferInstanceAs (Decidable (-0x8000000000000000 ≤ n ∧ n < 0x8000000000000000))

mutual

/-- Equality of values.  Floats are compared as numbers, so the two zeros are equal. -/
def same : Json → Json → Bool
  | .null, .null => true
  | .bool a, .bool b => a == b
  | .int m, .int n => m == n
  | .float x, .float y => x == y
  | .str s, .str t => s == t
  | .arr xs, .arr ys => sameItems xs ys
  | .obj xs, .obj ys => sameMembers xs ys
  | _, _ => false

def sameItems : List Json → List Json → Bool
  | [], [] => true
  | x :: xs, y :: ys => same x y && sameItems xs ys
  | _, _ => false

def sameMembers : List (String × Json) → List (String × Json) → Bool
  | [], [] => true
  | (j, x) :: xs, (k, y) :: ys => j == k && same x y && sameMembers xs ys
  | _, _ => false

end

end Json

end JsonRpc
