import JsonRpc.Json.Skip
/-!
# Values of an expected shape

A `Shape α` says how a value of type `α` looks in JSON, in two ways that fit
together: how it is read off a tree, and how it is read off a text.  The text
is not turned into a tree first, so a text is read only as far as its first
fault, be it one of syntax or of shape.

A record is an object with named fields, or a list of the fields in their
order.  Reading starts from a blank record, and each field puts itself into
it.  Fields that are not required keep what the blank record has.
-/

namespace JsonRpc.Json

/-- How values of a type look in JSON. -/
structure Shape (α : Type) where
  ofTree : Json → Except Mismatch α
  /-- Reads a value from text; the arguments bound the steps and the further nesting. -/
  ofText : Nat → Nat → Reader α

def Shape.parse {α : Type} (shape : Shape α) (input : Octets) : Except TextFault α :=
  readAll (shape.ofText (input.length + 1) maxDepth) input

/-- The fault of a text that holds a value of the wrong kind.  A scalar is read to its end, and
may turn out not to be one; a list or an object is not entered. -/
def wrongKind {α : Type} (bound : Nat) (expected : String) (input : Octets) : Except Snag α :=
  match skipBlank input with
  | [] => .error (.here .valueEnds [])
  | b :: rest =>
    let found (got : Found) (rest : Octets) : Except Snag α :=
      .error (.placed (.mismatch (.type got expected)) rest.length)
    match scalar? b rest with
    | some result => do
      let (v, rest) ← result
      found (.ofJson v) rest
    | none =>
      if b = Octet.quote then do
        let (s, rest) ← stringBody bound rest
        found (.str s) rest
      else if b = Octet.openBracket then found .sequence (b :: rest)
      else if b = Octet.openBrace then found .map (b :: rest)
      else .error (.here .expectedValue (b :: rest))

/-- The octets that are left once reading has tried to leave a list. -/
def afterList (input : Octets) : Octets :=
  match skipBlank input with
  | [] => []
  | b :: rest =>
    if b = Octet.closeBracket then rest
    else if b = Octet.comma then skipBlank rest
    else b :: rest

def afterObject (input : Octets) : Octets :=
  match skipBlank input with
  | [] => []
  | b :: rest => if b = Octet.closeBrace then rest else b :: rest

/-- Leaves a list of which no more elements are wanted. -/
def leaveList (input : Octets) : Except Snag Octets :=
  match skipBlank input with
  | [] => .error (.here .listEnds [])
  | b :: rest =>
    if b = Octet.closeBracket then .ok rest
    else if b = Octet.comma then
      match skipBlank rest with
      | [] => .error (.here .trailingCharacters [])
      | c :: rest =>
        if c = Octet.closeBracket then .error (.here .trailingComma (c :: rest))
        else .error (.here .trailingCharacters (c :: rest))
    else .error (.here .trailingCharacters (b :: rest))

/-- Places a loose mismatch where reading has left the list or object around it. -/
def settle {α : Type} (leave : Octets → Octets) : Except Snag α → Except Snag α
  | .error (.loose fault rest) => .error (.placed (.mismatch fault) (leave rest).length)
  | result => result

namespace Shape

/-- Any value, seen through a function that makes something of every value. -/
def view {α : Type} (f : Json → α) : Shape α where
  ofTree v := .ok (f v)
  ofText bound depth input := do
    let (v, rest) ← value bound depth input
    return (f v, rest)

/-- Any value of which a function makes sense.  The value is read in full before it is judged. -/
def judged {α : Type} (f : Json → Except Mismatch α) : Shape α where
  ofTree := f
  ofText bound depth input := do
    let (v, rest) ← value bound depth input
    match f v with
    | .ok x => .ok (x, rest)
    | .error fault => .error (.loose fault rest)

def any : Shape Json := view id

def string : Shape String where
  ofTree
    | .str s => .ok s
    | v => .error (.of v "a string")
  ofText bound _ input :=
    match skipBlank input with
    | Octet.quote :: rest => stringBody bound rest
    | _ => wrongKind bound "a string" input

/-- An integer that fits, where `name` is what such integers are called. -/
def integer (name : String) (fits : Int → Bool) : Shape Int :=
  let judge : Json → Except Mismatch Int
    | .int n => if fits n then .ok n else .error (.value (.int n) name)
    | v => .error (.of v name)
  { ofTree := judge
    ofText := fun bound _ input =>
      match skipBlank input with
      | [] => .error (.here .valueEnds [])
      | b :: rest =>
        if b = Octet.minus ∨ Octet.isDigit b then do
          let (v, rest) ←
            if b = Octet.minus then number true rest else number false (b :: rest)
          match judge v with
          | .ok n => .ok (n, rest)
          | .error fault => .error (.placed (.mismatch fault) rest.length)
        else wrongKind bound name (b :: rest) }

def optional {α : Type} (shape : Shape α) : Shape (Option α) where
  ofTree
    | .null => .ok none
    | v => (shape.ofTree v).map some
  ofText bound depth input :=
    match skipBlank input with
    | b :: rest =>
      if b = Octet.ofChar 'n' then return (none, ← literal ['u', 'l', 'l'] rest)
      else (shape.ofText bound depth (b :: rest)).map fun (x, rest) => (some x, rest)
    | [] => (shape.ofText bound depth []).map fun (x, rest) => (some x, rest)

def list {α : Type} (shape : Shape α) : Shape (List α) where
  ofTree
    | .arr xs => xs.mapM shape.ofTree
    | v => .error (.of v "a sequence")
  ofText bound depth input :=
    match skipBlank input with
    | Octet.openBracket :: rest =>
      match depth with
      | 0 => .error (.here .tooDeep (Octet.openBracket :: rest))
      | depth + 1 => settle afterList (elements (shape.ofText bound depth) bound true rest)
    | _ => wrongKind bound "a sequence" input

end Shape

structure Field (σ : Type) where
  name : String
  /-- Whether the field has to be there. -/
  required : Bool
  /-- A value of the field, as what it does to the record. -/
  shape : Shape (σ → σ)

def Field.of {σ α : Type} (name : String) (required : Bool) (shape : Shape α)
    (put : α → σ → σ) : Field σ where
  name := name
  required := required
  shape := {
    ofTree := fun v => (shape.ofTree v).map put
    ofText := fun bound depth input =>
      (shape.ofText bound depth input).map fun (x, rest) => (put x, rest) }

/-- A record: what it is called, what it is before any field is known, and its fields. -/
structure Record (σ : Type) where
  name : String
  blank : σ
  fields : List (Field σ)

namespace Record

variable {σ : Type} (record : Record σ)

def expected : String := "struct " ++ record.name

def expectedFields : String :=
  record.expected ++ " with " ++ toString record.fields.length ++
    (if record.fields.length = 1 then " element" else " elements")

def field? (name : String) : Option (Field σ) :=
  record.fields.find? fun f => f.name = name

/-- The first required field that is not among the names. -/
def missing? (names : List String) : Option (Field σ) :=
  record.fields.find? fun f => f.required && !names.contains f.name

/-- Puts the members of an object into a record, in their order. -/
def putMembers : σ → Members → Except Mismatch σ
  | partly, [] => .ok partly
  | partly, (key, v) :: rest =>
    match record.field? key with
    | none => putMembers partly rest
    | some f => do
      let put ← f.shape.ofTree v
      putMembers (put partly) rest

/-- Puts the elements of a list into a record, each into the field at its position.  The number
counts the fields before, and `total` the elements of the whole list. -/
def putElements (total : Nat) : Nat → σ → List (Field σ) → List Json → Except Mismatch σ
  | _, partly, [], [] => .ok partly
  | _, _, [], _ :: _ => .error (.length total "fewer elements in array")
  | n, partly, f :: fields, [] =>
    if f.required then .error (.length n record.expectedFields)
    else putElements total (n + 1) partly fields []
  | n, partly, f :: fields, v :: rest => do
    let put ← f.shape.ofTree v
    putElements total (n + 1) (put partly) fields rest

def ofTree : Json → Except Mismatch σ
  | .obj members => do
    let whole ← record.putMembers record.blank members
    match record.missing? (members.map (·.1)) with
    | some f => .error (.missingField f.name)
    | none => .ok whole
  | .arr items => record.putElements items.length 0 record.blank record.fields items
  | v => .error (.of v record.expected)

/-- Reads the members of an object into a record, up to the closing brace, which is left.  The
names are those of the fields read so far. -/
def readMembers (bound depth : Nat) : Nat → Bool → List String → σ → Reader σ
  | 0, _, _, _, input => .error (.past .stalled input)
  | steps + 1, first, names, partly, input => do
    match ← ObjectStep.read bound first input with
    | .closing rest =>
      match record.missing? names with
      | some f => .error (.loose (.missingField f.name) rest)
      | none => .ok (partly, rest)
    | .member key rest =>
      match record.field? key with
      | none => do
        let rest ← afterColon rest
        let rest ← skipValue bound rest
        readMembers bound depth steps false names partly rest
      | some f =>
        if names.contains f.name then .error (.loose (.duplicateField f.name) rest)
        else do
          let rest ← afterColon rest
          let (put, rest) ← f.shape.ofText bound depth rest
          readMembers bound depth steps false (f.name :: names) (put partly) rest

/-- Reads the elements of a list into the fields of a record.  Whatever follows the last field is
left. -/
def readElements (bound depth : Nat) : Nat → σ → List (Field σ) → Reader σ
  | _, partly, [], input => .ok (partly, input)
  | n, partly, f :: fields, input => do
    match ← ListStep.read (n == 0) input with
    | .closing rest =>
      if f.required then .error (.loose (.length n record.expectedFields) rest)
      else readElements bound depth (n + 1) partly fields rest
    | .element rest =>
      let (put, rest) ← f.shape.ofText bound depth rest
      readElements bound depth (n + 1) (put partly) fields rest

def ofText (bound depth : Nat) : Reader σ := fun input =>
  match skipBlank input with
  | Octet.openBrace :: rest =>
    match depth with
    | 0 => .error (.here .tooDeep (Octet.openBrace :: rest))
    | depth + 1 => settle afterObject do
      let (whole, rest) ← record.readMembers bound depth bound true [] record.blank rest
      return (whole, (skipBlank rest).tail)
  | Octet.openBracket :: rest =>
    match depth with
    | 0 => .error (.here .tooDeep (Octet.openBracket :: rest))
    | depth + 1 => settle afterList do
      let (whole, rest) ← record.readElements bound depth 0 record.blank record.fields rest
      return (whole, ← leaveList rest)
  | _ => wrongKind bound record.expected input

def shape : Shape σ where
  ofTree := record.ofTree
  ofText := record.ofText

end Record

end JsonRpc.Json
