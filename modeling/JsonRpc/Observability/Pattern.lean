import JsonRpc.Text.Blank
import JsonRpc.Text.Digit
import JsonRpc.Text.Word
/-!
# Patterns of field values

A log filter may ask that a field match a pattern, a regular expression.  This
file tells whether a text is a pattern.  Patterns are compiled to automata
that read whole texts octet by octet and know no properties of characters, so
several things that other dialects offer are refused: classes of characters by
property, digits and words beyond ASCII, letters regardless of case beyond
ASCII, and all that could match a part of a character.

A pattern is read from left to right, one element at a time.  What has been
read is remembered as a `Scan`: the modes in force, the groups that are open,
and whether there is something that a repetition could repeat.  Between the
brackets of a class other rules hold than outside; a class may contain further
classes, and its first characters have rules of their own.

A boundary of words beyond ASCII is not refused before the whole pattern has
been read, because it is the automaton that cannot have it.
-/

namespace JsonRpc.Observability.Pattern

inductive Fault where
  | malformed
  /-- It asks for a boundary of words beyond ASCII. -/
  | wordBoundary
  deriving DecidableEq, Repr

def Fault.message : Fault → String
  | .malformed => "error building NFA"
  | .wordBoundary =>
    "unsupported regex feature for DFAs: cannot build DFAs for regexes with Unicode word " ++
      "boundaries; switch to ASCII word boundaries, or heuristically enable Unicode word " ++
      "boundaries or use a different regex engine"

structure Modes where
  ignoreCase : Bool := false
  unicode : Bool := true
  verbose : Bool := false
  deriving DecidableEq, Repr

/-- Drops blanks and comments, which reach to the end of their line. -/
def dropGap (inComment : Bool) : List Char → List Char
  | [] => []
  | c :: cs =>
    if inComment then dropGap (c ≠ '\n') cs
    else if Text.isBlank c then dropGap false cs
    else if c = '#' then dropGap true cs
    else c :: cs

/-- What follows, without what a verbose pattern has between its elements. -/
def Modes.skip (m : Modes) (cs : List Char) : List Char :=
  if m.verbose then dropGap false cs else cs

/-- The character after the next one.  In a verbose pattern blanks are passed over, and a sign of
a comment with them. -/
def Modes.peek? (m : Modes) (cs : List Char) : Option Char :=
  if m.verbose then
    match cs.dropWhile Text.isBlank with
    | '#' :: cs => (cs.dropWhile Text.isBlank).head?
    | cs => cs.head?
  else cs.head?

/-- An element of a pattern that stands for one character or for none. -/
inductive Atom where
  /-- A character; `isCode` tells whether it was given by a code of two digits. -/
  | literal (c : Char) (isCode : Bool)
  /-- Any character of a kind, or any other. -/
  | kind (negated : Bool)
  | anchor
  | wordBoundary

/-- Whether a character can be meant literally.  Cases beyond ASCII are not known, and a code of
two digits is an octet where characters are not looked at. -/
def Modes.admits (m : Modes) (c : Char) (isCode : Bool) : Bool :=
  if m.unicode then !m.ignoreCase else !isCode || c.toNat < 0x80

def Modes.admitsMember (m : Modes) (c : Char) : Bool :=
  if m.unicode then !m.ignoreCase else c.toNat < 0x80

def Modes.admitsKind (m : Modes) (negated : Bool) : Bool := !m.unicode && !negated

def Modes.admitsNamed (m : Modes) (negated : Bool) : Bool :=
  if m.unicode then !m.ignoreCase else !negated

/-- A number of hexadecimal digits, and their value after what has been read of it. -/
def digits (m : Modes) : Nat → Nat → List Char → Option (Nat × List Char)
  | 0, value, cs => some (value, cs)
  | n + 1, value, cs =>
    match m.skip cs with
    | [] => none
    | c :: cs => do digits m n (value * 16 + (← Text.hexDigit? c)) cs

def code (m : Modes) (n : Nat) (cs : List Char) : Option (Atom × List Char) := do
  let (value, rest) ← digits m n 0 cs
  if value.isValidChar then some (.literal (Char.ofNat value) (n = 2), rest) else none

/-- Whether a backslash makes a character mean itself. -/
def isEscapable (c : Char) : Bool :=
  c.toNat < 0x80 && !c.isAlphanum && c ≠ '<' && c ≠ '>'

/-- What stands behind a backslash. -/
def escape (m : Modes) : List Char → Option (Atom × List Char)
  | [] => none
  | c :: cs =>
    match c with
    | 'x' => code m 2 cs
    | 'u' => code m 4 cs
    | 'U' => code m 8 cs
    | 'd' | 's' | 'w' => some (.kind false, cs)
    | 'D' | 'S' | 'W' => some (.kind true, cs)
    | 'a' => some (.literal '\x07' false, cs)
    | 'f' => some (.literal '\x0c' false, cs)
    | 't' => some (.literal '\t' false, cs)
    | 'n' => some (.literal '\n' false, cs)
    | 'r' => some (.literal '\r' false, cs)
    | 'v' => some (.literal '\x0b' false, cs)
    | 'A' | 'z' => some (.anchor, cs)
    | 'b' => if cs.head? = some '\x7b' then none else some (.wordBoundary, cs)
    | 'B' | '<' | '>' => some (.wordBoundary, cs)
    | c => if isEscapable c then some (.literal c false, cs) else none

def member (m : Modes) : List Char → Option (Atom × List Char)
  | [] => none
  | '\\' :: cs => escape m cs
  | c :: cs => some (.literal c false, cs)

/-- A character of a class, a kind of characters, or a range of them, and what follows.  A minus
sign at the end or before another one is no range. -/
def range (m : Modes) (cs : List Char) : Option (List Char) := do
  let (low, cs) ← member m cs
  let cs := m.skip cs
  let alone : Option (List Char) := match low with
    | .literal c _ => if m.admitsMember c then some cs else none
    | .kind negated => if m.admitsKind negated then some cs else none
    | _ => none
  match cs with
  | '-' :: rest =>
    if m.peek? rest = some ']' ∨ m.peek? rest = some '-' then alone
    else match low, ← member m (m.skip rest) with
      | .literal a _, (.literal b _, rest) =>
        if a ≤ b ∧ m.admitsMember a ∧ m.admitsMember b then some rest else none
      | _, _ => none
  | _ => alone

def asciiClasses : List String :=
  ["alnum", "alpha", "ascii", "blank", "cntrl", "digit", "graph", "lower", "print", "punct",
    "space", "upper", "word", "xdigit"]

/-- A class of ASCII characters behind its opening bracket: whether it is negated, and what
follows. -/
def asciiClass? : List Char → Option (Bool × List Char)
  | ':' :: cs =>
    let (negated, cs) := match cs with
      | '^' :: cs => (true, cs)
      | cs => (false, cs)
    match cs.dropWhile (· ≠ ':') with
    | ':' :: ']' :: rest =>
      if asciiClasses.contains (String.ofList (cs.takeWhile (· ≠ ':'))) then some (negated, rest)
      else none
    | _ => none
  | _ => none

inductive Place where
  | outside
  /-- Right behind the bracket that opens a class. -/
  | opened
  /-- Behind the sign that negates a class. -/
  | negated
  /-- Behind minus signs with which a class begins. -/
  | dashes
  | inside
  deriving DecidableEq, Repr

structure Scan where
  modes : Modes := {}
  /-- The modes to return to at the ends of the groups that are open, the innermost first. -/
  groups : List Modes := []
  /-- The names of groups given so far. -/
  names : List (List Char) := []
  place : Place := .outside
  /-- The number of classes around the innermost one that is open. -/
  depth : Nat := 0
  /-- Whether there is something to repeat. -/
  repeatable : Bool := false
  /-- Whether the pattern asks for a boundary of words beyond ASCII. -/
  wordBoundary : Bool := false

def Scan.enter (s : Scan) (modes : Modes) : Scan :=
  { s with modes, groups := s.modes :: s.groups, repeatable := false }

def isGroupName : List Char → Bool
  | [] => false
  | c :: cs =>
    (c = '_' || Text.isLetter c) && cs.all fun c => "_.[]".toList.contains c || Text.isWordChar c

/-- A group with a name, behind the bracket that opens the name. -/
def Scan.named (s : Scan) (cs : List Char) : Option (Scan × List Char) :=
  let name := cs.takeWhile (· ≠ '>')
  match cs.dropWhile (· ≠ '>') with
  | [] => none
  | _ :: rest =>
    if isGroupName name && !s.names.contains name then
      some ({ s.enter s.modes with names := name :: s.names }, rest)
    else none

/-- The modes after a list of flags.  Each may be named once; those behind the minus sign are
turned off. -/
def Modes.set (m : Modes) (flags : List Char) : Option Modes :=
  let on := flags.takeWhile (· ≠ '-')
  let off := flags.dropWhile (· ≠ '-')
  let mode (flag : Char) (now : Bool) := (now || on.contains flag) && !off.contains flag
  if flags.eraseDups.length < flags.length || flags.getLast? = some '-' ||
      !flags.all "imsUuRx-".toList.contains then none
  else some ⟨mode 'i' m.ignoreCase, mode 'u' m.unicode, mode 'x' m.verbose⟩

/-- A group or a change of modes, behind its opening parenthesis. -/
def Scan.openGroup (s : Scan) (cs : List Char) : Option (Scan × List Char) :=
  match s.modes.skip cs with
  | '?' :: 'P' :: '<' :: cs => s.named cs
  | '?' :: '<' :: cs => s.named cs
  | '?' :: cs =>
    let isEnd (c : Char) : Bool := c = ':' || c = ')'
    let flags := cs.takeWhile fun c => !isEnd c
    match cs.dropWhile fun c => !isEnd c with
    | [] => none
    | c :: rest => do
      let modes ← s.modes.set flags
      if c = ':' then some (s.enter modes, rest)
      else if flags.isEmpty then none
      else some ({ s with modes, repeatable := false }, rest)
  | cs => some (s.enter s.modes, cs)

/-- What is read once something that can be repeated has been. -/
def Scan.item (s : Scan) (rest : List Char) : Option (Scan × List Char) :=
  some ({ s with repeatable := true }, rest)

def Scan.atom (s : Scan) (rest : List Char) : Atom → Option (Scan × List Char)
  | .literal c isCode => if s.modes.admits c isCode then s.item rest else none
  | .kind negated => if s.modes.admitsKind negated then s.item rest else none
  | .anchor => s.item rest
  | .wordBoundary => Scan.item { s with wordBoundary := s.wordBoundary || s.modes.unicode } rest

def Scan.outside (s : Scan) : List Char → Option (Scan × List Char)
  | [] => none
  | c :: cs =>
    match c with
    | '(' => s.openGroup cs
    | ')' =>
      match s.groups with
      | [] => none
      | modes :: groups => Scan.item { s with modes, groups } cs
    | '|' => some ({ s with repeatable := false }, cs)
    | '[' => some ({ s with place := .opened }, cs)
    | '?' | '*' | '+' =>
      if s.repeatable then s.item (if cs.head? = some '?' then cs.tail else cs) else none
    | '\x7b' => none
    | '\\' => do
      let (atom, rest) ← escape s.modes cs
      s.atom rest atom
    | '.' => if s.modes.unicode then s.item cs else none
    | '^' | '$' => s.item cs
    | c => s.atom cs (.literal c false)

def Scan.inside (s : Scan) (cs : List Char) : Option (Scan × List Char) :=
  let stay (rest : List Char) : Option (Scan × List Char) :=
    some ({ s with place := .inside }, rest)
  match cs with
  | [] => none
  | '[' :: rest =>
    match asciiClass? rest with
    | some (negated, rest) => if s.modes.admitsNamed negated then stay rest else none
    | none => some ({ s with place := .opened, depth := s.depth + 1 }, rest)
  | ']' :: rest =>
    match s.depth with
    | 0 => Scan.item { s with place := .outside } rest
    | depth + 1 => some ({ s with place := .inside, depth }, rest)
  | '&' :: '&' :: rest | '-' :: '-' :: rest | '~' :: '~' :: rest => stay rest
  | cs => do stay (← range s.modes cs)

/-- One element.  A class may begin with a sign that negates it, then with minus signs that mean
themselves, and a closing bracket that would leave it empty means itself. -/
def Scan.next (s : Scan) (cs : List Char) : Option (Scan × List Char) :=
  let plain (place : Place) (c : Char) (rest : List Char) : Option (Scan × List Char) :=
    if s.modes.admitsMember c then some ({ s with place }, rest) else none
  match s.place, cs with
  | .outside, cs => s.outside cs
  | .opened, '^' :: rest =>
    if s.modes.unicode then some ({ s with place := .negated }, rest) else none
  | .opened, '-' :: rest | .negated, '-' :: rest | .dashes, '-' :: rest => plain .dashes '-' rest
  | .opened, ']' :: rest | .negated, ']' :: rest => plain .inside ']' rest
  | _, cs => s.inside cs

/-- Reads a pattern to its end.  The first argument bounds the number of its elements. -/
def Scan.run : Nat → Scan → List Char → Option Scan
  | 0, _, _ => none
  | bound + 1, s, cs =>
    match s.modes.skip cs with
    | [] => some s
    | cs => do
      let (s, rest) ← s.next cs
      run bound s rest

def check (cs : List Char) : Except Fault Unit :=
  match Scan.run (cs.length + 1) {} cs with
  | none => .error .malformed
  | some s =>
    if s.place ≠ .outside || !s.groups.isEmpty then .error .malformed
    else if s.wordBoundary then .error .wordBoundary
    else .ok ()

end JsonRpc.Observability.Pattern
