import JsonRpc.Text.Blank
import JsonRpc.Text.Digit
import JsonRpc.Text.Quoted
/-!
# Tokens of declarations

An interface is declared in source text.  This file splits such a text into
tokens: words, lifetimes, literals, signs and brackets.  Blanks and comments
between tokens are dropped, and a documentation comment stands for the
attribute that says the same.

Only two signs of two characters are kept together, because they would mean
something else when split: the one between the parts of a path, and the arrow
in front of a type, which is no closing bracket.

A literal keeps the text as which it was written.  If it is a string of
characters, it has a value as well: its content, with the escapes resolved.
-/

namespace JsonRpc.Declaration

inductive Bracket where
  | round
  | square
  | curly
  deriving DecidableEq, Repr

inductive Token where
  /-- An identifier or a keyword; a raw identifier keeps its mark. -/
  | word (text : String)
  | lifetime (text : String)
  | literal (text : String) (value : Option String)
  | sign (text : String)
  | opening (b : Bracket)
  | closing (b : Bracket)
  deriving DecidableEq, Repr

namespace Token

def text : Token → String
  | word s | lifetime s | literal s _ | sign s => s
  | opening .round => "("
  | opening .square => "["
  | opening .curly => "\x7b"
  | closing .round => ")"
  | closing .square => "]"
  | closing .curly => "\x7d"

/-- The text of tokens, without blanks. -/
def textOf (tokens : List Token) : String :=
  String.ofList ((tokens.flatMap fun t => t.text.toList).filter (· ≠ ' '))

/-! ### What is between tokens -/

/-- Whether a character separates tokens.  The two marks of direction do so as well. -/
def isSpace (c : Char) : Bool := Text.isBlank c || c = '\u200e' || c = '\u200f'

def line : List Char → List Char × List Char
  | [] => ([], [])
  | '\n' :: cs => ([], '\n' :: cs)
  | '\r' :: '\n' :: cs => ([], '\n' :: cs)
  | c :: cs =>
    let (content, rest) := line cs
    (c :: content, rest)

/-- The content of a comment behind its opening, and what follows its end.  Comments may contain
comments. -/
def comment (depth : Nat) : List Char → Option (List Char × List Char)
  | [] => none
  | '*' :: '/' :: cs =>
    match depth with
    | 0 => some ([], cs)
    | depth + 1 => do
      let (content, rest) ← comment depth cs
      return ('*' :: '/' :: content, rest)
  | '/' :: '*' :: cs => do
    let (content, rest) ← comment (depth + 1) cs
    return ('/' :: '*' :: content, rest)
  | c :: cs => do
    let (content, rest) ← comment depth cs
    return (c :: content, rest)

/-- The attribute for which a documentation comment stands.  An inner one documents what it stands
in. -/
def documentation (inner : Bool) (content : List Char) : List Token :=
  let s := String.ofList content
  (sign "#" :: if inner then [sign "!"] else []) ++
    [opening .square, word "doc", sign "=", literal (Text.quoted s) (some s), closing .square]

/-- A comment at the start of a text: the tokens that it stands for, and what follows it. -/
def commentAt? : List Char → Option (List Token × List Char)
  | '/' :: '/' :: '!' :: cs => some (documentation true (line cs).1, (line cs).2)
  | '/' :: '/' :: '/' :: '/' :: cs => some ([], (line cs).2)
  | '/' :: '/' :: '/' :: cs => some (documentation false (line cs).1, (line cs).2)
  | '/' :: '/' :: cs => some ([], (line cs).2)
  | '/' :: '*' :: cs => do
    let (content, rest) ← comment 0 cs
    match content with
    | '!' :: content => return (documentation true content, rest)
    | '*' :: '*' :: _ => return ([], rest)
    | '*' :: content => return (documentation false content, rest)
    | _ => return ([], rest)
  | _ => none

/-! ### Words and literals -/

/-- Whether a word may begin with a character.  Characters beyond ASCII are taken for letters. -/
def isWordStart (c : Char) : Bool := c.isAlpha || c = '_' || (0x80 ≤ c.toNat && !isSpace c)

def isWordPart (c : Char) : Bool := isWordStart c || c.isDigit

/-- How the next character of a string is meant. -/
inductive Reading where
  | plain
  /-- Behind the end of a line that is passed over with the blanks after it. -/
  | joined
  | escaped
  /-- Behind an escape that gives a character by two digits, of which some have been read. -/
  | octet (digits value : Nat)
  /-- Inside the braces of an escape that gives a character by its code. -/
  | code (value : Nat)

def escapedChar (c : Char) : Char :=
  match c with
  | 'n' => '\n'
  | 'r' => '\r'
  | 't' => '\t'
  | '0' => '\x00'
  | c => c

/-- The content of a string with its escapes resolved.  A return in it belongs to the end of a
line. -/
def unescape : Reading → List Char → List Char
  | _, [] => []
  | .escaped, c :: cs =>
    match c with
    | 'x' => unescape (.octet 0 0) cs
    | 'u' => unescape (.code 0) cs
    | '\n' | '\r' => unescape .joined cs
    | c => escapedChar c :: unescape .plain cs
  | .octet digits value, c :: cs =>
    let value := value * 16 + (Text.hexDigit? c).getD 0
    if digits = 0 then unescape (.octet 1 value) cs else Char.ofNat value :: unescape .plain cs
  | .code value, c :: cs =>
    if c = '\x7d' then Char.ofNat value :: unescape .plain cs
    else match Text.hexDigit? c with
      | some d => unescape (.code (value * 16 + d)) cs
      | none => unescape (.code value) cs
  | reading, c :: cs =>
    match reading, c with
    | _, '\\' => unescape .escaped cs
    | .joined, c => if Text.isBlank c then unescape .joined cs else c :: unescape .plain cs
    | _, '\r' => unescape .plain cs
    | _, c => c :: unescape .plain cs

/-- The characters up to a closing quote that is not escaped, and those behind it. -/
def quoted? (quote : Char) : List Char → Option (List Char × List Char)
  | [] => none
  | '\\' :: c :: cs => do
    let (content, rest) ← quoted? quote cs
    return ('\\' :: c :: content, rest)
  | c :: cs =>
    if c = quote then some ([], cs)
    else do
      let (content, rest) ← quoted? quote cs
      return (c :: content, rest)

/-- The characters up to a quote that is followed by a number of hash signs, and those behind all
of them. -/
def rawQuoted? (hashes : Nat) : List Char → Option (List Char × List Char)
  | [] => none
  | c :: cs =>
    if c = '"' ∧ cs.take hashes = List.replicate hashes '#' then some ([], cs.drop hashes)
    else do
      let (content, rest) ← rawQuoted? hashes cs
      return (c :: content, rest)

/-- A literal as written, together with the letters that follow it at once. -/
def withSuffix (written : List Char) (value : Option (List Char)) (rest : List Char) :
    Token × List Char :=
  (literal (String.ofList (written ++ rest.takeWhile isWordPart)) (value.map String.ofList),
    rest.dropWhile isWordPart)

/-- A string between quotes, behind what says its kind.  Only a string of characters has a
value. -/
def string? (kind cs : List Char) : Option (Token × List Char) :=
  match cs with
  | '"' :: cs => do
    let (content, rest) ← quoted? '"' cs
    let value := if kind.isEmpty then some (unescape .plain content) else none
    return withSuffix (kind ++ '"' :: content ++ ['"']) value rest
  | _ => none

def rawString? (kind cs : List Char) : Option (Token × List Char) :=
  let hashes := cs.takeWhile (· = '#')
  match cs.dropWhile (· = '#') with
  | '"' :: cs => do
    let (content, rest) ← rawQuoted? hashes.length cs
    let value := if kind = ['r'] then some content else none
    return withSuffix (kind ++ hashes ++ '"' :: content ++ '"' :: hashes) value rest
  | _ => none

def character? (kind : List Char) : List Char → Option (Token × List Char)
  | '\'' :: '\\' :: c :: cs => do
    let (content, rest) ← quoted? '\'' cs
    return withSuffix (kind ++ '\'' :: '\\' :: c :: content ++ ['\'']) none rest
  | '\'' :: c :: '\'' :: rest => some (withSuffix (kind ++ ['\'', c, '\'']) none rest)
  | _ => none

def textLiteral? (cs : List Char) : Option (Token × List Char) :=
  match cs with
  | 'b' :: 'r' :: rest => rawString? ['b', 'r'] rest
  | 'c' :: 'r' :: rest => rawString? ['c', 'r'] rest
  | 'r' :: rest => rawString? ['r'] rest
  | 'b' :: rest => string? ['b'] rest <|> character? ['b'] rest
  | 'c' :: rest => string? ['c'] rest
  | cs => string? [] cs <|> character? [] cs

/-- A number at the start of a text.  A point belongs to it unless another point or a word
follows, and so does the sign of an exponent. -/
def number (cs : List Char) : Token × List Char :=
  let whole := cs.takeWhile isWordPart
  let rest := cs.dropWhile isWordPart
  let (written, rest) := match rest with
    | '.' :: after =>
      if after.head?.any fun c => c = '.' || isWordStart c then (whole, rest)
      else (whole ++ '.' :: after.takeWhile isWordPart, after.dropWhile isWordPart)
    | _ => (whole, rest)
  let isHexadecimal := whole.take 2 = ['0', 'x']
  match written.getLast?, rest with
  | some e, s :: after =>
    if !isHexadecimal && (e = 'e' || e = 'E') && (s = '+' || s = '-') then
      withSuffix (written ++ [s]) none after
    else withSuffix written none rest
  | _, _ => withSuffix written none rest

def signs : List Char := "~!@#$%^&*-=+|;:,<.>/?".toList

def next? (cs : List Char) : Option (Token × List Char) :=
  textLiteral? cs <|>
    match cs with
    | [] => none
    | '(' :: rest => some (opening .round, rest)
    | '[' :: rest => some (opening .square, rest)
    | '\x7b' :: rest => some (opening .curly, rest)
    | ')' :: rest => some (closing .round, rest)
    | ']' :: rest => some (closing .square, rest)
    | '\x7d' :: rest => some (closing .curly, rest)
    | ':' :: ':' :: rest => some (sign "::", rest)
    | '-' :: '>' :: rest => some (sign "->", rest)
    | '\'' :: rest =>
      let name := rest.takeWhile isWordPart
      some (lifetime (String.ofList ('\'' :: name)), rest.dropWhile isWordPart)
    | 'r' :: '#' :: rest =>
      let name := rest.takeWhile isWordPart
      some (word (String.ofList ('r' :: '#' :: name)), rest.dropWhile isWordPart)
    | c :: rest =>
      if c.isDigit then some (number cs)
      else if isWordStart c then
        some (word (String.ofList (cs.takeWhile isWordPart)), cs.dropWhile isWordPart)
      else if signs.contains c then some (sign (String.ofList [c]), rest)
      else none

/-- The tokens of a text.  The first argument bounds the number of tokens, comments and blanks. -/
def scanWithin : Nat → List Char → Option (List Token)
  | 0, _ => none
  | _, [] => some []
  | bound + 1, c :: cs =>
    if isSpace c then scanWithin bound cs
    else match commentAt? (c :: cs) with
      | some (tokens, rest) => do return tokens ++ (← scanWithin bound rest)
      | none => do
        let (token, rest) ← next? (c :: cs)
        return token :: (← scanWithin bound rest)

def scan? (source : String) : Option (List Token) :=
  scanWithin (source.toList.length + 1) source.toList

end Token

end JsonRpc.Declaration
