import JsonRpc.Text.Digit
/-!
# URIs

A URI has a scheme, an authority, and a path with a query.  Three short forms
are in use beside the full one: a path alone, an authority alone, and the star
that stands for everything.

Which characters may occur depends on the part.  An authority is made of
printable ASCII characters; its brackets enclose one host, it has at most one
colon outside of them, and something has to follow its user information.  Paths
and queries are wider and admit most of what people write there without
escaping it, all characters beyond ASCII among them.
-/

namespace JsonRpc

inductive UriFault where
  | empty
  | character
  | authority
  | format
  | longScheme
  | long
  deriving DecidableEq, Repr

def UriFault.message : UriFault → String
  | .empty => "empty string"
  | .character => "invalid uri character"
  | .authority => "invalid authority"
  | .format => "invalid format"
  | .longScheme => "scheme too long"
  | .long => "uri too long"

/-- A URI in parts.  The path takes its query along. -/
structure Uri where
  scheme : Option String
  authority : Option String
  path : String
  deriving DecidableEq, Repr

namespace Uri

def isSchemeChar (c : Char) : Bool := c.isAlphanum || c = '+' || c = '-' || c = '.' || c = '~'

def isAuthorityChar (c : Char) : Bool :=
  c.isAlphanum || "!$&'()*+,-.:;=@[]_~".toList.contains c

def endsAuthority (c : Char) : Bool := c = '/' || c = '?' || c = '#'

def isPathChar (c : Char) : Bool :=
  0x7F ≤ c.toNat || c.isAlphanum || "!\"$%&'()*+,-./:;=@[\\]^_\x7b|\x7d~".toList.contains c

def isQueryChar (c : Char) : Bool :=
  0x7F ≤ c.toNat || c.isAlphanum || "!$%&'()*+,-./:;=?@[\\]^_`\x7b|\x7d~".toList.contains c

/-- What has been seen of an authority. -/
structure Seen where
  colons : Nat := 0
  opened : Bool := false
  closed : Bool := false
  percent : Bool := false
  /-- Whether user information has just ended. -/
  userEnded : Bool := false

/-- Takes notice of one more character.  Colons and percent signs of user information are no
matter, nor are those inside the brackets of a host. -/
def Seen.next (s : Seen) (c : Char) : Except UriFault Seen :=
  let s := { s with userEnded := false }
  if c = ':' then
    if 8 ≤ s.colons then .error .authority else .ok { s with colons := s.colons + 1 }
  else if c = '[' then
    if s.percent || s.opened then .error .authority else .ok { s with opened := true }
  else if c = ']' then
    if !s.opened || s.closed then .error .authority
    else .ok { s with closed := true, colons := 0, percent := false }
  else if c = '@' then .ok { s with colons := 0, percent := false, userEnded := true }
  else if c = '%' then .ok { s with percent := true }
  else if isAuthorityChar c then .ok s
  else .error .character

def Seen.isComplete (s : Seen) : Bool :=
  s.opened == s.closed && s.colons ≤ 1 && !s.userEnded && !s.percent

def checkAuthority (cs : List Char) : Except UriFault Unit := do
  let seen ← cs.foldlM Seen.next {}
  if seen.isComplete then .ok () else .error .authority

/-- The query behind a path, as far as a fragment. -/
def query : List Char → Except UriFault (List Char)
  | [] => .ok []
  | c :: cs =>
    if c = '#' then .ok []
    else if isQueryChar c then return c :: (← query cs)
    else .error .character

def pathAndQuery : List Char → Except UriFault (List Char)
  | [] => .ok []
  | c :: cs =>
    if c = '#' then .ok []
    else if c = '?' then return c :: (← query cs)
    else if isPathChar c then return c :: (← pathAndQuery cs)
    else .error .character

/-- Takes the scheme off, and the sign behind it. -/
def splitScheme (cs : List Char) : Except UriFault (Option String × List Char) :=
  let scheme := cs.takeWhile isSchemeChar
  match cs.dropWhile isSchemeChar with
  | ':' :: '/' :: '/' :: rest =>
    if scheme.isEmpty && rest.isEmpty then .ok (none, cs)
    else if 64 < scheme.length then .error .longScheme
    else .ok (some (String.ofList scheme), rest)
  | _ => .ok (none, cs)

/-- Reads a URI with its scheme, or an authority alone.  Where there is a scheme, an authority has
to follow; where there is none, nothing may follow the authority. -/
def parseFull (cs : List Char) : Except UriFault Uri := do
  let (scheme, rest) ← splitScheme cs
  if rest.isEmpty then throw .empty
  let authority := rest.takeWhile fun c => !endsAuthority c
  let tail := rest.dropWhile fun c => !endsAuthority c
  checkAuthority authority
  match scheme with
  | none =>
    if tail.isEmpty then return ⟨none, String.ofList authority, ""⟩
    else throw (if cs.length = 1 then .character else .format)
  | some scheme =>
    if authority.isEmpty then throw .format
    return ⟨scheme, String.ofList authority, String.ofList (← pathAndQuery tail)⟩

def parse (text : String) : Except UriFault Uri :=
  if 65534 < text.utf8ByteSize then .error .long
  else match text.toList with
    | [] => .error .empty
    | ['*'] => .ok ⟨none, none, "*"⟩
    | '/' :: cs => do return ⟨none, none, String.ofList (← pathAndQuery ('/' :: cs))⟩
    | cs => parseFull cs

def port? (u : Uri) : Option Nat := do
  let cs ← u.authority.map String.toList
  if !cs.contains ':' then none
  else
    let port ← Text.number? (cs.reverse.takeWhile (· ≠ ':')).reverse
    if port < 65536 then some port else none

end Uri

end JsonRpc
