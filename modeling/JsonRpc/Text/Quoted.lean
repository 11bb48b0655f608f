import JsonRpc.Text.Shown
/-!
# Quoted texts in messages

A message that repeats a text sets it between double quotes, so that its ends
and everything invisible in it can be seen.  The quote and the backslash are
escaped, the null, tab, return and newline have letters of their own, and what
a reader could not see is given by its code point in braces.
-/

namespace JsonRpc.Text

def quotedChar (c : Char) : List Char :=
  if c = '"' then ['\\', '"']
  else if c = '\\' then ['\\', '\\']
  else if c = '\x00' then ['\\', '0']
  else if c = '\t' then ['\\', 't']
  else if c = '\r' then ['\\', 'r']
  else if c = '\n' then ['\\', 'n']
  else if shown c then [c]
  else '\\' :: 'u' :: '\x7b' :: (Nat.toDigits 16 c.toNat ++ ['\x7d'])

def quoted (s : String) : String :=
  String.ofList ('"' :: (s.toList.flatMap quotedChar ++ ['"']))

end JsonRpc.Text
