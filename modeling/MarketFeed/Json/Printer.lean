import MarketFeed.Bytes
import MarketFeed.Json.Value

set_option autoImplicit false

/-!
# Compact JSON text

No blanks, members in order. In a string the quote, the backslash and the control characters below
U+0020 are escaped, with the short escape where there is one, and nothing else is.
-/

namespace MarketFeed.Json

def escape (c : Char) : List Char :=
  if c = '"' then ['\\', '"']
  else if c = '\\' then ['\\', '\\']
  else if c = '\x08' then ['\\', 'b']
  else if c = '\x0c' then ['\\', 'f']
  else if c = '\n' then ['\\', 'n']
  else if c = '\r' then ['\\', 'r']
  else if c = '\t' then ['\\', 't']
  else if c.toNat < 32 then '\\' :: 'u' :: '0' :: '0' :: hexByte c.toNat.toUInt8
  else [c]

def quote (s : String) : List Char := '"' :: s.toList.flatMap escape ++ ['"']

/-- A string literal; one that stands for no text is written as half of a surrogate pair. -/
def literal : Literal → List Char
  | some s => quote s
  | none => ['"', '\\', 'u', 'd', '8', '0', '0', '"']

def digits (n : Int) : List Char :=
  if n < 0 then '-' :: Nat.toDigits 10 n.natAbs else Nat.toDigits 10 n.natAbs

mutual

def render : Json → List Char
  | .null => ['n', 'u', 'l', 'l']
  | .bool true => ['t', 'r', 'u', 'e']
  | .bool false => ['f', 'a', 'l', 's', 'e']
  | .int n => digits n
  | .real s => s
  | .str s => literal s
  | .arr items => '[' :: renderItems items
  | .obj members => '\x7b' :: renderMembers members

/-- The items of an array and its closing bracket. -/
def renderItems : List Json → List Char
  | [] => [']']
  | [v] => render v ++ [']']
  | v :: vs => render v ++ ',' :: renderItems vs

/-- The members of an object and its closing brace. -/
def renderMembers : List (Literal × Json) → List Char
  | [] => ['\x7d']
  | [(k, v)] => literal k ++ ':' :: (render v ++ ['\x7d'])
  | (k, v) :: ms => literal k ++ ':' :: (render v ++ ',' :: renderMembers ms)

end

def compact (j : Json) : String := String.ofList j.render

end MarketFeed.Json
