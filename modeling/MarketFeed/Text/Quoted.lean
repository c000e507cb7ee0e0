import MarketFeed.Text.Quoted.Table
import MarketFeed.Text.Ranges

set_option autoImplicit false

/-!
# Quoted text for people

A text in quotes in which every character can be told apart: the quote, the backslash and four
controls have short escapes, and a character that cannot be seen by itself is written as its code
point in braces.
-/

namespace MarketFeed.Quoted

/-- A number in lower-case hexadecimal, without leading zeros. -/
def hex (n : Nat) : List Char := Nat.toDigits 16 n

/-- The form of a character between the quotes. -/
def escape (c : Char) : List Char :=
  if c = '"' then ['\\', '"']
  else if c = '\\' then ['\\', '\\']
  else if c = '\x00' then ['\\', '0']
  else if c = '\t' then ['\\', 't']
  else if c = '\r' then ['\\', 'r']
  else if c = '\n' then ['\\', 'n']
  else if inRanges extenders c || inRanges unprintable c then
    '\\' :: 'u' :: '\x7b' :: (hex c.toNat ++ ['\x7d'])
  else [c]

def quote (s : String) : String := String.ofList ('"' :: s.toList.flatMap escape ++ ['"'])

end MarketFeed.Quoted
