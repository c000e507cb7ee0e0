import MarketFeed.Text.LowerCase.Table
import MarketFeed.Text.Ranges

set_option autoImplicit false

/-!
# Lower case

The lower-case form of a text. Every character has a form of its own, with two exceptions: a
capital I with a dot becomes two characters, and a capital sigma has a second form at the end of a
word. A word ends at a sigma if, past the characters that case rules ignore, a cased character
comes before it and none after it.
-/

namespace MarketFeed.LowerCase

def ofChar (c : Char) : List Char :=
  if c = '\u0130' then ['i', '\u0307']
  else
    match lowerRuns.find? fun r =>
      r.first ≤ c.toNat && c.toNat ≤ r.last && (c.toNat - r.first) % r.step == 0 with
    | some r => [Char.ofNat (c.toNat + r.offset).toNat]
    | none => [c]

/-- Whether the first character that case rules do not ignore is cased. -/
def startsCased (cs : List Char) : Bool :=
  match cs.dropWhile (inRanges ignorable) with
  | c :: _ => inRanges cased c
  | [] => false

/-- The form of a capital sigma between the characters before it, last first, and those after. -/
def sigma (before after : List Char) : Char :=
  if startsCased before && !startsCased after then '\u03C2' else '\u03C3'

/-- The lower-case form of a text that follows the characters `before`, last first. -/
def after (before : List Char) : List Char → List Char
  | [] => []
  | c :: cs => (if c = '\u03A3' then [sigma before cs] else ofChar c) ++ after (c :: before) cs

end MarketFeed.LowerCase

namespace MarketFeed

def lowerCase (s : String) : String := String.ofList (LowerCase.after [] s.toList)

end MarketFeed
