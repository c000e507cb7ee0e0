import MarketFeed.Text.Ranges

set_option autoImplicit false

/-!
# Blanks

The blanks of a text are the characters with the Unicode property White_Space. `trim` removes them
at both ends.
-/

namespace MarketFeed

/-- The characters with the property White_Space. -/
def blanks : List (Nat × Nat) :=
  [(0x09, 0x0D), (0x20, 0x20), (0x85, 0x85), (0xA0, 0xA0), (0x1680, 0x1680), (0x2000, 0x200A),
    (0x2028, 0x2029), (0x202F, 0x202F), (0x205F, 0x205F), (0x3000, 0x3000)]

def isBlank (c : Char) : Bool := inRanges blanks c

/-- A list without the members at both ends for which `p` holds. -/
def trimList {α : Type} (p : α → Bool) (l : List α) : List α :=
  ((l.dropWhile p).reverse.dropWhile p).reverse

/-- A text without the blanks at both ends. -/
def trim (s : String) : String := String.ofList (trimList isBlank s.toList)

/-- Whether a text is empty or holds blanks only. -/
def isBlankText (s : String) : Bool := s.toList.all isBlank

end MarketFeed
