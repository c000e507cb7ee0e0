import MarketFeed.Text.Letter.Table
import MarketFeed.Text.Ranges

set_option autoImplicit false

/-!
# Letters and numbers

The characters of words and of numbers in any script.
-/

namespace MarketFeed

/-- Whether a character has the property Alphabetic. -/
def isAlphabetic (c : Char) : Bool := inRanges Letter.alphabetic c

/-- Whether a character is alphabetic or stands for a number. -/
def isAlphanumeric (c : Char) : Bool := isAlphabetic c || inRanges Letter.numeric c

end MarketFeed
