import MarketFeed.Text.Utf8

set_option autoImplicit false

/-!
# Text fields of a fixed width

A field of `width` bytes holds a text and then NULs. Writing keeps as many bytes as leave room for
one NUL (`FixedField.write`); reading ends at the first NUL and puts U+FFFD where the bytes are not
UTF-8 (`FixedField.read`), which is also what becomes of a character that writing cut.
-/

namespace MarketFeed.FixedField

/-- The bytes of a field of `width` bytes that holds `text`. -/
def write (width : Nat) (text : String) : Bytes :=
  let kept := (Utf8.encode text.toList).take (width - 1)
  kept ++ List.replicate (width - kept.length) 0

def read (field : Bytes) : String :=
  String.ofList (Utf8.decodeLossy (field.takeWhile (· != 0)))

end MarketFeed.FixedField
