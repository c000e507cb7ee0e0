set_option autoImplicit false

/-!
# Prices

A fixed-point price counts units of 10⁻⁹.
-/

namespace MarketFeed.Price

def scale : Float := 1000000000.0

/-- A fixed-point price as a floating-point number. -/
def ofFixed (fixed : Int64) : Float := fixed.toFloat / scale

/-- The fixed-point price nearest to a number, a half away from zero. A number out of range becomes
the nearer end of the range, and one that is not a number becomes zero. -/
def toFixed (price : Float) : Int64 := (price * scale).round.toInt64

end MarketFeed.Price
