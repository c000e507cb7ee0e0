set_option autoImplicit false

/-!
# Symbology

How a symbol names an instrument. A symbology's code is its place in `Symbology.all`.
-/

namespace MarketFeed

inductive Symbology where
  | instrumentId | rawSymbol | smart | continuous | parent | nasdaqSymbol | cmsSymbol
  | isin | usCode | bbgCompId | bbgCompTicker | figi | figiTicker
  deriving DecidableEq, Inhabited

namespace Symbology

/-- Every symbology in the order of the codes. -/
def all : List Symbology :=
  [instrumentId, rawSymbol, smart, continuous, parent, nasdaqSymbol, cmsSymbol, isin, usCode,
    bbgCompId, bbgCompTicker, figi, figiTicker]

def code (s : Symbology) : Nat := all.idxOf s

def ofCode? (n : Nat) : Option Symbology := all[n]?

def name : Symbology → String
  | instrumentId => "instrument_id" | rawSymbol => "raw_symbol" | smart => "smart"
  | continuous => "continuous" | parent => "parent" | nasdaqSymbol => "nasdaq_symbol"
  | cmsSymbol => "cms_symbol" | isin => "isin" | usCode => "us_code"
  | bbgCompId => "bbg_comp_id" | bbgCompTicker => "bbg_comp_ticker"
  | figi => "figi" | figiTicker => "figi_ticker"

def ofName? (s : String) : Option Symbology := all.find? (·.name == s)

end Symbology

end MarketFeed
