set_option autoImplicit false

/-!
# Record types

The type tags a record header may carry, and their names.
-/

namespace MarketFeed

inductive RecordType where
  | mbp0 | mbp1 | mbp10 | status | instrumentDef | imbalance | error | symbolMapping | system
  | statistics | ohlcv1s | ohlcv1m | ohlcv1h | ohlcv1d | ohlcvEod | mbo | cmbp1 | cbbo1s | cbbo1m
  | tcbbo | bbo1s | bbo1m
  deriving DecidableEq, Inhabited

namespace RecordType

/-- Every record type in the order of the tags. -/
def all : List RecordType :=
  [mbp0, mbp1, mbp10, status, instrumentDef, imbalance, error, symbolMapping, system, statistics,
    ohlcv1s, ohlcv1m, ohlcv1h, ohlcv1d, ohlcvEod, mbo, cmbp1, cbbo1s, cbbo1m, tcbbo, bbo1s, bbo1m]

def tag : RecordType → UInt8
  | mbp0 => 0x00 | mbp1 => 0x01 | mbp10 => 0x0A | status => 0x12 | instrumentDef => 0x13
  | imbalance => 0x14 | error => 0x15 | symbolMapping => 0x16 | system => 0x17
  | statistics => 0x18 | ohlcv1s => 0x20 | ohlcv1m => 0x21 | ohlcv1h => 0x22 | ohlcv1d => 0x23
  | ohlcvEod => 0x24 | mbo => 0xA0 | cmbp1 => 0xB1 | cbbo1s => 0xC0 | cbbo1m => 0xC1
  | tcbbo => 0xC2 | bbo1s => 0xC3 | bbo1m => 0xC4

def ofTag? (b : UInt8) : Option RecordType := all.find? (·.tag == b)

def name : RecordType → String
  | mbp0 => "Mbp0" | mbp1 => "Mbp1" | mbp10 => "Mbp10" | status => "Status"
  | instrumentDef => "InstrumentDef" | imbalance => "Imbalance" | error => "Error"
  | symbolMapping => "SymbolMapping" | system => "System" | statistics => "Statistics"
  | ohlcv1s => "Ohlcv1S" | ohlcv1m => "Ohlcv1M" | ohlcv1h => "Ohlcv1H" | ohlcv1d => "Ohlcv1D"
  | ohlcvEod => "OhlcvEod" | mbo => "Mbo" | cmbp1 => "Cmbp1" | cbbo1s => "Cbbo1S"
  | cbbo1m => "Cbbo1M" | tcbbo => "Tcbbo" | bbo1s => "Bbo1S" | bbo1m => "Bbo1M"

end RecordType

end MarketFeed
