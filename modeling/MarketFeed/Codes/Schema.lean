set_option autoImplicit false

/-!
# Schemas

The record schema of a subscription. A schema's code is its place in `Schema.all`.
-/

namespace MarketFeed

inductive Schema where
  | mbo | mbp1 | mbp10 | tbbo | trades
  | ohlcv1s | ohlcv1m | ohlcv1h | ohlcv1d
  | definition | statistics | status | imbalance | ohlcvEod
  | cmbp1 | cbbo1s | cbbo1m | tcbbo | bbo1s | bbo1m
  deriving DecidableEq, Inhabited

namespace Schema

/-- Every schema in the order of the codes. -/
def all : List Schema :=
  [mbo, mbp1, mbp10, tbbo, trades, ohlcv1s, ohlcv1m, ohlcv1h, ohlcv1d, definition, statistics,
    status, imbalance, ohlcvEod, cmbp1, cbbo1s, cbbo1m, tcbbo, bbo1s, bbo1m]

def code (s : Schema) : Nat := all.idxOf s

def ofCode? (n : Nat) : Option Schema := all[n]?

def name : Schema → String
  | mbo => "mbo" | mbp1 => "mbp-1" | mbp10 => "mbp-10" | tbbo => "tbbo" | trades => "trades"
  | ohlcv1s => "ohlcv-1s" | ohlcv1m => "ohlcv-1m" | ohlcv1h => "ohlcv-1h" | ohlcv1d => "ohlcv-1d"
  | definition => "definition" | statistics => "statistics" | status => "status"
  | imbalance => "imbalance" | ohlcvEod => "ohlcv-eod" | cmbp1 => "cmbp-1"
  | cbbo1s => "cbbo-1s" | cbbo1m => "cbbo-1m" | tcbbo => "tcbbo"
  | bbo1s => "bbo-1s" | bbo1m => "bbo-1m"

def ofName? (s : String) : Option Schema := all.find? (·.name == s)

end Schema

end MarketFeed
