set_option autoImplicit false

/-!
# Datasets

The dataset codes a gateway knows, numbered from 1.
-/

namespace MarketFeed.Dataset

/-- Every dataset code in the order of the numbers. -/
def codes : List String :=
  ["GLBX.MDP3", "XNAS.ITCH", "XBOS.ITCH", "XPSX.ITCH", "BATS.PITCH", "BATY.PITCH", "EDGA.PITCH",
    "EDGX.PITCH", "XNYS.PILLAR", "XCIS.PILLAR", "XASE.PILLAR", "XCHI.PILLAR", "XCIS.BBO",
    "XCIS.TRADES", "MEMX.MEMOIR", "EPRL.DOM", "FINN.NLS", "FINY.TRADES", "OPRA.PILLAR",
    "DBEQ.BASIC", "ARCX.PILLAR", "IEXG.TOPS", "EQUS.PLUS", "XNYS.BBO", "XNYS.TRADES",
    "XNAS.QBBO", "XNAS.NLS", "IFEU.IMPACT", "NDEX.IMPACT", "EQUS.ALL", "XNAS.BASIC",
    "EQUS.SUMMARY", "XCIS.TRADESBBO", "XNYS.TRADESBBO", "EQUS.MINI", "IFUS.IMPACT",
    "IFLL.IMPACT", "XEUR.EOBI", "XEEE.EOBI"]

def ofId? (id : Nat) : Option String := if id = 0 then none else codes[id - 1]?

def id? (code : String) : Option Nat := (codes.idxOf? code).map (· + 1)

def known (code : String) : Bool := codes.contains code

end MarketFeed.Dataset
