set_option autoImplicit false

/-!
# Upgrade policies

To which version the gateway raises records of an older one. A policy's code is its place in
`UpgradePolicy.all`.
-/

namespace MarketFeed

inductive UpgradePolicy where
  | asIs | upgradeToV2 | upgradeToV3
  deriving DecidableEq, Inhabited

namespace UpgradePolicy

/-- Every policy in the order of the codes. -/
def all : List UpgradePolicy := [asIs, upgradeToV2, upgradeToV3]

def code (p : UpgradePolicy) : Nat := all.idxOf p

def ofCode? (n : Nat) : Option UpgradePolicy := all[n]?

def name : UpgradePolicy → String
  | asIs => "as_is" | upgradeToV2 => "upgrade_to_v2" | upgradeToV3 => "upgrade_to_v3"

def ofName? (s : String) : Option UpgradePolicy := all.find? (·.name == s)

/-- The record version a session with this policy receives; the feed itself is at version 2. -/
def version : UpgradePolicy → UInt8
  | asIs => 2 | upgradeToV2 => 2 | upgradeToV3 => 3

end UpgradePolicy

end MarketFeed
