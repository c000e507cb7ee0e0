import MarketFeed.Config.Basic

set_option autoImplicit false

/-!
# Connecting

A connector opens engines. It refuses a dataset it does not know, then a gateway under the reserved
domain `invalid`, then a key that is not on its list, if it has one. It keeps the feed of the engine
that was opened last with each key.
-/

namespace MarketFeed

structure Connector where
  /-- The keys that may connect; any key may if there is no list. -/
  authorized : Option (List String)
  opened : Nat
  /-- For each key the number of the engine that was opened last with it. -/
  feeds : List (String × Nat)
  deriving DecidableEq, Inhabited

namespace Connector

def new (authorized : Option (List String)) : Connector := ⟨authorized, 0, []⟩

/-- Why no engine is opened for a configuration; none if one is. -/
def refusal (k : Connector) (c : Config) : Option EngineError :=
  if !Dataset.known c.dataset then
    some (.connect ("unknown dataset '" ++ c.dataset ++ "'"))
  else if ".invalid".toList.isSuffixOf c.gateway.host.toList then
    some (.connect ("gateway " ++ c.gateway.text ++ " is unreachable"))
  else if k.authorized.any fun keys => !keys.contains c.key then
    some (.authentication "API key rejected by gateway")
  else none

def connect (k : Connector) (c : Config) : Except EngineError Unit × Connector :=
  match k.refusal c with
  | some e => (.error e, k)
  | none =>
    (.ok (), { k with
      opened := k.opened + 1
      feeds := (c.key, k.opened) :: k.feeds.filter (·.1 != c.key) })

/-- The engine that the feed of a key reaches. -/
def feed? (k : Connector) (key : String) : Option Nat := k.feeds.lookup key

end Connector

end MarketFeed
