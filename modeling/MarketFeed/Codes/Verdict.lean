set_option autoImplicit false

/-!
# Verdicts

What a callback decides. A callback may return any number: zero lets delivery go on, every other
number ends it.
-/

namespace MarketFeed

/-- The verdict of a record callback, and the answer of a wait: `stop` once no loop is active. -/
inductive Verdict where
  | proceed | stop
  deriving DecidableEq, Inhabited

/-- The verdict of an exception policy. -/
inductive Recovery where
  | restart | stop
  deriving DecidableEq, Inhabited

namespace Verdict

def ofCode (code : UInt32) : Verdict := if code = 0 then proceed else stop

def code : Verdict → Nat
  | proceed => 0 | stop => 1

def name : Verdict → String
  | proceed => "continue" | stop => "stop"

end Verdict

namespace Recovery

def ofCode (code : UInt32) : Recovery := if code = 0 then restart else stop

def name : Recovery → String
  | restart => "restart" | stop => "stop"

end Recovery

end MarketFeed
