import MarketFeed.Engine.Replay

set_option autoImplicit false

/-!
# The manual engine

An engine without a loop of its own: whoever holds it delivers by hand, one thing at a time. It
notes the calls that are made of it, and any call can be made to fail once.
-/

namespace MarketFeed

/-- The calls a session makes of its engine. -/
inductive EngineMethod where
  | subscribe | start | reconnect | resubscribe | stop | blockForStop
  deriving DecidableEq, Inhabited

namespace EngineMethod

def name : EngineMethod → String
  | subscribe => "subscribe" | start => "start" | reconnect => "reconnect"
  | resubscribe => "resubscribe" | stop => "stop" | blockForStop => "block_for_stop"

def ofName? (s : String) : Option EngineMethod :=
  [subscribe, start, reconnect, resubscribe, stop, blockForStop].find? (·.name == s)

end EngineMethod

inductive EngineFailure where
  | error (cause : EngineError)
  /-- A panic; one that is not raised with a text has no message. -/
  | panic (message : Option String)
  deriving DecidableEq, Inhabited

/-- A call that was made of an engine; a subscription comes with its argument. -/
structure EngineCall where
  method : EngineMethod
  subscription : Option Subscription := none
  deriving DecidableEq, Inhabited

/-- What can be delivered by hand. -/
inductive Handing where
  /-- Bytes that may be no record: then their fault is delivered. -/
  | deliver (bytes : Bytes)
  | fault (cause : EngineError)
  | metadata (m : Metadata)
  | done
  deriving DecidableEq, Inhabited

def Handing.name : Handing → String
  | deliver _ => "deliver" | fault _ => "fault" | metadata _ => "metadata" | done => "end"

structure Manual where
  stopEnds : Bool
  failures : List (EngineMethod × EngineFailure) := []
  /-- What the next start delivers before it returns. -/
  onStart : List Handing := []
  /-- The calls made, oldest first. -/
  calls : List EngineCall := []
  /-- What came of the last delivery. -/
  outcome : Outcome := .greeted
  deriving DecidableEq, Inhabited

namespace Manual

/-- Lets the next call of a method fail. -/
def inject (e : Manual) (method : EngineMethod) (failure : EngineFailure) : Manual :=
  { e with failures := (method, failure) :: e.failures.filter (·.1 != method) }

/-- Notes a call, and takes the failure in store for it. -/
def call (e : Manual) (c : EngineCall) : Option EngineFailure × Manual :=
  (e.failures.lookup c.method,
    { e with
      calls := e.calls ++ [c]
      failures := e.failures.filter (·.1 != c.method) })

end Manual

end MarketFeed
