import MarketFeed.Engine.Manual

set_option autoImplicit false

/-!
# Engines

The engine of a session, one of two kinds, and the calls a session makes of it. A failed call
leaves the engine as it was, up to what a manual engine notes of its calls.
-/

namespace MarketFeed

inductive Engine where
  | replay (e : Replay)
  | manual (e : Manual)
  deriving DecidableEq, Inhabited

namespace Engine

def isReplay : Engine → Bool
  | .replay _ => true
  | .manual _ => false

/-- The result of a call and the engine after it. -/
abbrev Called (α : Type) := Except EngineFailure α × Engine

/-- The call of a replay engine that may refuse. -/
def ofReplay (e : Replay) : Except EngineError Replay → Called Unit
  | .ok e' => (.ok (), .replay e')
  | .error cause => (.error (.error cause), .replay e)

/-- A call of a manual engine: it fails if a failure is in store. -/
def ofManual (e : Manual) (c : EngineCall) : Called Unit :=
  match e.call c with
  | (some failure, e) => (.error failure, .manual e)
  | (none, e) => (.ok (), .manual e)

def subscribe (engine : Engine) (s : Subscription) : Called Unit :=
  match engine with
  | .replay e => (.ok (), .replay (e.subscribe s))
  | .manual e => ofManual e ⟨.subscribe, some s⟩

def start (engine : Engine) : Called Unit :=
  match engine with
  | .replay e => ofReplay e e.start
  | .manual e => ofManual e { method := .start }

def reconnect (engine : Engine) : Called Unit :=
  match engine with
  | .replay e => ofReplay e e.reconnect
  | .manual e => ofManual e { method := .reconnect }

def resubscribe (engine : Engine) : Called Unit :=
  match engine with
  | .replay e => ofReplay e (e.resubscribe.map fun _ => e)
  | .manual e => ofManual e { method := .resubscribe }

/-- A call that cannot report an error, so only a panic counts as a failure. -/
def ignoreError : Called Unit → Called Unit
  | (.error (.error _), engine) => (.ok (), engine)
  | called => called

def stop (engine : Engine) : Called Unit :=
  match engine with
  | .replay e => (.ok (), .replay e.stop)
  | .manual e => ignoreError (ofManual e { method := .stop })

/-- The wait before an engine is let go. -/
def blockForStop (engine : Engine) : Called Unit :=
  match engine with
  | .replay e => (.ok (), .replay e)
  | .manual e => ignoreError (ofManual e { method := .blockForStop })

/-- Whether a stop takes the callbacks from the engine at once. -/
def stopEnds : Engine → Bool
  | .replay _ => false
  | .manual e => e.stopEnds

/-- The calls that were noted since the last look, and the engine without them. -/
def takeCalls (engine : Engine) : List EngineCall × Engine :=
  match engine with
  | .replay _ => ([], engine)
  | .manual e => (e.calls, .manual { e with calls := [] })

end Engine

end MarketFeed
