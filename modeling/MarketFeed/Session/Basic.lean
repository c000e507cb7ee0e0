import MarketFeed.Engine.Basic
import MarketFeed.Lifecycle.Basic
import MarketFeed.Router
import MarketFeed.Stats

set_option autoImplicit false

/-!
# Sessions

A session joins an engine with a lifecycle, a symbol table and statistics. The callbacks of its
delivery loop are its environment: a session only knows which there are (`Sinks`) and which one it
is inside of (`Session.calling`), and waits for the `Reply`. Any operation may come before the
reply, since a callback may call the session back.
-/

namespace MarketFeed

/-- Which callbacks a loop was given. -/
structure Sinks where
  record : Bool
  event : Bool
  metadata : Bool
  exception : Bool
  deriving DecidableEq, Inhabited

/-- A call of a callback. The record callback follows the event callback for one record, so a call
of the latter remembers the record. -/
inductive Call where
  | metadata (m : Metadata)
  | event (e : Event) (r : Record)
  | record (r : Record)
  | exception (cause : EngineError)
  deriving DecidableEq, Inhabited

/-- A call without the time of its metadata. -/
def Call.timeless : Call → Call
  | .metadata m => .metadata m.timeless
  | c => c

section

variable (m : Metadata) (e : Event) (r : Record) (cause : EngineError)

@[simp] theorem Call.timeless_metadata : (metadata m).timeless = metadata m.timeless := rfl

@[simp] theorem Call.timeless_event : (event e r).timeless = event e r := rfl

@[simp] theorem Call.timeless_record : (record r).timeless = record r := rfl

@[simp] theorem Call.timeless_exception : (exception cause).timeless = exception cause := rfl

end

/-- How a callback ends. -/
inductive Reply where
  | code (c : UInt32)
  | panic
  deriving DecidableEq, Inhabited

namespace Reply

/-- The verdict of a record callback; one that panics stops the loop. -/
def verdict : Reply → Verdict
  | code c => .ofCode c
  | panic => .stop

/-- The verdict of an exception policy; one that panics stops the session. -/
def recovery : Reply → Recovery
  | code c => .ofCode c
  | panic => .stop

end Reply

inductive Halt where
  | failed (cause : SessionError)
  | panicked (message : String)
  deriving DecidableEq, Inhabited

def EngineFailure.halt : EngineFailure → Halt
  | error cause => .failed (.engine cause)
  | panic message => .panicked (message.getD "panic with non-string payload")

structure Session where
  config : Config
  lifecycle : Lifecycle
  symbols : SymbolTable
  stats : Stats
  subscriptions : List Subscription
  engine : Engine
  /-- The callbacks of the loop, while it has them. -/
  sinks : Option Sinks
  /-- The callback that has not returned. -/
  calling : Option Call
  /-- The owner gave the session up; its loop may still be there. -/
  released : Bool
  deriving DecidableEq, Inhabited

namespace Session

def new (config : Config) (engine : Engine) : Session where
  config := config
  lifecycle := .new
  symbols := .empty
  stats := {}
  subscriptions := []
  engine := engine
  sinks := none
  calling := none
  released := false

def state (s : Session) : SessionState := s.lifecycle.state

def has (s : Session) (sink : Sinks → Bool) : Bool := s.sinks.any sink

/-- The result of an operation and the session after it. -/
abbrev Done (α : Type) := Except Halt α × Session

/-- The loop is over and lets go of its callbacks. -/
def loopExit (s : Session) : Session :=
  { s with sinks := none, lifecycle := s.lifecycle.loopExited }

/-- What an operation makes of a call of the engine. -/
def ofEngine (s : Session) (called : Engine.Called Unit) : Done Unit :=
  match called with
  | (.ok (), engine) => (.ok (), { s with engine })
  | (.error failure, engine) => (.error failure.halt, { s with engine })

end Session

end MarketFeed
