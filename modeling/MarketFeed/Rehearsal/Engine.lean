import MarketFeed.Engine.Replay

set_option autoImplicit false

/-!
# Rehearsing a replay engine

A replay engine without a session: its callbacks return the codes of their scripts, and a fault
that no script answers ends the loop.
-/

namespace MarketFeed.Rehearsal

inductive EngineEvent where
  | metadata (m : Metadata)
  | record (r : Record)
  | exception (cause : EngineError)

/-- The codes each callback returns; none where there is no such callback. -/
structure Codes where
  record : List UInt32 := []
  metadata : Bool := false
  exception : Option (List UInt32) := none

/-- An engine with its callbacks. -/
structure Bench where
  engine : Replay
  codes : Codes := {}
  log : List EngineEvent := []

namespace Bench

def note (b : Bench) (e : EngineEvent) : Bench := { b with log := b.log ++ [e] }

def conclude (b : Bench) (o : Outcome) : Bench := { b with engine := b.engine.conclude o }

/-- One turn of the loop; none if there is nothing to do. -/
def turn (b : Bench) : Option Bench :=
  let (turn, engine) := b.engine.turn
  let b := { b with engine }
  match turn with
  | .idle => none
  | .exit => some b
  | .greet m => some (if b.codes.metadata then b.note (.metadata m) else b)
  | .record r =>
    let code := b.codes.record.headD 0
    let codes := { b.codes with record := b.codes.record.tail }
    some (({ b with codes }.note (.record r)).conclude (.verdict (.ofCode code)))
  | .fault cause =>
    match b.codes.exception with
    | none => some (b.conclude (.recovery .stop))
    | some script =>
      let codes := { b.codes with exception := some script.tail }
      some (({ b with codes }.note (.exception cause)).conclude
        (.recovery (.ofCode (script.headD 1))))

/-- Takes turns as long as there is something to do. -/
def run : Nat → Bench → Bench
  | 0, b => b
  | fuel + 1, b =>
    match b.turn with
    | some b => run fuel b
    | none => b

/-- Runs the loop until it is over or the feed is empty: each event needs one turn and a restart
one more. -/
def settle (b : Bench) : Bench := b.run (2 * b.engine.queue.length + 3)

inductive Step where
  | push (event : FeedEvent)
  | pushStream (bytes : Bytes)
  | subscribe (request : Subscription.Request)
  | start (codes : Codes)
  | stop
  | block
  | reconnect
  | resubscribe
  | connection

inductive Answer where
  | ok
  | error (cause : EngineError)
  | refused (cause : SessionError)
  | accepted
  | count (n : Except DecodeError Nat)
  | verdict (v : Verdict)
  | connection (n : UInt32)

def take (b : Bench) (step : Step) : Answer × Bench :=
  match step with
  | .push event => (.accepted, { b with engine := b.engine.push event })
  | .pushStream bytes =>
    let (count, engine) := b.engine.pushStream bytes
    (.count count, { b with engine })
  | .subscribe request =>
    match Subscription.ofRequest request with
    | .error cause => (.refused cause, b)
    | .ok s => (.ok, { b with engine := b.engine.subscribe s })
  | .start codes =>
    match b.engine.start with
    | .error cause => (.error cause, b)
    | .ok engine => (.ok, { b with engine, codes })
  | .stop => (.ok, { b with engine := b.engine.stop })
  | .block => (.verdict b.engine.waited, b)
  | .reconnect =>
    match b.engine.reconnect with
    | .error cause => (.error cause, b)
    | .ok engine => (.ok, { b with engine })
  | .resubscribe =>
    match b.engine.resubscribe with
    | .error cause => (.error cause, b)
    | .ok () => (.ok, b)
  | .connection => (.connection b.engine.connection, b)

structure Seen where
  answer : Answer
  running : Bool
  connection : UInt32
  log : List EngineEvent

def see (step : Step) : StateM Bench Seen := fun b =>
  let (answer, b) := b.take step
  let b := b.settle
  (⟨answer, b.engine.isRunning, b.engine.connection, b.log⟩, { b with log := [] })

def play (config : Config) (steps : List Step) (clock : List UInt64 := []) : List Seen :=
  ((steps.mapM see).run { engine := .new config clock }).1

end Bench

end MarketFeed.Rehearsal
