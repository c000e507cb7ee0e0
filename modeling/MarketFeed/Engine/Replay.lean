import MarketFeed.Codes.Verdict
import MarketFeed.Config.Basic
import MarketFeed.Record.Frame
import MarketFeed.Subscription

set_option autoImplicit false

/-!
# The replay engine

A feed of events in order of arrival, and a delivery loop that takes them from the front. The feed
is filled also while no loop runs, and what a loop leaves is there for the next.

At its start and after a restart the loop greets with metadata; then it looks whether it is to shut
down, then it takes one event. `Replay.turn` is all that at once, as the loop does it if no other
thread comes between, and `Replay.conclude` tells the engine what came of it.
-/

namespace MarketFeed

inductive FeedEvent where
  /-- The bytes of one record, which need not be a valid one. -/
  | record (bytes : Bytes)
  | fault (cause : EngineError)
  /-- The gateway closes the connection. -/
  | close
  deriving DecidableEq, Inhabited

/-- What came of the delivery of one thing. -/
inductive Outcome where
  | greeted
  | verdict (v : Verdict)
  | recovery (r : Recovery)
  deriving DecidableEq, Inhabited

namespace Replay

structure Loop where
  metadata : Metadata
  /-- Whether the metadata of this connection was sent. -/
  greeted : Bool
  deriving DecidableEq, Inhabited

/-- What a loop does next. -/
inductive Look where
  | greet (m : Metadata)
  | shutdown
  /-- It waits for an event. -/
  | receive
  deriving DecidableEq, Inhabited

inductive Turn where
  /-- There is no loop, or the feed is empty. -/
  | idle
  | exit
  | greet (m : Metadata)
  | record (r : Record)
  | fault (cause : EngineError)
  deriving DecidableEq, Inhabited

end Replay

structure Replay where
  config : Config
  subscriptions : List Subscription
  queue : List FeedEvent
  /-- The loop is asked to end before it takes another event. -/
  shutdown : Bool
  /-- Counts the connections from one on. -/
  connection : UInt32
  loop : Option Replay.Loop
  /-- What the clock is going to read, in nanoseconds, each time it is asked. -/
  clock : List UInt64
  deriving DecidableEq, Inhabited

namespace Replay

def new (config : Config) (clock : List UInt64 := []) : Replay :=
  ⟨config, [], [], false, 1, none, clock⟩

def isRunning (e : Replay) : Bool := e.loop.isSome

def now (e : Replay) : UInt64 := e.clock.headD 0

/-- The metadata of a loop that starts now. -/
def metadata (e : Replay) : Metadata where
  version := e.config.upgradePolicy.version
  dataset := e.config.dataset
  schema := e.subscriptions.head?.map (·.schema)
  start := e.now
  stypeIn := e.subscriptions.head?.map (·.stypeIn)
  stypeOut := .instrumentId
  tsOut := e.config.sendTsOut
  symbols := e.subscriptions.flatMap (·.symbols)

/-! ## Calls -/

def subscribe (e : Replay) (s : Subscription) : Replay :=
  { e with subscriptions := e.subscriptions ++ [s] }

/-- Starts a loop. A shutdown that was asked for before is forgotten. -/
def start (e : Replay) : Except EngineError Replay :=
  if e.isRunning then .error .alreadyStarted
  else .ok { e with shutdown := false, loop := some ⟨e.metadata, false⟩, clock := e.clock.tail }

def reconnect (e : Replay) : Except EngineError Replay :=
  if e.isRunning then .error .alreadyStarted else .ok { e with connection := e.connection + 1 }

def resubscribe (e : Replay) : Except EngineError Unit :=
  if e.subscriptions = [] then .error (.gateway "no subscriptions to resend") else .ok ()

def stop (e : Replay) : Replay := { e with shutdown := true }

/-- Whether a loop is still there when a wait ends. -/
def waited (e : Replay) : Verdict := if e.isRunning then .proceed else .stop

/-! ## The feed -/

def push (e : Replay) (event : FeedEvent) : Replay := { e with queue := e.queue ++ [event] }

/-- Queues the records of a buffer laid end to end, up to the first one that is malformed. -/
def pushStream (e : Replay) (buffer : Bytes) : Except DecodeError Nat × Replay :=
  let (count, records) := Record.stream (fun _ _ => true) buffer
  (count, { e with queue := e.queue ++ records.map fun r => .record r.bytes })

/-! ## The loop -/

def Turn.ofEvent : FeedEvent → Turn
  | .record bytes =>
    match Record.decode bytes with
    | .ok r => .record r
    | .error e => .fault (.decode e)
  | .fault cause => .fault cause
  | .close => .exit

def look (e : Replay) : Option Look :=
  e.loop.map fun loop =>
    if !loop.greeted then .greet loop.metadata else if e.shutdown then .shutdown else .receive

/-- The engine once its loop has greeted. -/
def greet (e : Replay) : Replay :=
  { e with loop := e.loop.map fun loop => { loop with greeted := true } }

/-- The first event of the feed, and the engine without it. -/
def take (e : Replay) : Option (FeedEvent × Replay) :=
  match e.queue with
  | [] => none
  | event :: queue => some (event, { e with queue })

/-- The thread of the loop has finished. -/
def finish (e : Replay) : Replay := { e with loop := none }

/-- Opens a new connection, for which the loop greets again. Of the metadata only the time is
new. -/
def restart (e : Replay) : Replay :=
  { e with
    connection := e.connection + 1
    clock := e.clock.tail
    loop := e.loop.map fun loop => ⟨{ loop.metadata with start := e.now }, false⟩ }

def turn (e : Replay) : Turn × Replay :=
  match e.look with
  | none => (.idle, e)
  | some (.greet m) => (.greet m, e.greet)
  | some .shutdown => (.exit, e.finish)
  | some .receive =>
    match e.take with
    | none => (.idle, e)
    | some (event, e) =>
      let turn := Turn.ofEvent event
      (turn, if turn = .exit then e.finish else e)

section Turns

variable {e : Replay} {loop : Loop} (hl : e.loop = some loop)

theorem turn_none (h : e.loop = none) : e.turn = (.idle, e) := by simp [turn, look, h]

include hl

theorem turn_greet (hg : loop.greeted = false) :
    e.turn = (.greet loop.metadata, { e with loop := some { loop with greeted := true } }) := by
  simp [turn, look, greet, hl, hg]

variable (hg : loop.greeted = true)
include hg

theorem turn_shutdown (hsd : e.shutdown = true) : e.turn = (.exit, { e with loop := none }) := by
  simp [turn, look, finish, hl, hg, hsd]

variable (hsd : e.shutdown = false)
include hsd

theorem turn_empty (hq : e.queue = []) : e.turn = (.idle, e) := by
  simp [turn, look, take, hl, hg, hsd, hq]

/-- A loop that has greeted and is not asked to end takes the first event. -/
theorem turn_take {event : FeedEvent} {queue : List FeedEvent} (hq : e.queue = event :: queue) :
    e.turn = (.ofEvent event,
      { e with queue, loop := if .ofEvent event = Turn.exit then none else e.loop }) := by
  simp only [turn, look, take, finish, hl, hg, hsd, hq, Option.map_some, Bool.not_true,
    Bool.false_eq_true, if_false]
  split <;> rfl

end Turns

/-- The engine after what a turn delivered was dealt with: a stop ends the loop. -/
def conclude (e : Replay) : Outcome → Replay
  | .greeted | .verdict .proceed => e
  | .verdict .stop | .recovery .stop => e.finish
  | .recovery .restart => e.restart

end Replay

end MarketFeed
