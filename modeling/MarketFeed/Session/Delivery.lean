import MarketFeed.Session.Basic

set_option autoImplicit false

/-!
# Delivery

How a session deals with what its engine delivers. A record is counted and routed, the event goes
to the event callback and the record to the record callback; a fault goes to the exception policy.
A requested stop wins over every verdict: nothing more is delivered, and a record that is being
delivered ends the loop.

Each function ends in a `Progress`: a call of a callback, to be resumed by `Session.resume` with
its reply, or the outcome for the engine.
-/

namespace MarketFeed

inductive Progress where
  | call (c : Call)
  | done (o : Outcome)
  deriving DecidableEq, Inhabited

namespace Session

def noteReply (s : Session) : Reply → Session
  | .code _ => s
  | .panic => { s with stats := s.stats.callbackFault }

def greet (s : Session) (m : Metadata) : Progress :=
  if s.has (·.metadata) then .call (.metadata m) else .done .greeted

/-- The outcome of a record, given the verdict of its callback. -/
def verdict (s : Session) (v : Verdict) : Progress :=
  .done (.verdict (if s.lifecycle.stopRequested then .stop else v))

/-- Shows a record that was routed to the record callback. -/
def offer (s : Session) (r : Record) : Progress :=
  if s.has (·.record) then .call (.record r) else s.verdict .proceed

def accept (s : Session) (r : Record) : Progress × Session :=
  if s.lifecycle.stopRequested then (.done (.verdict .stop), s)
  else
    let (routed, symbols) := Router.route s.symbols r
    let s := { s with symbols, stats := s.stats.delivered r.size }
    match routed with
    | .event e =>
      if s.has (·.event) then (.call (.event e r), { s with stats := s.stats.event })
      else (s.offer r, s)
    | .suppressed => (s.offer r, { s with stats := s.stats.heartbeat })
    | .failed _ => (s.offer r, { s with stats := s.stats.dispatchError })

def decide (s : Session) : Recovery → Progress × Session
  | .restart =>
    (.done (.recovery .restart),
      { s with stats := s.stats.restart, lifecycle := s.lifecycle.noteRestart })
  | .stop => (.done (.recovery .stop), { s with lifecycle := s.lifecycle.fault })

/-- Asks the exception policy about a fault; without one the session stops. -/
def consult (s : Session) (cause : EngineError) : Progress × Session :=
  if s.lifecycle.stopRequested then (.done (.recovery .stop), s)
  else if s.has (·.exception) then (.call (.exception cause), s)
  else s.decide .stop

/-- Goes on after a callback has replied. -/
def resume (s : Session) (c : Call) (reply : Reply) : Progress × Session :=
  let s := s.noteReply reply
  match c with
  | .metadata _ => (.done .greeted, s)
  | .event _ r => (s.offer r, s)
  | .record _ => (s.verdict reply.verdict, s)
  | .exception _ => s.decide reply.recovery

/-! ## Under the engine -/

/-- Hands an outcome to the engine, whose loop may end by it. -/
def conclude (s : Session) (o : Outcome) : Session :=
  let s := { s with calling := none }
  match s.engine with
  | .replay e =>
    let e := e.conclude o
    let s := { s with engine := .replay e }
    if e.isRunning then s else s.loopExit
  | .manual e => { s with engine := .manual { e with outcome := o } }

def follow (p : Progress × Session) : Session :=
  match p with
  | (.call c, s) => { s with calling := some c }
  | (.done o, s) => s.conclude o

/-- The session after the callback it waits for has replied. -/
def reply (s : Session) (r : Reply) : Session :=
  match s.calling with
  | none => s
  | some c => follow (s.resume c r)

/-- One turn of a replay loop; none if there is no loop or nothing for it to do. -/
def step (s : Session) : Option Session :=
  match s.calling, s.engine with
  | none, .replay e =>
    let (turn, e) := e.turn
    let s := { s with engine := .replay e }
    match turn with
    | .idle => none
    | .exit => some s.loopExit
    | .greet m => some (follow (s.greet m, s))
    | .record r => some (follow (s.accept r))
    | .fault cause => some (follow (s.consult cause))
  | _, _ => none

/-- How a delivery by hand begins. -/
inductive Handed where
  /-- There are no callbacks, or one of them is running. -/
  | noLoop
  | noSink
  | ended
  /-- What comes of it is the engine's `outcome`, once no callback is running. -/
  | delivered
  deriving DecidableEq, Inhabited

/-- Delivers by hand, which only a manual engine lets one do. -/
def hand (s : Session) (h : Handing) : Handed × Session :=
  if s.engine.isReplay || s.sinks.isNone || s.calling.isSome then (.noLoop, s)
  else
    match h with
    | .deliver bytes =>
      match Record.decode bytes with
      | .ok r => (.delivered, follow (s.accept r))
      | .error e => (.delivered, follow (s.consult (.decode e)))
    | .fault cause => (.delivered, follow (s.consult cause))
    | .metadata m =>
      if s.has (·.metadata) then (.delivered, follow (s.greet m, s)) else (.noSink, s)
    | .done => (.ended, s.loopExit)

end Session

end MarketFeed
