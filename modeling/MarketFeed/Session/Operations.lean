import MarketFeed.Session.Delivery

set_option autoImplicit false

/-!
# Operations of a session

What the owner of a session, or one of its callbacks, can ask of it. The lifecycle decides first,
the engine second. Waiting is not among the operations: `Session.waited` is the answer of a wait
once its end has come.
-/

namespace MarketFeed.Session

/-- Registers a subscription with the engine and the session. -/
def subscribe (s : Session) (sub : Subscription) : Done Unit :=
  match s.lifecycle.ensureUsable with
  | .error cause => (.error (.failed cause), s)
  | .ok () =>
    match s.ofEngine (s.engine.subscribe sub) with
    | (.ok (), s) => (.ok (), { s with subscriptions := s.subscriptions ++ [sub] })
    | failed => failed

/-- Claims the session for a new loop. -/
def claim (s : Session) (sinks : Sinks) : Done Unit :=
  if !sinks.record && !sinks.event then
    (.error (.failed (.invalidArgument "a record or event callback is required")), s)
  else
    match s.lifecycle.beginStart with
    | .error cause => (.error (.failed cause), s)
    | .ok lifecycle => (.ok (), { s with lifecycle, symbols := .empty, stats := s.stats.start })

/-- Hands the callbacks to the engine of a session that was claimed. A failure is final. -/
def launch (s : Session) (sinks : Sinks) : Done Unit :=
  match s.ofEngine s.engine.start with
  | (.ok (), s) => (.ok (), { s with sinks := some sinks })
  | (.error halt, s) =>
    (.error halt, { s with lifecycle := s.lifecycle.loopExited.finishStart false })

def beginStart (s : Session) (sinks : Sinks) : Done Unit :=
  match s.claim sinks with
  | (.ok (), s) => s.launch sinks
  | failed => failed

/-- Whether an engine that is told to stop lets go of the callbacks at once. A manual one may do so,
unless one of them is running. -/
def endsByStop (s : Session) : Bool := s.engine.stopEnds && s.sinks.isSome && s.calling.isNone

/-- Asks the engine to end its loop. -/
def stopEngine (s : Session) : Done Unit :=
  match s.ofEngine s.engine.stop with
  | (.ok (), s) => (.ok (), if s.endsByStop then s.loopExit else s)
  | failed => failed

/-- Tells the engine of a stop, if there is one to tell of. -/
def passStop (s : Session) : Done Unit :=
  if s.lifecycle.stopRequested then s.stopEngine else (.ok (), s)

/-- The session once a start has succeeded. -/
def succeed (s : Session) : Session := { s with lifecycle := s.lifecycle.finishStart true }

/-- Completes a start that succeeded. A stop that was asked for meanwhile takes effect. -/
def completeStart (s : Session) : Done Unit := s.succeed.passStop

/-- The session once it was asked to stop. -/
def askStop (s : Session) : Session := { s with lifecycle := s.lifecycle.requestStop }

/-- Asks the loop to stop, without a wait. -/
def requestStop (s : Session) : Done Unit := s.askStop.passStop

/-- The answer of a wait: whether a loop is still active. -/
def waited (s : Session) : Verdict := s.lifecycle.waited

/-- Succeeds while no loop is active and something is subscribed to. -/
def ensureReady (s : Session) (operation : String) : Except SessionError Unit :=
  match s.lifecycle.ensureIdle operation with
  | .error cause => .error cause
  | .ok () => if s.subscriptions = [] then .error (.noSubscriptions operation) else .ok ()

def reconnect (s : Session) : Done Unit :=
  match s.ensureReady "reconnect" with
  | .error cause => (.error (.failed cause), s)
  | .ok () => s.ofEngine s.engine.reconnect

def resubscribe (s : Session) : Done Unit :=
  match s.ensureReady "resubscribe" with
  | .error cause => (.error (.failed cause), s)
  | .ok () => s.ofEngine s.engine.resubscribe

def resolve (s : Session) (id : UInt32) : Option String := s.symbols.get? id

/-- The session once its owner has given it up. -/
def giveUp (s : Session) : Session :=
  { s with lifecycle := s.lifecycle.requestStop, released := true }

/-- Gives the session up: its loop is asked to stop, and waited for unless this is called by one of
its callbacks. -/
def release (s : Session) (delivering : Bool) : Done Unit :=
  match s.giveUp.stopEngine with
  | (.ok (), s) => if delivering then (.ok (), s) else s.ofEngine s.engine.blockForStop
  | failed => failed

def modifyManual (s : Session) (f : Manual → Manual) : Session :=
  match s.engine with
  | .manual e => { s with engine := .manual (f e) }
  | .replay _ => s

/-! ## The feed -/

/-- Whether a feed still reaches the engine: an engine goes when its session is released and its
loop is over. -/
def feedOpen (s : Session) : Bool :=
  match s.engine with
  | .replay e => !s.released || e.isRunning
  | .manual _ => false

def push (s : Session) (event : FeedEvent) : Bool × Session :=
  match s.engine with
  | .replay e =>
    if s.feedOpen then (true, { s with engine := .replay (e.push event) }) else (false, s)
  | .manual _ => (false, s)

/-- Puts the records of a buffer into the feed. A feed that reaches no engine looks at the first
record only. -/
def pushStream (s : Session) (buffer : Bytes) : Except DecodeError Nat × Session :=
  match s.engine with
  | .replay e =>
    if s.feedOpen then
      let (count, e) := e.pushStream buffer
      (count, { s with engine := .replay e })
    else ((Record.stream (fun _ _ => false) buffer).1, s)
  | .manual _ => ((Record.stream (fun _ _ => false) buffer).1, s)

end MarketFeed.Session
