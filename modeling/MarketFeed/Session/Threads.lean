import MarketFeed.Session.Operations

set_option autoImplicit false

/-!
# The threads of a session

An operation of `Session`, and a turn of its loop, is over before the next one begins. But the loop
of a replay engine has a thread of its own, and so may every caller. `Threads.step` is one step of
one thread, after which any thread may come next. A call looks at the session first and goes to the
engine later (`Errand`); a start claims the session, launches the loop and then reports that it
succeeded; and the loop is at a `Place` between two steps.

What a call does while it has the lock of the engine is one step. The lock itself is left out: it
only makes calls wait while a start goes on, and they find the same afterwards.
-/

namespace MarketFeed

/-- Where the thread of a loop is. -/
inductive Place where
  /-- It is going to greet, or to look whether it is to shut down. -/
  | looking
  /-- It waits for an event, and does not look any more until it has one or the wait times out. -/
  | receiving
  | holding (event : FeedEvent)
  | calling
  /-- It is out of the loop, and has the callbacks still. -/
  | leaving
  /-- It has let go of the callbacks, and the engine does not know yet that it has finished. -/
  | finishing
  deriving DecidableEq

/-- How far a start has come. -/
inductive Starting where
  | claimed (sinks : Sinks)
  | launched
  deriving DecidableEq

/-- What a call that has passed its check is about to do with the engine. -/
inductive Errand where
  | subscribe (sub : Subscription)
  | reconnect
  | resubscribe
  | stop
  | release
  deriving DecidableEq

namespace Errand

/-- The check of the session that comes first, and what the call makes of the session then. -/
def check (s : Session) : Errand → Except SessionError Session
  | subscribe _ => s.lifecycle.ensureUsable.map fun () => s
  | reconnect => (s.lifecycle.ensureIdle "reconnect").map fun () => s
  | resubscribe => (s.lifecycle.ensureIdle "resubscribe").map fun () => s
  | stop => .ok s.askStop
  | release => .ok s.giveUp

/-- Whether a call that has passed its check has anything to do with the engine. -/
def due (s : Session) : Errand → Bool
  | stop => s.lifecycle.stopRequested
  | _ => true

def resending (s : Session) (operation : String) (called : Engine.Called Unit) :
    Session.Done Unit :=
  if s.subscriptions = [] then (.error (.failed (.noSubscriptions operation)), s)
  else s.ofEngine called

def run (s : Session) : Errand → Session.Done Unit
  | subscribe sub =>
    match s.ofEngine (s.engine.subscribe sub) with
    | (.ok (), s) => (.ok (), { s with subscriptions := s.subscriptions ++ [sub] })
    | failed => failed
  | reconnect => resending s "reconnect" s.engine.reconnect
  | resubscribe => resending s "resubscribe" s.engine.resubscribe
  | stop => s.passStop
  | release => s.stopEngine

end Errand

/-- A session with its threads. -/
structure Threads where
  session : Session
  /-- The thread of the loop, while the engine has one. -/
  place : Option Place := none
  starting : Option Starting := none
  errands : List Errand := []

namespace Threads

inductive Step where
  /-- The thread of the loop goes on. -/
  | advance
  /-- The wait of the loop for an event times out. -/
  | timeout
  | reply (r : Reply)
  | claim (sinks : Sinks)
  /-- The engine is to start the loop. If an old one is still unfinished the wait for it has been
  in vain. -/
  | launch
  | succeed
  | ask (errand : Errand)
  | carry (errand : Errand)
  | push (event : FeedEvent)
  | pushStream (buffer : Bytes)

/-- What the loop does to its engine. -/
def onReplay (f : Replay → Replay) (s : Session) : Session :=
  match s.engine with
  | .replay e => { s with engine := .replay (f e) }
  | .manual _ => s

/-- Goes on with what the session made of a delivery. -/
def follow (t : Threads) : Progress × Session → Threads
  | (.call c, s) => { t with session := { s with calling := some c }, place := some .calling }
  | (.done o, s) =>
    let s := { s with calling := none }
    match o with
    | .greeted | .verdict .proceed => { t with session := s, place := some .looking }
    | .recovery .restart => { t with session := onReplay (·.restart) s, place := some .looking }
    | .verdict .stop | .recovery .stop => { t with session := s, place := some .leaving }

def look (t : Threads) (e : Replay) : Threads :=
  match e.look with
  | some (.greet m) =>
    let s := { t.session with engine := .replay e.greet }
    t.follow (s.greet m, s)
  | some .shutdown => { t with place := some .leaving }
  | some .receive => { t with place := some .receiving }
  | none => t

def receive (t : Threads) (e : Replay) : Threads :=
  match e.take with
  | some (event, e) =>
    { t with session := { t.session with engine := .replay e }, place := some (.holding event) }
  | none => t

def deliver (t : Threads) (event : FeedEvent) : Threads :=
  match Replay.Turn.ofEvent event with
  | .record r => t.follow (t.session.accept r)
  | .fault cause => t.follow (t.session.consult cause)
  | _ => { t with place := some .leaving }

/-- The loop goes on from its place. In a callback it waits for the reply. -/
def advance (t : Threads) : Threads :=
  match t.place, t.session.engine with
  | some .looking, .replay e => t.look e
  | some .receiving, .replay e => t.receive e
  | some (.holding event), _ => t.deliver event
  | some .leaving, _ => { t with session := t.session.loopExit, place := some .finishing }
  | some .finishing, _ => { t with session := onReplay (·.finish) t.session, place := none }
  | _, _ => t

def claim (t : Threads) (sinks : Sinks) : Threads :=
  match t.session.claim sinks with
  | (.ok (), s) => { t with session := s, starting := some (.claimed sinks) }
  | (.error _, s) => { t with session := s }

def launch (t : Threads) : Threads :=
  match t.starting with
  | some (.claimed sinks) =>
    match t.session.launch sinks with
    | (.ok (), s) => { t with session := s, place := some .looking, starting := some .launched }
    | (.error _, s) => { t with session := s, starting := none }
  | _ => t

/-- A start that succeeds still has to tell the engine of a stop that was asked for meanwhile. -/
def succeed (t : Threads) : Threads :=
  match t.starting with
  | some .launched =>
    { t with session := t.session.succeed, starting := none, errands := t.errands ++ [.stop] }
  | _ => t

def ask (t : Threads) (errand : Errand) : Threads :=
  match errand.check t.session with
  | .ok s =>
    { t with session := s, errands := t.errands ++ if errand.due s then [errand] else [] }
  | .error _ => t

def carry (t : Threads) (errand : Errand) : Threads :=
  if errand ∈ t.errands then
    { t with session := (errand.run t.session).2, errands := t.errands.erase errand }
  else t

/-- A step that its thread cannot take changes nothing. -/
def step (t : Threads) : Step → Threads
  | .advance => t.advance
  | .timeout => if t.place = some .receiving then { t with place := some .looking } else t
  | .reply r =>
    match t.session.calling with
    | some c => t.follow (t.session.resume c r)
    | none => t
  | .claim sinks => t.claim sinks
  | .launch => t.launch
  | .succeed => t.succeed
  | .ask errand => t.ask errand
  | .carry errand => t.carry errand
  | .push event => { t with session := (t.session.push event).2 }
  | .pushStream buffer => { t with session := (t.session.pushStream buffer).2 }

def after (t : Threads) (xs : List Step) : Threads := xs.foldl step t

end Threads

end MarketFeed
