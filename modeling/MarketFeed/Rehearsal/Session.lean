import MarketFeed.Rehearsal.Script
import MarketFeed.Session.Opening

set_option autoImplicit false

/-!
# Rehearsing a session

One session whose callbacks may call it back, driven step by step. After each step the loop has
ended, or waits for the feed, or is held.
-/

namespace MarketFeed.Rehearsal

/-- What a callback can ask of its session. -/
inductive SessionCall where
  | stop
  | block
  | start
  | reconnect
  | resubscribe
  | subscribe (request : Subscription.Request)
  | resolve (id : UInt32)
  | stats
  | drop

inductive Answer where
  | noSession
  | ok
  | error (cause : SessionError)
  | panicked (message : String)
  | verdict (v : Verdict)
  | symbol (s : Option String)
  | subscriptions (l : List Subscription)
  | stats (s : Stats)
  | config (c : Config)
  | dropped
  | accepted (b : Bool)
  | count (n : Except DecodeError Nat)
  | word (s : String)
  | race (won alreadyRunning : Nat)

namespace Answer

def ofHalt : Halt → Answer
  | .failed cause => error cause
  | .panicked message => panicked message

def ofUnit : Except Halt Unit → Answer
  | .ok () => ok
  | .error halt => ofHalt halt

def ofVerdict : Except Halt Verdict → Answer
  | .ok v => verdict v
  | .error halt => ofHalt halt

end Answer

/-- A session under rehearsal. -/
abbrev Stage := Scripted SessionCall Answer

namespace Stage

/-- Subscribes as asked for; what is asked for is checked first. -/
def subscribe (request : Subscription.Request) (s : Session) : Except Halt Unit × Session :=
  match Subscription.ofRequest request with
  | .error cause => (.error (.failed cause), s)
  | .ok sub => s.subscribe sub

/-- The host of a session that lives by itself, for a thread with a mark. There is but one session
that the mark can be of. -/
def hostOn (perform : SessionCall → StateM Stage Answer) (mark : Option Unit) (fuel : Nat) :
    Host Stage SessionCall Answer where
  view := id
  update x _ := x
  perform := perform
  delivering := delivers mark ()
  fuel := fuel

def call (h : Host Stage SessionCall Answer) (c : SessionCall) : StateM Stage Answer := do
  if (← h.session).released then return .noSession
  match c with
  | .stop => return .ofVerdict (← h.stop none)
  | .block => return .verdict (← h.wait none)
  | .start => return .ofUnit (← h.operate (·.beginStart ⟨true, false, false, false⟩))
  | .reconnect => return .ofUnit (← h.operate (·.reconnect))
  | .resubscribe => return .ofUnit (← h.operate (·.resubscribe))
  | .subscribe request => return .ofUnit (← h.operate (subscribe request))
  | .resolve id => return .symbol ((← h.session).resolve id)
  | .stats => return .stats (← h.session).stats
  | .drop =>
    match ← h.release with
    | .ok () => return .dropped
    | .error halt => return .ofHalt halt

/-- The host for a callback, whose thread is marked. While the callback runs the loop does nothing and
no other callback is called. -/
def inner : Host Stage SessionCall Answer := hostOn (fun _ => return .noSession) (some ()) 0

/-- A call from a callback. -/
def perform : SessionCall → StateM Stage Answer := call inner

/-- The host for the owner of the session, whose thread is in no callback. -/
def host (fuel : Nat) : Host Stage SessionCall Answer := hostOn perform none fuel

inductive Step where
  | subscribe (request : Subscription.Request)
  | start (scripts : Scripts SessionCall)
  /-- Several threads start at once. -/
  | raceStart (threads : Nat) (scripts : Scripts SessionCall)
  | stop (timeout : Option Nat)
  | block (timeout : Option Nat)
  | reconnect
  | resubscribe
  | resolve (id : UInt32)
  | subscriptions
  | stats
  | config
  | drop
  | push (bytes : Bytes)
  | pushStream (bytes : Bytes)
  | fail (message : String)
  | close
  | hand (d : Handing)
  | inject (method : EngineMethod) (failure : EngineFailure)
  | onStart (deliveries : List Handing)

/-- What a step is addressed to: the session, which may be gone, or its engine. -/
def Step.ofSession : Step → Bool
  | push _ | pushStream _ | fail _ | close | hand _ | inject .. | onStart _ => false
  | _ => true

/-- Starts as often as there are threads, and counts the starts that won and those that found the
session running. -/
def race (h : Host Stage SessionCall Answer) (scripts : Scripts SessionCall) :
    Nat → Nat → Nat → StateM Stage Answer
  | 0, won, running => return .race won running
  | n + 1, won, running => do
    match ← h.start scripts with
    | .ok () => race h scripts n (won + 1) running
    | .error (.failed .alreadyRunning) => race h scripts n won (running + 1)
    | .error _ => race h scripts n won running

def take (h : Host Stage SessionCall Answer) (step : Step) : StateM Stage Answer := do
  let s ← h.session
  if step.ofSession && s.released then return .noSession
  match step with
  | .subscribe request => return .ofUnit (← h.operate (subscribe request))
  | .start scripts => return .ofUnit (← h.start scripts)
  | .raceStart threads scripts => race h scripts threads 0 0
  | .stop timeout => return .ofVerdict (← h.stop timeout)
  | .block timeout => return .verdict (← h.wait timeout)
  | .reconnect => return .ofUnit (← h.operate (·.reconnect))
  | .resubscribe => return .ofUnit (← h.operate (·.resubscribe))
  | .resolve id => return .symbol (s.resolve id)
  | .subscriptions => return .subscriptions s.subscriptions
  | .stats => return .stats s.stats
  | .config => return .config s.config
  | .drop =>
    match ← h.release with
    | .ok () => return .dropped
    | .error halt => return .ofHalt halt
  | .push bytes => return .accepted (← h.operate (·.push (.record bytes)))
  | .pushStream bytes => return .count (← h.operate (·.pushStream bytes))
  | .fail message => return .accepted (← h.operate (·.push (.fault (.gateway message))))
  | .close => return .accepted (← h.operate (·.push .close))
  | .hand d => return .word (← h.hand d)
  | .inject method failure =>
    h.operate fun s => (.word "ok", s.modifyManual (·.inject method failure))
  | .onStart deliveries =>
    h.operate fun s => (.word "ok", s.modifyManual ({ · with onStart := deliveries }))

/-- How many records a step may put into the feed. -/
def Step.weight : Step → Nat
  | push _ | fail _ | close => 1
  | pushStream bytes => bytes.length
  | _ => 1

/-- What is seen of a step: its answer, the state after it (none once the session is gone), and what
was logged since the step before. -/
structure Seen where
  answer : Answer
  state : Option SessionState
  log : List (Entry Answer)

def see (h : Host Stage SessionCall Answer) (step : Step) : StateM Stage Seen := do
  let answer ← take h step
  h.settle
  let x ← h.scripted
  h.modifyScripted ({ · with log := [] })
  return ⟨answer, if x.session.released then none else some x.session.state, x.log⟩

structure Final where
  stats : Stats
  running : Bool
  subscriptions : Nat
  symbols : Nat

/-- What is seen of a rehearsal: its steps, the session at its end if it is still there, and what
was logged when it was then dropped. -/
structure Play where
  steps : List Seen
  final : Option Final
  log : List (Entry Answer)

def play (session : Session) (steps : List Step) : Play :=
  let h := host (8 * (steps.foldl (fun n s => n + s.weight) 8))
  let (seen, x) := (steps.mapM (see h)).run { session }
  if x.session.released then ⟨seen, none, []⟩
  else
    let s := x.session
    let final : Final := ⟨s.stats, s.lifecycle.isActive, s.subscriptions.length, s.symbols.size⟩
    let (_, x) := h.release.run x
    ⟨seen, some final, x.log⟩

def openManual (config : Config) (stopEnds : Bool) : Except SessionError Session :=
  (Session.connect () config (Manual.open stopEnds)).1

def openReplay (config : Config) (authorized : Option (List String)) (clock : List UInt64 := []) :
    Except SessionError Session :=
  ((Connector.new authorized).open config clock).1

end Stage

end MarketFeed.Rehearsal
