import Mathlib.Logic.Function.Basic
import MarketFeed.Proofs.Session.Run
import MarketFeed.Session.Opening

set_option autoImplicit false

/-!
# Processes

The sessions of a process share the connector that opens them, which keeps the feed of the last
session that was opened with each key, and the threads, each of which is marked with the session
whose callback it is in. A session runs its callbacks on the thread of its loop; operations may be
made by any thread.

A process acts in the moves of its sessions, so that a list of acts is an interleaving of all its
threads. `Process.after` is the process after a run and `Process.log` what was seen of it: the
answer to each act, and the marks.
-/

namespace MarketFeed

namespace Process

inductive Thread where
  | host (number : Nat)
  /-- The thread of the present loop of a session. -/
  | delivery (session : String)
  deriving DecidableEq

/-- What can be put into the feed of a key. -/
inductive Feeding where
  | event (event : FeedEvent)
  | stream (buffer : Bytes)

def Feeding.move : Feeding → Move
  | event e => .push e
  | stream buffer => .pushStream buffer

inductive Act where
  /-- Opens a session and gives it a name. -/
  | connect (name : String) (config : Config)
  /-- A move of a session: an operation by a thread, or what its loop does. -/
  | move (t : Thread) (name : String) (m : Move)
  | feed (key : String) (f : Feeding)
  /-- A thread begins to wait for the loop of a session to end. -/
  | wait (t : Thread) (name : String)
  /-- A wait for the loop of a session ends, as the loop has ended or the time has run out. -/
  | wake (name : String)

inductive Answer where
  /-- There is a session of this name already. -/
  | taken
  | noSession
  /-- No session was opened with the key. -/
  | noFeed
  | opened (r : Except SessionError Unit)
  | done (r : Except Halt Unit)
  | accepted (b : Bool)
  | count (n : Except DecodeError Nat)
  | handed (h : Session.Handed)
  | verdict (v : Verdict)
  /-- The thread waits until it is woken. -/
  | waits
  | nothing

/-- What is seen of an act: the answer, and the marks of the session. -/
structure Report where
  answer : Answer
  marks : List Mark := []

end Process

/-- The answer to the caller of a move; a turn and a reply have no caller. -/
def Session.answer (s : Session) : Move → Process.Answer
  | .start k => .done (s.beginStart k).1
  | .started => .done s.completeStart.1
  | .stop => .done s.requestStop.1
  | .subscribe sub => .done (s.subscribe sub).1
  | .reconnect => .done s.reconnect.1
  | .resubscribe => .done s.resubscribe.1
  | .release delivering => .done (s.release delivering).1
  | .push event => .accepted (s.push event).1
  | .pushStream buffer => .count (s.pushStream buffer).1
  | .hand h => .handed (s.hand h).1
  | .turn | .reply _ | .inject .. => .nothing

/-- A release waits for the loop unless it is made on the thread of the loop. -/
def Move.onThread (m : Move) (delivering : Bool) : Move :=
  match m with
  | .release _ => .release delivering
  | m => m

structure Process where
  /-- What the clock is going to read for each session. -/
  clock : String → List UInt64
  connector : Connector
  sessions : Named Session
  /-- The session of each engine, in the order in which they were opened. -/
  engines : List String
  /-- The session whose callback a thread is in. -/
  mark : Process.Thread → Option String
  /-- What the thread of a session was marked with before the callback that it is in. -/
  before : String → Option String

namespace Process

def new (authorized : Option (List String)) (clock : String → List UInt64 := fun _ => []) :
    Process where
  clock := clock
  connector := .new authorized
  sessions := []
  engines := []
  mark _ := none
  before _ := none

def session? (p : Process) (name : String) : Option Session := p.sessions.get? name

/-- The session that the feed of a key reaches. -/
def reached (p : Process) (key : String) : Option String :=
  (p.connector.feed? key).bind (p.engines[·]?)

/-- Whether a thread is in a callback of a session. -/
def onDelivery (p : Process) (t : Thread) (name : String) : Bool :=
  delivers (p.mark t) name

/-! ## Acts -/

/-- The thread of a session enters a callback. -/
def enter (p : Process) (name : String) : Process :=
  { p with
    before := Function.update p.before name (p.mark (.delivery name))
    mark := Function.update p.mark (.delivery name) (some name) }

/-- The thread of a session leaves a callback, and is marked as it was before. -/
def leave (p : Process) (name : String) : Process :=
  { p with mark := Function.update p.mark (.delivery name) (p.before name) }

/-- A session has moved on. -/
def replace (p : Process) (name : String) (s s' : Session) : Process :=
  let p := { p with sessions := p.sessions.put name s' }
  match s.calling, s'.calling with
  | none, some _ => p.enter name
  | some _, none => p.leave name
  | _, _ => p

def operate (p : Process) (name : String) (m : Move) : Report × Process :=
  match p.session? name with
  | none => (⟨.noSession, []⟩, p)
  | some s => (⟨s.answer m, s.marks m⟩, p.replace name s (s.move m))

/-- The answer to a thread that begins to wait. In a callback of the session it does not wait. -/
def waiting (p : Process) (t : Thread) (name : String) : Answer :=
  match p.session? name with
  | none => .noSession
  | some s =>
    match s.lifecycle.atOnce (p.onDelivery t name) with
    | some v => .verdict v
    | none => .waits

def woken (p : Process) (name : String) : Answer :=
  match p.session? name with
  | none => .noSession
  | some s => .verdict s.waited

def connect (p : Process) (name : String) (config : Config) : Report × Process :=
  match p.session? name with
  | some _ => (⟨.taken, []⟩, p)
  | none =>
    match p.connector.open config (p.clock name) with
    | (.error cause, connector) => (⟨.opened (.error cause), []⟩, { p with connector })
    | (.ok s, connector) =>
      (⟨.opened (.ok ()), []⟩,
        { p with connector, sessions := p.sessions.put name s, engines := p.engines ++ [name] })

def act (p : Process) : Act → Report × Process
  | .connect name config => p.connect name config
  | .move t name m => p.operate name (m.onThread (p.onDelivery t name))
  | .feed key f =>
    match p.reached key with
    | none => (⟨.noFeed, []⟩, p)
    | some name => p.operate name f.move
  | .wait t name => (⟨p.waiting t name, []⟩, p)
  | .wake name => (⟨p.woken name, []⟩, p)

/-! ## Runs -/

def after (p : Process) (acts : List Act) : Process := acts.foldl (fun p a => (p.act a).2) p

def log : Process → List Act → List (Act × Report)
  | _, [] => []
  | p, a :: acts => (a, (p.act a).1) :: (p.act a).2.log acts

@[simp] theorem after_nil (p : Process) : p.after [] = p := rfl

@[simp] theorem after_cons (p : Process) (a : Act) (acts : List Act) :
    p.after (a :: acts) = (p.act a).2.after acts := rfl

end Process

end MarketFeed
