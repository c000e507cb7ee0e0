import MarketFeed.Session.Operations

set_option autoImplicit false

/-!
# Runs of a session

A run is a list of moves in any order: operations of the owner or of a callback, things put into
the feed, turns of the loop, replies of the callback that the session waits for, and deliveries by
hand. A start is two moves, `start` and `started`, as anything may happen before it is complete.

A move is over before the next one begins, as if the threads of the session took turns. The runs of
`Threads` are those in which they do not.

`Session.after` is the session after a run and `Session.trace` what was seen of it: a list of marks,
oldest first, in which metadata is without its time. Waits, statistics and lookups move nothing and
are asked of the session itself.
-/

namespace MarketFeed

inductive Move where
  | start (sinks : Sinks)
  /-- The start that claimed the session is complete. -/
  | started
  | stop
  | subscribe (sub : Subscription)
  | reconnect
  | resubscribe
  | release (delivering : Bool)
  | push (event : FeedEvent)
  | pushStream (buffer : Bytes)
  | turn
  /-- The callback that was called returns. -/
  | reply (r : Reply)
  | hand (h : Handing)
  | inject (method : EngineMethod) (failure : EngineFailure)

def Move.isReply : Move → Bool
  | reply _ => true
  | _ => false

inductive Mark where
  /-- A start claimed the session for a loop, which greets with the metadata if it is a replay
  loop. -/
  | claimed (sinks : Sinks) (metadata : Option Metadata)
  | pushed (event : FeedEvent)
  /-- A loop took an event from the feed, with these symbols known. -/
  | took (event : FeedEvent) (symbols : SymbolTable)
  /-- A record was delivered, and this is what routing made of it. -/
  | delivered (r : Record) (routed : Routed)
  | called (c : Call)
  | replied (c : Call) (r : Reply)
  /-- The loop let go of its callbacks. -/
  | ended
  deriving DecidableEq

namespace FeedEvent

/-- The record that an event carries. -/
def record? : FeedEvent → Option Record
  | .record bytes => (Record.decode bytes).toOption
  | _ => none

/-- What an exception policy is told of an event. -/
def fault? : FeedEvent → Option EngineError
  | .record bytes =>
    match Record.decode bytes with
    | .ok _ => none
    | .error e => some (.decode e)
  | .fault cause => some cause
  | .close => none

theorem record?_of_fault {event : FeedEvent} {cause : EngineError}
    (h : event.fault? = some cause) : event.record? = none := by
  cases event with
  | record bytes =>
    cases hd : Record.decode bytes with
    | ok r => simp [fault?, hd] at h
    | error cause => simp [record?, hd, Except.toOption]
  | fault cause => rfl
  | close => rfl

end FeedEvent

namespace Replay

theorem Turn.ofEvent_fault {event : FeedEvent} {cause : EngineError}
    (h : event.fault? = some cause) : Turn.ofEvent event = .fault cause := by
  cases event with
  | record bytes =>
    cases hd : Record.decode bytes with
    | ok r => simp [FeedEvent.fault?, hd] at h
    | error cause => simpa [FeedEvent.fault?, hd, Turn.ofEvent] using h
  | fault cause => simpa [FeedEvent.fault?, Turn.ofEvent] using h
  | close => cases h

end Replay

namespace Session

/-! ## Moves -/

/-- The session after a move. A turn that the loop cannot take changes nothing. -/
def move (s : Session) : Move → Session
  | .start sinks => (s.beginStart sinks).2
  | .started => s.completeStart.2
  | .stop => s.requestStop.2
  | .subscribe sub => (s.subscribe sub).2
  | .reconnect => s.reconnect.2
  | .resubscribe => s.resubscribe.2
  | .release delivering => (s.release delivering).2
  | .push event => (s.push event).2
  | .pushStream buffer => (s.pushStream buffer).2
  | .turn => s.step.getD s
  | .reply r => s.reply r
  | .hand h => (s.hand h).2
  | .inject method failure => s.modifyManual (·.inject method failure)

def after (s : Session) (ms : List Move) : Session := ms.foldl move s

/-! ## Marks -/

/-- Whether a start was refused before it claimed the session. -/
def refused : Except Halt Unit → Bool
  | .error (.failed (.invalidArgument _)) => true
  | .error (.failed .alreadyRunning) => true
  | .error (.failed .faulted) => true
  | _ => false

/-- The events in the feed, the oldest first. -/
def queue (s : Session) : List FeedEvent :=
  match s.engine with
  | .replay e => e.queue
  | .manual _ => []

def loop? (s : Session) : Option Replay.Loop :=
  match s.engine with
  | .replay e => e.loop
  | .manual _ => none

/-- The event that the next turn takes from the feed. -/
def next? (s : Session) : Option FeedEvent :=
  match s.calling, s.engine with
  | none, .replay e => if e.loop.any (·.greeted) && !e.shutdown then e.queue.head? else none
  | _, _ => none

/-- The events that a move puts into the feed. -/
def fed (s : Session) : Move → List FeedEvent
  | .push event => if s.feedOpen then [event] else []
  | .pushStream buffer =>
    if s.feedOpen then (Record.stream (fun _ _ => true) buffer).2.map fun r => .record r.bytes
    else []
  | _ => []

/-- The record that a move brings before the session. -/
def offered (s : Session) : Move → Option Record
  | .turn => s.next?.bind FeedEvent.record?
  | .hand (.deliver bytes) =>
    if (s.hand (.deliver bytes)).1 = .delivered then (Record.decode bytes).toOption else none
  | _ => none

/-- The callback that a move calls. -/
def newCall (s : Session) (m : Move) : Option Call :=
  match m with
  | .reply _ => (s.move m).calling
  | _ => if s.calling.isSome then none else (s.move m).calling

/-- The marks of what comes in with a move. -/
def arrivals (s : Session) : Move → List Mark
  | .start sinks =>
    if refused (s.beginStart sinks).1 then []
    else [.claimed sinks ((s.move (.start sinks)).loop?.map (·.metadata.timeless))]
  | .turn => s.next?.toList.map fun event => .took event s.symbols
  | .reply r => s.calling.toList.map fun c => .replied c.timeless r
  | m => (s.fed m).map .pushed

/-- The marks of a record that a move delivers. Nothing is delivered once a stop was requested. -/
def deliveries (s : Session) (m : Move) : List Mark :=
  if s.lifecycle.stopRequested then []
  else (s.offered m).toList.map fun r => .delivered r (Router.route s.symbols r).1

def marks (s : Session) (m : Move) : List Mark :=
  s.arrivals m ++ s.deliveries m ++ (s.newCall m).toList.map (.called ·.timeless) ++
    (if s.sinks.isSome && (s.move m).sinks.isNone then [.ended] else [])

def trace : Session → List Move → List Mark
  | _, [] => []
  | s, m :: ms => s.marks m ++ (s.move m).trace ms

/-! ## Runs -/

@[simp] theorem after_nil (s : Session) : s.after [] = s := rfl

@[simp] theorem after_cons (s : Session) (m : Move) (ms : List Move) :
    s.after (m :: ms) = (s.move m).after ms := rfl

theorem after_append (s : Session) (ms ns : List Move) :
    s.after (ms ++ ns) = (s.after ms).after ns := List.foldl_append

@[simp] theorem trace_nil (s : Session) : s.trace [] = [] := rfl

@[simp] theorem trace_cons (s : Session) (m : Move) (ms : List Move) :
    s.trace (m :: ms) = s.marks m ++ (s.move m).trace ms := rfl

theorem trace_append (s : Session) (ms ns : List Move) :
    s.trace (ms ++ ns) = s.trace ms ++ (s.after ms).trace ns := by
  induction ms generalizing s with
  | nil => rfl
  | cons m ms ih => simp [ih, List.append_assoc]

end Session

/-! ## Views of a trace -/

namespace Mark

def took? : Mark → Option FeedEvent
  | took event _ => some event
  | _ => none

def pushed? : Mark → Option FeedEvent
  | pushed event => some event
  | _ => none

def called? : Mark → Option Call
  | called c => some c
  | _ => none

def replied? : Mark → Option Call
  | replied c _ => some c
  | _ => none

def record? : Mark → Option Record
  | delivered r _ => some r
  | _ => none

def isClaim : Mark → Bool
  | claimed .. => true
  | _ => false

end Mark

def takes (t : List Mark) : List FeedEvent := t.filterMap Mark.took?

def pushes (t : List Mark) : List FeedEvent := t.filterMap Mark.pushed?

def calls (t : List Mark) : List Call := t.filterMap Mark.called?

def replies (t : List Mark) : List Call := t.filterMap Mark.replied?

/-- The records that were delivered, oldest first. -/
def delivered (t : List Mark) : List Record := t.filterMap Mark.record?

@[simp] theorem takes_append (t u : List Mark) : takes (t ++ u) = takes t ++ takes u :=
  List.filterMap_append

@[simp] theorem pushes_append (t u : List Mark) : pushes (t ++ u) = pushes t ++ pushes u :=
  List.filterMap_append

@[simp] theorem calls_append (t u : List Mark) : calls (t ++ u) = calls t ++ calls u :=
  List.filterMap_append

@[simp] theorem replies_append (t u : List Mark) : replies (t ++ u) = replies t ++ replies u :=
  List.filterMap_append

@[simp] theorem delivered_append (t u : List Mark) :
    delivered (t ++ u) = delivered t ++ delivered u := List.filterMap_append

@[simp] theorem takes_pushed (events : List FeedEvent) : takes (events.map .pushed) = [] := by
  simp [takes, Mark.took?]

@[simp] theorem takes_took (events : List FeedEvent) (symbols : SymbolTable) :
    takes (events.map fun event => .took event symbols) = events := by
  induction events with
  | nil => rfl
  | cons event events ih => exact congrArg (event :: ·) ih

@[simp] theorem takes_deliveries (s : Session) (m : Move) : takes (s.deliveries m) = [] := by
  unfold Session.deliveries
  split
  · rfl
  · simp [takes, Mark.took?]

@[simp] theorem pushes_pushed (events : List FeedEvent) :
    pushes (events.map .pushed) = events := by
  induction events with
  | nil => rfl
  | cons event events ih => exact congrArg (event :: ·) ih

@[simp] theorem calls_pushed (events : List FeedEvent) : calls (events.map .pushed) = [] := by
  simp [calls, Mark.called?]

@[simp] theorem replies_pushed (events : List FeedEvent) : replies (events.map .pushed) = [] := by
  simp [replies, Mark.replied?]

@[simp] theorem takes_called (cs : List Call) : takes (cs.map .called) = [] := by
  simp [takes, Mark.took?]

@[simp] theorem pushes_called (cs : List Call) : pushes (cs.map .called) = [] := by
  simp [pushes, Mark.pushed?]

@[simp] theorem calls_called (cs : List Call) : calls (cs.map .called) = cs := by
  induction cs with
  | nil => rfl
  | cons c cs ih => exact congrArg (c :: ·) ih

@[simp] theorem replies_called (cs : List Call) : replies (cs.map .called) = [] := by
  simp [replies, Mark.replied?]

@[simp] theorem delivered_pushed (events : List FeedEvent) :
    delivered (events.map .pushed) = [] := by
  simp [delivered, Mark.record?]

@[simp] theorem delivered_called (cs : List Call) : delivered (cs.map .called) = [] := by
  simp [delivered, Mark.record?]

end MarketFeed
