import MarketFeed.Proofs.Session.Rules
import MarketFeed.Session.Threads

set_option autoImplicit false

/-!
# Runs of a session with its threads

What is seen of a run of steps: the marks of a session, each shown by the step that it comes of.

`Does t e x m t'` lists what a step `x` can do to threads `t` over the replay engine `e`, with the
marks `m` that are seen of it and the threads `t'` after it. `Woven` is the invariant, and
`Does.woven` says that every step keeps it.
-/

namespace MarketFeed

namespace Place

/-- Whether the thread still has the callbacks. -/
def holdsCallbacks : Place → Bool
  | finishing => false
  | _ => true

/-- Where the loop goes with a call, or without one. -/
def after (c : Option Call) : Place := if c.isSome then calling else looking

end Place

namespace Threads

def new (s : Session) : Threads := { session := s }

/-- Whether there is a loop that has its callbacks. -/
def live (t : Threads) : Bool := t.place.any (·.holdsCallbacks)

/-! ## Marks -/

def Step.isReply : Step → Bool
  | reply _ => true
  | _ => false

/-- The marks of what comes in with a step. -/
def arrivals (t : Threads) : Step → List Mark
  | .launch =>
    match t.starting, t.launch.starting with
    | some (.claimed k), some .launched =>
      [.claimed k (t.launch.session.loop?.map (·.metadata.timeless))]
    | _, _ => []
  | .advance =>
    match t.place, t.advance.place with
    | some .receiving, some (.holding event) => [.took event t.session.symbols]
    | _, _ => []
  | .reply r => t.session.calling.toList.map fun c => .replied c.timeless r
  | .push event => (t.session.fed (.push event)).map .pushed
  | .pushStream buffer => (t.session.fed (.pushStream buffer)).map .pushed
  | _ => []

/-- The marks of a record that a step delivers. Nothing is delivered once a stop was requested. -/
def deliveries (t : Threads) : Step → List Mark
  | .advance =>
    match t.place with
    | some (.holding event) =>
      if t.session.lifecycle.stopRequested then []
      else event.record?.toList.map fun r => .delivered r (Router.route t.session.symbols r).1
    | _ => []
  | _ => []

/-- The callback that a step calls. -/
def newCall (t : Threads) (x : Step) : Option Call :=
  match x with
  | .reply _ => (t.step x).session.calling
  | _ => if t.session.calling.isSome then none else (t.step x).session.calling

def marks (t : Threads) (x : Step) : List Mark :=
  t.arrivals x ++ t.deliveries x ++ (t.newCall x).toList.map (.called ·.timeless) ++
    (if t.session.sinks.isSome && (t.step x).session.sinks.isNone then [.ended] else [])

def trace : Threads → List Step → List Mark
  | _, [] => []
  | t, x :: xs => t.marks x ++ (t.step x).trace xs

@[simp] theorem after_nil (t : Threads) : t.after [] = t := rfl

@[simp] theorem after_cons (t : Threads) (x : Step) (xs : List Step) :
    t.after (x :: xs) = (t.step x).after xs := rfl

theorem after_append (t : Threads) (xs ys : List Step) :
    t.after (xs ++ ys) = (t.after xs).after ys := List.foldl_append

@[simp] theorem trace_nil (t : Threads) : t.trace [] = [] := rfl

@[simp] theorem trace_cons (t : Threads) (x : Step) (xs : List Step) :
    t.trace (x :: xs) = t.marks x ++ (t.step x).trace xs := rfl

theorem trace_append (t : Threads) (xs ys : List Step) :
    t.trace (xs ++ ys) = t.trace xs ++ (t.after xs).trace ys := by
  induction xs generalizing t with
  | nil => rfl
  | cons x xs ih => simp [ih, List.append_assoc]

/-! ## What a step can do -/

/-- The session that a record was routed for, and the call that is due it, if any. -/
def routing (t : Threads) (r : Record) (c : Option Call) : Threads :=
  { t with session := { t.session.routed r with calling := c }, place := some (.after c) }

/-- A callback has returned, and the loop goes on to a place. -/
def returned (t : Threads) (r : Reply) (c : Option Call) (place : Place) : Threads :=
  { t with session := { t.session.noteReply r with calling := c }, place := some place }

inductive Does (t : Threads) (e : Replay) : Step → List Mark → Threads → Prop
  /-- A step that its thread cannot take, or a call that is refused. -/
  | still {x : Step} : Does t e x [] t
  -- the loop
  | greet {loop : Replay.Loop} {k : Sinks} : t.place = some .looking → t.session.sinks = some k →
      e.loop = some loop → loop.greeted = false →
      Does t e .advance ((k.greeting (some loop.metadata.timeless)).map .called)
        { t with
          session :=
            { t.session with
              engine := .replay { e with loop := some { loop with greeted := true } }
              calling := (k.greeting (some loop.metadata)).head? }
          place := some (.after (k.greeting (some loop.metadata)).head?) }
  | shutdown : t.place = some .looking → e.loop.any (·.greeted) = true → e.shutdown = true →
      Does t e .advance [] { t with place := some .leaving }
  | receive : t.place = some .looking → e.loop.any (·.greeted) = true → e.shutdown = false →
      Does t e .advance [] { t with place := some .receiving }
  | timeout : t.place = some .receiving → Does t e .timeout [] { t with place := some .looking }
  | take {event : FeedEvent} {queue : List FeedEvent} : t.place = some .receiving →
      e.queue = event :: queue →
      Does t e .advance [.took event t.session.symbols]
        { t with
          session := { t.session with engine := .replay { e with queue } }
          place := some (.holding event) }
  /-- The event is a close, or comes after a stop was requested. -/
  | drop {event : FeedEvent} : t.place = some (.holding event) →
      (event = .close ∨ t.session.lifecycle.stopRequested = true) →
      Does t e .advance [] { t with place := some .leaving }
  | event {k : Sinks} {bytes : Bytes} {r : Record} {ev : Event} :
      t.place = some (.holding (.record bytes)) → t.session.sinks = some k →
      t.session.lifecycle.stopRequested = false → Record.decode bytes = .ok r →
      (Router.route t.session.symbols r).1 = .event ev → k.event = true →
      Does t e .advance [.delivered r (.event ev), .called (.event ev r)]
        (t.routing r (some (.event ev r)))
  | record {k : Sinks} {bytes : Bytes} {r : Record} :
      t.place = some (.holding (.record bytes)) → t.session.sinks = some k →
      t.session.lifecycle.stopRequested = false → Record.decode bytes = .ok r →
      k.forEvent r (Router.route t.session.symbols r).1 = [] →
      Does t e .advance
        (.delivered r (Router.route t.session.symbols r).1 :: (k.forRecord r).map .called)
        (t.routing r (k.forRecord r).head?)
  | consult {k : Sinks} {event : FeedEvent} {cause : EngineError} :
      t.place = some (.holding event) → t.session.sinks = some k →
      t.session.lifecycle.stopRequested = false → event.fault? = some cause →
      k.exception = true →
      Does t e .advance [.called (.exception cause)]
        { t with
          session := { t.session with calling := some (.exception cause) }
          place := some .calling }
  | giveUp {k : Sinks} {event : FeedEvent} {cause : EngineError} :
      t.place = some (.holding event) → t.session.sinks = some k →
      t.session.lifecycle.stopRequested = false → event.fault? = some cause →
      k.exception = false →
      Does t e .advance []
        { t with
          session := { t.session with lifecycle := t.session.lifecycle.fault }
          place := some .leaving }
  | leave : t.place = some .leaving →
      Does t e .advance [.ended] { t with session := t.session.loopExit, place := some .finishing }
  | finish : t.place = some .finishing →
      Does t e .advance []
        { t with
          session := { t.session with engine := .replay { e with loop := none } }
          place := none }
  -- replies of callbacks
  | greeted {m : Metadata} {r : Reply} : t.session.calling = some (.metadata m) →
      Does t e (.reply r) [.replied (.metadata m.timeless) r] (t.returned r none .looking)
  | offer {ev : Event} {rec : Record} {r : Reply} {k : Sinks} : t.session.sinks = some k →
      t.session.calling = some (.event ev rec) → k.record = true →
      Does t e (.reply r) [.replied (.event ev rec) r, .called (.record rec)]
        (t.returned r (some (.record rec)) .calling)
  | proceed {c : Call} {r : Reply} {k : Sinks} : t.session.sinks = some k →
      t.session.calling = some c → k.verdict? c r = some .proceed →
      t.session.lifecycle.stopRequested = false →
      Does t e (.reply r) [.replied c r] (t.returned r none .looking)
  | stopped {c : Call} {r : Reply} {k : Sinks} {v : Verdict} : t.session.sinks = some k →
      t.session.calling = some c → k.verdict? c r = some v →
      (t.session.lifecycle.stopRequested = true ∨ v = .stop) →
      Does t e (.reply r) [.replied c r] (t.returned r none .leaving)
  | restart {loop : Replay.Loop} {cause : EngineError} {r : Reply} : e.loop = some loop →
      t.session.calling = some (.exception cause) → r.recovery = .restart →
      Does t e (.reply r) [.replied (.exception cause) r]
        { t with
          session :=
            { t.session.noteReply r with
              stats := (t.session.noteReply r).stats.restart
              lifecycle := t.session.lifecycle.noteRestart
              calling := none
              engine := .replay
                { e with
                  connection := e.connection + 1
                  clock := e.clock.tail
                  loop := some ⟨{ loop.metadata with start := e.now }, false⟩ } }
          place := some .looking }
  | abandon {cause : EngineError} {r : Reply} : t.session.calling = some (.exception cause) →
      r.recovery = .stop →
      Does t e (.reply r) [.replied (.exception cause) r]
        { t with
          session :=
            { t.session.noteReply r with lifecycle := t.session.lifecycle.fault, calling := none }
          place := some .leaving }
  -- calls
  | claim {k : Sinks} : (k.record || k.event) = true → t.session.state = .idle →
      Does t e (.claim k) []
        { t with
          session :=
            { t.session with
              lifecycle := { t.session.lifecycle with state := .starting }
              symbols := .empty
              stats := t.session.stats.start }
          starting := some (.claimed k) }
  | launch {k : Sinks} : t.starting = some (.claimed k) → e.loop = none →
      Does t e .launch [.claimed k (some e.metadata.timeless)]
        { t with
          session :=
            { t.session with
              engine := .replay
                { e with
                  shutdown := false
                  loop := some ⟨e.metadata, false⟩
                  clock := e.clock.tail }
              sinks := some k }
          place := some .looking
          starting := some .launched }
  /-- The old loop is still unfinished. -/
  | lapse {k : Sinks} : t.starting = some (.claimed k) → e.loop.isSome = true →
      Does t e .launch []
        { t with
          session :=
            { t.session with lifecycle := t.session.lifecycle.loopExited.finishStart false }
          starting := none }
  | succeed : t.starting = some .launched →
      Does t e .succeed []
        { t with
          session := t.session.succeed
          starting := none
          errands := t.errands ++ [.stop] }
  | ask {errand : Errand} : errand.check t.session = .ok t.session →
      Does t e (.ask errand) [] { t with errands := t.errands ++ [errand] }
  | askStop {errands : List Errand} : (∀ errand ∈ errands, errand = .stop) →
      Does t e (.ask .stop) []
        { t with session := t.session.askStop, errands := t.errands ++ errands }
  | giveAway :
      Does t e (.ask .release) []
        { t with session := t.session.giveUp, errands := t.errands ++ [.release] }
  | subscribe {sub : Subscription} : .subscribe sub ∈ t.errands →
      Does t e (.carry (.subscribe sub)) []
        { t with
          session :=
            { t.session with
              engine := .replay (e.subscribe sub)
              subscriptions := t.session.subscriptions ++ [sub] }
          errands := t.errands.erase (.subscribe sub) }
  | reconnect : t.session.subscriptions ≠ [] → e.loop = none →
      Does t e (.carry .reconnect) []
        { t with
          session :=
            { t.session with engine := .replay { e with connection := e.connection + 1 } }
          errands := t.errands.erase .reconnect }
  /-- The errand comes to nothing, or has nothing to do. -/
  | carry {errand : Errand} : (∀ sub, errand ≠ .subscribe sub) →
      Does t e (.carry errand) [] { t with errands := t.errands.erase errand }
  | tell {errand : Errand} : errand ∈ t.errands →
      (errand = .stop ∧ t.session.lifecycle.stopRequested = true ∨ errand = .release) →
      Does t e (.carry errand) []
        { t with
          session := { t.session with engine := .replay { e with shutdown := true } }
          errands := t.errands.erase errand }
  | feed {x : Step} {events : List FeedEvent} :
      Does t e x (events.map .pushed)
        { t with
          session := { t.session with engine := .replay { e with queue := e.queue ++ events } } }

end Threads

end MarketFeed
