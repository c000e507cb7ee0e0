import MarketFeed.Proofs.Session.Invariant
import MarketFeed.Proofs.Session.Run

set_option autoImplicit false

/-!
# The rules of a replay session

`Rule s e m t s'` lists what a move `m` can do to a session `s` over the replay engine `e`: the
marks `t` that are seen of it and the session `s'` after it. `Sound` is the invariant of these
sessions, and `Sound.rule` says that every move of a sound session follows a rule. What a move keeps
or changes is then read off the rules, one case for each, and no proof opens the functions of the
session again.
-/

namespace MarketFeed

namespace Sinks

/-- The call by which a loop greets. -/
def greeting (k : Sinks) (metadata : Option Metadata) : List Call :=
  if k.metadata then metadata.toList.map .metadata else []

/-- The call that a routed record is due to the event callback. -/
def forEvent (k : Sinks) (r : Record) : Routed → List Call
  | .event e => if k.event then [.event e r] else []
  | _ => []

/-- Only a record that is routed to an event is due a call to the event callback. -/
theorem event_of_forEvent {k : Sinks} {r : Record} {routed : Routed} {c : Call} {cs : List Call}
    (h : k.forEvent r routed = c :: cs) : ∃ ev, routed = .event ev ∧ k.event = true := by
  cases routed with
  | event ev =>
    cases hev : k.event with
    | true => exact ⟨ev, rfl, rfl⟩
    | false => simp [forEvent, hev] at h
  | suppressed | failed => cases h

/-- The call that a record is due to the record callback. -/
def forRecord (k : Sinks) (r : Record) : List Call := if k.record then [.record r] else []

/-- The verdict on a record once a callback has replied, if no other callback is due the record. -/
def verdict? (k : Sinks) : Call → Reply → Option Verdict
  | .event .., _ => if k.record then none else some .proceed
  | .record _, r => some r.verdict
  | _, _ => none

/-- A callback that replies with a verdict was not called with metadata. -/
theorem timeless_of_verdict {k : Sinks} {c : Call} {r : Reply} {v : Verdict}
    (hv : k.verdict? c r = some v) : c.timeless = c := by
  cases c with
  | metadata => cases hv
  | event | record | exception => rfl

end Sinks

namespace Session

/-! ## What happens to a session -/

/-- The loop is over: the engine has let go of it and of the callbacks. -/
def quit (s : Session) (e : Replay) : Session :=
  { s with
    engine := .replay { e with loop := none }
    calling := none
    sinks := none
    lifecycle := s.lifecycle.loopExited }

/-- A record was counted and routed. -/
def routed (s : Session) (r : Record) : Session :=
  let stats := s.stats.delivered r.size
  { s with
    symbols := (Router.route s.symbols r).2
    stats :=
      match (Router.route s.symbols r).1 with
      | .event _ => if s.has (·.event) then stats.event else stats
      | .suppressed => stats.heartbeat
      | .failed _ => stats.dispatchError }

/-- The record callback, if there is one, is called with a record. -/
def showing (s : Session) (e : Replay) (k : Sinks) (r : Record) : Session :=
  if k.record then { s with engine := .replay e, calling := some (.record r) }
  else { s with engine := .replay e, calling := none }

end Session

/-- What a move can do to a session over a replay engine. -/
inductive Rule (s : Session) (e : Replay) : Move → List Mark → Session → Prop
  /-- A start that is refused, a turn that there is nothing for, a reply that nobody waits for. -/
  | still {m : Move} : Rule s e m [] s
  | subscribe {sub : Subscription} : s.lifecycle.ensureUsable = .ok () →
      Rule s e (.subscribe sub) []
        { s with engine := .replay (e.subscribe sub), subscriptions := s.subscriptions ++ [sub] }
  | reconnect : s.ensureReady "reconnect" = .ok () → e.loop = none →
      Rule s e .reconnect []
        { s with engine := .replay { e with connection := e.connection + 1 } }
  | start {k : Sinks} : (k.record || k.event) = true → s.state = .idle →
      Rule s e (.start k) [.claimed k (some e.metadata.timeless)]
        { s with
          lifecycle := { s.lifecycle with state := .starting }
          symbols := .empty
          stats := s.stats.start
          engine := .replay
            { e with shutdown := false, loop := some ⟨e.metadata, false⟩, clock := e.clock.tail }
          sinks := some k }
  | started :
      Rule s e .started []
        { s with
          lifecycle := s.lifecycle.finishStart true
          engine := .replay
            { e with shutdown := e.shutdown || (s.lifecycle.finishStart true).stopRequested } }
  | stop :
      Rule s e .stop []
        { s with
          lifecycle := s.lifecycle.requestStop
          engine := .replay
            { e with shutdown := e.shutdown || s.lifecycle.requestStop.stopRequested } }
  | release {delivering : Bool} :
      Rule s e (.release delivering) []
        { s with
          lifecycle := s.lifecycle.requestStop
          released := true
          engine := .replay { e with shutdown := true } }
  | feed {m : Move} :
      Rule s e m ((s.fed m).map .pushed)
        { s with engine := .replay { e with queue := e.queue ++ s.fed m } }
  -- turns of the loop
  | greet {loop : Replay.Loop} {k : Sinks} : s.calling = none → s.sinks = some k →
      e.loop = some loop → loop.greeted = false →
      Rule s e .turn ((k.greeting (some loop.metadata.timeless)).map .called)
        { s with
          engine := .replay { e with loop := some { loop with greeted := true } }
          calling := (k.greeting (some loop.metadata)).head? }
  | shutdown {loop : Replay.Loop} : s.calling = none → e.loop = some loop →
      loop.greeted = true → e.shutdown = true → Rule s e .turn [.ended] (s.quit e)
  | close {loop : Replay.Loop} {queue : List FeedEvent} : s.calling = none → e.loop = some loop →
      loop.greeted = true → e.shutdown = false → e.queue = .close :: queue →
      Rule s e .turn [.took .close s.symbols, .ended] (s.quit { e with queue })
  | event {loop : Replay.Loop} {k : Sinks} {bytes : Bytes} {queue : List FeedEvent} {r : Record}
      {ev : Event} : s.calling = none → s.sinks = some k → e.loop = some loop →
      loop.greeted = true → e.shutdown = false → e.queue = .record bytes :: queue →
      Record.decode bytes = .ok r → (Router.route s.symbols r).1 = .event ev → k.event = true →
      Rule s e .turn
        [.took (.record bytes) s.symbols, .delivered r (.event ev), .called (.event ev r)]
        { s.routed r with engine := .replay { e with queue }, calling := some (.event ev r) }
  | record {loop : Replay.Loop} {k : Sinks} {bytes : Bytes} {queue : List FeedEvent} {r : Record} :
      s.calling = none → s.sinks = some k → e.loop = some loop →
      loop.greeted = true → e.shutdown = false → e.queue = .record bytes :: queue →
      Record.decode bytes = .ok r → k.forEvent r (Router.route s.symbols r).1 = [] →
      Rule s e .turn
        (.took (.record bytes) s.symbols :: .delivered r (Router.route s.symbols r).1 ::
          (k.forRecord r).map .called)
        ((s.routed r).showing { e with queue } k r)
  | consult {loop : Replay.Loop} {k : Sinks} {event : FeedEvent} {queue : List FeedEvent}
      {cause : EngineError} : s.calling = none → s.sinks = some k → e.loop = some loop →
      loop.greeted = true → e.shutdown = false → e.queue = event :: queue →
      event.fault? = some cause → k.exception = true →
      Rule s e .turn [.took event s.symbols, .called (.exception cause)]
        { s with engine := .replay { e with queue }, calling := some (.exception cause) }
  | giveUp {loop : Replay.Loop} {k : Sinks} {event : FeedEvent} {queue : List FeedEvent}
      {cause : EngineError} : s.calling = none → s.sinks = some k → e.loop = some loop →
      loop.greeted = true → e.shutdown = false → e.queue = event :: queue →
      event.fault? = some cause → k.exception = false →
      Rule s e .turn [.took event s.symbols, .ended]
        ({ s with lifecycle := s.lifecycle.fault }.quit { e with queue })
  -- replies of callbacks
  | greeted {m : Metadata} {r : Reply} : s.calling = some (.metadata m) →
      Rule s e (.reply r) [.replied (.metadata m.timeless) r] { s.noteReply r with calling := none }
  | offer {ev : Event} {rec : Record} {r : Reply} {k : Sinks} : s.sinks = some k →
      s.calling = some (.event ev rec) → k.record = true →
      Rule s e (.reply r) [.replied (.event ev rec) r, .called (.record rec)]
        { s.noteReply r with calling := some (.record rec) }
  | proceed {c : Call} {r : Reply} {k : Sinks} : s.sinks = some k → s.calling = some c →
      k.verdict? c r = some .proceed → s.lifecycle.stopRequested = false →
      Rule s e (.reply r) [.replied c r] { s.noteReply r with calling := none }
  | stopped {c : Call} {r : Reply} {k : Sinks} {v : Verdict} : s.sinks = some k →
      s.calling = some c → k.verdict? c r = some v →
      (s.lifecycle.stopRequested = true ∨ v = .stop) →
      Rule s e (.reply r) [.replied c r, .ended] ((s.noteReply r).quit e)
  | restart {loop : Replay.Loop} {cause : EngineError} {r : Reply} : e.loop = some loop →
      s.calling = some (.exception cause) → r.recovery = .restart →
      Rule s e (.reply r) [.replied (.exception cause) r]
        { s.noteReply r with
          stats := (s.noteReply r).stats.restart
          lifecycle := s.lifecycle.noteRestart
          calling := none
          engine := .replay
            { e with
              connection := e.connection + 1
              clock := e.clock.tail
              loop := some ⟨{ loop.metadata with start := e.now }, false⟩ } }
  | abandon {cause : EngineError} {r : Reply} : s.calling = some (.exception cause) →
      r.recovery = .stop →
      Rule s e (.reply r) [.replied (.exception cause) r, .ended]
        ({ s.noteReply r with lifecycle := s.lifecycle.fault }.quit e)

/-! ## The invariant is kept -/

namespace Sound

variable {s : Session} {e : Replay}

theorem noteReply (hs : Sound s e) (r : Reply) : Sound (s.noteReply r) e := by
  cases r with
  | code => exact hs
  | panic => exact ⟨hs.engine, hs.sinks, hs.calling, hs.attuned⟩

theorem returned (hs : Sound s e) : Sound { s with calling := none } e :=
  ⟨hs.engine, hs.sinks, fun _ h => (by cases h), hs.attuned⟩

theorem called (hs : Sound s e) {c : Call} (h : s.calling = some c) (c' : Call) :
    Sound { s with calling := some c' } e :=
  ⟨hs.engine, hs.sinks, fun _ _ => hs.calling c h, hs.attuned⟩

theorem attuned_of_calling (hs : Sound s e) {c : Call} (h : s.calling = some c) :
    Attuned s.lifecycle true e.shutdown := by
  obtain ⟨loop, hl, -⟩ := hs.calling c h
  have := hs.attuned
  rwa [hl] at this

theorem quit (ha : Attuned s.lifecycle.loopExited false e.shutdown) :
    Sound (s.quit e) { e with loop := none } :=
  ⟨rfl, rfl, fun _ h => (by cases h), ha⟩

end Sound

theorem Rule.sound {s : Session} {e : Replay} {m : Move} {t : List Mark} {s' : Session}
    (hs : Sound s e) (hr : Rule s e m t s') : ∃ e', Sound s' e' := by
  have hs' := hs
  obtain ⟨he, hk, hc, ha⟩ := hs'
  cases hr with
  | still => exact ⟨e, hs⟩
  | subscribe | reconnect => exact ⟨_, rfl, hk, hc, ha⟩
  | start _ hw =>
    refine ⟨_, rfl, rfl, fun c h => ?_, ha.beginStart hw⟩
    rw [(hs.idle hw).2.2] at h
    cases h
  | started => exact ⟨_, rfl, hk, hc, ha.finishStart⟩
  | stop =>
    have := ha.requestStop false
    rw [Bool.or_false] at this
    exact ⟨_, rfl, hk, hc, this⟩
  | release =>
    have := ha.requestStop true
    rw [Bool.or_true, Bool.true_or] at this
    exact ⟨_, rfl, hk, hc, this⟩
  | feed => exact ⟨_, rfl, hk, hc, ha⟩
  | greet _ _ hl _ =>
    rw [hl] at hk ha
    exact ⟨_, rfl, hk, fun _ _ => ⟨_, rfl, rfl⟩, ha⟩
  | shutdown _ hl _ _ =>
    rw [hl] at ha
    exact ⟨_, Sound.quit ha.loopExited⟩
  | close _ hl _ _ _ =>
    rw [hl] at ha
    exact ⟨_, Sound.quit ha.loopExited⟩
  | event _ _ hl hg _ _ _ _ _ => exact ⟨_, rfl, hk, fun _ _ => ⟨_, hl, hg⟩, ha⟩
  | @record loop k bytes queue r _ _ hl hg =>
    unfold Session.showing
    split
    · exact ⟨_, rfl, hk, fun _ _ => ⟨_, hl, hg⟩, ha⟩
    · exact ⟨_, rfl, hk, fun _ h => (by cases h), ha⟩
  | consult _ _ hl hg _ _ _ _ => exact ⟨_, rfl, hk, fun _ _ => ⟨_, hl, hg⟩, ha⟩
  | giveUp _ _ hl _ _ _ _ _ =>
    rw [hl] at ha
    exact ⟨_, Sound.quit ha.fault⟩
  | @greeted m r => exact ⟨e, (hs.noteReply r).returned⟩
  | @offer ev rec r k _ hcl =>
    have hcl : (s.noteReply r).calling = some (.event ev rec) := by cases r <;> exact hcl
    exact ⟨e, (hs.noteReply r).called hcl _⟩
  | @proceed c r => exact ⟨e, (hs.noteReply r).returned⟩
  | @stopped c r k v _ hcl =>
    have hcl : (s.noteReply r).calling = some c := by cases r <;> exact hcl
    exact ⟨_, Sound.quit ((hs.noteReply r).attuned_of_calling hcl).loopExited⟩
  | @restart loop cause r hl _ _ =>
    have hr := hs.noteReply r
    rw [hl] at hk ha
    refine ⟨_, rfl, ?_, fun _ h => (by cases h), ha.noteRestart⟩
    exact hr.sinks.trans (by rw [hl]; rfl)
  | @abandon cause r hcl _ => exact ⟨_, Sound.quit (hs.attuned_of_calling hcl).fault⟩

end MarketFeed
