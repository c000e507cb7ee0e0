import MarketFeed.Proofs.Session.Steps
import MarketFeed.Proofs.Threads.Run

set_option autoImplicit false

/-!
# What the steps show

`Shows t xs m t'`: a run of steps `xs` of the threads `t` shows the marks `m` and leads to `t'`. Here
is one lemma for each thing that a step can do; the runs of several steps are put together of them
by `Shows.trans`.
-/

namespace MarketFeed

open Threads

/-- What a run of steps shows, and where it leads. -/
structure Threads.Shows (t : Threads) (xs : List Step) (m : List Mark) (t' : Threads) : Prop where
  trace : t.trace xs = m
  after : t.after xs = t'

variable {t : Threads} {e : Replay}

namespace Threads.Shows

variable {t' t'' : Threads} {x : Step} {xs ys : List Step} {m n : List Mark}

theorem nil : Shows t [] [] t := ⟨rfl, rfl⟩

theorem trans (h : Shows t xs m t') (h' : Shows t' ys n t'') : Shows t (xs ++ ys) (m ++ n) t'' where
  trace := by rw [trace_append, h.after, h.trace, h'.trace]
  after := by rw [after_append, h.after, h'.after]

theorem of_step (hs : t.step x = t') (hm : t.marks x = m) : Shows t [x] m t' :=
  ⟨by rw [trace_cons, trace_nil, List.append_nil, hm], hs⟩

theorem step (h : Shows t [x] m t') : t.step x = t' := h.after

theorem marks (h : Shows t [x] m t') : t.marks x = m := by
  rw [← h.trace, trace_cons, trace_nil, List.append_nil]

/-- A step that calls no callback and keeps those there are shows only what comes in with it. -/
theorem of_same (hs : t.step x = t') (ha : t.arrivals x = m) (hd : t.deliveries x = [])
    (hn : x.isReply = false) (hc : t'.session.calling = t.session.calling)
    (hk : t'.session.sinks = t.session.sinks) : Shows t [x] m t' := by
  refine .of_step hs ?_
  have hnew : t.newCall x = none := by
    unfold newCall
    split
    · cases hn
    · rw [hs, hc]
      cases t.session.calling <;> rfl
  have hend : (t.session.sinks.isSome && (t.step x).session.sinks.isNone) = false := by
    rw [hs, hk]
    cases t.session.sinks <;> rfl
  simp [Threads.marks, ha, hd, hnew, hend]

theorem of_still (hs : t.step x = t) (ha : t.arrivals x = []) (hd : t.deliveries x = [])
    (hn : x.isReply = false) : Shows t [x] [] t :=
  of_same hs ha hd hn rfl rfl

/-- A step of the loop while no callback runs. -/
theorem of_advance (hc : t.session.calling = none) (hs : t.step .advance = t')
    (hm : m = t.arrivals .advance ++ t.deliveries .advance ++
      t'.session.calling.toList.map (.called ·.timeless) ++
      (if t.session.sinks.isSome && t'.session.sinks.isNone then [.ended] else [])) :
    Shows t [.advance] m t' := by
  refine .of_step hs ?_
  simp [hm, Threads.marks, newCall, hs, hc]

/-- A reply, and the callback that it leads to. -/
theorem of_reply {c : Call} (hc : t.session.calling = some c) {r : Reply}
    (hs : t.step (.reply r) = t') (hk : t'.session.sinks = t.session.sinks)
    (hm : m = .replied c.timeless r :: t'.session.calling.toList.map (.called ·.timeless)) :
    Shows t [.reply r] m t' := by
  refine .of_step hs ?_
  have hend : (t.session.sinks.isSome && t.session.sinks.isNone) = false := by
    cases t.session.sinks <;> rfl
  simp [Threads.marks, arrivals, newCall, deliveries, hc, hs, hk, hend, hm]

end Threads.Shows

namespace Threads

/-! ## The loop -/

section Loop

variable {k : Sinks} {loop : Replay.Loop} {event : FeedEvent} {cause : EngineError}

section

variable (he : t.session.engine = .replay e) (hp : t.place = some .looking)
  (hl : e.loop = some loop)
include he hp hl

theorem shows_greet (hc : t.session.calling = none) (hk : t.session.sinks = some k)
    (hg : loop.greeted = false) :
    Shows t [.advance] ((k.greeting (some loop.metadata.timeless)).map .called)
      { t with
        session :=
          { t.session with
            engine := .replay { e with loop := some { loop with greeted := true } }
            calling := (k.greeting (some loop.metadata)).head? }
        place := some (.after (k.greeting (some loop.metadata)).head?) } := by
  refine .of_advance hc ?_ ?_
  · cases hkm : k.metadata <;>
      simp [step, advance, hp, he, look, Replay.look, hl, hg, Replay.greet, Session.greet,
        Session.has, hk, hkm, follow, Sinks.greeting, Place.after]
  · cases hkm : k.metadata <;> simp [arrivals, deliveries, hp, hk, hkm, Sinks.greeting]

theorem shows_shutdown (hg : loop.greeted = true) (hsd : e.shutdown = true) :
    Shows t [.advance] [] { t with place := some .leaving } := by
  refine .of_same ?_ (by simp [arrivals, hp]) (by simp [deliveries, hp]) rfl rfl rfl
  simp [step, advance, hp, he, look, Replay.look, hl, hg, hsd]

theorem shows_receive (hg : loop.greeted = true) (hsd : e.shutdown = false) :
    Shows t [.advance] [] { t with place := some .receiving } := by
  refine .of_same ?_ (by simp [arrivals, hp]) (by simp [deliveries, hp]) rfl rfl rfl
  simp [step, advance, hp, he, look, Replay.look, hl, hg, hsd]

end

section

variable (he : t.session.engine = .replay e) (hp : t.place = some .receiving)
include he hp

theorem shows_wait (hq : e.queue = []) : Shows t [.advance] [] t := by
  have hs : t.advance = t := by simp [advance, hp, he, receive, Replay.take, hq]
  exact .of_still hs (by simp [arrivals, hp, hs]) (by simp [deliveries, hp]) rfl

theorem shows_take {queue : List FeedEvent} (hq : e.queue = event :: queue) :
    Shows t [.advance] [.took event t.session.symbols]
      { t with
        session := { t.session with engine := .replay { e with queue } }
        place := some (.holding event) } := by
  have hs : t.advance = { t with
      session := { t.session with engine := .replay { e with queue } }
      place := some (.holding event) } := by
    simp [advance, hp, he, receive, Replay.take, hq]
  exact .of_same hs (by simp [arrivals, hp, hs]) (by simp [deliveries, hp]) rfl rfl rfl

end

/-- The session says that it calls no callback. -/
theorem set_calling_none {s : Session} (hc : s.calling = none) : { s with calling := none } = s := by
  rw [← hc]

section

variable (hc : t.session.calling = none) (hp : t.place = some (.holding event))
include hc hp

/-- After a stop was requested, what the loop holds is not delivered. -/
theorem shows_drop (hd : event = .close ∨ t.session.lifecycle.stopRequested = true) :
    Shows t [.advance] [] { t with place := some .leaving } := by
  refine .of_same ?_ (by simp [arrivals, hp]) ?_ rfl rfl rfl
  · simp only [step, advance, hp, deliver]
    cases ht : Replay.Turn.ofEvent event with
    | record r =>
      have hsr := hd.resolve_left (by rintro rfl; cases ht)
      simp [Session.accept, hsr, follow, set_calling_none hc]
    | fault cause =>
      have hsr := hd.resolve_left (by rintro rfl; cases ht)
      simp [Session.consult, hsr, follow, set_calling_none hc]
    | idle | exit | greet => rfl
  · rcases hd with rfl | hsr
    · simp [deliveries, hp, FeedEvent.record?]
    · simp [deliveries, hp, hsr]

variable (hk : t.session.sinks = some k) (hsr : t.session.lifecycle.stopRequested = false)
include hk hsr

theorem shows_consult (hf : event.fault? = some cause) (hx : k.exception = true) :
    Shows t [.advance] [.called (.exception cause)]
      { t with
        session := { t.session with calling := some (.exception cause) }
        place := some .calling } := by
  refine .of_advance hc ?_ ?_
  · simp [step, advance, hp, deliver, Replay.Turn.ofEvent_fault hf, Session.consult, hsr,
      Session.has, hk, hx, follow]
  · simp [arrivals, deliveries, hp, FeedEvent.record?_of_fault hf, hk]

theorem shows_giveUp (hf : event.fault? = some cause) (hx : k.exception = false) :
    Shows t [.advance] []
      { t with
        session := { t.session with lifecycle := t.session.lifecycle.fault }
        place := some .leaving } := by
  refine .of_same ?_ (by simp [arrivals, hp])
    (by simp [deliveries, hp, FeedEvent.record?_of_fault hf]) rfl rfl rfl
  simp [step, advance, hp, deliver, Replay.Turn.ofEvent_fault hf, Session.consult, hsr,
    Session.has, hk, hx, Session.decide, follow, hc]

end

section

variable {bytes : Bytes} {r : Record} (hc : t.session.calling = none)
  (hp : t.place = some (.holding (.record bytes))) (hk : t.session.sinks = some k)
  (hsr : t.session.lifecycle.stopRequested = false) (hr : Record.decode bytes = .ok r)
include hc hp hk hsr hr

theorem shows_event {ev : Event} (hro : (Router.route t.session.symbols r).1 = .event ev)
    (hev : k.event = true) :
    Shows t [.advance] [.delivered r (.event ev), .called (.event ev r)]
      (t.routing r (some (.event ev r))) := by
  refine .of_advance hc ?_ ?_
  · simp only [step, advance, hp, deliver, Replay.Turn.ofEvent, hr,
      Sound.accept_event hk hsr hro hev]
    rfl
  · simp [arrivals, deliveries, hp, hsr, FeedEvent.record?, hr, Except.toOption, hro, hk, routing,
      Session.routed]

theorem shows_record (hf : k.forEvent r (Router.route t.session.symbols r).1 = []) :
    Shows t [.advance]
      (.delivered r (Router.route t.session.symbols r).1 :: (k.forRecord r).map .called)
      (t.routing r (k.forRecord r).head?) := by
  have hks : (t.session.routed r).sinks = some k := hk
  have hsr' : (t.session.routed r).lifecycle.stopRequested = false := hsr
  refine .of_advance hc ?_ ?_
  · simp only [step, advance, hp, deliver, Replay.Turn.ofEvent, hr, Sound.accept_offer hk hsr hf]
    cases hkr : k.record <;>
      simp [Session.offer, Session.has, hks, hkr, Session.verdict, hsr', follow, routing,
        Sinks.forRecord, Place.after]
  · cases hkr : k.record <;>
      simp [arrivals, deliveries, hp, hsr, FeedEvent.record?, hr, Except.toOption, hk, hkr,
        routing, Sinks.forRecord, Session.routed]

end

theorem shows_leave (hc : t.session.calling = none) (hp : t.place = some .leaving)
    (hk : t.session.sinks = some k) :
    Shows t [.advance] [.ended]
      { t with session := t.session.loopExit, place := some .finishing } := by
  refine .of_advance hc (by simp [step, advance, hp]) ?_
  simp [arrivals, deliveries, hp, hk, Session.loopExit, hc]

theorem shows_finish (he : t.session.engine = .replay e) (hp : t.place = some .finishing) :
    Shows t [.advance] []
      { t with
        session := { t.session with engine := .replay { e with loop := none } }
        place := none } := by
  refine .of_same ?_ (by simp [arrivals, hp]) (by simp [deliveries, hp]) rfl rfl rfl
  simp [step, advance, hp, onReplay, he, Replay.finish]

/-- A thread that has no loop, or waits for a callback, has nothing to do. -/
theorem shows_rest (hp : t.place = none ∨ t.place = some .calling) : Shows t [.advance] [] t := by
  rcases hp with hp | hp <;>
    exact .of_still (by simp [step, advance, hp]) (by simp [arrivals, hp]) (by simp [deliveries, hp])
      rfl

end Loop

/-! ## Replies -/

section Replies

variable {k : Sinks} {c : Call} {r : Reply}

/-- Nobody waits for the reply. -/
theorem shows_unasked (hc : t.session.calling = none) : Shows t [.reply r] [] t := by
  have hs : t.step (.reply r) = t := by simp [step, hc]
  refine .of_step hs ?_
  cases hk : t.session.sinks <;> simp [marks, arrivals, newCall, deliveries, hs, hc, hk]

theorem shows_greeted {m : Metadata} (hc : t.session.calling = some (.metadata m)) :
    Shows t [.reply r] [.replied (.metadata m.timeless) r] (t.returned r none .looking) := by
  obtain ⟨-, hks, -⟩ := Sound.noteReply_keeps t.session r
  refine .of_reply hc ?_ hks rfl
  simp [step, hc, Session.resume, follow, returned]

theorem shows_offer {ev : Event} {rec : Record} (hk : t.session.sinks = some k)
    (hc : t.session.calling = some (.event ev rec)) (hkr : k.record = true) :
    Shows t [.reply r] [.replied (.event ev rec) r, .called (.record rec)]
      (t.returned r (some (.record rec)) .calling) := by
  obtain ⟨-, hks, -⟩ := Sound.noteReply_keeps t.session r
  refine .of_reply hc ?_ hks rfl
  simp [step, hc, Session.resume, Session.offer, Session.has, hks, hk, hkr, follow, returned]

section

variable (hk : t.session.sinks = some k) (hc : t.session.calling = some c)
include hk hc

theorem step_verdict {v : Verdict} (hv : k.verdict? c r = some v) : t.step (.reply r) =
    t.follow ((t.session.noteReply r).verdict v, t.session.noteReply r) := by
  simp only [step, hc, Sound.resume_of_verdict hk hv]

theorem shows_proceed (hv : k.verdict? c r = some .proceed)
    (hsr : t.session.lifecycle.stopRequested = false) :
    Shows t [.reply r] [.replied c r] (t.returned r none .looking) := by
  obtain ⟨-, hks, hlc⟩ := Sound.noteReply_keeps t.session r
  rw [← Sinks.timeless_of_verdict hv]
  refine .of_reply hc ?_ hks rfl
  rw [step_verdict hk hc hv, Session.verdict, hlc, hsr]
  rfl

theorem shows_stopped {v : Verdict} (hv : k.verdict? c r = some v)
    (hsr : t.session.lifecycle.stopRequested = true ∨ v = .stop) :
    Shows t [.reply r] [.replied c r] (t.returned r none .leaving) := by
  obtain ⟨-, hks, hlc⟩ := Sound.noteReply_keeps t.session r
  have hv' : (if (t.session.noteReply r).lifecycle.stopRequested then .stop else v) =
      Verdict.stop := by
    rw [hlc]
    rcases hsr with h | rfl
    · rw [if_pos h]
    · exact ite_self _
  rw [← Sinks.timeless_of_verdict hv]
  refine .of_reply hc ?_ hks rfl
  rw [step_verdict hk hc hv, Session.verdict, hv']
  rfl

end

variable {cause : EngineError} (hc : t.session.calling = some (.exception cause))
include hc

theorem shows_restart {loop : Replay.Loop} (he : t.session.engine = .replay e)
    (hl : e.loop = some loop) (hr : r.recovery = .restart) :
    Shows t [.reply r] [.replied (.exception cause) r]
      { t with
        session :=
          { t.session.noteReply r with
            stats := (t.session.noteReply r).stats.restart
            lifecycle := t.session.lifecycle.noteRestart
            calling := none
            engine := .replay
              { e with
                connection := e.connection + 1
                clock := e.clock.tail
                loop := some ⟨{ loop.metadata with start := e.now }, false⟩ } }
        place := some .looking } := by
  obtain ⟨he', hks, hlc⟩ := Sound.noteReply_keeps t.session r
  refine .of_reply hc ?_ hks rfl
  simp [step, hc, Session.resume, Session.decide, hr, follow, hlc, onReplay, he', he,
    Replay.restart, hl]

theorem shows_abandon (hr : r.recovery = .stop) :
    Shows t [.reply r] [.replied (.exception cause) r]
      { t with
        session :=
          { t.session.noteReply r with lifecycle := t.session.lifecycle.fault, calling := none }
        place := some .leaving } := by
  obtain ⟨-, hks, hlc⟩ := Sound.noteReply_keeps t.session r
  refine .of_reply hc ?_ hks rfl
  simp [step, hc, Session.resume, Session.decide, hr, follow, hlc]

end Replies

/-! ## Calls -/

end Threads

namespace Errand

variable {s : Session}

/-- Both of these calls pass their check while the session is idle. -/
theorem check_resending {errand : Errand} (he : errand = .reconnect ∨ errand = .resubscribe)
    (s : Session) : errand.check s = .ok s ↔ s.state = .idle := by
  rcases he with rfl | rfl <;> cases hw : s.lifecycle.state <;>
    simp [check, Lifecycle.ensureIdle, Session.state, hw, Except.map]

section

variable (he : s.engine = .replay e)
include he

theorem run_subscribe (sub : Subscription) : ((subscribe sub).run s).2 =
    { s with engine := .replay (e.subscribe sub), subscriptions := s.subscriptions ++ [sub] } := by
  simp [run, Session.ofEngine, he, Engine.subscribe]

theorem run_reconnect (hn : s.subscriptions ≠ []) (hl : e.loop = none) :
    (reconnect.run s).2 = { s with engine := .replay { e with connection := e.connection + 1 } } := by
  simp [run, resending, hn, Session.ofEngine, he, Engine.reconnect, Engine.ofReplay,
    Replay.reconnect, Replay.isRunning, hl]

theorem run_stop : (stop.run s).2 = { s with
    engine := .replay { e with shutdown := e.shutdown || s.lifecycle.stopRequested } } := by
  rw [run, Sound.passStop_eq he]

theorem run_release :
    (release.run s).2 = { s with engine := .replay { e with shutdown := true } } := by
  rw [run, Sound.stopEngine_eq he]

end

end Errand

namespace Threads

section Calls

variable {k : Sinks} {errand : Errand}

theorem shows_claim (hk : (k.record || k.event) = true) (hw : t.session.state = .idle) :
    Shows t [.claim k] []
      { t with
        session :=
          { t.session with
            lifecycle := { t.session.lifecycle with state := .starting }
            symbols := .empty
            stats := t.session.stats.start }
        starting := some (.claimed k) } := by
  have hk' : (!k.record && !k.event) = false := by
    rw [← Bool.not_or, hk]
    rfl
  have hlw : t.session.lifecycle.state = .idle := hw
  refine .of_same ?_ rfl rfl rfl rfl rfl
  simp [step, claim, Session.claim, hk', Lifecycle.beginStart, hlw]

/-- Without a sink for records or events, or while the session is not idle, no start claims it. -/
theorem shows_refused (h : (k.record || k.event) = false ∨ t.session.state ≠ .idle) :
    Shows t [.claim k] [] t := by
  refine .of_still ?_ rfl rfl rfl
  by_cases hk : (k.record || k.event) = true
  · have hk' : (!k.record && !k.event) = false := by
      rw [← Bool.not_or, hk]
      rfl
    have hw : t.session.lifecycle.state ≠ .idle := h.resolve_left (by simp [hk])
    cases hlw : t.session.lifecycle.state with
    | idle => exact absurd hlw hw
    | starting | running | stopRequested | faulted =>
      simp [step, claim, Session.claim, hk', Lifecycle.beginStart, hlw]
  · have hk' : (!k.record && !k.event) = true := by
      rw [← Bool.not_or]
      simpa using hk
    simp [step, claim, Session.claim, hk']

theorem shows_launch (he : t.session.engine = .replay e) (hc : t.session.calling = none)
    (hks : t.session.sinks = none) (hst : t.starting = some (.claimed k)) (hl : e.loop = none) :
    Shows t [.launch] [.claimed k (some e.metadata.timeless)]
      { t with
        session :=
          { t.session with
            engine := .replay
              { e with
                shutdown := false
                loop := some ⟨e.metadata, false⟩
                clock := e.clock.tail }
            sinks := some k }
        place := some .looking
        starting := some .launched } := by
  have hs : t.launch =
      { t with
        session :=
          { t.session with
            engine := .replay
              { e with
                shutdown := false
                loop := some ⟨e.metadata, false⟩
                clock := e.clock.tail }
            sinks := some k }
        place := some .looking
        starting := some .launched } := by
    simp [launch, hst, Session.launch, Session.ofEngine, he, Engine.start, Engine.ofReplay,
      Replay.start, Replay.isRunning, hl]
  refine .of_step hs ?_
  simp [marks, newCall, deliveries, arrivals, step, hst, hs, hc, hks, Session.loop?]

theorem shows_lapse (he : t.session.engine = .replay e) (hst : t.starting = some (.claimed k))
    (hl : e.loop.isSome = true) :
    Shows t [.launch] []
      { t with
        session :=
          { t.session with lifecycle := t.session.lifecycle.loopExited.finishStart false }
        starting := none } := by
  have hs : t.launch =
      { t with
        session :=
          { t.session with lifecycle := t.session.lifecycle.loopExited.finishStart false }
        starting := none } := by
    simp [launch, hst, Session.launch, Session.ofEngine, he, Engine.start, Engine.ofReplay,
      Replay.start, Replay.isRunning, hl]
  exact .of_same hs (by simp [arrivals, hst, hs]) rfl rfl rfl rfl

theorem shows_unclaimed (hst : ∀ k, t.starting ≠ some (.claimed k)) : Shows t [.launch] [] t := by
  rcases h : t.starting with _ | k | _
  · exact .of_still (by simp [step, launch, h]) (by simp [arrivals, h]) rfl rfl
  · exact absurd h (hst k)
  · exact .of_still (by simp [step, launch, h]) (by simp [arrivals, h]) rfl rfl

theorem shows_succeed (hst : t.starting = some .launched) :
    Shows t [.succeed] []
      { t with
        session := t.session.succeed
        starting := none
        errands := t.errands ++ [.stop] } :=
  .of_same (by simp [step, succeed, hst]) rfl rfl rfl rfl rfl

theorem shows_unlaunched (hst : t.starting ≠ some .launched) : Shows t [.succeed] [] t := by
  rcases h : t.starting with _ | k | _
  · exact .of_still (by simp [step, succeed, h]) rfl rfl rfl
  · exact .of_still (by simp [step, succeed, h]) rfl rfl rfl
  · exact absurd h hst

theorem shows_ask (ha : errand.check t.session = .ok t.session)
    (hd : errand.due t.session = true) :
    Shows t [.ask errand] [] { t with errands := t.errands ++ [errand] } :=
  .of_same (by simp [step, ask, ha, hd]) rfl rfl rfl rfl rfl

theorem shows_turned_away {cause : SessionError} (ha : errand.check t.session = .error cause) :
    Shows t [.ask errand] [] t :=
  .of_still (by simp [step, ask, ha]) rfl rfl rfl

theorem shows_askStop (t : Threads) :
    Shows t [.ask .stop] []
      { t with
        session := t.session.askStop
        errands := t.errands ++
          if t.session.lifecycle.requestStop.stopRequested then [.stop] else [] } :=
  .of_same rfl rfl rfl rfl rfl rfl

theorem shows_giveAway (t : Threads) :
    Shows t [.ask .release] []
      { t with session := t.session.giveUp, errands := t.errands ++ [.release] } :=
  .of_same rfl rfl rfl rfl rfl rfl

/-- The callbacks see nothing of an errand. -/
theorem shows_carry {s : Session} (hm : errand ∈ t.errands)
    (hr : (errand.run t.session).2 = s) (hc : s.calling = t.session.calling)
    (hk : s.sinks = t.session.sinks) :
    Shows t [.carry errand] [] { t with session := s, errands := t.errands.erase errand } :=
  .of_same (by simp [step, carry, hm, hr]) rfl rfl rfl hc hk

theorem shows_idle_errand (hm : errand ∉ t.errands) : Shows t [.carry errand] [] t :=
  .of_still (by simp [step, carry, hm]) rfl rfl rfl

end Calls

/-! ## The feed -/

section Feed

variable (he : t.session.engine = .replay e)
include he

theorem shows_push (event : FeedEvent) :
    Shows t [.push event] ((t.session.fed (.push event)).map .pushed) { t with
      session := { t.session with
        engine := .replay { e with queue := e.queue ++ t.session.fed (.push event) } } } := by
  refine .of_same ?_ rfl rfl rfl rfl rfl
  cases ho : t.session.feedOpen <;>
    simp [step, Session.push, Session.fed, he, Replay.push, ho, Sound.engine_eq he]

theorem shows_pushStream (buffer : Bytes) :
    Shows t [.pushStream buffer] ((t.session.fed (.pushStream buffer)).map .pushed) { t with
      session := { t.session with
        engine := .replay { e with queue := e.queue ++ t.session.fed (.pushStream buffer) } } } := by
  refine .of_same ?_ rfl rfl rfl rfl rfl
  cases ho : t.session.feedOpen <;>
    simp [step, Session.pushStream, Session.fed, he, Replay.pushStream, ho, Sound.engine_eq he]

end Feed

theorem shows_timeout (hp : t.place = some .receiving) :
    Shows t [.timeout] [] { t with place := some .looking } :=
  .of_same (by simp [step, hp]) rfl rfl rfl rfl rfl

end Threads

end MarketFeed
