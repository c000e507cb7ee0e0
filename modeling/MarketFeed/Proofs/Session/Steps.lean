import MarketFeed.Proofs.Session.Rules

set_option autoImplicit false

/-!
# Every move follows a rule

What a move does to a sound session is computed here once, function by function: an equation for the
session after the move, the marks that are seen of it, then the rule. `Sound.rule` puts the moves
together.
-/

namespace MarketFeed

namespace Sound

variable {s : Session} {e : Replay}

/-! ## Operations -/

/-- A move that calls no callback and keeps those there are shows only what comes in with it. -/
theorem marks_of_same {m : Move} {t : List Mark} (ha : s.arrivals m = t) (hd : s.offered m = none)
    (hn : m.isReply = false) (hc : (s.move m).calling = s.calling)
    (hk : (s.move m).sinks = s.sinks) : s.marks m = t := by
  have hdel : s.deliveries m = [] := by simp [Session.deliveries, hd]
  have hnew : s.newCall m = none := by
    unfold Session.newCall
    split
    · cases hn
    · rw [hc]
      cases s.calling <;> rfl
  have hend : (s.sinks.isSome && (s.move m).sinks.isNone) = false := by
    rw [hk]
    cases s.sinks <;> rfl
  simp [Session.marks, ha, hdel, hnew, hend]

theorem engine_eq (he : s.engine = .replay e) : { s with engine := .replay e } = s := by
  rw [← he]

theorem stopEngine_eq (he : s.engine = .replay e) :
    s.stopEngine = (.ok (), { s with engine := .replay { e with shutdown := true } }) := by
  simp [Session.stopEngine, Session.endsByStop, Session.ofEngine, he, Engine.stop, Replay.stop,
    Engine.stopEnds]

/-- A stop that the lifecycle took up is passed on to the engine. -/
theorem passStop_eq (he : s.engine = .replay e) : s.passStop = (.ok (), { s with
    engine := .replay { e with shutdown := e.shutdown || s.lifecycle.stopRequested } }) := by
  unfold Session.passStop
  split
  · rename_i h
    simp [stopEngine_eq he, h]
  · rename_i h
    simp [h, ← he]

theorem move_started (hs : Sound s e) : s.move .started = { s with
    lifecycle := s.lifecycle.finishStart true
    engine := .replay
      { e with shutdown := e.shutdown || (s.lifecycle.finishStart true).stopRequested } } := by
  simp only [Session.move, Session.completeStart]
  rw [passStop_eq (s := s.succeed) hs.engine]
  rfl

theorem rule_started (hs : Sound s e) : Rule s e .started (s.marks .started) (s.move .started) := by
  have hm := hs.move_started
  have ht : s.marks .started = [] :=
    marks_of_same rfl rfl rfl (by rw [hm]) (by rw [hm])
  rw [ht, hm]
  exact .started

/-- A request to stop always succeeds. -/
theorem requestStop_of_engine (he : s.engine = .replay e) : s.requestStop = (.ok (), { s with
    lifecycle := s.lifecycle.requestStop
    engine := .replay
      { e with shutdown := e.shutdown || s.lifecycle.requestStop.stopRequested } }) := by
  rw [Session.requestStop, passStop_eq (s := s.askStop) he]
  rfl

theorem requestStop_eq (hs : Sound s e) : s.requestStop = (.ok (), { s with
    lifecycle := s.lifecycle.requestStop
    engine := .replay
      { e with shutdown := e.shutdown || s.lifecycle.requestStop.stopRequested } }) :=
  requestStop_of_engine hs.engine

theorem rule_stop (hs : Sound s e) : Rule s e .stop (s.marks .stop) (s.move .stop) := by
  have hm : s.move .stop = { s with
      lifecycle := s.lifecycle.requestStop
      engine := .replay
        { e with shutdown := e.shutdown || s.lifecycle.requestStop.stopRequested } } := by
    simp only [Session.move, hs.requestStop_eq]
  have ht : s.marks .stop = [] :=
    marks_of_same rfl rfl rfl (by rw [hm]) (by rw [hm])
  rw [ht, hm]
  exact .stop

/-- A release always succeeds. -/
theorem release_ok (hs : Sound s e) (delivering : Bool) : (s.release delivering).1 = .ok () := by
  have he : s.giveUp.engine = .replay e := hs.engine
  simp only [Session.release]
  rw [stopEngine_eq he]
  cases delivering <;> rfl

theorem move_release (hs : Sound s e) (delivering : Bool) : s.move (.release delivering) = { s with
    lifecycle := s.lifecycle.requestStop
    released := true
    engine := .replay { e with shutdown := true } } := by
  have he : s.giveUp.engine = .replay e := hs.engine
  simp only [Session.move, Session.release]
  rw [stopEngine_eq he]
  cases delivering <;> rfl

theorem rule_release (hs : Sound s e) (delivering : Bool) :
    Rule s e (.release delivering) (s.marks (.release delivering))
      (s.move (.release delivering)) := by
  have hm := hs.move_release delivering
  have ht : s.marks (.release delivering) = [] :=
    marks_of_same rfl rfl rfl (by rw [hm]) (by rw [hm])
  rw [ht, hm]
  exact .release

/-- A start is refused unless the session is idle and a record or event callback is given. -/
theorem beginStart_cases (hs : Sound s e) (k : Sinks) :
    (∃ halt, s.beginStart k = (.error halt, s) ∧ Session.refused (.error halt) = true) ∨
      ((k.record || k.event) = true ∧ s.state = .idle ∧
        s.beginStart k = (.ok (), { s with
          lifecycle := { s.lifecycle with state := .starting }
          symbols := .empty
          stats := s.stats.start
          engine := .replay
            { e with shutdown := false, loop := some ⟨e.metadata, false⟩, clock := e.clock.tail }
          sinks := some k })) := by
  by_cases hk : (k.record || k.event) = true
  · have hk' : (!k.record && !k.event) = false := by
      rw [← Bool.not_or, hk]; rfl
    cases hw : s.lifecycle.state with
    | idle =>
      refine .inr ⟨hk, hw, ?_⟩
      simp [Session.beginStart, Session.claim, Session.launch, hk', Lifecycle.beginStart, hw,
        Session.ofEngine, hs.engine, Engine.start, Engine.ofReplay, Replay.start, Replay.isRunning,
        (hs.idle hw).1]
    | faulted =>
      refine .inl ⟨.failed .faulted, ?_, rfl⟩
      simp [Session.beginStart, Session.claim, hk', Lifecycle.beginStart, hw]
    | starting | running | stopRequested =>
      refine .inl ⟨.failed .alreadyRunning, ?_, rfl⟩
      simp [Session.beginStart, Session.claim, hk', Lifecycle.beginStart, hw]
  · refine .inl ⟨.failed (.invalidArgument "a record or event callback is required"), ?_, rfl⟩
    have hk' : (!k.record && !k.event) = true := by
      rw [← Bool.not_or]
      simpa using hk
    simp [Session.beginStart, Session.claim, hk']

theorem rule_start (hs : Sound s e) (k : Sinks) :
    Rule s e (.start k) (s.marks (.start k)) (s.move (.start k)) := by
  rcases hs.beginStart_cases k with ⟨halt, hb, hr⟩ | ⟨hk, hw, hb⟩
  · have hm : s.move (.start k) = s := by simp [Session.move, hb]
    have ha : s.arrivals (.start k) = [] := by simp [Session.arrivals, hb, hr]
    have ht : s.marks (.start k) = [] :=
      marks_of_same ha rfl rfl (by rw [hm]) (by rw [hm])
    rw [ht, hm]
    exact .still
  · obtain ⟨hl, hsk, hc⟩ := hs.idle hw
    have hm : s.move (.start k) = (s.beginStart k).2 := rfl
    have ht : s.marks (.start k) = [.claimed k (some e.metadata.timeless)] := by
      simp [Session.marks, Session.arrivals, Session.deliveries, Session.offered, Session.newCall,
        Session.loop?, Session.refused, hm, hb, hsk, hc]
    rw [ht, hm, hb]
    exact .start hk hw

theorem rule_still {m : Move} (hm : s.move m = s) (ha : s.arrivals m = [])
    (hd : s.offered m = none) (hn : m.isReply = false) : Rule s e m (s.marks m) (s.move m) := by
  rw [marks_of_same ha hd hn (by rw [hm]) (by rw [hm]), hm]
  exact .still

theorem rule_subscribe (hs : Sound s e) (sub : Subscription) :
    Rule s e (.subscribe sub) (s.marks (.subscribe sub)) (s.move (.subscribe sub)) := by
  cases hu : s.lifecycle.ensureUsable with
  | error cause =>
    have hm : s.move (.subscribe sub) = s := by simp [Session.move, Session.subscribe, hu]
    exact rule_still hm rfl rfl rfl
  | ok =>
    have hm : s.move (.subscribe sub) = { s with
        engine := .replay (e.subscribe sub), subscriptions := s.subscriptions ++ [sub] } := by
      simp [Session.move, Session.subscribe, hu, Session.ofEngine, hs.engine, Engine.subscribe]
    have ht : s.marks (.subscribe sub) = [] :=
      marks_of_same rfl rfl rfl (by rw [hm]) (by rw [hm])
    rw [ht, hm]
    exact .subscribe hu

theorem rule_reconnect (hs : Sound s e) :
    Rule s e .reconnect (s.marks .reconnect) (s.move .reconnect) := by
  cases hu : s.ensureReady "reconnect" with
  | error cause =>
    have hm : s.move .reconnect = s := by simp [Session.move, Session.reconnect, hu]
    exact rule_still hm rfl rfl rfl
  | ok =>
    by_cases hr : e.isRunning = true
    · have hm : s.move .reconnect = s := by
        simp [Session.move, Session.reconnect, hu, Session.ofEngine, hs.engine, Engine.reconnect,
          Engine.ofReplay, Replay.reconnect, hr, engine_eq hs.engine]
      exact rule_still hm rfl rfl rfl
    · have hm : s.move .reconnect =
          { s with engine := .replay { e with connection := e.connection + 1 } } := by
        simp [Session.move, Session.reconnect, hu, Session.ofEngine, hs.engine, Engine.reconnect,
          Engine.ofReplay, Replay.reconnect, hr]
      have ht : s.marks .reconnect = [] := marks_of_same rfl rfl rfl (by rw [hm]) (by rw [hm])
      rw [ht, hm]
      exact .reconnect hu (by simpa [Replay.isRunning] using hr)

theorem rule_resubscribe (hs : Sound s e) :
    Rule s e .resubscribe (s.marks .resubscribe) (s.move .resubscribe) := by
  have hm : s.move .resubscribe = s := by
    cases hu : s.ensureReady "resubscribe" with
    | error cause => simp [Session.move, Session.resubscribe, hu]
    | ok =>
      cases hr : e.resubscribe with
      | error cause =>
        simp [Session.move, Session.resubscribe, hu, Session.ofEngine, hs.engine,
          Engine.resubscribe, Engine.ofReplay, hr, Except.map, engine_eq hs.engine]
      | ok =>
        simp [Session.move, Session.resubscribe, hu, Session.ofEngine, hs.engine,
          Engine.resubscribe, Engine.ofReplay, hr, Except.map, engine_eq hs.engine]
  exact rule_still hm rfl rfl rfl

/-- Nothing is delivered to a replay session by hand. -/
theorem rule_hand (hs : Sound s e) (h : Handing) :
    Rule s e (.hand h) (s.marks (.hand h)) (s.move (.hand h)) := by
  have hh : s.hand h = (.noLoop, s) := by simp [Session.hand, hs.engine, Engine.isReplay]
  have hm : s.move (.hand h) = s := by simp [Session.move, hh]
  refine rule_still hm rfl ?_ rfl
  cases h with
  | deliver bytes => simp [Session.offered, hh]
  | _ => rfl

theorem rule_inject (hs : Sound s e) (method : EngineMethod) (failure : EngineFailure) :
    Rule s e (.inject method failure) (s.marks (.inject method failure))
      (s.move (.inject method failure)) := by
  have hm : s.move (.inject method failure) = s := by
    simp [Session.move, Session.modifyManual, hs.engine]
  exact rule_still hm rfl rfl rfl

/-- Whatever is put into the feed is put at its end. -/
theorem rule_feed {m : Move}
    (hm : s.move m = { s with engine := .replay { e with queue := e.queue ++ s.fed m } })
    (ha : s.arrivals m = (s.fed m).map .pushed) (hd : s.offered m = none)
    (hn : m.isReply = false) : Rule s e m (s.marks m) (s.move m) := by
  rw [marks_of_same ha hd hn (by rw [hm]) (by rw [hm]), hm]
  exact .feed

theorem rule_push (hs : Sound s e) (event : FeedEvent) :
    Rule s e (.push event) (s.marks (.push event)) (s.move (.push event)) := by
  refine rule_feed ?_ rfl rfl rfl
  cases ho : s.feedOpen <;>
    simp [Session.move, Session.push, Session.fed, hs.engine, Replay.push, ho,
      engine_eq hs.engine]

theorem rule_pushStream (hs : Sound s e) (buffer : Bytes) :
    Rule s e (.pushStream buffer) (s.marks (.pushStream buffer)) (s.move (.pushStream buffer)) := by
  refine rule_feed ?_ rfl rfl rfl
  cases ho : s.feedOpen <;>
    simp [Session.move, Session.pushStream, Session.fed, hs.engine, Replay.pushStream, ho,
      engine_eq hs.engine]

/-! ## What comes of an outcome -/

theorem conclude_keep (he : s.engine = .replay e) (hl : e.loop.isSome = true) {o : Outcome}
    (ho : e.conclude o = e) : s.conclude o = { s with calling := none } := by
  simp [Session.conclude, he, ho, Replay.isRunning, hl]

theorem conclude_end (he : s.engine = .replay e) {o : Outcome}
    (ho : e.conclude o = { e with loop := none }) : s.conclude o = s.quit e := by
  simp [Session.conclude, he, ho, Replay.isRunning, Session.loopExit, Session.quit]

theorem conclude_restart (he : s.engine = .replay e) {loop : Replay.Loop}
    (hl : e.loop = some loop) : s.conclude (.recovery .restart) =
      { s with
        calling := none
        engine := .replay
          { e with
            connection := e.connection + 1
            clock := e.clock.tail
            loop := some ⟨{ loop.metadata with start := e.now }, false⟩ } } := by
  simp [Session.conclude, he, Replay.conclude, Replay.restart, hl, Replay.isRunning]

/-- A record is shown to the record callback, or there is none and the loop goes on. -/
theorem follow_offer (he : s.engine = .replay e) (hl : e.loop.isSome = true) {k : Sinks}
    (hk : s.sinks = some k) (hsr : s.lifecycle.stopRequested = false) (r : Record) :
    Session.follow (s.offer r, s) = s.showing e k r := by
  cases hr : k.record with
  | true =>
    have ho : s.offer r = .call (.record r) := by simp [Session.offer, Session.has, hk, hr]
    rw [ho, Session.showing, if_pos hr]
    exact (engine_eq (s := { s with calling := some (.record r) }) he).symm
  | false =>
    have ho : s.offer r = .done (.verdict .proceed) := by
      simp [Session.offer, Session.has, hk, hr, Session.verdict, hsr]
    rw [ho, Session.showing, if_neg (by simp [hr])]
    show s.conclude (.verdict .proceed) = _
    rw [conclude_keep he hl rfl]
    exact (engine_eq (s := { s with calling := none }) he).symm

/-- A record whose event is due a callback is brought to it. -/
theorem accept_event {k : Sinks} (hk : s.sinks = some k)
    (hsr : s.lifecycle.stopRequested = false) {r : Record} {ev : Event}
    (hr : (Router.route s.symbols r).1 = .event ev) (hev : k.event = true) :
    s.accept r = (.call (.event ev r), s.routed r) := by
  simp [Session.accept, Session.routed, Session.has, hsr, hr, hk, hev]

theorem accept_offer {k : Sinks} (hk : s.sinks = some k)
    (hsr : s.lifecycle.stopRequested = false) {r : Record}
    (hr : k.forEvent r (Router.route s.symbols r).1 = []) :
    s.accept r = ((s.routed r).offer r, s.routed r) := by
  cases hro : (Router.route s.symbols r).1 with
  | event ev =>
    have hev : k.event = false := by
      rw [hro] at hr
      simpa [Sinks.forEvent] using hr
    simp [Session.accept, Session.routed, Session.has, hsr, hro, hk, hev]
  | suppressed => simp [Session.accept, Session.routed, hsr, hro]; rfl
  | failed cause => simp [Session.accept, Session.routed, hsr, hro]; rfl

/-! ## Turns -/

theorem marks_turn (hc : s.calling = none) : s.marks .turn =
    (s.next?.toList.map fun event => .took event s.symbols) ++ s.deliveries .turn ++
      (s.move .turn).calling.toList.map (.called ·.timeless) ++
      (if s.sinks.isSome && (s.move .turn).sinks.isNone then [.ended] else []) := by
  simp [Session.marks, Session.arrivals, Session.newCall, hc]

theorem rule_idle (hm : s.step = none) (hn : s.next? = none) :
    Rule s e .turn (s.marks .turn) (s.move .turn) := by
  refine rule_still (by simp [Session.move, hm]) ?_ ?_ rfl
  · simp [Session.arrivals, hn]
  · simp [Session.offered, hn]

variable {loop : Replay.Loop} {k : Sinks}

theorem rule_greet (hs : Sound s e) (hc : s.calling = none) (hk : s.sinks = some k)
    (hl : e.loop = some loop) (hg : loop.greeted = false) :
    Rule s e .turn (s.marks .turn) (s.move .turn) := by
  have hn : s.next? = none := by simp [Session.next?, hc, hs.engine, hl, hg]
  have hm : s.move .turn =
      { s with
        engine := .replay { e with loop := some { loop with greeted := true } }
        calling := (k.greeting (some loop.metadata)).head? } := by
    cases hkm : k.metadata with
    | true =>
      simp [Session.move, Session.step, hc, hs.engine, Replay.turn_greet hl hg, Session.greet,
        Session.has, hk, hkm, Session.follow, Sinks.greeting]
    | false =>
      simp [Session.move, Session.step, hc, hs.engine, Replay.turn_greet hl hg, Session.greet,
        Session.has, hk, hkm, Session.follow, Sinks.greeting]
      exact conclude_keep (e := { e with loop := some { loop with greeted := true } }) rfl rfl rfl
  have ht : s.marks .turn = (k.greeting (some loop.metadata.timeless)).map .called := by
    rw [marks_turn hc, hm]
    cases hkm : k.metadata <;>
      simp [hn, hk, hkm, Session.deliveries, Session.offered, Sinks.greeting]
  rw [ht, hm]
  exact .greet hc hk hl hg

theorem rule_shutdown (hs : Sound s e) (hc : s.calling = none) (hk : s.sinks = some k)
    (hl : e.loop = some loop) (hg : loop.greeted = true) (hsd : e.shutdown = true) :
    Rule s e .turn (s.marks .turn) (s.move .turn) := by
  have hn : s.next? = none := by simp [Session.next?, hc, hs.engine, hsd]
  have hm : s.move .turn = s.quit e := by
    simp [Session.move, Session.step, hc, hs.engine, Replay.turn_shutdown hl hg hsd, Session.loopExit,
      Session.quit]
  have ht : s.marks .turn = [.ended] := by
    rw [marks_turn hc, hm]
    simp [hn, hk, Session.deliveries, Session.offered, Session.quit]
  rw [ht, hm]
  exact .shutdown hc hl hg hsd

section Taking

variable {event : FeedEvent} {queue : List FeedEvent}

theorem next_take (hs : Sound s e) (hc : s.calling = none) (hl : e.loop = some loop)
    (hg : loop.greeted = true) (hsd : e.shutdown = false) (hq : e.queue = event :: queue) :
    s.next? = some event := by
  simp [Session.next?, hc, hs.engine, hl, hg, hsd, hq]

theorem rule_close (hs : Sound s e) (hc : s.calling = none) (hk : s.sinks = some k)
    (hl : e.loop = some loop) (hg : loop.greeted = true) (hsd : e.shutdown = false)
    (hq : e.queue = .close :: queue) : Rule s e .turn (s.marks .turn) (s.move .turn) := by
  have hn := hs.next_take hc hl hg hsd hq
  have hm : s.move .turn = s.quit { e with queue } := by
    simp [Session.move, Session.step, hc, hs.engine, Replay.turn_take hl hg hsd hq,
      Replay.Turn.ofEvent, Session.loopExit, Session.quit]
  have ht : s.marks .turn = [.took .close s.symbols, .ended] := by
    rw [marks_turn hc, hm]
    simp [hn, hk, Session.deliveries, Session.offered, Session.quit, FeedEvent.record?]
  rw [ht, hm]
  exact .close hc hl hg hsd hq

theorem rule_fault (hs : Sound s e) (hc : s.calling = none) (hk : s.sinks = some k)
    (hl : e.loop = some loop) (hg : loop.greeted = true) (hsd : e.shutdown = false)
    (hq : e.queue = event :: queue) {cause : EngineError} (hf : event.fault? = some cause) :
    Rule s e .turn (s.marks .turn) (s.move .turn) := by
  have hn := hs.next_take hc hl hg hsd hq
  have hsr : s.lifecycle.stopRequested = false := by
    have := hs.attuned
    rw [hsd] at this
    exact this.not_stopRequested
  have hd : s.deliveries .turn = [] := by
    simp [Session.deliveries, Session.offered, hn, FeedEvent.record?_of_fault hf]
  have hm : s.move .turn =
      Session.follow ({ s with engine := .replay { e with queue } }.consult cause) := by
    simp [Session.move, Session.step, hc, hs.engine, Replay.turn_take hl hg hsd hq,
      Replay.Turn.ofEvent_fault hf]
  cases hx : k.exception with
  | true =>
    have hm : s.move .turn = { s with
        engine := .replay { e with queue }, calling := some (.exception cause) } := by
      simp [hm, Session.consult, Session.follow, Session.has, hk, hsr, hx]
    have ht : s.marks .turn = [.took event s.symbols, .called (.exception cause)] := by
      rw [marks_turn hc, hm, hd]
      simp [hn, hk]
    rw [ht, hm]
    exact .consult hc hk hl hg hsd hq hf hx
  | false =>
    let s' := { s with engine := .replay { e with queue }, lifecycle := s.lifecycle.fault }
    have hcs : ({ s with engine := .replay { e with queue } } : Session).consult cause =
        (.done (.recovery .stop), s') := by
      simp [s', Session.consult, Session.has, hk, hsr, hx, Session.decide]
    have hq' : s'.conclude (.recovery .stop) = s'.quit { e with queue } := conclude_end rfl rfl
    have hm : s.move .turn = ({ s with lifecycle := s.lifecycle.fault }.quit { e with queue }) := by
      rw [hm, hcs]
      exact hq'
    have ht : s.marks .turn = [.took event s.symbols, .ended] := by
      rw [marks_turn hc, hm, hd]
      simp [hn, hk, Session.quit]
    rw [ht, hm]
    exact .giveUp hc hk hl hg hsd hq hf hx

theorem rule_record (hs : Sound s e) (hc : s.calling = none) (hk : s.sinks = some k)
    (hl : e.loop = some loop) (hg : loop.greeted = true) (hsd : e.shutdown = false)
    {bytes : Bytes} (hq : e.queue = .record bytes :: queue) {r : Record}
    (hr : Record.decode bytes = .ok r) : Rule s e .turn (s.marks .turn) (s.move .turn) := by
  have hn := hs.next_take hc hl hg hsd hq
  have hsr : s.lifecycle.stopRequested = false := by
    have := hs.attuned
    rw [hsd] at this
    exact this.not_stopRequested
  have hd : s.deliveries .turn = [.delivered r (Router.route s.symbols r).1] := by
    simp [Session.deliveries, Session.offered, hn, hsr, FeedEvent.record?, hr, Except.toOption]
  have hm : s.move .turn =
      Session.follow ({ s with engine := .replay { e with queue } }.accept r) := by
    simp [Session.move, Session.step, hc, hs.engine, Replay.turn_take hl hg hsd hq,
      Replay.Turn.ofEvent, hr]
  cases hf : k.forEvent r (Router.route s.symbols r).1 with
  | nil =>
    have hm : s.move .turn = (s.routed r).showing { e with queue } k r := by
      rw [hm, accept_offer (s := { s with engine := .replay { e with queue } }) hk hsr hf]
      exact follow_offer (s := { s.routed r with engine := .replay { e with queue } }) rfl
        (by simp [hl]) hk hsr r
    have ht : s.marks .turn = .took (.record bytes) s.symbols ::
        .delivered r (Router.route s.symbols r).1 :: (k.forRecord r).map .called := by
      rw [marks_turn hc, hm, hd]
      cases hkr : k.record <;>
        simp [hn, hk, hkr, Session.showing, Sinks.forRecord, Session.routed]
    rw [ht, hm]
    exact .record hc hk hl hg hsd hq hr hf
  | cons c cs =>
    obtain ⟨ev, hro, hev⟩ := Sinks.event_of_forEvent hf
    have hm : s.move .turn = { s.routed r with
        engine := .replay { e with queue }, calling := some (.event ev r) } := by
      rw [hm, accept_event (s := { s with engine := .replay { e with queue } }) hk hsr hro hev]
      rfl
    have ht : s.marks .turn =
        [.took (.record bytes) s.symbols, .delivered r (.event ev), .called (.event ev r)] := by
      rw [marks_turn hc, hm, hd, hro]
      simp [hn, hk, Session.routed]
    rw [ht, hm]
    exact .event hc hk hl hg hsd hq hr hro hev

theorem rule_take (hs : Sound s e) (hc : s.calling = none) (hk : s.sinks = some k)
    (hl : e.loop = some loop) (hg : loop.greeted = true) (hsd : e.shutdown = false)
    (hq : e.queue = event :: queue) : Rule s e .turn (s.marks .turn) (s.move .turn) := by
  cases event with
  | close => exact hs.rule_close hc hk hl hg hsd hq
  | fault cause => exact hs.rule_fault hc hk hl hg hsd hq rfl
  | record bytes =>
    cases hr : Record.decode bytes with
    | ok r => exact hs.rule_record hc hk hl hg hsd hq hr
    | error cause =>
      have hf : FeedEvent.fault? (.record bytes) = some (.decode cause) := by
        simp [FeedEvent.fault?, hr]
      exact hs.rule_fault hc hk hl hg hsd hq hf

end Taking

theorem rule_turn (hs : Sound s e) : Rule s e .turn (s.marks .turn) (s.move .turn) := by
  cases hc : s.calling with
  | some c => exact rule_idle (by simp [Session.step, hc]) (by simp [Session.next?, hc])
  | none =>
    cases hl : e.loop with
    | none =>
      refine rule_idle ?_ ?_
      · simp [Session.step, hc, hs.engine, Replay.turn_none hl]
      · simp [Session.next?, hc, hs.engine, hl]
    | some loop =>
      obtain ⟨k, hk⟩ := hs.has_sinks hl
      cases hg : loop.greeted with
      | false => exact hs.rule_greet hc hk hl hg
      | true =>
        cases hsd : e.shutdown with
        | true => exact hs.rule_shutdown hc hk hl hg hsd
        | false =>
          cases hq : e.queue with
          | nil =>
            refine rule_idle ?_ ?_
            · simp [Session.step, hc, hs.engine, Replay.turn_empty hl hg hsd hq]
            · simp [Session.next?, hc, hs.engine, hq]
          | cons event queue => exact hs.rule_take hc hk hl hg hsd hq

/-! ## Replies -/

theorem marks_reply {c : Call} (hc : s.calling = some c) (r : Reply) : s.marks (.reply r) =
    .replied c.timeless r :: ((s.move (.reply r)).calling.toList.map (.called ·.timeless) ++
      (if s.sinks.isSome && (s.move (.reply r)).sinks.isNone then [.ended] else [])) := by
  simp [Session.marks, Session.arrivals, Session.newCall, Session.deliveries, Session.offered, hc]

theorem noteReply_keeps (s : Session) (r : Reply) :
    (s.noteReply r).engine = s.engine ∧ (s.noteReply r).sinks = s.sinks ∧
      (s.noteReply r).lifecycle = s.lifecycle := by
  cases r <;> exact ⟨rfl, rfl, rfl⟩

theorem resume_of_verdict (hk : s.sinks = some k) {c : Call} {r : Reply} {v : Verdict}
    (hv : k.verdict? c r = some v) :
    s.resume c r = ((s.noteReply r).verdict v, s.noteReply r) := by
  obtain ⟨-, hks, -⟩ := noteReply_keeps s r
  cases c with
  | metadata | exception => cases hv
  | event ev rec =>
    cases hkr : k.record with
    | true => simp [Sinks.verdict?, hkr] at hv
    | false =>
      obtain rfl : Verdict.proceed = v := by simpa [Sinks.verdict?, hkr] using hv
      simp [Session.resume, Session.offer, Session.has, hks, hk, hkr]
  | record rec =>
    cases hv
    rfl

/-- The verdict on a record is in. -/
theorem rule_verdict (hs : Sound s e) (hk : s.sinks = some k) {c : Call} (hc : s.calling = some c)
    {r : Reply} {v : Verdict} (hv : k.verdict? c r = some v) :
    Rule s e (.reply r) (s.marks (.reply r)) (s.move (.reply r)) := by
  obtain ⟨he, hks, hlc⟩ := noteReply_keeps s r
  obtain ⟨loop, hl, -⟩ := hs.calling c hc
  have hm : s.move (.reply r) = Session.follow ((s.noteReply r).verdict v, s.noteReply r) := by
    simp only [Session.move, Session.reply, hc, resume_of_verdict hk hv]
  by_cases hsr : s.lifecycle.stopRequested = true ∨ v = .stop
  · have hv' : (if (s.noteReply r).lifecycle.stopRequested then .stop else v) = Verdict.stop := by
      rw [hlc]
      rcases hsr with h | rfl
      · rw [if_pos h]
      · exact ite_self _
    have hm : s.move (.reply r) = (s.noteReply r).quit e := by
      rw [hm, Session.verdict, hv']
      exact conclude_end (he.trans hs.engine) rfl
    have ht : s.marks (.reply r) = [.replied c r, .ended] := by
      rw [marks_reply hc, hm, Sinks.timeless_of_verdict hv]
      simp [Session.quit, hk]
    rw [ht, hm]
    exact .stopped hk hc hv hsr
  · obtain ⟨hrun, hvs⟩ := not_or.mp hsr
    have hrun : s.lifecycle.stopRequested = false := by simpa using hrun
    have hvp : v = .proceed := by
      cases v with
      | proceed => rfl
      | stop => exact absurd rfl hvs
    subst hvp
    have hm : s.move (.reply r) = { s.noteReply r with calling := none } := by
      rw [hm, Session.verdict, hlc, hrun]
      exact conclude_keep (he.trans hs.engine) (by rw [hl]; rfl) rfl
    have ht : s.marks (.reply r) = [.replied c r] := by
      rw [marks_reply hc, hm, Sinks.timeless_of_verdict hv]
      simp [hks, hk]
    rw [ht, hm]
    exact .proceed hk hc hv hrun

theorem rule_greeted (hs : Sound s e) (hk : s.sinks = some k) {m : Metadata}
    (hc : s.calling = some (.metadata m)) (r : Reply) :
    Rule s e (.reply r) (s.marks (.reply r)) (s.move (.reply r)) := by
  obtain ⟨he, hks, -⟩ := noteReply_keeps s r
  obtain ⟨loop, hl, -⟩ := hs.calling _ hc
  have hm : s.move (.reply r) = { s.noteReply r with calling := none } := by
    simp only [Session.move, Session.reply, hc, Session.resume]
    exact conclude_keep (he.trans hs.engine) (by rw [hl]; rfl) rfl
  have ht : s.marks (.reply r) = [.replied (.metadata m.timeless) r] := by
    rw [marks_reply hc, hm]
    simp [hks, hk]
  rw [ht, hm]
  exact .greeted hc

/-- After the event callback the record goes on to the record callback, if there is one. -/
theorem rule_offer (hs : Sound s e) (hk : s.sinks = some k) {ev : Event} {rec : Record}
    (hc : s.calling = some (.event ev rec)) (r : Reply) :
    Rule s e (.reply r) (s.marks (.reply r)) (s.move (.reply r)) := by
  obtain ⟨-, hks, -⟩ := noteReply_keeps s r
  cases hkr : k.record with
  | true =>
    have hm : s.move (.reply r) = { s.noteReply r with calling := some (.record rec) } := by
      simp [Session.move, Session.reply, hc, Session.resume, Session.offer, Session.has, hks, hk,
        hkr, Session.follow]
    have ht : s.marks (.reply r) = [.replied (.event ev rec) r, .called (.record rec)] := by
      rw [marks_reply hc, hm]
      simp [hks, hk]
    rw [ht, hm]
    exact .offer hk hc hkr
  | false =>
    have hv : k.verdict? (.event ev rec) r = some .proceed := by simp [Sinks.verdict?, hkr]
    exact hs.rule_verdict hk hc hv

/-- The exception callback has the loop begin again, or gives it up. -/
theorem rule_recovery (hs : Sound s e) (hk : s.sinks = some k) {cause : EngineError}
    (hc : s.calling = some (.exception cause)) (r : Reply) :
    Rule s e (.reply r) (s.marks (.reply r)) (s.move (.reply r)) := by
  obtain ⟨he, hks, hlc⟩ := noteReply_keeps s r
  obtain ⟨loop, hl, -⟩ := hs.calling _ hc
  have hm : s.move (.reply r) = Session.follow (s.resume (.exception cause) r) := by
    simp [Session.move, Session.reply, hc]
  cases hrc : r.recovery with
  | restart =>
    have hm : s.move (.reply r) = { s.noteReply r with
        stats := (s.noteReply r).stats.restart
        lifecycle := s.lifecycle.noteRestart
        calling := none
        engine := .replay
          { e with
            connection := e.connection + 1
            clock := e.clock.tail
            loop := some ⟨{ loop.metadata with start := e.now }, false⟩ } } := by
      simp only [hm, Session.resume, Session.decide, hrc, Session.follow, hlc]
      refine conclude_restart ?_ hl
      exact he.trans hs.engine
    have ht : s.marks (.reply r) = [.replied (.exception cause) r] := by
      rw [marks_reply hc, hm]
      simp [hks, hk]
    rw [ht, hm]
    exact .restart hl hc hrc
  | stop =>
    have hm : s.move (.reply r) =
        ({ s.noteReply r with lifecycle := s.lifecycle.fault }.quit e) := by
      simp only [hm, Session.resume, Session.decide, hrc, Session.follow, hlc]
      refine conclude_end (o := .recovery .stop) ?_ rfl
      exact he.trans hs.engine
    have ht : s.marks (.reply r) = [.replied (.exception cause) r, .ended] := by
      rw [marks_reply hc, hm]
      simp [Session.quit, hk]
    rw [ht, hm]
    exact .abandon hc hrc

theorem rule_reply (hs : Sound s e) (r : Reply) :
    Rule s e (.reply r) (s.marks (.reply r)) (s.move (.reply r)) := by
  cases hc : s.calling with
  | none =>
    have hm : s.move (.reply r) = s := by simp [Session.move, Session.reply, hc]
    have ht : s.marks (.reply r) = [] := by
      cases hk : s.sinks <;>
        simp [Session.marks, Session.arrivals, Session.newCall, Session.deliveries,
          Session.offered, hm, hc, hk]
    rw [ht, hm]
    exact .still
  | some c =>
    obtain ⟨loop, hl, -⟩ := hs.calling c hc
    obtain ⟨k, hk⟩ := hs.has_sinks hl
    cases c with
    | metadata m => exact hs.rule_greeted hk hc r
    | event ev rec => exact hs.rule_offer hk hc r
    | record rec => exact hs.rule_verdict hk hc rfl
    | exception cause => exact hs.rule_recovery hk hc r

/-! ## All moves -/

/-- Every move of a sound session follows a rule. -/
theorem rule (hs : Sound s e) (m : Move) : Rule s e m (s.marks m) (s.move m) := by
  cases m with
  | start k => exact hs.rule_start k
  | started => exact hs.rule_started
  | stop => exact hs.rule_stop
  | release delivering => exact hs.rule_release delivering
  | turn => exact hs.rule_turn
  | reply r => exact hs.rule_reply r
  | subscribe sub => exact hs.rule_subscribe sub
  | reconnect => exact hs.rule_reconnect
  | resubscribe => exact hs.rule_resubscribe
  | push event => exact hs.rule_push event
  | pushStream buffer => exact hs.rule_pushStream buffer
  | hand h => exact hs.rule_hand h
  | inject method failure => exact hs.rule_inject method failure

end Sound

end MarketFeed
