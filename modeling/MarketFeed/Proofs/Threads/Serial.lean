import MarketFeed.Proofs.Threads.Weaving

set_option autoImplicit false

/-!
# Moves as runs of steps

A move of a session is what its threads do if each call, and each turn of the loop, is over before
the next thing happens. `Serial s t` says that the threads are between two moves, and
`Serial.move` that some steps then do what the move does and show the same. So whatever is proved
of all runs of steps holds of all runs of moves (`exists_steps`).
-/

namespace MarketFeed

open Threads

/-- Neither flag of a start is set. -/
def Lifecycle.Clear (l : Lifecycle) : Prop := l.stopAsked = false ∧ l.exited = false

namespace Lifecycle.Clear

variable {l : Lifecycle}

theorem finishStart (l : Lifecycle) (ok : Bool) : (l.finishStart ok).Clear := ⟨rfl, rfl⟩

theorem fault (h : l.Clear) : l.fault.Clear := by
  cases hs : l.state <;> simpa [Lifecycle.fault, hs, Clear] using h

variable (hw : l.state ≠ .starting)
include hw

/-- Nothing is left to complete. -/
theorem finishStart_eq (h : l.Clear) (ok : Bool) : l.finishStart ok = l := by
  obtain ⟨state, exited, stopAsked, restarts⟩ := l
  obtain ⟨rfl, rfl⟩ : stopAsked = false ∧ exited = false := h
  simp [Lifecycle.finishStart, show state ≠ .starting from hw]

theorem requestStop (h : l.Clear) : l.requestStop.Clear := by
  cases hs : l.state with
  | starting => exact absurd hs hw
  | idle | running | stopRequested | faulted => simpa [Lifecycle.requestStop, hs, Clear] using h

theorem loopExited (h : l.Clear) : l.loopExited.Clear := by
  cases hs : l.state with
  | starting => exact absurd hs hw
  | idle | running | stopRequested | faulted => simpa [Lifecycle.loopExited, hs, Clear] using h

end Lifecycle.Clear

theorem Lifecycle.fault_ne_starting {l : Lifecycle} (h : l.state ≠ .starting) :
    l.fault.state ≠ .starting := by
  rcases l.fault_state with hf | hf <;> rw [hf]
  · exact h
  · decide

/-- A lifecycle that is starting has a start under way. -/
theorem Woven.no_start {t : Threads} {e : Replay} (h : Woven t e) (hst : t.starting = none) :
    t.session.lifecycle.state ≠ .starting := by
  intro hw
  have hph := h.phase
  rw [hst] at hph
  cases hph with
  | claimed _ _ hst => cases hst
  | launched _ _ hst => cases hst
  | idle hs | running hs | stopRequested hs | faulted hs => rw [hs] at hw; cases hw

/-- The threads of a session between two of its moves: no call is under way but a start that has
launched the loop, and the loop is at the beginning of a turn or in a callback. -/
structure Serial (s : Session) (t : Threads) : Prop where
  session : t.session = s
  errands : t.errands = []
  place : t.place = none ∨ t.place = some .looking ∨ t.place = some .calling
  starting : t.starting = none ∨ t.starting = some .launched
  clear : t.starting = none → s.lifecycle.Clear

variable {s : Session} {t : Threads} {e : Replay}

/-! ## Several steps -/

namespace Threads

/-- A call that nothing comes between. -/
theorem shows_call {errand : Errand} {s₁ s₂ : Session} (hx : t.errands = [])
    (ha : Shows t [.ask errand] [] { t with session := s₁, errands := t.errands ++ [errand] })
    (hr : (errand.run s₁).2 = s₂) (hc : s₂.calling = s₁.calling) (hk : s₂.sinks = s₁.sinks) :
    Shows t [.ask errand, .carry errand] [] { t with session := s₂ } := by
  have hm : errand ∈ t.errands ++ [errand] := List.mem_append_right _ List.mem_cons_self
  have hcarry := shows_carry
    (t := { t with session := s₁, errands := t.errands ++ [errand] }) hm hr hc hk
  have hback : (t.errands ++ [errand]).erase errand = t.errands := by simp [hx]
  have h := ha.trans hcarry
  rw [hback] at h
  exact h

/-- The loop leaves. -/
theorem shows_exit {k : Sinks} (he : t.session.engine = .replay e) (hc : t.session.calling = none)
    (hp : t.place = some .leaving) (hk : t.session.sinks = some k) :
    Shows t [.advance, .advance] [.ended] { t with session := t.session.quit e, place := none } := by
  have hfinish := shows_finish (e := e)
    (t := { t with session := t.session.loopExit, place := some .finishing }) he rfl
  have hq : ({ t.session.loopExit with engine := .replay { e with loop := none } } : Session) =
      t.session.quit e := by
    simp [Session.loopExit, Session.quit, hc]
  have h := (shows_leave hc hp hk).trans hfinish
  rw [show ({ ({ t with session := t.session.loopExit, place := some .finishing } : Threads) with
      session := { t.session.loopExit with engine := .replay { e with loop := none } }
      place := none } : Threads) = { t with session := t.session.quit e, place := none } by
    rw [← hq]] at h
  exact h

/-- The loop looks and takes the first event of the feed. -/
theorem shows_taking {loop : Replay.Loop} {event : FeedEvent} {queue : List FeedEvent}
    (he : t.session.engine = .replay e) (hp : t.place = some .looking) (hl : e.loop = some loop)
    (hg : loop.greeted = true) (hsd : e.shutdown = false) (hq : e.queue = event :: queue) :
    Shows t [.advance, .advance] [.took event t.session.symbols]
      { t with
        session := { t.session with engine := .replay { e with queue } }
        place := some (.holding event) } :=
  (shows_receive he hp hl hg hsd).trans
    (shows_take (t := { t with place := some .receiving }) he rfl hq)

/-- Some steps show the marks and lead to the session, with its threads between two moves. -/
def Plays (t : Threads) (m : List Mark) (s' : Session) : Prop :=
  ∃ xs t', Shows t xs m t' ∧ Serial s' t'

end Threads

/-! ## The moves -/

namespace Serial

/-- The threads move on if a start that is complete leaves no flag. -/
theorem goes (h : Serial s t) {s' : Session} {p : Option Place}
    (hp : p = none ∨ p = some .looking ∨ p = some .calling)
    (hcl : t.starting = none → s'.lifecycle.Clear) :
    Serial s' { t with session := s', place := p } :=
  ⟨rfl, h.errands, hp, h.starting, hcl⟩

theorem calls (h : Serial s t) {s' : Session} (hcl : t.starting = none → s'.lifecycle.Clear) :
    Serial s' { t with session := s' } :=
  h.goes h.place hcl

/-- A callback that ends the loop. -/
theorem plays_last (ht : Serial s t) {r : Reply} {k : Sinks} {s' : Session} {m : List Mark}
    (hr : Shows t [.reply r] m { t with session := s', place := some .leaving })
    (he : s'.engine = .replay e) (hc : s'.calling = none) (hk : s'.sinks = some k)
    (hw : t.starting = none → s'.lifecycle.state ≠ .starting)
    (hcl : t.starting = none → s'.lifecycle.Clear) :
    t.Plays (m ++ [.ended]) (s'.quit e) := by
  have hexit := shows_exit (t := { t with session := s', place := some .leaving }) he hc rfl hk
  exact ⟨_, _, hr.trans hexit, ht.goes (.inl rfl) fun hst => .loopExited (hw hst) (hcl hst)⟩

variable (h : Woven t e) (ht : Serial t.session t)
include h ht

theorem looking (hc : t.session.calling = none) {loop : Replay.Loop} (hl : e.loop = some loop) :
    t.place = some .looking := by
  rcases ht.place with hp | hp | hp
  · have := h.loop
    rw [hp, hl] at this
    cases this
  · exact hp
  · have := h.calling.mpr hp
    rw [hc] at this
    cases this

/-- A start that has launched its loop is complete, or there is none and nothing happens. -/
theorem plays_started (ha : Attuned t.session.lifecycle e.loop.isSome e.shutdown) :
    t.Plays [] { t.session with
      lifecycle := t.session.lifecycle.finishStart true
      engine := .replay
        { e with
          shutdown := e.shutdown || (t.session.lifecycle.finishStart true).stopRequested } } := by
  rcases ht.starting with hst | hst
  · have hl := (ht.clear hst).finishStart_eq (h.no_start hst) true
    have hsd : (e.shutdown || t.session.lifecycle.stopRequested) = e.shutdown := by
      cases hsd : e.shutdown with
      | true => rfl
      | false => rw [hsd] at ha; simpa using ha.not_stopRequested
    rw [hl, hsd, show ({ e with shutdown := e.shutdown } : Replay) = e from rfl,
      Sound.engine_eq h.engine]
    exact ⟨[], t, .nil, ht⟩
  · have hm : Errand.stop ∈ t.errands ++ [.stop] := List.mem_append_right _ List.mem_cons_self
    have hcarry := shows_carry
      (t := { t with
        session := t.session.succeed
        starting := none
        errands := t.errands ++ [.stop] })
      hm (Errand.run_stop (s := t.session.succeed) h.engine) rfl rfl
    refine ⟨_, _, (shows_succeed hst).trans hcarry, rfl, ?_, ht.place, .inl rfl,
      fun _ => .finishStart _ _⟩
    simp [ht.errands]

theorem plays_stop : t.Plays [] { t.session with
    lifecycle := t.session.lifecycle.requestStop
    engine := .replay
      { e with shutdown := e.shutdown || t.session.lifecycle.requestStop.stopRequested } } := by
  have hcl (hst : t.starting = none) : t.session.lifecycle.requestStop.Clear :=
    .requestStop (h.no_start hst) (ht.clear hst)
  have hask := shows_askStop t
  cases hsr : t.session.lifecycle.requestStop.stopRequested with
  | true =>
    rw [hsr, if_pos rfl] at hask
    have hr := Errand.run_stop (s := t.session.askStop) h.engine
    rw [show t.session.askStop.lifecycle.stopRequested = true from hsr] at hr
    exact ⟨_, _, shows_call ht.errands hask hr rfl rfl, ht.calls hcl⟩
  | false =>
    rw [hsr, if_neg (by decide), List.append_nil] at hask
    rw [Bool.or_false, show ({ e with shutdown := e.shutdown } : Replay) = e from rfl]
    refine ⟨_, _, hask, ?_, ht.errands, ht.place, ht.starting, hcl⟩
    show t.session.askStop = _
    rw [Session.askStop, ← h.engine]

theorem plays_feed (m : Move) : t.Plays ((t.session.fed m).map .pushed) { t.session with
    engine := .replay { e with queue := e.queue ++ t.session.fed m } } := by
  have hcl := ht.clear
  have hno (hf : t.session.fed m = []) : t.Plays ((t.session.fed m).map .pushed) { t.session with
      engine := .replay { e with queue := e.queue ++ t.session.fed m } } := by
    rw [hf, List.append_nil, show ({ e with queue := e.queue } : Replay) = e from rfl,
      Sound.engine_eq h.engine]
    exact ⟨[], t, .nil, ht⟩
  cases m with
  | push event => exact ⟨_, _, shows_push h.engine event, ht.calls hcl⟩
  | pushStream buffer => exact ⟨_, _, shows_pushStream h.engine buffer, ht.calls hcl⟩
  | start | started | stop | subscribe | reconnect | resubscribe | release | turn | reply | hand
  | inject => exact hno rfl

theorem plays_start {k : Sinks} (hs : Sound t.session e) (hk : (k.record || k.event) = true)
    (hw : t.session.state = .idle) :
    t.Plays [.claimed k (some e.metadata.timeless)] { t.session with
      lifecycle := { t.session.lifecycle with state := .starting }
      symbols := .empty
      stats := t.session.stats.start
      engine := .replay
        { e with shutdown := false, loop := some ⟨e.metadata, false⟩, clock := e.clock.tail }
      sinks := some k } := by
  obtain ⟨hl, hks, hc⟩ := hs.idle hw
  have hlaunch := shows_launch (e := e)
    (t := { t with
      session :=
        { t.session with
          lifecycle := { t.session.lifecycle with state := .starting }
          symbols := .empty
          stats := t.session.stats.start }
      starting := some (.claimed k) }) h.engine hc hks rfl hl
  exact ⟨_, _, (shows_claim hk hw).trans hlaunch, rfl, ht.errands, .inr (.inl rfl), .inr rfl,
    fun h => by cases h⟩

/-! ### Turns -/

section

variable {loop : Replay.Loop} {k : Sinks} {event : FeedEvent} {queue : List FeedEvent}
  (hc : t.session.calling = none) (hk : t.session.sinks = some k) (hl : e.loop = some loop)
  (hg : loop.greeted = true)
include hc hk hl hg

theorem plays_shutdown (hsd : e.shutdown = true) : t.Plays [.ended] (t.session.quit e) := by
  have hexit := shows_exit (t := { t with place := some .leaving }) h.engine hc rfl hk
  exact ⟨_, _, (shows_shutdown h.engine (ht.looking h hc hl) hl hg hsd).trans hexit,
    ht.goes (.inl rfl) fun hst => .loopExited (h.no_start hst) (ht.clear hst)⟩

variable (hsd : e.shutdown = false) (hq : e.queue = event :: queue)
include hsd hq

theorem plays_close (he : event = .close) :
    t.Plays [.took event t.session.symbols, .ended] (t.session.quit { e with queue }) := by
  have htake := shows_taking h.engine (ht.looking h hc hl) hl hg hsd hq
  have hdrop := shows_drop
    (t := { t with
      session := { t.session with engine := .replay { e with queue } }
      place := some (.holding event) }) hc rfl (.inl he)
  have hexit := shows_exit
    (t := { t with
      session := { t.session with engine := .replay { e with queue } }
      place := some .leaving }) rfl hc rfl hk
  exact ⟨_, _, (htake.trans hdrop).trans hexit,
    ht.goes (.inl rfl) fun hst => .loopExited (h.no_start hst) (ht.clear hst)⟩

variable (hsr : t.session.lifecycle.stopRequested = false)
include hsr

theorem plays_event {bytes : Bytes} {r : Record} {ev : Event} (he : event = .record bytes)
    (hr : Record.decode bytes = .ok r) (hro : (Router.route t.session.symbols r).1 = .event ev)
    (hev : k.event = true) :
    t.Plays [.took event t.session.symbols, .delivered r (.event ev), .called (.event ev r)]
      { t.session.routed r with
        engine := .replay { e with queue }
        calling := some (.event ev r) } := by
  subst he
  have htake := shows_taking h.engine (ht.looking h hc hl) hl hg hsd hq
  have hevent := shows_event
    (t := { t with
      session := { t.session with engine := .replay { e with queue } }
      place := some (.holding (.record bytes)) }) hc rfl hk hsr hr hro hev
  exact ⟨_, _, htake.trans hevent, ht.goes (.inr (.inr rfl)) ht.clear⟩

theorem plays_record {bytes : Bytes} {r : Record} (he : event = .record bytes)
    (hr : Record.decode bytes = .ok r)
    (hf : k.forEvent r (Router.route t.session.symbols r).1 = []) :
    t.Plays (.took event t.session.symbols :: .delivered r (Router.route t.session.symbols r).1 ::
        (k.forRecord r).map .called)
      ((t.session.routed r).showing { e with queue } k r) := by
  subst he
  have htake := shows_taking h.engine (ht.looking h hc hl) hl hg hsd hq
  have hrecord := shows_record
    (t := { t with
      session := { t.session with engine := .replay { e with queue } }
      place := some (.holding (.record bytes)) }) hc rfl hk hsr hr hf
  refine ⟨_, _, htake.trans hrecord, ?_, ht.errands, ?_, ht.starting, ?_⟩
  · have hhead : (k.forRecord r).head? = if k.record then some (.record r) else none := by
      unfold Sinks.forRecord
      split <;> rfl
    rw [hhead]
    unfold Session.showing
    split <;> rfl
  · cases hkr : k.record <;> simp [routing, Sinks.forRecord, hkr, Place.after]
  · unfold Session.showing
    split <;> exact ht.clear

theorem plays_consult {cause : EngineError} (hf : event.fault? = some cause)
    (hx : k.exception = true) :
    t.Plays [.took event t.session.symbols, .called (.exception cause)]
      { t.session with
        engine := .replay { e with queue }
        calling := some (.exception cause) } := by
  have htake := shows_taking h.engine (ht.looking h hc hl) hl hg hsd hq
  have hconsult := shows_consult
    (t := { t with
      session := { t.session with engine := .replay { e with queue } }
      place := some (.holding event) }) hc rfl hk hsr hf hx
  exact ⟨_, _, htake.trans hconsult, ht.goes (.inr (.inr rfl)) ht.clear⟩

theorem plays_giveUp {cause : EngineError} (hf : event.fault? = some cause)
    (hx : k.exception = false) :
    t.Plays [.took event t.session.symbols, .ended]
      ({ t.session with lifecycle := t.session.lifecycle.fault }.quit { e with queue }) := by
  have htake := shows_taking h.engine (ht.looking h hc hl) hl hg hsd hq
  have hgive := shows_giveUp
    (t := { t with
      session := { t.session with engine := .replay { e with queue } }
      place := some (.holding event) }) hc rfl hk hsr hf hx
  have hexit := shows_exit
    (t := { t with
      session :=
        { t.session with
          engine := .replay { e with queue }
          lifecycle := t.session.lifecycle.fault }
      place := some .leaving }) rfl hc rfl hk
  refine ⟨_, _, (htake.trans hgive).trans hexit, ht.goes (.inl rfl) fun hst => ?_⟩
  exact .loopExited (Lifecycle.fault_ne_starting (h.no_start hst)) (ht.clear hst).fault

end

end Serial

/-- Some steps do what a move does by a rule. -/
theorem Rule.plays (hs : Sound t.session e) (h : Woven t e) (ht : Serial t.session t) {m : Move}
    {u : List Mark} {s' : Session} (hr : Rule t.session e m u s') : t.Plays u s' := by
  have hsr (hsd : e.shutdown = false) : t.session.lifecycle.stopRequested = false := by
    have := hs.attuned
    rw [hsd] at this
    exact this.not_stopRequested
  have hcl (r : Reply) (hst : t.starting = none) : (t.session.noteReply r).lifecycle.Clear := by
    rw [(Sound.noteReply_keeps t.session r).2.2]
    exact ht.clear hst
  cases hr with
  | still => exact ⟨[], t, .nil, ht⟩
  | @subscribe sub hu =>
    have ha : (Errand.subscribe sub).check t.session = .ok t.session := by
      simp [Errand.check, hu, Except.map]
    exact ⟨_, _, shows_call ht.errands (shows_ask ha rfl) (Errand.run_subscribe h.engine sub)
      rfl rfl, ht.calls ht.clear⟩
  | reconnect hu hl =>
    obtain ⟨hw, hn⟩ := (t.session.ensureReady_ok _).mp hu
    have ha := (Errand.check_resending (.inl rfl) t.session).mpr hw
    exact ⟨_, _, shows_call ht.errands (shows_ask ha rfl) (Errand.run_reconnect h.engine hn hl)
      rfl rfl, ht.calls ht.clear⟩
  | start hk hw => exact ht.plays_start h hs hk hw
  | started => exact ht.plays_started h hs.attuned
  | stop => exact ht.plays_stop h
  | release =>
    exact ⟨_, _, shows_call ht.errands (shows_giveAway t) (Errand.run_release h.engine) rfl rfl,
      ht.calls fun hst => .requestStop (h.no_start hst) (ht.clear hst)⟩
  | @feed m => exact ht.plays_feed h m
  | @greet loop k hc hk hl hg =>
    refine ⟨_, _, shows_greet h.engine (ht.looking h hc hl) hl hc hk hg, ht.goes ?_ ht.clear⟩
    cases hkm : k.metadata <;> simp [Sinks.greeting, hkm, Place.after]
  | shutdown hc hl hg hsd =>
    obtain ⟨k, hk⟩ := hs.has_sinks hl
    exact ht.plays_shutdown h hc hk hl hg hsd
  | close hc hl hg hsd hq =>
    obtain ⟨k, hk⟩ := hs.has_sinks hl
    exact ht.plays_close h hc hk hl hg hsd hq rfl
  | event hc hk hl hg hsd hq hr hro hev =>
    exact ht.plays_event h hc hk hl hg hsd hq (hsr hsd) rfl hr hro hev
  | record hc hk hl hg hsd hq hr hf =>
    exact ht.plays_record h hc hk hl hg hsd hq (hsr hsd) rfl hr hf
  | consult hc hk hl hg hsd hq hf hx =>
    exact ht.plays_consult h hc hk hl hg hsd hq (hsr hsd) hf hx
  | giveUp hc hk hl hg hsd hq hf hx =>
    exact ht.plays_giveUp h hc hk hl hg hsd hq (hsr hsd) hf hx
  | @greeted m r hc => exact ⟨_, _, shows_greeted hc, ht.goes (.inr (.inl rfl)) (hcl r)⟩
  | @offer ev rec r k hk hc hkr =>
    exact ⟨_, _, shows_offer hk hc hkr, ht.goes (.inr (.inr rfl)) (hcl r)⟩
  | @proceed c r k hk hc hv hsr =>
    exact ⟨_, _, shows_proceed hk hc hv hsr, ht.goes (.inr (.inl rfl)) (hcl r)⟩
  | @stopped c r k v hk hc hv hsr =>
    obtain ⟨he, hks, hlc⟩ := Sound.noteReply_keeps t.session r
    exact ht.plays_last (shows_stopped hk hc hv hsr) (he.trans h.engine) rfl (hks.trans hk)
      (fun hst => hlc ▸ h.no_start hst) (hcl r)
  | @restart loop cause r hl hc hr =>
    exact ⟨_, _, shows_restart hc h.engine hl hr, ht.goes (.inr (.inl rfl)) ht.clear⟩
  | @abandon cause r hc hr =>
    obtain ⟨he, hks, -⟩ := Sound.noteReply_keeps t.session r
    obtain ⟨k, hk⟩ := (h.has (h.place_calling hc) rfl).2
    exact ht.plays_last (shows_abandon hc hr) (he.trans h.engine) rfl (hks.trans hk)
      (fun hst => Lifecycle.fault_ne_starting (h.no_start hst)) fun hst => (ht.clear hst).fault

/-! ## Runs -/

theorem Serial.move (hs : Sound s e) (h : Woven t e) (ht : Serial s t) (m : Move) :
    ∃ xs t', Shows t xs (s.marks m) t' ∧ Serial (s.move m) t' := by
  obtain rfl := ht.session
  exact (hs.rule m).plays hs h ht

theorem Serial.run (hs : Sound s e) (h : Woven t e) (ht : Serial s t) (ms : List Move) :
    ∃ xs t', Shows t xs (s.trace ms) t' ∧ Serial (s.after ms) t' := by
  induction ms generalizing s t e with
  | nil => exact ⟨[], t, .nil, ht⟩
  | cons m ms ih =>
    obtain ⟨xs, t', hx, ht'⟩ := ht.move hs h m
    obtain ⟨e', hs'⟩ := (hs.rule m).sound hs
    obtain ⟨e'', h'⟩ := h.after xs
    rw [hx.after] at h'
    have heq : e'' = e' := by
      have he := h'.engine
      rw [ht'.session, hs'.engine] at he
      exact (Engine.replay.inj he).symm
    subst heq
    obtain ⟨ys, t'', hy, ht''⟩ := ih hs' h' ht'
    exact ⟨xs ++ ys, t'', hx.trans hy, ht''⟩

/-- Every run of moves of a new replay session is a run of steps of its threads: it leads to the same
session and shows the same marks. -/
theorem Session.exists_steps (config : Config) (clock : List UInt64) (ms : List Move) :
    let s := Session.new config (.replay (.new config clock))
    ∃ xs, ((Threads.new s).after xs).session = s.after ms ∧
      (Threads.new s).trace xs = s.trace ms := by
  intro s
  have ht : Serial s (.new s) := ⟨rfl, rfl, .inl rfl, .inl rfl, fun _ => ⟨rfl, rfl⟩⟩
  obtain ⟨xs, t', hx, ht'⟩ := ht.run (.new config clock) (.new config clock) ms
  exact ⟨xs, hx.after ▸ ht'.session, hx.trace⟩

end MarketFeed
