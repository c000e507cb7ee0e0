import MarketFeed.Proofs.Session.Rules

set_option autoImplicit false

/-!
# What a move does

Moves of sessions over either engine, known to be sound or not. `Session.does` sorts them: a move
claims the session for a loop, or keeps what records have changed (`Keeps`), or ends in `follow`
after one of the functions of delivery. What a session does over a run is proved by `cases` on it.

`Claimed s x` is the invariant of such runs: the callbacks of the session, while it has them, are
those of its last claim.
-/

namespace MarketFeed

def Engine.loop? : Engine → Option Replay.Loop
  | .replay e => e.loop
  | .manual _ => none

/-- The callback that a step calls. -/
def Progress.call? : Progress → Option Call
  | .call c => some c
  | .done _ => none

/-- What the lifecycle knows of the callbacks: an idle session has none, nor has one whose loop is
known to be over. -/
structure Lifecycle.Tied (l : Lifecycle) (callbacks : Bool) : Prop where
  idle : l.state = .idle → callbacks = false
  exited : l.exited = true → callbacks = false ∧ (l.state = .starting ∨ l.state = .faulted)

namespace Lifecycle.Tied

variable {l : Lifecycle} {b : Bool}

theorem beginStart {l' : Lifecycle} (h : l.Tied b) (hl : l.beginStart = .ok l') :
    b = false ∧ ∀ b', l'.Tied b' := by
  cases hw : l.state with
  | idle =>
    simp only [Lifecycle.beginStart, hw, Except.ok.injEq] at hl
    subst hl
    refine ⟨h.idle hw, fun b' => ⟨fun h' => (by cases h'), fun h' => ?_⟩⟩
    rcases (h.exited h').2 with hs | hs <;> rw [hw] at hs <;> cases hs
  | starting | running | stopRequested | faulted => simp [Lifecycle.beginStart, hw] at hl

theorem finishStart (h : l.Tied b) : (l.finishStart true).Tied b := by
  refine ⟨fun hi => ?_, fun hx => (by cases hx)⟩
  cases hw : l.state with
  | starting =>
    cases hx : l.exited with
    | true => exact (h.exited hx).1
    | false => cases ha : l.stopAsked <;> simp [Lifecycle.finishStart, hw, hx, ha] at hi
  | idle => exact h.idle hw
  | running | stopRequested | faulted => simp [Lifecycle.finishStart, hw] at hi

/-- A session whose start failed has no callbacks. -/
theorem failed (l : Lifecycle) : (l.loopExited.finishStart false).Tied false :=
  ⟨fun _ => rfl, fun hx => (by cases hx)⟩

theorem requestStop (h : l.Tied b) : l.requestStop.Tied b := by
  cases hw : l.state with
  | running =>
    have hl : l.requestStop = { l with state := .stopRequested } := by
      simp [Lifecycle.requestStop, hw]
    rw [hl]
    refine ⟨fun h' => (by cases h'), fun hx => ?_⟩
    rcases (h.exited hx).2 with hs | hs <;> rw [hw] at hs <;> cases hs
  | starting =>
    have hl : l.requestStop = { l with stopAsked := true } := by simp [Lifecycle.requestStop, hw]
    rw [hl]
    exact ⟨h.idle, h.exited⟩
  | idle | stopRequested | faulted =>
    have hl : l.requestStop = l := by simp [Lifecycle.requestStop, hw]
    rw [hl]
    exact h

theorem loopExited (h : l.Tied b) : l.loopExited.Tied false := by
  refine ⟨fun _ => rfl, fun hx => ⟨rfl, ?_⟩⟩
  cases hw : l.state with
  | starting => exact .inl (by simp [Lifecycle.loopExited, hw])
  | faulted => exact .inr (by simp [Lifecycle.loopExited, hw])
  | idle | running | stopRequested =>
    have hx' : l.exited = true := by simpa [Lifecycle.loopExited, hw] using hx
    rcases (h.exited hx').2 with hs | hs <;> rw [hw] at hs <;> cases hs

theorem fault (h : l.Tied b) : l.fault.Tied b := by
  cases hw : l.state with
  | starting | running =>
    have hl : l.fault = { l with state := .faulted } := by simp [Lifecycle.fault, hw]
    rw [hl]
    exact ⟨fun h' => (by cases h'), fun hx => ⟨(h.exited hx).1, .inr rfl⟩⟩
  | idle | stopRequested | faulted =>
    have hl : l.fault = l := by simp [Lifecycle.fault, hw]
    rw [hl]
    exact h

end Lifecycle.Tied

namespace Session

/-- The callbacks of a session are those of the claim `x`, the last one; and there are callbacks
while the engine has a loop. -/
structure Claimed (s : Session) (x : Option Sinks) : Prop where
  sinks : ∀ k, s.sinks = some k → x = some k
  tied : s.lifecycle.Tied s.sinks.isSome
  loop : s.engine.loop?.isSome = true → s.sinks.isSome = true

/-- What a move does that neither claims the session nor delivers: symbols, statistics and the
callback that runs are kept. -/
structure Keeps (s s' : Session) : Prop where
  symbols : s'.symbols = s.symbols
  stats : s'.stats = s.stats
  calling : s'.calling = s.calling
  claimed : ∀ x, s.Claimed x → s'.Claimed x

namespace Keeps

variable {s s' s'' : Session}

theorem refl (s : Session) : Keeps s s := ⟨rfl, rfl, rfl, fun _ h => h⟩

theorem trans (h : Keeps s s') (h' : Keeps s' s'') : Keeps s s'' :=
  ⟨h'.symbols.trans h.symbols, h'.stats.trans h.stats, h'.calling.trans h.calling,
    fun x hx => h'.claimed x (h.claimed x hx)⟩

theorem engine (s : Session) {engine : Engine}
    (hl : engine.loop?.isSome = true → s.engine.loop?.isSome = true) :
    Keeps s { s with engine } :=
  ⟨rfl, rfl, rfl, fun _ h => ⟨h.sinks, h.tied, fun h' => h.loop (hl h')⟩⟩

theorem lifecycle (s : Session) {l : Lifecycle}
    (hl : ∀ b, s.lifecycle.Tied b → l.Tied b) : Keeps s { s with lifecycle := l } :=
  ⟨rfl, rfl, rfl, fun _ h => ⟨h.sinks, hl _ h.tied, h.loop⟩⟩

/-- A loop that is over, and with it that of the engine. -/
theorem loopExit (s : Session) (hl : s.engine.loop? = none) : Keeps s s.loopExit := by
  refine ⟨rfl, rfl, rfl, fun x h => ⟨fun k hk => (by cases hk), h.tied.loopExited, fun h' => ?_⟩⟩
  have h'' : s.engine.loop?.isSome = true := h'
  rw [hl] at h''
  cases h''

theorem ofEngine (s : Session) {called : Engine.Called Unit}
    (hl : called.2.loop? = s.engine.loop?) : Keeps s (s.ofEngine called).2 := by
  obtain ⟨result, engine⟩ := called
  have hk : Keeps s { s with engine } := .engine s (by rw [← hl]; exact id)
  cases result <;> exact hk

end Keeps

end Session

/-! ## Calls of the engine -/

namespace Engine

theorem ofManual_loop (e : Manual) (c : EngineCall) : (ofManual e c).2.loop? = none := by
  unfold ofManual
  split <;> rfl

theorem ignoreError_snd (called : Called Unit) : (ignoreError called).2 = called.2 := by
  obtain ⟨result, engine⟩ := called
  rcases result with (cause | message) | _ <;> rfl

theorem subscribe_loop (engine : Engine) (sub : Subscription) :
    (engine.subscribe sub).2.loop? = engine.loop? := by
  cases engine with
  | replay e => rfl
  | manual e => exact ofManual_loop e _

theorem reconnect_loop (engine : Engine) : engine.reconnect.2.loop? = engine.loop? := by
  cases engine with
  | replay e => cases hr : e.isRunning <;> simp [reconnect, Replay.reconnect, hr, ofReplay, loop?]
  | manual e => exact ofManual_loop e _

theorem resubscribe_loop (engine : Engine) : engine.resubscribe.2.loop? = engine.loop? := by
  cases engine with
  | replay e => cases hr : e.resubscribe <;> simp [resubscribe, hr, Except.map, ofReplay, loop?]
  | manual e => exact ofManual_loop e _

theorem stop_loop (engine : Engine) : engine.stop.2.loop? = engine.loop? := by
  cases engine with
  | replay e => rfl
  | manual e =>
    rw [stop, ignoreError_snd]
    exact ofManual_loop e _

/-- A start that fails leaves the loop as it is. -/
theorem start_loop {engine : Engine} {failure : EngineFailure}
    (h : engine.start.1 = .error failure) : engine.start.2.loop? = engine.loop? := by
  cases engine with
  | replay e =>
    cases hr : e.isRunning with
    | true => simp [start, Replay.start, hr, ofReplay, loop?]
    | false => simp [start, Replay.start, hr, ofReplay] at h
  | manual e => exact ofManual_loop e _

theorem blockForStop_loop (engine : Engine) : engine.blockForStop.2.loop? = engine.loop? := by
  cases engine with
  | replay e => rfl
  | manual e =>
    rw [blockForStop, ignoreError_snd]
    exact ofManual_loop e _

/-- Only an engine without a loop of its own lets go of the callbacks at once. -/
theorem loop_of_stopEnds {engine : Engine} (h : engine.stopEnds = true) : engine.loop? = none := by
  cases engine with
  | replay e => cases h
  | manual e => rfl

end Engine

/-! ## Operations -/

namespace Session

namespace Keeps

theorem stopEngine (s : Session) : Keeps s s.stopEngine.2 := by
  have h : Keeps s (s.ofEngine s.engine.stop).2 := ofEngine s s.engine.stop_loop
  unfold Session.stopEngine
  split
  · rename_i s' heq
    rw [heq] at h
    split
    · rename_i hends
      simp only [endsByStop, Bool.and_eq_true] at hends
      exact h.trans (loopExit s' (Engine.loop_of_stopEnds hends.1.1))
    · exact h
  · exact h

/-- A stop that the lifecycle took up is passed on to the engine. -/
theorem passStop (s : Session) : Keeps s s.passStop.2 := by
  unfold Session.passStop
  split
  · exact stopEngine s
  · exact refl s

theorem completeStart (s : Session) : Keeps s s.completeStart.2 :=
  (lifecycle s fun _ h => h.finishStart).trans (passStop _)

theorem requestStop (s : Session) : Keeps s s.requestStop.2 :=
  (lifecycle s fun _ h => h.requestStop).trans (passStop _)

theorem subscribe (s : Session) (sub : Subscription) : Keeps s (s.subscribe sub).2 := by
  have h : Keeps s (s.ofEngine (s.engine.subscribe sub)).2 :=
    ofEngine s (s.engine.subscribe_loop sub)
  unfold Session.subscribe
  split
  · exact refl s
  · split
    · rename_i s' heq
      rw [heq] at h
      exact h.trans ⟨rfl, rfl, rfl, fun _ h' => ⟨h'.sinks, h'.tied, h'.loop⟩⟩
    · exact h

theorem reconnect (s : Session) : Keeps s s.reconnect.2 := by
  unfold Session.reconnect
  split
  · exact refl s
  · exact ofEngine s s.engine.reconnect_loop

theorem resubscribe (s : Session) : Keeps s s.resubscribe.2 := by
  unfold Session.resubscribe
  split
  · exact refl s
  · exact ofEngine s s.engine.resubscribe_loop

theorem release (s : Session) (delivering : Bool) : Keeps s (s.release delivering).2 := by
  have hr : Keeps s s.giveUp :=
    ⟨rfl, rfl, rfl, fun _ h => ⟨h.sinks, h.tied.requestStop, h.loop⟩⟩
  have h := hr.trans (stopEngine _)
  unfold Session.release
  split
  · rename_i s' heq
    rw [heq] at h
    split
    · exact h
    · exact h.trans (ofEngine s' s'.engine.blockForStop_loop)
  · exact h

theorem push (s : Session) (event : FeedEvent) : Keeps s (s.push event).2 := by
  unfold Session.push
  split
  · rename_i e he
    split
    · exact engine s (by rw [he]; exact id)
    · exact refl s
  · exact refl s

theorem pushStream (s : Session) (buffer : Bytes) : Keeps s (s.pushStream buffer).2 := by
  unfold Session.pushStream
  split
  · rename_i e he
    split
    · exact engine s (by rw [he]; exact id)
    · exact refl s
  · exact refl s

theorem modifyManual (s : Session) (f : Manual → Manual) : Keeps s (s.modifyManual f) := by
  unfold Session.modifyManual
  split
  · exact engine s fun h => by cases h
  · exact refl s

end Keeps

/-! ## Starts -/

/-- A failure of the engine is not a refusal. -/
theorem refused_ofEngine (s : Session) (called : Engine.Called Unit) :
    refused (s.ofEngine called).1 = false := by
  obtain ⟨result, engine⟩ := called
  cases result with
  | ok => rfl
  | error failure => cases failure <;> rfl

/-- What a start does that claims the session, also if it then fails. -/
structure Claims (s : Session) (k : Sinks) (s' : Session) : Prop where
  symbols : s'.symbols = .empty
  stats : s'.stats = s.stats.start
  calling : s'.calling = s.calling
  claimed : ∀ x, s.Claimed x → s'.Claimed (some k)

/-- A start that is refused changes nothing. -/
theorem claim_refused {s s' : Session} {k : Sinks} {halt : Halt}
    (h : s.claim k = (.error halt, s')) : refused (.error halt) = true ∧ s' = s := by
  unfold claim at h
  split at h
  · cases h
    exact ⟨rfl, rfl⟩
  · split at h
    · rename_i cause heq
      cases h
      unfold Lifecycle.beginStart at heq
      split at heq <;> cases heq <;> exact ⟨rfl, rfl⟩
    · cases h

theorem claim_ok {s s' : Session} {k : Sinks} (h : s.claim k = (.ok (), s')) :
    ∃ lifecycle, s.lifecycle.beginStart = .ok lifecycle ∧
      s' = { s with lifecycle, symbols := .empty, stats := s.stats.start } := by
  unfold claim at h
  split at h
  · cases h
  · split at h
    · cases h
    · rename_i lifecycle heq
      cases h
      exact ⟨lifecycle, heq, rfl⟩

/-- What reaches the engine has claimed the session, also if the engine then fails. -/
theorem launch_claims {s s' : Session} {k : Sinks} (h : s.claim k = (.ok (), s')) :
    refused (s'.launch k).1 = false ∧ s.Claims k (s'.launch k).2 := by
  obtain ⟨lifecycle, hl, rfl⟩ := claim_ok h
  unfold Session.launch
  cases hcall : s.engine.start with
  | mk result engine =>
  cases result with
  | ok =>
    refine ⟨by simp [ofEngine, refused], ?_⟩
    simp only [ofEngine]
    exact ⟨rfl, rfl, rfl, fun x hx => ⟨fun _ hk => hk, (hx.tied.beginStart hl).2 _, fun _ => rfl⟩⟩
  | error failure =>
    have hr := refused_ofEngine s s.engine.start
    simp only [ofEngine, hcall] at hr ⊢
    refine ⟨hr, rfl, rfl, rfl, fun x hx => ?_⟩
    have hnone : s.sinks = none := by simpa using (hx.tied.beginStart hl).1
    have hloop : engine.loop? = s.engine.loop? := by
      have hstart : s.engine.start.2.loop? = s.engine.loop? := Engine.start_loop (by rw [hcall])
      rwa [hcall] at hstart
    refine ⟨fun k' hk => ?_, ?_, fun h' => hx.loop (hloop ▸ h')⟩
    · have hk' : s.sinks = some k' := hk
      rw [hnone] at hk'
      cases hk'
    · rw [hnone]
      exact .failed lifecycle

/-- A start that is refused changes nothing; any other claims the session. -/
theorem beginStart_claims (s : Session) (k : Sinks) :
    (refused (s.beginStart k).1 = true ∧ (s.beginStart k).2 = s) ∨
      (refused (s.beginStart k).1 = false ∧ s.Claims k (s.beginStart k).2) := by
  cases hc : s.claim k with
  | mk result s' =>
  cases result with
  | ok =>
    have hb : s.beginStart k = s'.launch k := by simp only [beginStart, hc]
    rw [hb]
    exact .inr (launch_claims hc)
  | error halt =>
    have hb : s.beginStart k = (.error halt, s') := by simp only [beginStart, hc]
    rw [hb]
    exact .inl (claim_refused hc)

/-! ## Deliveries -/

theorem conclude_keeps (s : Session) (o : Outcome) :
    (s.conclude o).symbols = s.symbols ∧ (s.conclude o).stats = s.stats ∧
      (s.conclude o).calling = none := by
  unfold conclude
  simp only
  split
  · split <;> exact ⟨rfl, rfl, rfl⟩
  · exact ⟨rfl, rfl, rfl⟩

theorem Claimed.conclude {s : Session} {x : Option Sinks} (h : s.Claimed x) (o : Outcome) :
    (s.conclude o).Claimed x := by
  unfold Session.conclude
  simp only
  split
  · rename_i e he
    have hl : (e.conclude o).loop.isSome = true → s.engine.loop?.isSome = true := by
      rw [he]
      cases o with
      | greeted => exact id
      | verdict v => cases v <;> simp [Replay.conclude, Replay.finish, Engine.loop?]
      | recovery r => cases r <;> simp [Replay.conclude, Replay.finish, Replay.restart, Engine.loop?]
    split
    · exact ⟨h.sinks, h.tied, fun h' => h.loop (hl h')⟩
    · rename_i hr
      refine ⟨fun k hk => (by cases hk), h.tied.loopExited, fun h' => ?_⟩
      exact absurd h' hr
  · exact ⟨h.sinks, h.tied, fun h' => (by cases h')⟩

theorem follow_symbols (p : Progress × Session) : (follow p).symbols = p.2.symbols := by
  obtain ⟨p, s⟩ := p
  cases p with
  | call c => rfl
  | done o => exact (conclude_keeps s o).1

theorem follow_stats (p : Progress × Session) : (follow p).stats = p.2.stats := by
  obtain ⟨p, s⟩ := p
  cases p with
  | call c => rfl
  | done o => exact (conclude_keeps s o).2.1

/-- The callback that runs after a step is the one that the step calls. -/
theorem follow_calling (p : Progress × Session) : (follow p).calling = p.1.call? := by
  obtain ⟨p, s⟩ := p
  cases p with
  | call c => rfl
  | done o => exact (conclude_keeps s o).2.2

theorem Claimed.follow {p : Progress × Session} {x : Option Sinks} (h : p.2.Claimed x) :
    (follow p).Claimed x := by
  obtain ⟨p, s⟩ := p
  cases p with
  | call c => exact ⟨h.sinks, h.tied, h.loop⟩
  | done o => exact h.conclude o

/-- The callbacks, the engine and what the lifecycle knows of the callbacks are kept. -/
theorem Claimed.of_kept {s s' : Session} {x : Option Sinks} (h : s.Claimed x)
    (hk : s'.sinks = s.sinks) (he : s'.engine = s.engine)
    (hl : s'.lifecycle.Tied s.sinks.isSome) : s'.Claimed x :=
  ⟨by rw [hk]; exact h.sinks, by rw [hk]; exact hl, by rw [hk, he]; exact h.loop⟩

/-- Where a record goes that was routed: to the event callback, or on to the record callback. -/
def brought (s : Session) (r : Record) : Routed → Progress
  | .event ev => if s.has (·.event) then .call (.event ev r) else s.offer r
  | _ => s.offer r

/-- A record that comes after a request to stop is not looked at. -/
theorem accept_stopping {s : Session} (hsr : s.lifecycle.stopRequested = true) (r : Record) :
    s.accept r = (.done (.verdict .stop), s) := by
  simp [accept, hsr]

theorem accept_eq {s : Session} (hsr : s.lifecycle.stopRequested = false) (r : Record) :
    s.accept r = (s.brought r (Router.route s.symbols r).1, s.routed r) := by
  cases hr : (Router.route s.symbols r).1 with
  | event ev =>
    cases hk : s.has (·.event) with
    | true =>
      have hk' : s.sinks.any (·.event) = true := hk
      simp [accept, brought, routed, hsr, hr, has, hk']
    | false =>
      have hk' : s.sinks.any (·.event) = false := hk
      simp only [accept, brought, routed, hsr, hr, has, hk']
      rfl
  | suppressed | failed =>
    simp only [accept, brought, routed, hsr, hr]
    rfl

theorem Claimed.accept {s : Session} {x : Option Sinks} (h : s.Claimed x) (r : Record) :
    (s.accept r).2.Claimed x := by
  cases hsr : s.lifecycle.stopRequested with
  | true =>
    rw [accept_stopping hsr]
    exact h
  | false =>
    rw [accept_eq hsr]
    exact h.of_kept rfl rfl h.tied

theorem Claimed.decide {s : Session} {x : Option Sinks} (h : s.Claimed x) (r : Recovery) :
    (s.decide r).2.Claimed x := by
  cases r with
  | restart => exact h.of_kept rfl rfl ⟨h.tied.idle, h.tied.exited⟩
  | stop => exact h.of_kept rfl rfl h.tied.fault

theorem Claimed.consult {s : Session} {x : Option Sinks} (h : s.Claimed x) (cause : EngineError) :
    (s.consult cause).2.Claimed x := by
  unfold Session.consult
  split
  · exact h
  · split
    · exact h
    · exact h.decide .stop

theorem Claimed.resume {s : Session} {x : Option Sinks} (h : s.Claimed x) (c : Call) (r : Reply) :
    (s.resume c r).2.Claimed x := by
  have hn : (s.noteReply r).Claimed x := by
    cases r with
    | code => exact h
    | panic => exact h.of_kept rfl rfl h.tied
  cases c with
  | metadata | event | record => exact hn
  | exception => exact hn.decide r.recovery

/-! ### Released sessions

Nothing but a release releases a session. -/

theorem follow_released (p : Progress × Session) : (follow p).released = p.2.released := by
  obtain ⟨p, s⟩ := p
  cases p with
  | call c => rfl
  | done o =>
    unfold follow conclude
    simp only
    split
    · split <;> rfl
    · rfl

theorem accept_released (s : Session) (r : Record) : (s.accept r).2.released = s.released := by
  cases hsr : s.lifecycle.stopRequested with
  | true => rw [accept_stopping hsr]
  | false => rw [accept_eq hsr]; rfl

theorem consult_released (s : Session) (cause : EngineError) :
    (s.consult cause).2.released = s.released := by
  unfold consult
  split
  · rfl
  · split <;> rfl

theorem reply_released (s : Session) (r : Reply) : (s.reply r).released = s.released := by
  have hn : (s.noteReply r).released = s.released := by cases r <;> rfl
  unfold reply
  split
  · rfl
  · rename_i c hc
    rw [follow_released]
    cases c with
    | metadata | event | record => exact hn
    | exception => cases hrc : r.recovery <;> simp only [resume, hrc] <;> exact hn

theorem step_released {s s' : Session} (h : s.step = some s') : s'.released = s.released := by
  unfold step at h
  split at h
  · simp only at h
    split at h
    · cases h
    · cases h; rfl
    · cases h
      exact follow_released _
    · cases h
      rw [follow_released, accept_released]
    · cases h
      rw [follow_released, consult_released]
  · cases h

theorem hand_released (s : Session) (h : Handing) : (s.hand h).2.released = s.released := by
  unfold hand
  split
  · rfl
  · cases h with
    | deliver bytes =>
      cases hd : Record.decode bytes with
      | ok r =>
        simp only [hd]
        rw [follow_released, accept_released]
      | error cause =>
        simp only [hd]
        rw [follow_released, consult_released]
    | fault cause =>
      simp only
      rw [follow_released, consult_released]
    | metadata m =>
      simp only
      split
      · exact follow_released _
      · rfl
    | done => rfl

theorem ofEngine_released (s : Session) (called : Engine.Called Unit) :
    (s.ofEngine called).2.released = s.released := by
  obtain ⟨result, engine⟩ := called
  cases result <;> rfl

theorem stopEngine_released (s : Session) : s.stopEngine.2.released = s.released := by
  have h := s.ofEngine_released s.engine.stop
  unfold stopEngine
  split
  · rename_i s' heq
    rw [heq] at h
    split <;> exact h
  · exact h

theorem signal_released (s : Session) :
    (if s.lifecycle.stopRequested then s.stopEngine else (.ok (), s)).2.released = s.released := by
  split
  · exact s.stopEngine_released
  · rfl

theorem completeStart_released (s : Session) : s.completeStart.2.released = s.released :=
  signal_released { s with lifecycle := s.lifecycle.finishStart true }

theorem requestStop_released (s : Session) : s.requestStop.2.released = s.released :=
  signal_released { s with lifecycle := s.lifecycle.requestStop }

theorem subscribe_released (s : Session) (sub : Subscription) :
    (s.subscribe sub).2.released = s.released := by
  have h := s.ofEngine_released (s.engine.subscribe sub)
  unfold subscribe
  split
  · rfl
  · split
    · rename_i s' heq
      rw [heq] at h
      exact h
    · exact h

theorem reconnect_released (s : Session) : s.reconnect.2.released = s.released := by
  unfold reconnect
  split
  · rfl
  · exact s.ofEngine_released _

theorem resubscribe_released (s : Session) : s.resubscribe.2.released = s.released := by
  unfold resubscribe
  split
  · rfl
  · exact s.ofEngine_released _

theorem push_released (s : Session) (event : FeedEvent) :
    (s.push event).2.released = s.released := by
  unfold push
  split
  · split <;> rfl
  · rfl

theorem pushStream_released (s : Session) (buffer : Bytes) :
    (s.pushStream buffer).2.released = s.released := by
  unfold pushStream
  split
  · split <;> rfl
  · rfl

theorem claim_released (s : Session) (k : Sinks) : (s.claim k).2.released = s.released := by
  unfold claim
  split
  · rfl
  · split <;> rfl

theorem launch_released (s : Session) (k : Sinks) : (s.launch k).2.released = s.released := by
  have h := s.ofEngine_released s.engine.start
  unfold launch
  split
  · rename_i s' heq
    rw [heq] at h
    exact h
  · rename_i halt s' heq
    rw [heq] at h
    exact h

theorem beginStart_released (s : Session) (k : Sinks) :
    (s.beginStart k).2.released = s.released := by
  have h := s.claim_released k
  unfold beginStart
  split
  · rename_i s' heq
    rw [heq] at h
    exact (s'.launch_released k).trans h
  · exact h

end Session

/-! ## Every move -/

/-- Whether a mark shows only that the feed was filled or emptied, or that a loop is over. -/
def Mark.isQuiet : Mark → Bool
  | .pushed _ | .took .. | .ended => true
  | _ => false

/-- The marks of the call that a step makes. -/
def Progress.marks (p : Progress) : List Mark := p.call?.toList.map (.called ·.timeless)

namespace Session

/-- `Does s t s'`: what a move can do to a session over either engine, with the marks that tell more
than the quiet ones. What is delivered is delivered by an engine that may have moved on. -/
inductive Does (s : Session) : List Mark → Session → Prop
  | keeps {s' : Session} : s.Keeps s' → Does s [] s'
  | claims {k : Sinks} {metadata : Option Metadata} {s' : Session} :
      s.Claims k s' → Does s [.claimed k metadata] s'
  | resumes {c : Call} {r : Reply} : s.calling = some c →
      Does s (.replied c.timeless r :: (s.resume c r).1.marks) (follow (s.resume c r))
  | greets {m : Metadata} {engine : Engine} :
      (engine.loop?.isSome = true → s.engine.loop?.isSome = true) →
      Does s (s.greet m).marks (follow (s.greet m, { s with engine }))
  | accepts {r : Record} {engine : Engine} :
      (engine.loop?.isSome = true → s.engine.loop?.isSome = true) →
      s.engine.loop?.isSome = true ∨ s.sinks.isSome = true →
      s.lifecycle.stopRequested = false →
      Does s (.delivered r (Router.route s.symbols r).1 ::
          (s.brought r (Router.route s.symbols r).1).marks)
        (follow (({ s with engine } : Session).accept r))
  | consults {cause : EngineError} {engine : Engine} :
      (engine.loop?.isSome = true → s.engine.loop?.isSome = true) →
      Does s (({ s with engine } : Session).consult cause).1.marks
        (follow (({ s with engine } : Session).consult cause))

variable {s : Session} {m : Move}

/-- What a move does, between quiet marks. -/
def DoesMove (s : Session) (m : Move) : Prop :=
  ∃ before t after, s.marks m = before ++ t ++ after ∧ Does s t (s.move m) ∧
    (∀ mark ∈ before, mark.isQuiet = true) ∧ ∀ mark ∈ after, mark.isQuiet = true

theorem marks_eq (s : Session) (m : Move) :
    ∃ ending : List Mark, (∀ mark ∈ ending, mark.isQuiet = true) ∧ s.marks m =
      s.arrivals m ++ s.deliveries m ++ (s.newCall m).toList.map (.called ·.timeless) ++ ending := by
  refine ⟨_, fun mark hm => ?_, rfl⟩
  split at hm
  · rw [List.mem_singleton.mp hm]
    rfl
  · cases hm

theorem pushed_quiet (events : List FeedEvent) :
    ∀ mark ∈ events.map Mark.pushed, mark.isQuiet = true := by
  intro mark hm
  obtain ⟨event, -, rfl⟩ := List.mem_map.mp hm
  rfl

theorem arrivals_turn_quiet (s : Session) : ∀ mark ∈ s.arrivals .turn, mark.isQuiet = true := by
  intro mark hm
  obtain ⟨event, -, rfl⟩ := List.mem_map.mp hm
  rfl

/-- The callback that runs stays the one that runs. -/
theorem newCall_kept (hn : m.isReply = false) (hc : (s.move m).calling = s.calling) :
    s.newCall m = none := by
  unfold newCall
  split
  · cases hn
  · rw [hc]
    cases s.calling <;> rfl

/-- A move that neither claims nor delivers. -/
theorem DoesMove.of_keeps (hk : s.Keeps (s.move m)) (hn : m.isReply = false)
    (ha : ∀ mark ∈ s.arrivals m, mark.isQuiet = true) (ho : s.offered m = none) :
    s.DoesMove m := by
  obtain ⟨ending, he, hmarks⟩ := s.marks_eq m
  refine ⟨s.arrivals m, [], ending, ?_, .keeps hk, ha, he⟩
  simp [hmarks, deliveries, ho, newCall_kept hn hk.calling]

/-- A move that changes nothing. -/
theorem DoesMove.of_same (hm : s.move m = s) (hn : m.isReply = false)
    (ha : ∀ mark ∈ s.arrivals m, mark.isQuiet = true) (ho : s.offered m = none) :
    s.DoesMove m :=
  .of_keeps (by rw [hm]; exact .refl s) hn ha ho

theorem newCall_of_follow {p : Progress × Session} (hm : s.move m = follow p)
    (hn : m.isReply = false) (hc : s.calling = none) : s.newCall m = p.1.call? := by
  unfold newCall
  split
  · cases hn
  · rw [hm, follow_calling, hc]
    rfl

/-- A move that ends in a step of delivery, while no callback runs. -/
theorem DoesMove.of_follow {p : Progress × Session} (hm : s.move m = follow p)
    (hn : m.isReply = false) (hc : s.calling = none)
    (ha : ∀ mark ∈ s.arrivals m, mark.isQuiet = true)
    (hd : s.Does (s.deliveries m ++ p.1.marks) (follow p)) : s.DoesMove m := by
  obtain ⟨ending, he, hmarks⟩ := s.marks_eq m
  refine ⟨s.arrivals m, _, ending, ?_, by rw [hm]; exact hd, ha, he⟩
  rw [hmarks, newCall_of_follow hm hn hc, Progress.marks, ← List.append_assoc]

/-- A move that brings a record before the session. -/
theorem DoesMove.of_offered {r : Record} {engine : Engine}
    (hm : s.move m = follow (({ s with engine } : Session).accept r)) (hn : m.isReply = false)
    (hc : s.calling = none) (ha : ∀ mark ∈ s.arrivals m, mark.isQuiet = true)
    (ho : s.offered m = some r)
    (hl : engine.loop?.isSome = true → s.engine.loop?.isSome = true)
    (hd : s.engine.loop?.isSome = true ∨ s.sinks.isSome = true) : s.DoesMove m := by
  have hs : s.Keeps { s with engine } := .engine s hl
  cases hsr : s.lifecycle.stopRequested with
  | true =>
    have hacc := accept_stopping (s := { s with engine }) hsr r
    rw [hacc] at hm
    obtain ⟨ending, he, hmarks⟩ := s.marks_eq m
    refine ⟨s.arrivals m, [], ending, ?_, .keeps ?_, ha, he⟩
    · rw [hmarks, newCall_of_follow hm hn hc]
      simp [deliveries, hsr, Progress.call?]
    · rw [hm]
      refine ⟨follow_symbols _, follow_stats _, ?_, fun x h => (hs.claimed x h).conclude _⟩
      rw [follow_calling, hc]
      rfl
  | false =>
    refine .of_follow hm hn hc ha ?_
    have hdel : s.deliveries m = [.delivered r (Router.route s.symbols r).1] := by
      simp [deliveries, hsr, ho]
    rw [hdel, accept_eq (s := { s with engine }) hsr]
    have h := Does.accepts (r := r) hl hd hsr
    rwa [accept_eq (s := { s with engine }) hsr] at h

theorem does_start (s : Session) (k : Sinks) : s.DoesMove (.start k) := by
  have hd : s.deliveries (.start k) = [] := by simp [deliveries, offered]
  rcases s.beginStart_claims k with ⟨hr, hs⟩ | ⟨hr, hk⟩
  · refine .of_same hs rfl ?_ rfl
    simp [arrivals, hr]
  · obtain ⟨ending, he, hmarks⟩ := s.marks_eq (.start k)
    refine ⟨[], [.claimed k ((s.move (.start k)).loop?.map (·.metadata.timeless))], ending, ?_, .claims hk,
      by simp, he⟩
    have hnew : s.newCall (.start k) = none := newCall_kept rfl hk.calling
    rw [hmarks, hd, hnew]
    simp only [arrivals, hr]
    rfl

theorem does_reply (s : Session) (r : Reply) : s.DoesMove (.reply r) := by
  have hd : s.deliveries (.reply r) = [] := by simp [deliveries, offered]
  obtain ⟨ending, he, hmarks⟩ := s.marks_eq (.reply r)
  cases hc : s.calling with
  | none =>
    have hm : s.move (.reply r) = s := by simp [move, reply, hc]
    refine ⟨[], [], ending, ?_, .keeps (by rw [hm]; exact .refl s), by simp, he⟩
    simp [hmarks, arrivals, hd, newCall, hm, hc]
  | some c =>
    have hm : s.move (.reply r) = follow (s.resume c r) := by simp [move, reply, hc]
    refine ⟨[], _, ending, ?_, by rw [hm]; exact .resumes hc, by simp, he⟩
    simp [hmarks, arrivals, hd, newCall, hm, hc, follow_calling, Progress.marks]

theorem DoesMove.of_consulted {cause : EngineError} {engine : Engine}
    (hm : s.move m = follow (({ s with engine } : Session).consult cause))
    (hn : m.isReply = false) (hc : s.calling = none)
    (ha : ∀ mark ∈ s.arrivals m, mark.isQuiet = true) (ho : s.offered m = none)
    (hl : engine.loop?.isSome = true → s.engine.loop?.isSome = true) : s.DoesMove m := by
  refine .of_follow hm hn hc ha ?_
  have hd : s.deliveries m = [] := by simp [deliveries, ho]
  rw [hd]
  exact .consults hl

theorem DoesMove.of_greeted {metadata : Metadata} {engine : Engine}
    (hm : s.move m = follow (s.greet metadata, { s with engine })) (hn : m.isReply = false)
    (hc : s.calling = none) (ha : ∀ mark ∈ s.arrivals m, mark.isQuiet = true)
    (ho : s.offered m = none)
    (hl : engine.loop?.isSome = true → s.engine.loop?.isSome = true) : s.DoesMove m := by
  refine .of_follow hm hn hc ha ?_
  have hd : s.deliveries m = [] := by simp [deliveries, ho]
  rw [hd]
  exact .greets hl

theorem does_turn_idle (hst : s.step = none) (hn : s.next? = none) : s.DoesMove .turn := by
  have hm : s.move .turn = s := by simp [move, hst]
  exact .of_same hm rfl s.arrivals_turn_quiet (by simp [offered, hn])

/-- A turn by which the loop ends. -/
theorem does_turn_exit {engine : Engine}
    (hm : s.move .turn = ({ s with engine } : Session).loopExit) (hl : engine.loop? = none)
    (ho : s.offered .turn = none) : s.DoesMove .turn := by
  refine .of_keeps ?_ rfl s.arrivals_turn_quiet ho
  rw [hm]
  have hk : s.Keeps { s with engine } := .engine s (by rw [hl]; exact nofun)
  exact hk.trans (.loopExit _ hl)

/-- A turn that takes an event. -/
theorem does_turn_take (hc : s.calling = none) {e : Replay} (he : s.engine = .replay e)
    {loop : Replay.Loop} (hl : e.loop = some loop) (hg : loop.greeted = true)
    (hsd : e.shutdown = false) {event : FeedEvent} {queue : List FeedEvent}
    (hq : e.queue = event :: queue) : s.DoesMove .turn := by
  have hn : s.next? = some event := by simp [next?, hc, he, hl, hg, hsd, hq]
  have hstep := Replay.turn_take hl hg hsd hq
  have hloop : s.engine.loop?.isSome = true := by simp [he, Engine.loop?, hl]
  cases event with
  | close =>
    have hm : s.move .turn =
        ({ s with engine := .replay { e with queue, loop := none } } : Session).loopExit := by
      simp [move, step, hc, he, hstep, Replay.Turn.ofEvent]
    exact does_turn_exit hm rfl (by simp [offered, hn, FeedEvent.record?])
  | fault cause =>
    have hm : s.move .turn =
        follow (({ s with engine := .replay { e with queue } } : Session).consult cause) := by
      simp [move, step, hc, he, hstep, Replay.Turn.ofEvent]
    exact .of_consulted hm rfl hc s.arrivals_turn_quiet
      (by simp [offered, hn, FeedEvent.record?]) fun _ => hloop
  | record bytes =>
    cases hd : Record.decode bytes with
    | ok r =>
      have hm : s.move .turn =
          follow (({ s with engine := .replay { e with queue } } : Session).accept r) := by
        simp [move, step, hc, he, hstep, Replay.Turn.ofEvent, hd]
      have ho : s.offered .turn = some r := by
        simp [offered, hn, FeedEvent.record?, hd, Except.toOption]
      exact .of_offered hm rfl hc s.arrivals_turn_quiet ho (fun _ => hloop) (.inl hloop)
    | error cause =>
      have hm : s.move .turn = follow
          (({ s with engine := .replay { e with queue } } : Session).consult (.decode cause)) := by
        simp [move, step, hc, he, hstep, Replay.Turn.ofEvent, hd]
      exact .of_consulted hm rfl hc s.arrivals_turn_quiet
        (by simp [offered, hn, FeedEvent.record?, hd, Except.toOption]) fun _ => hloop

theorem does_turn (s : Session) : s.DoesMove .turn := by
  cases hc : s.calling with
  | some c => exact does_turn_idle (by simp [step, hc]) (by simp [next?, hc])
  | none =>
    cases he : s.engine with
    | manual e => exact does_turn_idle (by simp [step, hc, he]) (by simp [next?, hc, he])
    | replay e =>
      cases hl : e.loop with
      | none =>
        exact does_turn_idle (by simp [step, hc, he, Replay.turn_none hl])
          (by simp [next?, hc, he, hl])
      | some loop =>
        cases hg : loop.greeted with
        | false =>
          let engine : Engine := .replay { e with loop := some { loop with greeted := true } }
          have hm : s.move .turn = follow (s.greet loop.metadata, { s with engine }) := by
            simp [engine, move, step, hc, he, Replay.turn_greet hl hg]
            rfl
          exact .of_greeted hm rfl hc s.arrivals_turn_quiet
            (by simp [offered, next?, hc, he, hl, hg]) fun _ => by simp [he, Engine.loop?, hl]
        | true =>
          cases hsd : e.shutdown with
          | true =>
            have hm : s.move .turn =
                ({ s with engine := .replay { e with loop := none } } : Session).loopExit := by
              simp [move, step, hc, he, Replay.turn_shutdown hl hg hsd]
            exact does_turn_exit hm rfl (by simp [offered, next?, hc, he, hsd])
          | false =>
            cases hq : e.queue with
            | nil =>
              exact does_turn_idle (by simp [step, hc, he, Replay.turn_empty hl hg hsd hq])
                (by simp [next?, hc, he, hq])
            | cons event queue => exact does_turn_take hc he hl hg hsd hq

theorem does_hand (s : Session) (h : Handing) : s.DoesMove (.hand h) := by
  have ha : ∀ mark ∈ s.arrivals (.hand h), mark.isQuiet = true := pushed_quiet _
  cases hno : s.engine.isReplay || s.sinks.isNone || s.calling.isSome with
  | true =>
    have hh : s.hand h = (.noLoop, s) := by simp only [hand, hno, if_true]
    refine .of_same (by simp [move, hh]) rfl ha ?_
    cases h <;> simp [offered, hh]
  | false =>
    have hno' := hno
    simp only [Bool.or_eq_false_iff, Option.isNone_eq_false_iff] at hno'
    obtain ⟨⟨hreplay, hsinks⟩, hcalling⟩ := hno'
    have hc : s.calling = none := by simpa using hcalling
    cases h with
    | deliver bytes =>
      cases hd : Record.decode bytes with
      | ok r =>
        have hh : s.hand (.deliver bytes) = (.delivered, follow (s.accept r)) := by
          simp [hand, hno, hd]
        have ho : s.offered (.hand (.deliver bytes)) = some r := by
          simp [offered, hh, hd, Except.toOption]
        have hm : s.move (.hand (.deliver bytes)) =
            follow (({ s with engine := s.engine } : Session).accept r) := by simp only [move, hh]
        exact .of_offered hm rfl hc ha ho id (.inr hsinks)
      | error cause =>
        have hm : s.move (.hand (.deliver bytes)) = follow
            (({ s with engine := s.engine } : Session).consult (.decode cause)) := by
          simp [move, hand, hno, hd]
        exact .of_consulted hm rfl hc ha (by simp [offered, hd, Except.toOption]) id
    | fault cause =>
      have hm : s.move (.hand (.fault cause)) =
          follow (({ s with engine := s.engine } : Session).consult cause) := by
        simp [move, hand, hno]
      exact .of_consulted hm rfl hc ha rfl id
    | metadata md =>
      cases hk : s.has (·.metadata) with
      | true =>
        have hm : s.move (.hand (.metadata md)) =
            follow (s.greet md, { s with engine := s.engine }) := by
          simp [move, hand, hno, hk]
        exact .of_greeted hm rfl hc ha rfl id
      | false =>
        have hm : s.move (.hand (.metadata md)) = s := by simp [move, hand, hno, hk]
        exact .of_same hm rfl ha rfl
    | done =>
      have hm : s.move (.hand .done) = s.loopExit := by simp [move, hand, hno]
      refine .of_keeps ?_ rfl ha rfl
      rw [hm]
      refine .loopExit s ?_
      cases he : s.engine with
      | replay e => simp [he, Engine.isReplay] at hreplay
      | manual e => rfl

/-- Every move of every session does one of these things. -/
theorem does (s : Session) (m : Move) : s.DoesMove m := by
  cases m with
  | start k => exact s.does_start k
  | reply r => exact s.does_reply r
  | turn => exact s.does_turn
  | hand h => exact s.does_hand h
  | started => exact .of_keeps (.completeStart s) rfl (pushed_quiet _) rfl
  | stop => exact .of_keeps (.requestStop s) rfl (pushed_quiet _) rfl
  | subscribe sub => exact .of_keeps (.subscribe s sub) rfl (pushed_quiet _) rfl
  | reconnect => exact .of_keeps (.reconnect s) rfl (pushed_quiet _) rfl
  | resubscribe => exact .of_keeps (.resubscribe s) rfl (pushed_quiet _) rfl
  | release delivering => exact .of_keeps (.release s delivering) rfl (pushed_quiet _) rfl
  | push event => exact .of_keeps (.push s event) rfl (pushed_quiet _) rfl
  | pushStream buffer => exact .of_keeps (.pushStream s buffer) rfl (pushed_quiet _) rfl
  | inject method failure => exact .of_keeps (.modifyManual s _) rfl (pushed_quiet _) rfl

end Session

end MarketFeed
