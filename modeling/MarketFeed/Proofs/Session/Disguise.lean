import MarketFeed.Proofs.Session.Run

set_option autoImplicit false

/-!
# What a session does not look at

Of its configuration a session reads nothing, and its engine the little that is in the metadata. Of
its statistics a session only makes others. A `Disguise` changes the rest of them. No function of a
session sees through it (`Session.Oblivious`), so a session in disguise makes the same moves with
the same marks, and comes to the same session in disguise (`move_disguise`, `trace_disguise`).
-/

namespace MarketFeed

/-- A change of a configuration where no metadata are read, and of statistics so that it does not
matter whether it is made before or after something is counted. -/
structure Disguise where
  config : Config → Config
  upgradePolicy : ∀ c, (config c).upgradePolicy = c.upgradePolicy
  dataset : ∀ c, (config c).dataset = c.dataset
  sendTsOut : ∀ c, (config c).sendTsOut = c.sendTsOut
  stats : Stats → Stats
  start : ∀ s, (stats s).start = stats s.start
  delivered : ∀ s size, (stats s).delivered size = stats (s.delivered size)
  event : ∀ s, (stats s).event = stats s.event
  heartbeat : ∀ s, (stats s).heartbeat = stats s.heartbeat
  dispatchError : ∀ s, (stats s).dispatchError = stats s.dispatchError
  callbackFault : ∀ s, (stats s).callbackFault = stats s.callbackFault
  restart : ∀ s, (stats s).restart = stats s.restart

/-! ## Engines -/

def Replay.disguise (e : Replay) (d : Disguise) : Replay := { e with config := d.config e.config }

def Engine.disguise (d : Disguise) : Engine → Engine
  | .replay e => .replay (e.disguise d)
  | .manual e => .manual e

namespace Replay

variable (e : Replay) (d : Disguise)

theorem metadata_disguise : (e.disguise d).metadata = e.metadata := by
  simp only [metadata, now, disguise, d.upgradePolicy, d.dataset, d.sendTsOut]

theorem start_disguise : (e.disguise d).start = e.start.map (·.disguise d) := by
  simp only [start, metadata_disguise]
  have hr : (e.disguise d).isRunning = e.isRunning := rfl
  rw [hr]
  split <;> rfl

theorem reconnect_disguise : (e.disguise d).reconnect = e.reconnect.map (·.disguise d) := by
  have hr : (e.disguise d).isRunning = e.isRunning := rfl
  simp only [reconnect, hr]
  split <;> rfl

theorem resubscribe_disguise : (e.disguise d).resubscribe = e.resubscribe := rfl

theorem turn_disguise : (e.disguise d).turn = (e.turn.1, e.turn.2.disguise d) := by
  have hl : (e.disguise d).look = e.look := rfl
  have ht : (e.disguise d).take = e.take.map fun (event, e) => (event, e.disguise d) := by
    have hq : (e.disguise d).queue = e.queue := rfl
    unfold take
    rw [hq]
    cases e.queue <;> rfl
  unfold turn
  rw [hl, ht]
  cases e.look with
  | none => rfl
  | some look =>
    cases look with
    | greet | shutdown => rfl
    | receive =>
      cases e.take with
      | none => rfl
      | some taken =>
        simp only [Option.map_some]
        split <;> rfl

theorem conclude_disguise (o : Outcome) :
    (e.disguise d).conclude o = (e.conclude o).disguise d := by
  rcases o with _ | (_ | _) | (_ | _) <;> rfl

end Replay

namespace Engine

variable (d : Disguise)

/-- What a call answers, and the engine after it in disguise. -/
def Called.disguise {α : Type} (called : Called α) : Called α := (called.1, called.2.disguise d)

theorem ofReplay_disguise (e : Replay) (result : Except EngineError Replay) :
    ofReplay (e.disguise d) (result.map (·.disguise d)) = (ofReplay e result).disguise d := by
  cases result <;> rfl

theorem ofManual_disguise (e : Manual) (c : EngineCall) :
    (ofManual e c).disguise d = ofManual e c := by
  unfold ofManual
  split <;> rfl

theorem ignoreError_disguise (called : Called Unit) :
    ignoreError (called.disguise d) = (ignoreError called).disguise d := by
  rcases called with ⟨(_ | _) | _, engine⟩ <;> rfl

variable (engine : Engine)

theorem subscribe_disguise (s : Subscription) :
    (engine.disguise d).subscribe s = (engine.subscribe s).disguise d := by
  cases engine with
  | replay e => rfl
  | manual e => exact (ofManual_disguise d e _).symm

theorem start_disguise : (engine.disguise d).start = engine.start.disguise d := by
  cases engine with
  | replay e =>
    have h := ofReplay_disguise d e e.start
    rwa [← e.start_disguise d] at h
  | manual e => exact (ofManual_disguise d e _).symm

theorem reconnect_disguise : (engine.disguise d).reconnect = engine.reconnect.disguise d := by
  cases engine with
  | replay e =>
    have h := ofReplay_disguise d e e.reconnect
    rwa [← e.reconnect_disguise d] at h
  | manual e => exact (ofManual_disguise d e _).symm

theorem resubscribe_disguise :
    (engine.disguise d).resubscribe = engine.resubscribe.disguise d := by
  cases engine with
  | replay e =>
    simp only [disguise, resubscribe, e.resubscribe_disguise d]
    cases e.resubscribe <;> rfl
  | manual e => exact (ofManual_disguise d e _).symm

theorem stop_disguise : (engine.disguise d).stop = engine.stop.disguise d := by
  cases engine with
  | replay e => rfl
  | manual e =>
    have h := ignoreError_disguise d (ofManual e { method := .stop })
    rwa [ofManual_disguise] at h

theorem blockForStop_disguise :
    (engine.disguise d).blockForStop = engine.blockForStop.disguise d := by
  cases engine with
  | replay e => rfl
  | manual e =>
    have h := ignoreError_disguise d (ofManual e { method := .blockForStop })
    rwa [ofManual_disguise] at h

@[simp] theorem stopEnds_disguise : (engine.disguise d).stopEnds = engine.stopEnds := by
  cases engine <;> rfl

@[simp] theorem isReplay_disguise : (engine.disguise d).isReplay = engine.isReplay := by
  cases engine <;> rfl

end Engine

/-! ## Sessions -/

namespace Session

variable {β : Type} (s : Session) (d : Disguise)

def disguise : Session :=
  { s with config := d.config s.config, stats := d.stats s.stats, engine := s.engine.disguise d }

@[simp] theorem disguise_engine : (s.disguise d).engine = s.engine.disguise d := rfl

@[simp] theorem disguise_stats : (s.disguise d).stats = d.stats s.stats := rfl

@[simp] theorem disguise_lifecycle : (s.disguise d).lifecycle = s.lifecycle := rfl

@[simp] theorem disguise_symbols : (s.disguise d).symbols = s.symbols := rfl

@[simp] theorem disguise_sinks : (s.disguise d).sinks = s.sinks := rfl

@[simp] theorem disguise_calling : (s.disguise d).calling = s.calling := rfl

@[simp] theorem disguise_has (sink : Sinks → Bool) : (s.disguise d).has sink = s.has sink := rfl

theorem ofEngine_disguise (called : Engine.Called Unit) :
    (s.disguise d).ofEngine (called.disguise d) =
      ((s.ofEngine called).1, (s.ofEngine called).2.disguise d) := by
  obtain ⟨result, engine⟩ := called
  cases result <;> rfl

/-- An operation that does not see through a disguise: it answers the same, and does the same. -/
def Oblivious (op : Session → β × Session) : Prop :=
  ∀ s d, op (s.disguise d) = ((op s).1, (op s).2.disguise d)

theorem modifyManual_disguise (f : Manual → Manual) :
    (s.disguise d).modifyManual f = (s.modifyManual f).disguise d := by
  simp only [modifyManual, disguise_engine]
  cases s.engine <;> rfl

@[simp] theorem feedOpen_disguise : (s.disguise d).feedOpen = s.feedOpen := by
  simp only [feedOpen, disguise_engine]
  cases s.engine <;> rfl

/-! ## Deliveries -/

theorem conclude_disguise (o : Outcome) :
    (s.disguise d).conclude o = (s.conclude o).disguise d := by
  simp only [conclude, disguise_engine]
  cases s.engine with
  | manual e => rfl
  | replay e =>
    simp only [Engine.disguise, Replay.conclude_disguise]
    have hr : ((e.conclude o).disguise d).isRunning = (e.conclude o).isRunning := rfl
    rw [hr]
    split <;> rfl

theorem follow_disguise (p : Progress) :
    follow (p, s.disguise d) = (follow (p, s)).disguise d := by
  cases p with
  | call c => rfl
  | done o => exact s.conclude_disguise d o

theorem accept_disguise (r : Record) :
    (s.disguise d).accept r = ((s.accept r).1, (s.accept r).2.disguise d) := by
  unfold accept
  -- `simp only` would leave the disguise in the instance that decides the condition
  rw [disguise_lifecycle]
  cases s.lifecycle.stopRequested with
  | true => rfl
  | false =>
    simp only [Bool.false_eq_true, if_false, disguise_symbols, disguise_stats, d.delivered]
    cases (Router.route s.symbols r).1 with
    | suppressed =>
      simp only [d.heartbeat]
      rfl
    | failed =>
      simp only [d.dispatchError]
      rfl
    | event ev =>
      simp only [d.event]
      cases hk : s.sinks.any (·.event) with
      | true =>
        have hk' : (s.disguise d).sinks.any (·.event) = true := hk
        simp only [has, hk, hk', if_true]
        rfl
      | false =>
        have hk' : (s.disguise d).sinks.any (·.event) = false := hk
        simp only [has, hk, hk', Bool.false_eq_true, if_false]
        rfl

theorem decide_disguise (r : Recovery) :
    (s.disguise d).decide r = ((s.decide r).1, (s.decide r).2.disguise d) := by
  cases r with
  | stop => rfl
  | restart =>
    simp only [decide, disguise_stats, d.restart]
    rfl

theorem consult_disguise (cause : EngineError) :
    (s.disguise d).consult cause = ((s.consult cause).1, (s.consult cause).2.disguise d) := by
  unfold consult
  rw [disguise_lifecycle, disguise_has]
  cases s.lifecycle.stopRequested with
  | true => rfl
  | false => cases s.has (·.exception) <;> rfl

theorem noteReply_disguise (r : Reply) :
    (s.disguise d).noteReply r = (s.noteReply r).disguise d := by
  cases r with
  | code => rfl
  | panic =>
    simp only [noteReply, disguise_stats, d.callbackFault]
    rfl

theorem resume_disguise (c : Call) (r : Reply) :
    (s.disguise d).resume c r = ((s.resume c r).1, (s.resume c r).2.disguise d) := by
  unfold resume
  rw [noteReply_disguise]
  cases c with
  | metadata | event | record => rfl
  | exception => exact decide_disguise _ d _

theorem reply_disguise (r : Reply) : (s.disguise d).reply r = (s.reply r).disguise d := by
  simp only [reply, disguise_calling]
  cases s.calling with
  | none => rfl
  | some c =>
    simp only
    rw [resume_disguise]
    exact follow_disguise _ d _

theorem step_disguise : (s.disguise d).step = s.step.map (·.disguise d) := by
  simp only [step, disguise_calling, disguise_engine]
  cases s.calling with
  | some c => rfl
  | none =>
    cases s.engine with
    | manual e => rfl
    | replay e =>
      simp only [Engine.disguise, Replay.turn_disguise]
      obtain ⟨turn, e'⟩ := e.turn
      let s' : Session := { s with engine := .replay e', calling := none }
      cases turn with
      | idle | exit => rfl
      | greet m => exact congrArg some (s'.follow_disguise d (s'.greet m))
      | record r =>
        have h : follow ((s'.disguise d).accept r) = (follow (s'.accept r)).disguise d := by
          rw [accept_disguise, follow_disguise]
        exact congrArg some h
      | fault cause =>
        have h : follow ((s'.disguise d).consult cause) =
            (follow (s'.consult cause)).disguise d := by
          rw [consult_disguise, follow_disguise]
        exact congrArg some h

namespace Oblivious

/-- Whoever holds a manual engine makes it ready. -/
theorem prepare (b : β) (f : Manual → Manual) : Oblivious fun s => (b, s.modifyManual f) :=
  fun s d => congrArg (Prod.mk b) (s.modifyManual_disguise d f)

theorem subscribe (sub : Subscription) : Oblivious (·.subscribe sub) := by
  intro s d
  simp only [Session.subscribe, disguise_lifecycle, disguise_engine, Engine.subscribe_disguise,
    ofEngine_disguise]
  cases s.lifecycle.ensureUsable with
  | error cause => rfl
  | ok u =>
    obtain ⟨result, s'⟩ := s.ofEngine (s.engine.subscribe sub)
    cases result <;> rfl

theorem claim (k : Sinks) : Oblivious (·.claim k) := by
  intro s d
  simp only [Session.claim, disguise_lifecycle, disguise_stats, d.start]
  split
  · rfl
  · cases s.lifecycle.beginStart <;> rfl

theorem launch (k : Sinks) : Oblivious (·.launch k) := by
  intro s d
  simp only [Session.launch, disguise_engine, Engine.start_disguise, ofEngine_disguise]
  obtain ⟨result, s'⟩ := s.ofEngine s.engine.start
  cases result <;> rfl

theorem beginStart (k : Sinks) : Oblivious (·.beginStart k) := by
  intro s d
  have hc : (s.disguise d).claim k = _ := claim k s d
  simp only [Session.beginStart, hc]
  obtain ⟨result, s'⟩ := s.claim k
  cases result with
  | ok => exact launch k s' d
  | error halt => rfl

theorem stopEngine : Oblivious Session.stopEngine := by
  intro s d
  simp only [Session.stopEngine, disguise_engine, Engine.stop_disguise, ofEngine_disguise]
  obtain ⟨result, s'⟩ := s.ofEngine s.engine.stop
  cases result with
  | error halt => rfl
  | ok u =>
    have he : (s'.disguise d).endsByStop = s'.endsByStop := by
      simp only [endsByStop, disguise_engine, Engine.stopEnds_disguise, disguise_sinks,
        disguise_calling]
    simp only [he]
    split <;> rfl

theorem passStop : Oblivious Session.passStop := by
  intro s d
  unfold Session.passStop
  rw [disguise_lifecycle]
  split
  · exact stopEngine s d
  · rfl

theorem completeStart : Oblivious Session.completeStart := fun s d => passStop s.succeed d

theorem requestStop : Oblivious Session.requestStop := fun s d => passStop s.askStop d

theorem reconnect : Oblivious Session.reconnect := by
  intro s d
  have hr : (s.disguise d).ensureReady "reconnect" = s.ensureReady "reconnect" := rfl
  simp only [Session.reconnect, hr, disguise_engine, Engine.reconnect_disguise, ofEngine_disguise]
  cases s.ensureReady "reconnect" <;> rfl

theorem resubscribe : Oblivious Session.resubscribe := by
  intro s d
  have hr : (s.disguise d).ensureReady "resubscribe" = s.ensureReady "resubscribe" := rfl
  simp only [Session.resubscribe, hr, disguise_engine, Engine.resubscribe_disguise,
    ofEngine_disguise]
  cases s.ensureReady "resubscribe" <;> rfl

theorem release (delivering : Bool) : Oblivious (·.release delivering) := by
  intro s d
  have hs : (s.disguise d).giveUp = s.giveUp.disguise d := rfl
  simp only [Session.release, hs]
  rw [stopEngine s.giveUp d]
  obtain ⟨result, s'⟩ := s.giveUp.stopEngine
  cases result with
  | error halt => rfl
  | ok u =>
    cases delivering with
    | true => rfl
    | false =>
      simp only [disguise_engine, Engine.blockForStop_disguise]
      exact s'.ofEngine_disguise d _

theorem push (event : FeedEvent) : Oblivious (·.push event) := by
  intro s d
  simp only [Session.push, disguise_engine, feedOpen_disguise]
  cases s.engine with
  | manual e => rfl
  | replay e => cases s.feedOpen <;> rfl

theorem pushStream (buffer : Bytes) : Oblivious (·.pushStream buffer) := by
  intro s d
  simp only [Session.pushStream, disguise_engine, feedOpen_disguise]
  cases s.engine with
  | manual e => rfl
  | replay e => cases s.feedOpen <;> rfl

theorem hand (h : Handing) : Oblivious (·.hand h) := by
  intro s d
  simp only [Session.hand, disguise_engine, Engine.isReplay_disguise, disguise_sinks,
    disguise_calling]
  split
  · rfl
  · cases h with
    | deliver bytes =>
      simp only
      cases Record.decode bytes with
      | ok r => simp only [accept_disguise, follow_disguise]
      | error cause => simp only [consult_disguise, follow_disguise]
    | fault cause => simp only [consult_disguise, follow_disguise]
    | metadata m =>
      have hg : (s.disguise d).greet m = s.greet m := rfl
      simp only [disguise_has, hg]
      split
      · rw [follow_disguise]
      · rfl
    | done => rfl

end Oblivious

/-- An operation that does what some move does, or what the holder of a manual engine does to it,
and does not see through a disguise. -/
structure Ordinary (op : Session → β × Session) : Prop where
  oblivious : Oblivious op
  does : (∃ m : Move, m.isReply = false ∧ ∀ s, (op s).2 = s.move m) ∨
    ∃ f, ∀ s, (op s).2 = s.modifyManual f

namespace Ordinary

theorem of_move {op : Session → β × Session} (ho : Oblivious op) (m : Move)
    (hm : m.isReply = false) (h : ∀ s, (op s).2 = s.move m) : Ordinary op :=
  ⟨ho, .inl ⟨m, hm, h⟩⟩

theorem of_manual {op : Session → β × Session} (ho : Oblivious op) (f : Manual → Manual)
    (h : ∀ s, (op s).2 = s.modifyManual f) : Ordinary op :=
  ⟨ho, .inr ⟨f, h⟩⟩

theorem prepare (b : β) (f : Manual → Manual) : Ordinary fun s => (b, s.modifyManual f) :=
  .of_manual (.prepare b f) f fun _ => rfl

theorem beginStart (k : Sinks) : Ordinary (·.beginStart k) :=
  .of_move (.beginStart k) (.start k) rfl fun _ => rfl

theorem completeStart : Ordinary Session.completeStart :=
  .of_move .completeStart .started rfl fun _ => rfl

theorem requestStop : Ordinary Session.requestStop := .of_move .requestStop .stop rfl fun _ => rfl

theorem subscribe (sub : Subscription) : Ordinary (·.subscribe sub) :=
  .of_move (.subscribe sub) (.subscribe sub) rfl fun _ => rfl

theorem reconnect : Ordinary Session.reconnect := .of_move .reconnect .reconnect rfl fun _ => rfl

theorem resubscribe : Ordinary Session.resubscribe :=
  .of_move .resubscribe .resubscribe rfl fun _ => rfl

theorem release (delivering : Bool) : Ordinary (·.release delivering) :=
  .of_move (.release delivering) (.release delivering) rfl fun _ => rfl

theorem push (event : FeedEvent) : Ordinary (·.push event) :=
  .of_move (.push event) (.push event) rfl fun _ => rfl

theorem pushStream (buffer : Bytes) : Ordinary (·.pushStream buffer) :=
  .of_move (.pushStream buffer) (.pushStream buffer) rfl fun _ => rfl

theorem hand (h : Handing) : Ordinary (·.hand h) :=
  .of_move (.hand h) (.hand h) rfl fun _ => rfl

end Ordinary

/-! ## Runs -/

/-- A session in disguise moves as it would without. -/
theorem move_disguise (m : Move) : (s.disguise d).move m = (s.move m).disguise d := by
  have hop {β : Type} {op : Session → β × Session} (h : Oblivious op) :
      (op (s.disguise d)).2 = (op s).2.disguise d := by rw [h]
  cases m with
  | start k => exact hop (.beginStart k)
  | started => exact hop .completeStart
  | stop => exact hop .requestStop
  | subscribe sub => exact hop (.subscribe sub)
  | reconnect => exact hop .reconnect
  | resubscribe => exact hop .resubscribe
  | release delivering => exact hop (.release delivering)
  | push event => exact hop (.push event)
  | pushStream buffer => exact hop (.pushStream buffer)
  | turn =>
    simp only [move]
    rw [step_disguise]
    cases s.step <;> rfl
  | reply r => exact s.reply_disguise d r
  | hand h => exact hop (.hand h)
  | inject method failure => exact s.modifyManual_disguise d _

theorem after_disguise (ms : List Move) : (s.disguise d).after ms = (s.after ms).disguise d := by
  induction ms generalizing s with
  | nil => rfl
  | cons m ms ih => rw [after_cons, after_cons, move_disguise, ih]

theorem next?_disguise : (s.disguise d).next? = s.next? := by
  simp only [next?, disguise_calling, disguise_engine]
  cases s.calling with
  | some c => rfl
  | none => cases s.engine <;> rfl

theorem loop?_disguise : (s.disguise d).loop? = s.loop? := by
  simp only [loop?, disguise_engine]
  cases s.engine <;> rfl

theorem arrivals_disguise (m : Move) : (s.disguise d).arrivals m = s.arrivals m := by
  cases m with
  | start k =>
    simp only [arrivals, Oblivious.beginStart k s d, move_disguise, loop?_disguise]
  | turn => simp only [arrivals, next?_disguise, disguise_symbols]
  | push | pushStream => simp only [arrivals, fed, feedOpen_disguise]
  | started | stop | subscribe | reconnect | resubscribe | release | reply | hand | inject => rfl

theorem offered_disguise (m : Move) : (s.disguise d).offered m = s.offered m := by
  cases m with
  | turn => simp only [offered, next?_disguise]
  | hand h =>
    cases h with
    | deliver bytes => simp only [offered, Oblivious.hand (.deliver bytes) s d]
    | fault | metadata | done => rfl
  | start | started | stop | subscribe | reconnect | resubscribe | release | push | pushStream
  | reply | inject => rfl

/-- Nothing is seen of a disguise in what is marked of a move. -/
theorem marks_disguise (m : Move) : (s.disguise d).marks m = s.marks m := by
  have hnew : (s.disguise d).newCall m = s.newCall m := by
    simp only [newCall, move_disguise, disguise_calling]
  simp only [marks, deliveries, arrivals_disguise, offered_disguise, hnew, move_disguise,
    disguise_lifecycle, disguise_symbols, disguise_sinks]

theorem trace_disguise (ms : List Move) : (s.disguise d).trace ms = s.trace ms := by
  induction ms generalizing s with
  | nil => rfl
  | cons m ms ih => rw [trace_cons, trace_cons, marks_disguise, move_disguise, ih]

end Session

end MarketFeed
