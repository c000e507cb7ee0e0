import MarketFeed.Session.Operations

set_option autoImplicit false

/-!
# Operations that fail

Why an operation of a session fails, and what a failure leaves behind. A subscription, a reconnection
or a resubscription that fails leaves the session as it was (`subscribe_error`, `reconnect_error`,
`resubscribe_error`), up to what a manual engine notes of its calls (`Session.bare`); so does a start,
unless the engine refused it (`beginStart_error`). A stop or a release fails only if the engine panics,
and then the request to stop stays (`requestStop_error`, `release_error`). None of these failures is
about a handle (`Halt.Own`).
-/

namespace MarketFeed

/-- Whether the error is about the handle that was passed. -/
def SessionError.ofHandle : SessionError → Bool
  | invalidHandle _ => true
  | nullArgument name => name == "builder" || name == "session"
  | _ => false

/-- The failure is not about a handle. -/
def Halt.Own : Halt → Prop
  | failed cause => cause.ofHandle = false
  | panicked _ => True

theorem EngineFailure.halt_own (failure : EngineFailure) : failure.halt.Own := by
  cases failure with
  | error cause => exact rfl
  | panic message => trivial

/-! ## What a manual engine notes -/

/-- The engine without what a manual one notes of its calls. -/
def Engine.bare : Engine → Engine
  | replay e => replay e
  | manual e => manual { e with failures := [], calls := [] }

def Session.bare (s : Session) : Session := { s with engine := s.engine.bare }

namespace Engine

variable {engine engine' : Engine} {failure : EngineFailure}

theorem ofManual_error {e : Manual} {c : EngineCall}
    (h : ofManual e c = (.error failure, engine')) : engine'.bare = (manual e).bare := by
  unfold ofManual Manual.call at h
  cases hl : e.failures.lookup c.method with
  | none =>
    rw [hl] at h
    cases h
  | some failure =>
    rw [hl] at h
    cases h
    rfl

theorem ofReplay_error {e : Replay} {r : Except EngineError Replay}
    (h : ofReplay e r = (.error failure, engine')) : engine' = replay e := by
  cases r with
  | ok e' => cases h
  | error cause =>
    cases h
    rfl

theorem subscribe_error {s : Subscription} (h : engine.subscribe s = (.error failure, engine')) :
    engine'.bare = engine.bare := by
  cases engine with
  | replay e => cases h
  | manual e => exact ofManual_error h

theorem reconnect_error (h : engine.reconnect = (.error failure, engine')) :
    engine'.bare = engine.bare := by
  cases engine with
  | replay e => rw [ofReplay_error h]
  | manual e => exact ofManual_error h

theorem resubscribe_error (h : engine.resubscribe = (.error failure, engine')) :
    engine'.bare = engine.bare := by
  cases engine with
  | replay e => rw [ofReplay_error h]
  | manual e => exact ofManual_error h

theorem ignoreError_error {called : Called Unit}
    (h : ignoreError called = (.error failure, engine')) :
    (∃ message, failure = .panic message) ∧ called = (.error failure, engine') := by
  unfold ignoreError at h
  split at h
  · cases h
  · rename_i hne
    cases failure with
    | error cause => exact absurd h (hne cause engine')
    | panic message => exact ⟨⟨message, rfl⟩, h⟩

/-- An engine that cannot be stopped panics. It is a manual one, and is as before. -/
theorem stop_error (h : engine.stop = (.error failure, engine')) :
    (∃ message, failure = .panic message) ∧ engine'.bare = engine.bare ∧
      engine.isReplay = false := by
  cases engine with
  | replay e => cases h
  | manual e =>
    obtain ⟨hpanic, hcalled⟩ := ignoreError_error h
    exact ⟨hpanic, ofManual_error hcalled, rfl⟩

theorem blockForStop_error (h : engine.blockForStop = (.error failure, engine')) :
    (∃ message, failure = .panic message) ∧ engine'.bare = engine.bare ∧
      engine.isReplay = false := by
  cases engine with
  | replay e => cases h
  | manual e =>
    obtain ⟨hpanic, hcalled⟩ := ignoreError_error h
    exact ⟨hpanic, ofManual_error hcalled, rfl⟩

/-- A manual engine only notes that it was told to stop. -/
theorem stop_manual (h : engine.stop = (.ok (), engine')) (hm : engine'.isReplay = false) :
    engine'.bare = engine.bare := by
  cases engine with
  | replay e =>
    cases h
    cases hm
  | manual e =>
    simp only [stop, ofManual, Manual.call] at h
    cases hl : e.failures.lookup EngineMethod.stop with
    | none =>
      simp only [hl] at h
      cases h
      rfl
    | some failure =>
      simp only [hl] at h
      cases failure <;> cases h
      rfl

theorem stopEnds_of_bare (h : engine'.bare = engine.bare) : engine'.stopEnds = engine.stopEnds := by
  cases engine <;> cases engine' <;> simp_all [bare, stopEnds]

theorem isReplay_of_bare (h : engine'.bare = engine.bare) : engine'.isReplay = engine.isReplay := by
  cases engine <;> cases engine' <;> first | rfl | cases h

end Engine

/-! ## Operations -/

namespace Session

variable {s s' : Session} {halt : Halt}

theorem ofEngine_error {called : Engine.Called Unit}
    (h : s.ofEngine called = (.error halt, s')) :
    ∃ failure engine, called = (.error failure, engine) ∧ halt = failure.halt ∧
      s' = { s with engine } := by
  obtain ⟨r, engine⟩ := called
  cases r with
  | ok => cases h
  | error failure =>
    cases h
    exact ⟨failure, engine, rfl, rfl, rfl⟩

theorem ofEngine_ok {called : Engine.Called Unit} (h : s.ofEngine called = (.ok (), s')) :
    ∃ engine, called = (.ok (), engine) ∧ s' = { s with engine } := by
  obtain ⟨r, engine⟩ := called
  cases r with
  | ok =>
    cases h
    exact ⟨engine, rfl, rfl⟩
  | error failure => cases h

theorem bare_engine {engine : Engine} (h : engine.bare = s.engine.bare) :
    ({ s with engine } : Session).bare = s.bare := by
  simp only [bare, h]

theorem subscribe_error {sub : Subscription} (h : s.subscribe sub = (.error halt, s')) :
    halt.Own ∧ s'.bare = s.bare := by
  unfold subscribe Lifecycle.ensureUsable at h
  split at h
  · rename_i hu
    split at hu
    · cases hu
      cases h
      exact ⟨rfl, rfl⟩
    · cases hu
  · split at h
    · cases h
    · obtain ⟨failure, engine, hc, rfl, rfl⟩ := ofEngine_error h
      exact ⟨failure.halt_own, bare_engine (Engine.subscribe_error hc)⟩

theorem ensureReady_error {operation : String} {cause : SessionError}
    (h : s.ensureReady operation = .error cause) : cause.ofHandle = false := by
  unfold ensureReady Lifecycle.ensureIdle at h
  cases hs : s.lifecycle.state with
  | idle =>
    simp only [hs] at h
    split at h <;> cases h
    rfl
  | faulted | starting | running | stopRequested =>
    simp only [hs] at h
    cases h
    rfl

theorem reconnect_error (h : s.reconnect = (.error halt, s')) :
    halt.Own ∧ s'.bare = s.bare := by
  unfold reconnect at h
  split at h
  · rename_i hr
    cases h
    exact ⟨ensureReady_error hr, rfl⟩
  · obtain ⟨failure, engine, hc, rfl, rfl⟩ := ofEngine_error h
    exact ⟨failure.halt_own, bare_engine (Engine.reconnect_error hc)⟩

theorem resubscribe_error (h : s.resubscribe = (.error halt, s')) :
    halt.Own ∧ s'.bare = s.bare := by
  unfold resubscribe at h
  split at h
  · rename_i hr
    cases h
    exact ⟨ensureReady_error hr, rfl⟩
  · obtain ⟨failure, engine, hc, rfl, rfl⟩ := ofEngine_error h
    exact ⟨failure.halt_own, bare_engine (Engine.resubscribe_error hc)⟩

theorem claim_error {k : Sinks} (h : s.claim k = (.error halt, s')) : halt.Own ∧ s' = s := by
  unfold claim at h
  split at h
  · cases h
    exact ⟨rfl, rfl⟩
  · split at h
    · rename_i hl
      unfold Lifecycle.beginStart at hl
      cases h
      split at hl <;> cases hl <;> exact ⟨rfl, rfl⟩
    · cases h

theorem launch_error {k : Sinks} (h : s.launch k = (.error halt, s')) :
    ∃ failure : EngineFailure, halt = failure.halt := by
  unfold launch at h
  split at h
  · cases h
  · rename_i hc
    obtain ⟨failure, -, -, hf, -⟩ := ofEngine_error hc
    cases h
    exact ⟨failure, hf⟩

/-- A start that fails changes nothing, unless it was the engine that failed. -/
theorem beginStart_error {k : Sinks} (h : s.beginStart k = (.error halt, s')) :
    halt.Own ∧ (s' = s ∨ ∃ failure : EngineFailure, halt = failure.halt) := by
  unfold beginStart at h
  split at h
  · obtain ⟨failure, rfl⟩ := launch_error h
    exact ⟨failure.halt_own, .inr ⟨failure, rfl⟩⟩
  · obtain ⟨hown, rfl⟩ := claim_error h
    exact ⟨hown, .inl rfl⟩

theorem stopEngine_error (h : s.stopEngine = (.error halt, s')) :
    (∃ message, halt = .panicked message) ∧ s'.bare = s.bare ∧ s.engine.isReplay = false := by
  unfold stopEngine at h
  split at h
  · cases h
  · obtain ⟨failure, engine, hc, rfl, rfl⟩ := ofEngine_error h
    obtain ⟨⟨message, rfl⟩, hbare, hmanual⟩ := Engine.stop_error hc
    exact ⟨⟨_, rfl⟩, bare_engine hbare, hmanual⟩

theorem passStop_error (h : s.passStop = (.error halt, s')) :
    (∃ message, halt = .panicked message) ∧ s'.bare = s.bare := by
  unfold passStop at h
  split at h
  · obtain ⟨hpanic, hbare, -⟩ := stopEngine_error h
    exact ⟨hpanic, hbare⟩
  · cases h

theorem completeStart_error (h : s.completeStart = (.error halt, s')) :
    ∃ message, halt = .panicked message := (passStop_error h).1

/-- After a stop that fails the session is still asked to stop. -/
theorem requestStop_error (h : s.requestStop = (.error halt, s')) :
    (∃ message, halt = .panicked message) ∧
      s'.bare = s.askStop.bare := passStop_error h

theorem endsByStop_of_bare (h : s'.bare = s.bare) : s'.endsByStop = s.endsByStop := by
  have he : s'.engine.bare = s.engine.bare := congrArg (·.engine) h
  have hk : s'.sinks = s.sinks := congrArg (·.sinks) h
  have hc : s'.calling = s.calling := congrArg (·.calling) h
  simp only [endsByStop, Engine.stopEnds_of_bare he, hk, hc]

theorem bare_loopExit (h : s'.bare = s.bare) : s'.loopExit.bare = s.loopExit.bare :=
  congrArg Session.loopExit h

/-- A stop of a manual engine may end its loop, and does no more. -/
theorem stopEngine_manual (h : s.stopEngine = (.ok (), s')) (hm : s'.engine.isReplay = false) :
    s'.bare = s.bare ∨ s.endsByStop = true ∧ s'.bare = s.loopExit.bare := by
  unfold stopEngine at h
  split at h
  · rename_i s₁ hs₁
    obtain ⟨engine, hstop, rfl⟩ := ofEngine_ok hs₁
    cases h
    split at hm
    · rename_i hends
      have hbare : ({ s with engine } : Session).bare = s.bare :=
        bare_engine (Engine.stop_manual hstop hm)
      rw [if_pos hends]
      exact .inr ⟨(endsByStop_of_bare hbare).symm.trans hends, bare_loopExit hbare⟩
    · rename_i hends
      rw [if_neg hends]
      exact .inl (bare_engine (Engine.stop_manual hstop hm))
  · rename_i hne
    exact absurd h (hne s')

/-- After a release that fails the session is given up. The engine, a manual one, panicked when it
was told to stop; or when it was waited for, and may then have ended its loop before. -/
theorem release_error {delivering : Bool} (h : s.release delivering = (.error halt, s')) :
    (∃ message, halt = .panicked message) ∧ s'.engine.isReplay = false ∧
      (s'.bare = s.giveUp.bare ∨ s.endsByStop = true ∧ s'.bare = s.giveUp.loopExit.bare) := by
  unfold release at h
  split at h
  · rename_i s₁ hstop
    split at h
    · cases h
    · obtain ⟨failure, engine, hc, rfl, rfl⟩ := ofEngine_error h
      obtain ⟨⟨message, rfl⟩, hbare, hmanual⟩ := Engine.blockForStop_error hc
      refine ⟨⟨_, rfl⟩, (Engine.isReplay_of_bare hbare).trans hmanual, ?_⟩
      rw [bare_engine hbare]
      exact stopEngine_manual hstop hmanual
  · obtain ⟨hpanic, hbare, hmanual⟩ := stopEngine_error h
    exact ⟨hpanic, (Engine.isReplay_of_bare (congrArg Session.engine hbare)).trans hmanual,
      .inl hbare⟩

end Session

end MarketFeed
