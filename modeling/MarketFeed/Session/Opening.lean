import MarketFeed.Engine.Connector
import MarketFeed.Session.Basic

set_option autoImplicit false

/-!
# Opening a session

The configuration is checked, then a connector opens the engine.
-/

namespace MarketFeed

/-- Opens a session over the engine that a connector opens. -/
def Session.connect {κ : Type} (k : κ) (config : Config)
    (connect : κ → Config → Except EngineError Engine × κ) : Except SessionError Session × κ :=
  match config.validate with
  | .error e => (.error e, k)
  | .ok () =>
    match connect k config with
    | (.error cause, k) => (.error (.engine cause), k)
    | (.ok engine, k) => (.ok (.new config engine), k)

theorem Session.connect_ok {κ : Type} {k k' : κ} {config : Config}
    {connect : κ → Config → Except EngineError Engine × κ} {s : Session}
    (h : Session.connect k config connect = (.ok s, k')) :
    ∃ engine, connect k config = (.ok engine, k') ∧ s = .new config engine := by
  unfold Session.connect at h
  cases hv : config.validate with
  | error e => simp [hv] at h
  | ok =>
    rcases hc : connect k config with ⟨_ | engine, k''⟩
    · simp [hv, hc] at h
    · simp only [hv, hc, Prod.mk.injEq, Except.ok.injEq] at h
      exact ⟨engine, by rw [h.2], h.1.symm⟩

/-- If no session is opened the connector is left as it leaves itself. -/
theorem Session.connect_error {κ : Type} {k k' : κ} {config : Config}
    {connect : κ → Config → Except EngineError Engine × κ} {e : SessionError}
    (hk : ∀ cause k', connect k config = (.error cause, k') → k' = k)
    (h : Session.connect k config connect = (.error e, k')) : k' = k := by
  unfold Session.connect at h
  cases hv : config.validate with
  | error e =>
    rw [hv] at h
    exact (congrArg Prod.snd h).symm
  | ok =>
    rcases hc : connect k config with ⟨cause | engine, k''⟩
    · simp only [hv, hc, Prod.mk.injEq] at h
      exact h.2 ▸ hk cause k'' hc
    · simp [hv, hc] at h

/-- A manual engine, which there is for every configuration. -/
def Manual.open {κ : Type} (stopEnds : Bool) (k : κ) (_ : Config) : Except EngineError Engine × κ :=
  (.ok (.manual { stopEnds }), k)

/-- A connector opens a replay engine, over a clock that is going to read so. -/
def Connector.openReplay (clock : List UInt64) (k : Connector) (config : Config) :
    Except EngineError Engine × Connector :=
  let (r, k) := k.connect config
  (r.map fun () => .replay (.new config clock), k)

def Connector.open (k : Connector) (config : Config) (clock : List UInt64 := []) :
    Except SessionError Session × Connector :=
  Session.connect k config (openReplay clock)

theorem Connector.open_ok {k : Connector} {config : Config} {clock : List UInt64} {s : Session}
    (h : (k.open config clock).1 = .ok s) : s = .new config (.replay (.new config clock)) := by
  obtain ⟨engine, hk, rfl⟩ := Session.connect_ok (Prod.ext (x := k.open config clock) h rfl)
  have hr : (k.connect config).1.map (fun () => Engine.replay (.new config clock)) = .ok engine :=
    congrArg Prod.fst hk
  cases hc : (k.connect config).1 with
  | error cause => simp [hc, Except.map] at hr
  | ok =>
    rw [hc] at hr
    cases hr
    rfl

/-- A connector that opens no session is as it was. -/
theorem Connector.open_error {k k' : Connector} {config : Config} {clock : List UInt64}
    {e : SessionError} (h : k.open config clock = (.error e, k')) : k' = k := by
  refine Session.connect_error (fun cause k' hc => ?_) h
  unfold openReplay Connector.connect at hc
  cases hr : k.refusal config with
  | some _ =>
    rw [hr] at hc
    exact (congrArg Prod.snd hc).symm
  | none =>
    rw [hr] at hc
    cases hc

end MarketFeed
