import MarketFeed.Session.Operations

set_option autoImplicit false

/-!
# The invariant of a replay session

`Attuned l loop shutdown` ties the lifecycle to the engine: a stop that was requested is known to
both, and the lifecycle is active exactly while there is a loop, except that while a start is not
complete both facts wait in the two flags. `Sound` adds that the callbacks are there exactly as long
as the loop. What each transition of the lifecycle makes of `Attuned` is one lemma.
-/

namespace MarketFeed

/-- The lifecycle knows whether there is a loop and whether it was asked to shut down. While a start
is not complete this is in the two waiting flags, which are clear otherwise. -/
inductive Attuned (l : Lifecycle) (loop shutdown : Bool) : Prop
  | idle : l.state = .idle → l.exited = false → l.stopAsked = false → loop = false →
      Attuned l loop shutdown
  | starting : l.state = .starting → l.exited = !loop →
      (loop = true → shutdown = true → l.stopAsked = true) → Attuned l loop shutdown
  | running : l.state = .running → l.exited = false → l.stopAsked = false → loop = true →
      shutdown = false → Attuned l loop shutdown
  | stopRequested : l.state = .stopRequested → l.exited = false → l.stopAsked = false →
      loop = true → shutdown = true → Attuned l loop shutdown
  | faulted : l.state = .faulted → loop = false → Attuned l loop shutdown

namespace Attuned

variable {l : Lifecycle} {loop shutdown : Bool}

theorem beginStart (h : Attuned l loop shutdown) (hs : l.state = .idle) :
    Attuned { l with state := .starting } true false := by
  cases h with
  | idle _ he _ _ => exact .starting rfl he fun _ h => by cases h
  | starting h => rw [hs] at h; cases h
  | running h => rw [hs] at h; cases h
  | stopRequested h => rw [hs] at h; cases h
  | faulted h => rw [hs] at h; cases h

theorem finishStart (h : Attuned l loop shutdown) :
    Attuned (l.finishStart true) loop (shutdown || (l.finishStart true).stopRequested) := by
  cases h with
  | idle hs he hq hl => exact .idle (by simp [Lifecycle.finishStart, hs]) rfl rfl hl
  | starting hs he hq =>
    cases loop with
    | false => exact .idle (by simp [Lifecycle.finishStart, hs, he]) rfl rfl rfl
    | true =>
      cases ha : l.stopAsked with
      | true =>
        have : (l.finishStart true).state = .stopRequested := by
          simp [Lifecycle.finishStart, hs, he, ha]
        exact .stopRequested this rfl rfl rfl (by simp [Lifecycle.stopRequested, this])
      | false =>
        have hw : (l.finishStart true).state = .running := by
          simp [Lifecycle.finishStart, hs, he, ha]
        have hsd : shutdown = false := by
          cases shutdown with
          | false => rfl
          | true => rw [hq rfl rfl] at ha; cases ha
        exact .running hw rfl rfl rfl (by simp [Lifecycle.stopRequested, hw, hsd])
  | running hs he hq hl hsd =>
    have hw : (l.finishStart true).state = .running := by simp [Lifecycle.finishStart, hs]
    exact .running hw rfl rfl hl (by simp [Lifecycle.stopRequested, hw, hsd])
  | stopRequested hs he hq hl hsd =>
    exact .stopRequested (by simp [Lifecycle.finishStart, hs]) rfl rfl hl (by simp [hsd])
  | faulted hs hl => exact .faulted (by simp [Lifecycle.finishStart, hs]) hl

/-- A stop reaches the lifecycle; the engine is asked to shut down at once (`now`) or if the loop
runs. -/
theorem requestStop (h : Attuned l loop shutdown) (now : Bool) :
    Attuned l.requestStop loop (shutdown || now || l.requestStop.stopRequested) := by
  cases h with
  | idle hs he hq hl =>
    have : l.requestStop = l := by simp [Lifecycle.requestStop, hs]
    rw [this]
    exact .idle hs he hq hl
  | starting hs he hq =>
    have : l.requestStop = { l with stopAsked := true } := by simp [Lifecycle.requestStop, hs]
    rw [this]
    exact .starting hs he fun _ _ => rfl
  | running hs he hq hl hsd =>
    have : l.requestStop = { l with state := .stopRequested } := by
      simp [Lifecycle.requestStop, hs]
    rw [this]
    exact .stopRequested rfl he hq hl (by simp [Lifecycle.stopRequested])
  | stopRequested hs he hq hl hsd =>
    have : l.requestStop = l := by simp [Lifecycle.requestStop, hs]
    rw [this]
    exact .stopRequested hs he hq hl (by simp [hsd])
  | faulted hs hl =>
    have : l.requestStop = l := by simp [Lifecycle.requestStop, hs]
    rw [this]
    exact .faulted hs hl

theorem loopExited (h : Attuned l true shutdown) : Attuned l.loopExited false shutdown := by
  cases h with
  | idle _ _ _ hl => cases hl
  | starting hs he hq =>
    have : l.loopExited = { l with exited := true } := by simp [Lifecycle.loopExited, hs]
    rw [this]
    exact .starting hs rfl fun h => by cases h
  | running hs he hq =>
    have : l.loopExited = { l with state := .idle } := by simp [Lifecycle.loopExited, hs]
    rw [this]
    exact .idle rfl he hq rfl
  | stopRequested hs he hq =>
    have : l.loopExited = { l with state := .idle } := by simp [Lifecycle.loopExited, hs]
    rw [this]
    exact .idle rfl he hq rfl
  | faulted _ hl => cases hl

/-- A fault ends the loop, in the idle state if a stop was requested before. -/
theorem fault (h : Attuned l true shutdown) : Attuned l.fault.loopExited false shutdown := by
  cases h with
  | idle _ _ _ hl => cases hl
  | starting hs =>
    exact .faulted (by simp [Lifecycle.fault, Lifecycle.loopExited, hs]) rfl
  | running hs =>
    exact .faulted (by simp [Lifecycle.fault, Lifecycle.loopExited, hs]) rfl
  | stopRequested hs he hq =>
    have : l.fault.loopExited = { l with state := .idle } := by
      simp [Lifecycle.fault, Lifecycle.loopExited, hs]
    rw [this]
    exact .idle rfl he hq rfl
  | faulted _ hl => cases hl

theorem noteRestart (h : Attuned l loop shutdown) : Attuned l.noteRestart loop shutdown := by
  cases h with
  | idle hs he hq hl => exact .idle hs he hq hl
  | starting hs he hq => exact .starting hs he hq
  | running hs he hq hl hsd => exact .running hs he hq hl hsd
  | stopRequested hs he hq hl hsd => exact .stopRequested hs he hq hl hsd
  | faulted hs hl => exact .faulted hs hl

/-- A loop that may take an event was not asked to stop. -/
theorem not_stopRequested (h : Attuned l loop false) : l.stopRequested = false := by
  cases h with
  | idle hs => simp [Lifecycle.stopRequested, hs]
  | starting hs => simp [Lifecycle.stopRequested, hs]
  | running hs => simp [Lifecycle.stopRequested, hs]
  | stopRequested _ _ _ _ hsd => cases hsd
  | faulted hs => simp [Lifecycle.stopRequested, hs]

end Attuned

/-- The invariant of a session over a replay engine. -/
structure Sound (s : Session) (e : Replay) : Prop where
  engine : s.engine = .replay e
  /-- The session has callbacks exactly while there is a loop. -/
  sinks : s.sinks.isSome = e.loop.isSome
  /-- A callback runs only in a loop, which does not owe a greeting then. -/
  calling : ∀ c, s.calling = some c → ∃ loop, e.loop = some loop ∧ loop.greeted = true
  attuned : Attuned s.lifecycle e.loop.isSome e.shutdown

/-- A new session may be given any engine that is in no loop. -/
theorem Sound.of_loop_none (config : Config) {e : Replay} (hl : e.loop = none) :
    Sound (.new config (.replay e)) e := by
  have hloop : false = e.loop.isSome := by rw [hl]; rfl
  exact ⟨rfl, hloop, fun _ h => (by cases h), .idle rfl rfl rfl hloop.symm⟩

theorem Sound.new (config : Config) (clock : List UInt64) :
    Sound (.new config (.replay (.new config clock))) (.new config clock) :=
  .of_loop_none config rfl

namespace Sound

variable {s : Session} {e : Replay}

/-- Without a loop no callback runs. -/
theorem calling_none (hs : Sound s e) (hl : e.loop = none) : s.calling = none := by
  cases hc : s.calling with
  | none => rfl
  | some c =>
    obtain ⟨loop, h, -⟩ := hs.calling c hc
    rw [hl] at h
    cases h

/-- A session in a loop has callbacks. -/
theorem has_sinks (hs : Sound s e) {loop : Replay.Loop} (hl : e.loop = some loop) :
    ∃ k, s.sinks = some k := by
  have := hs.sinks
  rw [hl] at this
  exact Option.isSome_iff_exists.mp this

/-- Nothing is left of a loop in a session that is idle or faulted. -/
theorem inactive (hs : Sound s e) (hw : s.state.isActive = false) :
    e.loop = none ∧ s.sinks = none ∧ s.calling = none := by
  rw [Session.state] at hw
  have hl : e.loop = none := by
    cases hs.attuned with
    | idle _ _ _ hl => simpa using hl
    | starting h => rw [h] at hw; cases hw
    | running h => rw [h] at hw; cases hw
    | stopRequested h => rw [h] at hw; cases hw
    | faulted _ hl => simpa using hl
  refine ⟨hl, ?_, hs.calling_none hl⟩
  simpa [hl] using hs.sinks

theorem idle (hs : Sound s e) (hw : s.state = .idle) :
    e.loop = none ∧ s.sinks = none ∧ s.calling = none :=
  hs.inactive (by rw [hw]; rfl)

/-- A session whose callback runs is active. -/
theorem isActive_of_calling (hs : Sound s e) {c : Call} (hc : s.calling = some c) :
    s.state.isActive = true := by
  cases ha : s.state.isActive with
  | true => rfl
  | false => rw [(hs.inactive ha).2.2] at hc; cases hc

end Sound

/-- A stop means nothing to a lifecycle that is idle or faulted. -/
theorem Lifecycle.requestStop_inactive {l : Lifecycle} (h : l.isActive = false) :
    l.requestStop = l := by
  cases hs : l.state with
  | idle | faulted => simp [requestStop, hs]
  | starting | running | stopRequested => rw [isActive, hs] at h; cases h

theorem Lifecycle.stopRequested_inactive {l : Lifecycle} (h : l.isActive = false) :
    l.stopRequested = false := by
  cases hs : l.state with
  | stopRequested => rw [isActive, hs] at h; cases h
  | idle | starting | running | faulted => simp [stopRequested, hs]

theorem Session.requestStop_inactive {s : Session} (hw : s.state.isActive = false) :
    s.requestStop = (.ok (), s) := by
  have hl : s.lifecycle.isActive = false := hw
  simp [Session.requestStop, askStop, passStop, Lifecycle.requestStop_inactive hl,
    Lifecycle.stopRequested_inactive hl]

theorem Session.ensureReady_ok (s : Session) (operation : String) :
    s.ensureReady operation = .ok () ↔ s.state = .idle ∧ s.subscriptions ≠ [] := by
  cases hw : s.lifecycle.state <;> by_cases hn : s.subscriptions = [] <;>
    simp [ensureReady, Lifecycle.ensureIdle, Session.state, hw, hn]

end MarketFeed
