import MarketFeed.Proofs.Session.Steps
import MarketFeed.Rehearsal.Session

set_option autoImplicit false

/-!
# Hosts, step by step

What the parts of a host do to the world it lives in, as equations, and what is answered to a stop
or a wait that has nothing to wait for.
-/

namespace MarketFeed.Rehearsal

namespace Host

variable {σ κ α β γ : Type}

@[simp] theorem bind_run (p : StateM σ β) (k : β → StateM σ γ) (w : σ) :
    (p >>= k) w = k (p w).1 (p w).2 := rfl

@[simp] theorem pure_run (b : β) (w : σ) : (pure b : StateM σ β) w = (b, w) := rfl

@[simp] theorem map_run (f : β → γ) (p : StateM σ β) (w : σ) :
    (f <$> p) w = (f (p w).1, (p w).2) := rfl

@[simp] theorem get_run (w : σ) : (get : StateM σ σ) w = (w, w) := rfl

@[simp] theorem modify_run (f : σ → σ) (w : σ) :
    (modify f : StateM σ PUnit) w = (⟨⟩, f w) := rfl

variable (h : Host σ κ α)

@[simp] theorem scripted_run (w : σ) : h.scripted w = (h.view w, w) := rfl

@[simp] theorem session_run (w : σ) : h.session w = ((h.view w).session, w) := rfl

@[simp] theorem modifyScripted_run (f : Scripted κ α → Scripted κ α) (w : σ) :
    h.modifyScripted f w = ((), h.update (f (h.view w)) w) := rfl

@[simp] theorem operate_run (op : Session → β × Session) (w : σ) :
    h.operate op w = (((h.view w).operate op).1, h.update ((h.view w).operate op).2 w) := rfl

/-- An operation fails because that of the session does. -/
theorem operate_error {op : Session → Except Halt β × Session} {w w' : σ} {halt : Halt}
    (he : h.operate op w = (.error halt, w')) :
    ∃ s, op (h.view w).session = (.error halt, s) := by
  have hr : (op (h.view w).session).1 = .error halt := congrArg Prod.fst he
  exact ⟨_, Prod.ext hr rfl⟩

/-- A session whose callback runs is run already. -/
theorem settle_calling {w : σ} {c : Call} (hc : (h.view w).session.calling = some c) :
    h.settle w = ((), w) := by
  simp [settle, hc]

theorem release_run (w : σ) :
    h.release w =
      let a := h.operate (·.release h.delivering) w
      (a.1, (h.settle (h.update { h.view a.2 with held := false } a.2)).2) := rfl

/-- A wait that is not answered at once lets the loop go on, if there is time. -/
theorem wait_run (timeout : Option Nat) (w : σ) :
    h.wait timeout w =
      match (h.view w).session.lifecycle.atOnce h.delivering with
      | some v => (v, w)
      | none =>
        let w := if timeout ≠ some 0 then (h.settle (h.update { h.view w with held := false } w)).2
          else w
        ((h.view w).session.waited, w) := by
  simp only [wait, bind_run, session_run]
  cases (h.view w).session.lifecycle.atOnce h.delivering with
  | some v => rfl
  | none =>
    by_cases ht : timeout = some 0
    · simp [ht]
    · simp [ht]

/-- A stop asks first; then a loop that there is no time to wait for is held. -/
theorem stop_run (timeout : Option Nat) (w : σ) :
    h.stop timeout w =
      match h.operate (·.requestStop) w with
      | (.error halt, w) => (.error halt, w)
      | (.ok (), w) =>
        let s := (h.view w).session
        let w := if !h.delivering && timeout = some 0 && s.lifecycle.isActive && s.engine.isReplay
          then h.update { h.view w with held := true } w else w
        (.ok (h.wait timeout w).1, (h.wait timeout w).2) := by
  unfold stop
  rw [bind_run]
  generalize h.operate (·.requestStop) w = p
  obtain ⟨_ | _, w'⟩ := p
  · rfl
  · by_cases hc : (!h.delivering && timeout = some 0 &&
        (h.view w').session.lifecycle.isActive && (h.view w').session.engine.isReplay) = true
    · simp only [hc, if_true]
      exact congrFun (if_pos hc) w'
    · simp only [hc]
      exact congrFun (if_neg hc) w'

end Host

/-! ## The hosts of a stage -/

namespace Stage

section

variable (perform : SessionCall → StateM Stage Answer) (mark : Option Unit) (fuel : Nat)

@[simp] theorem hostOn_view (x : Stage) : (hostOn perform mark fuel).view x = x := rfl

@[simp] theorem hostOn_update (x y : Stage) : (hostOn perform mark fuel).update x y = x := rfl

@[simp] theorem hostOn_perform : (hostOn perform mark fuel).perform = perform := rfl

@[simp] theorem hostOn_fuel : (hostOn perform mark fuel).fuel = fuel := rfl

@[simp] theorem hostOn_unmarked : (hostOn perform none fuel).delivering = false := rfl

@[simp] theorem hostOn_marked : (hostOn perform (some ()) fuel).delivering = true := rfl

end

variable {x : Stage}

/-- A callback of a session that was given up reaches nothing. -/
theorem perform_gone (hr : x.session.released = true) (c : SessionCall) :
    perform c x = (.noSession, x) := by
  simp [perform, call, inner, hr]

/-- A call from a callback is over at once, also a stop and a wait: the thread is marked. -/
theorem perform_there (hr : x.session.released = false) (c : SessionCall) :
    perform c x =
      let unit (op : Session → Except Halt Unit × Session) : Answer × Stage :=
        (.ofUnit (x.operate op).1, (x.operate op).2)
      match c with
      | .stop =>
        match x.operate (·.requestStop) with
        | (.ok (), x) => (.verdict x.session.waited, x)
        | (.error halt, x) => (.ofHalt halt, x)
      | .block => (.verdict x.session.waited, x)
      | .start => unit (·.beginStart ⟨true, false, false, false⟩)
      | .reconnect => unit (·.reconnect)
      | .resubscribe => unit (·.resubscribe)
      | .subscribe request => unit (subscribe request)
      | .resolve id => (.symbol (x.session.resolve id), x)
      | .stats => (.stats x.session.stats, x)
      | .drop =>
        match x.operate (·.release true) with
        | (.ok (), x) => (.dropped, { x with held := false })
        | (.error halt, x) => (.ofHalt halt, { x with held := false }) := by
  have hview : inner.view x = x := rfl
  cases c with
  | stop =>
    simp only [perform, call, inner, Host.bind_run, Host.session_run, Host.stop_run,
      Host.operate_run, hostOn_view, hr, Bool.false_eq_true, if_false]
    generalize x.operate (·.requestStop) = p
    obtain ⟨_ | _, y⟩ := p
    · rfl
    · simp [Host.wait, Answer.ofVerdict, Session.waited]
  | block => simp [perform, call, inner, hr, Host.wait, Session.waited]
  | drop =>
    have hset (y : Stage) : inner.settle y = ((), y) := by
      unfold Host.settle
      cases hc : y.session.calling <;> simp [inner, Host.run]
    have hrel : inner.release x = ((x.operate (·.release true)).1,
        { (x.operate (·.release true)).2 with held := false }) := by
      simp only [Host.release_run, hset]
      rfl
    simp only [perform, call, Host.bind_run, Host.session_run, hview, hr, Bool.false_eq_true,
      if_false, hrel]
    generalize x.operate (·.release true) = p
    obtain ⟨_ | _, y⟩ := p <;> rfl
  | start | reconnect | resubscribe | subscribe | resolve | stats =>
    simp [perform, call, inner, hr]

end Stage

/-- An operation on a replay session: no call of the engine is noted. -/
theorem operate_replay {κ α β : Type} {x : Scripted κ α} {e : Replay} (op : Session → β × Session)
    (he : (op x.session).2.engine = .replay e) :
    x.operate op = ((op x.session).1, { x with session := (op x.session).2 }) := by
  have hs : ({ (op x.session).2 with engine := .replay e } : Session) = (op x.session).2 :=
    Sound.engine_eq he
  simp [Scripted.operate, he, Engine.takeCalls, hs]

variable {x : Stage} {e : Replay}

/-! ## Sessions on the move -/

theorem run_calling (fuel : Nat) {c : Call} (hc : x.session.calling = some c) (n : Nat) :
    (Stage.host fuel).run (n + 1) x =
      let p := (Stage.host fuel).answer c x
      (Stage.host fuel).run n { p.2 with session := p.2.session.reply p.1 } := by
  simp [Host.run, Stage.host, hc]

theorem run_turn (fuel : Nat) {s : Session} (hc : x.session.calling = none) (hh : x.held = false)
    (hst : x.session.step = some s) (n : Nat) :
    (Stage.host fuel).run (n + 1) x = (Stage.host fuel).run n { x with session := s } := by
  simp [Host.run, Stage.host, hc, hst, hh]

/-! ## Sessions at rest -/

theorem run_still (fuel : Nat) (hc : x.session.calling = none) (hst : x.session.step = none)
    (n : Nat) : (Stage.host fuel).run n x = ((), x) := by
  cases n with
  | zero => rfl
  | succ n =>
    cases hh : x.held <;> simp [Host.run, Stage.host, hc, hst, hh]

/-- A session that is held takes no turn. -/
theorem run_held (fuel : Nat) (hc : x.session.calling = none) (hh : x.held = true) (n : Nat) :
    (Stage.host fuel).run n x = ((), x) := by
  cases n with
  | zero => rfl
  | succ n => simp [Host.run, Stage.host, hc, hh]

/-- A wait for a session without a loop ends at once and changes nothing. -/
theorem wait_inactive (hw : x.session.state.isActive = false) (fuel : Nat)
    (timeout : Option Nat) :
    (Stage.host fuel).wait timeout x = (.stop, x) := by
  have hl : x.session.lifecycle.isActive = false := hw
  simp [Host.wait, Stage.host, Lifecycle.atOnce_inactive hl]

/-- So does a stop. -/
theorem stop_inactive (he : x.session.engine = .replay e) (hw : x.session.state.isActive = false)
    (fuel : Nat) (timeout : Option Nat) :
    ((Stage.host fuel).stop timeout x).1 = .ok .stop ∧
      ((Stage.host fuel).stop timeout x).2.session = x.session := by
  have hr : x.session.requestStop = (.ok (), x.session) := Session.requestStop_inactive hw
  have ho : x.operate (·.requestStop) = (.ok (), x) := by
    rw [operate_replay (e := e) (·.requestStop) (by rw [hr]; exact he), hr]
  have hl : x.session.lifecycle.isActive = false := hw
  have hwait := wait_inactive hw fuel timeout
  simp [Host.stop, Stage.host, ho, hl] at hwait ⊢
  rw [hwait]
  exact ⟨rfl, rfl⟩

/-! ## Stops by a callback -/

/-- A session that is asked to stop stays active. -/
theorem requestStop_isActive (l : Lifecycle) : l.requestStop.isActive = l.isActive := by
  cases h : l.state <;> simp [Lifecycle.requestStop, Lifecycle.isActive, h, SessionState.isActive]

/-- A callback that asks its own session to stop, or to wait, is told at once that the loop goes
on. -/
theorem perform_stop (he : x.session.engine = .replay e) (hw : x.session.state.isActive = true)
    (hr : x.session.released = false) :
    Stage.perform .stop x = (.verdict .proceed, { x with session := x.session.requestStop.2 }) ∧
      Stage.perform .block x = (.verdict .proceed, x) := by
  have hstop := Sound.requestStop_of_engine he
  have hwaits {s : Session} (h : s.lifecycle.isActive = true) : s.waited = .proceed := by
    simp [Session.waited, Lifecycle.waited, h]
  have ho : x.operate (·.requestStop) =
      (.ok (), { x with session := x.session.requestStop.2 }) := by
    rw [operate_replay (·.requestStop) (congrArg (·.2.engine) hstop), hstop]
  have hactive : x.session.requestStop.2.lifecycle.isActive = true := by
    rw [hstop]
    exact (requestStop_isActive _).trans hw
  constructor
  · simp [Stage.perform_there hr, ho, hwaits hactive]
  · simp [Stage.perform_there hr, hwaits hw]

end MarketFeed.Rehearsal
