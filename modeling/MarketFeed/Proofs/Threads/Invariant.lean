import MarketFeed.Proofs.Threads.Run

set_option autoImplicit false

/-!
# The invariant of the threads

`Phase` ties the lifecycle to a start that is under way and to the thread of the loop: a session is
active exactly while there is a loop that has its callbacks, but for the time of a start and for a
fault, which is noted before the loop lets go of them. An idle session may still have a thread that
is finishing. `Woven` adds what the session, its engine and the place of the thread have in common,
and `Does.woven` is its preservation, one case for each thing a step can do.
-/

namespace MarketFeed

open Threads

/-- How the lifecycle, a start that is under way, and the thread of the loop go together. -/
inductive Phase (l : Lifecycle) (starting : Option Starting) (place : Option Place) : Prop
  | idle : l.state = .idle → l.exited = false → starting = none →
      place.any (·.holdsCallbacks) = false → Phase l starting place
  | claimed {k : Sinks} : l.state = .starting → l.exited = false → starting = some (.claimed k) →
      place.any (·.holdsCallbacks) = false → Phase l starting place
  | launched : l.state = .starting → l.exited = !place.any (·.holdsCallbacks) →
      starting = some .launched → Phase l starting place
  | running : l.state = .running → l.exited = false → starting = none →
      place.any (·.holdsCallbacks) = true → Phase l starting place
  | stopRequested : l.state = .stopRequested → l.exited = false → starting = none →
      place.any (·.holdsCallbacks) = true → Phase l starting place
  /-- A loop that is still there is on its way out. -/
  | faulted : l.state = .faulted → (∀ k, starting ≠ some (.claimed k)) →
      (place.any (·.holdsCallbacks) = true → place = some .leaving) → Phase l starting place

namespace Phase

variable {l : Lifecycle} {starting : Option Starting} {place : Option Place}

/-- The lifecycle does not tell the places inside of a loop apart. -/
theorem moves {p p' : Place} (h : Phase l starting (some p)) (hp : p.holdsCallbacks = true)
    (hne : p ≠ .leaving) (hp' : p'.holdsCallbacks = true) : Phase l starting (some p') := by
  cases h with
  | idle _ _ _ hl => rw [Option.any_some, hp] at hl; cases hl
  | claimed _ _ _ hl => rw [Option.any_some, hp] at hl; cases hl
  | launched hs he hst =>
    refine .launched hs ?_ hst
    rw [he, Option.any_some, Option.any_some, hp, hp']
  | running hs he hst => exact .running hs he hst hp'
  | stopRequested hs he hst => exact .stopRequested hs he hst hp'
  | faulted _ _ hl => exact absurd (Option.some.inj (hl hp)) hne

/-- A fault that is not recovered from leads out of the loop. -/
theorem fault {p : Place} (h : Phase l starting (some p)) (hp : p.holdsCallbacks = true)
    (hne : p ≠ .leaving) : Phase l.fault starting (some .leaving) := by
  cases h with
  | idle _ _ _ hl => rw [Option.any_some, hp] at hl; cases hl
  | claimed _ _ _ hl => rw [Option.any_some, hp] at hl; cases hl
  | launched hs _ hst =>
    have hf : l.fault = { l with state := .faulted } := by simp [Lifecycle.fault, hs]
    rw [hf]
    exact .faulted rfl (fun k h => by rw [hst] at h; cases h) fun _ => rfl
  | running hs _ hst =>
    have hf : l.fault = { l with state := .faulted } := by simp [Lifecycle.fault, hs]
    rw [hf]
    exact .faulted rfl (fun k h => by rw [hst] at h; cases h) fun _ => rfl
  | stopRequested hs he hst =>
    have hf : l.fault = l := by simp [Lifecycle.fault, hs]
    rw [hf]
    exact .stopRequested hs he hst rfl
  | faulted _ _ hl => exact absurd (Option.some.inj (hl hp)) hne

theorem noteRestart (h : Phase l starting place) : Phase l.noteRestart starting place := by
  cases h with
  | idle hs he hst hl => exact .idle hs he hst hl
  | claimed hs he hst hl => exact .claimed hs he hst hl
  | launched hs he hst => exact .launched hs he hst
  | running hs he hst hl => exact .running hs he hst hl
  | stopRequested hs he hst hl => exact .stopRequested hs he hst hl
  | faulted hs hst hl => exact .faulted hs hst hl

theorem loopExited (h : Phase l starting (some .leaving)) :
    Phase l.loopExited starting (some .finishing) := by
  cases h with
  | idle _ _ _ hl => cases hl
  | claimed _ _ _ hl => cases hl
  | launched hs _ hst =>
    have : l.loopExited = { l with exited := true } := by simp [Lifecycle.loopExited, hs]
    rw [this]
    exact .launched hs rfl hst
  | running hs he hst =>
    have : l.loopExited = { l with state := .idle } := by simp [Lifecycle.loopExited, hs]
    rw [this]
    exact .idle rfl he hst rfl
  | stopRequested hs he hst =>
    have : l.loopExited = { l with state := .idle } := by simp [Lifecycle.loopExited, hs]
    rw [this]
    exact .idle rfl he hst rfl
  | faulted hs hst _ =>
    have : l.loopExited = l := by simp [Lifecycle.loopExited, hs]
    rw [this]
    exact .faulted hs hst fun h => by cases h

theorem finish (h : Phase l starting (some .finishing)) : Phase l starting none := by
  cases h with
  | idle hs he hst _ => exact .idle hs he hst rfl
  | claimed hs he hst _ => exact .claimed hs he hst rfl
  | launched hs he hst => exact .launched hs he hst
  | running _ _ _ hl => cases hl
  | stopRequested _ _ _ hl => cases hl
  | faulted hs hst _ => exact .faulted hs hst fun h => by cases h

theorem claim (h : Phase l starting place) (hw : l.state = .idle) (k : Sinks) :
    Phase { l with state := .starting } (some (.claimed k)) place := by
  cases h with
  | idle _ he _ hl => exact .claimed rfl he rfl hl
  | claimed hs | launched hs | running hs | stopRequested hs | faulted hs =>
    rw [hw] at hs
    cases hs

theorem launch {k : Sinks} (h : Phase l (some (.claimed k)) place) :
    Phase l (some .launched) (some .looking) := by
  cases h with
  | claimed hs he => exact .launched hs he rfl
  | idle _ _ hst | launched _ _ hst | running _ _ hst | stopRequested _ _ hst => cases hst
  | faulted _ hst => exact absurd rfl (hst k)

theorem lapse {k : Sinks} (h : Phase l (some (.claimed k)) place) :
    Phase (l.loopExited.finishStart false) none place := by
  cases h with
  | claimed hs _ _ hl =>
    refine .faulted ?_ (fun _ h => by cases h) fun h => by rw [hl] at h; cases h
    simp [Lifecycle.loopExited, hs, Lifecycle.finishStart]
  | idle _ _ hst | launched _ _ hst | running _ _ hst | stopRequested _ _ hst => cases hst
  | faulted _ hst => exact absurd rfl (hst k)

theorem succeed (h : Phase l (some .launched) place) : Phase (l.finishStart true) none place := by
  cases h with
  | launched hs he =>
    cases hl : place.any (·.holdsCallbacks) with
    | false => exact .idle (by simp [Lifecycle.finishStart, hs, he, hl]) rfl rfl hl
    | true =>
      rw [hl] at he
      cases ha : l.stopAsked with
      | true =>
        exact .stopRequested (by simp [Lifecycle.finishStart, hs, he, ha]) rfl rfl hl
      | false => exact .running (by simp [Lifecycle.finishStart, hs, he, ha]) rfl rfl hl
  | faulted hs _ hl =>
    exact .faulted (by simp [Lifecycle.finishStart, hs]) (fun _ h => by cases h) hl
  | idle _ _ hst | claimed _ _ hst | running _ _ hst | stopRequested _ _ hst => cases hst

theorem requestStop (h : Phase l starting place) : Phase l.requestStop starting place := by
  cases h with
  | idle hs he hst hl =>
    rw [show l.requestStop = l by simp [Lifecycle.requestStop, hs]]
    exact .idle hs he hst hl
  | claimed hs he hst hl =>
    rw [show l.requestStop = { l with stopAsked := true } by simp [Lifecycle.requestStop, hs]]
    exact .claimed hs he hst hl
  | launched hs he hst =>
    rw [show l.requestStop = { l with stopAsked := true } by simp [Lifecycle.requestStop, hs]]
    exact .launched hs he hst
  | running hs he hst hl =>
    rw [show l.requestStop = { l with state := .stopRequested } by
      simp [Lifecycle.requestStop, hs]]
    exact .stopRequested rfl he hst hl
  | stopRequested hs he hst hl =>
    rw [show l.requestStop = l by simp [Lifecycle.requestStop, hs]]
    exact .stopRequested hs he hst hl
  | faulted hs hst hl =>
    rw [show l.requestStop = l by simp [Lifecycle.requestStop, hs]]
    exact .faulted hs hst hl

/-- A loop that was asked to stop has its callbacks. -/
theorem live_of_stopRequested (h : Phase l starting place) (hw : l.state = .stopRequested) :
    place.any (·.holdsCallbacks) = true := by
  cases h with
  | stopRequested _ _ _ hl => exact hl
  | idle hs | claimed hs | launched hs | running hs | faulted hs =>
    rw [hw] at hs
    cases hs

/-- A session that is not active has no loop, or one that is on its way out of the program. -/
theorem inactive (h : Phase l starting place) (hw : l.isActive = false) :
    place = none ∨ place = some .finishing ∨ (place = some .leaving ∧ l.state = .faulted) := by
  have out (hl : place.any (·.holdsCallbacks) = false) : place = none ∨ place = some .finishing := by
    rcases place with _ | p
    · exact .inl rfl
    · cases p <;> first | exact .inr rfl | cases hl
  cases h with
  | idle _ _ _ hl => exact (out hl).imp_right .inl
  | faulted hs _ hl =>
    cases hp : place.any (·.holdsCallbacks) with
    | true => exact .inr (.inr ⟨hl hp, hs⟩)
    | false => exact (out hp).imp_right .inl
  | claimed hs | launched hs | running hs | stopRequested hs =>
    rw [Lifecycle.isActive, hs] at hw
    cases hw

end Phase

/-- The invariant of the threads of a session over the replay engine `e`. -/
structure Woven (t : Threads) (e : Replay) : Prop where
  engine : t.session.engine = .replay e
  /-- The engine has a loop as long as its thread is not finished. -/
  loop : e.loop.isSome = t.place.isSome
  sinks : t.session.sinks.isSome = t.live
  calling : t.session.calling.isSome = true ↔ t.place = some .calling
  phase : Phase t.session.lifecycle t.starting t.place
  /-- A running session, or one that may come to run, was not asked to stop yet. -/
  heeds : t.session.released = false →
    (t.session.state = .running ∨ t.session.state = .starting ∧ t.starting = some .launched) →
    e.shutdown = false
  gone : .release ∈ t.errands → t.session.released = true

namespace Woven

variable {t : Threads} {e : Replay}

/-- A new session may be given any engine that is in no loop. -/
theorem of_loop_none (config : Config) {e : Replay} (hl : e.loop = none) :
    Woven (.new (.new config (.replay e))) e where
  engine := rfl
  loop := by rw [hl]; rfl
  sinks := rfl
  calling := by simp [Threads.new, Session.new]
  phase := .idle rfl rfl rfl rfl
  heeds _ h := by rcases h with h | ⟨h, -⟩ <;> cases h
  gone := nofun

theorem new (config : Config) (clock : List UInt64) :
    Woven (.new (.new config (.replay (.new config clock)))) (.new config clock) :=
  .of_loop_none config rfl

theorem calling_none (h : Woven t e) (hp : t.place ≠ some .calling) : t.session.calling = none := by
  have := mt h.calling.mp hp
  simpa using this

theorem place_calling (h : Woven t e) {c : Call} (hc : t.session.calling = some c) :
    t.place = some .calling := h.calling.mp (by rw [hc]; rfl)

theorem place_none (h : Woven t e) (hl : e.loop = none) : t.place = none := by
  have hp := h.loop
  rw [hl] at hp
  simpa using hp.symm

/-- A thread that has its callbacks has a loop and sinks. -/
theorem has (h : Woven t e) {p : Place} (hp : t.place = some p) (hl : p.holdsCallbacks = true) :
    (∃ loop, e.loop = some loop) ∧ ∃ k, t.session.sinks = some k := by
  have hloop := h.loop
  have hk := h.sinks
  rw [hp] at hloop
  rw [live, hp, Option.any_some, hl] at hk
  exact ⟨Option.isSome_iff_exists.mp hloop, Option.isSome_iff_exists.mp hk⟩

end Woven

end MarketFeed
