import MarketFeed.Lifecycle.Custody

set_option autoImplicit false

/-!
# The lifecycle word as a function of history

`Attempt` is the history of one start attempt as its callers see it: how it was completed, what
became of its guard, whether a stop was asked for since it began, and whether a fault was reported
that nothing excused. `Attempt.word` reads the state off it, and `state_eq_word` says that this is
the state of the lifecycle after any sequence of acts in which no attempt hands out a second guard.

The invariant (`Linked`) has two parts. `Agrees l h` ties the state and the two waiting flags to the
history: the flags speak of the latest attempt while it is starting, and are clear whenever a loop
may be claimed, runs or is asked to stop. The rest of `Linked` says who holds what: an attempt is in
custody exactly while it is open, its guard exactly while it is live. So an idle lifecycle has no
guard of an earlier attempt left that could end the next one.
-/

namespace MarketFeed

namespace Custody

/-! ## Histories -/

inductive GuardFate where
  | none
  | live (guard : String)
  | dropped
  deriving DecidableEq

/-- The history of one start attempt since it claimed the lifecycle. -/
structure Attempt where
  name : String
  /-- How it was completed: `false` if it failed or was abandoned. -/
  outcome : Option Bool := none
  guard : GuardFate := .none
  /-- A stop was asked for since the attempt began. -/
  stopAsked : Bool := false
  /-- A fault was reported before the attempt was complete, or later while its guard was not dropped
  and no stop had been asked for. -/
  faulted : Bool := false
  deriving DecidableEq

namespace Attempt

/-- Whether the attempt goes by this name and is not complete. -/
def isOpen (t : Attempt) (attempt : String) : Bool := t.outcome == none && t.name == attempt

/-- Whether a fault reported now ends the session. -/
def exposed (t : Attempt) : Bool :=
  t.outcome == none || (t.outcome == some true && t.guard != .dropped && !t.stopAsked)

/-- The history after one more act. -/
def note (t : Attempt) : Act → Attempt
  | .guard attempt guard => if t.isOpen attempt then { t with guard := .live guard } else t
  | .succeeded attempt => if t.isOpen attempt then { t with outcome := some true } else t
  | .failed attempt | .abandon attempt =>
    if t.isOpen attempt then { t with outcome := some false } else t
  | .exit guard => if t.guard = .live guard then { t with guard := .dropped } else t
  | .requestStop | .stop => { t with stopAsked := true }
  | .fault => if t.exposed then { t with faulted := true } else t
  | _ => t

/-- The state once the attempt has succeeded, if nothing faulted. -/
def loopWord (t : Attempt) : SessionState :=
  if t.guard = .dropped then .idle else if t.stopAsked then .stopRequested else .running

/-- The state that a history amounts to. -/
def word (t : Attempt) : SessionState :=
  if t.faulted then .faulted
  else
    match t.outcome with
    | none => .starting
    | some false => .faulted
    | some true => t.loopWord

end Attempt

abbrev Entry := Act × Answer

/-- The history of the latest attempt after one more entry: a start that is answered with `ok` is
a new attempt. -/
def latest (h : Option Attempt) : Entry → Option Attempt
  | (.begin attempt, .ok) => some { name := attempt }
  | (a, _) => h.map (·.note a)

/-- Whether an act leaves no trace in a history. -/
def Act.isStill : Act → Bool
  | .enter _ | .leave _ | .wait | .restart | .ensureUsable | .ensureIdle _ | .look => true
  | _ => false

theorem latest_still {h : Option Attempt} {a : Act} {r : Answer} (ha : a.isStill = true) :
    latest h (a, r) = h := by
  cases h <;> cases a <;> first | rfl | cases ha

/-- The state of a lifecycle whose latest attempt has this history. -/
def word : Option Attempt → SessionState
  | none => .idle
  | some t => t.word

/-- What acts on the lifecycle `name` are answered, one after the other. -/
def transcript (name : String) : Custody → List Act → List Entry
  | _, [] => []
  | c, a :: acts => (a, (c.act name a).1) :: transcript name (c.act name a).2 acts

/-- What acts on the lifecycle `name` lead to. -/
def after (name : String) (c : Custody) (acts : List Act) : Custody :=
  acts.foldl (fun c a => (c.act name a).2) c

/-- Whether an entry is not an attempt's second guard. -/
def isFirstGuard (h : Option Attempt) : Entry → Bool
  | (.guard attempt _, _) => h.all fun t => !t.isOpen attempt || t.guard == .none
  | _ => true

/-- Whether no attempt hands out a second guard. -/
def orderly (h : Option Attempt) : List Entry → Bool
  | [] => true
  | e :: entries => isFirstGuard h e && orderly (latest h e) entries

/-! ## The state and its flags -/

/-- The lifecycle has the state that the history amounts to, and the waiting flags of an attempt
that is starting. The flags are clear before the first attempt and once an attempt has succeeded,
so that the next one starts without a trace of it. -/
inductive Agrees (l : Lifecycle) : Option Attempt → Prop
  | new : l.state = .idle → l.exited = false → l.stopAsked = false → Agrees l none
  | faulted {t : Attempt} : t.faulted = true ∨ t.outcome = some false → l.state = .faulted →
      Agrees l (some t)
  | starting {t : Attempt} : t.faulted = false → t.outcome = none → l.state = .starting →
      l.exited = (t.guard == .dropped) → l.stopAsked = t.stopAsked → Agrees l (some t)
  | succeeded {t : Attempt} : t.faulted = false → t.outcome = some true → l.state = t.loopWord →
      l.exited = false → l.stopAsked = false → Agrees l (some t)

theorem loopWord_cases (t : Attempt) :
    (t.guard = .dropped ∧ t.loopWord = .idle) ∨
      (t.guard ≠ .dropped ∧ t.stopAsked = true ∧ t.loopWord = .stopRequested) ∨
      (t.guard ≠ .dropped ∧ t.stopAsked = false ∧ t.loopWord = .running) := by
  unfold Attempt.loopWord
  by_cases hg : t.guard = .dropped
  · exact .inl ⟨hg, if_pos hg⟩
  · cases hq : t.stopAsked with
    | true => exact .inr (.inl ⟨hg, rfl, by simp [hg]⟩)
    | false => exact .inr (.inr ⟨hg, rfl, by simp [hg]⟩)

namespace Agrees

variable {l : Lifecycle} {t : Attempt} {h : Option Attempt}

theorem state_eq (ha : Agrees l h) : l.state = word h := by
  cases ha with
  | new hs => exact hs
  | faulted ht hs =>
    rcases ht with ht | ht <;> simp [word, Attempt.word, ht, hs]
  | starting hf ho hs => simp [word, Attempt.word, hf, ho, hs]
  | succeeded hf ho hs => simp [word, Attempt.word, hf, ho, hs]

/-- A start is let through only from an idle lifecycle, whose flags are clear. -/
theorem begin (ha : Agrees l h) {l' : Lifecycle} (attempt : String) (hb : l.beginStart = .ok l') :
    l.state = .idle ∧ Agrees l' (some { name := attempt }) := by
  unfold Lifecycle.beginStart at hb
  split at hb
  · rename_i hs
    cases hb
    have hc : l.exited = false ∧ l.stopAsked = false := by
      cases ha with
      | new _ he hq => exact ⟨he, hq⟩
      | faulted _ h => rw [hs] at h; cases h
      | starting _ _ h => rw [hs] at h; cases h
      | succeeded _ _ _ he hq => exact ⟨he, hq⟩
    exact ⟨hs, .starting rfl rfl rfl hc.1 hc.2⟩
  · cases hb
  · cases hb

/-- Completing a start settles both flags. -/
theorem finish (ha : Agrees l (some t)) (ho : t.outcome = none) (ok : Bool) :
    Agrees (l.finishStart ok) (some { t with outcome := some ok }) := by
  cases ha with
  | faulted ht hs =>
    have ht : t.faulted = true := by simpa [ho] using ht
    exact .faulted (.inl ht) (by simp [Lifecycle.finishStart, hs])
  | starting hf _ hs he hq =>
    cases ok with
    | false => exact .faulted (.inr rfl) (by simp [Lifecycle.finishStart, hs])
    | true =>
      refine .succeeded hf rfl ?_ rfl rfl
      simp [Lifecycle.finishStart, Attempt.loopWord, hs, he, hq]
  | succeeded _ h => rw [ho] at h; cases h

/-- Dropping the guard ends the loop, or is kept for the end of the start. -/
theorem exit (ha : Agrees l (some t)) :
    Agrees l.loopExited (some { t with guard := .dropped }) := by
  cases ha with
  | faulted ht hs => exact .faulted ht (by simp [Lifecycle.loopExited, hs])
  | starting hf ho hs he hq =>
    simp only [Lifecycle.loopExited, hs]
    exact .starting hf ho rfl rfl hq
  | succeeded hf ho hs he hq =>
    rcases loopWord_cases t with ⟨-, hw⟩ | ⟨-, -, hw⟩ | ⟨-, -, hw⟩ <;> rw [hw] at hs <;>
      simp only [Lifecycle.loopExited, hs] <;>
      exact .succeeded hf ho (by simp [Attempt.loopWord, hs]) he hq

theorem handOut (ha : Agrees l (some t)) (ho : t.outcome = none) (hg : t.guard = .none)
    (guard : String) : Agrees l (some { t with guard := .live guard }) := by
  cases ha with
  | faulted ht hs => exact .faulted ht hs
  | starting hf ho hs he hq => exact .starting hf ho hs (he.trans (by rw [hg]; rfl)) hq
  | succeeded _ h => rw [ho] at h; cases h

theorem requestStop (ha : Agrees l h) :
    Agrees l.requestStop (h.map fun t => { t with stopAsked := true }) := by
  cases ha with
  | new hs he hq =>
    simp only [Lifecycle.requestStop, hs]
    exact .new hs he hq
  | faulted ht hs => exact .faulted ht (by simp [Lifecycle.requestStop, hs])
  | starting hf ho hs he hq =>
    simp only [Lifecycle.requestStop, hs]
    exact .starting hf ho rfl he rfl
  | @succeeded t hf ho hs he hq =>
    rcases loopWord_cases t with ⟨hg, hw⟩ | ⟨hg, -, hw⟩ | ⟨hg, -, hw⟩ <;> rw [hw] at hs <;>
      simp only [Lifecycle.requestStop, hs] <;>
      exact .succeeded hf ho (by simp [Attempt.loopWord, hg, hs]) he hq

theorem fault (ha : Agrees l h) :
    Agrees l.fault (h.map fun t => if t.exposed then { t with faulted := true } else t) := by
  cases ha with
  | new hs he hq =>
    simp only [Lifecycle.fault, hs]
    exact .new hs he hq
  | @faulted t ht hs =>
    have hl : l.fault = l := by simp [Lifecycle.fault, hs]
    rw [hl, Option.map_some]
    split
    · exact .faulted (.inl rfl) hs
    · exact .faulted ht hs
  | @starting t hf ho hs he hq =>
    have hx : t.exposed = true := by simp [Attempt.exposed, ho]
    rw [Option.map_some, if_pos hx]
    exact .faulted (.inl rfl) (by simp [Lifecycle.fault, hs])
  | @succeeded t hf ho hs he hq =>
    rw [Option.map_some]
    -- only a loop that runs, and that nobody asked to stop, faults
    have calm (hx : t.exposed = false) (hl : l.fault = l) :
        Agrees l.fault (some (if t.exposed then { t with faulted := true } else t)) := by
      rw [hl, hx]
      exact .succeeded hf ho hs he hq
    rcases loopWord_cases t with ⟨hg, hw⟩ | ⟨hg, hst, hw⟩ | ⟨hg, hst, hw⟩
    · exact calm (by simp [Attempt.exposed, ho, hg]) (by simp [Lifecycle.fault, hs, hw])
    · exact calm (by simp [Attempt.exposed, ho, hst]) (by simp [Lifecycle.fault, hs, hw])
    · have hx : t.exposed = true := by simp [Attempt.exposed, ho, hg, hst]
      rw [if_pos hx]
      exact .faulted (.inl rfl) (by simp [Lifecycle.fault, hs, hw])

theorem noteRestart (ha : Agrees l h) : Agrees l.noteRestart h := by
  cases ha with
  | new hs he hq => exact .new hs he hq
  | faulted ht hs => exact .faulted ht hs
  | starting hf ho hs he hq => exact .starting hf ho hs he hq
  | succeeded hf ho hs he hq => exact .succeeded hf ho hs he hq

end Agrees

/-! ## Custody -/

/-- The attempts that are in custody under this history. -/
def openAttempts (name : String) : Option Attempt → Named String
  | none => []
  | some t => if t.outcome = none then [(t.name, name)] else []

/-- The guards that are in custody under this history. -/
def liveGuards (name : String) : Option Attempt → Named String
  | none => []
  | some t =>
    match t.guard with
    | .live guard => [(guard, name)]
    | _ => []

theorem openAttempts_map {name : String} {h : Option Attempt} {f : Attempt → Attempt}
    (hf : ∀ t, (f t).name = t.name ∧ (f t).outcome = t.outcome) :
    openAttempts name (h.map f) = openAttempts name h := by
  cases h with
  | none => rfl
  | some t => simp [openAttempts, hf t]

theorem liveGuards_map {name : String} {h : Option Attempt} {f : Attempt → Attempt}
    (hf : ∀ t, (f t).guard = t.guard) : liveGuards name (h.map f) = liveGuards name h := by
  cases h with
  | none => rfl
  | some t => simp [liveGuards, hf t]

/-- Only the attempt that is open is found in custody. -/
theorem get?_openAttempts {name attempt : String} {h : Option Attempt}
    (hn : ∀ t, h = some t → t.isOpen attempt = false) :
    (openAttempts name h).get? attempt = none := by
  cases h with
  | none => rfl
  | some t =>
    by_cases ho : t.outcome = none
    · have hne : ¬ t.name = attempt := by simpa [Attempt.isOpen, ho] using hn t rfl
      have hne : (attempt == t.name) = false := by simpa using Ne.symm hne
      simp [openAttempts, ho, Named.get?, hne]
    · simp [openAttempts, ho, Named.get?]

/-- Only the guard that is live is found in custody. -/
theorem get?_liveGuards {name guard : String} {h : Option Attempt}
    (hn : ∀ t, h = some t → t.guard ≠ .live guard) : (liveGuards name h).get? guard = none := by
  cases h with
  | none => rfl
  | some t =>
    cases hg : t.guard with
    | none => simp [liveGuards, hg, Named.get?]
    | dropped => simp [liveGuards, hg, Named.get?]
    | live other =>
      have hne : ¬ other = guard := by simpa [hg] using hn t rfl
      have hne : (guard == other) = false := by simpa using Ne.symm hne
      simp [liveGuards, hg, Named.get?, hne]

@[simp] theorem lifecycle_setLifecycle (c : Custody) (name : String) (l : Lifecycle) :
    (c.setLifecycle name l).lifecycle name = l := by
  simp [setLifecycle, lifecycle, Named.put, Named.get?]

/-! ### What acts do to custody -/

section Acts

variable {c : Custody} {name attempt : String}

/-- Completing the only open attempt. -/
theorem finish_of_open (hc : c.attempts = [(attempt, name)]) (ok : Bool) :
    c.finish attempt ok =
      { c with attempts := [] }.setLifecycle name ((c.lifecycle name).finishStart ok) := by
  simp [finish, hc, Named.get?, Named.erase, modifyLifecycle, lifecycle]

theorem finish_of_closed (hn : c.attempts.get? attempt = none) (ok : Bool) :
    c.finish attempt ok = c := by
  simp [finish, hn]

theorem act_begin_error {cause : SessionError} (attempt : String)
    (hb : (c.lifecycle name).beginStart = .error cause) :
    c.act name (.begin attempt) = (.error cause, c.setLifecycle name (c.lifecycle name)) := by
  simp [act, hb]

/-- A start that claims a lifecycle of which no attempt is open. -/
theorem act_begin_ok {l : Lifecycle} (attempt : String)
    (hb : (c.lifecycle name).beginStart = .ok l) (hno : c.attempts = []) :
    c.act name (.begin attempt) =
      (.ok, { (c.setLifecycle name l) with attempts := [(attempt, name)] }) := by
  simp [act, hb, finish, setLifecycle, hno, Named.get?, Named.put, Named.erase]

theorem act_guard_closed (hn : c.attempts.get? attempt = none) (guard : String) :
    (c.act name (.guard attempt guard)).2 = c.setLifecycle name (c.lifecycle name) := by
  simp [act, setLifecycle, hn]

/-- Scopes and the mark of the thread do not matter to what is held. -/
theorem leave_keeps (c : Custody) (scope : String) : (c.leave scope).lifecycles = c.lifecycles ∧
    (c.leave scope).attempts = c.attempts ∧ (c.leave scope).guards = c.guards := by
  unfold leave
  split <;> exact ⟨rfl, rfl, rfl⟩

theorem enter_keeps (c : Custody) (other scope : String) :
    (c.enter other scope).lifecycles = c.lifecycles ∧
      (c.enter other scope).attempts = c.attempts ∧ (c.enter other scope).guards = c.guards :=
  leave_keeps { c with mark := some other } scope

end Acts

theorem open_or_closed (h : Option Attempt) (attempt : String) :
    (∃ t, h = some t ∧ t.isOpen attempt = true) ∨
      ∀ t, h = some t → t.isOpen attempt = false := by
  cases h with
  | none => exact .inr fun _ h => by cases h
  | some t =>
    cases ho : t.isOpen attempt with
    | true => exact .inl ⟨t, rfl, ho⟩
    | false => exact .inr fun t' ht => by cases ht; exact ho

theorem map_closed {h : Option Attempt} {attempt : String} {f : Attempt → Attempt}
    (hn : ∀ t, h = some t → t.isOpen attempt = false) :
    (h.map fun t => if t.isOpen attempt then f t else t) = h := by
  cases h with
  | none => rfl
  | some t => rw [Option.map_some, hn t rfl]; rfl

/-- The lifecycle agrees with the history, and custody holds its open attempt and live guard and
nothing else. -/
structure Linked (name : String) (c : Custody) (h : Option Attempt) : Prop where
  agrees : Agrees (c.lifecycle name) h
  attempts : c.attempts = openAttempts name h
  guards : c.guards = liveGuards name h

namespace Linked

variable {name : String} {c : Custody} {h : Option Attempt}

theorem set (hl : Linked name c h) {l : Lifecycle} {h' : Option Attempt} (ha : Agrees l h')
    (ho : openAttempts name h' = openAttempts name h)
    (hg : liveGuards name h' = liveGuards name h) :
    Linked name (c.setLifecycle name l) h' :=
  ⟨by rw [lifecycle_setLifecycle]; exact ha, hl.attempts.trans ho.symm, hl.guards.trans hg.symm⟩

/-- Nothing is held of an idle lifecycle. -/
theorem idle (hl : Linked name c h) (hs : (c.lifecycle name).state = .idle) :
    c.attempts = [] ∧ c.guards = [] := by
  obtain ⟨ha, ho, hg⟩ := hl
  rw [ho, hg]
  cases ha with
  | new => exact ⟨rfl, rfl⟩
  | faulted _ h => rw [hs] at h; cases h
  | starting _ _ h => rw [hs] at h; cases h
  | @succeeded t _ hok h =>
    rcases loopWord_cases t with ⟨hd, -⟩ | ⟨-, -, hw⟩ | ⟨-, -, hw⟩
    · simp [openAttempts, liveGuards, hok, hd]
    · rw [hs, hw] at h; cases h
    · rw [hs, hw] at h; cases h

theorem finish (hl : Linked name c h) (attempt : String) (ok : Bool) :
    Linked name (c.finish attempt ok)
      (h.map fun t => if t.isOpen attempt then { t with outcome := some ok } else t) := by
  obtain ⟨t, rfl, hopen⟩ | hclosed := open_or_closed h attempt
  · obtain ⟨ho, rfl⟩ : t.outcome = none ∧ t.name = attempt := by
      simpa [Attempt.isOpen] using hopen
    have hc : c.attempts = [(t.name, name)] := by simp [hl.attempts, openAttempts, ho]
    rw [finish_of_open hc, Option.map_some, if_pos hopen]
    exact ⟨by rw [lifecycle_setLifecycle]; exact hl.agrees.finish ho ok, rfl, hl.guards⟩
  · rw [finish_of_closed (by rw [hl.attempts]; exact get?_openAttempts hclosed),
      map_closed hclosed]
    exact hl

theorem dropGuard (hl : Linked name c h) (guard : String) :
    Linked name (c.dropGuard guard)
      (h.map fun t => if t.guard = .live guard then { t with guard := .dropped } else t) := by
  cases h with
  | none =>
    have hn : c.guards.get? guard = none := by rw [hl.guards]; rfl
    simpa [Custody.dropGuard, hn] using hl
  | some t =>
    rw [Option.map_some]
    by_cases hlive : t.guard = .live guard
    · have hc : c.guards = [(guard, name)] := by simp [hl.guards, liveGuards, hlive]
      have hf : c.dropGuard guard =
          { c with guards := [] }.setLifecycle name (c.lifecycle name).loopExited := by
        simp [Custody.dropGuard, hc, Named.get?, Named.erase, modifyLifecycle, lifecycle]
      rw [hf, if_pos hlive]
      exact ⟨by rw [lifecycle_setLifecycle]; exact hl.agrees.exit, hl.attempts, rfl⟩
    · have hn : c.guards.get? guard = none := by
        rw [hl.guards]
        refine get?_liveGuards fun t' ht => ?_
        cases ht
        exact hlive
      simpa [Custody.dropGuard, hn, hlive] using hl

/-- The first guard of an attempt goes into custody; no other attempt is known by a name. -/
theorem handOut (hl : Linked name c h) (attempt guard : String)
    (hfirst : ∀ t, h = some t → t.isOpen attempt = true → t.guard = .none) :
    Linked name (c.act name (.guard attempt guard)).2
      (h.map fun t => if t.isOpen attempt then { t with guard := .live guard } else t) := by
  have hset : Linked name (c.setLifecycle name (c.lifecycle name)) h := hl.set hl.agrees rfl rfl
  obtain ⟨t, rfl, hopen⟩ | hclosed := open_or_closed h attempt
  · have hg : t.guard = .none := hfirst t rfl hopen
    obtain ⟨ho, rfl⟩ : t.outcome = none ∧ t.name = attempt := by
      simpa [Attempt.isOpen] using hopen
    have hc : c.attempts = [(t.name, name)] := by simp [hl.attempts, openAttempts, ho]
    have hd : c.guards = [] := by simp [hl.guards, liveGuards, hg]
    have hact : (c.act name (.guard t.name guard)).2 =
        { c.setLifecycle name (c.lifecycle name) with guards := [(guard, name)] } := by
      simp [Custody.act, Custody.dropGuard, setLifecycle, hc, hd, Named.get?, Named.put,
        Named.erase]
    rw [hact, Option.map_some, if_pos hopen]
    exact ⟨hset.agrees.handOut ho hg guard, hset.attempts, rfl⟩
  · rw [act_guard_closed (by rw [hl.attempts]; exact get?_openAttempts hclosed),
      map_closed hclosed]
    exact hset

theorem begin (hl : Linked name c h) (attempt : String) :
    Linked name (c.act name (.begin attempt)).2
      (latest h (.begin attempt, (c.act name (.begin attempt)).1)) := by
  have hset : Linked name (c.setLifecycle name (c.lifecycle name)) h := hl.set hl.agrees rfl rfl
  cases hb : (c.lifecycle name).beginStart with
  | error cause =>
    have hlatest : latest h (.begin attempt, .error cause) = h := by cases h <;> rfl
    rw [act_begin_error attempt hb, hlatest]
    exact hset
  | ok l =>
    obtain ⟨hs, ha⟩ := hl.agrees.begin attempt hb
    obtain ⟨hno, hng⟩ := hl.idle hs
    rw [act_begin_ok attempt hb hno]
    refine ⟨?_, rfl, hng⟩
    show Agrees ((c.setLifecycle name l).lifecycle name) (some { name := attempt })
    rw [lifecycle_setLifecycle]
    exact ha

theorem of_keeps (hl : Linked name c h) {c' : Custody} (hk : c'.lifecycles = c.lifecycles ∧
    c'.attempts = c.attempts ∧ c'.guards = c.guards) : Linked name c' h :=
  ⟨by rw [lifecycle, hk.1]; exact hl.agrees, hk.2.1.trans hl.attempts, hk.2.2.trans hl.guards⟩

/-- Every act keeps the link, with the history that its answer extends. -/
theorem act (hl : Linked name c h) (a : Act)
    (ho : isFirstGuard h (a, (c.act name a).1) = true) :
    Linked name (c.act name a).2 (latest h (a, (c.act name a).1)) := by
  have hset : Linked name (c.setLifecycle name (c.lifecycle name)) h := hl.set hl.agrees rfl rfl
  cases a with
  | begin attempt => exact hl.begin attempt
  | guard attempt guard =>
    refine hl.handOut attempt guard fun t ht hopen => ?_
    subst ht
    simpa [isFirstGuard, hopen] using ho
  | succeeded attempt => exact hset.finish attempt true
  | failed attempt => exact hset.finish attempt false
  | abandon attempt => exact hset.finish attempt false
  | exit guard => exact hset.dropGuard guard
  | fault =>
    refine hset.set hl.agrees.fault (openAttempts_map fun t => ?_) (liveGuards_map fun t => ?_)
    · simp only [Attempt.note]
      split <;> exact ⟨rfl, rfl⟩
    · simp only [Attempt.note]
      split <;> rfl
  | requestStop | stop =>
    exact hset.set hl.agrees.requestStop (openAttempts_map fun _ => ⟨rfl, rfl⟩)
      (liveGuards_map fun _ => rfl)
  | restart =>
    rw [latest_still rfl]
    exact hset.set hl.agrees.noteRestart rfl rfl
  | enter scope =>
    rw [latest_still rfl]
    exact hset.of_keeps (enter_keeps _ name scope)
  | leave scope =>
    rw [latest_still rfl]
    exact hset.of_keeps (leave_keeps _ scope)
  | wait | ensureUsable | ensureIdle operation | look =>
    rw [latest_still rfl]
    exact hset

end Linked

/-! ## Runs -/

/-- The history of the latest attempt after a transcript. -/
def history (h : Option Attempt) (entries : List Entry) : Option Attempt := entries.foldl latest h

theorem Linked.after {name : String} : ∀ {c : Custody} {h : Option Attempt} (acts : List Act),
    Linked name c h → orderly h (transcript name c acts) = true →
      Linked name (after name c acts) (history h (transcript name c acts))
  | _, _, [], hl, _ => hl
  | _, _, a :: acts, hl, ho => by
    obtain ⟨hfirst, hrest⟩ : _ ∧ _ := by simpa [transcript, orderly] using ho
    exact Linked.after acts (hl.act a hfirst) hrest

/-- The state of a lifecycle is the one that the history of its latest attempt amounts to, whatever
was done with it and its attempts and guards and in whichever order. -/
theorem state_eq_word (name : String) (acts : List Act)
    (ho : orderly none (transcript name {} acts) = true) :
    ((after name {} acts).lifecycle name).state =
      word (history none (transcript name {} acts)) :=
  (Linked.after acts ⟨.new rfl rfl rfl, rfl, rfl⟩ ho).agrees.state_eq

/-- A stop asked for and a loop ended during one start leave nothing behind for the next. -/
theorem state_eq_word_second_attempt :
    let acts : List Act := [.begin "a", .requestStop, .guard "a" "g", .begin "b", .exit "g",
      .succeeded "a", .fault, .begin "b", .guard "b" "h", .succeeded "b"]
    orderly none (transcript "session" {} acts) = true ∧
      ((after "session" {} acts).lifecycle "session").state = .running := by
  intro acts
  have ho : orderly none (transcript "session" {} acts) = true := by decide +kernel
  exact ⟨ho, (state_eq_word "session" acts ho).trans (by decide +kernel)⟩

end Custody

end MarketFeed
