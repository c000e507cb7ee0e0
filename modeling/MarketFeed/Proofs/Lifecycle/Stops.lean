import MarketFeed.Proofs.Lifecycle.History

set_option autoImplicit false

/-!
# A stop that comes before a fault

Once a loop was asked to stop, a fault reported later in the same attempt changes nothing, and the
attempt ends idle or by its own failure (`stop_outlives_fault`). There is one gap: while the start
is not complete the request only waits in a flag, which a fault does not look at
(`fault_overtakes_waiting_stop`).

Attempts may hand out guards here as often as they like, so the state is no function of the history,
and the invariant (`Stage`) says less than the one for orderly attempts. It is indexed by whether
the attempt was asked to stop while it was active.
-/

namespace MarketFeed

namespace Custody

/-- Whether an act asks the loop to stop. -/
def Act.asksStop : Act → Bool
  | .requestStop | .stop => true
  | _ => false

/-- Whether an entry is a start that claimed the lifecycle. -/
def isClaim : Entry → Bool
  | (.begin _, .ok) => true
  | _ => false

/-- Whether an act reports a fault while the start is not complete. -/
def isEarlyFault (l : Lifecycle) : Act → Bool
  | .fault => l.state == .starting
  | _ => false

/-- Whether no act reports a fault while the start is not complete. -/
def faultsWait (name : String) : Custody → List Act → Bool
  | _, [] => true
  | c, a :: acts => !isEarlyFault (c.lifecycle name) a && faultsWait name (c.act name a).2 acts

/-! ## Stages -/

/-- How far the latest attempt has come; `asked` says that it was asked to stop while it was active.
Such a request is not lost while it waits, and no attempt runs on after it. -/
inductive Stage (asked : Bool) (l : Lifecycle) : Option Attempt → Prop
  | new : l.state = .idle → asked = false → Stage asked l none
  | starting {t : Attempt} : l.state = .starting → t.outcome = none →
      (t.guard = .dropped → l.exited = true) → (asked = true → l.stopAsked = true) →
      Stage asked l (some t)
  | running {t : Attempt} : l.state = .running → t.outcome = some true → t.guard ≠ .dropped →
      asked = false → Stage asked l (some t)
  | stopRequested {t : Attempt} : l.state = .stopRequested → t.outcome = some true →
      t.guard ≠ .dropped → Stage asked l (some t)
  | idle {t : Attempt} : l.state = .idle → t.outcome = some true → Stage asked l (some t)
  | faulted {t : Attempt} : l.state = .faulted → (asked = true → t.outcome = some false) →
      Stage asked l (some t)

namespace Stage

variable {asked : Bool} {l : Lifecycle} {t : Attempt} {h : Option Attempt}

/-- A request may be left out of account. -/
theorem mono (hs : Stage asked l h) {asked' : Bool} (hle : asked' = true → asked = true) :
    Stage asked' l h := by
  have hnot (hn : asked = false) : asked' = false := by
    cases asked' with
    | false => rfl
    | true => rw [hle rfl] at hn; cases hn
  cases hs with
  | new hs hn => exact .new hs (hnot hn)
  | starting hs ho he hq => exact .starting hs ho he fun ha => hq (hle ha)
  | running hs ho hg hn => exact .running hs ho hg (hnot hn)
  | stopRequested hs ho hg => exact .stopRequested hs ho hg
  | idle hs ho => exact .idle hs ho
  | faulted hs hn => exact .faulted hs fun ha => hn (hle ha)

/-- Of the history only the outcome and the guard matter. -/
theorem map (hs : Stage asked l h) {f : Attempt → Attempt}
    (hf : ∀ t, (f t).outcome = t.outcome ∧ (f t).guard = t.guard) : Stage asked l (h.map f) := by
  cases hs with
  | new hs hn => exact .new hs hn
  | @starting t hs ho he hq =>
    exact .starting hs ((hf t).1.trans ho) (fun hg => he ((hf t).2 ▸ hg)) hq
  | @running t hs ho hg hn =>
    exact .running hs ((hf t).1.trans ho) (fun h => hg ((hf t).2 ▸ h)) hn
  | @stopRequested t hs ho hg =>
    exact .stopRequested hs ((hf t).1.trans ho) fun h => hg ((hf t).2 ▸ h)
  | @idle t hs ho => exact .idle hs ((hf t).1.trans ho)
  | @faulted t hs ho => exact .faulted hs fun hn => (hf t).1.trans (ho hn)

/-- Only an idle lifecycle is claimed, and nobody asked the new attempt to stop. -/
theorem begin {l' : Lifecycle} (attempt : String) (hb : l.beginStart = .ok l') :
    l.state = .idle ∧ Stage false l' (some { name := attempt }) := by
  unfold Lifecycle.beginStart at hb
  split at hb
  · rename_i hs
    cases hb
    exact ⟨hs, .starting rfl rfl (fun h => by cases h) fun h => by cases h⟩
  · cases hb
  · cases hb

/-- A start that succeeds answers the waiting request, unless the loop has already ended. -/
theorem finish (hs : Stage asked l (some t)) (ho : t.outcome = none) (ok : Bool) :
    Stage asked (l.finishStart ok) (some { t with outcome := some ok }) := by
  cases hs with
  | starting hs _ he hq =>
    cases ok with
    | false => exact .faulted (by simp [Lifecycle.finishStart, hs]) fun _ => rfl
    | true =>
      cases hx : l.exited with
      | true => exact .idle (by simp [Lifecycle.finishStart, hs, hx]) rfl
      | false =>
        have hg : t.guard ≠ .dropped := fun hg => by rw [he hg] at hx; cases hx
        cases hw : l.stopAsked with
        | true => exact .stopRequested (by simp [Lifecycle.finishStart, hs, hx, hw]) rfl hg
        | false =>
          have hn : asked = false := by
            cases asked with
            | false => rfl
            | true => rw [hq rfl] at hw; cases hw
          exact .running (by simp [Lifecycle.finishStart, hs, hx, hw]) rfl hg hn
  | running _ h => rw [ho] at h; cases h
  | stopRequested _ h => rw [ho] at h; cases h
  | idle _ h => rw [ho] at h; cases h
  | faulted hs hn =>
    refine .faulted (by simp [Lifecycle.finishStart, hs]) fun ha => ?_
    have := hn ha
    rw [ho] at this
    cases this

/-- Once a loop has ended it does not matter what becomes of the guard. -/
theorem exit (hs : Stage asked l (some t)) (fate : GuardFate) :
    Stage asked l.loopExited (some { t with guard := fate }) := by
  cases hs with
  | starting hs ho he hq =>
    simp only [Lifecycle.loopExited, hs]
    exact .starting rfl ho (fun _ => rfl) hq
  | running hs ho | stopRequested hs ho =>
    exact .idle (by simp [Lifecycle.loopExited, hs]) ho
  | idle hs ho => exact .idle (by simp [Lifecycle.loopExited, hs]) ho
  | faulted hs hn => exact .faulted (by simp [Lifecycle.loopExited, hs]) hn

theorem exit_any (hs : Stage asked l h) : Stage asked l.loopExited h := by
  cases h with
  | none =>
    cases hs with
    | new hs hn => exact .new (by simp [Lifecycle.loopExited, hs]) hn
  | some t => exact hs.exit t.guard

theorem handOut (hs : Stage asked l (some t)) (ho : t.outcome = none) (guard : String) :
    Stage asked l (some { t with guard := .live guard }) := by
  cases hs with
  | starting hs _ _ hq => exact .starting hs ho (fun h => by cases h) hq
  | running _ h => rw [ho] at h; cases h
  | stopRequested _ h => rw [ho] at h; cases h
  | idle _ h => rw [ho] at h; cases h
  | faulted hs hn => exact .faulted hs hn

/-- An active attempt that is asked to stop is asked from then on. -/
theorem requestStop (hs : Stage asked l h) : Stage (asked || l.isActive) l.requestStop h := by
  cases hs with
  | new hs hn =>
    exact .new (by simp [Lifecycle.requestStop, hs])
      (by simp [hn, Lifecycle.isActive, SessionState.isActive, hs])
  | starting hs ho he _ =>
    simp only [Lifecycle.requestStop, hs]
    exact .starting rfl ho he fun _ => rfl
  | running hs ho hg _ => exact .stopRequested (by simp [Lifecycle.requestStop, hs]) ho hg
  | stopRequested hs ho hg => exact .stopRequested (by simp [Lifecycle.requestStop, hs]) ho hg
  | idle hs ho => exact .idle (by simp [Lifecycle.requestStop, hs]) ho
  | faulted hs hn =>
    refine .faulted (by simp [Lifecycle.requestStop, hs]) fun ha => hn ?_
    simpa [Lifecycle.isActive, SessionState.isActive, hs] using ha

theorem fault (hs : Stage asked l h) (hw : asked = true → l.state ≠ .starting) :
    Stage asked l.fault h := by
  cases hs with
  | new hs hn => exact .new (by simp [Lifecycle.fault, hs]) hn
  | starting hs _ _ _ => exact .faulted (by simp [Lifecycle.fault, hs]) fun ha => absurd hs (hw ha)
  | running hs _ _ hn =>
    exact .faulted (by simp [Lifecycle.fault, hs]) fun ha => by rw [hn] at ha; cases ha
  | stopRequested hs ho hg => exact .stopRequested (by simp [Lifecycle.fault, hs]) ho hg
  | idle hs ho => exact .idle (by simp [Lifecycle.fault, hs]) ho
  | faulted hs hn => exact .faulted (by simp [Lifecycle.fault, hs]) hn

theorem noteRestart (hs : Stage asked l h) : Stage asked l.noteRestart h := by
  cases hs with
  | new hs hn => exact .new hs hn
  | starting hs ho he hq => exact .starting hs ho he hq
  | running hs ho hg hn => exact .running hs ho hg hn
  | stopRequested hs ho hg => exact .stopRequested hs ho hg
  | idle hs ho => exact .idle hs ho
  | faulted hs hn => exact .faulted hs hn

/-- Nothing is left for a fault to change once a stop was asked for and the start is complete. -/
theorem fault_eq (hs : Stage true l h) (hw : l.state ≠ .starting) : l.fault = l := by
  cases hs with
  | new _ hn => cases hn
  | starting hs => exact absurd hs hw
  | running _ _ _ hn => cases hn
  | stopRequested hs | idle hs | faulted hs => simp [Lifecycle.fault, hs]

theorem outcome_of_faulted (hs : Stage true l (some t)) (hl : l.state = .faulted) :
    t.outcome = some false := by
  cases hs with
  | starting h | running h | stopRequested h | idle h => rw [hl] at h; cases h
  | faulted _ ho => exact ho rfl

theorem idle_of_dropped (hs : Stage true l (some t)) (ho : t.outcome = some true)
    (hg : t.guard = .dropped) : l.state = .idle := by
  cases hs with
  | starting _ h => rw [ho] at h; cases h
  | running _ _ h | stopRequested _ _ h => exact absurd hg h
  | idle hs => exact hs
  | faulted _ h =>
    have := h rfl
    rw [ho] at this
    cases this

end Stage

/-! ## Custody -/

theorem lifecycle_setLifecycle_ne {name other : String} (h : name ≠ other) (c : Custody)
    (l : Lifecycle) : (c.setLifecycle other l).lifecycle name = c.lifecycle name := by
  simp only [setLifecycle, lifecycle, Named.get?_put_ne h]

theorem dropGuard_lifecycle (c : Custody) (guard name : String) :
    (c.dropGuard guard).lifecycle name =
      if c.guards.get? guard = some name then (c.lifecycle name).loopExited
      else c.lifecycle name := by
  unfold dropGuard
  split
  · rename_i hn
    rw [hn, if_neg (by simp)]
  · rename_i other hn
    rw [hn]
    by_cases ho : name = other
    · subst ho
      rw [if_pos rfl, modifyLifecycle, lifecycle_setLifecycle]
      rfl
    · rw [if_neg (by simpa using Ne.symm ho), modifyLifecycle, lifecycle_setLifecycle_ne ho]
      rfl

theorem dropGuard_attempts (c : Custody) (guard : String) :
    (c.dropGuard guard).attempts = c.attempts := by
  unfold dropGuard
  split <;> rfl

theorem dropGuard_get?_ne {guard other : String} (h : other ≠ guard) (c : Custody) :
    (c.dropGuard guard).guards.get? other = c.guards.get? other := by
  unfold dropGuard
  split
  · rfl
  · exact Named.get?_erase_ne h c.guards

/-- The lifecycle is at a stage of the history. Custody holds the open attempt and nothing else, and
the live guard among others. -/
structure Tracks (asked : Bool) (name : String) (c : Custody) (h : Option Attempt) : Prop where
  stage : Stage asked (c.lifecycle name) h
  attempts : c.attempts = openAttempts name h
  guard : ∀ t, h = some t → ∀ g, t.guard = .live g → c.guards.get? g = some name

namespace Tracks

variable {asked : Bool} {name : String} {c : Custody} {h : Option Attempt}

theorem of_keeps (ht : Tracks asked name c h) {c' : Custody} (hk : c'.lifecycles = c.lifecycles ∧
    c'.attempts = c.attempts ∧ c'.guards = c.guards) : Tracks asked name c' h :=
  ⟨by rw [lifecycle, hk.1]; exact ht.stage, hk.2.1.trans ht.attempts, by
    rw [hk.2.2]; exact ht.guard⟩

/-- Acts on the lifecycle alone keep what is held. -/
theorem set (ht : Tracks asked name c h) {asked' : Bool} {l : Lifecycle} {f : Attempt → Attempt}
    (hs : Stage asked' l h)
    (hf : ∀ t, (f t).name = t.name ∧ (f t).outcome = t.outcome ∧ (f t).guard = t.guard) :
    Tracks asked' name (c.setLifecycle name l) (h.map f) := by
  refine ⟨?_, ?_, fun t' ht' g hg => ?_⟩
  · rw [lifecycle_setLifecycle]
    exact hs.map fun t => (hf t).2
  · rw [openAttempts_map fun t => ⟨(hf t).1, (hf t).2.1⟩]
    exact ht.attempts
  · obtain ⟨t, rfl, rfl⟩ := Option.map_eq_some_iff.mp ht'
    exact ht.guard t rfl g ((hf t).2.2 ▸ hg)

theorem renew (ht : Tracks asked name c h) {asked' : Bool} {l : Lifecycle}
    (hs : Stage asked' l h) : Tracks asked' name (c.setLifecycle name l) h := by
  simpa using ht.set (f := id) hs fun _ => ⟨rfl, rfl, rfl⟩

theorem finish (ht : Tracks asked name c h) (attempt : String) (ok : Bool) :
    Tracks asked name (c.finish attempt ok)
      (h.map fun t => if t.isOpen attempt then { t with outcome := some ok } else t) := by
  obtain ⟨t, rfl, hopen⟩ | hclosed := open_or_closed h attempt
  · obtain ⟨ho, rfl⟩ : t.outcome = none ∧ t.name = attempt := by
      simpa [Attempt.isOpen] using hopen
    have hc : c.attempts = [(t.name, name)] := by simp [ht.attempts, openAttempts, ho]
    rw [finish_of_open hc, Option.map_some, if_pos hopen]
    refine ⟨by rw [lifecycle_setLifecycle]; exact ht.stage.finish ho ok, rfl, fun t' ht' => ?_⟩
    cases ht'
    exact ht.guard t rfl
  · rw [finish_of_closed (by rw [ht.attempts]; exact get?_openAttempts hclosed),
      map_closed hclosed]
    exact ht

/-- A guard that is dropped ends the loop if the lifecycle is the one it is of. -/
theorem dropGuard (ht : Tracks asked name c h) (guard : String) :
    Tracks asked name (c.dropGuard guard)
      (h.map fun t => if t.guard = .live guard then { t with guard := .dropped } else t) := by
  refine ⟨?_, ?_, fun t' ht' g hg => ?_⟩
  · rw [dropGuard_lifecycle]
    cases h with
    | none =>
      split
      · exact ht.stage.exit_any
      · exact ht.stage
    | some t =>
      rw [Option.map_some]
      by_cases hlive : t.guard = .live guard
      · rw [if_pos (ht.guard t rfl guard hlive), if_pos hlive]
        exact ht.stage.exit .dropped
      · rw [if_neg hlive]
        split
        · exact ht.stage.exit_any
        · exact ht.stage
  · rw [dropGuard_attempts, openAttempts_map fun t => by split <;> exact ⟨rfl, rfl⟩]
    exact ht.attempts
  · obtain ⟨t, rfl, rfl⟩ := Option.map_eq_some_iff.mp ht'
    by_cases hlive : t.guard = .live guard
    · rw [if_pos hlive] at hg
      cases hg
    · rw [if_neg hlive] at hg
      have hne : g ≠ guard := fun h => hlive (h ▸ hg)
      rw [dropGuard_get?_ne hne]
      exact ht.guard t rfl g hg

/-- A guard is handed out of an open attempt, and one that goes by its name is dropped before. -/
theorem handOut (ht : Tracks asked name c h) (attempt guard : String) :
    Tracks asked name (c.act name (.guard attempt guard)).2
      (h.map fun t => if t.isOpen attempt then { t with guard := .live guard } else t) := by
  have hset := ht.renew ht.stage
  obtain ⟨t, rfl, hopen⟩ | hclosed := open_or_closed h attempt
  · obtain ⟨ho, rfl⟩ : t.outcome = none ∧ t.name = attempt := by
      simpa [Attempt.isOpen] using hopen
    have hc : c.attempts = [(t.name, name)] := by simp [ht.attempts, openAttempts, ho]
    have hdrop := hset.dropGuard guard
    generalize hd : (c.setLifecycle name (c.lifecycle name)).dropGuard guard = d at hdrop
    have hact : (c.act name (.guard t.name guard)).2 =
        { d with guards := d.guards.put guard name } := by
      rw [← hd]
      simp [Custody.act, setLifecycle, hc, Named.get?]
    have hstage : Stage asked (d.lifecycle name) (some { t with guard := .live guard }) := by
      have hs := hdrop.stage
      rw [Option.map_some] at hs
      split at hs
      · exact hs.handOut ho guard
      · exact hs.handOut ho guard
    have hat : d.attempts = openAttempts name (some t) := by
      rw [← hd, dropGuard_attempts]
      exact ht.attempts
    rw [hact, Option.map_some, if_pos hopen]
    refine ⟨hstage, hat, fun t' ht' g hg => ?_⟩
    cases ht'
    cases hg
    exact Named.get?_put_self _ _ _
  · rw [act_guard_closed (by rw [ht.attempts]; exact get?_openAttempts hclosed),
      map_closed hclosed]
    exact hset

/-- No attempt is open of an idle lifecycle. -/
theorem attempts_of_idle (ht : Tracks asked name c h) (hs : (c.lifecycle name).state = .idle) :
    c.attempts = [] := by
  obtain ⟨hstage, ha, -⟩ := ht
  rw [ha]
  cases hstage with
  | new => rfl
  | starting h | running h | stopRequested h | faulted h => rw [hs] at h; cases h
  | idle _ ho => simp [openAttempts, ho]

theorem begin (ht : Tracks asked name c h) (attempt : String)
    (hn : asked = true → isClaim (.begin attempt, (c.act name (.begin attempt)).1) = false) :
    Tracks asked name (c.act name (.begin attempt)).2
      (latest h (.begin attempt, (c.act name (.begin attempt)).1)) := by
  cases hb : (c.lifecycle name).beginStart with
  | error cause =>
    have hlatest : latest h (.begin attempt, .error cause) = h := by cases h <;> rfl
    rw [act_begin_error attempt hb, hlatest]
    exact ht.renew ht.stage
  | ok l =>
    obtain ⟨hs, hstage⟩ := Stage.begin attempt hb
    have hact := act_begin_ok attempt hb (ht.attempts_of_idle hs)
    rw [hact] at hn ⊢
    have hasked : asked = false := by
      cases asked with
      | false => rfl
      | true => exact hn rfl
    subst hasked
    refine ⟨?_, rfl, fun t ht' g hg => ?_⟩
    · show Stage false ((c.setLifecycle name l).lifecycle name) (some { name := attempt })
      rw [lifecycle_setLifecycle]
      exact hstage
    · cases ht'
      cases hg

/-- Every act is tracked, and a stop asked for before is remembered while the attempt goes on and no
fault comes early. -/
theorem act (ht : Tracks asked name c h) (a : Act)
    (hn : asked = true → isClaim (a, (c.act name a).1) = false)
    (hf : asked = true → isEarlyFault (c.lifecycle name) a = false) :
    Tracks asked name (c.act name a).2 (latest h (a, (c.act name a).1)) := by
  have hset := ht.renew ht.stage
  cases a with
  | begin attempt => exact ht.begin attempt hn
  | guard attempt guard => exact ht.handOut attempt guard
  | succeeded attempt => exact hset.finish attempt true
  | failed attempt => exact hset.finish attempt false
  | abandon attempt => exact hset.finish attempt false
  | exit guard => exact hset.dropGuard guard
  | fault =>
    refine hset.set (ht.stage.fault fun ha => ?_) fun t => ?_
    · simpa [isEarlyFault] using hf ha
    · simp only [Attempt.note]
      split <;> exact ⟨rfl, rfl, rfl⟩
  | requestStop | stop =>
    exact hset.set (ht.stage.requestStop.mono fun ha => by rw [ha, Bool.true_or])
      fun _ => ⟨rfl, rfl, rfl⟩
  | restart =>
    rw [latest_still rfl]
    exact hset.renew ht.stage.noteRestart
  | enter scope =>
    rw [latest_still rfl]
    exact hset.of_keeps (enter_keeps _ name scope)
  | leave scope =>
    rw [latest_still rfl]
    exact hset.of_keeps (leave_keeps _ scope)
  | wait | ensureUsable | ensureIdle operation | look =>
    rw [latest_still rfl]
    exact hset

/-- A stop asked of an active lifecycle is remembered. -/
theorem ask (ht : Tracks asked name c h) (ha : (c.lifecycle name).isActive = true) {a : Act}
    (hs : a.asksStop = true) :
    Tracks true name (c.act name a).2 (latest h (a, (c.act name a).1)) := by
  have hstage := ht.stage.requestStop
  rw [ha, Bool.or_true] at hstage
  cases a with
  | requestStop | stop =>
    exact (ht.renew ht.stage).set hstage fun _ => ⟨rfl, rfl, rfl⟩
  | _ => cases hs

end Tracks

/-! ## Runs -/

theorem Tracks.after {asked : Bool} {name : String} : ∀ {c : Custody} {h : Option Attempt}
    (acts : List Act), Tracks asked name c h →
      (asked = true → ∀ e ∈ transcript name c acts, isClaim e = false) →
      (asked = true → faultsWait name c acts = true) →
      Tracks asked name (after name c acts) (history h (transcript name c acts))
  | _, _, [], ht, _, _ => ht
  | c, _, a :: acts, ht, hn, hf => by
    have hf (ha : asked = true) : isEarlyFault (c.lifecycle name) a = false ∧
        faultsWait name (c.act name a).2 acts = true := by
      simpa [faultsWait] using hf ha
    refine Tracks.after acts (ht.act a (fun ha => ?_) fun ha => (hf ha).1) (fun ha => ?_)
      fun ha => (hf ha).2
    · exact hn ha _ List.mem_cons_self
    · exact fun e he => hn ha e (List.mem_cons_of_mem _ he)

theorem after_append (name : String) (c : Custody) (acts acts' : List Act) :
    after name c (acts ++ acts') = after name (after name c acts) acts' := List.foldl_append

theorem transcript_append (name : String) (c : Custody) (acts acts' : List Act) :
    transcript name c (acts ++ acts') =
      transcript name c acts ++ transcript name (after name c acts) acts' := by
  induction acts generalizing c with
  | nil => rfl
  | cons a acts ih => exact congrArg _ (ih _)

/-- What a run has come to after an act in its midst. -/
theorem after_through (name : String) (c : Custody) (before : List Act) (a : Act)
    (later : List Act) : after name c (before ++ a :: later) =
      after name ((after name c before).act name a).2 later := by
  rw [after_append]
  rfl

theorem history_through (name : String) (c : Custody) (h : Option Attempt) (before : List Act)
    (a : Act) (later : List Act) :
    history h (transcript name c (before ++ a :: later)) =
      history (latest (history h (transcript name c before))
        (a, ((after name c before).act name a).1))
        (transcript name ((after name c before).act name a).2 later) := by
  rw [transcript_append, history, List.foldl_append]
  rfl

/-- An attempt that was asked to stop while it was active, whatever was done before and whatever is
done later, as long as no new attempt begins and no fault is reported before its start is complete:

* A fault reported once the start is complete changes nothing.
* If the lifecycle has faulted, the attempt has failed or was abandoned.
* If the attempt has succeeded and its guard was dropped, the lifecycle is idle. -/
theorem stop_outlives_fault (name : String) (before : List Act) (request : Act)
    (during : List Act) (hs : request.asksStop = true)
    (ha : ((after name {} before).lifecycle name).isActive = true)
    (hn : ∀ e ∈ transcript name (after name {} (before ++ [request])) during, isClaim e = false)
    (hf : faultsWait name (after name {} (before ++ [request])) during = true) :
    let l := (after name {} (before ++ request :: during)).lifecycle name
    ∃ t, history none (transcript name {} (before ++ request :: during)) = some t ∧
      (l.state ≠ .starting → l.fault = l) ∧
      (l.state = .faulted → t.outcome = some false) ∧
      (t.outcome = some true → t.guard = .dropped → l.state = .idle) := by
  intro l
  rw [after_through] at hn hf
  have hnew : Tracks false name {} none := ⟨.new rfl rfl, rfl, fun _ h => by cases h⟩
  have hbefore := hnew.after before (fun h => by cases h) fun h => by cases h
  have hduring := (hbefore.ask ha hs).after during (fun _ => hn) fun _ => hf
  rw [← after_through, ← history_through] at hduring
  have hstage : Stage true l _ := hduring.stage
  cases hh : history none (transcript name {} (before ++ request :: during)) with
  | none =>
    rw [hh] at hstage
    cases hstage with
    | new _ hasked => cases hasked
  | some t =>
    rw [hh] at hstage
    exact ⟨t, rfl, hstage.fault_eq, hstage.outcome_of_faulted, hstage.idle_of_dropped⟩

/-- A stop asked for while the start waits takes effect, and the faults that follow do not. -/
theorem stop_outlives_fault_queued :
    let before : List Act := [.begin "a", .guard "a" "g"]
    let during : List Act := [.succeeded "a", .fault, .exit "g", .fault]
    let c := after "session" {} (before ++ .requestStop :: during)
    ((after "session" {} before).lifecycle "session").state = .starting ∧
      faultsWait "session" (after "session" {} (before ++ [.requestStop])) during = true ∧
      (c.lifecycle "session").state = .idle := by
  intro before during c
  have hw : ((after "session" {} before).lifecycle "session").state = .starting := by
    decide +kernel
  have hf : faultsWait "session" (after "session" {} (before ++ [.requestStop])) during = true := by
    decide +kernel
  obtain ⟨t, ht, -, -, hidle⟩ := stop_outlives_fault "session" before .requestStop during rfl
    (by rw [Lifecycle.isActive, hw]; rfl) (by decide +kernel) hf
  have hend : t.outcome = some true ∧ t.guard = .dropped := by
    cases ht
    decide +kernel
  exact ⟨hw, hf, hidle hend.1 hend.2⟩

/-- A fault reported while a stop waits for the start to be complete is not held back by it: the
attempt succeeds and its guard is dropped, but the lifecycle has faulted for good. -/
theorem fault_overtakes_waiting_stop :
    let acts : List Act :=
      [.begin "a", .guard "a" "g", .requestStop, .fault, .succeeded "a", .exit "g"]
    history none (transcript "session" {} acts) =
      some { name := "a", outcome := some true, guard := .dropped, stopAsked := true,
             faulted := true } ∧
      ((after "session" {} (acts.take 4)).lifecycle "session").state = .faulted ∧
      ((after "session" {} acts).lifecycle "session").state = .faulted := by
  decide +kernel

end Custody

end MarketFeed
