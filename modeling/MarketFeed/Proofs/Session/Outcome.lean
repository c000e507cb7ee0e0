import MarketFeed.Proofs.Rehearsal.Host
import MarketFeed.Proofs.Session.Order

set_option autoImplicit false

/-!
# How a loop ends, and what comes after

Five things end a loop: a shutdown, a close, a verdict on a record, a fault without an exception
callback, and an exception callback that does not ask for a restart. `Ending` says what the end
makes of the lifecycle, `Recorded` when a stop was requested before it, and `Inert` what a run does
to a session that has faulted. `ending_decides_state` puts them together.
-/

namespace MarketFeed

/-! ## Endings -/

/-- Whether a move ends the loop on a fault that is not recovered from: a turn that takes the fault
from the feed while there is no exception callback, or a reply of the exception callback that is no
restart. -/
def Session.Fatal (s : Session) : Move → Prop
  | .turn => ∃ event cause, s.next? = some event ∧ event.fault? = some cause ∧
      s.has (·.exception) = false
  | .reply r => ∃ cause, s.calling = some (.exception cause) ∧ r.recovery ≠ .restart
  | _ => False

/-- A loop is over once it is gone. -/
theorem Sound.ended_iff {s : Session} {e : Replay} (hs : Sound s e) (m : Move) :
    .ended ∈ s.marks m ↔ s.loop?.isSome = true ∧ (s.move m).loop? = none := by
  obtain ⟨e', hs'⟩ := hs.move m
  have harr : Mark.ended ∉ s.arrivals m := by
    cases m with
    | start => unfold Session.arrivals; split <;> simp
    | _ => simp [Session.arrivals]
  have hdel : Mark.ended ∉ s.deliveries m := by
    unfold Session.deliveries
    split <;> simp
  have hk : s.sinks.isSome = s.loop?.isSome := by rw [hs.sinks, Session.loop?, hs.engine]
  have hk' : (s.move m).sinks.isNone = (s.move m).loop?.isNone := by
    rw [Session.loop?, hs'.engine, ← Option.not_isSome, hs'.sinks, Option.not_isSome]
  simp [Session.marks, harr, hdel, hk, hk']

/-- A move that ends the loop of a session. -/
structure Ending (s : Session) (m : Move) (s' : Session) : Prop where
  active : s.lifecycle.isActive = true
  sinks : s'.sinks = none
  lifecycle : (s.Fatal m ∧ s'.lifecycle = s.lifecycle.fault.loopExited) ∨
    (¬ s.Fatal m ∧ s'.lifecycle = s.lifecycle.loopExited)

theorem Attuned.isActive {l : Lifecycle} {loop shutdown : Bool} (h : Attuned l loop shutdown)
    (hl : loop = true) : l.isActive = true := by
  subst hl
  cases h with
  | idle _ _ _ hl => cases hl
  | starting hs | running hs | stopRequested hs =>
    simp [Lifecycle.isActive, SessionState.isActive, hs]
  | faulted _ hl => cases hl

theorem Rule.ending {s s' : Session} {e : Replay} {m : Move} {t : List Mark} (hs : Sound s e)
    (hr : Rule s e m t s') (he : .ended ∈ t) : Ending s m s' := by
  have active {loop : Replay.Loop} (hl : e.loop = some loop) : s.lifecycle.isActive = true :=
    hs.attuned.isActive (by rw [hl]; rfl)
  have calm (r : Reply) : (s.noteReply r).lifecycle = s.lifecycle := (Sound.noteReply_keeps s r).2.2
  cases hr with
  | still | subscribe | reconnect | started | stop | release => cases he
  | start | feed | greet | event | record | consult => simp at he
  | greeted | offer | proceed | restart => simp at he
  | shutdown hc hl hg hsd =>
    refine ⟨active hl, rfl, .inr ⟨?_, rfl⟩⟩
    rintro ⟨_, _, hn, -⟩
    simp [Session.next?, hc, hs.engine, hsd] at hn
  | close hc hl hg hsd hq =>
    refine ⟨active hl, rfl, .inr ⟨?_, rfl⟩⟩
    rintro ⟨_, _, hn, hf, -⟩
    rw [hs.next_take hc hl hg hsd hq] at hn
    cases hn
    cases hf
  | giveUp hc hk hl hg hsd hq hf hx =>
    have hhas : s.has (·.exception) = false := by simp [Session.has, hk, hx]
    exact ⟨active hl, rfl, .inl ⟨⟨_, _, hs.next_take hc hl hg hsd hq, hf, hhas⟩, rfl⟩⟩
  | @stopped c r k v hk hc hv =>
    obtain ⟨loop, hl, -⟩ := hs.calling c hc
    refine ⟨active hl, rfl, .inr ⟨?_, ?_⟩⟩
    · rintro ⟨cause, hx, -⟩
      rw [hc, Option.some.injEq] at hx
      subst hx
      cases hv
    · exact congrArg Lifecycle.loopExited (calm r)
  | @abandon cause r hc hrc =>
    obtain ⟨loop, hl, -⟩ := hs.calling _ hc
    exact ⟨active hl, rfl, .inl ⟨⟨cause, hc, by rw [hrc]; simp⟩, rfl⟩⟩

namespace Ending

variable {s s' : Session} {m : Move}

/-- The session has faulted just if the fault was fatal and no stop was requested. -/
theorem faulted_iff (h : Ending s m s') :
    s'.state = .faulted ↔ s.Fatal m ∧ s.state ≠ .stopRequested := by
  obtain ⟨ha, -, ⟨hf, hl⟩ | ⟨hf, hl⟩⟩ := h
  · rw [Session.state, Session.state, hl]
    cases hw : s.lifecycle.state <;>
      simp [Lifecycle.isActive, SessionState.isActive, Lifecycle.fault, Lifecycle.loopExited, hw,
        hf] at ha ⊢
  · rw [Session.state, Session.state, hl]
    cases hw : s.lifecycle.state <;>
      simp [Lifecycle.isActive, SessionState.isActive, Lifecycle.loopExited, hw, hf] at ha ⊢

/-- Otherwise it is idle, or will be once the start is complete. -/
theorem settled (h : Ending s m s') (hn : s'.state ≠ .faulted) :
    s'.state = if s.state = .starting then .starting else .idle := by
  obtain ⟨ha, -, ⟨hf, hl⟩ | ⟨hf, hl⟩⟩ := h
  · rw [Session.state, hl] at hn
    rw [Session.state, Session.state, hl]
    cases hw : s.lifecycle.state <;>
      simp [Lifecycle.isActive, SessionState.isActive, Lifecycle.fault, Lifecycle.loopExited,
        hw] at ha hn ⊢
  · rw [Session.state, Session.state, hl]
    cases hw : s.lifecycle.state <;>
      simp [Lifecycle.isActive, SessionState.isActive, Lifecycle.loopExited, hw] at ha ⊢

end Ending

/-! ## Ends before the start is complete -/

/-- A loop that ended before its start was complete stays ended, and the start waits. -/
theorem Rule.over {s s' : Session} {e : Replay} {m : Move} {t : List Mark} (hs : Sound s e)
    (hw : s.state = .starting) (hk : s.sinks = none) (hm : m ≠ .started)
    (hr : Rule s e m t s') : s'.state = .starting ∧ s'.sinks = none := by
  have hw' : s.lifecycle.state = .starting := hw
  have hl : e.loop = none := by simpa [hk] using hs.sinks.symm
  have hc := hs.calling_none hl
  cases hr with
  | still | subscribe | reconnect | feed => exact ⟨hw, hk⟩
  | start _ hi => rw [hi] at hw; cases hw
  | started => exact absurd rfl hm
  | stop | release => exact ⟨by simp [Session.state, Lifecycle.requestStop, hw'], hk⟩
  | shutdown _ h | close _ h => rw [hl] at h; cases h
  | greet _ _ h | event _ _ h | record _ _ h | consult _ _ h | giveUp _ _ h =>
    rw [hl] at h; cases h
  | greeted h | offer _ h | proceed _ h | stopped _ h | restart _ h | abandon h =>
    rw [hc] at h; cases h

/-- Such a session is idle once the start is complete. -/
theorem Sound.idle_once_started {s : Session} {e : Replay} (hs : Sound s e)
    (hw : s.state = .starting) (hk : s.sinks = none) (ns : List Move)
    (hn : ∀ n ∈ ns, n ≠ .started) :
    (s.after (ns ++ [.started])).state = .idle := by
  induction ns generalizing s e with
  | nil =>
    have hx : s.lifecycle.exited = true := by
      have hl : e.loop.isSome = false := by rw [← hs.sinks, hk]; rfl
      rw [Session.state] at hw
      cases hs.attuned with
      | starting _ hx => rw [hx, hl]; rfl
      | idle h | running h | stopRequested h | faulted h => rw [hw] at h; cases h
    rw [Session.state] at hw
    rw [List.nil_append, Session.after_cons, Session.after_nil, hs.move_started]
    simp [Session.state, Lifecycle.finishStart, hw, hx]
  | cons n ns ih =>
    obtain ⟨hn, hns⟩ := List.forall_mem_cons.mp hn
    obtain ⟨hw', hk'⟩ := (hs.rule n).over hs hw hk hn
    obtain ⟨e', hs'⟩ := hs.move n
    exact ih hs' hw' hk' hns

/-! ## Requests -/

def Move.asksStop : Move → Bool
  | .stop | .release _ => true
  | _ => false

/-- Whether a stop was asked for since a loop was last claimed; `before` says so of the time before
the run. -/
def Session.asked (s : Session) (before : Bool) : List Move → Bool
  | [] => before
  | m :: ms =>
    (s.move m).asked (m.asksStop || (before && !(s.marks m).any Mark.isClaim)) ms

/-- The lifecycle has on record whether a stop was asked for: a request waits while the start is not
complete, and shows in the state from then on. -/
structure Recorded (l : Lifecycle) (asked : Bool) : Prop where
  starting : l.state = .starting → l.stopAsked = asked
  running : l.state = .running → asked = false
  stopRequested : l.state = .stopRequested → asked = true

namespace Recorded

variable {l : Lifecycle} {asked : Bool}

theorem of_inactive (h : l.isActive = false) : Recorded l asked := by
  rw [Lifecycle.isActive] at h
  constructor <;> intro hw <;> rw [hw] at h <;> cases h

theorem requestStop (l : Lifecycle) : Recorded l.requestStop true := by
  unfold Lifecycle.requestStop
  split
  · exact ⟨fun h => (by cases h), fun h => (by cases h), fun _ => rfl⟩
  · rename_i hw
    exact ⟨fun _ => rfl, fun h => (by rw [hw] at h; cases h), fun _ => rfl⟩
  · rename_i hr hw
    exact ⟨fun h => absurd h hw, fun h => absurd h hr, fun _ => rfl⟩

theorem loopExited (h : Recorded l asked) : Recorded l.loopExited asked := by
  unfold Lifecycle.loopExited
  split
  · exact ⟨h.starting, h.running, h.stopRequested⟩
  · exact of_inactive rfl
  · exact of_inactive rfl
  · exact h
  · exact h

theorem fault (h : Recorded l asked) : Recorded l.fault asked := by
  unfold Lifecycle.fault
  split
  · exact of_inactive rfl
  · exact of_inactive rfl
  · exact h

theorem noteRestart (h : Recorded l asked) : Recorded l.noteRestart asked :=
  ⟨h.starting, h.running, h.stopRequested⟩

theorem finishStart (h : Recorded l asked) : Recorded (l.finishStart true) asked := by
  by_cases hw : l.state = .starting
  · have ha := h.starting hw
    cases hx : l.exited with
    | true => exact of_inactive (by simp [Lifecycle.finishStart, Lifecycle.isActive, hw, hx,
        SessionState.isActive])
    | false =>
      constructor <;> intro hs <;> cases hq : l.stopAsked <;>
        simp [Lifecycle.finishStart, hw, hx, hq] at hs <;> rw [← ha, hq]
  · have hs : (l.finishStart true).state = l.state := by simp [Lifecycle.finishStart, hw]
    exact ⟨fun h' => absurd (hs ▸ h') hw, fun h' => h.running (hs ▸ h'),
      fun h' => h.stopRequested (hs ▸ h')⟩

end Recorded

theorem Sound.lifecycle_of_asksStop {s : Session} {e : Replay} (hs : Sound s e) {m : Move}
    (hm : m.asksStop = true) : (s.move m).lifecycle = s.lifecycle.requestStop := by
  cases m with
  | stop => simp only [Session.move, hs.requestStop_eq]
  | release delivering => rw [hs.move_release]
  | _ => cases hm

theorem Rule.recorded {s s' : Session} {e : Replay} {m : Move} {t : List Mark} {asked : Bool}
    (hs : Sound s e) (hm : m.asksStop = false) (h : Recorded s.lifecycle asked)
    (hr : Rule s e m t s') : Recorded s'.lifecycle (asked && !t.any Mark.isClaim) := by
  have calm (r : Reply) : (s.noteReply r).lifecycle = s.lifecycle := (Sound.noteReply_keeps s r).2.2
  -- no other rule than `start` claims the session
  have unclaimed {l : Lifecycle} (hl : Recorded l asked) (ht : t.any Mark.isClaim = false) :
      Recorded l (asked && !t.any Mark.isClaim) := by
    rwa [ht, Bool.not_false, Bool.and_true]
  cases hr with
  | start _ hw =>
    have hq : s.lifecycle.stopAsked = false := by
      rw [Session.state] at hw
      cases hs.attuned with
      | idle _ _ hq => exact hq
      | starting h | running h | stopRequested h | faulted h => rw [hw] at h; cases h
    have ht (x : Option Metadata) (k : Sinks) :
        (asked && !([Mark.claimed k x].any Mark.isClaim)) = false := by simp [Mark.isClaim]
    rw [ht]
    exact ⟨fun _ => hq, fun h => (by cases h), fun h => (by cases h)⟩
  | stop | release => cases hm
  | still | subscribe | reconnect => exact unclaimed h rfl
  | started => exact unclaimed h.finishStart rfl
  | feed | greet => exact unclaimed h (by simp [Mark.isClaim])
  | shutdown | close => exact unclaimed h.loopExited rfl
  | event | consult => exact unclaimed h rfl
  | record =>
    refine unclaimed ?_ (by simp [Mark.isClaim])
    unfold Session.showing
    split <;> exact h
  | giveUp => exact unclaimed h.fault.loopExited rfl
  | greeted | offer | proceed =>
    refine unclaimed ?_ rfl
    exact (calm _).symm ▸ h
  | stopped => exact unclaimed (Recorded.loopExited ((calm _).symm ▸ h)) rfl
  | restart => exact unclaimed h.noteRestart rfl
  | abandon => exact unclaimed h.fault.loopExited rfl

theorem Sound.recorded {s : Session} {e : Replay} (hs : Sound s e) {asked : Bool}
    (h : Recorded s.lifecycle asked) (ms : List Move) :
    Recorded (s.after ms).lifecycle (s.asked asked ms) := by
  induction ms generalizing s e asked with
  | nil => exact h
  | cons m ms ih =>
    obtain ⟨e', hs'⟩ := hs.move m
    refine ih hs' ?_
    cases hm : m.asksStop with
    | true =>
      rw [Bool.true_or, hs.lifecycle_of_asksStop hm]
      exact .requestStop _
    | false =>
      rw [Bool.false_or]
      exact (hs.rule m).recorded hs hm h

/-- A move that ends a loop leaves the session faulted just if the loop ends on a fault that is not
recovered from, and no stop was asked for or the one that was still waits for the start. -/
theorem Sound.faulted_iff {s : Session} {e : Replay} (hs : Sound s e) {asked : Bool}
    (h : Recorded s.lifecycle asked) {m : Move} (he : .ended ∈ s.marks m) :
    (s.move m).state = .faulted ↔ s.Fatal m ∧ (asked = false ∨ s.state = .starting) := by
  have hend := (hs.rule m).ending hs he
  rw [hend.faulted_iff]
  refine and_congr_right fun _ => ⟨fun hw => ?_, fun hw hq => ?_⟩
  · have ha := hend.active
    rw [Session.state] at hw ⊢
    cases hl : s.lifecycle.state with
    | starting => exact .inr rfl
    | running => exact .inl (h.running hl)
    | stopRequested => exact absurd hl hw
    | idle | faulted => simp [Lifecycle.isActive, SessionState.isActive, hl] at ha
  · rcases hw with ha | hw
    · rw [h.stopRequested hq] at ha
      cases ha
    · rw [hw] at hq
      cases hq

/-! ## Consultations -/

/-- The exception callback is with the fault that it was called for, which was just taken. -/
theorem Rule.consulted {s s' : Session} {e : Replay} {m : Move} {t : List Mark}
    {cause : EngineError} (hr : Rule s e m t s') (hc : s'.calling = some (.exception cause)) :
    (takes t = [] ∧ s.calling = some (.exception cause)) ∨
      ∃ event, takes t = [event] ∧ event.fault? = some cause := by
  cases hr with
  | still | subscribe | reconnect | start | started | stop | release => exact .inl ⟨rfl, hc⟩
  | feed => exact .inl ⟨takes_pushed _, hc⟩
  | @greet loop k =>
    cases hkm : k.metadata <;> simp [Sinks.greeting, hkm] at hc
  | record =>
    unfold Session.showing at hc
    split at hc <;> cases hc
  | consult _ _ _ _ _ _ hf =>
    cases hc
    exact .inr ⟨_, rfl, hf⟩
  | shutdown | close | event | giveUp => cases hc
  | greeted | offer | proceed | stopped | restart | abandon => cases hc

theorem Sound.consulted {s : Session} {e : Replay} (hs : Sound s e) (taken : List FeedEvent)
    (h : ∀ cause, s.calling = some (.exception cause) →
      ∃ event, taken.getLast? = some event ∧ event.fault? = some cause)
    (ms : List Move) {cause : EngineError}
    (hc : (s.after ms).calling = some (.exception cause)) :
    ∃ event, (taken ++ takes (s.trace ms)).getLast? = some event ∧
      event.fault? = some cause := by
  induction ms generalizing s e taken with
  | nil =>
    rw [Session.trace_nil, takes, List.filterMap_nil, List.append_nil]
    exact h cause hc
  | cons m ms ih =>
    obtain ⟨e', hs'⟩ := hs.move m
    rw [Session.trace_cons, takes_append, ← List.append_assoc]
    refine ih hs' _ (fun cause hc => ?_) hc
    rcases (hs.rule m).consulted hc with ⟨ht, hc⟩ | ⟨event, ht, hf⟩
    · rw [ht, List.append_nil]
      exact h cause hc
    · rw [ht]
      exact ⟨event, List.getLast?_concat, hf⟩

/-! ## Faulted sessions -/

/-- What a run does to a session that has faulted: what is pushed stays in the feed, the engine may
be asked to shut down, and nothing else happens. -/
structure Inert (s : Session) (t : List Mark) (s' : Session) : Prop where
  state : s'.state = .faulted
  calls : calls t = []
  takes : takes t = []
  calling : s'.calling = none
  subscriptions : s'.subscriptions = s.subscriptions
  symbols : s'.symbols = s.symbols
  stats : s'.stats = s.stats
  /-- The connection and the subscriptions of the engine stay what they were. -/
  engine : ∃ e shutdown, s.engine = .replay e ∧
    s'.engine = .replay { e with queue := e.queue ++ pushes t, shutdown }

namespace Inert

variable {s s' : Session} {t : List Mark}

theorem trans {s'' : Session} {u : List Mark} (h : Inert s t s') (h' : Inert s' u s'') :
    Inert s (t ++ u) s'' := by
  refine ⟨h'.state, ?_, ?_, h'.calling, h'.subscriptions.trans h.subscriptions,
    h'.symbols.trans h.symbols, h'.stats.trans h.stats, ?_⟩
  · rw [calls_append, h.calls, h'.calls, List.append_nil]
  · rw [takes_append, h.takes, h'.takes, List.append_nil]
  · obtain ⟨e, sd, he, he'⟩ := h.engine
    obtain ⟨e', sd', hq, hq'⟩ := h'.engine
    rw [he', Engine.replay.injEq] at hq
    subst hq
    refine ⟨e, sd', he, ?_⟩
    rw [hq', pushes_append, List.append_assoc]

end Inert

theorem Rule.inert {s s' : Session} {e : Replay} {m : Move} {t : List Mark} (hs : Sound s e)
    (hw : s.state = .faulted) (hr : Rule s e m t s') : Inert s t s' := by
  obtain ⟨hl, hk, hc⟩ := hs.inactive (by rw [hw]; rfl)
  have hw' : s.lifecycle.state = .faulted := hw
  have he := hs.engine
  have quiet (l : Lifecycle) (sd rel : Bool) (hl : l.state = .faulted) :
      Inert s [] { s with
        lifecycle := l, released := rel, engine := .replay { e with shutdown := sd } } := by
    refine ⟨hl, rfl, rfl, hc, rfl, rfl, rfl, e, sd, he, ?_⟩
    simp [pushes]
  cases hr with
  | still =>
    have := quiet s.lifecycle e.shutdown s.released hw
    rwa [← he] at this
  | subscribe hu => simp [Lifecycle.ensureUsable, hw'] at hu
  | reconnect hu => simp [Session.ensureReady, Lifecycle.ensureIdle, hw'] at hu
  | start _ hi => rw [hi] at hw; cases hw
  | started => exact quiet _ _ _ (by simp [Lifecycle.finishStart, hw'])
  | stop => exact quiet _ _ _ (by simp [Lifecycle.requestStop, hw'])
  | release => exact quiet _ _ _ (by simp [Lifecycle.requestStop, hw'])
  | feed =>
    refine ⟨hw, calls_pushed _, takes_pushed _, hc, rfl, rfl, rfl, e, e.shutdown, he, ?_⟩
    rw [pushes_pushed]
  | shutdown _ h | close _ h => rw [hl] at h; cases h
  | greet _ _ h | event _ _ h | record _ _ h | consult _ _ h | giveUp _ _ h =>
    rw [hl] at h; cases h
  | greeted h | offer _ h | proceed _ h | stopped _ h | restart _ h | abandon h =>
    rw [hc] at h; cases h

theorem Sound.inert {s : Session} {e : Replay} (hs : Sound s e) (hw : s.state = .faulted)
    (ns : List Move) : Inert s (s.trace ns) (s.after ns) := by
  induction ns generalizing s e with
  | nil =>
    obtain ⟨-, -, hc⟩ := hs.inactive (by rw [hw]; rfl)
    refine ⟨hw, rfl, rfl, hc, rfl, rfl, rfl, e, e.shutdown, hs.engine, ?_⟩
    simp [pushes, hs.engine]
  | cons n ns ih =>
    have hn := (hs.rule n).inert hs hw
    obtain ⟨e', hs'⟩ := hs.move n
    exact hn.trans (ih hs' hn.state)

/-- A session that has faulted refuses everything that would begin something. -/
theorem Session.refuses {s : Session} (hw : s.state = .faulted) :
    (∀ k : Sinks, (k.record || k.event) = true →
      s.beginStart k = (.error (.failed .faulted), s)) ∧
    (∀ sub, s.subscribe sub = (.error (.failed .faulted), s)) ∧
    s.reconnect = (.error (.failed .faulted), s) ∧
    s.resubscribe = (.error (.failed .faulted), s) := by
  have hw : s.lifecycle.state = .faulted := hw
  refine ⟨fun k hk => ?_, fun sub => ?_, ?_, ?_⟩
  · have hk : (!k.record && !k.event) = false := by rw [← Bool.not_or, hk]; rfl
    simp [beginStart, claim, hk, Lifecycle.beginStart, hw]
  · simp [subscribe, Lifecycle.ensureUsable, hw]
  · simp [reconnect, ensureReady, Lifecycle.ensureIdle, hw]
  · simp [resubscribe, ensureReady, Lifecycle.ensureIdle, hw]

/-! ## The claim of an ending -/

/-- In any run of a new replay session:

* A move that ends a loop leaves the session faulted just if it ends the loop on a fault that is not
  recovered from and no stop was asked for since the loop was claimed. A stop that was asked for
  while the start is not complete does not count until it is. Otherwise the session is idle, or, if
  the loop ended before its start was complete, will be idle as soon as the start is.
* Once the start is complete, a stop is requested just if one was asked for since the loop was
  claimed.
* The exception callback is with the fault that was taken from the feed last.
* Once the session has faulted nothing happens to it any more (`Inert`), starts, subscriptions,
  reconnections and resubscriptions are refused for this reason, and stops and waits are told that
  the loop is over. -/
theorem ending_decides_state (config : Config) (clock : List UInt64) (ms : List Move) :
    let s₀ := Session.new config (.replay (.new config clock))
    let s := s₀.after ms
    (∀ m, s.loop?.isSome = true → (s.move m).loop? = none →
      ((s.move m).state = .faulted ↔
        s.Fatal m ∧ (s₀.asked false ms = false ∨ s.state = .starting)) ∧
      ((s.move m).state ≠ .faulted → s.state ≠ .starting → (s.move m).state = .idle) ∧
      ((s.move m).state ≠ .faulted → s.state = .starting → ∀ ns, (∀ n ∈ ns, n ≠ .started) →
        ((s.move m).after (ns ++ [.started])).state = .idle)) ∧
    (s.state = .running ∨ s.state = .stopRequested →
      (s.state = .stopRequested ↔ s₀.asked false ms = true)) ∧
    (∀ cause, s.calling = some (.exception cause) →
      ∃ event, (takes (s₀.trace ms)).getLast? = some event ∧ event.fault? = some cause) ∧
    (s.state = .faulted → ∀ ns, let s' := s.after ns
      Inert s (s.trace ns) s' ∧
      (∀ k : Sinks, (k.record || k.event) = true →
        s'.beginStart k = (.error (.failed .faulted), s')) ∧
      (∀ sub, s'.subscribe sub = (.error (.failed .faulted), s')) ∧
      s'.reconnect = (.error (.failed .faulted), s') ∧
      s'.resubscribe = (.error (.failed .faulted), s') ∧
      ∀ (x : Rehearsal.Stage) fuel timeout, x.session = s' →
        ((Rehearsal.Stage.host fuel).stop timeout x).1 = .ok .stop ∧
        ((Rehearsal.Stage.host fuel).stop timeout x).2.session = s' ∧
        ((Rehearsal.Stage.host fuel).wait timeout x).1 = .stop ∧
        ((Rehearsal.Stage.host fuel).wait timeout x).2.session = s') := by
  intro s₀ s
  have hnew : Sound s₀ (.new config clock) := .new config clock
  obtain ⟨e, hs⟩ := hnew.after ms
  have hrec : Recorded s.lifecycle (s₀.asked false ms) := hnew.recorded (.of_inactive rfl) ms
  refine ⟨fun m hl hl' => ?_, fun hw => ?_, fun cause hc => ?_, fun hw ns => ?_⟩
  · have he : .ended ∈ s.marks m := (hs.ended_iff m).mpr ⟨hl, hl'⟩
    have hend := (hs.rule m).ending hs he
    refine ⟨hs.faulted_iff hrec he, fun hf hw => ?_, fun hf hw ns hns => ?_⟩
    · rw [hend.settled hf, if_neg hw]
    · obtain ⟨e', hs'⟩ := hs.move m
      exact hs'.idle_once_started (by rw [hend.settled hf, if_pos hw]) hend.sinks ns hns
  · refine ⟨hrec.stopRequested, fun ha => hw.resolve_left fun hr => ?_⟩
    rw [hrec.running hr] at ha
    cases ha
  · have h := hnew.consulted [] (fun _ h => (by cases h)) ms hc
    rwa [List.nil_append] at h
  · intro s'
    have hin : Inert s (s.trace ns) s' := hs.inert hw ns
    obtain ⟨e', hs'⟩ := hs.after ns
    obtain ⟨hstart, hsub, hrec, hres⟩ := Session.refuses hin.state
    refine ⟨hin, hstart, hsub, hrec, hres, fun x fuel timeout hx => ?_⟩
    have hsx : Sound x.session e' := by rw [hx]; exact hs'
    have hwx : x.session.state.isActive = false := by rw [hx, hin.state]; rfl
    rw [← hx]
    obtain ⟨h₁, h₂⟩ := Rehearsal.stop_inactive hsx.engine hwx fuel timeout
    have hwait := Rehearsal.wait_inactive hwx fuel timeout
    rw [hwait]
    exact ⟨h₁, h₂, rfl, rfl⟩

/-- A stop that is asked for while the loop greets, before the start is complete, does not keep a
fault from ending the session: it has faulted, although the fault came after the stop. -/
theorem fault_overtakes_early_stop :
    let s₀ := Session.new {} (.replay (.new {}))
    let ms : List Move := [.push (.fault (.gateway "lost")), .start ⟨true, false, true, true⟩, .turn,
      .stop, .reply (.code 0), .turn]
    let s := s₀.after ms
    s₀.asked false ms = true ∧ s.calling = some (.exception (.gateway "lost")) ∧
      (s.move (.reply (.code 1))).loop? = none ∧
      (s.after [.reply (.code 1), .started]).state = .faulted := by
  decide

/-- A stop that the exception callback asks for itself comes in time. -/
example :
    let ms : List Move := [.start ⟨true, false, false, true⟩, .started,
      .push (.fault (.gateway "lost")), .turn, .turn, .stop, .reply (.code 1)]
    ((Session.new {} (.replay (.new {}))).after ms).state = .idle := by
  decide

end MarketFeed
