import MarketFeed.Proofs.Rehearsal.Host
import MarketFeed.Proofs.Session.Stopping
import MarketFeed.Proofs.Threads.Weaving

set_option autoImplicit false

/-!
# Cancellation

What a session still does once it was asked to stop. The request reaches the lifecycle first and the
engine later, and the loop looks at the engine before it waits for an event, not after. So it may
take one more event, which is lost: by then every delivery is turned away. `Threads.grace` is the
number of events that it may still take, `Does.halting` says what any one step does after the
request, and `Woven.halting` what a run does until the loop is over.
-/

namespace MarketFeed

open Threads

variable {t : Threads} {e : Replay}

/-! ## The feed -/

/-- What a step takes and leaves in the feed is what was there and what it pushes. -/
theorem Threads.Does.queue {x : Step} {m : List Mark} {t' : Threads}
    (he : t.session.engine = .replay e) (hd : Does t e x m t') :
    takes m ++ t'.session.queue = t.session.queue ++ pushes m := by
  have hs : t.session.queue = e.queue := by simp [Session.queue, he]
  rw [hs]
  cases hd with
  | still => simp [takes, pushes, hs]
  | feed => simp [Session.queue]
  | greet => simp [Session.queue]
  | take _ hq => rw [hq]; exact (List.append_nil _).symm
  | @record k =>
    rw [← hs]
    cases hk : k.record <;>
      simp [routing, Session.routed, Session.queue, Sinks.forRecord, hk, takes, pushes,
        List.filterMap_cons, Mark.took?, Mark.pushed?]
  | @greeted m r => rw [← hs]; cases r <;> exact (List.append_nil _).symm
  | @offer ev rec r => rw [← hs]; cases r <;> exact (List.append_nil _).symm
  | @proceed c r => rw [← hs]; cases r <;> exact (List.append_nil _).symm
  | @stopped c r => rw [← hs]; cases r <;> exact (List.append_nil _).symm
  | @abandon cause r => rw [← hs]; cases r <;> exact (List.append_nil _).symm
  | shutdown | receive | timeout | drop | event | consult | giveUp | leave | claim | lapse
  | succeed | ask | askStop | giveAway | carry => rw [← hs]; exact (List.append_nil _).symm
  | finish | restart | launch | subscribe | reconnect | tell => exact (List.append_nil _).symm

/-- What a run takes and leaves in the feed is what was there and what it pushes. -/
theorem Woven.takes_queue (h : Woven t e) (xs : List Step) :
    takes (t.trace xs) ++ (t.after xs).session.queue = t.session.queue ++ pushes (t.trace xs) := by
  induction xs generalizing t e with
  | nil => simp [takes, pushes]
  | cons x xs ih =>
    obtain ⟨e', h'⟩ := h.step x
    have hq := (h.does x).queue h.engine
    simp only [Threads.trace_cons, Threads.after_cons, takes_append, pushes_append]
    rw [List.append_assoc, ih h', ← List.append_assoc, hq, List.append_assoc]

/-! ## One step -/

/-- Whether the engine was told to shut down its loop. -/
def Session.told (s : Session) : Bool :=
  match s.engine with
  | .replay e => e.shutdown
  | .manual _ => false

/-- How many events the loop may take before it finds that it is to shut down, once the engine hears
of it: none if it looks first and the engine was told, else one, unless it has one already or is on
its way out. -/
def Threads.grace (t : Threads) : Nat :=
  match t.place with
  | some .receiving => 1
  | some .looking | some .calling => if t.session.told then 0 else 1
  | _ => 0

theorem Session.told_eq {s : Session} (he : s.engine = .replay e) : s.told = e.shutdown := by
  rw [told, he]

namespace Threads

/-- The grace depends on the place and on what the engine was told. -/
theorem grace_congr {t' : Threads} (hp : t'.place = t.place)
    (hs : t'.session.told = t.session.told) : t'.grace = t.grace := by
  rw [grace, grace, hp, hs]

theorem grace_le_one (t : Threads) : t.grace ≤ 1 := by
  unfold grace
  split
  · exact Nat.le_refl 1
  · split <;> decide
  · split <;> decide
  · exact Nat.zero_le 1

/-- An engine that is told of the stop leaves no more grace. -/
theorem grace_le {t' : Threads} (hp : t'.place = t.place) (hs : t'.session.told = true) :
    t'.grace ≤ t.grace := by
  rw [grace, grace, hp, hs]
  split
  · exact Nat.le_refl 1
  · exact Nat.zero_le _
  · exact Nat.zero_le _
  · exact Nat.zero_le _

/-- Once the engine was told, only a loop that waits already has grace. -/
theorem grace_of_told (hp : t.place ≠ some .receiving) (hs : t.session.told = true) :
    t.grace = 0 := by
  rw [grace, hs]
  split
  · exact absurd ‹_› hp
  · rfl
  · rfl
  · rfl

theorem grace_inside (hp : t.place = some .looking ∨ t.place = some .calling) :
    t.grace = if t.session.told then 0 else 1 := by
  rcases hp with hp | hp <;> rw [grace, hp]

end Threads

/-- What a step may do to a session that was asked to stop: it takes what its grace allows, it
delivers nothing and calls only what is pending, and either the loop goes on under the same request
or it ends in the idle state. -/
structure Halting (t : Threads) (m : List Mark) (t' : Threads) : Prop where
  takes : (takes m).length + t'.grace ≤ t.grace
  delivered : ∀ r routed, .delivered r routed ∉ m
  calls : ∀ c ∈ calls m, t.session.Pending c
  /-- No event is brought to the event callback any more. -/
  event : ∀ ev r, t'.session.calling = some (.event ev r) → t.session.calling = some (.event ev r)
  outcome : (.ended ∉ m ∧ t'.session.state = .stopRequested) ∨
    (.ended ∈ m ∧ t'.session.state = .idle)

namespace Halting

variable {t' t'' : Threads} {m n : List Mark}

/-- A step that shows no more than pushes, after which the same callback runs, or none. -/
theorem quietly (hm : ∀ mark ∈ m, ∃ event, mark = .pushed event) (hg : t'.grace ≤ t.grace)
    (hc : t'.session.calling = t.session.calling ∨ t'.session.calling = none)
    (hw : t'.session.state = .stopRequested) : Halting t m t' := by
  obtain ⟨htk, hcl, -⟩ := nothing_of_pushes hm
  refine ⟨by simpa [htk] using hg, fun r routed h => ?_, fun c h => ?_, fun ev r h => ?_,
    .inl ⟨fun h => ?_, hw⟩⟩
  · obtain ⟨event, h⟩ := hm _ h
    cases h
  · rw [hcl] at h
    cases h
  · rcases hc with hc | hc <;> rw [hc] at h
    · exact h
    · cases h
  · obtain ⟨event, h⟩ := hm _ h
    cases h

theorem silent (hg : t'.grace ≤ t.grace)
    (hc : t'.session.calling = t.session.calling ∨ t'.session.calling = none)
    (hw : t'.session.state = .stopRequested) : Halting t [] t' :=
  quietly (fun _ h => absurd h List.not_mem_nil) hg hc hw

/-- A callback returns, and the next one that is called, if any, is pending. -/
theorem replying {c : Call} {r : Reply} (cs : List Call) (hg : t'.grace ≤ t.grace)
    (hcs : ∀ c ∈ cs, t.session.Pending c) (hc : t'.session.calling = cs.head?)
    (hw : t'.session.state = .stopRequested) : Halting t (.replied c r :: cs.map .called) t' := by
  have htk : MarketFeed.takes (.replied c r :: cs.map .called) = [] := takes_called cs
  have hcl : MarketFeed.calls (.replied c r :: cs.map .called) = cs := calls_called cs
  refine ⟨by simpa [htk] using hg, fun r routed h => by simp at h, fun c h => ?_, fun ev r h => ?_,
    .inl ⟨by simp, hw⟩⟩
  · rw [hcl] at h
    exact hcs c h
  · rw [hc] at h
    exact (hcs _ (List.mem_of_mem_head? h)).elim

/-- A callback returns, and no other one is called. -/
theorem returning {c : Call} {r : Reply} (hg : t'.grace ≤ t.grace)
    (hc : t'.session.calling = none) (hw : t'.session.state = .stopRequested) :
    Halting t [.replied c r] t' :=
  replying [] hg (fun _ h => absurd h List.not_mem_nil) hc hw

theorem trans (h : Halting t m t') (he : .ended ∉ m) (h' : Halting t' n t'') :
    Halting t (m ++ n) t'' := by
  have back : ∀ c, t'.session.Pending c → t.session.Pending c := by
    intro c hc
    cases c with
    | metadata => trivial
    | event => exact hc
    | record r => obtain ⟨ev, hc⟩ := hc; exact ⟨ev, h.event ev r hc⟩
    | exception => exact hc
  refine ⟨?_, fun r routed hm => ?_, fun c hc => ?_, fun ev r hc => h.event ev r (h'.event ev r hc),
    ?_⟩
  · have := h.takes
    have := h'.takes
    rw [takes_append, List.length_append]
    omega
  · exact (List.mem_append.mp hm).elim (h.delivered r routed) (h'.delivered r routed)
  · rw [calls_append] at hc
    rcases List.mem_append.mp hc with hc | hc
    · exact h.calls c hc
    · exact back c (h'.calls c hc)
  · rcases h'.outcome with ⟨hn, hw⟩ | ⟨hn, hw⟩
    · exact .inl ⟨fun hm => (List.mem_append.mp hm).elim he hn, hw⟩
    · exact .inr ⟨List.mem_append_right m hn, hw⟩

end Halting

/-- Under a request no start is under way. -/
theorem Woven.not_starting (h : Woven t e) (hw : t.session.state = .stopRequested) :
    t.starting = none := by
  rw [Session.state] at hw
  cases h.phase with
  | stopRequested _ _ hst => exact hst
  | idle hs | claimed hs | launched hs | running hs | faulted hs => rw [hw] at hs; cases hs

theorem Threads.Does.halting {x : Step} {m : List Mark} {t' : Threads} (h : Woven t e)
    (hw : t.session.state = .stopRequested) (hd : Does t e x m t') : Halting t m t' := by
  have hlw : t.session.lifecycle.state = .stopRequested := hw
  have hsr : t.session.lifecycle.stopRequested = true := by
    simp [Lifecycle.stopRequested, hlw]
  have htold := t.session.told_eq h.engine
  have hst := h.not_starting hw
  -- a loop that goes on inside keeps its grace, also one whose callback is followed by another
  have inside {t'' : Threads} (hp : t.place = some .looking ∨ t.place = some .calling)
      (hp' : t''.place = some .looking ∨ t''.place = some .calling)
      (hs : t''.session.told = t.session.told) : t''.grace ≤ t.grace :=
    Nat.le_of_eq (by rw [grace_inside hp, grace_inside hp', hs])
  have hreplied {r : Reply} {c : Option Call} {p : Place} :
      (t.returned r c p).session.told = t.session.told ∧
        (t.returned r c p).session.state = .stopRequested := by
    cases r <;> exact ⟨rfl, hw⟩
  cases hd with
  | still => exact .silent (Nat.le_refl _) (.inl rfl) hw
  | @greet loop k hp hk hl hg =>
    refine ⟨?_, fun r routed hm => by simp at hm, fun c hm => ?_, fun ev r hm => ?_,
      .inl ⟨by simp, hw⟩⟩
    · rw [takes_called, List.length_nil, Nat.zero_add]
      refine inside (.inl hp) ?_ htold.symm
      cases hkm : k.metadata <;> simp [Place.after, Sinks.greeting, hkm]
    · rw [calls_called] at hm
      cases hkm : k.metadata with
      | true =>
        obtain rfl : c = .metadata loop.metadata.timeless := by
          simpa [Sinks.greeting, hkm] using hm
        trivial
      | false => simp [Sinks.greeting, hkm] at hm
    · cases hkm : k.metadata <;> simp [Sinks.greeting, hkm] at hm
  | shutdown hp => exact .silent (Nat.zero_le _) (.inl rfl) hw
  | receive hp _ hsd =>
    refine .silent (Nat.le_of_eq ?_) (.inl rfl) hw
    rw [grace_inside (.inl hp), htold, hsd]
    rfl
  | timeout hp =>
    refine .silent ?_ (.inl rfl) hw
    rw [grace_inside (.inl rfl), Threads.grace, hp]
    exact (by split <;> decide)
  | take hp =>
    refine ⟨?_, fun r routed hm => by simp at hm, fun _ hm => (by cases hm), fun _ _ hm => hm,
      .inl ⟨by simp, hw⟩⟩
    rw [show t.grace = 1 by rw [Threads.grace, hp]]
    exact Nat.le_refl 1
  | drop hp => exact .silent (Nat.zero_le _) (.inl rfl) hw
  | event _ _ hn => rw [hsr] at hn; cases hn
  | record _ _ hn => rw [hsr] at hn; cases hn
  | consult _ _ hn => rw [hsr] at hn; cases hn
  | giveUp _ _ hn => rw [hsr] at hn; cases hn
  | leave hp =>
    refine ⟨Nat.zero_le _, fun r routed hm => by simp at hm, fun _ hm => (by cases hm),
      fun _ _ hm => hm, .inr ⟨List.mem_cons_self, ?_⟩⟩
    simp [Session.state, Session.loopExit, Lifecycle.loopExited, hlw]
  | finish hp =>
    have := h.phase.live_of_stopRequested hlw
    rw [hp] at this
    cases this
  | @greeted m r hc =>
    exact .returning (inside (.inr (h.place_calling hc)) (.inl rfl) hreplied.1) rfl hreplied.2
  | @offer ev rec r k _ hc =>
    refine .replying [.record rec] ?_ (fun c hm => ?_) rfl hreplied.2
    · exact inside (.inr (h.place_calling hc)) (.inr rfl) hreplied.1
    · obtain rfl := List.mem_singleton.mp hm
      exact ⟨ev, hc⟩
  | proceed _ _ _ hn => rw [hsr] at hn; cases hn
  | @stopped c r => exact .returning (Nat.zero_le _) rfl hreplied.2
  | @restart loop cause r hl hc =>
    exact .returning (inside (.inr (h.place_calling hc)) (.inl rfl) htold.symm) rfl hw
  | @abandon cause r hc =>
    have hf : t.session.lifecycle.fault.state = .stopRequested := by simp [Lifecycle.fault, hlw]
    exact .returning (Nat.zero_le _) rfl hf
  | claim _ hi => rw [hi] at hw; cases hw
  | launch hst' => rw [hst] at hst'; cases hst'
  | lapse hst' => rw [hst] at hst'; cases hst'
  | succeed hst' => rw [hst] at hst'; cases hst'
  | ask | carry => exact .silent (Nat.le_refl _) (.inl rfl) hw
  | askStop | giveAway =>
    have hq : t.session.lifecycle.requestStop.state = .stopRequested := by
      simp [Lifecycle.requestStop, hlw]
    exact .silent (Nat.le_of_eq (grace_congr rfl rfl)) (.inl rfl) hq
  | subscribe | reconnect =>
    exact .silent (Nat.le_of_eq (grace_congr rfl htold.symm)) (.inl rfl) hw
  | tell => exact .silent (grace_le rfl rfl) (.inl rfl) hw
  | feed =>
    refine .quietly (fun mark hm => ?_) (Nat.le_of_eq (grace_congr rfl htold.symm)) (.inl rfl) hw
    obtain ⟨event, -, rfl⟩ := List.mem_map.mp hm
    exact ⟨event, rfl⟩

/-! ## Runs -/

namespace Woven

/-- A run from the request up to the end of the loop. -/
theorem halting (h : Woven t e) (hw : t.session.state = .stopRequested) (xs : List Step)
    (he : .ended ∉ t.trace xs.dropLast) : Halting t (t.trace xs) (t.after xs) := by
  induction xs generalizing t e with
  | nil => exact .silent (Nat.le_refl _) (.inl rfl) hw
  | cons x xs ih =>
    have hx : Halting t (t.marks x) (t.step x) := (h.does x).halting h hw
    cases xs with
    | nil => simpa using hx
    | cons y xs =>
      rw [List.dropLast_cons_cons, Threads.trace_cons, List.mem_append, not_or] at he
      obtain ⟨e', h'⟩ := h.step x
      rcases hx.outcome with ⟨-, hw'⟩ | ⟨hend, -⟩
      · exact hx.trans he.1 (ih h' hw' he.2)
      · exact absurd hend he.1

/-- A session that was asked to stop answers the record that it processes with a stop, whatever the
callback replies, and its loop is over when it lets go of the callbacks. -/
theorem rejects (hw : t.session.state = .stopRequested) {k : Sinks} (hk : t.session.sinks = some k)
    {c : Call} (hc : t.session.calling = some c) {r : Reply} {v : Verdict}
    (hv : k.verdict? c r = some v) :
    (t.session.resume c r).1 = .done (.verdict .stop) ∧
      (t.after [.reply r, .advance]).session.state = .idle := by
  obtain ⟨-, -, hlc⟩ := Sound.noteReply_keeps t.session r
  have hsr : (t.session.noteReply r).lifecycle.stopRequested = true := by
    rw [hlc]
    simpa [Lifecycle.stopRequested, Session.state] using hw
  have hd : t.session.resume c r = (.done (.verdict .stop), t.session.noteReply r) := by
    rw [Sound.resume_of_verdict hk hv, Session.verdict, if_pos hsr]
  refine ⟨by rw [hd], ?_⟩
  have hstep : t.step (.reply r) = t.returned r none .leaving := by
    simp only [Threads.step, hc, hd]
    rfl
  rw [Session.state, ← hlc] at hw
  rw [Threads.after_cons, Threads.after_cons, Threads.after_nil, hstep]
  show (t.session.noteReply r).lifecycle.loopExited.state = .idle
  simp [Lifecycle.loopExited, hw]

/-- A running loop that has greeted takes the first event of the feed when it goes on, whatever was
asked of an earlier loop. -/
theorem takes_first (h : Woven t e) (hw : t.session.state = .running)
    (hr : t.session.released = false) (hp : t.place = some .looking)
    (hl : t.session.loop?.any (·.greeted) = true) :
    takes (t.trace [.advance, .advance]) = t.session.queue.head?.toList := by
  have hq : t.session.queue = e.queue := by simp [Session.queue, h.engine]
  have hsd := h.heeds hr (.inl hw)
  obtain ⟨⟨loop, hloop⟩, -⟩ := h.has hp rfl
  have hg : loop.greeted = true := by simpa [Session.loop?, h.engine, hloop] using hl
  have hlook := shows_receive h.engine hp hloop hg hsd
  cases hqe : e.queue with
  | nil =>
    have hwait := shows_wait (t := { t with place := some .receiving }) h.engine rfl hqe
    rw [show [Step.advance, .advance] = [.advance] ++ [.advance] from rfl,
      (hlook.trans hwait).trace, hq, hqe]
    rfl
  | cons event queue =>
    have htake := shows_take (t := { t with place := some .receiving }) h.engine rfl hqe
    rw [show [Step.advance, .advance] = [.advance] ++ [.advance] from rfl,
      (hlook.trans htake).trace, hq, hqe]
    rfl

/-- A session whose callback runs is active. -/
theorem isActive_of_calling (h : Woven t e) {c : Call} (hc : t.session.calling = some c) :
    t.session.state.isActive = true := by
  cases ha : t.session.state.isActive with
  | true => rfl
  | false =>
    have hp := h.place_calling hc
    rcases h.phase.inactive ha with hp' | hp' | ⟨hp', -⟩ <;> rw [hp] at hp' <;> cases hp'

/-- A stop by a callback is known to the engine when the call is over, so no event is taken after
it. -/
theorem stop_inside (h : Woven t e) {c : Call} (hc : t.session.calling = some c)
    (hw : t.session.state = .running) :
    (t.after [.ask .stop, .carry .stop]).session.state = .stopRequested ∧
      (t.after [.ask .stop, .carry .stop]).grace = 0 := by
  have hlw : t.session.lifecycle.state = .running := hw
  have hp := h.place_calling hc
  have hq : t.session.lifecycle.requestStop =
      { t.session.lifecycle with state := .stopRequested } := by
    simp [Lifecycle.requestStop, hlw]
  have hask : t.step (.ask .stop) =
      { t with session := t.session.askStop, errands := t.errands ++ [.stop] } := by
    simp [Threads.step, ask, Errand.check, Errand.due, Session.askStop, hq, Lifecycle.stopRequested]
  have hstop : t.session.askStop.lifecycle.stopRequested = true := by
    simp [Session.askStop, hq, Lifecycle.stopRequested]
  have hrun := Sound.passStop_eq (s := t.session.askStop) h.engine
  have hmem : Errand.stop ∈ t.errands ++ [.stop] := List.mem_append_right _ List.mem_cons_self
  rw [Threads.after_cons, Threads.after_cons, Threads.after_nil, hask, Threads.step, carry,
    if_pos hmem, Errand.run, hrun]
  refine ⟨?_, ?_⟩
  · show t.session.lifecycle.requestStop.state = _
    rw [hq]
  · have htold : (e.shutdown || t.session.askStop.lifecycle.stopRequested) = true := by
      rw [hstop, Bool.or_true]
    exact grace_of_told (fun hr => by cases hp.symm.trans hr) htold

end Woven

/-! ## The theorem -/

end MarketFeed
