import MarketFeed.Proofs.Threads.Invariant
import MarketFeed.Proofs.Threads.Steps

set_option autoImplicit false

/-!
# The invariant over runs

`Does.woven`: a step that does one of the things listed keeps the invariant. `Woven.does`: there is
nothing else that a step of woven threads can do.
-/

namespace MarketFeed

open Threads

variable {t : Threads} {e : Replay}

/-! ## The invariant is kept -/

namespace Woven

/-- A thread that has its callbacks goes on to another place. -/
theorem goes (h : Woven t e) {p p' : Place} (hp : t.place = some p)
    (hl : p.holdsCallbacks = true) (hl' : p'.holdsCallbacks = true) {s' : Session} {e' : Replay}
    (he : s'.engine = .replay e') (hloop : e'.loop.isSome = e.loop.isSome)
    (hsd : e'.shutdown = e.shutdown) (hk : s'.sinks = t.session.sinks)
    (hr : s'.released = t.session.released) (hc : s'.calling.isSome = true ↔ p' = .calling)
    (hph : Phase s'.lifecycle t.starting (some p'))
    (hw : s'.state = t.session.state ∨ s'.state = .faulted) :
    Woven { t with session := s', place := some p' } e' where
  engine := he
  loop := by
    have := h.loop
    rw [hp] at this
    exact hloop.trans this
  sinks := by
    have := h.sinks
    rw [live, hp, Option.any_some, hl] at this
    rw [hk, this, live, Option.any_some, hl']
  calling := hc.trans ⟨fun h => by rw [h], fun h => Option.some.inj h⟩
  phase := hph
  heeds hrel hst := by
    rw [hsd]
    refine h.heeds (hr ▸ hrel) ?_
    rcases hw with hw | hw
    · rwa [← hw]
    · change s'.state = .running ∨ s'.state = .starting ∧ _ at hst
      rw [hw] at hst
      rcases hst with hst | ⟨hst, -⟩ <;> cases hst
  gone hm := hr.trans (h.gone hm)

/-- So it does if nothing changes for the lifecycle. -/
theorem goes_on (h : Woven t e) {p p' : Place} (hp : t.place = some p)
    (hl : p.holdsCallbacks = true) (hne : p ≠ .leaving) (hl' : p'.holdsCallbacks = true)
    {s' : Session} {e' : Replay} (he : s'.engine = .replay e')
    (hloop : e'.loop.isSome = e.loop.isSome) (hsd : e'.shutdown = e.shutdown)
    (hk : s'.sinks = t.session.sinks) (hr : s'.released = t.session.released)
    (hc : s'.calling.isSome = true ↔ p' = .calling)
    (hlc : s'.lifecycle = t.session.lifecycle) :
    Woven { t with session := s', place := some p' } e' := by
  refine h.goes hp hl hl' he hloop hsd hk hr hc ?_ (.inl (by rw [Session.state, hlc]; rfl))
  rw [hlc]
  have := h.phase
  rw [hp] at this
  exact this.moves hl hne hl'

/-- A step that leaves the loop and the lifecycle alone. -/
theorem quiet (h : Woven t e) {s' : Session} {e' : Replay} {errands : List Errand}
    (he : s'.engine = .replay e') (hloop : e'.loop = e.loop)
    (hsd : e'.shutdown = e.shutdown ∨ s'.released = true ∨ s'.state = .stopRequested)
    (hk : s'.sinks = t.session.sinks) (hc : s'.calling = t.session.calling)
    (hr : t.session.released = true → s'.released = true)
    (hg : .release ∈ errands → s'.released = true)
    (hph : Phase s'.lifecycle t.starting t.place)
    (hw : s'.state = t.session.state ∨ s'.state = .stopRequested) :
    Woven { t with session := s', errands } e' where
  engine := he
  loop := (congrArg Option.isSome hloop).trans h.loop
  sinks := (congrArg Option.isSome hk).trans h.sinks
  calling := by
    rw [show ({ t with session := s', errands } : Threads).session.calling = t.session.calling
      from hc]
    exact h.calling
  phase := hph
  heeds hrel hst := by
    change s'.released = false at hrel
    change s'.state = .running ∨ s'.state = .starting ∧ t.starting = some .launched at hst
    have hns : s'.state ≠ .stopRequested := by
      rintro hs
      rw [hs] at hst
      rcases hst with hst | ⟨hst, -⟩ <;> cases hst
    have hrel' : t.session.released = false := by
      cases hrt : t.session.released with
      | false => rfl
      | true => rw [hr hrt] at hrel; cases hrel
    rw [hw.resolve_right hns] at hst
    rcases hsd with hsd | hsd | hsd
    · rw [hsd]
      exact h.heeds hrel' hst
    · rw [hsd] at hrel
      cases hrel
    · exact absurd hsd hns
  gone := hg

end Woven

theorem Lifecycle.fault_state (l : Lifecycle) :
    l.fault.state = l.state ∨ l.fault.state = .faulted := by
  cases h : l.state <;> simp [Lifecycle.fault, h]

theorem Lifecycle.requestStop_state (l : Lifecycle) :
    l.requestStop.state = l.state ∨ l.requestStop.state = .stopRequested := by
  cases h : l.state <;> simp [Lifecycle.requestStop, h]

theorem Threads.Does.woven {x : Step} {m : List Mark} {t' : Threads} (h : Woven t e)
    (hd : Does t e x m t') : ∃ e', Woven t' e' := by
  have returned {r : Reply} {c : Option Call} {p' : Place} (hp : t.place = some .calling)
      (hl' : p'.holdsCallbacks = true) (hc : c.isSome = true ↔ p' = .calling) :
      Woven (t.returned r c p') e := by
    obtain ⟨he, hk, hlc⟩ := Sound.noteReply_keeps t.session r
    exact h.goes_on hp rfl (by decide) hl' (he.trans h.engine) rfl rfl hk
      (by cases r <;> rfl) hc hlc
  cases hd with
  | still => exact ⟨e, h⟩
  | @greet loop k hp hk hl hg =>
    refine ⟨_, h.goes_on hp rfl (by decide) ?_ rfl (by rw [hl]; rfl) rfl rfl rfl ?_ rfl⟩
    · cases hkm : k.metadata <;> simp [Place.after, Sinks.greeting, hkm, Place.holdsCallbacks]
    · cases hkm : k.metadata <;> simp [Place.after, Sinks.greeting, hkm]
  | shutdown hp =>
    exact ⟨e, h.goes_on hp rfl (by decide) rfl h.engine rfl rfl rfl rfl
      (by simp [h.calling_none (by rw [hp]; decide)]) rfl⟩
  | receive hp =>
    exact ⟨e, h.goes_on hp rfl (by decide) rfl h.engine rfl rfl rfl rfl
      (by simp [h.calling_none (by rw [hp]; decide)]) rfl⟩
  | timeout hp =>
    exact ⟨e, h.goes_on hp rfl (by decide) rfl h.engine rfl rfl rfl rfl
      (by simp [h.calling_none (by rw [hp]; decide)]) rfl⟩
  | take hp hq =>
    exact ⟨_, h.goes_on hp rfl (by decide) rfl rfl rfl rfl rfl rfl
      (by simp [h.calling_none (by rw [hp]; decide)]) rfl⟩
  | drop hp =>
    exact ⟨e, h.goes_on hp rfl (by simp) rfl h.engine rfl rfl rfl rfl
      (by simp [h.calling_none (by simp [hp])]) rfl⟩
  | event hp =>
    exact ⟨e, h.goes_on hp rfl (by simp) rfl h.engine rfl rfl rfl rfl (by simp [Place.after]) rfl⟩
  | @record k bytes r hp =>
    refine ⟨e, h.goes_on hp rfl (by simp) ?_ h.engine rfl rfl rfl rfl ?_ rfl⟩
    · cases hkr : k.record <;> simp [Place.after, Sinks.forRecord, hkr, Place.holdsCallbacks]
    · cases hkr : k.record <;> simp [Place.after, Sinks.forRecord, hkr]
  | consult hp => exact ⟨e, h.goes_on hp rfl (by simp) rfl h.engine rfl rfl rfl rfl (by simp) rfl⟩
  | giveUp hp =>
    have hph := h.phase
    rw [hp] at hph
    exact ⟨e, h.goes hp rfl rfl h.engine rfl rfl rfl rfl
      (by simp [h.calling_none (by simp [hp])]) (hph.fault rfl (by simp))
      (Lifecycle.fault_state _)⟩
  | leave hp =>
    have hph := h.phase
    rw [hp] at hph
    refine ⟨e, h.engine, ?_, rfl, ?_, hph.loopExited, fun hr hst => ?_, h.gone⟩
    · have := h.loop
      rwa [hp] at this
    · have := h.calling_none (by rw [hp]; decide)
      simp [Session.loopExit, this]
    · refine h.heeds hr (hst.imp (fun hst => ?_) fun hst => ⟨?_, hst.2⟩)
      · change t.session.lifecycle.loopExited.state = .running at hst
        cases hw : t.session.lifecycle.state <;> simp [Lifecycle.loopExited, hw] at hst
      · have hst := hst.1
        change t.session.lifecycle.loopExited.state = .starting at hst
        cases hw : t.session.lifecycle.state <;> simp [Lifecycle.loopExited, hw] at hst
        exact hw
  | finish hp =>
    have hph := h.phase
    have hk := h.sinks
    have hc := h.calling
    rw [hp] at hph
    rw [live, hp] at hk
    rw [hp] at hc
    exact ⟨_, rfl, rfl, hk, hc.trans (by simp), hph.finish, h.heeds, h.gone⟩
  | greeted hc => exact ⟨e, returned (h.place_calling hc) rfl (by simp)⟩
  | offer _ hc => exact ⟨e, returned (h.place_calling hc) rfl (by simp)⟩
  | proceed _ hc => exact ⟨e, returned (h.place_calling hc) rfl (by simp)⟩
  | stopped _ hc => exact ⟨e, returned (h.place_calling hc) rfl (by simp)⟩
  | @restart loop cause r hl hc =>
    have hp := h.place_calling hc
    obtain ⟨-, hk, hlc⟩ := Sound.noteReply_keeps t.session r
    have hph := h.phase
    rw [hp] at hph
    exact ⟨_, h.goes hp rfl rfl rfl (by rw [hl]; rfl) rfl hk (by cases r <;> rfl) (by simp)
      (hph.moves rfl (by decide) rfl).noteRestart (.inl rfl)⟩
  | @abandon cause r hc =>
    have hp := h.place_calling hc
    obtain ⟨he, hk, -⟩ := Sound.noteReply_keeps t.session r
    have hph := h.phase
    rw [hp] at hph
    exact ⟨e, h.goes hp rfl rfl (he.trans h.engine) rfl rfl hk (by cases r <;> rfl) (by simp)
      (hph.fault rfl (by decide)) (Lifecycle.fault_state _)⟩
  | @claim k _ hw =>
    refine ⟨e, h.engine, h.loop, h.sinks, h.calling, h.phase.claim hw k, fun _ hst => ?_, h.gone⟩
    rcases hst with hst | ⟨-, hst⟩ <;> cases hst
  | @launch k hst hl =>
    have hph := h.phase
    rw [hst] at hph
    have hp := h.place_none hl
    refine ⟨_, rfl, rfl, rfl, ?_, hph.launch, fun _ _ => rfl, h.gone⟩
    have := h.calling_none (by simp [hp])
    simp [this]
  | @lapse k hst hl =>
    have hph := h.phase
    rw [hst] at hph
    have hf : (t.session.lifecycle.loopExited.finishStart false).state = .faulted := by
      cases hph with
      | claimed hs => simp [Lifecycle.loopExited, hs, Lifecycle.finishStart]
      | idle _ _ hst | launched _ _ hst | running _ _ hst | stopRequested _ _ hst => cases hst
      | faulted _ hst => exact absurd rfl (hst k)
    refine ⟨e, h.engine, h.loop, h.sinks, h.calling, hph.lapse, fun _ hst => ?_, h.gone⟩
    change (t.session.lifecycle.loopExited.finishStart false).state = .running ∨ _ at hst
    rw [hf] at hst
    rcases hst with hst | ⟨-, hst⟩ <;> cases hst
  | succeed hst =>
    have hph := h.phase
    rw [hst] at hph
    refine ⟨e, h.engine, h.loop, h.sinks, h.calling, hph.succeed, fun hr hw => h.heeds hr ?_,
      fun hm => h.gone (by simpa using hm)⟩
    have hw := hw.resolve_right fun hw => by cases hw.2
    change (t.session.lifecycle.finishStart true).state = .running at hw
    cases hs : t.session.lifecycle.state with
    | starting => exact .inr ⟨hs, hst⟩
    | running => exact .inl hs
    | idle | stopRequested | faulted => simp [Lifecycle.finishStart, hs] at hw
  | @ask errand ha =>
    refine ⟨e, h.quiet h.engine rfl (.inl rfl) rfl rfl id (fun hm => ?_) h.phase (.inl rfl)⟩
    rcases List.mem_append.mp hm with hm | hm
    · exact h.gone hm
    · obtain rfl := List.mem_singleton.mp hm
      exact (congrArg Session.released (Except.ok.inj ha)).symm
  | askStop hx =>
    exact ⟨e, h.quiet h.engine rfl (.inl rfl) rfl rfl id
      (fun hm => (List.mem_append.mp hm).elim h.gone fun hm => by cases hx _ hm)
      h.phase.requestStop (Lifecycle.requestStop_state _)⟩
  | giveAway =>
    exact ⟨e, h.quiet h.engine rfl (.inl rfl) rfl rfl (fun _ => rfl) (fun _ => rfl)
      h.phase.requestStop (Lifecycle.requestStop_state _)⟩
  | subscribe | reconnect =>
    exact ⟨_, h.quiet rfl rfl (.inl rfl) rfl rfl id (fun hm => h.gone (List.mem_of_mem_erase hm))
      h.phase (.inl rfl)⟩
  | feed => exact ⟨_, h.quiet rfl rfl (.inl rfl) rfl rfl id h.gone h.phase (.inl rfl)⟩
  | carry =>
    exact ⟨e, h.quiet h.engine rfl (.inl rfl) rfl rfl id
      (fun hm => h.gone (List.mem_of_mem_erase hm)) h.phase (.inl rfl)⟩
  | tell hm hw =>
    refine ⟨_, h.quiet rfl rfl (.inr ?_) rfl rfl id
      (fun hm => h.gone (List.mem_of_mem_erase hm)) h.phase (.inl rfl)⟩
    rcases hw with ⟨-, hw⟩ | rfl
    · exact .inr (by simpa [Lifecycle.stopRequested, Session.state] using hw)
    · exact .inl (h.gone hm)

/-! ## Nothing else is done -/

theorem Threads.Shows.does {x : Step} {m : List Mark} {t' : Threads} (hs : Shows t [x] m t')
    (hd : Does t e x m t') : Does t e x (t.marks x) (t.step x) := by
  rw [hs.marks, hs.step]
  exact hd

namespace Woven

variable {loop : Replay.Loop} {k : Sinks} {event : FeedEvent}

/-! ### The loop -/

theorem does_look (h : Woven t e) (hp : t.place = some .looking) :
    Does t e .advance (t.marks .advance) (t.step .advance) := by
  obtain ⟨⟨loop, hl⟩, k, hk⟩ := h.has hp rfl
  have hc := h.calling_none (by rw [hp]; decide)
  cases hg : loop.greeted with
  | false => exact (shows_greet h.engine hp hl hc hk hg).does (.greet hp hk hl hg)
  | true =>
    have hg' : e.loop.any (·.greeted) = true := by simp [hl, hg]
    cases hsd : e.shutdown with
    | true => exact (shows_shutdown h.engine hp hl hg hsd).does (.shutdown hp hg' hsd)
    | false => exact (shows_receive h.engine hp hl hg hsd).does (.receive hp hg' hsd)

theorem does_receive (h : Woven t e) (hp : t.place = some .receiving) :
    Does t e .advance (t.marks .advance) (t.step .advance) := by
  cases hq : e.queue with
  | nil => exact (shows_wait h.engine hp hq).does .still
  | cons event queue => exact (shows_take h.engine hp hq).does (.take hp hq)

theorem does_fault (h : Woven t e) (hp : t.place = some (.holding event))
    (hk : t.session.sinks = some k) (hsr : t.session.lifecycle.stopRequested = false)
    {cause : EngineError} (hf : event.fault? = some cause) :
    Does t e .advance (t.marks .advance) (t.step .advance) := by
  have hc := h.calling_none (by simp [hp])
  cases hx : k.exception with
  | true => exact (shows_consult hc hp hk hsr hf hx).does (.consult hp hk hsr hf hx)
  | false => exact (shows_giveUp hc hp hk hsr hf hx).does (.giveUp hp hk hsr hf hx)

theorem does_record (h : Woven t e) {bytes : Bytes} (hp : t.place = some (.holding (.record bytes)))
    (hk : t.session.sinks = some k) (hsr : t.session.lifecycle.stopRequested = false) {r : Record}
    (hr : Record.decode bytes = .ok r) :
    Does t e .advance (t.marks .advance) (t.step .advance) := by
  have hc := h.calling_none (by simp [hp])
  cases hf : k.forEvent r (Router.route t.session.symbols r).1 with
  | nil => exact (shows_record hc hp hk hsr hr hf).does (.record hp hk hsr hr hf)
  | cons c cs =>
    obtain ⟨ev, hro, hev⟩ := Sinks.event_of_forEvent hf
    exact (shows_event hc hp hk hsr hr hro hev).does (.event hp hk hsr hr hro hev)

theorem does_deliver (h : Woven t e) (hp : t.place = some (.holding event)) :
    Does t e .advance (t.marks .advance) (t.step .advance) := by
  have hc := h.calling_none (by simp [hp])
  cases hsr : t.session.lifecycle.stopRequested with
  | true => exact (shows_drop hc hp (.inr hsr)).does (.drop hp (.inr hsr))
  | false =>
    obtain ⟨-, k, hk⟩ := h.has hp rfl
    cases event with
    | close => exact (shows_drop hc hp (.inl rfl)).does (.drop hp (.inl rfl))
    | fault cause => exact h.does_fault hp hk hsr rfl
    | record bytes =>
      cases hr : Record.decode bytes with
      | ok r => exact h.does_record hp hk hsr hr
      | error cause =>
        have hf : FeedEvent.fault? (.record bytes) = some (.decode cause) := by
          simp [FeedEvent.fault?, hr]
        exact h.does_fault hp hk hsr hf

theorem does_advance (h : Woven t e) : Does t e .advance (t.marks .advance) (t.step .advance) := by
  rcases hp : t.place with _ | p
  · exact (shows_rest (.inl hp)).does .still
  cases p with
  | looking => exact h.does_look hp
  | receiving => exact h.does_receive hp
  | holding event => exact h.does_deliver hp
  | calling => exact (shows_rest (.inr hp)).does .still
  | leaving =>
    obtain ⟨-, k, hk⟩ := h.has hp rfl
    exact (shows_leave (h.calling_none (by rw [hp]; decide)) hp hk).does (.leave hp)
  | finishing => exact (shows_finish h.engine hp).does (.finish hp)

/-! ### Replies -/

theorem does_verdict (hk : t.session.sinks = some k) {c : Call} (hc : t.session.calling = some c)
    {r : Reply} {v : Verdict} (hv : k.verdict? c r = some v) :
    Does t e (.reply r) (t.marks (.reply r)) (t.step (.reply r)) := by
  cases hsr : t.session.lifecycle.stopRequested with
  | true => exact (shows_stopped hk hc hv (.inl hsr)).does (.stopped hk hc hv (.inl hsr))
  | false =>
    cases v with
    | proceed => exact (shows_proceed hk hc hv hsr).does (.proceed hk hc hv hsr)
    | stop => exact (shows_stopped hk hc hv (.inr rfl)).does (.stopped hk hc hv (.inr rfl))

theorem does_reply (h : Woven t e) (r : Reply) :
    Does t e (.reply r) (t.marks (.reply r)) (t.step (.reply r)) := by
  cases hc : t.session.calling with
  | none => exact (shows_unasked hc).does .still
  | some c =>
    obtain ⟨⟨loop, hl⟩, k, hk⟩ := h.has (h.place_calling hc) rfl
    cases c with
    | metadata m => exact (shows_greeted hc).does (.greeted hc)
    | event ev rec =>
      cases hkr : k.record with
      | true => exact (shows_offer hk hc hkr).does (.offer hk hc hkr)
      | false =>
        have hv : k.verdict? (.event ev rec) r = some .proceed := by simp [Sinks.verdict?, hkr]
        exact does_verdict hk hc hv
    | record rec => exact does_verdict hk hc rfl
    | exception cause =>
      cases hr : r.recovery with
      | restart => exact (shows_restart hc h.engine hl hr).does (.restart hl hc hr)
      | stop => exact (shows_abandon hc hr).does (.abandon hc hr)

/-! ### Calls -/

theorem does_claim (k : Sinks) : Does t e (.claim k) (t.marks (.claim k)) (t.step (.claim k)) := by
  by_cases h : (k.record || k.event) = true ∧ t.session.state = .idle
  · exact (shows_claim h.1 h.2).does (.claim h.1 h.2)
  · refine (shows_refused ?_).does .still
    cases hk : k.record || k.event with
    | false => exact .inl rfl
    | true => exact .inr fun hw => h ⟨hk, hw⟩

theorem does_launch (h : Woven t e) : Does t e .launch (t.marks .launch) (t.step .launch) := by
  by_cases hst : ∃ k, t.starting = some (.claimed k)
  · obtain ⟨k, hst⟩ := hst
    cases hl : e.loop with
    | none =>
      have hp := h.place_none hl
      have hks : t.session.sinks = none := by simpa [live, hp] using h.sinks
      have hc := h.calling_none (by simp [hp])
      exact (shows_launch h.engine hc hks hst hl).does (.launch hst hl)
    | some loop =>
      have hl : e.loop.isSome = true := by rw [hl]; rfl
      exact (shows_lapse h.engine hst hl).does (.lapse hst hl)
  · exact (shows_unclaimed fun k hk => hst ⟨k, hk⟩).does .still

theorem does_succeed : Does t e .succeed (t.marks .succeed) (t.step .succeed) := by
  by_cases hst : t.starting = some .launched
  · exact (shows_succeed hst).does (.succeed hst)
  · exact (shows_unlaunched hst).does .still

/-- A call that only looks at the session is refused, or goes on to the engine. -/
theorem does_look_first {errand : Errand} {r : Except SessionError Unit}
    (ha : errand.check t.session = r.map fun () => t.session) (hd : errand.due t.session = true) :
    Does t e (.ask errand) (t.marks (.ask errand)) (t.step (.ask errand)) := by
  cases r with
  | error cause => exact (shows_turned_away ha).does .still
  | ok => exact (shows_ask ha hd).does (.ask ha)

theorem does_ask (errand : Errand) :
    Does t e (.ask errand) (t.marks (.ask errand)) (t.step (.ask errand)) := by
  cases errand with
  | subscribe | reconnect | resubscribe => exact does_look_first rfl rfl
  | stop =>
    refine (shows_askStop t).does (.askStop fun errand hm => ?_)
    split at hm <;> simp_all
  | release => exact (shows_giveAway t).does .giveAway

theorem does_carry (h : Woven t e) (errand : Errand) :
    Does t e (.carry errand) (t.marks (.carry errand)) (t.step (.carry errand)) := by
  by_cases hm : errand ∈ t.errands
  · have hback : ({ t.session with engine := .replay e } : Session) = t.session :=
      Sound.engine_eq h.engine
    have hsame (hr : (errand.run t.session).2 = t.session) (hs : ∀ sub, errand ≠ .subscribe sub) :
        Does t e (.carry errand) (t.marks (.carry errand)) (t.step (.carry errand)) :=
      (shows_carry hm hr rfl rfl).does (.carry hs)
    cases errand with
    | subscribe sub =>
      exact (shows_carry hm (Errand.run_subscribe h.engine sub) rfl rfl).does (.subscribe hm)
    | reconnect =>
      by_cases hn : t.session.subscriptions = []
      · exact hsame (by simp [Errand.run, Errand.resending, hn]) (by simp)
      · cases hl : e.loop with
        | some loop =>
          refine hsame ?_ (by simp)
          simp [Errand.run, Errand.resending, hn, Session.ofEngine, h.engine, Engine.reconnect,
            Engine.ofReplay, Replay.reconnect, Replay.isRunning, hl, hback]
        | none =>
          exact (shows_carry hm (Errand.run_reconnect h.engine hn hl) rfl rfl).does
            (.reconnect hn hl)
    | resubscribe =>
      refine hsame ?_ (by simp)
      by_cases hn : t.session.subscriptions = []
      · simp [Errand.run, Errand.resending, hn]
      · cases hr : e.resubscribe <;>
          simp [Errand.run, Errand.resending, hn, Session.ofEngine, h.engine, Engine.resubscribe,
            Engine.ofReplay, hr, Except.map, hback]
    | stop =>
      cases hsr : t.session.lifecycle.stopRequested with
      | false => exact hsame (by simp [Errand.run, Session.passStop, hsr]) (by simp)
      | true =>
        have hr := Errand.run_stop h.engine
        rw [hsr, Bool.or_true] at hr
        exact (shows_carry hm hr rfl rfl).does (.tell hm (.inl ⟨rfl, hsr⟩))
    | release =>
      exact (shows_carry hm (Errand.run_release h.engine) rfl rfl).does (.tell hm (.inr rfl))
  · exact (shows_idle_errand hm).does .still

/-! ### All steps -/

theorem does (h : Woven t e) (x : Step) : Does t e x (t.marks x) (t.step x) := by
  cases x with
  | advance => exact h.does_advance
  | timeout =>
    by_cases hp : t.place = some .receiving
    · exact (shows_timeout hp).does (.timeout hp)
    · exact (Shows.of_still (x := .timeout) (by simp [Threads.step, hp]) rfl rfl rfl).does .still
  | reply r => exact h.does_reply r
  | claim k => exact does_claim k
  | launch => exact h.does_launch
  | succeed => exact does_succeed
  | ask errand => exact does_ask errand
  | carry errand => exact h.does_carry errand
  | push event => exact (shows_push h.engine event).does .feed
  | pushStream buffer => exact (shows_pushStream h.engine buffer).does .feed

theorem step (h : Woven t e) (x : Step) : ∃ e', Woven (t.step x) e' := (h.does x).woven h

theorem after (h : Woven t e) (xs : List Step) : ∃ e', Woven (t.after xs) e' := by
  induction xs generalizing t e with
  | nil => exact ⟨e, h⟩
  | cons x xs ih =>
    obtain ⟨e', h'⟩ := h.step x
    exact ih h'

end Woven

end MarketFeed
