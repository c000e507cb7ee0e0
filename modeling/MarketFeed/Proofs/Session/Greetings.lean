import MarketFeed.Proofs.Session.Restarts

set_option autoImplicit false

/-!
# What a loop greets with

A loop takes its metadata from the engine when a start claims the session, and keeps it
(`Rule.metadata`). `Session.registered` collects what is subscribed to in a run, and `Opened` says
of the loop that is there which start it comes from. `greetings_describe_claim` tells from both what
any delivery of metadata says of the subscriptions of its moment, and `Session.loop_start` which
reading of the clock is its time.
-/

namespace MarketFeed

/-! ## Registered subscriptions -/

namespace Session

/-- The subscription that a move registers. -/
def enrols (s : Session) : Move → List Subscription
  | .subscribe sub => if (s.subscribe sub).1.isOk then [sub] else []
  | _ => []

/-- The subscriptions that a run registers, in order. -/
def registered (s : Session) : List Move → List Subscription
  | [] => []
  | m :: ms => s.enrols m ++ (s.move m).registered ms

theorem registered_append (s : Session) (ms ns : List Move) :
    s.registered (ms ++ ns) = s.registered ms ++ (s.after ms).registered ns := by
  induction ms generalizing s with
  | nil => rfl
  | cons m ms ih => simp [registered, ih, List.append_assoc]

end Session

namespace Enrolled

variable {s : Session} {e : Replay} {subs : List Subscription}

/-- A move adds to both lists what it registers. -/
theorem enrols (h : Enrolled s e subs) (m : Move) :
    ∃ e', Enrolled (s.move m) e' (subs ++ s.enrols m) := by
  cases m with
  | subscribe sub =>
    rcases h.subscribe sub with ⟨halt, hr⟩ | ⟨hok, e', h'⟩
    · refine ⟨e, ?_⟩
      have hm : s.move (.subscribe sub) = s := by simp [Session.move, hr]
      have hn : s.enrols (.subscribe sub) = [] := by
        simp [Session.enrols, hr, Except.isOk, Except.toBool]
      rw [hm, hn, List.append_nil]
      exact h
    · refine ⟨e', ?_⟩
      have hn : s.enrols (.subscribe sub) = [sub] := by
        simp [Session.enrols, hok, Except.isOk, Except.toBool]
      rw [hn]
      exact h'
  | _ =>
    show ∃ e', Enrolled _ e' (subs ++ [])
    rw [List.append_nil]
    exact h.move rfl

theorem after (h : Enrolled s e subs) (ms : List Move) :
    ∃ e', Enrolled (s.after ms) e' (subs ++ s.registered ms) := by
  induction ms generalizing s e subs with
  | nil => exact ⟨e, by rwa [Session.registered, List.append_nil]⟩
  | cons m ms ih =>
    obtain ⟨e', h'⟩ := h.enrols m
    rw [Session.registered, ← List.append_assoc]
    exact ih h'

end Enrolled

/-! ## The metadata of a loop -/

/-- A loop is the one that was there, with metadata that differs in its time at most, or a start has
just claimed the session for it, with the metadata of the engine. -/
theorem Rule.metadata {s s' : Session} {e : Replay} {m : Move} {t : List Mark}
    (he : s.engine = .replay e) (hr : Rule s e m t s') {loop' : Replay.Loop}
    (hl : s'.loop? = some loop') :
    (∃ loop, s.loop? = some loop ∧ loop'.metadata.timeless = loop.metadata.timeless ∧
      ∀ mark ∈ t, mark.isClaim = false) ∨
    (∃ k, m = .start k ∧ .claimed k (some loop'.metadata.timeless) ∈ t ∧
      loop'.metadata = e.metadata) := by
  have hs : s.loop? = e.loop := by simp [Session.loop?, he]
  have keeps {u : List Mark} (h : e.loop = some loop') (hu : ∀ mark ∈ u, mark.isClaim = false) :
      ∃ loop, s.loop? = some loop ∧ loop'.metadata.timeless = loop.metadata.timeless ∧
        ∀ mark ∈ u, mark.isClaim = false := ⟨loop', hs.trans h, rfl, hu⟩
  have calm (r : Reply) : (s.noteReply r).loop? = e.loop := by
    simp only [Session.loop?, (Sound.noteReply_keeps s r).1, he]
  cases hr with
  | still => exact .inl (keeps (hs ▸ hl) (by simp))
  | subscribe | reconnect | started | stop | release => exact .inl (keeps hl (by simp))
  | feed => exact .inl (keeps hl (by simp [Mark.isClaim]))
  | @start k =>
    have hl : some (⟨e.metadata, false⟩ : Replay.Loop) = some loop' := hl
    cases hl
    exact .inr ⟨k, rfl, List.mem_cons_self, rfl⟩
  | @greet loop k _ _ hlp =>
    have hl : some { loop with greeted := true } = some loop' := hl
    cases hl
    exact .inl ⟨loop, hs.trans hlp, rfl, by simp [Mark.isClaim]⟩
  | shutdown | close | giveUp | stopped | abandon => cases hl
  | event | consult => exact .inl (keeps hl (by simp [Mark.isClaim]))
  | record =>
    refine .inl (keeps ?_ (by simp [Mark.isClaim]))
    unfold Session.showing at hl
    split at hl <;> exact hl
  | greeted | offer | proceed => exact .inl (keeps (calm _ ▸ hl) (by simp [Mark.isClaim]))
  | @restart loop cause r hlp =>
    have hl : some (⟨{ loop.metadata with start := e.now }, false⟩ : Replay.Loop) = some loop' := hl
    cases hl
    exact .inl ⟨loop, hs.trans hlp, rfl, by simp [Mark.isClaim]⟩

/-- Metadata is delivered by a turn of the loop, and is the metadata of the loop. -/
theorem Rule.delivers {s s' : Session} {e : Replay} {m : Move} {t : List Mark} {md : Metadata}
    (he : s.engine = .replay e) (hr : Rule s e m t s') (h : .called (.metadata md) ∈ t) :
    ∃ loop, s.loop? = some loop ∧ md = loop.metadata.timeless := by
  cases hr with
  | @greet loop k _ _ hl =>
    refine ⟨loop, by simpa [Session.loop?, he] using hl, ?_⟩
    cases hk : k.metadata <;> simp [Sinks.greeting, hk] at h
    exact h
  | @record loop k => cases hk : k.record <;> simp [Sinks.forRecord, hk] at h
  | _ => simp at h

/-! ## The start that a loop comes from -/

/-- A run `ms` of `s` splits at the start that claimed the session for its present loop, and the
loop has the metadata `md` of that moment. -/
structure Opened (s : Session) (ms : List Move) (md : Metadata) (earlier : List Move) (k : Sinks)
    (later : List Move) : Prop where
  run : ms = earlier ++ .start k :: later
  claimed : .claimed k (some md) ∈ (s.after earlier).marks (.start k)
  /-- The session has not been claimed again since. -/
  latest : ∀ mark ∈ (s.after (earlier ++ [.start k])).trace later, mark.isClaim = false
  describes : md.Describes (s.after earlier).subscriptions

/-- Every loop comes from a start. -/
theorem Enrolled.opened {s : Session} {e : Replay} {subs : List Subscription}
    (h : Enrolled s e subs) (hl₀ : s.loop? = none) (ms : List Move) {loop : Replay.Loop}
    (hl : (s.after ms).loop? = some loop) :
    ∃ earlier k later, Opened s ms loop.metadata.timeless earlier k later := by
  induction ms using List.reverseRecOn generalizing loop with
  | nil => rw [Session.after_nil, hl₀] at hl; cases hl
  | append_singleton ms m ih =>
    obtain ⟨e', h'⟩ := h.after ms
    rw [Session.after_append, Session.after_cons, Session.after_nil] at hl
    rcases (h'.sound.rule m).metadata h'.sound.engine hl with
      ⟨loop', hl', hmd, hun⟩ | ⟨k, rfl, hcl, hmd⟩
    · obtain ⟨earlier, k, later, ho⟩ := ih hl'
      refine ⟨earlier, k, later ++ [m], by rw [ho.run, List.append_assoc]; rfl,
        hmd ▸ ho.claimed, fun mark hm => ?_, hmd ▸ ho.describes⟩
      have hms : earlier ++ [.start k] ++ later = ms := by
        rw [ho.run, List.append_assoc]
        rfl
      rw [Session.trace_append, ← Session.after_append, hms, List.mem_append] at hm
      rcases hm with hm | hm
      · exact ho.latest mark hm
      · exact hun mark (by simpa using hm)
    · refine ⟨ms, k, [], rfl, hcl, fun _ hm => absurd hm List.not_mem_nil, ?_⟩
      have hsub : e'.subscriptions = (s.after ms).subscriptions := h'.engine.trans h'.session.symm
      rw [hmd, ← hsub]
      exact e'.metadata_describes

/-! ## The time of a greeting -/

/-- How often the clock was read: once for each loop that was started, and once for each restart. -/
def readings (t : List Mark) : Nat := t.countP Mark.isClaim + restarts t

theorem readings_append (t u : List Mark) : readings (t ++ u) = readings t + readings u := by
  rw [readings, List.countP_append, restarts_append, readings, readings]
  omega

/-- The engine has read its clock so often, and its loop has the time of the last reading. -/
structure Replay.Timed (times : List UInt64) (n : Nat) (e : Replay) : Prop where
  clock : e.clock = times.drop n
  loop : ∀ loop, e.loop = some loop → 0 < n ∧ loop.metadata.start = times.getD (n - 1) 0

namespace Replay.Timed

variable {times : List UInt64} {n : Nat} {e : Replay}

theorem now (h : e.Timed times n) : e.now = times.getD n 0 := by
  rw [Replay.now, h.clock, List.headD_eq_head?_getD, List.head?_drop, List.getD_eq_getElem?_getD]

/-- The engine reads its clock for a loop. -/
theorem read (h : e.Timed times n) {e' : Replay} {m : Metadata} {greeted : Bool}
    (hc : e'.clock = e.clock.tail) (hm : m.start = e.now) (hl : e'.loop = some ⟨m, greeted⟩) :
    e'.Timed times (n + 1) where
  clock := by rw [hc, h.clock, List.tail_drop]
  loop loop hl' := by
    rw [hl] at hl'
    cases hl'
    exact ⟨Nat.succ_pos n, hm.trans h.now⟩

end Replay.Timed

theorem Rule.timed {times : List UInt64} {n : Nat} {s s' : Session} {e : Replay} {m : Move}
    {t : List Mark} (he : s.engine = .replay e) (h : e.Timed times n) (hr : Rule s e m t s') :
    ∃ e', s'.engine = .replay e' ∧ e'.Timed times (n + readings t) := by
  -- nothing is read, and the loop stays, if there is one afterwards
  have stays {u : List Mark} {s'' : Session} {e'' : Replay} (hz : readings u = 0)
      (he' : s''.engine = .replay e'') (hc : e''.clock = e.clock)
      (hl : ∀ loop', e''.loop = some loop' →
        ∃ loop, e.loop = some loop ∧ loop'.metadata = loop.metadata) :
      ∃ e', s''.engine = .replay e' ∧ e'.Timed times (n + readings u) := by
    refine ⟨e'', he', ?_⟩
    rw [hz]
    refine ⟨hc.trans h.clock, fun loop' hl' => ?_⟩
    obtain ⟨loop, hl, hm⟩ := hl loop' hl'
    rw [hm]
    exact h.loop loop hl
  have same : ∀ loop', e.loop = some loop' →
      ∃ loop, e.loop = some loop ∧ loop'.metadata = loop.metadata := fun loop hl => ⟨loop, hl, rfl⟩
  have calm (r : Reply) : (s.noteReply r).engine = .replay e :=
    (Sound.noteReply_keeps s r).1.trans he
  cases hr with
  | still => exact stays rfl he rfl same
  | subscribe | reconnect | started | stop | release | consult | event =>
    exact stays rfl rfl rfl same
  | feed => exact stays (by simp [readings, restarts_pushed, Mark.isClaim]) rfl rfl same
  | start => exact ⟨_, rfl, h.read rfl rfl rfl⟩
  | @greet loop k _ _ hl =>
    refine stays (by simp [readings, restarts_called, Mark.isClaim]) rfl rfl fun loop' hl' => ?_
    cases hl'
    exact ⟨loop, hl, rfl⟩
  | shutdown | close | giveUp => exact stays rfl rfl rfl fun _ hl => by cases hl
  | @record loop k bytes queue r =>
    have hz : readings (.took (.record bytes) s.symbols ::
        .delivered r (Router.route s.symbols r).1 :: (k.forRecord r).map .called) = 0 := by
      have hr : restarts (.took (.record bytes) s.symbols ::
        .delivered r (Router.route s.symbols r).1 :: (k.forRecord r).map .called) = 0 :=
        restarts_called _
      rw [readings, hr]
      simp [Mark.isClaim]
    unfold Session.showing
    split <;> exact stays hz rfl rfl same
  | @greeted m r => exact stays rfl (calm r) rfl same
  | @offer _ _ r => exact stays rfl (calm r) rfl same
  | @proceed c r k _ _ hv =>
    exact stays (by rw [readings, restarts_of_verdict hv []]; rfl) (calm r) rfl same
  | @stopped c r k v _ _ hv =>
    exact stays (by rw [readings, restarts_of_verdict hv [.ended]]; rfl) rfl rfl fun _ hl => by
      cases hl
  | @restart loop cause r hl _ hrc =>
    have h1 : readings [.replied (.exception cause) r] = 1 := by
      simp [readings, restarts, Mark.isRestart, Call.restarts, hrc, Mark.isClaim]
    rw [h1]
    exact ⟨_, rfl, h.read rfl rfl rfl⟩
  | @abandon cause r _ hrc =>
    have hz : readings [.replied (.exception cause) r, .ended] = 0 := by
      simp [readings, restarts, Mark.isRestart, Call.restarts, hrc, Mark.isClaim]
    exact stays hz rfl rfl fun _ hl => by cases hl

theorem Sound.timed {times : List UInt64} {n : Nat} {s : Session} {e : Replay} (hs : Sound s e)
    (h : e.Timed times n) (ms : List Move) :
    ∃ e', (s.after ms).engine = .replay e' ∧ e'.Timed times (n + readings (s.trace ms)) := by
  induction ms generalizing s e n with
  | nil => exact ⟨e, hs.engine, h⟩
  | cons m ms ih =>
    obtain ⟨e', hs'⟩ := hs.move m
    obtain ⟨e'', he, h'⟩ := (hs.rule m).timed hs.engine h
    have heq : e'' = e' := by simpa [hs'.engine] using he.symm
    subst heq
    obtain ⟨e₃, he₃, h₃⟩ := ih hs' h'
    refine ⟨e₃, he₃, ?_⟩
    rw [Session.trace_cons, readings_append, ← Nat.add_assoc]
    exact h₃

/-- The metadata of the loop of a new replay session, with which it greets, carries the time that the
clock read when the connection was opened, at the start of the loop or by its last restart. -/
theorem Session.loop_start (config : Config) (clock : List UInt64) (ms : List Move)
    {loop : Replay.Loop}
    (hl : ((new config (.replay (.new config clock))).after ms).loop? = some loop) :
    let n := readings ((new config (.replay (.new config clock))).trace ms)
    0 < n ∧ loop.metadata.start = clock.getD (n - 1) 0 := by
  have h₀ : (Replay.new config clock).Timed clock 0 := ⟨rfl, fun _ hl => by cases hl⟩
  obtain ⟨e, he, h⟩ := (Sound.new config clock).timed h₀ ms
  rw [Session.loop?, he] at hl
  have := h.loop loop hl
  rwa [Nat.zero_add] at this

/-! ## The theorem -/

/-- What describes a list of subscriptions describes a longer list only if there are no symbols in
what is added. -/
theorem Metadata.Describes.append_iff {md : Metadata} {subs added : List Subscription}
    (h : md.Describes subs) (hs : ∀ sub ∈ added, sub.symbols ≠ []) :
    md.Describes (subs ++ added) ↔ added = [] := by
  constructor
  · intro h'
    have hsym : subs.flatMap (·.symbols) = (subs ++ added).flatMap (·.symbols) :=
      h.symbols.symm.trans h'.symbols
    rw [List.flatMap_append, List.self_eq_append_right, List.flatMap_eq_nil_iff] at hsym
    exact List.eq_nil_iff_forall_not_mem.mpr fun sub hsub => hs sub hsub (hsym sub hsub)
  · rintro rfl
    rwa [List.append_nil]

/-- In any run of a new replay session, metadata that a loop delivers, at its start or after a
restart, describes what was subscribed to when a start claimed the session for the loop (`Opened`),
however many subscriptions were registered since. Each of those has symbols if it was put together
by `Subscription.new`, and then the metadata describes the subscriptions of the moment in which it
is delivered exactly if none was registered since. -/
theorem greetings_describe_claim (config : Config) (clock : List UInt64) (ms : List Move)
    (m : Move) (md : Metadata)
    (h : .called (.metadata md) ∈
      ((Session.new config (.replay (.new config clock))).after ms).marks m) :
    let s₀ := Session.new config (.replay (.new config clock))
    ∃ earlier k later, Opened s₀ ms md earlier k later ∧
      let added := (s₀.after (earlier ++ [.start k])).registered later
      (s₀.after ms).subscriptions = (s₀.after earlier).subscriptions ++ added ∧
      ((∀ sub ∈ added, sub.symbols ≠ []) →
        (md.Describes (s₀.after ms).subscriptions ↔ added = [])) := by
  intro s₀
  have hnew := Enrolled.new config clock
  obtain ⟨e, hs⟩ := hnew.after ms
  obtain ⟨loop, hl, rfl⟩ := (hs.sound.rule m).delivers hs.sound.engine h
  obtain ⟨earlier, k, later, ho⟩ := hnew.opened rfl ms hl
  obtain ⟨e₁, h₁⟩ := hnew.after earlier
  have hsub : (s₀.after ms).subscriptions = (s₀.after earlier).subscriptions ++
      (s₀.after (earlier ++ [.start k])).registered later := by
    have hms : ms = (earlier ++ [.start k]) ++ later := by
      rw [ho.run, List.append_assoc]
      rfl
    have hk : s₀.registered (earlier ++ [.start k]) = s₀.registered earlier := by
      rw [Session.registered_append]
      exact List.append_nil _
    rw [hs.session, h₁.session, List.nil_append, List.nil_append]
    conv_lhs => rw [hms]
    rw [Session.registered_append, hk]
  refine ⟨earlier, k, later, ho, hsub, fun hne => ?_⟩
  rw [hsub]
  exact ho.describes.append_iff hne

/-- A subscription is registered, the session starts, and is restarted after a fault. The metadata
that follows the restart describes the subscription. -/
theorem greetings_describe_claim_restarted :
    let sub : Subscription := ⟨["ES.FUT"], .trades, .parent, none, false⟩
    let md : Metadata := Replay.metadata { Replay.new {} with subscriptions := [sub] }
    let ms : List Move := [.subscribe sub, .start ⟨true, false, true, true⟩, .started, .turn,
      .reply (.code 0), .push (.fault (.gateway "lost")), .turn, .reply (.code 0)]
    let s₀ := Session.new {} (.replay (.new {}))
    .called (.metadata md) ∈ (s₀.after ms).marks .turn ∧
      ∃ earlier k later, Opened s₀ ms md earlier k later := by
  intro sub md ms s₀
  have hm : .called (.metadata md) ∈ (s₀.after ms).marks .turn := by decide
  obtain ⟨earlier, k, later, ho, -⟩ := greetings_describe_claim {} [] ms .turn md hm
  exact ⟨hm, earlier, k, later, ho⟩

/-- A subscription that is registered while the loop runs is missing from the metadata that follows
a restart. -/
theorem restarted_greeting_is_stale :
    let es : Subscription := ⟨["ES.FUT"], .trades, .parent, none, false⟩
    let nq : Subscription := ⟨["NQ.FUT"], .trades, .parent, none, false⟩
    let ms : List Move := [.subscribe es, .start ⟨true, false, true, true⟩, .started, .turn,
      .reply (.code 0), .subscribe nq, .push (.fault (.gateway "lost")), .turn, .reply (.code 0)]
    let s := (Session.new {} (.replay (.new {}))).after ms
    let md : Metadata := Replay.metadata { Replay.new {} with subscriptions := [es] }
    s.subscriptions = [es, nq] ∧ s.marks .turn = [.called (.metadata md)] ∧
      md.symbols ≠ s.subscriptions.flatMap (·.symbols) := by
  decide

end MarketFeed
