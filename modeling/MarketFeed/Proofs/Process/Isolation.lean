import MarketFeed.Proofs.Process.Run

set_option autoImplicit false

/-!
# Sessions of a process do not interfere

Two things are shared between the sessions of a process: the connector with its feeds, and the marks
of the threads. `Sane` says that neither couples sessions that are opened with different keys: a
feed reaches the session that its key belongs to, and a thread is marked exactly while it is the
thread of a session whose callback runs. `Alike` relates two processes that one session cannot tell
apart; acts that concern other sessions keep it (`Sane.act_other`), and acts that concern this
session do the same in both (`Sane.act_same`). `sessions_do_not_interfere` concludes that an
interleaved run is, for each session, the run of its own acts.
-/

namespace MarketFeed

/-! ## The connector -/

/-- Whether a session is opened depends on the list of keys only, and it is always a new one. -/
theorem Connector.open_cases (k : Connector) (c : Config) (clock : List UInt64) :
    (∃ cause, ∀ k' : Connector, k'.authorized = k.authorized →
      k'.open c clock = (.error cause, k')) ∨
    (∀ k' : Connector, k'.authorized = k.authorized →
      k'.open c clock = (.ok (.new c (.replay (.new c clock))), { k' with
        opened := k'.opened + 1
        feeds := (c.key, k'.opened) :: k'.feeds.filter (·.1 != c.key) })) := by
  have hr (k' : Connector) (h : k'.authorized = k.authorized) : k'.refusal c = k.refusal c := by
    simp only [refusal, h]
  cases hv : c.validate with
  | error cause => exact .inl ⟨cause, fun k' _ => by simp [Connector.open, Session.connect, hv]⟩
  | ok =>
    cases hk : k.refusal c with
    | some cause =>
      refine .inl ⟨.engine cause, fun k' h => ?_⟩
      simp [Connector.open, Session.connect, hv, openReplay, Connector.connect,
        (hr k' h).trans hk, Except.map]
    | none =>
      refine .inr fun k' h => ?_
      simp [Connector.open, Session.connect, hv, openReplay, Connector.connect,
        (hr k' h).trans hk, Except.map]

namespace Process

/-! ## What an act concerns -/

/-- The session that an act concerns, if each key belongs to one session, its owner. -/
def Act.subject (owner : String → String) : Act → String
  | .connect name _ | .move _ name _ | .wait _ name | .wake name => name
  | .feed key _ => owner key

/-- A session is opened with a key that belongs to it. -/
def Act.Fits (owner : String → String) : Act → Prop
  | .connect name config => owner config.key = name
  | _ => True

/-- Every session of a run is opened with a key that belongs to it. -/
theorem Act.fits_of_keys {owner : String → String} {acts : List Act}
    (hk : ∀ name config, .connect name config ∈ acts → owner config.key = name) :
    ∀ a ∈ acts, a.Fits owner := by
  intro a ha
  cases a with
  | connect name config => exact hk name config ha
  | move | feed | wait | wake => trivial

/-! ## The shared parts -/

/-- Whether a callback of a session runs. -/
def inCallback (p : Process) (name : String) : Bool := (p.session? name).any (·.calling.isSome)

structure Sane (owner : String → String) (p : Process) : Prop where
  /-- A thread is marked exactly while it is that of a session whose callback runs. -/
  mark : ∀ t name, p.mark t = some name ↔ t = .delivery name ∧ p.inCallback name = true
  before : ∀ name, p.before name = none
  numbers : p.connector.opened = p.engines.length
  /-- The feed of a key reaches an engine of the session that the key belongs to. -/
  feeds : ∀ key n, p.connector.feed? key = some n → p.engines[n]? = some (owner key)

/-- Two processes that the session `name` cannot tell apart. -/
structure Alike (owner : String → String) (name : String) (p q : Process) : Prop where
  clock : p.clock = q.clock
  authorized : p.connector.authorized = q.connector.authorized
  session : p.session? name = q.session? name
  reached : ∀ key, owner key = name → p.reached key = q.reached key

variable {owner : String → String} {p q r : Process} {name : String}

namespace Alike

theorem refl (p : Process) : Alike owner name p p := ⟨rfl, rfl, rfl, fun _ _ => rfl⟩

theorem symm (h : Alike owner name p q) : Alike owner name q p :=
  ⟨h.clock.symm, h.authorized.symm, h.session.symm, fun key hk => (h.reached key hk).symm⟩

theorem trans (h : Alike owner name p q) (h' : Alike owner name q r) : Alike owner name p r :=
  ⟨h.clock.trans h'.clock, h.authorized.trans h'.authorized, h.session.trans h'.session,
    fun key hk => (h.reached key hk).trans (h'.reached key hk)⟩

theorem inCallback (h : Alike owner name p q) : p.inCallback name = q.inCallback name := by
  rw [Process.inCallback, Process.inCallback, h.session]

end Alike

/-! ## A session moves on -/

section

variable {s s' : Session}

@[simp] theorem replace_clock (p : Process) (name : String) (s s' : Session) :
    (p.replace name s s').clock = p.clock := by
  unfold replace
  split <;> rfl

@[simp] theorem replace_connector (p : Process) (name : String) (s s' : Session) :
    (p.replace name s s').connector = p.connector := by
  unfold replace
  split <;> rfl

@[simp] theorem replace_engines (p : Process) (name : String) (s s' : Session) :
    (p.replace name s s').engines = p.engines := by
  unfold replace
  split <;> rfl

theorem replace_sessions (p : Process) (name : String) (s s' : Session) :
    (p.replace name s s').sessions = p.sessions.put name s' := by
  unfold replace
  split <;> rfl

theorem session?_replace_self (p : Process) (name : String) (s s' : Session) :
    (p.replace name s s').session? name = some s' := by
  rw [session?, replace_sessions, Named.get?_put_self]

theorem session?_replace_ne (p : Process) {name other : String} (h : other ≠ name)
    (s s' : Session) : (p.replace name s s').session? other = p.session? other := by
  rw [session?, replace_sessions, Named.get?_put_ne h]
  rfl

@[simp] theorem reached_replace (p : Process) (name key : String) (s s' : Session) :
    (p.replace name s s').reached key = p.reached key := by
  rw [reached, reached, replace_connector, replace_engines]

theorem inCallback_replace (p : Process) (name other : String) (s s' : Session) :
    (p.replace name s s').inCallback other =
      if other = name then s'.calling.isSome else p.inCallback other := by
  split
  · rename_i h
    rw [h, inCallback, session?_replace_self]
    rfl
  · rename_i h
    rw [inCallback, session?_replace_ne p h, inCallback]

/-- The thread of a session is marked with it just while a callback runs. -/
theorem Sane.mark_delivery (hp : Sane owner p) (hs : p.session? name = some s) :
    p.mark (.delivery name) = if s.calling.isSome then some name else none := by
  have hc : p.inCallback name = s.calling.isSome := by rw [inCallback, hs]; rfl
  split
  · rename_i h
    exact (hp.mark _ _).mpr ⟨rfl, hc.trans h⟩
  · rename_i h
    refine Option.eq_none_iff_forall_ne_some.mpr fun other ho => ?_
    obtain ⟨ht, ho⟩ := (hp.mark _ _).mp ho
    cases ht
    exact h (hc.symm.trans ho)

/-- The mark of the thread of the session is set and cleared with its callbacks, and no other mark
changes. -/
theorem mark_replace (hp : Sane owner p) (hs : p.session? name = some s) (t : Thread) :
    (p.replace name s s').mark t =
      if t = .delivery name then (if s'.calling.isSome then some name else none) else p.mark t := by
  have hm := hp.mark_delivery hs
  by_cases ht : t = .delivery name
  · subst ht
    rw [if_pos rfl]
    cases hc : s.calling <;> cases hc' : s'.calling <;>
      simp [replace, hc, hc', enter, leave, hp.before, hm]
  · rw [if_neg ht]
    cases hc : s.calling <;> cases hc' : s'.calling <;>
      simp [replace, hc, hc', enter, leave, Function.update_of_ne ht]

theorem before_replace (hp : Sane owner p) (hs : p.session? name = some s) (other : String) :
    (p.replace name s s').before other = none := by
  cases hc : s.calling with
  | some c => cases hc' : s'.calling <;> simp [replace, hc, hc', leave, hp.before]
  | none =>
    have hm : p.mark (.delivery name) = none := by
      rw [hp.mark_delivery hs, hc]
      rfl
    cases hc' : s'.calling with
    | none => simp [replace, hc, hc', hp.before]
    | some c' =>
      by_cases ho : other = name
      · subst ho
        simp [replace, hc, hc', enter, hm]
      · simp [replace, hc, hc', enter, Function.update_of_ne ho, hp.before]

theorem Sane.replace (hp : Sane owner p) (hs : p.session? name = some s) (s' : Session) :
    Sane owner (p.replace name s s') := by
  refine ⟨fun t other => ?_, before_replace hp hs, by simpa using hp.numbers,
    fun key n hk => ?_⟩
  · rw [mark_replace hp hs, inCallback_replace]
    by_cases ho : other = name
    · subst ho
      by_cases ht : t = .delivery other
      · cases s'.calling <;> simp [ht]
      · simp only [ht, if_false, false_and, iff_false]
        exact fun hm => ht ((hp.mark t other).mp hm).1
    · by_cases ht : t = .delivery name
      · subst ht
        have hne : Thread.delivery name ≠ .delivery other := fun h => ho (by cases h; rfl)
        have hno : name ≠ other := fun h => ho h.symm
        cases s'.calling <;> simp [hne, hno]
      · rw [if_neg ht, if_neg ho]
        exact hp.mark t other
  · rw [replace_connector] at hk
    rw [replace_engines]
    exact hp.feeds key n hk

end

/-! ## A session is opened -/

/-- The process once a session was opened under a name. -/
def opened (p : Process) (name : String) (config : Config) : Process :=
  { p with
    connector := { p.connector with
      opened := p.connector.opened + 1
      feeds := (config.key, p.connector.opened) ::
        p.connector.feeds.filter (·.1 != config.key) }
    sessions := p.sessions.put name (.new config (.replay (.new config (p.clock name))))
    engines := p.engines ++ [name] }

/-- Whether a session is opened depends on the list of keys and on whether the name is free. -/
theorem connect_cases (p : Process) (name : String) (config : Config) :
    (∃ report, ∀ q : Process, q.clock = p.clock →
      q.connector.authorized = p.connector.authorized → q.session? name = p.session? name →
      q.connect name config = (report, q)) ∨
    (p.session? name = none ∧ ∃ report, ∀ q : Process, q.clock = p.clock →
      q.connector.authorized = p.connector.authorized → q.session? name = p.session? name →
      q.connect name config = (report, q.opened name config)) := by
  cases hs : p.session? name with
  | some s => exact .inl ⟨⟨.taken, []⟩, fun q _ _ h => by simp [connect, h]⟩
  | none =>
    rcases p.connector.open_cases config (p.clock name) with ⟨cause, hk⟩ | hk
    · exact .inl ⟨⟨.opened (.error cause), []⟩, fun q hc ha h => by
        simp only [connect, h, hc, hk q.connector ha]
        rw [← hc]⟩
    · exact .inr ⟨rfl, ⟨.opened (.ok ()), []⟩, fun q hc ha h => by
        simp [connect, h, hc, hk q.connector ha, opened]⟩

theorem session?_opened_ne (p : Process) {name other : String} (h : other ≠ name)
    (config : Config) : (p.opened name config).session? other = p.session? other :=
  Named.get?_put_ne h p.sessions _

theorem feed?_opened (p : Process) (name : String) (config : Config) (key : String) :
    (p.opened name config).connector.feed? key =
      if key = config.key then some p.connector.opened else p.connector.feed? key := by
  split
  · rename_i h
    subst h
    simp [opened, Connector.feed?]
  · rename_i h
    have hne : (key == config.key) = false := beq_false_of_ne h
    simp [opened, Connector.feed?, List.lookup_cons, hne, lookup_filter_ne h]

theorem inCallback_opened (hs : p.session? name = none) (config : Config) (other : String) :
    (p.opened name config).inCallback other = p.inCallback other := by
  by_cases ho : other = name
  · subst ho
    have hs' : (p.opened other config).session? other =
        some (.new config (.replay (.new config (p.clock other)))) :=
      Named.get?_put_self p.sessions other _
    rw [inCallback, inCallback, hs, hs']
    rfl
  · rw [inCallback, session?_opened_ne p ho, inCallback]

theorem Sane.opened (hp : Sane owner p) (hs : p.session? name = none) {config : Config}
    (ho : owner config.key = name) : Sane owner (p.opened name config) := by
  refine ⟨fun t other => ?_, hp.before, ?_, fun key n hk => ?_⟩
  · rw [inCallback_opened hs]
    exact hp.mark t other
  · simp [Process.opened, hp.numbers]
  · show (p.engines ++ [name])[n]? = some (owner key)
    rw [feed?_opened] at hk
    split at hk
    · rename_i hkey
      cases hk
      rw [hp.numbers, List.getElem?_concat_length, hkey, ho]
    · have hn := hp.feeds key n hk
      rwa [List.getElem?_append_left (List.getElem?_eq_some_iff.mp hn).1]

theorem reached_opened (hp : Sane owner p) (name : String) (config : Config) (key : String) :
    (p.opened name config).reached key =
      if key = config.key then some name else p.reached key := by
  rw [reached, feed?_opened]
  split
  · show (p.engines ++ [name])[p.connector.opened]? = some name
    rw [hp.numbers, List.getElem?_concat_length]
  · rw [reached]
    cases hk : p.connector.feed? key with
    | none => rfl
    | some n =>
      have hn := hp.feeds key n hk
      exact List.getElem?_append_left (List.getElem?_eq_some_iff.mp hn).1

/-! ## Acts -/

namespace Sane

/-- A thread is in a callback of a session only if it is the thread of the session. -/
theorem onDelivery (hp : Sane owner p) (t : Thread) (name : String) :
    p.onDelivery t name = (decide (t = .delivery name) && p.inCallback name) := by
  rw [Bool.eq_iff_iff, Process.onDelivery, delivers_iff, hp.mark, Bool.and_eq_true, decide_eq_true_eq]

/-- A feed reaches the session that its key belongs to. -/
theorem reached (hp : Sane owner p) {key : String} (h : p.reached key = some name) :
    name = owner key := by
  obtain ⟨n, hk, hn⟩ := Option.bind_eq_some_iff.mp h
  rw [hp.feeds key n hk, Option.some.injEq] at hn
  exact hn.symm

theorem operate (hp : Sane owner p) (name : String) (m : Move) :
    Sane owner (p.operate name m).2 := by
  unfold Process.operate
  split
  · exact hp
  · rename_i s hs
    exact hp.replace hs _

theorem act (hp : Sane owner p) {a : Act} (ha : a.Fits owner) : Sane owner (p.act a).2 := by
  cases a with
  | connect name config =>
    rcases p.connect_cases name config with ⟨report, hc⟩ | ⟨hs, report, hc⟩
    · rwa [Process.act, hc p rfl rfl rfl]
    · rw [Process.act, hc p rfl rfl rfl]
      exact hp.opened hs ha
  | move t name m => exact hp.operate name _
  | feed key f =>
    rw [Process.act]
    split
    · exact hp
    · exact hp.operate _ _
  | wait | wake => exact hp

end Sane

theorem operate_other {other : String} (h : name ≠ other) (p : Process) (m : Move) :
    Alike owner name p (p.operate other m).2 := by
  unfold operate
  split
  · exact .refl p
  · rename_i s hs
    refine ⟨?_, ?_, (session?_replace_ne p h _ _).symm, fun key _ => ?_⟩
    · rw [replace_clock]
    · rw [replace_connector]
    · rw [reached_replace]

theorem operate_same (h : Alike owner name p q) (m : Move) :
    (p.operate name m).1 = (q.operate name m).1 ∧
      Alike owner name (p.operate name m).2 (q.operate name m).2 := by
  unfold operate
  rw [h.session]
  split
  · exact ⟨rfl, h⟩
  · refine ⟨rfl, ?_, ?_, ?_, fun key hk => ?_⟩
    · rw [replace_clock, replace_clock, h.clock]
    · rw [replace_connector, replace_connector, h.authorized]
    · rw [session?_replace_self, session?_replace_self]
    · rw [reached_replace, reached_replace, h.reached key hk]

/-- An act that concerns another session does not show to this one. -/
theorem Sane.act_other (hp : Sane owner p) {a : Act} (ha : a.Fits owner)
    (hne : a.subject owner ≠ name) : Alike owner name p (p.act a).2 := by
  cases a with
  | connect other config =>
    rcases p.connect_cases other config with ⟨report, hc⟩ | ⟨hs, report, hc⟩
    · rw [Process.act, hc p rfl rfl rfl]
      exact .refl p
    · rw [Process.act, hc p rfl rfl rfl]
      refine ⟨rfl, rfl, (session?_opened_ne p hne.symm config).symm, fun key hk => ?_⟩
      have hkey : key ≠ config.key := by
        rintro rfl
        exact hne (ha.symm.trans hk)
      rw [reached_opened hp, if_neg hkey]
  | move t other m => exact operate_other hne.symm p _
  | feed key f =>
    rw [Process.act]
    split
    · exact .refl p
    · rename_i other hr
      exact operate_other (hp.reached hr ▸ hne.symm) p _
  | wait | wake => exact .refl p

/-- An act that concerns this session is answered and does the same wherever the session cannot tell
the processes apart. -/
theorem Sane.act_same (hp : Sane owner p) (hq : Sane owner q) (h : Alike owner name p q) {a : Act}
    (hsub : a.subject owner = name) :
    (p.act a).1 = (q.act a).1 ∧ Alike owner name (p.act a).2 (q.act a).2 := by
  have hd (t : Thread) : p.onDelivery t name = q.onDelivery t name := by
    rw [hp.onDelivery, hq.onDelivery, h.inCallback]
  cases a with
  | connect other config =>
    obtain rfl : other = name := hsub
    rcases p.connect_cases other config with ⟨report, hc⟩ | ⟨hs, report, hc⟩
    · rw [Process.act, Process.act, hc p rfl rfl rfl,
        hc q h.clock.symm h.authorized.symm h.session.symm]
      exact ⟨rfl, h⟩
    · rw [Process.act, Process.act, hc p rfl rfl rfl,
        hc q h.clock.symm h.authorized.symm h.session.symm]
      refine ⟨rfl, h.clock, h.authorized, ?_, fun key hk => ?_⟩
      · refine (Named.get?_put_self _ _ _).trans (.trans ?_ (Named.get?_put_self _ _ _).symm)
        rw [h.clock]
      · rw [reached_opened hp, reached_opened hq, h.reached key hk]
  | move t other m =>
    obtain rfl : other = name := hsub
    rw [Process.act, Process.act, hd t]
    exact operate_same h _
  | feed key f =>
    have hr := h.reached key hsub
    rw [Process.act, Process.act, ← hr]
    cases hk : p.reached key with
    | none => exact ⟨rfl, h⟩
    | some other =>
      obtain rfl : other = name := (hp.reached hk).trans hsub
      exact operate_same h _
  | wait t other =>
    obtain rfl : other = name := hsub
    refine ⟨?_, h⟩
    simp only [Process.act, waiting, h.session, hd t]
  | wake other =>
    obtain rfl : other = name := hsub
    refine ⟨?_, h⟩
    simp only [Process.act, woken, h.session]

/-! ## Runs -/

/-- What is seen of one session in a run. -/
def view (owner : String → String) (name : String) (l : List (Act × Report)) :
    List (Act × Report) := l.filter (·.1.subject owner == name)

/-- The acts of a run that concern one session. -/
def own (owner : String → String) (name : String) (acts : List Act) : List Act :=
  acts.filter (·.subject owner == name)

theorem Sane.new (owner : String → String) (authorized : Option (List String))
    (clock : String → List UInt64) : Sane owner (.new authorized clock) :=
  ⟨fun _ _ => ⟨nofun, fun h => nomatch h.2⟩, fun _ => rfl, rfl, fun _ _ h => nomatch h⟩

theorem Sane.after (hp : Sane owner p) (acts : List Act) (ha : ∀ a ∈ acts, a.Fits owner) :
    Sane owner (p.after acts) := by
  induction acts generalizing p with
  | nil => exact hp
  | cons a acts ih =>
    obtain ⟨ha, hacts⟩ := List.forall_mem_cons.mp ha
    exact ih (hp.act ha) hacts

/-- A run shows of a session what the run of its own acts shows. -/
theorem Alike.run (h : Alike owner name p q) (hp : Sane owner p) (hq : Sane owner q)
    (acts : List Act) (ha : ∀ a ∈ acts, a.Fits owner) :
    view owner name (p.log acts) = q.log (own owner name acts) ∧
      Alike owner name (p.after acts) (q.after (own owner name acts)) := by
  induction acts generalizing p q with
  | nil => exact ⟨rfl, h⟩
  | cons a acts ih =>
    obtain ⟨ha, hacts⟩ := List.forall_mem_cons.mp ha
    by_cases hsub : a.subject owner = name
    · obtain ⟨hr, h'⟩ := hp.act_same hq h hsub
      obtain ⟨hl, hf⟩ := ih h' (hp.act ha) (hq.act ha) hacts
      have ho : own owner name (a :: acts) = a :: own owner name acts :=
        List.filter_cons_of_pos (by simpa using hsub)
      have hv : view owner name (p.log (a :: acts)) =
          (a, (p.act a).1) :: view owner name ((p.act a).2.log acts) :=
        List.filter_cons_of_pos (by simpa using hsub)
      rw [ho, hv, hl, hr]
      exact ⟨rfl, hf⟩
    · obtain ⟨hl, hf⟩ := ih ((hp.act_other ha hsub).symm.trans h) (hp.act ha) hq hacts
      have ho : own owner name (a :: acts) = own owner name acts :=
        List.filter_cons_of_neg (by simpa using hsub)
      have hv : view owner name (p.log (a :: acts)) = view owner name ((p.act a).2.log acts) :=
        List.filter_cons_of_neg (by simpa using hsub)
      rw [ho, hv]
      exact ⟨hl, hf⟩

/-- The thread of a session is in its callback while one runs, and no other thread is. -/
theorem Sane.onDelivery_iff (hp : Sane owner p) {s : Session} (hs : p.session? name = some s)
    (t : Thread) :
    p.onDelivery t name = true ↔ t = .delivery name ∧ s.calling.isSome = true := by
  rw [hp.onDelivery, Process.inCallback, hs]
  simp

/-- Two acts of different sessions that follow each other may as well come in the other order. -/
theorem own_swap {a b : Act} (h : a.subject owner ≠ b.subject owner) (before rest : List Act) :
    own owner name (before ++ b :: a :: rest) = own owner name (before ++ a :: b :: rest) := by
  simp only [own, List.filter_append, List.filter_cons, beq_iff_eq]
  by_cases ha : a.subject owner = name
  · have hb : b.subject owner ≠ name := fun hb => h (ha.trans hb.symm)
    simp [ha, hb]
  · simp [ha]

/-! ## The sessions of a process -/

/-- Every session is what a run has made of a new one, over the clock that it was given. -/
structure Grown (clock : String → List UInt64) (p : Process) : Prop where
  clock_eq : p.clock = clock
  session : ∀ name s, p.session? name = some s →
    ∃ config ms, s = (Session.new config (.replay (.new config (clock name)))).after ms

variable {clock : String → List UInt64}

theorem Grown.operate (hp : p.Grown clock) (name : String) (m : Move) :
    (p.operate name m).2.Grown clock := by
  unfold Process.operate
  split
  · exact hp
  · rename_i s hs
    refine ⟨by rw [replace_clock, hp.clock_eq], fun other s' hs' => ?_⟩
    by_cases ho : other = name
    · subst ho
      rw [session?_replace_self, Option.some.injEq] at hs'
      obtain ⟨config, ms, rfl⟩ := hp.session other s hs
      refine ⟨config, ms ++ [m], ?_⟩
      rw [Session.after_append]
      exact hs'.symm
    · rw [session?_replace_ne p ho] at hs'
      exact hp.session other s' hs'

theorem Grown.act (hp : p.Grown clock) (a : Act) : (p.act a).2.Grown clock := by
  cases a with
  | connect name config =>
    rcases p.connect_cases name config with ⟨report, hc⟩ | ⟨-, report, hc⟩
    · rwa [Process.act, hc p rfl rfl rfl]
    · rw [Process.act, hc p rfl rfl rfl]
      refine ⟨hp.clock_eq, fun other s hs => ?_⟩
      by_cases ho : other = name
      · subst ho
        have hnew : some (.new config (.replay (.new config (p.clock other)))) = some s :=
          (Named.get?_put_self p.sessions other _).symm.trans hs
        exact ⟨config, [], hp.clock_eq ▸ (Option.some.inj hnew).symm⟩
      · rw [session?_opened_ne p ho] at hs
        exact hp.session other s hs
  | move t name m => exact hp.operate name _
  | feed key f =>
    rw [Process.act]
    split
    · exact hp
    · exact hp.operate _ _
  | wait | wake => exact hp

/-- So what holds of all runs of a new session holds of the sessions of a process. -/
theorem grown (authorized : Option (List String)) (clock : String → List UInt64)
    (acts : List Act) : ((Process.new authorized clock).after acts).Grown clock := by
  suffices h : ∀ p : Process, p.Grown clock → (p.after acts).Grown clock from
    h _ ⟨rfl, fun _ _ h => nomatch h⟩
  induction acts with
  | nil => exact fun _ hp => hp
  | cons a acts ih => exact fun p hp => ih _ (hp.act a)

end Process

/-! ## The theorem -/

/-- Let any number of sessions be opened through one connector, and let no key be used for two of
them: `owner` tells whose each key is. In every interleaving of what their loops do and any threads
do to them, for each session:

* The answers and marks that are seen of it, and the session itself, are those of the run of its own
  acts. With the session agree its state, subscriptions, symbols, statistics, queue and connection.
  It is what a run of moves makes of a new session.
* Two acts that follow each other and concern different sessions may be exchanged.
* A thread is in a callback of the session just if it is the thread of the session and a callback of
  the session runs. So a wait for the loop is answered at once on this thread only, and on any other,
  even in a callback of another session, it waits for the loop. -/
theorem sessions_do_not_interfere (authorized : Option (List String))
    (clock : String → List UInt64) (owner : String → String) (acts : List Process.Act)
    (hkeys : ∀ name config, .connect name config ∈ acts → owner config.key = name)
    (name : String) :
    let new := Process.new authorized clock
    let p := new.after acts
    Process.view owner name (new.log acts) = new.log (Process.own owner name acts) ∧
    p.session? name = (new.after (Process.own owner name acts)).session? name ∧
    (∀ before a b rest, acts = before ++ a :: b :: rest → a.subject owner ≠ b.subject owner →
      let exchanged := before ++ b :: a :: rest
      Process.view owner name (new.log exchanged) = Process.view owner name (new.log acts) ∧
      (new.after exchanged).session? name = p.session? name) ∧
    ∀ s, p.session? name = some s →
      (∃ config ms,
        s = (Session.new config (.replay (.new config (clock name)))).after ms) ∧ ∀ t,
        (p.onDelivery t name = true ↔ t = .delivery name ∧ s.calling.isSome = true) ∧
        (s.state.isActive = true → p.waiting t name =
          if t = .delivery name ∧ s.calling.isSome = true then .verdict .proceed else .waits) := by
  intro new p
  have hnew : Process.Sane owner new := .new owner authorized clock
  have hfits := Process.Act.fits_of_keys hkeys
  have hrefl : Process.Alike owner name new new := .refl new
  obtain ⟨hlog, hafter⟩ := hrefl.run hnew hnew acts hfits
  refine ⟨hlog, hafter.session, fun before a b rest hacts hne => ?_,
    fun s hs => ⟨(Process.grown authorized clock acts).session name s hs, fun t => ?_⟩⟩
  · intro exchanged
    have hx : ∀ a ∈ exchanged, a.Fits owner := by
      intro c hc
      refine hfits c ?_
      rw [hacts]
      simp only [exchanged, List.mem_append, List.mem_cons] at hc ⊢
      exact hc.imp_right or_left_comm.mp
    obtain ⟨hlog', hafter'⟩ := hrefl.run hnew hnew exchanged hx
    have ho : Process.own owner name exchanged = Process.own owner name acts := by
      rw [hacts]
      exact Process.own_swap hne before rest
    rw [ho] at hlog' hafter'
    exact ⟨hlog'.trans hlog.symm, hafter'.session.trans hafter.session.symm⟩
  · have hp : Process.Sane owner p := hnew.after acts hfits
    have hd := hp.onDelivery_iff hs t
    refine ⟨hd, fun hw => ?_⟩
    have hactive : s.lifecycle.isActive = true := hw
    simp only [Process.waiting, hs, Lifecycle.atOnce_active hactive, hd]
    by_cases hin : t = .delivery name ∧ s.calling.isSome = true
    · rw [if_pos hin, if_pos hin]
    · rw [if_neg hin, if_neg hin]

/-- While a callback of one session runs, its thread waits for the loop of the other session, whose
feed has what was put into it. -/
theorem sessions_do_not_interfere_in_callback :
    let config (key : String) : Config :=
      { key, dataset := "GLBX.MDP3", gatewayOverride := some ⟨"localhost", 1⟩ }
    let acts : List Process.Act := [.connect "a" (config "a"), .connect "b" (config "b"),
      .move (.host 0) "b" (.start ⟨true, false, false, false⟩),
      .move (.host 1) "a" (.start ⟨true, false, true, false⟩), .move (.host 1) "a" .started,
      .move (.delivery "a") "a" .turn, .feed "b" (.event .close), .move (.host 0) "b" .started]
    let p := (Process.new none).after acts
    p.onDelivery (.delivery "a") "a" = true ∧ p.waiting (.delivery "a") "b" = .waits ∧
      ((Process.new none).after (Process.own id "b" acts)).session? "b" = p.session? "b" ∧
      (p.session? "b").map (·.queue) = some [.close] := by
  intro config acts p
  have hkeys : ∀ name config, .connect name config ∈ acts → id config.key = name := by
    intro name c hc
    simp only [acts, List.mem_cons, Process.Act.connect.injEq, reduceCtorEq, List.not_mem_nil,
      or_false] at hc
    rcases hc with ⟨rfl, rfl⟩ | ⟨rfl, rfl⟩ <;> rfl
  have hq : (p.session? "b").map (fun s => (s.queue, s.state.isActive)) = some ([.close], true) := by
    decide +kernel
  obtain ⟨s, hs, hq⟩ := Option.map_eq_some_iff.mp hq
  obtain ⟨-, hown, -, hb⟩ := sessions_do_not_interfere none (fun _ => []) id acts hkeys "b"
  obtain ⟨hqueue, hw⟩ := Prod.mk.inj hq
  refine ⟨by decide +kernel, ?_, hown.symm, by rw [hs, Option.map_some, hqueue]⟩
  rw [((hb s hs).2 (.delivery "a")).2 hw, if_neg]
  exact fun h => absurd h.1 (by decide)
end MarketFeed
