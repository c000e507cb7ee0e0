import MarketFeed.Proofs.Session.Steps

set_option autoImplicit false

/-!
# Every event once and in order

What a replay session takes from its feed and what it calls, over a run of any length with any
number of loops. `Sinks.due` says which calls a mark makes due. `Serves x t y` is an acceptor of
traces: it keeps the account of a loop, which owes calls, and lets a call be made only when it is
the next that is owed, and an event be taken only when nothing is owed. `Sound.serves` says that it
accepts every trace, and `exactly_once_in_order` reads off it what the loops have taken and called.
-/

namespace MarketFeed

namespace Sinks

/-- The calls that an event is due, given the symbols known when it is taken: a record is due the
event callback if it is routed to an event, then the record callback; a fault is due the exception
callback. -/
def forTaken (k : Sinks) (symbols : SymbolTable) (event : FeedEvent) : List Call :=
  match event.record?, event.fault? with
  | some r, _ => k.forEvent r (Router.route symbols r).1 ++ k.forRecord r
  | none, some cause => if k.exception then [.exception cause] else []
  | none, none => []

/-- A routed record is due the event callback, then the record callback. -/
theorem forTaken_event {k : Sinks} {symbols : SymbolTable} {bytes : Bytes} {r : Record}
    {ev : Event} (hr : Record.decode bytes = .ok r) (hro : (Router.route symbols r).1 = .event ev)
    (hk : k.event = true) :
    k.forTaken symbols (.record bytes) = .event ev r :: k.forRecord r := by
  simp [forTaken, FeedEvent.record?, hr, Except.toOption, hro, forEvent, hk]

/-- A record that the event callback is not shown is due the record callback alone. -/
theorem forTaken_record {k : Sinks} {symbols : SymbolTable} {bytes : Bytes} {r : Record}
    (hr : Record.decode bytes = .ok r) (hf : k.forEvent r (Router.route symbols r).1 = []) :
    k.forTaken symbols (.record bytes) = k.forRecord r := by
  simp [forTaken, FeedEvent.record?, hr, Except.toOption, hf]

theorem forTaken_fault {symbols : SymbolTable} {event : FeedEvent} {cause : EngineError}
    (hf : event.fault? = some cause) (k : Sinks) :
    k.forTaken symbols event = if k.exception then [.exception cause] else [] := by
  simp [forTaken, FeedEvent.record?_of_fault hf, hf]

/-- The calls that a reply makes due: the metadata once more, if an exception policy asks for a
restart. -/
def forReply (k : Sinks) (metadata : Option Metadata) : Call → Reply → List Call
  | .exception _, r => if r.recovery = .restart then k.greeting metadata else []
  | _, _ => []

/-- The calls that a mark makes due. -/
def due (k : Sinks) (metadata : Option Metadata) : Mark → List Call
  | .took event symbols => k.forTaken symbols event
  | .replied c r => k.forReply metadata c r
  | _ => []

end Sinks

/-! ## The loops of a trace -/

/-- What is seen of one loop: what it was claimed with, and all marks up to the next claim. -/
structure Span where
  sinks : Sinks
  metadata : Option Metadata
  marks : List Mark

/-- The marks before the first claim. -/
def preamble (t : List Mark) : List Mark := t.takeWhile (!·.isClaim)

/-- The loops of a trace, oldest first. -/
def loops : List Mark → List Span
  | [] => []
  | .claimed k m :: t => ⟨k, m, preamble t⟩ :: loops t
  | _ :: t => loops t

namespace Span

/-- The events that the loop took from the feed. -/
def taken (l : Span) : List FeedEvent := takes l.marks

/-- The calls that marks of the loop make due, after the greeting at its start. -/
def dueOf (l : Span) (t : List Mark) : List Call :=
  l.sinks.greeting l.metadata ++ t.flatMap (l.sinks.due l.metadata)

/-- A loop makes the calls that are due, in order and each once; when it takes an event, all that
was due before has been called; when it is over, all that was due has been called, and it neither
takes nor calls any more. -/
structure Faithful (l : Span) : Prop where
  calls : calls l.marks <+: l.dueOf l.marks
  taking : ∀ t u event symbols, l.marks = t ++ .took event symbols :: u →
    MarketFeed.calls t = l.dueOf t
  ending : ∀ t u, l.marks = t ++ .ended :: u →
    MarketFeed.calls t = l.dueOf t ∧ MarketFeed.calls u = [] ∧ takes u = []
  complete : .ended ∈ l.marks → MarketFeed.calls l.marks = l.dueOf l.marks

end Span

/-! ## Accounts -/

/-- The account of a loop: its callbacks, its metadata and the calls it owes. -/
structure Account where
  sinks : Sinks
  metadata : Option Metadata
  owed : List Call

/-- The account of a loop that starts: it owes the greeting. -/
def Account.opening (k : Sinks) (metadata : Option Metadata) : Account :=
  ⟨k, metadata, k.greeting metadata⟩

/-- `Serves x t y`: with the marks `t` the account `x` becomes `y`. There is no account while there
is no loop. -/
inductive Serves : Option Account → List Mark → Option Account → Prop
  | nil {x : Option Account} : Serves x [] x
  | pushed {x y : Option Account} {t : List Mark} {event : FeedEvent} :
      Serves x t y → Serves x (.pushed event :: t) y
  | claimed {k : Sinks} {m : Option Metadata} {t : List Mark} {y : Option Account} :
      Serves (some (.opening k m)) t y → Serves none (.claimed k m :: t) y
  | took {k : Sinks} {m : Option Metadata} {t : List Mark} {y : Option Account}
      {event : FeedEvent} {symbols : SymbolTable} :
      Serves (some ⟨k, m, k.forTaken symbols event⟩) t y →
      Serves (some ⟨k, m, []⟩) (.took event symbols :: t) y
  | delivered {a : Account} {t : List Mark} {y : Option Account} {r : Record} {routed : Routed} :
      Serves (some a) t y → Serves (some a) (.delivered r routed :: t) y
  | called {k : Sinks} {m : Option Metadata} {owed : List Call} {t : List Mark}
      {y : Option Account} {c : Call} :
      Serves (some ⟨k, m, owed⟩) t y → Serves (some ⟨k, m, c :: owed⟩) (.called c :: t) y
  | replied {k : Sinks} {m : Option Metadata} {owed : List Call} {t : List Mark}
      {y : Option Account} {c : Call} {r : Reply} :
      Serves (some ⟨k, m, owed ++ k.forReply m c r⟩) t y →
      Serves (some ⟨k, m, owed⟩) (.replied c r :: t) y
  | ended {k : Sinks} {m : Option Metadata} {t : List Mark} {y : Option Account} :
      Serves none t y → Serves (some ⟨k, m, []⟩) (.ended :: t) y

namespace Serves

variable {x y z : Option Account} {t u : List Mark}

theorem append (h : Serves x t y) (h' : Serves y u z) : Serves x (t ++ u) z := by
  induction h with
  | nil => exact h'
  | pushed _ ih => exact .pushed (ih h')
  | claimed _ ih => exact .claimed (ih h')
  | took _ ih => exact .took (ih h')
  | delivered _ ih => exact .delivered (ih h')
  | called _ ih => exact .called (ih h')
  | replied _ ih => exact .replied (ih h')
  | ended _ ih => exact .ended (ih h')

theorem pushes (events : List FeedEvent) : Serves x (events.map .pushed) x := by
  induction events with
  | nil => exact .nil
  | cons event events ih => exact .pushed ih

/-- A trace can be cut anywhere. -/
theorem cut (h : Serves x (t ++ u) z) : ∃ y, Serves x t y ∧ Serves y u z := by
  induction t generalizing x with
  | nil => exact ⟨x, .nil, h⟩
  | cons m t ih =>
    rw [List.cons_append] at h
    cases h with
    | pushed h => obtain ⟨y, h₁, h₂⟩ := ih h; exact ⟨y, .pushed h₁, h₂⟩
    | claimed h => obtain ⟨y, h₁, h₂⟩ := ih h; exact ⟨y, .claimed h₁, h₂⟩
    | took h => obtain ⟨y, h₁, h₂⟩ := ih h; exact ⟨y, .took h₁, h₂⟩
    | delivered h => obtain ⟨y, h₁, h₂⟩ := ih h; exact ⟨y, .delivered h₁, h₂⟩
    | called h => obtain ⟨y, h₁, h₂⟩ := ih h; exact ⟨y, .called h₁, h₂⟩
    | replied h => obtain ⟨y, h₁, h₂⟩ := ih h; exact ⟨y, .replied h₁, h₂⟩
    | ended h => obtain ⟨y, h₁, h₂⟩ := ih h; exact ⟨y, .ended h₁, h₂⟩

/-- Without a loop there is nothing but pushes until the next claim. -/
theorem quiet (h : Serves none t y) (hn : ∀ m ∈ t, m.isClaim = false) :
    y = none ∧ ∀ m ∈ t, ∃ event, m = .pushed event := by
  induction t with
  | nil => cases h; exact ⟨rfl, fun _ hm => absurd hm List.not_mem_nil⟩
  | cons m t ih =>
    cases h with
    | @pushed _ _ _ event h =>
      obtain ⟨hy, hp⟩ := ih h fun m hm => hn m (List.mem_cons_of_mem _ hm)
      refine ⟨hy, fun m hm => ?_⟩
      rcases List.mem_cons.mp hm with rfl | hm
      · exact ⟨event, rfl⟩
      · exact hp m hm
    | claimed => cases hn _ List.mem_cons_self

end Serves

/-- Where there are only pushes, nothing is taken, called or due. -/
theorem nothing_of_pushes {t : List Mark} (hp : ∀ m ∈ t, ∃ event, m = .pushed event) :
    takes t = [] ∧ calls t = [] ∧
      ∀ (k : Sinks) (m : Option Metadata), t.flatMap (k.due m) = [] := by
  induction t with
  | nil => exact ⟨rfl, rfl, fun _ _ => rfl⟩
  | cons m t ih =>
    obtain ⟨event, rfl⟩ := hp m List.mem_cons_self
    obtain ⟨ht, hc, hd⟩ := ih fun m hm => hp m (List.mem_cons_of_mem _ hm)
    exact ⟨ht, hc, fun k m => hd k m⟩

def owing : Option Account → List Call
  | some a => a.owed
  | none => []

namespace Serves

variable {y z : Option Account} {t u : List Mark} {k : Sinks} {m : Option Metadata}
  {owed : List Call}

/-- The calls that were owed or became due are those that were made and those owed now. The loop
keeps its callbacks and its metadata until it is over. -/
theorem balance (h : Serves (some ⟨k, m, owed⟩) t y) (hn : ∀ m ∈ t, m.isClaim = false) :
    owed ++ t.flatMap (k.due m) = calls t ++ owing y ∧
      ((∃ owed', y = some ⟨k, m, owed'⟩) ∨ (y = none ∧ .ended ∈ t)) := by
  induction t generalizing owed with
  | nil =>
    cases h
    exact ⟨by simp [calls, owing], .inl ⟨owed, rfl⟩⟩
  | cons mark t ih =>
    have hn' : ∀ m ∈ t, m.isClaim = false := fun m hm => hn m (List.mem_cons_of_mem _ hm)
    have lift : ∀ {y : Option Account}, ((∃ owed', y = some ⟨k, m, owed'⟩) ∨
        (y = none ∧ .ended ∈ t)) → (∃ owed', y = some ⟨k, m, owed'⟩) ∨
        (y = none ∧ .ended ∈ mark :: t) := by
      intro y h
      exact h.imp_right fun h => ⟨h.1, List.mem_cons_of_mem _ h.2⟩
    cases h with
    | pushed h =>
      obtain ⟨hb, hy⟩ := ih h hn'
      exact ⟨hb, lift hy⟩
    | took h =>
      obtain ⟨hb, hy⟩ := ih h hn'
      exact ⟨hb, lift hy⟩
    | delivered h =>
      obtain ⟨hb, hy⟩ := ih h hn'
      exact ⟨hb, lift hy⟩
    | called h =>
      obtain ⟨hb, hy⟩ := ih h hn'
      exact ⟨congrArg (_ :: ·) hb, lift hy⟩
    | @replied _ _ _ _ _ c r h =>
      obtain ⟨hb, hy⟩ := ih h hn'
      rw [List.append_assoc] at hb
      exact ⟨hb, lift hy⟩
    | ended h =>
      obtain ⟨rfl, hp⟩ := h.quiet hn'
      obtain ⟨-, hc, hd⟩ := nothing_of_pushes hp
      refine ⟨?_, .inr ⟨rfl, List.mem_cons_self⟩⟩
      show t.flatMap (k.due m) = calls t ++ []
      rw [hd, hc, List.append_nil]

/-- A loop whose marks are accepted is faithful. -/
theorem faithful {l : Span} (h : Serves (some (.opening l.sinks l.metadata)) l.marks z)
    (hn : ∀ m ∈ l.marks, m.isClaim = false) : l.Faithful := by
  have before : ∀ t u, l.marks = t ++ u → ∀ y, Serves y u z →
      Serves (some (.opening l.sinks l.metadata)) t y → l.dueOf t = calls t ++ owing y := by
    intro t u hl y _ h
    refine (h.balance fun m hm => hn m ?_).1
    rw [hl]
    exact List.mem_append_left u hm
  have ending : ∀ t u, l.marks = t ++ .ended :: u →
      calls t = l.dueOf t ∧ ∀ m ∈ u, ∃ event, m = .pushed event := by
    intro t u hl
    rw [hl] at h
    obtain ⟨y, ht, hu⟩ := h.cut
    have hb := before t _ hl y hu ht
    cases hu with
    | ended hu =>
      rw [hb]
      refine ⟨(List.append_nil _).symm, (hu.quiet fun m hm => hn m ?_).2⟩
      rw [hl]
      exact List.mem_append_right t (List.mem_cons_of_mem _ hm)
  refine ⟨?_, ?_, ?_, ?_⟩
  · exact ⟨owing z, (before l.marks [] (List.append_nil _).symm z .nil h).symm⟩
  · intro t u event symbols hl
    rw [hl] at h
    obtain ⟨y, ht, hu⟩ := h.cut
    have hb := before t _ hl y hu ht
    cases hu with
    | took => rw [hb]; exact (List.append_nil _).symm
  · intro t u hl
    obtain ⟨hc, hp⟩ := ending t u hl
    exact ⟨hc, (nothing_of_pushes hp).2.1, (nothing_of_pushes hp).1⟩
  · intro he
    obtain ⟨t, u, hl⟩ := List.append_of_mem he
    obtain ⟨hc, hp⟩ := ending t u hl
    obtain ⟨-, hcu, hdu⟩ := nothing_of_pushes hp
    have hdue : (.ended :: u).flatMap (l.sinks.due l.metadata) = [] := hdu _ _
    rw [hl, calls_append, Span.dueOf, List.flatMap_append, hdue, List.append_nil, hc]
    show l.dueOf t ++ calls u = l.dueOf t
    rw [hcu, List.append_nil]

/-- The marks up to the next claim are accepted; the account is closed if there is such a claim. -/
theorem upTo_claim (h : Serves y t z) :
    ∃ z', Serves y (preamble t) z' ∧ (loops t = [] ∧ z' = z ∨ loops t ≠ [] ∧ z' = none) := by
  induction h with
  | nil => exact ⟨_, .nil, .inl ⟨rfl, rfl⟩⟩
  | claimed => exact ⟨none, .nil, .inr ⟨List.cons_ne_nil _ _, rfl⟩⟩
  | pushed _ ih => obtain ⟨z', h, hz⟩ := ih; exact ⟨z', .pushed h, hz⟩
  | took _ ih => obtain ⟨z', h, hz⟩ := ih; exact ⟨z', .took h, hz⟩
  | delivered _ ih => obtain ⟨z', h, hz⟩ := ih; exact ⟨z', .delivered h, hz⟩
  | called _ ih => obtain ⟨z', h, hz⟩ := ih; exact ⟨z', .called h, hz⟩
  | replied _ ih => obtain ⟨z', h, hz⟩ := ih; exact ⟨z', .replied h, hz⟩
  | ended _ ih => obtain ⟨z', h, hz⟩ := ih; exact ⟨z', .ended h, hz⟩

/-- Each loop of an accepted trace is accepted by itself. One that another follows is over. -/
theorem loop (h : Serves y t z) {earlier later : List Span} {l : Span}
    (hl : loops t = earlier ++ l :: later) :
    ∃ z', Serves (some (.opening l.sinks l.metadata)) l.marks z' ∧
      (later = [] ∧ z' = z ∨ later ≠ [] ∧ z' = none) := by
  induction h generalizing earlier with
  | nil => exact absurd hl.symm (by simp [loops])
  | @claimed k m t y h ih =>
    cases earlier with
    | nil =>
      injection hl with hl hlater
      subst hl hlater
      exact h.upTo_claim
    | cons _ earlier =>
      injection hl with _ hl
      exact ih hl
  | pushed _ ih => exact ih hl
  | took _ ih => exact ih hl
  | delivered _ ih => exact ih hl
  | called _ ih => exact ih hl
  | replied _ ih => exact ih hl
  | ended _ ih => exact ih hl

end Serves

theorem preamble_not_isClaim (t : List Mark) : ∀ m ∈ preamble t, m.isClaim = false := by
  intro m hm
  simpa using List.all_eq_true.mp List.all_takeWhile m hm

theorem preamble_append {t : List Mark} (h : ∀ m ∈ t, m.isClaim = false) (u : List Mark) :
    preamble (t ++ u) = t ++ preamble u :=
  List.takeWhile_append_of_pos fun m hm => by rw [h m hm]; rfl

theorem loops_not_isClaim {t : List Mark} {l : Span} (hl : l ∈ loops t) :
    ∀ m ∈ l.marks, m.isClaim = false := by
  induction t with
  | nil => cases hl
  | cons mark t ih =>
    cases mark with
    | claimed k m =>
      rcases List.mem_cons.mp hl with rfl | hl
      · exact preamble_not_isClaim t
      · exact ih hl
    | pushed | took | delivered | called | replied | ended => exact ih hl

/-- What was taken before the first claim, and by each loop, is all that was taken. -/
theorem takes_loops (t : List Mark) :
    takes t = takes (preamble t) ++ (loops t).flatMap (·.taken) := by
  induction t with
  | nil => rfl
  | cons mark t ih =>
    cases mark with
    | claimed k m => exact ih
    | took event symbols => exact congrArg (event :: ·) ih
    | pushed | delivered | called | replied | ended => exact ih

/-! ## Sessions keep their accounts -/

namespace Session

/-- The calls that are due next: what is left of the record that is with the event callback, and
the greeting of a loop that has not greeted. -/
def owed (k : Sinks) (loop : Replay.Loop) : Option Call → List Call
  | none => if loop.greeted then [] else k.greeting (some loop.metadata.timeless)
  | some (.event _ r) => k.forRecord r
  | some _ => []

/-- The account of the loop of a session. -/
def account (s : Session) : Option Account :=
  match s.sinks, s.loop? with
  | some k, some loop => some ⟨k, some loop.metadata.timeless, owed k loop s.calling⟩
  | _, _ => none

theorem account_eq {s : Session} {e : Replay} (he : s.engine = .replay e) {loop : Replay.Loop}
    (hl : e.loop = some loop) {k : Sinks} (hk : s.sinks = some k) :
    s.account = some ⟨k, some loop.metadata.timeless, owed k loop s.calling⟩ := by
  simp [account, loop?, he, hk, hl]

end Session

theorem Sound.account_eq {s : Session} {e : Replay} (hs : Sound s e) {loop : Replay.Loop}
    (hl : e.loop = some loop) {k : Sinks} (hk : s.sinks = some k) :
    s.account = some ⟨k, some loop.metadata.timeless, Session.owed k loop s.calling⟩ :=
  Session.account_eq hs.engine hl hk

/-- A loop greets with one call at most. -/
theorem Sinks.greeting_head (k : Sinks) (m : Metadata) :
    ((k.greeting (some m)).head?.map Call.timeless).toList = k.greeting (some m.timeless) := by
  cases hk : k.metadata <;> simp [Sinks.greeting, hk]

namespace Rule

variable {s s' : Session} {e : Replay} {m : Move} {t : List Mark}

/-- What a move takes and leaves in the feed is what was there and what it pushes. -/
theorem queue (he : s.engine = .replay e) (hr : Rule s e m t s') :
    takes t ++ s'.queue = s.queue ++ pushes t := by
  have hs : s.queue = e.queue := by simp [Session.queue, he]
  rw [hs]
  cases hr with
  | still => simp [takes, pushes, hs]
  | feed => simp [Session.queue]
  | greet => simp [Session.queue]
  | close _ _ _ _ hq => rw [hq]; exact (List.append_nil _).symm
  | event _ _ _ _ _ hq => rw [hq]; exact (List.append_nil _).symm
  | @record loop k bytes queue r _ _ _ _ _ hq =>
    rw [hq]
    cases hk : k.record <;>
      simp [Session.showing, Session.queue, Sinks.forRecord, hk, takes, pushes,
        List.filterMap_cons, Mark.took?, Mark.pushed?]
  | consult _ _ _ _ _ hq => rw [hq]; exact (List.append_nil _).symm
  | giveUp _ _ _ _ _ hq => rw [hq]; exact (List.append_nil _).symm
  | @greeted m r => rw [← hs]; cases r <;> exact (List.append_nil _).symm
  | @offer ev rec r => rw [← hs]; cases r <;> exact (List.append_nil _).symm
  | @proceed c r => rw [← hs]; cases r <;> exact (List.append_nil _).symm
  | subscribe | reconnect | start | started | stop | release | shutdown | stopped | restart
  | abandon => exact (List.append_nil _).symm

/-- The calls that were answered, and the one that runs, are those that were made. -/
theorem answered (hr : Rule s e m t s') :
    (s.calling.map Call.timeless).toList ++ calls t =
      replies t ++ (s'.calling.map Call.timeless).toList := by
  cases hr with
  | still => simp [calls, replies]
  | feed => simp
  | greet hc => simp [hc, Sinks.greeting_head]
  | subscribe | reconnect | start | started | stop | release => exact List.append_nil _
  | shutdown hc => rw [hc]; rfl
  | close hc => rw [hc]; rfl
  | event hc => rw [hc]; rfl
  | @record loop k bytes queue r hc =>
    rw [hc]
    cases hk : k.record <;>
      simp [Session.showing, Sinks.forRecord, hk, calls, replies, List.filterMap_cons,
        Mark.called?, Mark.replied?]
  | consult hc => rw [hc]; rfl
  | giveUp hc => rw [hc]; rfl
  | greeted hc => rw [hc]; rfl
  | offer _ hc => rw [hc]; rfl
  | proceed _ hc hv => rw [hc]; exact congrArg ([·]) (Sinks.timeless_of_verdict hv)
  | stopped _ hc hv => rw [hc]; exact congrArg ([·]) (Sinks.timeless_of_verdict hv)
  | restart _ hc => rw [hc]; rfl
  | abandon hc => rw [hc]; rfl

/-- The metadata callback is called if there is one. -/
theorem serves_greet {k : Sinks} {m : Metadata} {y : Option Account}
    (hy : y = some ⟨k, some m, []⟩) :
    Serves (some ⟨k, some m, k.greeting (some m)⟩) ((k.greeting (some m)).map .called) y := by
  rw [hy]
  cases hk : k.metadata with
  | true =>
    have hg : k.greeting (some m) = [.metadata m] := by simp [Sinks.greeting, hk]
    rw [hg]
    exact .called .nil
  | false =>
    have hg : k.greeting (some m) = [] := by simp [Sinks.greeting, hk]
    rw [hg]
    exact .nil

/-- Once the verdict on a record is in, nothing more is due to the record. -/
theorem owed_of_verdict {k : Sinks} {c : Call} {r : Reply} {v : Verdict}
    (hv : k.verdict? c r = some v) (loop : Replay.Loop) (m : Option Metadata) :
    Session.owed k loop (some c) = [] ∧ k.forReply m c r = [] := by
  cases c with
  | metadata => cases hv
  | event ev rec =>
    cases hk : k.record with
    | true => simp [Sinks.verdict?, hk] at hv
    | false => exact ⟨by simp [Session.owed, Sinks.forRecord, hk], rfl⟩
  | record rec => exact ⟨rfl, rfl⟩
  | exception => cases hv

/-- The account after a reply that neither ends the loop nor lets it greet again. -/
theorem account_replied (hs : Sound s e) {loop : Replay.Loop} (hl : e.loop = some loop)
    {k : Sinks} (hk : s.sinks = some k) (r : Reply) (c : Option Call) :
    Session.account { s.noteReply r with calling := c } =
      some ⟨k, some loop.metadata.timeless, Session.owed k loop c⟩ := by
  obtain ⟨he, hks, -⟩ := Sound.noteReply_keeps s r
  exact Session.account_eq (s := { s.noteReply r with calling := c }) (he.trans hs.engine) hl
    (hks.trans hk)

/-- Every move is accepted. -/
theorem serves (hs : Sound s e) (hr : Rule s e m t s') : Serves s.account t s'.account := by
  cases hr with
  | still => exact .nil
  | @start k _ hw =>
    obtain ⟨-, hk, hc⟩ := hs.idle hw
    have ha : s.account = none := by simp [Session.account, hk]
    rw [ha]
    refine .claimed ?_
    rw [hc]
    exact .nil
  | subscribe | reconnect | started | stop | release =>
    have ha : s.account = Session.account { s with engine := .replay e } := by
      rw [← hs.engine]
    rw [ha]
    exact .nil
  | feed =>
    have ha : s.account = Session.account { s with engine := .replay e } := by
      rw [← hs.engine]
    rw [ha]
    exact .pushes _
  | @greet loop k hc hk hl hg =>
    rw [hs.account_eq hl hk, hc, Session.owed, hg]
    refine serves_greet ?_
    cases hkm : k.metadata <;>
      simp [Session.account, Session.loop?, hk, Sinks.greeting, hkm, Session.owed]
  | shutdown hc hl hg =>
    obtain ⟨k, hk⟩ := hs.has_sinks hl
    rw [hs.account_eq hl hk, hc, Session.owed, hg]
    exact .ended .nil
  | close hc hl hg =>
    obtain ⟨k, hk⟩ := hs.has_sinks hl
    rw [hs.account_eq hl hk, hc, Session.owed, hg]
    exact .took (.ended .nil)
  | @event loop k bytes queue r ev hc hk hl hg hsd hq hr hro hev =>
    have ha : Session.account
          { s.routed r with engine := .replay { e with queue }, calling := some (.event ev r) } =
        some ⟨k, some loop.metadata.timeless, k.forRecord r⟩ :=
      Session.account_eq (e := { e with queue }) rfl hl hk
    rw [hs.account_eq hl hk, hc, Session.owed, hg, ha]
    refine .took ?_
    rw [Sinks.forTaken_event hr hro hev]
    exact .delivered (.called .nil)
  | @record loop k bytes queue r hc hk hl hg hsd hq hr hf =>
    have ha : Session.account ((s.routed r).showing { e with queue } k r) =
        some ⟨k, some loop.metadata.timeless, []⟩ := by
      cases hkr : k.record <;>
        simp [Session.account, Session.loop?, Session.showing, Session.routed, hk, hkr, hl, hg,
          Session.owed]
    rw [hs.account_eq hl hk, hc, Session.owed, hg, ha]
    refine .took (.delivered ?_)
    rw [Sinks.forTaken_record hr hf]
    cases hkr : k.record with
    | true => simpa [Sinks.forRecord, hkr] using .called .nil
    | false => simpa [Sinks.forRecord, hkr] using .nil
  | @consult loop k event queue cause hc hk hl hg hsd hq hf hx =>
    have ha : Session.account
          { s with engine := .replay { e with queue }, calling := some (.exception cause) } =
        some ⟨k, some loop.metadata.timeless, []⟩ :=
      Session.account_eq (e := { e with queue }) rfl hl hk
    rw [hs.account_eq hl hk, hc, Session.owed, hg, ha]
    refine .took ?_
    rw [Sinks.forTaken_fault hf, if_pos hx]
    exact .called .nil
  | @giveUp loop k event queue cause hc hk hl hg hsd hq hf hx =>
    rw [hs.account_eq hl hk, hc, Session.owed, hg]
    refine .took ?_
    rw [Sinks.forTaken_fault hf, if_neg (by simp [hx])]
    exact .ended .nil
  | @greeted m r hc =>
    obtain ⟨loop, hl, hg⟩ := hs.calling _ hc
    obtain ⟨k, hk⟩ := hs.has_sinks hl
    rw [hs.account_eq hl hk, hc, account_replied hs hl hk, Session.owed, hg]
    exact .replied .nil
  | @offer ev rec r k hk hc hkr =>
    obtain ⟨loop, hl, -⟩ := hs.calling _ hc
    have hf : k.forRecord rec = [.record rec] := by simp [Sinks.forRecord, hkr]
    rw [hs.account_eq hl hk, hc, account_replied hs hl hk, Session.owed, hf]
    exact .replied (.called .nil)
  | @proceed c r k hk hc hv =>
    obtain ⟨loop, hl, hg⟩ := hs.calling _ hc
    obtain ⟨ho, hf⟩ := owed_of_verdict hv loop (some loop.metadata.timeless)
    rw [hs.account_eq hl hk, hc, account_replied hs hl hk, ho, Session.owed, hg]
    refine .replied ?_
    rw [hf]
    exact .nil
  | @stopped c r k v hk hc hv =>
    obtain ⟨loop, hl, -⟩ := hs.calling _ hc
    obtain ⟨ho, hf⟩ := owed_of_verdict hv loop (some loop.metadata.timeless)
    rw [hs.account_eq hl hk, hc, ho]
    refine .replied ?_
    rw [hf]
    exact .ended .nil
  | @restart loop cause r hl hc hrc =>
    obtain ⟨k, hk⟩ := hs.has_sinks hl
    obtain ⟨-, hks, -⟩ := Sound.noteReply_keeps s r
    have hf : k.forReply (some loop.metadata.timeless) (.exception cause) r =
        k.greeting (some loop.metadata.timeless) := by simp [Sinks.forReply, hrc]
    rw [hs.account_eq hl hk, hc]
    refine .replied ?_
    rw [hf]
    simp only [Session.account, Session.loop?, hks, hk]
    exact .nil
  | @abandon cause r hc hrc =>
    obtain ⟨loop, hl, -⟩ := hs.calling _ hc
    obtain ⟨k, hk⟩ := hs.has_sinks hl
    have hf : k.forReply (some loop.metadata.timeless) (.exception cause) r = [] := by
      simp [Sinks.forReply, hrc]
    rw [hs.account_eq hl hk, hc]
    refine .replied ?_
    rw [hf]
    exact .ended .nil

end Rule

/-! ## Runs -/

namespace Sound

variable {s : Session} {e : Replay}

theorem move (hs : Sound s e) (m : Move) : ∃ e', Sound (s.move m) e' := (hs.rule m).sound hs

/-- Every run keeps the invariant. -/
theorem after (hs : Sound s e) (ms : List Move) : ∃ e', Sound (s.after ms) e' := by
  induction ms generalizing s e with
  | nil => exact ⟨e, hs⟩
  | cons m ms ih =>
    obtain ⟨e', hs'⟩ := hs.move m
    exact ih hs'

theorem serves (hs : Sound s e) (ms : List Move) :
    Serves s.account (s.trace ms) (s.after ms).account := by
  induction ms generalizing s e with
  | nil => exact .nil
  | cons m ms ih =>
    obtain ⟨e', hs'⟩ := hs.move m
    exact ((hs.rule m).serves hs).append (ih hs')

/-- What a run takes and leaves in the feed is what was there and what it pushes. -/
theorem takes_queue (hs : Sound s e) (ms : List Move) :
    takes (s.trace ms) ++ (s.after ms).queue = s.queue ++ pushes (s.trace ms) := by
  induction ms generalizing s e with
  | nil => simp [takes, pushes]
  | cons m ms ih =>
    obtain ⟨e', hs'⟩ := hs.move m
    have hq := (hs.rule m).queue hs.engine
    simp only [Session.trace_cons, Session.after_cons, takes_append, pushes_append]
    rw [List.append_assoc, ih hs', ← List.append_assoc, hq, List.append_assoc]

/-- The calls that were answered in a run, and the one that runs at its end, are those that were
made. So no callback is called while another runs. -/
theorem calls_answered (hs : Sound s e) (ms : List Move) :
    (s.calling.map Call.timeless).toList ++ calls (s.trace ms) =
      replies (s.trace ms) ++ ((s.after ms).calling.map Call.timeless).toList := by
  induction ms generalizing s e with
  | nil => simp [calls, replies]
  | cons m ms ih =>
    obtain ⟨e', hs'⟩ := hs.move m
    have ha := (hs.rule m).answered
    simp only [Session.trace_cons, Session.after_cons, calls_append, replies_append]
    rw [← List.append_assoc, ha, List.append_assoc, ih hs', List.append_assoc]

/-- Nothing is owed when the session waits. -/
theorem settled (hs : Sound s e) (hc : s.calling = none) (ht : s.step = none) :
    owing s.account = [] := by
  cases hl : e.loop with
  | none => simp [Session.account, Session.loop?, hs.engine, hl, owing]
  | some loop =>
    obtain ⟨k, hk⟩ := hs.has_sinks hl
    cases hg : loop.greeted with
    | true => simp [hs.account_eq hl hk, owing, hc, Session.owed, hg]
    | false => simp [Session.step, hc, hs.engine, Replay.turn_greet hl hg] at ht

end Sound

/-- Over any run of a new replay session, with any number of loops: the events taken by the loops,
loop after loop, followed by those still in the feed, are the events that were pushed, in the order
of the pushes. Outside the loops nothing is taken or called. Each loop calls exactly what is due, in
order (`Span.Faithful`), has called all of it once it is over or the session waits, and is over when
another follows. No callback is called while another runs. -/
theorem exactly_once_in_order (config : Config) (clock : List UInt64) (ms : List Move) :
    let s := Session.new config (.replay (.new config clock))
    let t := s.trace ms
    (loops t).flatMap (·.taken) ++ (s.after ms).queue = pushes t ∧
    takes (preamble t) = [] ∧ calls (preamble t) = [] ∧
    (∀ earlier l later, loops t = earlier ++ l :: later →
      l.Faithful ∧ (later ≠ [] → .ended ∈ l.marks) ∧
      ((s.after ms).calling = none → (s.after ms).step = none →
        calls l.marks = l.dueOf l.marks)) ∧
    calls t = replies t ++ ((s.after ms).calling.map Call.timeless).toList := by
  intro s t
  have hs : Sound s (.new config clock) := .new config clock
  have hv : Serves none t (s.after ms).account := hs.serves ms
  obtain ⟨z, hp, -⟩ := hv.upTo_claim
  obtain ⟨htp, hcp, -⟩ := nothing_of_pushes (hp.quiet (preamble_not_isClaim t)).2
  refine ⟨?_, htp, hcp, ?_, hs.calls_answered ms⟩
  · have hq : takes t ++ (s.after ms).queue = [] ++ pushes t := hs.takes_queue ms
    rw [takes_loops, htp] at hq
    exact hq
  · intro earlier l later hl
    obtain ⟨z, hz, hend⟩ := hv.loop hl
    have hn : ∀ m ∈ l.marks, m.isClaim = false := by
      refine loops_not_isClaim (t := t) ?_
      rw [hl]
      exact List.mem_append_right earlier List.mem_cons_self
    obtain ⟨hb, hy⟩ := hz.balance hn
    refine ⟨hz.faithful hn, fun hlater => ?_, fun hc ht => ?_⟩
    · rcases hend with ⟨hnil, -⟩ | ⟨-, rfl⟩
      · exact absurd hnil hlater
      · rcases hy with ⟨_, h⟩ | ⟨-, he⟩
        · cases h
        · exact he
    · obtain ⟨e', hs'⟩ := hs.after ms
      have ho : owing z = [] := by
        rcases hend with ⟨-, rfl⟩ | ⟨-, rfl⟩
        · exact hs'.settled hc ht
        · rfl
      rw [ho, List.append_nil] at hb
      exact hb.symm

end MarketFeed
