import Mathlib
import MarketFeed.Proofs.Record.Sorting
import MarketFeed.Proofs.Session.Moves
import MarketFeed.Proofs.Session.Order
import MarketFeed.Proofs.Threads.Records

set_option autoImplicit false

/-!
# Every record is accounted for

The statistics of a session are a fold over what is seen of it: `Ledger.enter` books a mark, and
`Session.balanced` says that after any run, over either engine, the books of the trace are the
statistics. Each counter is then read off the books by one induction over the trace (`books_sum`),
and the events by one over the loops of the trace (`books_events`). `statistics_account` puts them
together.
-/

namespace MarketFeed

/-! ## Booking a mark -/

/-- A record is counted once more as a heartbeat, as too short, or, if an event callback is there
to hear of it, as an event. -/
def Stats.book (s : Stats) (r : Record) (heard : Bool) : Stats :=
  let s := s.delivered r.size
  if r.isHeartbeat then s.heartbeat
  else if r.isShort then s.dispatchError
  else if heard then s.event
  else s

/-- Whether a callback asks for a restart, which only an exception policy can do. -/
def Call.restarts (r : Reply) : Call → Bool
  | .exception _ => r.recovery == .restart
  | _ => false

/-- A callback that panicked is a fault. -/
def Stats.answered (s : Stats) (c : Call) (r : Reply) : Stats :=
  let s := if r = .panic then s.callbackFault else s
  if c.restarts r then s.restart else s

/-- The time of the metadata does not count. -/
@[simp] theorem Stats.answered_timeless (s : Stats) (c : Call) (r : Reply) :
    s.answered c.timeless r = s.answered c r := by
  cases c <;> rfl

/-- The statistics of a session, and what it was last claimed with. -/
structure Ledger where
  sinks : Option Sinks
  stats : Stats

def Ledger.hears (l : Ledger) : Bool := l.sinks.any (·.event)

def Ledger.enter (l : Ledger) : Mark → Ledger
  | .claimed k _ => ⟨some k, l.stats.start⟩
  | .delivered r _ => ⟨l.sinks, l.stats.book r l.hears⟩
  | .replied c r => ⟨l.sinks, l.stats.answered c r⟩
  | _ => l

def Ledger.books (l : Ledger) (t : List Mark) : Ledger := t.foldl enter l

namespace Ledger

variable {l : Ledger} {t : List Mark}

@[simp] theorem books_cons (l : Ledger) (m : Mark) (t : List Mark) :
    l.books (m :: t) = (l.enter m).books t := rfl

theorem books_append (l : Ledger) (t u : List Mark) :
    l.books (t ++ u) = (l.books t).books u := List.foldl_append

theorem books_quiet (h : ∀ m ∈ t, m.isQuiet = true) : l.books t = l := by
  induction t with
  | nil => rfl
  | cons m t ih =>
    have hm : l.enter m = l := by
      have hq := h m List.mem_cons_self
      cases m with
      | pushed | took | ended => rfl
      | claimed | delivered | called | replied => cases hq
    rw [books_cons, hm]
    exact ih fun n hn => h n (List.mem_cons_of_mem _ hn)

theorem books_sinks (h : ∀ m ∈ t, m.isClaim = false) : (l.books t).sinks = l.sinks := by
  induction t generalizing l with
  | nil => rfl
  | cons m t ih =>
    rw [books_cons, ih fun n hn => h n (List.mem_cons_of_mem _ hn)]
    have hm := h m List.mem_cons_self
    cases m with
    | claimed => cases hm
    | pushed | took | delivered | called | replied | ended => rfl

/-- A call is not booked. -/
theorem books_call (p : Progress) : l.books p.marks = l := by
  cases p <;> rfl

end Ledger

/-! ## Every move keeps the books -/

namespace Session

/-- The books show the statistics of the session and the callbacks it was claimed with. -/
structure Balanced (s : Session) (l : Ledger) : Prop where
  claimed : s.Claimed l.sinks
  stats : s.stats = l.stats

theorem Claimed.has_event {s : Session} {x : Option Sinks} (h : s.Claimed x)
    (hk : s.sinks.isSome = true) : s.has (·.event) = x.any (·.event) := by
  obtain ⟨k, hk⟩ := Option.isSome_iff_exists.mp hk
  rw [has, hk, h.sinks k hk]

/-- A record that is routed is booked. -/
theorem routed_stats (s : Session) (r : Record) :
    (s.routed r).stats = s.stats.book r (s.has (·.event)) := by
  have hs := Router.route_sorted s.symbols r
  unfold routed Stats.book
  generalize (Router.route s.symbols r).1 = routed at hs ⊢
  cases hs with
  | suppressed hh _ => simp only [hh, if_true]
  | failed hh hsh => simp only [hh, hsh, Bool.false_eq_true, if_false, if_true]
  | event hh hsh => simp only [hh, hsh, Bool.false_eq_true, if_false]

theorem resume_stats (s : Session) (c : Call) (r : Reply) :
    (s.resume c r).2.stats = s.stats.answered c r := by
  have hn : (s.noteReply r).stats = if r = .panic then s.stats.callbackFault else s.stats := by
    cases r <;> rfl
  cases c with
  | metadata | event | record => exact hn
  | exception cause =>
    cases hrc : r.recovery with
    | restart => simp [resume, decide, Stats.answered, Call.restarts, hrc, hn]
    | stop => simp [resume, decide, Stats.answered, Call.restarts, hrc, hn]

theorem consult_stats (s : Session) (cause : EngineError) :
    (s.consult cause).2.stats = s.stats := by
  unfold consult
  split
  · rfl
  · split <;> rfl

variable {s s' : Session} {l : Ledger} {t : List Mark}

theorem Does.balanced (h : s.Does t s') (hb : s.Balanced l) : s'.Balanced (l.books t) := by
  obtain ⟨hc, hst⟩ := hb
  have hengine : ∀ {engine : Engine}, (engine.loop?.isSome = true → s.engine.loop?.isSome = true) →
      ({ s with engine } : Session).Claimed l.sinks :=
    fun hl => (Keeps.engine s hl).claimed _ hc
  cases h with
  | keeps hk => exact ⟨hk.claimed _ hc, hk.stats.trans hst⟩
  | claims hk => exact ⟨hk.claimed _ hc, by rw [hk.stats, hst]; rfl⟩
  | @resumes c r =>
    rw [Ledger.books_cons, Ledger.books_call]
    refine ⟨(hc.resume c r).follow, ?_⟩
    rw [follow_stats, resume_stats, hst, ← Stats.answered_timeless]
    rfl
  | greets hl =>
    rw [Ledger.books_call]
    exact ⟨Claimed.follow (hengine hl), by rw [follow_stats]; exact hst⟩
  | @accepts r engine hl hd hsr =>
    have hk : s.sinks.isSome = true := hd.elim hc.loop id
    rw [Ledger.books_cons, Ledger.books_call]
    refine ⟨((hengine hl).accept r).follow, ?_⟩
    rw [follow_stats, accept_eq (s := { s with engine }) hsr]
    show (routed { s with engine } r).stats = l.stats.book r l.hears
    rw [routed_stats]
    show s.stats.book r (s.has (·.event)) = _
    rw [hc.has_event hk, hst]
    rfl
  | consults hl =>
    rw [Ledger.books_call]
    refine ⟨((hengine hl).consult _).follow, ?_⟩
    rw [follow_stats, consult_stats]
    exact hst

theorem balanced_move (hb : s.Balanced l) (m : Move) :
    (s.move m).Balanced (l.books (s.marks m)) := by
  obtain ⟨before, t, after, hm, hd, hq, hq'⟩ := s.does m
  rw [hm, Ledger.books_append, Ledger.books_append, Ledger.books_quiet hq, Ledger.books_quiet hq']
  exact hd.balanced hb

/-- After any run the books of the trace show the statistics. -/
theorem balanced (hb : s.Balanced l) (ms : List Move) :
    (s.after ms).Balanced (l.books (s.trace ms)) := by
  induction ms generalizing s l with
  | nil => exact hb
  | cons m ms ih =>
    rw [trace_cons, Ledger.books_append]
    exact ih (balanced_move hb m)

/-- A new session over an engine without a loop has clean books. -/
theorem balanced_new (config : Config) {engine : Engine} (h : engine.loop? = none) :
    (Session.new config engine).Balanced ⟨none, {}⟩ := by
  refine ⟨⟨fun k hk => (by cases hk), ⟨fun _ => rfl, fun hx => (by cases hx)⟩, fun hl => ?_⟩, rfl⟩
  have hl' : engine.loop?.isSome = true := hl
  rw [h] at hl'
  cases hl'

end Session

/-! ## Records of a trace -/

theorem delivered_quiet {t : List Mark} (h : ∀ m ∈ t, m.isQuiet = true) : delivered t = [] := by
  rw [delivered, List.filterMap_eq_nil_iff]
  intro m hm
  have hq := h m hm
  cases m with
  | delivered => cases hq
  | claimed | pushed | took | called | replied | ended => rfl

theorem delivered_call (p : Progress) : delivered p.marks = [] := by
  cases p <;> rfl

/-- The records of the loop that were routed to events. -/
def Span.routed (l : Span) : List Record := (delivered l.marks).filter Record.isRouted

/-- What was delivered before the first claim, and by each loop, is all that was delivered. -/
theorem delivered_loops (t : List Mark) :
    delivered t = delivered (preamble t) ++ (loops t).flatMap (delivered ·.marks) := by
  induction t with
  | nil => rfl
  | cons mark t ih =>
    cases mark with
    | claimed k m => exact ih
    | delivered r routed => exact congrArg (r :: ·) ih
    | pushed | took | called | replied | ended => exact ih

/-- A loop is there because of a claim. -/
theorem claimed_of_loops {t : List Mark} {l : Span} (h : l ∈ loops t) :
    .claimed l.sinks l.metadata ∈ t := by
  induction t with
  | nil => cases h
  | cons mark t ih =>
    cases mark with
    | claimed k m =>
      rcases List.mem_cons.mp h with rfl | h
      · exact List.mem_cons_self
      · exact List.mem_cons_of_mem _ (ih h)
    | pushed | took | delivered | called | replied | ended => exact List.mem_cons_of_mem _ (ih h)

/-- Every record is a heartbeat, or too short, or routed, and only one of them. -/
theorem length_sorted (rs : List Record) : rs.length =
    (rs.filter Record.isRouted).length + (rs.filter Record.isHeartbeat).length +
      (rs.filter Record.isShort).length := by
  induction rs with
  | nil => rfl
  | cons r rs ih =>
    cases hh : r.isHeartbeat with
    | true =>
      have hs := Record.isShort_of_isHeartbeat hh
      simp only [List.filter_cons, Record.isRouted, hh, hs, List.length_cons, ih]
      simp
      omega
    | false =>
      cases hs : r.isShort <;>
        simp only [List.filter_cons, Record.isRouted, hh, hs, List.length_cons, ih] <;> simp <;>
        omega

/-! ## Reading the books -/

namespace Stats

theorem answered_eq (s : Stats) (c : Call) (r : Reply) :
    ∃ faults restarts, s.answered c r = { s with callbackFaults := faults, restarts } := by
  unfold answered
  split <;> split <;> exact ⟨_, _, rfl⟩

variable (s : Stats) (r : Record) (heard : Bool)

/-- Whatever a record is booked as, it is counted with its size. -/
theorem book_eq : ∃ events heartbeats dispatchErrors, s.book r heard =
    { s.delivered r.size with events, heartbeats, dispatchErrors } := by
  unfold book
  split
  · exact ⟨_, _, _, rfl⟩
  · split
    · exact ⟨_, _, _, rfl⟩
    · split <;> exact ⟨_, _, _, rfl⟩

theorem book_heartbeats :
    (s.book r heard).heartbeats = s.heartbeats + .ofNat r.isHeartbeat.toNat := by
  unfold book
  split
  · rename_i h
    simp only [h]
    rfl
  · rename_i h
    simp only [h, Bool.toNat_false]
    split
    · exact (UInt64.add_zero _).symm
    · split <;> exact (UInt64.add_zero _).symm

theorem book_dispatchErrors :
    (s.book r heard).dispatchErrors = s.dispatchErrors + .ofNat r.isShort.toNat := by
  unfold book
  split
  · rename_i h
    simp only [Record.isShort_of_isHeartbeat h, Bool.toNat_false]
    exact (UInt64.add_zero _).symm
  · split
    · rename_i h
      simp only [h]
      rfl
    · rename_i h
      simp only [h, Bool.toNat_false]
      split <;> exact (UInt64.add_zero _).symm

theorem book_events :
    (s.book r heard).events = s.events + .ofNat (heard && r.isRouted).toNat := by
  unfold book Record.isRouted
  split
  · rename_i h
    simp only [h, Bool.not_true, Bool.false_and, Bool.and_false, Bool.toNat_false]
    exact (UInt64.add_zero _).symm
  · split
    · rename_i h
      simp only [h, Bool.not_true, Bool.and_false, Bool.toNat_false]
      exact (UInt64.add_zero _).symm
    · rename_i hh hs
      simp only [hh, hs, Bool.not_false, Bool.and_true]
      cases heard
      · exact (UInt64.add_zero _).symm
      · rfl

/-- A counter to which each delivered record adds something, and nothing else does. -/
structure Counts (f : Stats → UInt64) (g : Record → Nat) : Prop where
  zero : f {} = 0
  book : ∀ s r heard, f (book s r heard) = f s + .ofNat (g r)
  start : ∀ s, f (start s) = f s
  other : ∀ (s : Stats) faults restarts, f { s with callbackFaults := faults, restarts } = f s

theorem counts_records : Counts records fun _ => 1 where
  zero := rfl
  book s r heard := by
    obtain ⟨a, b, c, he⟩ := s.book_eq r heard
    rw [he]
    rfl
  start _ := rfl
  other _ _ _ := rfl

theorem counts_bytes : Counts bytes Record.size where
  zero := rfl
  book s r heard := by
    obtain ⟨a, b, c, he⟩ := s.book_eq r heard
    rw [he]
    rfl
  start _ := rfl
  other _ _ _ := rfl

theorem counts_heartbeats : Counts heartbeats fun r => r.isHeartbeat.toNat :=
  ⟨rfl, book_heartbeats, fun _ => rfl, fun _ _ _ => rfl⟩

theorem counts_dispatchErrors : Counts dispatchErrors fun r => r.isShort.toNat :=
  ⟨rfl, book_dispatchErrors, fun _ => rfl, fun _ _ _ => rfl⟩

end Stats

theorem sum_toNat {α : Type} (p : α → Bool) (xs : List α) :
    (xs.map fun x => (p x).toNat).sum = (xs.filter p).length := by
  induction xs with
  | nil => rfl
  | cons x xs ih =>
    cases hp : p x <;> simp [hp, ih]
    omega

/-- The counters of records have counted these. -/
structure Stats.Covers (s : Stats) (rs : List Record) : Prop where
  records : s.records = .ofNat rs.length
  bytes : s.bytes = .ofNat (rs.map Record.size).sum
  heartbeats : s.heartbeats = .ofNat (rs.filter Record.isHeartbeat).length
  dispatchErrors : s.dispatchErrors = .ofNat (rs.filter Record.isShort).length

theorem Stats.Covers.of_counts {s : Stats} {rs : List Record}
    (h : ∀ f g, Counts f g → f s = .ofNat (rs.map g).sum) : s.Covers rs where
  records := by
    have h := h _ _ counts_records
    rwa [List.map_const', List.sum_replicate_nat, Nat.mul_one] at h
  bytes := h _ _ counts_bytes
  heartbeats := by
    rw [← sum_toNat]
    exact h _ _ counts_heartbeats
  dispatchErrors := by
    rw [← sum_toNat]
    exact h _ _ counts_dispatchErrors

namespace Ledger

/-- A counter that only records add to is the sum over the records that were delivered. -/
theorem books_sum {f : Stats → UInt64} {g : Record → Nat} (h : Stats.Counts f g) (l : Ledger)
    (t : List Mark) :
    f (l.books t).stats = f l.stats + .ofNat ((delivered t).map g).sum := by
  induction t generalizing l with
  | nil => exact (UInt64.add_zero _).symm
  | cons m t ih =>
    rw [books_cons, ih]
    cases m with
    | claimed k md => exact congrArg (· + _) (h.start l.stats)
    | delivered r routed =>
      show f (l.stats.book r l.hears) + _ = f l.stats + .ofNat (g r + ((delivered t).map g).sum)
      rw [h.book, UInt64.ofNat_add, UInt64.add_assoc]
    | replied c r =>
      obtain ⟨faults, restarts, he⟩ := l.stats.answered_eq c r
      show f (l.stats.answered c r) + _ = _
      rw [he, h.other]
      rfl
    | pushed | took | called | ended => rfl

theorem books_starts (l : Ledger) (t : List Mark) :
    (l.books t).stats.starts = l.stats.starts + .ofNat (t.filter Mark.isClaim).length := by
  induction t generalizing l with
  | nil => exact (UInt64.add_zero _).symm
  | cons m t ih =>
    rw [books_cons, ih]
    cases m with
    | claimed k md =>
      show l.stats.starts + 1 + _ = l.stats.starts + .ofNat ((t.filter Mark.isClaim).length + 1)
      rw [Nat.add_comm, UInt64.ofNat_add, UInt64.add_assoc]
      rfl
    | delivered r routed =>
      obtain ⟨a, b, c, he⟩ := l.stats.book_eq r l.hears
      show (l.stats.book r l.hears).starts + _ = _
      rw [he]
      rfl
    | replied c r =>
      obtain ⟨a, b, he⟩ := l.stats.answered_eq c r
      show (l.stats.answered c r).starts + _ = _
      rw [he]
      rfl
    | pushed | took | called | ended => rfl

/-- The events are those of the loops that have an event callback. -/
theorem books_events (l : Ledger) (t : List Mark) :
    (l.books t).stats.events = l.stats.events +
      .ofNat ((if l.hears then ((delivered (preamble t)).filter Record.isRouted).length else 0) +
        (((loops t).filter (·.sinks.event)).flatMap Span.routed).length) := by
  induction t generalizing l with
  | nil => cases l.hears <;> exact (UInt64.add_zero _).symm
  | cons m t ih =>
    rw [books_cons, ih]
    cases m with
    | claimed k md =>
      have hh : hears (l.enter (.claimed k md)) = k.event := rfl
      have hp : preamble (.claimed k md :: t) = [] := rfl
      have hl : loops (.claimed k md :: t) = ⟨k, md, preamble t⟩ :: loops t := rfl
      rw [hh, hp, hl]
      cases hk : k.event <;> cases l.hears <;>
        simp [hk, Span.routed, delivered] <;> rfl
    | delivered r routed =>
      have hh : hears (l.enter (.delivered r routed)) = l.hears := rfl
      have he : (l.enter (.delivered r routed)).stats.events =
          l.stats.events + .ofNat (l.hears && r.isRouted).toNat := l.stats.book_events r l.hears
      have hp : delivered (preamble (.delivered r routed :: t)) = r :: delivered (preamble t) := rfl
      have hl : loops (.delivered r routed :: t) = loops t := rfl
      rw [hh, he, hp, hl, UInt64.add_assoc, ← UInt64.ofNat_add]
      congr 2
      cases l.hears <;> cases hr : r.isRouted <;> simp [hr]
      omega
    | replied c r =>
      obtain ⟨a, b, he⟩ := l.stats.answered_eq c r
      have hs : (l.enter (.replied c r)).stats.events = l.stats.events := by
        show (l.stats.answered c r).events = _
        rw [he]
      rw [hs]
      rfl
    | pushed | took | called | ended => rfl

end Ledger

/-! ## Records belong to loops -/

theorem not_isClaim_of_quiet {t : List Mark} (h : ∀ m ∈ t, m.isQuiet = true) :
    ∀ m ∈ t, m.isClaim = false := by
  intro m hm
  have hq := h m hm
  cases m with
  | claimed => cases hq
  | pushed | took | delivered | called | replied | ended => rfl

namespace Session

variable {s s' : Session} {t : List Mark}

/-- A session that was never claimed delivers nothing, unless it is claimed now. -/
theorem Does.unclaimed (h : s.Does t s') (hc : s.Claimed none) :
    (∃ k m, t = [.claimed k m]) ∨ ((∀ m ∈ t, m.isClaim = false) ∧ delivered t = []) := by
  have hcalls : ∀ p : Progress, ∀ m ∈ p.marks, m.isClaim = false := by
    intro p m hm
    obtain ⟨c, -, rfl⟩ := List.mem_map.mp hm
    rfl
  cases h with
  | keeps => exact .inr ⟨by simp, rfl⟩
  | @claims k metadata => exact .inl ⟨k, metadata, rfl⟩
  | @resumes c r =>
    refine .inr ⟨fun m hm => ?_, delivered_call _⟩
    rcases List.mem_cons.mp hm with rfl | hm
    · rfl
    · exact hcalls _ m hm
  | greets => exact .inr ⟨hcalls _, delivered_call _⟩
  | accepts _ hd =>
    -- there would have to be callbacks, and so a claim
    obtain ⟨k, hk⟩ := Option.isSome_iff_exists.mp (hd.elim hc.loop id)
    cases hc.sinks k hk
  | consults => exact .inr ⟨hcalls _, delivered_call _⟩

theorem delivered_preamble (hc : s.Claimed none) (ms : List Move) :
    delivered (preamble (s.trace ms)) = [] := by
  induction ms generalizing s with
  | nil => rfl
  | cons m ms ih =>
    obtain ⟨before, t, after, hm, hd, hq, hq'⟩ := s.does m
    rw [trace_cons, hm]
    rcases hd.unclaimed hc with ⟨k, md, rfl⟩ | ⟨hn, ht⟩
    · rw [List.append_assoc, List.append_assoc, preamble_append (not_isClaim_of_quiet hq)]
      show delivered (before ++ []) = []
      rw [List.append_nil]
      exact delivered_quiet hq
    · have hc' : (s.move m).Claimed none := by
        have hb : s.Balanced ⟨none, s.stats⟩ := ⟨hc, rfl⟩
        have hbooks := (hd.balanced hb).claimed
        rwa [Ledger.books_sinks hn] at hbooks
      rw [List.append_assoc, List.append_assoc, preamble_append (not_isClaim_of_quiet hq),
        preamble_append hn, preamble_append (not_isClaim_of_quiet hq')]
      simp only [delivered_append, delivered_quiet hq, delivered_quiet hq', ht, List.nil_append]
      exact ih hc'

end Session

/-! ## The threads of a session -/

section Threads

open Threads

variable {t : Threads} {e : Replay} {f : Stats → UInt64} {g : Record → Nat}

/-- A callback that returns changes no counter of records. -/
theorem Stats.Counts.noteReply (h : Stats.Counts f g) (s : Session) (r : Reply) :
    f (s.noteReply r).stats = f s.stats := by
  cases r with
  | code => rfl
  | panic => exact h.other s.stats _ _

/-- A step counts the record that it delivers. -/
theorem Threads.Does.counter (hf : Stats.Counts f g) {x : Step} {m : List Mark} {t' : Threads}
    (hd : Does t e x m t') :
    f t'.session.stats = f t.session.stats + .ofNat ((delivered m).map g).sum := by
  have booked (r : Record) : f (t.session.routed r).stats =
      f t.session.stats + .ofNat (([r] : List Record).map g).sum := by
    rw [Session.routed_stats, hf.book]
    simp
  have same : f t.session.stats = f t.session.stats + .ofNat ([] : List Nat).sum :=
    (UInt64.add_zero _).symm
  cases hd with
  | event => exact booked _
  | @record k bytes r =>
    have hd : delivered (.delivered r (Router.route t.session.symbols r).1 ::
        (k.forRecord r).map .called) = [r] := congrArg (r :: ·) (delivered_called _)
    rw [hd]
    exact booked r
  | greet => rw [delivered_called]; exact same
  | feed => rw [delivered_pushed]; exact same
  | claim => exact (hf.start _).trans same
  | @greeted m r => exact (hf.noteReply _ r).trans same
  | @offer ev rec r => exact (hf.noteReply _ r).trans same
  | @proceed c r => exact (hf.noteReply _ r).trans same
  | @stopped c r => exact (hf.noteReply _ r).trans same
  | @abandon cause r => exact (hf.noteReply _ r).trans same
  | @restart loop cause r =>
    exact (hf.other _ _ _).trans ((hf.noteReply _ r).trans same)
  | _ => exact same

theorem Woven.counter (hf : Stats.Counts f g) (h : Woven t e) (xs : List Step) :
    f (t.after xs).session.stats =
      f t.session.stats + .ofNat ((delivered (t.trace xs)).map g).sum := by
  induction xs generalizing t e with
  | nil => exact (UInt64.add_zero _).symm
  | cons x xs ih =>
    obtain ⟨e', h'⟩ := h.step x
    rw [Threads.after_cons, ih h', (h.does x).counter hf, Threads.trace_cons, delivered_append,
      List.map_append, List.sum_append, UInt64.ofNat_add, UInt64.add_assoc]

end Threads

/-! ## Statistics -/

namespace Session

variable {s s' : Session} {t : List Mark}

theorem Does.sorted (h : s.Does t s') :
    ∀ r routed, .delivered r routed ∈ t → Router.Sorted r routed := by
  have hcalls : ∀ (p : Progress) (r : Record) (routed : Routed), .delivered r routed ∉ p.marks := by
    intro p r routed hm
    obtain ⟨c, -, hc⟩ := List.mem_map.mp hm
    cases hc
  intro r routed hm
  cases h with
  | keeps => cases hm
  | claims =>
    rcases List.mem_cons.mp hm with h | h
    · cases h
    · cases h
  | resumes =>
    rcases List.mem_cons.mp hm with h | h
    · cases h
    · exact absurd h (hcalls _ r routed)
  | greets | consults => exact absurd hm (hcalls _ r routed)
  | accepts =>
    rcases List.mem_cons.mp hm with h | h
    · cases h
      exact Router.route_sorted s.symbols r
    · exact absurd h (hcalls _ r routed)

/-- What a delivered record was routed to agrees with its bytes. -/
theorem sorted_of_delivered (s : Session) (ms : List Move) :
    ∀ r routed, .delivered r routed ∈ s.trace ms → Router.Sorted r routed := by
  induction ms generalizing s with
  | nil => exact fun _ _ hm => by cases hm
  | cons m ms ih =>
    intro r routed hm
    obtain ⟨before, t, after, hmarks, hd, hq, hq'⟩ := s.does m
    rw [trace_cons, hmarks] at hm
    simp only [List.mem_append] at hm
    rcases hm with ((hm | hm) | hm) | hm
    · cases hq _ hm
    · exact hd.sorted r routed hm
    · cases hq' _ hm
    · exact ih (s.move m) r routed hm

/-- A start counts if it claims the session, and changes no other statistics. -/
theorem stats_beginStart (s : Session) (k : Sinks) :
    (s.beginStart k).2.stats = if refused (s.beginStart k).1 then s.stats
      else { s.stats with starts := s.stats.starts + 1 } := by
  rcases s.beginStart_claims k with ⟨hr, hs⟩ | ⟨hr, hk⟩
  · rw [hr, hs]
    rfl
  · rw [hr, hk.stats]
    rfl

/-! ### New sessions -/

section New

variable (config : Config) {engine : Engine} (hl : engine.loop? = none) (ms : List Move)
include hl

theorem stats_new : ((new config engine).after ms).stats =
    (Ledger.books ⟨none, {}⟩ ((new config engine).trace ms)).stats :=
  (balanced (balanced_new config hl) ms).stats

theorem covers_new : ((new config engine).after ms).stats.Covers
    (delivered ((new config engine).trace ms)) := by
  refine .of_counts fun f g h => ?_
  rw [stats_new config hl ms, Ledger.books_sum h, h.zero, UInt64.zero_add]

theorem events_new : ((new config engine).after ms).stats.events =
    .ofNat (((loops ((new config engine).trace ms)).filter (·.sinks.event)).flatMap
      Span.routed).length := by
  rw [stats_new config hl ms, Ledger.books_events]
  show 0 + UInt64.ofNat (0 + _) = _
  rw [Nat.zero_add, UInt64.zero_add]

theorem starts_new : ((new config engine).after ms).stats.starts =
    .ofNat (((new config engine).trace ms).filter Mark.isClaim).length := by
  rw [stats_new config hl ms, Ledger.books_starts]
  exact UInt64.zero_add _

/-- Nothing is delivered outside of a loop. -/
theorem delivered_new : delivered ((new config engine).trace ms) =
    (loops ((new config engine).trace ms)).flatMap (delivered ·.marks) := by
  have hd := delivered_loops ((new config engine).trace ms)
  rwa [delivered_preamble (balanced_new config hl).claimed ms] at hd

/-- With an event callback in every loop a record is an event, a heartbeat or too short. -/
theorem records_eq_sum
    (hall : ∀ k m, .claimed k m ∈ (new config engine).trace ms → k.event = true) :
    let stats := ((new config engine).after ms).stats
    stats.records = stats.events + stats.heartbeats + stats.dispatchErrors := by
  intro stats
  let t := (new config engine).trace ms
  have hf : (loops t).filter (·.sinks.event) = loops t :=
    List.filter_eq_self.mpr fun x hx => hall _ _ (claimed_of_loops hx)
  have hr : (loops t).flatMap Span.routed = (delivered t).filter Record.isRouted := by
    rw [delivered_new config hl ms, List.filter_flatMap]
    rfl
  have hc := covers_new config hl ms
  rw [hc.records, events_new config hl ms, hc.heartbeats, hc.dispatchErrors, hf, hr,
    ← UInt64.ofNat_add, ← UInt64.ofNat_add, ← length_sorted]

theorem events_eq_zero
    (hnone : ∀ k m, .claimed k m ∈ (new config engine).trace ms → k.event = false) :
    ((new config engine).after ms).stats.events = 0 := by
  have hf : (loops ((new config engine).trace ms)).filter (·.sinks.event) = [] :=
    List.filter_eq_nil_iff.mpr fun x hx => by simp [hnone _ _ (claimed_of_loops hx)]
  rw [events_new config hl ms, hf]
  rfl

end New

end Session

/-- The statistics of a new session over either engine, after any run, count modulo 2⁶⁴ what was
delivered, that is the decodable records that came before the session while no stop was requested.
Each of them is a heartbeat, or too short for its type, or routed to an event, and only one of these
(`Router.Sorted`); the events are the routed records of those loops that have an event callback.
So with an event callback in every loop the three add up to the records, and without any there are
no events. A start adds one to `starts` if it claims the session, and changes nothing else.

In a run of the threads over a replay engine, whatever comes between, the records that the loops took
are brought before the session in order, but for one that a loop may still hold, and the ones counted
are those that found no request when they were. -/
theorem statistics_account (config : Config) (engine : Engine) (hl : engine.loop? = none)
    (ms : List Move) :
    let s := (Session.new config engine).after ms
    let t := (Session.new config engine).trace ms
    (s.stats.records = .ofNat (delivered t).length ∧
      s.stats.bytes = .ofNat ((delivered t).map Record.size).sum ∧
      s.stats.heartbeats = .ofNat ((delivered t).filter Record.isHeartbeat).length ∧
      s.stats.dispatchErrors = .ofNat ((delivered t).filter Record.isShort).length ∧
      s.stats.events = .ofNat (((loops t).filter (·.sinks.event)).flatMap Span.routed).length ∧
      s.stats.starts = .ofNat (t.filter Mark.isClaim).length) ∧
    (∀ r routed, .delivered r routed ∈ t → Router.Sorted r routed) ∧
    ((∀ k m, .claimed k m ∈ t → k.event = true) →
      s.stats.records = s.stats.events + s.stats.heartbeats + s.stats.dispatchErrors) ∧
    ((∀ k m, .claimed k m ∈ t → k.event = false) → s.stats.events = 0) ∧
    (∀ k, (s.beginStart k).2.stats = if Session.refused (s.beginStart k).1 then s.stats
      else { s.stats with starts := s.stats.starts + 1 }) ∧
    (∀ e, engine = .replay e → ∀ xs,
      let t₀ := Threads.new (.new config engine)
      (takes (t₀.trace xs)).filterMap FeedEvent.record? =
        (t₀.checks xs).map (·.1) ++ (t₀.after xs).held ∧
      delivered (t₀.trace xs) = Threads.passed (t₀.checks xs) ∧
      (t₀.after xs).session.stats.Covers (Threads.passed (t₀.checks xs))) := by
  intro s t
  have hc := Session.covers_new config hl ms
  refine ⟨⟨hc.records, hc.bytes, hc.heartbeats, hc.dispatchErrors,
    Session.events_new config hl ms, Session.starts_new config hl ms⟩,
    Session.sorted_of_delivered _ ms, Session.records_eq_sum config hl ms,
    Session.events_eq_zero config hl ms, s.stats_beginStart, fun e he xs => ?_⟩
  subst he
  have hnew := Woven.of_loop_none config hl
  obtain ⟨hpassed, htaken⟩ := hnew.checks xs
  refine ⟨htaken, hpassed, .of_counts fun f g hf => ?_⟩
  rw [← hpassed, hnew.counter hf xs]
  exact (congrArg (· + _) hf.zero).trans (UInt64.zero_add _)

/-- Whether a loop that is claimed has an event callback. -/
def Mark.hears : Mark → Bool
  | .claimed k _ => k.event
  | _ => true

/-- A loop with an event callback takes a record of a type without a body: the one record delivered
is the one event. -/
theorem statistics_account_one_event :
    (Engine.replay (.new {})).loop? = none ∧
    (let bytes : Bytes := [4, 0x01] ++ List.replicate 14 0
      let ms : List Move := [.start ⟨false, true, false, false⟩, .started, .push (.record bytes),
        .turn, .turn, .reply (.code 0)]
      let s := (Session.new {} (.replay (.new {}))).after ms
      s.stats.records = 1 ∧ s.stats.events = 1 ∧
        s.stats.records = s.stats.events + s.stats.heartbeats + s.stats.dispatchErrors) := by
  let ms : List Move := [.start ⟨false, true, false, false⟩, .started,
    .push (.record ([4, 0x01] ++ List.replicate 14 0)), .turn, .turn, .reply (.code 0)]
  have hall : ((Session.new {} (.replay (.new {}))).trace ms).all Mark.hears = true := by decide
  refine ⟨rfl, by decide, by decide, ?_⟩
  exact (statistics_account {} (.replay (.new {})) rfl _).2.2.1 fun k m hm =>
    List.all_eq_true.mp hall _ hm

end MarketFeed
