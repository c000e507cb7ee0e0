import MarketFeed.Proofs.Session.Accounts
import MarketFeed.Proofs.Session.Outcome
import MarketFeed.Proofs.Session.Subscriptions

set_option autoImplicit false

/-!
# Restarts are counted alike everywhere

A restart is counted by the engine, which opens a new connection for it, in the statistics and by
the lifecycle, and the loop greets once more. `Session.tally` has the three counters: a move advances
them by the restarts that are seen of it, and a reconnection the first of them (`Sound.tally_move`).
`Serves.greetings` counts the greetings of a loop. `restarts_agree` puts them together and says that
a fault that is not recovered from leaves all of them as they are (`GaveUp`).
-/

namespace MarketFeed

/-! ## What is counted -/

/-- Whether a mark is the answer of an exception policy that asks for a restart. -/
def Mark.isRestart : Mark → Bool
  | .replied c r => c.restarts r
  | _ => false

/-- How often an exception policy asked for a restart. -/
def restarts (t : List Mark) : Nat := t.countP Mark.isRestart

def Call.isMetadata : Call → Bool
  | .metadata _ => true
  | _ => false

/-- How often metadata was delivered. -/
def greetings (t : List Mark) : Nat := (calls t).countP Call.isMetadata

theorem restarts_append (t u : List Mark) : restarts (t ++ u) = restarts t + restarts u :=
  List.countP_append

theorem restarts_eq_zero {t : List Mark} (h : ∀ m ∈ t, m.isRestart = false) : restarts t = 0 :=
  List.countP_eq_zero.mpr fun m hm => by simp [h m hm]

theorem restarts_called (cs : List Call) : restarts (cs.map .called) = 0 :=
  restarts_eq_zero fun m hm => by
    obtain ⟨c, -, rfl⟩ := List.mem_map.mp hm
    rfl

theorem restarts_pushed (events : List FeedEvent) : restarts (events.map .pushed) = 0 :=
  restarts_eq_zero fun m hm => by
    obtain ⟨event, -, rfl⟩ := List.mem_map.mp hm
    rfl

namespace Session

/-- Whether a move reconnects the session. -/
def reconnected (s : Session) : Move → Bool
  | .reconnect => s.reconnect.1.isOk
  | _ => false

/-- How often a run reconnects the session. -/
def reconnects (s : Session) : List Move → Nat
  | [] => 0
  | m :: ms => (s.reconnected m).toNat + (s.move m).reconnects ms

/-- The connection of the engine; a manual engine counts none. -/
def connection (s : Session) : UInt32 :=
  match s.engine with
  | .replay e => e.connection
  | .manual _ => 0

end Session

/-! ## The three counters -/

/-- The connection, and the restarts that the statistics and the lifecycle count. -/
structure Tally where
  connection : UInt32
  stats : UInt64
  lifecycle : UInt32

namespace Tally

def advance (x : Tally) (reconnects restarts : Nat) : Tally where
  connection := x.connection + .ofNat (reconnects + restarts)
  stats := x.stats + .ofNat restarts
  lifecycle := x.lifecycle + .ofNat restarts

@[simp] theorem advance_zero (x : Tally) : x.advance 0 0 = x := by
  simp [advance]

theorem advance_advance (x : Tally) (n k n' k' : Nat) :
    (x.advance n k).advance n' k' = x.advance (n + n') (k + k') := by
  have hn : n + k + (n' + k') = n + n' + (k + k') := by omega
  simp only [advance, ← hn, UInt32.ofNat_add, UInt64.ofNat_add, UInt32.add_assoc, UInt64.add_assoc]

end Tally

namespace Session

def tally (s : Session) : Tally := ⟨s.connection, s.stats.restarts, s.lifecycle.restarts⟩

theorem restarts_requestStop (l : Lifecycle) : l.requestStop.restarts = l.restarts := by
  unfold Lifecycle.requestStop
  split <;> rfl

theorem restarts_loopExited (l : Lifecycle) : l.loopExited.restarts = l.restarts := by
  unfold Lifecycle.loopExited
  split <;> rfl

theorem restarts_fault (l : Lifecycle) : l.fault.restarts = l.restarts := by
  unfold Lifecycle.fault
  split <;> rfl

end Session

namespace Rule

variable {s s' : Session} {e : Replay} {m : Move} {t : List Mark}

/-- Routing counts no restart. -/
theorem routed_restarts (s : Session) (r : Record) :
    (s.routed r).stats.restarts = s.stats.restarts := by
  unfold Session.routed
  cases (Router.route s.symbols r).1 with
  | event => cases s.has (·.event) <;> rfl
  | suppressed | failed => rfl

/-- A reply that is a verdict on a record is no restart. -/
theorem restarts_of_verdict {k : Sinks} {c : Call} {r : Reply} {v : Verdict}
    (hv : k.verdict? c r = some v) (t : List Mark) : restarts (.replied c r :: t) = restarts t := by
  cases c with
  | exception => cases hv
  | metadata | event | record => rfl

/-- Every move but a reconnection advances all counters by the restarts that are seen of it. -/
theorem tally (he : s.engine = .replay e) (hm : m ≠ .reconnect) (hr : Rule s e m t s') :
    s'.tally = s.tally.advance 0 (restarts t) := by
  have hc : s.connection = e.connection := by simp [Session.connection, he]
  have same {u : List Mark} {s'' : Session} (hz : restarts u = 0)
      (hcn : s''.connection = e.connection) (hst : s''.stats.restarts = s.stats.restarts)
      (hlc : s''.lifecycle.restarts = s.lifecycle.restarts) :
      s''.tally = s.tally.advance 0 (restarts u) := by
    rw [hz, Tally.advance_zero, Session.tally, Session.tally, hcn, hst, hlc, hc]
  have calm (r : Reply) := Sound.noteReply_keeps s r
  have faults (r : Reply) : (s.noteReply r).stats.restarts = s.stats.restarts := by
    cases r <;> rfl
  cases hr with
  | reconnect => exact absurd rfl hm
  | still => exact same rfl hc rfl rfl
  | subscribe | start | consult => exact same rfl rfl rfl rfl
  | started => exact same rfl rfl rfl rfl
  | stop | release => exact same rfl rfl rfl (Session.restarts_requestStop _)
  | feed => exact same (restarts_pushed _) rfl rfl rfl
  | greet => exact same (restarts_called _) rfl rfl rfl
  | shutdown | close => exact same rfl rfl rfl (Session.restarts_loopExited _)
  | giveUp =>
    exact same rfl rfl rfl ((Session.restarts_loopExited _).trans (Session.restarts_fault _))
  | event => exact same rfl rfl (routed_restarts s _) rfl
  | @record loop k bytes queue r =>
    have hz : restarts (.took (.record bytes) s.symbols ::
        .delivered r (Router.route s.symbols r).1 :: (k.forRecord r).map .called) = 0 :=
      restarts_called _
    unfold Session.showing
    split <;> exact same hz rfl (routed_restarts s r) rfl
  | @greeted m r | @offer _ _ r =>
    exact same rfl (by simp [Session.connection, calm r, he]) (faults r) (by rw [(calm r).2.2])
  | @proceed c r k _ _ hv =>
    exact same (restarts_of_verdict hv []) (by simp [Session.connection, calm r, he]) (faults r)
      (by rw [(calm r).2.2])
  | @stopped c r k v _ _ hv =>
    refine same (restarts_of_verdict hv [.ended]) rfl (faults r) ?_
    rw [Session.quit, (calm r).2.2]
    exact Session.restarts_loopExited _
  | @abandon cause r _ hrc =>
    have hz : restarts [.replied (.exception cause) r, .ended] = 0 := by
      simp [restarts, Mark.isRestart, Call.restarts, hrc]
    exact same hz rfl (faults r)
      ((Session.restarts_loopExited _).trans (Session.restarts_fault _))
  | @restart loop cause r _ _ hrc =>
    have h1 : restarts [.replied (.exception cause) r] = 1 := by
      simp [restarts, Mark.isRestart, Call.restarts, hrc]
    rw [h1, Session.tally, Session.tally, hc, ← faults r]
    rfl

end Rule

namespace Sound

variable {s : Session} {e : Replay}

/-- A reconnection is refused, or opens a new connection. -/
theorem reconnect_cases (hs : Sound s e) :
    (∃ halt, s.reconnect = (.error halt, s)) ∨ s.reconnect = (.ok (),
      { s with engine := .replay { e with connection := e.connection + 1 } }) := by
  cases hr : s.ensureReady "reconnect" with
  | error cause => exact .inl ⟨.failed cause, by simp [Session.reconnect, hr]⟩
  | ok =>
    have hl := (hs.idle ((s.ensureReady_ok _).mp hr).1).1
    refine .inr ?_
    simp [Session.reconnect, hr, Session.ofEngine, hs.engine, Engine.reconnect, Engine.ofReplay,
      Replay.reconnect, Replay.isRunning, hl]

/-- A move advances the counters by the reconnections and the restarts that it makes. -/
theorem tally_move (hs : Sound s e) (m : Move) :
    (s.move m).tally = s.tally.advance (s.reconnected m).toNat (restarts (s.marks m)) := by
  cases m with
  | reconnect =>
    have hz : restarts (s.marks .reconnect) = 0 := by
      have hr := hs.rule .reconnect
      generalize s.marks .reconnect = t at hr
      generalize s.move .reconnect = s' at hr
      cases hr with
      | still | reconnect => rfl
      | feed => exact restarts_pushed _
    have hm : s.move .reconnect = s.reconnect.2 := rfl
    rw [hz, hm]
    rcases hs.reconnect_cases with ⟨halt, hr⟩ | hr
    · simp [Session.reconnected, hr, Except.isOk, Except.toBool]
    · simp [Session.reconnected, hr, Except.isOk, Except.toBool, Tally.advance, Session.tally,
        Session.connection, hs.engine]
  | _ =>
    refine Rule.tally hs.engine ?_ (hs.rule _)
    exact nofun

/-- So does a run. -/
theorem tally_after (hs : Sound s e) (ms : List Move) :
    (s.after ms).tally = s.tally.advance (s.reconnects ms) (restarts (s.trace ms)) := by
  induction ms generalizing s e with
  | nil => exact s.tally.advance_zero.symm
  | cons m ms ih =>
    obtain ⟨e', hs'⟩ := hs.move m
    rw [Session.after_cons, ih hs', hs.tally_move m, Tally.advance_advance, Session.trace_cons,
      restarts_append]
    rfl

end Sound

/-! ## Greetings -/

namespace Sinks

theorem greeting_metadata (k : Sinks) (m : Option Metadata) :
    (k.greeting m).countP Call.isMetadata = (k.greeting m).length := by
  unfold greeting
  split
  · cases m <;> rfl
  · rfl

theorem length_greeting (k : Sinks) (m : Metadata) :
    (k.greeting (some m)).length = k.metadata.toNat := by
  cases hk : k.metadata <;> simp [greeting, hk]

/-- Metadata is due to restarts only. -/
theorem due_metadata (k : Sinks) (m : Option Metadata) (mark : Mark) :
    (k.due m mark).countP Call.isMetadata = mark.isRestart.toNat * (k.greeting m).length := by
  cases mark with
  | took event symbols =>
    rw [show Mark.isRestart (.took event symbols) = false from rfl, Bool.toNat_false, Nat.zero_mul]
    refine List.countP_eq_zero.mpr fun c hc => ?_
    cases c with
    | metadata m' => exact absurd hc (k.not_mem_forTaken symbols event m')
    | event | record | exception => exact Bool.false_ne_true
  | replied c r =>
    cases c with
    | exception cause =>
      cases hr : r.recovery with
      | restart =>
        simp [due, forReply, hr, Mark.isRestart, Call.restarts, greeting_metadata]
      | stop => simp [due, forReply, hr, Mark.isRestart, Call.restarts]
    | metadata | event | record => exact (Nat.zero_mul _).symm
  | claimed | pushed | delivered | called | ended => exact (Nat.zero_mul _).symm

theorem dues_metadata (k : Sinks) (m : Option Metadata) (t : List Mark) :
    (t.flatMap (k.due m)).countP Call.isMetadata = restarts t * (k.greeting m).length := by
  induction t with
  | nil => exact (Nat.zero_mul _).symm
  | cons mark t ih =>
    have hr : restarts (mark :: t) = mark.isRestart.toNat + restarts t := by
      cases h : mark.isRestart <;> simp [restarts, h, Nat.add_comm]
    rw [List.flatMap_cons, List.countP_append, ih, due_metadata, hr, Nat.add_mul]

end Sinks

/-- A loop greets for every greeting that it owed and for every restart, up to those that it owes
still. -/
theorem Serves.greetings {k : Sinks} {m : Option Metadata} {owed : List Call} {t : List Mark}
    {y : Option Account} (h : Serves (some ⟨k, m, owed⟩) t y) (hn : ∀ m ∈ t, m.isClaim = false) :
    owed.countP Call.isMetadata + restarts t * (k.greeting m).length =
      greetings t + (owing y).countP Call.isMetadata := by
  have hb := congrArg (List.countP Call.isMetadata) (h.balance hn).1
  rwa [List.countP_append, List.countP_append, k.dues_metadata] at hb

/-- Whether the next turn of the loop greets. -/
def Session.greets (s : Session) : Bool := s.loop?.any (!·.greeted)

namespace Sound

variable {s : Session} {e : Replay}

/-- Metadata is owed while the loop is about to greet. -/
theorem owing_metadata (hs : Sound s e) :
    (owing s.account).countP Call.isMetadata = (s.greets && s.has (·.metadata)).toNat := by
  cases hl : e.loop with
  | none => simp [Session.account, Session.greets, Session.loop?, hs.engine, hl, owing]
  | some loop =>
    obtain ⟨k, hk⟩ := hs.has_sinks hl
    have hg : s.greets = !loop.greeted := by
      simp [Session.greets, Session.loop?, hs.engine, hl]
    rw [hs.account_eq hl hk, hg, Session.has, hk]
    show (Session.owed k loop s.calling).countP _ = (!loop.greeted && k.metadata).toNat
    cases hc : s.calling with
    | none =>
      cases hlg : loop.greeted with
      | true => simp [Session.owed, hlg]
      | false => simp [Session.owed, hlg, k.greeting_metadata, k.length_greeting]
    | some c =>
      obtain ⟨loop', hl', hlg⟩ := hs.calling c hc
      rw [hl, Option.some.injEq] at hl'
      subst hl'
      rw [hlg]
      cases c with
      | event ev r =>
        cases hr : k.record <;> simp [Session.owed, Sinks.forRecord, hr, Call.isMetadata]
      | metadata | record | exception => rfl

/-- Only a session in a loop is about to greet. -/
theorem greets_of_account (hs : Sound s e) (h : s.account = none) : s.greets = false := by
  cases hl : e.loop with
  | none => simp [Session.greets, Session.loop?, hs.engine, hl]
  | some loop =>
    obtain ⟨k, hk⟩ := hs.has_sinks hl
    rw [hs.account_eq hl hk] at h
    cases h

end Sound

theorem Session.has_of_account {s : Session} {a : Account} (h : s.account = some a) :
    s.has (·.metadata) = a.sinks.metadata := by
  unfold Session.account at h
  split at h
  · rename_i hk _
    cases h
    simp [Session.has, hk]
  · cases h

/-- So a loop with these callbacks, unless it is over, owes one greeting at most. -/
theorem Sound.owing_of_loop {s : Session} {e : Replay} (hs : Sound s e) {k : Sinks}
    {m : Option Metadata} (hk : (∃ owed, s.account = some ⟨k, m, owed⟩) ∨ s.account = none) :
    (owing s.account).countP Call.isMetadata = if s.greets then k.metadata.toNat else 0 := by
  rw [hs.owing_metadata]
  rcases hk with ⟨owed, h⟩ | h
  · rw [Session.has_of_account h]
    cases s.greets <;> rfl
  · rw [hs.greets_of_account h]
    rfl

/-- A loop that is over has greeted once, and once more for every restart. -/
theorem Span.Faithful.greetings {l : Span} (h : l.Faithful) {md : Metadata}
    (hm : l.metadata = some md) (he : .ended ∈ l.marks) :
    greetings l.marks = l.sinks.metadata.toNat + restarts l.marks * l.sinks.metadata.toNat := by
  rw [MarketFeed.greetings, h.complete he, Span.dueOf, List.countP_append, hm,
    Sinks.dues_metadata, Sinks.greeting_metadata, Sinks.length_greeting]

/-! ## Claims -/

/-- An idle session is claimed by a start, with the metadata that the engine has then. -/
theorem Rule.claimed {s s' : Session} {e : Replay} {m : Move} {t : List Mark} {k : Sinks}
    {metadata : Option Metadata} (hr : Rule s e m t s') (h : .claimed k metadata ∈ t) :
    m = .start k ∧ metadata = some e.metadata.timeless ∧ s.state = .idle := by
  cases hr with
  | start _ hw =>
    rw [List.mem_singleton, Mark.claimed.injEq] at h
    exact ⟨h.1 ▸ rfl, h.2, hw⟩
  | _ => simp at h

/-- A loop of a replay session has metadata to greet with. -/
theorem Sound.claimed {s : Session} {e : Replay} (hs : Sound s e) (ms : List Move) {k : Sinks}
    {metadata : Option Metadata} (h : .claimed k metadata ∈ s.trace ms) :
    ∃ md, metadata = some md := by
  induction ms generalizing s e with
  | nil => cases h
  | cons m ms ih =>
    rw [Session.trace_cons, List.mem_append] at h
    obtain ⟨e', hs'⟩ := hs.move m
    rcases h with h | h
    · exact ⟨_, ((hs.rule m).claimed h).2.1⟩
    · exact ih hs' h

/-! ## Greetings of a loop of a run -/

/-- A loop with a metadata callback has greeted once and once more for every restart, but for the
greeting that it still owes; it owes none once it is over. -/
theorem Sound.greetings_of_loop {s : Session} {e : Replay} (hs : Sound s e)
    (ha : s.account = none) (ms : List Move) {earlier : List Span} {l : Span} {later : List Span}
    (hl : loops (s.trace ms) = earlier ++ l :: later) :
    let k := l.sinks.metadata.toNat
    greetings l.marks + (if later = [] ∧ (s.after ms).greets then k else 0) =
      k + restarts l.marks * k ∧
    (.ended ∈ l.marks → greetings l.marks = k + restarts l.marks * k) := by
  intro k
  obtain ⟨e', hs'⟩ := hs.after ms
  have hmem : l ∈ loops (s.trace ms) := hl ▸ List.mem_append_right earlier List.mem_cons_self
  obtain ⟨md, hmd⟩ := hs.claimed ms (claimed_of_loops hmem)
  have hn := loops_not_isClaim hmem
  obtain ⟨z, hz, hend⟩ := (ha ▸ hs.serves ms).loop hl
  have hb := hz.greetings hn
  have ho : (owing z).countP Call.isMetadata =
      if later = [] ∧ (s.after ms).greets then k else 0 := by
    rcases hend with ⟨rfl, rfl⟩ | ⟨hlater, rfl⟩
    · rw [hs'.owing_of_loop ((hz.balance hn).2.imp_right And.left)]
      exact if_congr (and_iff_right rfl).symm rfl rfl
    · rw [if_neg fun h => hlater h.1]
      rfl
  rw [hmd, Sinks.greeting_metadata, Sinks.length_greeting, ho] at hb
  exact ⟨hb.symm, (hz.faithful hn).greetings hmd⟩

/-! ## Faults that are not recovered from -/

/-- A fault that is not recovered from ends the loop. -/
theorem Rule.ends_of_fatal {s s' : Session} {e : Replay} {m : Move} {t : List Mark}
    (hs : Sound s e) (hf : s.Fatal m) (hne : t ≠ []) (hr : Rule s e m t s') : .ended ∈ t := by
  cases m with
  | turn =>
    obtain ⟨event, cause, hn, hf, hx⟩ := hf
    cases hr with
    | still => exact absurd rfl hne
    | feed => exact absurd rfl hne
    | greet hc _ hl hg => simp [Session.next?, hc, hs.engine, hl, hg] at hn
    | shutdown | close | giveUp => simp
    | event hc _ hl hg hsd hq hd | record hc _ hl hg hsd hq hd =>
      rw [hs.next_take hc hl hg hsd hq, Option.some.injEq] at hn
      simp [← hn, FeedEvent.fault?, hd] at hf
    | consult _ hk _ _ _ _ _ hx' => simp [Session.has, hk, hx'] at hx
  | reply r =>
    obtain ⟨cause, hc, hrc⟩ := hf
    cases hr with
    | still => exact absurd rfl hne
    | feed => exact absurd rfl hne
    | greeted h | offer _ h => rw [hc] at h; cases h
    | proceed _ h hv =>
      rw [hc, Option.some.injEq] at h
      subst h
      cases hv
    | stopped | abandon => simp
    | restart _ _ h => exact absurd h hrc
  | _ => exact hf.elim

/-- A move that ends the loop restarts nothing and calls nothing. -/
theorem Rule.quits {s s' : Session} {e : Replay} {m : Move} {t : List Mark}
    (hr : Rule s e m t s') (he : .ended ∈ t) :
    m ≠ .reconnect ∧ restarts t = 0 ∧ calls t = [] := by
  cases hr with
  | still | subscribe | reconnect | started | stop | release => cases he
  | start | feed | greet | event | record | consult => simp at he
  | greeted | offer | proceed | restart => simp at he
  | shutdown | close | giveUp => exact ⟨nofun, rfl, rfl⟩
  | @stopped c r k v _ _ hv =>
    cases c with
    | exception => cases hv
    | metadata | event | record => exact ⟨nofun, rfl, rfl⟩
  | abandon _ hrc => exact ⟨nofun, by simp [restarts, Mark.isRestart, Call.restarts, hrc], rfl⟩

/-- The loop is over and nothing is restarted: no counter moves and no callback is called. -/
structure GaveUp (s : Session) (t : List Mark) (s' : Session) : Prop where
  tally : s'.tally = s.tally
  calls : calls t = []
  loop : s'.loop? = none

/-- A fault that a policy answers with a stop, or with a panic, or that there is no policy for, has
no effect of a restart. -/
theorem Sound.gaveUp {s : Session} {e : Replay} (hs : Sound s e) {m : Move} (hf : s.Fatal m) :
    GaveUp s (s.marks m) (s.move m) := by
  have hne : s.marks m ≠ [] := by
    cases m with
    | turn =>
      obtain ⟨event, cause, hn, -⟩ := hf
      simp [Session.marks, Session.arrivals, hn]
    | reply r =>
      obtain ⟨cause, hc, -⟩ := hf
      rw [Sound.marks_reply hc]
      exact List.cons_ne_nil _ _
    | _ => exact hf.elim
  have he := (hs.rule m).ends_of_fatal hs hf hne
  obtain ⟨hm, hz, hc⟩ := (hs.rule m).quits he
  refine ⟨?_, hc, ((hs.ended_iff m).mp he).2⟩
  rw [(hs.rule m).tally hs.engine hm, hz, Tally.advance_zero]

/-! ## The theorem -/

/-- After any run of a new replay session:

* The connection of the engine is one more than the reconnections that succeeded and the restarts
  that exception policies asked for, and both counts of restarts are that of the latter, each in the
  width of its counter.
* A loop without a metadata callback makes no metadata call. One that has the callback has made one
  more than it was restarted, or just as many if its next turn will greet; a loop that is over is
  not about to greet.
* A fault that is answered with a stop, or by a panic, or for which there is no policy, restarts
  nothing (`GaveUp`), and a reconnection that fails changes nothing. -/
theorem restarts_agree (config : Config) (clock : List UInt64) (ms : List Move) :
    let s₀ := Session.new config (.replay (.new config clock))
    let s := s₀.after ms
    let t := s₀.trace ms
    (∃ e, s.engine = .replay e ∧
      e.connection = 1 + .ofNat (s₀.reconnects ms) + .ofNat (restarts t)) ∧
    s.stats.restarts = .ofNat (restarts t) ∧
    s.lifecycle.restarts = .ofNat (restarts t) ∧
    (∀ (earlier : List Span) (l : Span) (later : List Span), loops t = earlier ++ l :: later →
      (l.sinks.metadata = false → greetings l.marks = 0) ∧
      (l.sinks.metadata = true →
        greetings l.marks + (if later = [] ∧ s.greets then 1 else 0) = 1 + restarts l.marks) ∧
      (l.sinks.metadata = true → .ended ∈ l.marks →
        greetings l.marks = 1 + restarts l.marks)) ∧
    (∀ m, s.Fatal m → GaveUp s (s.marks m) (s.move m)) ∧
    (∀ halt, s.reconnect.1 = .error halt → s.move .reconnect = s) := by
  intro s₀ s t
  have hnew : Sound s₀ (.new config clock) := .new config clock
  obtain ⟨e, hs⟩ := hnew.after ms
  have ht : s.tally = (⟨1, 0, 0⟩ : Tally).advance (s₀.reconnects ms) (restarts t) :=
    hnew.tally_after ms
  refine ⟨⟨e, hs.engine, ?_⟩, ?_, ?_, fun earlier l later hl => ?_, fun m hf => hs.gaveUp hf,
    fun halt hr => ?_⟩
  · have hc : s.connection = _ := congrArg Tally.connection ht
    rw [Session.connection, hs.engine] at hc
    exact hc.trans (by rw [Tally.advance, UInt32.ofNat_add, UInt32.add_assoc])
  · have hst := congrArg Tally.stats ht
    rwa [Tally.advance, UInt64.zero_add] at hst
  · have hlc := congrArg Tally.lifecycle ht
    rwa [Tally.advance, UInt32.zero_add] at hlc
  · obtain ⟨hg, hover⟩ := hnew.greetings_of_loop rfl ms hl
    refine ⟨fun hk => ?_, fun hk => ?_, fun hk he => ?_⟩
    · simp only [hk, Bool.toNat_false] at hg
      omega
    · simpa only [hk, Bool.toNat_true, Nat.mul_one] using hg
    · simpa only [hk, Bool.toNat_true, Nat.mul_one] using hover he
  · rcases hs.reconnect_cases with ⟨halt', h⟩ | h
    · show s.reconnect.2 = s
      rw [h]
    · rw [h] at hr
      cases hr

/-- A reconnection, a restart, and a fault that is given up. -/
example :
    let ms : List Move := [.subscribe ⟨["ES.FUT"], .trades, .parent, none, false⟩, .reconnect,
      .start ⟨true, false, true, true⟩, .started, .push (.fault (.gateway "lost")),
      .push (.fault (.gateway "lost")), .turn, .reply (.code 0), .turn, .reply (.code 0), .turn,
      .reply (.code 0), .turn, .reply .panic]
    let s₀ := Session.new {} (.replay (.new {}))
    let s := s₀.after ms
    s.connection = 3 ∧ s.stats.restarts = 1 ∧ s.lifecycle.restarts = 1 ∧
      greetings (s₀.trace ms) = 2 ∧ s.state = .faulted := by
  decide

end MarketFeed
