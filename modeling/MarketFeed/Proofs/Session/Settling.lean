import MarketFeed.Session.Delivery

set_option autoImplicit false

/-!
# Sessions settle

`Session.load` bounds how many turns and replies a session can still go through by itself: each of
them lowers it (`step_load`, `reply_load`). So every loop comes to rest, whatever its callbacks
return: after at most four beats for an event in the feed, and three for a greeting that is due.
-/

namespace MarketFeed

/-! ## The measure -/

/-- A loop has its end before it, and perhaps a greeting. -/
def Replay.Loop.load (l : Replay.Loop) : Nat := if l.greeted then 1 else 3

def Replay.load (e : Replay) : Nat := 4 * e.queue.length + (e.loop.map (·.load)).getD 0

def Engine.load : Engine → Nat
  | .replay e => e.load
  | .manual _ => 0

/-- What may come of a call: an event callback may be followed by the record callback, an exception
policy by a restart. -/
def Call.load : Call → Nat
  | metadata _ | record _ => 1
  | event .. => 2
  | exception _ => 3

def Session.load (s : Session) : Nat := s.engine.load + (s.calling.map (·.load)).getD 0

def Outcome.load : Outcome → Nat
  | recovery .restart => 2
  | _ => 0

def Progress.load : Progress → Nat
  | call c => c.load
  | done o => o.load

def Replay.Turn.load : Turn → Nat
  | idle => 0
  | exit => 1
  | greet _ => 2
  | record _ | fault _ => 4

/-! ## Engines -/

namespace Replay

theorem load_ofEvent_le (event : FeedEvent) : (Turn.ofEvent event).load ≤ 4 := by
  cases event with
  | record bytes =>
    rw [Turn.ofEvent]
    split <;> exact Nat.le_refl 4
  | fault | close => simp [Turn.ofEvent, Turn.load]

/-- A turn takes its load out of the engine. -/
theorem turn_load (e : Replay) : e.turn.2.load + e.turn.1.load ≤ e.load := by
  cases hl : e.loop with
  | none =>
    rw [turn_none hl]
    exact Nat.le_refl _
  | some loop =>
    cases hg : loop.greeted with
    | false =>
      rw [turn_greet hl hg]
      simp [load, Turn.load, Loop.load, hl, hg]
    | true =>
      cases hs : e.shutdown with
      | true =>
        rw [turn_shutdown hl hg hs]
        simp [load, Turn.load, Loop.load, hl, hg]
      | false =>
        cases hq : e.queue with
        | nil =>
          rw [turn_empty hl hg hs hq]
          simp [load, Turn.load, hl, hq]
        | cons event queue =>
          have hle := load_ofEvent_le event
          rw [turn_take hl hg hs hq]
          simp only [load, hl, hg, hq, Loop.load, List.length_cons, Option.map_some,
            Option.getD_some, if_true]
          split
          · simp only [Option.map_none, Option.getD_none]
            omega
          · simp only [Option.map_some, Option.getD_some, hg, if_true]
            omega

theorem conclude_load (e : Replay) (o : Outcome) : (e.conclude o).load ≤ e.load + o.load := by
  have hend : e.finish.load ≤ e.load := by simp [finish, load]
  cases o with
  | greeted => exact Nat.le_refl _
  | verdict v => cases v <;> first | exact Nat.le_refl _ | exact hend
  | recovery r =>
    cases r with
    | stop => exact hend
    | restart =>
      cases hl : e.loop with
      | none => simp [conclude, restart, load, hl]
      | some loop =>
        cases hg : loop.greeted <;>
          simp [conclude, restart, load, hl, Loop.load, Outcome.load, hg]

end Replay

/-! ## Sessions -/

namespace Session

variable {s s' : Session}

theorem conclude_load (s : Session) (o : Outcome) :
    (s.conclude o).load ≤ s.engine.load + o.load := by
  unfold conclude
  cases he : s.engine with
  | replay e =>
    have hle := e.conclude_load o
    dsimp only
    split <;> simpa [load, Engine.load, loopExit] using hle
  | manual e => simp [load, Engine.load]

theorem follow_load (p : Progress × Session) : (follow p).load ≤ p.2.engine.load + p.1.load := by
  obtain ⟨p, s⟩ := p
  cases p with
  | call c => exact Nat.le_refl _
  | done o => exact s.conclude_load o

theorem greet_load (s : Session) (m : Metadata) : (s.greet m).load ≤ 1 := by
  unfold greet
  split <;> simp [Progress.load, Call.load, Outcome.load]

theorem offer_load (s : Session) (r : Record) : (s.offer r).load ≤ 1 := by
  unfold offer
  split <;> simp [verdict, Progress.load, Call.load, Outcome.load]

theorem accept_load (s : Session) (r : Record) :
    (s.accept r).1.load ≤ 2 ∧ (s.accept r).2.engine = s.engine := by
  have hoffer : ∀ s' : Session, (s'.offer r).load ≤ 2 := fun s' =>
    Nat.le_trans (s'.offer_load r) (by decide)
  unfold accept
  split
  · exact ⟨by simp [Progress.load, Outcome.load], rfl⟩
  · dsimp only
    split
    · split
      · exact ⟨Nat.le_refl 2, rfl⟩
      · exact ⟨hoffer _, rfl⟩
    · exact ⟨hoffer _, rfl⟩
    · exact ⟨hoffer _, rfl⟩

theorem decide_load (s : Session) (r : Recovery) :
    (s.decide r).1.load ≤ 2 ∧ (s.decide r).2.engine = s.engine := by
  cases r <;> simp [decide, Progress.load, Outcome.load]

theorem consult_load (s : Session) (cause : EngineError) :
    (s.consult cause).1.load ≤ 3 ∧ (s.consult cause).2.engine = s.engine := by
  unfold consult
  split
  · exact ⟨by simp [Progress.load, Outcome.load], rfl⟩
  · split
    · exact ⟨Nat.le_refl 3, rfl⟩
    · exact ⟨Nat.le_trans (s.decide_load .stop).1 (by decide), rfl⟩

/-- A callback that replies leaves less to do than it had. -/
theorem resume_load (s : Session) (c : Call) (r : Reply) :
    (s.resume c r).1.load < c.load ∧ (s.resume c r).2.engine = s.engine := by
  have hn : (s.noteReply r).engine = s.engine := by cases r <;> rfl
  cases c with
  | metadata m => exact ⟨Nat.one_pos, hn⟩
  | event ev rec => exact ⟨Nat.lt_succ_of_le ((s.noteReply r).offer_load rec), hn⟩
  | record rec => exact ⟨Nat.one_pos, hn⟩
  | exception cause =>
    obtain ⟨hle, he⟩ := (s.noteReply r).decide_load r.recovery
    exact ⟨Nat.lt_succ_of_le hle, he.trans hn⟩

theorem reply_load {c : Call} (hc : s.calling = some c) (r : Reply) : (s.reply r).load < s.load := by
  obtain ⟨hlt, he⟩ := s.resume_load c r
  have hf := follow_load (s.resume c r)
  have hr : s.reply r = follow (s.resume c r) := by simp only [reply, hc]
  have hs : s.load = s.engine.load + c.load := by simp [load, hc]
  rw [he] at hf
  rw [hr, hs]
  omega

theorem step_load (h : s.step = some s') : s'.load < s.load := by
  unfold step at h
  split at h
  · rename_i e hc he
    have hs : s.load = e.load := by simp [load, hc, he, Engine.load]
    have hturn := e.turn_load
    generalize e.turn = p at h hturn
    obtain ⟨turn, e'⟩ := p
    rw [hs]
    cases turn with
    | idle => cases h
    | exit =>
      rw [← Option.some.inj h]
      simp only [load, loopExit, hc, Option.map_none, Option.getD_none, Engine.load,
        Replay.Turn.load] at hturn ⊢
      omega
    | greet m =>
      have hf := follow_load (({ s with engine := .replay e' } : Session).greet m,
        { s with engine := .replay e' })
      have hp := ({ s with engine := .replay e' } : Session).greet_load m
      rw [← Option.some.inj h]
      simp only [Engine.load, Replay.Turn.load] at hturn hf ⊢
      omega
    | record r =>
      obtain ⟨hp, he'⟩ := ({ s with engine := .replay e' } : Session).accept_load r
      have hf := follow_load (({ s with engine := .replay e' } : Session).accept r)
      rw [← Option.some.inj h]
      rw [he'] at hf
      simp only [Engine.load, Replay.Turn.load] at hturn hf ⊢
      omega
    | fault cause =>
      obtain ⟨hp, he'⟩ := ({ s with engine := .replay e' } : Session).consult_load cause
      have hf := follow_load (({ s with engine := .replay e' } : Session).consult cause)
      rw [← Option.some.inj h]
      rw [he'] at hf
      simp only [Engine.load, Replay.Turn.load] at hturn hf ⊢
      omega
  · cases h

/-- A session with nothing before it is at rest. -/
theorem rest_of_load (h : s.load = 0) : s.calling = none ∧ s.step = none := by
  constructor
  · cases hc : s.calling with
    | none => rfl
    | some c =>
      rw [load, hc] at h
      cases c <;> simp [Call.load] at h
  · cases hs : s.step with
    | none => rfl
    | some s' =>
      have := step_load hs
      omega

end Session

end MarketFeed
