import MarketFeed.Proofs.Session.Disguise
import MarketFeed.Proofs.Session.Moves

set_option autoImplicit false

/-!
# Panics of callbacks

A session with some more callback faults is in disguise (`Disguise.charging`), so it does the same
(`move_charged`). A callback that panics is one that returns, and one more fault (`reply_panic`).
`InStep s rs x y` follows two runs from `s` that make the same moves, except that callbacks that
panic in the first run return in the second; `InStep.eq_charged` says that the faults are all that
tells the sessions apart.
-/

namespace MarketFeed

/-! ## Sessions with more faults -/

/-- The statistics with `n` more callback faults. -/
def Stats.charged (s : Stats) (n : Nat) : Stats :=
  { s with callbackFaults := s.callbackFaults + .ofNat n }

/-- The session with `n` more callback faults. -/
def Session.charged (s : Session) (n : Nat) : Session := { s with stats := s.stats.charged n }

namespace Stats

theorem charged_zero (s : Stats) : s.charged 0 = s := by
  simp [charged]

theorem charged_charged (s : Stats) (n m : Nat) : (s.charged n).charged m = s.charged (n + m) := by
  simp [charged, UInt64.ofNat_add, UInt64.add_assoc]

theorem callbackFault_charged (s : Stats) (n : Nat) :
    (s.charged n).callbackFault = s.callbackFault.charged n := by
  simp only [charged, callbackFault]
  rw [UInt64.add_assoc, UInt64.add_assoc, UInt64.add_comm 1]

end Stats

namespace Session

theorem charged_zero (s : Session) : s.charged 0 = s := by
  rw [charged, Stats.charged_zero]

theorem charged_charged (s : Session) (n m : Nat) :
    (s.charged n).charged m = s.charged (n + m) := by
  rw [charged, charged, charged, Stats.charged_charged]

end Session

/-- The disguise that adds `n` callback faults. -/
def Disguise.charging (n : Nat) : Disguise where
  config := id
  upgradePolicy _ := rfl
  dataset _ := rfl
  sendTsOut _ := rfl
  stats s := s.charged n
  start _ := rfl
  delivered _ _ := rfl
  event _ := rfl
  heartbeat _ := rfl
  dispatchError _ := rfl
  callbackFault s := s.callbackFault_charged n
  restart _ := rfl

namespace Session

theorem charged_eq (s : Session) (n : Nat) : s.charged n = s.disguise (.charging n) := by
  have he : s.engine.disguise (.charging n) = s.engine := by cases s.engine <;> rfl
  rw [disguise, he]
  rfl

theorem Oblivious.charged {β : Type} {op : Session → β × Session} (h : Oblivious op) (s : Session)
    (n : Nat) : op (s.charged n) = ((op s).1, (op s).2.charged n) := by
  rw [charged_eq, charged_eq]
  exact h s _

theorem decide_charged (s : Session) (n : Nat) (r : Recovery) :
    (s.charged n).decide r = ((s.decide r).1, (s.decide r).2.charged n) := by
  rw [charged_eq, charged_eq]
  exact s.decide_disguise _ r

theorem follow_charged (p : Progress) (s : Session) (n : Nat) :
    follow (p, s.charged n) = (follow (p, s)).charged n := by
  rw [charged_eq, charged_eq]
  exact s.follow_disguise _ p

theorem reply_charged (s : Session) (n : Nat) (r : Reply) :
    (s.charged n).reply r = (s.reply r).charged n := by
  rw [charged_eq, charged_eq]
  exact s.reply_disguise _ r

theorem step_charged (s : Session) (n : Nat) :
    (s.charged n).step = s.step.map (·.charged n) := by
  simp only [charged_eq]
  exact s.step_disguise _

theorem modifyManual_charged (s : Session) (n : Nat) (f : Manual → Manual) :
    (s.charged n).modifyManual f = (s.modifyManual f).charged n := by
  rw [charged_eq, charged_eq]
  exact s.modifyManual_disguise _ f

/-- Every move does the same, whatever the faults. -/
theorem move_charged (s : Session) (n : Nat) (m : Move) :
    (s.charged n).move m = (s.move m).charged n := by
  rw [charged_eq, charged_eq]
  exact s.move_disguise _ m

end Session

/-! ## Panics -/

/-- A reply with a code in place of a panic. -/
def Reply.or : Reply → UInt32 → Reply
  | code c, _ => .code c
  | panic, c => .code c

/-- The code that stands for a panic: that of a stop. What an event callback or a metadata callback
returns is not looked at (`Session.reply_code`), so it may as well be nothing. -/
def Call.plain : Call → UInt32
  | record _ | exception _ => 1
  | event .. | metadata _ => 0

/-- How many of the callbacks panicked. -/
def panics (rs : List (Call × Reply)) : Nat := rs.countP (·.2 == .panic)

theorem panics_snoc (rs : List (Call × Reply)) (c : Call) (r : Reply) :
    panics (rs ++ [(c, r)]) = panics rs + if r = .panic then 1 else 0 := by
  simp [panics, List.countP_cons]

/-- Whether a mark is the panic of a callback. -/
def Mark.isPanic : Mark → Bool
  | replied _ r => r == .panic
  | _ => false

namespace Session

/-- A callback that panics counts as one that returns, and as a fault. -/
theorem resume_panic (s : Session) (c : Call) : s.resume c .panic =
    ((s.resume c (.code c.plain)).1, (s.resume c (.code c.plain)).2.charged 1) := by
  cases c with
  | metadata | event | record => rfl
  | exception cause => exact decide_charged s 1 .stop

theorem reply_panic {s : Session} {c : Call} (hc : s.calling = some c) :
    s.reply .panic = (s.reply (.code c.plain)).charged 1 := by
  simp only [reply, hc]
  rw [resume_panic]
  exact follow_charged _ _ 1

theorem reply_code {s : Session} {c : Call} (hc : s.calling = some c) (hp : c.plain = 0)
    (code code' : UInt32) : s.reply (.code code) = s.reply (.code code') := by
  cases c with
  | metadata | event => simp only [reply, hc]; rfl
  | record | exception => cases hp

/-- A record goes on to the record callback, whatever became of its event callback. -/
theorem record_after_event {s : Session} {ev : Event} {r : Record}
    (hc : s.calling = some (.event ev r)) (reply : Reply) :
    (s.reply reply).calling = if s.has (·.record) then some (.record r) else none := by
  have hr : (s.noteReply reply).has (·.record) = s.has (·.record) := by cases reply <;> rfl
  simp only [Session.reply, hc]
  rw [follow_calling]
  simp only [resume, offer, hr]
  split <;> rfl

/-! ### Every panic is counted -/

theorem resume_faults (s : Session) (c : Call) (r : Reply) :
    (s.resume c r).2.stats.callbackFaults =
      s.stats.callbackFaults + if r = .panic then 1 else 0 := by
  have hn : (s.noteReply r).stats.callbackFaults =
      s.stats.callbackFaults + if r = .panic then 1 else 0 := by
    cases r with
    | code => exact (UInt64.add_zero _).symm
    | panic => rfl
  cases c with
  | metadata | event | record => exact hn
  | exception =>
    simp only [resume]
    cases r.recovery <;> exact hn

theorem accept_faults (s : Session) (r : Record) :
    (s.accept r).2.stats.callbackFaults = s.stats.callbackFaults := by
  cases hsr : s.lifecycle.stopRequested with
  | true => rw [accept_stopping hsr]
  | false =>
    rw [accept_eq hsr, routed]
    cases (Router.route s.symbols r).1 with
    | event => simp only; split <;> rfl
    | suppressed | failed => rfl

theorem consult_faults (s : Session) (cause : EngineError) :
    (s.consult cause).2.stats.callbackFaults = s.stats.callbackFaults := by
  unfold consult
  split
  · rfl
  · split <;> rfl

theorem Does.faults {s s' : Session} {t : List Mark} (h : s.Does t s') :
    s'.stats.callbackFaults = s.stats.callbackFaults + .ofNat (t.countP Mark.isPanic) := by
  have hquiet : ∀ p : Progress, p.marks.countP Mark.isPanic = 0 := by
    intro p
    cases p <;> rfl
  cases h with
  | keeps h =>
    rw [h.stats]
    exact (UInt64.add_zero _).symm
  | claims h =>
    rw [h.stats]
    exact (UInt64.add_zero _).symm
  | @resumes c r hc =>
    rw [follow_stats, resume_faults, List.countP_cons, hquiet, Nat.zero_add]
    cases r <;> rfl
  | greets =>
    rw [follow_stats, hquiet]
    exact (UInt64.add_zero _).symm
  | accepts =>
    rw [follow_stats, accept_faults, List.countP_cons, hquiet]
    exact (UInt64.add_zero _).symm
  | consults =>
    rw [follow_stats, consult_faults, hquiet]
    exact (UInt64.add_zero _).symm

/-- The callback faults count the callbacks that panicked. -/
theorem faults_after (s : Session) (ms : List Move) : (s.after ms).stats.callbackFaults =
    s.stats.callbackFaults + .ofNat ((s.trace ms).countP Mark.isPanic) := by
  induction ms generalizing s with
  | nil => exact (UInt64.add_zero _).symm
  | cons m ms ih =>
    obtain ⟨before, t, after, hm, hd, hq, hq'⟩ := s.does m
    have hquiet : ∀ {l : List Mark}, (∀ mark ∈ l, mark.isQuiet = true) →
        l.countP Mark.isPanic = 0 := by
      intro l hl
      refine List.countP_eq_zero.mpr fun mark hmark hp => ?_
      have hl' := hl mark hmark
      cases mark with
      | pushed | took | ended => cases hp
      | claimed | delivered | called | replied => cases hl'
    rw [after_cons, ih, hd.faults, trace_cons, hm, List.countP_append, List.countP_append,
      List.countP_append, hquiet hq, hquiet hq', Nat.zero_add, Nat.add_zero, UInt64.ofNat_add,
      UInt64.add_assoc]

/-- Only a reply is marked as the return of a callback. -/
theorem eq_reply_of_marks {s : Session} {m : Move} {c : Call} {r : Reply}
    (h : .replied c r ∈ s.marks m) : m = .reply r := by
  obtain ⟨ending, hq, hmarks⟩ := s.marks_eq m
  simp only [hmarks, List.mem_append] at h
  rcases h with ((h | h) | h) | h
  · cases m with
    | start k => simp only [arrivals] at h; split at h <;> simp at h
    | reply r' =>
      simp only [arrivals, List.mem_map, Mark.replied.injEq] at h
      obtain ⟨c', -, -, rfl⟩ := h
      rfl
    | started | stop | subscribe | reconnect | resubscribe | release | push | pushStream | turn
    | hand | inject => simp [arrivals] at h
  · simp only [deliveries] at h
    split at h <;> simp at h
  · simp at h
  · cases hq _ h

/-- Nothing but a panic adds to the callback faults. -/
theorem move_faults (s : Session) {m : Move} (hm : m ≠ .reply .panic) :
    (s.move m).stats.callbackFaults = s.stats.callbackFaults := by
  have hnone : (s.marks m).countP Mark.isPanic = 0 := by
    refine List.countP_eq_zero.mpr fun mark hmark hp => ?_
    cases mark with
    | replied c r =>
      have hr : r = .panic := by simpa [Mark.isPanic] using hp
      exact hm (hr ▸ eq_reply_of_marks hmark)
    | claimed | pushed | took | delivered | called | ended => cases hp
  have h := s.faults_after [m]
  rw [after_cons, trace_cons, trace_nil, List.append_nil, hnone] at h
  exact h.trans (UInt64.add_zero _)

/-! ### Two runs in step -/

/-- `InStep s rs x y`: two runs from `s` have come to `x` and `y`. They made the same moves and the
callbacks `rs` have replied in the first; where they panicked, they returned in the second. -/
inductive InStep (s : Session) : List (Call × Reply) → Session → Session → Prop
  | start : InStep s [] s s
  | move {rs : List (Call × Reply)} {x y : Session} (m : Move) : m.isReply = false →
      InStep s rs x y → InStep s rs (x.move m) (y.move m)
  /-- Whoever holds a manual engine makes it ready. -/
  | prepare {rs : List (Call × Reply)} {x y : Session} (f : Manual → Manual) :
      InStep s rs x y → InStep s rs (x.modifyManual f) (y.modifyManual f)
  | reply {rs : List (Call × Reply)} {x y : Session} {c : Call} (r : Reply) :
      x.calling = some c → InStep s rs x y →
      InStep s (rs ++ [(c, r)]) (x.reply r) (y.reply (r.or c.plain))

/-- All that tells the two sessions apart is one callback fault for each panic. -/
theorem InStep.eq_charged {s x y : Session} {rs : List (Call × Reply)} (h : InStep s rs x y) :
    x = y.charged (panics rs) := by
  induction h with
  | start => exact (charged_zero s).symm
  | @move rs x y m _ _ ih => rw [ih, move_charged]
  | @prepare rs x y f _ ih => rw [ih, modifyManual_charged]
  | @reply rs x y c r hc _ ih =>
    have hc' : y.calling = some c := by
      rw [ih] at hc
      exact hc
    rw [panics_snoc, ih, reply_charged]
    cases r with
    | code => rfl
    | panic =>
      show (y.reply .panic).charged _ = (y.reply (.code c.plain)).charged (panics rs + 1)
      rw [reply_panic hc', charged_charged, Nat.add_comm]

end Session

end MarketFeed
