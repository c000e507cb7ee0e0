import MarketFeed.Proofs.Rehearsal.Pairs
import MarketFeed.Proofs.Rehearsal.Runs
import MarketFeed.Proofs.Session.Panics

set_option autoImplicit false

/-!
# Panics stay where they are

A rehearsal is held twice, the second time with callbacks that return where they panicked
(`Scripts.tame`). `Alike` is the invariant between the two stages: their sessions are in step and
their logs tell of the same calls. It is kept by all that a host does (`alike_paired`), so the two
rehearsals are the same in all that is seen, but for the count of callback faults
(`panics_are_isolated`).
-/

namespace MarketFeed.Rehearsal

/-! ## What is seen, but for the faults -/

/-- An answer, but for the callback faults that it tells of. -/
def Answer.blind : Answer → Answer
  | .stats s => .stats { s with callbackFaults := 0 }
  | a => a

def Entry.blind : Entry Answer → Entry Answer
  | .callback c state a => .callback c state (a.map Answer.blind)
  | e => e

namespace Stage

def Seen.blind (s : Seen) : Seen := ⟨s.answer.blind, s.state, s.log.map Entry.blind⟩

def Final.blind (f : Final) : Final := { f with stats := { f.stats with callbackFaults := 0 } }

def Play.blind (p : Play) : Play :=
  ⟨p.steps.map Seen.blind, p.final.map Final.blind, p.log.map Entry.blind⟩

theorem Play.blind_eq {p q : Play} (hs : q.steps.map Seen.blind = p.steps.map Seen.blind)
    (hf : q.final.map Final.blind = p.final.map Final.blind)
    (hl : q.log.map Entry.blind = p.log.map Entry.blind) : q.blind = p.blind := by
  simp only [blind, hs, hf, hl]

end Stage

/-! ## Callbacks that return where they panicked -/

section

variable {κ : Type}

def Action.or (a : Action κ) (code : UInt32) : Action κ := { a with reply := a.reply.or code }

/-- The scripts with a plain return in place of a panic of an event or a metadata callback, and with
a stop in place of any other. -/
def Scripts.tame (s : Scripts κ) : Scripts κ where
  record := s.record.map (·.map (·.or 1))
  event := s.event.map (·.map (·.or 0))
  metadata := s.metadata.map (·.map (·.or 0))
  exception := s.exception.map (·.map (·.or 1))

theorem Scripts.next_tame (s : Scripts κ) (c : Call) :
    s.tame.next c = ((s.next c).1.or c.plain, (s.next c).2.tame) := by
  cases c <;> simp only [next, tame, draw_map (f := (·.or _)) rfl] <;> rfl

theorem Scripts.sinks_tame (s : Scripts κ) : s.tame.sinks = s.sinks := by
  simp only [sinks, tame, Option.isSome_map]

end

def Stage.Step.tame : Step → Step
  | start scripts => start scripts.tame
  | raceStart threads scripts => raceStart threads scripts.tame
  | step => step

/-- Sessions that are in step stay so. -/
theorem inStep_operation {β : Type} {op : Session → β × Session} (hop : Session.Ordinary op)
    {s x y : Session} {rs : List (Call × Reply)} (h : s.InStep rs x y) :
    s.InStep rs (op x).2 (op y).2 := by
  rcases hop.does with ⟨m, hm, hop⟩ | ⟨f, hop⟩
  · rw [hop, hop]
    exact .move m hm h
  · rw [hop, hop]
    exact .prepare f h

/-! ## The invariant -/

/-- Two stages that came from the session `s`. The callbacks `rs` have replied, the calls `before`
were noted in logs that are gone, and the calls `pending` at the end of the log have not replied. -/
structure Alike (s : Session) (before : List Call) (rs : List (Call × Reply)) (pending : List Call)
    (x y : Stage) : Prop where
  session : s.InStep rs x.session y.session
  scripts : y.scripts = x.scripts.tame
  held : y.held = x.held
  log : y.log.map Entry.blind = x.log.map Entry.blind
  calls : before ++ logged x.log = rs.map (·.1) ++ pending

/-- The invariant in each phase of a callback. -/
def AlikeIn (s : Session) (before : List Call) : Phase → Stage → Stage → Prop
  | .rest, x, y => ∃ rs, Alike s before rs [] x y
  | .within c r r', x, y =>
    (∃ rs, Alike s before rs [] x y) ∧ x.session.calling = some c ∧ r' = r.or c.plain
  | .noted c r r', x, y =>
    (∃ rs, Alike s before rs [c] x y) ∧ x.session.calling = some c ∧ r' = r.or c.plain

variable {s : Session} {before : List Call} {fuel : Nat}

namespace Alike

variable {rs : List (Call × Reply)} {pending : List Call} {x y : Stage} {β : Type}

theorem eq_charged (h : Alike s before rs pending x y) :
    x.session = y.session.charged (panics rs) := h.session.eq_charged

theorem operate (h : Alike s before rs pending x y) {op : Session → β × Session}
    (hop : Session.Ordinary op) :
    Alike s before rs pending (x.operate op).2 (y.operate op).2 := by
  have he : (op x.session).2.engine = (op y.session).2.engine := by
    rw [h.eq_charged, hop.oblivious.charged]
    rfl
  rw [operate_noted, operate_noted, he]
  refine ⟨.prepare _ (inStep_operation hop h.session), h.scripts, h.held, ?_, ?_⟩
  · simp only [List.map_append, h.log]
  · have hnone : ∀ calls : List EngineCall, logged (calls.map .engine) = [] := by
      intro calls
      simp [logged]
    simp only [logged_append, hnone, List.append_nil]
    exact h.calls

theorem turn (h : Alike s before rs pending x y) :
    Option.Rel (fun s₁ s₂ => s.InStep rs s₁ s₂) x.session.step y.session.step := by
  have hstep : x.session.step = y.session.step.map (·.charged (panics rs)) := by
    rw [h.eq_charged]
    exact y.session.step_charged _
  have hmove : s.InStep rs (x.session.move .turn) (y.session.move .turn) :=
    .move .turn rfl h.session
  cases hy : y.session.step with
  | none =>
    rw [hstep, hy]
    exact .none
  | some s₂ =>
    have hx : x.session.step = some (s₂.charged (panics rs)) := by rw [hstep, hy]; rfl
    simp only [Session.move, hx, hy, Option.getD_some] at hmove
    rw [hx]
    exact .some hmove

theorem note (h : Alike s before rs [] x y) {a a' : Option Answer}
    (ha : a'.map Answer.blind = a.map Answer.blind) (c : Call) (state : Option SessionState) :
    Alike s before rs [c] (x.note (.callback c state a)) (y.note (.callback c state a')) := by
  refine ⟨h.session, h.scripts, h.held, ?_, ?_⟩
  · simp only [Scripted.note, List.map_append, h.log, List.map_cons, List.map_nil, Entry.blind, ha]
  · have hcalls := h.calls
    rw [List.append_nil] at hcalls
    simp only [Scripted.note, logged_append, ← List.append_assoc, hcalls]
    rfl

theorem reply {c : Call} (h : Alike s before rs [c] x y) (hc : x.session.calling = some c)
    (r : Reply) :
    Alike s before (rs ++ [(c, r)]) [] { x with session := x.session.reply r }
      { y with session := y.session.reply (r.or c.plain) } := by
  refine ⟨.reply r hc h.session, h.scripts, h.held, h.log, ?_⟩
  rw [List.map_append, List.append_nil]
  exact h.calls

end Alike

theorem alike_paired : Paired (AlikeIn s before) Answer.blind Scripts.tame where
  session := by
    intro p x y h
    have heq : ∃ rs, x.session = y.session.charged (panics rs) := by
      cases p with
      | rest => exact h.imp fun _ h => h.eq_charged
      | within | noted => exact h.1.imp fun _ h => h.eq_charged
    obtain ⟨rs, heq⟩ := heq
    exact ⟨.charging _, heq.trans (Session.charged_eq _ _), fun _ => rfl, fun _ => rfl⟩
  held := by
    rintro x y ⟨rs, h⟩
    exact h.held.symm
  operate := by
    rintro x y _ _ ⟨rs, h⟩ hop
    exact ⟨rs, h.operate hop⟩
  within := by
    rintro x y c r r' _ _ ⟨⟨rs, h⟩, hc, hr⟩ hop hk
    refine ⟨⟨rs, h.operate hop⟩, ?_, hr⟩
    rw [operate_noted]
    exact (Session.Keeps.modifyManual _ _).calling.trans ((hk _).trans hc)
  step := by
    rintro x y ⟨rs, h⟩
    have hturn := h.turn
    generalize x.session.step = o₁ at hturn
    generalize y.session.step = o₂ at hturn
    cases hturn with
    | none => exact .none
    | some h' => exact .some ⟨rs, h', h.scripts, h.held, h.log, h.calls⟩
  draw := by
    rintro x y c ⟨rs, h⟩ hc
    rw [h.scripts, Scripts.next_tame]
    exact ⟨⟨⟨rs, h.session, rfl, h.held, h.log, h.calls⟩, hc, rfl⟩, rfl⟩
  note := by
    rintro x y c r r' a a' state ⟨⟨rs, h⟩, hc, hr⟩ ha
    exact ⟨⟨rs, h.note ha c state⟩, hc, hr⟩
  reply := by
    rintro x y c r r' ⟨⟨rs, h⟩, hc, rfl⟩
    exact ⟨_, h.reply hc r⟩
  noteStart := by
    rintro x y name answer ⟨rs, h⟩
    refine ⟨rs, h.session, h.scripts, h.held, ?_, ?_⟩
    · simp only [Scripted.note, List.map_append, h.log]
    · simp only [Scripted.note, logged_append]
      rw [← h.calls]
      simp [logged]
  hold := by
    rintro p x y b h
    have hheld {rs pending} (h : Alike s before rs pending x y) :
        Alike s before rs pending { x with held := b } { y with held := b } :=
      ⟨h.session, h.scripts, rfl, h.log, h.calls⟩
    cases p with
    | rest => exact h.imp fun _ => hheld
    | within | noted => exact ⟨h.1.imp fun _ => hheld, h.2⟩
  follow := by
    rintro x y scripts ⟨rs, h⟩
    exact ⟨rs, h.session, rfl, h.held, h.log, h.calls⟩
  sinks scripts := scripts.sinks_tame

theorem take_alike (fuel : Nat) (step : Stage.Step) :
    Relates (AlikeIn s before .rest) (fun a a' => a'.blind = a.blind)
      (Stage.take (Stage.host fuel) step) (Stage.take (Stage.host fuel) step.tame) := by
  have hstep : step.tame = step.map Scripts.tame := by cases step <;> rfl
  rw [hstep]
  exact alike_paired.take fuel step

/-! ## Rehearsals -/

theorem see_alike (fuel : Nat) (step : Stage.Step) {x y : Stage} (h : AlikeIn s before .rest x y) :
    let p := Stage.see (Stage.host fuel) step x
    let q := Stage.see (Stage.host fuel) step.tame y
    q.1.blind = p.1.blind ∧ AlikeIn s (before ++ logged p.1.log) .rest p.2 q.2 := by
  obtain ⟨h₁, ha⟩ := take_alike fuel step x y h
  obtain ⟨⟨rs, h₂⟩, -⟩ := (alike_paired.mirror fuel).settle alike_paired.likeness _ _ h₁
  rw [see_eq, see_eq]
  refine ⟨?_, rs, h₂.session, h₂.scripts, h₂.held, rfl, ?_⟩
  · simp only [Stage.Seen.blind, ha, h₂.log]
    rw [h₂.eq_charged]
    rfl
  · exact (List.append_nil _).trans h₂.calls

theorem steps_alike (fuel : Nat) (steps : List Stage.Step) {x y : Stage}
    (h : AlikeIn s before .rest x y) (hx : x.log = []) :
    let p := steps.mapM (Stage.see (Stage.host fuel)) x
    let q := (steps.map Stage.Step.tame).mapM (Stage.see (Stage.host fuel)) y
    q.1.map Stage.Seen.blind = p.1.map Stage.Seen.blind ∧
      AlikeIn s (before ++ p.1.flatMap (logged ·.log)) .rest p.2 q.2 ∧ p.2.log = [] := by
  induction steps generalizing x y before with
  | nil =>
    refine ⟨rfl, ?_, hx⟩
    show AlikeIn s (before ++ []) .rest x y
    rw [List.append_nil]
    exact h
  | cons step steps ih =>
    obtain ⟨ha, h'⟩ := see_alike fuel step h
    obtain ⟨has, h'', hx'⟩ := ih h' rfl
    rw [List.map_cons, List.mapM_cons, List.mapM_cons]
    rw [List.append_assoc] at h''
    exact ⟨List.cons_eq_cons.mpr ⟨ha, has⟩, h'', hx'⟩

theorem weight_tame (steps : List Stage.Step) (n : Nat) :
    (steps.map Stage.Step.tame).foldl (fun n s => n + s.weight) n =
      steps.foldl (fun n s => n + s.weight) n := by
  rw [List.foldl_map]
  congr
  funext n step
  cases step <;> rfl

theorem alike_start (s : Session) :
    AlikeIn s [] .rest ({ session := s } : Stage) { session := s } :=
  ⟨[], .start, rfl, rfl, rfl, rfl⟩

theorem Alike.released {x y : Stage} {rs : List (Call × Reply)} (h : Alike s before rs [] x y) :
    y.session.released = x.session.released := by
  rw [h.eq_charged]
  rfl

/-- What is read off the sessions at the end of a rehearsal is the same but for the faults. -/
theorem Alike.final {x y : Stage} {rs : List (Call × Reply)} (h : Alike s before rs [] x y) :
    Stage.Final.blind ⟨y.session.stats, y.session.lifecycle.isActive,
        y.session.subscriptions.length, y.session.symbols.size⟩ =
      Stage.Final.blind ⟨x.session.stats, x.session.lifecycle.isActive,
        x.session.subscriptions.length, x.session.symbols.size⟩ := by
  rw [h.eq_charged]
  rfl

theorem play_tame (s : Session) (steps : List Stage.Step) :
    (Stage.play s (steps.map Stage.Step.tame)).blind = (Stage.play s steps).blind := by
  unfold Stage.play
  rw [weight_tame]
  generalize 8 * steps.foldl (fun n s => n + s.weight) 8 = fuel
  obtain ⟨ha, h, -⟩ := steps_alike fuel steps (alike_start s) rfl
  simp only [StateT.run]
  generalize steps.mapM (Stage.see (Stage.host fuel)) { session := s } = p at ha h ⊢
  generalize (steps.map Stage.Step.tame).mapM (Stage.see (Stage.host fuel)) { session := s } = q
    at ha h ⊢
  obtain ⟨seen, x⟩ := p
  obtain ⟨seen', y⟩ := q
  obtain ⟨⟨rs', h'⟩, -⟩ := alike_paired.release fuel x y h
  obtain ⟨rs, h⟩ := h
  simp only at ha ⊢
  rw [h.released]
  split
  · exact Stage.Play.blind_eq ha rfl rfl
  · exact Stage.Play.blind_eq ha (congrArg some h.final) h'.log

/-- Nothing in a rehearsal tells whether callbacks panic or return, but the count of callback
faults. Whatever the steps and the scripts, those with returns in place of panics are seen to do the
same. After the steps, and so after every step of a rehearsal, the sessions are the same up to their
faults, which differ by the number of callbacks that panicked; `rs` are the replies, one for each
call in the logs. Of an event callback in particular, a panic leaves the session as a return does
and the record goes on to the record callback. -/
theorem panics_are_isolated (s : Session) (steps : List Stage.Step) :
    (Stage.play s (steps.map Stage.Step.tame)).blind = (Stage.play s steps).blind ∧
    (∀ fuel,
      let p := steps.mapM (Stage.see (Stage.host fuel)) { session := s }
      let q := (steps.map Stage.Step.tame).mapM (Stage.see (Stage.host fuel)) { session := s }
      q.1.map Stage.Seen.blind = p.1.map Stage.Seen.blind ∧
      ∃ rs : List (Call × Reply), rs.map (·.1) = p.1.flatMap (logged ·.log) ∧
        s.InStep rs p.2.session q.2.session ∧
        p.2.session = q.2.session.charged (panics rs)) ∧
    ∀ (x : Session) (ev : Event) (r : Record),
      let y : Session := { x with calling := some (.event ev r) }
      y.reply .panic = (y.reply (.code 0)).charged 1 ∧
        (y.reply .panic).calling = if x.has (·.record) then some (.record r) else none := by
  refine ⟨play_tame s steps, fun fuel => ?_, fun x ev r => ?_⟩
  · obtain ⟨ha, ⟨rs, h⟩, hlog⟩ := steps_alike fuel steps (alike_start s) rfl
    refine ⟨ha, rs, ?_, h.session, h.eq_charged⟩
    simpa [hlog, logged] using h.calls.symm
  · exact ⟨Session.reply_panic rfl, Session.record_after_event rfl .panic⟩

end MarketFeed.Rehearsal
