import MarketFeed.Proofs.Rehearsal.Host
import MarketFeed.Proofs.Session.Disguise
import MarketFeed.Proofs.Session.Moves

set_option autoImplicit false

/-!
# Two hosts side by side

When two hosts do alike. `Relates R Q p q`: the computation `p` takes worlds that are related by `R`
to such worlds where `q` does, with answers related by `Q`; this is closed under sequence. A
`Likeness` says which scripted sessions are alike and that every operation of a session and every
part of a run keep them so; a `Mirror` says that two hosts show and update alike sessions and that
calls of their callbacks do alike. Then whole runs, starts, stops, waits and releases do.
-/

namespace MarketFeed.Rehearsal

/-! ## Related computations -/

/-- Related worlds are taken to related worlds, with related answers. -/
def Relates {σ σ' β β' : Type} (R : σ → σ' → Prop) (Q : β → β' → Prop) (p : StateM σ β)
    (q : StateM σ' β') : Prop :=
  ∀ w w', R w w' → R (p w).2 (q w').2 ∧ Q (p w).1 (q w').1

namespace Relates

variable {σ σ' β β' γ γ' δ : Type} {R : σ → σ' → Prop} {Q : β → β' → Prop} {P : γ → γ' → Prop}

theorem pure {b : β} {b' : β'} (h : Q b b') :
    Relates R Q (Pure.pure b : StateM σ β) (Pure.pure b') :=
  fun _ _ hR => ⟨hR, h⟩

theorem bind {p : StateM σ β} {q : StateM σ' β'} {k : β → StateM σ γ} {k' : β' → StateM σ' γ'}
    (hp : Relates R Q p q) (hk : ∀ b b', Q b b' → Relates R P (k b) (k' b')) :
    Relates R P (p >>= k) (q >>= k') := by
  intro w w' hR
  obtain ⟨hR', hQ⟩ := hp w w' hR
  exact hk _ _ hQ _ _ hR'

/-- The answers of the first part are the same. -/
theorem bind_eq {p : StateM σ δ} {q : StateM σ' δ} {k : δ → StateM σ γ} {k' : δ → StateM σ' γ'}
    (hp : Relates R Eq p q) (hk : ∀ b, Relates R P (k b) (k' b)) :
    Relates R P (p >>= k) (q >>= k') := by
  refine hp.bind fun b b' h => ?_
  subst h
  exact hk b

theorem mono {Q' : β → β' → Prop} {p : StateM σ β} {q : StateM σ' β'} (hp : Relates R Q p q)
    (hQ : ∀ b b', Q b b' → Q' b b') : Relates R Q' p q := by
  intro w w' hR
  obtain ⟨hR', h⟩ := hp w w' hR
  exact ⟨hR', hQ _ _ h⟩

theorem ite {c : Prop} [Decidable c] {p q : StateM σ β} {p' q' : StateM σ' β'}
    (hp : c → Relates R Q p p') (hq : ¬ c → Relates R Q q q') :
    Relates R Q (if c then p else q) (if c then p' else q') := by
  split
  · rename_i h
    exact hp h
  · rename_i h
    exact hq h

theorem forIn {l : List δ} {f : δ → StateM σ (ForInStep PUnit)}
    {f' : δ → StateM σ' (ForInStep PUnit)} (hf : ∀ c, Relates R Eq (f c) (f' c)) :
    Relates R Eq (ForIn.forIn l ⟨⟩ fun c _ => f c) (ForIn.forIn l ⟨⟩ fun c _ => f' c) := by
  induction l with
  | nil => exact pure rfl
  | cons c l ih =>
    rw [List.forIn_cons, List.forIn_cons]
    refine (hf c).bind_eq fun step => ?_
    cases step with
    | done => exact pure rfl
    | yield => exact ih

end Relates

/-- Nothing is related to nothing only. -/
theorem rel_none {β β' : Type} {r : β → β' → Prop} {o : Option β'} (h : Option.Rel r none o) :
    o = none := by
  cases h
  rfl

theorem rel_some {β β' : Type} {r : β → β' → Prop} {b : β} {o : Option β'}
    (h : Option.Rel r (some b) o) : ∃ b', o = some b' ∧ r b b' := by
  cases h with
  | some h => exact ⟨_, rfl, h⟩

/-! ## Scripts and operations -/

/-- The actions of a script are drawn as they are translated. -/
theorem Scripts.draw_map {κ κ' : Type} {f : Action κ → Action κ'} {last : UInt32}
    (hf : f ⟨none, .code last⟩ = ⟨none, .code last⟩) (script : Option (List (Action κ))) :
    draw (script.map (·.map f)) last =
      (f (draw script last).1, (draw script last).2.map (·.map f)) := by
  rcases script with _ | _ | ⟨a, rest⟩
  · simp only [draw, Option.map_none, hf]
  · simp only [draw, Option.map_some, List.map_nil, hf]
  · rfl

/-- An operation is carried out, then the calls of the engine are noted. -/
theorem operate_noted {κ α β : Type} (x : Scripted κ α) (op : Session → β × Session) :
    x.operate op = ((op x.session).1,
      { x with
        session := (op x.session).2.modifyManual ({ · with calls := [] })
        log := x.log ++ (op x.session).2.engine.takeCalls.1.map .engine }) := by
  simp only [Scripted.operate, Session.modifyManual]
  cases he : (op x.session).2.engine with
  | replay e =>
    have hs : ({ (op x.session).2 with engine := .replay e } : Session) = (op x.session).2 :=
      Sound.engine_eq he
    simp only [Engine.takeCalls, hs]
  | manual e => rfl

/-- What came of the last delivery by hand. A replay engine delivers by itself. -/
def outcome? : Engine → Option Outcome
  | .replay _ => none
  | .manual e => some e.outcome

theorem isReplay_eq (engine : Engine) : engine.isReplay = (outcome? engine).isNone := by
  cases engine <;> rfl

/-- The deliveries that a manual engine has in store for its start, which it makes only once. -/
def deliveries (s : Session) : List Handing × Session :=
  match s.engine with
  | .manual e => (e.onStart, { s with engine := .manual { e with onStart := [] } })
  | .replay _ => ([], s)

theorem ordinary_deliveries : Session.Ordinary deliveries := by
  refine .of_manual (fun s d => ?_) ({ · with onStart := [] }) fun s => ?_
  · simp only [deliveries, Session.disguise_engine]
    cases s.engine <;> rfl
  · unfold deliveries Session.modifyManual
    cases s.engine <;> rfl

theorem deliveries_released (s : Session) : (deliveries s).2.released = s.released := by
  unfold deliveries
  cases s.engine <;> rfl

theorem ordinary_subscribe (request : Subscription.Request) :
    Session.Ordinary (Stage.subscribe request) := by
  unfold Stage.subscribe
  cases Subscription.ofRequest request with
  | ok sub => exact .subscribe sub
  | error cause =>
    refine .of_manual (fun _ _ => rfl) id fun s => ?_
    obtain ⟨_, _, _, _, _, engine, _, _, _⟩ := s
    cases engine <;> rfl

/-! ## Runs of a host, beat by beat -/

namespace Host

variable {σ κ α : Type} (h : Host σ κ α) {w : σ} {n : Nat}

theorem run_callback {c : Call} (hc : (h.view w).session.calling = some c) :
    h.run (n + 1) w =
      let p := h.answer c w
      h.run n (h.update { h.view p.2 with session := (h.view p.2).session.reply p.1 } p.2) := by
  simp [run, hc]

theorem run_held (hc : (h.view w).session.calling = none) (hh : (h.view w).held = true) :
    h.run (n + 1) w = ((), w) := by
  simp [run, hc, hh]

theorem run_idle (hc : (h.view w).session.calling = none) (hs : (h.view w).session.step = none) :
    h.run (n + 1) w = ((), w) := by
  cases hh : (h.view w).held <;> simp [run, hc, hh, hs]

theorem run_taking {s : Session} (hc : (h.view w).session.calling = none)
    (hh : (h.view w).held = false) (hs : (h.view w).session.step = some s) :
    h.run (n + 1) w = h.run n (h.update { h.view w with session := s } w) := by
  simp [run, hc, hh, hs]

/-- A manual engine takes no turns by itself. -/
theorem settle_manual (he : (h.view w).session.engine.isReplay = false) : h.settle w = ((), w) := by
  cases hc : (h.view w).session.calling with
  | some c => exact settle_calling h hc
  | none =>
    have hs : (h.view w).session.step = none := by
      cases hm : (h.view w).session.engine with
      | replay e => simp [hm, Engine.isReplay] at he
      | manual e => simp [Session.step, hc, hm]
    have hrun : h.run h.fuel w = ((), w) := by
      cases h.fuel with
      | zero => rfl
      | succ n => exact h.run_idle hc hs
    simpa [settle, hc] using hrun

/-- How a delivery that was made is answered. -/
def handed : Option Outcome → String
  | some (.verdict v) => v.name
  | some (.recovery r) => r.name
  | _ => "sent"

theorem hand_eq (d : Handing) : h.hand d = do
    match ← h.operate (·.hand d) with
    | .noLoop => return "no loop"
    | .noSink => return "no sink"
    | .ended => return "ended"
    | .delivered =>
      h.run h.fuel
      return handed (outcome? (← h.session).engine) := by
  refine bind_congr fun r => ?_
  cases r with
  | noLoop | noSink | ended => rfl
  | delivered =>
    refine bind_congr fun _ => bind_congr fun s => ?_
    obtain _ | ⟨_, _, _, _, _ | _ | _⟩ := s.engine <;> rfl

end Host

/-! ## Sessions that are alike -/

variable {σ σ' κ κ' α α' β β' : Type}

/-- How far two callbacks have come that were called with `c` and reply `r` and `r'`. -/
inductive Phase where
  | rest
  | within (c : Call) (r r' : Reply)
  | noted (c : Call) (r r' : Reply)

/-- Two operations keep sessions at rest alike and give related answers. Neither releases the
session. -/
def Corresponds (V : Phase → Scripted κ α → Scripted κ' α' → Prop) (B : β → β' → Prop)
    (op : Session → β × Session) (op' : Session → β' × Session) : Prop :=
  ∀ x x', V .rest x x' → V .rest (x.operate op).2 (x'.operate op').2 ∧
    B (op x.session).1 (op' x'.session).1 ∧ (op x.session).2.released = x.session.released

/-- Which scripted sessions are alike in each phase (`V`), and that all that happens to a session
keeps them so. `K` relates the calls that callbacks make and `A` what they are answered. -/
structure Likeness (V : Phase → Scripted κ α → Scripted κ' α' → Prop)
    (K : Option κ → Option κ' → Prop) (A : Option α → Option α' → Prop) : Prop where
  calling : ∀ {x x'}, V .rest x x' → x.session.calling = x'.session.calling
  lifecycle : ∀ {x x'}, V .rest x x' → x.session.lifecycle = x'.session.lifecycle
  outcome : ∀ {x x'}, V .rest x x' → outcome? x.session.engine = outcome? x'.session.engine
  released : ∀ {x x'}, V .rest x x' → x.session.released = x'.session.released
  held : ∀ {x x'}, V .rest x x' → x.held = x'.held
  step : ∀ {x x'}, V .rest x x' → x.session.calling = none → x.held = false →
    Option.Rel (fun s s' => V .rest { x with session := s } { x' with session := s' })
      x.session.step x'.session.step
  draw : ∀ {x x' c}, V .rest x x' → x.session.calling = some c →
    V (.within c (x.scripts.next c).1.reply (x'.scripts.next c).1.reply)
      { x with scripts := (x.scripts.next c).2 } { x' with scripts := (x'.scripts.next c).2 } ∧
    K (x.scripts.next c).1.call (x'.scripts.next c).1.call
  note : ∀ {x x' c r r' a a'} state, V (.within c r r') x x' → A a a' →
    V (.noted c r r') (x.note (.callback c state a)) (x'.note (.callback c state a'))
  reply : ∀ {x x' c r r'}, V (.noted c r r') x x' →
    V .rest { x with session := x.session.reply r } { x' with session := x'.session.reply r' }
  noteStart : ∀ {x x'} name answer, V .rest x x' →
    V .rest (x.note (.onStart name answer)) (x'.note (.onStart name answer))
  wake : ∀ {x x'}, V .rest x x' → V .rest { x with held := false } { x' with held := false }
  start : ∀ k, Corresponds V Eq (·.beginStart k) (·.beginStart k)
  deliveries : Corresponds V Eq deliveries deliveries
  hand : ∀ d, Corresponds V Eq (·.hand d) (·.hand d)
  complete : Corresponds V Eq (·.completeStart) (·.completeStart)
  stop : Corresponds V Eq (·.requestStop) (·.requestStop)

/-- Two hosts that show and update alike sessions, and whose callbacks make calls that do alike. -/
structure Mirror (R : Phase → σ → σ' → Prop) (V : Phase → Scripted κ α → Scripted κ' α' → Prop)
    (K : Option κ → Option κ' → Prop) (A : Option α → Option α' → Prop) (h : Host σ κ α)
    (h' : Host σ' κ' α') : Prop where
  view : ∀ {p w w'}, R p w w' → V p (h.view w) (h'.view w')
  update : ∀ {p q w w' x x'}, R p w w' → V q x x' →
    x.session.released = (h.view w).session.released → R q (h.update x w) (h'.update x' w')
  perform : ∀ {w w' k k' c r r'}, R (.within c r r') w w' → K k k' →
    R (.within c r r') (k.mapM h.perform w).2 (k'.mapM h'.perform w').2 ∧
      A (k.mapM h.perform w).1 (k'.mapM h'.perform w').1
  delivering : h.delivering = h'.delivering
  fuel : h.fuel = h'.fuel

/-! ## Runs that are alike -/

namespace Mirror

variable {V : Phase → Scripted κ α → Scripted κ' α' → Prop} {K : Option κ → Option κ' → Prop}
  {A : Option α → Option α' → Prop} {R : Phase → σ → σ' → Prop} {h : Host σ κ α}
  {h' : Host σ' κ' α'}

/-- A change that keeps sessions alike and does not release them. -/
theorem modify (hm : Mirror R V K A h h') {f : Scripted κ α → Scripted κ α}
    {f' : Scripted κ' α' → Scripted κ' α'}
    (hf : ∀ x x', V .rest x x' →
      V .rest (f x) (f' x') ∧ (f x).session.released = x.session.released) :
    Relates (R .rest) Eq (h.modifyScripted f) (h'.modifyScripted f') := by
  intro w w' hR
  obtain ⟨hV, hr⟩ := hf _ _ (hm.view hR)
  exact ⟨hm.update hR hV hr, rfl⟩

theorem operate (hm : Mirror R V K A h h') {B : β → β' → Prop} {op : Session → β × Session}
    {op' : Session → β' × Session} (hop : Corresponds V B op op') :
    Relates (R .rest) B (h.operate op) (h'.operate op') := by
  intro w w' hR
  obtain ⟨hV, hB, hr⟩ := hop _ _ (hm.view hR)
  exact ⟨hm.update hR hV hr, hB⟩

/-- The sessions are shown to those who look. -/
theorem session (hm : Mirror R V K A h h') :
    Relates (R .rest) (fun s s' => ∃ x x', V .rest x x' ∧ x.session = s ∧ x'.session = s')
      h.session h'.session :=
  fun _ _ hR => ⟨hR, _, _, hm.view hR, rfl, rfl⟩

theorem wake (hm : Mirror R V K A h h') (hl : Likeness V K A) :
    Relates (R .rest) Eq (h.modifyScripted ({ · with held := false }))
      (h'.modifyScripted ({ · with held := false })) :=
  hm.modify fun _ _ hV => ⟨hl.wake hV, rfl⟩

/-- A callback that runs draws an action, makes its call and notes it. -/
theorem answer (hm : Mirror R V K A h h') (hl : Likeness V K A) {w : σ} {w' : σ'} {c : Call}
    (hR : R .rest w w') (hc : (h.view w).session.calling = some c) :
    R (.noted c (h.answer c w).1 (h'.answer c w').1) (h.answer c w).2 (h'.answer c w').2 := by
  have hV := hm.view hR
  obtain ⟨hdraw, hK⟩ := hl.draw hV hc
  obtain ⟨hR₂, hA⟩ := hm.perform (hm.update hR hdraw rfl) hK
  have hnote := fun state => hl.note state (hm.view hR₂) hA
  simp only [Host.answer, Host.bind_run, Host.scripted_run, Host.modifyScripted_run, Host.pure_run,
    Session.state, ← hl.released hV, ← hl.lifecycle hV]
  exact hm.update hR₂ (hnote _) rfl

theorem run (hm : Mirror R V K A h h') (hl : Likeness V K A) (n : Nat) :
    Relates (R .rest) Eq (h.run n) (h'.run n) := by
  induction n with
  | zero => exact .pure rfl
  | succ n ih =>
    intro w w' hR
    have hV := hm.view hR
    have hcal := hl.calling hV
    have hheld := hl.held hV
    cases hc : (h.view w).session.calling with
    | some c =>
      have hR₁ := hm.answer hl hR hc
      rw [h.run_callback hc, h'.run_callback (hcal ▸ hc)]
      refine ih _ _ (hm.update hR₁ (hl.reply (hm.view hR₁)) ?_)
      exact (h.view (h.answer c w).2).session.reply_released _
    | none =>
      have hc' : (h'.view w').session.calling = none := hcal ▸ hc
      cases hh : (h.view w).held with
      | true =>
        rw [h.run_held hc hh, h'.run_held hc' (hheld ▸ hh)]
        exact ⟨hR, rfl⟩
      | false =>
        have hst := hl.step hV hc hh
        cases hs : (h.view w).session.step with
        | none =>
          rw [hs] at hst
          have hs' := rel_none hst
          rw [h.run_idle hc hs, h'.run_idle hc' hs']
          exact ⟨hR, rfl⟩
        | some s =>
          rw [hs] at hst
          obtain ⟨s', hs', hVs⟩ := rel_some hst
          rw [h.run_taking hc hh hs, h'.run_taking hc' (hheld ▸ hh) hs']
          exact ih _ _ (hm.update hR hVs (Session.step_released hs))

theorem settle (hm : Mirror R V K A h h') (hl : Likeness V K A) :
    Relates (R .rest) Eq h.settle h'.settle := by
  unfold Host.settle
  refine hm.session.bind fun s s' hs => ?_
  obtain ⟨x, x', hV, rfl, rfl⟩ := hs
  rw [hl.calling hV, hm.fuel]
  exact .ite (fun _ => hm.run hl _) fun _ => .pure rfl

theorem hand (hm : Mirror R V K A h h') (hl : Likeness V K A) (d : Handing) :
    Relates (R .rest) Eq (h.hand d) (h'.hand d) := by
  rw [h.hand_eq, h'.hand_eq]
  refine (hm.operate (hl.hand d)).bind_eq fun r => ?_
  cases r with
  | noLoop | noSink | ended => exact .pure rfl
  | delivered =>
    simp only
    rw [hm.fuel]
    refine (hm.run hl _).bind_eq fun _ => hm.session.bind fun s s' hs => ?_
    obtain ⟨x, x', hV, rfl, rfl⟩ := hs
    exact .pure (congrArg Host.handed (hl.outcome hV))

theorem start (hm : Mirror R V K A h h') (hl : Likeness V K A) {scripts : Scripts κ}
    {scripts' : Scripts κ'} (hk : scripts.sinks = scripts'.sinks)
    (hs : ∀ x x', V .rest x x' → V .rest { x with scripts } { x' with scripts := scripts' }) :
    Relates (R .rest) Eq (h.start scripts) (h'.start scripts') := by
  unfold Host.start
  rw [hk]
  refine (hm.operate (hl.start _)).bind_eq fun r => ?_
  cases r with
  | error halt => exact .pure rfl
  | ok =>
    refine (hm.modify fun x x' hV => ⟨hs x x' hV, rfl⟩).bind_eq fun _ => ?_
    refine (hm.operate hl.deliveries).bind_eq fun ds => ?_
    refine Relates.bind_eq (.forIn fun d => ?_) fun _ => hm.operate hl.complete
    refine (hm.hand hl d).bind_eq fun answer => ?_
    exact (hm.modify fun x x' hV => ⟨hl.noteStart _ _ hV, rfl⟩).bind_eq fun _ => .pure rfl

theorem wait (hm : Mirror R V K A h h') (hl : Likeness V K A) (timeout : Option Nat) :
    Relates (R .rest) Eq (h.wait timeout) (h'.wait timeout) := by
  have hlook : Relates (R .rest) Eq (do return (← h.session).waited)
      (do return (← h'.session).waited) := by
    refine hm.session.bind fun s s' hs => ?_
    obtain ⟨x, x', hV, rfl, rfl⟩ := hs
    exact .pure (by simp only [Session.waited, hl.lifecycle hV])
  refine hm.session.bind fun s s' hs => ?_
  obtain ⟨x, x', hV, rfl, rfl⟩ := hs
  simp only [hl.lifecycle hV, hm.delivering]
  cases x'.session.lifecycle.atOnce h'.delivering with
  | some v => exact .pure rfl
  | none =>
    refine .ite (fun _ => ?_) fun _ => hlook
    exact (hm.wake hl).bind_eq fun _ => (hm.settle hl).bind_eq fun _ => hlook

/-- A stop, if a loop can be held back or need not be. -/
theorem stop (hm : Mirror R V K A h h') (hl : Likeness V K A) {timeout : Option Nat}
    (hh : timeout = some 0 → h.delivering = false →
      Relates (R .rest) Eq (h.modifyScripted ({ · with held := true }))
        (h'.modifyScripted ({ · with held := true }))) :
    Relates (R .rest) Eq (h.stop timeout) (h'.stop timeout) := by
  refine (hm.operate hl.stop).bind_eq fun r => ?_
  cases r with
  | error halt => exact .pure rfl
  | ok =>
    refine hm.session.bind fun s s' hs => ?_
    obtain ⟨x, x', hV, rfl, rfl⟩ := hs
    simp only [← hm.delivering, ← hl.lifecycle hV, isReplay_eq, ← hl.outcome hV]
    refine .ite (fun hc => ?_) fun _ => (hm.wait hl timeout).bind_eq fun _ => .pure rfl
    simp only [Bool.and_eq_true, Bool.not_eq_true', decide_eq_true_eq] at hc
    exact (hh hc.1.1.2 hc.1.1.1).bind_eq fun _ =>
      (hm.wait hl timeout).bind_eq fun _ => .pure rfl

end Mirror

/-! ## A host beside itself -/

/-- The same callback on both sides. -/
def Phase.Same : Phase → Prop
  | .rest => True
  | .within _ r r' | .noted _ r r' => r = r'

/-- The same session on both sides. -/
def SameIn (p : Phase) (x x' : Scripted κ α) : Prop := x = x' ∧ p.Same

theorem sameIn_operate {op : Session → β × Session}
    (hr : ∀ s, (op s).2.released = s.released) :
    Corresponds (SameIn (κ := κ) (α := α)) Eq op op := by
  rintro x _ ⟨rfl, -⟩
  exact ⟨⟨rfl, trivial⟩, rfl, hr _⟩

theorem same_likeness : Likeness (SameIn (κ := κ) (α := α)) Eq Eq where
  calling h := h.1 ▸ rfl
  lifecycle h := h.1 ▸ rfl
  outcome h := h.1 ▸ rfl
  released h := h.1 ▸ rfl
  held h := h.1 ▸ rfl
  step := by
    rintro x _ ⟨rfl, -⟩ - -
    cases x.session.step with
    | none => exact .none
    | some s => exact .some ⟨rfl, trivial⟩
  draw := by
    rintro x _ c ⟨rfl, -⟩ -
    exact ⟨⟨rfl, rfl⟩, rfl⟩
  note := by
    rintro x _ c r r' a _ state ⟨rfl, hr⟩ rfl
    exact ⟨rfl, hr⟩
  reply := by
    rintro x _ c r _ ⟨rfl, rfl⟩
    exact ⟨rfl, trivial⟩
  noteStart := by
    rintro x _ name answer ⟨rfl, -⟩
    exact ⟨rfl, trivial⟩
  wake := by
    rintro x _ ⟨rfl, -⟩
    exact ⟨rfl, trivial⟩
  start k := sameIn_operate fun s => s.beginStart_released k
  deliveries := sameIn_operate deliveries_released
  hand d := sameIn_operate fun s => s.hand_released d
  complete := sameIn_operate fun s => s.completeStart_released
  stop := sameIn_operate fun s => s.requestStop_released

/-- The computation keeps what holds of the state. -/
def Kept (Q : σ → Prop) (p : StateM σ β) : Prop := ∀ w, Q w → Q (p w).2

namespace Kept

variable {Q : σ → Prop} {γ : Type}

theorem pure (b : β) : Kept Q (Pure.pure b : StateM σ β) := fun _ h => h

theorem look : Kept Q (get : StateM σ σ) := fun _ h => h

theorem bind {p : StateM σ β} {k : β → StateM σ γ} (hp : Kept Q p) (hk : ∀ b, Kept Q (k b)) :
    Kept Q (p >>= k) := fun w h => hk _ _ (hp w h)

end Kept

/-- Whatever the host does with its session, and whatever the callbacks call, keeps `Q`. -/
structure Host.Keeps (Q : σ → Prop) (h : Host σ κ α) : Prop where
  update : ∀ x w, Q w → Q (h.update x w)
  perform : ∀ k, Kept Q (h.perform k)

namespace Host.Keeps

variable {Q : σ → Prop} {h : Host σ κ α} (hk : h.Keeps Q)
include hk

theorem mirror :
    Mirror (fun p w w' => w = w' ∧ Q w ∧ p.Same) (SameIn (κ := κ) (α := α)) Eq Eq h h where
  view := by
    rintro p w _ ⟨rfl, -, hp⟩
    exact ⟨rfl, hp⟩
  update := by
    rintro p q w _ x _ ⟨rfl, hQ, -⟩ ⟨rfl, hq⟩ -
    exact ⟨rfl, hk.update x w hQ, hq⟩
  perform := by
    rintro w _ k _ c r r' ⟨rfl, hQ, hr⟩ rfl
    cases k with
    | none => exact ⟨⟨rfl, hQ, hr⟩, rfl⟩
    | some k => exact ⟨⟨rfl, hk.perform k w hQ, hr⟩, rfl⟩
  delivering := rfl
  fuel := rfl

omit hk in
theorem of_relates {p : StateM σ β}
    (hp : Relates (fun w w' => w = w' ∧ Q w ∧ Phase.rest.Same) Eq p p) : Kept Q p :=
  fun w hQ => (hp w w ⟨rfl, hQ, trivial⟩).1.2.1

theorem modify (f : Scripted κ α → Scripted κ α) : Kept Q (h.modifyScripted f) :=
  fun w hQ => hk.update _ w hQ

theorem operate (op : Session → β × Session) : Kept Q (h.operate op) :=
  fun w hQ => hk.update _ w hQ

theorem settle : Kept Q h.settle := of_relates (hk.mirror.settle same_likeness)

theorem hand (d : Handing) : Kept Q (h.hand d) := of_relates (hk.mirror.hand same_likeness d)

theorem start (scripts : Scripts κ) : Kept Q (h.start scripts) :=
  of_relates (hk.mirror.start same_likeness rfl fun _ _ hV => hV.1 ▸ ⟨rfl, trivial⟩)

theorem wait (timeout : Option Nat) : Kept Q (h.wait timeout) :=
  of_relates (hk.mirror.wait same_likeness timeout)

theorem stop (timeout : Option Nat) : Kept Q (h.stop timeout) := by
  refine of_relates (hk.mirror.stop same_likeness fun _ _ => ?_)
  rintro w _ ⟨rfl, hQ, -⟩
  exact ⟨⟨rfl, hk.modify _ w hQ, trivial⟩, rfl⟩

theorem release : Kept Q h.release :=
  (hk.operate _).bind fun _ => (hk.modify _).bind fun _ => hk.settle.bind fun _ => .pure _

end Host.Keeps

end MarketFeed.Rehearsal
