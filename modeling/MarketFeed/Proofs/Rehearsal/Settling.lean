import MarketFeed.Proofs.Record.Framing
import MarketFeed.Proofs.Rehearsal.Runs
import MarketFeed.Proofs.Session.Settling

set_option autoImplicit false

/-!
# Rehearsals settle

Between two steps of a rehearsal over a replay session, the session has `Settled`: no callback runs,
and the loop has nothing to do or is held. `Ready N x` is what keeps it so, with at most `N` events
in the feed: then `4 * N + 3` beats are enough for all that the session still does by itself
(`settle_ready`), and every step keeps a session ready, up to what it puts into the feed
(`take_ready`).
-/

namespace MarketFeed

/-! ## Operations -/

/-- Whether a loop hears nothing of a move. -/
def Move.isUnheard : Move → Bool
  | subscribe _ | reconnect | resubscribe => true
  | _ => false

/-- What a callback asks of its session, while it runs, leaves the load as it is. -/
theorem Rule.load_kept {s s' : Session} {e : Replay} {m : Move} {t : List Mark} (hs : Sound s e)
    (hr : Rule s e m t s') (hc : s.calling.isSome = true) (hm : m.isRequest = true) :
    s'.load = s.load := by
  have he := hs.engine
  cases hr with
  | still => rfl
  | subscribe | reconnect | started | stop | release =>
    simp [Session.load, he, Engine.load, Replay.load, Replay.subscribe]
  | start _ hw =>
    rw [(hs.idle hw).2.2] at hc
    cases hc
  | feed =>
    have hf : s.fed m = [] := by cases m <;> first | rfl | cases hm
    simp [Session.load, he, Engine.load, Replay.load, hf]
  | greet | shutdown | close | event | record | consult | giveUp => cases hm
  | greeted | offer | proceed | stopped | restart | abandon => cases hm

/-- An operation takes nothing from the feed. -/
theorem Rule.queue_of_operation {s s' : Session} {e : Replay} {m : Move} {t : List Mark}
    (he : s.engine = .replay e) (hr : Rule s e m t s') (hm : m.isOperation = true) :
    s'.queue.length ≤ s.queue.length + (s.fed m).length := by
  cases hr with
  | still => exact Nat.le_add_right _ _
  | subscribe | reconnect | start | started | stop | release =>
    simp [Session.queue, he, Replay.subscribe]
  | feed => simp [Session.queue, he]
  | greet | shutdown | close | event | record | consult | giveUp => cases hm
  | greeted | offer | proceed | stopped | restart | abandon => cases hm

/-- The load of a session at rest is that of its feed and its loop. -/
theorem Sound.load_le {s : Session} {e : Replay} (hs : Sound s e) (hc : s.calling = none) :
    4 * s.queue.length ≤ s.load ∧ s.load ≤ 4 * s.queue.length + 3 := by
  have hload : s.load = 4 * s.queue.length + (e.loop.map (·.load)).getD 0 := by
    simp [Session.load, hc, hs.engine, Engine.load, Replay.load, Session.queue]
  have hloop : (e.loop.map (·.load)).getD 0 ≤ 3 := by
    cases e.loop with
    | none => exact Nat.zero_le 3
    | some loop => cases hg : loop.greeted <;> simp [Replay.Loop.load, hg]
  omega

namespace Rehearsal

variable {x : Stage} {e : Replay} {N fuel : Nat}

/-- A call by a callback leaves the load as it is. -/
theorem perform_load (call : SessionCall) (hs : Sound x.session e)
    (hc : x.session.calling.isSome = true) :
    (Stage.perform call x).2.session.load = x.session.load := by
  rcases perform_asks call hs with h | ⟨m, hm, h, -⟩
  · rw [h]
  · rw [h]
    exact (hs.rule m).load_kept hs hc hm

/-- A callback goes on until it replies; it adds nothing to the load. -/
theorem answer_load (fuel : Nat) (hs : Sound x.session e) {c : Call}
    (hc : x.session.calling = some c) :
    (∃ e', Sound ((Stage.host fuel).answer c x).2.session e') ∧
      ((Stage.host fuel).answer c x).2.session.calling = some c ∧
      ((Stage.host fuel).answer c x).2.session.load = x.session.load := by
  obtain ⟨ms, hm, hx, -⟩ := answer_noted fuel hs c
  obtain ⟨e', hs'⟩ := hs.after ms
  refine ⟨⟨e', hx ▸ hs'⟩, by rw [hx, (hs.operations hm).1, hc], ?_⟩
  cases hcall : (x.scripts.next c).1.call with
  | none => simp [Host.answer, Stage.host, hcall, Scripted.note]
  | some call =>
    have hload := perform_load call (x := { x with scripts := (x.scripts.next c).2 }) hs
      (by rw [hc]; rfl)
    simpa [Host.answer, Stage.host, hcall, Scripted.note] using hload

/-! ## Sessions at rest -/

/-- No callback runs, and the loop has nothing to do or is held. -/
def Stage.Settled (x : Stage) : Prop :=
  x.session.calling = none ∧ (x.held = true ∨ x.session.step = none)

/-- A replay session with at most `N` events in the feed, and no callback that runs. -/
structure Stage.Ready (N : Nat) (x : Stage) : Prop where
  sound : ∃ e, Sound x.session e
  calling : x.session.calling = none
  feed : x.session.queue.length ≤ N

theorem run_settled (fuel : Nat) (h : x.Settled) (n : Nat) :
    (Stage.host fuel).run n x = ((), x) := by
  obtain ⟨hc, hh | hst⟩ := h
  · exact run_held fuel hc hh n
  · exact run_still fuel hc hst n

/-- There is nothing to be done for a session that has settled. -/
theorem settle_settled (fuel : Nat) (h : x.Settled) : (Stage.host fuel).settle x = ((), x) := by
  have hr := run_settled fuel h fuel
  simp [Host.settle, Stage.host, h.1] at hr ⊢
  exact hr

/-- Beats enough for the load bring a session to rest, and add nothing to the load. -/
theorem run_settles (fuel n : Nat) (hs : Sound x.session e) (hn : x.session.load ≤ n) :
    let y := ((Stage.host fuel).run n x).2
    (∃ e', Sound y.session e') ∧ y.Settled ∧ y.session.load ≤ x.session.load := by
  induction n generalizing x e with
  | zero =>
    obtain ⟨hc, hst⟩ := Session.rest_of_load (Nat.le_zero.mp hn)
    exact ⟨⟨e, hs⟩, ⟨hc, .inr hst⟩, Nat.le_refl _⟩
  | succ n ih =>
    cases hc : x.session.calling with
    | some c =>
      obtain ⟨⟨e₁, hs₁⟩, hc₁, hl₁⟩ := answer_load fuel hs hc
      have hlt := Session.reply_load hc₁ ((Stage.host fuel).answer c x).1
      obtain ⟨e₂, hs₂⟩ := hs₁.move (.reply ((Stage.host fuel).answer c x).1)
      rw [run_calling fuel hc n]
      generalize (Stage.host fuel).answer c x = p at hl₁ hlt hs₂ ⊢
      obtain ⟨hs', hset, hle⟩ :=
        ih (x := { p.2 with session := p.2.session.reply p.1 }) hs₂ (by dsimp only; omega)
      exact ⟨hs', hset, by dsimp only at hle ⊢; omega⟩
    | none =>
      by_cases hset : x.Settled
      · rw [run_settled fuel hset]
        exact ⟨⟨e, hs⟩, hset, Nat.le_refl _⟩
      · have hh : x.held = false := by
          cases hh : x.held with
          | false => rfl
          | true => exact absurd ⟨hc, .inl hh⟩ hset
        cases hst : x.session.step with
        | none => exact absurd ⟨hc, .inr hst⟩ hset
        | some s =>
          have hlt := Session.step_load hst
          have hm : x.session.move .turn = s := by simp [Session.move, hst]
          obtain ⟨e', hs'⟩ := hs.move .turn
          rw [hm] at hs'
          rw [run_turn fuel hc hh hst]
          obtain ⟨hs', hset, hle⟩ := ih (x := { x with session := s }) hs' (by dsimp only; omega)
          exact ⟨hs', hset, by dsimp only at hle ⊢; omega⟩

theorem settle_ready {fuel : Nat} (h : x.Ready N) (hf : 4 * N + 3 ≤ fuel) :
    ((Stage.host fuel).settle x).2.Settled ∧ ((Stage.host fuel).settle x).2.Ready N := by
  obtain ⟨⟨e, hs⟩, hc, hq⟩ := h
  obtain ⟨-, hle⟩ := hs.load_le hc
  obtain ⟨⟨e', hs'⟩, hset, hle'⟩ := run_settles fuel fuel hs (by omega)
  have hrun : (Stage.host fuel).settle x = (Stage.host fuel).run fuel x := by
    simp [Host.settle, Stage.host, hc]
  rw [hrun]
  obtain ⟨hge, -⟩ := hs'.load_le hset.1
  exact ⟨hset, ⟨e', hs'⟩, hset.1, by omega⟩

/-! ## What keeps sessions ready -/

/-- An operation leaves a session ready, up to what it puts into the feed. -/
theorem Stage.Ready.move (h : x.Ready N) {m : Move} (hm : m.isOperation = true) :
    Ready (N + (x.session.fed m).length) { x with session := x.session.move m } := by
  obtain ⟨⟨e, hs⟩, hc, hq⟩ := h
  have hle := (hs.rule m).queue_of_operation hs.engine hm
  exact ⟨hs.move m, ((hs.rule m).calling_of_operation hm).trans hc, by dsimp only; omega⟩

theorem Stage.Ready.mono (h : x.Ready N) {N' : Nat} (hN : N ≤ N') : x.Ready N' :=
  ⟨h.sound, h.calling, Nat.le_trans h.feed hN⟩

theorem Stage.Ready.operate (h : x.Ready N) {β : Type} {op : Session → β × Session} (m : Move)
    (hm : m.isOperation = true) (hop : ∀ s, (op s).2 = s.move m) :
    Stage.Ready (N + (x.session.fed m).length) (x.operate op).2 := by
  obtain ⟨e, hs⟩ := h.sound
  rw [operate_move m hop hs]
  exact h.move hm

/-- The computation keeps sessions ready, and the feed may grow from `N` events to `N'`. -/
def Calms {β : Type} (N N' : Nat) (p : StateM Stage β) : Prop := ∀ x, x.Ready N → (p x).2.Ready N'

namespace Calms

variable {β γ : Type} {fuel : Nat}

theorem pure (b : β) : Calms N N (Pure.pure b) := fun _ h => h

theorem bind {N' N'' : Nat} {p : StateM Stage β} {k : β → StateM Stage γ} (hp : Calms N N' p)
    (hk : ∀ b, Calms N' N'' (k b)) : Calms N N'' (p >>= k) := fun x h => hk _ _ (hp x h)

theorem later {N' : Nat} {p : StateM Stage β} (hp : Calms N' N' p) (hN : N ≤ N') :
    Calms N N' p := fun x h => hp x (h.mono hN)

theorem ite {c : Prop} [Decidable c] {p q : StateM Stage β} (hp : Calms N N p) (hq : Calms N N q) :
    Calms N N (if c then p else q) := by
  split
  · exact hp
  · exact hq

theorem session : Calms N N (Stage.host fuel).session := fun _ h => h

theorem modify {f : Stage → Stage} (hf : ∀ x, (f x).session = x.session) :
    Calms N N ((Stage.host fuel).modifyScripted f) := by
  intro x h
  exact ⟨(hf x).symm ▸ h.sound, (hf x).symm ▸ h.calling, (hf x).symm ▸ h.feed⟩

theorem hold (b : Bool) :
    Calms N N ((Stage.host fuel).modifyScripted ({ · with held := b })) := modify fun _ => rfl

theorem follow (scripts : Scripts SessionCall) :
    Calms N N ((Stage.host fuel).modifyScripted ({ · with scripts })) := modify fun _ => rfl

theorem note (entry : Entry Answer) :
    Calms N N ((Stage.host fuel).modifyScripted (·.note entry)) := modify fun _ => rfl

theorem operate {op : Session → β × Session} (m : Move) (hm : m.isOperation = true)
    (hop : ∀ s, (op s).2 = s.move m) (hf : ∀ s : Session, s.fed m = []) :
    Calms N N ((Stage.host fuel).operate op) := by
  intro x h
  have ho := h.operate m hm hop
  rw [hf, List.length_nil, Nat.add_zero] at ho
  exact ho

/-- An operation that does nothing to a replay session. -/
theorem operate_same {op : Session → β × Session}
    (hop : ∀ (s : Session) e, s.engine = .replay e → (op s).2 = s) :
    Calms N N ((Stage.host fuel).operate op) := by
  intro x h
  obtain ⟨e, hs⟩ := h.sound
  have hsame := hop x.session e hs.engine
  have ho := operate_replay (x := x) (e := e) op (by rw [hsame]; exact hs.engine)
  rw [hsame] at ho
  show Stage.Ready N (x.operate op).2
  rw [ho]
  exact h

/-- An operation that puts something into the feed. -/
theorem feed {op : Session → β × Session} (m : Move) (hm : m.isOperation = true)
    (hop : ∀ s, (op s).2 = s.move m) {n : Nat} (hn : ∀ s : Session, (s.fed m).length ≤ n) :
    Calms N (N + n) ((Stage.host fuel).operate op) := fun x h =>
  (h.operate m hm hop).mono (Nat.add_le_add_left (hn x.session) N)

theorem subscribe (request : Subscription.Request) :
    Calms N N ((Stage.host fuel).operate (Stage.subscribe request)) := by
  cases hr : Subscription.ofRequest request with
  | error cause => exact operate_same fun s e _ => by rw [Stage.subscribe, hr]
  | ok sub =>
    refine operate (.subscribe sub) rfl (fun s => ?_) fun _ => rfl
    rw [Stage.subscribe, hr]
    rfl

theorem forIn {l : List γ} {f : γ → StateM Stage (ForInStep PUnit)} (hf : ∀ c, Calms N N (f c)) :
    Calms N N (ForIn.forIn l ⟨⟩ fun c _ => f c) := by
  induction l with
  | nil => exact pure _
  | cons c l ih =>
    rw [List.forIn_cons]
    refine (hf c).bind fun step => ?_
    cases step with
    | done => exact pure _
    | yield => exact ih

variable (hf : 4 * N + 3 ≤ fuel)
include hf

theorem run : Calms N N ((Stage.host fuel).run fuel) := by
  intro x h
  have hrun : (Stage.host fuel).settle x = (Stage.host fuel).run fuel x := by
    simp [Host.settle, Stage.host, h.calling]
  rw [← hrun]
  exact (settle_ready h hf).2

theorem settle : Calms N N (Stage.host fuel).settle := fun _ h => (settle_ready h hf).2

theorem hand (d : Handing) : Calms N N ((Stage.host fuel).hand d) := by
  refine (operate (.hand d) rfl (fun _ => rfl) fun _ => rfl).bind fun r => ?_
  cases r with
  | noLoop | noSink | ended => exact pure _
  | delivered =>
    refine (run hf).bind fun _ => session.bind fun s => ?_
    split <;> exact pure _

theorem start (scripts : Scripts SessionCall) : Calms N N ((Stage.host fuel).start scripts) := by
  refine (operate (.start scripts.sinks) rfl (fun _ => rfl) fun _ => rfl).bind fun r => ?_
  cases r with
  | error halt => exact pure _
  | ok =>
    refine (follow scripts).bind fun _ => ?_
    refine (operate_same fun s e he => by simp only [he]).bind fun deliveries => ?_
    refine (forIn fun d => ?_).bind fun _ => operate .started rfl (fun _ => rfl) fun _ => rfl
    exact (hand hf d).bind fun answer => (note _).bind fun _ => pure _

theorem wait (timeout : Option Nat) : Calms N N ((Stage.host fuel).wait timeout) := by
  refine session.bind fun s => ?_
  split
  · exact pure _
  · refine ite ?_ (session.bind fun _ => pure _)
    exact (hold false).bind fun _ => (settle hf).bind fun _ => session.bind fun _ => pure _

theorem stop (timeout : Option Nat) : Calms N N ((Stage.host fuel).stop timeout) := by
  refine (operate .stop rfl (fun _ => rfl) fun _ => rfl).bind fun r => ?_
  cases r with
  | error halt => exact pure _
  | ok =>
    refine session.bind fun s => ?_
    dsimp only
    split
    · exact (hold true).bind fun _ => (wait hf timeout).bind fun _ => pure _
    · exact (wait hf timeout).bind fun _ => pure _

theorem release : Calms N N (Stage.host fuel).release :=
  (operate (.release _) rfl (fun _ => rfl) fun _ => rfl).bind fun _ =>
    (hold false).bind fun _ => (settle hf).bind fun _ => pure _

theorem race (scripts : Scripts SessionCall) (n won running : Nat) :
    Calms N N (Stage.race (Stage.host fuel) scripts n won running) := by
  induction n generalizing won running with
  | zero => exact pure _
  | succ n ih =>
    refine (start hf scripts).bind fun r => ?_
    split <;> exact ih _ _

end Calms

/-! ## Steps -/

theorem fed_push_le (event : FeedEvent) (s : Session) : (s.fed (.push event)).length ≤ 1 := by
  simp only [Session.fed]
  split <;> simp

/-- Every record of a buffer has a byte of it at least. -/
theorem fed_pushStream_le (buffer : Bytes) (s : Session) :
    (s.fed (.pushStream buffer)).length ≤ buffer.length := by
  simp only [Session.fed]
  split
  · obtain ⟨left, hv⟩ := Record.split_visited (fun _ _ => true) 0 buffer
    have hle := hv.length_le
    rw [List.length_map, Record.stream_seen]
    rw [Header.width] at hle
    omega
  · exact Nat.zero_le _

/-- Every step keeps a session ready, up to its weight. -/
theorem take_ready {fuel : Nat} (step : Stage.Step) (hf : 4 * (N + step.weight) + 3 ≤ fuel) :
    Calms N (N + step.weight) (Stage.take (Stage.host fuel) step) := by
  have hcalm : ∀ {p : StateM Stage Answer}, Calms (N + step.weight) (N + step.weight) p →
      Calms N (N + step.weight) p := fun hp => hp.later (Nat.le_add_right _ _)
  refine Calms.session.bind fun s => ?_
  split
  · exact hcalm (.pure _)
  · cases step with
    | subscribe request => exact hcalm ((Calms.subscribe request).bind fun _ => .pure _)
    | start scripts => exact hcalm ((Calms.start hf scripts).bind fun _ => .pure _)
    | raceStart threads scripts => exact hcalm (Calms.race hf scripts threads 0 0)
    | stop timeout => exact hcalm ((Calms.stop hf timeout).bind fun _ => .pure _)
    | block timeout => exact hcalm ((Calms.wait hf timeout).bind fun _ => .pure _)
    | reconnect =>
      exact hcalm ((Calms.operate .reconnect rfl (fun _ => rfl) fun _ => rfl).bind fun _ => .pure _)
    | resubscribe =>
      exact hcalm
        ((Calms.operate .resubscribe rfl (fun _ => rfl) fun _ => rfl).bind fun _ => .pure _)
    | resolve | subscriptions | stats | config => exact hcalm (.pure _)
    | drop =>
      refine hcalm ((Calms.release hf).bind fun r => ?_)
      cases r <;> exact .pure _
    | push bytes =>
      exact (Calms.feed (.push _) rfl (fun _ => rfl) (fed_push_le _)).bind fun _ => .pure _
    | pushStream bytes =>
      exact (Calms.feed (.pushStream bytes) rfl (fun _ => rfl) (fed_pushStream_le bytes)).bind
        fun _ => .pure _
    | fail message =>
      exact (Calms.feed (.push _) rfl (fun _ => rfl) (fed_push_le _)).bind fun _ => .pure _
    | close => exact (Calms.feed (.push _) rfl (fun _ => rfl) (fed_push_le _)).bind fun _ => .pure _
    | hand d => exact hcalm ((Calms.hand hf d).bind fun _ => .pure _)
    | inject method failure =>
      exact hcalm (Calms.operate_same fun s e he => by simp [Session.modifyManual, he])
    | onStart deliveries =>
      exact hcalm (Calms.operate_same fun s e he => by simp [Session.modifyManual, he])

/-! ## Steps that leave a session settled -/

/-- Without a callback that runs, a session has a turn to take if its engine has. -/
theorem step_none_iff {s : Session} (he : s.engine = .replay e) (hc : s.calling = none) :
    s.step = none ↔ e.turn.1 = .idle := by
  simp only [Session.step, hc, he]
  cases e.turn.1 <;> simp

/-- What a turn brings does not depend on what the loop is connected to. -/
theorem turn_congr {e' : Replay} (hl : e'.loop = e.loop) (hs : e'.shutdown = e.shutdown)
    (hq : e'.queue = e.queue) : e'.turn.1 = e.turn.1 := by
  cases hloop : e.loop with
  | none => rw [Replay.turn_none (hl.trans hloop), Replay.turn_none hloop]
  | some loop =>
    replace hl := hl.trans hloop
    cases hg : loop.greeted with
    | false => rw [Replay.turn_greet hl hg, Replay.turn_greet hloop hg]
    | true =>
      cases hsd : e.shutdown with
      | true =>
        rw [Replay.turn_shutdown hl hg (hs.trans hsd), Replay.turn_shutdown hloop hg hsd]
      | false =>
        replace hs := hs.trans hsd
        cases hqueue : e.queue with
        | nil => rw [Replay.turn_empty hl hg hs (hq.trans hqueue),
            Replay.turn_empty hloop hg hsd hqueue]
        | cons event queue => rw [Replay.turn_take hl hg hs (hq.trans hqueue),
            Replay.turn_take hloop hg hsd hqueue]

/-- A subscription or a reconnection gives a loop nothing to do. -/
theorem rest_of_unheard {s s' : Session} {m : Move} {t : List Mark} (he : s.engine = .replay e)
    (hr : Rule s e m t s') (hm : m.isUnheard = true) (hc : s.calling = none)
    (hst : s.step = none) : s'.step = none := by
  have hidle := (step_none_iff he hc).mp hst
  have hkept : ∀ {s' : Session} {e' : Replay}, s'.engine = .replay e' → s'.calling = none →
      e'.loop = e.loop → e'.shutdown = e.shutdown → e'.queue = e.queue → s'.step = none :=
    fun he' hc' hl hs hq => (step_none_iff he' hc').mpr ((turn_congr hl hs hq).trans hidle)
  cases hr with
  | still => exact hst
  | subscribe | reconnect => exact hkept rfl hc rfl rfl rfl
  | feed =>
    have hf : s.fed m = [] := by cases m <;> first | rfl | cases hm
    exact hkept rfl hc rfl rfl (by rw [hf, List.append_nil])
  | start | started | stop | release => cases hm
  | greet | shutdown | close | event | record | consult | giveUp => cases hm
  | greeted | offer | proceed | stopped | restart | abandon => cases hm

theorem Stage.Settled.unheard (hs : Sound x.session e) (h : x.Settled) {m : Move}
    (hm : m.isUnheard = true) : Stage.Settled { x with session := x.session.move m } := by
  obtain ⟨hc, hrest⟩ := h
  have hop : m.isOperation = true := by cases m <;> first | rfl | cases hm
  refine ⟨((hs.rule m).calling_of_operation hop).trans hc, hrest.imp id fun hst => ?_⟩
  exact rest_of_unheard hs.engine (hs.rule m) hm hc hst

/-- Whether a step only asks the session for something, and neither starts nor feeds a loop. -/
def Stage.Step.asks : Step → Bool
  | subscribe _ | stop _ | block _ | reconnect | resubscribe | resolve _ | subscriptions | stats
  | config | drop => true
  | _ => false

theorem operate_settled {β : Type} {op : Session → β × Session} (hs : Sound x.session e)
    (h : x.Settled) {m : Move} (hop : ∀ s, (op s).2 = s.move m) (hm : m.isUnheard = true) :
    ((Stage.host fuel).operate op x).2.Settled := by
  have ho : (Stage.host fuel).operate op x = x.operate op := rfl
  rw [ho, operate_move m hop hs]
  exact h.unheard hs hm

theorem subscribe_settled (request : Subscription.Request) (hs : Sound x.session e)
    (h : x.Settled) :
    ((Stage.host fuel).operate (Stage.subscribe request) x).2.Settled := by
  cases hr : Subscription.ofRequest request with
  | error cause =>
    have ho : x.operate (Stage.subscribe request) = (.error (.failed cause), x) := by
      have hop : Stage.subscribe request x.session = (.error (.failed cause), x.session) := by
        rw [Stage.subscribe, hr]
      rw [operate_replay (e := e) _ (by rw [hop]; exact hs.engine), hop]
    show Stage.Settled (x.operate (Stage.subscribe request)).2
    rw [ho]
    exact h
  | ok sub =>
    refine operate_settled (m := .subscribe sub) hs h (fun s => ?_) rfl
    rw [Stage.subscribe, hr]
    rfl

/-- Without a loop there is nothing to do. -/
theorem settled_inactive (hs : Sound x.session e) (hw : x.session.state.isActive = false) :
    x.Settled := by
  obtain ⟨hl, -, hc⟩ := hs.inactive hw
  exact ⟨hc, .inr ((step_none_iff hs.engine hc).mpr (by rw [Replay.turn_none hl]))⟩

/-- A wait ends with a settled session, unless there is no time for it. -/
theorem wait_settled (h : x.Ready N) (hf : 4 * N + 3 ≤ fuel) {timeout : Option Nat}
    (hset : timeout = some 0 → x.Settled) : ((Stage.host fuel).wait timeout x).2.Settled := by
  obtain ⟨e, hs⟩ := h.sound
  have hview : (Stage.host fuel).view x = x := rfl
  rw [Host.wait_run, hview]
  cases ha : x.session.lifecycle.isActive with
  | false =>
    rw [Lifecycle.atOnce_inactive ha]
    exact settled_inactive hs ha
  | true =>
    have hnone : x.session.lifecycle.atOnce (Stage.host fuel).delivering = none :=
      Lifecycle.atOnce_active ha false
    rw [hnone]
    by_cases ht : timeout = some 0
    · simpa [ht] using hset ht
    · have hwake : Stage.Ready N { x with held := false } := ⟨h.sound, h.calling, h.feed⟩
      simpa [ht, Stage.host] using (settle_ready hwake hf).1

theorem stop_settled (h : x.Ready N) (hf : 4 * N + 3 ≤ fuel) (timeout : Option Nat) :
    ((Stage.host fuel).stop timeout x).2.Settled := by
  obtain ⟨e, hs⟩ := h.sound
  obtain ⟨y, hy, hready⟩ :
      ∃ y : Stage, x.operate (·.requestStop) = (.ok (), y) ∧ y.Ready N := by
    refine ⟨_, ?_, h.move (m := .stop) rfl⟩
    have ho : x.operate (·.requestStop) = _ := operate_move .stop (fun _ => rfl) hs
    rw [hs.requestStop_eq] at ho
    exact ho
  obtain ⟨e', hs'⟩ := hready.sound
  by_cases ht : timeout = some 0
  · cases ha : y.session.lifecycle.isActive with
    | true =>
      -- the loop is held
      have hheld : Stage.Settled { y with held := true } := ⟨hready.calling, .inl rfl⟩
      simpa [Host.stop_run, Host.wait_run, Stage.host, hy, ht, ha, hs'.engine, Engine.isReplay,
        Lifecycle.atOnce_active] using hheld
    | false =>
      simpa [Host.stop_run, Host.wait_run, Stage.host, hy, ht, ha, Lifecycle.atOnce_inactive]
        using settled_inactive hs' ha
  · have hwait := wait_settled hready hf fun h => absurd h ht
    simpa [Host.stop, Stage.host, hy, ht] using hwait

theorem release_settled (h : x.Ready N) (hf : 4 * N + 3 ≤ fuel) :
    Stage.Settled ((Stage.host fuel).release x).2 := by
  have hready := h.operate (.release false) rfl fun _ => rfl
  have hwake : Stage.Ready N { (x.operate (·.release false)).2 with held := false } :=
    ⟨hready.sound, hready.calling, hready.feed⟩
  exact (settle_ready hwake hf).1

/-- A step that only asks leaves a session settled, so that nothing is left to be done. -/
theorem take_settled {step : Stage.Step} (ha : step.asks = true) (h : x.Ready N)
    (hset : x.Settled) (hf : 4 * N + 3 ≤ fuel) :
    Stage.Settled (Stage.take (Stage.host fuel) step x).2 := by
  obtain ⟨e, hs⟩ := h.sound
  unfold Stage.take
  rw [Host.bind_run]
  split
  · exact hset
  · cases step with
    | subscribe request => exact subscribe_settled request hs hset
    | stop timeout => exact stop_settled h hf timeout
    | block timeout => exact wait_settled h hf fun _ => hset
    | reconnect => exact operate_settled (m := .reconnect) hs hset (fun _ => rfl) rfl
    | resubscribe => exact operate_settled (m := .resubscribe) hs hset (fun _ => rfl) rfl
    | resolve | subscriptions | stats | config => exact hset
    | drop =>
      have hrel := release_settled h hf
      simp only [Host.bind_run, Host.session_run]
      generalize (Stage.host fuel).release _ = p at hrel ⊢
      rcases p with ⟨_ | _, y⟩ <;> exact hrel
    | start | raceStart | push | pushStream | fail | close | hand | inject | onStart => cases ha

end Rehearsal

end MarketFeed
