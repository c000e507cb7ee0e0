import MarketFeed.Proofs.Rehearsal.Host
import MarketFeed.Proofs.Session.Order

set_option autoImplicit false

/-!
# Rehearsals are runs

Whatever the steps and the scripts of a rehearsal over a replay session, its session goes through a
run of moves, and the callbacks in its log are those that reply in this run (`rehearsal_is_run`). So
what holds of every run holds of every rehearsal.
-/

namespace MarketFeed

/-! ## Operations -/

/-- Whether a move is neither a turn of the loop nor the return of a callback. -/
def Move.isOperation : Move → Bool
  | .turn | .reply _ => false
  | _ => true

/-- Whether a move is one that a callback can ask for. -/
def Move.isRequest : Move → Bool
  | .start _ | .stop | .subscribe _ | .reconnect | .resubscribe | .release _ => true
  | _ => false

theorem Move.isOperation_of_request {m : Move} (h : m.isRequest = true) : m.isOperation = true := by
  cases m <;> first | rfl | cases h

/-- A move other than a reply is the return of no callback. -/
theorem Rule.replies_nil {s s' : Session} {e : Replay} {m : Move} {t : List Mark}
    (hr : Rule s e m t s') (hm : m.isReply = false) : replies t = [] := by
  cases hr with
  | still | subscribe | reconnect | start | started | stop | release => rfl
  | feed => exact replies_pushed _
  | greet | shutdown | close | event | consult | giveUp => first | rfl | exact replies_called _
  | record => exact replies_called _
  | greeted | offer | proceed | stopped | restart | abandon => cases hm

/-- An operation leaves the callback that runs as it is. -/
theorem Rule.calling_of_operation {s s' : Session} {e : Replay} {m : Move} {t : List Mark}
    (hr : Rule s e m t s') (hm : m.isOperation = true) : s'.calling = s.calling := by
  cases hr with
  | still | subscribe | reconnect | start | started | stop | release | feed => rfl
  | greet | shutdown | close | event | record | consult | giveUp => cases hm
  | greeted | offer | proceed | stopped | restart | abandon => cases hm

theorem Move.isReply_of_operation {m : Move} (hm : m.isOperation = true) : m.isReply = false := by
  cases m with
  | reply => cases hm
  | _ => rfl

/-- A reply is the return of the callback that runs. -/
theorem Session.replies_reply {s : Session} {c : Call} (hc : s.calling = some c) (r : Reply) :
    replies (s.marks (.reply r)) = [c.timeless] := by
  have hcalled (cs : List Call) : replies (cs.map (.called ·.timeless)) = [] := by
    simp [replies, Mark.replied?]
  have he : ∀ b : Bool, replies (if b then [.ended] else []) = [] := by
    intro b
    cases b <;> rfl
  rw [Sound.marks_reply hc]
  show c.timeless :: replies (_ ++ _) = [c.timeless]
  rw [replies_append, hcalled, he]
  rfl

/-- Operations let the callback that runs go on, and none returns. -/
theorem Sound.operations {s : Session} {e : Replay} (hs : Sound s e) {ms : List Move}
    (hm : ∀ m ∈ ms, m.isOperation = true) :
    (s.after ms).calling = s.calling ∧ replies (s.trace ms) = [] := by
  induction ms generalizing s e with
  | nil => exact ⟨rfl, rfl⟩
  | cons m ms ih =>
    have hop : m.isOperation = true := hm m (List.mem_cons_self ..)
    obtain ⟨e', hs'⟩ := hs.move m
    obtain ⟨hc, hr⟩ := ih hs' fun n hn => hm n (List.mem_cons_of_mem _ hn)
    have hc' := (hs.rule m).calling_of_operation hop
    have hr' := (hs.rule m).replies_nil (Move.isReply_of_operation hop)
    refine ⟨hc.trans hc', ?_⟩
    rw [Session.trace_cons, replies_append, hr, hr']
    rfl

/-- What an operation does to sound sessions is a run of moves that are operations. -/
def Session.Operates {β : Type} (op : Session → β × Session) : Prop :=
  ∀ s e, Sound s e → ∃ ms : List Move, (∀ m ∈ ms, m.isOperation = true) ∧ (op s).2 = s.after ms

namespace Session.Operates

variable {β : Type} {op : Session → β × Session}

theorem of_same (h : ∀ s e, Sound s e → (op s).2 = s) : Operates op := by
  intro s e hs
  exact ⟨[], by simp, h s e hs⟩

theorem of_move (m : Move) (hm : m.isOperation = true) (h : ∀ s, (op s).2 = s.move m) :
    Operates op := by
  intro s e _
  exact ⟨[m], by simpa using hm, h s⟩

theorem subscribe (request : Subscription.Request) :
    Operates (Rehearsal.Stage.subscribe request) := by
  intro s e _
  unfold Rehearsal.Stage.subscribe
  cases Subscription.ofRequest request with
  | error cause => exact ⟨[], by simp, rfl⟩
  | ok sub => exact ⟨[.subscribe sub], by simp [Move.isOperation], rfl⟩

end Session.Operates

namespace Rehearsal

/-- The calls of callbacks that are noted in a log. -/
def logged (log : List (Entry Answer)) : List Call :=
  log.filterMap fun
    | .callback c _ _ => some c
    | _ => none

theorem logged_append (l l' : List (Entry Answer)) : logged (l ++ l') = logged l ++ logged l' :=
  List.filterMap_append

/-- The calls that are noted in a log, without the times of metadata. -/
def timelessIn (log : List (Entry Answer)) : List Call := (logged log).map Call.timeless

theorem timelessIn_append (l l' : List (Entry Answer)) :
    timelessIn (l ++ l') = timelessIn l ++ timelessIn l' := by
  rw [timelessIn, logged_append, List.map_append]
  rfl

/-- An operation notes nothing. -/
theorem operate_operates {β : Type} {op : Session → β × Session} (hop : Session.Operates op)
    {x : Stage} {e : Replay} (hs : Sound x.session e) :
    ∃ ms : List Move, (∀ m ∈ ms, m.isOperation = true) ∧
      (x.operate op).2.session = x.session.after ms ∧ (x.operate op).2.log = x.log := by
  obtain ⟨ms, hm, hop⟩ := hop x.session e hs
  obtain ⟨e', hs'⟩ := hs.after ms
  have ho := operate_replay op (x := x) (e := e') (by rw [hop]; exact hs'.engine)
  refine ⟨ms, hm, ?_, ?_⟩
  · rw [ho]
    exact hop
  · rw [ho]

/-! ## Computations that keep to runs -/

/-- What a computation does to a stage over a replay session is a run of the session, and the calls
that it notes are those that are answered in the run. -/
def KeepsToRuns {β : Type} (p : StateM Stage β) : Prop :=
  ∀ x e, Sound x.session e → ∃ ms, (p x).2.session = x.session.after ms ∧
    timelessIn (p x).2.log = timelessIn x.log ++ replies (x.session.trace ms)

namespace KeepsToRuns

variable {β γ : Type}

/-- A computation that changes neither session nor log. -/
theorem of_same {p : StateM Stage β}
    (h : ∀ x, (p x).2.session = x.session ∧ timelessIn (p x).2.log = timelessIn x.log) :
    KeepsToRuns p := by
  intro x e _
  exact ⟨[], (h x).1, by simp [h x, replies]⟩

theorem pure (b : β) : KeepsToRuns (Pure.pure b : StateM Stage β) :=
  of_same fun _ => ⟨rfl, rfl⟩

theorem bind {p : StateM Stage β} {k : β → StateM Stage γ} (hp : KeepsToRuns p)
    (hk : ∀ b, KeepsToRuns (k b)) : KeepsToRuns (p >>= k) := by
  intro x e hs
  obtain ⟨ms, hx, hlog⟩ := hp x e hs
  obtain ⟨e', hs'⟩ := hs.after ms
  rw [← hx] at hs'
  obtain ⟨ns, hx', hlog'⟩ := hk (p x).1 (p x).2 e' hs'
  refine ⟨ms ++ ns, ?_, ?_⟩
  · rw [Session.after_append, ← hx]
    exact hx'
  · rw [Session.trace_append, replies_append, ← List.append_assoc, ← hlog, ← hx]
    exact hlog'

theorem ite {c : Prop} [Decidable c] {p q : StateM Stage β} (hp : KeepsToRuns p)
    (hq : KeepsToRuns q) : KeepsToRuns (if c then p else q) := by
  split
  · exact hp
  · exact hq

variable {fuel : Nat}

theorem session : KeepsToRuns (Stage.host fuel).session := of_same fun _ => ⟨rfl, rfl⟩

theorem modifyScripted {f : Stage → Stage}
    (h : ∀ x, (f x).session = x.session ∧ timelessIn (f x).log = timelessIn x.log) :
    KeepsToRuns ((Stage.host fuel).modifyScripted f) :=
  of_same h

theorem hold (b : Bool) :
    KeepsToRuns ((Stage.host fuel).modifyScripted ({ · with held := b })) :=
  modifyScripted fun _ => ⟨rfl, rfl⟩

theorem follow (scripts : Scripts SessionCall) :
    KeepsToRuns ((Stage.host fuel).modifyScripted ({ · with scripts })) :=
  modifyScripted fun _ => ⟨rfl, rfl⟩

theorem note {entry : Entry Answer} (h : timelessIn [entry] = []) :
    KeepsToRuns ((Stage.host fuel).modifyScripted (·.note entry)) :=
  modifyScripted fun x => ⟨rfl, by simp [Scripted.note, timelessIn_append, h]⟩

theorem operate {op : Session → β × Session} (hop : Session.Operates op) :
    KeepsToRuns ((Stage.host fuel).operate op) := by
  intro x e hs
  obtain ⟨ms, hm, hx, hlog⟩ := operate_operates hop hs
  obtain ⟨-, hr⟩ := hs.operations hm
  refine ⟨ms, hx, ?_⟩
  show timelessIn (x.operate op).2.log = _
  rw [hlog, hr, List.append_nil]

end KeepsToRuns

/-! ## Callbacks -/

/-- An operation that is one move, on a replay session. -/
theorem operate_move {κ α β : Type} {op : Session → β × Session} (m : Move)
    (hm : ∀ s, (op s).2 = s.move m) {x : Scripted κ α} {e : Replay} (hs : Sound x.session e) :
    x.operate op = ((op x.session).1, { x with session := x.session.move m }) := by
  obtain ⟨e', hs'⟩ := hs.move m
  rw [operate_replay op (e := e') (by rw [hm]; exact hs'.engine), hm]

/-- A call of the session by one of its callbacks changes nothing or is one move that is asked
for. -/
theorem perform_asks (call : SessionCall) {x : Stage} {e : Replay} (hs : Sound x.session e) :
    (Stage.perform call x).2 = x ∨ ∃ m : Move, m.isRequest = true ∧
      (Stage.perform call x).2.session = x.session.move m ∧ (Stage.perform call x).2.log = x.log := by
  have hmoved (op : Session → Except Halt Unit × Session) (m : Move)
      (hop : ∀ s, (op s).2 = s.move m) :
      (x.operate op).2.session = x.session.move m ∧ (x.operate op).2.log = x.log := by
    rw [operate_move m hop hs]
    exact ⟨rfl, rfl⟩
  cases hrel : x.session.released with
  | true => exact .inl (by rw [Stage.perform_gone hrel])
  | false =>
    rw [Stage.perform_there hrel]
    cases call with
    | stop =>
      have h := hmoved (·.requestStop) .stop fun _ => rfl
      simp only
      generalize x.operate (·.requestStop) = p at h ⊢
      obtain ⟨_ | _, y⟩ := p <;> exact .inr ⟨.stop, rfl, h⟩
    | block | resolve | stats => exact .inl rfl
    | start =>
      let sinks : Sinks := ⟨true, false, false, false⟩
      exact .inr ⟨.start sinks, rfl, hmoved (·.beginStart sinks) _ fun _ => rfl⟩
    | reconnect => exact .inr ⟨.reconnect, rfl, hmoved (·.reconnect) _ fun _ => rfl⟩
    | resubscribe => exact .inr ⟨.resubscribe, rfl, hmoved (·.resubscribe) _ fun _ => rfl⟩
    | subscribe request =>
      cases hr : Subscription.ofRequest request with
      | error cause =>
        have hsame : (Stage.subscribe request x.session).2 = x.session := by
          rw [Stage.subscribe, hr]
        have ho := operate_replay (x := x) (e := e) (Stage.subscribe request)
          (by rw [hsame]; exact hs.engine)
        rw [hsame] at ho
        exact .inl (congrArg Prod.snd ho)
      | ok sub =>
        refine .inr ⟨.subscribe sub, rfl, hmoved (Stage.subscribe request) _ fun s => ?_⟩
        rw [Stage.subscribe, hr]
        rfl
    | drop =>
      have h := hmoved (·.release true) (.release true) fun _ => rfl
      simp only
      generalize x.operate (·.release true) = p at h ⊢
      obtain ⟨_ | _, y⟩ := p <;> exact .inr ⟨.release true, rfl, h⟩

/-- So it is an operation at most. -/
theorem perform_operates (call : SessionCall) {x : Stage} {e : Replay} (hs : Sound x.session e) :
    ∃ ms : List Move, (∀ m ∈ ms, m.isOperation = true) ∧
      (Stage.perform call x).2.session = x.session.after ms ∧
      (Stage.perform call x).2.log = x.log := by
  rcases perform_asks call hs with h | ⟨m, hm, h⟩
  · exact ⟨[], by simp, by rw [h]; rfl, by rw [h]⟩
  · refine ⟨[m], ?_, h⟩
    rw [List.forall_mem_singleton]
    exact Move.isOperation_of_request hm

/-- A callback notes its call once, and goes on until it replies. -/
theorem answer_noted (fuel : Nat) {x : Stage} {e : Replay} (hs : Sound x.session e) (c : Call) :
    ∃ ms : List Move, (∀ m ∈ ms, m.isOperation = true) ∧
      ((Stage.host fuel).answer c x).2.session = x.session.after ms ∧
      timelessIn ((Stage.host fuel).answer c x).2.log = timelessIn x.log ++ [c.timeless] := by
  cases hcall : (x.scripts.next c).1.call with
  | none =>
    refine ⟨[], by simp, ?_, ?_⟩
    · simp [Host.answer, Stage.host, hcall, Scripted.note]
    · simp [Host.answer, Stage.host, hcall, Scripted.note, timelessIn, logged]
  | some call =>
    obtain ⟨ms, hm, hx, hlog⟩ :=
      perform_operates call (x := { x with scripts := (x.scripts.next c).2 }) hs
    refine ⟨ms, hm, ?_, ?_⟩
    · simpa [Host.answer, Stage.host, hcall, Scripted.note] using hx
    · simp [Host.answer, Stage.host, hcall, Scripted.note, timelessIn, logged]
      rw [hlog]

namespace KeepsToRuns

variable {γ : Type} {fuel : Nat}

/-- The loop takes turns and the callbacks reply. -/
theorem run (n : Nat) : KeepsToRuns ((Stage.host fuel).run n) := by
  induction n with
  | zero => exact pure ()
  | succ n ih =>
    intro x e hs
    cases hc : x.session.calling with
    | some c =>
      -- the callback goes on, then it replies
      obtain ⟨ms, hm, hx, hlog⟩ := answer_noted fuel hs c
      obtain ⟨e₁, hs₁⟩ := hs.after ms
      obtain ⟨hc₁, hr₁⟩ := hs.operations hm
      have hrun := run_calling fuel hc n
      generalize (Stage.host fuel).answer c x = p at hrun hx hlog
      obtain ⟨r, y⟩ := p
      have hs₂ := hs₁.move (.reply r)
      rw [← hx] at hs₂
      obtain ⟨e₂, hs₂⟩ := hs₂
      obtain ⟨ns, hx', hlog'⟩ := ih { y with session := y.session.reply r } e₂ hs₂
      refine ⟨ms ++ .reply r :: ns, ?_, ?_⟩
      · rw [hrun, hx', Session.after_append, ← hx]
        rfl
      · have hr₂ := Session.replies_reply (hx ▸ hc₁.trans hc) r
        rw [hrun, hlog', Session.trace_append, replies_append, Session.trace_cons, replies_append,
          hr₁, ← hx, hr₂, List.nil_append, ← List.append_assoc, ← hlog]
        rfl
    | none =>
      have hstay : (Stage.host fuel).run (n + 1) x = ((), x) →
          ∃ ms, ((Stage.host fuel).run (n + 1) x).2.session = x.session.after ms ∧
            timelessIn ((Stage.host fuel).run (n + 1) x).2.log =
              timelessIn x.log ++ replies (x.session.trace ms) := by
        intro hrun
        exact ⟨[], by rw [hrun]; rfl, by rw [hrun]; simp [replies]⟩
      cases hst : x.session.step with
      | none => exact hstay (run_still fuel hc hst (n + 1))
      | some s' =>
        cases hh : x.held with
        | true => exact hstay (run_held fuel hc hh (n + 1))
        | false =>
          have hm : x.session.move .turn = s' := by simp [Session.move, hst]
          have hs' := hs.move .turn
          rw [hm] at hs'
          obtain ⟨e', hs'⟩ := hs'
          obtain ⟨ns, hx, hlog⟩ := ih { x with session := s' } e' hs'
          have hr := (hs.rule .turn).replies_nil rfl
          rw [run_turn fuel hc hh hst]
          refine ⟨.turn :: ns, ?_, ?_⟩
          · rw [hx, Session.after_cons, hm]
          · rw [hlog, Session.trace_cons, replies_append, hr, hm, List.nil_append]

theorem settle : KeepsToRuns (Stage.host fuel).settle :=
  session.bind fun _ => ite (run _) (pure _)

theorem hand (d : Handing) : KeepsToRuns ((Stage.host fuel).hand d) := by
  refine (operate (.of_move (.hand d) rfl fun _ => rfl)).bind fun r => ?_
  cases r with
  | noLoop | noSink | ended => exact pure _
  | delivered =>
    refine (run _).bind fun _ => session.bind fun s => ?_
    split <;> exact pure _

theorem forIn {l : List γ} {f : γ → StateM Stage (ForInStep PUnit)}
    (hf : ∀ c, KeepsToRuns (f c)) : KeepsToRuns (ForIn.forIn l ⟨⟩ fun c _ => f c) := by
  induction l with
  | nil => exact pure _
  | cons c l ih =>
    rw [List.forIn_cons]
    refine (hf c).bind fun step => ?_
    cases step with
    | done => exact pure _
    | yield => exact ih

theorem start (scripts : Scripts SessionCall) : KeepsToRuns ((Stage.host fuel).start scripts) := by
  refine (operate (.of_move (.start scripts.sinks) rfl fun _ => rfl)).bind fun r => ?_
  cases r with
  | error halt => exact pure _
  | ok =>
    refine (follow scripts).bind fun _ => ?_
    refine (operate (.of_same fun s e hs => by simp only [hs.engine])).bind fun deliveries => ?_
    refine (forIn fun d => ?_).bind fun _ => operate (.of_move .started rfl fun _ => rfl)
    exact (hand d).bind fun answer => (note rfl).bind fun _ => pure _

theorem wait (timeout : Option Nat) : KeepsToRuns ((Stage.host fuel).wait timeout) := by
  refine session.bind fun s => ?_
  split
  · exact pure _
  · split
    · exact (hold false).bind fun _ => settle.bind fun _ => session.bind fun _ => pure _
    · exact session.bind fun _ => pure _

theorem stop (timeout : Option Nat) : KeepsToRuns ((Stage.host fuel).stop timeout) := by
  refine (operate (.of_move .stop rfl fun _ => rfl)).bind fun r => ?_
  cases r with
  | error halt => exact pure _
  | ok =>
    refine session.bind fun s => ?_
    dsimp only
    split
    · exact (hold true).bind fun _ => (wait timeout).bind fun _ => pure _
    · exact (wait timeout).bind fun _ => pure _

theorem release : KeepsToRuns (Stage.host fuel).release := by
  refine (operate (.of_move (.release _) rfl fun _ => rfl)).bind fun r => ?_
  exact (hold false).bind fun _ => settle.bind fun _ => pure _

theorem race (scripts : Scripts SessionCall) (n won running : Nat) :
    KeepsToRuns (Stage.race (Stage.host fuel) scripts n won running) := by
  induction n generalizing won running with
  | zero => exact pure _
  | succ n ih =>
    refine (start scripts).bind fun r => ?_
    split <;> exact ih _ _

theorem take (step : Stage.Step) : KeepsToRuns (Stage.take (Stage.host fuel) step) := by
  refine session.bind fun s => ?_
  split
  · exact pure _
  · cases step with
    | subscribe request => exact (operate (.subscribe request)).bind fun _ => pure _
    | start scripts => exact (start scripts).bind fun _ => pure _
    | raceStart threads scripts => exact race scripts threads 0 0
    | stop timeout => exact (stop timeout).bind fun _ => pure _
    | block timeout => exact (wait timeout).bind fun _ => pure _
    | reconnect => exact (operate (.of_move .reconnect rfl fun _ => rfl)).bind fun _ => pure _
    | resubscribe => exact (operate (.of_move .resubscribe rfl fun _ => rfl)).bind fun _ => pure _
    | resolve | subscriptions | stats | config => exact pure _
    | drop =>
      refine release.bind fun r => ?_
      cases r <;> exact pure _
    | push bytes => exact (operate (.of_move (.push _) rfl fun _ => rfl)).bind fun _ => pure _
    | pushStream bytes =>
      exact (operate (.of_move (.pushStream bytes) rfl fun _ => rfl)).bind fun _ => pure _
    | fail message => exact (operate (.of_move (.push _) rfl fun _ => rfl)).bind fun _ => pure _
    | close => exact (operate (.of_move (.push .close) rfl fun _ => rfl)).bind fun _ => pure _
    | hand d => exact (hand d).bind fun _ => pure _
    | inject method failure =>
      exact operate (.of_move (.inject method failure) rfl fun _ => rfl)
    | onStart deliveries =>
      exact operate (.of_same fun s e hs => by simp [Session.modifyManual, hs.engine])

end KeepsToRuns

/-! ## Rehearsals -/

/-- What is seen of a step: the state at the end of its run, and the calls answered in it. -/
theorem see_run {x : Stage} {e : Replay} (fuel : Nat) (hs : Sound x.session e)
    (hx : x.log = []) (step : Stage.Step) :
    let r := Stage.see (Stage.host fuel) step x
    ∃ ms, r.2.session = x.session.after ms ∧ r.2.log = [] ∧
      r.1.state = (if r.2.session.released then none else some r.2.session.state) ∧
      timelessIn r.1.log = replies (x.session.trace ms) := by
  obtain ⟨ms, hms, hlog⟩ :=
    ((KeepsToRuns.take step).bind fun _ => @KeepsToRuns.settle fuel) x e hs
  refine ⟨ms, hms, rfl, rfl, ?_⟩
  rw [hx] at hlog
  exact hlog

/-- The session of a rehearsal goes through a run, and the calls in the logs of the steps are those
answered in the run. -/
theorem steps_run {x : Stage} {e : Replay} (fuel : Nat) (hs : Sound x.session e)
    (hx : x.log = []) (steps : List Stage.Step) :
    let r := steps.mapM (Stage.see (Stage.host fuel)) x
    ∃ ms, r.2.session = x.session.after ms ∧ r.2.log = [] ∧
      r.1.flatMap (timelessIn ·.log) = replies (x.session.trace ms) := by
  induction steps generalizing x e with
  | nil => exact ⟨[], rfl, hx, rfl⟩
  | cons step steps ih =>
    obtain ⟨ms, hms, hnil, -, hlog⟩ := see_run fuel hs hx step
    obtain ⟨e', hs'⟩ := hs.after ms
    rw [← hms] at hs'
    obtain ⟨ns, hns, hnil', hlog'⟩ := ih hs' hnil
    rw [List.mapM_cons]
    refine ⟨ms ++ ns, ?_, hnil', ?_⟩
    · rw [Session.after_append, ← hms]
      exact hns
    · rw [Session.trace_append, replies_append, ← hms, ← hlog, ← hlog']
      rfl

theorem openReplay_eq {config : Config} {authorized : Option (List String)} {clock : List UInt64}
    {s : Session} (ho : Stage.openReplay config authorized clock = .ok s) :
    s = .new config (.replay (.new config clock)) := Connector.open_ok ho

/-- Whatever the steps and the scripts of a rehearsal over a replay session, the callbacks in its
logs are, but for times, those that reply in a run of the session, in their order: first in the
steps, then in the drop at the end. What is seen of the session before this drop is the session after
the steps. -/
theorem rehearsal_is_run {config : Config} {authorized : Option (List String)}
    {clock : List UInt64} {s : Session}
    (ho : Stage.openReplay config authorized clock = .ok s) (steps : List Stage.Step) :
    let p := Stage.play s steps
    ∃ ms ns, let s' := s.after ms
      p.steps.flatMap (timelessIn ·.log) = replies (s.trace ms) ∧
      timelessIn p.log = replies (s'.trace ns) ∧
      p.final = (if s'.released then none
        else some ⟨s'.stats, s'.lifecycle.isActive, s'.subscriptions.length, s'.symbols.size⟩) := by
  have hs : Sound s (.new config clock) := openReplay_eq ho ▸ Sound.new config clock
  unfold Stage.play
  generalize 8 * steps.foldl (fun n s => n + s.weight) 8 = fuel
  obtain ⟨ms, hms, hnil, hlog⟩ := steps_run (x := { session := s }) fuel hs rfl steps
  obtain ⟨e', hs'⟩ := hs.after ms
  simp only [StateT.run]
  generalize steps.mapM (Stage.see (Stage.host fuel)) { session := s } = r at hms hnil hlog ⊢
  obtain ⟨seen, x⟩ := r
  cases hrel : x.session.released with
  | true =>
    refine ⟨ms, [], ?_⟩
    simp only [hrel, if_true, ← hms]
    exact ⟨hlog, rfl, trivial⟩
  | false =>
    obtain ⟨ns, -, hdrop⟩ := @KeepsToRuns.release fuel x e' (hms ▸ hs')
    rw [hnil] at hdrop
    refine ⟨ms, ns, ?_⟩
    simp only [hrel, Bool.false_eq_true, if_false, ← hms]
    exact ⟨hlog, hdrop, rfl⟩

end Rehearsal

end MarketFeed
