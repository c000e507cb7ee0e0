import MarketFeed.Proofs.Rehearsal.Mirror

set_option autoImplicit false

/-!
# Two stages side by side

`Paired V veil tame` says that two stages that are alike (`V`) have the same session, but that one
of them may be in disguise, and that they stay so whatever happens to both. The callbacks of the
second follow the scripts of the first as `tame` makes them. Then whatever steps the stages take,
nothing tells them apart but answers that show what is disguised, and those are the same behind
`veil` (`Paired.take`).
-/

namespace MarketFeed.Rehearsal

/-! ## Calls of the callbacks -/

/-- A start leaves the callback that runs as it is, whatever becomes of it. -/
theorem beginStart_calling (s : Session) (k : Sinks) : (s.beginStart k).2.calling = s.calling := by
  rcases s.beginStart_claims k with ⟨-, h⟩ | ⟨-, h⟩
  · rw [h]
  · exact h.calling

theorem subscribe_calling (request : Subscription.Request) (s : Session) :
    (Stage.subscribe request s).2.calling = s.calling := by
  unfold Stage.subscribe
  split
  · rfl
  · exact (Session.Keeps.subscribe s _).calling

/-! ## Stages that are alike -/

/-- When two stages stay alike. -/
structure Paired (V : Phase → Stage → Stage → Prop) (veil : Answer → Answer)
    (tame : Scripts SessionCall → Scripts SessionCall) : Prop where
  session : ∀ {p x y}, V p x y → ∃ d : Disguise, x.session = y.session.disguise d ∧
    (∀ s, veil (.stats (d.stats s)) = veil (.stats s)) ∧
    ∀ c, veil (.config (d.config c)) = veil (.config c)
  held : ∀ {x y}, V .rest x y → x.held = y.held
  operate : ∀ {x y} {β : Type} {op : Session → β × Session}, V .rest x y → Session.Ordinary op →
    V .rest (x.operate op).2 (y.operate op).2
  /-- An operation of a callback, which leaves it running. -/
  within : ∀ {x y c r r'} {β : Type} {op : Session → β × Session}, V (.within c r r') x y →
    Session.Ordinary op → (∀ s, (op s).2.calling = s.calling) →
    V (.within c r r') (x.operate op).2 (y.operate op).2
  step : ∀ {x y}, V .rest x y →
    Option.Rel (fun s s' => V .rest { x with session := s } { y with session := s' })
      x.session.step y.session.step
  draw : ∀ {x y c}, V .rest x y → x.session.calling = some c →
    V (.within c (x.scripts.next c).1.reply (y.scripts.next c).1.reply)
      { x with scripts := (x.scripts.next c).2 } { y with scripts := (y.scripts.next c).2 } ∧
    (x.scripts.next c).1.call = (y.scripts.next c).1.call
  note : ∀ {x y c r r' a a'} state, V (.within c r r') x y → a'.map veil = a.map veil →
    V (.noted c r r') (x.note (.callback c state a)) (y.note (.callback c state a'))
  reply : ∀ {x y c r r'}, V (.noted c r r') x y →
    V .rest { x with session := x.session.reply r } { y with session := y.session.reply r' }
  noteStart : ∀ {x y} name answer, V .rest x y →
    V .rest (x.note (.onStart name answer)) (y.note (.onStart name answer))
  hold : ∀ {p x y} b, V p x y → V p { x with held := b } { y with held := b }
  follow : ∀ {x y} scripts, V .rest x y →
    V .rest { x with scripts } { y with scripts := tame scripts }
  sinks : ∀ scripts, (tame scripts).sinks = scripts.sinks

/-- The step with its scripts as `tame` makes them. -/
def Stage.Step.map (tame : Scripts SessionCall → Scripts SessionCall) : Step → Step
  | start scripts => start (tame scripts)
  | raceStart threads scripts => raceStart threads (tame scripts)
  | step => step

namespace Paired

variable {V : Phase → Stage → Stage → Prop} {veil : Answer → Answer}
  {tame : Scripts SessionCall → Scripts SessionCall} {x y : Stage} {p : Phase} {β : Type}

theorem lifecycle (h : Paired V veil tame) (hV : V p x y) :
    x.session.lifecycle = y.session.lifecycle := by
  obtain ⟨d, hd, -⟩ := h.session hV
  rw [hd]
  rfl

theorem released (h : Paired V veil tame) (hV : V p x y) :
    x.session.released = y.session.released := by
  obtain ⟨d, hd, -⟩ := h.session hV
  rw [hd]
  rfl

theorem resolve (h : Paired V veil tame) (hV : V p x y) (id : UInt32) :
    x.session.resolve id = y.session.resolve id := by
  obtain ⟨d, hd, -⟩ := h.session hV
  rw [hd]
  rfl

theorem answer (h : Paired V veil tame) (hV : V p x y) {op : Session → β × Session}
    (hop : Session.Ordinary op) : (op x.session).1 = (op y.session).1 := by
  obtain ⟨d, hd, -⟩ := h.session hV
  rw [hd, hop.oblivious]

theorem corresponds (h : Paired V veil tame) {op : Session → β × Session}
    (hop : Session.Ordinary op) (hr : ∀ s, (op s).2.released = s.released) :
    Corresponds V Eq op op :=
  fun _ _ hV => ⟨h.operate hV hop, h.answer hV hop, hr _⟩

theorem likeness (h : Paired V veil tame) :
    Likeness V Eq (fun a a' => a'.map veil = a.map veil) where
  calling := by
    intro x y hV
    obtain ⟨d, hd, -⟩ := h.session hV
    rw [hd]
    rfl
  lifecycle := h.lifecycle
  outcome := by
    intro x y hV
    obtain ⟨d, hd, -⟩ := h.session hV
    rw [hd, Session.disguise_engine]
    cases y.session.engine <;> rfl
  released := h.released
  held := h.held
  step hV _ _ := h.step hV
  draw := h.draw
  note := h.note
  reply := h.reply
  noteStart := h.noteStart
  wake := h.hold false
  start k := h.corresponds (.beginStart k) fun s => s.beginStart_released k
  deliveries := h.corresponds ordinary_deliveries deliveries_released
  hand d := h.corresponds (.hand d) fun s => s.hand_released d
  complete := h.corresponds .completeStart fun s => s.completeStart_released
  stop := h.corresponds .requestStop fun s => s.requestStop_released

/-- An operation of a callback that gives an answer of its own if it succeeds. -/
theorem ended (h : Paired V veil tame) {c : Call} {r r' : Reply}
    {op : Session → Except Halt Unit × Session} {f : Stage → Answer}
    (hV : V (.within c r r') x y) (hop : Session.Ordinary op)
    (hk : ∀ s, (op s).2.calling = s.calling)
    (hf : ∀ {x y}, V (.within c r r') x y → veil (f y) = veil (f x)) :
    let finish (x : Stage) : Answer × Stage :=
      match x.operate op with
      | (.ok (), x) => (f x, x)
      | (.error halt, x) => (.ofHalt halt, x)
    V (.within c r r') (finish x).2 (finish y).2 ∧ veil (finish y).1 = veil (finish x).1 := by
  have hV' := h.within hV hop hk
  have ha : (x.operate op).1 = (y.operate op).1 := h.answer hV hop
  simp only
  generalize x.operate op = u at hV' ha ⊢
  generalize y.operate op = v at hV' ha ⊢
  obtain ⟨a, x'⟩ := u
  obtain ⟨b, y'⟩ := v
  -- the operation is answered the same, so both stages go the same way
  obtain rfl : a = b := ha
  cases a with
  | ok => exact ⟨hV', hf hV'⟩
  | error halt => exact ⟨hV', rfl⟩

theorem waited (h : Paired V veil tame) (hV : V p x y) :
    veil (.verdict y.session.waited) = veil (.verdict x.session.waited) := by
  rw [Session.waited, Session.waited, h.lifecycle hV]

theorem perform (h : Paired V veil tame) {c : Call} {r r' : Reply} (call : SessionCall)
    (hV : V (.within c r r') x y) :
    V (.within c r r') (Stage.perform call x).2 (Stage.perform call y).2 ∧
      veil (Stage.perform call y).1 = veil (Stage.perform call x).1 := by
  have hunit {op : Session → Except Halt Unit × Session} (hop : Session.Ordinary op)
      (hk : ∀ s, (op s).2.calling = s.calling) :
      V (.within c r r') (x.operate op).2 (y.operate op).2 ∧
        veil (Answer.ofUnit (y.operate op).1) = veil (Answer.ofUnit (x.operate op).1) := by
    refine ⟨h.within hV hop hk, ?_⟩
    rw [operate_noted, operate_noted, h.answer hV hop]
  cases hy : y.session.released with
  | true =>
    rw [Stage.perform_gone ((h.released hV).trans hy), Stage.perform_gone hy]
    exact ⟨hV, rfl⟩
  | false =>
    rw [Stage.perform_there ((h.released hV).trans hy), Stage.perform_there hy]
    cases call with
    | stop => exact h.ended hV .requestStop (fun s => (Session.Keeps.requestStop s).calling) h.waited
    | block => exact ⟨hV, h.waited hV⟩
    | start => exact hunit (.beginStart ⟨true, false, false, false⟩) fun s => beginStart_calling s _
    | reconnect => exact hunit .reconnect fun s => (Session.Keeps.reconnect s).calling
    | resubscribe => exact hunit .resubscribe fun s => (Session.Keeps.resubscribe s).calling
    | subscribe request => exact hunit (ordinary_subscribe request) (subscribe_calling request)
    | resolve id => exact ⟨hV, congrArg (fun s => veil (.symbol s)) (h.resolve hV id).symm⟩
    | stats =>
      obtain ⟨d, hd, hstats, -⟩ := h.session hV
      refine ⟨hV, ?_⟩
      rw [hd]
      exact (hstats _).symm
    | drop =>
      have hk (s : Session) := (Session.Keeps.release s true).calling
      have hV' := h.within hV (.release true) hk
      have ha : (x.operate (·.release true)).1 = (y.operate (·.release true)).1 :=
        h.answer hV (.release true)
      simp only
      generalize x.operate (·.release true) = u at hV' ha ⊢
      generalize y.operate (·.release true) = v at hV' ha ⊢
      obtain ⟨a, x'⟩ := u
      obtain ⟨_, y'⟩ := v
      obtain rfl : a = _ := ha
      cases a <;> exact ⟨h.hold false hV', rfl⟩

theorem mirror (h : Paired V veil tame) (fuel : Nat) :
    Mirror V V Eq (fun a a' => a'.map veil = a.map veil) (Stage.host fuel) (Stage.host fuel) where
  view hV := hV
  update _ hV _ := hV
  perform := by
    rintro x y k - c r r' hV rfl
    cases k with
    | none => exact ⟨hV, rfl⟩
    | some call =>
      obtain ⟨hV', ha⟩ := h.perform call hV
      exact ⟨hV', congrArg some ha⟩
  delivering := rfl
  fuel := rfl

/-! ## Steps -/

variable {fuel : Nat}

theorem operates (h : Paired V veil tame) {op : Session → β × Session}
    (hop : Session.Ordinary op) :
    Relates (V .rest) Eq ((Stage.host fuel).operate op) ((Stage.host fuel).operate op) :=
  fun _ _ hV => ⟨h.operate hV hop, h.answer hV hop⟩

theorem holds (h : Paired V veil tame) (b : Bool) :
    Relates (V .rest) Eq ((Stage.host fuel).modifyScripted ({ · with held := b }))
      ((Stage.host fuel).modifyScripted ({ · with held := b })) :=
  fun _ _ hV => ⟨h.hold b hV, rfl⟩

theorem start (h : Paired V veil tame) (scripts : Scripts SessionCall) :
    Relates (V .rest) Eq ((Stage.host fuel).start scripts)
      ((Stage.host fuel).start (tame scripts)) :=
  (h.mirror fuel).start h.likeness (h.sinks scripts).symm fun _ _ => h.follow scripts

theorem release (h : Paired V veil tame) (fuel : Nat) :
    Relates (V .rest) Eq (Stage.host fuel).release (Stage.host fuel).release :=
  (h.operates (.release false)).bind_eq fun _ => (h.holds false).bind_eq fun _ =>
    ((h.mirror fuel).settle h.likeness).bind_eq fun _ => .pure rfl

theorem race (h : Paired V veil tame) (scripts : Scripts SessionCall) (n won running : Nat) :
    Relates (V .rest) Eq (Stage.race (Stage.host fuel) scripts n won running)
      (Stage.race (Stage.host fuel) (tame scripts) n won running) := by
  induction n generalizing won running with
  | zero => exact .pure rfl
  | succ n ih =>
    refine (h.start scripts).bind_eq fun r => ?_
    split <;> exact ih _ _

theorem take (h : Paired V veil tame) (fuel : Nat) (step : Stage.Step) :
    Relates (V .rest) (fun a a' => veil a' = veil a) (Stage.take (Stage.host fuel) step)
      (Stage.take (Stage.host fuel) (step.map tame)) := by
  have hof : (step.map tame).ofSession = step.ofSession := by cases step <;> rfl
  have hdo {β : Type} {op : Session → β × Session} (f : β → Answer) (hop : Session.Ordinary op) :
      Relates (V .rest) (fun a a' => veil a' = veil a)
        (do return f (← (Stage.host fuel).operate op))
        (do return f (← (Stage.host fuel).operate op)) :=
    (h.operates hop).bind_eq fun _ => .pure rfl
  refine (h.mirror fuel).session.bind fun s s' hs => ?_
  obtain ⟨x, y, hV, rfl, rfl⟩ := hs
  obtain ⟨d, hd, hstats, hconfig⟩ := h.session hV
  rw [hof, h.released hV]
  refine .ite (fun _ => .pure rfl) fun _ => ?_
  cases step with
  | subscribe request => exact hdo .ofUnit (ordinary_subscribe request)
  | start scripts => exact (h.start scripts).bind_eq fun _ => .pure rfl
  | raceStart threads scripts => exact (h.race scripts threads 0 0).mono fun _ _ h => by rw [h]
  | stop timeout =>
    exact ((h.mirror fuel).stop h.likeness fun _ _ => h.holds true).bind_eq fun _ => .pure rfl
  | block timeout => exact ((h.mirror fuel).wait h.likeness timeout).bind_eq fun _ => .pure rfl
  | reconnect => exact hdo .ofUnit .reconnect
  | resubscribe => exact hdo .ofUnit .resubscribe
  | resolve id => exact .pure (by rw [h.resolve hV])
  | subscriptions => exact .pure (by rw [hd]; rfl)
  | stats => exact .pure (by rw [hd]; exact (hstats _).symm)
  | config => exact .pure (by rw [hd]; exact (hconfig _).symm)
  | drop =>
    refine (h.release fuel).bind_eq fun r => ?_
    cases r <;> exact .pure rfl
  | push bytes => exact hdo .accepted (.push _)
  | pushStream bytes => exact hdo .count (.pushStream bytes)
  | fail message => exact hdo .accepted (.push _)
  | close => exact hdo .accepted (.push _)
  | hand d => exact ((h.mirror fuel).hand h.likeness d).bind_eq fun _ => .pure rfl
  | inject method failure => exact (h.operates (.prepare _ _)).mono fun _ _ h => by rw [h]
  | onStart ds => exact (h.operates (.prepare _ _)).mono fun _ _ h => by rw [h]

end Paired

/-- A step is taken, then the session settles and the log is taken. -/
theorem see_eq (fuel : Nat) (step : Stage.Step) (x : Stage) :
    Stage.see (Stage.host fuel) step x =
      let p := Stage.take (Stage.host fuel) step x
      let y := ((Stage.host fuel).settle p.2).2
      (⟨p.1, if y.session.released then none else some y.session.state, y.log⟩,
        { y with log := [] }) := rfl

def Stage.Final.of (s : Session) : Final :=
  ⟨s.stats, s.lifecycle.isActive, s.subscriptions.length, s.symbols.size⟩

/-- The steps are taken, then a session that is left is dropped. -/
theorem play_eq (s : Session) (steps : List Stage.Step) :
    Stage.play s steps =
      let h := Stage.host (8 * steps.foldl (fun n s => n + s.weight) 8)
      let p := steps.mapM (Stage.see h) { session := s }
      if p.2.session.released then ⟨p.1, none, []⟩
      else ⟨p.1, some (.of p.2.session), (h.release p.2).2.log⟩ := rfl

end MarketFeed.Rehearsal
