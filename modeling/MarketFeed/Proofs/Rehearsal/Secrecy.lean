import Mathlib.Data.List.DropRight
import MarketFeed.Config.Display
import MarketFeed.Proofs.Engine.Feeds
import MarketFeed.Proofs.Rehearsal.Pairs

set_option autoImplicit false

/-!
# Keys stay secret

A session with another key is the session in disguise (`Disguise.keyed`), so rehearsals of the two
are seen to do the same, but for answers that show the configuration (`play_keyed`). The text of a
configuration shows of its key what `redact` leaves of it. `keys_stay_secret` joins this with what
decides whether a session is opened at all.
-/

namespace MarketFeed

/-! ## Texts -/

/-- Nothing is left of a key but its last three characters, if there are more than three. -/
theorem redact_eq {key key' : String}
    (h : (3 < key.length ∧ 3 < key'.length ∧ key.toList.rtake 3 = key'.toList.rtake 3) ∨
      (key.length ≤ 3 ∧ key'.length ≤ 3)) : redact key = redact key' := by
  simp only [redact, String.length_toList]
  rcases h with ⟨hl, hl', ht⟩ | ⟨hl, hl'⟩
  · rw [List.rtake, List.rtake, String.length_toList, String.length_toList] at ht
    rw [if_neg (Nat.not_le.mpr hl), if_neg (Nat.not_le.mpr hl'), ht]
  · rw [if_pos hl, if_pos hl']

/-! ## Other keys -/

/-- The disguise of another key. -/
def Disguise.keyed (key : String) : Disguise where
  config c := { c with key }
  upgradePolicy _ := rfl
  dataset _ := rfl
  sendTsOut _ := rfl
  stats := id
  start _ := rfl
  delivered _ _ := rfl
  event _ := rfl
  heartbeat _ := rfl
  dispatchError _ := rfl
  callbackFault _ := rfl
  restart _ := rfl

/-- A session but for its key. -/
def Session.unkeyed (s : Session) : Session := s.disguise (.keyed "")

theorem Session.unkeyed_keyed (s : Session) (key : String) :
    (s.disguise (.keyed key)).unkeyed = s.unkeyed := by
  have he : (s.engine.disguise (.keyed key)).disguise (.keyed "") =
      s.engine.disguise (.keyed "") := by cases s.engine <;> rfl
  simp only [unkeyed, disguise, he]
  rfl

namespace Rehearsal

/-! ## Rehearsals with another key -/

/-- An answer but for the key of a configuration. -/
def Answer.unkeyed : Answer → Answer
  | .config c => .config { c with key := "" }
  | a => a

def Entry.unkeyed : Entry Answer → Entry Answer
  | .callback c state a => .callback c state (a.map Answer.unkeyed)
  | e => e

namespace Stage

def Seen.unkeyed (s : Seen) : Seen := ⟨s.answer.unkeyed, s.state, s.log.map Entry.unkeyed⟩

/-- What is seen of a rehearsal but for the key of its session. -/
def Play.unkeyed (p : Play) : Play :=
  ⟨p.steps.map Seen.unkeyed, p.final, p.log.map Entry.unkeyed⟩

end Stage

/-- The first stage is the second with another key. -/
structure Keyed (key : String) (x y : Stage) : Prop where
  session : x.session = y.session.disguise (.keyed key)
  scripts : x.scripts = y.scripts
  held : x.held = y.held
  log : x.log.map Entry.unkeyed = y.log.map Entry.unkeyed

variable {key : String} {x y : Stage} {fuel : Nat}

theorem Keyed.operate {β : Type} {op : Session → β × Session} (h : Keyed key x y)
    (hop : Session.Ordinary op) : Keyed key (x.operate op).2 (y.operate op).2 := by
  have hcalls (engine : Engine) (d : Disguise) :
      (engine.disguise d).takeCalls.1 = engine.takeCalls.1 := by cases engine <;> rfl
  rw [operate_noted, operate_noted, h.session, hop.oblivious]
  refine ⟨Session.modifyManual_disguise .., h.scripts, h.held, ?_⟩
  rw [List.map_append, List.map_append, h.log, Session.disguise_engine, hcalls]

theorem Keyed.note (h : Keyed key x y) {e e' : Entry Answer} (he : e.unkeyed = e'.unkeyed) :
    Keyed key (x.note e) (y.note e') := by
  refine ⟨h.session, h.scripts, h.held, ?_⟩
  simp only [Scripted.note, List.map_append, h.log, List.map_cons, he]

theorem keyed_paired (key : String) :
    Paired (fun p x y => Keyed key x y ∧ p.Same) Answer.unkeyed id where
  session h := ⟨.keyed key, h.1.session, fun _ => rfl, fun _ => rfl⟩
  held h := h.1.held
  operate h hop := ⟨h.1.operate hop, trivial⟩
  within h hop _ := ⟨h.1.operate hop, h.2⟩
  step := by
    rintro x y ⟨h, -⟩
    rw [h.session, Session.step_disguise]
    cases y.session.step with
    | none => exact .none
    | some s => exact .some ⟨⟨rfl, h.scripts, h.held, h.log⟩, trivial⟩
  draw := by
    rintro x y c ⟨h, -⟩ -
    rw [h.scripts]
    exact ⟨⟨⟨h.session, rfl, h.held, h.log⟩, rfl⟩, rfl⟩
  note := by
    rintro x y c r r' a a' state ⟨h, hr⟩ ha
    exact ⟨h.note (congrArg (Entry.callback c state) ha.symm), hr⟩
  reply := by
    rintro x y c r _ ⟨h, rfl⟩
    refine ⟨⟨?_, h.scripts, h.held, h.log⟩, trivial⟩
    rw [h.session, Session.reply_disguise]
  noteStart name answer h := ⟨h.1.note rfl, trivial⟩
  hold b h := ⟨⟨h.1.session, h.1.scripts, rfl, h.1.log⟩, h.2⟩
  follow scripts h := ⟨⟨h.1.session, rfl, h.1.held, h.1.log⟩, trivial⟩
  sinks _ := rfl

theorem see_keyed (fuel : Nat) (step : Stage.Step) (h : Keyed key x y) :
    let p := Stage.see (Stage.host fuel) step x
    let q := Stage.see (Stage.host fuel) step y
    p.1.unkeyed = q.1.unkeyed ∧ Keyed key p.2 q.2 := by
  have hstep : step.map id = step := by cases step <;> rfl
  have htake := (keyed_paired key).take fuel step x y ⟨h, trivial⟩
  rw [hstep] at htake
  obtain ⟨h₁, ha⟩ := htake
  obtain ⟨⟨h₂, -⟩, -⟩ :=
    ((keyed_paired key).mirror fuel).settle (keyed_paired key).likeness _ _ h₁
  rw [see_eq, see_eq]
  refine ⟨?_, h₂.session, h₂.scripts, h₂.held, rfl⟩
  simp only [Stage.Seen.unkeyed, ha, h₂.log]
  rw [h₂.session]
  rfl

theorem steps_keyed (fuel : Nat) (steps : List Stage.Step) (h : Keyed key x y) :
    let p := steps.mapM (Stage.see (Stage.host fuel)) x
    let q := steps.mapM (Stage.see (Stage.host fuel)) y
    p.1.map Stage.Seen.unkeyed = q.1.map Stage.Seen.unkeyed ∧ Keyed key p.2 q.2 := by
  induction steps generalizing x y with
  | nil => exact ⟨rfl, h⟩
  | cons step steps ih =>
    obtain ⟨ha, h'⟩ := see_keyed fuel step h
    obtain ⟨has, h''⟩ := ih h'
    rw [List.mapM_cons]
    exact ⟨List.cons_eq_cons.mpr ⟨ha, has⟩, h''⟩

/-- A session with another key is seen to do the same. -/
theorem play_keyed (s : Session) (key : String) (steps : List Stage.Step) :
    (Stage.play (s.disguise (.keyed key)) steps).unkeyed = (Stage.play s steps).unkeyed := by
  rw [play_eq, play_eq]
  generalize 8 * steps.foldl (fun n s => n + s.weight) 8 = fuel
  have hstart : Keyed key ({ session := s.disguise (.keyed key) } : Stage) { session := s } :=
    ⟨rfl, rfl, rfl, rfl⟩
  obtain ⟨ha, h⟩ := steps_keyed fuel steps hstart
  obtain ⟨⟨h', -⟩, -⟩ := (keyed_paired key).release fuel _ _ ⟨h, trivial⟩
  have hr := (keyed_paired key).released (p := .rest) ⟨h, trivial⟩
  simp only [hr]
  split
  · simp only [Stage.Play.unkeyed, ha]
  · simp only [Stage.Play.unkeyed, ha, h'.log, h.session]
    rfl

/-- What can be learnt of a session but its key: what is seen when it is rehearsed, and what is
marked and comes of moves that it makes. -/
def shown (steps : List Stage.Step) (moves : List Move) (s : Session) :
    Stage.Play × List Mark × Session :=
  ((Stage.play s steps).unkeyed, s.trace moves, (s.after moves).unkeyed)

theorem shown_keyed (s : Session) (key : String) (steps : List Stage.Step) (moves : List Move) :
    shown steps moves (s.disguise (.keyed key)) = shown steps moves s := by
  simp only [shown, play_keyed, Session.trace_disguise, Session.after_disguise,
    Session.unkeyed_keyed]

/-! ## Opening a session -/

/-- Two configurations for which engines are opened that differ in the key at most. -/
theorem connect_keyed {κ ρ : Type} {k : κ} {a b : Config} {f : Session → ρ}
    {connect : κ → Config → Except EngineError Engine × κ} (hb : b = (Disguise.keyed key).config a)
    (hv : b.validate = a.validate)
    (hc : (connect k b).1 = (connect k a).1.map (·.disguise (.keyed key)))
    (hf : ∀ s : Session, f (s.disguise (.keyed key)) = f s) :
    (Session.connect k b connect).1.map f = (Session.connect k a connect).1.map f := by
  unfold Session.connect
  rw [hv]
  cases a.validate with
  | error cause => rfl
  | ok =>
    rcases ha : connect k a with ⟨cause | engine, ka⟩ <;>
      rcases hb' : connect k b with ⟨cause' | engine', kb⟩ <;> rw [ha, hb'] at hc <;> cases hc
    · rfl
    · have hnew : Session.new b (engine.disguise (.keyed key)) =
          (Session.new a engine).disguise (.keyed key) := by
        rw [hb]
        rfl
      simp only [Except.map, hnew, hf]

theorem validate_keyed {c : Config} {key : String} (h : isBlankText key = false) :
    ({ c with key } : Config).validate =
      if isBlankText c.dataset then .error (.config "dataset is not set") else .ok () := by
  simp only [Config.validate, h, Bool.false_eq_true, if_false]

/-- All that a connector looks at in a key is whether it is on its list. -/
theorem refusal_keyed {k : Connector} {c : Config} {key key' : String}
    (h : Connector.Condition.Holds k.authorized { c with key } .key ↔
      Connector.Condition.Holds k.authorized { c with key := key' } .key) :
    k.refusal { c with key } = k.refusal { c with key := key' } := by
  rw [Connector.Condition.key_iff, Connector.Condition.key_iff, not_iff_not] at h
  simp only [Connector.refusal, h]
  rfl

theorem open_keyed {k : Connector} {c : Config} {clock : List UInt64} {key key' : String}
    (h : Connector.Condition.Holds k.authorized { c with key } .key ↔
      Connector.Condition.Holds k.authorized { c with key := key' } .key) :
    (Connector.openReplay clock k { c with key := key' }).1 =
      (Connector.openReplay clock k { c with key }).1.map (·.disguise (.keyed key')) := by
  unfold Connector.openReplay Connector.connect
  rw [refusal_keyed h]
  cases k.refusal { c with key := key' } <;> rfl

/-! ## The theorem -/

/-- Let two configurations be equal but for their keys.

* If neither key is blank, and a connector has both keys on its list or neither, then a session is
  opened for both configurations or refused with the same error. If both read the same clock, what is
  seen when the sessions are rehearsed in the same way is the same, and so is all that is marked of
  moves that both make and what they come to, but for the keys themselves. It is the same with manual
  engines.
* If the keys have more than three characters, of which the last three are the same, or if both have
  no more than three, then the texts of the configurations and of their builders are the same. -/
theorem keys_stay_secret (c : Config) (key key' : String) :
    let a : Config := { c with key }
    let b : Config := { c with key := key' }
    (isBlankText key = false → isBlankText key' = false → ∀ steps moves,
      (∀ k : Connector, (Connector.Condition.Holds k.authorized a .key ↔
          Connector.Condition.Holds k.authorized b .key) →
        ∀ clock, (k.open a clock).1.map (shown steps moves) =
          (k.open b clock).1.map (shown steps moves)) ∧
      ∀ stopEnds, (Stage.openManual a stopEnds).map (shown steps moves) =
        (Stage.openManual b stopEnds).map (shown steps moves)) ∧
    ((3 < key.length ∧ 3 < key'.length ∧ key.toList.rtake 3 = key'.toList.rtake 3) ∨
        (key.length ≤ 3 ∧ key'.length ≤ 3) →
      a.display = b.display ∧ a.displayBuilder = b.displayBuilder) := by
  intro a b
  refine ⟨fun hk hk' steps moves => ?_, fun h => ?_⟩
  · have hv : b.validate = a.validate := (validate_keyed hk').trans (validate_keyed hk).symm
    have hb : b = (Disguise.keyed key').config a := rfl
    have hshown := fun s => shown_keyed s key' steps moves
    refine ⟨fun k hkeys clock => ?_, fun stopEnds => ?_⟩
    · exact (connect_keyed hb hv (open_keyed hkeys) hshown).symm
    · exact (connect_keyed hb hv rfl hshown).symm
  · have hdisplay : a.display = b.display := by
      simp only [Config.display, a, b, redact_eq h]
    exact ⟨hdisplay, by rw [Config.displayBuilder, Config.displayBuilder, hdisplay]⟩

/-- A connector without a list opens sessions with either of two keys that end in the same three
characters. -/
theorem keys_stay_secret_abc :
    let a : Config := { key := "db-SECRETKEYabc", dataset := "GLBX.MDP3" }
    let b : Config := { key := "øæåabc", dataset := "GLBX.MDP3" }
    (((Connector.new none).open a [7]).1.map (shown [.config] [.stop])).isOk = true ∧
      ((Connector.new none).open a [7]).1.map (shown [.config] [.stop]) =
        ((Connector.new none).open b [7]).1.map (shown [.config] [.stop]) ∧
      a.displayBuilder = b.displayBuilder ∧ redact a.key = "***abc" := by
  intro a b
  have h := keys_stay_secret { dataset := "GLBX.MDP3" } "db-SECRETKEYabc" "øæåabc"
  have hopened := (h.1 (by decide) (by decide) [.config] [.stop]).1 (.new none)
    ⟨fun _ => nofun, fun _ => nofun⟩ [7]
  have hkeys : 3 < a.key.length ∧ 3 < b.key.length ∧
      a.key.toList.rtake 3 = b.key.toList.rtake 3 := by
    decide
  exact ⟨by decide +kernel, hopened, (h.2 (.inl hkeys)).2, by decide⟩

end Rehearsal

end MarketFeed
