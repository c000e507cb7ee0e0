import MarketFeed.Proofs.Rehearsal.Handles
import MarketFeed.Proofs.Session.Verbatim

set_option autoImplicit false

/-!
# The boundary refines the session

`handle_refines_session`: a session that is used through its handle does as one that is used
directly, with callbacks that panic and callbacks that return any code. What is seen of each use
agrees (`Use.Agrees`), and the sessions differ in nothing but the callback faults.

A use keeps a session behind its handle and brings it to rest (`Behind.see`); so do all of them, one
after the other (`Behind.steps`), from the session that was built (`behind_build`). That nothing is
altered on the way to the callbacks (`steps_verbatim`) follows from the run that the direct session
goes through, as its callbacks are called with the same.
-/

namespace MarketFeed.Rehearsal

open Boundary

/-! ## What is seen -/

namespace World

/-- What the callbacks of the session under a name did in a step. -/
def Seen.log (s : Seen) (name : String) : List (Entry HandleReply) := (s.logs.lookup name).getD []

/-- The state code that is shown under a name; that of a session that was freed is -1. -/
def Seen.state (s : Seen) (name : String) : Int := (s.states.lookup name).getD (-1)

end World

/-- What is seen of a use through the handle with a name agrees with what is seen of it directly: the
replies go with each other, the states are the same, and the callbacks did the same. -/
structure Use.Agrees (u : Use) (name : String) (c : World.Seen) (s : Stage.Seen) : Prop where
  reply : u.reply s.answer = some c.reply.told
  state : c.state name = (s.state.map fun state => (state.code : Int)).getD (-1)
  log : List.Forall₂ Entry.Tells (c.log name) s.log

/-- What is seen of uses, one after the other. -/
inductive Agree (name : String) : List Use → List World.Seen → List Stage.Seen → Prop
  | nil : Agree name [] [] []
  | cons {u : Use} {us : List Use} {c : World.Seen} {cs : List World.Seen} {s : Stage.Seen}
      {ss : List Stage.Seen} : u.Agrees name c s → Agree name us cs ss →
      Agree name (u :: us) (c :: cs) (s :: ss)

/-- A callback that is noted in one log is noted in the other. -/
theorem Entry.Tells.logged {l : List (Entry HandleReply)} {l' : List (Entry Answer)}
    (h : List.Forall₂ Tells l l') {c : Call} {state : Option SessionState}
    {r : Option HandleReply} (hc : .callback c state r ∈ l) : c ∈ Rehearsal.logged l' := by
  induction h with
  | nil => cases hc
  | @cons e e' l l' he _ ih =>
    rcases List.mem_cons.mp hc with rfl | hc
    · cases he
      exact List.mem_cons_self ..
    · have hl : Rehearsal.logged (e' :: l') = Rehearsal.logged ([e'] ++ l') := rfl
      rw [hl, logged_append]
      exact List.mem_append_right _ (ih hc)

/-- Every call of a callback behind the handle is one of a callback of the direct session. -/
theorem Agree.logged {name : String} {us : List Use} {cs : List World.Seen} {ss : List Stage.Seen}
    (h : Agree name us cs ss) {c : World.Seen} (hc : c ∈ cs) {call : Call}
    {state : Option SessionState} {r : Option HandleReply}
    (he : .callback call state r ∈ c.log name) :
    call ∈ ss.flatMap (Rehearsal.logged ·.log) := by
  induction h with
  | nil => cases hc
  | @cons u us c' cs s ss ha _ ih =>
    rw [List.flatMap_cons, List.mem_append]
    rcases List.mem_cons.mp hc with rfl | hc
    · exact .inl (Entry.Tells.logged ha.log he)
    · exact .inr (ih hc)

namespace World

variable {name : String} {address k budget : Nat} {w : World} {y : Stage}

theorem filter_map {α β : Type} (l : List (String × α)) (f : α → β) (name : String) :
    (l.map fun e => (e.1, f e.2)).filter (·.1 == name) =
      (l.filter (·.1 == name)).map fun e => (e.1, f e.2) := by
  rw [List.filter_map]
  rfl

theorem see_run (budget : Nat) (step : HandleStep) (w : World) :
    see budget step w =
      let a := World.perform budget budget {} step w
      (⟨a.1, (a.2.built.map fun e => (e.1, (a.2.scripted e.2).log)).filter (!·.2.isEmpty),
        a.2.shown.map fun e => (e.1, a.2.stateCode e.2)⟩,
        { a.2 with cells := a.2.cells.map Cell.clearLog }) := rfl

theorem Behind.log_eq (h : Behind name address k .rest w y) {r : HandleReply}
    {states : List (String × Int)} :
    Seen.log ⟨r, (w.built.map fun e => (e.1, (w.scripted e.2).log)).filter (!·.2.isEmpty), states⟩
      name = (w.scripted k).log := by
  have hbuilt : (w.built.map fun e => (e.1, (w.scripted e.2).log)).filter (·.1 == name) =
      [(name, (w.scripted k).log)] := by
    rw [filter_map w.built fun number => (w.scripted number).log, h.built]
    rfl
  rw [Seen.log, lookup_eq_filter, List.filter_comm, hbuilt]
  cases hl : (w.scripted k).log <;> simp

theorem Behind.state_eq (h : Behind name address k .rest w y) {r : HandleReply}
    {logs : List (String × List (Entry HandleReply))} :
    Seen.state ⟨r, logs, w.shown.map fun e => (e.1, w.stateCode e.2)⟩ name =
      ((if y.session.released then none else some y.session.state).map
        fun state => (state.code : Int)).getD (-1) := by
  have hstate : (w.scripted k).session.state = y.session.state :=
    h.scripted.refines.same (·.state) fun _ _ => rfl
  have hcode : w.stateCode address = ((if y.session.released then none else some y.session.state).map
      fun state => (state.code : Int)).getD (-1) := by
    have hh := h.handle
    cases hr : y.session.released with
    | true =>
      rw [hr, if_pos rfl] at hh
      simp only [stateCode, hh]
      rfl
    | false =>
      rw [hr, if_neg Bool.false_ne_true] at hh
      simp only [stateCode, hh, hstate]
      rfl
  have hshown : (w.shown.map fun e => (e.1, w.stateCode e.2)).lookup name =
      (w.shown.get? name).map w.stateCode := by
    rw [lookup_eq_filter, filter_map w.shown w.stateCode, Named.get?, lookup_eq_filter]
    cases w.shown.filter (·.1 == name) <;> rfl
  rw [Seen.state, hshown]
  rcases h.shown with hs | ⟨hr, hs⟩
  · rw [hs]
    exact hcode
  · rw [hs, hr]
    rfl

theorem Behind.clearLogs (h : Behind name address k .rest w y) :
    Behind name address k .rest { w with cells := w.cells.map Cell.clearLog }
      { y with log := [] } := by
  obtain ⟨c, hc, hx⟩ := h.cell
  refine ⟨⟨c.clearLog, ?_, hx.session, hx.scripts, hx.held, .nil, hx.sound, hx.idle⟩, h.named,
    h.built, h.handle, h.shown⟩
  show (w.cells.map Cell.clearLog)[k]? = _
  rw [List.getElem?_map, show w.cells[k]? = some c from hc]
  rfl

/-- A use through the handle agrees with the same use of the session itself. The budget is enough for
both to come to rest. -/
theorem Behind.see (u : Use) (h : Behind name address k .rest w y) {N : Nat} (hset : y.Settled)
    (hready : y.Ready N) (hf : 8 * (8 + (N + u.direct.weight)) ≤ budget) :
    let c := World.see budget (u.foreign name) w
    let s := Stage.see (Stage.host budget) u.direct y
    u.Agrees name c.1 s.1 ∧ Behind name address k .rest c.2 s.2 ∧ s.2.Settled ∧
      s.2.Ready (N + u.direct.weight) ∧ s.2.log = [] := by
  have hbudget : 4 * (N + u.direct.weight) + 3 ≤ budget := by omega
  obtain ⟨depth, hdepth⟩ : ∃ depth, budget = depth + 1 + 1 := ⟨budget - 2, by omega⟩
  have hperform : World.perform budget budget {} (u.foreign name) w =
      World.call (hosts (World.perform budget (depth + 1)) budget {}) (.host 0) (u.foreign name) w := by
    conv_lhs => rw [show World.perform budget budget = World.perform budget (depth + 1 + 1) by
      rw [← hdepth]]
    rfl
  have howner : ({} : Caller).inside ≠ some k := nofun
  obtain ⟨h₁, ha⟩ := h.use (t := .host 0) u hset hready (nests budget depth) howner hbudget
  rw [← hperform] at h₁ ha
  have hready₁ := take_ready u.direct hbudget y hready
  obtain ⟨hset₁, hready₂⟩ := settle_ready hready₁ hbudget
  rw [see_run, see_eq]
  refine ⟨⟨ha, h₁.state_eq, ?_⟩, h₁.clearLogs, hset₁,
    ⟨hready₂.sound, hready₂.calling, hready₂.feed⟩, rfl⟩
  exact h₁.log_eq ▸ h₁.scripted.log

theorem Behind.steps (us : List Use) (h : Behind name address k .rest w y) {N : Nat}
    (hset : y.Settled) (hready : y.Ready N) (hlog : y.log = [])
    (hf : 8 * (8 + (N + (us.map (·.direct.weight)).sum)) ≤ budget) :
    let c := (us.map (·.foreign name)).mapM (World.see budget) w
    let s := (us.map (·.direct)).mapM (Stage.see (Stage.host budget)) y
    Agree name us c.1 s.1 ∧ Behind name address k .rest c.2 s.2 := by
  induction us generalizing w y N with
  | nil => exact ⟨.nil, h⟩
  | cons u us ih =>
    rw [List.map_cons, List.sum_cons] at hf
    have hfirst : 8 * (8 + (N + u.direct.weight)) ≤ budget := by omega
    obtain ⟨ha, h₁, hset₁, hready₁, hlog₁⟩ := h.see u hset hready hfirst
    obtain ⟨has, h₂⟩ := ih h₁ hset₁ hready₁ hlog₁ (by omega)
    rw [List.map_cons, List.map_cons, List.mapM_cons, List.mapM_cons]
    exact ⟨.cons ha has, h₂⟩

/-! ## Building -/

theorem connect_replay {config : Config} {s : Session} {connector : Connector}
    (h : w.connect config .replay = (.ok s, connector)) :
    s = .new config (.replay (.new config (w.clock w.cells.length))) := by
  have ho : ((w.connector.open config (w.clock w.cells.length)).1).mapError Halt.failed = .ok s :=
    congrArg Prod.fst h
  cases hk : (w.connector.open config (w.clock w.cells.length)).1 with
  | error e =>
    rw [hk] at ho
    cases ho
  | ok s' =>
    rw [hk] at ho
    cases ho
    exact Connector.open_ok hk

/-- The session that a build adds. -/
def newborn (w : World) (config : Config) : Session :=
  .new config (.replay (.new config (w.clock w.cells.length)))

/-- A session that was built has a new cell at the end, and a handle at the next address. -/
theorem build_ok {q : Pointer} {a : Nat × Nat} (hb : (build q .replay w).1 = .ok a) :
    ∃ builder config connector,
      w.registry.builder q = .ok (builder, .opened config) ∧
      build q .replay w = (.ok ((w.registry.setBuilder builder .consumed).next, w.cells.length),
        { w with
          registry := ((w.registry.setBuilder builder .consumed).add (.session w.cells.length)).2
          connector
          cells := w.cells ++ [⟨{ session := w.newborn config }, 0⟩] }) := by
  rcases build_cases q .replay w with
    ⟨halt, hrun⟩ | ⟨b, config, s, connector, rfl, hopen, hconnect, hrun⟩
  · rw [hrun] at hb
    cases hb
  · rw [connect_replay hconnect] at hrun
    exact ⟨b, config, connector, Registry.builder_of_handle? hopen, hrun⟩

/-- A session that was built stands behind its handle, new. -/
theorem behind_build {depth : Nat} {handle : Option String}
    (hb : (World.perform budget depth {} (.build handle name .replay) w).1.value = .flag true) :
    ∃ builder config address, w.registry.builder (w.pointer handle) = .ok (builder, .opened config) ∧
      Behind name address w.cells.length .rest
        (World.perform budget depth {} (.build handle name .replay) w).2
        { session := w.newborn config } := by
  cases depth with
  | zero => cases hb
  | succ depth =>
    have hrun : World.perform budget (depth + 1) {} (.build handle name .replay) w =
        enter (.host 0) (.handle "fb_builder_build" (build (w.pointer handle) .replay)
          fun built => .session name built.1 built.2) w := call_enter rfl
    rw [hrun] at hb ⊢
    cases hbuild : build (w.pointer handle) .replay (w.setSlot (.host 0) none) with
    | mk r w' =>
      cases r with
      | error halt =>
        rw [enter_error (giving_run hbuild)] at hb
        cases hb
      | ok a =>
        obtain ⟨builder, config, connector, hslot, heq⟩ := build_ok (congrArg Prod.fst hbuild)
        rw [enter_ok (giving_run heq)]
        let address := (w.registry.setBuilder builder .consumed).next
        refine ⟨builder, config, address, hslot, ⟨?_, Named.get?_put_self .., ?_, ?_, ?_⟩⟩
        · exact ⟨_, List.getElem?_concat_length .., .new name config _⟩
        · exact Named.filter_put ..
        · exact Registry.session_add ..
        · exact .inl (Named.get?_put_self ..)

end World

/-- A new session has nothing to do. -/
theorem settled_new (config : Config) (clock : List UInt64) :
    Stage.Settled { session := .new config (.replay (.new config clock)) } := ⟨rfl, .inr rfl⟩

theorem ready_new (config : Config) (clock : List UInt64) :
    Stage.Ready 0 { session := .new config (.replay (.new config clock)) } :=
  ⟨⟨_, Sound.new config clock⟩, rfl, Nat.le_refl _⟩

/-- Every call that is noted in a rehearsal of a new session can be passed on. -/
theorem steps_verbatim (fuel : Nat) (config : Config) (clock : List UInt64)
    (steps : List Stage.Step) {c : Call}
    (hc : c ∈ (steps.mapM (Stage.see (Stage.host fuel))
      { session := .new config (.replay (.new config clock)) }).1.flatMap (logged ·.log)) :
    c.Verbatim := by
  have hs := Sound.new config clock
  obtain ⟨ms, -, -, hlog⟩ :=
    steps_run (x := { session := .new config (.replay (.new config clock)) }) fuel hs rfl steps
  have hc := List.mem_map_of_mem (f := Call.timeless) hc
  rw [List.map_flatMap] at hc
  replace hc := hlog ▸ hc
  have hanswered : calls ((Session.new config (.replay (.new config clock))).trace ms) = _ :=
    hs.calls_answered ms
  have hcall : c.timeless ∈ calls ((Session.new config (.replay (.new config clock))).trace ms) := by
    rw [hanswered]
    exact List.mem_append_left _ hc
  exact (c.portable_timeless.mp (((Session.Portable.new config _).run ms).2 _ hcall)).verbatim

/-- A session that was built from a builder, and is used through its handle, does as a session with
the configuration of the builder does directly. The callbacks behind the handle panic or return any
code; those of the direct session return zero or one instead, and panic where the others do. In each
use the reply goes with the answer, the state is the same, and so are the calls of the callbacks, in
their order, with the states they found and what they were replied. At the end the sessions are the
same, feed, symbols, subscriptions and statistics included, but for the callback faults. And every
callback behind the handle is given what the direct one is, unaltered. -/
theorem handle_refines_session (w : World) (handle : Option String) (name : String) (budget : Nat)
    (hb : (World.perform budget budget {} (.build handle name .replay) w).1.value = .flag true) :
    ∃ builder config, w.registry.builder (w.pointer handle) = .ok (builder, .opened config) ∧
      ∀ uses : List Use, 8 * (8 + (uses.map (·.direct.weight)).sum) ≤ budget →
        let w' := (World.perform budget budget {} (.build handle name .replay) w).2
        let c := (uses.map (·.foreign name)).mapM (World.see budget) w'
        let s := (uses.map (·.direct)).mapM (Stage.see (Stage.host budget))
          { session := .new config (.replay (.new config (w.clock w.cells.length))) }
        Agree name uses c.1 s.1 ∧
        (∃ n, s.2.session = (c.2.scripted w.cells.length).session.charged n) ∧
        ∀ seen ∈ c.1, ∀ call state reply, .callback call state reply ∈ seen.log name →
          call.Verbatim := by
  obtain ⟨builder, config, address, hslot, h⟩ := World.behind_build hb
  refine ⟨builder, config, hslot, fun uses hf => ?_⟩
  have hweight : 8 * (8 + (0 + (uses.map (·.direct.weight)).sum)) ≤ budget := by omega
  obtain ⟨ha, h'⟩ := h.steps uses (settled_new config _) (ready_new config _) rfl hweight
  refine ⟨ha, h'.scripted.session, fun seen hseen call state reply hlogged => ?_⟩
  exact steps_verbatim budget config _ _ (ha.logged hseen hlogged)

/-- A record callback that asks its session to stop, through the handle, and panics. It is called
once, and at the end the sessions differ in its fault. -/
theorem handle_refines_session_panicking :
    let uses : List Use := [
      .push (12 :: List.replicate 47 0),
      .start ⟨.record, { record := some [⟨some (.ask (.stop 0 true)), .panic⟩] }, rfl⟩,
      .ask .stats]
    let w := ([.builderNew "b",
      .edit (some "b") (.key (some [102, 102, 105])),
      .edit (some "b") (.dataset (some [71, 76, 66, 88, 46, 77, 68, 80, 51]))].mapM
        (World.perform 128 128 {}) {}).2
    let built := World.perform 128 128 {} (.build (some "b") "s" .replay) w
    let c := (uses.map (·.foreign "s")).mapM (World.see 128) built.2
    built.1.value = .flag true ∧ 8 * (8 + (uses.map (·.direct.weight)).sum) ≤ 128 ∧
      c.1.map (fun seen => (seen.log "s").length) = [0, 1, 0] ∧
      ∃ config, w.registry.builder (w.pointer (some "b")) = .ok (1, .opened config) ∧
        let s := (uses.map (·.direct)).mapM (Stage.see (Stage.host 128))
          { session := .new config (.replay (.new config (w.clock w.cells.length))) }
        Agree "s" uses c.1 s.1 ∧
          ∃ n, s.2.session = (c.2.scripted w.cells.length).session.charged n := by
  intro uses w built c
  have hflag : (match built.1.value with | .flag b => b | _ => false) = true := by decide +kernel
  have hb : built.1.value = .flag true := by
    split at hflag
    · rename_i b hv
      rw [hv, hflag]
    · cases hflag
  have hf : 8 * (8 + (uses.map (·.direct.weight)).sum) ≤ 128 := by decide
  obtain ⟨builder, config, hslot, h⟩ := handle_refines_session w (some "b") "s" 128 hb
  obtain ⟨hagree, hsession, -⟩ := h uses hf
  have hbuilder : ((w.registry.builder (w.pointer (some "b"))).toOption.map (·.1)) = some 1 := by
    decide +kernel
  rw [hslot] at hbuilder
  cases hbuilder
  exact ⟨hb, hf, by decide +kernel, config, hslot, hagree, hsession⟩

end MarketFeed.Rehearsal
