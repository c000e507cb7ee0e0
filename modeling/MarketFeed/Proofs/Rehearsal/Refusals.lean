import MarketFeed.Proofs.Rehearsal.Containment
import MarketFeed.Proofs.Rehearsal.Failures

set_option autoImplicit false

/-!
# Calls that fail change nothing

A call that fails tells so to the thread that made it, by what it returns and in the error slot. That
is all it does (`failed_calls_change_nothing`), unless an engine did not start, or panicked when it was
told to stop: by then the session is no longer what it was (`panicking_stop_changes_state`). After a
stop or a free it differs in no more than `World.Remains` says.
-/

namespace MarketFeed.Rehearsal

open Boundary

/-! ## Worlds with replay engines -/

theorem Scripted.eq_of_bare {κ α : Type} {x x' : Scripted κ α} {e : Replay}
    (h : x'.bare = x.bare) (he : x.session.engine = .replay e) : x' = x := by
  rw [bare_of_replay he] at h
  cases he' : x'.session.engine with
  | replay e' => rwa [bare_of_replay he'] at h
  | manual m =>
    rw [bare_of_manual he'] at h
    rw [← h] at he
    simp [Session.bare, Engine.bare, he'] at he

theorem Scripted.bare_free {κ α : Type} {x x' : Scripted κ α} (h : x'.bare = x.bare) :
    ({ x' with held := false } : Scripted κ α).bare =
      ({ x with held := false } : Scripted κ α).bare := by
  have hfree (y : Scripted κ α) :
      ({ y with held := false } : Scripted κ α).bare = { y.bare with held := false } := by
    unfold bare
    cases y.session.engine <;> rfl
  rw [hfree, hfree, h]

theorem Cell.eq_of_bare {x x' : Cell} (h : x'.bare = x.bare)
    (he : x.scripted.session.engine.isReplay = true) : x' = x := by
  obtain ⟨scripted, loops⟩ := x
  obtain ⟨scripted', loops'⟩ := x'
  simp only [Cell.bare, Cell.mk.injEq] at h
  cases hs : scripted.session.engine with
  | manual m => simp [hs, Engine.isReplay] at he
  | replay e => rw [Scripted.eq_of_bare h.1 hs, h.2]

theorem cells_eq_of_bare {cells cells' : List Cell}
    (h : cells'.map Cell.bare = cells.map Cell.bare)
    (he : ∀ cell ∈ cells, cell.scripted.session.engine.isReplay = true) : cells' = cells := by
  induction cells generalizing cells' with
  | nil => exact List.map_eq_nil_iff.mp h
  | cons x cells ih =>
    obtain ⟨x', rest, rfl, hx, hrest⟩ := List.map_eq_cons_iff.mp h
    rw [Cell.eq_of_bare hx (he x List.mem_cons_self),
      ih hrest fun cell hcell => he cell (List.mem_cons_of_mem _ hcell)]

/-- Where there are replay engines only, nothing is left out. -/
theorem World.eq_of_bare {w w' : World} (h : w'.bare = w.bare)
    (he : ∀ cell ∈ w.cells, cell.scripted.session.engine.isReplay = true) : w' = w := by
  obtain ⟨registry, connector, cells, slots, names, built, shown, logging⟩ := w
  obtain ⟨registry', connector', cells', slots', names', built', shown', logging'⟩ := w'
  simp only [World.bare, World.mk.injEq] at h ⊢
  obtain ⟨hregistry, hconnector, hcells, hrest⟩ := h
  exact ⟨hregistry, hconnector, cells_eq_of_bare hcells he, hrest⟩

/-! ## Calls that fail -/

namespace World

variable {budget depth : Nat} {c : Caller} {step : HandleStep} {v w w' : World} {e : EntryPoint}
  {halt : Halt}

/-- A body that fails leaves the world as it was, unless the failure is grave. -/
theorem entryPoint?_bare
    (he : entryPoint? (World.hosts (World.perform budget depth) budget c) v step = some e)
    (hb : e.body w = (.error halt, w')) :
    step.Grave (failure e.operation halt) ∨ w'.bare = w.bare := by
  cases hk : step.kind? with
  | some kind =>
    by_cases hl : w.registry.Live kind (v.pointer step.handle)
    · exact (entryPoint?_error he hk hl hb).2
    · by_cases hi : v.Ignores step
      · rw [entryPoint?_ignored he hi w] at hb
        cases hb
      · rw [entryPoint?_refused he hk hl hi] at hb
        cases hb
        exact .inr rfl
  | none =>
    cases step with
    | builderNew name =>
      cases he
      cases hb
    | loggingInit filter =>
      cases he
      exact .inr (congrArg bare (initLogging_error (giving_error hb)))
    | lastError | lastErrorElsewhere | push | pushStream | hand | inject | onStart => cases he
    | _ => cases hk

/-! ## Panics of engines -/

theorem modifyCell_modifyCell (w : World) (number : Nat) (f g : Cell → Cell) :
    (w.modifyCell number f).modifyCell number g = w.modifyCell number (g ∘ f) := by
  simp only [modifyCell, List.modify_modify_eq]

theorem takeCalls_isReplay (engine : Engine) :
    engine.takeCalls.2.isReplay = engine.isReplay := by
  cases engine <;> rfl

theorem scripted_modifyCell_self {cell : Cell} (w : World) {number : Nat}
    (hc : w.cell? number = some cell) (x : Scripted HandleStep HandleReply) :
    (w.modifyCell number ({ · with scripted := x })).scripted number = x := by
  rw [scripted_modifyCell, hc]
  exact if_pos rfl

/-- The world with another session of the number, whose loop is not held. -/
def setFree (w : World) (number : Nat) (s : Session) : World :=
  w.modifyCell number fun cell =>
    { cell with scripted := { cell.scripted with session := s, held := false } }

/-- A release that fails gives the session up and changes no other: its engine is a manual one,
which takes no turns. -/
theorem release_leaves {perform : Caller → HandleStep → StateM World HandleReply} {number : Nat}
    (h : (World.hosts perform budget c number).release w = (.error halt, w')) :
    let s := (w.scripted number).session
    w'.bare = (w.setFree number s.giveUp).bare ∨
      s.endsByStop = true ∧ w'.bare = (w.setFree number s.giveUp.loopExit).bare := by
  intro s
  let host := World.hosts perform budget c number
  let x := ((w.scripted number).operate (·.release host.delivering)).2
  let w₁ := w.modifyCell number ({ · with scripted := x })
  let w₂ := w₁.modifyCell number ({ · with scripted := { w₁.scripted number with held := false } })
  have hrun : host.release w = ((s.release host.delivering).1, (host.settle w₂).2) := rfl
  obtain ⟨hfailed, hw'⟩ := Prod.mk.inj (hrun.symm.trans h)
  obtain ⟨-, hmanual, hleft⟩ := Session.release_error (Prod.ext hfailed rfl)
  cases hc : w.cell? number with
  | none =>
    have hok : (noSession.session.release host.delivering).1 = .ok () := by
      cases host.delivering <;> rfl
    simp only [s, scripted, hc, hok] at hfailed
    cases hfailed
  | some cell =>
    have h₁ : w₁.scripted number = x := scripted_modifyCell_self w hc x
    have h₂ : w₂ = w.modifyCell number ({ · with scripted := { x with held := false } }) := by
      simp only [w₂, h₁]
      exact modifyCell_modifyCell ..
    have hview : (host.view w₂).session.engine.isReplay = false := by
      have hv : host.view w₂ = { x with held := false } := by
        rw [h₂]
        exact scripted_modifyCell_self w hc _
      rw [hv]
      exact (takeCalls_isReplay _).trans hmanual
    rw [host.settle_manual hview] at hw'
    have hfree (s' : Session) (hs' : (s.release host.delivering).2.bare = s'.bare) :
        w'.bare = (w.setFree number s').bare := by
      rw [← hw', h₂]
      refine bare_modifyCell fun cell' hc' => ?_
      have hcell : cell'.scripted = w.scripted number := by simp only [scripted, hc']
      have hx : x.bare = ({ cell'.scripted with session := s' } : Scripted _ _).bare := by
        rw [hcell]
        exact operate_bare hs'
      exact congrArg (fun y => { cell' with scripted := y }) (Scripted.bare_free hx)
    exact hleft.imp (hfree _) (And.imp_right (hfree _))

/-- What a stop or a free leaves in which the engine panicked. The session is still asked to stop; or
the handle is gone and the session given up, that is released and asked to stop. The engine of the
latter may have ended its loop before it panicked. No more than that changes. -/
def Remains (w w' : World) : HandleStep → Prop
  | .stop handle .. => ∃ number, w.registry.session (w.pointer handle) = .ok number ∧
    let s := (w.scripted number).session
    w'.bare = (w.setSession number s.askStop).bare
  | .sessionFree handle => ∃ address number, w.pointer handle = some address ∧
    w.registry.session (some address) = .ok number ∧
    let s := (w.scripted number).session
    let w₁ := { w with registry := w.registry.remove address }
    w'.bare = (w₁.setFree number s.giveUp).bare ∨
      s.endsByStop = true ∧ w'.bare = (w₁.setFree number s.giveUp.loopExit).bare
  | _ => True

theorem Remains.setSlot (h : Remains w w' step) (t : Thread) (message : Option String) :
    Remains (w.setSlot t message) (w'.setSlot t message) step := by
  cases step with
  | stop handle timeout out =>
    obtain ⟨number, hok, hbare⟩ := h
    exact ⟨number, hok, congrArg (·.setSlot t message) hbare⟩
  | sessionFree handle =>
    obtain ⟨address, number, hp, hok, hbare | ⟨hends, hbare⟩⟩ := h
    · exact ⟨address, number, hp, hok, .inl (congrArg (·.setSlot t message) hbare)⟩
    · exact ⟨address, number, hp, hok, .inr ⟨hends, congrArg (·.setSlot t message) hbare⟩⟩
  | _ => trivial

theorem refusal_ne_internal (kind : HandleKind) (p : Pointer) :
    ¬ ∃ operation message, kind.refusal p = .internal operation message := by
  rintro ⟨operation, message, h⟩
  cases p <;> cases h

theorem remains_of_grave
    (he : entryPoint? (World.hosts (World.perform budget depth) budget c) w step = some e)
    (hg : step.Grave (failure e.operation halt)) {v : World} (hv : v.pointer = w.pointer)
    (hb : e.body v = (.error halt, w')) : Remains v w' step := by
  cases step with
  | stop handle timeout out =>
    cases he
    rcases v.registry.session_cases (v.pointer handle) with ⟨a, number, hp, ha, hok⟩ | ⟨hl, herror⟩
    · refine ⟨number, hok, ?_⟩
      have hrun := giving_error hb
      rw [← hv, onSession_run hok, Host.stop_run] at hrun
      cases ho : (World.hosts (World.perform budget depth) budget c number).operate
          (·.requestStop) v with
      | mk r w₁ =>
      rw [ho] at hrun
      cases r with
      | ok => cases hrun
      | error halt =>
        cases hrun
        obtain ⟨s', hs⟩ :=
          (World.hosts (World.perform budget depth) budget c number).operate_error ho
        exact bare_operate ho hs (Session.requestStop_error hs).2
    · have hrun := giving_error hb
      rw [← hv, onSession_gone herror] at hrun
      cases hrun
      exact absurd hg (refusal_ne_internal .session _)
  | sessionFree handle =>
    cases he
    have hrun := giving_error hb
    rw [← hv] at hrun
    cases hp : v.pointer handle with
    | none =>
      rw [hp] at hrun
      cases hrun
    | some address =>
      rw [hp] at hrun
      rcases v.registry.session_cases (some address) with ⟨_, number, -, -, hok⟩ | ⟨-, herror⟩
      · rw [free_run hok] at hrun
        exact ⟨address, number, hp, hok, release_leaves hrun⟩
      · rw [free_gone herror] at hrun
        cases hrun
        exact absurd hg (refusal_ne_internal .session (some address))
  | _ => trivial

end World

/-- A call that fails returns its status, or null, tells why in the error slot of its thread, and
leaves the variables of its caller alone. Everything else is as it was: handles, builders, sessions,
what engines know and feeds. Of a manual engine only the notes of its calls may differ; where there is
none, nothing does. Excepted is a start in which the engine did not start, or panicked when it was told
to stop; if it panicked in a stop or a free, no more is left than `Remains` says. -/
theorem failed_calls_change_nothing {budget depth : Nat} {c : Caller} {step : HandleStep}
    {w : World} {cause : SessionError} (hc : World.cause? budget depth c step w = some cause) :
    let a := World.perform budget (depth + 1) c step w
    let told := some (withoutNul cause.message)
    a.1 = ⟨step.refusal cause, some told, step.untouched⟩ ∧
      (¬ step.Grave cause → a.2.bare = (w.setSlot c.thread told).bare ∧
        ((∀ cell ∈ w.cells, cell.scripted.session.engine.isReplay = true) →
          a.2 = w.setSlot c.thread told)) ∧
      (step.Grave cause → World.Remains (w.setSlot c.thread told) a.2 step) := by
  intro a told
  obtain ⟨e, halt, w', he, hb, rfl⟩ := World.body_of_error (World.cause?_eq_some.mp hc)
  have hperform : a = _ := (World.perform_error he hb).2
  refine ⟨congrArg Prod.fst hperform, fun hg => ?_, fun hg => ?_⟩
  · have hbare : a.2.bare = (w.setSlot c.thread told).bare := by
      have hw' := (World.entryPoint?_bare he hb).resolve_left hg
      rw [hperform, World.bare_setSlot, hw', ← World.bare_setSlot, World.setSlot_setSlot]
    exact ⟨hbare, World.eq_of_bare hbare⟩
  · have hremains :=
      (World.remains_of_grave (v := w.setSlot c.thread none) he hg rfl hb).setSlot c.thread told
    rw [World.setSlot_setSlot] at hremains
    rw [hperform]
    exact hremains

/-- A host program with a session that runs on a manual engine. -/
def World.running : World :=
  let steps : List HandleStep := [
    .builderNew "b",
    .edit (some "b") (.key (some [102, 102, 105])),
    .edit (some "b") (.dataset (some [71, 76, 66, 88, 46, 77, 68, 80, 51])),
    .build (some "b") "s" (.manual false),
    .start (some "s") .record { record := some [] }]
  (steps.mapM (World.perform 64 64 {}) {}).2

/-- A session that runs cannot be started again. -/
theorem second_start_changes_nothing :
    let start : HandleStep := .start (some "s") .record { record := some [] }
    World.cause? 64 64 {} start World.running = some .alreadyRunning ∧
      ¬ start.Grave .alreadyRunning ∧
      (World.perform 64 65 {} start World.running).2.bare =
        (World.running.setSlot (.host 0)
          (some (withoutNul SessionError.alreadyRunning.message))).bare := by
  have hc : World.cause? 64 64 {} (.start (some "s") .record { record := some [] }) World.running =
      some .alreadyRunning := by
    decide +kernel
  have hg : ¬ (HandleStep.start (some "s") .record { record := some [] }).Grave .alreadyRunning := by
    rintro (⟨e, he⟩ | ⟨operation, message, he⟩) <;> cases he
  exact ⟨hc, hg, ((failed_calls_change_nothing hc).2.1 hg).1⟩

/-- A stop fails as the engine panics, but the request to stop stays. -/
theorem panicking_stop_changes_state :
    let w := (World.perform 64 64 {} (.inject "s" .stop (.panic (some "boom"))) World.running).2
    let stop : HandleStep := .stop (some "s") 0 true
    World.cause? 64 63 {} stop w = some (.internal "fb_session_stop" "boom") ∧
      (w.scripted 0).session.state = .running ∧
      ((World.perform 64 64 {} stop w).2.scripted 0).session.state = .stopRequested := by
  decide +kernel

end MarketFeed.Rehearsal
