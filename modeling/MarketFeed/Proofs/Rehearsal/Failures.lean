import MarketFeed.Proofs.Boundary.Arguments
import MarketFeed.Proofs.Rehearsal.Crossings

set_option autoImplicit false

/-!
# Calls that fail

A call that is given no live handle of the kind fails, and nothing is done (`entryPoint?_refused`).
A call that fails on a live handle leaves the world as it was, up to what a manual engine notes of
its calls (`World.bare`), unless the failure is grave: the engine did not start, or it panicked when
it was told to stop (`entryPoint?_error`).
-/

namespace MarketFeed.Rehearsal

open Boundary

namespace HandleStep

/-- Of which kind the handle must be that a call is given. -/
def kind? : HandleStep → Option HandleKind
  | builderFree _ | edit .. | build .. => some .builder
  | sessionFree _ | subscribe .. | start .. | reconnect _ | resubscribe _ | block _
  | blockTimeout .. | stop .. | state _ | stats .. | resolve .. => some .session
  | _ => none

def frees : HandleStep → Bool
  | builderFree _ | sessionFree _ => true
  | _ => false

/-- What is in the variables of the caller before the call. -/
def untouched : HandleStep → Option Out
  | blockTimeout .. | stop .. => some (.number World.unwritten)
  | stats .. => some (.stats {})
  | resolve _ _ length _ => some (.buffer (List.replicate length World.fillByte))
  | _ => none

/-- The call failed for good: the engine did not start, or it panicked when it was told to stop. -/
def Grave (step : HandleStep) (cause : SessionError) : Prop :=
  match step with
  | start .. => (∃ e, cause = .engine e) ∨ ∃ operation message, cause = .internal operation message
  | stop .. | sessionFree _ => ∃ operation message, cause = .internal operation message
  | _ => False

end HandleStep

/-! ## Without the notes of manual engines -/

def Entry.ofEngine {α : Type} : Entry α → Bool
  | engine _ => true
  | callback .. | onStart .. => false

/-- A session with its scripts, without what a manual engine notes of its calls. -/
def Scripted.bare {κ α : Type} (x : Scripted κ α) : Scripted κ α :=
  match x.session.engine with
  | .replay _ => x
  | .manual _ => { x with session := x.session.bare, log := x.log.filter (!·.ofEngine) }

def Cell.bare (c : Cell) : Cell := { c with scripted := c.scripted.bare }

def World.bare (w : World) : World := { w with cells := w.cells.map Cell.bare }

section
variable {κ α β : Type} {x : Scripted κ α} {e : Replay} {m : Manual}

theorem Scripted.bare_of_replay (h : x.session.engine = .replay e) : x.bare = x := by
  simp only [bare, h]

theorem Scripted.bare_of_manual (h : x.session.engine = .manual m) :
    x.bare = { x with session := x.session.bare, log := x.log.filter (!·.ofEngine) } := by
  simp only [bare, h]

theorem eq_of_bare {s s' : Session} (h : s'.bare = s.bare) (he : s.engine = .replay e) :
    s' = s := by
  obtain ⟨_, _, _, _, _, engine, _, _, _⟩ := s
  obtain ⟨_, _, _, _, _, engine', _, _, _⟩ := s'
  cases he
  cases engine' with
  | replay => exact h
  | manual => simp [Session.bare, Engine.bare] at h

theorem manual_of_bare {s s' : Session} (h : s'.bare = s.bare) (hm : s.engine = .manual m) :
    ∃ m', s'.engine = .manual m' := by
  have he : s'.engine.bare = s.engine.bare := congrArg Session.engine h
  rw [hm] at he
  cases hs : s'.engine with
  | manual m' => exact ⟨m', rfl⟩
  | replay e =>
    rw [hs] at he
    cases he

/-- What an operation makes of the session, it makes of it among its scripts. -/
theorem operate_bare {op : Session → β × Session} {s : Session}
    (h : (op x.session).2.bare = s.bare) :
    (x.operate op).2.bare = ({ x with session := s } : Scripted κ α).bare := by
  cases hs : s.engine with
  | replay e =>
    have heq := eq_of_bare h hs
    rw [operate_replay op (by rw [heq]; exact hs), heq]
  | manual m =>
    -- the calls that were noted go into the log, from which `bare` takes them out again
    obtain ⟨m', hm'⟩ := manual_of_bare h hs
    have hnotes : (m'.calls.map (Entry.engine (α := α))).filter (!·.ofEngine) = [] := by
      simp [List.filter_map, Entry.ofEngine]
    rw [Scripted.bare_of_manual (x := { x with session := s }) hs, ← h]
    simp only [Scripted.operate, hm', Engine.takeCalls, Scripted.bare, Session.bare, Engine.bare,
      List.filter_append, hnotes, List.append_nil]

end

namespace World

theorem bare_modifyCell {w : World} {number : Nat} {f g : Cell → Cell}
    (h : ∀ cell, w.cell? number = some cell → (f cell).bare = (g cell).bare) :
    (w.modifyCell number f).bare = (w.modifyCell number g).bare := by
  have hcells : (w.cells.modify number f).map Cell.bare =
      (w.cells.modify number g).map Cell.bare := by
    refine List.ext_getElem? fun i => ?_
    by_cases hi : number = i
    · subst hi
      cases hc : w.cells[number]? with
      | none => simp [hc]
      | some cell => simp [hc, h cell hc]
    · simp [hi]
  simp only [bare, modifyCell, hcells]

/-- The world with another session of the number. -/
def setSession (w : World) (number : Nat) (s : Session) : World :=
  w.modifyCell number fun cell => { cell with scripted := { cell.scripted with session := s } }

theorem setSession_self (w : World) (number : Nat) :
    w.setSession number (w.scripted number).session = w := by
  have hcells : w.cells.modify number (fun cell =>
      { cell with scripted := { cell.scripted with session := (w.scripted number).session } }) =
      w.cells := by
    refine List.ext_getElem? fun i => ?_
    by_cases hi : number = i
    · subst hi
      cases hc : w.cells[number]? with
      | none => simp [hc]
      | some cell => simp [hc, scripted, cell?]
    · simp [hi]
  simp only [setSession, modifyCell, hcells]

/-- What an operation makes of a session, its host makes of it in the world. -/
theorem bare_operate {β : Type} {perform : Caller → HandleStep → StateM World HandleReply}
    {budget number : Nat} {c : Caller} {w w' : World} {op : Session → β × Session} {b b' : β}
    {s s' : Session} (hr : (hosts perform budget c number).operate op w = (b, w'))
    (hop : op (w.scripted number).session = (b', s')) (h : s'.bare = s.bare) :
    w'.bare = (w.setSession number s).bare := by
  have hs : (op (w.scripted number).session).2.bare = s.bare := by
    rw [hop]
    exact h
  obtain rfl : w.modifyCell number ({ · with scripted := _ }) = w' := congrArg Prod.snd hr
  refine bare_modifyCell fun cell hc => ?_
  have hcell : cell.scripted = w.scripted number := by simp only [scripted, hc]
  have hx : ((w.scripted number).operate op).2.bare = _ := operate_bare hs
  rw [hcell]
  exact congrArg (fun x => { cell with scripted := x }) hx

theorem bare_setSlot (w : World) (t : Thread) (message : Option String) :
    (w.setSlot t message).bare = w.bare.setSlot t message := rfl

/-! ## Mild failures -/

/-- A failure of the body is not about a handle, and leaves the world as it was unless it is grave
for the step. -/
def Mild {β : Type} (step : HandleStep) (operation : String)
    (body : StateM World (Except Halt β)) : Prop :=
  ∀ w halt w', body w = (.error halt, w') →
    halt.Own ∧ (step.Grave (failure operation halt) ∨ w'.bare = w.bare)

namespace Mild

variable {β : Type} {step : HandleStep} {operation : String}
  {perform : Caller → HandleStep → StateM World HandleReply}
  {budget number : Nat} {c : Caller}

theorem error {halt : Halt} (h : halt.Own) :
    Mild (β := β) step operation (Pure.pure (.error halt)) := by
  intro w halt' w' hr
  cases hr
  exact ⟨h, .inr rfl⟩

/-- A body that never fails. -/
theorem never {body : StateM World (Except Halt β)} (h : ∀ w, ∃ b w', body w = (.ok b, w')) :
    Mild step operation body := by
  intro w halt w' hr
  obtain ⟨b, w₁, hb⟩ := h w
  rw [hb] at hr
  cases hr

theorem operate {op : Session → Except Halt β × Session}
    (h : ∀ s s' halt, op s = (.error halt, s') →
      halt.Own ∧ (step.Grave (failure operation halt) ∨ s'.bare = s.bare)) :
    Mild step operation ((hosts perform budget c number).operate op) := by
  intro w halt w' hr
  obtain ⟨s', hop⟩ : ∃ s', op (w.scripted number).session = (.error halt, s') :=
    (hosts perform budget c number).operate_error hr
  obtain ⟨hown, hg | hbare⟩ := h _ _ _ hop
  · exact ⟨hown, .inl hg⟩
  · have hw := bare_operate hr hop hbare
    rw [setSession_self] at hw
    exact ⟨hown, .inr hw⟩

/-- Only the operation can fail, and only for good. -/
theorem grave {body : StateM World (Except Halt β)}
    (h : ∀ w halt w', body w = (.error halt, w') → ∃ message, halt = .panicked message)
    (hg : ∀ message, step.Grave (.internal operation message)) : Mild step operation body := by
  intro w halt w' hr
  obtain ⟨message, rfl⟩ := h w halt w' hr
  exact ⟨trivial, .inl (hg message)⟩

variable {hosts : Hosts}

theorem subscribe (arguments : SubscribeArguments) :
    Mild step operation (World.subscribe (World.hosts perform budget c) arguments number) := by
  unfold World.subscribe
  split
  · rename_i cause hcause
    exact .error (arguments.subscription_blames cause hcause).2
  · refine operate fun s s' halt h => ?_
    obtain ⟨hown, hbare⟩ := Session.subscribe_error h
    exact ⟨hown, .inr hbare⟩

/-- A start that was begun is completed, or the engine panics. -/
theorem hostStart {handle : Option String} {shape : StartShape} {given : Scripts HandleStep}
    (scripts : Scripts HandleStep) :
    Mild (.start handle shape given) operation
      ((World.hosts perform budget c number).start scripts) := by
  let h := World.hosts perform budget c number
  have hbegin : Mild (.start handle shape given) operation
      (h.operate (·.beginStart scripts.sinks)) := by
    refine operate fun s s' halt hs => ?_
    obtain ⟨hown, rfl | ⟨cause | message, rfl⟩⟩ := Session.beginStart_error hs
    · exact ⟨hown, .inr rfl⟩
    · exact ⟨hown, .inl (.inl ⟨cause, rfl⟩)⟩
    · exact ⟨hown, .inl (.inr ⟨_, _, rfl⟩)⟩
  intro w halt w' hr
  simp only [Host.start, Host.bind_run] at hr
  cases hb : h.operate (·.beginStart scripts.sinks) w with
  | mk r w₁ =>
  rw [hb] at hr
  cases r with
  | error halt =>
    cases hr
    exact hbegin w halt w₁ hb
  | ok =>
    simp only [Host.bind_run] at hr
    -- callbacks may have made calls by now, so a failure to complete is grave
    obtain ⟨s', hs⟩ := h.operate_error hr
    obtain ⟨message, rfl⟩ := Session.completeStart_error hs
    exact ⟨trivial, .inl (.inr ⟨_, message, rfl⟩)⟩

theorem start {handle : Option String} (shape : StartShape) (scripts : Scripts HandleStep) :
    Mild (.start handle shape scripts) operation
      (World.start (World.hosts perform budget c) shape scripts number) := by
  unfold World.start
  split
  · rename_i cause hcause
    exact .error (shape.callbacks_blames scripts cause hcause).2
  · rename_i scripts' _
    intro w halt w' hr
    simp only [Host.bind_run] at hr
    cases hs : (World.hosts perform budget c number).start scripts'.contained w with
    | mk r w₁ =>
    rw [hs] at hr
    cases r with
    | ok => cases hr
    | error halt =>
      cases hr
      exact hostStart _ w halt w₁ hs

theorem stop {handle : Option String} {timeout : Nat} {out : Bool} (limit : Option Nat) :
    Mild (.stop handle timeout out) operation
      ((World.hosts perform budget c number).stop limit) := by
  refine grave (fun w halt w' hr => ?_) fun message => ⟨_, message, rfl⟩
  rw [Host.stop_run] at hr
  cases ho : (World.hosts perform budget c number).operate (·.requestStop) w with
  | mk r w₁ =>
  rw [ho] at hr
  cases r with
  | ok => cases hr
  | error halt =>
    cases hr
    obtain ⟨s', hs⟩ := (World.hosts perform budget c number).operate_error ho
    exact (Session.requestStop_error hs).1

end Mild

/-! ## Builders -/

theorem connect_blames (w : World) (config : Config) (via : Via) :
    Blames Halt.Own (w.connect config via).1 := by
  cases via with
  | replay => exact (Config.connect_blames w.connector config _).mapError
  | manual stopEnds =>
    exact (Config.connect_blames w.connector config (Manual.open stopEnds)).mapError
  | failing failure =>
    unfold connect
    cases hv : config.validate with
    | error cause => exact .error (config.validate_blames cause hv)
    | ok => exact .error failure.halt_own

/-- A build that fails changes nothing. -/
theorem build_error {p : Pointer} {via : Via} {w w' : World} {halt : Halt}
    (h : build p via w = (.error halt, w')) : w' = w := by
  rcases build_cases p via w with ⟨_, hrun⟩ | ⟨_, _, _, _, -, -, -, hrun⟩ <;> rw [hrun] at h <;>
    cases h
  rfl

theorem build_own {p : Pointer} {via : Via} {w w' : World} {halt : Halt}
    (hl : w.registry.Live .builder p) (h : build p via w = (.error halt, w')) : halt.Own := by
  obtain ⟨b, slot, -, -, hok⟩ := Registry.builder_of_live hl
  unfold build at h
  rw [hok] at h
  cases slot with
  | consumed =>
    cases h
    exact rfl
  | opened config =>
    rcases hc : w.connect config via with ⟨halt | session, connector⟩
    · simp only [hc] at h
      cases h
      exact w.connect_blames config via _ (congrArg Prod.fst hc)
    · simp only [hc] at h
      cases h

/-- No session is built from a builder that was used up. -/
theorem build_consumed {b : Nat} {w : World} (hb : w.registry.handle? b = some (.builder .consumed))
    (via : Via) : build (some b) via w = (.error (.failed .builderConsumed), w) := by
  simp only [build, Registry.builder_of_handle? hb]

/-! ## Entry points -/

variable {hosts : Hosts} {v w w' : World} {step : HandleStep} {e : EntryPoint} {kind : HandleKind}
  {halt : Halt} {β : Type}

/-- The call is to free null, which is left alone. -/
def Ignores (w : World) (step : HandleStep) : Prop :=
  step.frees = true ∧ w.pointer step.handle = none

theorem entryPoint?_ignored (he : entryPoint? hosts v step = some e) (hi : v.Ignores step)
    (w : World) : e.body w = (.ok { value := .void }, w) := by
  obtain ⟨hf, hp⟩ := hi
  cases step with
  | builderFree handle =>
    cases he
    obtain rfl : handle = none := Option.map_eq_none_iff.mp hp
    rfl
  | sessionFree handle =>
    cases he
    obtain rfl : handle = none := Option.map_eq_none_iff.mp hp
    rfl
  | _ => cases hf

theorem onSession_refused {p : Pointer} {f : Nat → StateM World (Except Halt β)}
    (hl : ¬ w.registry.Live .session p) :
    onSession p f w = (.error (.failed (HandleKind.session.refusal p)), w) :=
  onSession_gone (Registry.session_refused hl)

/-- Nothing is done for a pointer that is no live handle of the kind. -/
theorem entryPoint?_refused (he : entryPoint? hosts v step = some e) (hk : step.kind? = some kind)
    (hl : ¬ w.registry.Live kind (v.pointer step.handle)) (hi : ¬ v.Ignores step) :
    e.body w = (.error (.failed (kind.refusal (v.pointer step.handle))), w) := by
  cases step with
  | builderFree handle =>
    cases he
    cases hk
    have hp : v.pointer handle ≠ none := fun h => hi ⟨rfl, h⟩
    obtain ⟨b, hb⟩ := Option.ne_none_iff_exists'.mp hp
    have hrefused := Registry.builder_refused hl
    simp only [HandleStep.handle, hb] at hrefused ⊢
    exact giving_run (onRegistry_gone (freeBuilder_gone hrefused))
  | sessionFree handle =>
    cases he
    cases hk
    have hp : v.pointer handle ≠ none := fun h => hi ⟨rfl, h⟩
    obtain ⟨a, ha⟩ := Option.ne_none_iff_exists'.mp hp
    have hrefused := Registry.session_refused hl
    simp only [HandleStep.handle, ha] at hrefused ⊢
    exact giving_run (free_gone hrefused)
  | edit handle e =>
    cases he
    cases hk
    have hrefused : w.registry.builder (v.pointer handle) = _ := Registry.builder_refused hl
    refine giving_run (r := .error _) ?_
    simp only [onRegistry, edit, hrefused]
    rfl
  | build handle name via =>
    cases he
    cases hk
    have hrefused : w.registry.builder (v.pointer handle) = _ := Registry.builder_refused hl
    refine giving_run (r := .error _) ?_
    simp only [build, hrefused]
    rfl
  | subscribe | start | reconnect | resubscribe | block | blockTimeout | stop | state | stats
  | resolve =>
    cases he
    cases hk
    exact giving_run (onSession_refused hl)
  | builderNew | loggingInit | lastError | lastErrorElsewhere | push | pushStream | hand | inject
  | onStart => cases hk

theorem onRegistry_error {op : Registry → Except SessionError β × Registry}
    (h : onRegistry op w = (.error halt, w')) : ∃ cause registry,
      op w.registry = (.error cause, registry) ∧ halt = .failed cause ∧
        w' = { w with registry } := by
  unfold onRegistry at h
  rcases hop : op w.registry with ⟨cause | b, registry⟩
  · rw [hop] at h
    cases h
    exact ⟨cause, registry, rfl, rfl, rfl⟩
  · rw [hop] at h
    cases h

theorem onSession_mild {operation : String} {p : Pointer}
    {f : Nat → StateM World (Except Halt β)} {give : β → Success}
    (hl : w.registry.Live .session p) (hf : ∀ number, Mild step operation (f number))
    (h : EntryPoint.giving (onSession p f) give w = (.error halt, w')) :
    halt.Own ∧ (step.Grave (failure operation halt) ∨ w'.bare = w.bare) := by
  obtain ⟨a, number, -, -, hok⟩ := Registry.session_of_live hl
  have hrun := giving_error h
  rw [onSession_run hok] at hrun
  exact hf number w halt w' hrun

/-- A call on a live handle fails mildly, or for good. -/
theorem entryPoint?_error {perform : Caller → HandleStep → StateM World HandleReply}
    {budget : Nat} {c : Caller} (he : entryPoint? (World.hosts perform budget c) v step = some e)
    (hk : step.kind? = some kind) (hl : w.registry.Live kind (v.pointer step.handle))
    (hb : e.body w = (.error halt, w')) :
    halt.Own ∧ (step.Grave (failure e.operation halt) ∨ w'.bare = w.bare) := by
  cases step with
  | builderFree handle =>
    cases he
    cases hk
    obtain ⟨cause, registry, hcause, -, -⟩ := onRegistry_error (giving_error hb)
    obtain ⟨b, slot, hp, -, hok⟩ := Registry.builder_of_live hl
    simp only [HandleStep.handle] at hp hok
    simp only [hp] at hok
    simp [freeBuilder, hp, hok] at hcause
  | edit handle e =>
    cases he
    cases hk
    obtain ⟨cause, registry, hcause, rfl, rfl⟩ := onRegistry_error (giving_error hb)
    rcases edit_cases w.registry (v.pointer handle) e with
      ⟨cause', he, hown⟩ | ⟨_, _, _, _, _, he⟩ <;> rw [he] at hcause <;> cases hcause
    exact ⟨hown hl, .inr rfl⟩
  | build handle name via =>
    cases he
    cases hk
    have hrun := giving_error hb
    rw [build_error hrun]
    exact ⟨build_own hl hrun, .inr rfl⟩
  | sessionFree handle =>
    cases he
    cases hk
    obtain ⟨a, number, hp, -, hok⟩ := Registry.session_of_live hl
    simp only [HandleStep.handle] at hp hok
    rw [hp] at hok
    have hrun := giving_error hb
    rw [hp, free_run hok] at hrun
    obtain ⟨message, rfl⟩ := release_error (congrArg Prod.fst hrun)
    exact ⟨trivial, .inl ⟨_, message, rfl⟩⟩
  | subscribe handle arguments =>
    cases he
    cases hk
    exact onSession_mild hl (fun _ => .subscribe arguments) hb
  | start handle shape scripts =>
    cases he
    cases hk
    exact onSession_mild hl (fun _ => .start shape scripts) hb
  | reconnect handle =>
    cases he
    cases hk
    refine onSession_mild hl (fun _ => .operate fun s s' halt h => ?_) hb
    obtain ⟨hown, hbare⟩ := Session.reconnect_error h
    exact ⟨hown, .inr hbare⟩
  | resubscribe handle =>
    cases he
    cases hk
    refine onSession_mild hl (fun _ => .operate fun s s' halt h => ?_) hb
    obtain ⟨hown, hbare⟩ := Session.resubscribe_error h
    exact ⟨hown, .inr hbare⟩
  | block handle =>
    cases he
    cases hk
    exact onSession_mild hl (fun _ => .never fun w => ⟨_, _, rfl⟩) hb
  | blockTimeout handle timeout out =>
    cases he
    cases hk
    refine onSession_mild hl (fun _ => ?_) hb
    cases out with
    | false => exact .error rfl
    | true => exact .never fun w => ⟨_, _, rfl⟩
  | stop handle timeout out =>
    cases he
    cases hk
    exact onSession_mild hl (fun _ => .stop _) hb
  | state handle =>
    cases he
    cases hk
    exact onSession_mild hl (fun _ => .never fun w => ⟨_, _, rfl⟩) hb
  | stats handle out =>
    cases he
    cases hk
    refine onSession_mild hl (fun _ => ?_) hb
    cases out with
    | false => exact .error rfl
    | true => exact .never fun w => ⟨_, _, rfl⟩
  | resolve handle id length buffer =>
    cases he
    cases hk
    refine onSession_mild hl (fun _ => ?_) hb
    unfold World.resolve
    split
    · exact .error rfl
    · exact .never fun w => ⟨_, _, rfl⟩
  | builderNew | loggingInit | lastError | lastErrorElsewhere | push | pushStream | hand | inject
  | onStart => cases hk

/-! ## Whole calls -/

theorem entryPoint?_untouched (he : entryPoint? hosts v step = some e) :
    e.untouched = step.untouched := by
  cases step <;> cases he <;> rfl

/-- What a call comes to; none if the step is no call. -/
def outcome? (budget depth : Nat) (c : Caller) (step : HandleStep) (w : World) :
    Option (Except SessionError Success) :=
  (entryPoint? (World.hosts (World.perform budget depth) budget c) w step).map fun e =>
    (guarded c.thread e.operation e.body w).1

/-- Why a call fails; none if it does not. -/
def cause? (budget depth : Nat) (c : Caller) (step : HandleStep) (w : World) :
    Option SessionError :=
  match outcome? budget depth c step w with
  | some (.error cause) => some cause
  | _ => none

/-- The call fails for the cause. The caller is told, and that is all. -/
structure Fails (budget depth : Nat) (c : Caller) (step : HandleStep) (w : World)
    (cause : SessionError) : Prop where
  outcome : outcome? budget depth c step w = some (.error cause)
  told : World.perform budget (depth + 1) c step w =
    (⟨step.refusal cause, some (some (withoutNul cause.message)), step.untouched⟩,
      w.setSlot c.thread (some (withoutNul cause.message)))

variable {budget depth : Nat} {c : Caller} {cause : SessionError}

theorem setSlot_setSlot (w : World) (t : Thread) (message : Option String) :
    (w.setSlot t none).setSlot t message = w.setSlot t message := by
  simp only [setSlot, List.filter_filter, Bool.and_self]

theorem cause?_eq_some : cause? budget depth c step w = some cause ↔
    outcome? budget depth c step w = some (.error cause) := by
  unfold cause?
  split <;> simp_all

/-- A call fails because its body does. -/
theorem body_of_error (h : outcome? budget depth c step w = some (.error cause)) :
    ∃ e halt w', entryPoint? (World.hosts (World.perform budget depth) budget c) w step = some e ∧
      e.body (w.setSlot c.thread none) = (.error halt, w') ∧ cause = failure e.operation halt := by
  obtain ⟨e, he, hr⟩ := Option.map_eq_some_iff.mp h
  cases hb : e.body (w.setSlot c.thread none) with
  | mk r w' =>
  cases r with
  | ok s =>
    rw [guarded_ok hb] at hr
    cases hr
  | error halt =>
    rw [guarded_error hb] at hr
    cases hr
    exact ⟨e, halt, w', he, hb, rfl⟩

/-- A call succeeds because its body does. -/
theorem body_of_ok {s : Success} (h : outcome? budget depth c step w = some (.ok s)) :
    ∃ e w', entryPoint? (World.hosts (World.perform budget depth) budget c) w step = some e ∧
      e.body (w.setSlot c.thread none) = (.ok s, w') ∧
      World.perform budget (depth + 1) c step w =
        (⟨s.value, some (w'.slot c.thread), s.out⟩, (e.afterwards (w'.note s.note)).2) := by
  obtain ⟨e, he, hr⟩ := Option.map_eq_some_iff.mp h
  have hcall : World.perform budget (depth + 1) c step w = enter c.thread e w := call_enter he
  cases hb : e.body (w.setSlot c.thread none) with
  | mk r w' =>
  cases r with
  | ok s =>
    rw [guarded_ok hb] at hr
    cases hr
    refine ⟨e, w', he, hb, ?_⟩
    rw [hcall, enter_ok hb, slot_note]
  | error halt =>
    rw [guarded_error hb] at hr
    cases hr

theorem perform_error (he : entryPoint? (World.hosts (World.perform budget depth) budget c) w step =
      some e) (hb : e.body (w.setSlot c.thread none) = (.error halt, w')) :
    let cause := failure e.operation halt
    let message := withoutNul cause.message
    outcome? budget depth c step w = some (.error cause) ∧
      World.perform budget (depth + 1) c step w =
        (⟨step.refusal cause, some (some message), step.untouched⟩,
          w'.setSlot c.thread (some message)) := by
  have hcall : World.perform budget (depth + 1) c step w = enter c.thread e w := call_enter he
  refine ⟨?_, ?_⟩
  · rw [outcome?, he, Option.map_some, guarded_error hb]
  · rw [hcall, enter_error hb, entryPoint?_failed he, entryPoint?_untouched he]

/-- A body that fails and does nothing else makes a call that fails and does nothing else. -/
theorem fails_of_body (he : entryPoint? (World.hosts (World.perform budget depth) budget c) w step =
      some e) (hb : e.body (w.setSlot c.thread none) = (.error halt, w.setSlot c.thread none)) :
    Fails budget depth c step w (failure e.operation halt) := by
  obtain ⟨houtcome, hperform⟩ := perform_error he hb
  rw [setSlot_setSlot] at hperform
  exact ⟨houtcome, hperform⟩

end World

end MarketFeed.Rehearsal
