import MarketFeed.Proofs.Boundary.Arguments
import MarketFeed.Proofs.Rehearsal.Entry
import MarketFeed.Proofs.Rehearsal.Mirror
import MarketFeed.Proofs.Session.Refusals

set_option autoImplicit false

/-!
# Crossings of the boundary

A call crosses the boundary twice: it is entered, and it is left with an outcome; in between it may
do something with a handle, and callbacks may make calls of their own. `World.Happens w es w'` says
that the crossings `es` take the world `w` to `w'`, in whatever order threads make them, while
anything else may go on that touches neither the registry nor an error slot. So registries and error
slots can be read off the crossings (`Happens.orderly`, `Happens.slot`).

`World.Calls es` says that the crossings are those of calls, one inside or after the other, each with
the deed that belongs to its outcome (`HandleStep.Fits`). Every call of a rehearsal is one of these
(`Traced.enter`, `traced`).
-/

namespace MarketFeed.Rehearsal

open Boundary

/-! ## What a call is given and returns -/

/-- A call returns a status or a handle, or tells of a failure in the error slot only. -/
inductive Report where
  | status | handle | slot
  deriving DecidableEq

namespace HandleStep

/-- Whether the step is a call that can fail. -/
def crosses : HandleStep → Bool
  | lastError | lastErrorElsewhere | push .. | pushStream .. | hand .. | inject .. | onStart .. =>
    false
  | _ => true

/-- The handle that a call is given. -/
def handle : HandleStep → Option String
  | builderFree h | edit h _ | build h .. | sessionFree h | subscribe h _ | start h .. | reconnect h
  | resubscribe h | block h | blockTimeout h .. | stop h .. | state h | stats h _ | resolve h .. => h
  | _ => none

/-- How a call tells whether it succeeded. -/
def report : HandleStep → Report
  | builderNew _ | build .. => .handle
  | builderFree _ | sessionFree _ => .slot
  | _ => .status

/-- What is returned by a call that fails. -/
def refusal (step : HandleStep) (cause : SessionError) : Value :=
  match step.report with
  | .status => .number cause.status
  | .handle => .flag false
  | .slot => .void

/-- What may be returned by a call that succeeds. -/
def Grants (step : HandleStep) (v : Value) : Prop :=
  match step.report with
  | .status => ∃ n : Nat, v = .number n
  | .handle => v = .flag true
  | .slot => v = .void

/-- The deeds that belong to the outcome of a call which was given a pointer. -/
def Fits (p : Pointer) (outcome : Except SessionError World.Success) (ds : List Deed) :
    HandleStep → Prop
  | builderNew name =>
    ∃ b, outcome = .ok { value := .flag true, note := .builder name b } ∧ ds = [.opened b]
  | edit .. =>
    (∃ b config s, p = some b ∧ outcome = .ok s ∧ ds = [.edited b config]) ∨
      (∃ cause, outcome = .error cause) ∧ ds = []
  | build _ name _ =>
    (∃ b s n, p = some b ∧ outcome = .ok { value := .flag true, note := .session name s n } ∧
      ds = [.built b s n]) ∨ (∃ cause, outcome = .error cause) ∧ ds = []
  | builderFree _ =>
    (∃ b s, p = some b ∧ outcome = .ok s ∧ ds = [.freed b]) ∨
      (p = none ∨ ∃ cause, outcome = .error cause) ∧ ds = []
  | sessionFree _ =>
    (∃ a, p = some a ∧ ds = [.freed a] ∧
      ∀ cause, outcome = .error cause → ∃ operation message, cause = .internal operation message) ∨
      (p = none ∨ outcome = .error (HandleKind.session.refusal p)) ∧ ds = []
  | _ => ds = []

end HandleStep

/-! ## Crossings -/

inductive Crossing where
  /-- A call is entered on a thread, with the pointer it is given. -/
  | entered (t : Thread) (step : HandleStep) (p : Pointer)
  | did (d : Deed)
  | left (t : Thread) (step : HandleStep) (outcome : Except SessionError World.Success)

namespace World

/-- The world after a call is left: the host program takes note of a success; a failure is told in
the error slot. -/
def leave (w : World) (t : Thread) : Except SessionError Success → World
  | .ok s => w.note s.note
  | .error cause => w.setSlot t (some (withoutNul cause.message))

/-- The outcome is one that the body of the call can come to. -/
def Comes (step : HandleStep) (outcome : Except SessionError World.Success) : Prop :=
  ∃ hosts w w' t e, entryPoint? hosts w step = some e ∧
    (guarded t e.operation e.body w').1 = outcome

end World

namespace Crossing

def thread? : Crossing → Option Thread
  | entered t .. | left t .. => some t
  | did _ => none

/-- The crossing is made on the thread, or on the thread of a loop. -/
def On (t : Thread) (e : Crossing) : Prop :=
  ∀ u, e.thread? = some u → u = t ∨ ∃ number generation, u = .loop number generation

def deed? : Crossing → Option Deed
  | did d => some d
  | entered .. | left .. => none

/-- The crossing takes the world `w` to `w'`. -/
def Does (w w' : World) : Crossing → Prop
  | entered t step p => p = w.pointer step.handle ∧ w' = w.setSlot t none
  | did d => ∃ r, d.Does w.registry r ∧ w' = { w with registry := r }
  | left t step outcome => World.Comes step outcome ∧ w' = w.leave t outcome

/-- What a crossing makes of the error slot of a thread. -/
def fill (u : Thread) (slot : Option String) : Crossing → Option String
  | entered t .. => if u = t then none else slot
  | left t _ (.error cause) => if u = t then some (withoutNul cause.message) else slot
  | left _ _ (.ok _) | did _ => slot

end Crossing

/-- The deeds among crossings. -/
def deeds (es : List Crossing) : List Deed := es.filterMap Crossing.deed?

theorem deeds_append (es es' : List Crossing) : deeds (es ++ es') = deeds es ++ deeds es' :=
  List.filterMap_append

namespace World

/-- The crossings take one world to the other. In between, whatever does not concern registries and
error slots may change. -/
inductive Happens : World → List Crossing → World → Prop
  | nil {w : World} : Happens w [] w
  | work {w v w' : World} {es : List Crossing} : v.registry = w.registry → v.slots = w.slots →
      Happens v es w' → Happens w es w'
  | cons {w v w' : World} {e : Crossing} {es : List Crossing} : e.Does w v → Happens v es w' →
      Happens w (e :: es) w'

namespace Happens

variable {w v w' : World} {es es' : List Crossing}

theorem still (hr : w'.registry = w.registry) (hs : w'.slots = w.slots) : Happens w [] w' :=
  .work hr hs .nil

theorem one {e : Crossing} (h : e.Does w w') : Happens w [e] w' := .cons h .nil

theorem append (h : Happens w es v) (h' : Happens v es' w') : Happens w (es ++ es') w' := by
  induction h with
  | nil => exact h'
  | work hr hs _ ih => exact .work hr hs (ih h')
  | cons he _ ih => exact .cons he (ih h')

theorem split (h : Happens w (es ++ es') w') : ∃ v, Happens w es v ∧ Happens v es' w' := by
  generalize hl : es ++ es' = l at h
  induction h generalizing es with
  | nil =>
    obtain ⟨rfl, rfl⟩ := List.append_eq_nil_iff.mp hl
    exact ⟨_, .nil, .nil⟩
  | work hr hs _ ih =>
    obtain ⟨v, h₁, h₂⟩ := ih hl
    exact ⟨v, .work hr hs h₁, h₂⟩
  | @cons w v w' e l he h ih =>
    cases es with
    | nil =>
      refine ⟨w, .nil, ?_⟩
      rw [List.nil_append] at hl
      rw [hl]
      exact .cons he h
    | cons e' es =>
      rw [List.cons_append, List.cons.injEq] at hl
      obtain ⟨rfl, hl⟩ := hl
      obtain ⟨v', h₁, h₂⟩ := ih hl
      exact ⟨v', .cons he h₁, h₂⟩

theorem uncons {e : Crossing} (h : Happens w (e :: es) w') :
    ∃ v v', v.registry = w.registry ∧ v.slots = w.slots ∧ e.Does v v' ∧ Happens v' es w' := by
  generalize hl : e :: es = l at h
  induction h with
  | nil => cases hl
  | work hr hs _ ih =>
    obtain ⟨v, v', hr', hs', he, h⟩ := ih hl
    exact ⟨v, v', hr'.trans hr, hs'.trans hs, he, h⟩
  | @cons w v w' e' es' he h _ =>
    cases hl
    exact ⟨w, v, rfl, rfl, he, h⟩

/-- An error slot holds what the crossings filled it with. -/
theorem slot (h : Happens w es w') (u : Thread) :
    w'.slot u = es.foldl (fun slot e => e.fill u slot) (w.slot u) := by
  induction h with
  | nil => rfl
  | @work w v w' es _ hs _ ih => rw [ih, World.slot, hs, World.slot]
  | @cons w v w' e es he _ ih =>
    have hv : v.slot u = e.fill u (w.slot u) := by
      cases e with
      | entered t step p =>
        obtain ⟨-, rfl⟩ := he
        exact slot_setSlot w t u none
      | did d =>
        obtain ⟨r, -, rfl⟩ := he
        rfl
      | left t step outcome =>
        obtain ⟨-, rfl⟩ := he
        cases outcome with
        | ok s => exact slot_note w s.note u
        | error cause => exact slot_setSlot w t u _
    rw [ih, hv, List.foldl_cons]

/-- The handles are those that the deeds leave. -/
theorem orderly (h : Happens w es w') :
    Orderly w.registry.handle? (deeds es) w'.registry.handle? := by
  induction h with
  | nil => exact .nil
  | work hr _ _ ih => rwa [hr] at ih
  | @cons w v w' e es he _ ih =>
    cases e with
    | entered t step p =>
      obtain ⟨-, rfl⟩ := he
      exact ih
    | left t step outcome =>
      obtain ⟨-, rfl⟩ := he
      cases outcome with
      | ok s =>
        rw [leave, note_registry] at ih
        exact ih
      | error cause => exact ih
    | did d =>
      obtain ⟨r, hd, rfl⟩ := he
      obtain ⟨hdue, hupon⟩ := hd.upon
      rw [hupon] at ih
      exact .cons hdue ih

end Happens

/-! ## Calls -/

/-- The crossings of calls, one after the other, each with those that are made inside of it. -/
inductive Calls : List Crossing → Prop
  | nil : Calls []
  | call {t : Thread} {step : HandleStep} {p : Pointer} {outcome : Except SessionError Success}
      {ds : List Deed} {inner rest : List Crossing} : step.Fits p outcome ds → Calls inner →
      Calls rest →
      Calls (.entered t step p :: (ds.map .did ++ inner ++ .left t step outcome :: rest))

theorem Calls.append {es es' : List Crossing} (h : Calls es) (h' : Calls es') :
    Calls (es ++ es') := by
  -- the second list goes behind the rest of the last call
  induction h with
  | nil => exact h'
  | call hf hi _ _ ih =>
    simp only [List.cons_append, List.append_assoc] at ih ⊢
    simpa only [List.append_assoc] using Calls.call hf hi ih

/-- The crossings of calls that are made on the thread, or on those of loops. -/
structure Made (t : Thread) (es : List Crossing) : Prop where
  calls : Calls es
  on : ∀ e ∈ es, e.On t

namespace Made

variable {t u : Thread} {es es' inner rest : List Crossing}

theorem nil (t : Thread) : Made t [] := ⟨.nil, fun _ he => by cases he⟩

theorem append (h : Made t es) (h' : Made t es') : Made t (es ++ es') :=
  ⟨h.calls.append h'.calls, fun e he => (List.mem_append.mp he).elim (h.on e) (h'.on e)⟩

theorem call {step : HandleStep} {p : Pointer} {outcome : Except SessionError Success}
    {ds : List Deed} (hf : step.Fits p outcome ds) (hi : Made t inner) (hr : Made t rest) :
    Made t (.entered t step p :: (ds.map .did ++ inner ++ .left t step outcome :: rest)) := by
  refine ⟨.call hf hi.calls hr.calls, ?_⟩
  simp only [List.mem_cons, List.mem_append, List.mem_map]
  rintro e (rfl | (⟨d, -, rfl⟩ | he) | rfl | he)
  · exact fun u hu => .inl (Option.some.inj hu).symm
  · exact fun u hu => by cases hu
  · exact hi.on e he
  · exact fun u hu => .inl (Option.some.inj hu).symm
  · exact hr.on e he

/-- The threads of loops are those of loops for every caller. -/
theorem mono (h : Made u es) (hu : u = t ∨ ∃ number generation, u = .loop number generation) :
    Made t es := by
  refine ⟨h.calls, fun e he thread ht => ?_⟩
  rcases h.on e he thread ht with rfl | hloop
  · exact hu
  · exact .inr hloop

end Made

/-- Calls that are made on the thread, or on those of loops, take the first world to the second. -/
def Leads (t : Thread) (v w : World) : Prop := ∃ es, Made t es ∧ Happens v es w

namespace Leads

variable {t : Thread} {v w w' : World}

theorem refl (t : Thread) (w : World) : Leads t w w := ⟨[], .nil t, .nil⟩

theorem trans (h : Leads t v w) (h' : Leads t w w') : Leads t v w' := by
  obtain ⟨es, hm, he⟩ := h
  obtain ⟨es', hm', he'⟩ := h'
  exact ⟨es ++ es', hm.append hm', he.append he'⟩

theorem still (h : Leads t v w) (hr : w'.registry = w.registry) (hs : w'.slots = w.slots) :
    Leads t v w' :=
  h.trans ⟨[], .nil t, .still hr hs⟩

end Leads

variable {perform : Caller → HandleStep → StateM World HandleReply} {budget : Nat} {c : Caller}
  {v w : World} {t : Thread} {β : Type}

/-- Whatever a caller makes is calls, and those of callbacks that run on account of it. -/
def Traced (perform : Caller → HandleStep → StateM World HandleReply) : Prop :=
  ∀ c step w, Leads c.thread w (perform c step w).2

theorem callbackThread_cases (w : World) (number : Nat) (t : Thread) :
    w.callbackThread number t = t ∨
      ∃ number' generation, w.callbackThread number t = .loop number' generation := by
  unfold callbackThread
  split
  · exact .inr ⟨_, _, rfl⟩
  · exact .inl rfl

theorem Traced.hosts (hp : Traced perform) (v : World) (number : Nat) :
    (hosts perform budget c number).Keeps (Leads c.thread v) where
  update _ _ h := h.still rfl rfl
  perform step w h := by
    obtain ⟨es, hm, he⟩ := hp ⟨w.callbackThread number c.thread, some number⟩ step w
    exact h.trans ⟨es, hm.mono (w.callbackThread_cases number c.thread), he⟩

theorem kept_giving {Q : World → Prop} {body : StateM World (Except Halt β)} {give : β → Success}
    (h : Kept Q body) : Kept Q (EntryPoint.giving body give) := fun w hw => h w hw

theorem kept_onSession {Q : World → Prop} {p : Pointer} {f : Nat → StateM World (Except Halt β)}
    (h : ∀ number, Kept Q (f number)) : Kept Q (onSession p f) := by
  refine Kept.look.bind fun w => ?_
  split
  · exact .pure _
  · exact h _

theorem Traced.subscribe (hp : Traced perform) (arguments : SubscribeArguments) (number : Nat) :
    Kept (Leads c.thread v) (World.subscribe (World.hosts perform budget c) arguments number) := by
  unfold World.subscribe
  split
  · exact .pure _
  · exact (hp.hosts v number).operate _

theorem Traced.start (hp : Traced perform) (shape : StartShape) (scripts : Scripts HandleStep)
    (number : Nat) :
    Kept (Leads c.thread v) (World.start (World.hosts perform budget c) shape scripts number) := by
  unfold World.start
  split
  · exact .pure _
  · refine ((hp.hosts v number).start _).bind fun r => ?_
    split
    · exact Kept.bind (fun w h => h.still rfl rfl) fun _ => .pure _
    · exact .pure _

theorem Traced.blockTimeout (hp : Traced perform) (timeout : Nat) (out : Bool) (number : Nat) :
    Kept (Leads c.thread v)
      (World.blockTimeout (World.hosts perform budget c) timeout out number) := by
  unfold World.blockTimeout
  split
  · exact .pure _
  · exact ((hp.hosts v number).wait _).bind fun _ => .pure _

theorem Traced.settleAt (hp : Traced perform) (p : Pointer) :
    Kept (Leads c.thread v) (World.settleAt (World.hosts perform budget c) p) := by
  refine Kept.look.bind fun w => ?_
  split
  · exact (hp.hosts v _).settle
  · exact .pure _

theorem Traced.onEngine (hp : Traced perform) {name : String} {missing : Value}
    {op : Host World HandleStep HandleReply → StateM World Value}
    (hop : ∀ number, Kept (Leads c.thread v) (op (World.hosts perform budget c number))) :
    Kept (Leads c.thread v) (World.onEngine (World.hosts perform budget c) name missing op) := by
  refine Kept.look.bind fun w => ?_
  split
  · exact .pure _
  · exact (hop _).bind fun _ => (hp.hosts v _).settle.bind fun _ => .pure _

theorem kept_reply {Q : World → Prop} (value : Value) (out : Option Out) :
    Kept Q (reply t value out) := fun _ h => h

theorem Traced.aside (hp : Traced perform) (step : HandleStep) :
    Kept (Leads c.thread v) (World.aside (World.hosts perform budget c) t step) := by
  unfold World.aside
  split
  · exact kept_reply _ _
  · exact hp.onEngine fun number => ((hp.hosts v number).operate _).bind fun _ => .pure _
  · exact hp.onEngine fun number => ((hp.hosts v number).operate _).bind fun _ => .pure _
  · exact hp.onEngine fun number => ((hp.hosts v number).hand _).bind fun _ => .pure _
  · exact hp.onEngine fun number => (hp.hosts v number).operate _
  · exact hp.onEngine fun number => (hp.hosts v number).operate _
  · exact kept_reply _ _

/-! ## Bodies -/

/-- A release fails only if the engine panics. -/
theorem release_error {h : Host World HandleStep HandleReply} {halt : Halt}
    (hr : (h.release w).1 = .error halt) : ∃ message, halt = .panicked message := by
  obtain ⟨s, hs⟩ := h.operate_error (Prod.ext (x := h.operate (·.release h.delivering) w) hr rfl)
  exact (Session.release_error hs).1

/-- What a body does with handles belongs to its outcome, and then callbacks may make calls, on the
thread or on those of loops. -/
def Regular (t : Thread) (step : HandleStep) (p : Pointer) (e : EntryPoint) (w : World) : Prop :=
  ∃ ds inner, step.Fits p ((e.body w).1.mapError (failure e.operation)) ds ∧ Made t inner ∧
    Happens w (ds.map .did ++ inner) (e.body w).2

/-- A body that only lets callbacks make calls. -/
theorem regular_of_kept {step : HandleStep} {p : Pointer} {e : EntryPoint}
    (hk : ∀ v, Kept (Leads t v) e.body) (hf : ∀ outcome, step.Fits p outcome []) :
    Regular t step p e w := by
  obtain ⟨inner, hm, hh⟩ := hk w w (.refl t w)
  exact ⟨[], inner, hf _, hm, hh⟩

/-- A body that does nothing. -/
theorem regular_of_still {step : HandleStep} {p : Pointer} {e : EntryPoint}
    {r : Except Halt Success} (hb : e.body w = (r, w))
    (hf : step.Fits p (r.mapError (failure e.operation)) []) : Regular t step p e w := by
  refine ⟨[], [], ?_, .nil t, ?_⟩ <;> rw [hb]
  · exact hf
  · exact .nil

/-- A body that does one deed and no more. -/
theorem regular_of_deed {step : HandleStep} {p : Pointer} {e : EntryPoint}
    {r : Except Halt Success} {w' : World} {d : Deed} {registry : Registry} (hb : e.body w = (r, w'))
    (hf : step.Fits p (r.mapError (failure e.operation)) [d]) (hd : d.Does w.registry registry)
    (hr : w'.registry = registry) (hs : w'.slots = w.slots) : Regular t step p e w := by
  refine ⟨[d], [], ?_, .nil t, ?_⟩ <;> rw [hb]
  · exact hf
  · exact .cons ⟨registry, hd, rfl⟩ (.still hr hs)

theorem regular_builderFree {handle : Option String} {p : Pointer} {w : World} :
    Regular t (.builderFree handle) p
      (.void "fb_builder_free" (onRegistry fun r => freeBuilder r p)) w := by
  cases p with
  | none => exact regular_of_still rfl (.inr ⟨.inl rfl, rfl⟩)
  | some b =>
    rcases w.registry.builder_cases (some b) with ⟨_, slot, hb, hslot, hok⟩ | ⟨-, herror⟩
    · cases hb
      exact regular_of_deed (giving_run (onRegistry_run (freeBuilder_ok hok)))
        (.inl ⟨b, _, rfl, rfl, rfl⟩) ⟨by simp [hslot], rfl⟩ rfl rfl
    · exact regular_of_still (giving_run (onRegistry_gone (freeBuilder_gone herror)))
        (.inr ⟨.inr ⟨_, rfl⟩, rfl⟩)

theorem regular_edit {handle : Option String} {p : Pointer} {e : Edit} {w : World} :
    Regular t (.edit handle e) p (.status e.operation (onRegistry fun r => edit r p e)) w := by
  rcases edit_cases w.registry p e with ⟨cause, he, -⟩ | ⟨b, config, config', rfl, hb, he⟩
  · exact regular_of_still (giving_run (onRegistry_gone he)) (.inr ⟨⟨_, rfl⟩, rfl⟩)
  · exact regular_of_deed (giving_run (onRegistry_run he)) (.inl ⟨b, config', _, rfl, rfl, rfl⟩)
      ⟨⟨config, hb⟩, rfl⟩ rfl rfl

theorem regular_build {handle : Option String} {name : String} {via : Via} {p : Pointer}
    {w : World} : Regular t (.build handle name via) p (.handle "fb_builder_build" (build p via)
      fun built => .session name built.1 built.2) w := by
  rcases build_cases p via w with ⟨halt, hrun⟩ | ⟨b, config, session, k, rfl, hb, -, hrun⟩
  · exact regular_of_still (giving_run hrun) (.inr ⟨⟨_, rfl⟩, rfl⟩)
  · exact regular_of_deed (d := .built b _ w.cells.length) (giving_run hrun)
      (.inl ⟨b, _, _, rfl, rfl, rfl⟩) ⟨⟨config, hb⟩, rfl, rfl⟩ rfl rfl

theorem Traced.sessionFree (hp : Traced perform) {handle : Option String} {p : Pointer} {n : Note}
    {w : World} : Regular c.thread (.sessionFree handle) p
      (.void "fb_session_free" (free (World.hosts perform budget c) p) n) w := by
  cases p with
  | none => exact regular_of_still rfl (.inr ⟨.inl rfl, rfl⟩)
  | some a =>
    rcases w.registry.session_cases (some a) with ⟨_, number, ha, hs, hok⟩ | ⟨-, herror⟩
    · cases ha
      let w₁ : World := { w with registry := w.registry.remove a }
      let release := (World.hosts perform budget c number).release w₁
      have hrun : free (World.hosts perform budget c) (some a) w = (release.1, release.2) :=
        free_run hok
      -- the handle is gone before the release begins, whose callbacks may make calls
      obtain ⟨inner, hm, hh⟩ : Leads c.thread w₁ release.2 :=
        (hp.hosts w₁ number).release w₁ (.refl c.thread w₁)
      let e := EntryPoint.void "fb_session_free" (free (World.hosts perform budget c) (some a)) n
      have hbody : e.body w = (release.1.map fun _ => { value := .void, note := n }, release.2) :=
        giving_run hrun
      refine ⟨[.freed a], inner, .inl ⟨a, rfl, rfl, fun cause hcause => ?_⟩, hm, ?_⟩
      · rw [hbody] at hcause
        cases hr : release.1 with
        | ok =>
          rw [hr] at hcause
          cases hcause
        | error halt =>
          obtain ⟨message, rfl⟩ := release_error hr
          rw [hr] at hcause
          cases hcause
          exact ⟨_, _, rfl⟩
      · rw [hbody]
        exact .cons ⟨_, ⟨by simp [hs], rfl⟩, rfl⟩ hh
    · exact regular_of_still (giving_run (free_gone herror)) (.inr ⟨.inr rfl, rfl⟩)

/-- What the body of a call does with handles belongs to its outcome. -/
theorem Traced.body (hp : Traced perform) {step : HandleStep} {e : EntryPoint}
    (he : entryPoint? (World.hosts perform budget c) v step = some e) (w : World) :
    Regular c.thread step (v.pointer step.handle) e w := by
  cases step with
  | builderNew name =>
    cases he
    exact regular_of_deed (d := .opened w.registry.next) rfl ⟨_, rfl, rfl⟩ ⟨rfl, rfl⟩ rfl rfl
  | builderFree handle =>
    cases he
    exact regular_builderFree
  | edit handle e =>
    cases he
    exact regular_edit
  | build handle name via =>
    cases he
    exact regular_build
  | sessionFree handle =>
    cases he
    exact hp.sessionFree
  | subscribe handle arguments =>
    cases he
    exact regular_of_kept (fun v => kept_giving (kept_onSession (hp.subscribe arguments)))
      fun _ => rfl
  | start handle shape scripts =>
    cases he
    exact regular_of_kept (fun v => kept_giving (kept_onSession (hp.start shape scripts)))
      fun _ => rfl
  | reconnect handle =>
    cases he
    exact regular_of_kept (fun v => kept_giving (kept_onSession fun number =>
      (hp.hosts v number).operate _)) fun _ => rfl
  | resubscribe handle =>
    cases he
    exact regular_of_kept (fun v => kept_giving (kept_onSession fun number =>
      (hp.hosts v number).operate _)) fun _ => rfl
  | block handle =>
    cases he
    exact regular_of_kept (fun v => kept_giving (kept_onSession fun number =>
      ((hp.hosts v number).wait none).bind fun _ => .pure _)) fun _ => rfl
  | blockTimeout handle timeout out =>
    cases he
    exact regular_of_kept (fun v => kept_giving (kept_onSession (hp.blockTimeout timeout out)))
      fun _ => rfl
  | stop handle timeout out =>
    cases he
    exact regular_of_kept (fun v => kept_giving (kept_onSession fun number =>
      (hp.hosts v number).stop (some timeout))) fun _ => rfl
  | state handle =>
    cases he
    exact regular_of_kept (fun v => kept_giving (kept_onSession fun _ => fun _ h => h)) fun _ => rfl
  | stats handle out =>
    cases he
    refine regular_of_kept (fun v => kept_giving (kept_onSession fun number => ?_)) fun _ => rfl
    unfold World.stats
    split
    · exact fun _ h => h
    · exact .pure _
  | resolve handle id length buffer =>
    cases he
    refine regular_of_kept (fun v => kept_giving (kept_onSession fun number => ?_)) fun _ => rfl
    unfold World.resolve
    split
    · exact .pure _
    · exact fun _ h => h
  | loggingInit filter =>
    cases he
    refine regular_of_kept (fun v => kept_giving fun w hw => ?_) fun _ => rfl
    obtain ⟨logging, hrun⟩ := initLogging_snd filter w
    rw [hrun]
    exact hw.still rfl rfl
  | lastError | lastErrorElsewhere | push | pushStream | hand | inject | onStart => cases he

theorem Traced.afterwards (hp : Traced perform) {step : HandleStep} {e : EntryPoint}
    (he : entryPoint? (World.hosts perform budget c) v step = some e) (w : World) :
    Kept (Leads c.thread w) e.afterwards := by
  cases step with
  | start handle shape scripts =>
    cases he
    exact hp.settleAt _
  | lastError | lastErrorElsewhere | push | pushStream | hand | inject | onStart => cases he
  | _ =>
    cases he
    exact .pure _

/-! ## Whole calls -/

theorem entryPoint?_crosses {hosts : Hosts} (w : World) (step : HandleStep) :
    (entryPoint? hosts w step).isSome = step.crosses := by
  cases step <;> rfl

/-- A failure is told in the same way wherever the call is made. -/
theorem entryPoint?_failed {hosts : Hosts} {step : HandleStep} {e : EntryPoint}
    (he : entryPoint? hosts w step = some e) : e.failed = step.refusal := by
  cases step <;> cases he <;> rfl

/-- What a call returns. -/
def returned (step : HandleStep) : Except SessionError Success → Value
  | .ok s => s.value
  | .error cause => step.refusal cause

/-- What a call leaves in a variable of its caller. -/
def EntryPoint.written (e : EntryPoint) : Except SessionError Success → Option Out
  | .ok s => s.out
  | .error _ => e.untouched

/-- A call is entered, does what belongs to its outcome, with calls of callbacks inside of it, and is
left. It is over then, but for the calls that callbacks make on account of it. -/
theorem Traced.enter (hp : Traced perform) {step : HandleStep} {e : EntryPoint}
    (he : entryPoint? (World.hosts perform budget c) w step = some e) :
    let t := c.thread
    let p := w.pointer step.handle
    let outcome := (guarded t e.operation e.body w).1
    ∃ ds inner v rest, step.Fits p outcome ds ∧ Made t inner ∧ Made t rest ∧
      Happens w (.entered t step p :: (ds.map .did ++ inner ++ [.left t step outcome])) v ∧
      Happens v rest (World.enter t e w).2 ∧
      (World.enter t e w).1 = ⟨returned step outcome, some (v.slot t), e.written outcome⟩ := by
  intro t p outcome
  obtain ⟨ds, inner, hfits, hinner, hbody⟩ := hp.body he (w.setSlot t none)
  have hcomes : Comes step outcome := ⟨_, w, w, t, e, he, rfl⟩
  have hfailed := entryPoint?_failed he
  cases hrun : e.body (w.setSlot t none) with
  | mk r w₁ =>
  rw [hrun] at hfits hbody
  cases r with
  | ok s =>
    have houtcome : outcome = .ok s := congrArg Prod.fst (guarded_ok hrun)
    rw [houtcome] at hcomes ⊢
    let v := w₁.note s.note
    obtain ⟨rest, hrest, hafter⟩ := hp.afterwards he v v (.refl t v)
    refine ⟨ds, inner, v, rest, hfits, hinner, hrest, ?_, ?_, ?_⟩
    · exact .cons ⟨rfl, rfl⟩ (hbody.append (.one ⟨hcomes, rfl⟩))
    · rw [enter_ok hrun]
      exact hafter
    · rw [enter_ok hrun]
      rfl
  | error halt =>
    have houtcome : outcome = .error (failure e.operation halt) :=
      congrArg Prod.fst (guarded_error hrun)
    rw [houtcome] at hcomes ⊢
    -- after a failure there is nothing left for other threads to do
    let v := w₁.setSlot t (some (withoutNul (failure e.operation halt).message))
    refine ⟨ds, inner, v, [], hfits, hinner, .nil t, ?_, ?_, ?_⟩
    · exact .cons ⟨rfl, rfl⟩ (hbody.append (.one ⟨hcomes, rfl⟩))
    · rw [enter_error hrun]
      exact .nil
    · rw [enter_error hrun, hfailed, slot_setSlot_self]
      rfl

theorem Traced.call (hp : Traced perform) (step : HandleStep) (w : World) :
    Leads c.thread w (World.call (World.hosts perform budget c) c.thread step w).2 := by
  cases he : entryPoint? (World.hosts perform budget c) w step with
  | none =>
    rw [call_aside he]
    exact hp.aside step w (.refl _ w)
  | some e =>
    rw [call_enter he]
    obtain ⟨ds, inner, v, rest, hfits, hinner, hrest, hin, hout, -⟩ := hp.enter he
    refine ⟨_, .call hfits hinner hrest, ?_⟩
    simpa only [List.cons_append, List.append_assoc, List.nil_append] using hin.append hout

/-- Whatever is performed, however deep calls may nest, is a sequence of calls. -/
theorem traced (budget depth : Nat) : Traced (World.perform budget depth) := by
  induction depth with
  | zero => exact fun c step w => .refl c.thread w
  | succ depth ih => exact fun c step w => ih.call step w

end World

end MarketFeed.Rehearsal
