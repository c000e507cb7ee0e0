import MarketFeed.Proofs.Rehearsal.Failures
import MarketFeed.Proofs.Rehearsal.Upkeep

set_option autoImplicit false

/-!
# What the registry holds

A host program makes requests, one after the other, each with whatever pointers it likes
(`Request`). The deeds of a run account for the handles that are live after it (`Ledger`): those that
were issued and not freed since, and of builders those that were used up. Whatever a run came to, each
call deals with its handle as `Gate` says. The main result is `handles_live_until_freed`.
-/

namespace MarketFeed.Rehearsal

open Boundary

/-! ## Single calls -/

theorem World.ofHandle_failure {halt : Halt} (h : halt.Own) (operation : String) :
    (World.failure operation halt).ofHandle = false := by
  cases halt with
  | failed cause => exact h
  | panicked message => rfl

/-- How a call deals with the handle it is given. -/
structure Gate (budget depth : Nat) (c : Caller) (step : HandleStep) (w : World) : Prop where
  /-- A pointer that is no live handle of the kind is refused, and nothing else happens. -/
  refused : ∀ kind, step.kind? = some kind → ¬ w.registry.Live kind (w.pointer step.handle) →
    ¬ w.Ignores step →
    World.Fails budget depth c step w (kind.refusal (w.pointer step.handle))
  /-- A live handle of the kind is not. -/
  admitted : ∀ kind, step.kind? = some kind → w.registry.Live kind (w.pointer step.handle) →
    ∀ cause, World.outcome? budget depth c step w = some (.error cause) → cause.ofHandle = false
  /-- Null can be freed; nothing happens. -/
  ignored : w.Ignores step →
    World.outcome? budget depth c step w = some (.ok { value := .void }) ∧
      World.perform budget (depth + 1) c step w =
        (⟨.void, some none, none⟩, w.setSlot c.thread none)
  /-- A builder that is freed is removed, and that is all. -/
  freedBuilder : ∀ handle b, step = .builderFree handle → w.pointer handle = some b →
    w.registry.Live .builder (some b) → (World.perform budget (depth + 1) c step w).2 =
      { w.setSlot c.thread none with registry := w.registry.remove b }
  /-- A session that is freed is removed. Then callbacks may make calls. -/
  freedSession : ∀ handle a, step = .sessionFree handle → w.pointer handle = some a →
    w.registry.Live .session (some a) → ∃ es, World.Made c.thread es ∧
      Orderly (Function.update w.registry.handle? a none) (deeds es)
        (World.perform budget (depth + 1) c step w).2.registry.handle?
  /-- A build that fails leaves the builder as it was. -/
  unbuilt : ∀ handle name via cause, step = .build handle name via →
    World.outcome? budget depth c step w = some (.error cause) →
    World.Fails budget depth c step w cause
  /-- A build that succeeds uses up the builder, which was open, and adds one session with its
  configuration, where no handle was live. -/
  built : ∀ handle name via s, step = .build handle name via →
    World.outcome? budget depth c step w = some (.ok s) →
    ∃ b config engine a, w.pointer handle = some b ∧
      w.registry.handle? b = some (.builder (.opened config)) ∧ a ≠ 0 ∧
      w.registry.handle? a = none ∧
      s = { value := .flag true, note := .session name a w.cells.length } ∧
      let w' := (World.perform budget (depth + 1) c step w).2
      w'.registry.handle? = Function.update
        (Function.update w.registry.handle? b (some (.builder .consumed)))
        a (some (.session w.cells.length)) ∧
      w'.cells = w.cells ++ [⟨{ session := .new config engine }, 0⟩]
  /-- Nothing is set on, and no session is built from, a builder that was used up. -/
  used : ∀ b, w.pointer step.handle = some b →
    w.registry.handle? b = some (.builder .consumed) → step.kind? = some .builder →
    step.frees = false → ∃ cause, cause.status = -1 ∧ World.Fails budget depth c step w cause

namespace Gate

variable {budget depth : Nat} {c : Caller} {step : HandleStep} {w : World} {kind : HandleKind}

theorem exists_entryPoint (budget depth : Nat) (c : Caller) (w : World)
    (hk : step.kind? = some kind) : ∃ e,
      World.entryPoint? (World.hosts (World.perform budget depth) budget c) w step = some e := by
  refine Option.isSome_iff_exists.mp ((World.entryPoint?_crosses w step).trans ?_)
  cases step <;> first | rfl | cases hk

theorem of_refused (hk : step.kind? = some kind)
    (hl : ¬ w.registry.Live kind (w.pointer step.handle)) (hi : ¬ w.Ignores step) :
    World.Fails budget depth c step w (kind.refusal (w.pointer step.handle)) := by
  obtain ⟨e, he⟩ := exists_entryPoint budget depth c w hk
  exact World.fails_of_body he
    (World.entryPoint?_refused (w := w.setSlot c.thread none) he hk hl hi)

theorem of_admitted (hk : step.kind? = some kind)
    (hl : w.registry.Live kind (w.pointer step.handle)) {cause : SessionError}
    (ho : World.outcome? budget depth c step w = some (.error cause)) :
    cause.ofHandle = false := by
  obtain ⟨e, halt, w', he, hb, rfl⟩ := World.body_of_error ho
  obtain ⟨hown, -⟩ := World.entryPoint?_error (w := w.setSlot c.thread none) he hk hl hb
  exact World.ofHandle_failure hown e.operation

theorem of_ignored (hi : w.Ignores step) :
    World.outcome? budget depth c step w = some (.ok { value := .void }) ∧
      World.perform budget (depth + 1) c step w =
        (⟨.void, some none, none⟩, w.setSlot c.thread none) := by
  obtain ⟨kind, hk⟩ : ∃ kind, step.kind? = some kind := by
    cases step with
    | builderFree | sessionFree => exact ⟨_, rfl⟩
    | _ => cases hi.1
  obtain ⟨e, he⟩ := exists_entryPoint budget depth c w hk
  have hb := World.entryPoint?_ignored he hi (w.setSlot c.thread none)
  have hafter : e.afterwards = pure () := by
    cases step with
    | builderFree | sessionFree =>
      cases he
      rfl
    | _ => cases hi.1
  constructor
  · rw [World.outcome?, he, Option.map_some, World.guarded_ok hb]
  · have hcall : World.perform budget (depth + 1) c step w = World.enter c.thread e w :=
      World.call_enter he
    rw [hcall, World.enter_ok hb, World.slot_note, World.slot_setSlot_self, hafter]
    rfl

theorem of_freedBuilder {handle : Option String} {b : Nat} (hp : w.pointer handle = some b)
    (hl : w.registry.Live .builder (some b)) :
    (World.perform budget (depth + 1) c (.builderFree handle) w).2 =
      { w.setSlot c.thread none with registry := w.registry.remove b } := by
  let v := w.setSlot c.thread none
  obtain ⟨_, slot, hb, -, hok⟩ := Registry.builder_of_live hl
  cases hb
  have hrun : World.onRegistry (fun r => World.freeBuilder r (w.pointer handle)) v =
      (.ok (), { v with registry := w.registry.remove b }) :=
    hp.symm ▸ World.onRegistry_run (w := v) (World.freeBuilder_ok hok)
  let e : World.EntryPoint := .void "fb_builder_free"
    (World.onRegistry fun r => World.freeBuilder r (w.pointer handle))
  have hcall : World.perform budget (depth + 1) c (.builderFree handle) w =
      World.enter c.thread e w := World.call_enter rfl
  rw [hcall, World.enter_ok (World.giving_run hrun)]
  rfl

theorem of_freedSession {handle : Option String} {a : Nat} (hp : w.pointer handle = some a)
    (hl : w.registry.Live .session (some a)) : ∃ es, World.Made c.thread es ∧
      Orderly (Function.update w.registry.handle? a none) (deeds es)
        (World.perform budget (depth + 1) c (.sessionFree handle) w).2.registry.handle? := by
  obtain ⟨e, he⟩ : ∃ e, World.entryPoint? (World.hosts (World.perform budget depth) budget c) w
      (.sessionFree handle) = some e := ⟨_, rfl⟩
  obtain ⟨ds, inner, v, rest, hfits, hinner, hrest, hin, hout, -⟩ :=
    (World.traced budget depth).enter he
  have hcall : World.perform budget (depth + 1) c (.sessionFree handle) w =
      World.enter c.thread e w := World.call_enter he
  have hall := (hin.append hout).orderly
  rw [← hcall] at hall
  obtain ⟨_, ha, rfl, -⟩ | ⟨hnull | hrefused, -⟩ := hfits
  · cases ha.symm.trans hp
    simp only [List.map_cons, List.map_nil, List.cons_append, List.nil_append, List.append_assoc,
      deeds, List.filterMap_cons, List.filterMap_append, Crossing.deed?] at hall
    cases hall with
    | cons hd h => exact ⟨inner ++ rest, hinner.append hrest, by rwa [deeds_append]⟩
  · cases hnull.symm.trans hp
  · -- the session is live, so the call is not refused
    have hpointer : w.pointer (HandleStep.sessionFree handle).handle = some a := hp
    have ho : World.outcome? budget depth c (.sessionFree handle) w =
        some (.error (HandleKind.session.refusal (some a))) := by
      rw [World.outcome?, he, Option.map_some, hrefused, hpointer]
    cases of_admitted rfl (hp.symm ▸ hl) ho

theorem of_unbuilt {handle : Option String} {name : String} {via : Via} {cause : SessionError}
    (ho : World.outcome? budget depth c (.build handle name via) w = some (.error cause)) :
    World.Fails budget depth c (.build handle name via) w cause := by
  obtain ⟨e, halt, w', he, hb, rfl⟩ := World.body_of_error ho
  have hw : w' = w.setSlot c.thread none := by
    cases he
    exact World.build_error (World.giving_error hb)
  rw [hw] at hb
  exact World.fails_of_body he hb

theorem of_built {handle : Option String} {name : String} {via : Via} {s : World.Success}
    (ho : World.outcome? budget depth c (.build handle name via) w = some (.ok s)) :
    ∃ b config engine a, w.pointer handle = some b ∧
      w.registry.handle? b = some (.builder (.opened config)) ∧ a ≠ 0 ∧
      w.registry.handle? a = none ∧
      s = { value := .flag true, note := .session name a w.cells.length } ∧
      let w' := (World.perform budget (depth + 1) c (.build handle name via) w).2
      w'.registry.handle? = Function.update
        (Function.update w.registry.handle? b (some (.builder .consumed)))
        a (some (.session w.cells.length)) ∧
      w'.cells = w.cells ++ [⟨{ session := .new config engine }, 0⟩] := by
  obtain ⟨e, w', he, hb, hperform⟩ := World.body_of_ok ho
  cases he
  obtain ⟨⟨a, number⟩, hrun, rfl⟩ := World.giving_ok hb
  let r := w.registry
  rcases World.build_cases (w.pointer handle) via (w.setSlot c.thread none) with
    ⟨halt, hfailed⟩ | ⟨b, config, session, connector, hp, hopen, hc, hbuilt⟩
  · rw [hfailed] at hrun
    cases hrun
  · rw [hbuilt] at hrun
    cases hrun
    obtain ⟨engine, rfl⟩ := World.connect_new hc
    have hdoes : (Deed.built b (r.setBuilder b .consumed).next w.cells.length).Does r
        ((r.setBuilder b .consumed).add (.session w.cells.length)).2 := ⟨⟨config, hopen⟩, rfl, rfl⟩
    obtain ⟨⟨-, hne, hfresh⟩, hupon⟩ := hdoes.upon
    refine ⟨b, config, engine, _, hp, hopen, hne, hfresh, rfl, ?_⟩
    rw [hperform]
    exact ⟨hupon, rfl⟩

theorem of_used {b : Nat} (hp : w.pointer step.handle = some b)
    (hb : w.registry.handle? b = some (.builder .consumed)) (hk : step.kind? = some .builder)
    (hf : step.frees = false) :
    ∃ cause, cause.status = -1 ∧ World.Fails budget depth c step w cause := by
  let v := w.setSlot c.thread none
  obtain ⟨entry, he⟩ := exists_entryPoint budget depth c w hk
  suffices hbody : ∃ cause, cause.status = -1 ∧ entry.body v = (.error (.failed cause), v) by
    obtain ⟨cause, hstatus, hbody⟩ := hbody
    exact ⟨cause, hstatus, World.fails_of_body he hbody⟩
  cases step with
  | edit handle e =>
    cases he
    obtain ⟨cause, hcause, hstatus, -⟩ := edit_consumed hb e
    have hedit : edit v.registry (w.pointer handle) e = (.error cause, v.registry) :=
      hp.symm ▸ hcause
    exact ⟨cause, hstatus, World.giving_run (World.onRegistry_gone hedit)⟩
  | build handle name via =>
    cases he
    have hrun : World.build (w.pointer handle) via v = (.error (.failed .builderConsumed), v) :=
      hp.symm ▸ World.build_consumed (w := v) hb via
    exact ⟨.builderConsumed, rfl, World.giving_run hrun⟩
  | builderFree => cases hf
  | _ => cases hk

theorem all (budget depth : Nat) (c : Caller) (step : HandleStep) (w : World) :
    Gate budget depth c step w where
  refused _ := of_refused
  admitted _ hk hl _ := of_admitted hk hl
  ignored := of_ignored
  freedBuilder := by
    rintro handle b rfl
    exact of_freedBuilder
  freedSession := by
    rintro handle a rfl
    exact of_freedSession
  unbuilt := by
    rintro handle name via cause rfl
    exact of_unbuilt
  built := by
    rintro handle name via s rfl
    exact of_built
  used _ := of_used

end Gate

/-! ## Requests -/

/-- What a host program asks for: a call with the pointers that its names stand for then. -/
structure Request where
  names : Named Nat
  caller : Caller
  budget : Nat
  depth : Nat
  step : HandleStep

namespace Request

variable (r : Request) (w : World)

/-- The world in which the names stand for the pointers. -/
def facing : World := { w with names := r.names }

def serve : World :=
  (World.perform r.budget (r.depth + 1) r.caller r.step (r.facing w)).2

def outcome? : Option (Except SessionError World.Success) :=
  World.outcome? r.budget r.depth r.caller r.step (r.facing w)

/-- The crossings that are made for the request. If it is a call, it is entered with its pointer, does
what belongs to its outcome, with calls inside of it, and is left; others may follow. -/
structure Accounts (es : List Crossing) : Prop where
  made : World.Made r.caller.thread es
  happens : World.Happens w es (r.serve w)
  call : ∀ outcome, r.outcome? w = some outcome →
    let t := r.caller.thread
    let p := (r.facing w).pointer r.step.handle
    ∃ ds inner rest, r.step.Fits p outcome ds ∧
      es = .entered t r.step p :: (ds.map .did ++ inner ++ .left t r.step outcome :: rest)

theorem accounts : ∃ es, r.Accounts w es := by
  let hosts := World.hosts (World.perform r.budget r.depth) r.budget r.caller
  have htraced := World.traced r.budget r.depth
  cases he : World.entryPoint? hosts (r.facing w) r.step with
  | none =>
    obtain ⟨es, hmade, hes⟩ : World.Leads r.caller.thread (r.facing w) (r.serve w) :=
      htraced.call r.step (r.facing w)
    refine ⟨es, hmade, .work (v := r.facing w) rfl rfl hes, fun outcome ho => ?_⟩
    rw [outcome?, World.outcome?, he] at ho
    cases ho
  | some e =>
    obtain ⟨ds, inner, v, rest, hfits, hinner, hrest, hin, hout, -⟩ := htraced.enter he
    have hserve : r.serve w = (World.enter r.caller.thread e (r.facing w)).2 :=
      congrArg Prod.snd (World.call_enter he)
    have hall : World.Happens w _ _ := .work (v := r.facing w) rfl rfl (hin.append hout)
    rw [← hserve] at hall
    refine ⟨_, .call hfits hinner hrest, ?_, fun outcome ho => ?_⟩
    · simpa only [List.cons_append, List.append_assoc, List.nil_append] using hall
    · rw [outcome?, World.outcome?, he, Option.map_some, Option.some.injEq] at ho
      exact ⟨ds, inner, rest, ho ▸ hfits, ho ▸ rfl⟩

end Request

namespace World

/-- Before anything was asked for. Where handles are put is up to the allocator. -/
def fresh (allocator : Allocator) : World := { registry := { allocator } }

/-- The requests, one after the other. -/
def serve (w : World) (rs : List Request) : World := rs.foldl (fun w r => r.serve w) w

end World

/-- The crossings that are made for requests, one after the other. -/
inductive Accounts : World → List Request → List Crossing → Prop
  | nil {w : World} : Accounts w [] []
  | cons {w : World} {r : Request} {rs : List Request} {es es' : List Crossing} :
      r.Accounts w es → Accounts (r.serve w) rs es' → Accounts w (r :: rs) (es ++ es')

namespace Accounts

theorem exists_of (w : World) (rs : List Request) : ∃ es, Accounts w rs es := by
  induction rs generalizing w with
  | nil => exact ⟨[], .nil⟩
  | cons r rs ih =>
    obtain ⟨es, h⟩ := r.accounts w
    obtain ⟨es', h'⟩ := ih (r.serve w)
    exact ⟨es ++ es', .cons h h'⟩

theorem happens {w : World} {rs : List Request} {es : List Crossing} (h : Accounts w rs es) :
    World.Happens w es (w.serve rs) := by
  induction h with
  | nil => exact .nil
  | cons h _ ih => exact h.happens.append ih

end Accounts

/-! ## Ledgers -/

/-- What the deeds of a run tell of the registry after it. -/
structure Ledger (ds : List Deed) (r : Registry) : Prop where
  /-- Each deed was due: no address was issued that was live, and only open builders were used. -/
  orderly : Orderly (fun _ => none) ds r.handle?
  /-- The live handles are those that were issued and not freed since. -/
  live_iff : ∀ kind a, r.Live kind (some a) ↔
    ∃ before d after, ds = before ++ d :: after ∧ d.issued? = some (kind, a) ∧ .freed a ∉ after
  /-- What was freed is not live until its address is issued anew. -/
  gone : ∀ before a after, ds = before ++ .freed a :: after →
    (∀ d ∈ after, ∀ kind, d.issued? ≠ some (kind, a)) → ∀ kind, ¬ r.Live kind (some a)
  /-- The builder of a session is used up until it is freed, and no other is built from it. -/
  used : ∀ before b a number after, ds = before ++ .built b a number :: after →
    .freed b ∉ after → r.handle? b = some (.builder .consumed) ∧
      ∀ a' number', .built b a' number' ∉ after

theorem Ledger.of_orderly {ds : List Deed} {r : Registry}
    (h : Orderly (fun _ => none) ds r.handle?) : Ledger ds r where
  orderly := h
  live_iff kind a := Registry.live_some.trans (h.live_iff kind rfl)
  gone := by
    rintro before a after rfl hi kind hl
    obtain ⟨x, hx, -⟩ := Registry.live_some.mp hl
    rw [h.gone hi] at hx
    cases hx
  used := by
    rintro before b a number after rfl hf
    exact h.used hf

/-- After any requests, with any pointers, whatever the allocator: the live handles are the builders
and sessions that were created and not freed since, each of its kind, and a builder gives one session
at most before it is freed. Every call is let through if and only if its handle is live and of the
kind; otherwise it fails and nothing else happens. A build that fails leaves the builder as it was;
one that succeeds adds one session with its configuration and uses the builder up, on which every
setter and build fails from then on. -/
theorem handles_live_until_freed :
    (∀ (allocator : Allocator) (rs : List Request), ∃ es,
      Accounts (World.fresh allocator) rs es ∧
      Ledger (deeds es) ((World.fresh allocator).serve rs).registry) ∧
    ∀ (budget depth : Nat) (c : Caller) (step : HandleStep) (w : World),
      Gate budget depth c step w := by
  refine ⟨fun allocator rs => ?_, Gate.all⟩
  obtain ⟨es, haccounts⟩ := Accounts.exists_of (World.fresh allocator) rs
  exact ⟨es, haccounts, .of_orderly haccounts.happens.orderly⟩

end MarketFeed.Rehearsal
