import MarketFeed.Proofs.Boundary.Handles
import MarketFeed.Proofs.Rehearsal.Host
import MarketFeed.Rehearsal.Boundary

set_option autoImplicit false

/-!
# Entry points, step by step

What a call by way of an entry point comes to, given what its body does: the caller's error slot is
cleared, the body runs, and then either the host program takes note of the success or the slot is
filled with the message of the failure (`enter_ok`, `enter_error`).
-/

namespace MarketFeed.Rehearsal

open Boundary

namespace World

/-! ## Error slots -/

theorem slot_setSlot_self (w : World) (t : Thread) (message : Option String) :
    (w.setSlot t message).slot t = message := by
  cases message with
  | none => exact lookup_filter_self w.slots t
  | some m => simp [slot, setSlot]

theorem slot_setSlot_ne (w : World) {t u : Thread} (h : u ≠ t) (message : Option String) :
    (w.setSlot t message).slot u = w.slot u := by
  have hne : (u == t) = false := by simpa using h
  cases message with
  | none => exact lookup_filter_ne h w.slots
  | some m =>
    show ((t, m) :: w.slots.filter (·.1 != t)).lookup u = _
    rw [List.lookup_cons, hne]
    exact lookup_filter_ne h w.slots

theorem slot_setSlot (w : World) (t u : Thread) (message : Option String) :
    (w.setSlot t message).slot u = if u = t then message else w.slot u := by
  by_cases h : u = t
  · rw [if_pos h, h, slot_setSlot_self]
  · rw [if_neg h, slot_setSlot_ne w h]

@[simp] theorem note_slots (w : World) (n : Note) : (w.note n).slots = w.slots := by
  cases n <;> rfl

@[simp] theorem note_registry (w : World) (n : Note) : (w.note n).registry = w.registry := by
  cases n <;> rfl

theorem slot_note (w : World) (n : Note) (t : Thread) : (w.note n).slot t = w.slot t := by
  rw [slot, slot, note_slots]

/-! ## Bodies -/

variable {w : World} {t : Thread} {β : Type}

theorem onRegistry_run {op : Registry → Except SessionError β × Registry} {b : β} {r : Registry}
    (h : op w.registry = (.ok b, r)) : onRegistry op w = (.ok b, { w with registry := r }) := by
  simp only [onRegistry, h]
  rfl

theorem onRegistry_gone {op : Registry → Except SessionError β × Registry} {e : SessionError}
    (h : op w.registry = (.error e, w.registry)) :
    onRegistry op w = (.error (.failed e), w) := by
  simp only [onRegistry, h]
  rfl

theorem freeBuilder_ok {r : Registry} {b : Nat} {slot : BuilderSlot}
    (h : r.builder (some b) = .ok (b, slot)) :
    freeBuilder r (some b) = (.ok (), r.remove b) := by
  simp only [freeBuilder, h]

theorem freeBuilder_gone {r : Registry} {b : Nat} {e : SessionError}
    (h : r.builder (some b) = .error e) : freeBuilder r (some b) = (.error e, r) := by
  simp only [freeBuilder, h]

theorem onSession_run {q : Pointer} {number : Nat} {f : Nat → StateM World (Except Halt β)}
    (h : w.registry.session q = .ok number) : onSession q f w = f number w := by
  simp only [onSession, Host.bind_run, Host.get_run, h]

theorem onSession_gone {q : Pointer} {e : SessionError} {f : Nat → StateM World (Except Halt β)}
    (h : w.registry.session q = .error e) : onSession q f w = (.error (.failed e), w) := by
  simp only [onSession, Host.bind_run, Host.get_run, h, Host.pure_run]

theorem free_run {hosts : Hosts} {address number : Nat}
    (h : w.registry.session (some address) = .ok number) :
    free hosts (some address) w =
      (hosts number).release { w with registry := w.registry.remove address } := by
  simp only [free, Host.bind_run, Host.get_run, h, Host.modify_run]

theorem free_gone {hosts : Hosts} {address : Nat} {e : SessionError}
    (h : w.registry.session (some address) = .error e) :
    free hosts (some address) w = (.error (.failed e), w) := by
  simp only [free, Host.bind_run, Host.get_run, h, Host.pure_run]

theorem onEngine_run {hosts : Hosts} {name : String} {number : Nat} {missing : Value}
    {op : Host World HandleStep HandleReply → StateM World Value}
    (h : w.built.get? name = some number) :
    onEngine hosts name missing op w =
      (⟨(op (hosts number) w).1, none, none⟩,
        ((hosts number).settle (op (hosts number) w).2).2) := by
  simp only [onEngine, Host.bind_run, Host.get_run, h, Host.pure_run]

/-- When no session is opened the connector is as it was. -/
theorem connect_error {config : Config} {via : Via} {halt : Halt} {k : Connector}
    (h : w.connect config via = (.error halt, k)) : k = w.connector := by
  have hrefused {r : Except SessionError Session × Connector}
      (hr : ∀ e, r.1 = .error e → r.2 = w.connector)
      (h : (r.1.mapError Halt.failed, r.2) = (.error halt, k)) : k = w.connector := by
    rcases r with ⟨e | session, k'⟩
    · cases h
      exact hr e rfl
    · cases h
  cases via with
  | replay => exact hrefused (fun e he => Connector.open_error (Prod.ext he rfl)) h
  | manual stopEnds =>
    exact hrefused (r := Session.connect w.connector config (Manual.open stopEnds))
      (fun e he => Session.connect_error (fun _ _ hc => by cases hc) (Prod.ext he rfl)) h
  | failing f =>
    unfold World.connect at h
    cases hv : config.validate <;> simp only [hv] at h <;> cases h <;> rfl

/-- A build fails and changes nothing, or uses up an open builder and adds a session. -/
theorem build_cases (p : Pointer) (via : Via) (w : World) :
    (∃ halt, build p via w = (.error halt, w)) ∨
      ∃ b config session connector, p = some b ∧
        w.registry.handle? b = some (.builder (.opened config)) ∧
        w.connect config via = (.ok session, connector) ∧
        build p via w = (.ok ((w.registry.setBuilder b .consumed).next, w.cells.length),
          { w with
            registry := ((w.registry.setBuilder b .consumed).add (.session w.cells.length)).2
            connector
            cells := w.cells ++ [⟨{ session }, 0⟩] }) := by
  unfold build
  rcases w.registry.builder_cases p with ⟨b, slot, hp, hb, hok⟩ | ⟨-, herror⟩
  · rw [hok]
    cases slot with
    | consumed => exact .inl ⟨_, rfl⟩
    | opened config =>
      rcases hc : w.connect config via with ⟨halt | session, connector⟩
      · obtain rfl : connector = w.connector := World.connect_error hc
        exact .inl ⟨halt, by simp only [hc]⟩
      · exact .inr ⟨b, config, session, connector, hp, hb, hc, by simp only [hc]; rfl⟩
  · rw [herror]
    exact .inl ⟨_, rfl⟩

/-! ## Calls -/

theorem giving_run {body : StateM World (Except Halt β)} {give : β → Success} {r : Except Halt β}
    {w' : World} (h : body w = (r, w')) : EntryPoint.giving body give w = (r.map give, w') := by
  simp only [EntryPoint.giving, Host.bind_run, h, Host.pure_run]

theorem giving_ok {body : StateM World (Except Halt β)} {give : β → Success} {s : Success}
    {w' : World} (h : EntryPoint.giving body give w = (.ok s, w')) :
    ∃ b, body w = (.ok b, w') ∧ s = give b := by
  cases hb : body w with
  | mk r w₁ =>
  rw [giving_run hb] at h
  cases r with
  | error halt => cases h
  | ok b =>
    cases h
    exact ⟨b, rfl, rfl⟩

theorem giving_error {body : StateM World (Except Halt β)} {give : β → Success} {halt : Halt}
    {w' : World} (h : EntryPoint.giving body give w = (.error halt, w')) :
    body w = (.error halt, w') := by
  cases hb : body w with
  | mk r w₁ =>
  rw [giving_run hb] at h
  cases r with
  | error halt =>
    cases h
    rfl
  | ok b => cases h

theorem guarded_ok {operation : String} {body : StateM World (Except Halt β)} {b : β} {w' : World}
    (hb : body (w.setSlot t none) = (.ok b, w')) : guarded t operation body w = (.ok b, w') := by
  simp only [guarded, Host.bind_run, Host.modify_run, hb, Host.pure_run]

theorem guarded_error {operation : String} {body : StateM World (Except Halt β)} {halt : Halt}
    {w' : World} (hb : body (w.setSlot t none) = (.error halt, w')) :
    guarded t operation body w = (.error (failure operation halt),
      w'.setSlot t (some (withoutNul (failure operation halt).message))) := by
  simp only [guarded, Host.bind_run, Host.modify_run, hb, Host.pure_run]

variable {e : EntryPoint} {w' : World}

theorem enter_ok {s : Success} (hb : e.body (w.setSlot t none) = (.ok s, w')) :
    enter t e w = (⟨s.value, some ((w'.note s.note).slot t), s.out⟩,
      (e.afterwards (w'.note s.note)).2) := by
  simp only [enter, Host.bind_run, guarded_ok hb, Host.modify_run, reply, Host.get_run,
    Host.pure_run]

theorem enter_error {halt : Halt} (hb : e.body (w.setSlot t none) = (.error halt, w')) :
    let cause := failure e.operation halt
    let message := withoutNul cause.message
    enter t e w = (⟨e.failed cause, some (some message), e.untouched⟩,
      w'.setSlot t (some message)) := by
  simp only [enter, Host.bind_run, guarded_error hb, reply, Host.get_run, Host.pure_run,
    slot_setSlot_self]

theorem call_enter {hosts : Hosts} {step : HandleStep} (h : entryPoint? hosts w step = some e) :
    call hosts t step w = enter t e w := by
  simp only [call, Host.bind_run, Host.get_run, h]

theorem call_aside {hosts : Hosts} {step : HandleStep} (h : entryPoint? hosts w step = none) :
    call hosts t step w = aside hosts t step w := by
  simp only [call, Host.bind_run, Host.get_run, h]

end World

end MarketFeed.Rehearsal
