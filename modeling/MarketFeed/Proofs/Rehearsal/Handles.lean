import MarketFeed.Proofs.Rehearsal.Entry
import MarketFeed.Proofs.Rehearsal.Surfaces

set_option autoImplicit false

/-!
# Sessions behind handles

`World.Behind` says that a session stands behind a handle in a world and does as another one that is
used directly. Every call through the handle keeps it so, and its reply goes with the answer to the
same call made directly: what is asked (`Behind.ask`), by the owner or by a callback (`Placed`), what
callbacks ask (`nests`), starts and whatever is put into the feed (`Behind.use`).
-/

namespace MarketFeed

/-! ## Sessions that were given up -/

theorem Rule.released {s s' : Session} {e : Replay} {m : Move} {t : List Mark}
    (hr : Rule s e m t s') (h : s.released = true) : s'.released = true := by
  have hn : ∀ r : Reply, (s.noteReply r).released = true := by
    intro r
    cases r <;> exact h
  cases hr with
  | release => rfl
  | record =>
    unfold Session.showing
    split <;> exact h
  | greeted | offer | proceed | stopped | restart | abandon => exact hn _
  | _ => exact h

theorem Sound.released_after {s : Session} {e : Replay} (hs : Sound s e) (h : s.released = true)
    (ms : List Move) : (s.after ms).released = true := by
  induction ms generalizing s e with
  | nil => exact h
  | cons m ms ih =>
    obtain ⟨e', hs'⟩ := hs.move m
    exact ih hs' ((hs.rule m).released h)

namespace Rehearsal

open Boundary

/-! ## Sessions behind handles -/

variable {name : String} {address k : Nat}

theorem RefinesIn.refines {p : Phase} {x : Scripted HandleStep HandleReply} {y : Stage}
    (h : RefinesIn name p x y) : Refines name x y := by
  cases p with
  | rest => exact h
  | within | noted => exact h.1

/-- An operation in any phase, which leaves the callback that runs as it is. -/
theorem RefinesIn.operate {p : Phase} {x : Scripted HandleStep HandleReply} {y : Stage}
    (h : RefinesIn name p x y) {β : Type} {op : Session → β × Session} (m : Move)
    (hm : m.isOperation = true) (hop : ∀ s, (op s).2 = s.move m)
    (hi : Session.Oblivious op) :
    RefinesIn name p (x.operate op).2 (y.operate op).2 ∧ (x.operate op).1 = (y.operate op).1 := by
  obtain ⟨hr, ha, hc⟩ := h.refines.operate m hm hop hi
  refine ⟨?_, ha⟩
  cases p with
  | rest => exact hr
  | within | noted => exact ⟨hr, hc.trans h.2.1, h.2.2⟩

/-- A session that is not held goes on in any phase. -/
theorem RefinesIn.wake {p : Phase} {x : Scripted HandleStep HandleReply} {y : Stage}
    (h : RefinesIn name p x y) :
    RefinesIn name p { x with held := false } { y with held := false } := by
  have hr := h.refines
  have hwake : Refines name { x with held := false } { y with held := false } :=
    ⟨hr.session, hr.scripts, rfl, hr.log, hr.sound, nofun⟩
  cases p with
  | rest => exact hwake
  | within | noted => exact ⟨hwake, h.2⟩

/-- The host of a session that lives by itself, for a caller who may be in one of its callbacks. -/
def Stage.hostIn (inside : Bool) (fuel : Nat) : Host Stage SessionCall Answer :=
  { Stage.host fuel with delivering := inside }

/-- What the host does for a session that is there. -/
def Ask.answered (host : Host Stage SessionCall Answer) : Ask → StateM Stage Answer
  | .stop timeout _ => .ofVerdict <$> host.stop (some timeout)
  | .block => .verdict <$> host.wait none
  | .blockTimeout timeout => .verdict <$> host.wait (some timeout)
  | .reconnect => .ofUnit <$> host.operate (·.reconnect)
  | .resubscribe => .ofUnit <$> host.operate (·.resubscribe)
  | .subscribe asked => .ofUnit <$> host.operate (Stage.subscribe asked.request)
  | .resolve id _ => fun y => (.symbol (y.session.resolve id), y)
  | .stats => fun y => (.stats y.session.stats, y)
  | .free => .ofRelease <$> host.release

namespace World

variable {w : World} {y : Stage} {p : Phase}

/-- The session number `k` stands behind a handle, under a name and at an address, and does as `y`
does. A session that was freed has no handle any more. -/
structure Behind (name : String) (address k : Nat) (p : Phase) (w : World) (y : Stage) : Prop where
  cell : ∃ c, w.cell? k = some c ∧ RefinesIn name p c.scripted y
  named : w.names.get? name = some address
  built : w.built.filter (·.1 == name) = [(name, k)]
  handle : w.registry.session (some address) =
    if y.session.released then .error (.invalidHandle "session") else .ok k
  shown : w.shown.get? name = some address ∨
    y.session.released = true ∧ w.shown.get? name = none

theorem cell?_modifyCell (w : World) (j : Nat) (f : Cell → Cell) :
    (w.modifyCell j f).cell? k = (w.cell? k).map fun c => if j = k then f c else c := by
  simp only [cell?, modifyCell, List.getElem?_modify]
  rfl

namespace Behind

theorem scripted (h : Behind name address k p w y) : RefinesIn name p (w.scripted k) y := by
  obtain ⟨c, hc, hr⟩ := h.cell
  rw [scripted_eq, hc]
  exact hr

theorem released (h : Behind name address k p w y) :
    y.session.released = (w.scripted k).session.released :=
  (h.scripted.refines.same (·.released) fun _ _ => rfl).symm

theorem pointer (h : Behind name address k p w y) : w.pointer (some name) = some address := by
  simp only [World.pointer, Option.map_some, h.named, Option.getD_some]

/-- A world that differs in its cells only. -/
theorem of_cell (h : Behind name address k p w y) {w' : World} {y' : Stage} {q : Phase}
    (hw : w' = { w with cells := w'.cells })
    (hc : ∃ c, w'.cell? k = some c ∧ RefinesIn name q c.scripted y')
    (hr : y'.session.released = y.session.released) : Behind name address k q w' y' := by
  rw [hw]
  exact ⟨hc, h.named, h.built, hr ▸ h.handle, hr ▸ h.shown⟩

theorem setSlot (h : Behind name address k p w y) (t : Thread) (message : Option String) :
    Behind name address k p (w.setSlot t message) y :=
  ⟨h.cell, h.named, h.built, h.handle, h.shown⟩

/-- A loop is begun on a new thread. -/
theorem begin (h : Behind name address k p w y) :
    Behind name address k p (w.modifyCell k fun c => { c with loops := c.loops + 1 }) y := by
  obtain ⟨c, hc, hr⟩ := h.cell
  refine h.of_cell rfl ⟨{ c with loops := c.loops + 1 }, ?_, hr⟩ rfl
  rw [cell?_modifyCell, hc, Option.map_some, if_pos rfl]

/-- The session does something, and so does `y`. -/
theorem update (h : Behind name address k p w y) {x : Scripted HandleStep HandleReply} {y' : Stage}
    {q : Phase} (hx : RefinesIn name q x y') (hr : y'.session.released = y.session.released) :
    Behind name address k q (w.modifyCell k ({ · with scripted := x })) y' := by
  obtain ⟨c, hc, -⟩ := h.cell
  refine h.of_cell rfl ⟨{ c with scripted := x }, ?_, hx⟩ hr
  rw [cell?_modifyCell, hc, Option.map_some, if_pos rfl]

end Behind

variable {perform : Caller → HandleStep → StateM World HandleReply} {budget : Nat} {c : Caller}
  {t : Thread} {β γ : Type}

/-- An operation that releases nothing. -/
theorem Behind.operate (h : Behind name address k p w y) {op : Session → β × Session} (m : Move)
    (hm : m.isOperation = true) (hop : ∀ s, (op s).2 = s.move m)
    (hi : Session.Oblivious op) (hr : ∀ s, (op s).2.released = s.released) :
    Behind name address k p ((hosts perform budget c k).operate op w).2 (y.operate op).2 ∧
      ((hosts perform budget c k).operate op w).1 = (y.operate op).1 := by
  obtain ⟨h', ha⟩ := h.scripted.operate m hm hop hi
  exact ⟨h.update h' (hr y.session), ha⟩

/-! ## Calls through a handle -/

/-- What a call answers and does, if the session is still there. -/
def ifThere (y : Stage) (g : StateM Stage γ) (answer : γ → Answer) : Answer × Stage :=
  if y.session.released then (.noSession, y) else (answer (g y).1, (g y).2)

/-- What is told of a call by way of an entry point, given what its body comes to. -/
def tells (e : EntryPoint) : Except Halt Success → Value × Option Out
  | .ok s => (s.value, s.out.map Out.blind)
  | .error halt => (e.failed (failure e.operation halt), e.untouched.map Out.blind)

/-- An operation on the session that stands behind the handle: it fails if the session was freed,
and else goes with what the session does directly. -/
theorem Behind.body (h : Behind name address k p w y) {e : EntryPoint}
    {f : Nat → StateM World (Except Halt β)} {give : β → Success} {g : StateM Stage γ}
    {answer : γ → Answer} {B : Except Halt β → γ → Prop}
    {goes : Answer → Option (Value × Option Out)}
    (hfg : ∀ w', w' = w.setSlot t none → y.session.released = false →
      Behind name address k p w' y →
      Behind name address k p (f k w').2 (g y).2 ∧ B (f k w').1 (g y).1)
    (hans : ∀ r r', B r r' → goes (answer r') = some (tells e (r.map give)))
    (hgone : goes .noSession = some (tells e (.error (.failed (.invalidHandle "session"))))) :
    let a := EntryPoint.giving (onSession (w.pointer (some name)) f) give (w.setSlot t none)
    let b := ifThere y g answer
    Behind name address k p a.2 b.2 ∧ goes b.1 = some (tells e a.1) := by
  have h₁ := h.setSlot t none
  have hh := h₁.handle
  rw [h.pointer]
  cases hr : y.session.released with
  | true =>
    rw [hr, if_pos rfl] at hh
    simp only [giving_run (onSession_gone hh), ifThere, hr, if_true]
    exact ⟨h₁, hgone⟩
  | false =>
    rw [hr, if_neg Bool.false_ne_true] at hh
    obtain ⟨h₂, hB⟩ := hfg _ rfl hr h₁
    have hbody : onSession (some address) f (w.setSlot t none) =
        ((f k (w.setSlot t none)).1, (f k (w.setSlot t none)).2) := onSession_run hh
    simp only [giving_run hbody, ifThere, hr, Bool.false_eq_true, if_false]
    exact ⟨h₂, hans _ _ hB⟩

/-- A call by way of an entry point to such an operation, after which nothing is left to be done. -/
theorem Behind.call (h : Behind name address k p w y) {e : EntryPoint}
    {f : Nat → StateM World (Except Halt β)} {give : β → Success} {g : StateM Stage γ}
    {answer : γ → Answer} {B : Except Halt β → γ → Prop}
    {goes : Answer → Option (Value × Option Out)}
    (hbody : e.body = EntryPoint.giving (onSession (w.pointer (some name)) f) give)
    (hnote : ∀ b, (give b).note = .nothing) (hafter : e.afterwards = pure ())
    (hfg : ∀ w', w' = w.setSlot t none → y.session.released = false →
      Behind name address k p w' y →
      Behind name address k p (f k w').2 (g y).2 ∧ B (f k w').1 (g y).1)
    (hans : ∀ r r', B r r' → goes (answer r') = some (tells e (r.map give)))
    (hgone : goes .noSession = some (tells e (.error (.failed (.invalidHandle "session"))))) :
    Behind name address k p (enter t e w).2 (ifThere y g answer).2 ∧
      goes (ifThere y g answer).1 = some (enter t e w).1.told := by
  obtain ⟨h₁, ha⟩ := h.body hfg hans hgone
  have hrun := congrFun hbody (w.setSlot t none)
  cases hb : onSession (w.pointer (some name)) f (w.setSlot t none) with
  | mk r w₁ =>
  rw [giving_run hb] at h₁ ha hrun
  cases r with
  | ok b =>
    have hw : w₁.note (give b).note = w₁ := by rw [hnote]; rfl
    rw [enter_ok hrun, hafter, hw]
    exact ⟨h₁, ha⟩
  | error halt =>
    rw [enter_error hrun]
    exact ⟨h₁.setSlot t (some _), ha⟩

/-! ## Callers -/

/-- Calls of callbacks do as the calls of the callbacks of `y`. -/
def Nests (name : String) (address k : Nat)
    (perform : Caller → HandleStep → StateM World HandleReply) : Prop :=
  ∀ (t : Thread) (i : Inner) {w : World} {y : Stage} {c : Call} {r r' : Reply},
    Behind name address k (.within c r r') w y →
    Behind name address k (.within c r r') (perform ⟨t, some k⟩ (i.foreign name) w).2
        (Stage.perform i.within y).2 ∧
      i.reply (Stage.perform i.within y).1 = some (perform ⟨t, some k⟩ (i.foreign name) w).1.told

theorem behind_mirror (hp : Nests name address k perform) (hc : c.inside ≠ some k) :
    Mirror (Behind name address k) (RefinesIn name) (Spoken name) Goes
      (hosts perform budget c k) (Stage.host budget) where
  view h := h.scripted
  update := by
    intro p q w y x y' h hx hr
    refine h.update hx ?_
    have hview : (hosts perform budget c k).view w = w.scripted k := rfl
    rw [h.released, ← hview, ← hr]
    exact (hx.refines.same (·.released) fun _ _ => rfl).symm
  perform := by
    rintro w y _ _ call r r' h ⟨i, rfl, rfl⟩
    cases i with
    | none => exact ⟨h, .none⟩
    | some i =>
      obtain ⟨h', ha⟩ := hp (w.callbackThread k c.thread) i h
      exact ⟨h', .some ⟨i, ha⟩⟩
  delivering := beq_false_of_ne hc
  fuel := rfl

/-- A caller is the owner of a session at rest, or one of its callbacks. -/
inductive Placed (name : String) (address k : Nat)
    (perform : Caller → HandleStep → StateM World HandleReply) :
    Caller → Phase → Session → Bool → Prop
  | owner {c : Caller} {s : Session} : Nests name address k perform → c.inside ≠ some k →
      s.calling = none → Placed name address k perform c .rest s false
  | callback {c : Caller} {s : Session} {call : Call} {r r' : Reply} : c.inside = some k →
      s.calling = some call → Placed name address k perform c (.within call r r') s true

variable {inside : Bool}

theorem Placed.move {s s' : Session} (h : Placed name address k perform c p s inside)
    (hs : s'.calling = s.calling) : Placed name address k perform c p s' inside := by
  cases h with
  | owner hp hc hcalling => exact .owner hp hc (hs.trans hcalling)
  | callback hc hcalling => exact .callback hc (hs.trans hcalling)

theorem Placed.delivering {s : Session} (h : Placed name address k perform c p s inside) :
    (hosts perform budget c k).delivering = inside := by
  cases h with
  | owner _ hc => exact beq_false_of_ne hc
  | callback hc => exact beq_iff_eq.mpr hc

namespace Behind

variable (h : Behind name address k p w y)
  (hpl : Placed name address k perform c p y.session inside)
include h hpl

theorem wait (timeout : Option Nat) :
    Behind name address k p ((hosts perform budget c k).wait timeout w).2
        ((Stage.hostIn inside budget).wait timeout y).2 ∧
      ((hosts perform budget c k).wait timeout w).1 =
        ((Stage.hostIn inside budget).wait timeout y).1 := by
  cases hpl with
  | owner hp hc => exact (behind_mirror hp hc).wait refines_likeness timeout w y h
  | callback hc =>
    have hd : (hosts perform budget c k).delivering = true := beq_iff_eq.mpr hc
    have hw : (w.scripted k).session.waited = y.session.waited :=
      h.scripted.refines.same (·.waited) fun _ _ => rfl
    have hd' : (Stage.hostIn true budget).delivering = true := rfl
    simp only [Host.wait_run, hd, hd', Lifecycle.atOnce_delivering]
    exact ⟨h, hw⟩

theorem stop (timeout : Option Nat) :
    Behind name address k p ((hosts perform budget c k).stop timeout w).2
        ((Stage.hostIn inside budget).stop timeout y).2 ∧
      ((hosts perform budget c k).stop timeout w).1 =
        ((Stage.hostIn inside budget).stop timeout y).1 := by
  have hop : Behind name address k p
        ((hosts perform budget c k).operate (·.requestStop) w).2 (y.operate (·.requestStop)).2 ∧ _ :=
    h.operate .stop rfl (fun _ => rfl) .requestStop fun s => s.requestStop_released
  have hpl₁ : Placed name address k perform c p (y.operate (·.requestStop)).2.session inside :=
    hpl.move (Session.Keeps.requestStop y.session).calling
  have hy : (Stage.hostIn inside budget).operate (·.requestStop) y = y.operate (·.requestStop) := rfl
  rw [Host.stop_run, Host.stop_run, hy]
  generalize (hosts perform budget c k).operate (·.requestStop) w = a at hop ⊢
  generalize y.operate (·.requestStop) = b at hop hpl₁ ⊢
  obtain ⟨r, w₁⟩ := a
  obtain ⟨r', y₁⟩ := b
  obtain ⟨h₁, rfl⟩ := hop
  cases r with
  | error halt => exact ⟨h₁, rfl⟩
  | ok =>
    have hx := h₁.scripted
    obtain ⟨n, hn⟩ := hx.refines.session
    have hview : (hosts perform budget c k).view w₁ = w₁.scripted k := rfl
    have hview' : (Stage.hostIn inside budget).view y₁ = y₁ := rfl
    have hl : (w₁.scripted k).session.lifecycle = y₁.session.lifecycle :=
      hx.refines.same (·.lifecycle) fun _ _ => rfl
    have he : (w₁.scripted k).session.engine = y₁.session.engine :=
      hx.refines.same (·.engine) fun _ _ => rfl
    have hd : (Stage.hostIn inside budget).delivering = inside := rfl
    simp only [hview, hview', hl, he, hd, hpl₁.delivering]
    split
    · -- the loop is held
      rename_i hc
      have hheld : Behind name address k p
          (w₁.modifyCell k ({ · with scripted := { w₁.scripted k with held := true } }))
          { y₁ with held := true } := by
        cases hpl₁ with
        | callback => cases hc
        | owner _ _ hcalling =>
          have hxc : (w₁.scripted k).session.calling = none := by
            rw [hn] at hcalling
            exact hcalling
          exact h₁.update (q := .rest)
            ⟨⟨n, hn⟩, hx.scripts, rfl, hx.log, hx.sound, fun _ => hxc⟩ rfl
      obtain ⟨h₂, ha⟩ := hheld.wait hpl₁ timeout
      exact ⟨h₂, congrArg Except.ok ha⟩
    · obtain ⟨h₂, ha⟩ := h₁.wait hpl₁ timeout
      exact ⟨h₂, congrArg Except.ok ha⟩

/-- Whatever is left to be done is done on both sides. -/
theorem settle :
    Behind name address k p ((hosts perform budget c k).settle w).2
      ((Stage.hostIn inside budget).settle y).2 := by
  cases hpl with
  | owner hp hc => exact ((behind_mirror hp hc).settle refines_likeness w y h).1
  | callback hc hcalling =>
    have hx : (w.scripted k).session.calling = y.session.calling :=
      h.scripted.refines.same (·.calling) fun _ _ => rfl
    have hy : (Stage.hostIn true budget).settle y = ((), y) := Host.settle_calling _ hcalling
    rw [(hosts perform budget c k).settle_calling (hx.trans hcalling), hy]
    exact h

end Behind

/-! ## Releases -/

/-- A session that was given up stays so while it settles. -/
theorem Placed.settle_released (hpl : Placed name address k perform c p y.session inside)
    (hs : ∃ e, Sound y.session e) (hr : y.session.released = true) :
    ((Stage.hostIn inside budget).settle y).2.session.released = true := by
  obtain ⟨e, hs⟩ := hs
  cases hpl with
  | owner =>
    obtain ⟨ms, hms, -⟩ := @KeepsToRuns.settle budget y e hs
    have hhost : Stage.hostIn false budget = Stage.host budget := rfl
    rw [hhost, hms]
    exact hs.released_after hr ms
  | callback _ hcalling =>
    have hy : (Stage.hostIn true budget).settle y = ((), y) := Host.settle_calling _ hcalling
    rw [hy]
    exact hr

/-- The handle is removed before the session behind it is released. -/
theorem Behind.release (h : Behind name address k p w y)
    (hpl : Placed name address k perform c p y.session inside) :
    let a := (hosts perform budget c k).release
      { w with registry := w.registry.remove address }
    let b := (Stage.hostIn inside budget).release y
    Behind name address k p a.2 b.2 ∧ b.2.session.released = true ∧ a.1 = .ok () ∧ b.1 = .ok () := by
  let op : Session → Except Halt Unit × Session := (·.release inside)
  obtain ⟨cell, hcell, hx⟩ := h.cell
  obtain ⟨e, hs, hs'⟩ := hx.refines.sounds
  obtain ⟨hx₁, -⟩ := hx.operate (.release inside) rfl (fun _ => rfl) (.release inside)
  have hcalling : (y.session.release inside).2.calling = y.session.calling :=
    (Session.Keeps.release y.session inside).calling
  have hm : (y.operate op).2.session = y.session.move (.release inside) :=
    congrArg (Scripted.session ∘ Prod.snd) (operate_move (.release inside) (fun _ => rfl) hs')
  have hrel : (y.operate op).2.session.released = true := by rw [hm, hs'.move_release]
  have hsound : ∃ e, Sound (y.operate op).2.session e := hm ▸ hs'.move (.release inside)
  let w₁ : World := { w with registry := w.registry.remove address }
  have hw : w₁.scripted k = cell.scripted := by
    rw [scripted_eq, show w₁.cell? k = some cell from hcell]
  let x₁ := (cell.scripted.operate op).2
  let w₂ : World := w₁.modifyCell k ({ · with scripted := x₁ })
  let w₃ : World := w₂.modifyCell k ({ · with scripted := { x₁ with held := false } })
  let y₁ : Stage := { (y.operate op).2 with held := false }
  have h₃ : Behind name address k p w₃ y₁ := by
    refine ⟨⟨{ cell with scripted := { x₁ with held := false } }, ?_, hx₁.wake⟩, h.named, h.built,
      ?_, h.shown.imp id fun hn => ⟨hrel, hn.2⟩⟩
    · simp only [w₃, w₂, cell?_modifyCell, show w₁.cell? k = some cell from hcell, Option.map_some,
        if_true]
    · have hy₁ : y₁.session.released = true := hrel
      rw [hy₁, if_pos rfl]
      exact w.registry.session_remove address
  have hpl₁ : Placed name address k perform c p y₁.session inside := hpl.move hcalling
  have hview : (hosts perform budget c k).view w₁ = cell.scripted := hw
  have hview₂ : (hosts perform budget c k).view w₂ = x₁ := by
    show w₂.scripted k = x₁
    rw [scripted_eq, cell?_modifyCell, show w₁.cell? k = some cell from hcell]
    simp only [Option.map_some, if_true]
  have hx : (hosts perform budget c k).release w₁ =
      ((op cell.scripted.session).1, ((hosts perform budget c k).settle w₃).2) := by
    simp only [Host.release_run, hpl.delivering, Host.operate_run, hview]
    rw [show (hosts perform budget c k).update (cell.scripted.operate op).2 w₁ = w₂ from rfl, hview₂]
    rfl
  have hy : (Stage.hostIn inside budget).release y =
      ((op y.session).1, ((Stage.hostIn inside budget).settle y₁).2) := rfl
  show Behind name address k p ((hosts perform budget c k).release w₁).2 _ ∧ _
  rw [hx, hy]
  exact ⟨h₃.settle hpl₁, hpl₁.settle_released hsound hrel,
    hs.release_ok inside, hs'.release_ok inside⟩

/-! ## What is asked -/

/-- The answer to a call that has no other result. -/
theorem status_ofUnit (operation : String) (body : StateM World (Except Halt Unit))
    (r : Except Halt Unit) : (Answer.ofUnit r).status =
      some (tells (.status operation body) (r.map fun _ => { value := .number 0 })) := by
  rcases r with (cause | message) | _ <;> rfl

/-- A call with a status, which is an operation of the session. -/
theorem Behind.status {operation : String} {op : Session → Except Halt Unit × Session} (m : Move)
    (h : Behind name address k p w y) (hm : m.isOperation = true) (hop : ∀ s, (op s).2 = s.move m)
    (hi : Session.Oblivious op) (hr : ∀ s, (op s).2.released = s.released) :
    let a := enter t (.status operation
      (onSession (w.pointer (some name)) (World.operate (hosts perform budget c) op))) w
    let b := ifThere y (fun y => y.operate op) .ofUnit
    Behind name address k p a.2 b.2 ∧ b.1.status = some a.1.told := by
  refine h.call (B := Eq) rfl (fun _ => rfl) rfl (fun w' _ _ h' => ?_) ?_ rfl
  · exact h'.operate m hm hop hi hr
  · rintro r _ rfl
    exact status_ofUnit operation _ r

theorem take_there (step : Stage.Step) {g : StateM Stage γ} {answer : γ → Answer}
    (hs : step.ofSession = true)
    (hg : y.session.released = false → Stage.take (Stage.hostIn inside budget) step y =
      (answer (g y).1, (g y).2)) :
    Stage.take (Stage.hostIn inside budget) step y = ifThere y g answer := by
  cases hr : y.session.released with
  | true => simp [Stage.take, Stage.hostIn, Stage.host, ifThere, hs, hr]
  | false => simp [hg hr, ifThere, hr]

theorem take_ask (a : Ask) : Stage.take (Stage.hostIn inside budget) a.direct y =
    ifThere y (a.answered (Stage.hostIn inside budget)) id := by
  refine take_there a.direct (by cases a <;> rfl) fun hr => ?_
  cases a with
  | free =>
    have hrel : ((Stage.hostIn inside budget).view y).session.released = false := hr
    show Stage.take (Stage.hostIn inside budget) .drop y =
      (Answer.ofRelease ((Stage.hostIn inside budget).release y).1,
        ((Stage.hostIn inside budget).release y).2)
    simp only [Stage.take, Host.bind_run, Host.session_run, hrel, Bool.and_false,
      Bool.false_eq_true, if_false]
    generalize (Stage.hostIn inside budget).release y = r
    obtain ⟨_ | _, _⟩ := r <;> rfl
  | _ => simp [Ask.direct, Ask.answered, Stage.take, Stage.hostIn, Stage.host, hr]

namespace Behind

variable (h : Behind name address k p w y)
include h

theorem subscribe (asked : Asked) :
    let r := World.call (hosts perform budget c) t (.subscribe (some name) asked.arguments) w
    let s := ifThere y (fun y => y.operate (Stage.subscribe asked.request)) .ofUnit
    Behind name address k p r.2 s.2 ∧ s.1.status = some r.1.told := by
  rw [call_enter rfl]
  refine h.call (B := Eq) rfl (fun _ => rfl) rfl (fun w' _ _ h' => ?_) ?_ rfl
  · unfold World.subscribe
    cases hsub : asked.arguments.subscription with
    | error cause =>
      have hreq := asked.same.symm.trans hsub
      have hop : ∀ (s : Session) e, s.engine = .replay e →
          Stage.subscribe asked.request s = (.error (.failed cause), s) := by
        intro s e _
        rw [Stage.subscribe, hreq]
      obtain ⟨-, hy⟩ := h'.scripted.refines.operate_same hop
      rw [hy]
      exact ⟨h', rfl⟩
    | ok sub =>
      have hop : Stage.subscribe asked.request = (·.subscribe sub) := by
        funext s
        rw [Stage.subscribe, asked.same.symm.trans hsub]
      rw [hop]
      exact h'.operate (.subscribe sub) rfl (fun _ => rfl) (.subscribe sub)
        fun s => s.subscribe_released sub
  · rintro r _ rfl
    exact status_ofUnit asked.arguments.operation _ r

theorem resolve (id : UInt32) (buffer : Option Nat) :
    let r := World.call (hosts perform budget c) t
      (.resolve (some name) id (buffer.getD 0) buffer.isSome) w
    let s := ifThere y (fun y => (y.session.resolve id, y)) .symbol
    Behind name address k p r.2 s.2 ∧ (Ask.resolve id buffer).reply s.1 = some r.1.told := by
  have hf : ∀ w', w' = w.setSlot t none → World.resolve id (buffer.getD 0) buffer.isSome k w' =
      (.ok (Utf8.encode ((y.session.resolve id).getD "").toList), w') := by
    rintro _ rfl
    have hsym : (w.scripted k).session.resolve id = y.session.resolve id :=
      h.scripted.refines.same (·.resolve id) fun _ _ => rfl
    rw [← hsym]
    cases buffer <;> rfl
  rw [call_enter rfl]
  refine h.call (B := fun r symbol => r = .ok (Utf8.encode (symbol.getD "").toList)) rfl
    (fun _ => rfl) rfl (fun w' hw' _ h' => ?_) ?_ rfl
  · rw [hf w' hw']
    exact ⟨h', rfl⟩
  · rintro _ symbol rfl
    rfl

theorem stats :
    let r := World.call (hosts perform budget c) t (.stats (some name) true) w
    let s := ifThere y (fun y => (y.session.stats, y)) .stats
    Behind name address k p r.2 s.2 ∧ Ask.stats.reply s.1 = some r.1.told := by
  obtain ⟨n, hn⟩ := h.scripted.refines.session
  rw [call_enter rfl]
  refine h.call (B := fun r s => ∃ s' : Stats, r = .ok s' ∧ s = s'.charged n) rfl (fun _ => rfl)
    rfl ?_ ?_ rfl
  · rintro _ rfl - h'
    refine ⟨h', (w.scripted k).session.stats, rfl, ?_⟩
    show y.session.stats = _
    rw [hn]
    rfl
  · rintro _ _ ⟨s, rfl, rfl⟩
    rfl

variable (hpl : Placed name address k perform c p y.session inside)
include hpl

theorem ask_stop (timeout : Nat) (out : Bool) :
    let r := World.call (hosts perform budget c) t (.stop (some name) timeout out) w
    let s := ifThere y ((Stage.hostIn inside budget).stop (some timeout)) .ofVerdict
    Behind name address k p r.2 s.2 ∧ (Ask.stop timeout out).reply s.1 = some r.1.told := by
  rw [call_enter rfl]
  refine h.call (B := Eq) rfl (fun _ => rfl) rfl (fun w' _ _ h' => h'.stop hpl (some timeout)) ?_ rfl
  rintro r _ rfl
  rcases r with (cause | message) | v <;> rfl

theorem ask_block :
    let r := World.call (hosts perform budget c) t (.block (some name)) w
    let s := ifThere y ((Stage.hostIn inside budget).wait none) .verdict
    Behind name address k p r.2 s.2 ∧ Ask.block.reply s.1 = some r.1.told := by
  rw [call_enter rfl]
  refine h.call (B := fun r v => r = .ok v) rfl (fun _ => rfl) rfl (fun w' _ _ h' => ?_) ?_ rfl
  · obtain ⟨h'', hv⟩ := h'.wait hpl none
    exact ⟨h'', congrArg Except.ok hv⟩
  · rintro _ v rfl
    rfl

theorem ask_blockTimeout (timeout : Nat) :
    let r := World.call (hosts perform budget c) t (.blockTimeout (some name) timeout true) w
    let s := ifThere y ((Stage.hostIn inside budget).wait (some timeout)) .verdict
    Behind name address k p r.2 s.2 ∧ (Ask.blockTimeout timeout).reply s.1 = some r.1.told := by
  rw [call_enter rfl]
  refine h.call (B := fun r v => r = .ok v) rfl (fun _ => rfl) rfl (fun w' _ _ h' => ?_) ?_ rfl
  · obtain ⟨h'', hv⟩ := h'.wait hpl (some timeout)
    exact ⟨h'', congrArg Except.ok hv⟩
  · rintro _ v rfl
    rfl

theorem ask_free :
    let r := World.call (hosts perform budget c) t (.sessionFree (some name)) w
    let s := ifThere y (Stage.hostIn inside budget).release Answer.ofRelease
    Behind name address k p r.2 s.2 ∧ Ask.free.reply s.1 = some r.1.told := by
  have h₁ := h.setSlot t none
  have hh := h₁.handle
  rw [call_enter rfl, h.pointer]
  cases hr : y.session.released with
  | true =>
    rw [hr, if_pos rfl] at hh
    rw [enter_error (giving_run (free_gone hh)), ifThere, hr, if_pos rfl]
    exact ⟨h₁.setSlot t (some _), rfl⟩
  | false =>
    rw [hr, if_neg Bool.false_ne_true] at hh
    let w₁ : World :=
      { w.setSlot t none with registry := (w.setSlot t none).registry.remove address }
    have hfree : free (hosts perform budget c) (some address) (w.setSlot t none) =
        (hosts perform budget c k).release w₁ := free_run hh
    have hrelease : Behind name address k p ((hosts perform budget c k).release w₁).2
        ((Stage.hostIn inside budget).release y).2 ∧ _ := h₁.release hpl
    obtain ⟨h₂, hrel, ha, hb⟩ := hrelease
    generalize (hosts perform budget c k).release w₁ = a at hfree h₂ ha
    obtain ⟨r, w₂⟩ := a
    obtain rfl : r = .ok () := ha
    rw [enter_ok (giving_run hfree), ifThere, hr, if_neg Bool.false_ne_true, hb]
    refine ⟨?_, rfl⟩
    exact ⟨h₂.cell, h₂.named, h₂.built, h₂.handle,
      .inr ⟨hrel, Named.get?_erase_self w₂.shown name⟩⟩

/-- Whatever is asked through the handle goes with what is asked directly. -/
theorem ask (a : Ask) :
    let r := World.call (hosts perform budget c) t (a.foreign name) w
    let s := Stage.take (Stage.hostIn inside budget) a.direct y
    Behind name address k p r.2 s.2 ∧ a.reply s.1 = some r.1.told := by
  simp only [take_ask]
  cases a with
  | stop timeout out => exact h.ask_stop hpl timeout out
  | block => exact h.ask_block hpl
  | blockTimeout timeout => exact h.ask_blockTimeout hpl timeout
  | reconnect =>
    exact h.status .reconnect rfl (fun _ => rfl) .reconnect fun s => s.reconnect_released
  | resubscribe =>
    exact h.status .resubscribe rfl (fun _ => rfl) .resubscribe fun s => s.resubscribe_released
  | subscribe asked => exact h.subscribe asked
  | resolve id buffer => exact h.resolve id buffer
  | stats => exact h.stats
  | free => exact h.ask_free hpl

end Behind

/-! ## Calls of callbacks -/

/-- A session that is given up while its callback runs has nothing more to do. -/
theorem release_calling {call : Call} (hc : y.session.calling = some call) (fuel : Nat) :
    (Stage.hostIn true fuel).release y = ((y.session.release true).1,
      { (y.operate (·.release true)).2 with held := false }) := by
  have hk : (y.operate (·.release true)).2.session.calling = some call :=
    (Session.Keeps.release y.session true).calling.trans hc
  have hset : (Stage.hostIn true fuel).settle
      { (y.operate (·.release true)).2 with held := false } = ((), _) := Host.settle_calling _ hk
  rw [Host.release_run]
  show ((y.session.release true).1, ((Stage.hostIn true fuel).settle
    { (y.operate (·.release true)).2 with held := false }).2) = _
  rw [hset]

theorem perform_drop (hr : y.session.released = false) : Stage.perform .drop y =
    (Answer.ofRelease (y.session.release true).1,
      { (y.operate (·.release true)).2 with held := false }) := by
  have ho : (y.operate (·.release true)).1 = (y.session.release true).1 := rfl
  rw [Stage.perform_there hr, ← ho]
  simp only
  generalize y.operate (·.release true) = a
  obtain ⟨_ | _, _⟩ := a <;> rfl

/-- What a callback asks of its session directly, it asks as the owner would on the thread of the
callback. -/
theorem perform_take (a : Ask) {call : Call} (hc : y.session.calling = some call) (fuel : Nat) :
    Stage.perform a.within y = Stage.take (Stage.hostIn true fuel) a.direct y := by
  have hin : (Stage.hostIn true fuel).delivering = true := rfl
  cases hr : y.session.released with
  | true =>
    rw [Stage.perform_gone hr]
    cases a <;> simp [Stage.take, Stage.hostIn, Stage.host, Ask.direct, hr, Stage.Step.ofSession]
  | false =>
    cases a with
    | stop timeout out =>
      rw [take_ask, ifThere, hr, if_neg Bool.false_ne_true, Ask.within, Stage.perform_there hr]
      show _ = (Answer.ofVerdict ((Stage.hostIn true fuel).stop (some timeout) y).1,
        ((Stage.hostIn true fuel).stop (some timeout) y).2)
      rw [Host.stop_run]
      have ho : (Stage.hostIn true fuel).operate (·.requestStop) y = y.operate (·.requestStop) := rfl
      simp only [ho, hin, Bool.not_true, Bool.false_and, Bool.false_eq_true, if_false,
        Host.wait_run, Lifecycle.atOnce_delivering]
      generalize y.operate (·.requestStop) = a
      obtain ⟨_ | _, x⟩ := a <;> rfl
    | block | blockTimeout timeout =>
      rw [take_ask, ifThere, hr, if_neg Bool.false_ne_true, Ask.within, Stage.perform_there hr]
      simp only [Ask.answered, Host.map_run, Host.wait_run, hin, Lifecycle.atOnce_delivering]
      rfl
    | reconnect | resubscribe | subscribe | resolve | stats =>
      rw [Ask.within, Stage.perform_there hr]
      simp [Stage.take, Stage.hostIn, Stage.host, Ask.direct, hr]
    | free =>
      rw [take_ask, ifThere, hr, if_neg Bool.false_ne_true]
      show _ = (Answer.ofRelease ((Stage.hostIn true fuel).release y).1,
        ((Stage.hostIn true fuel).release y).2)
      rw [release_calling hc]
      exact perform_drop hr

/-- A session whose callback runs cannot be started. -/
theorem beginStart_refused {s : Session} {e : Replay} (hs : Sound s e) {call : Call}
    (hc : s.calling = some call) {sinks : Sinks} (hk : (sinks.record || sinks.event) = true) :
    s.beginStart sinks = (.error (.failed .alreadyRunning), s) := by
  have ha := hs.isActive_of_calling hc
  have hk' : (!sinks.record && !sinks.event) = false := by rw [← Bool.not_or, hk]; rfl
  have hl : s.lifecycle.beginStart = .error .alreadyRunning := by
    rw [Session.state] at ha
    unfold Lifecycle.beginStart
    cases hw : s.lifecycle.state with
    | idle | faulted => rw [hw] at ha; cases ha
    | starting | running | stopRequested => rfl
  simp only [Session.beginStart, Session.claim, hk', Bool.false_eq_true, if_false, hl]

/-! ## Starts -/

/-- The loop settles, if its session is still there. -/
theorem Behind.settleAt (h : Behind name address k p w y)
    (hpl : Placed name address k perform c p y.session inside)
    (hgone : y.session.released = true → (Stage.hostIn inside budget).settle y = ((), y)) :
    Behind name address k p (World.settleAt (hosts perform budget c) (some address) w).2
      ((Stage.hostIn inside budget).settle y).2 := by
  have hh := h.handle
  cases hr : y.session.released with
  | true =>
    rw [hr, if_pos rfl] at hh
    rw [hgone hr]
    simp only [World.settleAt, Host.bind_run, Host.get_run, hh, Host.pure_run]
    exact h
  | false =>
    rw [hr, if_neg Bool.false_ne_true] at hh
    simp only [World.settleAt, Host.bind_run, Host.get_run, hh]
    exact h.settle hpl

/-- A start, which is followed by what its loop does then. There is nothing to be done after a start
that fails. -/
theorem Behind.starting (h : Behind name address k p w y) {shape : StartShape}
    {scripts : Scripts HandleStep} {g : StateM Stage (Except Halt Unit)}
    (hfg : ∀ w', Behind name address k p w' y →
      Behind name address k p (World.start (hosts perform budget c) shape scripts k w').2 (g y).2 ∧
        (World.start (hosts perform budget c) shape scripts k w').1 = (g y).1)
    (hpl : Placed name address k perform c p (ifThere y g .ofUnit).2.session inside)
    (hgone : (ifThere y g .ofUnit).2.session.released = true ∨ (ifThere y g .ofUnit).1 ≠ .ok →
      (Stage.hostIn inside budget).settle (ifThere y g .ofUnit).2 =
        ((), (ifThere y g .ofUnit).2)) :
    let a := World.call (hosts perform budget c) t (.start (some name) shape scripts) w
    let b := ifThere y g .ofUnit
    Behind name address k p a.2 ((Stage.hostIn inside budget).settle b.2).2 ∧
      b.1.status = some a.1.told := by
  let body := onSession (w.pointer (some name)) (World.start (hosts perform budget c) shape scripts)
  let e : EntryPoint := { EntryPoint.status shape.operation body with
    afterwards := World.settleAt (hosts perform budget c) (w.pointer (some name)) }
  have hans : ∀ r r' : Except Halt Unit, r = r' → (Answer.ofUnit r').status =
      some (tells e (r.map fun _ => { value := .number 0 })) := by
    rintro r _ rfl
    exact status_ofUnit shape.operation body r
  have hbody := h.body (t := t) (e := e) (fun w' _ _ h' => hfg w' h') hans rfl
  rw [call_enter (e := e) rfl]
  cases hb : body (w.setSlot t none) with
  | mk r w₁ =>
  have hrun : e.body (w.setSlot t none) = _ := giving_run hb
  rw [giving_run hb] at hbody
  obtain ⟨h₁, hv⟩ := hbody
  cases r with
  | ok =>
    rw [enter_ok hrun]
    refine ⟨?_, hv⟩
    show Behind name address k p (World.settleAt _ (w.pointer (some name)) w₁).2 _
    rw [h.pointer]
    exact h₁.settleAt hpl fun hr => hgone (.inl hr)
  | error halt =>
    have hne : (ifThere y g .ofUnit).1 ≠ .ok := by
      intro hok
      rw [hok] at hv
      have hz : (0 : Int) = (failure shape.operation halt).status := by
        injection hv with hv; injection hv with hv; injection hv
      exact absurd (failure shape.operation halt).status_neg (by omega)
    rw [enter_error hrun]
    show Behind name address k p _ ((Stage.hostIn inside budget).settle _).2 ∧ _
    rw [hgone (.inr hne)]
    exact ⟨h₁.setSlot t (some _), hv⟩

/-- A callback asks in vain for a start. -/
theorem Behind.start_calling {call : Call} {r r' : Reply} (callbacks : Callbacks HandleStep)
    (h : Behind name address k (.within call r r') w y) :
    Behind name address k (.within call r r')
        (World.start (hosts perform budget c) callbacks.shape callbacks.scripts k w).2
        (y.operate (·.beginStart ⟨true, false, false, false⟩)).2 ∧
      (World.start (hosts perform budget c) callbacks.shape callbacks.scripts k w).1 =
        (y.operate (·.beginStart ⟨true, false, false, false⟩)).1 := by
  obtain ⟨hx, hcalling, hr⟩ := h.scripted
  obtain ⟨e, hs, hs'⟩ := hx.sounds
  have hcalling' : y.session.calling = some call :=
    (hx.same (·.calling) fun _ _ => rfl).symm.trans hcalling
  have hkeep : ∀ {κ α : Type} (x : Scripted κ α) (sinks : Sinks), Sound x.session e →
      x.session.calling = some call → (sinks.record || sinks.event) = true →
      x.operate (·.beginStart sinks) = (.error (.failed .alreadyRunning), x) := by
    intro κ α x sinks hs hc hk
    have hb := beginStart_refused hs hc hk
    rw [operate_replay (e := e) (·.beginStart sinks) (by rw [hb]; exact hs.engine), hb]
  have hmain : (callbacks.scripts.contained.sinks.record ||
      callbacks.scripts.contained.sinks.event) = true := by
    rw [Scripts.sinks_contained]
    exact callbacks.main
  have hstart : World.start (hosts perform budget c) callbacks.shape callbacks.scripts k w =
      (.error (.failed .alreadyRunning),
        w.modifyCell k ({ · with scripted := w.scripted k })) := by
    have hview : (hosts perform budget c k).view w = w.scripted k := rfl
    simp only [World.start, callbacks.taken, Host.start, Host.bind_run, Host.operate_run, hview,
      hkeep _ _ hs hcalling hmain, Host.pure_run]
    rfl
  rw [hstart, hkeep y _ hs' hcalling' rfl]
  exact ⟨h.update ⟨hx, hcalling, hr⟩ rfl, rfl⟩

theorem Behind.nested_start {call : Call} {r r' : Reply} (callbacks : Callbacks HandleStep)
    (h : Behind name address k (.within call r r') w y) (hc : c.inside = some k) :
    let a := World.call (hosts perform budget c) t
      (.start (some name) callbacks.shape callbacks.scripts) w
    let b := Stage.perform .start y
    Behind name address k (.within call r r') a.2 b.2 ∧ b.1.status = some a.1.told := by
  have hp : Stage.perform .start y =
      ifThere y (fun y => y.operate (·.beginStart ⟨true, false, false, false⟩)) .ofUnit := by
    cases hr : y.session.released with
    | true =>
      rw [Stage.perform_gone hr, ifThere, hr]
      rfl
    | false =>
      rw [Stage.perform_there hr, ifThere, hr]
      rfl
  have hcalling : (Stage.perform .start y).2.session.calling = some call := by
    obtain ⟨hx, hcalling, -⟩ := h.scripted
    have hy : y.session.calling = some call :=
      (hx.same (·.calling) fun _ _ => rfl).symm.trans hcalling
    rw [hp, ifThere]
    split
    · exact hy
    · exact (beginStart_calling y.session ⟨true, false, false, false⟩).trans hy
  have hset : (Stage.hostIn true budget).settle (Stage.perform .start y).2 =
      ((), (Stage.perform .start y).2) := Host.settle_calling _ hcalling
  rw [hp] at hcalling hset ⊢
  have hpl : Placed name address k perform c (.within call r r') _ true := .callback hc hcalling
  have hstart := h.starting (t := t) (fun w' h' => h'.start_calling callbacks) hpl fun _ => hset
  simpa only [hset] using hstart

/-- The calls of callbacks go with those of the session, however deep calls may nest. -/
theorem nests (budget depth : Nat) : Nests name address k (World.perform budget (depth + 1)) := by
  intro t i w y call r r' h
  cases i with
  | start callbacks => exact h.nested_start callbacks rfl
  | ask a =>
    obtain ⟨hx, hcalling, -⟩ := h.scripted
    have hy : y.session.calling = some call :=
      (hx.same (·.calling) fun _ _ => rfl).symm.trans hcalling
    have hp := perform_take a hy budget
    show Behind name address k _ (World.call (hosts (World.perform budget depth) budget
      ⟨t, some k⟩) t (a.foreign name) w).2 (Stage.perform a.within y).2 ∧
      a.reply (Stage.perform a.within y).1 = _
    rw [hp]
    exact h.ask (.callback rfl hy) a

/-! ## Uses -/

/-- A start on a replay session fails and changes nothing, or succeeds and releases nothing. -/
theorem start_cases {e : Replay} (hs : Sound y.session e) (scripts : Scripts SessionCall)
    (budget : Nat) :
    (∃ halt, (Stage.host budget).start scripts y = (.error halt, y)) ∨
      ((Stage.host budget).start scripts y).1 = .ok () ∧
        ((Stage.host budget).start scripts y).2.session.released = y.session.released := by
  have ho : (Stage.host budget).operate (·.beginStart scripts.sinks) y =
      ((y.session.beginStart scripts.sinks).1,
        { y with session := y.session.move (.start scripts.sinks) }) :=
    operate_move (.start scripts.sinks) (fun _ => rfl) hs
  obtain ⟨e₁, hs₁⟩ := hs.move (.start scripts.sinks)
  unfold Host.start
  rw [Host.bind_run, ho]
  cases hb : (y.session.beginStart scripts.sinks).1 with
  | error halt =>
    have hm : y.session.move (.start scripts.sinks) = y.session := by
      rcases hs.beginStart_cases scripts.sinks with ⟨_, hc, -⟩ | ⟨-, -, hc⟩
      · exact congrArg Prod.snd hc
      · rw [hc] at hb
        cases hb
    exact .inl ⟨halt, by rw [hm]; rfl⟩
  | ok =>
    let y₂ : Stage := { y with session := y.session.move (.start scripts.sinks), scripts }
    have hd : (Stage.host budget).operate deliveries y₂ = ([], y₂) := by
      have hnone : deliveries y₂.session = ([], y₂.session) := by
        simp only [deliveries, show y₂.session.engine = .replay e₁ from hs₁.engine]
      show y₂.operate deliveries = _
      rw [operate_replay deliveries (by rw [hnone]; exact hs₁.engine), hnone]
    have hc : y₂.session.completeStart.1 = .ok () :=
      congrArg Prod.fst (Sound.passStop_eq (s := y₂.session.succeed) hs₁.engine)
    let Started : Except Halt Unit × Stage → Prop := fun a =>
      a.1 = .ok () ∧ a.2.session.released = y.session.released
    show _ ∨ Started (((Stage.host budget).operate deliveries >>= fun ds => do
      for d in ds do
        let answer ← (Stage.host budget).hand d
        (Stage.host budget).modifyScripted fun x => x.note (.onStart d.name answer)
      (Stage.host budget).operate (·.completeStart)) y₂)
    rw [Host.bind_run, hd]
    exact .inr ⟨hc, (y₂.session.completeStart_released).trans
      (y.session.beginStart_released scripts.sinks)⟩

theorem Behind.start (h : Behind name address k .rest w y) (callbacks : Callbacks Inner)
    (hp : Nests name address k perform) (hc : c.inside ≠ some k) :
    let a := World.start (hosts perform budget c) callbacks.shape
      (callbacks.scripts.map (·.foreign name) id) k w
    let b := (Stage.host budget).start (callbacks.scripts.map Inner.within Reply.decided) y
    Behind name address k .rest a.2 b.2 ∧ a.1 = b.1 := by
  have htaken : callbacks.shape.callbacks (callbacks.scripts.map (·.foreign name) id) =
      .ok (callbacks.scripts.map (·.foreign name) id) := by
    rw [callbacks_map, callbacks.taken]
    rfl
  have hcontained : (callbacks.scripts.map (·.foreign name) id).contained =
      callbacks.scripts.map (·.foreign name) Reply.contained := Scripts.contained_map _
  have hsinks : (callbacks.scripts.map (·.foreign name) Reply.contained).sinks =
      (callbacks.scripts.map Inner.within Reply.decided).sinks := by
    rw [Scripts.sinks_map, Scripts.sinks_map]
  have hmirror : Mirror (Behind name address k) (RefinesIn name) (Spoken name) Goes
      (hosts perform budget c k) (Stage.host budget) := behind_mirror hp hc
  obtain ⟨h₁, ha⟩ := hmirror.start refines_likeness hsinks
    (fun x y hx => ⟨hx.session, ⟨callbacks.scripts, rfl, rfl⟩, hx.held, hx.log, hx.sound, hx.idle⟩)
    w y h
  have hstart : World.start (hosts perform budget c) callbacks.shape
      (callbacks.scripts.map (·.foreign name) id) k w =
      ((hosts perform budget c k).start (callbacks.scripts.map (·.foreign name) Reply.contained) >>=
        fun r => do
          if r.isOk then modify (·.modifyCell k fun c => { c with loops := c.loops + 1 })
          return r) w := by
    simp only [World.start, htaken, hcontained]
  rw [hstart, Host.bind_run]
  generalize (hosts perform budget c k).start _ w = a at h₁ ha ⊢
  obtain ⟨r, w₁⟩ := a
  cases r with
  | error halt => exact ⟨h₁, ha⟩
  | ok => exact ⟨h₁.begin, ha⟩

theorem lookup_eq_filter {α : Type} (l : List (String × α)) (name : String) :
    l.lookup name = (l.filter (·.1 == name)).head?.map (·.2) := by
  induction l with
  | nil => rfl
  | cons e l ih =>
    obtain ⟨key, a⟩ := e
    rw [List.lookup_cons, List.filter_cons]
    by_cases hk : key = name
    · simp [hk]
    · have hk' : (name == key) = false := by simpa using fun h => hk h.symm
      simp [hk, hk', ih]

/-- An operation on the engine of the session, which puts something into the feed. -/
theorem Behind.feed (h : Behind name address k .rest w y) (hp : Nests name address k perform)
    (hc : c.inside ≠ some k) {missing : Value} {op : Session → β × Session} {value : β → Value}
    (m : Move) (hm : m.isOperation = true) (hop : ∀ s, (op s).2 = s.move m)
    (hi : Session.Oblivious op)
    (hr : ∀ s, (op s).2.released = s.released) :
    let a := onEngine (hosts perform budget c) name missing
      (fun h => return value (← h.operate op)) w
    let b := y.operate op
    Behind name address k .rest a.2 ((Stage.host budget).settle b.2).2 ∧
      a.1.told = (value b.1, none) := by
  have hbuilt : w.built.get? name = some k := by
    rw [Named.get?, lookup_eq_filter, h.built]
    rfl
  have hfed : Behind name address k .rest ((hosts perform budget c k).operate op w).2
      (y.operate op).2 ∧ _ := h.operate m hm hop hi hr
  obtain ⟨h₁, ha⟩ := hfed
  have hmirror : Mirror (Behind name address k) (RefinesIn name) (Spoken name) Goes
      (hosts perform budget c k) (Stage.host budget) := behind_mirror hp hc
  have hsettle := (hmirror.settle refines_likeness _ _ h₁).1
  simp only [onEngine_run hbuilt, Host.bind_run, Host.pure_run]
  exact ⟨hsettle, by rw [HandleReply.told, ha]; rfl⟩

theorem Behind.push (event : FeedEvent) (h : Behind name address k .rest w y)
    (hp : Nests name address k perform) (hc : c.inside ≠ some k) :
    let a := World.call (hosts perform budget c) t (.push name event) w
    let b := y.operate (·.push event)
    Behind name address k .rest a.2 ((Stage.host budget).settle b.2).2 ∧
      a.1.told = (.flag b.1, none) :=
  h.feed hp hc (.push event) rfl (fun _ => rfl) (.push event) fun s => s.push_released event

/-- A start after which there is no session, or that fails, leaves a session that has settled. -/
theorem settle_start (hset : y.Settled) {e : Replay} (hs : Sound y.session e)
    (scripts : Scripts SessionCall) (budget : Nat) :
    let b := ifThere y ((Stage.host budget).start scripts) .ofUnit
    b.2.session.released = true ∨ b.1 ≠ .ok →
      (Stage.host budget).settle b.2 = ((), b.2) := by
  intro b hend
  cases hr : y.session.released with
  | true =>
    simp only [b, ifThere, hr, if_true]
    exact settle_settled budget hset
  | false =>
    simp only [b, ifThere, hr, Bool.false_eq_true, if_false] at hend ⊢
    rcases start_cases hs scripts budget with ⟨halt, hc⟩ | ⟨hok, hrel⟩
    · rw [hc]
      exact settle_settled budget hset
    · rw [hrel, hr, hok] at hend
      rcases hend with hend | hend
      · cases hend
      · exact absurd rfl hend

theorem Behind.use_start (callbacks : Callbacks Inner) (h : Behind name address k .rest w y)
    {N : Nat} (hset : y.Settled) (hready : y.Ready N) (hp : Nests name address k perform)
    (hc : c.inside ≠ some k)
    (hf : 4 * (N + (Use.start callbacks).direct.weight) + 3 ≤ budget) :
    let a := World.call (hosts perform budget c) t ((Use.start callbacks).foreign name) w
    let b := Stage.take (Stage.host budget) (Use.start callbacks).direct y
    Behind name address k .rest a.2 ((Stage.host budget).settle b.2).2 ∧
      (Use.start callbacks).reply b.1 = some a.1.told := by
  let scripts := callbacks.scripts.map Inner.within Reply.decided
  have ht : Stage.take (Stage.hostIn false budget) (.start scripts) y =
      ifThere y ((Stage.host budget).start scripts) .ofUnit :=
    take_there (.start scripts) rfl fun hr => by
      simp [Stage.take, Stage.hostIn, Stage.host, hr]
      rfl
  have hcalling : (ifThere y ((Stage.host budget).start scripts) .ofUnit).2.session.calling =
      none := by
    rw [← ht]
    exact (take_ready (.start scripts) hf y hready).calling
  have hpl : Placed name address k perform c .rest
      (ifThere y ((Stage.host budget).start scripts) .ofUnit).2.session false :=
    .owner hp hc hcalling
  obtain ⟨e, hs⟩ := hready.sound
  have hstart := h.starting (t := t) (fun w' h' => h'.start callbacks hp hc) hpl
    (settle_start hset hs scripts budget)
  show Behind name address k .rest _ ((Stage.host budget).settle
    (Stage.take (Stage.hostIn false budget) (.start scripts) y).2).2 ∧
      (Stage.take (Stage.hostIn false budget) (.start scripts) y).1.status = _
  rw [ht]
  exact hstart

/-- Whatever the owner does through the handle goes with what is done directly. -/
theorem Behind.use (u : Use) (h : Behind name address k .rest w y) {N : Nat}
    (hset : y.Settled) (hready : y.Ready N) (hp : Nests name address k perform)
    (hc : c.inside ≠ some k) (hf : 4 * (N + u.direct.weight) + 3 ≤ budget) :
    let a := World.call (hosts perform budget c) t (u.foreign name) w
    let b := Stage.take (Stage.host budget) u.direct y
    Behind name address k .rest a.2 ((Stage.host budget).settle b.2).2 ∧
      u.reply b.1 = some a.1.told := by
  have hpl : Placed name address k perform c .rest y.session false := .owner hp hc hready.calling
  cases u with
  | ask a =>
    have hask : Behind name address k .rest (World.call (hosts perform budget c) t (a.foreign name)
        w).2 (Stage.take (Stage.host budget) a.direct y).2 ∧ _ := h.ask hpl a
    have hbudget : 4 * N + 3 ≤ budget := by omega
    have hstill := settle_settled budget (take_settled a.asks_direct hready hset hbudget)
    show Behind name address k .rest _
      ((Stage.host budget).settle (Stage.take (Stage.host budget) a.direct y).2).2 ∧ _
    rw [hstill]
    exact hask
  | start callbacks => exact h.use_start callbacks hset hready hp hc hf
  | push bytes =>
    obtain ⟨h₁, ha⟩ := h.push (.record bytes) hp hc
    exact ⟨h₁, congrArg some ha.symm⟩
  | fail message =>
    obtain ⟨h₁, ha⟩ := h.push (.fault (.gateway message)) hp hc
    exact ⟨h₁, congrArg some ha.symm⟩
  | close =>
    obtain ⟨h₁, ha⟩ := h.push .close hp hc
    exact ⟨h₁, congrArg some ha.symm⟩
  | pushStream bytes =>
    have hfeed : Behind name address k .rest
        (World.call (hosts perform budget c) t (.pushStream name bytes) w).2
        ((Stage.host budget).settle (y.operate (·.pushStream bytes)).2).2 ∧
        (World.call (hosts perform budget c) t (.pushStream name bytes) w).1.told =
          (.count (y.operate (·.pushStream bytes)).1, none) :=
      h.feed hp hc (.pushStream bytes) rfl (fun _ => rfl) (.pushStream bytes)
        fun s => s.pushStream_released bytes
    exact ⟨hfeed.1, congrArg some hfeed.2.symm⟩

end World

end Rehearsal

end MarketFeed
