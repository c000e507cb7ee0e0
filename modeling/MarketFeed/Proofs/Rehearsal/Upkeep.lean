import MarketFeed.Proofs.Rehearsal.Mirror
import MarketFeed.Rehearsal.Boundary

set_option autoImplicit false

/-!
# What is kept up behind the boundary

`Upkeep J R T` says that a property `J` of the scripted sessions behind the boundary is kept by
whatever may happen to one of them, that its callbacks reply as `R` says, and that what is left with
a caller satisfies `T`. Then every call keeps `J` for all sessions of a world, as deep as calls may
nest, and leaves with its caller what it should (`Upkeep.performs`). `Upkeep.ofSession` is for what
moves keep of a session.
-/

namespace MarketFeed

namespace Rehearsal

open Boundary

/-! ## Sessions -/

/-- The callback that runs replies as `R` says. -/
def Phase.Replies (R : Reply → Prop) : Phase → Prop
  | .rest => True
  | .within _ r r' | .noted _ r r' => r = r' ∧ R r

/-- What is left with the caller satisfies `T`. -/
def HandleReply.Brings (T : Out → Prop) (r : HandleReply) : Prop := ∀ out, r.out = some out → T out

/-- So does the reply to a callback that made a call. -/
def Entry.Brings (T : Out → Prop) : Entry HandleReply → Prop
  | .callback _ _ (some r) => r.Brings T
  | _ => True

/-- What is kept up of sessions (`J`), of replies of callbacks (`R`), and of what is left with
callers (`T`). -/
structure Upkeep (J : Scripted HandleStep HandleReply → Prop) (R : Reply → Prop)
    (T : Out → Prop) : Prop where
  new : ∀ config engine, J { session := .new config engine }
  move : ∀ {x m}, J x → (∀ r, m = .reply r → R r) → J { x with session := x.session.move m }
  manual : ∀ {x} f, J x → J { x with session := x.session.modifyManual f }
  draw : ∀ {x} c, J x →
    R (x.scripts.next c).1.reply ∧ J { x with scripts := (x.scripts.next c).2 }
  follow : ∀ {x} (scripts : Scripts HandleStep), J x → J { x with scripts := scripts.contained }
  note : ∀ {x e}, J x → e.Brings T → J (x.note e)
  hold : ∀ {x} b, J x → J { x with held := b }
  clear : ∀ {x}, J x → J { x with log := [] }
  stats : ∀ {x}, J x → T (.stats x.session.stats)
  /-- Before anything is written, there are no statistics or those of a session that did nothing. -/
  blank : ∀ {out}, (∀ s, out = .stats s → s = {}) → T out

namespace Upkeep

variable {J : Scripted HandleStep HandleReply → Prop} {R : Reply → Prop} {T : Out → Prop}
  {x : Scripted HandleStep HandleReply} {β : Type}

theorem notes (h : Upkeep J R T) (calls : List EngineCall) (hx : J x) :
    J { x with log := x.log ++ calls.map .engine } := by
  induction calls generalizing x with
  | nil => rwa [List.map_nil, List.append_nil]
  | cons c calls ih =>
    have hrest := ih (h.note (e := .engine c) hx trivial)
    rwa [Scripted.note, List.append_assoc] at hrest

theorem operate (h : Upkeep J R T) {op : Session → β × Session} (hop : Session.Ordinary op)
    (hx : J x) : J (x.operate op).2 := by
  have hs : J { x with session := (op x.session).2 } := by
    rcases hop.does with ⟨m, hm, hop⟩ | ⟨f, hop⟩
    · rw [hop]
      refine h.move hx fun r hr => ?_
      rw [hr] at hm
      cases hm
    · rw [hop]
      exact h.manual f hx
  rw [operate_noted]
  exact h.notes _ (h.manual _ hs)

/-- The same session on both sides, of which `J` holds. -/
def Beside (J : Scripted HandleStep HandleReply → Prop) (R : Reply → Prop) (p : Phase)
    (x x' : Scripted HandleStep HandleReply) : Prop := x = x' ∧ J x ∧ p.Replies R

/-- The same answer on both sides, which satisfies `T`. -/
def Told (T : Out → Prop) (a a' : Option HandleReply) : Prop :=
  a = a' ∧ ∀ r, a = some r → r.Brings T

theorem corresponds (h : Upkeep J R T) {op : Session → β × Session}
    (hop : Session.Ordinary op) (hr : ∀ s, (op s).2.released = s.released) :
    Corresponds (Beside J R) Eq op op := by
  rintro x _ ⟨rfl, hx, -⟩
  exact ⟨⟨rfl, h.operate hop hx, trivial⟩, rfl, hr _⟩

theorem likeness (h : Upkeep J R T) : Likeness (Beside J R) Eq (Told T) where
  calling hV := hV.1 ▸ rfl
  lifecycle hV := hV.1 ▸ rfl
  outcome hV := hV.1 ▸ rfl
  released hV := hV.1 ▸ rfl
  held hV := hV.1 ▸ rfl
  step := by
    rintro x _ ⟨rfl, hx, -⟩ - -
    cases hs : x.session.step with
    | none => exact .none
    | some s =>
      have hmove : x.session.move .turn = s := by
        rw [Session.move, hs, Option.getD_some]
      refine .some ⟨rfl, hmove ▸ h.move (m := .turn) hx fun r hr => ?_, trivial⟩
      cases hr
  draw := by
    rintro x _ c ⟨rfl, hx, -⟩ -
    obtain ⟨hr, hs⟩ := h.draw c hx
    exact ⟨⟨rfl, hs, rfl, hr⟩, rfl⟩
  note := by
    rintro x _ c r r' a _ state ⟨rfl, hx, hp⟩ ⟨rfl, ha⟩
    refine ⟨rfl, h.note hx ?_, hp⟩
    cases a with
    | none => trivial
    | some r => exact ha r rfl
  reply := by
    rintro x _ c r _ ⟨rfl, hx, rfl, hr⟩
    refine ⟨rfl, h.move (m := .reply r) hx ?_, trivial⟩
    rintro r' hr'
    cases hr'
    exact hr
  noteStart := by
    rintro x _ name answer ⟨rfl, hx, -⟩
    exact ⟨rfl, h.note hx trivial, trivial⟩
  wake := by
    rintro x _ ⟨rfl, hx, -⟩
    exact ⟨rfl, h.hold false hx, trivial⟩
  start k := h.corresponds (.beginStart k) fun s => s.beginStart_released k
  deliveries := h.corresponds ordinary_deliveries deliveries_released
  hand d := h.corresponds (.hand d) fun s => s.hand_released d
  complete := h.corresponds .completeStart fun s => s.completeStart_released
  stop := h.corresponds .requestStop fun s => s.requestStop_released

/-- What moves and the holders of manual engines keep of a session. -/
theorem ofSession {I : Session → Prop} (hnew : ∀ config engine, I (.new config engine))
    (hmove : ∀ s m, I s → I (s.move m)) (hmanual : ∀ s f, I s → I (s.modifyManual f)) :
    Upkeep (fun x => I x.session) (fun _ => True) (fun _ => True) where
  new := hnew
  move hx _ := hmove _ _ hx
  manual f hx := hmanual _ f hx
  draw _ hx := ⟨trivial, hx⟩
  follow _ hx := hx
  note hx _ := hx
  hold _ hx := hx
  clear hx := hx
  stats _ := trivial
  blank _ := trivial

end Upkeep

/-! ## Worlds -/

namespace World

theorem scripted_eq (w : World) (number : Nat) :
    w.scripted number = match w.cell? number with
      | some c => c.scripted
      | none => noSession := rfl

theorem scripted_modifyCell (w : World) (k : Nat) (f : Cell → Cell) (number : Nat) :
    (w.modifyCell k f).scripted number =
      match w.cell? number with
      | some c => if k = number then (f c).scripted else c.scripted
      | none => noSession := by
  simp only [modifyCell, scripted, cell?, List.getElem?_modify]
  cases w.cells[number]? with
  | none => rfl
  | some c =>
    simp only [Option.map_eq_map, Option.map_some]
    split <;> rfl

theorem connect_new {w : World} {config : Config} {via : Via} {s : Session} {k : Connector}
    (h : w.connect config via = (.ok s, k)) : ∃ engine, s = .new config engine := by
  have hopened (connect : Connector → Config → Except EngineError Engine × Connector)
      (h : ((Session.connect w.connector config connect).1.mapError Halt.failed,
        (Session.connect w.connector config connect).2) = (.ok s, k)) :
      ∃ engine, s = .new config engine := by
    rcases hc : Session.connect w.connector config connect with ⟨e | session, k'⟩
    · rw [hc] at h
      cases h
    · rw [hc] at h
      cases h
      obtain ⟨engine, -, hs⟩ := Session.connect_ok hc
      exact ⟨engine, hs⟩
  cases via with
  | replay => exact hopened (Connector.openReplay (w.clock w.cells.length)) h
  | manual stopEnds => exact hopened (Manual.open stopEnds) h
  | failing failure =>
    unfold connect at h
    cases hv : config.validate <;> simp only [hv] at h <;> cases h

/-- `J` holds of all sessions. -/
def All (J : Scripted HandleStep HandleReply → Prop) (w : World) : Prop :=
  ∀ number, J (w.scripted number)

section

variable {J : Scripted HandleStep HandleReply → Prop} {w w' : World}

theorem All.modifyCell (h : w.All J) {k : Nat} {f : Cell → Cell}
    (hf : ∀ c, J c.scripted → J (f c).scripted) : (w.modifyCell k f).All J := by
  intro number
  have hn := h number
  rw [scripted_eq] at hn
  rw [scripted_modifyCell]
  cases hc : w.cell? number with
  | none =>
    rw [hc] at hn
    exact hn
  | some c =>
    rw [hc] at hn
    simp only
    split
    · exact hf c hn
    · exact hn

theorem All.update (h : w.All J) (k : Nat) {x : Scripted HandleStep HandleReply} (hx : J x) :
    (w.modifyCell k ({ · with scripted := x })).All J :=
  h.modifyCell fun _ _ => hx

theorem All.append (h : w.All J) {s : Session} (hno : J noSession) (hs : J { session := s })
    (hw : w'.cells = w.cells ++ [⟨{ session := s }, 0⟩]) : w'.All J := by
  intro number
  have hn := h number
  rw [scripted_eq, cell?] at hn ⊢
  rw [hw, List.getElem?_append]
  by_cases hl : number < w.cells.length
  · rw [if_pos hl]
    exact hn
  · rw [if_neg hl]
    rcases number - w.cells.length with _ | k
    · exact hs
    · exact hno

theorem All.note (h : w.All J) (n : Note) : (w.note n).All J := by
  cases n <;> exact h

/-- The computation keeps `J` for all sessions, and gives what is asked for. -/
def Safe {β : Type} (J : Scripted HandleStep HandleReply → Prop) (A : β → Prop)
    (p : StateM World β) : Prop :=
  ∀ w, w.All J → (p w).2.All J ∧ A (p w).1

namespace Safe

variable {β γ : Type} {A : β → Prop} {B : γ → Prop}

theorem pure {b : β} (h : A b) : Safe J A (Pure.pure b : StateM World β) := fun _ hw => ⟨hw, h⟩

theorem bind {p : StateM World β} {k : β → StateM World γ} (hp : Safe J A p)
    (hk : ∀ b, A b → Safe J B (k b)) : Safe J B (p >>= k) := by
  intro w hw
  obtain ⟨hw', hA⟩ := hp w hw
  exact hk _ hA _ hw'

theorem mono {A' : β → Prop} {p : StateM World β} (hp : Safe J A p) (h : ∀ b, A b → A' b) :
    Safe J A' p :=
  fun w hw => ⟨(hp w hw).1, h _ (hp w hw).2⟩

theorem look : Safe J (All J) (get : StateM World World) := fun _ hw => ⟨hw, hw⟩

theorem modify {f : World → World} (hf : ∀ w, w.All J → (f w).All J) :
    Safe J (fun _ => True) (modify f : StateM World PUnit) := fun w hw => ⟨hf w hw, trivial⟩

theorem guarded {t : Thread} {operation : String} {body : StateM World (Except Halt β)}
    (hb : Safe J (fun r => ∀ b, r = .ok b → A b) body) :
    Safe J (fun r => ∀ b, r = .ok b → A b) (guarded t operation body) := by
  refine Safe.bind (.modify fun _ hw => hw) fun _ _ => hb.bind fun r hr => ?_
  cases r with
  | ok b => exact .pure fun b' h => hr b' (congrArg Except.ok (Except.ok.inj h))
  | error halt => exact Safe.bind (.modify fun _ hw => hw) fun _ _ => .pure nofun

theorem onRegistry {op : Registry → Except SessionError β × Registry} :
    Safe J (fun _ => True) (onRegistry op) := by
  intro w hw
  exact ⟨hw, trivial⟩

theorem onSession {p : Pointer} {op : Nat → StateM World (Except Halt β)}
    (hop : ∀ number, Safe J (fun r => ∀ b, r = .ok b → A b) (op number)) :
    Safe J (fun r => ∀ b, r = .ok b → A b) (onSession p op) := by
  refine Safe.look.bind fun w _ => ?_
  split
  · exact .pure nofun
  · exact hop _

theorem giving {T : Out → Prop} {body : StateM World (Except Halt β)} {f : β → Success}
    (hb : Safe J (fun r => ∀ b, r = .ok b → A b) body)
    (hf : ∀ b, A b → ∀ out, (f b).out = some out → T out) :
    Safe J (fun r => ∀ s, r = .ok s → ∀ out, s.out = some out → T out)
      (EntryPoint.giving body f) := by
  refine hb.bind fun r hr => .pure ?_
  rintro s hs
  cases r with
  | error halt => cases hs
  | ok b =>
    cases hs
    exact hf b (hr b rfl)

theorem reply {T : Out → Prop} (t : Thread) (value : Value) {out : Option Out}
    (h : ∀ o, out = some o → T o) : Safe J (·.Brings T) (World.reply t value out) :=
  Safe.look.bind fun _ _ => .pure h

end Safe

theorem mapM_safe {β δ : Type} {A : β → Prop} {f : δ → StateM World β}
    (hf : ∀ d, Safe J A (f d)) (l : List δ) :
    Safe J (fun bs => ∀ b ∈ bs, A b) (l.mapM f) := by
  induction l with
  | nil => exact .pure nofun
  | cons d l ih =>
    rw [List.mapM_cons]
    refine (hf d).bind fun b hb => ih.bind fun bs hbs => .pure ?_
    exact List.forall_mem_cons.mpr ⟨hb, hbs⟩

end

end World

/-! ## Hosts -/

namespace Upkeep

open World

variable {J : Scripted HandleStep HandleReply → Prop} {R : Reply → Prop} {T : Out → Prop}
  {perform : Caller → HandleStep → StateM World HandleReply} {budget : Nat} {c : Caller}
  {β : Type}

theorem noSession (h : Upkeep J R T) : J World.noSession := h.new _ _

theorem mirror (hp : ∀ c step, Safe J (·.Brings T) (perform c step)) (budget : Nat) (c : Caller)
    (number : Nat) :
    Mirror (fun p w w' => w = w' ∧ w.All J ∧ p.Replies R) (Beside J R) Eq (Told T)
      (hosts perform budget c number) (hosts perform budget c number) where
  view := by
    rintro p w _ ⟨rfl, hw, hp⟩
    exact ⟨rfl, hw number, hp⟩
  update := by
    rintro p q w _ x _ ⟨rfl, hw, -⟩ ⟨rfl, hx, hq⟩ -
    exact ⟨rfl, hw.update number hx, hq⟩
  perform := by
    rintro w _ k _ call r r' ⟨rfl, hw, hph⟩ rfl
    cases k with
    | none => exact ⟨⟨rfl, hw, hph⟩, rfl, nofun⟩
    | some step =>
      let inside : Caller := ⟨w.callbackThread number c.thread, some number⟩
      obtain ⟨hw', hr⟩ := hp inside step w hw
      exact ⟨⟨rfl, hw', hph⟩, rfl, fun r hsome => Option.some.inj hsome ▸ hr⟩
  delivering := rfl
  fuel := rfl

theorem of_relates {p : StateM World β}
    (h : Relates (fun w w' => w = w' ∧ w.All J ∧ Phase.rest.Replies R) Eq p p) :
    Safe J (fun _ => True) p :=
  fun w hw => ⟨(h w w ⟨rfl, hw, trivial⟩).1.2.1, trivial⟩

theorem hostOperate (h : Upkeep J R T) {op : Session → β × Session} (hop : Session.Ordinary op)
    (number : Nat) : Safe J (fun _ => True) ((hosts perform budget c number).operate op) :=
  fun _ hw => ⟨hw.update number (h.operate hop (hw number)), trivial⟩

theorem hostHold (h : Upkeep J R T) (b : Bool) (number : Nat) : Safe J (fun _ => True)
    ((hosts perform budget c number).modifyScripted ({ · with held := b })) :=
  fun _ hw => ⟨hw.update number (h.hold b (hw number)), trivial⟩

variable (hp : ∀ c step, Safe J (·.Brings T) (perform c step))
include hp

theorem settle (h : Upkeep J R T) (number : Nat) :
    Safe J (fun _ => True) (hosts perform budget c number).settle :=
  of_relates ((mirror hp budget c number).settle h.likeness)

theorem release (h : Upkeep J R T) (number : Nat) :
    Safe J (fun _ => True) (hosts perform budget c number).release :=
  (h.hostOperate (.release _) number).bind fun _ _ =>
    (h.hostHold false number).bind fun _ _ => (h.settle hp number).bind fun _ _ => .pure trivial

theorem wait (h : Upkeep J R T) (timeout : Option Nat) (number : Nat) :
    Safe J (fun _ => True) ((hosts perform budget c number).wait timeout) :=
  of_relates ((mirror hp budget c number).wait h.likeness timeout)

theorem stop (h : Upkeep J R T) (timeout : Option Nat) (number : Nat) :
    Safe J (fun _ => True) ((hosts perform budget c number).stop timeout) := by
  refine of_relates ((mirror hp budget c number).stop h.likeness fun _ _ => ?_)
  rintro w _ ⟨rfl, hw, -⟩
  exact ⟨⟨rfl, (h.hostHold true number w hw).1, trivial⟩, rfl⟩

theorem hand (h : Upkeep J R T) (d : Handing) (number : Nat) :
    Safe J (fun _ => True) ((hosts perform budget c number).hand d) :=
  of_relates ((mirror hp budget c number).hand h.likeness d)

theorem start (h : Upkeep J R T) (shape : StartShape) (scripts : Scripts HandleStep)
    (number : Nat) :
    Safe J (fun _ => True) (World.start (hosts perform budget c) shape scripts number) := by
  unfold World.start
  cases shape.callbacks scripts with
  | error e => exact .pure trivial
  | ok scripts =>
    have hstart : Safe J (fun _ => True)
        ((hosts perform budget c number).start scripts.contained) := by
      refine of_relates ((mirror hp budget c number).start h.likeness rfl ?_)
      rintro x _ ⟨rfl, hx, -⟩
      exact ⟨rfl, h.follow scripts hx, trivial⟩
    refine hstart.bind fun r _ => ?_
    split
    · exact Safe.bind (.modify fun _ hw => hw.modifyCell fun _ h => h) fun _ _ => .pure trivial
    · exact .pure trivial

omit hp in
theorem build (h : Upkeep J R T) (p : Pointer) (via : Via) :
    Safe J (fun _ => True) (World.build p via) := by
  intro _ hw
  unfold World.build
  split
  · exact ⟨hw, trivial⟩
  · exact ⟨hw, trivial⟩
  · split
    · exact ⟨hw, trivial⟩
    · rename_i hc
      obtain ⟨engine, rfl⟩ := connect_new hc
      exact ⟨hw.append h.noSession (h.new _ engine) rfl, trivial⟩

theorem free (h : Upkeep J R T) (p : Pointer) :
    Safe J (fun _ => True) (World.free (hosts perform budget c) p) := by
  unfold World.free
  split
  · exact .pure trivial
  · refine Safe.look.bind fun w _ => ?_
    split
    · exact .pure trivial
    · exact Safe.bind (.modify fun _ hw => hw) fun _ _ => h.release hp _

omit hp in
/-- The statistics that are told are those of a session. -/
theorem statsOf (h : Upkeep J R T) (p : Pointer) (out : Bool) :
    Safe J (fun r => ∀ s, r = .ok s → T (.stats s)) (onSession p (World.stats out)) := by
  refine .onSession fun number => ?_
  unfold World.stats
  cases out with
  | true =>
    refine Safe.look.bind fun w hw => .pure fun s hs => ?_
    exact Except.ok.inj hs ▸ h.stats (hw number)
  | false => exact .pure nofun

/-! ## Calls -/

omit hp in
/-- An entry point that keeps `J` for all sessions, and what it leaves with its caller. -/
structure Entry (J : Scripted HandleStep HandleReply → Prop) (T : Out → Prop) (e : EntryPoint) :
    Prop where
  body : Safe J (fun r => ∀ s, r = .ok s → ∀ out, s.out = some out → T out) e.body
  untouched : ∀ out, e.untouched = some out → T out
  afterwards : Safe J (fun _ => True) e.afterwards

omit hp in
theorem Entry.enter {e : EntryPoint} (h : Entry J T e) (t : Thread) :
    Safe J (·.Brings T) (World.enter t e) := by
  refine (h.body.guarded).bind fun r hr => ?_
  cases r with
  | error cause => exact .reply t _ h.untouched
  | ok s =>
    refine Safe.bind (.modify fun _ hw => hw.note s.note) fun _ _ => ?_
    exact (Safe.reply t _ (hr s rfl)).bind fun said hsaid =>
      h.afterwards.bind fun _ _ => .pure hsaid

omit hp in
/-- An entry point by which no statistics are asked for. -/
theorem Entry.plain (h : Upkeep J R T) {body : StateM World (Except Halt β)} {f : β → Success}
    {operation : String} {failed : SessionError → Value} {untouched : Option Out}
    {afterwards : StateM World Unit} (hb : Safe J (fun _ => True) body)
    (hf : ∀ b s, (f b).out ≠ some (.stats s)) (hu : ∀ s, untouched ≠ some (.stats s))
    (ha : Safe J (fun _ => True) afterwards) :
    Entry J T ⟨operation, EntryPoint.giving body f, failed, untouched, afterwards⟩ := by
  have hplain {out : Option Out} (ho : ∀ s, out ≠ some (.stats s)) : ∀ o, out = some o → T o := by
    rintro o rfl
    exact h.blank fun s hs => absurd (congrArg some hs) (ho s)
  refine ⟨?_, hplain hu, ha⟩
  exact Safe.giving (A := fun _ => True) (hb.mono fun _ _ _ _ => trivial) fun b _ => hplain (hf b)

theorem entryPoint (h : Upkeep J R T) (budget : Nat) (c : Caller) {w : World} {step : HandleStep}
    {e : EntryPoint} (he : entryPoint? (hosts perform budget c) w step = some e) :
    Entry J T e := by
  have hsession {γ : Type} {p : Pointer} {op : Nat → StateM World (Except Halt γ)}
      (h : ∀ number, Safe J (fun _ => True) (op number)) :
      Safe J (fun _ => True) (onSession p op) :=
    (Safe.onSession (A := fun _ => True)
      fun number => (h number).mono fun _ _ _ _ => trivial).mono fun _ _ => trivial
  have hrest : Safe J (fun _ => True) (Pure.pure () : StateM World Unit) := .pure trivial
  cases step with
  | builderNew | builderFree | edit =>
    cases he
    exact .plain h .onRegistry nofun nofun hrest
  | build handle name via =>
    cases he
    exact .plain h (h.build _ via) nofun nofun hrest
  | sessionFree handle =>
    cases he
    exact .plain h (h.free hp _) nofun nofun hrest
  | subscribe handle arguments =>
    cases he
    refine .plain h (hsession fun number => ?_) nofun nofun hrest
    unfold World.subscribe
    split
    · exact .pure trivial
    · exact h.hostOperate (.subscribe _) number
  | start handle shape scripts =>
    cases he
    refine .plain h (hsession (h.start hp shape scripts)) nofun nofun ?_
    refine Safe.look.bind fun w' _ => ?_
    split
    · exact h.settle hp _
    · exact .pure trivial
  | reconnect handle =>
    cases he
    exact .plain h (hsession (h.hostOperate .reconnect)) nofun nofun hrest
  | resubscribe handle =>
    cases he
    exact .plain h (hsession (h.hostOperate .resubscribe)) nofun nofun hrest
  | block handle =>
    cases he
    exact .plain h (hsession fun number => (h.wait hp none number).bind fun _ _ => .pure trivial)
      nofun nofun hrest
  | blockTimeout handle timeout out =>
    cases he
    refine .plain h (hsession fun number => ?_) nofun nofun hrest
    cases out with
    | true => exact (h.wait hp (some timeout) number).bind fun _ _ => .pure trivial
    | false => exact .pure trivial
  | stop handle timeout out =>
    cases he
    exact .plain h (hsession (h.stop hp (some timeout))) nofun nofun hrest
  | state handle =>
    cases he
    exact .plain h (hsession fun number => Safe.look.bind fun _ _ => .pure trivial) nofun nofun
      hrest
  | stats handle out =>
    cases he
    refine ⟨.giving (h.statsOf _ out) fun s hs o ho => Option.some.inj ho ▸ hs, fun o ho => ?_,
      hrest⟩
    obtain rfl := Option.some.inj ho
    exact h.blank fun s hs => (Out.stats.inj hs).symm
  | resolve handle id length buffer =>
    cases he
    refine .plain h (hsession fun number => ?_) nofun nofun hrest
    unfold World.resolve
    split
    · exact .pure trivial
    · exact Safe.look.bind fun _ _ => .pure trivial
  | loggingInit filter =>
    cases he
    refine .plain h (fun w hw => ⟨?_, trivial⟩) nofun nofun hrest
    obtain ⟨logging, hrun⟩ := initLogging_snd filter w
    rw [hrun]
    exact hw
  | lastError | lastErrorElsewhere | push | pushStream | hand | inject | onStart => cases he

theorem aside (h : Upkeep J R T) (budget : Nat) (c : Caller) (t : Thread) (step : HandleStep) :
    Safe J (·.Brings T) (World.aside (hosts perform budget c) t step) := by
  have hengine {name : String} {missing : Value}
      {op : Host World HandleStep HandleReply → StateM World Value}
      (hop : ∀ number, Safe J (fun _ => True) (op (hosts perform budget c number))) :
      Safe J (·.Brings T) (onEngine (hosts perform budget c) name missing op) := by
    refine Safe.look.bind fun w _ => ?_
    split
    · exact .pure nofun
    · exact (hop _).bind fun value _ => (h.settle hp _).bind fun _ _ => .pure nofun
  unfold World.aside
  cases step with
  | push name event =>
    refine hengine fun number => ?_
    exact (h.hostOperate (.push event) number).bind fun _ _ => .pure trivial
  | pushStream name bytes =>
    refine hengine fun number => ?_
    exact (h.hostOperate (.pushStream bytes) number).bind fun _ _ => .pure trivial
  | hand name d => exact hengine fun number => (h.hand hp d number).bind fun _ _ => .pure trivial
  | inject | onStart =>
    exact hengine fun number => h.hostOperate (.prepare _ _) number
  | _ => exact .reply t _ nofun

theorem call (h : Upkeep J R T) (budget : Nat) (c : Caller) (t : Thread) (step : HandleStep) :
    Safe J (·.Brings T) (World.call (hosts perform budget c) t step) := by
  refine Safe.look.bind fun w _ => ?_
  cases he : entryPoint? (hosts perform budget c) w step with
  | some e => exact (h.entryPoint hp budget c he).enter t
  | none => exact h.aside hp budget c t step

omit hp in
/-- As deep as calls may nest. -/
theorem performs (h : Upkeep J R T) (budget depth : Nat) (c : Caller) (step : HandleStep) :
    Safe J (·.Brings T) (World.perform budget depth c step) := by
  induction depth generalizing c step with
  | zero => exact .pure nofun
  | succ depth ih => exact h.call ih budget c c.thread step

omit hp in
theorem clearLogs (h : Upkeep J R T) {w : World} (hw : w.All J) :
    ({ w with cells := w.cells.map Cell.clearLog } : World).All J := by
  intro number
  have hn := hw number
  rw [scripted_eq, cell?] at hn ⊢
  rw [List.getElem?_map]
  cases hc : w.cells[number]? with
  | none => exact h.noSession
  | some c =>
    rw [hc] at hn
    exact h.clear hn

end Upkeep

end Rehearsal

end MarketFeed
