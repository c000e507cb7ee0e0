import MarketFeed.Proofs.Routing
import MarketFeed.Proofs.Session.Moves

set_option autoImplicit false

/-!
# Symbols at the time of a record

The symbols a session knows are those of the mappings delivered since a start last claimed it.
`Learns x t y` follows the symbol table through a trace; `Session.learns` says that every move of
every session, over either engine, is accepted by it, and `symbols_are_latest` reads the symbols of
trades and lookups off the records that were delivered before.
-/

namespace MarketFeed

/-! ## Records delivered since the last claim -/

/-- The records delivered since the last claim, given those before the mark. -/
def Mark.gather (rs : List Record) : Mark → List Record
  | .claimed .. => []
  | .delivered r _ => rs ++ [r]
  | _ => rs

/-- The records delivered since the last claim, oldest first. -/
def sinceClaim (t : List Mark) : List Record := t.foldl Mark.gather []

/-- The symbol that records give an instrument: that of the latest mapping of it. -/
def latest (id : UInt32) (rs : List Record) : Option String :=
  ((rs.filter (·.maps id)).getLast?).map (·.outSymbol)

theorem latest_append (id : UInt32) (rs : List Record) (r : Record) :
    latest id (rs ++ [r]) = if r.maps id then some r.outSymbol else latest id rs := by
  cases hm : r.maps id <;> simp [latest, List.filter_append, hm]

/-- The record that a mark shows with the event it was routed to. -/
def Mark.event? : Mark → Option (Record × Event)
  | .delivered r (.event ev) => some (r, ev)
  | .called (.event ev r) => some (r, ev)
  | _ => none

/-- Whether a mark neither changes the symbols nor shows an event. -/
def Mark.isNeutral : Mark → Bool
  | .claimed .. | .delivered .. | .called (.event ..) => false
  | _ => true

/-! ## Symbol tables through a trace -/

/-- A trade shows its instrument with the symbol known for it. -/
def Event.TradeAt (x : SymbolTable) (r : Record) (ev : Event) : Prop :=
  ev.kind = .trade →
    ev.instrumentId = r.header.instrumentId ∧ ev.symbol = x.resolve r.header.instrumentId

/-- `Learns x t y`: with the marks `t` the symbol table `x` becomes `y`, and every trade that is
brought to a callback shows the symbol known then. -/
inductive Learns : SymbolTable → List Mark → SymbolTable → Prop
  | nil {x : SymbolTable} : Learns x [] x
  | neutral {x y : SymbolTable} {m : Mark} {t : List Mark} :
      m.isNeutral = true → Learns x t y → Learns x (m :: t) y
  | claimed {x y : SymbolTable} {k : Sinks} {m : Option Metadata} {t : List Mark} :
      Learns .empty t y → Learns x (.claimed k m :: t) y
  | delivered {x y : SymbolTable} {r : Record} {t : List Mark} :
      Learns (Router.route x r).2 t y →
      Learns x (.delivered r (Router.route x r).1 :: t) y
  | event {x y : SymbolTable} {ev : Event} {r : Record} {t : List Mark} :
      ev.TradeAt x r → Learns x t y → Learns x (.called (.event ev r) :: t) y

namespace Learns

variable {x y z : SymbolTable} {t u : List Mark}

theorem append (h : Learns x t y) (h' : Learns y u z) : Learns x (t ++ u) z := by
  induction h with
  | nil => exact h'
  | neutral hm _ ih => exact .neutral hm (ih h')
  | claimed _ ih => exact .claimed (ih h')
  | delivered _ ih => exact .delivered (ih h')
  | event he _ ih => exact .event he (ih h')

theorem cut (h : Learns x (t ++ u) z) : ∃ y, Learns x t y ∧ Learns y u z := by
  induction t generalizing x with
  | nil => exact ⟨x, .nil, h⟩
  | cons m t ih =>
    rw [List.cons_append] at h
    cases h with
    | neutral hm h => obtain ⟨y, h₁, h₂⟩ := ih h; exact ⟨y, .neutral hm h₁, h₂⟩
    | claimed h => obtain ⟨y, h₁, h₂⟩ := ih h; exact ⟨y, .claimed h₁, h₂⟩
    | delivered h => obtain ⟨y, h₁, h₂⟩ := ih h; exact ⟨y, .delivered h₁, h₂⟩
    | event he h => obtain ⟨y, h₁, h₂⟩ := ih h; exact ⟨y, .event he h₁, h₂⟩

theorem neutrals (h : ∀ m ∈ t, m.isNeutral = true) : Learns x t x := by
  induction t with
  | nil => exact .nil
  | cons m t ih =>
    exact .neutral (h m List.mem_cons_self) (ih fun m hm => h m (List.mem_cons_of_mem _ hm))

/-- The table has the symbol of the latest mapping if it had it before. -/
theorem get?_eq_latest (h : Learns x t y) {rs : List Record}
    (hx : ∀ id, x.get? id = latest id rs) (id : UInt32) :
    y.get? id = latest id (t.foldl Mark.gather rs) := by
  induction h generalizing rs with
  | nil => exact hx id
  | @neutral x y m t hm _ ih =>
    have hg : m.gather rs = rs := by
      cases m with
      | claimed | delivered => cases hm
      | pushed | took | called | replied | ended => rfl
    rw [List.foldl_cons, hg]
    exact ih hx
  | claimed _ ih => exact ih fun _ => rfl
  | @delivered x y r t _ ih =>
    refine ih fun id => ?_
    rw [Router.route_get?, hx id]
    exact (latest_append id rs r).symm
  | event _ _ ih => exact ih hx

/-- A trade shows the symbol known before it. -/
theorem tradeAt {m : Mark} {r : Record} {ev : Event} (h : Learns x (m :: t) y)
    (hm : m.event? = some (r, ev)) : ev.TradeAt x r := by
  cases h with
  | neutral hn =>
    cases m with
    | claimed | delivered => cases hn
    | called c =>
      cases c with
      | event => cases hn
      | metadata | record | exception => cases hm
    | pushed | took | replied | ended => cases hm
  | claimed => cases hm
  | @delivered _ _ r' =>
    cases hr : (Router.route x r').1 with
    | event ev' =>
      rw [hr] at hm
      cases hm
      exact fun hk => (Router.route_trade hr hk).2
    | suppressed => rw [hr] at hm; cases hm
    | failed => rw [hr] at hm; cases hm
  | event he => cases hm; exact he

end Learns

/-! ## Every move -/

namespace Session

variable {s s' : Session} {t : List Mark}

theorem neutral_of_quiet (h : ∀ mark ∈ t, mark.isQuiet = true) :
    ∀ mark ∈ t, mark.isNeutral = true := by
  intro mark hm
  have hq := h mark hm
  cases mark with
  | pushed | took | ended => rfl
  | claimed | delivered | called | replied => cases hq

/-- A step that brings nothing to the event callback. -/
theorem learns_call {x : SymbolTable} {p : Progress} (h : ∀ ev r, p ≠ .call (.event ev r)) :
    Learns x p.marks x := by
  cases p with
  | done o => exact .nil
  | call c =>
    cases c with
    | event ev r => exact absurd rfl (h ev r)
    | metadata | record | exception => exact .neutral rfl .nil

theorem offer_ne_event (s : Session) (r r' : Record) (ev : Event) :
    s.offer r ≠ .call (.event ev r') := by
  unfold offer
  split <;> exact fun h => by cases h

/-- What is brought to a callback after a record was routed. -/
theorem learns_brought (s : Session) (r : Record) :
    Learns (Router.route s.symbols r).2 (s.brought r (Router.route s.symbols r).1).marks
      (Router.route s.symbols r).2 := by
  cases hr : (Router.route s.symbols r).1 with
  | event ev =>
    cases hk : s.has (·.event) with
    | true =>
      have hb : s.brought r (.event ev) = .call (.event ev r) := by simp [brought, hk]
      rw [hb]
      refine .event (fun ht => ?_) .nil
      obtain ⟨hsame, hid, hsym⟩ := Router.route_trade hr ht
      rw [hsame]
      exact ⟨hid, hsym⟩
    | false =>
      have hb : s.brought r (.event ev) = s.offer r := by simp [brought, hk]
      rw [hb]
      exact learns_call fun ev r' => s.offer_ne_event r r' ev
  | suppressed | failed => exact learns_call fun ev r' => s.offer_ne_event r r' ev

theorem consult_symbols (s : Session) (cause : EngineError) :
    (s.consult cause).2.symbols = s.symbols ∧
      ∀ ev r, (s.consult cause).1 ≠ .call (.event ev r) := by
  unfold consult
  split
  · exact ⟨rfl, fun _ _ h => by cases h⟩
  · split
    · exact ⟨rfl, fun _ _ h => by cases h⟩
    · exact ⟨rfl, fun _ _ h => by cases h⟩

theorem resume_symbols (s : Session) (c : Call) (r : Reply) :
    (s.resume c r).2.symbols = s.symbols ∧
      ∀ ev rec, (s.resume c r).1 ≠ .call (.event ev rec) := by
  have hn : (s.noteReply r).symbols = s.symbols := by cases r <;> rfl
  cases c with
  | metadata => exact ⟨hn, fun _ _ h => by cases h⟩
  | event => exact ⟨hn, fun ev rec => offer_ne_event _ _ _ _⟩
  | record => exact ⟨hn, fun _ _ h => by cases h⟩
  | exception =>
    cases hrc : r.recovery <;> simp only [resume, hrc] <;> exact ⟨hn, fun _ _ h => by cases h⟩

theorem greet_ne_event (s : Session) (m : Metadata) (ev : Event) (r : Record) :
    s.greet m ≠ .call (.event ev r) := by
  unfold greet
  split <;> exact fun h => by cases h

theorem Does.learns (h : s.Does t s') : Learns s.symbols t s'.symbols := by
  cases h with
  | keeps hk =>
    rw [hk.symbols]
    exact .nil
  | claims hk =>
    rw [hk.symbols]
    exact .claimed .nil
  | @resumes c r =>
    obtain ⟨hy, hc⟩ := s.resume_symbols c r
    rw [follow_symbols, hy]
    exact .neutral rfl (learns_call hc)
  | @greets m =>
    rw [follow_symbols]
    exact learns_call (s.greet_ne_event m)
  | @accepts r engine _ _ hsr =>
    have hacc := accept_eq (s := { s with engine }) hsr r
    rw [follow_symbols, hacc]
    exact .delivered (s.learns_brought r)
  | @consults cause engine =>
    obtain ⟨hy, hc⟩ := consult_symbols { s with engine } cause
    rw [follow_symbols, hy]
    exact learns_call hc

/-- Every move of every session is accepted. -/
theorem learns_move (s : Session) (m : Move) :
    Learns s.symbols (s.marks m) (s.move m).symbols := by
  obtain ⟨before, t, after, hm, hd, hb, ha⟩ := s.does m
  rw [hm]
  exact ((Learns.neutrals (neutral_of_quiet hb)).append hd.learns).append
    (.neutrals (neutral_of_quiet ha))

end Session

/-! ## Runs -/

theorem Session.learns (s : Session) (ms : List Move) :
    Learns s.symbols (s.trace ms) (s.after ms).symbols := by
  induction ms generalizing s with
  | nil => exact .nil
  | cons m ms ih => exact (s.learns_move m).append (ih (s.move m))

/-- In any run of a new session over either engine, a lookup finds for each instrument the
`stype_out_symbol` of the latest mapping of it among the records delivered since a start last
claimed the session, and nothing if there is none. A trade shows, where it is routed and where the
event callback is called with it, the symbol that a lookup found just before, and no symbol if it
found none. Records without an event and those of another type teach nothing, and a start that is
refused forgets nothing. -/
theorem symbols_are_latest (config : Config) (engine : Engine) (ms : List Move) :
    let s := (Session.new config engine).after ms
    let t := (Session.new config engine).trace ms
    (∀ id, s.resolve id = latest id (sinceClaim t)) ∧
    (∀ before m later r ev, t = before ++ m :: later → m.event? = some (r, ev) →
      ev.kind = .trade → ev.instrumentId = r.header.instrumentId ∧
        ev.symbol = (latest r.header.instrumentId (sinceClaim before)).getD "") ∧
    (∀ r, (∀ ev, (Router.route s.symbols r).1 ≠ .event ev) ∨
      r.header.rtype ≠ Kind.mapping.tag → (Router.route s.symbols r).2 = s.symbols) ∧
    (∀ k, Session.refused (s.beginStart k).1 = true → (s.beginStart k).2 = s) := by
  intro s t
  have hl : Learns .empty t s.symbols := Session.learns (.new config engine) ms
  have hnew : ∀ id, SymbolTable.empty.get? id = latest id [] := fun _ => rfl
  refine ⟨hl.get?_eq_latest hnew, fun before m later r ev ht hm hk => ?_, fun r hr => ?_,
    fun k hr => ?_⟩
  · rw [ht] at hl
    obtain ⟨x, hb, hml⟩ := hl.cut
    obtain ⟨hid, hsym⟩ := hml.tradeAt hm hk
    refine ⟨hid, ?_⟩
    rw [hsym, SymbolTable.resolve, hb.get?_eq_latest hnew]
    rfl
  · rcases hr with hr | hr
    · exact Router.route_no_event hr
    · exact Router.route_other hr
  · rcases s.beginStart_claims k with ⟨-, hs⟩ | ⟨hn, -⟩
    · exact hs
    · rw [hr] at hn
      cases hn

end MarketFeed
