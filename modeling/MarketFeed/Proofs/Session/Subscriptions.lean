import MarketFeed.Proofs.Session.Order
import MarketFeed.Proofs.Text.Blank
import MarketFeed.Rehearsal.Session

set_option autoImplicit false

/-!
# Subscriptions

A `Draft` is a subscription as a caller puts it together, one checked call after the other, and
`Draft.wellFormed` says what every subscription is like that comes of one. `Enrolled` says that the
list of a session and that of its engine are the same, which no move changes but a subscription that
both register; and the metadata of a loop describes this list (`Replay.metadata_describes`).
-/

namespace MarketFeed

/-! ## Drafts -/

/-- A subscription as a caller puts it together. -/
inductive Draft where
  | new (symbols : List String) (schema : Schema) (stypeIn : Symbology)
  | startingAt (d : Draft) (start : StartPoint)
  | withSnapshot (d : Draft)

namespace Draft

/-- The symbols as the caller gave them. -/
def symbols : Draft → List String
  | new symbols _ _ => symbols
  | startingAt d _ => d.symbols
  | withSnapshot d => d.symbols

/-- The subscription that the calls result in. -/
def subscription : Draft → Except SessionError Subscription
  | new symbols schema stypeIn => Subscription.new symbols schema stypeIn
  | startingAt d start => d.subscription.bind (·.startingAt start)
  | withSnapshot d => d.subscription.map (·.withSnapshot)

end Draft

namespace Subscription

/-- What is promised of every subscription: there is a symbol, no symbol is empty or has blanks
around it, and a start that is a text is not blank. -/
structure WellFormed (s : Subscription) : Prop where
  nonempty : s.symbols ≠ []
  symbols : ∀ x ∈ s.symbols, x ≠ "" ∧ trim x = x
  start : ∀ t, s.start = some (.text t) → isBlankText t = false

/-- The blank entry that is named is the first. -/
theorem new_blank {symbols : List String} {i : Nat} {x : String} (hx : symbols[i]? = some x)
    (hb : isBlankText x = true)
    (hfirst : ∀ j y, j < i → symbols[j]? = some y → isBlankText y = false)
    (schema : Schema) (stypeIn : Symbology) :
    Subscription.new symbols schema stypeIn = .error (.invalidArgument
      ("symbol list contains an empty entry at index " ++ toString i)) := by
  obtain ⟨hi, rfl⟩ := List.getElem?_eq_some_iff.mp hx
  have hf : symbols.findIdx? isBlankText = some i := by
    refine List.findIdx?_eq_some_iff_getElem.mpr ⟨hi, hb, fun j hj => ?_⟩
    simp [hfirst j _ hj (List.getElem?_eq_getElem (hj.trans hi))]
  have hn : symbols ≠ [] := List.ne_nil_of_length_pos (Nat.zero_lt_of_lt hi)
  simp [Subscription.new, hn, hf]

theorem new_ok {symbols : List String} (hn : symbols ≠ [])
    (hb : ∀ x ∈ symbols, isBlankText x = false) (schema : Schema) (stypeIn : Symbology) :
    Subscription.new symbols schema stypeIn =
      .ok { symbols := symbols.map trim, schema, stypeIn } := by
  have hf : symbols.findIdx? isBlankText = none := List.findIdx?_eq_none_iff.mpr hb
  simp [Subscription.new, hn, hf]

/-- A list of symbols is refused exactly if it is empty or has a blank entry. -/
theorem new_error {symbols : List String} {schema : Schema} {stypeIn : Symbology} :
    (∃ cause, Subscription.new symbols schema stypeIn = .error cause) ↔
      symbols = [] ∨ ∃ x ∈ symbols, isBlankText x = true := by
  by_cases hn : symbols = []
  · exact ⟨fun _ => .inl hn, fun _ => ⟨_, by rw [Subscription.new, if_pos hn]⟩⟩
  cases hf : symbols.findIdx? isBlankText with
  | none =>
    have hb := List.findIdx?_eq_none_iff.mp hf
    refine ⟨fun ⟨cause, he⟩ => ?_, fun h => ?_⟩
    · rw [new_ok hn hb] at he
      cases he
    · obtain ⟨x, hx, hx'⟩ := h.resolve_left hn
      rw [hb x hx] at hx'
      cases hx'
  | some i =>
    obtain ⟨hi, hb, -⟩ := List.findIdx?_eq_some_iff_getElem.mp hf
    refine ⟨fun _ => .inr ⟨_, List.getElem_mem hi, hb⟩, fun _ => ?_⟩
    simp [Subscription.new, hn, hf]

end Subscription

namespace Draft

open Subscription

/-- A draft that is granted keeps the caller's symbols, in order and trimmed. -/
theorem wellFormed {d : Draft} {sub : Subscription} (h : d.subscription = .ok sub) :
    sub.symbols = d.symbols.map trim ∧ sub.WellFormed := by
  induction d generalizing sub with
  | new symbols schema stypeIn =>
    have hgood : ¬(symbols = [] ∨ ∃ x ∈ symbols, isBlankText x = true) := by
      intro hbad
      obtain ⟨cause, he⟩ := new_error.mpr hbad
      rw [subscription, he] at h
      cases h
    obtain ⟨hn, hb⟩ := not_or.mp hgood
    have hb : ∀ x ∈ symbols, isBlankText x = false := by simpa using hb
    rw [subscription, new_ok hn hb] at h
    cases h
    refine ⟨rfl, by simpa using hn, fun x hx => ?_, fun t ht => (by cases ht)⟩
    obtain ⟨y, hy, rfl⟩ := List.mem_map.mp hx
    refine ⟨fun he => ?_, trim_trim y⟩
    have := hb y hy
    rw [isBlankText_iff.mpr he] at this
    cases this
  | startingAt d start ih =>
    cases hd : d.subscription with
    | error cause => simp [subscription, hd, Except.bind] at h
    | ok sub' =>
      obtain ⟨hsym, hw⟩ := ih hd
      simp only [subscription, hd, Except.bind] at h
      cases start with
      | unixNanos n =>
        cases h
        exact ⟨hsym, hw.nonempty, hw.symbols, fun t ht => (by cases ht)⟩
      | text t =>
        cases hb : isBlankText t with
        | true => simp [Subscription.startingAt, hb] at h
        | false =>
          simp only [Subscription.startingAt, hb, Bool.false_eq_true, if_false,
            Except.ok.injEq] at h
          subst h
          refine ⟨hsym, hw.nonempty, hw.symbols, fun t' ht => ?_⟩
          cases ht
          exact hb
  | withSnapshot d ih =>
    cases hd : d.subscription with
    | error cause => simp [subscription, hd, Except.map] at h
    | ok sub' =>
      obtain ⟨hsym, hw⟩ := ih hd
      simp only [subscription, hd, Except.map] at h
      cases h
      exact ⟨hsym, hw.nonempty, hw.symbols, hw.start⟩

end Draft

/-! ## Runs -/

def Move.isSubscribe : Move → Bool
  | subscribe _ => true
  | _ => false

/-- Both lists of subscriptions, that of the session and that of its engine. -/
structure Enrolled (s : Session) (e : Replay) (subs : List Subscription) : Prop where
  sound : Sound s e
  session : s.subscriptions = subs
  engine : e.subscriptions = subs

/-- No move but a subscription changes either list. -/
theorem Rule.subscriptions {s : Session} {e : Replay} {m : Move} {t : List Mark} {s' : Session}
    (he : s.engine = .replay e) (hr : Rule s e m t s') (hm : m.isSubscribe = false) :
    s'.subscriptions = s.subscriptions ∧
      ∃ e', s'.engine = .replay e' ∧ e'.subscriptions = e.subscriptions := by
  cases hr with
  | subscribe => cases hm
  | still => exact ⟨rfl, e, he, rfl⟩
  | record =>
    unfold Session.showing
    split <;> exact ⟨rfl, _, rfl, rfl⟩
  | @greeted _ r => cases r <;> exact ⟨rfl, e, he, rfl⟩
  | @offer _ _ r => cases r <;> exact ⟨rfl, e, he, rfl⟩
  | @proceed _ r => cases r <;> exact ⟨rfl, e, he, rfl⟩
  | @stopped _ r => cases r <;> exact ⟨rfl, _, rfl, rfl⟩
  | @restart _ _ r => cases r <;> exact ⟨rfl, _, rfl, rfl⟩
  | @abandon _ r => cases r <;> exact ⟨rfl, _, rfl, rfl⟩
  | reconnect | start | started | stop | release | feed | greet | shutdown | close | event
  | consult | giveUp => exact ⟨rfl, _, rfl, rfl⟩

namespace Enrolled

variable {s : Session} {e : Replay} {subs : List Subscription}

theorem new (config : Config) (clock : List UInt64) :
    Enrolled (.new config (.replay (.new config clock))) (.new config clock) [] :=
  ⟨.new config clock, rfl, rfl⟩

theorem move (h : Enrolled s e subs) {m : Move} (hm : m.isSubscribe = false) :
    ∃ e', Enrolled (s.move m) e' subs := by
  have hr := h.sound.rule m
  obtain ⟨e', hs'⟩ := hr.sound h.sound
  obtain ⟨hs, e'', he, hsub⟩ := hr.subscriptions h.sound.engine hm
  have heq : e'' = e' := by simpa [hs'.engine] using he.symm
  subst heq
  exact ⟨e'', hs', hs.trans h.session, hsub.trans h.engine⟩

/-- A subscription is refused, or registered with both. -/
theorem subscribe (h : Enrolled s e subs) (sub : Subscription) :
    (∃ halt, s.subscribe sub = (.error halt, s)) ∨
      ((s.subscribe sub).1 = .ok () ∧
        ∃ e', Enrolled (s.subscribe sub).2 e' (subs ++ [sub])) := by
  cases hu : s.lifecycle.ensureUsable with
  | error cause => exact .inl ⟨.failed cause, by simp [Session.subscribe, hu]⟩
  | ok =>
    have he : s.subscribe sub = (.ok (), { s with
        engine := .replay (e.subscribe sub), subscriptions := s.subscriptions ++ [sub] }) := by
      simp [Session.subscribe, hu, Session.ofEngine, h.sound.engine, Engine.subscribe]
    rw [he]
    exact .inr ⟨rfl, e.subscribe sub, ⟨rfl, h.sound.sinks, h.sound.calling, h.sound.attuned⟩,
      congrArg (· ++ [sub]) h.session, congrArg (· ++ [sub]) h.engine⟩

end Enrolled

/-! ## Metadata -/

/-- The metadata lists the symbols of all subscriptions, and has the schema and the symbology of the
first. -/
structure Metadata.Describes (m : Metadata) (subs : List Subscription) : Prop where
  symbols : m.symbols = subs.flatMap (·.symbols)
  schema : m.schema = subs.head?.map (·.schema)
  stypeIn : m.stypeIn = subs.head?.map (·.stypeIn)

theorem Replay.metadata_describes (e : Replay) : e.metadata.timeless.Describes e.subscriptions :=
  ⟨rfl, rfl, rfl⟩

namespace Sinks

theorem eq_of_mem_greeting {k : Sinks} {m m' : Metadata}
    (h : .metadata m' ∈ k.greeting (some m)) : m' = m := by
  cases hk : k.metadata <;> simp [greeting, hk] at h
  exact h

/-- No event that is taken makes metadata due. -/
theorem not_mem_forTaken (k : Sinks) (symbols : SymbolTable) (event : FeedEvent) (m : Metadata) :
    .metadata m ∉ k.forTaken symbols event := by
  rw [forTaken]
  split
  · rename_i _ _ r _
    cases hr : (Router.route symbols r).1 <;> cases hk : k.event <;> cases hk' : k.record <;>
      simp [forEvent, forRecord, hk, hk']
  · cases hk : k.exception <;> simp
  · exact List.not_mem_nil

end Sinks

end MarketFeed
