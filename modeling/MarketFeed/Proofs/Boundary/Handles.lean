import Mathlib.Logic.Function.Basic
import MarketFeed.Boundary.Builder

set_option autoImplicit false

/-!
# Handles and what is done with them

A registry is the map from addresses to live handles (`Registry.handle?`). What calls do with
handles is a list of deeds: a builder is opened or edited, a session is built from it, a handle is
freed. `Deed.Does` says which registry a deed leaves, `Deed.upon` what it makes of the map, and
`Deed.Due` when it may be done. Deeds that are due, one after the other (`Orderly`), never issue an
address that is live. So a handle is live if and only if it was issued and not freed since
(`Orderly.live_iff`), and no builder gives two sessions before it is freed (`Orderly.used`).
-/

namespace MarketFeed.Boundary

/-! ## Kinds -/

inductive HandleKind where
  | builder | session
  deriving DecidableEq, Inhabited

def HandleKind.name : HandleKind → String
  | builder => "builder"
  | session => "session"

/-- Why a pointer is refused that is no live handle of the kind. -/
def HandleKind.refusal (kind : HandleKind) : Pointer → SessionError
  | none => .nullArgument kind.name
  | some _ => .invalidHandle kind.name

def Handle.kind : Handle → HandleKind
  | builder _ => .builder
  | session _ => .session

/-! ## Registries as maps -/

namespace Registry

variable {r : Registry} {p : Pointer}

/-- The live handle at an address. -/
def handle? (r : Registry) (address : Nat) : Option Handle := r.live.lookup address

/-- The pointer is a live handle of the kind. -/
def Live (r : Registry) (kind : HandleKind) (p : Pointer) : Prop :=
  ∃ address h, p = some address ∧ r.handle? address = some h ∧ h.kind = kind

theorem next_ne_zero (r : Registry) : r.next ≠ 0 := r.allocator.ne_zero _ _

/-- A new handle is put where none is live. -/
theorem handle?_next (r : Registry) : r.handle? r.next = none := by
  rw [handle?, List.lookup_eq_none_iff]
  intro e he
  have hused : e.1 ∈ r.live.map (·.1) := List.mem_map.mpr ⟨e, he, rfl⟩
  have hne : r.next ≠ e.1 := fun h => r.allocator.fresh _ _ (h ▸ hused)
  simpa using hne

theorem handle?_add (r : Registry) (h : Handle) :
    (r.add h).2.handle? = Function.update r.handle? r.next (some h) := by
  funext a
  by_cases ha : a = r.next
  · simp [handle?, add, ha]
  · have hne : (a == r.next) = false := by simpa using ha
    simp [handle?, add, List.lookup_cons, hne, Function.update_of_ne ha]

theorem handle?_remove (r : Registry) (b : Nat) :
    (r.remove b).handle? = Function.update r.handle? b none := by
  funext a
  by_cases ha : a = b
  · rw [ha, Function.update_self]
    exact lookup_filter_self r.live b
  · rw [Function.update_of_ne ha]
    exact lookup_filter_ne ha r.live

/-- A builder that is live holds something else. -/
theorem handle?_setBuilder {b : Nat} (slot : BuilderSlot) (h : r.handle? b ≠ none) :
    (r.setBuilder b slot).handle? = Function.update r.handle? b (some (.builder slot)) := by
  obtain ⟨held, hheld⟩ := Option.ne_none_iff_exists'.mp h
  rw [handle?] at hheld
  funext a
  by_cases ha : a = b
  · rw [ha, Function.update_self, handle?, setBuilder, lookup_replaceAt, beq_self_eq_true,
      if_pos rfl, hheld]
    rfl
  · rw [Function.update_of_ne ha, handle?, setBuilder, lookup_replaceAt, beq_false_of_ne ha]
    rfl

theorem setBuilder_self {b : Nat} {slot : BuilderSlot} (h : r.handle? b = some (.builder slot)) :
    r.setBuilder b slot = r := by
  rw [setBuilder, replaceAt_self h]

theorem not_live_null (kind : HandleKind) : ¬ r.Live kind none := by
  rintro ⟨a, h, hp, -⟩
  cases hp

theorem live_some {kind : HandleKind} {a : Nat} :
    r.Live kind (some a) ↔ ∃ h, r.handle? a = some h ∧ h.kind = kind := by
  constructor
  · rintro ⟨_, h, ha, hh, hk⟩
    cases ha
    exact ⟨h, hh, hk⟩
  · rintro ⟨h, hh, hk⟩
    exact ⟨a, h, rfl, hh, hk⟩

theorem builder_of_handle? {b : Nat} {slot : BuilderSlot}
    (h : r.handle? b = some (.builder slot)) : r.builder (some b) = .ok (b, slot) := by
  rw [handle?] at h
  simp only [builder, h]

theorem session_of_handle? {a number : Nat} (h : r.handle? a = some (.session number)) :
    r.session (some a) = .ok number := by
  rw [handle?] at h
  simp only [session, h]

/-- A pointer gives a live builder, or is refused as it is none. -/
theorem builder_cases (r : Registry) (p : Pointer) :
    (∃ a slot, p = some a ∧ r.handle? a = some (.builder slot) ∧ r.builder p = .ok (a, slot)) ∨
      ¬ r.Live .builder p ∧ r.builder p = .error (HandleKind.builder.refusal p) := by
  cases p with
  | none => exact .inr ⟨not_live_null .builder, rfl⟩
  | some a =>
    rw [live_some, handle?]
    rcases hl : r.live.lookup a with _ | slot | number
    · exact .inr ⟨by simp, by simp only [builder, hl]; rfl⟩
    · exact .inl ⟨a, slot, rfl, hl, builder_of_handle? hl⟩
    · exact .inr ⟨by simp [Handle.kind], by simp only [builder, hl]; rfl⟩

/-- So for sessions. -/
theorem session_cases (r : Registry) (p : Pointer) :
    (∃ a number, p = some a ∧ r.handle? a = some (.session number) ∧ r.session p = .ok number) ∨
      ¬ r.Live .session p ∧ r.session p = .error (HandleKind.session.refusal p) := by
  cases p with
  | none => exact .inr ⟨not_live_null .session, rfl⟩
  | some a =>
    rw [live_some, handle?]
    rcases hl : r.live.lookup a with _ | slot | number
    · exact .inr ⟨by simp, by simp only [session, hl]; rfl⟩
    · exact .inr ⟨by simp [Handle.kind], by simp only [session, hl]; rfl⟩
    · exact .inl ⟨a, number, rfl, hl, session_of_handle? hl⟩

theorem builder_refused (h : ¬ r.Live .builder p) :
    r.builder p = .error (HandleKind.builder.refusal p) := by
  rcases r.builder_cases p with ⟨a, slot, rfl, ha, -⟩ | ⟨-, herror⟩
  · exact absurd (live_some.mpr ⟨_, ha, rfl⟩) h
  · exact herror

theorem session_refused (h : ¬ r.Live .session p) :
    r.session p = .error (HandleKind.session.refusal p) := by
  rcases r.session_cases p with ⟨a, number, rfl, ha, -⟩ | ⟨-, herror⟩
  · exact absurd (live_some.mpr ⟨_, ha, rfl⟩) h
  · exact herror

theorem builder_of_live (h : r.Live .builder p) :
    ∃ b slot, p = some b ∧ r.handle? b = some (.builder slot) ∧ r.builder p = .ok (b, slot) :=
  (r.builder_cases p).resolve_right fun hnot => hnot.1 h

theorem session_of_live (h : r.Live .session p) :
    ∃ a number, p = some a ∧ r.handle? a = some (.session number) ∧ r.session p = .ok number :=
  (r.session_cases p).resolve_right fun hnot => hnot.1 h

end Registry

/-! ## Deeds -/

/-- What a call does with handles. -/
inductive Deed where
  | opened (builder : Nat)
  | edited (builder : Nat) (config : Config)
  /-- From the builder, which is used up by it, a session is built that has the number. -/
  | built (builder session number : Nat)
  | freed (address : Nat)

namespace Deed

/-- The deed changes the registry `r` to `r'`. -/
def Does (r r' : Registry) : Deed → Prop
  | opened b => b = r.next ∧ r' = (r.add (.builder (.opened {}))).2
  | edited b config =>
    (∃ c, r.handle? b = some (.builder (.opened c))) ∧ r' = r.setBuilder b (.opened config)
  | built b s number =>
    (∃ c, r.handle? b = some (.builder (.opened c))) ∧ s = (r.setBuilder b .consumed).next ∧
      r' = ((r.setBuilder b .consumed).add (.session number)).2
  | freed a => r.handle? a ≠ none ∧ r' = r.remove a

/-- When the deed may be done, given which handles are live. -/
def Due (f : Nat → Option Handle) : Deed → Prop
  | opened b => b ≠ 0 ∧ f b = none
  | edited b _ => ∃ c, f b = some (.builder (.opened c))
  | built b s _ => (∃ c, f b = some (.builder (.opened c))) ∧ s ≠ 0 ∧ f s = none
  | freed a => f a ≠ none

/-- Which handles are live after the deed. -/
def upon (f : Nat → Option Handle) : Deed → Nat → Option Handle
  | opened b => Function.update f b (some (.builder (.opened {})))
  | edited b config => Function.update f b (some (.builder (.opened config)))
  | built b s number =>
    Function.update (Function.update f b (some (.builder .consumed))) s (some (.session number))
  | freed a => Function.update f a none

/-- The addresses at which the deed changes something. -/
def addresses : Deed → List Nat
  | opened b | edited b _ => [b]
  | built b s _ => [b, s]
  | freed a => [a]

theorem upon_of_not_mem {f : Nat → Option Handle} {d : Deed} {a : Nat} (h : a ∉ d.addresses) :
    d.upon f a = f a := by
  cases d <;> simp_all [addresses, upon]

/-- The handle that is issued by the deed. -/
def issued? : Deed → Option (HandleKind × Nat)
  | opened b => some (.builder, b)
  | built _ s _ => some (.session, s)
  | edited .. | freed _ => none

theorem mem_addresses {d : Deed} {kind : HandleKind} {a : Nat} (h : d.issued? = some (kind, a)) :
    a ∈ d.addresses := by
  cases d <;> simp_all [addresses, issued?]

theorem Does.upon {r r' : Registry} {d : Deed} (h : d.Does r r') :
    d.Due r.handle? ∧ r'.handle? = d.upon r.handle? := by
  cases d with
  | opened b =>
    obtain ⟨rfl, rfl⟩ := h
    exact ⟨⟨r.next_ne_zero, r.handle?_next⟩, r.handle?_add _⟩
  | edited b config =>
    obtain ⟨⟨c, hc⟩, rfl⟩ := h
    exact ⟨⟨c, hc⟩, Registry.handle?_setBuilder _ (by simp [hc])⟩
  | built b s number =>
    obtain ⟨⟨c, hc⟩, rfl, rfl⟩ := h
    have hset := Registry.handle?_setBuilder (r := r) (b := b) .consumed (by simp [hc])
    -- the session is put where nothing is live, so not at the builder itself
    have hnext := (r.setBuilder b .consumed).handle?_next
    refine ⟨⟨⟨c, hc⟩, Registry.next_ne_zero _, ?_⟩, ?_⟩
    · by_cases hb : (r.setBuilder b .consumed).next = b
      · rw [hb, hset, Function.update_self] at hnext
        cases hnext
      · rwa [hset, Function.update_of_ne hb] at hnext
    · rw [Registry.handle?_add, hset]
      rfl
  | freed a =>
    obtain ⟨ha, rfl⟩ := h
    exact ⟨ha, r.handle?_remove a⟩

end Deed

/-! ## What becomes of an address -/

/-- What a deed makes of the address `a`. -/
inductive Deed.Turns (a : Nat) : Deed → Option Handle → Option Handle → Prop
  | issue {d : Deed} {x : Handle} : d.issued? = some (x.kind, a) → Turns a d none (some x)
  | edit {c config : Config} :
      Turns a (.edited a config) (some (.builder (.opened c))) (some (.builder (.opened config)))
  | use {c : Config} {s n : Nat} : a ≠ s →
      Turns a (.built a s n) (some (.builder (.opened c))) (some (.builder .consumed))
  | free {x : Handle} : Turns a (.freed a) (some x) none
  | keep {d : Deed} {held : Option Handle} : a ∉ d.addresses → Turns a d held held

theorem Deed.Due.turns {f : Nat → Option Handle} {d : Deed} (hd : d.Due f) (a : Nat) :
    d.Turns a (f a) (d.upon f a) := by
  by_cases ha : a ∈ d.addresses
  case neg =>
    rw [upon_of_not_mem ha]
    exact .keep ha
  cases d with
  | opened b =>
    obtain rfl := List.mem_singleton.mp ha
    rw [hd.2, upon, Function.update_self]
    exact .issue rfl
  | edited b config =>
    obtain rfl := List.mem_singleton.mp ha
    obtain ⟨c, hc⟩ := hd
    rw [hc, upon, Function.update_self]
    exact .edit
  | built b s n =>
    obtain ⟨⟨c, hc⟩, -, hs⟩ := hd
    by_cases has : a = s
    · subst has
      rw [hs, upon, Function.update_self]
      exact .issue rfl
    · obtain rfl : a = b := by simpa [addresses, has] using ha
      rw [upon, Function.update_of_ne has, hc, Function.update_self]
      exact .use has
  | freed b =>
    obtain rfl := List.mem_singleton.mp ha
    obtain ⟨x, hx⟩ := Option.ne_none_iff_exists'.mp hd
    rw [hx, upon, Function.update_self]
    exact .free

/-- What is live after a deed was issued by it, or live before and not freed by it. -/
theorem Deed.Due.live_upon {f : Nat → Option Handle} {d : Deed} {a : Nat} (kind : HandleKind)
    (hd : d.Due f) : (∃ x, d.upon f a = some x ∧ x.kind = kind) ↔
      d.issued? = some (kind, a) ∨ (∃ x, f a = some x ∧ x.kind = kind) ∧ d ≠ .freed a := by
  have hturn := hd.turns a
  generalize d.upon f a = after at hturn ⊢
  generalize f a = before at hturn ⊢
  cases hturn with
  | issue hissue => simp [hissue]
  | edit => simp [issued?, Handle.kind]
  | use hne => simp [issued?, Handle.kind, Ne.symm hne]
  | free => simp [issued?]
  | keep ha =>
    have hissue : d.issued? ≠ some (kind, a) := fun h => ha (mem_addresses h)
    have hfree : d ≠ .freed a := fun h => ha (h ▸ List.mem_singleton_self a)
    simp [hissue, hfree]

/-! ## Lives of handles -/

/-- The deeds may be done one after the other, and take the handles `f` to the handles `g`. -/
inductive Orderly : (Nat → Option Handle) → List Deed → (Nat → Option Handle) → Prop
  | nil {f : Nat → Option Handle} : Orderly f [] f
  | cons {f g : Nat → Option Handle} {d : Deed} {ds : List Deed} : d.Due f →
      Orderly (d.upon f) ds g → Orderly f (d :: ds) g

namespace Orderly

variable {f g : Nat → Option Handle} {ds ds' : List Deed} {a b : Nat}

theorem split (h : Orderly f (ds ++ ds') g) : ∃ f', Orderly f ds f' ∧ Orderly f' ds' g := by
  induction ds generalizing f with
  | nil => exact ⟨f, .nil, h⟩
  | cons d ds ih =>
    cases h with
    | cons hd h =>
      obtain ⟨f', h₁, h₂⟩ := ih h
      exact ⟨f', .cons hd h₁, h₂⟩

/-- An address that is not live stays so until it is issued. -/
theorem not_live (h : Orderly f ds g) (ha : f a = none)
    (hi : ∀ d ∈ ds, ∀ kind, d.issued? ≠ some (kind, a)) : g a = none := by
  induction h with
  | nil => exact ha
  | @cons f g d ds hd _ ih =>
    refine ih ?_ fun d hd => hi d (List.mem_cons_of_mem _ hd)
    have hturn := hd.turns a
    rw [ha] at hturn
    generalize d.upon f a = after at hturn ⊢
    cases hturn with
    | issue hissue => exact absurd hissue (hi d List.mem_cons_self _)
    | keep => rfl

/-- What was freed is not live until its address is issued anew. -/
theorem gone (h : Orderly f (ds ++ .freed a :: ds') g)
    (hi : ∀ d ∈ ds', ∀ kind, d.issued? ≠ some (kind, a)) : g a = none := by
  obtain ⟨f', -, h'⟩ := h.split
  cases h' with
  | cons hd h' => exact h'.not_live (Function.update_self ..) hi

theorem exists_split_cons {P : Deed → List Deed → Prop} {d : Deed} {ds : List Deed} :
    (∃ before d' after, d :: ds = before ++ d' :: after ∧ P d' after) ↔
      P d ds ∨ ∃ before d' after, ds = before ++ d' :: after ∧ P d' after := by
  constructor
  · rintro ⟨_ | ⟨e, before⟩, d', after, h, hP⟩
    · cases h
      exact .inl hP
    · cases h
      exact .inr ⟨before, d', after, rfl, hP⟩
  · rintro (hP | ⟨before, d', after, rfl, hP⟩)
    · exact ⟨[], d, ds, rfl, hP⟩
    · exact ⟨d :: before, d', after, rfl, hP⟩

/-- A handle is live at the end if and only if it was issued or live at the beginning, and not freed
since. -/
theorem live_cases (kind : HandleKind) (h : Orderly f ds g) :
    (∃ x, g a = some x ∧ x.kind = kind) ↔
      (∃ before d after, ds = before ++ d :: after ∧ d.issued? = some (kind, a) ∧
        .freed a ∉ after) ∨ (∃ x, f a = some x ∧ x.kind = kind) ∧ .freed a ∉ ds := by
  -- what the first deed issued is one split of the deeds, what it left alone was live before
  induction h with
  | nil => simp
  | @cons f g d ds hd _ ih =>
    rw [ih, hd.live_upon kind,
      exists_split_cons (P := fun d after => d.issued? = some (kind, a) ∧ .freed a ∉ after)]
    simp only [List.mem_cons, not_or, ne_eq, eq_comm (a := Deed.freed a), or_and_right, and_assoc,
      or_assoc]
    exact or_left_comm

/-- A handle is live if and only if it was issued and not freed since. -/
theorem live_iff (kind : HandleKind) (h : Orderly f ds g) (ha : f a = none) :
    (∃ x, g a = some x ∧ x.kind = kind) ↔
      ∃ before d after, ds = before ++ d :: after ∧ d.issued? = some (kind, a) ∧
        .freed a ∉ after := by
  rw [h.live_cases kind, ha]
  simp

/-- A builder that was used up stays so until it is freed: nothing is set, and no session is built. -/
theorem consumed (h : Orderly f ds g) (hb : f b = some (.builder .consumed))
    (hf : .freed b ∉ ds) : g b = some (.builder .consumed) ∧
      (∀ config, .edited b config ∉ ds) ∧ ∀ s n, .built b s n ∉ ds := by
  induction h with
  | nil => simp [hb]
  | @cons f g d ds hd _ ih =>
    have hturn := hd.turns b
    rw [hb] at hturn
    generalize hafter : d.upon f b = after at hturn
    cases hturn with
    | free => exact absurd List.mem_cons_self hf
    | keep ha =>
      obtain ⟨hg, hedits, hbuilds⟩ := ih hafter fun h => hf (List.mem_cons_of_mem _ h)
      refine ⟨hg, fun config hmem => ?_, fun s n hmem => ?_⟩
      · exact (List.mem_cons.mp hmem).elim (fun h => ha (h ▸ List.mem_cons_self)) (hedits config)
      · exact (List.mem_cons.mp hmem).elim (fun h => ha (h ▸ List.mem_cons_self)) (hbuilds s n)

/-- What a session was built from is used up until it is freed. No other session is built from it. -/
theorem used {s n : Nat} (h : Orderly f (ds ++ .built b s n :: ds') g) (hf : .freed b ∉ ds') :
    g b = some (.builder .consumed) ∧ ∀ s' n', .built b s' n' ∉ ds' := by
  obtain ⟨f', -, h'⟩ := h.split
  cases h' with
  | cons hd h' =>
    obtain ⟨⟨c, hc⟩, -, hs⟩ := hd
    have hne : b ≠ s := fun h => by rw [← h, hc] at hs; cases hs
    have hused : (Deed.built b s n).upon f' b = some (.builder .consumed) := by
      rw [Deed.upon, Function.update_of_ne hne, Function.update_self]
    obtain ⟨hg, -, hbuilds⟩ := h'.consumed hused hf
    exact ⟨hg, hbuilds⟩

end Orderly

end MarketFeed.Boundary
