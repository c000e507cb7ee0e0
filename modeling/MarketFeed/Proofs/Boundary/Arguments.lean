import MarketFeed.Boundary.Foreign
import MarketFeed.Proofs.Boundary.Handles
import MarketFeed.Proofs.Session.Refusals
import MarketFeed.Session.Opening

set_option autoImplicit false

/-!
# Arguments that are refused

Whatever is wrong with an argument other than a handle, the call fails with status -1 and the error
is not about a handle (`SessionError.OfArgument`): so for texts, codes, the arrays of a subscription
(`SubscribeArguments.subscription_blames`), callbacks (`StartShape.callbacks_blames`) and what is
passed to the setters of a builder (`Edit.setter_blames`). On a live builder a setter fails for its
arguments, or as the builder was used up, and then changes nothing (`edit_cases`, `edit_consumed`).
-/

namespace MarketFeed

/-! ## Checks -/

/-- If the check fails, then for a cause of which `P` holds. -/
def Blames {ε α : Type} (P : ε → Prop) (x : Except ε α) : Prop := ∀ cause, x = .error cause → P cause

namespace Blames

variable {ε α β : Type} {P : ε → Prop} {x : Except ε α}

theorem ok (a : α) : Blames P (.ok a) := fun _ h => by cases h

theorem error {cause : ε} (h : P cause) : Blames (α := α) P (.error cause) := by
  intro _ he
  cases he
  exact h

theorem bind {f : α → Except ε β} (hx : Blames P x) (hf : ∀ a, Blames P (f a)) :
    Blames P (x >>= f) := by
  cases x with
  | error cause => exact .error (hx cause rfl)
  | ok a => exact hf a

theorem map {f : α → β} (hx : Blames P x) : Blames P (x.map f) := by
  cases x with
  | error cause => exact .error (hx cause rfl)
  | ok a => exact .ok (f a)

theorem mapError {δ : Type} {f : ε → δ} {Q : δ → Prop} (hx : Blames (fun cause => Q (f cause)) x) :
    Blames Q (x.mapError f) := by
  cases x with
  | error cause => exact .error (hx cause rfl)
  | ok a => exact .ok a

theorem ite {p : Prop} [Decidable p] {y : Except ε α} (hx : Blames P x) (hy : Blames P y) :
    Blames P (if p then x else y) := by
  split
  · exact hx
  · exact hy

end Blames

theorem exists_of_bind {ε α β : Type} {x : Except ε α} {f : α → Except ε β} {b : β}
    (h : x >>= f = .ok b) : ∃ a, x = .ok a ∧ f a = .ok b := by
  cases x with
  | error cause => cases h
  | ok a => exact ⟨a, rfl, h⟩

/-- The error is about an argument, but not about a handle. -/
def SessionError.OfArgument (cause : SessionError) : Prop :=
  cause.status = -1 ∧ cause.ofHandle = false

namespace Boundary

/-! ## Texts and arrays -/

theorem text_blames (argument : CString) {name : String}
    (h : (SessionError.nullArgument name).ofHandle = false) :
    Blames SessionError.OfArgument (text argument name) := by
  unfold text
  split
  · exact .error ⟨rfl, h⟩
  · split
    · exact .ok _
    · exact .error ⟨rfl, rfl⟩

theorem symbolsFrom_blames (i : Nat) (entries : List CString) :
    Blames SessionError.OfArgument (symbolsFrom i entries) := by
  induction entries generalizing i with
  | nil => exact .ok []
  | cons entry rest ih =>
    cases entry with
    | none => exact .error ⟨rfl, rfl⟩
    | some bytes => exact (text_blames _ rfl).bind fun _ => (ih (i + 1)).bind fun _ => .ok _

theorem symbolList_blames (symbols : Option (List CString)) (count : Nat) :
    Blames SessionError.OfArgument (symbolList symbols count) := by
  cases symbols with
  | none => exact .ite (.error ⟨rfl, rfl⟩) (.error ⟨rfl, rfl⟩)
  | some entries => exact .ite (.error ⟨rfl, rfl⟩) (symbolsFrom_blames 0 _)

end Boundary

/-! ## Subscriptions -/

namespace Subscription

theorem new_blames (symbols : List String) (schema : Schema) (stypeIn : Symbology) :
    Blames SessionError.OfArgument (new symbols schema stypeIn) := by
  refine .ite (.error ⟨rfl, rfl⟩) ?_
  split
  · exact .error ⟨rfl, rfl⟩
  · exact .ok _

theorem startingAt_blames (s : Subscription) (start : StartPoint) :
    Blames SessionError.OfArgument (s.startingAt start) := by
  cases start with
  | unixNanos n => exact .ok _
  | text t => exact .ite (.error ⟨rfl, rfl⟩) (.ok _)

end Subscription

namespace Boundary.SubscribeArguments

theorem schemaOfCode_blames (code : UInt32) :
    Blames SessionError.OfArgument (schemaOfCode code) := by
  unfold schemaOfCode
  split
  · exact .ok _
  · exact .error ⟨rfl, rfl⟩

theorem symbologyOfCode_blames (code : UInt32) :
    Blames SessionError.OfArgument (symbologyOfCode code) := by
  unfold symbologyOfCode
  split
  · exact .ok _
  · exact .error ⟨rfl, rfl⟩

theorem plain_blames (a : SubscribeArguments) : Blames SessionError.OfArgument a.plain :=
  (symbolList_blames _ _).bind fun _ => (schemaOfCode_blames _).bind fun _ =>
    (symbologyOfCode_blames _).bind fun _ => Subscription.new_blames _ _ _

theorem subscription_blames (a : SubscribeArguments) :
    Blames SessionError.OfArgument a.subscription := by
  unfold subscription
  split
  · exact a.plain_blames
  · exact a.plain_blames.map
  · exact a.plain_blames.bind fun s => s.startingAt_blames _
  · exact (text_blames _ rfl).bind fun _ => a.plain_blames.bind fun s => s.startingAt_blames _

end Boundary.SubscribeArguments

/-! ## Callbacks -/

namespace StartShape

variable {κ : Type}

theorem required_blames {α : Type} (callback : Option α) {name : String}
    (h : (SessionError.nullArgument name).ofHandle = false) :
    Blames SessionError.OfArgument (callbacks.required callback name) := by
  cases callback with
  | none => exact .error ⟨rfl, h⟩
  | some c => exact .ok c

theorem callbacks_blames (shape : StartShape) (scripts : Rehearsal.Scripts κ) :
    Blames SessionError.OfArgument (shape.callbacks scripts) := by
  cases shape <;> exact (required_blames _ rfl).bind fun _ => .ok _

end StartShape

/-! ## Configurations -/

namespace Config

theorem validate_blames (c : Config) : Blames (·.ofHandle = false) c.validate :=
  .ite (.error rfl) (.ite (.error rfl) (.ok _))

/-- The engine that is opened may be at fault as well. -/
theorem connect_blames {κ : Type} (k : κ) (c : Config)
    (connect : κ → Config → Except EngineError Engine × κ) :
    Blames (·.ofHandle = false) (Session.connect k c connect).1 := by
  unfold Session.connect
  split
  · rename_i cause hcause
    exact .error (c.validate_blames cause hcause)
  · split
    · exact .error rfl
    · exact .ok _

theorem datasetOfId_blames (id : UInt32) : Blames SessionError.OfArgument (datasetOfId id) := by
  unfold datasetOfId
  split
  · exact .ok _
  · exact .error ⟨rfl, rfl⟩

theorem policyOfCode_blames (code : UInt32) :
    Blames SessionError.OfArgument (policyOfCode code) := by
  unfold policyOfCode
  split
  · exact .ok _
  · exact .error ⟨rfl, rfl⟩

/-- A setter that fails is not wrong about a handle, and leaves the configuration as it is. -/
def Refuses (c : Config) (r : Edited) : Prop :=
  ∀ cause, r.1 = .error cause → cause.ofHandle = false ∧ r.2 = c

namespace Refuses

variable {c : Config} {r r' : Edited}

theorem ok (c c' : Config) : c.Refuses (.ok (), c') := fun _ h => by cases h

theorem error {cause : SessionError} (h : cause.ofHandle = false) : c.Refuses (.error cause, c) := by
  rintro _ ⟨⟩
  exact ⟨h, rfl⟩

theorem ite {p : Prop} [Decidable p] (h : c.Refuses r) (h' : c.Refuses r') :
    c.Refuses (if p then r else r') := by
  split
  · exact h
  · exact h'

end Refuses

theorem setKey_refuses (c : Config) (key : String) : c.Refuses (c.setKey key) :=
  .ite (.error rfl) (.ok _ _)

theorem setKeyFromEnvironment_refuses (c : Config) (variableBytes : Option Bytes) :
    c.Refuses (c.setKeyFromEnvironment variableBytes) := by
  unfold setKeyFromEnvironment
  split
  · exact c.setKey_refuses _
  · exact .error rfl

end Config

namespace Boundary

/-- The arguments of a setter are looked at before the builder. -/
theorem Edit.setter_blames (e : Edit) : Blames SessionError.OfArgument e.setter := by
  cases e with
  | key | dataset | address => exact (text_blames _ rfl).bind fun _ => .ok _
  | datasetId v => exact (Config.datasetOfId_blames v).bind fun _ => .ok _
  | upgradePolicy v => exact (Config.policyOfCode_blames v).bind fun _ => .ok _
  | keyFromEnvironment | sendTsOut | heartbeat | bufferSize | shutdownTimeout => exact .ok _

theorem Edit.set_refuses {e : Edit} {set : Config → Config.Edited} (h : e.setter = .ok set)
    (c : Config) : c.Refuses (set c) := by
  cases e with
  | key v =>
    obtain ⟨key, -, ha⟩ := exists_of_bind h
    cases ha
    exact c.setKey_refuses key
  | keyFromEnvironment v =>
    cases h
    exact c.setKeyFromEnvironment_refuses v
  | dataset v =>
    obtain ⟨code, -, ha⟩ := exists_of_bind h
    cases ha
    exact .ite (.error rfl) (.ok _ _)
  | datasetId v =>
    obtain ⟨code, -, ha⟩ := exists_of_bind h
    cases ha
    exact .ok _ _
  | upgradePolicy v =>
    obtain ⟨policy, -, ha⟩ := exists_of_bind h
    cases ha
    exact .ok _ _
  | address host port =>
    obtain ⟨host, -, ha⟩ := exists_of_bind h
    cases ha
    exact .ite (.error rfl) (.ite (.error rfl) (.ok _ _))
  | heartbeat | bufferSize =>
    cases h
    exact .ite (.error rfl) (.ok _ _)
  | sendTsOut | shutdownTimeout =>
    cases h
    exact .ok _ _

/-- A call of a setter fails and changes nothing, on a live builder for an argument or as the builder
was used up; or it succeeds on an open builder. -/
theorem edit_cases (r : Registry) (p : Pointer) (e : Edit) :
    (∃ cause, edit r p e = (.error cause, r) ∧
      (r.Live .builder p → cause.ofHandle = false)) ∨
      ∃ b config config', p = some b ∧ r.handle? b = some (.builder (.opened config)) ∧
        edit r p e = (.ok (), r.setBuilder b (.opened config')) := by
  rcases r.builder_cases p with ⟨b, slot, hp, hb, hok⟩ | ⟨hn, herror⟩
  case inr =>
    exact .inl ⟨HandleKind.builder.refusal p, by simp only [edit, herror], fun hl => absurd hl hn⟩
  cases hset : e.setter with
  | error cause =>
    exact .inl ⟨cause, by simp only [edit, hok, hset], fun _ => (e.setter_blames _ hset).2⟩
  | ok set =>
    cases slot with
    | consumed => exact .inl ⟨.builderConsumed, by simp only [edit, hok, hset], fun _ => rfl⟩
    | opened config =>
      rcases hconfig : set config with ⟨cause | _, config'⟩
      · obtain ⟨hcause, hsame⟩ := Edit.set_refuses hset config cause (by rw [hconfig])
        rw [hconfig] at hsame
        subst hsame
        refine .inl ⟨cause, ?_, fun _ => hcause⟩
        simp only [edit, hok, hset, hconfig, Registry.setBuilder_self hb]
      · exact .inr ⟨b, config, config', hp, hb, by simp only [edit, hok, hset, hconfig]⟩

/-- Nothing is set on a builder that was used up. -/
theorem edit_consumed {r : Registry} {b : Nat} (hb : r.handle? b = some (.builder .consumed))
    (e : Edit) : ∃ cause, edit r (some b) e = (.error cause, r) ∧ cause.OfArgument := by
  unfold edit
  rw [Registry.builder_of_handle? hb]
  cases hset : e.setter with
  | error cause => exact ⟨cause, rfl, e.setter_blames cause hset⟩
  | ok set => exact ⟨.builderConsumed, rfl, rfl, rfl⟩

end Boundary

end MarketFeed
