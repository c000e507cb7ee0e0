import MarketFeed.Proofs.Rehearsal.Crossings

set_option autoImplicit false

/-!
# Error slots

Each thread has an error slot of its own. It is cleared when a call is entered and filled when the
call fails, so after a call it tells of that call, whatever other threads do meanwhile
(`Happens.slot_left`); crossings of other threads leave it alone (`Happens.slot_other`). What a call
returns agrees with its slot (`Told`). Taken together, and with every call of a rehearsal being such
crossings: `error_slots_tell_outcomes`.
-/

namespace MarketFeed.Rehearsal

open Boundary

/-! ## What a caller is told -/

/-- The message of an outcome, as it can be passed on. -/
def message? {α : Type} : Except SessionError α → Option String
  | .ok _ => none
  | .error cause => some (withoutNul cause.message)

/-- A call that came to the outcome returned the value and left the slot. -/
structure Told (step : HandleStep) (outcome : Except SessionError World.Success) (value : Value)
    (slot : Option String) : Prop where
  /-- The slot is unset after a success, and holds the message of a failure. -/
  message : slot = message? outcome
  /-- A status is negative if and only if the slot is set, and is then that of the failure. -/
  status : step.report = .status → ∃ n : Int, value = .number n ∧ (n < 0 ↔ slot.isSome = true) ∧
    (0 ≤ n ↔ outcome.isOk = true) ∧ ∀ cause, outcome = .error cause → n = cause.status
  /-- There is no handle if and only if the slot is set. -/
  handle : step.report = .handle → ∃ b, value = .flag b ∧ (b = false ↔ slot.isSome = true)

namespace World

variable {w w' : World} {t u : Thread} {step : HandleStep}
  {outcome : Except SessionError Success} {es : List Crossing}

/-- A body that succeeds gives what a call may return. -/
theorem entryPoint?_grants {hosts : Hosts} {e : EntryPoint} {s : Success} {w₁ w₂ : World}
    (he : entryPoint? hosts w step = some e) (hs : e.body w₁ = (.ok s, w₂)) :
    step.Grants s.value := by
  cases step with
  | builderNew | build | builderFree | sessionFree =>
    cases he
    obtain ⟨b, -, rfl⟩ := giving_ok hs
    exact rfl
  | lastError | lastErrorElsewhere | push | pushStream | hand | inject | onStart => cases he
  | _ =>
    cases he
    obtain ⟨b, -, rfl⟩ := giving_ok hs
    exact ⟨_, rfl⟩

theorem Comes.grants {s : Success} (h : Comes step (.ok s)) : step.Grants s.value := by
  obtain ⟨hosts, w, w', t, e, he, hr⟩ := h
  cases hb : e.body (w'.setSlot t none) with
  | mk r w₁ =>
  cases r with
  | ok s' =>
    rw [guarded_ok hb] at hr
    cases hr
    exact entryPoint?_grants he hb
  | error halt =>
    rw [guarded_error hb] at hr
    cases hr

/-- What is returned agrees with the slot. -/
theorem Comes.told (h : Comes step outcome) :
    Told step outcome (returned step outcome) (message? outcome) := by
  refine ⟨rfl, fun hr => ?_, fun hr => ?_⟩
  · cases outcome with
    | ok s =>
      have hg := h.grants
      rw [HandleStep.Grants, hr] at hg
      obtain ⟨n, hn⟩ := hg
      refine ⟨n, hn, by simp [message?], ?_, fun cause hc => by cases hc⟩
      exact ⟨fun _ => rfl, fun _ => Int.natCast_nonneg n⟩
    | error cause =>
      refine ⟨cause.status, ?_, by simp [message?, cause.status_neg], ?_,
        fun cause' hc => by cases hc; rfl⟩
      · rw [returned, HandleStep.refusal, hr]
      · exact ⟨fun h => absurd cause.status_neg (Int.not_lt.mpr h), fun h => by cases h⟩
  · cases outcome with
    | ok s =>
      have hg := h.grants
      rw [HandleStep.Grants, hr] at hg
      exact ⟨true, hg, by simp [message?]⟩
    | error cause =>
      refine ⟨false, ?_, by simp [message?]⟩
      rw [returned, HandleStep.refusal, hr]

/-! ## Crossings and slots -/

theorem fill_other {e : Crossing} (h : e.thread? ≠ some u) (slot : Option String) :
    e.fill u slot = slot := by
  cases e with
  | entered t step p => exact if_neg fun hu => h (congrArg some hu.symm)
  | did d => rfl
  | left t step outcome =>
    cases outcome with
    | ok s => rfl
    | error cause => exact if_neg fun hu => h (congrArg some hu.symm)

/-- Crossings of other threads leave the slot of a thread alone. -/
theorem Happens.slot_other (h : Happens w es w') (hu : ∀ e ∈ es, e.thread? ≠ some u) :
    w'.slot u = w.slot u := by
  rw [h.slot]
  clear h
  generalize w.slot u = slot
  induction es with
  | nil => rfl
  | cons e es ih =>
    rw [List.foldl_cons, fill_other (hu e List.mem_cons_self)]
    exact ih fun e' he' => hu e' (List.mem_cons_of_mem _ he')

/-- After a call, and until the next call of its thread, the slot tells of its outcome. Calls of other
threads may be made meanwhile. -/
theorem Happens.slot_left {p : Pointer} {before inner rest : List Crossing}
    (h : Happens w
      (before ++ .entered t step p :: (inner ++ .left t step outcome :: rest)) w')
    (hinner : ∀ e ∈ inner, e.thread? ≠ some t) (hrest : ∀ e ∈ rest, e.thread? ≠ some t) :
    Comes step outcome ∧ w'.slot t = message? outcome := by
  obtain ⟨v, -, hcall⟩ := h.split
  obtain ⟨v₁, v₂, -, -, ⟨-, rfl⟩, hbody⟩ := hcall.uncons
  obtain ⟨v₃, hcalls, hend⟩ := hbody.split
  obtain ⟨v₄, v₅, -, hslots, ⟨hcomes, rfl⟩, hafter⟩ := hend.uncons
  have hclear : v₄.slot t = none := by
    have hsame : v₄.slot t = v₃.slot t := congrArg (·.lookup t) hslots
    rw [hsame, hcalls.slot_other hinner, slot_setSlot_self]
  refine ⟨hcomes, ?_⟩
  rw [hafter.slot_other hrest]
  cases outcome with
  | ok s => exact (slot_note v₄ s.note t).trans hclear
  | error cause => exact slot_setSlot_self v₄ t _

/-- The threads of the host program, but for the one that calls, keep their slots. -/
theorem Happens.slot_host {number : Nat} (h : Happens w es w') (hon : ∀ e ∈ es, e.On t)
    (ht : .host number ≠ t) : w'.slot (.host number) = w.slot (.host number) := by
  refine h.slot_other fun e he hthread => ?_
  rcases hon e he _ hthread with hown | ⟨n, generation, hloop⟩
  · exact ht hown
  · cases hloop

theorem Happens.told {p : Pointer} {before inner rest : List Crossing}
    (h : Happens w
      (before ++ .entered t step p :: (inner ++ .left t step outcome :: rest)) w')
    (hinner : ∀ e ∈ inner, e.thread? ≠ some t) (hrest : ∀ e ∈ rest, e.thread? ≠ some t) :
    Told step outcome (returned step outcome) (w'.slot t) := by
  obtain ⟨hcomes, hslot⟩ := h.slot_left hinner hrest
  rw [hslot]
  exact hcomes.told

end World

/-! ## The protocol -/

/-- In any interleaving of calls on any number of threads, no call inside of another on its own
thread, the error slot of a thread tells of the last call that was made on it, and what the call
returned agrees with it; the calls of other threads do not change it. Every call of a rehearsal is
entered and left in such an interleaving, together with the calls that callbacks make on the thread
or on those of loops, and returns what belongs to its outcome. A look at the error slot shows it and
changes nothing. -/
theorem error_slots_tell_outcomes :
    (∀ (w w' : World) (es : List Crossing), World.Happens w es w' →
      (∀ t, (∀ e ∈ es, e.thread? ≠ some t) → w'.slot t = w.slot t) ∧
      ∀ before inner rest t step p outcome,
        es = before ++ .entered t step p :: (inner ++ .left t step outcome :: rest) →
        (∀ e ∈ inner, e.thread? ≠ some t) → (∀ e ∈ rest, e.thread? ≠ some t) →
        Told step outcome (World.returned step outcome) (w'.slot t)) ∧
    (∀ (budget depth : Nat) (c : Caller) (step : HandleStep) (w : World), step.crosses = true →
      let t := c.thread
      let a := World.perform budget (depth + 1) c step w
      ∃ p outcome, ∃ own : List Deed, ∃ inner rest v, World.Made t inner ∧ World.Made t rest ∧
        World.Happens w (.entered t step p :: (own.map .did ++ inner ++ [.left t step outcome])) v ∧
        World.Happens v rest a.2 ∧ a.1.slot = some (v.slot t) ∧
        a.1.value = World.returned step outcome ∧
        ((∀ e ∈ inner, e.thread? ≠ some t) → Told step outcome a.1.value (v.slot t)) ∧
        ∀ number, .host number ≠ t → a.2.slot (.host number) = w.slot (.host number)) ∧
    ∀ (budget depth : Nat) (c : Caller) (w : World),
      World.perform budget (depth + 1) c .lastError w = (⟨.void, some (w.slot c.thread), none⟩, w) := by
  refine ⟨fun w w' es h => ⟨fun t => h.slot_other, ?_⟩, fun budget depth c step w hc => ?_,
    fun _ _ _ _ => rfl⟩
  · rintro before inner rest t step p outcome rfl hinner hrest
    exact h.told hinner hrest
  · let hosts := World.hosts (World.perform budget depth) budget c
    obtain ⟨e, he⟩ : ∃ e, World.entryPoint? hosts w step = some e :=
      Option.isSome_iff_exists.mp ((World.entryPoint?_crosses w step).trans hc)
    obtain ⟨own, inner, v, rest, hfits, hinner, hrest, hin, hout, hreply⟩ :=
      (World.traced budget depth).enter he
    have hcall : World.perform budget (depth + 1) c step w = World.enter c.thread e w :=
      World.call_enter he
    have hmade := World.Made.call hfits hinner hrest
    have hall := hin.append hout
    simp only [List.cons_append, List.append_assoc, List.nil_append] at hall hmade
    simp only [hcall, hreply]
    refine ⟨_, _, own, inner, rest, v, hinner, hrest, hin, hout, rfl, rfl, fun hother => ?_,
      fun number => hall.slot_host hmade.on⟩
    -- deeds are made on no thread at all
    have hquiet : ∀ e ∈ own.map Crossing.did ++ inner, e.thread? ≠ some c.thread := by
      intro e he
      rcases List.mem_append.mp he with he | he
      · obtain ⟨d, -, rfl⟩ := List.mem_map.mp he
        exact fun h => by cases h
      · exact hother e he
    have hcalled : World.Happens w ([] ++ _ :: (_ ++ _ :: [])) v := hin
    exact hcalled.told hquiet fun e he => by cases he

/-- The first call that sets up the logger succeeds, and the next one fails. -/
example :
    let init := World.perform 1 1 {} (.loggingInit none)
    (init {}).1.slot = some none ∧ (init (init {}).2).1.slot = some (some
      ("configuration error: logging already initialized: " ++
        "a global default trace dispatcher has already been set")) := by
  decide +kernel

/-- A callback fails to ask for statistics, on the thread of its loop. The slot of the thread that
pushed the record stays unset. -/
example :
    let steps : List HandleStep := [
      .builderNew "b",
      .edit (some "b") (.key (some [102, 102, 105])),
      .edit (some "b") (.dataset (some [71, 76, 66, 88, 46, 77, 68, 80, 51])),
      .build (some "b") "s" .replay,
      .start (some "s") .record { record := some [⟨some (.stats none true), .code 0⟩] },
      .push "s" (.record (12 :: List.replicate 47 0))]
    let w := (steps.mapM (World.perform 64 64 {}) {}).2
    w.slot (.host 0) = none ∧ w.slot (.loop 0 1) = some "session pointer is null" := by
  decide +kernel

end MarketFeed.Rehearsal
