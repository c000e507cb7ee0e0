import MarketFeed.Proofs.Rehearsal.Upkeep
import MarketFeed.Proofs.Session.Panics

set_option autoImplicit false

/-!
# Panics that do not cross the boundary

A foreign callback that panics is caught before its session hears of it. `World.Contained` is the
invariant of the rehearsals of the boundary: no session has counted a callback fault, and none of
the callbacks that are yet to run will panic. Every call keeps it, as deep as calls may nest
(`contained_upkeep`), so the statistics behind a handle never tell of a fault
(`foreign_panics_are_uncounted`).
-/

namespace MarketFeed.Rehearsal

open Boundary

/-! ## Contained sessions -/

section

variable {κ : Type}

theorem Scripts.next_contained (s : Scripts κ) (c : Call) :
    s.contained.next c = ((s.next c).1.contained, (s.next c).2.contained) := by
  cases c <;> simp only [next, contained, draw_map (f := Action.contained) rfl]

theorem Scripts.sinks_contained (s : Scripts κ) : s.contained.sinks = s.sinks := by
  simp only [sinks, contained, Option.isSome_map]

theorem Scripts.contained_contained (s : Scripts κ) : s.contained.contained = s.contained := by
  have hreply : ∀ r : Reply, r.contained.contained = r.contained := by
    intro r
    cases r <;> rfl
  have haction :
      (Action.contained ∘ Action.contained : Action κ → Action κ) = Action.contained := by
    funext a
    exact congrArg (Action.mk a.call) (hreply a.reply)
  have hscript : ∀ script : Option (List (Action κ)),
      (script.map (·.map Action.contained)).map (·.map Action.contained) =
        script.map (·.map Action.contained) := by
    intro script
    cases script with
    | none => rfl
    | some actions => simp only [Option.map_some, List.map_map, haction]
  simp only [contained, hscript]

end

/-- Whether a reply tells of no callback faults. -/
def HandleReply.faultless (r : HandleReply) : Bool :=
  match r.out with
  | some (.stats s) => s.callbackFaults == 0
  | _ => true

/-- So for the reply to a callback that made a call. -/
def Entry.faultless : Entry HandleReply → Bool
  | .callback _ _ (some r) => r.faultless
  | _ => true

/-- No callback fault was counted or told of, and no callback will panic. -/
structure Scripted.Contained (x : Scripted HandleStep HandleReply) : Prop where
  faults : x.session.stats.callbackFaults = 0
  scripts : x.scripts.contained = x.scripts
  log : x.log.all Entry.faultless = true

namespace Scripted.Contained

variable {x : Scripted HandleStep HandleReply}

theorem move (h : x.Contained) {m : Move} (hm : m ≠ .reply .panic) :
    ({ x with session := x.session.move m } : Scripted _ _).Contained := by
  refine ⟨?_, h.scripts, h.log⟩
  show (x.session.move m).stats.callbackFaults = 0
  rw [Session.move_faults _ hm, h.faults]

theorem manual (h : x.Contained) (f : Manual → Manual) :
    ({ x with session := x.session.modifyManual f } : Scripted _ _).Contained := by
  refine ⟨?_, h.scripts, h.log⟩
  show (x.session.modifyManual f).stats.callbackFaults = 0
  rw [(Session.Keeps.modifyManual _ _).stats, h.faults]

theorem note (h : x.Contained) {e : Entry HandleReply} (he : e.faultless = true) :
    (x.note e).Contained := by
  refine ⟨h.faults, h.scripts, ?_⟩
  simp only [Scripted.note, List.all_append, h.log, List.all_cons, he, List.all_nil, Bool.and_self]

theorem next (h : x.Contained) (c : Call) :
    (x.scripts.next c).1.reply ≠ .panic ∧
      (x.scripts.next c).2.contained = (x.scripts.next c).2 := by
  have hn := x.scripts.next_contained c
  rw [h.scripts] at hn
  refine ⟨?_, (congrArg Prod.snd hn).symm⟩
  rw [congrArg Prod.fst hn]
  show (x.scripts.next c).1.reply.contained ≠ .panic
  cases (x.scripts.next c).1.reply <;> exact nofun

end Scripted.Contained

/-- What is left with a caller tells of no callback faults. -/
def Out.Faultless (out : Out) : Prop := ∀ s, out = .stats s → s.callbackFaults = 0

theorem HandleReply.faultless_iff {r : HandleReply} :
    r.faultless = true ↔ r.Brings Out.Faultless := by
  unfold faultless Brings Out.Faultless
  split
  · rename_i s hs
    rw [beq_iff_eq]
    constructor
    · rintro h out hout s' rfl
      rw [hs, Option.some.injEq, Out.stats.injEq] at hout
      rw [← hout, h]
    · exact fun h => h _ hs s rfl
  · rename_i hne
    exact iff_of_true rfl fun out hout s hs => absurd (hs ▸ hout) (hne s)

theorem Entry.faultless_of_brings {e : Entry HandleReply} (h : e.Brings Out.Faultless) :
    e.faultless = true := by
  rcases e with ⟨c, state, _ | r⟩ | c | ⟨name, answer⟩
  · rfl
  · exact HandleReply.faultless_iff.mpr h
  · rfl
  · rfl

/-- Whatever happens to a session keeps it contained. -/
theorem contained_upkeep : Upkeep Scripted.Contained (· ≠ .panic) Out.Faultless where
  new _ _ := ⟨rfl, rfl, rfl⟩
  move h hr := h.move fun hm => hr .panic hm rfl
  manual f h := h.manual f
  draw c h := ⟨(h.next c).1, h.faults, (h.next c).2, h.log⟩
  follow scripts h := ⟨h.faults, scripts.contained_contained, h.log⟩
  note h he := h.note (Entry.faultless_of_brings he)
  hold _ h := ⟨h.faults, h.scripts, h.log⟩
  clear h := ⟨h.faults, h.scripts, rfl⟩
  stats h := fun s hs => Out.stats.inj hs ▸ h.faults
  blank h := fun s hs => by rw [h s hs]

/-! ## Contained worlds -/

namespace World

/-- All sessions are contained. -/
def Contained (w : World) : Prop := ∀ number, (w.scripted number).Contained

theorem noSession_contained : noSession.Contained := ⟨rfl, rfl, rfl⟩

/-! ## Rehearsals -/

/-- Whether no reply that is seen in a step tells of a callback fault. -/
def Seen.faultless (s : Seen) : Bool :=
  s.reply.faultless && s.logs.all fun l => l.2.all Entry.faultless

theorem see_safe (budget : Nat) (step : HandleStep) :
    Safe Scripted.Contained (·.faultless = true) (see budget step) := by
  refine (contained_upkeep.performs budget budget {} step).bind fun r hr =>
    Safe.look.bind fun w hw => ?_
  refine Safe.bind (A := fun _ => True) (fun _ _ => ⟨contained_upkeep.clearLogs hw, trivial⟩)
    fun _ _ => .pure ?_
  simp only [Seen.faultless, HandleReply.faultless_iff.mpr hr, Bool.true_and, List.all_eq_true]
  intro l hl
  obtain ⟨⟨name, number⟩, -, rfl⟩ := List.mem_map.mp (List.mem_filter.mp hl).1
  exact List.all_eq_true.mp (hw number).log

end World

/-- A session counts a callback fault for each callback that panics, in any run. But behind a handle
the panics of callbacks are caught before the session hears of them: in no rehearsal does a call for
the statistics, by whomever it is made, tell of a callback fault. -/
theorem foreign_panics_are_uncounted (steps : List HandleStep) :
    (World.play steps).all World.Seen.faultless = true ∧
    ∀ (s : Session) (ms : List Move), (s.after ms).stats.callbackFaults =
      s.stats.callbackFaults + .ofNat ((s.trace ms).countP Mark.isPanic) := by
  refine ⟨?_, fun s ms => s.faults_after ms⟩
  have hstart : ({ logging := LogFilter.logging } : World).Contained :=
    fun _ => World.noSession_contained
  have hall := World.mapM_safe (World.see_safe (8 * steps.foldl (fun n s => n + s.weight) 8)) steps
  exact List.all_eq_true.mpr (hall _ hstart).2

/-- The callback faults that a reply tells of. -/
def HandleReply.faults? (r : HandleReply) : Option UInt64 :=
  match r.out with
  | some (.stats s) => some s.callbackFaults
  | _ => none

/-- A record callback that panics on its first call. Behind a handle it is called once and no fault
is counted; of a session without a boundary, the same callback is counted. -/
theorem foreign_panic_uncounted_record :
    let trade : Bytes := 12 :: List.replicate 47 0
    let behind := World.play [
      .builderNew "b",
      .edit (some "b") (.key (some [102, 102, 105])),
      .edit (some "b") (.dataset (some [71, 76, 66, 88, 46, 77, 68, 80, 51])),
      .build (some "b") "s" .replay,
      .push "s" (.record trade),
      .start (some "s") .record { record := some [⟨none, .panic⟩] },
      .stats (some "s") true]
    let direct := (Stage.openReplay { key := "ffi", dataset := "GLBX.MDP3" } none).map fun s =>
      Stage.play s [.push trade, .start { record := some [⟨none, .panic⟩] }]
    behind.map (HandleReply.faults? ·.reply) = [none, none, none, none, none, none, some 0] ∧
      behind.map (·.logs.map (·.2.length)) = [[], [], [], [], [], [1], []] ∧
      direct.toOption.bind (·.final.map (·.stats.callbackFaults)) = some 1 := by
  decide +kernel

end MarketFeed.Rehearsal
