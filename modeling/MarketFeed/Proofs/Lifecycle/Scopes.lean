import MarketFeed.Lifecycle.Custody

set_option autoImplicit false

/-!
# Scopes nest

A scope marks the thread with its lifecycle and puts the mark that was there before back when it
ends. The thread has only the one mark; the stack of the scopes that are open is spread over what
each of them keeps. `Nested` is the grammar of the runs in which a scope ends only after those that
were opened in it, with any other acts in between. Whatever the thread was marked with before such a
run, it is marked so after it (`Nested.closes`), and at every point of the run it is marked with the
lifecycle of the innermost open scope (`Nested.mark`).

A wait asks for nothing but this mark (`Custody.atOnce`), so it is answered without waiting just on
a thread whose innermost scope is of the lifecycle: `scopes_nest`.
-/

namespace MarketFeed

namespace Custody

/-! ## Runs -/

/-- An act on the lifecycle that is named. -/
abbrev Step := String × Act

/-- Whether an act opens or ends a scope. -/
def Act.isScoped : Act → Bool
  | .enter _ | .leave _ => true
  | _ => false

def run (c : Custody) (steps : List Step) : Custody := steps.foldl (fun c s => (c.act s.1 s.2).2) c

/-- The open scopes with their lifecycles, the innermost first, after one more step. -/
def opened (scopes : Named String) : Step → Named String
  | (name, .enter scope) => (scope, name) :: scopes
  | (_, .leave scope) => scopes.erase scope
  | _ => scopes

/-- The scopes that a run has opened and not ended. -/
def openScopes (steps : List Step) : Named String := steps.foldl opened []

/-- What a thread is marked with in open scopes, if it was marked with `outer` before. -/
def innermost (outer : Option String) (scopes : Named String) : Option String :=
  (scopes.head?.map (·.2)).or outer

/-- Runs in which a scope ends after all that were opened in it, and before those it was opened in.
A scope has a name that no open scope has. -/
inductive Nested : List String → List Step → Prop
  | nil {used : List String} : Nested used []
  | aside {used : List String} {name : String} {a : Act} {rest : List Step} :
      a.isScoped = false → Nested used rest → Nested used ((name, a) :: rest)
  | scope {used : List String} {name other scope : String} {body rest : List Step} :
      scope ∉ used → Nested (scope :: used) body → Nested used rest →
      Nested used ((name, .enter scope) :: (body ++ (other, .leave scope) :: rest))

theorem run_append (c : Custody) (steps steps' : List Step) :
    c.run (steps ++ steps') = (c.run steps).run steps' := List.foldl_append

/-! ## One act -/

section Acts

variable {c : Custody} {name scope : String}

theorem finish_scopes (c : Custody) (attempt : String) (ok : Bool) :
    (c.finish attempt ok).mark = c.mark ∧ (c.finish attempt ok).scopes = c.scopes := by
  unfold finish
  split <;> exact ⟨rfl, rfl⟩

theorem dropGuard_scopes (c : Custody) (guard : String) :
    (c.dropGuard guard).mark = c.mark ∧ (c.dropGuard guard).scopes = c.scopes := by
  unfold dropGuard
  split <;> exact ⟨rfl, rfl⟩

/-- An act that neither opens nor ends a scope leaves the mark and the scopes as they are. -/
theorem act_aside (c : Custody) (name : String) {a : Act} (ha : a.isScoped = false) :
    (c.act name a).2.mark = c.mark ∧ (c.act name a).2.scopes = c.scopes := by
  cases a with
  | enter | leave => cases ha
  | begin attempt =>
    unfold act
    dsimp only
    split
    · exact ⟨rfl, rfl⟩
    · exact finish_scopes _ attempt false
  | guard attempt guard =>
    unfold act
    dsimp only
    split
    · exact ⟨rfl, rfl⟩
    · exact dropGuard_scopes _ guard
  | succeeded attempt => exact finish_scopes _ attempt true
  | failed attempt | abandon attempt => exact finish_scopes _ attempt false
  | exit guard => exact dropGuard_scopes _ guard
  | fault | requestStop | stop | wait | restart | ensureUsable | ensureIdle | look =>
    exact ⟨rfl, rfl⟩

/-- A new scope keeps the mark that was there. -/
theorem act_enter (name : String) (hs : c.scopes.get? scope = none) :
    (c.act name (.enter scope)).2.mark = some name ∧
      (c.act name (.enter scope)).2.scopes = c.scopes.put scope c.mark := by
  let marked := { c.setLifecycle name (c.lifecycle name) with mark := some name }
  have hleave : marked.leave scope = marked := by
    have hs' : marked.scopes.get? scope = none := hs
    simp only [leave, hs']
  have hact : (c.act name (.enter scope)).2 =
      { marked.leave scope with scopes := (marked.leave scope).scopes.put scope c.mark } := rfl
  rw [hact, hleave]
  exact ⟨rfl, rfl⟩

/-- A scope that ends puts back the mark that it kept. -/
theorem act_leave (name : String) {before : Option String}
    (hs : c.scopes.get? scope = some before) :
    (c.act name (.leave scope)).2.mark = before ∧
      (c.act name (.leave scope)).2.scopes = c.scopes.erase scope := by
  let same := c.setLifecycle name (c.lifecycle name)
  have hleave : same.leave scope =
      { same with scopes := same.scopes.erase scope, mark := before } := by
    have hs' : same.scopes.get? scope = some before := hs
    simp only [leave, hs']
  have hact : (c.act name (.leave scope)).2 = same.leave scope := rfl
  rw [hact, hleave]
  exact ⟨rfl, rfl⟩

end Acts

theorem opened_aside (scopes : Named String) (name : String) {a : Act} (ha : a.isScoped = false) :
    opened scopes (name, a) = scopes := by
  cases a <;> first | rfl | cases ha

theorem erase_of_get?_eq_none {α : Type} {t : Named α} {scope : String}
    (h : t.get? scope = none) : t.erase scope = t := by
  rw [Named.get?, List.lookup_eq_none_iff] at h
  refine List.filter_eq_self.mpr fun e he => ?_
  have hne := h e he
  rw [bne_iff_ne]
  rintro rfl
  simp at hne

/-- What begins like one list after the other ends within the first or goes on after it. -/
theorem prefix_append_cases {α : Type} {l l₁ l₂ : List α} (h : l <+: l₁ ++ l₂) :
    l <+: l₁ ∨ ∃ t, l = l₁ ++ t ∧ t <+: l₂ := by
  rcases List.prefix_or_prefix_of_prefix h (List.prefix_append l₁ l₂) with hl | ⟨t, rfl⟩
  · exact .inl hl
  · exact .inr ⟨t, rfl, (List.prefix_append_right_inj l₁).mp h⟩

/-! ## Nested runs -/

/-- The names of the scopes that are open before a run, those of custody and those on the list, are
among the names in use. -/
structure Known (used : List String) (c : Custody) (scopes : Named String) : Prop where
  custody : ∀ scope, scope ∉ used → c.scopes.get? scope = none
  listed : ∀ scope, scope ∉ used → scopes.get? scope = none

namespace Known

variable {used : List String} {c c' : Custody} {scopes : Named String} {name scope : String}

theorem of_scopes (h : Known used c scopes) (hs : ∀ s, c'.scopes.get? s = c.scopes.get? s) :
    Known used c' scopes :=
  ⟨fun s hn => (hs s).trans (h.custody s hn), h.listed⟩

theorem enter (h : Known used c scopes) (name : String) (hn : scope ∉ used) :
    Known (scope :: used) (c.act name (.enter scope)).2 ((scope, name) :: scopes) := by
  refine ⟨fun s hs => ?_, fun s hs => ?_⟩ <;>
    obtain ⟨hne, hs⟩ := not_or.mp (mt List.mem_cons.mpr hs)
  · rw [(act_enter name (h.custody scope hn)).2, Named.get?_put_ne hne]
    exact h.custody s hs
  · rw [Named.get?, List.lookup_cons, beq_false_of_ne hne]
    exact h.listed s hs

end Known

/-- A run leaves nothing behind: the mark, the scopes of custody and the list of open scopes are as
before. -/
structure Closes (c : Custody) (scopes : Named String) (steps : List Step) : Prop where
  mark : (c.run steps).mark = c.mark
  kept : ∀ scope, (c.run steps).scopes.get? scope = c.scopes.get? scope
  listed : steps.foldl opened scopes = scopes

namespace Closes

variable {c : Custody} {scopes : Named String} {steps steps' : List Step}

theorem append (h : Closes c scopes steps) (h' : Closes (c.run steps) scopes steps') :
    Closes c scopes (steps ++ steps') := by
  refine ⟨?_, fun s => ?_, ?_⟩
  · rw [run_append, h'.mark, h.mark]
  · rw [run_append, h'.kept, h.kept]
  · rw [List.foldl_append, h.listed, h'.listed]

theorem aside (name : String) {a : Act} (ha : a.isScoped = false) :
    Closes c scopes [(name, a)] := by
  obtain ⟨hmark, hscopes⟩ := c.act_aside name ha
  refine ⟨hmark, fun s => ?_, opened_aside scopes name ha⟩
  show (c.act name a).2.scopes.get? s = c.scopes.get? s
  rw [hscopes]

/-- A scope that is left as it was found leaves nothing behind. -/
theorem scope {scope : String} {body : List Step} (name other : String)
    (hc : c.scopes.get? scope = none) (hl : scopes.get? scope = none)
    (hbody : Closes (c.act name (.enter scope)).2 ((scope, name) :: scopes) body) :
    Closes c scopes ((name, .enter scope) :: (body ++ [(other, .leave scope)])) := by
  obtain ⟨-, hscopes⟩ := act_enter name hc
  obtain ⟨-, hkept, hlisted⟩ := hbody
  have hsaved : ((c.act name (.enter scope)).2.run body).scopes.get? scope = some c.mark := by
    rw [hkept, hscopes, Named.get?_put_self]
  obtain ⟨hback, herased⟩ := act_leave other hsaved
  have hrun : c.run ((name, .enter scope) :: (body ++ [(other, .leave scope)])) =
      (((c.act name (.enter scope)).2.run body).act other (.leave scope)).2 :=
    run_append _ body _
  refine ⟨by rw [hrun, hback], fun s => ?_, ?_⟩
  · rw [hrun, herased]
    by_cases hs : s = scope
    · rw [hs, Named.get?_erase_self, hc]
    · rw [Named.get?_erase_ne hs, hkept, hscopes, Named.get?_put_ne hs]
  · have hself : Named.erase ((scope, name) :: scopes) scope = scopes.erase scope :=
      List.filter_cons_of_neg (by simp)
    rw [List.foldl_cons, List.foldl_append]
    show opened (body.foldl opened ((scope, name) :: scopes)) (other, .leave scope) = scopes
    rw [hlisted]
    exact hself.trans (erase_of_get?_eq_none hl)

end Closes

namespace Nested

variable {used : List String} {steps : List Step} {c : Custody} {scopes : Named String}

theorem scope_append (first last : Step) (body rest : List Step) :
    first :: (body ++ last :: rest) = (first :: (body ++ [last])) ++ rest := by simp

/-- A nested run leaves nothing behind, whatever is around it. -/
theorem closes (hn : Nested used steps) (hk : Known used c scopes) : Closes c scopes steps := by
  -- the body of a scope is a run with one more scope around it
  induction hn generalizing c scopes with
  | nil => exact ⟨rfl, fun _ => rfl, rfl⟩
  | @aside used name a rest ha _ ih =>
    have hself : Closes c scopes [(name, a)] := .aside name ha
    exact hself.append (ih (hk.of_scopes hself.kept))
  | @scope used name other scope body rest hfresh _ _ ihbody ihrest =>
    have hself : Closes c scopes ((name, .enter scope) :: (body ++ [(other, .leave scope)])) :=
      .scope name other (hk.custody scope hfresh) (hk.listed scope hfresh)
        (ihbody (hk.enter name hfresh))
    rw [scope_append]
    exact hself.append (ihrest (hk.of_scopes hself.kept))

/-- At every point of a nested run the thread is marked with the innermost scope. -/
theorem mark (hn : Nested used steps) (hk : Known used c scopes) {outer : Option String}
    (hm : c.mark = innermost outer scopes) {done : List Step} (hd : done <+: steps) :
    (c.run done).mark = innermost outer (done.foldl opened scopes) := by
  induction hn generalizing c scopes done with
  | nil =>
    rw [List.prefix_nil.mp hd]
    exact hm
  | @aside used name a rest ha _ ih =>
    rcases List.prefix_cons_iff.mp hd with rfl | ⟨done', rfl, hd'⟩
    · exact hm
    · obtain ⟨hmark, hscopes⟩ := c.act_aside name ha
      rw [List.foldl_cons, opened_aside scopes name ha]
      exact ih (hk.of_scopes fun s => by rw [hscopes]) (hmark.trans hm) hd'
  | @scope used name other scope body rest hfresh hbody _ ihbody ihrest =>
    -- before the scope, in its body, at its end, or after it
    rcases List.prefix_cons_iff.mp hd with rfl | ⟨inside, rfl, hinside⟩
    · exact hm
    have hentered := (act_enter name (hk.custody scope hfresh)).1
    rcases prefix_append_cases hinside with hbefore | ⟨_, rfl, hafter⟩
    · exact ihbody (hk.enter name hfresh) hentered hbefore
    rcases List.prefix_cons_iff.mp hafter with rfl | ⟨done', rfl, hd'⟩
    · rw [List.append_nil]
      exact ihbody (hk.enter name hfresh) hentered (List.prefix_refl _)
    · have hself : Nested used ((name, .enter scope) :: (body ++ [(other, .leave scope)])) :=
        .scope hfresh hbody .nil
      obtain ⟨hback, hkept, hlisted⟩ := hself.closes hk
      rw [scope_append, run_append, List.foldl_append, hlisted]
      exact ihrest (hk.of_scopes hkept) (hback.trans hm) hd'

end Nested

/-! ## Waiting -/

/-- The answer that a wait for the loop of a lifecycle is given at once; none if it has to wait. -/
def atOnce (c : Custody) (name : String) : Option Verdict :=
  (c.lifecycle name).atOnce (c.onDelivery name)

/-- The answer to a wait that has begun in `c` and is over, if it had to wait, in `c'`. -/
def waitAnswer (c c' : Custody) (name : String) : Verdict :=
  (c.atOnce name).getD (c'.lifecycle name).waited

/-- A wait that is over as soon as it has begun. -/
theorem act_wait (c : Custody) (name : String) :
    (c.act name .wait).1 = .verdict (c.waitAnswer c name) := rfl

/-- Of a run on one thread that is nested, with any acts between those on scopes, whatever the
thread was marked with before and whatever scopes were open that have other names:

* After the run the thread is marked as before, and no scope is left behind.
* At every point of it the thread is marked with the lifecycle of the innermost scope that is open,
  and as before if there is none. So it is in a callback of just this lifecycle.
* If the loop of a lifecycle is active there, a wait for it goes on at once, whatever comes later,
  just if the innermost scope is of this lifecycle; if not, the thread has to wait.
* A wait that is over as soon as it has begun is answered so. -/
theorem scopes_nest {used : List String} {steps : List Step} (hn : Nested used steps) {c : Custody}
    (hu : ∀ scope, scope ∉ used → c.scopes.get? scope = none) :
    ((c.run steps).mark = c.mark ∧ openScopes steps = [] ∧
      ∀ scope, (c.run steps).scopes.get? scope = c.scopes.get? scope) ∧
    ∀ done, done <+: steps →
      let now := c.run done
      let marked := innermost c.mark (openScopes done)
      now.mark = marked ∧
      (∀ name, now.onDelivery name = true ↔ marked = some name) ∧
      (∀ name, (now.lifecycle name).isActive = true →
        (now.atOnce name = some .proceed ↔ marked = some name) ∧
        (now.atOnce name = none ↔ marked ≠ some name) ∧
        (marked = some name → ∀ later, now.waitAnswer later name = .proceed)) ∧
      ∀ name, (now.act name .wait).1 = .verdict (now.waitAnswer now name) := by
  have hk : Known used c [] := ⟨hu, fun _ _ => rfl⟩
  obtain ⟨hmark, hkept, hlisted⟩ := hn.closes hk
  refine ⟨⟨hmark, hlisted, hkept⟩, fun done hd => ?_⟩
  intro now marked
  have hm : now.mark = marked := hn.mark hk rfl hd
  have hdelivery (name : String) : now.onDelivery name = true ↔ marked = some name := by
    rw [onDelivery, delivers_iff, hm]
  refine ⟨hm, hdelivery, fun name ha => ?_, now.act_wait⟩
  have hatOnce : now.atOnce name = _ := Lifecycle.atOnce_active ha _
  by_cases hin : marked = some name
  · rw [(hdelivery name).mpr hin, if_pos rfl] at hatOnce
    refine ⟨iff_of_true hatOnce hin, iff_of_false ?_ (not_not_intro hin), fun _ later => ?_⟩
    · rw [hatOnce]
      exact Option.some_ne_none _
    · rw [waitAnswer, hatOnce, Option.getD_some]
  · rw [if_neg (mt (hdelivery name).mp hin)] at hatOnce
    refine ⟨iff_of_false ?_ hin, iff_of_true hatOnce hin, fun h => absurd h hin⟩
    rw [hatOnce]
    exact (Option.some_ne_none _).symm

/-- Three scopes of two lifecycles, whose loops run: in the innermost one, of the outermost
lifecycle again, a wait for its loop goes on at once, and before it was opened the thread would have
had to wait. -/
theorem scopes_nest_reentered :
    let done : List Step := [("a", .begin "s"), ("a", .succeeded "s"), ("a", .enter "1"),
      ("b", .begin "t"), ("b", .succeeded "t"), ("b", .enter "2")]
    let steps := done ++ [("a", .enter "3"), ("a", .leave "3"), ("b", .leave "2"),
      ("a", .leave "1")]
    Nested [] steps ∧ (run {} steps).mark = none ∧
      ((run {} done).lifecycle "a").state = .running ∧ (run {} done).atOnce "a" = none ∧
      (run {} (done ++ [("a", .enter "3")])).atOnce "a" = some .proceed := by
  intro done steps
  have hthird : Nested ["2", "1"] [("a", .enter "3"), ("a", .leave "3")] :=
    @Nested.scope _ "a" "a" "3" [] [] (by decide) .nil .nil
  have hsecond : Nested ["1"] [("b", .enter "2"), ("a", .enter "3"), ("a", .leave "3"),
      ("b", .leave "2")] :=
    @Nested.scope _ "b" "b" "2" _ [] (by decide) hthird .nil
  have hn : Nested [] steps :=
    .aside rfl (.aside rfl
      (@Nested.scope _ "a" "a" "1" _ [] (by decide) (.aside rfl (.aside rfl hsecond)) .nil))
  have hstate : ((run {} done).lifecycle "a").state = .running := by decide +kernel
  have hstate' : ((run {} (done ++ [("a", .enter "3")])).lifecycle "a").state = .running := by
    decide +kernel
  obtain ⟨⟨hmark, -⟩, hpoint⟩ := scopes_nest hn (c := {}) fun _ _ => rfl
  have hbefore := (hpoint done (List.prefix_append _ _)).2.2.1 "a"
    (by rw [Lifecycle.isActive, hstate]; rfl)
  have hafter := (hpoint (done ++ [("a", .enter "3")]) ⟨_, rfl⟩).2.2.1 "a"
    (by rw [Lifecycle.isActive, hstate']; rfl)
  exact ⟨hn, hmark, hstate, hbefore.2.1.mpr (by decide +kernel), hafter.1.mpr (by decide +kernel)⟩

end Custody

end MarketFeed
