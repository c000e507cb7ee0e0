import MarketFeed.Proofs.Threads.Weaving

set_option autoImplicit false

/-!
# What becomes of the records that a loop takes

A record that was taken from the feed is brought before the session in a later step of the loop, and
a stop may be requested between the two. `Threads.checks` lists the records that were brought there
and whether a stop was requested by then: these are all that were taken, but for one that the loop
still holds, and those that found no request are the ones that were delivered (`Woven.checks`).
-/

namespace MarketFeed

namespace Threads

/-- The record that the loop holds. -/
def held (t : Threads) : List Record :=
  match t.place with
  | some (.holding event) => event.record?.toList
  | _ => []

/-- The record that a step brings before the session, and whether a stop was requested by then. -/
def check (t : Threads) : Step → List (Record × Bool)
  | .advance => t.held.map fun r => (r, t.session.lifecycle.stopRequested)
  | _ => []

def checks : Threads → List Step → List (Record × Bool)
  | _, [] => []
  | t, x :: xs => t.check x ++ (t.step x).checks xs

/-- The records that found no request. -/
def passed (cs : List (Record × Bool)) : List Record := (cs.filter (!·.2)).map (·.1)

theorem passed_append (cs cs' : List (Record × Bool)) :
    passed (cs ++ cs') = passed cs ++ passed cs' := by
  simp [passed]

end Threads

open Threads

variable {t : Threads} {e : Replay}

namespace Threads

theorem takes_marks (t : Threads) (x : Step) : takes (t.marks x) = takes (t.arrivals x) := by
  have hdel : takes (t.deliveries x) = [] := by
    unfold deliveries
    split
    · split
      · split
        · rfl
        · simp [takes, Mark.took?]
      · rfl
    · rfl
  have hend (b : Bool) : takes (if b then [.ended] else []) = [] := by cases b <;> rfl
  have hnew : takes ((t.newCall x).toList.map (.called ·.timeless)) = [] := by
    cases t.newCall x <;> rfl
  rw [marks, takes_append, takes_append, takes_append, hdel, hnew, hend, List.append_nil,
    List.append_nil, List.append_nil]

/-- A step delivers the record that it brings before the session, unless a stop was requested. -/
theorem delivered_marks (t : Threads) (x : Step) :
    delivered (t.marks x) = passed (t.check x) := by
  have harr : delivered (t.arrivals x) = [] := by
    unfold arrivals
    split
    · split <;> rfl
    · split <;> rfl
    · cases t.session.calling <;> rfl
    · exact delivered_pushed _
    · exact delivered_pushed _
    · rfl
  have hend (b : Bool) : delivered (if b then [.ended] else []) = [] := by cases b <;> rfl
  have hnew : delivered ((t.newCall x).toList.map (.called ·.timeless)) = [] := by
    cases t.newCall x <;> rfl
  rw [marks, delivered_append, delivered_append, delivered_append, harr, hnew, hend,
    List.nil_append, List.append_nil, List.append_nil]
  cases x with
  | advance =>
    rcases hp : t.place with _ | p
    · simp [deliveries, check, held, hp, passed, delivered]
    · cases p with
      | holding event =>
        cases hsr : t.session.lifecycle.stopRequested <;> cases hr : event.record? <;>
          simp [deliveries, check, held, hp, hsr, hr, passed, delivered, Mark.record?]
      | looking | receiving | calling | leaving | finishing =>
        simp [deliveries, check, held, hp, passed, delivered]
  | timeout | reply | claim | launch | succeed | ask | carry | push | pushStream => rfl

theorem held_of_place {p : Place} (hp : t.place = some p) (h : ∀ event, p ≠ .holding event) :
    t.held = [] := by
  rw [held, hp]
  cases p with
  | holding event => exact absurd rfl (h event)
  | looking | receiving | calling | leaving | finishing => rfl

/-- After a delivery the loop holds nothing. -/
theorem held_follow (t : Threads) (p : Progress × Session) : (t.follow p).held = [] := by
  obtain ⟨c | o, s⟩ := p
  · rfl
  · cases o with
    | greeted => rfl
    | verdict v => cases v <;> rfl
    | recovery r => cases r <;> rfl

theorem held_deliver (t : Threads) (event : FeedEvent) : (t.deliver event).held = [] := by
  unfold deliver
  split
  · exact held_follow _ _
  · exact held_follow _ _
  · rfl

end Threads

/-- Only the loop takes events, and gives away what it holds. -/
theorem Threads.Does.held_eq {x : Step} {m : List Mark} {t' : Threads} (h : Woven t e)
    (hx : x ≠ .advance) (hd : Does t e x m t') : takes m = [] ∧ t'.held = t.held := by
  have hcalling {c : Call} (hc : t.session.calling = some c) : t.held = [] :=
    held_of_place (h.place_calling hc) (by simp)
  cases hd with
  | still | claim | lapse | succeed | ask | askStop | giveAway | subscribe | reconnect | carry
  | tell => exact ⟨rfl, rfl⟩
  | feed => exact ⟨takes_pushed _, rfl⟩
  | timeout hp => exact ⟨rfl, (held_of_place hp (by simp)).symm⟩
  | launch _ hl =>
    have hp := h.place_none hl
    refine ⟨rfl, ?_⟩
    rw [Threads.held, Threads.held, hp]
  | greeted hc | restart _ hc | abandon hc => exact ⟨rfl, (hcalling hc).symm⟩
  | offer _ hc | proceed _ hc | stopped _ hc => exact ⟨rfl, (hcalling hc).symm⟩
  | _ => exact absurd rfl hx

namespace Woven

/-- When the loop goes on it holds the record that it took, if any. -/
theorem held_advance (h : Woven t e) :
    (t.step .advance).held = (takes (t.arrivals .advance)).filterMap FeedEvent.record? := by
  rcases hp : t.place with _ | p
  · simp [arrivals, Threads.step, advance, hp, takes, Threads.held]
  have harr (hne : p ≠ .receiving) : t.arrivals .advance = [] := by
    cases p with
    | receiving => exact absurd rfl hne
    | looking | holding | calling | leaving | finishing => simp [arrivals, hp]
  cases p with
  | looking =>
    rw [harr (by simp), show t.step .advance = t.look e by simp [Threads.step, advance, hp, h.engine]]
    unfold look
    split
    · exact held_follow _ _
    · rfl
    · rfl
    · exact held_of_place hp (by simp)
  | receiving =>
    cases hq : e.queue with
    | nil =>
      have hs := shows_wait h.engine hp hq
      have harr : t.arrivals .advance = [] := by
        simp [arrivals, hp, show t.advance = t from hs.step]
      rw [hs.step, harr]
      exact held_of_place hp (by simp)
    | cons event queue =>
      have hs := shows_take h.engine hp hq
      have harr : t.arrivals .advance = [.took event t.session.symbols] := by
        simp [arrivals, hp, show t.advance = _ from hs.step]
      rw [hs.step, harr]
      cases hr : event.record? <;> simp [Threads.held, hr, takes, Mark.took?]
  | holding event =>
    rw [harr (by simp), show t.step .advance = t.deliver event by simp [Threads.step, advance, hp]]
    exact held_deliver t event
  | calling =>
    rw [harr (by simp), (shows_rest (.inr hp)).step]
    exact held_of_place hp (by simp)
  | leaving | finishing =>
    rw [harr (by simp)]
    simp [Threads.step, advance, hp, takes, Threads.held]

/-- What a step takes is held next, and what is held is brought before the session next. -/
theorem held_step (h : Woven t e) (x : Step) :
    t.held ++ (takes (t.marks x)).filterMap FeedEvent.record? =
      (t.check x).map (·.1) ++ (t.step x).held := by
  by_cases hx : x = .advance
  · subst hx
    rw [takes_marks, h.held_advance]
    simp [check, Function.comp_def]
  · obtain ⟨htk, hh⟩ := (h.does x).held_eq h hx
    have hcheck : t.check x = [] := by
      cases x with
      | advance => exact absurd rfl hx
      | timeout | reply | claim | launch | succeed | ask | carry | push | pushStream => rfl
    rw [htk, hh, hcheck, List.filterMap_nil, List.append_nil, List.map_nil, List.nil_append]

/-- Over a run, the records that were taken are those that were brought before the session, in order,
and one that the loop may still hold; delivered are those that found no request. -/
theorem checks (h : Woven t e) (xs : List Step) :
    delivered (t.trace xs) = passed (t.checks xs) ∧
      t.held ++ (takes (t.trace xs)).filterMap FeedEvent.record? =
        (t.checks xs).map (·.1) ++ (t.after xs).held := by
  induction xs generalizing t e with
  | nil => exact ⟨rfl, List.append_nil _⟩
  | cons x xs ih =>
    obtain ⟨e', h'⟩ := h.step x
    obtain ⟨hd, hh⟩ := ih h'
    refine ⟨?_, ?_⟩
    · rw [Threads.trace_cons, Threads.checks, delivered_append, passed_append, delivered_marks, hd]
    · rw [Threads.trace_cons, Threads.checks, Threads.after_cons, takes_append,
        List.filterMap_append, List.map_append, List.append_assoc, ← hh, ← List.append_assoc,
        h.held_step x, List.append_assoc]

end Woven

end MarketFeed
