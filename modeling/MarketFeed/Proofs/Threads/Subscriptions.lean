import MarketFeed.Proofs.Session.Subscriptions
import MarketFeed.Proofs.Threads.Weaving

set_option autoImplicit false

/-!
# What a session and its engine are subscribed to

A run is a list of happenings: a draft of a subscription that is asked for, valid or not, or any
other step of a thread. `Woven.granted` says that over a run the list of the session and that of the
engine stay equal and grow by what is granted; `OpensWith` is how a loop begins, with metadata that
describes the list of its start (`Woven.opensWith`); and `Woven.reconnect_ok` says when the engine
reconnects, which is not whenever the session is idle.
-/

namespace MarketFeed

open Threads

variable {t : Threads} {e : Replay}

/-! ## Runs -/

namespace Threads

def Step.asksSubscribe : Step → Bool
  | ask (.subscribe _) => true
  | _ => false

/-- What may happen to a session, at any time: a draft is put together and asked for, or any other
step is taken. -/
inductive Happening where
  | ask (d : Draft)
  | step (x : Step) (h : x.asksSubscribe = false)

/-- The steps of a happening. A draft that is refused does not reach the session. -/
def Happening.steps : Happening → List Step
  | ask d => d.subscription.toOption.toList.map fun sub => .ask (.subscribe sub)
  | step x _ => [x]

def steps (run : List Happening) : List Step := run.flatMap (·.steps)

/-- The subscription that a step grants. -/
def grants (t : Threads) : Step → List Subscription
  | .carry (.subscribe sub) =>
    if .subscribe sub ∈ t.errands ∧ ((Errand.subscribe sub).run t.session).1.isOk then [sub] else []
  | _ => []

/-- The subscriptions that were asked for and granted in a run, in order. -/
def granted : Threads → List Step → List Subscription
  | _, [] => []
  | t, x :: xs => t.grants x ++ (t.step x).granted xs

end Threads

/-- Only a subscription that the engine has registered changes either list. -/
theorem Threads.Does.subscriptions {x : Step} {m : List Mark} {t' : Threads}
    (he : t.session.engine = .replay e) (hx : ∀ sub, x ≠ .carry (.subscribe sub))
    (hd : Does t e x m t') : t'.session.subscriptions = t.session.subscriptions ∧
      ∃ e', t'.session.engine = .replay e' ∧ e'.subscriptions = e.subscriptions := by
  cases hd with
  | subscribe => exact absurd rfl (hx _)
  | @greeted _ r => cases r <;> exact ⟨rfl, e, he, rfl⟩
  | @offer _ _ r => cases r <;> exact ⟨rfl, e, he, rfl⟩
  | @proceed _ r => cases r <;> exact ⟨rfl, e, he, rfl⟩
  | @stopped _ r => cases r <;> exact ⟨rfl, e, he, rfl⟩
  | @restart _ _ r => cases r <;> exact ⟨rfl, _, rfl, rfl⟩
  | @abandon _ r => cases r <;> exact ⟨rfl, e, he, rfl⟩
  | greet | take | finish | launch | reconnect | tell | feed => exact ⟨rfl, _, rfl, rfl⟩
  | still | shutdown | receive | timeout | drop | event | record | consult | giveUp | leave
  | claim | lapse | succeed | ask | askStop | giveAway | carry => exact ⟨rfl, e, he, rfl⟩

namespace Woven

/-- A step adds to both lists what it grants. -/
theorem grants (h : Woven t e) (x : Step) :
    (t.step x).session.subscriptions = t.session.subscriptions ++ t.grants x ∧
      ∃ e', Woven (t.step x) e' ∧ e'.subscriptions = e.subscriptions ++ t.grants x := by
  obtain ⟨e', h'⟩ := h.step x
  by_cases hx : ∃ sub, x = .carry (.subscribe sub) ∧ .subscribe sub ∈ t.errands
  · obtain ⟨sub, rfl, hmem⟩ := hx
    have hrun : (Errand.subscribe sub).run t.session = (.ok (), { t.session with
        engine := .replay (e.subscribe sub)
        subscriptions := t.session.subscriptions ++ [sub] }) := by
      simp [Errand.run, Session.ofEngine, h.engine, Engine.subscribe]
    have hg : t.grants (.carry (.subscribe sub)) = [sub] := by
      simp [Threads.grants, hmem, hrun, Except.isOk, Except.toBool]
    have hm : (t.step (.carry (.subscribe sub))).session =
        { t.session with
          engine := .replay (e.subscribe sub)
          subscriptions := t.session.subscriptions ++ [sub] } := by
      simp [Threads.step, carry, hmem, hrun]
    have he' := h'.engine
    rw [hm] at he'
    cases he'
    rw [hg, hm]
    exact ⟨rfl, e.subscribe sub, h', rfl⟩
  · have hg : t.grants x = [] := by
      unfold Threads.grants
      split
      · rename_i sub
        rw [if_neg fun hm => hx ⟨sub, rfl, hm.1⟩]
      · rfl
    have hs : (t.step x).session.subscriptions = t.session.subscriptions ∧
        ∃ e', (t.step x).session.engine = .replay e' ∧ e'.subscriptions = e.subscriptions := by
      by_cases hc : ∃ sub, x = .carry (.subscribe sub)
      · obtain ⟨sub, rfl⟩ := hc
        have hno : .subscribe sub ∉ t.errands := fun hm => hx ⟨sub, rfl, hm⟩
        have hm : t.step (.carry (.subscribe sub)) = t := by simp [Threads.step, carry, hno]
        rw [hm]
        exact ⟨rfl, e, h.engine, rfl⟩
      · exact (h.does x).subscriptions h.engine fun sub hx => hc ⟨sub, hx⟩
    obtain ⟨hs, e'', he, hsub⟩ := hs
    have heq : e'' = e' := by simpa [h'.engine] using he.symm
    subst heq
    rw [hg, List.append_nil, List.append_nil]
    exact ⟨hs, e'', h', hsub⟩

/-- Over a run both lists grow by what is granted. -/
theorem granted (h : Woven t e) (xs : List Step) :
    (t.after xs).session.subscriptions = t.session.subscriptions ++ t.granted xs ∧
      ∃ e', Woven (t.after xs) e' ∧ e'.subscriptions = e.subscriptions ++ t.granted xs := by
  induction xs generalizing t e with
  | nil => exact ⟨(List.append_nil _).symm, e, h, (List.append_nil _).symm⟩
  | cons x xs ih =>
    obtain ⟨hs, e', h', he⟩ := h.grants x
    rw [Threads.granted, ← List.append_assoc, ← List.append_assoc, ← hs, ← he]
    exact ih h'

/-- An errand that waits was asked for, or has to pass on a stop. -/
theorem errand_step (h : Woven t e) (x : Step) {errand : Errand}
    (hm : errand ∈ (t.step x).errands) :
    errand ∈ t.errands ∨ x = .ask errand ∨ errand = .stop := by
  have hd := h.does x
  revert hd hm
  generalize t.step x = t', t.marks x = m
  intro hm hd
  cases hd with
  | succeed =>
    rcases List.mem_append.mp hm with hm | hm
    · exact .inl hm
    · exact .inr (.inr (List.mem_singleton.mp hm))
  | ask =>
    rcases List.mem_append.mp hm with hm | hm
    · exact .inl hm
    · exact .inr (.inl (by rw [List.mem_singleton.mp hm]))
  | askStop hx =>
    rcases List.mem_append.mp hm with hm | hm
    · exact .inl hm
    · exact .inr (.inr (hx _ hm))
  | giveAway =>
    rcases List.mem_append.mp hm with hm | hm
    · exact .inl hm
    · exact .inr (.inl (by rw [List.mem_singleton.mp hm]))
  | subscribe | reconnect | carry | tell => exact .inl (List.mem_of_mem_erase hm)
  | _ => exact .inl hm

/-- What is granted was asked for. -/
theorem mem_granted (h : Woven t e) {xs : List Step} {sub : Subscription}
    (hm : sub ∈ t.granted xs) :
    .subscribe sub ∈ t.errands ∨ .ask (.subscribe sub) ∈ xs := by
  induction xs generalizing t e with
  | nil => cases hm
  | cons x xs ih =>
    rcases List.mem_append.mp hm with hm | hm
    · unfold Threads.grants at hm
      split at hm
      · split at hm
        · rename_i hmem
          rw [List.mem_singleton.mp hm]
          exact .inl hmem.1
        · cases hm
      · cases hm
    · obtain ⟨e', h'⟩ := h.step x
      rcases ih h' hm with hm | hm
      · rcases h.errand_step x hm with hm | rfl | hm
        · exact .inl hm
        · exact .inr List.mem_cons_self
        · cases hm
      · exact .inr (List.mem_cons_of_mem _ hm)

end Woven

/-- A subscription that a run asks for comes of a draft. -/
theorem Threads.exists_draft {run : List Happening} {sub : Subscription}
    (hm : .ask (.subscribe sub) ∈ steps run) : ∃ d, .ask d ∈ run ∧ d.subscription = .ok sub := by
  obtain ⟨happening, hrun, hm⟩ := List.mem_flatMap.mp hm
  cases happening with
  | ask d =>
    refine ⟨d, hrun, ?_⟩
    cases hd : d.subscription with
    | error cause => simp [Happening.steps, hd, Except.toOption] at hm
    | ok sub' =>
      obtain rfl : sub = sub' := by simpa [Happening.steps, hd, Except.toOption] using hm
      rfl
  | step x hx =>
    obtain rfl := List.mem_singleton.mp hm
    cases hx

/-! ## Metadata -/

/-- The marks of a loop begin with its metadata: no other metadata is delivered, and if there is a
callback for it, this is the first call, made before the loop takes anything or is over. -/
structure OpensWith (k : Sinks) (m : Metadata) (t : List Mark) : Prop where
  only : ∀ m', .metadata m' ∈ calls t → m' = m
  first : k.metadata = true → calls t ≠ [] → (calls t).head? = some (.metadata m)
  before : k.metadata = true → ∀ u mark v, t = u ++ mark :: v →
    mark = .ended ∨ mark.took?.isSome = true → .metadata m ∈ calls u

namespace OpensWith

variable {k : Sinks} {m : Metadata} {u v : List Mark}

theorem nil : OpensWith k m [] where
  only _ h := absurd h List.not_mem_nil
  first _ h := absurd rfl h
  before _ u mark v h _ := by cases u <;> cases h

/-- Before anything is called, things may be pushed. -/
theorem of_push (h : OpensWith k m v) (event : FeedEvent) :
    OpensWith k m (.pushed event :: v) where
  only := h.only
  first := h.first
  before hk u mark w hw hmark := by
    cases u with
    | nil =>
      cases hw
      rcases hmark with hmark | hmark <;> cases hmark
    | cons a u =>
      cases hw
      exact h.before hk u mark w rfl hmark

theorem of_pushes (h : OpensWith k m v) (events : List FeedEvent) :
    OpensWith k m (events.map .pushed ++ v) := by
  induction events with
  | nil => exact h
  | cons event events ih => exact ih.of_push event

/-- Once the loop has greeted, no other metadata may come. -/
theorem of_greeting (h : ∀ m', .metadata m' ∈ calls v → m' = m) :
    OpensWith k m ((k.greeting (some m)).map .called ++ v) := by
  cases hk : k.metadata with
  | false =>
    have hg : k.greeting (some m) = [] := by simp [Sinks.greeting, hk]
    rw [hg]
    exact ⟨h, fun hk' => by (rw [hk] at hk'; cases hk'), fun hk' => by (rw [hk] at hk'; cases hk')⟩
  | true =>
    have hg : k.greeting (some m) = [.metadata m] := by simp [Sinks.greeting, hk]
    rw [hg]
    refine ⟨fun m' hm => ?_, fun _ _ => rfl, fun _ u mark w hw hmark => ?_⟩
    · rcases List.mem_cons.mp hm with hm | hm
      · cases hm
        rfl
      · exact h m' hm
    · cases u with
      | nil =>
        cases hw
        rcases hmark with hmark | hmark <;> cases hmark
      | cons a u =>
        cases hw
        exact List.mem_cons_self

end OpensWith

/-- The loop, if there is one, has this metadata, but for the time. -/
def Session.Bears (s : Session) (m : Metadata) : Prop :=
  ∀ loop, s.loop? = some loop → loop.metadata.timeless = m

/-- A loop keeps its metadata, but for the time, and delivers no other. -/
theorem Threads.Does.bears {x : Step} {u : List Mark} {t' : Threads} {m : Metadata}
    (he : t.session.engine = .replay e) (hb : t.session.Bears m) (hd : Does t e x u t') :
    (∃ k md, u = [.claimed k md]) ∨
      (∀ mark ∈ u, mark.isClaim = false) ∧ (∀ m', .metadata m' ∈ calls u → m' = m) ∧
        t'.session.Bears m := by
  have hloop : t.session.loop? = e.loop := by simp [Session.loop?, he]
  have keeps {s' : Session} (hs : s'.loop? = t.session.loop?) : s'.Bears m := fun loop hl =>
    hb loop (hs ▸ hl)
  have quiet {s' : Session} (hs : s'.loop? = t.session.loop?)
      (hu : ∀ mark ∈ u, mark.isClaim = false) (hc : ∀ m', .metadata m' ∉ calls u) :
      (∀ mark ∈ u, mark.isClaim = false) ∧ (∀ m', .metadata m' ∈ calls u → m' = m) ∧
        s'.Bears m := ⟨hu, fun m' hm => absurd hm (hc m'), keeps hs⟩
  cases hd with
  | launch => exact .inl ⟨_, _, rfl⟩
  | @greet loop k _ _ hl =>
    refine .inr ⟨by simp [Mark.isClaim], fun m' hm => ?_, fun loop' hl' => ?_⟩
    · rw [calls_called] at hm
      exact (Sinks.eq_of_mem_greeting hm).trans (hb loop (hloop.trans hl))
    · obtain rfl : { loop with greeted := true } = loop' := Option.some.inj hl'
      exact hb loop (hloop.trans hl)
  | @restart loop _ _ hl =>
    refine .inr ⟨by simp [Mark.isClaim], fun _ hm => (by cases hm), fun loop' hl' => ?_⟩
    obtain rfl := Option.some.inj hl'
    exact hb loop (hloop.trans hl)
  | finish =>
    exact .inr ⟨fun _ hm => absurd hm List.not_mem_nil, fun _ hm => absurd hm List.not_mem_nil,
      fun _ hl => by cases hl⟩
  | feed => exact .inr (quiet hloop.symm (by simp [Mark.isClaim]) (by simp))
  | subscribe | reconnect | tell =>
    exact .inr (quiet hloop.symm (fun _ hm => absurd hm List.not_mem_nil) fun _ => List.not_mem_nil)
  | take => exact .inr (quiet hloop.symm (by simp [Mark.isClaim]) fun _ => List.not_mem_nil)
  | event => exact .inr (quiet rfl (by simp [Mark.isClaim]) (by simp [calls, Mark.called?]))
  | @record k bytes r =>
    refine .inr (quiet rfl ?_ ?_)
    · simp [Mark.isClaim]
    · cases hk : k.record <;> simp [Sinks.forRecord, hk, calls, Mark.called?]
  | consult => exact .inr (quiet rfl (by simp [Mark.isClaim]) (by simp [calls, Mark.called?]))
  | leave => exact .inr (quiet rfl (by simp [Mark.isClaim]) fun _ => List.not_mem_nil)
  | @greeted _ r | @proceed _ r | @stopped _ r | @abandon _ r =>
    cases r <;> exact .inr (quiet rfl (by simp [Mark.isClaim]) fun _ => List.not_mem_nil)
  | @offer _ _ r =>
    cases r <;>
      exact .inr (quiet rfl (by simp [Mark.isClaim]) (by simp [calls, Mark.called?]))
  | still | shutdown | receive | timeout | drop | giveUp | claim | lapse | succeed | ask | askStop
  | giveAway | carry =>
    exact .inr (quiet rfl (fun _ hm => absurd hm List.not_mem_nil) fun _ => List.not_mem_nil)

/-- Up to the next claim no other metadata is delivered. -/
theorem Woven.bears (h : Woven t e) {m : Metadata} (hb : t.session.Bears m) (xs : List Step) :
    ∀ m', .metadata m' ∈ calls (preamble (t.trace xs)) → m' = m := by
  induction xs generalizing t e with
  | nil => exact fun _ hm => absurd hm List.not_mem_nil
  | cons x xs ih =>
    intro m' hm
    rw [Threads.trace_cons] at hm
    rcases (h.does x).bears h.engine hb with ⟨k, md, hu⟩ | ⟨hn, hc, hb'⟩
    · rw [hu] at hm
      cases hm
    · rw [preamble_append hn, calls_append] at hm
      obtain ⟨e', h'⟩ := h.step x
      exact (List.mem_append.mp hm).elim (hc m') (ih h' hb' m')

/-- A loop that has not greeted yet. -/
structure Fresh (k : Sinks) (m : Metadata) (t : Threads) : Prop where
  place : t.place = some .looking
  sinks : t.session.sinks = some k
  loop : ∃ loop, t.session.loop? = some loop ∧ loop.greeted = false ∧ loop.metadata.timeless = m

/-- The first thing that a loop does is to greet. Until then things may be pushed. -/
theorem Threads.Does.fresh {x : Step} {u : List Mark} {t' : Threads} {k : Sinks} {m : Metadata}
    (h : Woven t e) (hf : Fresh k m t) (hd : Does t e x u t') :
    (∃ events : List FeedEvent, u = events.map .pushed) ∧ Fresh k m t' ∨
      u = (k.greeting (some m)).map .called ∧ t'.session.Bears m := by
  have hp := hf.place
  have hc := h.calling_none (by rw [hp]; decide)
  obtain ⟨loop, hl, hg, hm⟩ := hf.loop
  have hloop : e.loop = some loop := by simpa [Session.loop?, h.engine] using hl
  have stays {t'' : Threads} (hp' : t''.place = t.place)
      (hk' : t''.session.sinks = t.session.sinks)
      (hl' : t''.session.loop? = t.session.loop?) : Fresh k m t'' :=
    ⟨hp'.trans hp, hk'.trans hf.sinks, loop, hl'.trans hl, hg, hm⟩
  cases hd with
  | @greet loop' k' _ hk' hl' =>
    obtain rfl : loop' = loop := Option.some.inj (hl'.symm.trans hloop)
    obtain rfl : k' = k := Option.some.inj (hk'.symm.trans hf.sinks)
    refine .inr ⟨by rw [hm], fun loop'' hl'' => ?_⟩
    obtain rfl : { loop' with greeted := true } = loop'' := Option.some.inj hl''
    exact hm
  | @feed _ events => exact .inl ⟨⟨events, rfl⟩, stays rfl rfl (hl.trans hloop.symm).symm⟩
  | subscribe | reconnect | tell =>
    exact .inl ⟨⟨[], rfl⟩, stays rfl rfl (hl.trans hloop.symm).symm⟩
  | still | claim | lapse | succeed | ask | askStop | giveAway | carry =>
    exact .inl ⟨⟨[], rfl⟩, stays rfl rfl rfl⟩
  -- a loop that is looking does one of these only once it has greeted
  | shutdown _ hg' | receive _ hg' => simp [hloop, hg] at hg'
  | launch _ hl' => rw [hloop] at hl'; cases hl'
  | timeout hp' | take hp' | drop hp' | event hp' | record hp' | consult hp' | giveUp hp'
  | leave hp' | finish hp' => rw [hp] at hp'; cases hp'
  | greeted hc' | abandon hc' => rw [hc] at hc'; cases hc'
  | offer _ hc' | proceed _ hc' | stopped _ hc' | restart _ hc' => rw [hc] at hc'; cases hc'

theorem Fresh.opensWith {k : Sinks} {m : Metadata} (h : Woven t e) (hf : Fresh k m t)
    (xs : List Step) : OpensWith k m (preamble (t.trace xs)) := by
  induction xs generalizing t e with
  | nil => exact .nil
  | cons x xs ih =>
    obtain ⟨e', h'⟩ := h.step x
    rw [Threads.trace_cons]
    rcases (h.does x).fresh h hf with ⟨⟨events, hu⟩, hf'⟩ | ⟨hu, hb⟩
    · rw [hu, preamble_append (by simp [Mark.isClaim])]
      exact (ih h' hf').of_pushes events
    · rw [hu, preamble_append (by simp [Mark.isClaim])]
      exact .of_greeting (h'.bears hb xs)

namespace Woven

/-- A launch that succeeds leaves a loop that is going to greet, with what was subscribed to by
then. -/
theorem fresh (h : Woven t e) {k : Sinks} (hst : t.starting = some (.claimed k))
    (hok : (t.session.launch k).1 = .ok ()) :
    Fresh k e.metadata.timeless (t.step .launch) := by
  cases hl : e.loop with
  | some loop =>
    simp [Session.launch, Session.ofEngine, h.engine, Engine.start, Engine.ofReplay,
      Replay.start, Replay.isRunning, hl] at hok
  | none =>
    refine ⟨?_, ?_, ⟨e.metadata, false⟩, ?_, rfl, rfl⟩ <;>
      simp [Threads.step, launch, hst, Session.launch, Session.ofEngine, h.engine, Engine.start,
        Engine.ofReplay, Replay.start, Replay.isRunning, hl, Session.loop?]

/-- So the loop begins with metadata that describes the list of the session. -/
theorem opensWith (h : Woven t e) (hsub : e.subscriptions = t.session.subscriptions) {k : Sinks}
    (hst : t.starting = some (.claimed k)) (hok : (t.session.launch k).1 = .ok ()) :
    ∃ m : Metadata, m.Describes t.session.subscriptions ∧
      ∀ ys, OpensWith k m (preamble ((t.step .launch).trace ys)) := by
  obtain ⟨e', h'⟩ := h.step .launch
  exact ⟨e.metadata.timeless, hsub ▸ e.metadata_describes, (h.fresh hst hok).opensWith h'⟩

end Woven

/-! ## Reconnecting and resubscribing -/

/-- What a call does if nothing comes between its check and the rest. -/
theorem Session.reconnect_eq (s : Session) : s.reconnect =
    match Errand.reconnect.check s with
    | .error cause => (.error (.failed cause), s)
    | .ok s => Errand.reconnect.run s := by
  cases hi : s.lifecycle.ensureIdle "reconnect" <;> by_cases hn : s.subscriptions = [] <;>
    simp [reconnect, ensureReady, Errand.check, Errand.run, Errand.resending, Except.map, hi, hn]

theorem Session.resubscribe_eq (s : Session) : s.resubscribe =
    match Errand.resubscribe.check s with
    | .error cause => (.error (.failed cause), s)
    | .ok s => Errand.resubscribe.run s := by
  cases hi : s.lifecycle.ensureIdle "resubscribe" <;> by_cases hn : s.subscriptions = [] <;>
    simp [resubscribe, ensureReady, Errand.check, Errand.run, Errand.resending, Except.map, hi, hn]

theorem Errand.check_same {errand : Errand} (he : errand = .reconnect ∨ errand = .resubscribe)
    {s s' : Session} (h : errand.check s = .ok s') : s' = s := by
  rcases he with rfl | rfl <;> cases hw : s.lifecycle.state <;>
    simp [check, Lifecycle.ensureIdle, hw, Except.map] at h <;> exact h.symm

namespace Woven

/-- The engine reconnects if it has no loop, not even one that only has to say that it is over. -/
theorem run_reconnect (h : Woven t e) :
    (Errand.reconnect.run t.session).1 = .ok () ↔
      t.session.subscriptions ≠ [] ∧ t.place = none := by
  have hl : e.isRunning = t.place.isSome := h.loop
  by_cases hn : t.session.subscriptions = []
  · simp [Errand.run, Errand.resending, hn]
  · cases hp : t.place <;>
      simp [Errand.run, Errand.resending, hn, Session.ofEngine, h.engine, Engine.reconnect,
        Engine.ofReplay, Replay.reconnect, hl, hp]

/-- The engine knows the subscriptions of the session and so can send them again. -/
theorem run_resubscribe (h : Woven t e) (hsub : e.subscriptions = t.session.subscriptions) :
    (Errand.resubscribe.run t.session).1 = .ok () ↔ t.session.subscriptions ≠ [] := by
  by_cases hn : t.session.subscriptions = []
  · simp [Errand.run, Errand.resending, hn]
  · simp [Errand.run, Errand.resending, hn, Session.ofEngine, h.engine, Engine.resubscribe,
      Engine.ofReplay, Replay.resubscribe, hsub, Except.map]

/-- A call to reconnect takes more than its check promises. -/
theorem reconnect_ok (h : Woven t e) :
    t.session.reconnect.1 = .ok () ↔
      t.session.state = .idle ∧ t.session.subscriptions ≠ [] ∧ t.place = none := by
  rw [Session.reconnect_eq, ← Errand.check_resending (.inl rfl), ← h.run_reconnect]
  cases ha : Errand.reconnect.check t.session with
  | error cause => simp
  | ok s =>
    obtain rfl := Errand.check_same (.inl rfl) ha
    simp

theorem resubscribe_ok (h : Woven t e) (hsub : e.subscriptions = t.session.subscriptions) :
    t.session.resubscribe.1 = .ok () ↔
      t.session.state = .idle ∧ t.session.subscriptions ≠ [] := by
  rw [Session.resubscribe_eq, ← Errand.check_resending (.inr rfl), ← h.run_resubscribe hsub]
  cases ha : Errand.resubscribe.check t.session with
  | error cause => simp
  | ok s =>
    obtain rfl := Errand.check_same (.inr rfl) ha
    simp

/-- An idle session that has a loop still has one that is over. It refuses to reconnect, and does so
no more once the engine knows. -/
theorem reconnect_early (h : Woven t e) (hw : t.session.state = .idle)
    (hn : t.session.subscriptions ≠ []) (hp : t.place ≠ none) :
    t.place = some .finishing ∧
      t.session.reconnect = (.error (.failed (.engine .alreadyStarted)), t.session) ∧
      (t.step .advance).session.reconnect.1 = .ok () := by
  have hlw : t.session.lifecycle.state = .idle := hw
  have hfin : t.place = some .finishing := by
    rcases h.phase.inactive (by simp [Lifecycle.isActive, hlw, SessionState.isActive]) with
      hp' | hp' | ⟨-, hf⟩
    · exact absurd hp' hp
    · exact hp'
    · rw [hlw] at hf
      cases hf
  have hl : e.isRunning = true := by
    have := h.loop
    rwa [hfin] at this
  have hback : ({ t.session with engine := .replay e } : Session) = t.session :=
    Sound.engine_eq h.engine
  refine ⟨hfin, ?_, ?_⟩
  · simp [Session.reconnect, (t.session.ensureReady_ok "reconnect").mpr ⟨hw, hn⟩, Session.ofEngine,
      h.engine, Engine.reconnect, Engine.ofReplay, Replay.reconnect, hl, hback, EngineFailure.halt]
  · obtain ⟨e', h'⟩ := h.step .advance
    have hm : t.step .advance =
        { t with session := onReplay (·.finish) t.session, place := none } := by
      simp [Threads.step, advance, hfin]
    rw [h'.reconnect_ok, hm]
    simp only [onReplay, h.engine]
    exact ⟨hw, hn, trivial⟩

end Woven

/-! ## The theorem -/

/-- In any run of a new replay session and its threads:

* The session and its engine list the same subscriptions, those that were granted, in order.
* Each comes of a draft that was asked for, keeps its symbols in order, trimmed, and is well-formed.
* A loop begins with metadata that describes the list of its start.
* An idle session that has a list lets pass a call to reconnect or to resubscribe. It resubscribes,
  but it reconnects only if no old loop is left. One that is left has let go of its callbacks and has
  still to tell the engine; until it does, the answer is that the engine has already started.
* A list of symbols is refused exactly if it is empty or has a blank entry, and the first blank
  entry is named. -/
theorem subscriptions_agree (config : Config) (clock : List UInt64) (run : List Happening) :
    let t₀ := Threads.new (.new config (.replay (.new config clock)))
    let t := t₀.after (steps run)
    let s := t.session
    (∃ e, s.engine = .replay e ∧ e.subscriptions = s.subscriptions) ∧
    s.subscriptions = t₀.granted (steps run) ∧
    (∀ sub ∈ s.subscriptions, sub.WellFormed ∧
      ∃ d, .ask d ∈ run ∧ d.subscription = .ok sub ∧ sub.symbols = d.symbols.map trim) ∧
    (∀ k, t.starting = some (.claimed k) → (s.launch k).1 = .ok () →
      ∃ m : Metadata, m.Describes s.subscriptions ∧
        ∀ ys, OpensWith k m (preamble ((t.step .launch).trace ys))) ∧
    (Errand.reconnect.check s = .ok s ↔ s.state = .idle) ∧
    (Errand.resubscribe.check s = .ok s ↔ s.state = .idle) ∧
    ((Errand.reconnect.run s).1 = .ok () ↔ s.subscriptions ≠ [] ∧ t.place = none) ∧
    ((Errand.resubscribe.run s).1 = .ok () ↔ s.subscriptions ≠ []) ∧
    (s.reconnect.1 = .ok () ↔ s.state = .idle ∧ s.subscriptions ≠ [] ∧ t.place = none) ∧
    (s.resubscribe.1 = .ok () ↔ s.state = .idle ∧ s.subscriptions ≠ []) ∧
    (s.state = .idle → s.subscriptions ≠ [] → t.place ≠ none →
      t.place = some .finishing ∧
      s.reconnect = (.error (.failed (.engine .alreadyStarted)), s) ∧
      (t.step .advance).session.reconnect.1 = .ok ()) ∧
    (∀ (symbols : List String) schema stypeIn,
      ((∃ cause, Subscription.new symbols schema stypeIn = .error cause) ↔
        symbols = [] ∨ ∃ x ∈ symbols, isBlankText x = true) ∧
      ∀ (i : Nat) x, symbols[i]? = some x → isBlankText x = true →
        (∀ (j : Nat) y, j < i → symbols[j]? = some y → isBlankText y = false) →
        Subscription.new symbols schema stypeIn = .error (.invalidArgument
          ("symbol list contains an empty entry at index " ++ toString i))) := by
  intro t₀ t s
  have hnew := Woven.new config clock
  obtain ⟨hs, e, h, he⟩ := hnew.granted (steps run)
  have hs : s.subscriptions = t₀.granted (steps run) := hs
  have hsub : e.subscriptions = s.subscriptions := he.trans hs.symm
  refine ⟨⟨e, h.engine, hsub⟩, hs, fun sub hm => ?_, fun k hst hok => h.opensWith hsub hst hok,
    Errand.check_resending (.inl rfl) s, Errand.check_resending (.inr rfl) s, h.run_reconnect,
    h.run_resubscribe hsub, h.reconnect_ok, h.resubscribe_ok hsub,
    fun hw hn hp => h.reconnect_early hw hn hp,
    fun symbols schema stypeIn => ⟨Subscription.new_error, fun i x hx hb hfirst =>
      Subscription.new_blank hx hb hfirst schema stypeIn⟩⟩
  rw [hs] at hm
  have hasked := (hnew.mem_granted hm).resolve_left List.not_mem_nil
  obtain ⟨d, hd, hds⟩ := exists_draft hasked
  obtain ⟨hsym, hwf⟩ := Draft.wellFormed hds
  exact ⟨hwf, d, hd, hds, hsym⟩

/-- A subscription is asked for and granted, and a start claims the session. The loop that is
launched then begins with the symbol, trimmed. -/
theorem launch_describes_subscription :
    let sub : Subscription := { symbols := ["ES"], schema := .trades, stypeIn := .rawSymbol }
    let k : Sinks := ⟨true, false, true, false⟩
    let run : List Happening := [.ask (.new [" ES "] .trades .rawSymbol),
      .step (.carry (.subscribe sub)) rfl, .step (.claim k) rfl]
    let t := (Threads.new (.new {} (.replay (.new {})))).after (steps run)
    t.session.subscriptions = [sub] ∧ ∃ m : Metadata, m.Describes t.session.subscriptions ∧
      ∀ ys, OpensWith k m (preamble ((t.step .launch).trace ys)) := by
  intro sub k run t
  have hlist : t.session.subscriptions = [sub] := by decide
  have hst : t.starting = some (.claimed k) := by decide
  have hok : (t.session.launch k).1 = .ok () := by decide
  obtain ⟨-, -, -, hopen, -⟩ := subscriptions_agree {} [] run
  exact ⟨hlist, hopen k hst hok⟩

/-- A close ends the loop. The session is idle then, and yet it does not reconnect, for the engine
does not know yet. -/
theorem idle_session_refuses_reconnect :
    let sub : Subscription := { symbols := ["ES"], schema := .trades, stypeIn := .rawSymbol }
    let xs : List Step := [.ask (.subscribe sub), .carry (.subscribe sub),
      .claim ⟨true, false, false, false⟩, .launch, .succeed, .carry .stop, .push .close, .advance,
      .advance, .advance, .advance, .advance]
    let s := ((Threads.new (.new {} (.replay (.new {})))).after xs).session
    s.state = .idle ∧ s.subscriptions = [sub] ∧
      s.reconnect.1 = .error (.failed (.engine .alreadyStarted)) := by
  decide

end MarketFeed
