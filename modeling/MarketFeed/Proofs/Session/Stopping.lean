import MarketFeed.Proofs.Session.Order

set_option autoImplicit false

/-!
# Stopping, one move after the other

What a session still does once it was asked to stop, if each request and each turn of its loop is
over before the next move: the request has reached the lifecycle and the engine before the loop
goes on. `Rule.stopping` says what any one move does from then on, and `Sound.stopping` what a run
does until the loop is over.
-/

namespace MarketFeed

namespace Session

/-- The calls that a session may still make once it was asked to stop: a greeting, and the record
callback for the record that is with the event callback. -/
def Pending (s : Session) : Call → Prop
  | .metadata _ => True
  | .record r => ∃ ev, s.calling = some (.event ev r)
  | _ => False

end Session

/-! ## One move -/

/-- A loop that was asked to stop is there, and its engine knows. -/
theorem Sound.stop_known {s : Session} {e : Replay} (hs : Sound s e)
    (hw : s.state = .stopRequested) : e.loop.isSome = true ∧ e.shutdown = true := by
  cases hs.attuned with
  | idle h => rw [Session.state, h] at hw; cases hw
  | starting h => rw [Session.state, h] at hw; cases hw
  | running h => rw [Session.state, h] at hw; cases hw
  | stopRequested _ _ _ hl hsd => exact ⟨hl, hsd⟩
  | faulted h => rw [Session.state, h] at hw; cases hw

/-- What a move may do to a session that was asked to stop: it takes nothing, it calls only what is
pending, and either the loop goes on under the same request or it ends in the idle state. -/
structure Stopping (s : Session) (t : List Mark) (s' : Session) : Prop where
  takes : takes t = []
  calls : ∀ c ∈ calls t, s.Pending c
  /-- No event is brought to the event callback any more. -/
  event : ∀ ev r, s'.calling = some (.event ev r) → s.calling = some (.event ev r)
  outcome : (.ended ∉ t ∧ s'.state = .stopRequested) ∨ (.ended ∈ t ∧ s'.state = .idle)

namespace Stopping

variable {s s' : Session} {e : Replay} {t : List Mark}

/-- A move that shows no more than pushes and keeps the callback and the state. -/
theorem quietly (hp : ∀ m ∈ t, ∃ event, m = .pushed event) (hc : s'.calling = s.calling)
    (hw : s'.state = .stopRequested) : Stopping s t s' := by
  obtain ⟨htk, hcl, -⟩ := nothing_of_pushes hp
  refine ⟨htk, fun c h => ?_, fun ev r h => hc ▸ h, .inl ⟨fun h => ?_, hw⟩⟩
  · rw [hcl] at h
    cases h
  · obtain ⟨event, h⟩ := hp _ h
    cases h

theorem still (hc : s'.calling = s.calling) (hw : s'.state = .stopRequested) :
    Stopping s [] s' :=
  quietly (fun _ h => absurd h List.not_mem_nil) hc hw

theorem ending (htk : MarketFeed.takes t = []) (hcl : MarketFeed.calls t = []) (he : .ended ∈ t)
    (hw : s'.lifecycle.state = .stopRequested) : Stopping s t (s'.quit e) := by
  refine ⟨htk, fun c h => ?_, fun ev r h => (by cases h), .inr ⟨he, ?_⟩⟩
  · rw [hcl] at h
    cases h
  · simp [Session.state, Session.quit, Lifecycle.loopExited, hw]

theorem trans {s'' : Session} {u : List Mark} (h : Stopping s t s') (he : .ended ∉ t)
    (h' : Stopping s' u s'') : Stopping s (t ++ u) s'' := by
  have back : ∀ c, s'.Pending c → s.Pending c := by
    intro c hc
    cases c with
    | metadata => trivial
    | event => exact hc
    | record r => obtain ⟨ev, hc⟩ := hc; exact ⟨ev, h.event ev r hc⟩
    | exception => exact hc
  refine ⟨?_, fun c hc => ?_, fun ev r hc => h.event ev r (h'.event ev r hc), ?_⟩
  · rw [takes_append, h.takes, h'.takes]
    rfl
  · rw [calls_append] at hc
    rcases List.mem_append.mp hc with hc | hc
    · exact h.calls c hc
    · exact back c (h'.calls c hc)
  · rcases h'.outcome with ⟨hu, hw⟩ | ⟨hu, hw⟩
    · exact .inl ⟨fun hm => (List.mem_append.mp hm).elim he hu, hw⟩
    · exact .inr ⟨List.mem_append_right t hu, hw⟩

end Stopping

theorem Rule.stopping {s s' : Session} {e : Replay} {m : Move} {t : List Mark} (hs : Sound s e)
    (hw : s.state = .stopRequested) (hr : Rule s e m t s') : Stopping s t s' := by
  obtain ⟨hl, hsd⟩ := hs.stop_known hw
  have hlw : s.lifecycle.state = .stopRequested := hw
  cases hr with
  | still => exact .still rfl hw
  | subscribe | reconnect => exact .still rfl hw
  | start _ hi => rw [hi] at hw; cases hw
  | started => exact .still rfl (by simp [Session.state, Lifecycle.finishStart, hlw])
  | stop => exact .still rfl (by simp [Session.state, Lifecycle.requestStop, hlw])
  | release => exact .still rfl (by simp [Session.state, Lifecycle.requestStop, hlw])
  | feed =>
    refine .quietly (fun m h => ?_) rfl hw
    obtain ⟨event, -, rfl⟩ := List.mem_map.mp h
    exact ⟨event, rfl⟩
  | @greet loop k hc hk hlp hg =>
    refine ⟨by simp, fun c h => ?_, fun ev r h => ?_, .inl ⟨by simp, hw⟩⟩
    · rw [calls_called] at h
      cases hkm : k.metadata with
      | true =>
        obtain rfl : c = .metadata loop.metadata.timeless := by simpa [Sinks.greeting, hkm] using h
        trivial
      | false => simp [Sinks.greeting, hkm] at h
    · cases hkm : k.metadata <;> simp [Sinks.greeting, hkm] at h
  | shutdown => exact .ending rfl rfl List.mem_cons_self hw
  | close _ _ _ h => rw [hsd] at h; cases h
  | event _ _ _ _ h => rw [hsd] at h; cases h
  | record _ _ _ _ h => rw [hsd] at h; cases h
  | consult _ _ _ _ h => rw [hsd] at h; cases h
  | giveUp _ _ _ _ h => rw [hsd] at h; cases h
  | @greeted m r hc =>
    obtain ⟨-, -, hlc⟩ := Sound.noteReply_keeps s r
    refine ⟨rfl, fun _ h => (by cases h), fun _ _ h => (by cases h), .inl ⟨by simp, ?_⟩⟩
    show (s.noteReply r).lifecycle.state = _
    rw [hlc]
    exact hw
  | @offer ev rec r k hk hc hkr =>
    obtain ⟨-, -, hlc⟩ := Sound.noteReply_keeps s r
    refine ⟨rfl, fun c h => ?_, fun _ _ h => (by cases h), .inl ⟨by simp, ?_⟩⟩
    · obtain rfl : c = .record rec := by simpa [calls, List.filterMap_cons, Mark.called?] using h
      exact ⟨ev, hc⟩
    · show (s.noteReply r).lifecycle.state = _
      rw [hlc]
      exact hw
  | proceed _ _ _ h => simp [Lifecycle.stopRequested, hlw] at h
  | @stopped c r k v hk hc =>
    obtain ⟨-, -, hlc⟩ := Sound.noteReply_keeps s r
    exact .ending rfl rfl (by simp) (by rw [hlc]; exact hlw)
  | restart => exact ⟨rfl, fun _ h => (by cases h), fun _ _ h => (by cases h), .inl ⟨by simp, hw⟩⟩
  | abandon =>
    have hf : s.lifecycle.fault = s.lifecycle := by simp [Lifecycle.fault, hlw]
    exact .ending rfl rfl (by simp) (by rw [hf]; exact hlw)

/-! ## Runs -/

/-- A run from the request up to the end of the loop. -/
theorem Sound.stopping {s : Session} {e : Replay} (hs : Sound s e) (hw : s.state = .stopRequested)
    (ns : List Move) (he : .ended ∉ s.trace ns.dropLast) :
    Stopping s (s.trace ns) (s.after ns) := by
  induction ns generalizing s e with
  | nil => exact .still rfl hw
  | cons m ns ih =>
    have hm : Stopping s (s.marks m) (s.move m) := (hs.rule m).stopping hs hw
    cases ns with
    | nil => simpa using hm
    | cons n ns =>
      rw [List.dropLast_cons_cons, Session.trace_cons, List.mem_append, not_or] at he
      obtain ⟨e', hs'⟩ := hs.move m
      rcases hm.outcome with ⟨-, hw'⟩ | ⟨hend, -⟩
      · exact hm.trans he.1 (ih hs' hw' he.2)
      · exact absurd hend he.1

end MarketFeed
