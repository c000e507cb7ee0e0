import MarketFeed.Proofs.Session.Stopping
import MarketFeed.Proofs.Session.Restarts

set_option autoImplicit false

/-!
# A requested stop and the exception policy

A stop that was requested overrules the exception policy: one that is not consulted yet is not asked
any more (`Sound.consult_stopped`), and one that runs may reply with anything but a restart
(`Sound.abandons`). A policy that stops its session and then replies with a restart is obeyed once
more, since its reply is not checked against the request; after that nothing is taken any more
(`Sound.restarts_stopping`). `stop_overrules_policy` puts these together.
-/

namespace MarketFeed

/-! ## Before the policy is consulted -/

theorem Session.tally_quit {s : Session} {e : Replay} (he : s.engine = .replay e) :
    (s.quit e).tally = s.tally := by
  have hl : (s.quit e).lifecycle.restarts = s.lifecycle.restarts :=
    Session.restarts_loopExited s.lifecycle
  simp only [Session.tally, hl, Session.connection, he]
  rfl

namespace Sound

variable {s : Session} {e : Replay}

/-- A fault that comes up after the request ends the loop without a question to the policy. -/
theorem consult_stopped (hs : Sound s e) (hw : s.state = .stopRequested) (cause : EngineError) :
    s.consult cause = (.done (.recovery .stop), s) ∧
      GaveUp s [] (Session.follow (s.consult cause)) ∧
      (Session.follow (s.consult cause)).state = .idle := by
  have hlw : s.lifecycle.state = .stopRequested := hw
  have hd : s.consult cause = (.done (.recovery .stop), s) := by
    simp [Session.consult, Lifecycle.stopRequested, hlw]
  have hq : Session.follow (s.consult cause) = s.quit e := by
    rw [hd]
    exact conclude_end hs.engine rfl
  refine ⟨hd, ?_, ?_⟩
  · rw [hq]
    exact ⟨Session.tally_quit hs.engine, rfl, rfl⟩
  · rw [hq]
    simp [Session.state, Session.quit, Lifecycle.loopExited, hlw]

/-! ## While the policy runs -/

/-- A policy that was overtaken by the request ends the loop by any reply but a restart. -/
theorem abandons (hs : Sound s e) (hw : s.state = .stopRequested) {cause : EngineError}
    (hc : s.calling = some (.exception cause)) {r : Reply} (hr : r.recovery ≠ .restart) :
    GaveUp s (s.marks (.reply r)) (s.move (.reply r)) ∧ (s.move (.reply r)).state = .idle := by
  have hf : s.Fatal (.reply r) := ⟨cause, hc, hr⟩
  have hg := hs.gaveUp hf
  obtain ⟨hl, -⟩ := hs.stop_known hw
  have he : .ended ∈ s.marks (.reply r) :=
    (hs.ended_iff _).mpr ⟨by rwa [Session.loop?, hs.engine], hg.loop⟩
  refine ⟨hg, ?_⟩
  rcases ((hs.rule (.reply r)).stopping hs hw).outcome with ⟨hn, -⟩ | ⟨-, hi⟩
  · exact absurd he hn
  · exact hi

end Sound

def Call.isException : Call → Bool
  | .exception _ => true
  | _ => false

theorem Call.countP_isException_timeless (c : Option Call) :
    (c.map timeless).toList.countP isException = c.toList.countP isException := by
  rcases c with _ | c
  · rfl
  · cases c <;> rfl

/-- Only exception policies restart. -/
theorem restarts_le_replies (t : List Mark) :
    restarts t ≤ (replies t).countP Call.isException := by
  induction t with
  | nil => exact Nat.le_refl 0
  | cons mark t ih =>
    have skip (hr : mark.isRestart = false) :
        restarts (mark :: t) ≤ (replies t).countP Call.isException := by
      rwa [restarts, List.countP_cons_of_neg (by simp [hr])]
    cases mark with
    | replied c r =>
      cases c with
      | exception cause =>
        have hx : (replies (.replied (.exception cause) r :: t)).countP Call.isException =
            (replies t).countP Call.isException + 1 := List.countP_cons_of_pos rfl
        rw [hx, restarts, List.countP_cons]
        refine Nat.add_le_add ih ?_
        split <;> simp
      | metadata | event | record => exact skip rfl
    | claimed | pushed | took | delivered | called | ended => exact skip rfl

/-- Once a stop is requested, no policy restarts the loop but the one that runs then. -/
theorem Sound.restarts_stopping {s : Session} {e : Replay} (hs : Sound s e)
    (hw : s.state = .stopRequested) (ns : List Move) (he : .ended ∉ s.trace ns.dropLast) :
    restarts (s.trace ns) ≤ s.calling.toList.countP Call.isException := by
  have hst := hs.stopping hw ns he
  have hz : (calls (s.trace ns)).countP Call.isException = 0 := by
    refine List.countP_eq_zero.mpr fun c hc => ?_
    have hp := hst.calls c hc
    cases c with
    | exception => exact hp.elim
    | metadata | event | record => exact Bool.false_ne_true
  have ha := congrArg (List.countP Call.isException) (hs.calls_answered ns)
  rw [List.countP_append, List.countP_append, hz, Nat.add_zero,
    Call.countP_isException_timeless s.calling] at ha
  have hle := restarts_le_replies (s.trace ns)
  omega

/-- Up to the end of a loop that was asked to stop, the session neither reconnects nor is claimed. -/
theorem Sound.confined_stopping {s : Session} {e : Replay} (hs : Sound s e)
    (hw : s.state = .stopRequested) (ns : List Move) (he : .ended ∉ s.trace ns.dropLast) :
    s.reconnects ns = 0 ∧ ∀ mark ∈ s.trace ns, mark.isClaim = false := by
  induction ns generalizing s e with
  | nil => exact ⟨rfl, fun _ h => absurd h List.not_mem_nil⟩
  | cons m ns ih =>
    have hrc : s.reconnected m = false := by
      cases m with
      | reconnect =>
        rcases hs.reconnect_cases with ⟨halt, h⟩ | h
        · simp [Session.reconnected, h, Except.isOk, Except.toBool]
        · have hlw : s.lifecycle.state = .stopRequested := hw
          simp [Session.reconnect, Session.ensureReady, Lifecycle.ensureIdle, hlw] at h
      | _ => rfl
    have hcl : ∀ mark ∈ s.marks m, mark.isClaim = false := by
      intro mark hm
      cases mark with
      | claimed k metadata =>
        rw [((hs.rule m).claimed hm).2.2] at hw
        cases hw
      | pushed | took | delivered | called | replied | ended => rfl
    have hrest : (s.move m).reconnects ns = 0 ∧
        ∀ mark ∈ (s.move m).trace ns, mark.isClaim = false := by
      cases ns with
      | nil => exact ⟨rfl, fun _ h => absurd h List.not_mem_nil⟩
      | cons n ns =>
        rw [List.dropLast_cons_cons, Session.trace_cons, List.mem_append, not_or] at he
        obtain ⟨e', hs'⟩ := hs.move m
        rcases ((hs.rule m).stopping hs hw).outcome with ⟨-, hw'⟩ | ⟨hend, -⟩
        · exact ih hs' hw' he.2
        · exact absurd hend he.1
    refine ⟨by rw [Session.reconnects, hrc, hrest.1]; rfl, fun mark hm => ?_⟩
    exact (List.mem_append.mp hm).elim (hcl mark) (hrest.2 mark)

/-- It greets for the greeting that it owed and for restarts, but not otherwise. -/
theorem Sound.greetings_stopping {s : Session} {e : Replay} (hs : Sound s e)
    (hw : s.state = .stopRequested) (ns : List Move) (he : .ended ∉ s.trace ns.dropLast) :
    greetings (s.trace ns) ≤ s.greets.toNat + restarts (s.trace ns) := by
  obtain ⟨-, hn⟩ := hs.confined_stopping hw ns he
  obtain ⟨loop, hl⟩ := Option.isSome_iff_exists.mp (hs.stop_known hw).1
  obtain ⟨k, hk⟩ := hs.has_sinks hl
  have ha := hs.account_eq hl hk
  have hb := Serves.greetings (ha ▸ hs.serves ns) hn
  have ho := hs.owing_metadata
  rw [ha] at ho
  rw [Sinks.length_greeting] at hb
  have h₁ : (s.greets && s.has (·.metadata)).toNat ≤ s.greets.toNat := by
    cases s.greets <;> cases s.has (·.metadata) <;> decide
  have h₂ : restarts (s.trace ns) * k.metadata.toNat ≤ restarts (s.trace ns) * 1 :=
    Nat.mul_le_mul_left _ (Bool.toNat_le _)
  have ho : (Session.owed k loop s.calling).countP Call.isMetadata =
    (s.greets && s.has (·.metadata)).toNat := ho
  omega

/-! ## The theorem -/

/-- A loop that was asked to stop is in the state that says so, once its start is complete. -/
theorem Sound.stopRequested_of_asked {s : Session} {e : Replay} (hs : Sound s e)
    (hr : Recorded s.lifecycle true) (hl : s.loop?.isSome = true) (hw : s.state ≠ .starting) :
    s.state = .stopRequested := by
  rw [Session.loop?, hs.engine] at hl
  cases hs.attuned with
  | idle _ _ _ h | faulted _ h => rw [hl] at h; cases h
  | starting h => exact absurd h hw
  | running h => cases hr.running h
  | stopRequested h => exact h

/-- In any run of a new replay session, once a stop was asked for since the loop was claimed, and
the start is complete:

* A fault that has not been brought before the exception policy is not any more: it ends the loop in
  the idle state and restarts nothing (`GaveUp`).
* So does one that the policy is asked about when the stop is requested, be it by the policy itself,
  if the policy replies with anything but a restart, or panics.
* Up to the end of the loop nothing is taken, and the end leaves the session idle (`Stopping`). The
  counters advance, and metadata is delivered, only for restarts, apart from a greeting that the
  loop owes. There is no restart unless the policy was running when the stop was requested and
  replies with one, and then there is no more than this one. -/
theorem stop_overrules_policy (config : Config) (clock : List UInt64) (ms : List Move)
    (hasked : (Session.new config (.replay (.new config clock))).asked false ms = true)
    (hloop : ((Session.new config (.replay (.new config clock))).after ms).loop?.isSome = true)
    (hstart : ((Session.new config (.replay (.new config clock))).after ms).state ≠ .starting) :
    let s := (Session.new config (.replay (.new config clock))).after ms
    (∀ cause, s.consult cause = (.done (.recovery .stop), s) ∧
      GaveUp s [] (Session.follow (s.consult cause)) ∧
      (Session.follow (s.consult cause)).state = .idle) ∧
    (∀ cause r, s.calling = some (.exception cause) → r.recovery ≠ .restart →
      GaveUp s (s.marks (.reply r)) (s.move (.reply r)) ∧ (s.move (.reply r)).state = .idle) ∧
    (∀ ns, .ended ∉ s.trace ns.dropLast →
      Stopping s (s.trace ns) (s.after ns) ∧
      (s.after ns).tally = s.tally.advance 0 (restarts (s.trace ns)) ∧
      greetings (s.trace ns) ≤ s.greets.toNat + restarts (s.trace ns) ∧
      restarts (s.trace ns) ≤ s.calling.toList.countP Call.isException) := by
  intro s
  have hnew := Sound.new config clock
  obtain ⟨e, hs⟩ := hnew.after ms
  have hrec : Recorded s.lifecycle true := hasked ▸ hnew.recorded (.of_inactive rfl) ms
  have hw : s.state = .stopRequested := hs.stopRequested_of_asked hrec hloop hstart
  refine ⟨fun cause => hs.consult_stopped hw cause,
    fun cause r hc hr => hs.abandons hw hc hr, fun ns he => ⟨hs.stopping hw ns he, ?_,
      hs.greetings_stopping hw ns he, hs.restarts_stopping hw ns he⟩⟩
  rw [← (hs.confined_stopping hw ns he).1]
  exact hs.tally_after ns

/-- A policy that stops its session and replies with no restart is not restarted. -/
theorem stop_overrules_policy_abandoning :
    let ms : List Move := [.start ⟨true, false, true, true⟩, .started,
      .push (.fault (.gateway "lost")), .turn, .reply (.code 0), .turn, .stop]
    let s := (Session.new {} (.replay (.new {}))).after ms
    s.calling = some (.exception (.gateway "lost")) ∧
      GaveUp s (s.marks (.reply .panic)) (s.move (.reply .panic)) ∧
      (s.move (.reply .panic)).state = .idle := by
  intro ms s
  have hc : s.calling = some (.exception (.gateway "lost")) := by decide
  obtain ⟨-, hreply, -⟩ := stop_overrules_policy {} [] ms (by decide) (by decide) (by decide)
  exact ⟨hc, hreply _ .panic hc (by decide)⟩

/-- A policy that stops its session and then replies with a restart restarts it: both counts and the
connection advance, and the metadata is delivered once more. -/
theorem restarting_policy_overrules_its_stop :
    let ms : List Move := [.start ⟨true, false, true, true⟩, .started,
      .push (.fault (.gateway "lost")), .turn, .reply (.code 0), .turn, .stop]
    let s₀ := Session.new {} (.replay (.new {}))
    let s := s₀.after ms
    let s' := s.move (.reply (.code 0))
    s₀.asked false ms = true ∧ s.state = .stopRequested ∧
      s.calling = some (.exception (.gateway "lost")) ∧
      s.stats.restarts = 0 ∧ s.lifecycle.restarts = 0 ∧ s.connection = 1 ∧
      s'.state = .stopRequested ∧
      s'.stats.restarts = 1 ∧ s'.lifecycle.restarts = 1 ∧ s'.connection = 2 ∧
      greetings (s'.marks .turn) = 1 := by
  decide

/-- A stop that waits for the start to be complete does not overrule the policy yet. -/
example :
    let ms : List Move := [.start ⟨true, false, false, true⟩, .push (.fault (.gateway "lost")),
      .turn, .turn, .stop]
    let s₀ := Session.new {} (.replay (.new {}))
    let s := s₀.after ms
    s₀.asked false ms = true ∧ s.state = .starting ∧
      (s.move (.reply (.code 0))).stats.restarts = 1 ∧
      ((s.move (.reply (.code 0))).move .started).state = .stopRequested := by
  decide

end MarketFeed
