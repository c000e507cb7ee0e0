import Mathlib
import MarketFeed.Proofs.Rehearsal.Containment
import MarketFeed.Proofs.Rehearsal.Isolation
import MarketFeed.Proofs.Rehearsal.Settling

set_option autoImplicit false

/-!
# Two surfaces

What can be asked of a session both directly and through its handle (`Ask`, `Inner`, `Use`), what
it is called on either surface, and which reply of the handle goes with which answer of the
session. `Refines` is the invariant between a session behind a handle and one that is used
directly: callbacks that panic are caught at the boundary, so the sessions differ in the callback
faults, and in nothing else. Whatever happens to both keeps it (`refines_likeness`).
-/

namespace MarketFeed

theorem Sound.charged {s : Session} {e : Replay} (hs : Sound s e) (n : Nat) :
    Sound (s.charged n) e := ⟨hs.engine, hs.sinks, hs.calling, hs.attuned⟩

/-! ## Replies -/

/-- A reply in the words of the session: zero lets it go on, any other code is a stop. -/
def Reply.decided : Reply → Reply
  | code c => code (if c = 0 then 0 else 1)
  | panic => panic

namespace Session

variable {s : Session} {c : Call}

theorem reply_decided (hc : s.calling = some c) (r : Reply) : s.reply r.decided = s.reply r := by
  cases r with
  | panic => rfl
  | code code =>
    by_cases h : code = 0
    · rw [Reply.decided, if_pos h, h]
    · rw [Reply.decided, if_neg h]
      simp only [reply, hc]
      cases c with
      | metadata | event => rfl
      | record => simp [resume, Reply.verdict, Verdict.ofCode, noteReply, h]
      | exception => simp [resume, Reply.recovery, Recovery.ofCode, noteReply, h]

/-- A callback that panics behind the boundary counts as one that returns, without a fault. -/
theorem reply_contained (hc : s.calling = some c) (r : Reply) :
    s.reply r.decided = (s.reply r.contained).charged (if r = .panic then 1 else 0) := by
  rw [reply_decided hc]
  cases r with
  | code code => exact (charged_zero _).symm
  | panic =>
    have hone : s.reply (.code 1) = s.reply (.code c.plain) := by
      cases c with
      | record | exception => rfl
      | event | metadata => exact reply_code hc rfl 1 0
    rw [if_pos rfl, Reply.contained, hone]
    exact reply_panic hc

end Session

namespace Rehearsal

open Boundary

/-! ## What is asked -/

/-- A subscription as it is asked for on either surface. -/
structure Asked where
  arguments : SubscribeArguments
  request : Subscription.Request
  same : arguments.subscription = Subscription.ofRequest request

/-- What is asked of a session, be it by its owner or by a callback. Where a call leaves its result
in a variable, a null pointer is passed only if that is allowed. -/
inductive Ask where
  | stop (timeout : Nat) (out : Bool)
  | block
  | blockTimeout (timeout : Nat)
  | reconnect
  | resubscribe
  | subscribe (asked : Asked)
  /-- The buffer has a length, if there is one. -/
  | resolve (id : UInt32) (buffer : Option Nat)
  | stats
  | free

/-- The callbacks of a start, of the shape and with the main callback that it asks for. -/
structure Callbacks (κ : Type) where
  shape : StartShape
  scripts : Scripts κ
  taken : shape.callbacks scripts = .ok scripts

/-- What a callback asks. -/
inductive Inner where
  | ask (a : Ask)
  | start (callbacks : Callbacks HandleStep)

/-- What the owner of a session asks, or puts into its feed. -/
inductive Use where
  | ask (a : Ask)
  | start (callbacks : Callbacks Inner)
  | push (bytes : Bytes)
  | pushStream (bytes : Bytes)
  | fail (message : String)
  | close

/-! ## What it is called -/

namespace Ask

/-- As a call through the handle with a name. -/
def foreign (name : String) : Ask → HandleStep
  | stop timeout out => .stop (some name) timeout out
  | block => .block (some name)
  | blockTimeout timeout => .blockTimeout (some name) timeout true
  | reconnect => .reconnect (some name)
  | resubscribe => .resubscribe (some name)
  | subscribe asked => .subscribe (some name) asked.arguments
  | resolve id buffer => .resolve (some name) id (buffer.getD 0) buffer.isSome
  | stats => .stats (some name) true
  | free => .sessionFree (some name)

/-- As a step of a rehearsal of the session itself. -/
def direct : Ask → Stage.Step
  | stop timeout _ => .stop (some timeout)
  | block => .block none
  | blockTimeout timeout => .block (some timeout)
  | reconnect => .reconnect
  | resubscribe => .resubscribe
  | subscribe asked => .subscribe asked.request
  | resolve id _ => .resolve id
  | stats => .stats
  | free => .drop

/-- As a call by a callback of the session itself. -/
def within : Ask → SessionCall
  | stop .. => .stop
  | block | blockTimeout _ => .block
  | reconnect => .reconnect
  | resubscribe => .resubscribe
  | subscribe asked => .subscribe asked.request
  | resolve id _ => .resolve id
  | stats => .stats
  | free => .drop

theorem asks_direct (a : Ask) : a.direct.asks = true := by
  cases a <;> rfl

end Ask

namespace Inner

def foreign (name : String) : Inner → HandleStep
  | ask a => a.foreign name
  | start callbacks => .start (some name) callbacks.shape callbacks.scripts

def within : Inner → SessionCall
  | ask a => a.within
  | start _ => .start

end Inner

section

variable {κ κ' : Type}

/-- An action with other words for its call and its reply. -/
def Action.map (f : κ → κ') (g : Reply → Reply) (a : Action κ) : Action κ' :=
  ⟨a.call.map f, g a.reply⟩

namespace Scripts

def map (f : κ → κ') (g : Reply → Reply) (s : Scripts κ) : Scripts κ' where
  record := s.record.map (·.map (·.map f g))
  event := s.event.map (·.map (·.map f g))
  metadata := s.metadata.map (·.map (·.map f g))
  exception := s.exception.map (·.map (·.map f g))

variable {f : κ → κ'} {g : Reply → Reply}

theorem next_map (h₀ : g (.code 0) = .code 0) (h₁ : g (.code 1) = .code 1) (s : Scripts κ)
    (c : Call) : (s.map f g).next c = ((s.next c).1.map f g, (s.next c).2.map f g) := by
  have hidle : ∀ code, g (.code code) = .code code →
      (⟨none, .code code⟩ : Action κ).map f g = ⟨none, .code code⟩ := by
    intro code hg
    rw [Action.map, hg, Option.map_none]
  cases c with
  | record | event | metadata => simp only [next, map, draw_map (hidle 0 h₀)]
  | exception => simp only [next, map, draw_map (hidle 1 h₁)]

theorem sinks_map (s : Scripts κ) : (s.map f g).sinks = s.sinks := by
  simp only [sinks, map, Option.isSome_map]

theorem contained_map (s : Scripts κ) :
    (s.map f g).contained = s.map f fun r => (g r).contained := by
  have hscript : ∀ script : Option (List (Action κ)),
      (script.map (·.map (·.map f g))).map (·.map Action.contained) =
        script.map (·.map (·.map f fun r => (g r).contained)) := by
    intro script
    cases script with
    | none => rfl
    | some actions =>
      rw [Option.map_some, Option.map_some, Option.map_some, List.map_map]
      rfl
  simp only [contained, map, hscript]

end Scripts

/-- A start takes the callbacks that its shape takes, whatever their words. -/
theorem callbacks_map (shape : StartShape) (f : κ → κ') (g : Reply → Reply) (s : Scripts κ) :
    shape.callbacks (s.map f g) = (shape.callbacks s).map (·.map f g) := by
  obtain ⟨record, event, metadata, exception⟩ := s
  cases shape with
  | record | withMetadata | withExceptions => cases record <;> rfl
  | events => cases event <;> rfl

theorem Callbacks.main (callbacks : Callbacks κ) :
    (callbacks.scripts.sinks.record || callbacks.scripts.sinks.event) = true := by
  obtain ⟨shape, ⟨record, event, metadata, exception⟩, h⟩ := callbacks
  cases shape with
  | record | withMetadata | withExceptions =>
    cases record with
    | none => cases h
    | some => rfl
  | events =>
    cases event with
    | none => cases h
    | some => simp [Scripts.sinks]

end

namespace Use

def foreign (name : String) : Use → HandleStep
  | ask a => a.foreign name
  | start callbacks =>
    .start (some name) callbacks.shape (callbacks.scripts.map (·.foreign name) id)
  | push bytes => .push name (.record bytes)
  | pushStream bytes => .pushStream name bytes
  | fail message => .push name (.fault (.gateway message))
  | close => .push name .close

def direct : Use → Stage.Step
  | ask a => a.direct
  | start callbacks => .start (callbacks.scripts.map Inner.within Reply.decided)
  | push bytes => .push bytes
  | pushStream bytes => .pushStream bytes
  | fail message => .fail message
  | close => .close

end Use

/-! ## What is replied -/

def Out.blind : Out → Out
  | stats s => .stats { s with callbackFaults := 0 }
  | out => out

/-- What a call returns and leaves with its caller, but for callback faults. -/
def HandleReply.told (r : HandleReply) : Value × Option Out := (r.value, r.out.map Out.blind)

/-- The answer to a release. -/
def Answer.ofRelease : Except Halt Unit → Answer
  | .ok () => dropped
  | .error halt => ofHalt halt

/-- The status that stands for a failure. -/
def Answer.failure? : Answer → Option Int
  | noSession => some (SessionError.invalidHandle "session").status
  | error cause => some cause.status
  | panicked message => some (SessionError.internal "" message).status
  | _ => none

/-- A status, with nothing left in the variable of the caller if there is one. -/
def Answer.failed (a : Answer) (out : Option Out) : Option (Value × Option Out) :=
  a.failure?.map fun status => (.number status, out)

/-- A status and no more. -/
def Answer.status : Answer → Option (Value × Option Out)
  | ok => some (.number 0, none)
  | a => a.failed none

namespace Ask

/-- The reply that goes with an answer; none if there is no such answer. -/
def reply : Ask → Answer → Option (Value × Option Out)
  | stop _ out, .verdict v =>
    some (.number 0, some (.number (if out then v.code else World.unwritten)))
  | stop .., a => a.failed (some (.number World.unwritten))
  | block, .verdict _ => some (.number 0, none)
  | block, a => a.failed none
  | blockTimeout _, .verdict v => some (.number 0, some (.number v.code))
  | blockTimeout _, a => a.failed (some (.number World.unwritten))
  | reconnect, a | resubscribe, a | subscribe _, a => a.status
  | resolve _ buffer, .symbol symbol =>
    let text := Utf8.encode (symbol.getD "").toList
    let before := List.replicate (buffer.getD 0) World.fillByte
    some (.number (min text.length 0x7FFFFFFF : Nat),
      some (.buffer (if buffer.isSome then copyOut text before else before)))
  | resolve _ buffer, a =>
    a.failed (some (.buffer (List.replicate (buffer.getD 0) World.fillByte)))
  | stats, .stats s => some (.number 0, some (Out.stats s).blind)
  | stats, a => a.failed (some (.stats {}))
  | free, .dropped | free, .noSession => some (.void, none)
  | free, _ => none

end Ask

def Inner.reply : Inner → Answer → Option (Value × Option Out)
  | ask a, answer => a.reply answer
  | start _, answer => answer.status

def Use.reply : Use → Answer → Option (Value × Option Out)
  | ask a, answer => a.reply answer
  | start _, answer => answer.status
  | push _, .accepted b | fail _, .accepted b | close, .accepted b => some (.flag b, none)
  | pushStream _, .count n => some (.count n, none)
  | _, _ => none

/-- The reply to a callback goes with the answer to some call that it can make. -/
def Goes (reply : Option HandleReply) (answer : Option Answer) : Prop :=
  Option.Rel (fun r a => ∃ i : Inner, i.reply a = some r.told) reply answer

/-- Two entries of logs tell of the same: of a call in a state, and of replies that go with each
other. -/
inductive Entry.Tells : Entry HandleReply → Entry Answer → Prop
  | callback {c : Call} {state : Option SessionState} {r : Option HandleReply} {a : Option Answer} :
      Goes r a → Tells (.callback c state r) (.callback c state a)
  | engine {c : EngineCall} : Tells (.engine c) (.engine c)
  | onStart {name answer : String} : Tells (.onStart name answer) (.onStart name answer)

/-! ## The invariant -/

/-- The session `x`, behind a handle with the name, does as the session `y` does directly. -/
structure Refines (name : String) (x : Scripted HandleStep HandleReply) (y : Stage) : Prop where
  session : ∃ n, y.session = x.session.charged n
  scripts : ∃ s : Scripts Inner, x.scripts = s.map (·.foreign name) Reply.contained ∧
    y.scripts = s.map Inner.within Reply.decided
  held : y.held = x.held
  log : List.Forall₂ Entry.Tells x.log y.log
  sound : ∃ e, Sound x.session e
  /-- A loop is held only while no callback runs. -/
  idle : x.held = true → x.session.calling = none

/-- The invariant in each phase of a callback. -/
def RefinesIn (name : String) : Phase → Scripted HandleStep HandleReply → Stage → Prop
  | .rest, x, y => Refines name x y
  | .within c r r', x, y | .noted c r r', x, y =>
    Refines name x y ∧ x.session.calling = some c ∧
      ∃ reply : Reply, r = reply.contained ∧ r' = reply.decided

/-- The calls of two callbacks are the same call, on either surface. -/
def Spoken (name : String) (k : Option HandleStep) (k' : Option SessionCall) : Prop :=
  ∃ i : Option Inner, k = i.map (·.foreign name) ∧ k' = i.map Inner.within

variable {name : String} {x : Scripted HandleStep HandleReply} {y : Stage}

namespace Refines

theorem new (name : String) (config : Config) (clock : List UInt64) :
    Refines name { session := .new config (.replay (.new config clock)) }
      { session := .new config (.replay (.new config clock)) } where
  session := ⟨0, (Session.charged_zero _).symm⟩
  scripts := ⟨{}, rfl, rfl⟩
  held := rfl
  log := .nil
  sound := ⟨_, Sound.new config clock⟩
  idle := nofun

/-- What does not tell of the faults is the same of both sessions. -/
theorem same (h : Refines name x y) {γ : Type} (f : Session → γ)
    (hf : ∀ s n, f (s.charged n) = f s) : f x.session = f y.session := by
  obtain ⟨n, hn⟩ := h.session
  rw [hn, hf]

theorem sounds (h : Refines name x y) : ∃ e, Sound x.session e ∧ Sound y.session e := by
  obtain ⟨n, hn⟩ := h.session
  obtain ⟨e, hs⟩ := h.sound
  exact ⟨e, hs, hn ▸ hs.charged n⟩

/-- Both sessions carry out an operation, which is a move and does not look at the faults. -/
theorem operate (h : Refines name x y) {β : Type} {op : Session → β × Session} (m : Move)
    (hm : m.isOperation = true) (hop : ∀ s, (op s).2 = s.move m)
    (hi : Session.Oblivious op) :
    Refines name (x.operate op).2 (y.operate op).2 ∧ (x.operate op).1 = (y.operate op).1 ∧
      (x.operate op).2.session.calling = x.session.calling := by
  obtain ⟨n, hn⟩ := h.session
  obtain ⟨e, hs, hs'⟩ := h.sounds
  have hcalling := (hs.rule m).calling_of_operation hm
  rw [operate_move m hop hs, operate_move m hop hs']
  refine ⟨⟨⟨n, ?_⟩, h.scripts, h.held, h.log, hs.move m, fun hh => hcalling.trans (h.idle hh)⟩, ?_,
    hcalling⟩
  · show y.session.move m = (x.session.move m).charged n
    rw [hn, Session.move_charged]
  · show (op x.session).1 = (op y.session).1
    rw [hn, hi.charged]

/-- An operation that does nothing to a replay session. -/
theorem operate_same (h : Refines name x y) {β : Type} {op : Session → β × Session} {b : β}
    (hop : ∀ (s : Session) e, s.engine = .replay e → op s = (b, s)) :
    x.operate op = (b, x) ∧ y.operate op = (b, y) := by
  obtain ⟨e, hs, hs'⟩ := h.sounds
  have hx := hop x.session e hs.engine
  have hy := hop y.session e hs'.engine
  rw [operate_replay (e := e) op (by rw [hx]; exact hs.engine), hx,
    operate_replay (e := e) op (by rw [hy]; exact hs'.engine), hy]
  exact ⟨rfl, rfl⟩

theorem corresponds {β : Type} {op : Session → β × Session} (m : Move)
    (hm : m.isOperation = true) (hop : ∀ s, (op s).2 = s.move m)
    (hi : Session.Oblivious op) (hr : ∀ s, (op s).2.released = s.released) :
    Corresponds (RefinesIn name) Eq op op := by
  intro x y h
  obtain ⟨h', ha, -⟩ := Refines.operate h m hm hop hi
  refine ⟨h', ?_, hr _⟩
  obtain ⟨n, hn⟩ := Refines.session h
  rw [hn, hi.charged]

end Refines

/-- Whatever happens to two such sessions, they go on so. -/
theorem refines_likeness : Likeness (RefinesIn name) (Spoken name) Goes where
  calling h := Refines.same h (·.calling) fun _ _ => rfl
  lifecycle h := Refines.same h (·.lifecycle) fun _ _ => rfl
  outcome h := Refines.same h (outcome? ·.engine) fun _ _ => rfl
  released h := Refines.same h (·.released) fun _ _ => rfl
  held h := (Refines.held h).symm
  step := by
    intro x y h hc hh
    obtain ⟨n, hn⟩ := Refines.session h
    obtain ⟨e, hs⟩ := Refines.sound h
    have hstep : y.session.step = x.session.step.map (·.charged n) := by
      rw [hn]
      exact x.session.step_charged n
    cases hx : x.session.step with
    | none =>
      rw [hstep, hx]
      exact .none
    | some s =>
      have hm : x.session.move .turn = s := by simp [Session.move, hx]
      rw [hstep, hx]
      exact .some ⟨⟨n, rfl⟩, h.scripts, h.held, h.log, hm ▸ hs.move .turn,
        fun hheld => by rw [hh] at hheld; cases hheld⟩
  draw := by
    intro x y c h hc
    obtain ⟨s, hsx, hsy⟩ := Refines.scripts h
    have hx := s.next_map (f := (·.foreign name)) (g := Reply.contained) rfl rfl c
    have hy := s.next_map (f := Inner.within) (g := Reply.decided) rfl rfl c
    rw [hsx, hsy, hx, hy]
    exact ⟨⟨⟨h.session, ⟨_, rfl, rfl⟩, h.held, h.log, h.sound, h.idle⟩, hc, _, rfl, rfl⟩, _, rfl,
      rfl⟩
  note := by
    rintro x y c r r' a a' state ⟨h, hc, hr⟩ ha
    refine ⟨⟨h.session, h.scripts, h.held, ?_, h.sound, h.idle⟩, hc, hr⟩
    exact List.rel_append h.log (.cons (.callback ha) .nil)
  reply := by
    rintro x y c _ _ ⟨h, hc, r, rfl, rfl⟩
    obtain ⟨n, hn⟩ := h.session
    obtain ⟨e, hs⟩ := h.sound
    refine ⟨⟨(if r = .panic then 1 else 0) + n, ?_⟩, h.scripts, h.held, h.log, hs.move (.reply _),
      fun hheld => ?_⟩
    · show y.session.reply r.decided = _
      rw [hn, Session.reply_charged, Session.reply_contained hc, Session.charged_charged]
    · have hidle := h.idle hheld
      rw [hc] at hidle
      cases hidle
  noteStart := by
    intro x y event answer h
    exact ⟨h.session, h.scripts, h.held, List.rel_append h.log (.cons .onStart .nil), h.sound,
      h.idle⟩
  wake := by
    intro x y h
    exact ⟨h.session, h.scripts, rfl, h.log, h.sound, fun hheld => by cases hheld⟩
  start k := Refines.corresponds (.start k) rfl (fun _ => rfl) (.beginStart k)
    fun s => s.beginStart_released k
  deliveries := by
    intro x y h
    have hnone : ∀ (s : Session) e, s.engine = .replay e → deliveries s = ([], s) := by
      intro s e he
      simp only [deliveries, he]
    obtain ⟨hx, hy⟩ := Refines.operate_same h hnone
    obtain ⟨e, hs, hs'⟩ := Refines.sounds h
    rw [hx, hy, hnone _ e hs.engine, hnone _ e hs'.engine]
    exact ⟨h, rfl, rfl⟩
  hand d := Refines.corresponds (.hand d) rfl (fun _ => rfl) (.hand d) fun s => s.hand_released d
  complete := Refines.corresponds .started rfl (fun _ => rfl) .completeStart
    fun s => s.completeStart_released
  stop := Refines.corresponds .stop rfl (fun _ => rfl) .requestStop
    fun s => s.requestStop_released

end Rehearsal

end MarketFeed
