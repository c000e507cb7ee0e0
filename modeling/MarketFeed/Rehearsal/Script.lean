import MarketFeed.Session.Operations

set_option autoImplicit false

/-!
# Scripted callbacks

In a rehearsal each callback of a session follows a script: a list of actions, one for each call.
An action may first make a call of its own (`κ` are the calls there are, `α` their answers), then
it returns a code or panics. Every call of a callback is noted in a log, after what it called.

`Host` is where a scripted session lives. It knows how to reach the session in a larger state and
how calls are made, so that running a session is written once.
-/

namespace MarketFeed.Rehearsal

structure Action (κ : Type) where
  call : Option κ
  reply : Reply

/-- The actions of each callback; none where there is no such callback. -/
structure Scripts (κ : Type) where
  record : Option (List (Action κ)) := none
  event : Option (List (Action κ)) := none
  metadata : Option (List (Action κ)) := none
  exception : Option (List (Action κ)) := none

namespace Scripts

variable {κ : Type}

def sinks (s : Scripts κ) : Sinks where
  record := s.record.isSome
  event := s.event.isSome
  metadata := s.metadata.isSome
  exception := s.exception.isSome

/-- The next action of a script; at its end a callback returns the code `last`. -/
def draw (script : Option (List (Action κ))) (last : UInt32) :
    Action κ × Option (List (Action κ)) :=
  match script with
  | some (a :: rest) => (a, some rest)
  | script => (⟨none, .code last⟩, script)

/-- The action for a call, and the scripts after it. -/
def next (s : Scripts κ) (c : Call) : Action κ × Scripts κ :=
  match c with
  | .record _ => let (a, rest) := draw s.record 0; (a, { s with record := rest })
  | .event .. => let (a, rest) := draw s.event 0; (a, { s with event := rest })
  | .metadata _ => let (a, rest) := draw s.metadata 0; (a, { s with metadata := rest })
  | .exception _ => let (a, rest) := draw s.exception 1; (a, { s with exception := rest })

end Scripts

inductive Entry (α : Type) where
  /-- A call of a callback, the state at its beginning (none once the session was released), and
  the answer to the call it made. -/
  | callback (c : Call) (state : Option SessionState) (answer : Option α)
  | engine (c : EngineCall)
  /-- A delivery during a start. -/
  | onStart (name answer : String)

structure Scripted (κ α : Type) where
  session : Session
  scripts : Scripts κ := {}
  /-- The loop is kept from taking another turn. -/
  held : Bool := false
  log : List (Entry α) := []

namespace Scripted

variable {κ α : Type}

def note (x : Scripted κ α) (e : Entry α) : Scripted κ α := { x with log := x.log ++ [e] }

/-- Carries out an operation and notes the calls it made of the engine. -/
def operate {β : Type} (x : Scripted κ α) (op : Session → β × Session) : β × Scripted κ α :=
  let (b, s) := op x.session
  let (calls, engine) := s.engine.takeCalls
  (b, { x with session := { s with engine }, log := x.log ++ calls.map .engine })

end Scripted

/-- Where a scripted session lives. -/
structure Host (σ κ α : Type) where
  view : σ → Scripted κ α
  update : Scripted κ α → σ → σ
  /-- Makes a call from a callback of the session. -/
  perform : κ → StateM σ α
  /-- Whether the thread that calls is inside one of the session's own callbacks. -/
  delivering : Bool
  /-- Bounds the number of turns and replies between two steps. -/
  fuel : Nat

namespace Host

variable {σ κ α β : Type} (h : Host σ κ α)

def scripted : StateM σ (Scripted κ α) := return h.view (← get)

def session : StateM σ Session := return (← h.scripted).session

def modifyScripted (f : Scripted κ α → Scripted κ α) : StateM σ Unit :=
  modify fun w => h.update (f (h.view w)) w

def operate (op : Session → β × Session) : StateM σ β := fun w =>
  let (b, x) := (h.view w).operate op
  (b, h.update x w)

/-- Lets the callback that was called do its next action. -/
def answer (c : Call) : StateM σ Reply := do
  let x ← h.scripted
  let state := if x.session.released then none else some x.session.state
  let (action, scripts) := x.scripts.next c
  h.modifyScripted fun x => { x with scripts }
  let answer ← action.call.mapM h.perform
  h.modifyScripted fun x => x.note (.callback c state answer)
  return action.reply

/-- Lets the callbacks reply and the loop take turns, as long as there is something to do. -/
def run : Nat → StateM σ Unit
  | 0 => return
  | n + 1 => do
    let x ← h.scripted
    match x.session.calling with
    | some c =>
      let reply ← h.answer c
      h.modifyScripted fun x => { x with session := x.session.reply reply }
      run n
    | none =>
      if x.held then return
      match x.session.step with
      | some session =>
        h.modifyScripted fun x => { x with session }
        run n
      | none => return

/-- Runs the session, unless one of its callbacks is being run already. -/
def settle : StateM σ Unit := do
  if (← h.session).calling.isNone then h.run h.fuel

/-! ## Operations that involve the loop -/

/-- Delivers by hand; the answer tells what came of it. -/
def hand (d : Handing) : StateM σ String := do
  match ← h.operate (·.hand d) with
  | .noLoop => return "no loop"
  | .noSink => return "no sink"
  | .ended => return "ended"
  | .delivered =>
    h.run h.fuel
    match (← h.session).engine with
    | .manual ⟨_, _, _, _, .verdict v⟩ => return v.name
    | .manual ⟨_, _, _, _, .recovery r⟩ => return r.name
    | _ => return "sent"

/-- Starts a loop. A manual engine makes the deliveries in store before it returns. -/
def start (scripts : Scripts κ) : StateM σ (Except Halt Unit) := do
  match ← h.operate (·.beginStart scripts.sinks) with
  | .error halt => return .error halt
  | .ok () =>
    h.modifyScripted fun x => { x with scripts }
    let deliveries ← h.operate fun s =>
      match s.engine with
      | .manual e => (e.onStart, { s with engine := .manual { e with onStart := [] } })
      | .replay _ => ([], s)
    for d in deliveries do
      let answer ← h.hand d
      h.modifyScripted fun x => x.note (.onStart d.name answer)
    h.operate (·.completeStart)

/-- Waits for the end of the loop, at most for a time in milliseconds if one is given. If it has to
wait, no time at all changes nothing; any other is long enough for a loop that was asked to stop. -/
def wait (timeout : Option Nat) : StateM σ Verdict := do
  match (← h.session).lifecycle.atOnce h.delivering with
  | some v => return v
  | none =>
    if timeout ≠ some 0 then
      h.modifyScripted fun x => { x with held := false }
      h.settle
    return (← h.session).waited

/-- Asks the loop to stop and waits. If there is no time to wait, a replay loop is held. -/
def stop (timeout : Option Nat) : StateM σ (Except Halt Verdict) := do
  match ← h.operate (·.requestStop) with
  | .error halt => return .error halt
  | .ok () =>
    let s ← h.session
    if !h.delivering && timeout = some 0 && s.lifecycle.isActive && s.engine.isReplay then
      h.modifyScripted fun x => { x with held := true }
    return .ok (← h.wait timeout)

def release : StateM σ (Except Halt Unit) := do
  let r ← h.operate (·.release h.delivering)
  h.modifyScripted fun x => { x with held := false }
  h.settle
  return r

end Host

end MarketFeed.Rehearsal
