import MarketFeed.Boundary.Argument
import MarketFeed.Rehearsal.Script

set_option autoImplicit false

/-!
# Foreign callbacks

What a foreign callback is given for each call, and what becomes of its panic: it does not cross
the boundary, but counts as the code for stop.
-/

namespace MarketFeed

inductive ForeignCall where
  | record (header : Header) (body : Bytes)
  | metadata (json : String)
  | exception (message : String)
  | event (kind : String) (instrumentId : UInt32) (symbol text : String)
  deriving DecidableEq, Inhabited

/-- What a foreign callback is given. -/
def Call.foreign : Call → ForeignCall
  | .record r => .record r.header r.body
  | .metadata m => .metadata (Boundary.withoutNul m.json.compact)
  | .exception cause => .exception (Boundary.withoutNul cause.message)
  | .event e _ =>
    .event (Boundary.withoutNul e.kind.name) e.instrumentId (Boundary.withoutNul e.symbol)
      (Boundary.withoutNul e.text)

/-- A reply as it crosses the boundary. -/
def Reply.contained : Reply → Reply
  | code c => code c
  | panic => code 1

namespace Rehearsal

variable {κ : Type}

def Action.contained (a : Action κ) : Action κ := { a with reply := a.reply.contained }

/-- Foreign callbacks that follow the scripts. -/
def Scripts.contained (s : Scripts κ) : Scripts κ where
  record := s.record.map (·.map Action.contained)
  event := s.event.map (·.map Action.contained)
  metadata := s.metadata.map (·.map Action.contained)
  exception := s.exception.map (·.map Action.contained)

end Rehearsal

/-- Which callbacks a start call takes. -/
inductive StartShape where
  | record | withMetadata | withExceptions | events
  deriving DecidableEq, Inhabited

namespace StartShape

/-- The name of the call. The call with metadata is made through the one with exceptions. -/
def operation : StartShape → String
  | record => "fb_session_start"
  | withMetadata | withExceptions => "fb_session_start_with_exceptions"
  | events => "fb_session_start_events"

/-- The callbacks that are passed on; the main one must not be null. -/
def callbacks {κ : Type} (shape : StartShape) (s : Rehearsal.Scripts κ) :
    Except SessionError (Rehearsal.Scripts κ) :=
  match shape with
  | record => do
    let record ← required s.record "record_callback"
    return { record := some record }
  | withMetadata => do
    let record ← required s.record "record_callback"
    return { record := some record, metadata := s.metadata }
  | withExceptions => do
    let record ← required s.record "record_callback"
    return { record := some record, metadata := s.metadata, exception := s.exception }
  | events => do
    let event ← required s.event "event_callback"
    return { event := some event, exception := s.exception }
where
  required {α : Type} (callback : Option α) (name : String) : Except SessionError α :=
    match callback with
    | some c => .ok c
    | none => .error (.nullArgument name)

end StartShape

end MarketFeed
