import MarketFeed.Boundary.Argument
import MarketFeed.Session.Basic

set_option autoImplicit false

/-!
# Logging

A process has one logger. The first call that sets one up succeeds, if its filter is taken, and any
later call fails (`Logging.init`). Filters are read by the library that logs, of which no more is
known here than that it takes a filter, refuses it with a message, or panics over it.
-/

namespace MarketFeed.Boundary

inductive FilterFault where
  | refused (message : String)
  | panicked (message : String)
  deriving DecidableEq, Inhabited

structure Logging where
  /-- How the library takes a filter. -/
  check : String → Except FilterFault Unit := fun _ => .ok ()
  /-- The filter that the environment asks for, if it does. -/
  environment : Option String := none
  /-- What the library says to a second logger. -/
  conflict : String := "a global default trace dispatcher has already been set"
  installed : Bool := false

namespace Logging

/-- Looks at the filter of a call. Where none is given, that of the environment is used, and in
place of one that is refused a default, which is always taken. -/
def accept (l : Logging) : Option String → Except Halt Unit
  | some filter =>
    match l.check filter with
    | .ok () => .ok ()
    | .error (.refused message) =>
      .error (.failed (.config ("invalid log filter '" ++ filter ++ "': " ++ message)))
    | .error (.panicked message) => .error (.panicked message)
  | none =>
    match l.environment.map l.check with
    | some (.error (.panicked message)) => .error (.panicked message)
    | _ => .ok ()

/-- Sets up the logger of the process, unless there is one already. -/
def init (l : Logging) (filter : Option String) : Except Halt Unit × Logging :=
  match l.accept filter with
  | .error halt => (.error halt, l)
  | .ok () =>
    if l.installed then
      (.error (.failed (.config ("logging already initialized: " ++ l.conflict))), l)
    else (.ok (), { l with installed := true })

theorem init_error {l l' : Logging} {filter : Option String} {halt : Halt}
    (h : l.init filter = (.error halt, l')) : l' = l := by
  unfold init at h
  split at h
  · cases h
    rfl
  · split at h <;> cases h
    rfl

end Logging

/-- The filter that a call is given, if it is given one. -/
def filterText (filter : CString) : Except SessionError (Option String) :=
  match filter with
  | none => .ok none
  | some _ => (text filter "filter").map some

end MarketFeed.Boundary
