import MarketFeed.Record.Frame

set_option autoImplicit false

/-!
# Errors

What can go wrong in an engine (`EngineError`) and in a session (`SessionError`), each cause with
its message, and the status code by which the C boundary tells the causes apart.
-/

namespace MarketFeed

/-- Why an engine could not do what it was asked. -/
inductive EngineError where
  | connect (text : String)
  | authentication (text : String)
  | gateway (text : String)
  | decode (cause : DecodeError)
  | alreadyStarted
  deriving DecidableEq, Inhabited

def EngineError.message : EngineError → String
  | connect text => "connection failed: " ++ text
  | authentication text => "authentication failed: " ++ text
  | gateway text => "gateway error: " ++ text
  | decode cause => "malformed record: " ++ cause.message
  | alreadyStarted => "delivery loop is already started"

/-- Why a session or a call at the boundary failed. -/
inductive SessionError where
  | nullArgument (name : String)
  | invalidArgument (reason : String)
  | invalidHandle (kind : String)
  | builderConsumed
  | alreadyRunning
  | faulted
  | loopActive (operation : String)
  | noSubscriptions (operation : String)
  | config (reason : String)
  | engine (cause : EngineError)
  /-- A panic was caught in the operation. -/
  | internal (operation message : String)
  deriving DecidableEq, Inhabited

namespace SessionError

def message : SessionError → String
  | nullArgument name => name ++ " pointer is null"
  | invalidArgument reason => "invalid argument: " ++ reason
  | invalidHandle kind => "invalid or already freed " ++ kind ++ " handle"
  | builderConsumed => "builder has already been consumed"
  | alreadyRunning => "session is already running"
  | faulted => "session has faulted; it can only be released"
  | loopActive operation => "cannot " ++ operation ++ " while the delivery loop is active"
  | noSubscriptions operation =>
    "cannot " ++ operation ++ ": no subscriptions have been registered"
  | config reason => "configuration error: " ++ reason
  | engine cause => cause.message
  | internal operation message => "unexpected error in " ++ operation ++ ": " ++ message

/-- The status of a failed call: -1 for arguments and handles, -2 for the session's state, -3 for
configuration and engine, -4 for a caught panic. -/
def status : SessionError → Int
  | nullArgument _ | invalidArgument _ | invalidHandle _ | builderConsumed => -1
  | alreadyRunning | faulted | loopActive _ | noSubscriptions _ => -2
  | config _ | engine _ => -3
  | internal .. => -4

theorem status_neg (e : SessionError) : e.status < 0 := by
  cases e <;> simp [status]

end SessionError

end MarketFeed
