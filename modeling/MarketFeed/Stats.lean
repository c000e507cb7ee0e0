import MarketFeed.Json.Value

set_option autoImplicit false

/-!
# Session statistics

Counters of what a session did since it was opened. They wrap at 2⁶⁴ and no start resets them.
-/

namespace MarketFeed

structure Stats where
  records : UInt64 := 0
  bytes : UInt64 := 0
  events : UInt64 := 0
  heartbeats : UInt64 := 0
  dispatchErrors : UInt64 := 0
  callbackFaults : UInt64 := 0
  restarts : UInt64 := 0
  starts : UInt64 := 0
  deriving DecidableEq, Inhabited

namespace Stats

/-- A delivery loop was started. -/
def start (s : Stats) : Stats := { s with starts := s.starts + 1 }

/-- A record of `size` bytes was delivered. -/
def delivered (s : Stats) (size : Nat) : Stats :=
  { s with records := s.records + 1, bytes := s.bytes + UInt64.ofNat size }

def event (s : Stats) : Stats := { s with events := s.events + 1 }

def heartbeat (s : Stats) : Stats := { s with heartbeats := s.heartbeats + 1 }

def dispatchError (s : Stats) : Stats := { s with dispatchErrors := s.dispatchErrors + 1 }

def callbackFault (s : Stats) : Stats := { s with callbackFaults := s.callbackFaults + 1 }

def restart (s : Stats) : Stats := { s with restarts := s.restarts + 1 }

def json (s : Stats) : Json :=
  .object [("records", .nat s.records.toNat), ("bytes", .nat s.bytes.toNat),
    ("events", .nat s.events.toNat), ("heartbeats", .nat s.heartbeats.toNat),
    ("dispatch_errors", .nat s.dispatchErrors.toNat),
    ("callback_faults", .nat s.callbackFaults.toNat), ("restarts", .nat s.restarts.toNat),
    ("starts", .nat s.starts.toNat)]

end Stats

end MarketFeed
