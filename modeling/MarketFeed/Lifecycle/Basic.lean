import MarketFeed.Codes.Verdict
import MarketFeed.Error

set_option autoImplicit false

/-!
# The lifecycle of a session

One state word decides what a session may do:

    idle → starting → running → stopRequested → idle
                 \          \
                  +----------+--> faulted (for ever)

What happens to a loop before its start is complete waits in two flags: the loop may already have
ended (`exited`), and a stop may have been asked for (`stopAsked`). Completing the start settles
both and clears them.
-/

namespace MarketFeed

/-- Whether a thread with a mark is inside a callback of the session or lifecycle with a name: a
thread is marked with the one whose callback it entered last and did not leave. -/
def delivers {ι : Type} [BEq ι] (mark : Option ι) (name : ι) : Bool := mark == some name

@[simp] theorem delivers_iff {ι : Type} [BEq ι] [LawfulBEq ι] {mark : Option ι} {name : ι} :
    delivers mark name = true ↔ mark = some name := beq_iff_eq

inductive SessionState where
  | idle | starting | running | stopRequested | faulted
  deriving DecidableEq, Inhabited

namespace SessionState

def code : SessionState → Nat
  | idle => 0 | starting => 1 | running => 2 | stopRequested => 3 | faulted => 4

def name : SessionState → String
  | idle => "Idle" | starting => "Starting" | running => "Running"
  | stopRequested => "StopRequested" | faulted => "Faulted"

/-- Whether a delivery loop exists or is being created. -/
def isActive : SessionState → Bool
  | idle | faulted => false
  | starting | running | stopRequested => true

end SessionState

structure Lifecycle where
  state : SessionState
  /-- The loop ended while its start was not complete. -/
  exited : Bool
  /-- A stop was asked for while the start was not complete. -/
  stopAsked : Bool
  /-- How often a loop was restarted after a fault. -/
  restarts : UInt32
  deriving DecidableEq, Inhabited

namespace Lifecycle

def new : Lifecycle := ⟨.idle, false, false, 0⟩

def isActive (l : Lifecycle) : Bool := l.state.isActive

def stopRequested (l : Lifecycle) : Bool := l.state == .stopRequested

def beginStart (l : Lifecycle) : Except SessionError Lifecycle :=
  match l.state with
  | .idle => .ok { l with state := .starting }
  | .faulted => .error .faulted
  | _ => .error .alreadyRunning

/-- Completes a start that failed (`ok = false`) or succeeded. -/
def finishStart (l : Lifecycle) (ok : Bool) : Lifecycle :=
  let next : SessionState :=
    if !ok then .faulted
    else if l.exited then .idle
    else if l.stopAsked then .stopRequested
    else .running
  { l with
    state := if l.state = .starting then next else l.state
    exited := false
    stopAsked := false }

def loopExited (l : Lifecycle) : Lifecycle :=
  match l.state with
  | .starting => { l with exited := true }
  | .running | .stopRequested => { l with state := .idle }
  | .idle | .faulted => l

/-- A fault was not recovered from. A stop that a running session was already asked for wins. -/
def fault (l : Lifecycle) : Lifecycle :=
  match l.state with
  | .starting | .running => { l with state := .faulted }
  | _ => l

/-- Asks the loop to stop; a loop that is being started hears of it once it runs. -/
def requestStop (l : Lifecycle) : Lifecycle :=
  match l.state with
  | .running => { l with state := .stopRequested }
  | .starting => { l with stopAsked := true }
  | _ => l

def noteRestart (l : Lifecycle) : Lifecycle := { l with restarts := l.restarts + 1 }

/-- The answer of a wait that is over: whether a loop is active. -/
def waited (l : Lifecycle) : Verdict := if l.isActive then .proceed else .stop

/-- The answer that a wait is given at once; none if it has to wait. There is nothing to wait for
without a loop, and a thread that is inside one of the callbacks of the loop never waits. -/
def atOnce (l : Lifecycle) (delivering : Bool) : Option Verdict :=
  if !l.isActive then some .stop else if delivering then some .proceed else none

/-- Inside of a callback a wait is over as soon as it has begun. -/
@[simp] theorem atOnce_delivering (l : Lifecycle) : l.atOnce true = some l.waited := by
  unfold atOnce waited
  cases l.isActive <;> rfl

theorem atOnce_inactive {l : Lifecycle} (h : l.isActive = false) (delivering : Bool) :
    l.atOnce delivering = some .stop := by
  rw [atOnce, h]
  rfl

theorem atOnce_active {l : Lifecycle} (h : l.isActive = true) (delivering : Bool) :
    l.atOnce delivering = if delivering then some .proceed else none := by
  rw [atOnce, h]
  rfl

def ensureUsable (l : Lifecycle) : Except SessionError Unit :=
  if l.state = .faulted then .error .faulted else .ok ()

/-- Succeeds only while no loop is active. -/
def ensureIdle (l : Lifecycle) (operation : String) : Except SessionError Unit :=
  match l.state with
  | .idle => .ok ()
  | .faulted => .error .faulted
  | _ => .error (.loopActive operation)

end Lifecycle

end MarketFeed
