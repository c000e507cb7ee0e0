import MarketFeed.Lifecycle.Basic
import MarketFeed.Named

set_option autoImplicit false

/-!
# Attempts, guards and scopes

Who may move a lifecycle on. A start that claimed the lifecycle is an *attempt*, which succeeds or
fails, and fails if it is abandoned. The delivery loop holds a *guard* of the attempt; dropping it
tells the lifecycle that the loop is over. A *scope* marks the thread as running a callback of a
lifecycle, and when it ends the thread is marked as it was before.

All of them are known by names, and putting a new one under a name drops the one that was there.
-/

namespace MarketFeed

structure Custody where
  lifecycles : Named Lifecycle := []
  /-- The lifecycle of each attempt that is not complete. -/
  attempts : Named String := []
  /-- The lifecycle of each guard. -/
  guards : Named String := []
  /-- What the thread was marked with before each open scope. -/
  scopes : Named (Option String) := []
  /-- The lifecycle whose callback the thread is in. -/
  mark : Option String := none
  deriving DecidableEq, Inhabited

namespace Custody

inductive Act where
  | begin (attempt : String)
  | guard (attempt guard : String)
  | succeeded (attempt : String)
  | failed (attempt : String)
  | abandon (attempt : String)
  | exit (guard : String)
  | enter (scope : String)
  | leave (scope : String)
  | fault
  | requestStop
  | stop
  | wait
  | restart
  | ensureUsable
  | ensureIdle (operation : String)
  | look

inductive Answer where
  | ok
  | error (cause : SessionError)
  | verdict (v : Verdict)

def Answer.ofExcept : Except SessionError Unit → Answer
  | .ok () => ok
  | .error cause => error cause

/-- The lifecycle with a name; a new one if the name is new. -/
def lifecycle (c : Custody) (name : String) : Lifecycle := (c.lifecycles.get? name).getD .new

def setLifecycle (c : Custody) (name : String) (l : Lifecycle) : Custody :=
  { c with lifecycles := c.lifecycles.put name l }

def modifyLifecycle (c : Custody) (name : String) (f : Lifecycle → Lifecycle) : Custody :=
  c.setLifecycle name (f (c.lifecycle name))

def finish (c : Custody) (attempt : String) (ok : Bool) : Custody :=
  match c.attempts.get? attempt with
  | none => c
  | some name =>
    { c with attempts := c.attempts.erase attempt }.modifyLifecycle name (·.finishStart ok)

def dropGuard (c : Custody) (guard : String) : Custody :=
  match c.guards.get? guard with
  | none => c
  | some name => { c with guards := c.guards.erase guard }.modifyLifecycle name (·.loopExited)

def leave (c : Custody) (scope : String) : Custody :=
  match c.scopes.get? scope with
  | none => c
  | some before => { c with scopes := c.scopes.erase scope, mark := before }

def enter (c : Custody) (name scope : String) : Custody :=
  let before := c.mark
  let c := { c with mark := some name }.leave scope
  { c with scopes := c.scopes.put scope before }

/-- Whether the thread is in a callback of the lifecycle. -/
def onDelivery (c : Custody) (name : String) : Bool := delivers c.mark name

/-- Acts on the lifecycle `name`. As nothing else happens, a wait that has to wait is over at once. -/
def act (c : Custody) (name : String) (a : Act) : Answer × Custody :=
  let l := c.lifecycle name
  let c := c.setLifecycle name l
  match a with
  | .begin attempt =>
    match l.beginStart with
    | .error cause => (.error cause, c)
    | .ok l =>
      let c := (c.setLifecycle name l).finish attempt false
      (.ok, { c with attempts := c.attempts.put attempt name })
  | .guard attempt guard =>
    match c.attempts.get? attempt with
    | none => (.ok, c)
    | some name =>
      let c := c.dropGuard guard
      (.ok, { c with guards := c.guards.put guard name })
  | .succeeded attempt => (.ok, c.finish attempt true)
  | .failed attempt | .abandon attempt => (.ok, c.finish attempt false)
  | .exit guard => (.ok, c.dropGuard guard)
  | .enter scope => (.ok, c.enter name scope)
  | .leave scope => (.ok, c.leave scope)
  | .fault => (.ok, c.setLifecycle name l.fault)
  | .requestStop => (.ok, c.setLifecycle name l.requestStop)
  | .stop =>
    let l := l.requestStop
    (.verdict ((l.atOnce (c.onDelivery name)).getD l.waited), c.setLifecycle name l)
  | .wait => (.verdict ((l.atOnce (c.onDelivery name)).getD l.waited), c)
  | .restart => (.ok, c.setLifecycle name l.noteRestart)
  | .ensureUsable => (.ofExcept l.ensureUsable, c)
  | .ensureIdle operation => (.ofExcept (l.ensureIdle operation), c)
  | .look => (.ok, c)

end Custody

end MarketFeed
