import MarketFeed.Boundary.Builder
import MarketFeed.Boundary.Foreign
import MarketFeed.Boundary.LogFilter
import MarketFeed.Boundary.Memory
import MarketFeed.Named
import MarketFeed.Session.Opening

set_option autoImplicit false

/-!
# Rehearsing the boundary

Any number of builders and sessions behind handles, whose callbacks are foreign ones that may make
any call themselves. A failed call leaves a message in the error slot of the thread that made it:
there is the main thread, and each loop of a replay engine has one of its own. The callbacks of a
manual engine run on the thread that delivers.

`World.call` is one call by a caller. It is given the hosts of the sessions, which know how the
callbacks make their calls; `World.perform` ties the knot, with a bound on how deep calls nest.
-/

namespace MarketFeed.Rehearsal

open Boundary

inductive Via where
  | replay
  | manual (stopEnds : Bool)
  | failing (failure : EngineFailure)

/-- A step of the rehearsal, or a call of a callback. Handles are known by names. -/
inductive HandleStep where
  | builderNew (name : String)
  | builderFree (handle : Option String)
  | edit (handle : Option String) (e : Edit)
  | build (handle : Option String) (name : String) (via : Via)
  | sessionFree (handle : Option String)
  | subscribe (handle : Option String) (arguments : SubscribeArguments)
  | start (handle : Option String) (shape : StartShape) (scripts : Scripts HandleStep)
  | reconnect (handle : Option String)
  | resubscribe (handle : Option String)
  | block (handle : Option String)
  | blockTimeout (handle : Option String) (timeout : Nat) (out : Bool)
  | stop (handle : Option String) (timeout : Nat) (out : Bool)
  | state (handle : Option String)
  | stats (handle : Option String) (out : Bool)
  | resolve (handle : Option String) (id : UInt32) (length : Nat) (buffer : Bool)
  | loggingInit (filter : CString)
  | lastError
  | lastErrorElsewhere
  | push (name : String) (event : FeedEvent)
  | pushStream (name : String) (bytes : Bytes)
  | hand (name : String) (d : Handing)
  | inject (name : String) (method : EngineMethod) (failure : EngineFailure)
  | onStart (name : String) (deliveries : List Handing)

inductive Value where
  | void
  | number (n : Int)
  | flag (b : Bool)
  | word (s : String)
  | count (n : Except DecodeError Nat)
  | message (s : Option String)
  deriving Inhabited

/-- What a call leaves in a variable of its caller. -/
inductive Out where
  | number (n : Nat)
  | stats (s : Stats)
  | buffer (bytes : Bytes)

/-- What is seen of a call: what it returns, the error slot after it (if it goes through the
boundary), and what it left with the caller. -/
structure HandleReply where
  value : Value
  slot : Option (Option String) := none
  out : Option Out := none
  deriving Inhabited

inductive Thread where
  /-- A thread of the host program. -/
  | host (number : Nat)
  /-- A delivery thread of a session, which has a new one for each loop. -/
  | loop (session : Nat) (generation : Nat)
  deriving DecidableEq, Inhabited

/-- Who makes a call: the thread, and the session whose callback it is in. -/
structure Caller where
  thread : Thread := .host 0
  inside : Option Nat := none

/-- A session, and how many loops were begun for it. -/
structure Cell where
  scripted : Scripted HandleStep HandleReply
  loops : Nat := 0

def Cell.clearLog (c : Cell) : Cell := { c with scripted := { c.scripted with log := [] } }

structure World where
  registry : Registry := .empty
  connector : Connector := .new none
  /-- Every session that was built, by number. -/
  cells : List Cell := []
  /-- The error slots that are set. -/
  slots : List (Thread × String) := []
  /-- The address that a name stands for. -/
  names : Named Nat := []
  /-- The number of the session that was built under a name. -/
  built : Named Nat := []
  /-- The sessions whose state is shown, with their addresses. -/
  shown : Named Nat := []
  logging : Logging := {}
  /-- What the clock is going to read for each session. -/
  clock : Nat → List UInt64 := fun _ => []

namespace World

/-! ## Parts -/

def cell? (w : World) (number : Nat) : Option Cell := w.cells[number]?

def modifyCell (w : World) (number : Nat) (f : Cell → Cell) : World :=
  { w with cells := w.cells.modify number f }

def slot (w : World) (t : Thread) : Option String := w.slots.lookup t

def setSlot (w : World) (t : Thread) (message : Option String) : World :=
  let others := w.slots.filter (·.1 != t)
  { w with slots := match message with
    | none => others
    | some m => (t, m) :: others }


def noSession : Scripted HandleStep HandleReply := { session := .new {} (.replay (.new {})) }

def scripted (w : World) (number : Nat) : Scripted HandleStep HandleReply :=
  match w.cell? number with
  | some c => c.scripted
  | none => noSession

/-- The thread that the callbacks of a session run on: that of its loop or, if its engine has none,
the one that delivers. -/
def callbackThread (w : World) (number : Nat) (delivering : Thread) : Thread :=
  if (w.scripted number).session.engine.isReplay then
    .loop number (((w.cell? number).map (·.loops)).getD 0)
  else delivering

/-- The pointer that a name stands for. A name that was never given stands for an address where
there never was a handle. -/
def pointer (w : World) (handle : Option String) : Pointer :=
  handle.map fun name => (w.names.get? name).getD 0

def stateCode (w : World) (address : Nat) : Int :=
  match w.registry.session (some address) with
  | .ok number => (w.scripted number).session.state.code
  | .error _ => -1

/-! ## The boundary -/

/-- The failure of a call that did not return normally. -/
def failure (operation : String) : Halt → SessionError
  | .failed e => e
  | .panicked message => .internal operation message

/-- Makes a call behind the boundary: the caller's slot is cleared, and filled if the call fails. -/
def guarded {α : Type} (t : Thread) (operation : String) (body : StateM World (Except Halt α)) :
    StateM World (Except SessionError α) := do
  modify (·.setSlot t none)
  match ← body with
  | .ok a => return .ok a
  | .error halt =>
    let e := failure operation halt
    modify (·.setSlot t (some (withoutNul e.message)))
    return .error e

/-- An operation on the registry, which cannot panic. -/
def onRegistry {α : Type} (op : Registry → Except SessionError α × Registry) :
    StateM World (Except Halt α) := fun w =>
  let (r, registry) := op w.registry
  (r.mapError .failed, { w with registry })

/-- An operation on the session at a pointer, which must be live. -/
def onSession {α : Type} (p : Pointer) (op : Nat → StateM World (Except Halt α)) :
    StateM World (Except Halt α) := do
  match (← get).registry.session p with
  | .error e => return .error (.failed e)
  | .ok number => op number

/-! ## Building -/

/-- Opens a session over an engine, the number of which is that of the session. -/
def connect (w : World) (config : Config) (via : Via) : Except Halt Session × Connector :=
  match via with
  | .replay =>
    let (r, k) := w.connector.open config (w.clock w.cells.length)
    (r.mapError .failed, k)
  | .manual stopEnds =>
    let (r, k) := Session.connect w.connector config (Manual.open stopEnds)
    (r.mapError .failed, k)
  | .failing f =>
    match config.validate with
    | .error e => (.error (.failed e), w.connector)
    | .ok () => (.error f.halt, w.connector)

/-- Builds a session from the builder at a pointer, which is used up by it. Gives the address of the
session and its number. -/
def build (p : Pointer) (via : Via) : StateM World (Except Halt (Nat × Nat)) := fun w =>
  match w.registry.builder p with
  | .error e => (.error (.failed e), w)
  | .ok (_, .consumed) => (.error (.failed .builderConsumed), w)
  | .ok (address, .opened config) =>
    match w.connect config via with
    | (.error halt, connector) => (.error halt, { w with connector })
    | (.ok session, connector) =>
      let number := w.cells.length
      let (sessionAddress, registry) :=
        (w.registry.setBuilder address .consumed).add (.session number)
      (.ok (sessionAddress, number),
        { w with registry, connector, cells := w.cells ++ [⟨{ session }, 0⟩] })

/-! ## Entry points -/

abbrev Hosts := Nat → Host World HandleStep HandleReply

/-- What the host program keeps of a call: which handles it has, under which names. -/
inductive Note where
  | nothing
  | builder (name : String) (address : Nat)
  | session (name : String) (address number : Nat)
  | freed (name : String)

def note (w : World) : Note → World
  | .nothing => w
  | .builder name address => { w with names := w.names.put name address }
  | .session name address number =>
    { w with
      names := w.names.put name address
      built := w.built.put name number
      shown := w.shown.put name address }
  | .freed name => { w with shown := w.shown.erase name }

/-- What a call comes to that succeeds. -/
structure Success where
  value : Value
  out : Option Out := none
  note : Note := .nothing

/-- A function of the boundary with its arguments. -/
structure EntryPoint where
  operation : String
  body : StateM World (Except Halt Success)
  /-- What is returned on a failure. -/
  failed : SessionError → Value
  /-- What is in the variables of the caller if nothing is written. -/
  untouched : Option Out := none
  /-- What other threads do once the call has succeeded. -/
  afterwards : StateM World Unit := pure ()

namespace EntryPoint

/-- A body with what its result comes to. -/
def giving {α : Type} (body : StateM World (Except Halt α)) (f : α → Success) :
    StateM World (Except Halt Success) := return (← body).map f

/-- A call that returns a status. -/
def status {α : Type} (operation : String) (body : StateM World (Except Halt α))
    (out : α → Option Out := fun _ => none) (untouched : Option Out := none) : EntryPoint where
  operation := operation
  body := giving body fun a => { value := .number 0, out := out a }
  failed e := .number e.status
  untouched := untouched

/-- A call that returns a number that is not negative, or a status. -/
def number {α : Type} (operation : String) (body : StateM World (Except Halt α)) (value : α → Nat)
    (out : α → Option Out := fun _ => none) (untouched : Option Out := none) : EntryPoint where
  operation := operation
  body := giving body fun a => { value := .number (value a), out := out a }
  failed e := .number e.status
  untouched := untouched

/-- A call that returns a handle. -/
def handle {α : Type} (operation : String) (body : StateM World (Except Halt α))
    (note : α → Note) : EntryPoint where
  operation := operation
  body := giving body fun a => { value := .flag true, note := note a }
  failed _ := .flag false

/-- A call that returns nothing. -/
def void {α : Type} (operation : String) (body : StateM World (Except Halt α))
    (note : Note := .nothing) : EntryPoint where
  operation := operation
  body := giving body fun _ => { value := .void, note }
  failed _ := .void

end EntryPoint

def reply (t : Thread) (value : Value) (out : Option Out := none) : StateM World HandleReply :=
  return ⟨value, some ((← get).slot t), out⟩

/-- A call by way of an entry point. -/
def enter (t : Thread) (e : EntryPoint) : StateM World HandleReply := do
  match ← guarded t e.operation e.body with
  | .ok s =>
    modify (·.note s.note)
    let said ← reply t s.value s.out
    e.afterwards
    return said
  | .error cause => reply t (e.failed cause) e.untouched

/-! ## Bodies -/

def operate (hosts : Hosts) (op : Session → Except Halt Unit × Session) (number : Nat) :
    StateM World (Except Halt Unit) := (hosts number).operate op

def subscribe (hosts : Hosts) (arguments : SubscribeArguments) (number : Nat) :
    StateM World (Except Halt Unit) :=
  match arguments.subscription with
  | .error e => return .error (.failed e)
  | .ok s => operate hosts (·.subscribe s) number

/-- Starts a loop, on a new thread if the engine has one. -/
def start (hosts : Hosts) (shape : StartShape) (scripts : Scripts HandleStep) (number : Nat) :
    StateM World (Except Halt Unit) := do
  match shape.callbacks scripts with
  | .error e => return .error (.failed e)
  | .ok scripts =>
    let r ← (hosts number).start scripts.contained
    if r.isOk then modify (·.modifyCell number fun c => { c with loops := c.loops + 1 })
    return r

def settleAt (hosts : Hosts) (p : Pointer) : StateM World Unit := do
  match (← get).registry.session p with
  | .ok number => (hosts number).settle
  | .error _ => return

/-- Waits, for a result that must be wanted. -/
def blockTimeout (hosts : Hosts) (timeout : Nat) (out : Bool) (number : Nat) :
    StateM World (Except Halt Verdict) := do
  if !out then return .error (.failed (.nullArgument "result"))
  return .ok (← (hosts number).wait (some timeout))

def stats (out : Bool) (number : Nat) : StateM World (Except Halt Stats) := do
  if out then return .ok ((← get).scripted number).session.stats
  else return .error (.failed (.nullArgument "out"))

/-- The bytes of a symbol; none where there is no symbol. A null buffer must be empty. -/
def resolve (id : UInt32) (length : Nat) (buffer : Bool) (number : Nat) :
    StateM World (Except Halt Bytes) := do
  if !buffer && length != 0 then return .error (.failed (.nullArgument "buffer"))
  else
    let symbol := ((← get).scripted number).session.resolve id
    return .ok (Utf8.encode (symbol.getD "").toList)

/-- Frees the session at a pointer; null is left alone. It is no handle any more when its release
begins. -/
def free (hosts : Hosts) (p : Pointer) : StateM World (Except Halt Unit) := do
  match p with
  | none => return .ok ()
  | some address =>
    match (← get).registry.session p with
    | .error e => return .error (.failed e)
    | .ok number =>
      modify fun w => { w with registry := w.registry.remove address }
      (hosts number).release

/-- Frees the builder at a pointer; null is left alone. -/
def freeBuilder (r : Registry) (p : Pointer) : Except SessionError Unit × Registry :=
  match p with
  | none => (.ok (), r)
  | some _ =>
    match r.builder p with
    | .error e => (.error e, r)
    | .ok (address, _) => (.ok (), r.remove address)

/-- Registers a builder with nothing set. -/
def newBuilder (r : Registry) : Except SessionError Nat × Registry :=
  let (address, r) := r.add (.builder (.opened {}))
  (.ok address, r)

/-- Sets up the logger of the process. -/
def initLogging (filter : CString) : StateM World (Except Halt Unit) := fun w =>
  match filterText filter with
  | .error e => (.error (.failed e), w)
  | .ok filter =>
    let (r, logging) := w.logging.init filter
    (r, { w with logging })

theorem initLogging_snd (filter : CString) (w : World) :
    ∃ logging, (initLogging filter w).2 = { w with logging } := by
  unfold initLogging
  split
  · exact ⟨w.logging, rfl⟩
  · exact ⟨_, rfl⟩

theorem initLogging_error {filter : CString} {w w' : World} {halt : Halt}
    (h : initLogging filter w = (.error halt, w')) : w' = w := by
  unfold initLogging at h
  split at h
  · cases h
    rfl
  · rename_i filter _
    cases hi : w.logging.init filter with
    | mk r logging =>
    rw [hi] at h
    cases h
    rw [Logging.init_error hi]

/-! ## Calls -/

/-- The word 77 stands in a result variable that was not written. -/
def unwritten : Nat := 77

def fillByte : UInt8 := 0xAA

/-- The entry point by which a step crosses the boundary, if it does. -/
def entryPoint? (hosts : Hosts) (w : World) : HandleStep → Option EntryPoint
  | .builderNew name => some <|
    .handle "fb_builder_new" (onRegistry newBuilder) fun address => .builder name address
  | .builderFree handle => some <|
    .void "fb_builder_free" (onRegistry fun r => freeBuilder r (w.pointer handle))
  | .edit handle e => some <|
    .status e.operation (onRegistry fun r => edit r (w.pointer handle) e)
  | .build handle name via => some <|
    .handle "fb_builder_build" (build (w.pointer handle) via)
      fun built => .session name built.1 built.2
  | .sessionFree handle => some <|
    .void "fb_session_free" (free hosts (w.pointer handle)) (handle.elim .nothing .freed)
  | .subscribe handle arguments => some <|
    .status arguments.operation (onSession (w.pointer handle) (subscribe hosts arguments))
  | .start handle shape scripts => some
    { EntryPoint.status shape.operation
        (onSession (w.pointer handle) (start hosts shape scripts)) with
      afterwards := settleAt hosts (w.pointer handle) }
  | .reconnect handle => some <|
    .status "fb_session_reconnect" (onSession (w.pointer handle) (operate hosts (·.reconnect)))
  | .resubscribe handle => some <|
    .status "fb_session_resubscribe" (onSession (w.pointer handle) (operate hosts (·.resubscribe)))
  | .block handle => some <|
    .status "fb_session_block_for_stop" (onSession (w.pointer handle)
      fun number => return .ok (← (hosts number).wait none))
  | .blockTimeout handle timeout out => some <|
    .status "fb_session_block_for_stop_with_timeout"
      (onSession (w.pointer handle) (blockTimeout hosts timeout out))
      (fun v => some (.number v.code)) (some (.number unwritten))
  | .stop handle timeout out => some <|
    .status "fb_session_stop"
      (onSession (w.pointer handle) fun number => (hosts number).stop (some timeout))
      (fun v => some (.number (if out then v.code else unwritten))) (some (.number unwritten))
  | .state handle => some <|
    .number "fb_session_state" (onSession (w.pointer handle)
      fun number => return .ok ((← get).scripted number).session.state) (·.code)
  | .stats handle out => some <|
    .status "fb_session_stats" (onSession (w.pointer handle) (stats out))
      (fun s => some (.stats s)) (some (.stats {}))
  | .resolve handle id length buffer =>
    let before := List.replicate length fillByte
    some <| .number "fb_session_resolve_symbol"
      (onSession (w.pointer handle) (resolve id length buffer)) (min ·.length 0x7FFFFFFF)
      (fun symbol => some (.buffer (if buffer then copyOut symbol before else before)))
      (some (.buffer before))
  | .loggingInit filter => some <|
    .status "fb_logging_init" (initLogging filter)
  | .lastError | .lastErrorElsewhere | .push .. | .pushStream .. | .hand .. | .inject ..
  | .onStart .. => none

/-- An operation on the engine of the session that was built under a name, followed by whatever its
loop does then. -/
def onEngine (hosts : Hosts) (name : String) (missing : Value)
    (op : Host World HandleStep HandleReply → StateM World Value) : StateM World HandleReply := do
  match (← get).built.get? name with
  | none => return ⟨missing, none, none⟩
  | some number =>
    let value ← op (hosts number)
    (hosts number).settle
    return ⟨value, none, none⟩

/-- A step that is no call which can fail: a look at an error slot, or something the feed of a
session or the holder of its engine does. -/
def aside (hosts : Hosts) (t : Thread) : HandleStep → StateM World HandleReply
  | .lastErrorElsewhere => reply t (.message none)
  | .push name event =>
    onEngine hosts name (.flag false) fun h => return .flag (← h.operate (·.push event))
  | .pushStream name bytes =>
    onEngine hosts name (.flag false) fun h => return .count (← h.operate (·.pushStream bytes))
  | .hand name d => onEngine hosts name (.word "no loop") fun h => return .word (← h.hand d)
  | .inject name method failure =>
    onEngine hosts name (.word "ok") fun h =>
      h.operate fun s => (.word "ok", s.modifyManual (·.inject method failure))
  | .onStart name deliveries =>
    onEngine hosts name (.word "ok") fun h =>
      h.operate fun s => (.word "ok", s.modifyManual ({ · with onStart := deliveries }))
  -- the error slot itself is asked for; it is part of every reply
  | _ => reply t .void

def call (hosts : Hosts) (t : Thread) (step : HandleStep) : StateM World HandleReply := do
  match entryPoint? hosts (← get) step with
  | some e => enter t e
  | none => aside hosts t step

/-! ## Nesting -/

/-- The hosts for a caller. The callbacks of a session are inside of it. -/
def hosts (perform : Caller → HandleStep → StateM World HandleReply) (budget : Nat) (c : Caller) :
    Hosts := fun number => {
  view := (·.scripted number)
  update := fun x w => w.modifyCell number ({ · with scripted := x })
  perform := fun step => do
    perform ⟨(← get).callbackThread number c.thread, some number⟩ step
  delivering := delivers c.inside number
  fuel := budget }

/-- A call whose callbacks may call in turn, as deep as the second number says. -/
def perform (budget : Nat) : Nat → Caller → HandleStep → StateM World HandleReply
  | 0, _, _ => return default
  | depth + 1, c, step => call (hosts (perform budget depth) budget c) c.thread step

end World

/-! ## Whole rehearsals -/

mutual

/-- How many calls and events a step may come to, itself included. -/
def HandleStep.weight : HandleStep → Nat
  | .start _ _ scripts => 1 + scriptsWeight scripts
  | .pushStream _ bytes => 1 + bytes.length
  | _ => 1

def scriptsWeight : Scripts HandleStep → Nat
  | ⟨record, event, metadata, exception⟩ =>
    scriptWeight record + scriptWeight event + scriptWeight metadata + scriptWeight exception

def scriptWeight : Option (List (Action HandleStep)) → Nat
  | none => 0
  | some actions => actionsWeight actions

def actionsWeight : List (Action HandleStep) → Nat
  | [] => 0
  | a :: as => actionWeight a + actionsWeight as

def actionWeight : Action HandleStep → Nat
  | ⟨call, _⟩ => 1 + callWeight call

def callWeight : Option HandleStep → Nat
  | none => 0
  | some step => step.weight

end

namespace World

/-- What is seen of a step: the reply, what the callbacks of each session did, and the states of the
sessions that were not freed. -/
structure Seen where
  reply : HandleReply
  logs : List (String × List (Entry HandleReply))
  states : List (String × Int)

def see (budget : Nat) (step : HandleStep) : StateM World Seen := do
  let reply ← perform budget budget {} step
  let w ← get
  let logs := w.built.map fun (name, number) => (name, (w.scripted number).log)
  set { w with cells := w.cells.map Cell.clearLog }
  return ⟨reply, logs.filter (!·.2.isEmpty), w.shown.map fun (name, a) => (name, w.stateCode a)⟩

def play (steps : List HandleStep) (clock : Nat → List UInt64 := fun _ => []) : List Seen :=
  let budget := 8 * (steps.foldl (fun n s => n + s.weight) 8)
  ((steps.mapM (see budget)).run { logging := LogFilter.logging, clock }).1

end World

end MarketFeed.Rehearsal
