import MarketFeed.Codes.Schema
import MarketFeed.Codes.Symbology
import MarketFeed.Error
import MarketFeed.Json.Value
import MarketFeed.Text.Blank

set_option autoImplicit false

/-!
# Subscriptions and metadata

A subscription asks for the records of some symbols. The metadata of a connection tells a session
what it will receive.
-/

namespace MarketFeed

/-- Where a subscription starts to replay from. -/
inductive StartPoint where
  | unixNanos (n : UInt64)
  /-- A time that is left to the gateway to read. -/
  | text (s : String)
  deriving DecidableEq, Inhabited

structure Subscription where
  symbols : List String
  schema : Schema
  stypeIn : Symbology
  start : Option StartPoint := none
  useSnapshot : Bool := false
  deriving DecidableEq, Inhabited

namespace Subscription

/-- A subscription to symbols, of which there must be one and none may be blank. -/
def new (symbols : List String) (schema : Schema) (stypeIn : Symbology) :
    Except SessionError Subscription :=
  if symbols = [] then .error (.invalidArgument "at least one symbol is required")
  else
    match symbols.findIdx? isBlankText with
    | some i =>
      .error (.invalidArgument ("symbol list contains an empty entry at index " ++ toString i))
    | none => .ok { symbols := symbols.map trim, schema, stypeIn }

def startingAt (s : Subscription) (start : StartPoint) : Except SessionError Subscription :=
  match start with
  | .text t =>
    if isBlankText t then .error (.invalidArgument "start time cannot be empty")
    else .ok { s with start := some start }
  | .unixNanos _ => .ok { s with start := some start }

def withSnapshot (s : Subscription) : Subscription := { s with useSnapshot := true }

structure Request where
  symbols : List String
  schema : Schema
  stypeIn : Symbology
  start : Option StartPoint := none
  snapshot : Bool := false

/-- The subscription that is asked for. -/
def ofRequest (r : Request) : Except SessionError Subscription := do
  let s ← new r.symbols r.schema r.stypeIn
  let s ← match r.start with
    | none => .ok s
    | some start => s.startingAt start
  return if r.snapshot then s.withSnapshot else s

end Subscription

/-- What is delivered before the first record of a connection. -/
structure Metadata where
  version : UInt8
  dataset : String
  schema : Option Schema
  /-- When the connection started, in nanoseconds since the UNIX epoch. -/
  start : UInt64
  stypeIn : Option Symbology
  stypeOut : Symbology
  tsOut : Bool
  symbols : List String
  deriving DecidableEq, Inhabited

/-- Metadata without its time. -/
def Metadata.timeless (m : Metadata) : Metadata := { m with start := 0 }

/-- Metadata as an object, with its fields in order. -/
def Metadata.json (m : Metadata) : Json :=
  .object [("version", .nat m.version.toNat), ("dataset", .text m.dataset),
    ("schema", .orNull (fun s => .text s.name) m.schema), ("start", .nat m.start.toNat),
    ("stype_in", .orNull (fun s => .text s.name) m.stypeIn),
    ("stype_out", .text m.stypeOut.name), ("ts_out", .bool m.tsOut),
    ("symbols", .arr (m.symbols.map .text))]

end MarketFeed
