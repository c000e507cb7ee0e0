import MarketFeed.Json.Printer
import MarketFeed.Record.Frame
import MarketFeed.SymbolTable

set_option autoImplicit false

/-!
# Routing records to events

A record of a known kind becomes an event whose text is the message as JSON; a record of any other
type becomes an event that names its tag. A mapping is entered in the symbol table first, a trade
takes its symbol from the table, and a heartbeat makes no event.
-/

namespace MarketFeed

inductive EventKind where
  | mapping | trade | system | error | unknown
  deriving DecidableEq, Inhabited

def EventKind.name : EventKind → String
  | mapping => "mapping" | trade => "trade" | system => "system" | error => "error"
  | unknown => "unknown"

/-- A routed record as an event callback sees it. Only a trade has an instrument and a symbol. -/
structure Event where
  kind : EventKind
  instrumentId : UInt32
  symbol : String
  text : String
  deriving DecidableEq, Inhabited

inductive Routed where
  | event (e : Event)
  | suppressed
  /-- The body could not be read. -/
  | failed (e : DecodeError)
  deriving DecidableEq, Inhabited

namespace Router

/-- The message of a record whose body could not be read. -/
def failureMessage (e : DecodeError) : String := "decode failed: " ++ e.message

/-- The event of a message, with the symbols known when it was routed. -/
def event (symbols : SymbolTable) (m : Message) : Event :=
  let text := m.json.compact
  match m.body with
  | .mapping _ => ⟨.mapping, 0, "", text⟩
  | .trade _ => ⟨.trade, m.header.instrumentId, symbols.resolve m.header.instrumentId, text⟩
  | .system _ => ⟨.system, 0, "", text⟩
  | .status _ => ⟨.system, 0, "", text⟩
  | .error _ => ⟨.error, 0, "", text⟩

def learn (symbols : SymbolTable) (m : Message) : SymbolTable :=
  match m.body with
  | .mapping mapping => symbols.insert m.header.instrumentId mapping.symbolOut
  | _ => symbols

def isHeartbeat (m : Message) : Bool :=
  match m.body with
  | .system s => s.isHeartbeat
  | _ => false

def route (symbols : SymbolTable) (r : Record) : Routed × SymbolTable :=
  match Kind.ofTag? r.header.rtype with
  | none =>
    (.event ⟨.unknown, 0, "", "Unhandled record rtype=" ++ DecodeError.hexTag r.header.rtype⟩,
      symbols)
  | some kind =>
    match r.get kind with
    | .error e => (.failed e, symbols)
    | .ok m =>
      if isHeartbeat m then (.suppressed, symbols)
      else
        let symbols := learn symbols m
        (.event (event symbols m), symbols)

end Router

end MarketFeed
