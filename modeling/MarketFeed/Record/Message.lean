import MarketFeed.Record.Header
import MarketFeed.Text.FixedField

set_option autoImplicit false

/-!
# Messages

The five kinds of record whose body has fields. `Body.bytes` writes a body and `Kind.scan` reads
one; both go through the fields in the order of the layout, so an offset is never written down.
A body is `Kind.size - 16` bytes long. A status does not use the last of them: they are written as
zero and not read.
-/

namespace MarketFeed

/-- The byte of a one-byte character field; a character outside ASCII becomes NUL. -/
def charByte (c : Char) : UInt8 := if c.toNat < 128 then c.toNat.toUInt8 else 0

def byteChar (b : UInt8) : Char := Char.ofNat b.toNat

/-- A code the gateway did not provide. -/
def undefinedCode : UInt8 := 255

/-! ## Bodies -/

/-- An execution. The price carries nine implied decimals. -/
structure Trade where
  price : Int64
  size : UInt32
  action : Char
  side : Char
  flags : UInt8
  depth : UInt8
  tsRecv : UInt64
  tsInDelta : Int32
  sequence : UInt32
  deriving DecidableEq, Inhabited

structure TradingStatus where
  tsRecv : UInt64
  action : UInt16
  reason : UInt16
  tradingEvent : UInt16
  isTrading : Char
  isQuoting : Char
  isShortSellRestricted : Char
  deriving DecidableEq, Inhabited

structure GatewayError where
  err : String
  code : UInt8
  isLast : UInt8
  deriving DecidableEq, Inhabited

/-- Which symbols an instrument has from `startTs` to `endTs`. -/
structure SymbolMapping where
  stypeIn : UInt8
  symbolIn : String
  stypeOut : UInt8
  symbolOut : String
  startTs : UInt64
  endTs : UInt64
  deriving DecidableEq, Inhabited

/-- A notice of the gateway, heartbeats among them. -/
structure SystemNotice where
  msg : String
  code : UInt8
  deriving DecidableEq, Inhabited

/-- The kinds of record whose body has fields. -/
inductive Kind where
  | trade | status | error | mapping | system
  deriving DecidableEq, Inhabited

inductive Body where
  | trade (t : Trade)
  | status (s : TradingStatus)
  | error (e : GatewayError)
  | mapping (m : SymbolMapping)
  | system (s : SystemNotice)
  deriving DecidableEq, Inhabited

structure Message where
  header : Header
  body : Body
  deriving DecidableEq, Inhabited

namespace Kind

def all : List Kind := [trade, status, error, mapping, system]

def recordType : Kind → RecordType
  | trade => .mbp0 | status => .status | error => .error | mapping => .symbolMapping
  | system => .system

def tag (k : Kind) : UInt8 := k.recordType.tag

/-- The size of the kind's records in bytes, header included. -/
def size : Kind → Nat
  | trade => 48 | status => 40 | error => 320 | mapping => 176 | system => 320

/-- How many bytes at the end of a body are not used. -/
def unused : Kind → Nat
  | status => 7
  | trade | error | mapping | system => 0

def ofTag? (b : UInt8) : Option Kind := all.find? (·.tag == b)

end Kind

def symbolWidth : Nat := 71

def errorTextWidth : Nat := 302

def systemTextWidth : Nat := 303

/-! ## Layouts -/

namespace Scan

def char : Scan Char := return byteChar (← u8)

def text (width : Nat) : Scan String := return FixedField.read (← take width)

end Scan

namespace Trade

def bytes (t : Trade) : Bytes :=
  i64Bytes t.price ++ u32Bytes t.size ++ [charByte t.action, charByte t.side, t.flags, t.depth] ++
    u64Bytes t.tsRecv ++ i32Bytes t.tsInDelta ++ u32Bytes t.sequence

def scan : Scan Trade := do
  let price ← Scan.i64
  let size ← Scan.u32
  let action ← Scan.char
  let side ← Scan.char
  let flags ← Scan.u8
  let depth ← Scan.u8
  let tsRecv ← Scan.u64
  let tsInDelta ← Scan.i32
  let sequence ← Scan.u32
  return ⟨price, size, action, side, flags, depth, tsRecv, tsInDelta, sequence⟩

end Trade

namespace TradingStatus

def bytes (s : TradingStatus) : Bytes :=
  u64Bytes s.tsRecv ++ u16Bytes s.action ++ u16Bytes s.reason ++ u16Bytes s.tradingEvent ++
    [charByte s.isTrading, charByte s.isQuoting, charByte s.isShortSellRestricted] ++
    List.replicate Kind.status.unused 0

def scan : Scan TradingStatus := do
  let tsRecv ← Scan.u64
  let action ← Scan.u16
  let reason ← Scan.u16
  let tradingEvent ← Scan.u16
  let isTrading ← Scan.char
  let isQuoting ← Scan.char
  let isShortSellRestricted ← Scan.char
  return ⟨tsRecv, action, reason, tradingEvent, isTrading, isQuoting, isShortSellRestricted⟩

end TradingStatus

namespace GatewayError

def bytes (e : GatewayError) : Bytes :=
  FixedField.write errorTextWidth e.err ++ [e.code, e.isLast]

def scan : Scan GatewayError := do
  let err ← Scan.text errorTextWidth
  let code ← Scan.u8
  let isLast ← Scan.u8
  return ⟨err, code, isLast⟩

end GatewayError

namespace SymbolMapping

def bytes (m : SymbolMapping) : Bytes :=
  [m.stypeIn] ++ FixedField.write symbolWidth m.symbolIn ++ [m.stypeOut] ++
    FixedField.write symbolWidth m.symbolOut ++ u64Bytes m.startTs ++ u64Bytes m.endTs

def scan : Scan SymbolMapping := do
  let stypeIn ← Scan.u8
  let symbolIn ← Scan.text symbolWidth
  let stypeOut ← Scan.u8
  let symbolOut ← Scan.text symbolWidth
  let startTs ← Scan.u64
  let endTs ← Scan.u64
  return ⟨stypeIn, symbolIn, stypeOut, symbolOut, startTs, endTs⟩

end SymbolMapping

namespace SystemNotice

def bytes (s : SystemNotice) : Bytes := FixedField.write systemTextWidth s.msg ++ [s.code]

def scan : Scan SystemNotice := do
  let msg ← Scan.text systemTextWidth
  let code ← Scan.u8
  return ⟨msg, code⟩

/-- Code zero marks a heartbeat; a gateway that leaves the code unset marks it in the text. -/
def isHeartbeat (s : SystemNotice) : Bool :=
  if s.code = undefinedCode then "Heartbeat".toList.isPrefixOf s.msg.toList else s.code = 0

end SystemNotice

namespace Body

def kind : Body → Kind
  | trade _ => .trade
  | status _ => .status
  | error _ => .error
  | mapping _ => .mapping
  | system _ => .system

def bytes : Body → Bytes
  | trade t => t.bytes
  | status s => s.bytes
  | error e => e.bytes
  | mapping m => m.bytes
  | system s => s.bytes

end Body

def Kind.scan : Kind → Scan Body
  | .trade => return .trade (← Trade.scan)
  | .status => return .status (← TradingStatus.scan)
  | .error => return .error (← GatewayError.scan)
  | .mapping => return .mapping (← SymbolMapping.scan)
  | .system => return .system (← SystemNotice.scan)

namespace Message

/-- The header a message is written with: the length and the tag are those of its kind. -/
def wireHeader (m : Message) : Header :=
  { m.header with length := (m.body.kind.size / 4).toUInt8, rtype := m.body.kind.tag }

def encode (m : Message) : Bytes := m.wireHeader.bytes ++ m.body.bytes

end Message

/-! ## JSON -/

namespace Json

def char (c : Char) : Json := .text (String.singleton c)

end Json

def Body.members : Body → List (String × Json)
  | .trade t =>
    [("price", .int t.price.toInt), ("size", .nat t.size.toNat), ("action", .char t.action),
      ("side", .char t.side), ("flags", .nat t.flags.toNat), ("depth", .nat t.depth.toNat),
      ("ts_recv", .nat t.tsRecv.toNat), ("ts_in_delta", .int t.tsInDelta.toInt),
      ("sequence", .nat t.sequence.toNat)]
  | .status s =>
    [("ts_recv", .nat s.tsRecv.toNat), ("action", .nat s.action.toNat),
      ("reason", .nat s.reason.toNat), ("trading_event", .nat s.tradingEvent.toNat),
      ("is_trading", .char s.isTrading), ("is_quoting", .char s.isQuoting),
      ("is_short_sell_restricted", .char s.isShortSellRestricted)]
  | .error e =>
    [("err", .text e.err), ("code", .nat e.code.toNat), ("is_last", .nat e.isLast.toNat)]
  | .mapping m =>
    [("stype_in", .nat m.stypeIn.toNat), ("stype_in_symbol", .text m.symbolIn),
      ("stype_out", .nat m.stypeOut.toNat), ("stype_out_symbol", .text m.symbolOut),
      ("start_ts", .nat m.startTs.toNat), ("end_ts", .nat m.endTs.toNat)]
  | .system s => [("msg", .text s.msg), ("code", .nat s.code.toNat)]

/-- A message as an object: its header, then the fields of its body. -/
def Message.json (m : Message) : Json := .object (("hd", m.header.json) :: m.body.members)

end MarketFeed
