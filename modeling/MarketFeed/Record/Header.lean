import MarketFeed.Bytes
import MarketFeed.Codes.RecordType
import MarketFeed.Json.Value

set_option autoImplicit false

/-!
# Record headers

A record starts with 16 bytes: its length in words of four bytes, its type tag, the publisher, the
instrument and the time of the event. `Header.bytes` and `Header.scan` write and read them.
-/

namespace MarketFeed

structure Header where
  /-- The length of the whole record in words of four bytes. -/
  length : UInt8
  rtype : UInt8
  publisherId : UInt16
  instrumentId : UInt32
  /-- Nanoseconds since the UNIX epoch. -/
  tsEvent : UInt64
  deriving DecidableEq, Inhabited

namespace Header

def width : Nat := 16

/-- The header of a record that is a header only. -/
def bare (rtype : UInt8) (publisherId : UInt16) (instrumentId : UInt32) (tsEvent : UInt64) :
    Header :=
  ⟨4, rtype, publisherId, instrumentId, tsEvent⟩

/-- The size in bytes that the length declares. -/
def recordSize (h : Header) : Nat := 4 * h.length.toNat

def bytes (h : Header) : Bytes :=
  [h.length, h.rtype] ++ u16Bytes h.publisherId ++ u32Bytes h.instrumentId ++ u64Bytes h.tsEvent

def scan : Scan Header := do
  let length ← Scan.u8
  let rtype ← Scan.u8
  let publisherId ← Scan.u16
  let instrumentId ← Scan.u32
  let tsEvent ← Scan.u64
  return ⟨length, rtype, publisherId, instrumentId, tsEvent⟩

/-- The header in the first 16 bytes of a buffer. -/
def read? (buffer : Bytes) : Option Header := (scan.run buffer).map (·.1)

/-- A buffer with its first 16 bytes replaced by the header. -/
def write (h : Header) (buffer : Bytes) : Bytes := h.bytes ++ buffer.drop width

def json (h : Header) : Json :=
  .object [("length", .nat h.length.toNat), ("rtype", .nat h.rtype.toNat),
    ("publisher_id", .nat h.publisherId.toNat), ("instrument_id", .nat h.instrumentId.toNat),
    ("ts_event", .nat h.tsEvent.toNat)]

end Header

end MarketFeed
