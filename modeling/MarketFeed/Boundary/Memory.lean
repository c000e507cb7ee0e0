import MarketFeed.Bytes

set_option autoImplicit false

/-!
# Buffers of a caller

What a caller gives is not a list of bytes but an address and a length. A symbol is copied into the
memory at that address (`Memory.copySymbol`): the bytes for which there is room, and behind them a
NUL. `copyOut` is what stands in a buffer afterwards.
-/

namespace MarketFeed

/-- A byte at every address. -/
abbrev Memory := Nat → UInt8

namespace Memory

/-- The memory after bytes were written from an address on. -/
def write (m : Memory) (a : Nat) (bs : Bytes) : Memory :=
  fun i => if a ≤ i then bs.getD (i - a) (m i) else m i

/-- What stands at the addresses from `a` on. -/
def window (m : Memory) (a length : Nat) : Bytes := (List.range length).map fun i => m (a + i)

/-- How much of a symbol is kept in a buffer: all of it, if there is room for a NUL behind it. -/
def kept (symbol : Bytes) (length : Nat) : Nat := min symbol.length (length - 1)

/-- The memory after a symbol was copied into a buffer, with a NUL behind it. Nothing is written
into an empty buffer. -/
def copySymbol (m : Memory) (a length : Nat) (symbol : Bytes) : Memory :=
  if length = 0 then m
  else
    let n := kept symbol length
    (m.write a (symbol.take n)).write (a + n) [0]

end Memory

/-- A buffer after a symbol was copied into it. -/
def Boundary.copyOut (symbol buffer : Bytes) : Bytes :=
  let m : Memory := Memory.write (fun _ => 0) 0 buffer
  (m.copySymbol 0 buffer.length symbol).window 0 buffer.length

end MarketFeed
