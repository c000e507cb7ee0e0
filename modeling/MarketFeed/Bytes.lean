set_option autoImplicit false

/-!
# Little-endian bytes

An unsigned number of a fixed width as bytes, least significant first (`LittleEndian.bytes`), and
the number a byte string stands for (`LittleEndian.value`). `Scan` reads a byte string from the
front: a scan that wants more bytes than there are fails, so a successful scan has looked at no
byte outside its input.
-/

namespace MarketFeed

abbrev Bytes := List UInt8

namespace LittleEndian

/-- The `width` low bytes of `v`, least significant first. -/
def bytes : Nat → Nat → Bytes
  | 0, _ => []
  | width + 1, v => UInt8.ofNat v :: bytes width (v / 256)

/-- The number whose little-endian bytes are given. -/
def value : Bytes → Nat
  | [] => 0
  | b :: bs => b.toNat + 256 * value bs

@[simp] theorem length_bytes (width v : Nat) : (bytes width v).length = width := by
  induction width generalizing v with
  | zero => rfl
  | succ n ih => simp [bytes, ih]

end LittleEndian

/-- A reader that takes bytes from the front of its input. -/
abbrev Scan := StateT Bytes Option

namespace Scan

def take (n : Nat) : Scan Bytes := fun bs =>
  if n ≤ bs.length then some (bs.take n, bs.drop n) else none

def u8 : Scan UInt8 := fun
  | [] => none
  | b :: bs => some (b, bs)

def u16 : Scan UInt16 := return UInt16.ofNat (LittleEndian.value (← take 2))

def u32 : Scan UInt32 := return UInt32.ofNat (LittleEndian.value (← take 4))

def u64 : Scan UInt64 := return UInt64.ofNat (LittleEndian.value (← take 8))

def i32 : Scan Int32 := return (← u32).toInt32

def i64 : Scan Int64 := return (← u64).toInt64

end Scan

/-! ## Writing words -/

def u16Bytes (v : UInt16) : Bytes := LittleEndian.bytes 2 v.toNat

def u32Bytes (v : UInt32) : Bytes := LittleEndian.bytes 4 v.toNat

def u64Bytes (v : UInt64) : Bytes := LittleEndian.bytes 8 v.toNat

def i32Bytes (v : Int32) : Bytes := u32Bytes v.toUInt32

def i64Bytes (v : Int64) : Bytes := u64Bytes v.toUInt64

/-! ## Hexadecimal -/

/-- The lower-case hexadecimal digit of a number below 16. -/
def hexDigit (n : Nat) : Char :=
  if n < 10 then Char.ofNat (48 + n) else Char.ofNat (87 + n)

/-- A byte as two lower-case hexadecimal digits. -/
def hexByte (b : UInt8) : List Char := [hexDigit (b.toNat / 16), hexDigit (b.toNat % 16)]

end MarketFeed
