import MarketFeed.Bytes

set_option autoImplicit false

/-!
# UTF-8

Characters as bytes (`encode`), and bytes as characters in two ways: `decode?` refuses a byte
string that is not UTF-8, `decodeLossy` puts one U+FFFD in place of every maximal invalid part.
Both read the same sequence of `units`.
-/

namespace MarketFeed.Utf8

def encode (cs : List Char) : Bytes := cs.flatMap String.utf8EncodeChar

/-- A byte that continues a character. -/
def isContinuation (b : UInt8) : Bool := 0x80 ≤ b && b ≤ 0xBF

/-- The values the second byte of a character may take after the lead byte `lead`: a narrower
range where the full one would admit an overlong form, a surrogate or a number above U+10FFFF. -/
def secondOk (lead b : UInt8) : Bool :=
  if lead == 0xE0 then 0xA0 ≤ b && b ≤ 0xBF
  else if lead == 0xED then 0x80 ≤ b && b ≤ 0x9F
  else if lead == 0xF0 then 0x90 ≤ b && b ≤ 0xBF
  else if lead == 0xF4 then 0x80 ≤ b && b ≤ 0x8F
  else isContinuation b

/-- How many bytes the character that starts with `lead` has; none if no character does. -/
def width? (lead : UInt8) : Option Nat :=
  if lead < 0x80 then some 1
  else if lead < 0xC2 then none
  else if lead < 0xE0 then some 2
  else if lead < 0xF0 then some 3
  else if lead < 0xF5 then some 4
  else none

/-- The six payload bits of a continuation byte. -/
def payload (b : UInt8) : Nat := b.toNat % 64

/-- One unit after its lead byte: the character, or nothing for an invalid part, and the bytes
that follow the unit. An invalid part ends before the first byte that cannot continue it. -/
def unitAfter (lead : UInt8) (rest : Bytes) : Option Char × Bytes :=
  match width? lead with
  | none => (none, rest)
  | some 1 => (some (Char.ofNat lead.toNat), rest)
  | some 2 =>
    match rest with
    | b :: r =>
      if secondOk lead b then (some (Char.ofNat (lead.toNat % 32 * 64 + payload b)), r)
      else (none, rest)
    | [] => (none, [])
  | some 3 =>
    match rest with
    | b :: r =>
      if secondOk lead b then
        match r with
        | c :: r' =>
          if isContinuation c then
            (some (Char.ofNat ((lead.toNat % 16 * 64 + payload b) * 64 + payload c)), r')
          else (none, r)
        | [] => (none, [])
      else (none, rest)
    | [] => (none, [])
  | some _ =>
    match rest with
    | b :: r =>
      if secondOk lead b then
        match r with
        | c :: r' =>
          if isContinuation c then
            match r' with
            | d :: r'' =>
              if isContinuation d then
                (some (Char.ofNat
                  (((lead.toNat % 8 * 64 + payload b) * 64 + payload c) * 64 + payload d)), r'')
              else (none, r')
            | [] => (none, [])
          else (none, r)
        | [] => (none, [])
      else (none, rest)
    | [] => (none, [])

theorem length_unitAfter_le (lead : UInt8) (rest : Bytes) :
    (unitAfter lead rest).2.length ≤ rest.length := by
  unfold unitAfter
  repeat' split
  all_goals simp_all
  all_goals omega

/-- The characters and invalid parts of a byte string, in order. -/
def units : Bytes → List (Option Char)
  | [] => []
  | lead :: rest => (unitAfter lead rest).1 :: units (unitAfter lead rest).2
termination_by bs => bs.length
decreasing_by
  have := length_unitAfter_le lead rest
  simp only [List.length_cons]
  omega

/-- The text of a byte string that is UTF-8. -/
def decode? (bs : Bytes) : Option (List Char) := (units bs).mapM id

/-- The text of a byte string, with one U+FFFD for every maximal invalid part. -/
def decodeLossy (bs : Bytes) : List Char := (units bs).map (·.getD '\uFFFD')

end MarketFeed.Utf8
