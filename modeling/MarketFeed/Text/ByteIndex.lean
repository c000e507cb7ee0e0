import MarketFeed.Text.Quoted

set_option autoImplicit false

/-!
# Byte indices

A place in a text given by the number of UTF-8 bytes before it. A slice between two such places
exists only if neither of them is inside of a character.
-/

namespace MarketFeed

/-- A place that is inside of a character. -/
structure Misplaced where
  /-- Which end of a slice was to be there. -/
  role : String
  index : Nat
  char : Char
  /-- The index of the first byte of the character. -/
  first : Nat
  deriving DecidableEq, Inhabited

namespace Misplaced

def message (m : Misplaced) : String :=
  m.role ++ " byte index " ++ toString m.index ++ " is not a char boundary; it is inside '" ++
    String.ofList (Quoted.escape m.char) ++ "' (bytes " ++ toString m.first ++ ".." ++
    toString (m.first + m.char.utf8Size) ++ " of string)"

end Misplaced

namespace ByteIndex

/-- The characters of a text that starts at the byte `i`, each with its index. -/
def indexed (i : Nat) : List Char → List (Nat × Char)
  | [] => []
  | c :: cs => (i, c) :: indexed (i + c.utf8Size) cs

/-- Fails if a place is inside of a character. -/
def check (role : String) (cs : List Char) (i : Nat) : Except Misplaced Unit :=
  match (indexed 0 cs).find? fun (first, c) => first < i && i < first + c.utf8Size with
  | some (first, c) => .error ⟨role, i, c, first⟩
  | none => .ok ()

def slice (cs : List Char) (start stop : Nat) : Except Misplaced (List Char) := do
  check "start" cs start
  check "end" cs stop
  return ((indexed 0 cs).filter fun (i, _) => start ≤ i && i < stop).map (·.2)

def sliceFrom (cs : List Char) (start : Nat) : Except Misplaced (List Char) := do
  check "start" cs start
  return ((indexed 0 cs).filter fun (i, _) => start ≤ i).map (·.2)

end ByteIndex

end MarketFeed
