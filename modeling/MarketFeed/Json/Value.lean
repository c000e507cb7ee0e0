set_option autoImplicit false

/-!
# JSON values

A document as it is written: members keep their order and may repeat, and a number keeps apart the
integers from all other spellings. A string literal whose escapes name half of a surrogate pair
stands for no text, so a literal is an `Option String`.
-/

namespace MarketFeed

/-- The text of a string literal; none if its escapes leave a surrogate unpaired. -/
abbrev Literal := Option String

inductive Json where
  | null
  | bool (b : Bool)
  /-- A number written as an integer. -/
  | int (n : Int)
  /-- A number with a fraction or an exponent, or minus zero, as it is spelt. -/
  | real (spelling : List Char)
  | str (s : Literal)
  | arr (items : List Json)
  | obj (members : List (Literal × Json))
  deriving Inhabited

namespace Json

def text (s : String) : Json := .str (some s)

def object (members : List (String × Json)) : Json :=
  .obj (members.map fun (k, v) => (some k, v))

def nat (n : Nat) : Json := .int n

def orNull {α : Type} (f : α → Json) : Option α → Json
  | none => .null
  | some a => f a

def members? : Json → Option (List (Literal × Json))
  | .obj ms => some ms
  | _ => none

/-- The first member called `name`. -/
def get? (j : Json) (name : String) : Option Json :=
  match j with
  | .obj ms => (ms.find? fun m => m.1 == some name).map (·.2)
  | _ => none

end Json

end MarketFeed
