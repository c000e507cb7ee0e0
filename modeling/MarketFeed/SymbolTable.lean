import MarketFeed.Named

set_option autoImplicit false

/-!
# Symbol tables

Which symbol an instrument has now: the latest that was entered for it.
-/

namespace MarketFeed

/-- Instruments with their symbols, each instrument once. -/
structure SymbolTable where
  entries : List (UInt32 × String)
  deriving DecidableEq, Inhabited

namespace SymbolTable

def empty : SymbolTable := ⟨[]⟩

/-- Enters a symbol in place of any earlier one of the instrument. -/
def insert (t : SymbolTable) (id : UInt32) (symbol : String) : SymbolTable :=
  ⟨(id, symbol) :: t.entries.filter (·.1 != id)⟩

def get? (t : SymbolTable) (id : UInt32) : Option String := t.entries.lookup id

/-- The symbol of an instrument, empty if it has none. -/
def resolve (t : SymbolTable) (id : UInt32) : String := (t.get? id).getD ""

def size (t : SymbolTable) : Nat := t.entries.length

@[simp] theorem get?_empty (id : UInt32) : empty.get? id = none := rfl

theorem get?_insert (t : SymbolTable) (id : UInt32) (symbol : String) (other : UInt32) :
    (t.insert id symbol).get? other = if other = id then some symbol else t.get? other := by
  by_cases h : other = id
  · simp [insert, get?, h]
  · have hne : (other == id) = false := by simpa using h
    simp [insert, get?, List.lookup_cons, hne, lookup_filter_ne h, h]

end SymbolTable

end MarketFeed
