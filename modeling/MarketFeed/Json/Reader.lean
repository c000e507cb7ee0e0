import MarketFeed.Json.Value

set_option autoImplicit false

/-!
# Reading JSON text

Strict JSON: a document is one value with blanks around it. Each reader returns the value and the
characters that follow it. Nesting is bounded only by the length of the text, which is the fuel of
the recursion. The recursion limit of `serde_json`, 128 levels, is not modelled: a value nested
deeper is read here. What is read of a configuration has two levels at most, and what stands under
an unknown name is skipped there without a count of levels.
-/

namespace MarketFeed.Json

def isBlank (c : Char) : Bool := c = ' ' || c = '\n' || c = '\t' || c = '\r'

def skipBlanks (cs : List Char) : List Char := cs.dropWhile isBlank

/-! ## Strings -/

/-- The value of a hexadecimal digit of either case. -/
def hexValue? (c : Char) : Option Nat :=
  if '0' ≤ c ∧ c ≤ '9' then some (c.toNat - 48)
  else if 'a' ≤ c ∧ c ≤ 'f' then some (c.toNat - 87)
  else if 'A' ≤ c ∧ c ≤ 'F' then some (c.toNat - 55)
  else none

/-- The number four hexadecimal digits stand for. -/
def hexFour? (a b c d : Char) : Option Nat := do
  return (((← hexValue? a) * 16 + (← hexValue? b)) * 16 + (← hexValue? c)) * 16 + (← hexValue? d)

/-- What the short escape `\c` stands for. -/
def shortEscape? (c : Char) : Option Nat :=
  if c = '"' then some 34
  else if c = '\\' then some 92
  else if c = '/' then some 47
  else if c = 'b' then some 8
  else if c = 'f' then some 12
  else if c = 'n' then some 10
  else if c = 'r' then some 13
  else if c = 't' then some 9
  else none

/-- The code units of a string up to its closing quote, and the text after the quote. A control
character must be escaped. -/
def readUnits : List Char → Option (List Nat × List Char)
  | [] => none
  | '"' :: rest => some ([], rest)
  | '\\' :: 'u' :: a :: b :: c :: d :: rest => do
    let unit ← hexFour? a b c d
    let (units, rest) ← readUnits rest
    return (unit :: units, rest)
  | '\\' :: c :: rest => do
    let unit ← shortEscape? c
    let (units, rest) ← readUnits rest
    return (unit :: units, rest)
  | c :: rest =>
    if c.toNat < 32 then none
    else do
      let (units, rest) ← readUnits rest
      return (c.toNat :: units, rest)

/-- The characters that code units stand for: two surrogates in the right order are one character,
any other surrogate stands for none. -/
def ofUnits : List Nat → Option (List Char)
  | [] => some []
  | hi :: rest =>
    if 0xD800 ≤ hi ∧ hi < 0xDC00 then
      match rest with
      | lo :: rest' =>
        if 0xDC00 ≤ lo ∧ lo < 0xE000 then
          (ofUnits rest').map (Char.ofNat (0x10000 + (hi - 0xD800) * 1024 + (lo - 0xDC00)) :: ·)
        else none
      | [] => none
    else if 0xDC00 ≤ hi ∧ hi < 0xE000 then none
    else (ofUnits rest).map (Char.ofNat hi :: ·)

/-- A string literal after its opening quote. -/
def readLiteral (cs : List Char) : Option (Literal × List Char) := do
  let (units, rest) ← readUnits cs
  return ((ofUnits units).map String.ofList, rest)

/-! ## Numbers -/

def isDigit (c : Char) : Bool := '0' ≤ c && c ≤ '9'

/-- The number a run of decimal digits stands for. -/
def decimal (cs : List Char) : Nat := cs.foldl (fun n c => 10 * n + (c.toNat - 48)) 0

def readDigits (cs : List Char) : Option (List Char × List Char) :=
  let ds := cs.takeWhile isDigit
  if ds = [] then none else some (ds, cs.dropWhile isDigit)

/-- The digits before the point: no further digit follows a leading zero. -/
def readWhole (cs : List Char) : Option (List Char × List Char) := do
  let (ds, rest) ← readDigits cs
  if ds.head? = some '0' ∧ ds.length ≠ 1 then none else return (ds, rest)

/-- The part from the point on, empty if there is none. -/
def readFraction (cs : List Char) : Option (List Char × List Char) :=
  match cs with
  | '.' :: rest => do
    let (ds, rest) ← readDigits rest
    return ('.' :: ds, rest)
  | _ => some ([], cs)

/-- The exponent, empty if there is none. -/
def readExponent (cs : List Char) : Option (List Char × List Char) :=
  match cs with
  | e :: rest =>
    if e = 'e' ∨ e = 'E' then
      match rest with
      | s :: rest' =>
        if s = '+' ∨ s = '-' then do
          let (ds, rest) ← readDigits rest'
          return (e :: s :: ds, rest)
        else do
          let (ds, rest) ← readDigits rest
          return (e :: ds, rest)
      | [] => none
    else some ([], cs)
  | [] => some ([], [])

/-- A number. Only a whole number that is not minus zero is an integer. -/
def readNumber (cs : List Char) : Option (Json × List Char) := do
  let (sign, cs) := if cs.head? = some '-' then (['-'], cs.drop 1) else ([], cs)
  let (whole, cs) ← readWhole cs
  let (fraction, cs) ← readFraction cs
  let (exponent, cs) ← readExponent cs
  if fraction = [] ∧ exponent = [] then
    if sign = [] then return (.int (decimal whole), cs)
    else if decimal whole = 0 then return (.real (sign ++ whole), cs)
    else return (.int (-decimal whole), cs)
  else return (.real (sign ++ whole ++ fraction ++ exponent), cs)

/-! ## Values -/

/-- The text after `word`, if it starts with it. -/
def expect (word : List Char) (cs : List Char) : Option (List Char) :=
  if word.isPrefixOf cs then some (cs.drop word.length) else none

mutual

def readValue : Nat → List Char → Option (Json × List Char)
  | 0, _ => none
  | fuel + 1, cs =>
    match skipBlanks cs with
    | 'n' :: rest => (expect ['u', 'l', 'l'] rest).map (Json.null, ·)
    | 't' :: rest => (expect ['r', 'u', 'e'] rest).map (Json.bool true, ·)
    | 'f' :: rest => (expect ['a', 'l', 's', 'e'] rest).map (Json.bool false, ·)
    | '"' :: rest => (readLiteral rest).map fun (s, rest) => (Json.str s, rest)
    | '[' :: rest =>
      match skipBlanks rest with
      | ']' :: rest => some (Json.arr [], rest)
      | rest => (readItems fuel rest).map fun (vs, rest) => (Json.arr vs, rest)
    | '\x7b' :: rest =>
      match skipBlanks rest with
      | '\x7d' :: rest => some (Json.obj [], rest)
      | rest => (readMembers fuel rest).map fun (ms, rest) => (Json.obj ms, rest)
    | rest => readNumber rest

/-- The items of an array, at least one, up to its closing bracket. -/
def readItems : Nat → List Char → Option (List Json × List Char)
  | 0, _ => none
  | fuel + 1, cs => do
    let (v, rest) ← readValue fuel cs
    match skipBlanks rest with
    | ']' :: rest => return ([v], rest)
    | ',' :: rest =>
      let (vs, rest) ← readItems fuel rest
      return (v :: vs, rest)
    | _ => none

/-- The members of an object, at least one, up to its closing brace. -/
def readMembers : Nat → List Char → Option (List (Literal × Json) × List Char)
  | 0, _ => none
  | fuel + 1, cs =>
    match skipBlanks cs with
    | '"' :: rest => do
      let (k, rest) ← readLiteral rest
      match skipBlanks rest with
      | ':' :: rest =>
        let (v, rest) ← readValue fuel rest
        match skipBlanks rest with
        | '\x7d' :: rest => return ([(k, v)], rest)
        | ',' :: rest =>
          let (ms, rest) ← readMembers fuel rest
          return ((k, v) :: ms, rest)
        | _ => none
      | _ => none
    | _ => none

end

def parse? (text : String) : Option Json :=
  let cs := text.toList
  match readValue (cs.length + 1) cs with
  | some (v, rest) => if skipBlanks rest = [] then some v else none
  | none => none

end MarketFeed.Json
