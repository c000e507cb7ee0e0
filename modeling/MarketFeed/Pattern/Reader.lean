import MarketFeed.Pattern.Basic
import MarketFeed.Text.Blank
import MarketFeed.Text.Letter

set_option autoImplicit false

/-!
# Reading patterns

`Pattern.read?` reads a whole pattern, or nothing if it is malformed. Counted repetitions and
classes of Unicode properties are not read: an opening brace that is to count, and `\p`, are
malformed. Each call of a recursive reader passes at least one character, so the length of the text
bounds the recursion.
-/

namespace MarketFeed.Pattern

structure Cursor where
  rest : List Char
  /-- Whether blanks and comments are passed over. -/
  spaced : Bool := false
  names : List (List Char) := []

abbrev Reader := StateT Cursor Option

/-! ## Characters -/

/-- A text from its first character on that is neither blank nor in a comment. -/
def skipSpace (inComment : Bool) : List Char → List Char
  | [] => []
  | c :: cs =>
    if inComment then skipSpace (c ≠ '\n') cs
    else if isBlank c then skipSpace false cs
    else if c = '#' then skipSpace true cs
    else c :: cs

/-- Passes over blanks and comments if they do not count. -/
def skip : Reader Unit := modify fun c =>
  if c.spaced then { c with rest := skipSpace false c.rest } else c

def rest : Reader (List Char) := return (← get).rest

/-- The next character, which stays to be read. -/
def peek : Reader Char := fun c => c.rest.head?.map (·, c)

def pass (n : Nat) : Reader Unit := modify fun c => { c with rest := c.rest.drop n }

/-- Passes over one character and the blanks after it, before something that has to follow. -/
def passWithin : Reader Unit := do
  pass 1
  skip
  let _ ← peek

def next : Reader Char := do
  let c ← peek
  pass 1
  return c

/-- The first character that counts. Inside a comment any visible character does. -/
def firstCounting (spaced inComment : Bool) : List Char → Option Char
  | [] => none
  | c :: cs =>
    if spaced && isBlank c then firstCounting spaced inComment cs
    else if spaced && !inComment && c = '#' then firstCounting spaced true cs
    else some c

/-! ## Escapes -/

/-- The marks that have a meaning of their own and lose it after a backslash. Every other ASCII mark
may have a backslash, too, except for two. -/
def canEscape (c : Char) : Bool :=
  c.toNat < 128 && !c.isAlphanum && c ≠ '<' && c ≠ '>'

def hexDigit? (c : Char) : Option Nat :=
  if c.isDigit then some (c.toNat - 48)
  else if 'a' ≤ c ∧ c ≤ 'f' then some (c.toNat - 87)
  else if 'A' ≤ c ∧ c ≤ 'F' then some (c.toNat - 55)
  else none

/-- The number that some hexadecimal digits stand for, after those that stand for `value`. -/
def readHex (value : Nat) : Nat → Reader Nat
  | 0 => return value
  | digits + 1 => do
    skip
    let digit ← liftM (hexDigit? (← next))
    readHex (16 * value + digit) digits

/-- The character with a number that is written with some hexadecimal digits. -/
def readCode (digits : Nat) : Reader Pattern := do
  let code ← readHex 0 digits
  if code.isValidChar then return .literal ⟨Char.ofNat code, digits = 2⟩ else failure

/-- What a letter after a backslash stands for, if it is one character. -/
def control? (c : Char) : Option Char :=
  if c = 'a' then some '\x07'
  else if c = 'f' then some '\x0C'
  else if c = 't' then some '\t'
  else if c = 'n' then some '\n'
  else if c = 'r' then some '\r'
  else if c = 'v' then some '\x0B'
  else none

def anchor? (c : Char) : Option Anchor :=
  if c = 'A' then some .textStart
  else if c = 'z' then some .textEnd
  else if c = 'b' then some .wordBoundary
  else if c = 'B' then some .notWordBoundary
  else if c = '<' then some .wordStart
  else if c = '>' then some .wordEnd
  else none

def readEscape : Reader Pattern := do
  let c ← next
  if c = 'x' then readCode 2
  else if c = 'u' then readCode 4
  else if c = 'U' then readCode 8
  else if c = 'd' || c = 's' || c = 'w' then return .short c false
  else if c = 'D' || c = 'S' || c = 'W' then return .short c.toLower true
  else if canEscape c then return .literal ⟨c, false⟩
  else
    match control? c, anchor? c with
    | some l, _ => return .literal ⟨l, false⟩
    | none, some a => return .anchor a
    | none, none => failure

/-! ## Sets -/

def classNames : List String :=
  ["alnum", "alpha", "ascii", "blank", "cntrl", "digit", "graph", "lower", "print", "punct",
    "space", "upper", "word", "xdigit"]

/-- The class such as `[:alpha:]` at the front of a text, and the length of its text. -/
def namedClass? (cs : List Char) : Option (CharSet × Nat) :=
  match cs with
  | '[' :: ':' :: cs =>
    let (negated, cs) := match cs with
      | '^' :: cs => (true, cs)
      | cs => (false, cs)
    let name := cs.takeWhile (· ≠ ':')
    if classNames.contains (String.ofList name) && (cs.drop name.length).take 2 = [':', ']'] then
      some (.named (String.ofList name) negated, name.length + if negated then 5 else 4)
    else none
  | _ => none

/-- Reads one character of a set, or a class with a backslash. -/
def readMember : Reader CharSet := do
  let c ← next
  if c = '\\' then
    match ← readEscape with
    | .literal l => return .literal l
    | .short kind negated => return .short kind negated
    | _ => failure
  else return .literal ⟨c, false⟩

/-- Reads a member of a set, or two with a dash between them. A dash before the closing bracket or
another dash stands for itself. -/
def readRange : Reader CharSet := do
  let first ← readMember
  skip
  let dash ← peek
  let after := firstCounting (← get).spaced false ((← rest).drop 1)
  if dash ≠ '-' || after = some ']' || after = some '-' then return first
  else do
    passWithin
    match first, ← readMember with
    | .literal a, .literal b => if a.char ≤ b.char then return .range a b else failure
    | _, _ => failure

/-- Reads the dashes at the beginning of a set, which stand for themselves. -/
def readDashes : Nat → Reader (List CharSet)
  | 0 => return []
  | fuel + 1 => do
    if (← peek) = '-' then
      passWithin
      return .literal ⟨'-', false⟩ :: (← readDashes fuel)
    else return []

/-- Reads what comes before the members of a set: whether it is negated, and the members that would
not stand for themselves elsewhere. -/
def readSetHead (fuel : Nat) : Reader (Bool × List CharSet) := do
  passWithin
  let negated := (← peek) = '^'
  if negated then passWithin
  let dashes ← readDashes fuel
  if dashes = [] && (← peek) = ']' then
    passWithin
    return (negated, [.literal ⟨']', false⟩])
  else return (negated, dashes)

/-- The operator at the front of a text that joins two sets. -/
def operator? (cs : List Char) : Option Char :=
  match cs with
  | a :: b :: _ => if a = b && (a = '&' || a = '-' || a = '~') then some a else none
  | _ => none

/-- What was read of a set: the operands before the last operator, and the parts after it, last
first. -/
structure SetSoFar where
  left : Option (CharSet × Char) := none
  parts : List CharSet := []

namespace SetSoFar

def add (s : SetSoFar) (part : CharSet) : SetSoFar := { s with parts := part :: s.parts }

def close (s : SetSoFar) : CharSet :=
  let right := CharSet.ofParts s.parts.reverse
  match s.left with
  | none => right
  | some (left, operator) => .joined operator left right

/-- All of it as the left operand of an operator. -/
def join (s : SetSoFar) (operator : Char) : SetSoFar := { left := some (s.close, operator) }

end SetSoFar

def readMembers : Nat → SetSoFar → Reader CharSet
  | 0, _ => failure
  | fuel + 1, s => do
    skip
    let c ← peek
    if c = ']' then
      pass 1
      return s.close
    else if c = '[' then
      match namedClass? (← rest) with
      | some (named, length) =>
        pass length
        readMembers fuel (s.add named)
      | none =>
        let (negated, head) ← readSetHead fuel
        let inner ← readMembers fuel { parts := head.reverse }
        readMembers fuel (s.add (.bracketed negated inner))
    else
      match operator? (← rest) with
      | some operator =>
        pass 2
        readMembers fuel (s.join operator)
      | none => readMembers fuel (s.add (← readRange))

def readSet (fuel : Nat) : Reader CharSet := do
  let (negated, head) ← readSetHead fuel
  return .bracketed negated (← readMembers fuel { parts := head.reverse })

/-! ## Groups -/

inductive Opening where
  | group (s : Settings)
  /-- Settings for the rest of the group around it. -/
  | settings (s : Settings)

/-- Whether the letters between `?` and its end are settings: none comes twice, and the sign that
turns the following ones off is not the last. -/
def areSettings (letters : List Char) : Bool :=
  letters.all ("imsUuRx-".toList.contains ·) && letters.Nodup && letters.getLast? ≠ some '-'

def Settings.ofLetters (letters : List Char) : Settings :=
  let on := letters.takeWhile (· ≠ '-')
  let setting (letter : Char) : Option Bool :=
    if letters.contains letter then some (on.contains letter) else none
  ⟨setting 'i', setting 'u', setting 'x'⟩

def isGroupName (name : List Char) : Bool :=
  match name with
  | [] => false
  | c :: cs =>
    (c = '_' || isAlphabetic c) &&
      cs.all fun c => c = '_' || c = '.' || c = '[' || c = ']' || isAlphanumeric c

/-- Reads the name of a group, which no group before it has, and the angle bracket after it. -/
def readGroupName : Reader Unit := do
  let name := (← rest).takeWhile (· ≠ '>')
  if isGroupName name && !(← get).names.contains name then
    pass name.length
    let _ ← next
    modify fun c => { c with names := name :: c.names }
  else failure

/-- Reads what comes after an opening parenthesis up to the content of the group. -/
def readOpening : Reader Opening := do
  skip
  match ← rest with
  | '?' :: 'P' :: '<' :: _ =>
    pass 3
    readGroupName
    return .group {}
  | '?' :: '<' :: _ =>
    pass 2
    readGroupName
    return .group {}
  | '?' :: cs =>
    let letters := cs.takeWhile fun c => c ≠ ':' && c ≠ ')'
    pass (1 + letters.length)
    let stop ← next
    if !areSettings letters || (stop = ')' && letters = []) then failure
    else if stop = ')' then return .settings (.ofLetters letters)
    else return .group (.ofLetters letters)
  | _ => return .group {}

/-! ## Patterns -/

def quantifier? (c : Char) : Option Quantifier :=
  if c = '?' then some .optional
  else if c = '*' then some .star
  else if c = '+' then some .plus
  else none

def repeatable : Pattern → Bool
  | .settings _ => false
  | _ => true

/-- Takes a setting of blanks over. -/
def setSpaced (s : Settings) : Reader Unit := modify fun c =>
  { c with spaced := s.spaced.getD c.spaced }

def readAtom : Reader Pattern := do
  let c ← next
  if c = '\\' then readEscape
  else if c = '.' then return .dot
  else if c = '^' then return .anchor .lineStart
  else if c = '$' then return .anchor .lineEnd
  else return .literal ⟨c, false⟩

/-- Reads branches up to the end of the group around them. `branches` are those that were read, and
`parts` what was read of the next one, both last first. -/
def readBranches : Nat → List Pattern → List Pattern → Reader Pattern
  | 0, _, _ => failure
  | fuel + 1, branches, parts => do
    skip
    match ← rest with
    | [] | ')' :: _ => return ofBranches (ofParts parts.reverse :: branches).reverse
    | '|' :: _ =>
      pass 1
      readBranches fuel (ofParts parts.reverse :: branches) []
    | '(' :: _ =>
      pass 1
      match ← readOpening with
      | .settings s =>
        setSpaced s
        readBranches fuel branches (.settings s :: parts)
      | .group s =>
        let outer := (← get).spaced
        setSpaced s
        let inner ← readBranches fuel [] []
        let _ ← next
        modify fun c => { c with spaced := outer }
        readBranches fuel branches (.group s inner :: parts)
    | '[' :: _ =>
      let set ← readSet fuel
      readBranches fuel branches (.set set :: parts)
    | '{' :: _ => failure
    | c :: _ =>
      match quantifier? c, parts with
      | none, _ => do
        let atom ← readAtom
        readBranches fuel branches (atom :: parts)
      | some _, [] => failure
      | some q, p :: ps =>
        if !p.repeatable then failure
        else do
          pass 1
          if (← rest).head? = some '?' then pass 1
          readBranches fuel branches (.repetition q p :: ps)

/-- Reads a text that is a pattern as a whole. -/
def read? (text : List Char) : Option Pattern := do
  let (p, c) ← (readBranches (text.length + 1) [] []).run { rest := text }
  if c.rest = [] then some p else none

end MarketFeed.Pattern
