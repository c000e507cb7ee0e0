import MarketFeed.Boundary.Logging
import MarketFeed.Pattern.Support
import MarketFeed.Text.ByteIndex

set_option autoImplicit false

/-!
# Log filters

How filters are taken in rehearsals. A filter is a list of directives between commas, each a level,
a target with or without a level, or a span in brackets, with a field in braces, that may stand
between the two. `logging` is the logging of a process that has a logger and reads filters so.

A directive is read without the blanks around it, but its parts are cut out of the text with the
blanks, at the same byte indices. Blanks in front therefore shift every part, and a part that would
start or end inside of a character makes the check panic.
-/

namespace MarketFeed.Boundary.LogFilter

/-- Where a directive has been read to; `start` is the place where the part began. -/
inductive Place where
  | start
  | levelOrTarget (start : Nat)
  | span (start : Nat)
  | field (start : Nat)
  | fields
  | target
  | level (start : Nat)
  deriving DecidableEq, Inhabited

inductive Fault where
  | directive
  | level
  /-- The value of a field is no pattern. -/
  | field (cause : Pattern.Refusal)
  /-- A part cannot be cut out. -/
  | misplaced (cause : Misplaced)
  deriving DecidableEq, Inhabited

def Fault.message : Fault → String
  | directive => "invalid filter directive"
  | level =>
    "error parsing level filter: expected one of \"off\", \"error\", \"warn\", \"info\", " ++
      "\"debug\", \"trace\", or a number 0-5"
  | field cause => "invalid field filter: " ++ cause.message
  | misplaced cause => cause.message

/-! ## Parts -/

/-- A text after its sign, if it has one. -/
def unsigned : List Char → List Char
  | '+' :: cs => cs
  | '-' :: cs => cs
  | cs => cs

/-- Whether a text names a level: a number up to 5, or a name in any case. -/
def isLevel (cs : List Char) : Bool :=
  let digits := if cs.head? = some '+' then cs.drop 1 else cs
  let number := !digits.isEmpty && digits.all Char.isDigit &&
    digits.foldl (fun n c => 10 * n + (c.toNat - 48)) 0 ≤ 5
  number ||
    ["off", "error", "warn", "info", "debug", "trace"].contains
      (String.ofList (cs.map Char.toLower))

/-- Whether a text is empty or an exponent of ten. -/
def isExponent : List Char → Bool
  | [] => true
  | c :: cs =>
    let digits := unsigned cs
    (c = 'e' || c = 'E') && !digits.isEmpty && digits.all Char.isDigit

/-- Whether a text is a decimal number, or a word for infinity or for what is no number. -/
def isNumber (cs : List Char) : Bool :=
  let number := unsigned cs
  let rest := number.dropWhile Char.isDigit
  let fraction := if rest.head? = some '.' then (rest.drop 1).takeWhile Char.isDigit else []
  let rest := if rest.head? = some '.' then (rest.drop 1).dropWhile Char.isDigit else rest
  (!(number.takeWhile Char.isDigit ++ fraction).isEmpty && isExponent rest) ||
    ["nan", "inf", "infinity"].contains (String.ofList (number.map Char.toLower))

/-- Checks the value that a field is to have: a number or else a pattern. -/
def checkValue (value : List Char) : Except Fault Unit :=
  if isNumber value then .ok ()
  else
    match Pattern.refusal? value with
    | some cause => .error (.field cause)
    | none => .ok ()

/-- Checks a field: a name, and perhaps a value between the first equals sign and the next. -/
def checkField (field : List Char) : Except Fault Unit :=
  if field = [] then .error .directive
  else
    match field.dropWhile (· ≠ '=') with
    | [] => .ok ()
    | _ :: cs => checkValue (cs.takeWhile (· ≠ '='))

/-! ## Directives -/

/-- Whether a directive may start with a character: a letter, a number or one of three marks. -/
def mayStart (c : Char) : Bool := c = '-' || c = ':' || c = '_' || isAlphanumeric c

def part (directive : List Char) (start stop : Nat) : Except Fault (List Char) :=
  (ByteIndex.slice directive start stop).mapError .misplaced

/-- Goes on by one character, which is read at `i`. -/
def advance (directive : List Char) (place : Place) (i : Nat) (c : Char) : Except Fault Place :=
  match place with
  | .start =>
    if c = '[' then .ok (.span (i + 1))
    else if mayStart c then .ok (.levelOrTarget i)
    else .error .directive
  | .levelOrTarget start =>
    if c = '=' then (part directive start i).map fun _ => .level (i + 1)
    else if c = '[' then (part directive start i).map fun _ => .span (i + 1)
    else .ok (.levelOrTarget start)
  | .span start =>
    if c = ']' then (part directive start i).map fun _ => .target
    else if c = '\x7b' then (part directive start i).map fun _ => .field (i + 1)
    else .ok (.span start)
  | .field start =>
    if c = '\x7d' then do
      checkField (← part directive start i)
      return .fields
    else .ok (.field start)
  | .fields => if c = ']' then .ok .target else .error .directive
  | .target => if c = '=' then .ok (.level (i + 1)) else .error .directive
  | .level start => .ok (.level start)

def check (directive : List Char) : Except Fault Unit := do
  let place ← (ByteIndex.indexed 0 (trimList isBlank directive)).foldlM
    (fun place (i, c) => advance directive place i c) Place.start
  match place with
  | .levelOrTarget _ | .target => return
  | .level start =>
    let level ← (ByteIndex.sliceFrom directive start).mapError .misplaced
    if level = [] ∨ isLevel level then return else .error .level
  | .start | .span _ | .field _ | .fields => .error .directive

/-- The directives of a filter; empty ones do not count. -/
def directives (filter : String) : List (List Char) :=
  ((filter.splitToList (· = ',')).filter (· ≠ "")).map (·.toList)

def Fault.filterFault : Fault → FilterFault
  | misplaced cause => .panicked cause.message
  | fault => .refused fault.message

def read (filter : String) : Except FilterFault Unit :=
  match (directives filter).mapM check with
  | .ok _ => .ok ()
  | .error fault => .error fault.filterFault

def logging : Logging := { check := read, installed := true }

end MarketFeed.Boundary.LogFilter
