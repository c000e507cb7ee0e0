import MarketFeed.Pattern.Reader

set_option autoImplicit false

/-!
# Supported patterns

Which patterns can be run by a matcher that makes one automaton over bytes, matches whole characters
and knows no class of Unicode. Such a matcher has no word characters and no pairs of letters of one
case but the ASCII ones, which a pattern reaches by turning `unicode` off. With it off nothing may
match a byte that is not ASCII. `Pattern.refusal?` says why a text is no supported pattern.
-/

namespace MarketFeed.Pattern

inductive Refusal where
  | malformed
  /-- It looks for the boundaries of Unicode words. -/
  | wordBoundary
  deriving DecidableEq, Inhabited

def Refusal.message : Refusal → String
  | malformed => "error building NFA"
  | wordBoundary =>
    "unsupported regex feature for DFAs: cannot build DFAs for regexes with Unicode word " ++
      "boundaries; switch to ASCII word boundaries, or heuristically enable Unicode word " ++
      "boundaries or use a different regex engine"

structure Modes where
  caseless : Bool := false
  unicode : Bool := true
  deriving DecidableEq, Inhabited

def Modes.apply (m : Modes) (s : Settings) : Modes :=
  ⟨s.caseless.getD m.caseless, s.unicode.getD m.unicode⟩

/-- Whether a character can be matched. A byte that is not ASCII is no character. -/
def CharLiteral.supported (m : Modes) (l : CharLiteral) : Bool :=
  if m.unicode then !m.caseless else !l.asByte || l.char.toNat < 128

/-- Whether a character can be a member of a set. -/
def CharLiteral.supportedInSet (m : Modes) (l : CharLiteral) : Bool :=
  if m.unicode then !m.caseless else l.char.toNat < 128

namespace CharSet

mutual

def supported (m : Modes) : CharSet → Bool
  | .literal l => l.supportedInSet m
  | .range first last => first.supportedInSet m && last.supportedInSet m
  | .named _ negated => if m.unicode then !m.caseless else !negated
  | .short _ negated => !m.unicode && !negated
  | .bracketed negated inner => inner.supported m && (m.unicode || !negated)
  | .union parts => allSupported m parts
  | .joined _ left right => left.supported m && right.supported m

def allSupported (m : Modes) : List CharSet → Bool
  | [] => true
  | p :: ps => p.supported m && allSupported m ps

end

end CharSet

mutual

/-- The modes after a pattern that starts in `m`. Settings are in force up to the end of the group
that they are in. -/
def modesAfter (m : Modes) : Pattern → Modes
  | .settings s => m.apply s
  | .literal _ | .dot | .anchor _ | .short .. | .set _ | .group .. => m
  | .repetition _ p => p.modesAfter m
  | .sequence ps | .alternatives ps => modesAfterAll m ps

def modesAfterAll (m : Modes) : List Pattern → Modes
  | [] => m
  | p :: ps => modesAfterAll (p.modesAfter m) ps

end

mutual

/-- Whether a pattern that starts in `m` can be matched. -/
def supported (m : Modes) : Pattern → Bool
  | .settings _ | .anchor _ => true
  | .literal l => l.supported m
  | .dot => m.unicode
  | .short _ negated => !m.unicode && !negated
  | .set s => s.supported m
  | .repetition _ p => p.supported m
  | .group s p => p.supported (m.apply s)
  | .sequence ps | .alternatives ps => allSupported m ps

def allSupported (m : Modes) : List Pattern → Bool
  | [] => true
  | p :: ps => p.supported m && allSupported (p.modesAfter m) ps

end

mutual

/-- Whether a pattern that starts in `m` looks for the boundaries of Unicode words. -/
def seeksWords (m : Modes) : Pattern → Bool
  | .anchor a => a.ofWord && m.unicode
  | .settings _ | .literal _ | .dot | .short .. | .set _ => false
  | .repetition _ p => p.seeksWords m
  | .group s p => p.seeksWords (m.apply s)
  | .sequence ps | .alternatives ps => anySeeksWords m ps

def anySeeksWords (m : Modes) : List Pattern → Bool
  | [] => false
  | p :: ps => p.seeksWords m || anySeeksWords (p.modesAfter m) ps

end

def maxDepth : Nat := 250

/-- Why a text is no supported pattern; none if it is one. -/
def refusal? (text : List Char) : Option Refusal :=
  match read? text with
  | none => some .malformed
  | some p =>
    if p.depth > maxDepth || !p.supported {} then some .malformed
    else if p.seeksWords {} then some .wordBoundary
    else none

end MarketFeed.Pattern
