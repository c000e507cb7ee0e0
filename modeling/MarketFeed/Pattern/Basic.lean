set_option autoImplicit false

/-!
# Patterns

Regular expressions as they are written: alternatives, repetitions, groups, sets of characters and
the settings that change how what follows is read. `Pattern.depth` is how deep a pattern nests.
-/

namespace MarketFeed.Pattern

/-- Settings that a pattern can change; none leaves one as it is. -/
structure Settings where
  /-- Whether letters stand for both of their cases. -/
  caseless : Option Bool := none
  /-- Whether characters are matched, and not bytes. -/
  unicode : Option Bool := none
  /-- Whether blanks and comments are passed over. -/
  spaced : Option Bool := none
  deriving DecidableEq, Inhabited

/-- A single character. One that is written as two hexadecimal digits can also stand for a byte. -/
structure CharLiteral where
  char : Char
  asByte : Bool := false
  deriving DecidableEq, Inhabited

/-- What is written between the brackets of a set. -/
inductive CharSet where
  | literal (l : CharLiteral)
  | range (first last : CharLiteral)
  /-- A named ASCII class, such as `[:alpha:]`. -/
  | named (name : String) (negated : Bool)
  /-- A class with an escape of its own: digits `d`, blanks `s` or word characters `w`. -/
  | short (kind : Char) (negated : Bool)
  | bracketed (negated : Bool) (inner : CharSet)
  | union (parts : List CharSet)
  /-- Two sets joined by `&&`, `--` or `~~`. -/
  | joined (operator : Char) (left right : CharSet)
  deriving Inhabited

inductive Anchor where
  | lineStart | lineEnd | textStart | textEnd
  | wordBoundary | notWordBoundary | wordStart | wordEnd
  deriving DecidableEq, Inhabited

namespace Anchor

/-- Whether the anchor looks at word characters. -/
def ofWord : Anchor → Bool
  | lineStart | lineEnd | textStart | textEnd => false
  | wordBoundary | notWordBoundary | wordStart | wordEnd => true

end Anchor

/-- How often something may be repeated. -/
inductive Quantifier where
  | optional | star | plus
  deriving DecidableEq, Inhabited

end Pattern

open Pattern in
inductive Pattern where
  | settings (s : Settings)
  | literal (l : CharLiteral)
  | dot
  | anchor (a : Anchor)
  /-- A class with an escape of its own: digits `d`, blanks `s` or word characters `w`. -/
  | short (kind : Char) (negated : Bool)
  | set (s : CharSet)
  | repetition (q : Quantifier) (p : Pattern)
  | group (s : Settings) (p : Pattern)
  | sequence (parts : List Pattern)
  | alternatives (parts : List Pattern)
  deriving Inhabited

namespace Pattern

/-! ## Depth -/

namespace CharSet

mutual

def depth : CharSet → Nat
  | .literal _ | .range .. | .named .. | .short .. => 0
  | .bracketed _ inner => 1 + inner.depth
  | .union [] => 0
  | .union (p :: ps) => 1 + max p.depth (depths ps)
  | .joined _ left right => 1 + max left.depth right.depth

def depths : List CharSet → Nat
  | [] => 0
  | p :: ps => max p.depth (depths ps)

end

end CharSet

mutual

/-- How deep a pattern nests. An empty sequence has no depth. -/
def depth : Pattern → Nat
  | .settings _ | .literal _ | .dot | .anchor _ | .short .. => 0
  | .set s => s.depth
  | .repetition _ p => 1 + p.depth
  | .group _ p => 1 + p.depth
  | .sequence [] | .alternatives [] => 0
  | .sequence (p :: ps) | .alternatives (p :: ps) => 1 + max p.depth (depths ps)

def depths : List Pattern → Nat
  | [] => 0
  | p :: ps => max p.depth (depths ps)

end

/-- A sequence of parts; a part by itself is no sequence. -/
def ofParts : List Pattern → Pattern
  | [p] => p
  | ps => .sequence ps

/-- A choice between parts; a part by itself is no choice. -/
def ofBranches : List Pattern → Pattern
  | [p] => p
  | ps => .alternatives ps

/-- What several parts of a set have in them; a part by itself is no union. -/
def CharSet.ofParts : List CharSet → CharSet
  | [p] => p
  | ps => .union ps

end Pattern

end MarketFeed
