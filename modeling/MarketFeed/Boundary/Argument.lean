import MarketFeed.Error
import MarketFeed.Subscription

set_option autoImplicit false

/-!
# Arguments at the boundary

What a foreign caller passes: pointers that may be null, and texts that end at their first NUL and
should be UTF-8.
-/

namespace MarketFeed

/-- A pointer to a text: null, or the bytes at which it points. -/
abbrev CString := Option Bytes

namespace Boundary

def text (argument : CString) (name : String) : Except SessionError String :=
  match argument with
  | none => .error (.nullArgument name)
  | some bytes =>
    match Utf8.decode? (bytes.takeWhile (· != 0)) with
    | some cs => .ok (String.ofList cs)
    | none => .error (.invalidArgument (name ++ " is not valid UTF-8"))

/-- A text with a blank in place of every NUL, as it can be passed to a foreign caller. -/
def withoutNul (s : String) : String := s.map fun c => if c = '\x00' then ' ' else c

/-- The texts of an array of `count` pointers, the first of which has the index `i`. -/
def symbolsFrom (i : Nat) : List CString → Except SessionError (List String)
  | [] => .ok []
  | none :: _ =>
    .error (.invalidArgument ("symbol list contains a null entry at index " ++ toString i))
  | entry :: rest => do
    let symbol ← text entry "symbol"
    return symbol :: (← symbolsFrom (i + 1) rest)

/-- The symbols of a subscription, given as an array and its length. -/
def symbolList (symbols : Option (List CString)) (count : Nat) :
    Except SessionError (List String) :=
  if count = 0 then .error (.invalidArgument "at least one symbol is required")
  else
    match symbols with
    | none => .error (.nullArgument "symbols")
    | some entries => symbolsFrom 0 (entries.take count)

inductive Beginning where
  | live
  | unix (nanos : UInt64)
  | str (time : CString)
  | snapshot
  deriving DecidableEq, Inhabited

structure SubscribeArguments where
  symbols : Option (List CString)
  count : Nat
  schema : UInt32
  stypeIn : UInt32
  beginning : Beginning
  deriving DecidableEq, Inhabited

namespace SubscribeArguments

def schemaOfCode (code : UInt32) : Except SessionError Schema :=
  match Schema.ofCode? code.toNat with
  | some s => .ok s
  | none => .error (.invalidArgument ("unknown schema " ++ toString code.toNat))

def symbologyOfCode (code : UInt32) : Except SessionError Symbology :=
  match Symbology.ofCode? code.toNat with
  | some s => .ok s
  | none => .error (.invalidArgument ("unknown symbology type " ++ toString code.toNat))

/-- The subscription apart from its beginning. -/
def plain (a : SubscribeArguments) : Except SessionError Subscription := do
  let symbols ← symbolList a.symbols a.count
  let schema ← schemaOfCode a.schema
  let stypeIn ← symbologyOfCode a.stypeIn
  Subscription.new symbols schema stypeIn

/-- The subscription that the arguments ask for. A textual time is looked at first. -/
def subscription (a : SubscribeArguments) : Except SessionError Subscription :=
  match a.beginning with
  | .live => a.plain
  | .snapshot => a.plain.map (·.withSnapshot)
  | .unix nanos => do (← a.plain).startingAt (.unixNanos nanos)
  | .str time => do
    let time ← text time "start"
    (← a.plain).startingAt (.text time)

def operation (a : SubscribeArguments) : String :=
  match a.beginning with
  | .live => "fb_session_subscribe"
  | .unix _ => "fb_session_subscribe_from_unix"
  | .str _ => "fb_session_subscribe_from_str"
  | .snapshot => "fb_session_subscribe_with_snapshot"

end SubscribeArguments

end Boundary

end MarketFeed
