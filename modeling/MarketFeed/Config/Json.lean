import MarketFeed.Config.Basic
import MarketFeed.Json.Reader

set_option autoImplicit false

/-!
# Configurations as JSON

A configuration as an object with one member a field (`Config.json`), and its reading
(`Config.ofJson?`): any field may be missing, then it has its default; members of unknown name are
passed over; a field given twice or with a value of the wrong type is refused. An array stands for
the values of the fields in order, and may be short.
-/

namespace MarketFeed

def Gateway.json (g : Gateway) : Json :=
  .object [("host", .text g.host), ("port", .nat g.port.toNat)]

def Config.json (c : Config) : Json :=
  .object [("key", .text c.key), ("dataset", .text c.dataset),
    ("send_ts_out", .bool c.sendTsOut), ("upgrade_policy", .text c.upgradePolicy.name),
    ("heartbeat_interval_secs", .orNull (fun n => .nat n.toNat) c.heartbeat),
    ("gateway", .orNull Gateway.json c.gatewayOverride),
    ("buffer_size", .nat c.bufferSize.toNat),
    ("shutdown_timeout_ms", .nat c.shutdownTimeout.toNat)]

namespace Json

/-! ## Values of a type -/

def string? : Json → Option String
  | .str s => s
  | _ => none

def bool? : Json → Option Bool
  | .bool b => some b
  | _ => none

def below? (bound : Nat) : Json → Option Nat
  | .int n => if 0 ≤ n ∧ n < bound then some n.toNat else none
  | _ => none

def u16? (j : Json) : Option UInt16 := (below? UInt16.size j).map UInt16.ofNat

def u32? (j : Json) : Option UInt32 := (below? UInt32.size j).map UInt32.ofNat

def u64? (j : Json) : Option UInt64 := (below? UInt64.size j).map UInt64.ofNat

/-- A value that may be null. -/
def orNull? {α : Type} (read : Json → Option α) : Json → Option (Option α)
  | .null => some none
  | j => (read j).map some

/-- A choice among names: the name as a string, or as the only member of an object, with null. -/
def choice? {α : Type} (ofName? : String → Option α) : Json → Option α
  | .str (some name) => ofName? name
  | .obj [(some name, .null)] => ofName? name
  | _ => none

/-! ## Members -/

/-- Whether every member has a name that is a text, and none of the known names occurs twice. -/
def membersOnce (known : List String) (members : List (Literal × Json)) : Bool :=
  members.all (·.1.isSome) &&
    known.all fun name => (members.filter (·.1 == some name)).length ≤ 1

/-- The member `name` read as a type, or a default if it is missing. -/
def field? {α : Type} (members : List (Literal × Json)) (name : String) (read : Json → Option α)
    (default : Option α) : Option α :=
  match members.find? (·.1 == some name) with
  | some (_, value) => read value
  | none => default

end Json

/-- A gateway from an object with both fields or an array of the two. -/
def Gateway.ofJson? (j : Json) : Option Gateway :=
  match j with
  | .obj members =>
    if Json.membersOnce ["host", "port"] members then do
      return ⟨← Json.field? members "host" Json.string? none,
        ← Json.field? members "port" Json.u16? none⟩
    else none
  | .arr [host, port] => return ⟨← host.string?, ← port.u16?⟩
  | _ => none

namespace Config

def fieldNames : List String :=
  ["key", "dataset", "send_ts_out", "upgrade_policy", "heartbeat_interval_secs", "gateway",
    "buffer_size", "shutdown_timeout_ms"]

/-- A configuration from members with distinct known names. -/
def ofMembers? (members : List (Literal × Json)) : Option Config := do
  let d : Config := {}
  return {
    key := ← Json.field? members "key" Json.string? (some d.key)
    dataset := ← Json.field? members "dataset" Json.string? (some d.dataset)
    sendTsOut := ← Json.field? members "send_ts_out" Json.bool? (some d.sendTsOut)
    upgradePolicy :=
      ← Json.field? members "upgrade_policy" (Json.choice? UpgradePolicy.ofName?)
        (some d.upgradePolicy)
    heartbeat :=
      ← Json.field? members "heartbeat_interval_secs" (Json.orNull? Json.u32?) (some d.heartbeat)
    gatewayOverride :=
      ← Json.field? members "gateway" (Json.orNull? Gateway.ofJson?) (some d.gatewayOverride)
    bufferSize := ← Json.field? members "buffer_size" Json.u64? (some d.bufferSize)
    shutdownTimeout :=
      ← Json.field? members "shutdown_timeout_ms" Json.u64? (some d.shutdownTimeout) }

def ofJson? (j : Json) : Option Config :=
  match j with
  | .obj members => if Json.membersOnce fieldNames members then ofMembers? members else none
  | .arr items =>
    if items.length ≤ fieldNames.length then
      ofMembers? ((fieldNames.map some).zip items)
    else none
  | _ => none

def parse? (text : String) : Option Config := (Json.parse? text).bind ofJson?

end Config

end MarketFeed
