import MarketFeed.Config.Basic
import MarketFeed.Text.Quoted

set_option autoImplicit false

/-!
# Showing a configuration

The text of a configuration for people. All but the last three characters of the key are left out.
-/

namespace MarketFeed

namespace Display

/-- A number that may be missing. -/
def option (text : Option String) : String :=
  match text with
  | none => "None"
  | some t => "Some(" ++ t ++ ")"

/-- A value with named fields, in braces. -/
def fields (name : String) (members : List (String × String)) : String :=
  name ++ " \x7b " ++ String.intercalate ", " (members.map fun (k, v) => k ++ ": " ++ v) ++ " \x7d"

def bool (b : Bool) : String := if b then "true" else "false"

end Display

/-- The last three characters of a key after stars; only stars if there are no more than three. -/
def redact (key : String) : String :=
  let cs := key.toList
  "***" ++ if cs.length ≤ 3 then "" else String.ofList (cs.drop (cs.length - 3))

def UpgradePolicy.display : UpgradePolicy → String
  | asIs => "AsIs" | upgradeToV2 => "UpgradeToV2" | upgradeToV3 => "UpgradeToV3"

def Gateway.display (g : Gateway) : String :=
  Display.fields "Gateway" [("host", Quoted.quote g.host), ("port", toString g.port.toNat)]

def Config.display (c : Config) : String :=
  Display.fields "LiveConfig"
    [("key", Quoted.quote (redact c.key)), ("dataset", Quoted.quote c.dataset),
      ("send_ts_out", Display.bool c.sendTsOut), ("upgrade_policy", c.upgradePolicy.display),
      ("heartbeat_interval_secs", Display.option (c.heartbeat.map fun n => toString n.toNat)),
      ("gateway", Display.option (c.gatewayOverride.map Gateway.display)),
      ("buffer_size", toString c.bufferSize.toNat),
      ("shutdown_timeout_ms", toString c.shutdownTimeout.toNat)]

/-- The text of a builder, in which there is nothing but the configuration. -/
def Config.displayBuilder (c : Config) : String :=
  Display.fields "LiveBuilder" [("config", c.display)]

end MarketFeed
