import MarketFeed.Codes.Dataset
import MarketFeed.Codes.UpgradePolicy
import MarketFeed.Error
import MarketFeed.Text.Blank
import MarketFeed.Text.LowerCase

set_option autoImplicit false

/-!
# Configuration

What is needed to open a session. A configuration is filled in by setters that check and tidy their
argument (`Config.setKey` and the like) and is checked as a whole before a connection is opened
(`Config.validate`).
-/

namespace MarketFeed

structure Gateway where
  host : String
  port : UInt16
  deriving DecidableEq, Inhabited

def Gateway.text (g : Gateway) : String := g.host ++ ":" ++ toString g.port.toNat

structure Config where
  key : String := ""
  dataset : String := ""
  sendTsOut : Bool := false
  upgradePolicy : UpgradePolicy := .upgradeToV3
  /-- The heartbeat interval in seconds; the gateway's own when unset. -/
  heartbeat : Option UInt32 := none
  /-- A gateway in place of the dataset's own. -/
  gatewayOverride : Option Gateway := none
  bufferSize : UInt64 := 65536
  /-- How long a release waits for the delivery loop, in milliseconds. -/
  shutdownTimeout : UInt64 := 2000
  deriving DecidableEq, Inhabited

namespace Config

/-- The port of the datasets' own gateways. -/
def defaultPort : UInt16 := 13000

/-- The name of the environment variable that may hold the key. -/
def keyVariable : String := "DATABENTO_API_KEY"

/-- Checks the fields that every connection needs. -/
def validate (c : Config) : Except SessionError Unit :=
  if isBlankText c.key then .error (.config "API key is not set")
  else if isBlankText c.dataset then .error (.config "dataset is not set")
  else .ok ()

/-- The host of a dataset's own gateway. -/
def datasetHost (dataset : String) : String :=
  (lowerCase dataset).map (fun c => if c = '.' then '-' else c) ++ ".lsg.databento.com"

def gateway (c : Config) : Gateway :=
  c.gatewayOverride.getD ⟨datasetHost c.dataset, defaultPort⟩

/-! ## Setters -/

/-- The result of a setter, and the configuration after it. -/
abbrev Edited := Except SessionError Unit × Config

def setKey (c : Config) (key : String) : Edited :=
  if isBlankText key then (.error (.invalidArgument "API key cannot be empty"), c)
  else (.ok (), { c with key })

/-- Takes the key from the bytes of the environment variable, if it is set. -/
def setKeyFromEnvironment (c : Config) (variableBytes : Option Bytes) : Edited :=
  match variableBytes.bind Utf8.decode? with
  | some key => c.setKey (String.ofList key)
  | none => (.error (.config (keyVariable ++ " environment variable is not set")), c)

def setDataset (c : Config) (code : String) : Edited :=
  if isBlankText code then (.error (.invalidArgument "dataset cannot be empty"), c)
  else (.ok (), { c with dataset := trim code })

def datasetOfId (id : UInt32) : Except SessionError String :=
  match Dataset.ofId? id.toNat with
  | some code => .ok code
  | none => .error (.invalidArgument ("unknown dataset id " ++ toString id.toNat))

/-- Sets the dataset to one that is known. -/
def setKnownDataset (c : Config) (code : String) : Config := { c with dataset := code }

def setSendTsOut (c : Config) (sendTsOut : Bool) : Config := { c with sendTsOut }

def policyOfCode (code : UInt32) : Except SessionError UpgradePolicy :=
  match UpgradePolicy.ofCode? code.toNat with
  | some policy => .ok policy
  | none => .error (.invalidArgument ("unknown upgrade policy " ++ toString code.toNat))

def setUpgradePolicy (c : Config) (policy : UpgradePolicy) : Config :=
  { c with upgradePolicy := policy }

def setHeartbeat (c : Config) (seconds : UInt32) : Edited :=
  if seconds = 0 then
    (.error (.invalidArgument "heartbeat interval must be at least one second"), c)
  else (.ok (), { c with heartbeat := some seconds })

def setAddress (c : Config) (host : String) (port : UInt16) : Edited :=
  if isBlankText host then (.error (.invalidArgument "gateway host cannot be empty"), c)
  else if port = 0 then (.error (.invalidArgument "gateway port cannot be zero"), c)
  else (.ok (), { c with gatewayOverride := some ⟨trim host, port⟩ })

def setBufferSize (c : Config) (size : UInt64) : Edited :=
  if size = 0 then (.error (.invalidArgument "buffer size cannot be zero"), c)
  else (.ok (), { c with bufferSize := size })

/-- Sets the shutdown timeout, at most 2⁶⁴ - 1 milliseconds. -/
def setShutdownTimeout (c : Config) (millis : Nat) : Config :=
  { c with shutdownTimeout := UInt64.ofNat (min millis (UInt64.size - 1)) }

end Config

end MarketFeed
