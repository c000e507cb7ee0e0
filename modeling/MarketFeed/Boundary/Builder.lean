import MarketFeed.Boundary.Argument
import MarketFeed.Boundary.Registry

set_option autoImplicit false

/-!
# Builders at the boundary

The setters of a builder handle. Arguments are looked at first, then whether the builder was used
up; only then is anything set.
-/

namespace MarketFeed.Boundary

inductive Edit where
  | key (v : CString)
  /-- The bytes of the environment variable, if it is set. -/
  | keyFromEnvironment (variableBytes : Option Bytes)
  | dataset (v : CString)
  | datasetId (v : UInt32)
  | sendTsOut (v : Bool)
  | upgradePolicy (v : UInt32)
  | heartbeat (v : UInt32)
  | address (host : CString) (port : UInt16)
  | bufferSize (v : UInt64)
  | shutdownTimeout (v : UInt64)
  deriving DecidableEq, Inhabited

namespace Edit

def operation : Edit → String
  | key _ => "fb_builder_set_key"
  | keyFromEnvironment _ => "fb_builder_set_key_from_env"
  | dataset _ => "fb_builder_set_dataset"
  | datasetId _ => "fb_builder_set_dataset_id"
  | sendTsOut _ => "fb_builder_set_send_ts_out"
  | upgradePolicy _ => "fb_builder_set_upgrade_policy"
  | heartbeat _ => "fb_builder_set_heartbeat_interval"
  | address .. => "fb_builder_set_address"
  | bufferSize _ => "fb_builder_set_buffer_size"
  | shutdownTimeout _ => "fb_builder_set_shutdown_timeout"

/-- The setter itself, once its arguments were looked at. -/
def setter : Edit → Except SessionError (Config → Config.Edited)
  | key v => do
    let v ← text v "api_key"
    return (·.setKey v)
  | keyFromEnvironment v => return (·.setKeyFromEnvironment v)
  | dataset v => do
    let v ← text v "dataset"
    return (·.setDataset v)
  | datasetId v => do
    let code ← Config.datasetOfId v
    return fun c => (.ok (), c.setKnownDataset code)
  | sendTsOut v => return fun c => (.ok (), c.setSendTsOut v)
  | upgradePolicy v => do
    let policy ← Config.policyOfCode v
    return fun c => (.ok (), c.setUpgradePolicy policy)
  | heartbeat v => return (·.setHeartbeat v)
  | address host port => do
    let host ← text host "host"
    return (·.setAddress host port)
  | bufferSize v => return (·.setBufferSize v)
  | shutdownTimeout v => return fun c => (.ok (), c.setShutdownTimeout v.toNat)

end Edit

/-- Calls a setter of the builder at a pointer. -/
def edit (r : Registry) (p : Pointer) (e : Edit) : Except SessionError Unit × Registry :=
  match r.builder p with
  | .error cause => (.error cause, r)
  | .ok (address, slot) =>
    match e.setter, slot with
    | .error cause, _ => (.error cause, r)
    | .ok _, .consumed => (.error .builderConsumed, r)
    | .ok set, .opened config =>
      let (result, config) := set config
      (result, r.setBuilder address (.opened config))

end MarketFeed.Boundary
