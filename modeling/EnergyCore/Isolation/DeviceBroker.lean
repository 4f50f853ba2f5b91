import EnergyCore.Isolation.RuntimeTypes
import Mathlib.Data.Rat.Defs

/-!
# The device control broker

Control leases of isolated runtimes, and the synthetic devices that they command.

* `leases_command` — a command changes no lease;
* `leases_acquireLease`, `leases_renewLease` — only leases of the caller change.
-/

namespace EnergyCore.Isolation

open JsonValues

/-- The runtime, the site, the device and the capability of a lease. -/
structure LeaseKey where
  runtimeInstanceId : String
  siteId : ℤ
  deviceId : String
  capability : String
  deriving Repr, DecidableEq

structure SyntheticDeviceState where
  ownerRuntimeId : Option String := none
  lastCommand : Option String := none
  powerW : ℚ := 0
  safeDefaultPowerW : ℚ := 0
  deriving Repr, DecidableEq

structure DeviceControlBroker where
  leases : LeaseKey → Option Instant := fun _ => none
  devices : ℤ × String → Option SyntheticDeviceState := fun _ => none

def controlPermissions : List String :=
  ["device.control", "energy.control", "charger.control", "vehicle.control", "hvac.control", "spa.control"]

/-- `CONTROL_PERMISSIONS.intersection(set(permissions))`. -/
def mayControl (permissions : List String) : Bool := permissions.any fun p => decide (p ∈ controlPermissions)

namespace DeviceControlBroker

/-! ### Leases -/

def grantLease (broker : DeviceControlBroker) (key : LeaseKey) (ttlSeconds : ℚ) (now : Instant) :
    Instant × DeviceControlBroker :=
  (now + ttlSeconds, { broker with leases := Function.update broker.leases key (some (now + ttlSeconds)) })

def leaseValid (broker : DeviceControlBroker) (key : LeaseKey) (now : Instant) : Bool :=
  (broker.leases key).any fun expires => decide (now < expires)

/-- `SyntheticDeviceAdapter.release_control`. -/
def releaseControl (broker : DeviceControlBroker) (runtimeInstanceId : String) : DeviceControlBroker :=
  { broker with devices := fun key => (broker.devices key).map fun device =>
      if device.ownerRuntimeId = some runtimeInstanceId then
        { device with ownerRuntimeId := none, powerW := device.safeDefaultPowerW }
      else device }

def revokeRuntime (broker : DeviceControlBroker) (runtimeInstanceId : String) : DeviceControlBroker :=
  releaseControl
    { broker with
      leases := fun key => if key.runtimeInstanceId = runtimeInstanceId then none else broker.leases key }
    runtimeInstanceId

/-! ### Commands -/

/-- `SyntheticDeviceAdapter.apply_command`. -/
def applyCommand (text : RpcText) (broker : DeviceControlBroker) (siteId : ℤ) (deviceId command : String)
    (params : Dict) (runtimeInstanceId : String) : Except HandlerError Dict × DeviceControlBroker :=
  match broker.devices (siteId, deviceId) with
  | none => (.error (.value "device not found"), broker)
  | some device =>
    if command = "set_power" then
      match text.float (getItemOr params "power_w" (.num (.int 0))) with
      | .error e => (.error e, broker)
      | .ok power =>
        if power < 0 ∨ power > 11000 then (.error (.value "power out of safe range"), broker)
        else
          (.ok [("ok", .num (.bool true)), ("power_w", .float (text.decimal power))],
            { broker with
              devices := Function.update broker.devices (siteId, deviceId) (some
                { device with
                  powerW := power, ownerRuntimeId := some runtimeInstanceId, lastCommand := some command }) })
    else if command = "read_power" then (.ok [("power_w", .float (text.decimal device.powerW))], broker)
    else (.error (.value s!"unsupported command: {command}"), broker)

/-- What the three operations on a device check first: the permission, the device and, for two of them, its site. -/
def checkDevice (text : RpcText) (siteId : ℤ) (params : Dict) (permissions : List String) (checksSite : Bool) :
    Except HandlerError String := do
  if ¬ mayControl permissions then throw (.permission "device control permission required")
  let deviceId := text.str (getItemOr params "device_id" (.str ""))
  if deviceId = "" then throw (.value "device_id required")
  if checksSite then
    let deviceSiteId ← text.int (getItemOr params "site_id" (.num (.int siteId)))
    if deviceSiteId ≠ siteId then throw (.permission "cross-site device control denied")
  return deviceId

def acquireLease (text : RpcText) (ttlSeconds : ℚ) (broker : DeviceControlBroker)
    (runtimeInstanceId moduleId : String) (siteId : ℤ) (capability : String) (params : Dict)
    (permissions : List String) (now : Instant) : Except HandlerError Dict × DeviceControlBroker :=
  match checkDevice text siteId params permissions true with
  | .error e => (.error e, broker)
  | .ok deviceId =>
    let granted := broker.grantLease ⟨runtimeInstanceId, siteId, deviceId, capability⟩ ttlSeconds now
    (.ok [("acquired", .num (.bool true)), ("device_id", .str deviceId), ("capability", .str capability),
      ("expires_at", .str (text.isoformat granted.1)), ("runtime_instance_id", .str runtimeInstanceId),
      ("module_id", .str moduleId), ("site_id", .num (.int siteId))], granted.2)

def renewLease (text : RpcText) (ttlSeconds : ℚ) (broker : DeviceControlBroker) (runtimeInstanceId : String)
    (siteId : ℤ) (capability : String) (params : Dict) (permissions : List String) (now : Instant) :
    Except HandlerError Dict × DeviceControlBroker :=
  match checkDevice text siteId params permissions false with
  | .error e => (.error e, broker)
  | .ok deviceId =>
    if ¬ broker.leaseValid ⟨runtimeInstanceId, siteId, deviceId, capability⟩ now then
      (.error (.permission "no active lease to renew"), broker)
    else
      let granted := broker.grantLease ⟨runtimeInstanceId, siteId, deviceId, capability⟩ ttlSeconds now
      (.ok [("renewed", .num (.bool true)), ("device_id", .str deviceId), ("capability", .str capability),
        ("expires_at", .str (text.isoformat granted.1))], granted.2)

def command (text : RpcText) (broker : DeviceControlBroker) (runtimeInstanceId : String) (siteId : ℤ)
    (capability command : String) (params : Dict) (permissions : List String) (now : Instant) :
    Except HandlerError Dict × DeviceControlBroker :=
  match checkDevice text siteId params permissions true with
  | .error e => (.error e, broker)
  | .ok deviceId =>
    if ¬ broker.leaseValid ⟨runtimeInstanceId, siteId, deviceId, capability⟩ now then
      (.error (.permission "control lease required; call AcquireControlLease first"), broker)
    else applyCommand text broker siteId deviceId command params runtimeInstanceId

/-! ### Which leases change -/

section

variable {text : RpcText} {broker : DeviceControlBroker} {id : String} {siteId : ℤ} {capability : String}
  {params : Dict} {permissions : List String} {now : Instant}

theorem leases_grantLease {key key' : LeaseKey} (h : key' ≠ key) (ttlSeconds : ℚ) :
    (broker.grantLease key ttlSeconds now).2.leases key' = broker.leases key' :=
  Function.update_of_ne h _ _

theorem leases_applyCommand (deviceId name : String) :
    (applyCommand text broker siteId deviceId name params id).2.leases = broker.leases := by
  unfold applyCommand
  cases broker.devices (siteId, deviceId) with
  | none => rfl
  | some device =>
    dsimp only
    split_ifs
    · cases text.float (getItemOr params "power_w" (.num (.int 0))) with
      | error e => rfl
      | ok power =>
        dsimp only
        split_ifs <;> rfl
    · rfl
    · rfl

theorem leases_command (name : String) :
    (command text broker id siteId capability name params permissions now).2.leases = broker.leases := by
  unfold command
  cases checkDevice text siteId params permissions true with
  | error e => rfl
  | ok deviceId =>
    dsimp only
    split_ifs
    · exact leases_applyCommand deviceId name
    · rfl

theorem leases_acquireLease {key : LeaseKey} (h : key.runtimeInstanceId ≠ id) (ttlSeconds : ℚ) (moduleId : String) :
    (acquireLease text ttlSeconds broker id moduleId siteId capability params permissions now).2.leases key =
      broker.leases key := by
  unfold acquireLease
  cases checkDevice text siteId params permissions true with
  | error e => rfl
  | ok deviceId => exact leases_grantLease (fun heq => h (congrArg LeaseKey.runtimeInstanceId heq)) ttlSeconds

theorem leases_renewLease {key : LeaseKey} (h : key.runtimeInstanceId ≠ id) (ttlSeconds : ℚ) :
    (renewLease text ttlSeconds broker id siteId capability params permissions now).2.leases key =
      broker.leases key := by
  unfold renewLease
  cases checkDevice text siteId params permissions false with
  | error e => rfl
  | ok deviceId =>
    dsimp only
    split_ifs
    · exact leases_grantLease (fun heq => h (congrArg LeaseKey.runtimeInstanceId heq)) ttlSeconds
    · rfl

theorem leases_revokeRuntime (key : LeaseKey) :
    (broker.revokeRuntime id).leases key = if key.runtimeInstanceId = id then none else broker.leases key := rfl

end

end DeviceControlBroker

end EnergyCore.Isolation
