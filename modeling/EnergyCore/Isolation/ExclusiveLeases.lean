import EnergyCore.Foundations.StepRun
import EnergyCore.Isolation.DeviceBroker

/-!
# Exclusive control

Who holds the leases of the device control broker, and whose power settings the devices keep, over runs of its
operations.

* `controlStep` — one call;
* `released_revokeRuntime` — a revoked runtime leaves nothing set;
* `control_exclusive_iff` — in a run control is exclusive exactly if no runtime takes a lease that another one holds.
-/

namespace EnergyCore.Isolation

open JsonValues StepRun DeviceControlBroker

/-! ### Runs -/

/-- What a runtime calls the broker with. -/
structure ControlCall where
  runtimeInstanceId : String
  moduleId : String
  siteId : ℤ
  capability : String
  params : Dict
  permissions : List String

inductive ControlInput where
  | acquireLease (call : ControlCall)
  | renewLease (call : ControlCall)
  | command (call : ControlCall) (name : String)
  | revokeRuntime (runtimeInstanceId : String)

/-- The broker, the runtime whose power setting each device was given last, and the time of the last call. -/
structure ControlState where
  broker : DeviceControlBroker
  lastSetter : ℤ × String → Option String := fun _ => none
  now : Instant

variable (text : RpcText) (ttlSeconds : ℚ)

def ControlCall.deviceId (call : ControlCall) : String := text.str (getItemOr call.params "device_id" (.str ""))

def ControlCall.key (call : ControlCall) : LeaseKey :=
  ⟨call.runtimeInstanceId, call.siteId, call.deviceId text, call.capability⟩

def answerCommand (s : ControlState) (call : ControlCall) (name : String) (now : Instant) :
    Except HandlerError Dict × DeviceControlBroker :=
  command text s.broker call.runtimeInstanceId call.siteId call.capability name call.params call.permissions now

/-- The command sets the power of the device. -/
def SetsPower (s : ControlState) (call : ControlCall) (name : String) (now : Instant) : Prop :=
  name = "set_power" ∧ (answerCommand text s call name now).1.isOk = true

instance (s : ControlState) (call : ControlCall) (name : String) (now : Instant) :
    Decidable (SetsPower text s call name now) :=
  inferInstanceAs (Decidable (_ ∧ _))

/-- One call, at its time. -/
def controlStep (s : ControlState) (step : Instant × ControlInput) : ControlState :=
  match step.2 with
  | .acquireLease call =>
    { s with
      now := step.1
      broker := (acquireLease text ttlSeconds s.broker call.runtimeInstanceId call.moduleId call.siteId
        call.capability call.params call.permissions step.1).2 }
  | .renewLease call =>
    { s with
      now := step.1
      broker := (renewLease text ttlSeconds s.broker call.runtimeInstanceId call.siteId call.capability call.params
        call.permissions step.1).2 }
  | .command call name =>
    { now := step.1
      broker := (answerCommand text s call name step.1).2
      lastSetter :=
        if SetsPower text s call name step.1 then
          Function.update s.lastSetter (call.siteId, call.deviceId text) (some call.runtimeInstanceId)
        else s.lastSetter }
  | .revokeRuntime id => { s with now := step.1, broker := s.broker.revokeRuntime id }

/-! ### Exclusive control -/

/-- Two leases of the same device and capability that are valid at the same time are of one runtime. -/
def Exclusive (broker : DeviceControlBroker) (now : Instant) : Prop :=
  ∀ key key' : LeaseKey, key.siteId = key'.siteId → key.deviceId = key'.deviceId → key.capability = key'.capability →
    broker.leaseValid key now = true → broker.leaseValid key' now = true → key = key'

/-- A device that the runtime has set last is at its safe default, and nobody's. -/
def Released (s : ControlState) (id : String) (broker : DeviceControlBroker) : Prop :=
  ∀ key device, broker.devices key = some device → s.lastSetter key = some id →
    device.ownerRuntimeId = none ∧ device.powerW = device.safeDefaultPowerW

/-- What a call must leave. -/
structure ControlSafe (s : ControlState) (step : Instant × ControlInput) : Prop where
  exclusive : Exclusive (controlStep text ttlSeconds s step).broker step.1
  holder : ∀ call name, step.2 = .command call name → SetsPower text s call name step.1 →
    s.broker.leaseValid (call.key text) step.1 = true
  released : ∀ id, step.2 = .revokeRuntime id → Released s id (controlStep text ttlSeconds s step).broker

/-- The call is granted a lease, while another runtime holds one of the same device and capability. -/
def TakesHeldLease (s : ControlState) (step : Instant × ControlInput) : Prop :=
  match step.2 with
  | .acquireLease call =>
    (∃ deviceId, checkDevice text call.siteId call.params call.permissions true = .ok deviceId) ∧ 0 < ttlSeconds ∧
      ∃ id, id ≠ call.runtimeInstanceId ∧
        s.broker.leaseValid { call.key text with runtimeInstanceId := id } step.1 = true
  | _ => False

/-! ### Leases -/

section

variable {text ttlSeconds} {broker : DeviceControlBroker} {key key' : LeaseKey} {now later : Instant}

theorem leaseValid_iff : broker.leaseValid key now = true ↔ ∃ expires, broker.leases key = some expires ∧ now < expires := by
  unfold leaseValid
  rw [Option.any_eq_true]
  constructor
  · rintro ⟨expires, hlease, hlt⟩
    exact ⟨expires, hlease, of_decide_eq_true hlt⟩
  · rintro ⟨expires, hlease, hlt⟩
    exact ⟨expires, hlease, decide_eq_true hlt⟩

theorem leaseValid_congr {broker' : DeviceControlBroker} (h : broker'.leases key = broker.leases key) :
    broker'.leaseValid key now = broker.leaseValid key now := by
  unfold leaseValid
  rw [h]

/-- A lease that is valid later is valid now. -/
theorem leaseValid_mono (h : broker.leaseValid key later = true) (hle : now ≤ later) :
    broker.leaseValid key now = true := by
  obtain ⟨expires, hlease, hlt⟩ := leaseValid_iff.mp h
  exact leaseValid_iff.mpr ⟨expires, hlease, lt_of_le_of_lt hle hlt⟩

theorem Exclusive.mono (h : Exclusive broker now) (hle : now ≤ later) : Exclusive broker later :=
  fun key key' hsite hdevice hcapability hvalid hvalid' => h key key' hsite hdevice hcapability
    (leaseValid_mono hvalid hle) (leaseValid_mono hvalid' hle)

theorem Exclusive.congr {broker' : DeviceControlBroker} (h : Exclusive broker now)
    (hleases : broker'.leases = broker.leases) : Exclusive broker' now := by
  intro key key' hsite hdevice hcapability hvalid hvalid'
  rw [leaseValid_congr (congrFun hleases _)] at hvalid hvalid'
  exact h key key' hsite hdevice hcapability hvalid hvalid'

theorem leaseValid_grantLease_self :
    (broker.grantLease key ttlSeconds now).2.leaseValid key now = true ↔ 0 < ttlSeconds := by
  have hlease : (broker.grantLease key ttlSeconds now).2.leases key = some (now + ttlSeconds) :=
    Function.update_self _ _ _
  rw [leaseValid_iff, hlease]
  constructor
  · rintro ⟨expires, heq, hlt⟩
    rw [Option.some.injEq] at heq
    rw [← heq] at hlt
    exact (lt_add_iff_pos_right now).mp hlt
  · intro hpos
    exact ⟨_, rfl, (lt_add_iff_pos_right now).mpr hpos⟩

theorem leaseValid_grantLease_of_ne (h : key' ≠ key) :
    (broker.grantLease key ttlSeconds now).2.leaseValid key' now = broker.leaseValid key' now :=
  leaseValid_congr (leases_grantLease h ttlSeconds)

/-- **A granted lease** leaves control exclusive exactly if it is never valid, or nobody else holds one. -/
theorem exclusive_grantLease_iff (h : Exclusive broker now) :
    Exclusive (broker.grantLease key ttlSeconds now).2 now ↔
      ¬ (0 < ttlSeconds ∧ ∃ id, id ≠ key.runtimeInstanceId ∧
        broker.leaseValid { key with runtimeInstanceId := id } now = true) := by
  constructor
  · rintro hexclusive ⟨hpos, id, hne, hvalid⟩
    have hkey : ({ key with runtimeInstanceId := id } : LeaseKey) ≠ key :=
      fun heq => hne (congrArg LeaseKey.runtimeInstanceId heq)
    refine hkey (hexclusive _ key rfl rfl rfl ?_ (leaseValid_grantLease_self.mpr hpos))
    rw [leaseValid_grantLease_of_ne hkey]
    exact hvalid
  · intro hfree
    -- a lease beside the granted one, both valid
    have hbeside : ∀ other : LeaseKey, other ≠ key → other.siteId = key.siteId → other.deviceId = key.deviceId →
        other.capability = key.capability → broker.leaseValid other now = true →
        (broker.grantLease key ttlSeconds now).2.leaseValid key now = true → False := by
      intro other hne hsite hdevice hcapability hvalid hself
      have hother : { key with runtimeInstanceId := other.runtimeInstanceId } = other := by
        rw [← hsite, ← hdevice, ← hcapability]
      refine hfree ⟨leaseValid_grantLease_self.mp hself, other.runtimeInstanceId, fun hid => hne ?_, ?_⟩
      · rw [← hother, hid]
      · rw [hother]
        exact hvalid
    intro first second hsite hdevice hcapability hvalid hvalid'
    by_cases hfirst : first = key
    · by_cases hsecond : second = key
      · rw [hfirst, hsecond]
      · rw [hfirst] at hvalid hsite hdevice hcapability
        rw [leaseValid_grantLease_of_ne hsecond] at hvalid'
        exact (hbeside second hsecond hsite.symm hdevice.symm hcapability.symm hvalid' hvalid).elim
    · rw [leaseValid_grantLease_of_ne hfirst] at hvalid
      by_cases hsecond : second = key
      · rw [hsecond] at hvalid' hsite hdevice hcapability
        exact (hbeside first hfirst hsite hdevice hcapability hvalid hvalid').elim
      · rw [leaseValid_grantLease_of_ne hsecond] at hvalid'
        exact h first second hsite hdevice hcapability hvalid hvalid'

end

/-! ### Devices -/

/-- What a device owes to the runtime that has set it last: it is that runtime's, or at its safe default. -/
def Kept (lastSetter : Option String) (device : SyntheticDeviceState) : Prop :=
  ∀ id, lastSetter = some id → device.ownerRuntimeId = some id ∨
    device.ownerRuntimeId = none ∧ device.powerW = device.safeDefaultPowerW

/-- Control is exclusive, and every device is kept. -/
structure ControlInvariant (s : ControlState) : Prop where
  exclusive : Exclusive s.broker s.now
  kept : ∀ key device, s.broker.devices key = some device → Kept (s.lastSetter key) device

section

variable {text ttlSeconds} {s : ControlState} {broker : DeviceControlBroker} {now : Instant} {call : ControlCall}
  {name id : String}

theorem deviceId_of_checkDevice {siteId : ℤ} {params : Dict} {permissions : List String} {checksSite : Bool}
    {deviceId : String} (h : checkDevice text siteId params permissions checksSite = .ok deviceId) :
    deviceId = text.str (getItemOr params "device_id" (.str "")) := by
  unfold checkDevice at h
  simp only [bind, Except.bind, pure, Except.pure, throw, throwThe, MonadExceptOf.throw] at h
  split_ifs at h
  · cases hsite : text.int (getItemOr params "site_id" (.num (.int siteId))) with
    | error e =>
      rw [hsite] at h
      cases h
    | ok deviceSiteId =>
      rw [hsite] at h
      dsimp only at h
      by_cases hsame : deviceSiteId = siteId
      · rw [if_neg (not_not_intro hsame)] at h
        exact (Except.ok.inj h).symm
      · rw [if_pos hsame] at h
        cases h
  · exact (Except.ok.inj h).symm

/-- A power setting makes the device the caller's; no other command changes a device. -/
theorem devices_applyCommand (text : RpcText) (broker : DeviceControlBroker) (name id : String) (siteId : ℤ)
    (deviceId : String) (params : Dict) (key : ℤ × String) :
    (applyCommand text broker siteId deviceId name params id).2.devices key = broker.devices key ∧
        ¬ (name = "set_power" ∧ (applyCommand text broker siteId deviceId name params id).1.isOk = true) ∨
      (name = "set_power" ∧ (applyCommand text broker siteId deviceId name params id).1.isOk = true) ∧
        (key ≠ (siteId, deviceId) ∧
            (applyCommand text broker siteId deviceId name params id).2.devices key = broker.devices key ∨
          key = (siteId, deviceId) ∧ ∃ device : SyntheticDeviceState,
            (applyCommand text broker siteId deviceId name params id).2.devices key = some device ∧
              device.ownerRuntimeId = some id) := by
  unfold applyCommand
  cases broker.devices (siteId, deviceId) with
  | none => exact .inl ⟨rfl, fun h => Bool.false_ne_true h.2⟩
  | some device =>
    dsimp only
    by_cases hname : name = "set_power"
    · rw [if_pos hname]
      cases text.float (getItemOr params "power_w" (.num (.int 0))) with
      | error e => exact .inl ⟨rfl, fun h => Bool.false_ne_true h.2⟩
      | ok power =>
        dsimp only
        by_cases hrange : power < 0 ∨ power > 11000
        · rw [if_pos hrange]
          exact .inl ⟨rfl, fun h => Bool.false_ne_true h.2⟩
        · rw [if_neg hrange]
          refine .inr ⟨⟨hname, rfl⟩, ?_⟩
          by_cases hkey : key = (siteId, deviceId)
          · refine .inr ⟨hkey, { device with
              powerW := power, ownerRuntimeId := some id, lastCommand := some name }, ?_, rfl⟩
            rw [hkey]
            exact Function.update_self _ _ _
          · exact .inl ⟨hkey, Function.update_of_ne hkey _ _⟩
    · rw [if_neg hname]
      refine .inl ⟨?_, fun h => hname h.1⟩
      split_ifs <;> rfl

variable (text) in
/-- A command that is not turned away is applied for the holder of a lease. -/
theorem answerCommand_cases (s : ControlState) (call : ControlCall) (name : String) (now : Instant) :
    ((answerCommand text s call name now).2 = s.broker ∧ (answerCommand text s call name now).1.isOk = false) ∨
      (s.broker.leaseValid (call.key text) now = true ∧ answerCommand text s call name now =
        applyCommand text s.broker call.siteId (call.deviceId text) name call.params call.runtimeInstanceId) := by
  unfold answerCommand command
  cases hcheck : checkDevice text call.siteId call.params call.permissions true with
  | error e => exact .inl ⟨rfl, rfl⟩
  | ok deviceId =>
    obtain rfl := deviceId_of_checkDevice hcheck
    dsimp only
    by_cases hvalid : s.broker.leaseValid (call.key text) now = true
    · refine .inr ⟨hvalid, ?_⟩
      exact if_neg (not_not_intro hvalid)
    · refine .inl ?_
      have hturned : (if ¬ s.broker.leaseValid (call.key text) now = true then
          (.error (.permission "control lease required; call AcquireControlLease first"), s.broker)
        else applyCommand text s.broker call.siteId (call.deviceId text) name call.params call.runtimeInstanceId :
          Except HandlerError Dict × DeviceControlBroker) =
          (.error (.permission "control lease required; call AcquireControlLease first"), s.broker) := if_pos hvalid
      exact ⟨congrArg Prod.snd hturned, congrArg (fun answer => answer.1.isOk) hturned⟩

theorem leases_answerCommand : (answerCommand text s call name now).2.leases = s.broker.leases := leases_command name

/-- A command keeps what the devices owe. -/
theorem kept_command (h : ∀ key device, s.broker.devices key = some device → Kept (s.lastSetter key) device) :
    ∀ key device, (controlStep text ttlSeconds s (now, .command call name)).broker.devices key = some device →
      Kept ((controlStep text ttlSeconds s (now, .command call name)).lastSetter key) device := by
  intro key device hdevice
  show Kept ((if SetsPower text s call name now then
    Function.update s.lastSetter (call.siteId, call.deviceId text) (some call.runtimeInstanceId)
    else s.lastSetter) key) device
  have hdevice' : (answerCommand text s call name now).2.devices key = some device := hdevice
  rcases answerCommand_cases text s call name now with ⟨hbroker, hok⟩ | ⟨-, happlied⟩
  · have hsets : ¬ SetsPower text s call name now := by
      rintro ⟨-, hset⟩
      rw [hok] at hset
      cases hset
    rw [if_neg hsets]
    rw [hbroker] at hdevice'
    exact h key device hdevice'
  · have hsets : SetsPower text s call name now ↔ name = "set_power" ∧
        (applyCommand text s.broker call.siteId (call.deviceId text) name call.params
          call.runtimeInstanceId).1.isOk = true := by
      unfold SetsPower
      rw [happlied]
    rw [happlied] at hdevice'
    rcases devices_applyCommand text s.broker name call.runtimeInstanceId call.siteId (call.deviceId text) call.params
      key with
      ⟨hsame, hnot⟩ | ⟨hset, ⟨hkey, hsame⟩ | ⟨rfl, device', hnew, howner⟩⟩
    · rw [if_neg (fun hset => hnot (hsets.mp hset))]
      rw [hsame] at hdevice'
      exact h key device hdevice'
    · rw [if_pos (hsets.mpr hset), Function.update_of_ne hkey]
      rw [hsame] at hdevice'
      exact h key device hdevice'
    · rw [if_pos (hsets.mpr hset), Function.update_self]
      rw [hnew, Option.some.injEq] at hdevice'
      rw [← hdevice']
      rintro id hid
      rw [← Option.some.inj hid]
      exact .inl howner

/-- What becomes of a device when a runtime is revoked. -/
theorem devices_revokeRuntime (key : ℤ × String) :
    (broker.revokeRuntime id).devices key = (broker.devices key).map fun device =>
      if device.ownerRuntimeId = some id then
        { device with ownerRuntimeId := none, powerW := device.safeDefaultPowerW }
      else device := rfl

/-- **A revoked runtime** leaves nothing set. -/
theorem released_revokeRuntime (h : ∀ key device, s.broker.devices key = some device → Kept (s.lastSetter key) device) :
    Released s id (s.broker.revokeRuntime id) := by
  intro key device hdevice hsetter
  rw [devices_revokeRuntime] at hdevice
  obtain ⟨before, hbefore, rfl⟩ := Option.map_eq_some_iff.mp hdevice
  by_cases howner : before.ownerRuntimeId = some id
  · rw [if_pos howner]
    exact ⟨rfl, rfl⟩
  · rw [if_neg howner]
    rcases h key before hbefore id hsetter with hself | hnone
    · exact absurd hself howner
    · exact hnone

theorem kept_revokeRuntime (h : ∀ key device, s.broker.devices key = some device → Kept (s.lastSetter key) device) :
    ∀ key device, (s.broker.revokeRuntime id).devices key = some device → Kept (s.lastSetter key) device := by
  intro key device hdevice setter hsetter
  rw [devices_revokeRuntime] at hdevice
  obtain ⟨before, hbefore, rfl⟩ := Option.map_eq_some_iff.mp hdevice
  by_cases howner : before.ownerRuntimeId = some id
  · rw [if_pos howner]
    exact .inr ⟨rfl, rfl⟩
  · rw [if_neg howner]
    exact h key before hbefore setter hsetter

theorem exclusive_revokeRuntime (h : Exclusive broker now) : Exclusive (broker.revokeRuntime id) now := by
  have hvalid : ∀ key, (broker.revokeRuntime id).leaseValid key now = true → broker.leaseValid key now = true := by
    intro key hvalid
    obtain ⟨expires, hlease, hlt⟩ := leaseValid_iff.mp hvalid
    rw [leases_revokeRuntime] at hlease
    split_ifs at hlease
    exact leaseValid_iff.mpr ⟨expires, hlease, hlt⟩
  exact fun key key' hsite hdevice hcapability hkey hkey' =>
    h key key' hsite hdevice hcapability (hvalid key hkey) (hvalid key' hkey')

end

/-! ### Steps -/

section

variable {text ttlSeconds} {s : ControlState} {now : Instant} {call : ControlCall} {name id : String}

variable (text ttlSeconds s now call) in
/-- A lease that is acquired is a granted one. -/
theorem acquireLease_cases : (controlStep text ttlSeconds s (now, .acquireLease call)).broker = s.broker ∧
        ¬ (∃ deviceId, checkDevice text call.siteId call.params call.permissions true = .ok deviceId) ∨
      (∃ deviceId, checkDevice text call.siteId call.params call.permissions true = .ok deviceId) ∧
        (controlStep text ttlSeconds s (now, .acquireLease call)).broker =
          (s.broker.grantLease (call.key text) ttlSeconds now).2 := by
  show (acquireLease text ttlSeconds s.broker call.runtimeInstanceId call.moduleId call.siteId call.capability
    call.params call.permissions now).2 = s.broker ∧ _ ∨ _ ∧ (acquireLease text ttlSeconds s.broker
      call.runtimeInstanceId call.moduleId call.siteId call.capability call.params call.permissions now).2 = _
  unfold acquireLease
  cases hcheck : checkDevice text call.siteId call.params call.permissions true with
  | error e =>
    refine .inl ⟨rfl, ?_⟩
    rintro ⟨_, h⟩
    cases h
  | ok deviceId =>
    obtain rfl := deviceId_of_checkDevice hcheck
    exact .inr ⟨⟨_, rfl⟩, rfl⟩

variable (text ttlSeconds s now call) in
/-- A lease is renewed for its holder. -/
theorem renewLease_cases : (controlStep text ttlSeconds s (now, .renewLease call)).broker = s.broker ∨
      s.broker.leaseValid (call.key text) now = true ∧ (controlStep text ttlSeconds s (now, .renewLease call)).broker =
        (s.broker.grantLease (call.key text) ttlSeconds now).2 := by
  show (renewLease text ttlSeconds s.broker call.runtimeInstanceId call.siteId call.capability call.params
    call.permissions now).2 = s.broker ∨ _ ∧ (renewLease text ttlSeconds s.broker call.runtimeInstanceId call.siteId
      call.capability call.params call.permissions now).2 = _
  unfold renewLease
  cases hcheck : checkDevice text call.siteId call.params call.permissions false with
  | error e => exact .inl rfl
  | ok deviceId =>
    obtain rfl := deviceId_of_checkDevice hcheck
    dsimp only
    by_cases hvalid : s.broker.leaseValid (call.key text) now = true
    · exact .inr ⟨hvalid, congrArg Prod.snd (if_neg (not_not_intro hvalid))⟩
    · exact .inl (congrArg Prod.snd (if_pos hvalid))

theorem devices_acquireLease :
    (controlStep text ttlSeconds s (now, .acquireLease call)).broker.devices = s.broker.devices := by
  rcases acquireLease_cases text ttlSeconds s now call with
    ⟨hbroker, -⟩ | ⟨-, hbroker⟩
  · rw [hbroker]
  · rw [hbroker]
    rfl

theorem devices_renewLease :
    (controlStep text ttlSeconds s (now, .renewLease call)).broker.devices = s.broker.devices := by
  rcases renewLease_cases text ttlSeconds s now call with
    hbroker | ⟨-, hbroker⟩
  · rw [hbroker]
  · rw [hbroker]
    rfl

/-- A renewal takes nothing from anybody. -/
theorem exclusive_renewLease (h : Exclusive s.broker now) :
    Exclusive (controlStep text ttlSeconds s (now, .renewLease call)).broker now := by
  rcases renewLease_cases text ttlSeconds s now call with
    hbroker | ⟨hvalid, hbroker⟩
  · rw [hbroker]
    exact h
  · rw [hbroker]
    refine (exclusive_grantLease_iff h).mpr ?_
    rintro ⟨-, id, hne, hother⟩
    have hkey := h { call.key text with runtimeInstanceId := id } (call.key text) rfl rfl rfl hother hvalid
    exact hne (congrArg LeaseKey.runtimeInstanceId hkey)

theorem exclusive_acquireLease_iff (h : Exclusive s.broker now) :
    Exclusive (controlStep text ttlSeconds s (now, .acquireLease call)).broker now ↔
      ¬ TakesHeldLease text ttlSeconds s (now, .acquireLease call) := by
  rcases acquireLease_cases text ttlSeconds s now call with
    ⟨hbroker, hcheck⟩ | ⟨hcheck, hbroker⟩
  · rw [hbroker]
    exact iff_of_true h fun htakes => hcheck htakes.1
  · rw [hbroker, exclusive_grantLease_iff h]
    exact not_congr ⟨fun htakes => ⟨hcheck, htakes⟩, fun htakes => htakes.2⟩

/-- A command that sets a power is the holder's. -/
theorem leaseValid_of_setsPower (h : SetsPower text s call name now) : s.broker.leaseValid (call.key text) now = true := by
  rcases answerCommand_cases text s call name now with ⟨-, hok⟩ | ⟨hvalid, -⟩
  · exact absurd (hok.symm.trans h.2) Bool.false_ne_true
  · exact hvalid

/-- **One call** is safe exactly if it takes no lease that another runtime holds. -/
theorem controlSafe_iff {step : Instant × ControlInput} (h : ControlInvariant s) (hclock : s.now ≤ step.1) :
    ControlSafe text ttlSeconds s step ↔ ¬ TakesHeldLease text ttlSeconds s step := by
  obtain ⟨now, input⟩ := step
  have hexclusive : Exclusive s.broker now := h.exclusive.mono hclock
  have hholder : ∀ call name, SetsPower text s call name now → s.broker.leaseValid (call.key text) now = true :=
    fun _ _ => leaseValid_of_setsPower
  have hreleased : ∀ id, input = .revokeRuntime id →
      Released s id (controlStep text ttlSeconds s (now, input)).broker := by
    rintro id rfl
    exact released_revokeRuntime h.kept
  have hsafe : Exclusive (controlStep text ttlSeconds s (now, input)).broker now →
      ControlSafe text ttlSeconds s (now, input) :=
    fun hexclusive' => ⟨hexclusive', fun call name _ => hholder call name, hreleased⟩
  cases input with
  | acquireLease call =>
    rw [← exclusive_acquireLease_iff hexclusive]
    exact ⟨ControlSafe.exclusive, hsafe⟩
  | renewLease call => exact iff_of_true (hsafe (exclusive_renewLease hexclusive)) not_false
  | command call name => exact iff_of_true (hsafe (hexclusive.congr leases_answerCommand)) not_false
  | revokeRuntime id => exact iff_of_true (hsafe (exclusive_revokeRuntime hexclusive)) not_false

theorem controlInvariant_controlStep {step : Instant × ControlInput} (h : ControlInvariant s) (hclock : s.now ≤ step.1)
    (hfree : ¬ TakesHeldLease text ttlSeconds s step) : ControlInvariant (controlStep text ttlSeconds s step) := by
  have hexclusive := ((controlSafe_iff h hclock).mpr hfree).exclusive
  obtain ⟨now, input⟩ := step
  cases input with
  | acquireLease call =>
    refine ⟨hexclusive, ?_⟩
    rw [devices_acquireLease]
    exact h.kept
  | renewLease call =>
    refine ⟨hexclusive, ?_⟩
    rw [devices_renewLease]
    exact h.kept
  | command call name => exact ⟨hexclusive, kept_command h.kept⟩
  | revokeRuntime id => exact ⟨hexclusive, kept_revokeRuntime h.kept⟩

end

/-! ### Control over a run -/

/-- Nobody has leases yet. -/
def ControlState.initial (devices : ℤ × String → Option SyntheticDeviceState) (now : Instant) : ControlState where
  broker := { devices := devices }
  now := now

theorem controlInvariant_initial (devices : ℤ × String → Option SyntheticDeviceState) (now : Instant) :
    ControlInvariant (ControlState.initial devices now) where
  exclusive _ _ _ _ _ hvalid _ := absurd hvalid Bool.false_ne_true
  kept _ _ _ _ hsetter := Option.noConfusion rfl (heq_of_eq hsetter)

/-- **In a run at non-decreasing times** control is exclusive, held by the runtime whose commands are applied, and given
back when a runtime is revoked, exactly if no runtime is granted a lease that another one holds. -/
theorem control_exclusive_iff {devices : ℤ × String → Option SyntheticDeviceState} {now : Instant}
    {steps : List (Instant × ControlInput)}
    (hclock : AllSteps (controlStep text ttlSeconds) (fun s step => s.now ≤ step.1) (ControlState.initial devices now)
      steps) :
    AllSteps (controlStep text ttlSeconds) (ControlSafe text ttlSeconds) (ControlState.initial devices now) steps ↔
      AllSteps (controlStep text ttlSeconds) (fun s step => ¬ TakesHeldLease text ttlSeconds s step)
        (ControlState.initial devices now) steps :=
  AllSteps.congr_of_invariant (I := ControlInvariant)
    (fun _ _ h hclock hfree => controlInvariant_controlStep h hclock hfree)
    (fun _ _ h hclock => controlSafe_iff h hclock) (controlInvariant_initial devices now) hclock

namespace HeaterDemo

def devices (key : ℤ × String) : Option SyntheticDeviceState := if key = (1, "heater") then some {} else none

/-- A runtime that asks for the lease of the heater. -/
def call (runtimeInstanceId : String) : ControlCall where
  runtimeInstanceId := runtimeInstanceId
  moduleId := "heat"
  siteId := 1
  capability := "device.control"
  params := [("device_id", .str "heater"), ("power_w", .num (.int 2000))]
  permissions := ["device.control"]

/-- The second runtime acquires the lease while the first one holds it. -/
def steps : List (Instant × ControlInput) := [(0, .acquireLease (call "r1")), (1, .acquireLease (call "r2"))]

end HeaterDemo

theorem control_exclusive_iff_heater :
    AllSteps (controlStep RpcText.plain 30) (ControlSafe RpcText.plain 30) (ControlState.initial HeaterDemo.devices 0)
        HeaterDemo.steps ↔
      AllSteps (controlStep RpcText.plain 30) (fun s step => ¬ TakesHeldLease RpcText.plain 30 s step)
        (ControlState.initial HeaterDemo.devices 0) HeaterDemo.steps :=
  control_exclusive_iff RpcText.plain 30 ⟨le_refl _, by decide +kernel, trivial⟩

theorem heater_leased_twice :
    AllSteps (controlStep RpcText.plain 30) (fun s step => s.now ≤ step.1) (ControlState.initial HeaterDemo.devices 0)
        HeaterDemo.steps ∧ ¬ AllSteps (controlStep RpcText.plain 30) (ControlSafe RpcText.plain 30)
        (ControlState.initial HeaterDemo.devices 0) HeaterDemo.steps := by
  refine ⟨⟨le_refl _, by decide +kernel, trivial⟩, fun h => ?_⟩
  have hexclusive := h.2.1.exclusive ⟨"r1", 1, "heater", "device.control"⟩ ⟨"r2", 1, "heater", "device.control"⟩
    rfl rfl rfl (by decide +kernel) (by decide +kernel)
  exact absurd hexclusive (by decide)

end EnergyCore.Isolation
