import EnergyCore.Charging.CommandController

/-!
# The cycle of the charging engine

`_run_charger_cycle` of `charging/engine.py` for one charger: it reads the charger and its meter, arms a charger that
waits for a vehicle, evaluates the state machine and sends its decision. What the engine gets from elsewhere (the energy
state, the optimizer's target, the answers of the module gate) are inputs of the cycle, and so is what happens to the
charger between two requests.

* `runChargerCycle` — the cycle, with the commands it sends;
* `runChargerCycle_of_reaches` — the cycle of a charger that passes the checks;
* `runChargerCycle_device` — any other cycle leaves the charger alone.
-/

namespace EnergyCore.Charging

variable {σ : Type*}

/-! ### Commands -/

inductive ChargerCommand where
  | setCurrent (amps : ℚ)
  | startCharging
  | stopCharging
  deriving Repr, DecidableEq

/-- An adapter that keeps a log of the commands it is sent. -/
def logged (adapter : ChargerAdapter σ) : ChargerAdapter (σ × List ChargerCommand) where
  getCapabilities s := adapter.getCapabilities s.1
  getStatus s := adapter.getStatus s.1
  setCurrent s amps := (((adapter.setCurrent s.1 amps).1, s.2 ++ [.setCurrent amps]), (adapter.setCurrent s.1 amps).2)
  startCharging s := (((adapter.startCharging s.1).1, s.2 ++ [.startCharging]), (adapter.startCharging s.1).2)
  stopCharging s := (((adapter.stopCharging s.1).1, s.2 ++ [.stopCharging]), (adapter.stopCharging s.1).2)

/-- A command that may start a charger. -/
def ChargerCommand.starts : ChargerCommand → Bool
  | .setCurrent amps => decide (0 < amps)
  | .startCharging => true
  | .stopCharging => false

/-! ### Rows and runtimes -/

structure MeterSnapshot where
  powerW : Option ℚ := none
  configuredCurrentA : Option ℚ := none
  actualChargingCurrentA : Option ℚ := none
  isCharging : Bool := false
  vehicleConnected : Bool := false
  deriving Repr, DecidableEq

/-- The fields of the energy state that the engine itself reads or writes. -/
structure EnergyState where
  timestamp : Instant
  dataAgeSeconds : ℚ := 0
  stale : Bool := false
  electricityPriceEurKwh : Option ℚ := none
  deriving Repr, DecidableEq

/-- The columns of a charger that a cycle reads. -/
structure EvCharger where
  hasExternalChargerId : Bool := true
  chargingMode : Option ChargingMode := none
  overrideUntil : Option Instant := none
  staleTimeoutSeconds : ℚ := 300
  minimumCurrentChangeIntervalSeconds : ℚ := 60
  currentHysteresisA : ℚ := 1
  smartChargingState : Option SmartChargingState := none
  lastAppliedCurrentA : Option ℚ := none
  lastRequestedCurrentA : Option ℚ := none
  lastConfiguredCurrentA : Option ℚ := none
  lastActualChargingCurrentA : Option ℚ := none
  lastActualPowerW : Option ℚ := none
  externallyLimited : Bool := false
  lastStartAt : Option Instant := none
  lastStopAt : Option Instant := none
  lastHeartbeatDataAt : Option Instant := none
  lastBridgeRunAt : Option Instant := none
  lastChargingAction : Option ChargingAction := none
  lastChargingReason : Option String := none
  lastChargerErrorCode : Option String := none
  lastHaloConnected : Option Bool := none
  lastVehicleConnected : Option Bool := none
  deriving Repr, DecidableEq

/-- A row of the cycles. -/
structure EvBridgeCycle where
  recordedAt : Instant
  appliedCurrentA : ℚ
  priceKwh : Option ℚ
  policyMode : PolicyMode
  decisionReason : String
  overrideActive : Bool
  vehicleConnected : Option Bool
  deriving Repr, DecidableEq

structure ChargerRuntimeState where
  antiFlapping : AntiFlappingState := {}
  smartRuntime : SmartChargingRuntime := {}
  /-- `ExternalLimitationTracker.limited_since`. -/
  limitedSince : Option Instant := none
  lastDecision : Option ChargingDecision := none
  lastEnergyState : Option EnergyState := none
  lastMeter : Option MeterSnapshot := none
  haloConnected : Option Bool := none
  vehicleConnected : Option Bool := none
  lastErrorCode : Option String := none
  lastRunAt : Option Instant := none
  restored : Bool := false
  deriving Repr, DecidableEq

/-- `override_active`. -/
def overrideActive (overrideUntil : Option Instant) (now : Instant) : Bool :=
  overrideUntil.any fun until' => decide (until' > now)

/-- `restore_runtime_from_charger`. -/
def restoreRuntimeFromCharger (charger : EvCharger) : SmartChargingRuntime where
  state := charger.smartChargingState.getD .waitingToStart
  requestedCurrentA := charger.lastRequestedCurrentA.getD 0
  targetCurrentA := charger.lastRequestedCurrentA.getD 0
  lastStartAt := charger.lastStartAt
  lastStopAt := charger.lastStopAt

/-- `list_starts_since`, over the rows in their order. -/
def listStartsSince (rows : List EvBridgeCycle) (since : Instant) : List Instant :=
  let step := fun (found : List Instant × ℚ) (row : EvBridgeCycle) =>
    (if row.appliedCurrentA > 0 ∧ found.2 ≤ 0 then found.1 ++ [row.recordedAt] else found.1, row.appliedCurrentA)
  ((rows.filter fun row => decide (row.recordedAt ≥ since)).foldl step ([], 0)).1

/-- `_ensure_runtime`, where `none` is an engine that does not know the charger yet. -/
def ensureRuntime (runtime : Option ChargerRuntimeState) (charger : EvCharger) (rows : List EvBridgeCycle)
    (now : Instant) : ChargerRuntimeState :=
  let runtime := runtime.getD { smartRuntime := restoreRuntimeFromCharger charger }
  if runtime.restored then runtime
  else
    { runtime with
      antiFlapping :=
        { runtime.antiFlapping with
          lastAppliedCurrentA := runtime.antiFlapping.lastAppliedCurrentA <|> charger.lastAppliedCurrentA
          lastCommandCurrentA := runtime.antiFlapping.lastCommandCurrentA <|> charger.lastRequestedCurrentA }
      smartRuntime := { runtime.smartRuntime with automaticStarts := listStartsSince rows (now - 3600) }
      restored := true }

/-- `_degraded_energy_state`. -/
def degradedEnergyState (charger : EvCharger) (now : Instant) : EnergyState where
  timestamp := charger.lastHeartbeatDataAt.getD now
  dataAgeSeconds :=
    match charger.lastHeartbeatDataAt with
    | some timestamp => max 0 (now - timestamp)
    | none => charger.staleTimeoutSeconds
  stale := true

/-- `_mark_stale`. -/
def markStale (energy : EnergyState) (staleTimeoutSeconds : ℚ) : EnergyState :=
  { energy with stale := decide (energy.dataAgeSeconds > staleTimeoutSeconds) }

/-- `ExternalLimitationTracker.update`: the new `limited_since`, and whether the limitation is stable. -/
def updateLimitation (limitedSince : Option Instant) (requestedCurrentA : ℚ)
    (configuredCurrentA actualChargingCurrentA : Option ℚ) (isCharging : Bool) (now : Instant) : Option Instant × Bool :=
  if !isCharging ∨ requestedCurrentA ≤ 0 then (none, false)
  else
    match actualChargingCurrentA with
    | none => (none, false)
    | some actual =>
      if configuredCurrentA.getD requestedCurrentA - actual < 1 then (none, false)
      else (some (limitedSince.getD now), decide (now - limitedSince.getD now ≥ 45))

/-! ### What a cycle is given -/

/-- The inputs of a cycle from outside of the engine. A computation that raises is `none`. -/
structure CycleInputs (σ : Type*) where
  now : Instant
  /-- Whether the module gate lets the cycle run. -/
  moduleActive : Bool := true
  siteHasSystemId : Bool := true
  /-- The state from the energy provider of the site; `some none` if the site has no provider. -/
  energyState : Option (Option EnergyState)
  /-- The configuration with the vehicle's context, clamped to the charger's capabilities. -/
  config : Option ChargingConfig
  optimizerTarget : EnergyState → Option (ℚ × String)
  slowSignals : EnergyState → FilteredEnergySignals
  /-- The price after `enrich_energy_import_prices`. -/
  priceKwh : EnergyState → Option ℚ := EnergyState.electricityPriceEurKwh
  meter : Option MeterSnapshot := none
  meterAfterArming : Option MeterSnapshot := none
  /-- What happens to the charger before its status is read, before it is armed, after that, and before the decision. -/
  beforeStatus : σ → σ := id
  beforeArming : σ → σ := id
  afterArming : σ → σ := id
  beforeDecision : σ → σ := id

/-- What the engine knows of a charger, in the store and in memory, and the charger itself. -/
structure EngineState (σ : Type*) where
  charger : EvCharger
  rows : List EvBridgeCycle := []
  runtime : Option ChargerRuntimeState := none
  device : σ

/-- What a cycle has seen of the charger. -/
structure Observation where
  haloConnected : Option Bool
  vehicleConnected : Option Bool
  isCharging : Bool := false
  configuredCurrentA : Option ℚ := none
  actualCurrentA : Option ℚ := none
  actualPowerW : Option ℚ := none
  faultCode : Option String := none
  deriving Repr, DecidableEq

/-! ### The charger before the decision -/

/-- The first reading of the charger's status. -/
def observeCharger (runtime : ChargerRuntimeState) (meter : Option MeterSnapshot)
    (status : Except ChargerApiErrorCode ChargerStatus) : Observation :=
  let configured := meter.bind MeterSnapshot.configuredCurrentA
  let actual := meter.bind MeterSnapshot.actualChargingCurrentA
  let power := meter.bind MeterSnapshot.powerW
  match status with
  | .ok status =>
    { haloConnected := some status.connected
      vehicleConnected := some (status.vehicleConnected || meter.any MeterSnapshot.vehicleConnected)
      isCharging := status.charging || meter.any MeterSnapshot.isCharging
      configuredCurrentA := configured <|> status.currentLimitA
      actualCurrentA := actual
      actualPowerW := power }
  | .error _ =>
    { haloConnected := runtime.haloConnected
      vehicleConnected := (meter.map MeterSnapshot.vehicleConnected) <|> runtime.vehicleConnected
      isCharging := meter.any MeterSnapshot.isCharging
      configuredCurrentA := configured
      actualCurrentA := actual
      actualPowerW := power
      faultCode := some "charger_offline" }

/-- `halo_connected and not vehicle_connected`, with a charger that is not known to lack the start command. -/
def Observation.arms (seen : Observation) (capabilities : Option ChargerCapabilities) : Bool :=
  seen.haloConnected.getD false && !seen.vehicleConnected.getD false && !lacks capabilities .start

/-- The reading after arming. -/
def Observation.afterArming (seen : Observation) (meter : Option MeterSnapshot) (status : ChargerStatus) : Observation :=
  { seen with
    haloConnected := some status.connected
    vehicleConnected := some (status.vehicleConnected || meter.any MeterSnapshot.vehicleConnected)
    isCharging := status.charging || meter.any MeterSnapshot.isCharging
    configuredCurrentA :=
      (meter.bind MeterSnapshot.configuredCurrentA) <|> seen.configuredCurrentA <|> status.currentLimitA
    actualCurrentA := if meter.isSome then meter.bind MeterSnapshot.actualChargingCurrentA else seen.actualCurrentA
    actualPowerW := if meter.isSome then meter.bind MeterSnapshot.powerW else seen.actualPowerW }

/-- A reading of the charger, with the meter it used and whether a status came. -/
structure ChargerReading (σ : Type*) where
  device : σ
  seen : Observation
  meter : Option MeterSnapshot
  statusRead : Bool

/-- The charger is sent the start command while no vehicle is plugged in; an error of it is swallowed. -/
def armCharger (adapter : ChargerAdapter σ) (inputs : CycleInputs σ) (reading : ChargerReading σ) : ChargerReading σ :=
  match adapter.startCharging reading.device with
  | (device, some _) => { reading with device := device }
  | (device, none) =>
    match adapter.getStatus (inputs.afterArming device) with
    | .error _ => { reading with device := inputs.afterArming device }
    | .ok status =>
      { device := inputs.afterArming device
        seen := reading.seen.afterArming inputs.meterAfterArming status
        meter := inputs.meterAfterArming
        statusRead := true }

/-- The charger as it is found. -/
def findCharger (adapter : ChargerAdapter σ) (inputs : CycleInputs σ) (runtime : ChargerRuntimeState) (device : σ) :
    ChargerReading σ :=
  let status := adapter.getStatus (inputs.beforeStatus device)
  { device := inputs.beforeArming (inputs.beforeStatus device)
    seen := observeCharger runtime inputs.meter status
    meter := inputs.meter
    statusRead := status.toOption.isSome }

/-- The charger as it is found, armed where it waits for a vehicle. -/
def readCharger (adapter : ChargerAdapter σ) (inputs : CycleInputs σ) (runtime : ChargerRuntimeState) (device : σ) :
    ChargerReading σ :=
  let found := findCharger adapter inputs runtime device
  if found.seen.arms (adapter.getCapabilities found.device) then armCharger adapter inputs found else found

/-! ### The decision -/

/-- The runtime after the charger has been read. -/
def ChargerRuntimeState.withReading (runtime : ChargerRuntimeState) (reading : ChargerReading σ) : ChargerRuntimeState :=
  { runtime with
    lastMeter := reading.meter
    haloConnected := if reading.statusRead then reading.seen.haloConnected else runtime.haloConnected
    vehicleConnected := if reading.statusRead then reading.seen.vehicleConnected else runtime.vehicleConnected }

def evaluateCall (inputs : CycleInputs σ) (charger : EvCharger) (config : ChargingConfig) (energy : EnergyState)
    (target : ℚ × String) (seen : Observation) : EvaluateCall where
  config := config
  chargingMode := charger.chargingMode
  optimizerTargetA := target.1
  optimizerReason := target.2
  slowSignals := inputs.slowSignals energy
  vehicleConnected := seen.vehicleConnected.getD false
  haloConnected := seen.haloConnected.getD false
  isCharging := seen.isCharging
  faultCode := seen.faultCode
  now := inputs.now
  overrideActive := overrideActive charger.overrideUntil inputs.now

/-- The decision is sent, and the charger's row, the runtime and a row of the cycle are written. -/
def finishCycle (adapter : ChargerAdapter σ) (inputs : CycleInputs σ) (energy : EnergyState) (isOverride : Bool)
    (seen : Observation) (evaluated : SmartChargingRuntime × ChargingDecision) (runtime : ChargerRuntimeState)
    (s : EngineState σ) : EngineState σ :=
  let decision :=
    { evaluated.2 with
      smartChargingState := some evaluated.1.state
      externallyLimited := evaluated.1.externallyLimited }
  let antiConfig : AntiFlappingConfig :=
    { minChangeIntervalSeconds := s.charger.minimumCurrentChangeIntervalSeconds
      currentHysteresisA := s.charger.currentHysteresisA }
  let applied := apply adapter antiConfig decision inputs.now
    { charger := inputs.beforeDecision s.device, antiFlapping := runtime.antiFlapping }
  let result := applied.2
  let vehicleConnected := (result.chargerStatus.map ChargerStatus.vehicleConnected) <|> seen.vehicleConnected
  let configured := seen.configuredCurrentA <|> result.chargerStatus.bind ChargerStatus.currentLimitA
  let isCharging := seen.isCharging || result.chargerStatus.any ChargerStatus.charging
  let limitation := updateLimitation runtime.limitedSince evaluated.1.requestedCurrentA configured seen.actualCurrentA
    isCharging inputs.now
  let haloConnected := (result.chargerStatus.map ChargerStatus.connected) <|> runtime.haloConnected
  { device := applied.1.charger
    runtime := some
      { runtime with
        antiFlapping := applied.1.antiFlapping
        smartRuntime := { evaluated.1 with externallyLimited := limitation.2 }
        limitedSince := limitation.1
        lastDecision := some decision
        lastEnergyState := some energy
        haloConnected := haloConnected
        vehicleConnected := (result.chargerStatus.map ChargerStatus.vehicleConnected) <|> runtime.vehicleConnected
        lastErrorCode := result.errorCode
        lastRunAt := some inputs.now }
    charger :=
      { s.charger with
        lastHeartbeatDataAt := some energy.timestamp
        lastBridgeRunAt := some inputs.now
        lastAppliedCurrentA := if result.applied then some result.appliedCurrentA else s.charger.lastAppliedCurrentA
        smartChargingState := some evaluated.1.state
        lastRequestedCurrentA := some evaluated.1.requestedCurrentA
        lastConfiguredCurrentA := configured
        lastActualChargingCurrentA := seen.actualCurrentA
        lastActualPowerW := seen.actualPowerW
        externallyLimited := limitation.2
        lastStartAt := evaluated.1.lastStartAt
        lastStopAt := evaluated.1.lastStopAt
        lastChargingAction :=
          some (if result.applied then (if result.appliedCurrentA ≤ 0 then .stop else .setCurrent) else decision.action)
        lastChargingReason := some decision.reason
        lastChargerErrorCode := result.errorCode
        lastHaloConnected := haloConnected
        lastVehicleConnected := vehicleConnected }
    rows := s.rows ++
      [{ recordedAt := inputs.now
         appliedCurrentA := result.appliedCurrentA
         priceKwh := inputs.priceKwh energy
         policyMode := decision.policyMode
         decisionReason := decision.reason
         overrideActive := isOverride
         vehicleConnected := vehicleConnected }] }

/-! ### The cycle -/

/-- An override that is over is taken out of the row. -/
def expireOverride (charger : EvCharger) (now : Instant) : EvCharger :=
  if charger.overrideUntil.any fun until' => decide (until' ≤ now) then { charger with overrideUntil := none }
  else charger

/-- The energy state that the optimizer is given. -/
def cycleEnergy (inputs : CycleInputs σ) (charger : EvCharger) (provided : Option EnergyState) : EnergyState :=
  markStale (provided.getD (degradedEnergyState charger inputs.now)) charger.staleTimeoutSeconds

/-- The cycle once its inputs are there. -/
def controlCharger (adapter : ChargerAdapter σ) (inputs : CycleInputs σ) (energy : EnergyState) (config : ChargingConfig)
    (target : ℚ × String) (runtime : ChargerRuntimeState) (s : EngineState σ) : EngineState σ :=
  let reading := readCharger adapter inputs runtime s.device
  let call := evaluateCall inputs s.charger config energy target reading.seen
  finishCycle adapter inputs energy (overrideActive s.charger.overrideUntil inputs.now) reading.seen
    (evaluateSmartCharging runtime.smartRuntime call) (runtime.withReading reading) { s with device := reading.device }

/-- `_run_charger_cycle`; an error that is raised on the way ends the cycle. -/
def runChargerCycle (adapter : ChargerAdapter σ) (inputs : CycleInputs σ) (s : EngineState σ) : EngineState σ :=
  if !inputs.moduleActive then s
  else if !inputs.siteHasSystemId then s
  else if !s.charger.hasExternalChargerId then
    { s with
      charger :=
        { s.charger with lastChargingReason := some "missing_chargeamp_id", lastBridgeRunAt := some inputs.now } }
  else
    match inputs.energyState, inputs.config with
    | some provided, some config =>
      let energy := cycleEnergy inputs s.charger provided
      let runtime := ensureRuntime s.runtime s.charger s.rows inputs.now
      let s := { s with charger := expireOverride s.charger inputs.now, runtime := some runtime }
      match inputs.optimizerTarget energy with
      | none => s
      | some target => controlCharger adapter inputs energy config target runtime s
    | _, _ => s

/-- Nothing keeps the cycle from reading the charger. -/
def CycleInputs.reaches (inputs : CycleInputs σ) (charger : EvCharger) : Bool :=
  inputs.moduleActive && inputs.siteHasSystemId && charger.hasExternalChargerId && inputs.config.isSome &&
    inputs.energyState.any fun provided => (inputs.optimizerTarget (cycleEnergy inputs charger provided)).isSome

theorem overrideActive_expireOverride (charger : EvCharger) (now : Instant) :
    overrideActive (expireOverride charger now).overrideUntil now = overrideActive charger.overrideUntil now := by
  unfold expireOverride
  split_ifs with hover
  · cases huntil : charger.overrideUntil with
    | none => rfl
    | some until' =>
      rw [huntil, Option.any_some, decide_eq_true_eq] at hover
      show false = decide (until' > now)
      rw [eq_comm, decide_eq_false_iff_not]
      exact not_lt.mpr hover
  · rfl

theorem chargingMode_expireOverride (charger : EvCharger) (now : Instant) :
    (expireOverride charger now).chargingMode = charger.chargingMode := by
  unfold expireOverride
  split_ifs
  · rfl
  · rfl

/-- **The cycle of a charger that passes the checks.** -/
theorem runChargerCycle_of_reaches (adapter : ChargerAdapter σ) {inputs : CycleInputs σ} {s : EngineState σ}
    (h : inputs.reaches s.charger = true) : ∃ energy config target, runChargerCycle adapter inputs s
      = controlCharger adapter inputs energy config target (ensureRuntime s.runtime s.charger s.rows inputs.now)
          { s with
            charger := expireOverride s.charger inputs.now
            runtime := some (ensureRuntime s.runtime s.charger s.rows inputs.now) } := by
  unfold CycleInputs.reaches at h
  rw [Bool.and_eq_true, Bool.and_eq_true, Bool.and_eq_true, Bool.and_eq_true] at h
  obtain ⟨⟨⟨⟨hactive, hsite⟩, hcharger⟩, hconfig⟩, htarget⟩ := h
  obtain ⟨config, hconfig⟩ := Option.isSome_iff_exists.mp hconfig
  obtain ⟨provided, henergy, htarget⟩ := (Option.any_eq_true _ _).mp htarget
  obtain ⟨target, htarget⟩ := Option.isSome_iff_exists.mp htarget
  refine ⟨cycleEnergy inputs s.charger provided, config, target, ?_⟩
  unfold runChargerCycle
  rw [hactive, hsite, hcharger, henergy, hconfig]
  dsimp only
  rw [htarget]
  rfl

/-- Any other cycle does not reach for the charger. -/
theorem runChargerCycle_device (adapter : ChargerAdapter σ) {inputs : CycleInputs σ} {s : EngineState σ}
    (h : inputs.reaches s.charger = false) : (runChargerCycle adapter inputs s).device = s.device := by
  unfold runChargerCycle
  split_ifs with hactive hsite hcharger
  · rfl
  · rfl
  · rfl
  · rw [Bool.not_eq_true, Bool.not_eq_false'] at hactive hsite hcharger
    cases henergy : inputs.energyState with
    | none => rfl
    | some provided =>
      cases hconfig : inputs.config with
      | none => rfl
      | some config =>
        dsimp only
        unfold CycleInputs.reaches at h
        rw [hactive, hsite, hcharger, henergy, hconfig, Option.any_some] at h
        have htarget : inputs.optimizerTarget (cycleEnergy inputs s.charger provided) = none := by
          simpa using h
        rw [htarget]

end EnergyCore.Charging
