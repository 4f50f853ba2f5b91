import EnergyCore.Foundations.Clock

/-!
# The smart charging state machine

`evaluateSmartCharging` is `evaluate_smart_charging` of `charging/state_machine.py`, with its start path,
its stop path, the ramp and the timers. Python updates the runtime in place and returns it; here every
path returns the updated runtime together with the decision.

Every current, power, price and duration is an exact rational. A charging mode is the text of the charger
row after `.upper()`: the eight names the policy sets list, `PAUSED`, or any other text. An absent or empty
text is `none`.
-/

namespace EnergyCore.Charging

/-! ### Charging modes, configuration and the predicates of `charging/policy` -/

/-- The fields of `ChargingConfig` that the state machine reads, with the defaults of the source. -/
structure ChargingConfig where
  maxCurrentA : ℚ := 16
  minCurrentA : ℚ := 6
  solarStartThresholdW : ℚ := 1000
  startDelaySeconds : ℚ := 120
  stopDelaySeconds : ℚ := 300
  minimumRunTimeSeconds : ℚ := 300
  minimumOffTimeSeconds : ℚ := 300
  temporaryGridImportAllowanceW : ℚ := 800
  temporaryGridImportSeconds : ℚ := 180
  gridDeadbandW : ℚ := 300
  maxCurrentIncreasePerStepA : ℚ := 1
  maxCurrentDecreasePerStepA : ℚ := 2
  maxAutomaticStartsPerHour : ℕ := 4
  deriving Repr, DecidableEq

/-- The bounds that the charger API puts on these fields. -/
def ChargingConfig.ApiAdmits (cfg : ChargingConfig) : Prop :=
  (0 < cfg.maxCurrentA ∧ cfg.maxCurrentA ≤ 32) ∧
  (0 ≤ cfg.minCurrentA ∧ cfg.minCurrentA ≤ 32) ∧
  0 ≤ cfg.solarStartThresholdW ∧
  (0 ≤ cfg.startDelaySeconds ∧ cfg.startDelaySeconds ≤ 3600) ∧
  (0 ≤ cfg.stopDelaySeconds ∧ cfg.stopDelaySeconds ≤ 3600) ∧
  (0 ≤ cfg.minimumRunTimeSeconds ∧ cfg.minimumRunTimeSeconds ≤ 3600) ∧
  (0 ≤ cfg.minimumOffTimeSeconds ∧ cfg.minimumOffTimeSeconds ≤ 3600) ∧
  0 ≤ cfg.temporaryGridImportAllowanceW ∧
  (0 ≤ cfg.temporaryGridImportSeconds ∧ cfg.temporaryGridImportSeconds ≤ 3600) ∧
  0 ≤ cfg.gridDeadbandW ∧
  (0 ≤ cfg.maxCurrentIncreasePerStepA ∧ cfg.maxCurrentIncreasePerStepA ≤ 32) ∧
  (0 ≤ cfg.maxCurrentDecreasePerStepA ∧ cfg.maxCurrentDecreasePerStepA ≤ 32) ∧
  (1 ≤ cfg.maxAutomaticStartsPerHour ∧ cfg.maxAutomaticStartsPerHour ≤ 20)

instance (cfg : ChargingConfig) : Decidable cfg.ApiAdmits := by
  unfold ChargingConfig.ApiAdmits; infer_instance

/-- The text of a charging mode, upper-cased. -/
inductive ChargingMode where
  | solarCharge | solar
  | quickCharge | quick
  | smartCharge | smart
  | priceCharge | price
  | paused
  | other (name : String)
  deriving Repr, DecidableEq

def solarModes : List ChargingMode := [.solarCharge, .solar]

def quickModes : List ChargingMode := [.quickCharge, .quick]

def smartModes : List ChargingMode := [.smartCharge, .smart]

def priceModes : List ChargingMode := [.priceCharge, .price]

/-- An absent mode means `SMART_CHARGE`. -/
def normalizedMode (chargingMode : Option ChargingMode) : ChargingMode :=
  chargingMode.getD .smartCharge

/-- The policy a decision reports: the override, or the mode itself. -/
inductive PolicyMode where
  | override
  | mode (m : ChargingMode)
  deriving Repr, DecidableEq

def decisionPolicyMode (chargingMode : Option ChargingMode) (overrideActive : Bool) : PolicyMode :=
  if overrideActive then .override else .mode (normalizedMode chargingMode)

/-- True when an explicit `PAUSED` blocks charging; the override wins over it. -/
def respectsManualPause (chargingMode : Option ChargingMode) (overrideActive : Bool) : Bool :=
  decide (normalizedMode chargingMode = .paused) && !overrideActive

/-- Quick charge and manual override start without the start delay. -/
def immediateStart (chargingMode : Option ChargingMode) (overrideActive : Bool) : Bool :=
  if overrideActive then true else decide (normalizedMode chargingMode ∈ quickModes)

/-- Smart and price modes use the general start delay. -/
def usesStartDelay (chargingMode : Option ChargingMode) (overrideActive : Bool) : Bool :=
  if immediateStart chargingMode overrideActive then false
  else if normalizedMode chargingMode ∈ solarModes then false
  else decide (normalizedMode chargingMode ∈ smartModes ++ priceModes)

/-- Skip the cooldown and the hourly start limit for charging the user asked for. -/
def bypassesGuardrails (chargingMode : Option ChargingMode) (overrideActive : Bool) : Bool :=
  immediateStart chargingMode overrideActive

@[simp] theorem normalizedMode_some (m : ChargingMode) : normalizedMode (some m) = m := rfl

theorem immediateStart_normalized (m : Option ChargingMode) (o : Bool) :
    immediateStart (some (normalizedMode m)) o = immediateStart m o := rfl

theorem bypassesGuardrails_eq (m : Option ChargingMode) (o : Bool) : bypassesGuardrails m o = immediateStart m o := rfl

/-! ### Runtime and decisions -/

inductive SmartChargingState where
  | paused | waitingToStart | starting | chargingStable | reducing
  | waitingToStop | stopping | cooldown | fault
  deriving Repr, DecidableEq

/-- `SmartChargingRuntime`, with its defaults: a fresh runtime is `{}`. -/
structure SmartChargingRuntime where
  state : SmartChargingState := .waitingToStart
  requestedCurrentA : ℚ := 0
  targetCurrentA : ℚ := 0
  externallyLimited : Bool := false
  startConditionSince : Option Instant := none
  stopConditionSince : Option Instant := none
  temporaryImportSince : Option Instant := none
  lastStartAt : Option Instant := none
  lastStopAt : Option Instant := none
  lastRequestedChangeAt : Option Instant := none
  automaticStarts : List Instant := []
  cooldownUntil : Option Instant := none
  deriving Repr, DecidableEq

/-- The action of a decision. `fault` is the stop decision of the fault path; `pause` is read by the
command controller only. -/
inductive ChargingAction where
  | setCurrent | stop | fault | none | pause
  deriving Repr, DecidableEq

/-- `ChargingDecision`. The engine fills the last two fields in afterwards. -/
structure ChargingDecision where
  requestedCurrentA : ℚ
  appliedCurrentA : ℚ
  requestedPowerW : Option ℚ := none
  action : ChargingAction
  reason : String
  policyMode : PolicyMode
  skipApply : Bool := false
  smartChargingState : Option SmartChargingState := none
  externallyLimited : Bool := false
  deriving Repr, DecidableEq

/-- The three filtered signals the state machine reads. -/
structure FilteredEnergySignals where
  gridImportW : ℚ := 0
  gridExportW : ℚ := 0
  batteryDischargePowerW : ℚ := 0
  deriving Repr, DecidableEq

/-- The keyword arguments of one call, the runtime apart. -/
structure EvaluateCall where
  config : ChargingConfig := {}
  chargingMode : Option ChargingMode := none
  optimizerTargetA : ℚ
  optimizerReason : String := ""
  slowSignals : FilteredEnergySignals := {}
  vehicleConnected : Bool := true
  haloConnected : Bool := true
  isCharging : Bool
  faultCode : Option String := none
  now : Instant
  overrideActive : Bool := false
  deriving Repr, DecidableEq

/-- Python's truth value of an optional text. -/
def truthyText (s : Option String) : Bool := decide (s.getD "" ≠ "")

def setDecision (currentA : ℚ) (mode : PolicyMode) (reason : String) : ChargingDecision :=
  { requestedCurrentA := currentA, appliedCurrentA := currentA, action := .setCurrent,
    reason := reason, policyMode := mode }

def stopDecision (action : ChargingAction) (mode : PolicyMode) (reason : String) : ChargingDecision :=
  { requestedCurrentA := 0, appliedCurrentA := 0, action := action,
    reason := reason, policyMode := mode }

def noneDecision (currentA : ℚ) (mode : PolicyMode) (reason : String) : ChargingDecision :=
  { requestedCurrentA := currentA, appliedCurrentA := currentA, action := .none,
    reason := reason, policyMode := mode, skipApply := true }

/-! ### Helpers -/

def urgentOptimizerReasons : List String := ["deadline_risk", "deadline_overdue"]

def isUrgentReason (reason : String) : Bool := decide (reason ∈ urgentOptimizerReasons)

/-- `_apply_ramp`: one step from `current` towards `target`. -/
def applyRamp (current target : ℚ) (cfg : ChargingConfig) (urgent : Bool) : ℚ :=
  let increaseStep := cfg.maxCurrentIncreasePerStepA * (if urgent then 2 else 1)
  if target > current then min target (current + increaseStep)
  else if target < current then max target (current - cfg.maxCurrentDecreasePerStepA)
  else current

def clampTarget (target : ℚ) (cfg : ChargingConfig) : ℚ :=
  if target ≤ 0 then 0
  else
    let target := min target cfg.maxCurrentA
    if target < cfg.minCurrentA then 0 else target

/-- `_prune_starts`: the starts of the last hour. -/
def pruneStarts (starts : List Instant) (now : Instant) : List Instant :=
  starts.filter fun stamp => decide (stamp ≥ now - 3600)

def resetTimers (r : SmartChargingRuntime) : SmartChargingRuntime :=
  { r with startConditionSince := none, stopConditionSince := none, temporaryImportSince := none }

def startAllowed (r : SmartChargingRuntime) (cfg : ChargingConfig) (now : Instant) : Bool :=
  match r.lastStopAt with
  | some lastStopAt =>
    if now - lastStopAt < cfg.minimumOffTimeSeconds then false
    else decide (r.automaticStarts.length < cfg.maxAutomaticStartsPerHour)
  | none => decide (r.automaticStarts.length < cfg.maxAutomaticStartsPerHour)

def inMinimumRunPeriod (r : SmartChargingRuntime) (cfg : ChargingConfig) (now : Instant) : Bool :=
  match r.lastStartAt with
  | none => false
  | some lastStartAt => decide (now - lastStartAt < cfg.minimumRunTimeSeconds)

/-- `_temporary_import_allowed`: the updated runtime and the answer. -/
def temporaryImportAllowed (r : SmartChargingRuntime) (cfg : ChargingConfig) (importW : ℚ)
    (now : Instant) : SmartChargingRuntime × Bool :=
  if importW ≤ cfg.temporaryGridImportAllowanceW then
    let since := r.temporaryImportSince.getD now
    ({ r with temporaryImportSince := some since },
      decide (now - since ≤ cfg.temporaryGridImportSeconds))
  else ({ r with temporaryImportSince := none }, false)

/-! ### The start path -/

def handleStartPath (r : SmartChargingRuntime) (cfg : ChargingConfig) (mode : ChargingMode)
    (policyMode : PolicyMode) (desired : ℚ) (reason : String) (exportW : ℚ)
    (overrideActive : Bool) (now : Instant) : SmartChargingRuntime × ChargingDecision :=
  let fastStart := immediateStart (some mode) overrideActive
  if desired ≤ 0 then
    ({ r with state := .waitingToStart, requestedCurrentA := 0, targetCurrentA := 0 },
      noneDecision 0 policyMode reason)
  else if !bypassesGuardrails (some mode) overrideActive && !startAllowed r cfg now then
    ({ r with state := .waitingToStart, requestedCurrentA := 0, targetCurrentA := desired },
      noneDecision 0 policyMode "start_rate_limited")
  else if mode ∈ solarModes ∧ exportW < cfg.solarStartThresholdW then
    ({ r with startConditionSince := none, state := .waitingToStart },
      noneDecision 0 policyMode "waiting_for_export")
  else
    let urgent := isUrgentReason reason
    let delayed := usesStartDelay (some mode) overrideActive && !urgent
    let since := r.startConditionSince.getD now
    if delayed ∧ now - since < cfg.startDelaySeconds then
      ({ r with startConditionSince := some since, state := .waitingToStart },
        noneDecision 0 policyMode "start_delay")
    else
      let startCurrent :=
        max cfg.minCurrentA (if fastStart || urgent then desired else applyRamp 0 desired cfg urgent)
      ({ r with
          state := if fastStart then .chargingStable else .starting
          requestedCurrentA := startCurrent
          targetCurrentA := desired
          lastRequestedChangeAt := some now
          lastStartAt := some now
          automaticStarts :=
            if bypassesGuardrails (some mode) overrideActive then r.automaticStarts
            else r.automaticStarts ++ [now]
          startConditionSince := none },
        setDecision startCurrent policyMode reason)

/-! ### The stop path -/

def handleStopPath (r : SmartChargingRuntime) (cfg : ChargingConfig) (policyMode : PolicyMode)
    (reason : String) (importW : ℚ) (inRunPeriod temporaryImportOk isCharging fastStop : Bool)
    (now : Instant) : SmartChargingRuntime × ChargingDecision :=
  let r := { r with startConditionSince := none, targetCurrentA := 0 }
  let reduced := applyRamp r.requestedCurrentA cfg.minCurrentA cfg false
  let reducing := { r with
    state := .reducing, requestedCurrentA := reduced, lastRequestedChangeAt := some now }
  -- a first branch that ends below the minimum falls through to the second
  if (!fastStop && inRunPeriod && (temporaryImportOk || decide (importW ≤ cfg.gridDeadbandW)))
      ∧ reduced ≥ cfg.minCurrentA then
    (reducing, setDecision reduced policyMode "temporary_grid_import")
  else if (!fastStop && inRunPeriod) ∧ r.requestedCurrentA > cfg.minCurrentA then
    (reducing, setDecision reduced policyMode "reduce_before_stop")
  else
    let stopDelay := if fastStop then 0 else cfg.stopDelaySeconds
    let since := r.stopConditionSince.getD now
    if now - since < stopDelay ∧ isCharging then
      ({ r with stopConditionSince := some since, state := .waitingToStop },
        noneDecision r.requestedCurrentA policyMode "stop_delay")
    else
      ({ r with
          state := .stopping
          requestedCurrentA := 0
          lastStopAt := some now
          cooldownUntil :=
            if fastStop then r.cooldownUntil else some (now + cfg.minimumOffTimeSeconds)
          stopConditionSince := none },
        stopDecision .stop policyMode reason)

/-! ### The ramp -/

/-- The tail of `evaluate_smart_charging`: the ramp from the remembered current to `desired`. -/
def handleRamp (r : SmartChargingRuntime) (cfg : ChargingConfig) (policyMode : PolicyMode)
    (desired : ℚ) (reason : String) (isCharging : Bool) (now : Instant) : SmartChargingRuntime × ChargingDecision :=
  let r := { r with stopConditionSince := none }
  let nextCurrent := applyRamp r.requestedCurrentA desired cfg (isUrgentReason reason)
  if |nextCurrent - r.requestedCurrentA| < 1 / 100 then
    let stable := { r with state := .chargingStable, targetCurrentA := desired }
    -- an idle charger is sent the same current again, which carries the start command
    if !isCharging then (stable, setDecision r.requestedCurrentA policyMode reason)
    else (stable, noneDecision r.requestedCurrentA policyMode reason)
  else
    ({ r with
        state := if nextCurrent < r.requestedCurrentA then .reducing else .chargingStable
        requestedCurrentA := nextCurrent
        targetCurrentA := desired
        lastRequestedChangeAt := some now },
      setDecision nextCurrent policyMode reason)

/-! ### One evaluation -/

/-- The states from which a positive target goes through the start path. -/
def startStates : List SmartChargingState := [.waitingToStart, .cooldown, .stopping, .paused]

/-- Whether the cooldown of the runtime holds the call back. -/
def coolingDown (r : SmartChargingRuntime) (c : EvaluateCall) : Bool :=
  !bypassesGuardrails c.chargingMode c.overrideActive &&
    r.cooldownUntil.any fun cooldownUntil => decide (c.now < cooldownUntil)

/-- The call after the fault, pause, vehicle and cooldown checks. -/
def evaluateReady (r : SmartChargingRuntime) (c : EvaluateCall) : SmartChargingRuntime × ChargingDecision :=
  let mode := normalizedMode c.chargingMode
  let policyMode := decisionPolicyMode c.chargingMode c.overrideActive
  let fastStart := immediateStart c.chargingMode c.overrideActive
  let r := { r with cooldownUntil := none }
  let desired := clampTarget c.optimizerTargetA c.config
  let exportW := max 0 (c.slowSignals.gridExportW - c.slowSignals.batteryDischargePowerW)
  let importW := c.slowSignals.gridImportW
  let inRunPeriod := inMinimumRunPeriod r c.config c.now
  let temporaryImport := temporaryImportAllowed r c.config importW c.now
  let r := temporaryImport.1
  if desired ≤ 0 then
    handleStopPath r c.config policyMode c.optimizerReason importW (inRunPeriod && !fastStart)
      temporaryImport.2 c.isCharging fastStart c.now
  else if r.state ∈ startStates then
    handleStartPath r c.config mode policyMode desired c.optimizerReason exportW
      c.overrideActive c.now
  else if r.requestedCurrentA ≤ 0 ∧ desired > 0 then
    handleStartPath r c.config mode policyMode desired c.optimizerReason exportW
      c.overrideActive c.now
  else handleRamp r c.config policyMode desired c.optimizerReason c.isCharging c.now

/-- `evaluate_smart_charging`. -/
def evaluateSmartCharging (runtime : SmartChargingRuntime) (c : EvaluateCall) :
    SmartChargingRuntime × ChargingDecision :=
  let policyMode := decisionPolicyMode c.chargingMode c.overrideActive
  let r := { runtime with automaticStarts := pruneStarts runtime.automaticStarts c.now }
  if truthyText c.faultCode || !c.haloConnected then
    ({ r with state := .fault },
      stopDecision .fault policyMode
        (if truthyText c.faultCode then c.faultCode.getD "" else "charger_offline"))
  else if respectsManualPause c.chargingMode c.overrideActive then
    ({ r with state := .paused, requestedCurrentA := 0, targetCurrentA := 0 },
      stopDecision .stop policyMode "user_paused")
  else if !c.vehicleConnected then
    ({ resetTimers r with state := .waitingToStart, requestedCurrentA := 0, targetCurrentA := 0 },
      noneDecision 0 policyMode "no_vehicle_connected")
  else if coolingDown r c then
    ({ r with state := .cooldown, requestedCurrentA := 0, targetCurrentA := 0 },
      noneDecision 0 policyMode "cooldown")
  else evaluateReady r c

end EnergyCore.Charging
