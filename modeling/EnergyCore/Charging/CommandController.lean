import EnergyCore.Charging.SmartChargingStateMachine

/-!
# The command controller

`ChargingCommandController.apply` of `charging/command_controller.py` sends a decision to a charger
adapter, unless the anti-flapping rules of `charging/anti_flapping.py` hold it back. An adapter is any
state type with its commands; a command returns the new state and the error it raised, if any, and an
error leaves the anti-flapping memory as it was.
-/

namespace EnergyCore.Charging

/-! ### Anti-flapping -/

structure AntiFlappingConfig where
  minChangeIntervalSeconds : ℚ := 60
  currentHysteresisA : ℚ := 1
  deriving Repr, DecidableEq

structure AntiFlappingState where
  lastAppliedCurrentA : Option ℚ := none
  lastChangeAt : Option Instant := none
  lastCommandCurrentA : Option ℚ := none
  deriving Repr, DecidableEq

/-- `should_apply_current`: whether to send the current, the current to use, and the reason. -/
def shouldApplyCurrent (requestedA : ℚ) (state : AntiFlappingState) (config : AntiFlappingConfig)
    (now : Instant) : Bool × ℚ × String :=
  let requestedA := max 0 requestedA
  if state.lastCommandCurrentA.any (fun a => decide (|a - requestedA| < 1 / 100)) then
    (false, state.lastAppliedCurrentA.getD 0, "duplicate_command")
  else if state.lastAppliedCurrentA.any
      (fun a => decide (|requestedA - a| < config.currentHysteresisA)) then
    (false, state.lastAppliedCurrentA.getD 0, "hysteresis")
  else if state.lastChangeAt.any
      (fun at' => decide (now - at' < config.minChangeIntervalSeconds)) then
    (false, state.lastAppliedCurrentA.getD 0, "min_interval")
  else (true, requestedA, "apply")

def recordApplied (currentA : ℚ) (now : Instant) : AntiFlappingState :=
  { lastAppliedCurrentA := some currentA, lastCommandCurrentA := some currentA,
    lastChangeAt := some now }

/-! ### The adapter -/

structure ChargerStatus where
  connected : Bool
  vehicleConnected : Bool
  currentLimitA : Option ℚ
  charging : Bool
  deriving Repr, DecidableEq

inductive ChargerApiErrorCode where
  | authError | rateLimited | chargerOffline | timeout | invalidResponse | commandRejected | unknown
  deriving Repr, DecidableEq

def ChargerApiErrorCode.text : ChargerApiErrorCode → String
  | .authError => "AUTH_ERROR"
  | .rateLimited => "RATE_LIMITED"
  | .chargerOffline => "CHARGER_OFFLINE"
  | .timeout => "TIMEOUT"
  | .invalidResponse => "INVALID_RESPONSE"
  | .commandRejected => "COMMAND_REJECTED"
  | .unknown => "UNKNOWN"

/-- The capability flags that `supports` reads for the three commands. -/
structure ChargerCapabilities where
  canStartCharging : Bool := false
  canStopCharging : Bool := false
  supportsRemoteStartStop : Bool := false
  canSetMaxCurrent : Bool := false
  supportsCurrentControl : Bool := false
  deriving Repr, DecidableEq

inductive DeviceCapability where
  | start | stop | setCurrent
  deriving Repr, DecidableEq

def supports (caps : ChargerCapabilities) : DeviceCapability → Bool
  | .start => caps.canStartCharging || caps.supportsRemoteStartStop
  | .stop => caps.canStopCharging || caps.supportsRemoteStartStop
  | .setCurrent => caps.canSetMaxCurrent || caps.supportsCurrentControl

/-- The control surface of `LegacyControlBridge`. `getCapabilities` is `none` where the source
catches an exception. -/
structure ChargerAdapter (σ : Type*) where
  getCapabilities : σ → Option ChargerCapabilities
  getStatus : σ → Except ChargerApiErrorCode ChargerStatus
  setCurrent : σ → ℚ → σ × Option ChargerApiErrorCode
  startCharging : σ → σ × Option ChargerApiErrorCode
  stopCharging : σ → σ × Option ChargerApiErrorCode

/-! ### Applying a decision -/

structure CommandApplyResult where
  applied : Bool
  appliedCurrentA : ℚ
  reason : String
  chargerStatus : Option ChargerStatus := none
  errorCode : Option String := none
  deriving Repr, DecidableEq

/-- The charger and the anti-flapping memory. -/
structure ControllerState (σ : Type*) where
  charger : σ
  antiFlapping : AntiFlappingState := {}

/-- `last_command_current_a or last_applied_current_a or 0.0`, as Python reads it. -/
def currentOnFailure (anti : AntiFlappingState) : ℚ :=
  if anti.lastCommandCurrentA.getD 0 ≠ 0 then anti.lastCommandCurrentA.getD 0
  else anti.lastAppliedCurrentA.getD 0

/-- The result of a command the charger cannot be given, with its error code. -/
def commandRefused (anti : AntiFlappingState) (status : ChargerStatus) (reason : String)
    (errorCode : Option String) : CommandApplyResult :=
  { applied := false, appliedCurrentA := currentOnFailure anti, reason := reason,
    chargerStatus := some status, errorCode := errorCode }

/-- The result of a `ChargerApiError`. -/
def commandFailed (anti : AntiFlappingState) (code : ChargerApiErrorCode) : CommandApplyResult :=
  { applied := false, appliedCurrentA := currentOnFailure anti, reason := code.text.toLower,
    errorCode := some code.text }

variable {σ : Type*}

def lacks (capabilities : Option ChargerCapabilities) (capability : DeviceCapability) : Bool :=
  capabilities.any fun caps => !supports caps capability

/-- Send the stop command and remember it. -/
def sendStop (adapter : ChargerAdapter σ) (status : ChargerStatus) (reason : String)
    (now : Instant) (s : ControllerState σ) : ControllerState σ × CommandApplyResult :=
  match adapter.stopCharging s.charger with
  | (charger, some code) => ({ s with charger := charger }, commandFailed s.antiFlapping code)
  | (charger, none) =>
    ({ charger := charger, antiFlapping := recordApplied 0 now },
      { applied := true, appliedCurrentA := 0, reason := reason, chargerStatus := some status })

/-- Send the current, and the start command to a charger that is idle, and remember it. -/
def sendCurrent (adapter : ChargerAdapter σ) (capabilities : Option ChargerCapabilities)
    (status : ChargerStatus) (nextCurrent : ℚ) (reason : String) (now : Instant)
    (s : ControllerState σ) : ControllerState σ × CommandApplyResult :=
  match adapter.setCurrent s.charger nextCurrent with
  | (charger, some code) => ({ s with charger := charger }, commandFailed s.antiFlapping code)
  | (charger, none) =>
    let done : CommandApplyResult :=
      { applied := true, appliedCurrentA := nextCurrent, reason := reason,
        chargerStatus := some status }
    if status.charging then
      ({ charger := charger, antiFlapping := recordApplied nextCurrent now }, done)
    else if lacks capabilities .start then
      ({ charger := charger, antiFlapping := recordApplied nextCurrent now },
        { applied := false, appliedCurrentA := nextCurrent,
          reason := "capability_start_unsupported", chargerStatus := some status,
          errorCode := some "CAPABILITY_START_UNSUPPORTED" })
    else
      match adapter.startCharging charger with
      | (charger, some code) =>
        ({ s with charger := charger }, commandFailed s.antiFlapping code)
      | (charger, none) =>
        ({ charger := charger, antiFlapping := recordApplied nextCurrent now }, done)

/-- The charger still shows the current that was applied last. -/
def chargerMatchesPrevious (anti : AntiFlappingState) (status : ChargerStatus) : Bool :=
  match anti.lastAppliedCurrentA, status.currentLimitA with
  | some previous, some actualLimit =>
    decide (|actualLimit - previous| < 1 / 100) && (status.charging == decide (previous > 0))
  | _, _ => false

/-- The `try` block of `apply`, with the status of the charger at hand. -/
def applyWithStatus (adapter : ChargerAdapter σ) (config : AntiFlappingConfig)
    (requested : ℚ) (reason : String) (now : Instant) (status : ChargerStatus)
    (s : ControllerState σ) : ControllerState σ × CommandApplyResult :=
  let capabilities := adapter.getCapabilities s.charger
  let anti := s.antiFlapping
  let previousCommand := anti.lastCommandCurrentA
  if requested ≤ 0 ∧ lacks capabilities .stop then
    (s, commandRefused anti status "capability_stop_unsupported"
      (some "CAPABILITY_STOP_UNSUPPORTED"))
  else if requested > 0 ∧ lacks capabilities .setCurrent then
    (s, commandRefused anti status "capability_set_current_unsupported"
      (some "CAPABILITY_SET_CURRENT_UNSUPPORTED"))
  else if !status.connected then
    (s, commandRefused anti status "charger_offline" (some "CHARGER_OFFLINE"))
  else if !status.vehicleConnected ∧ requested > 0 then
    (s, commandRefused anti status "no_vehicle_connected" none)
  else if requested ≤ 0 ∧ status.currentLimitA.any (fun limit => decide (limit ≤ 0)) ∧
      !status.charging then
    ({ s with antiFlapping := recordApplied 0 now },
      { applied := false, appliedCurrentA := 0, reason := "already_stopped",
        chargerStatus := some status })
  else if requested ≤ 0 ∧ previousCommand.any (fun a => decide (a ≤ 0)) ∧ status.charging then
    sendStop adapter status reason now s
  else if requested > 0 ∧ previousCommand.any (fun a => decide (|a - requested| < 1 / 100)) ∧
      status.charging then
    (s, { applied := false, appliedCurrentA := previousCommand.getD 0,
          reason := "already_requested", chargerStatus := some status })
  else
    let verdict := shouldApplyCurrent requested anti config now
    if !verdict.1 ∧ chargerMatchesPrevious anti status then
      (s, { applied := false, appliedCurrentA := anti.lastAppliedCurrentA.getD 0,
            reason := verdict.2.2, chargerStatus := some status })
    else
      let nextCurrent := if !verdict.1 then requested else verdict.2.1
      if requested ≤ 0 then sendStop adapter status reason now s
      else sendCurrent adapter capabilities status nextCurrent reason now s

/-- The decision carries a command for the charger. -/
def ChargingDecision.toApply (decision : ChargingDecision) : Bool :=
  !(decide (decision.action ∈ [ChargingAction.none, .pause]) || decision.skipApply)

@[simp] theorem toApply_setDecision (currentA : ℚ) (mode : PolicyMode) (reason : String) :
    (setDecision currentA mode reason).toApply = true := rfl

@[simp] theorem toApply_noneDecision (currentA : ℚ) (mode : PolicyMode) (reason : String) :
    (noneDecision currentA mode reason).toApply = false := rfl

@[simp] theorem toApply_stopDecision (mode : PolicyMode) (reason : String) :
    (stopDecision .stop mode reason).toApply = true := rfl

/-- `ChargingCommandController.apply`. -/
def apply (adapter : ChargerAdapter σ) (config : AntiFlappingConfig) (decision : ChargingDecision)
    (now : Instant) (s : ControllerState σ) : ControllerState σ × CommandApplyResult :=
  if !decision.toApply then
    (s, { applied := false
          appliedCurrentA :=
            s.antiFlapping.lastCommandCurrentA.getD (s.antiFlapping.lastAppliedCurrentA.getD 0)
          reason := decision.reason
          chargerStatus := (adapter.getStatus s.charger).toOption })
  else
    match adapter.getStatus s.charger with
    | .error code => (s, commandFailed s.antiFlapping code)
    | .ok status =>
      applyWithStatus adapter config (max 0 decision.requestedCurrentA) decision.reason now
        status s

/-! ### What the anti-flapping rules hold back -/

/-- The three rules that hold a current back: it repeats the last command, it is within the hysteresis
of the last applied current, or the last change is too recent. -/
def heldBack (requestedA : ℚ) (anti : AntiFlappingState) (config : AntiFlappingConfig) (now : Instant) : Bool :=
  anti.lastCommandCurrentA.any (fun a => decide (|a - requestedA| < 1 / 100)) ||
  anti.lastAppliedCurrentA.any (fun a => decide (|requestedA - a| < config.currentHysteresisA)) ||
  anti.lastChangeAt.any (fun at' => decide (now - at' < config.minChangeIntervalSeconds))

/-- A nonnegative current is sent, unchanged, exactly if none of the three rules holds it back. -/
theorem shouldApplyCurrent_eq {requestedA : ℚ} (h : 0 ≤ requestedA)
    (anti : AntiFlappingState) (config : AntiFlappingConfig) (now : Instant) :
    (shouldApplyCurrent requestedA anti config now).1 = !heldBack requestedA anti config now ∧
      (heldBack requestedA anti config now = false →
        (shouldApplyCurrent requestedA anti config now).2.1 = requestedA) := by
  simp only [shouldApplyCurrent, max_eq_right h, heldBack]
  split_ifs with h₁ h₂ h₃
  · simp only [h₁, Bool.true_or, Bool.not_true, true_and]
    exact fun h => absurd h (by decide)
  · simp only [h₂, Bool.true_or, Bool.or_true, Bool.not_true, true_and]
    exact fun h => absurd h (by decide)
  · simp only [h₃, Bool.or_true, Bool.not_true, true_and]
    exact fun h => absurd h (by decide)
  · rw [Bool.not_eq_true] at h₁ h₂ h₃
    rw [h₁, h₂, h₃]
    exact ⟨rfl, fun _ => rfl⟩

end EnergyCore.Charging
