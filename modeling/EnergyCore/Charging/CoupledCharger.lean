import EnergyCore.Foundations.StepRun
import EnergyCore.Charging.CommandController
import EnergyCore.Charging.EvaluateStep

/-!
# The state machine, the controller and a charger

One cycle of the engine: read the charger's status, evaluate the state machine, apply its decision. The
charger is any adapter that is *faithful*: a command succeeds and takes effect at once, and the status
reports it. `mockCharger` is the repository's own such charger.

* `applyWithStatus_stop`, `applyWithStatus_current` — what applying a decision does to a faithful charger;
* `cycle_controller_of_stop`, `cycle_controller_of_current` — the same for a whole cycle.
-/

namespace EnergyCore.Charging

open StepRun

/-! ### Faithful chargers -/

/-- A charger whose commands succeed and take effect at once. -/
structure FaithfulCharger (σ : Type*) extends ChargerAdapter σ where
  status : σ → ChargerStatus
  getStatus_eq : ∀ s, getStatus s = .ok (status s)
  supports_all : ∀ s capability, lacks (getCapabilities s) capability = false
  setCurrent_ok : ∀ s a, (setCurrent s a).2 = none
  startCharging_ok : ∀ s, (startCharging s).2 = none
  stopCharging_ok : ∀ s, (stopCharging s).2 = none
  limit_setCurrent : ∀ s a, 0 < a → (status (setCurrent s a).1).currentLimitA = some a
  limit_startCharging : ∀ s,
    (status (startCharging s).1).currentLimitA = (status s).currentLimitA
  charging_stopCharging : ∀ s, (status (stopCharging s).1).charging = false

/-- `MockChargeAmpsController`. -/
structure MockChargeAmpsController where
  connected : Bool := true
  vehicleConnected : Bool := true
  currentLimitA : ℚ := 0
  charging : Bool := false
  deriving Repr, DecidableEq

namespace MockChargeAmpsController

def getStatus (s : MockChargeAmpsController) : ChargerStatus :=
  { connected := s.connected, vehicleConnected := s.vehicleConnected,
    currentLimitA := some s.currentLimitA, charging := s.charging }

def setCurrentLimit (s : MockChargeAmpsController) (amps : ℚ) : MockChargeAmpsController :=
  { s with
    currentLimitA := max 0 amps
    charging := decide (max 0 amps > 0) && s.vehicleConnected }

def startCharging (s : MockChargeAmpsController) : MockChargeAmpsController :=
  if s.vehicleConnected ∧ s.currentLimitA > 0 then { s with charging := true } else s

def stopCharging (s : MockChargeAmpsController) : MockChargeAmpsController :=
  { s with currentLimitA := 0, charging := false }

end MockChargeAmpsController

/-- The mock controller as a faithful charger. It declares no capabilities. -/
def mockCharger : FaithfulCharger MockChargeAmpsController where
  getCapabilities := fun _ => none
  getStatus := fun s => .ok s.getStatus
  setCurrent := fun s amps => (s.setCurrentLimit amps, none)
  startCharging := fun s => (s.startCharging, none)
  stopCharging := fun s => (s.stopCharging, none)
  status := MockChargeAmpsController.getStatus
  getStatus_eq := fun _ => rfl
  supports_all := fun _ _ => rfl
  setCurrent_ok := fun _ _ => rfl
  startCharging_ok := fun _ => rfl
  stopCharging_ok := fun _ => rfl
  limit_setCurrent := by
    intro s a ha
    show some (max 0 a) = some a
    rw [max_eq_right ha.le]
  limit_startCharging := by
    intro s
    show some s.startCharging.currentLimitA = some s.currentLimitA
    unfold MockChargeAmpsController.startCharging
    split_ifs <;> rfl
  charging_stopCharging := fun _ => rfl

/-! ### Applying a decision to a faithful charger -/

section Apply

variable {σ : Type*} (F : FaithfulCharger σ)

/-- The charger is idle at a limit of zero. -/
def alreadyStopped (status : ChargerStatus) : Bool :=
  status.currentLimitA.any (fun limit => decide (limit ≤ 0)) && !status.charging

/-- A stop command is not sent: it is held back, and the charger shows what was applied last. -/
def stopWithheld (config : AntiFlappingConfig) (now : Instant) (anti : AntiFlappingState)
    (status : ChargerStatus) : Bool :=
  !(anti.lastCommandCurrentA.any (fun a => decide (a ≤ 0)) && status.charging) &&
    (heldBack 0 anti config now && chargerMatchesPrevious anti status)

/-- A current is not sent: it repeats the last command to a charging charger, or it is held back and
the charger shows what was applied last. -/
def currentWithheld (requestedA : ℚ) (config : AntiFlappingConfig) (now : Instant)
    (anti : AntiFlappingState) (status : ChargerStatus) : Bool :=
  (anti.lastCommandCurrentA.any (fun a => decide (|a - requestedA| < 1 / 100)) &&
    status.charging) ||
    (heldBack requestedA anti config now && chargerMatchesPrevious anti status)

/-- The charger after a current, and the start command if it was idle. -/
def delivered (a : ℚ) (charger : σ) : σ :=
  if (F.status charger).charging then (F.setCurrent charger a).1
  else (F.startCharging (F.setCurrent charger a).1).1

/-- A decision that is not to be applied changes nothing. -/
theorem apply_of_withdrawn (config : AntiFlappingConfig) {decision : ChargingDecision}
    (now : Instant) (s : ControllerState σ) (h : decision.toApply = false) :
    (apply F.toChargerAdapter config decision now s).1 = s := by
  simp only [apply, h, Bool.not_false, if_true]

theorem apply_of_issued (config : AntiFlappingConfig) {decision : ChargingDecision}
    (now : Instant) (s : ControllerState σ) (h : decision.toApply = true) :
    apply F.toChargerAdapter config decision now s =
      applyWithStatus F.toChargerAdapter config (max 0 decision.requestedCurrentA)
        decision.reason now (F.status s.charger) s := by
  simp only [apply, h, Bool.not_true, Bool.false_eq_true, if_false, F.getStatus_eq]

theorem sendStop_state (reason : String) (now : Instant) (s : ControllerState σ) :
    (sendStop F.toChargerAdapter (F.status s.charger) reason now s).1 =
      { charger := (F.stopCharging s.charger).1, antiFlapping := recordApplied 0 now } := by
  obtain ⟨charger, heq⟩ : ∃ charger, F.stopCharging s.charger = (charger, none) :=
    ⟨_, Prod.ext rfl (F.stopCharging_ok _)⟩
  simp only [sendStop, heq]

theorem sendCurrent_state (a : ℚ) (reason : String) (now : Instant) (s : ControllerState σ) :
    (sendCurrent F.toChargerAdapter (F.getCapabilities s.charger) (F.status s.charger) a reason
      now s).1 =
      { charger := delivered F a s.charger, antiFlapping := recordApplied a now } := by
  obtain ⟨charger, hset⟩ : ∃ charger, F.setCurrent s.charger a = (charger, none) :=
    ⟨_, Prod.ext rfl (F.setCurrent_ok _ _)⟩
  obtain ⟨started, hstart⟩ : ∃ started, F.startCharging charger = (started, none) :=
    ⟨_, Prod.ext rfl (F.startCharging_ok _)⟩
  cases hc : (F.status s.charger).charging with
  | true => simp only [sendCurrent, delivered, hset, hc, if_true]
  | false =>
    simp only [sendCurrent, delivered, hset, hc, Bool.false_eq_true, if_false, F.supports_all, hstart]

/-- **The stop command.** -/
theorem applyWithStatus_stop (config : AntiFlappingConfig) (reason : String) (now : Instant)
    {s : ControllerState σ} (h : (F.status s.charger).connected = true) :
    (applyWithStatus F.toChargerAdapter config 0 reason now (F.status s.charger) s).1 =
      if alreadyStopped (F.status s.charger) then
        { s with antiFlapping := recordApplied 0 now }
      else if stopWithheld config now s.antiFlapping (F.status s.charger) then s
      else { charger := (F.stopCharging s.charger).1, antiFlapping := recordApplied 0 now } := by
  have hverdict := (shouldApplyCurrent_eq le_rfl s.antiFlapping config now).1
  simp only [applyWithStatus, F.supports_all, h, hverdict, alreadyStopped, stopWithheld,
    le_refl, lt_irrefl, Bool.false_eq_true, and_false, if_false, Bool.not_true,
    true_and, false_and, Bool.and_eq_true, Bool.not_not]
  split_ifs <;> simp_all [sendStop_state]

/-- **A current.** -/
theorem applyWithStatus_current (config : AntiFlappingConfig) {a : ℚ} (ha : 0 < a)
    (reason : String) (now : Instant) {s : ControllerState σ}
    (h : (F.status s.charger).connected = true) :
    (applyWithStatus F.toChargerAdapter config a reason now (F.status s.charger) s).1 =
      if (F.status s.charger).vehicleConnected = false ∨
          currentWithheld a config now s.antiFlapping (F.status s.charger) then s
      else { charger := delivered F a s.charger, antiFlapping := recordApplied a now } := by
  have hverdict := shouldApplyCurrent_eq ha.le s.antiFlapping config now
  simp only [applyWithStatus, F.supports_all, h, hverdict.1, currentWithheld,
    gt_iff_lt, ha, not_le.mpr ha, Bool.false_eq_true, and_false, if_false, Bool.not_true,
    true_and, false_and, and_true, Bool.and_eq_true, Bool.or_eq_true, Bool.not_not]
  split_ifs <;> simp_all [sendCurrent_state]

end Apply

/-! ### The cycle -/

/-- The state machine's runtime, and the controller with its charger. -/
structure CoupledState (σ : Type*) where
  runtime : SmartChargingRuntime := {}
  controller : ControllerState σ

/-- One cycle: what happened to the charger since the last one, and the inputs of the evaluation. The
connection and charging flags of the call are read from the charger. -/
structure Cycle (σ : Type*) where
  env : σ → σ
  antiConfig : AntiFlappingConfig := {}
  call : EvaluateCall

def readStatus (status : ChargerStatus) (c : EvaluateCall) : EvaluateCall :=
  { c with
    vehicleConnected := status.vehicleConnected
    haloConnected := status.connected
    isCharging := status.charging }

section Cycle

variable {σ : Type*} (F : FaithfulCharger σ)

/-- The status the cycle finds. -/
def cycleStatus (s : CoupledState σ) (k : Cycle σ) : ChargerStatus :=
  F.status (k.env s.controller.charger)

def cycleCall (s : CoupledState σ) (k : Cycle σ) : EvaluateCall :=
  readStatus (cycleStatus F s k) k.call

def cycleDecision (s : CoupledState σ) (k : Cycle σ) : ChargingDecision :=
  (evaluateSmartCharging s.runtime (cycleCall F s k)).2

/-- Evaluate the state machine and apply its decision. -/
def cycle (s : CoupledState σ) (k : Cycle σ) : CoupledState σ :=
  { runtime := (evaluateSmartCharging s.runtime (cycleCall F s k)).1
    controller := (apply F.toChargerAdapter k.antiConfig (cycleDecision F s k) k.call.now
      { s.controller with charger := k.env s.controller.charger }).1 }

/-- A decision without a command leaves the charger as it was found. -/
theorem cycle_controller_of_withdrawn {s : CoupledState σ} {k : Cycle σ}
    (h : (cycleDecision F s k).toApply = false) :
    (cycle F s k).controller = { s.controller with charger := k.env s.controller.charger } :=
  apply_of_withdrawn F _ _ _ h

/-- A decision of 0 A goes through the stop command. -/
theorem cycle_controller_of_stop {s : CoupledState σ} {k : Cycle σ}
    (hissued : (cycleDecision F s k).toApply = true)
    (hzero : (cycleDecision F s k).requestedCurrentA = 0)
    (h : (cycleStatus F s k).connected = true) :
    (cycle F s k).controller =
      if alreadyStopped (cycleStatus F s k) then
        { charger := k.env s.controller.charger, antiFlapping := recordApplied 0 k.call.now }
      else if stopWithheld k.antiConfig k.call.now s.controller.antiFlapping
          (cycleStatus F s k) then
        { s.controller with charger := k.env s.controller.charger }
      else
        { charger := (F.stopCharging (k.env s.controller.charger)).1
          antiFlapping := recordApplied 0 k.call.now } := by
  show (apply F.toChargerAdapter k.antiConfig (cycleDecision F s k) k.call.now
    { s.controller with charger := k.env s.controller.charger }).1 = _
  rw [apply_of_issued F _ _ _ hissued, hzero, max_self]
  exact applyWithStatus_stop F k.antiConfig (cycleDecision F s k).reason k.call.now h

/-- A decision of a positive current goes through the current command. -/
theorem cycle_controller_of_current {s : CoupledState σ} {k : Cycle σ} {a : ℚ} (ha : 0 < a)
    (hissued : (cycleDecision F s k).toApply = true)
    (hcurrent : (cycleDecision F s k).requestedCurrentA = a)
    (h : (cycleStatus F s k).connected = true) :
    (cycle F s k).controller =
      if (cycleStatus F s k).vehicleConnected = false ∨
          currentWithheld a k.antiConfig k.call.now s.controller.antiFlapping
            (cycleStatus F s k) then
        { s.controller with charger := k.env s.controller.charger }
      else
        { charger := delivered F a (k.env s.controller.charger)
          antiFlapping := recordApplied a k.call.now } := by
  show (apply F.toChargerAdapter k.antiConfig (cycleDecision F s k) k.call.now
    { s.controller with charger := k.env s.controller.charger }).1 = _
  rw [apply_of_issued F _ _ _ hissued, hcurrent, max_eq_right ha.le]
  exact applyWithStatus_current F k.antiConfig ha (cycleDecision F s k).reason k.call.now h

end Cycle

end EnergyCore.Charging
