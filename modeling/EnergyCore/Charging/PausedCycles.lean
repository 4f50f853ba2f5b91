import EnergyCore.Charging.CoupledCharger
import EnergyCore.Charging.Engine

/-!
# Cycles of a paused charger

A charger that is paused, and not overridden, is sent no current and no start command by the decision path. It is sent
the start command by arming.

* `stop_sends` — a decision of 0 A sends nothing but a stop;
* `paused_silent_iff` — a paused charger is sent a start exactly if the cycle arms it;
* `paused_armed` — a paused charger that waits for a vehicle is started.
-/

namespace EnergyCore.Charging

variable {σ : Type*}

/-! ### The decision of a paused charger -/

theorem respectsManualPause_iff {mode : Option ChargingMode} {overridden : Bool} :
    respectsManualPause mode overridden = true ↔ normalizedMode mode = .paused ∧ overridden = false := by
  unfold respectsManualPause
  rw [Bool.and_eq_true, decide_eq_true_eq, Bool.not_eq_true']

theorem requestedCurrentA_of_paused {runtime : SmartChargingRuntime} {c : EvaluateCall}
    (h : respectsManualPause c.chargingMode c.overrideActive = true) :
    (evaluateSmartCharging runtime c).2.requestedCurrentA = 0 := by
  unfold evaluateSmartCharging
  dsimp only
  by_cases hfault : (truthyText c.faultCode || !c.haloConnected) = true
  · rw [if_pos hfault]
    rfl
  · rw [if_neg hfault, if_pos h]
    rfl

/-! ### What is sent -/

theorem sendStop_sends (adapter : ChargerAdapter σ) (status : ChargerStatus) (reason : String) (now : Instant)
    (s : ControllerState (σ × List ChargerCommand)) :
    (sendStop (logged adapter) status reason now s).1.charger.2 = s.charger.2 ++ [.stopCharging] := by
  unfold sendStop
  cases hstop : (logged adapter).stopCharging s.charger with
  | mk device code =>
    have hlog : device.2 = s.charger.2 ++ [.stopCharging] := (congrArg (fun r => r.1.2) hstop).symm
    cases code with
    | none => exact hlog
    | some code => exact hlog

/-- **A decision of 0 A** sends a stop, or nothing. -/
theorem stop_sends (adapter : ChargerAdapter σ) (config : AntiFlappingConfig) {decision : ChargingDecision}
    (h : decision.requestedCurrentA = 0) (now : Instant) (s : ControllerState (σ × List ChargerCommand)) :
    (apply (logged adapter) config decision now s).1.charger.2 = s.charger.2 ∨
      (apply (logged adapter) config decision now s).1.charger.2 = s.charger.2 ++ [.stopCharging] := by
  unfold apply
  split_ifs
  · exact .inl rfl
  · cases (logged adapter).getStatus s.charger with
    | error code => exact .inl rfl
    | ok status =>
      rw [h, max_self]
      unfold applyWithStatus
      simp only [le_refl, gt_iff_lt, lt_irrefl, true_and, false_and, and_false, if_true, if_false]
      split_ifs <;> first | exact .inl rfl | exact .inr (sendStop_sends ..)

/-! ### The cycle -/

/-- The inputs of a cycle, for a charger whose commands are logged. -/
def CycleInputs.logged (inputs : CycleInputs σ) : CycleInputs (σ × List ChargerCommand) :=
  { inputs with
    beforeStatus := fun s => (inputs.beforeStatus s.1, s.2)
    beforeArming := fun s => (inputs.beforeArming s.1, s.2)
    afterArming := fun s => (inputs.afterArming s.1, s.2)
    beforeDecision := fun s => (inputs.beforeDecision s.1, s.2) }

/-- The commands that a cycle sends. -/
def cycleCommands (adapter : ChargerAdapter σ) (inputs : CycleInputs σ) (s : EngineState σ) : List ChargerCommand :=
  (runChargerCycle (logged adapter) inputs.logged
    { charger := s.charger, rows := s.rows, runtime := s.runtime, device := (s.device, []) }).device.2

/-- The cycle arms the charger: it finds it connected, or remembers so, and without a vehicle. -/
def cycleArms (adapter : ChargerAdapter σ) (inputs : CycleInputs σ) (s : EngineState σ) : Bool :=
  let found := findCharger adapter inputs (ensureRuntime s.runtime s.charger s.rows inputs.now) s.device
  inputs.reaches s.charger && found.seen.arms (adapter.getCapabilities found.device)

theorem findCharger_logged (adapter : ChargerAdapter σ) (inputs : CycleInputs σ) (runtime : ChargerRuntimeState)
    (device : σ × List ChargerCommand) : findCharger (logged adapter) inputs.logged runtime device
      = { device := ((findCharger adapter inputs runtime device.1).device, device.2)
          seen := (findCharger adapter inputs runtime device.1).seen
          meter := (findCharger adapter inputs runtime device.1).meter
          statusRead := (findCharger adapter inputs runtime device.1).statusRead } := rfl

theorem armCharger_sends (adapter : ChargerAdapter σ) (inputs : CycleInputs σ)
    (reading : ChargerReading (σ × List ChargerCommand)) :
    (armCharger (logged adapter) inputs.logged reading).device.2 = reading.device.2 ++ [.startCharging] := by
  unfold armCharger
  cases hstart : (logged adapter).startCharging reading.device with
  | mk device code =>
    have hlog : device.2 = reading.device.2 ++ [.startCharging] := (congrArg (fun r => r.1.2) hstart).symm
    cases code with
    | some code => exact hlog
    | none =>
      dsimp only
      cases (logged adapter).getStatus (inputs.logged.afterArming device) with
      | error code => exact hlog
      | ok status => exact hlog

/-- Reading the charger sends the start command, or nothing. -/
theorem readCharger_sends (adapter : ChargerAdapter σ) (inputs : CycleInputs σ) (runtime : ChargerRuntimeState)
    (device : σ) : (readCharger (logged adapter) inputs.logged runtime (device, [])).device.2
      = if (findCharger adapter inputs runtime device).seen.arms
          (adapter.getCapabilities (findCharger adapter inputs runtime device).device) then [.startCharging] else [] := by
  have hcapabilities : (logged adapter).getCapabilities ((findCharger adapter inputs runtime device).device, [])
      = adapter.getCapabilities (findCharger adapter inputs runtime device).device := rfl
  unfold readCharger
  rw [findCharger_logged]
  dsimp only
  rw [hcapabilities]
  split_ifs
  · rw [armCharger_sends]
    rfl
  · rfl

/-- The decision of a paused charger adds a stop, or nothing. -/
theorem controlCharger_sends (adapter : ChargerAdapter σ) (inputs : CycleInputs σ) (energy : EnergyState)
    (config : ChargingConfig) (target : ℚ × String) (runtime : ChargerRuntimeState)
    (s : EngineState (σ × List ChargerCommand))
    (hpaused : respectsManualPause s.charger.chargingMode (overrideActive s.charger.overrideUntil inputs.now) = true) :
    let read := (readCharger (logged adapter) inputs.logged runtime s.device).device.2
    let sent := (controlCharger (logged adapter) inputs.logged energy config target runtime s).device.2
    sent = read ∨ sent = read ++ [.stopCharging] := by
  refine stop_sends adapter _ ?_ _ _
  exact requestedCurrentA_of_paused hpaused

/-- **What a cycle of a paused charger sends.** -/
theorem cycleCommands_of_paused (adapter : ChargerAdapter σ) (inputs : CycleInputs σ) (s : EngineState σ)
    (hmode : normalizedMode s.charger.chargingMode = .paused)
    (hoverride : overrideActive s.charger.overrideUntil inputs.now = false) :
    let armed : List ChargerCommand := if cycleArms adapter inputs s then [.startCharging] else []
    cycleCommands adapter inputs s = armed ∨ cycleCommands adapter inputs s = armed ++ [.stopCharging] := by
  unfold cycleArms cycleCommands
  dsimp only
  cases hreaches : inputs.reaches s.charger with
  | false =>
    exact .inl (congrArg Prod.snd (runChargerCycle_device (logged adapter)
      (s := { charger := s.charger, rows := s.rows, runtime := s.runtime, device := (s.device, []) }) hreaches))
  | true =>
    obtain ⟨energy, config, target, hcycle⟩ := @runChargerCycle_of_reaches _ (logged adapter) inputs.logged
      { charger := s.charger, rows := s.rows, runtime := s.runtime, device := (s.device, []) } hreaches
    rw [hcycle, Bool.true_and, ← readCharger_sends]
    refine controlCharger_sends adapter inputs energy config target _ _ ?_
    refine respectsManualPause_iff.mpr ⟨?_, ?_⟩
    · exact (congrArg normalizedMode (chargingMode_expireOverride s.charger inputs.now)).trans hmode
    · exact (overrideActive_expireOverride s.charger inputs.now).trans hoverride

/-- **A paused charger is sent a start** exactly if the cycle arms it. -/
theorem paused_silent_iff (adapter : ChargerAdapter σ) (inputs : CycleInputs σ) (s : EngineState σ)
    (hmode : normalizedMode s.charger.chargingMode = .paused)
    (hoverride : overrideActive s.charger.overrideUntil inputs.now = false) :
    (∀ command ∈ cycleCommands adapter inputs s, command.starts = false) ↔ cycleArms adapter inputs s = false := by
  have hsent := cycleCommands_of_paused adapter inputs s hmode hoverride
  cases harms : cycleArms adapter inputs s with
  | true =>
    rw [harms] at hsent
    refine iff_of_false (fun hsilent => ?_) (Bool.false_ne_true ·.symm)
    have hmem : ChargerCommand.startCharging ∈ cycleCommands adapter inputs s := by
      rcases hsent with hsent | hsent
      · rw [hsent]
        exact List.mem_cons_self
      · rw [hsent]
        exact List.mem_cons_self
    exact Bool.false_ne_true (hsilent _ hmem).symm
  | false =>
    rw [harms] at hsent
    refine iff_of_true (fun command hcommand => ?_) rfl
    rcases hsent with hsent | hsent
    · rw [hsent] at hcommand
      cases hcommand
    · rw [hsent] at hcommand
      rw [List.mem_singleton.mp hcommand]
      rfl

/-- The inputs of a cycle at noon, with 11 kW of solar power to spare. -/
def noonInputs : CycleInputs MockChargeAmpsController where
  now := 1792843200
  energyState := some (some { timestamp := 1792843190 })
  config := some {}
  optimizerTarget _ := some (16, "solar_surplus")
  slowSignals _ := { gridExportW := 11000 }

/-- A paused charger whose vehicle is charging is sent a stop. -/
theorem paused_vehicle_stopped :
    cycleCommands mockCharger.toChargerAdapter noonInputs
        { charger := { chargingMode := some .paused }, device := { charging := true, currentLimitA := 16 } } ≠ [] ∧
      ∀ command ∈ cycleCommands mockCharger.toChargerAdapter noonInputs
        { charger := { chargingMode := some .paused }, device := { charging := true, currentLimitA := 16 } },
      command.starts = false :=
  ⟨by decide +kernel,
    (paused_silent_iff mockCharger.toChargerAdapter noonInputs
      { charger := { chargingMode := some .paused }, device := { charging := true, currentLimitA := 16 } }
      rfl rfl).mpr (by decide +kernel)⟩

/-- **A paused charger that waits for a vehicle** is sent the start command. -/
theorem paused_armed : ∃ command ∈ cycleCommands mockCharger.toChargerAdapter noonInputs
      { charger := { chargingMode := some .paused }, device := { vehicleConnected := false } },
    command.starts = true :=
  ⟨.startCharging, by decide +kernel, rfl⟩

end EnergyCore.Charging
