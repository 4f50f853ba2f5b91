import EnergyCore.Foundations.StepRun
import EnergyCore.Charging.Engine

/-!
# Runs of the charging engine

A run of cycles of one charger. Between two cycles the settings of the charger may be changed, and the engine may be
restarted; what the cycles have written stays.

* `runChargerCycle_of_handed`, `runChargerCycle_of_handed_none` — a cycle that gets to the optimizer, and one that does
  not.
-/

namespace EnergyCore.Charging

variable {σ : Type*}

/-! ### Steps -/

/-- Two rows of a charger agree in what the cycles remember in them. -/
structure SameRecord (charger charger' : EvCharger) : Prop where
  smartChargingState : charger'.smartChargingState = charger.smartChargingState
  lastAppliedCurrentA : charger'.lastAppliedCurrentA = charger.lastAppliedCurrentA
  lastRequestedCurrentA : charger'.lastRequestedCurrentA = charger.lastRequestedCurrentA
  lastStartAt : charger'.lastStartAt = charger.lastStartAt
  lastStopAt : charger'.lastStopAt = charger.lastStopAt
  lastHeartbeatDataAt : charger'.lastHeartbeatDataAt = charger.lastHeartbeatDataAt

theorem SameRecord.refl (charger : EvCharger) : SameRecord charger charger := ⟨rfl, rfl, rfl, rfl, rfl, rfl⟩

theorem SameRecord.symm {charger charger' : EvCharger} (h : SameRecord charger charger') :
    SameRecord charger' charger :=
  ⟨h.smartChargingState.symm, h.lastAppliedCurrentA.symm, h.lastRequestedCurrentA.symm, h.lastStartAt.symm,
    h.lastStopAt.symm, h.lastHeartbeatDataAt.symm⟩

theorem SameRecord.trans {charger charger' charger'' : EvCharger} (h : SameRecord charger charger')
    (h' : SameRecord charger' charger'') : SameRecord charger charger'' :=
  ⟨h'.smartChargingState.trans h.smartChargingState, h'.lastAppliedCurrentA.trans h.lastAppliedCurrentA,
    h'.lastRequestedCurrentA.trans h.lastRequestedCurrentA, h'.lastStartAt.trans h.lastStartAt,
    h'.lastStopAt.trans h.lastStopAt, h'.lastHeartbeatDataAt.trans h.lastHeartbeatDataAt⟩

theorem sameRecord_expireOverride (charger : EvCharger) (now : Instant) :
    SameRecord charger (expireOverride charger now) := by
  unfold expireOverride
  split_ifs
  · exact ⟨rfl, rfl, rfl, rfl, rfl, rfl⟩
  · exact SameRecord.refl charger

/-- A change of the settings of a charger. -/
structure SettingsChange where
  change : EvCharger → EvCharger
  keeps : ∀ charger, SameRecord charger (change charger)

def SettingsChange.nothing : SettingsChange where
  change := id
  keeps := SameRecord.refl

/-- A cycle, the change of the settings before it, and whether the engine has been restarted before it. -/
structure EngineStep (σ : Type*) where
  settings : SettingsChange := .nothing
  restarted : Bool := false
  inputs : CycleInputs σ

/-- What the cycle finds. -/
def EngineStep.found (step : EngineStep σ) (s : EngineState σ) : EngineState σ :=
  { s with
    charger := step.settings.change s.charger
    runtime := if step.restarted then none else s.runtime }

def engineStep (adapter : ChargerAdapter σ) (s : EngineState σ) (step : EngineStep σ) : EngineState σ :=
  runChargerCycle adapter step.inputs (step.found s)

/-! ### What the optimizer is handed -/

/-- The energy state that the cycle hands to the optimizer, if it gets there. -/
def CycleInputs.handed (inputs : CycleInputs σ) (charger : EvCharger) : Option EnergyState :=
  if inputs.moduleActive && inputs.siteHasSystemId && charger.hasExternalChargerId && inputs.config.isSome then
    inputs.energyState.map (cycleEnergy inputs charger)
  else none

theorem handed_eq_some {inputs : CycleInputs σ} {charger : EvCharger} {energy : EnergyState} :
    inputs.handed charger = some energy ↔
      inputs.moduleActive = true ∧ inputs.siteHasSystemId = true ∧ charger.hasExternalChargerId = true ∧
        (∃ config, inputs.config = some config) ∧
        ∃ provided, inputs.energyState = some provided ∧ cycleEnergy inputs charger provided = energy := by
  unfold CycleInputs.handed
  by_cases h : (inputs.moduleActive && inputs.siteHasSystemId && charger.hasExternalChargerId &&
      inputs.config.isSome) = true
  · rw [if_pos h, Option.map_eq_some_iff]
    rw [Bool.and_eq_true, Bool.and_eq_true, Bool.and_eq_true, Option.isSome_iff_exists] at h
    obtain ⟨⟨⟨hactive, hsite⟩, hcharger⟩, hconfig⟩ := h
    exact ⟨fun hprovided => ⟨hactive, hsite, hcharger, hconfig, hprovided⟩, fun hall => hall.2.2.2.2⟩
  · rw [if_neg h]
    refine iff_of_false (fun heq => Option.noConfusion rfl (heq_of_eq heq)) ?_
    rintro ⟨hactive, hsite, hcharger, ⟨config, hconfig⟩, -⟩
    rw [hactive, hsite, hcharger, hconfig] at h
    exact h rfl

/-- What is left by a cycle that hands nothing to the optimizer. -/
def EngineState.turnedAway (inputs : CycleInputs σ) (s : EngineState σ) : EngineState σ :=
  if inputs.moduleActive && inputs.siteHasSystemId && !s.charger.hasExternalChargerId then
    { s with
      charger :=
        { s.charger with lastChargingReason := some "missing_chargeamp_id", lastBridgeRunAt := some inputs.now } }
  else s

theorem runChargerCycle_of_handed_none (adapter : ChargerAdapter σ) {inputs : CycleInputs σ} {s : EngineState σ}
    (h : inputs.handed s.charger = none) : runChargerCycle adapter inputs s = s.turnedAway inputs := by
  unfold runChargerCycle EngineState.turnedAway
  cases hactive : inputs.moduleActive with
  | false => rfl
  | true =>
    cases hsite : inputs.siteHasSystemId with
    | false => rfl
    | true =>
      cases hcharger : s.charger.hasExternalChargerId with
      | false => rfl
      | true =>
        cases henergy : inputs.energyState with
        | none => rfl
        | some provided =>
          cases hconfig : inputs.config with
          | none => rfl
          | some config =>
            have hhanded := handed_eq_some.mpr ⟨hactive, hsite, hcharger, ⟨config, hconfig⟩, provided, henergy, rfl⟩
            rw [h] at hhanded
            cases hhanded

/-- It leaves what is remembered, in the store and in memory. -/
theorem turnedAway_keeps (inputs : CycleInputs σ) (s : EngineState σ) :
    SameRecord s.charger (s.turnedAway inputs).charger ∧ (s.turnedAway inputs).rows = s.rows ∧
      (s.turnedAway inputs).runtime = s.runtime := by
  unfold EngineState.turnedAway
  split_ifs
  · exact ⟨⟨rfl, rfl, rfl, rfl, rfl, rfl⟩, rfl, rfl⟩
  · exact ⟨SameRecord.refl _, rfl, rfl⟩

/-- A cycle that hands an energy state to the optimizer goes on with what it is answered. -/
theorem runChargerCycle_of_handed (adapter : ChargerAdapter σ) {inputs : CycleInputs σ} {s : EngineState σ}
    {energy : EnergyState} (h : inputs.handed s.charger = some energy) :
    ∃ config, inputs.config = some config ∧ runChargerCycle adapter inputs s =
      (inputs.optimizerTarget energy).elim
        { s with
          charger := expireOverride s.charger inputs.now
          runtime := some (ensureRuntime s.runtime s.charger s.rows inputs.now) }
        fun target => controlCharger adapter inputs energy config target
          (ensureRuntime s.runtime s.charger s.rows inputs.now)
          { s with
            charger := expireOverride s.charger inputs.now
            runtime := some (ensureRuntime s.runtime s.charger s.rows inputs.now) } := by
  obtain ⟨hactive, hsite, hcharger, ⟨config, hconfig⟩, provided, henergy, rfl⟩ := handed_eq_some.mp h
  refine ⟨config, hconfig, ?_⟩
  unfold runChargerCycle
  rw [hactive, hsite, hcharger, henergy, hconfig]
  dsimp only
  cases inputs.optimizerTarget (cycleEnergy inputs s.charger provided) with
  | none => rfl
  | some target => rfl

end EnergyCore.Charging
