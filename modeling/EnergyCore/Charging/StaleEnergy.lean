import EnergyCore.Charging.CoupledCharger
import EnergyCore.Charging.EngineRuns

/-!
# Missing data and staleness

A cycle without an energy provider falls back on a state that is stamped with `last_heartbeat_data_at`, and then writes
that stamp back. `_mark_stale` judges the state by its age alone.

* `lastHeartbeatDataAt_engineStep` — what a cycle writes back;
* `missing_is_stale_iff` — when missing data counts as stale, along a run.
-/

namespace EnergyCore.Charging

open StepRun

variable {σ : Type*}

/-! ### Runs with the times of the data -/

/-- A charger's engine, with the times of the data that providers have delivered so far. -/
structure HeartbeatRun (σ : Type*) where
  engine : EngineState σ
  received : List Instant := []

/-- The times of the provider data that a cycle receives. -/
def CycleInputs.received (inputs : CycleInputs σ) : List Instant :=
  ((inputs.energyState.getD none).map EnergyState.timestamp).toList

def heartbeatStep (adapter : ChargerAdapter σ) (s : HeartbeatRun σ) (step : EngineStep σ) : HeartbeatRun σ where
  engine := engineStep adapter s.engine step
  received := s.received ++ step.inputs.received

/-- No energy provider is available. -/
def CycleInputs.unprovided (inputs : CycleInputs σ) : Prop := inputs.energyState = some none

/-- What a cycle without a provider hands to the optimizer is stale, and a stored time moves to a time of provider
data only. -/
def MissingIsStale (adapter : ChargerAdapter σ) (s : HeartbeatRun σ) (step : EngineStep σ) : Prop :=
  (step.inputs.unprovided → ∀ energy, step.inputs.handed (step.found s.engine).charger = some energy →
      energy.stale = true) ∧
    ∀ at', (heartbeatStep adapter s step).engine.charger.lastHeartbeatDataAt = some at' →
      s.engine.charger.lastHeartbeatDataAt = some at' ∨ at' ∈ (heartbeatStep adapter s step).received

/-- A cycle without a provider gets to the optimizer while the stored time is within the timeout, or there is none. -/
def LooksFresh (s : HeartbeatRun σ) (step : EngineStep σ) : Prop :=
  step.inputs.unprovided ∧ (step.inputs.handed (step.found s.engine).charger).isSome = true ∧
    ∀ at', s.engine.charger.lastHeartbeatDataAt = some at' →
      max 0 (step.inputs.now - at') ≤ (step.found s.engine).charger.staleTimeoutSeconds

/-! ### One cycle -/

theorem cycleEnergy_timestamp (inputs : CycleInputs σ) (charger : EvCharger) (provided : Option EnergyState) :
    (cycleEnergy inputs charger provided).timestamp =
      (provided.map EnergyState.timestamp).getD (charger.lastHeartbeatDataAt.getD inputs.now) := by
  cases provided with
  | none => rfl
  | some energy => rfl

/-- The state that a cycle without a provider falls back on is stale exactly if the stored time is past the timeout. -/
theorem cycleEnergy_stale_iff (inputs : CycleInputs σ) (charger : EvCharger) :
    (cycleEnergy inputs charger none).stale = true ↔ ∃ at', charger.lastHeartbeatDataAt = some at' ∧
      charger.staleTimeoutSeconds < max 0 (inputs.now - at') := by
  show decide ((degradedEnergyState charger inputs.now).dataAgeSeconds > charger.staleTimeoutSeconds) = true ↔ _
  rw [decide_eq_true_iff]
  unfold degradedEnergyState
  cases charger.lastHeartbeatDataAt with
  | none =>
    refine iff_of_false (lt_irrefl _) ?_
    rintro ⟨at', h, -⟩
    cases h
  | some at' =>
    refine ⟨fun h => ⟨at', rfl, h⟩, ?_⟩
    rintro ⟨_, heq, h⟩
    cases heq
    exact h

/-- **What a cycle writes back**: the time of the energy state, if it gets past the optimizer. -/
theorem lastHeartbeatDataAt_engineStep (adapter : ChargerAdapter σ) (s : EngineState σ) (step : EngineStep σ) :
    (engineStep adapter s step).charger.lastHeartbeatDataAt = s.charger.lastHeartbeatDataAt ∨
      ∃ energy, step.inputs.handed (step.found s).charger = some energy ∧
        (engineStep adapter s step).charger.lastHeartbeatDataAt = some energy.timestamp := by
  have hfound : (step.found s).charger.lastHeartbeatDataAt = s.charger.lastHeartbeatDataAt :=
    (step.settings.keeps s.charger).lastHeartbeatDataAt
  unfold engineStep
  cases hhanded : step.inputs.handed (step.found s).charger with
  | none =>
    rw [runChargerCycle_of_handed_none adapter hhanded]
    exact .inl ((turnedAway_keeps _ _).1.lastHeartbeatDataAt.trans hfound)
  | some energy =>
    obtain ⟨config, -, hcycle⟩ := runChargerCycle_of_handed adapter hhanded
    rw [hcycle]
    cases step.inputs.optimizerTarget energy with
    | none => exact .inl ((sameRecord_expireOverride _ _).lastHeartbeatDataAt.trans hfound)
    | some target => exact .inr ⟨energy, rfl, rfl⟩

/-- While no provider is available, a stored time stays. -/
theorem lastHeartbeatDataAt_of_unprovided (adapter : ChargerAdapter σ) {s : EngineState σ} {step : EngineStep σ}
    {at' : Instant} (hunprovided : step.inputs.unprovided) (h : s.charger.lastHeartbeatDataAt = some at') :
    (engineStep adapter s step).charger.lastHeartbeatDataAt = some at' := by
  rcases lastHeartbeatDataAt_engineStep adapter s step with hkept | ⟨energy, hhanded, hwritten⟩
  · rw [hkept, h]
  · obtain ⟨-, -, -, -, provided, hprovided, rfl⟩ := handed_eq_some.mp hhanded
    rw [hunprovided, Option.some.injEq] at hprovided
    rw [hwritten, cycleEnergy_timestamp, ← hprovided]
    show some ((step.settings.change s.charger).lastHeartbeatDataAt.getD step.inputs.now) = _
    rw [(step.settings.keeps s.charger).lastHeartbeatDataAt, h]
    rfl

/-- **One cycle** counts missing data as stale exactly if it does not look fresh. -/
theorem missingIsStale_iff (adapter : ChargerAdapter σ) (s : HeartbeatRun σ) (step : EngineStep σ) :
    MissingIsStale adapter s step ↔ ¬ LooksFresh s step := by
  have hfound : (step.found s.engine).charger.lastHeartbeatDataAt = s.engine.charger.lastHeartbeatDataAt :=
    (step.settings.keeps s.engine.charger).lastHeartbeatDataAt
  constructor
  · rintro ⟨hstale, -⟩ ⟨hunprovided, hhanded, hfresh⟩
    obtain ⟨energy, hhanded⟩ := Option.isSome_iff_exists.mp hhanded
    have henergy := hstale hunprovided energy hhanded
    obtain ⟨-, -, -, -, provided, hprovided, rfl⟩ := handed_eq_some.mp hhanded
    rw [hunprovided, Option.some.injEq] at hprovided
    rw [← hprovided] at henergy
    obtain ⟨at', hat, hold⟩ := (cycleEnergy_stale_iff _ _).mp henergy
    rw [hfound] at hat
    exact not_lt.mpr (hfresh at' hat) hold
  · intro hnot
    have hold : step.inputs.unprovided → ∀ energy, step.inputs.handed (step.found s.engine).charger = some energy →
        ∃ at', s.engine.charger.lastHeartbeatDataAt = some at' ∧
          (step.found s.engine).charger.staleTimeoutSeconds < max 0 (step.inputs.now - at') := by
      intro hunprovided energy hhanded
      by_contra hfresh
      refine hnot ⟨hunprovided, Option.isSome_of_eq_some hhanded, fun at' hat => ?_⟩
      exact not_lt.mp fun hlt => hfresh ⟨at', hat, hlt⟩
    constructor
    · intro hunprovided energy hhanded
      obtain ⟨at', hat, hlt⟩ := hold hunprovided energy hhanded
      obtain ⟨-, -, -, -, provided, hprovided, rfl⟩ := handed_eq_some.mp hhanded
      rw [hunprovided, Option.some.injEq] at hprovided
      rw [← hprovided]
      exact (cycleEnergy_stale_iff _ _).mpr ⟨at', hfound.trans hat, hlt⟩
    · intro at' hat
      have hstep : (heartbeatStep adapter s step).engine = engineStep adapter s.engine step := rfl
      rw [hstep] at hat
      rcases lastHeartbeatDataAt_engineStep adapter s.engine step with hkept | ⟨energy, hhanded, hwritten⟩
      · exact .inl (hkept.symm.trans hat)
      · obtain ⟨-, -, -, -, provided, hprovided, henergy⟩ := handed_eq_some.mp hhanded
        cases provided with
        | none =>
          obtain ⟨before, hbefore, -⟩ := hold hprovided energy hhanded
          have hkept := lastHeartbeatDataAt_of_unprovided adapter hprovided hbefore
          exact .inl (hbefore.trans (hkept.symm.trans hat))
        | some delivered =>
          refine .inr (List.mem_append_right _ ?_)
          have hreceived : step.inputs.received = [delivered.timestamp] := by
            unfold CycleInputs.received
            rw [hprovided]
            rfl
          rw [hwritten, ← henergy, cycleEnergy_timestamp, Option.some.injEq] at hat
          rw [hreceived, ← hat]
          exact List.mem_singleton_self _

/-! ### Runs -/

/-- **Missing data counts as stale** along a run exactly if in none of its cycles without a provider the stored time is
missing or within the timeout. -/
theorem missing_is_stale_iff (adapter : ChargerAdapter σ) (s : HeartbeatRun σ) (steps : List (EngineStep σ)) :
    AllSteps (heartbeatStep adapter) (MissingIsStale adapter) s steps ↔
      AllSteps (heartbeatStep adapter) (fun s step => ¬ LooksFresh s step) s steps :=
  AllSteps.congr (missingIsStale_iff adapter)

/-! ### A provider that has just gone -/

/-- Half a minute after the last data, a cycle without a provider. -/
def goneProvider : EngineStep MockChargeAmpsController where
  inputs :=
    { now := 1792843200
      energyState := some none
      config := some {}
      optimizerTarget := fun _ => some (16, "solar_surplus")
      slowSignals := fun _ => {} }

/-- **Data that is missing looks fresh**: half a minute after the last data, and where there has been none, which is then
stored as data of this moment. -/
theorem goneProvider_looks_fresh :
    ¬ AllSteps (heartbeatStep mockCharger.toChargerAdapter) (MissingIsStale mockCharger.toChargerAdapter)
        { engine := { charger := { lastHeartbeatDataAt := some 1792843170 }, device := {} }
          received := [1792843170] } [goneProvider] ∧
      (heartbeatStep mockCharger.toChargerAdapter { engine := { charger := {}, device := {} } }
        goneProvider).engine.charger.lastHeartbeatDataAt = some 1792843200 := by
  refine ⟨?_, by decide +kernel⟩
  rintro ⟨⟨hstale, -⟩, -⟩
  have hfresh := hstale rfl _ rfl
  revert hfresh
  decide +kernel

end EnergyCore.Charging
