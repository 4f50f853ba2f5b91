import EnergyCore.Foundations.StepRun
import EnergyCore.Vehicles.PersistState

/-!
# Coherence of the stored state

A stored state is coherent if it does not show a vehicle that charges unplugged, or a charging power of a
vehicle that does not charge.

* `coherent_persistState_iff` — what one observation does to a coherent state;
* `coherent_run_iff` — along a run from no state, every stored state is coherent exactly if no observation
  mixes with the last known values;
* `historyRows_run` — a run writes one history row.
-/

namespace EnergyCore.Vehicles

open StepRun

/-- The vehicle does not charge unplugged, and does not draw power without charging. -/
def Coherent (t : Telemetry) : Prop :=
  ¬ (t.isCharging = some true ∧ t.isPluggedIn = some false) ∧
    ¬ (t.isCharging = some false ∧ ∃ power ∈ t.chargingPowerKw, 0 < power)

instance (t : Telemetry) : Decidable (Coherent t) := by
  unfold Coherent; infer_instance

/-- The observation does not say that the vehicle charges unplugged. -/
def CoherentObservation (state : VehicleState) : Prop :=
  ¬ (state.isCharging = some true ∧ state.isPluggedIn = some false)

instance (state : VehicleState) : Decidable (CoherentObservation state) := by
  unfold CoherentObservation; infer_instance

/-- A partial observation contradicts a last known value that it leaves in place: it charges and the vehicle
was unplugged, it is unplugged and the vehicle was charging, or it has a charging power, is not known to be
plugged in, and the vehicle was not charging. -/
def Mixes (latest : Option StoredVehicleState) (state : VehicleState) : Prop :=
  ∃ row ∈ latest, carriesTelemetry state = true ∧
    ((state.isCharging = some true ∧ state.isPluggedIn = none ∧ row.isPluggedIn = some false) ∨
      (state.isCharging = none ∧ state.isPluggedIn = some false ∧ row.isCharging = some true) ∨
      (state.isCharging = none ∧ state.isPluggedIn ≠ some true ∧ row.isCharging = some false ∧
        ∃ power ∈ state.chargingPowerKw, 0 < power))

instance (latest : Option StoredVehicleState) (state : VehicleState) : Decidable (Mixes latest state) := by
  unfold Mixes; infer_instance

/-- An observation and its time. -/
structure Observation where
  state : VehicleState
  now : Instant

def persist (latest : Option StoredVehicleState) (o : Observation) : Option StoredVehicleState :=
  some (persistState latest o.state o.now).row

/-- The correction does not touch what the observation says about the plug, charging and the power. -/
theorem observedState_charging (latest : Option StoredVehicleState) (state : VehicleState) :
    (observedState latest state).isPluggedIn = state.isPluggedIn ∧
      (observedState latest state).isCharging = state.isCharging ∧
      (observedState latest state).chargingPowerKw = state.chargingPowerKw := by
  cases latest with
  | none =>
    rw [observedState_first]
    exact ⟨rfl, rfl, rfl⟩
  | some row =>
    by_cases h : EstimateReplaces row state
    · obtain ⟨priorSoc, hprior, hsoc, priorRangeKm, hrow, newRangeKm, hrange, estimated, hderive, hfar⟩ := h
      rw [observedState_of_estimate hprior hsoc hrow hrange hderive hfar]
      exact ⟨rfl, rfl, rfl⟩
    · rw [observedState_of_not h]
      exact ⟨rfl, rfl, rfl⟩

/-! ### One observation -/

/-- A first observation is stored without its power where the vehicle does not charge. -/
theorem coherent_first {state : VehicleState} (now : Instant) (h : CoherentObservation state) :
    Coherent (persistState none state now).row.toTelemetry := by
  rw [persistState_first]
  refine ⟨h, ?_⟩
  rintro ⟨hcharging, power, hpower, hpos⟩
  have hzero : (incomingValues none state now).chargingPowerKw = some 0 := if_pos hcharging
  rw [Option.mem_def, hzero] at hpower
  exact absurd hpos (by simp [← Option.some.inj hpower])

/-- The stored plug, charging and power after an observation with telemetry. -/
theorem persistState_merged (row : StoredVehicleState) {state : VehicleState} (now : Instant)
    (hcarries : carriesTelemetry state = true) : ∃ (incoming : Telemetry) (stale : Bool),
      incoming.isPluggedIn = state.isPluggedIn ∧ incoming.isCharging = state.isCharging ∧
      incoming.chargingPowerKw = (if state.isCharging = some false then some 0 else state.chargingPowerKw) ∧
      (state.chargingPowerKw ≠ none → stale = false) ∧
      (persistState (some row) state now).row.isPluggedIn = mergedPlugged incoming row.isPluggedIn ∧
      (persistState (some row) state now).row.isCharging = mergedCharging incoming row.isCharging ∧
      (persistState (some row) state now).row.chargingPowerKw = mergedPower incoming stale row.chargingPowerKw := by
  obtain ⟨hplugged, hcharging, hpower⟩ := observedState_charging (some row) state
  generalize hobserved : observedState (some row) state = observed at hplugged hcharging hpower
  let incoming := incomingValues (some row) observed now
  let stamps := incoming.toTelemetryStamps.orLast row.toTelemetryStamps
  have hrow : (persistState (some row) state now).row.toTelemetry
      = mergeTelemetry incoming.toTelemetry stamps.chargingUpdatedAt now row.toTelemetry := by
    rw [persistState_next now hcarries, hobserved]
    rfl
  have hvalue : incoming.chargingPowerKw
      = (if state.isCharging = some false then some 0 else state.chargingPowerKw) := by
    rw [← hcharging, ← hpower]
    rfl
  have hfresh : state.chargingPowerKw ≠ none → ((utcAgeSeconds stamps.chargingUpdatedAt now).any
        fun age => decide (age > staleTelemetrySeconds)) = false := by
    intro hgiven
    have hdue : incoming.chargingUpdatedAt = some now := if_pos (Or.inl (hpower ▸ hgiven))
    have hstamp : stamps.chargingUpdatedAt = some now := by
      show incoming.chargingUpdatedAt.or row.chargingUpdatedAt = some now
      rw [hdue]
      rfl
    rw [hstamp]
    simp [utcAgeSeconds, ageSeconds, staleTelemetrySeconds]
  refine ⟨incoming.toTelemetry, _, hplugged, hcharging, hvalue, hfresh, ?_, ?_, ?_⟩
  · rw [hrow, mergeTelemetry_eq]
  · rw [hrow, mergeTelemetry_eq]
  · rw [hrow, mergeTelemetry_eq]

/-- Where nothing is said about charging, a positive merged power is a positive observed one. -/
theorem mergedPower_pos_iff {incoming : Telemetry} {stale : Bool} {last : Option ℚ}
    (hcharging : incoming.isCharging = none) (hstale : incoming.chargingPowerKw ≠ none → stale = false)
    (hlast : ¬ ∃ power ∈ last, 0 < power) : (∃ power ∈ mergedPower incoming stale last, 0 < power) ↔
      ∃ power ∈ incoming.chargingPowerKw, 0 < power := by
  cases hpower : incoming.chargingPowerKw with
  | none =>
    refine iff_of_false ?_ (by simp)
    cases stale with
    | true => simp [mergedPower, hcharging]
    | false => simpa [mergedPower, hcharging, hpower] using hlast
  | some power =>
    have hfresh := hstale (by simp [hpower])
    simp [mergedPower, hcharging, hpower, hfresh]

/-- **One observation.** A coherent observation leaves a coherent state coherent exactly if it does not mix
with its values. -/
theorem coherent_persistState_iff {row : StoredVehicleState} {state : VehicleState} (now : Instant)
    (hrow : Coherent row.toTelemetry) (hstate : CoherentObservation state) :
    Coherent (persistState (some row) state now).row.toTelemetry ↔ ¬ Mixes (some row) state := by
  have hmixes : Mixes (some row) state ↔ carriesTelemetry state = true ∧
      ((state.isCharging = some true ∧ state.isPluggedIn = none ∧ row.isPluggedIn = some false) ∨
        (state.isCharging = none ∧ state.isPluggedIn = some false ∧ row.isCharging = some true) ∨
        (state.isCharging = none ∧ state.isPluggedIn ≠ some true ∧ row.isCharging = some false ∧
          ∃ power ∈ state.chargingPowerKw, 0 < power)) := by
    simp [Mixes]
  rw [hmixes]
  cases hcarries : carriesTelemetry state with
  | false =>
    rw [persistState_skipped row now hcarries]
    exact iff_of_true hrow (by simp)
  | true =>
    obtain ⟨incoming, stale, hplugged, hcharging, hpower, hstale, hplug, hcharge, hdraw⟩ :=
      persistState_merged row now hcarries
    unfold Coherent
    rw [hplug, hcharge, hdraw]
    cases hc : state.isCharging with
    | some charging =>
      cases charging with
      | true =>
        -- only the plug can be wrong
        have hnot : state.isPluggedIn ≠ some false := fun h => hstate ⟨hc, h⟩
        rw [hc] at hcharging
        cases hp : state.isPluggedIn with
        | none => simp [mergedPlugged, mergedCharging, hcharging, hplugged, hp]
        | some plugged =>
          cases plugged with
          | true => simp [mergedPlugged, mergedCharging, hcharging, hplugged, hp]
          | false => exact absurd hp hnot
      | false =>
        -- the power of a vehicle that does not charge is set to zero
        rw [hc] at hcharging
        rw [hc, if_pos rfl] at hpower
        simp [mergedCharging, mergedPower, hcharging, hpower]
    | none =>
      rw [hc] at hcharging
      rw [hc, if_neg (by simp)] at hpower
      have hdrawn : row.isCharging = some false →
          ((∃ power ∈ mergedPower incoming stale row.chargingPowerKw, 0 < power) ↔
            ∃ power ∈ state.chargingPowerKw, 0 < power) := by
        intro hoff
        rw [mergedPower_pos_iff hcharging (fun h => hstale (hpower ▸ h)) (fun h => hrow.2 ⟨hoff, h⟩),
          hpower]
      have hlast : mergedCharging incoming row.isCharging
          = if state.isPluggedIn = some true then none else row.isCharging := by
        simp [mergedCharging, hcharging, hplugged]
      have hplugs : mergedPlugged incoming row.isPluggedIn
          = state.isPluggedIn.or row.isPluggedIn := by
        simp [mergedPlugged, hcharging, hplugged]
      rw [hlast, hplugs]
      cases hp : state.isPluggedIn with
      | none =>
        have hkept : ¬ (row.isCharging = some true ∧ row.isPluggedIn = some false) := hrow.1
        simp only [Option.none_or, reduceCtorEq, if_false, true_and, false_and, and_false, false_or,
          ne_eq, not_false_eq_true]
        rw [and_congr_right fun hoff => hdrawn hoff]
        exact and_iff_right hkept
      | some plugged =>
        cases plugged with
        | true => simp
        | false =>
          simp only [Option.some_or, reduceCtorEq, Option.some.injEq, Bool.false_eq_true, if_false,
            true_and, false_and, and_true, false_or, ne_eq, not_false_eq_true]
          rw [and_congr_right fun hoff => hdrawn hoff, not_or]

/-! ### Runs -/

/-- The stored state after an observation is coherent. -/
def StaysCoherent (latest : Option StoredVehicleState) (o : Observation) : Prop :=
  Coherent (persistState latest o.state o.now).row.toTelemetry

instance (latest : Option StoredVehicleState) (o : Observation) : Decidable (StaysCoherent latest o) := by
  unfold StaysCoherent; infer_instance

/-- **Coherence along a run.** From no stored state, and with coherent observations, every stored state is
coherent exactly if no observation of the run mixes with the state before it. -/
theorem coherent_run_iff (observations : List Observation)
    (hcoherent : ∀ o ∈ observations, CoherentObservation o.state) : AllSteps persist StaysCoherent none observations ↔
      AllSteps persist (fun latest o => ¬ Mixes latest o.state) none observations := by
  have hsteps : AllSteps persist (fun _ o => CoherentObservation o.state) none observations :=
    AllSteps.of_forall_mem hcoherent
  have hstep : ∀ (latest : Option StoredVehicleState) (o : Observation),
      (∀ row ∈ latest, Coherent row.toTelemetry) → CoherentObservation o.state →
        (StaysCoherent latest o ↔ ¬ Mixes latest o.state) := by
    intro latest o hlatest ho
    cases latest with
    | none => exact iff_of_true (coherent_first o.now ho) (by simp [Mixes])
    | some row => exact coherent_persistState_iff o.now (hlatest row rfl) ho
  refine AllSteps.congr_of_invariant (I := fun latest => ∀ row ∈ latest, Coherent row.toTelemetry)
    ?_ hstep (by simp) hsteps
  intro latest o hlatest ho hno row hrow
  obtain rfl : (persistState latest o.state o.now).row = row := Option.some.inj hrow
  exact (hstep latest o hlatest ho).mpr hno

/-- An observation of an idle vehicle at its plug, and one without its charging state. -/
theorem coherent_run_plugged :
    AllSteps persist StaysCoherent none
      [⟨{ isPluggedIn := some true, isCharging := some false }, 0⟩,
        ⟨{ isPluggedIn := some true, chargingPowerKw := some 7 }, 60⟩] :=
  (coherent_run_iff _ (by decide +kernel)).mpr (by decide +kernel)

/-- A vehicle seen unplugged, and then charging without a word about its plug. -/
theorem charging_unplugged : let observations : List Observation :=
      [⟨{ stateOfChargePercent := some 50, isPluggedIn := some false }, 0⟩, ⟨{ isCharging := some true }, 60⟩]
    (∀ o ∈ observations, CoherentObservation o.state) ∧
      ¬ AllSteps persist StaysCoherent none observations := by
  decide +kernel

/-! ### The history -/

/-- The history rows that a run of observations writes. -/
def historyRows (latest : Option StoredVehicleState) : List Observation → List VehicleStateHistory
  | [] => []
  | o :: os => (persistState latest o.state o.now).history.toList ++ historyRows (persist latest o) os

/-- The history test reads the row after it was written, and finds no difference. -/
theorem history_of_row (row : StoredVehicleState) (state : VehicleState) (now : Instant) :
    (persistState (some row) state now).history = none := by
  cases hcarries : carriesTelemetry (observedState (some row) state) <;>
    simp [persistState, hcarries, shouldWriteHistory, historyMinInterval, mergeLastKnownGood, incomingValues]

theorem historyRows_of_row (os : List Observation) (row : StoredVehicleState) : historyRows (some row) os = [] := by
  induction os generalizing row with
  | nil => rfl
  | cons o os ih =>
    rw [historyRows, history_of_row]
    exact ih _

/-- **One history row.** A run from no state writes the row of its first observation, and no other. -/
theorem historyRows_run (o : Observation) (os : List Observation) :
    (historyRows none (o :: os)).map VehicleStateHistory.recordedAt = [o.now] := by
  show ((persistState none o.state o.now).history.toList ++ historyRows (some _) os).map _ = _
  rw [historyRows_of_row]
  rfl

end EnergyCore.Vehicles
