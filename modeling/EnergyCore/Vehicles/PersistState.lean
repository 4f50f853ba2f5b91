import EnergyCore.Vehicles.ConnectionSignals

/-!
# The stored state of a vehicle

`persist_state` of `db/vehicle_repo.py`: an observation of the vehicle is corrected, stamped, merged with the
last known values and stored. The model keeps the row, the history row, the diagnostic events by their type
and the announced change.

* `observedState_of_estimate` and `observedState_of_not` — the correction from the range;
* `persistState_first`, `persistState_skipped` and `persistState_next` — the stored row.
-/

namespace EnergyCore.Vehicles

open Accounting
open HalfEvenRounding

/-! ### Observations and rows -/

inductive VehicleConnectionState where
  | disconnected | authenticating | connecting | connected | refreshingToken | reconnecting | backoff | degraded
  deriving Repr, DecidableEq

inductive DataQuality where
  | measured | calculated | estimated | unknown | stale
  deriving Repr, DecidableEq

/-- The fields of `_TELEMETRY_FIELDS`. -/
@[ext] structure Telemetry where
  stateOfChargePercent : Option ℚ := none
  targetSocPercent : Option ℚ := none
  electricRangeKm : Option ℚ := none
  latitude : Option ℚ := none
  longitude : Option ℚ := none
  isPluggedIn : Option Bool := none
  isCharging : Option Bool := none
  chargingPowerKw : Option ℚ := none
  chargingPowerLimitKw : Option ℚ := none
  estimatedChargeCompleteAt : Option Instant := none
  departureTime : Option Instant := none
  deriving Repr, DecidableEq

/-- The times at which the groups of telemetry fields were last observed. -/
@[ext] structure TelemetryStamps where
  socUpdatedAt : Option Instant := none
  chargingUpdatedAt : Option Instant := none
  rangeUpdatedAt : Option Instant := none
  locationUpdatedAt : Option Instant := none
  deriving Repr, DecidableEq

/-- The fields of `VehicleState` that `persist_state` reads, and the quality its correction writes. -/
structure VehicleState extends Telemetry where
  connectionState : VehicleConnectionState := .disconnected
  dataQuality : DataQuality := .unknown
  lastVehicleUpdate : Option Instant := none
  lastProviderUpdate : Option Instant := none
  socQuality : DataQuality := .unknown
  deriving Repr, DecidableEq

/-- The columns of `VehicleStateLatestModel`, which are also the values that are stored in it. -/
structure StoredVehicleState extends Telemetry, TelemetryStamps where
  connectionState : VehicleConnectionState := .disconnected
  dataQuality : DataQuality := .unknown
  lastVehicleUpdate : Option Instant := none
  lastProviderUpdate : Option Instant := none
  updatedAt : Instant
  deriving Repr, DecidableEq

/-- A row of `VehicleStateHistoryModel`. -/
structure VehicleStateHistory where
  recordedAt : Instant
  stateOfChargePercent : Option ℚ
  targetSocPercent : Option ℚ
  electricRangeKm : Option ℚ
  isPluggedIn : Option Bool
  isCharging : Option Bool
  chargingPowerKw : Option ℚ
  connectionState : VehicleConnectionState
  dataQuality : DataQuality
  deriving Repr, DecidableEq

inductive IntegrationEventType where
  | socEstimatedFromRange | telemetrySkipped | socUpdated | socStaleAtSource | socLkgKept
  deriving Repr, DecidableEq

/-- What `publish_vehicle_state_changed` announces. -/
structure VehicleStateChange where
  isPluggedIn : Option Bool
  isCharging : Option Bool
  previousPluggedIn : Option Bool
  previousCharging : Option Bool
  deriving Repr, DecidableEq

/-- `_utc_age_seconds`. -/
def utcAgeSeconds (timestamp : Option Instant) (now : Instant) : Option ℚ := ageSeconds timestamp now

/-! ### The correction from the range -/

/-- `derive_soc_from_range_change`, with its default ratio. -/
def deriveSocFromRangeChange (priorSoc priorRangeKm newRangeKm : ℚ) : Option ℚ :=
  if priorRangeKm ≤ 0 ∨ newRangeKm ≤ 0 then none
  else
    let ratio := newRangeKm / priorRangeKm
    if |ratio - 1| < 15 / 1000 then none
    else some (max 0 (min 100 (roundDigits 1 (priorSoc * ratio))))

/-- `apply_range_based_soc_correction`. -/
def applyRangeBasedSocCorrection (state : VehicleState) (priorSoc priorRangeKm : Option ℚ) : VehicleState :=
  match state.stateOfChargePercent, priorSoc, priorRangeKm, state.electricRangeKm with
  | some soc, some priorSoc, some priorRangeKm, some newRangeKm =>
    if soc ≠ priorSoc then state
    else
      match deriveSocFromRangeChange priorSoc priorRangeKm newRangeKm with
      | none => state
      | some estimated =>
        if |estimated - priorSoc| < 1 then state
        else { state with
          stateOfChargePercent := some estimated, dataQuality := .estimated, socQuality := .estimated }
  | _, _, _, _ => state

/-! ### Placeholders -/

/-- `has_plausible_vehicle_telemetry`. -/
def hasPlausibleVehicleTelemetry (state : VehicleState) : Bool :=
  state.stateOfChargePercent.any (fun soc => decide (0 < soc ∧ soc ≤ 100)) ||
    state.electricRangeKm.any (fun rangeKm => decide (0 < rangeKm)) ||
    state.chargingPowerKw.any (fun powerKw => decide (0 < powerKw)) ||
    decide (state.isCharging = some true) || decide (state.isPluggedIn = some true) ||
    (state.latitude.isSome && state.longitude.isSome)

/-- `_carries_telemetry`. -/
def carriesTelemetry (state : VehicleState) : Bool :=
  decide (state.toTelemetry ≠ {}) && hasPlausibleVehicleTelemetry state

/-! ### The values to store -/

/-- The `incoming` values of an observation, with the stamps of what it observed. -/
def incomingValues (latest : Option StoredVehicleState) (state : VehicleState) (now : Instant) : StoredVehicleState :=
  let priorSoc := latest.bind fun row => row.stateOfChargePercent
  let priorRange := latest.bind fun row => row.electricRangeKm
  let vehicleAge := utcAgeSeconds state.lastVehicleUpdate now
  { toTelemetry :=
      { state.toTelemetry with
        chargingPowerKw := if state.isCharging = some false then some 0 else state.chargingPowerKw }
    toTelemetryStamps :=
      { socUpdatedAt :=
          if state.stateOfChargePercent ≠ none ∧
              (priorSoc = none ∨ priorSoc ≠ state.stateOfChargePercent ∨
                vehicleAge.any (fun age => decide (age ≤ staleTelemetrySeconds)) = true) then some now
          else none
        chargingUpdatedAt :=
          if state.chargingPowerKw ≠ none ∨ state.isCharging ≠ none ∨ state.isPluggedIn ≠ none then some now
          else none
        rangeUpdatedAt :=
          if state.electricRangeKm ≠ none ∧ (priorRange = none ∨ priorRange ≠ state.electricRangeKm) then
            some now
          else none
        locationUpdatedAt :=
          if state.latitude ≠ none ∧ state.longitude ≠ none then some now else none }
    connectionState := state.connectionState
    dataQuality := state.dataQuality
    lastVehicleUpdate := state.lastVehicleUpdate
    lastProviderUpdate := state.lastProviderUpdate
    updatedAt := now }

/-- Every field that is missing in the first comes from the second. -/
def Telemetry.orLast (t last : Telemetry) : Telemetry :=
  { stateOfChargePercent := t.stateOfChargePercent.or last.stateOfChargePercent
    targetSocPercent := t.targetSocPercent.or last.targetSocPercent
    electricRangeKm := t.electricRangeKm.or last.electricRangeKm
    latitude := t.latitude.or last.latitude
    longitude := t.longitude.or last.longitude
    isPluggedIn := t.isPluggedIn.or last.isPluggedIn
    isCharging := t.isCharging.or last.isCharging
    chargingPowerKw := t.chargingPowerKw.or last.chargingPowerKw
    chargingPowerLimitKw := t.chargingPowerLimitKw.or last.chargingPowerLimitKw
    estimatedChargeCompleteAt := t.estimatedChargeCompleteAt.or last.estimatedChargeCompleteAt
    departureTime := t.departureTime.or last.departureTime }

/-- Every stamp that is missing in the first comes from the second. -/
def TelemetryStamps.orLast (t last : TelemetryStamps) : TelemetryStamps :=
  { socUpdatedAt := t.socUpdatedAt.or last.socUpdatedAt
    chargingUpdatedAt := t.chargingUpdatedAt.or last.chargingUpdatedAt
    rangeUpdatedAt := t.rangeUpdatedAt.or last.rangeUpdatedAt
    locationUpdatedAt := t.locationUpdatedAt.or last.locationUpdatedAt }

/-- The corrections of `_merge_last_known_good` to the merged telemetry. -/
def reconcileTelemetry (incoming merged : Telemetry) (chargingUpdatedAt : Option Instant) (now : Instant) :
    Telemetry :=
  let merged :=
    if incoming.isPluggedIn = none ∧ incoming.isCharging = some false ∧
        incoming.chargingPowerKw.getD 0 < 3 / 10 then
      { merged with isPluggedIn := some false }
    else merged
  let merged :=
    if incoming.isCharging = some false ∧ incoming.chargingPowerKw.getD 0 > 0 then
      { merged with chargingPowerKw := some 0 }
    else merged
  let chAge := utcAgeSeconds chargingUpdatedAt now
  let merged :=
    if chAge.any (fun age => decide (age > staleTelemetrySeconds)) = true ∧
        incoming.isCharging ≠ some true then
      { merged with chargingPowerKw := if incoming.isCharging = some false then some 0 else none }
    else merged
  if incoming.isPluggedIn = some true ∧ incoming.isCharging = none then { merged with isCharging := none }
  else merged

/-- `_merge_last_known_good`. -/
def mergeLastKnownGood (latest : Option StoredVehicleState) (incoming : StoredVehicleState)
    (now : Instant) : StoredVehicleState :=
  match latest with
  | none => incoming
  | some latest =>
    let stamps := incoming.toTelemetryStamps.orLast latest.toTelemetryStamps
    { incoming with
      toTelemetry := reconcileTelemetry incoming.toTelemetry
        (incoming.toTelemetry.orLast latest.toTelemetry) stamps.chargingUpdatedAt now
      toTelemetryStamps := stamps }

/-! ### Storing -/

def historyMinInterval : ℚ := 300

/-- `_should_write_history`. -/
def shouldWriteHistory (previous : Option StoredVehicleState) (values : StoredVehicleState) (now : Instant) : Bool :=
  match previous with
  | none => true
  | some previous =>
    decide (previous.stateOfChargePercent ≠ values.stateOfChargePercent) ||
      decide (previous.targetSocPercent ≠ values.targetSocPercent) ||
      decide (previous.electricRangeKm ≠ values.electricRangeKm) ||
      decide (previous.isPluggedIn ≠ values.isPluggedIn) ||
      decide (previous.isCharging ≠ values.isCharging) ||
      decide (previous.chargingPowerKw ≠ values.chargingPowerKw) ||
      decide (previous.connectionState ≠ values.connectionState) ||
      decide (previous.dataQuality ≠ values.dataQuality) ||
      decide (historyMinInterval ≤ now - previous.updatedAt)

/-- What one call of `persist_state` leaves behind. -/
structure PersistedState where
  row : StoredVehicleState
  events : List IntegrationEventType
  history : Option VehicleStateHistory
  announced : Option VehicleStateChange
  deriving Repr, DecidableEq

/-- The state of charge is replaced by an estimate: the observation repeats the stored one. -/
def estimatesSoc (latest : Option StoredVehicleState) (state : VehicleState) : Bool :=
  let priorSoc := latest.bind fun row => row.stateOfChargePercent
  let corrected :=
    applyRangeBasedSocCorrection state priorSoc (latest.bind fun row => row.electricRangeKm)
  corrected.stateOfChargePercent.isSome && priorSoc.isSome &&
    decide (corrected.stateOfChargePercent ≠ priorSoc) && decide (state.stateOfChargePercent = priorSoc)

/-- The observation that is stored. -/
def observedState (latest : Option StoredVehicleState) (state : VehicleState) : VehicleState :=
  if estimatesSoc latest state = true then
    applyRangeBasedSocCorrection state (latest.bind fun row => row.stateOfChargePercent)
      (latest.bind fun row => row.electricRangeKm)
  else state

/-- The diagnostic event about the state of charge; a skipped update has no merged value. -/
def socEvents (latest : Option StoredVehicleState) (state : VehicleState) (incomingHadSoc : Bool)
    (mergedSoc : Option ℚ) (now : Instant) : List IntegrationEventType :=
  let priorSoc := latest.bind fun row => row.stateOfChargePercent
  let priorRange := latest.bind fun row => row.electricRangeKm
  let socAge := utcAgeSeconds (latest.bind fun row => row.socUpdatedAt) now
  if incomingHadSoc ∧ mergedSoc ≠ none ∧ (priorSoc = none ∨ priorSoc ≠ mergedSoc) then [.socUpdated]
  else if incomingHadSoc ∧ mergedSoc ≠ none ∧ priorSoc ≠ none ∧ mergedSoc = priorSoc then
    if socAge.any (fun age => decide (age > 120)) = true ∧
        ¬ (state.electricRangeKm ≠ none ∧ priorRange ≠ none ∧ state.electricRangeKm ≠ priorRange) then
      [.socStaleAtSource]
    else []
  else if ¬ incomingHadSoc ∧ priorSoc ≠ none ∧ mergedSoc = priorSoc then
    if socAge.all (fun age => decide (age > 120)) = true then [.socLkgKept] else []
  else []

/-- `persist_state`, for the row `latest` of the vehicle. -/
def persistState (latest : Option StoredVehicleState) (state : VehicleState) (now : Instant) : PersistedState :=
  let incomingHadSoc := state.stateOfChargePercent.isSome
  let estimated := estimatesSoc latest state
  let state := observedState latest state
  let values := mergeLastKnownGood latest (incomingValues latest state now) now
  let telemetryOnlyUpdate := latest.isSome && !carriesTelemetry state
  let mergedSoc := if telemetryOnlyUpdate then none else values.stateOfChargePercent
  -- the popped values leave the columns of the row as they are; the stamps have other names
  let row :=
    match latest with
    | none => values
    | some latest =>
      if telemetryOnlyUpdate then
        { values with
          toTelemetry := latest.toTelemetry
          dataQuality := latest.dataQuality
          lastVehicleUpdate := latest.lastVehicleUpdate }
      else values
  -- the row has the new values by the time the history test reads it
  let shouldHistory := !telemetryOnlyUpdate && shouldWriteHistory (latest.map fun _ => row) values now
  { row := row
    events :=
      (if estimated then [.socEstimatedFromRange] else []) ++
        (if telemetryOnlyUpdate then [.telemetrySkipped] else []) ++
        socEvents latest state incomingHadSoc mergedSoc now
    history :=
      if shouldHistory then
        some
          { recordedAt := now
            stateOfChargePercent := values.stateOfChargePercent
            targetSocPercent := values.targetSocPercent
            electricRangeKm := values.electricRangeKm
            isPluggedIn := values.isPluggedIn
            isCharging := values.isCharging
            chargingPowerKw := values.chargingPowerKw
            connectionState := values.connectionState
            dataQuality := values.dataQuality }
      else none
    announced :=
      match latest with
      | none => none
      | some latest =>
        if !telemetryOnlyUpdate ∧
            (latest.isPluggedIn ≠ values.isPluggedIn ∨ latest.isCharging ≠ values.isCharging) then
          some
            { isPluggedIn := values.isPluggedIn, isCharging := values.isCharging,
              previousPluggedIn := latest.isPluggedIn, previousCharging := latest.isCharging }
        else none }

/-! ### The correction -/

/-- The observation repeats the stored state of charge, and the range has moved far enough for an estimate
that differs from it by a percent or more. -/
def EstimateReplaces (row : StoredVehicleState) (state : VehicleState) : Prop :=
  ∃ priorSoc ∈ row.stateOfChargePercent, state.stateOfChargePercent = some priorSoc ∧
    ∃ priorRangeKm ∈ row.electricRangeKm, ∃ newRangeKm ∈ state.electricRangeKm,
      ∃ estimated ∈ deriveSocFromRangeChange priorSoc priorRangeKm newRangeKm, 1 ≤ |estimated - priorSoc|

instance (row : StoredVehicleState) (state : VehicleState) : Decidable (EstimateReplaces row state) := by
  unfold EstimateReplaces; infer_instance

theorem deriveSocFromRangeChange_pos {priorSoc priorRangeKm newRangeKm estimated : ℚ}
    (h : deriveSocFromRangeChange priorSoc priorRangeKm newRangeKm = some estimated) :
    0 < priorRangeKm ∧ 0 < newRangeKm := by
  unfold deriveSocFromRangeChange at h
  split at h
  · exact absurd h (by simp)
  · rename_i hpos
    rw [not_or, not_le, not_le] at hpos
    exact hpos

/-- Without a row there is nothing to correct with. -/
theorem observedState_first (state : VehicleState) : observedState none state = state := by
  simp [observedState, estimatesSoc]

/-- The correction, where it applies. -/
theorem observedState_of_estimate {row : StoredVehicleState} {state : VehicleState}
    {priorSoc priorRangeKm newRangeKm estimated : ℚ} (hprior : row.stateOfChargePercent = some priorSoc)
    (hsoc : state.stateOfChargePercent = some priorSoc) (hrow : row.electricRangeKm = some priorRangeKm)
    (hrange : state.electricRangeKm = some newRangeKm)
    (hderive : deriveSocFromRangeChange priorSoc priorRangeKm newRangeKm = some estimated)
    (hfar : 1 ≤ |estimated - priorSoc|) :
    observedState (some row) state
      = { state with
          stateOfChargePercent := some estimated, dataQuality := .estimated, socQuality := .estimated } := by
  have hne : estimated ≠ priorSoc := by
    rintro rfl
    rw [sub_self, abs_zero] at hfar
    exact absurd hfar (by norm_num)
  have hcorrected : applyRangeBasedSocCorrection state row.stateOfChargePercent row.electricRangeKm
      = { state with
          stateOfChargePercent := some estimated, dataQuality := .estimated, socQuality := .estimated } := by
    simp [applyRangeBasedSocCorrection, hprior, hsoc, hrow, hrange, hderive, not_lt.mpr hfar]
  have hestimates : estimatesSoc (some row) state = true := by
    have hsocs := congrArg (fun c => c.toTelemetry.stateOfChargePercent) hcorrected
    rw [hprior] at hsocs
    simp [estimatesSoc, hprior, hsocs, hsoc, hne]
  simp [observedState, hestimates, hcorrected]

/-- Where it does not apply, the observation is stored as it is. -/
theorem observedState_of_not {row : StoredVehicleState} {state : VehicleState}
    (h : ¬ EstimateReplaces row state) : observedState (some row) state = state := by
  have hsame : applyRangeBasedSocCorrection state row.stateOfChargePercent row.electricRangeKm = state := by
    unfold applyRangeBasedSocCorrection
    split
    · rename_i soc priorSoc priorRangeKm newRangeKm hsoc hprior hrow hrange
      split
      · rfl
      · rename_i heq
        rw [not_not] at heq
        split
        · rfl
        · rename_i estimated hderive
          refine if_pos (not_le.mp fun hfar => h ?_)
          exact ⟨priorSoc, hprior, heq ▸ hsoc, priorRangeKm, hrow, newRangeKm, hrange, estimated, hderive, hfar⟩
    · rfl
  simp [observedState, hsame]

/-- The correction changes the state of charge of a plausible observation, and leaves it plausible. -/
theorem carriesTelemetry_observedState (row : StoredVehicleState) (state : VehicleState) :
    carriesTelemetry (observedState (some row) state) = carriesTelemetry state := by
  by_cases h : EstimateReplaces row state
  · obtain ⟨priorSoc, hprior, hsoc, priorRangeKm, hrow, newRangeKm, hrange, estimated, hderive, hfar⟩ := h
    rw [Option.mem_def] at hprior hrow hrange hderive
    rw [observedState_of_estimate hprior hsoc hrow hrange hderive hfar]
    have hpos := (deriveSocFromRangeChange_pos hderive).2
    have hgiven : state.toTelemetry ≠ {} := by
      intro hempty
      exact absurd (hrange.symm.trans (congrArg Telemetry.electricRangeKm hempty)) (by simp)
    simp [carriesTelemetry, hasPlausibleVehicleTelemetry, hrange, hpos, hgiven]
  · rw [observedState_of_not h]

/-- A placeholder is stored without a correction. -/
theorem not_estimateReplaces_of_placeholder (row : StoredVehicleState) {state : VehicleState}
    (h : carriesTelemetry state = false) : ¬ EstimateReplaces row state := by
  rintro ⟨priorSoc, -, -, priorRangeKm, -, newRangeKm, hrange, estimated, hderive, -⟩
  have hpos := (deriveSocFromRangeChange_pos hderive).2
  rw [Option.mem_def] at hrange
  have hgiven : state.toTelemetry ≠ {} := by
    intro hempty
    exact absurd (hrange.symm.trans (congrArg Telemetry.electricRangeKm hempty)) (by simp)
  exact absurd h (by simp [carriesTelemetry, hasPlausibleVehicleTelemetry, hrange, hpos, hgiven])

/-! ### The merge -/

/-- What the merge makes of telemetry, as a function of the last known one. -/
def mergeTelemetry (incoming : Telemetry) (chargingUpdatedAt : Option Instant) (now : Instant)
    (last : Telemetry) : Telemetry :=
  reconcileTelemetry incoming (incoming.orLast last) chargingUpdatedAt now

/-- The merged `is_plugged_in`: a vehicle that does not charge and says nothing about its plug is
unplugged. -/
def mergedPlugged (incoming : Telemetry) (last : Option Bool) : Option Bool :=
  if incoming.isPluggedIn = none ∧ incoming.isCharging = some false ∧ incoming.chargingPowerKw.getD 0 < 3 / 10 then
    some false
  else incoming.isPluggedIn.or last

/-- The merged `is_charging`: a plugged vehicle that says nothing about charging loses the last value. -/
def mergedCharging (incoming : Telemetry) (last : Option Bool) : Option Bool :=
  if incoming.isPluggedIn = some true ∧ incoming.isCharging = none then none
  else incoming.isCharging.or last

/-- The merged `charging_power_kw`; `stale` says that the charging fields are too old. -/
def mergedPower (incoming : Telemetry) (stale : Bool) (last : Option ℚ) : Option ℚ :=
  if stale = true ∧ incoming.isCharging ≠ some true then
    if incoming.isCharging = some false then some 0 else none
  else if incoming.isCharging = some false ∧ incoming.chargingPowerKw.getD 0 > 0 then some 0
  else incoming.chargingPowerKw.or last

/-- The corrections of the merge concern three fields. -/
theorem mergeTelemetry_eq (incoming : Telemetry) (chargingUpdatedAt : Option Instant) (now : Instant)
    (last : Telemetry) :
    mergeTelemetry incoming chargingUpdatedAt now last
      = { incoming.orLast last with
          isPluggedIn := mergedPlugged incoming last.isPluggedIn
          isCharging := mergedCharging incoming last.isCharging
          chargingPowerKw := mergedPower incoming
            ((utcAgeSeconds chargingUpdatedAt now).any fun age => decide (age > staleTelemetrySeconds))
            last.chargingPowerKw } := by
  unfold mergeTelemetry reconcileTelemetry mergedPlugged mergedCharging mergedPower
  dsimp only
  split_ifs <;> rfl

/-! ### The stored row -/

theorem persistState_first (state : VehicleState) (now : Instant) :
    (persistState none state now).row = incomingValues none state now := by
  simp [persistState, observedState_first, mergeLastKnownGood]

/-- A placeholder leaves the telemetry of the row, its quality and its age as they are. -/
theorem persistState_skipped (row : StoredVehicleState) {state : VehicleState} (now : Instant)
    (h : carriesTelemetry state = false) :
    (persistState (some row) state now).row
      = { mergeLastKnownGood (some row) (incomingValues (some row) state now) now with
          toTelemetry := row.toTelemetry, dataQuality := row.dataQuality
          lastVehicleUpdate := row.lastVehicleUpdate } := by
  have hsame := observedState_of_not (not_estimateReplaces_of_placeholder row h)
  simp [persistState, hsame, h]

theorem persistState_next {row : StoredVehicleState} {state : VehicleState} (now : Instant)
    (h : carriesTelemetry state = true) : (persistState (some row) state now).row
      = mergeLastKnownGood (some row) (incomingValues (some row) (observedState (some row) state) now) now := by
  have hcarries : carriesTelemetry (observedState (some row) state) = true := by
    rw [carriesTelemetry_observedState, h]
  simp [persistState, hcarries]

end EnergyCore.Vehicles
