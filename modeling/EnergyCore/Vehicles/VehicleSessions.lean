import EnergyCore.Accounting.EvSessions
import EnergyCore.Vehicles.SessionFields

/-!
# Vehicle charge sessions

`VehicleChargeSessionService` over the session table, the interval table and the in-memory state of every
vehicle. A session is opened, updated and closed by two entry points, one for the home charger and one for
charging away from home. Calls that give the repository a keyword twice raise, and leave behind what they
had written before.
-/

namespace EnergyCore.Vehicles

open Accounting KeywordFields OpenRows SessionColumns

/-! ### The tables -/

/-- The columns of `vehicle_charge_sessions` besides those that are fields of the row below. -/
def vehicleSessionColumns : List String :=
  ["charger_id", "ev_charging_session_id", "disconnected_at", "charging_started_at",
    "charging_stopped_at", "start_soc", "end_soc", "target_soc", "meter_start_kwh", "meter_stop_kwh",
    "halo_energy_kwh", "estimated_battery_energy_delta_kwh", "solar_direct_kwh",
    "solar_battery_kwh", "grid_battery_kwh", "grid_direct_kwh", "actual_cost_sek",
    "reference_cost_sek", "savings_sek", "renewable_share_pct", "grid_share_pct",
    "identification_confidence", "energy_quality", "cost_quality", "attribution_quality",
    "savings_baseline", "calculation_version", "reconciliation_delta_kwh", "reconciliation_note",
    "latitude", "longitude", "location_id", "location_name", "charger_operator", "charger_network",
    "charging_type", "connector_type", "home_charging", "energy_source", "estimated_energy_kwh",
    "charging_power_avg_kw", "charging_power_max_kw", "charging_cost_sek", "cost_source",
    "price_model", "price_value_sek_kwh", "detection_confidence", "identification_method",
    "vehicle_data_quality", "charging_state", "charging_station_id", "station_provider",
    "station_provider_id", "station_name", "distance_from_vehicle_m", "station_confidence",
    "station_resolution_status", "station_candidates_json"]

/-- A row of `vehicle_charge_sessions`. -/
structure VehicleSession where
  id : ℕ
  vehicleId : ℕ
  siteId : ℕ
  connectedAt : Instant
  status : SessionStatus := .active
  columns : SessionColumns
  deriving Repr, DecidableEq

namespace VehicleSession

/-- `setattr` for every field that is a column. -/
def setColumns (row : VehicleSession) (fields : SessionColumns) : VehicleSession :=
  { row with
    columns := Fields.assignAll row.columns
      (fields.map fun p => (decide (p.1 ∈ vehicleSessionColumns), p)) }

def number (row : VehicleSession) (k : String) : Option ℚ := (value row.columns k).number?

def startSoc (row : VehicleSession) : Option ℚ := row.number "start_soc"

def meterStartKwh (row : VehicleSession) : Option ℚ := row.number "meter_start_kwh"

/-- The linked EV session. -/
def evChargingSessionId (row : VehicleSession) : Option ℕ :=
  (row.number "ev_charging_session_id").map fun q => q.num.toNat

end VehicleSession

def vehicleSessionTable : Schema VehicleSession ℕ Instant where
  key := VehicleSession.id
  owner := VehicleSession.vehicleId
  isOpen := fun r => decide (r.status = .active)
  openedAt := VehicleSession.connectedAt

/-- The in-memory state of a vehicle. -/
structure VehicleSessionRuntimeState extends SampleAnchors where
  lastPluggedIn : Option Bool := none
  lastCharging : Option Bool := none
  lastSoc : Option ℚ := none
  deriving Repr, DecidableEq

/-- The service with its database. -/
structure VehicleAccounting where
  runtime : ℕ → VehicleSessionRuntimeState := fun _ => {}
  sessions : List VehicleSession := []
  intervals : List ChargingInterval := []

namespace VehicleAccounting

/-! ### The repository -/

def getActiveForVehicle (s : VehicleAccounting) (vehicleId : ℕ) : Option VehicleSession :=
  vehicleSessionTable.openRow s.sessions vehicleId

def listActive (s : VehicleAccounting) : List VehicleSession :=
  s.sessions.filter fun r => decide (r.status = .active)

def intervalsOf (s : VehicleAccounting) (sessionId : ℕ) : List ChargingInterval :=
  s.intervals.filter fun i => decide (i.sessionId = sessionId)

/-- `create`, with the keywords that it was called with. -/
def create (s : VehicleAccounting) (vehicleId siteId : ℕ) (connectedAt : Instant)
    (fields : SessionColumns) : VehicleAccounting :=
  let row : VehicleSession :=
    { id := s.sessions.length
      vehicleId := vehicleId
      siteId := siteId
      connectedAt := connectedAt
      columns := [] }
  { s with sessions := s.sessions ++ [row.setColumns fields] }

def updateCsiFields (s : VehicleAccounting) (sessionId : ℕ) (fields : SessionColumns) : VehicleAccounting :=
  { s with
    sessions := vehicleSessionTable.updateRow s.sessions sessionId fun r => r.setColumns fields }

/-- `update_charging_timestamps`: what is given is written. -/
def updateChargingTimestamps (s : VehicleAccounting) (sessionId : ℕ)
    (chargingStartedAt chargingStoppedAt : Option Instant) (targetSoc : Option ℚ) : VehicleAccounting :=
  s.updateCsiFields sessionId
    (chargingStartedAt.toList.map (fun t => ("charging_started_at", .time t)) ++
      chargingStoppedAt.toList.map (fun t => ("charging_stopped_at", .time t)) ++
      targetSoc.toList.map (fun q => ("target_soc", .number q)))

def complete (s : VehicleAccounting) (sessionId : ℕ) (fields : SessionColumns) : VehicleAccounting :=
  { s with
    sessions := vehicleSessionTable.updateRow s.sessions sessionId fun r =>
      { r.setColumns fields with status := .completed } }

/-! ### In-memory state -/

def setRuntime (s : VehicleAccounting) (vehicleId : ℕ)
    (f : VehicleSessionRuntimeState → VehicleSessionRuntimeState) : VehicleAccounting :=
  { s with runtime := Function.update s.runtime vehicleId (f (s.runtime vehicleId)) }

def noteConnection (s : VehicleAccounting) (vehicleId : ℕ) (connection : EffectiveConnection) : VehicleAccounting :=
  s.setRuntime vehicleId fun runtime =>
    { runtime with
      lastPluggedIn := some connection.isPluggedIn
      lastCharging := some connection.isCharging }

/-- The last state of charge is kept when none is reported. -/
def noteTelemetry (s : VehicleAccounting) (vehicleId : ℕ) (connection : EffectiveConnection)
    (soc : Option ℚ) : VehicleAccounting :=
  (s.noteConnection vehicleId connection).setRuntime vehicleId fun runtime =>
    { runtime with lastSoc := soc.or runtime.lastSoc }

end VehicleAccounting

/-! ### Calls -/

/-- A call of `process_vehicle_without_charger`. The context is what the charging intelligence says about
the vehicle without a charger, at the time of the clock. -/
structure VehicleCall where
  vehicleId : ℕ
  siteId : ℕ
  clock : Instant
  latest : Option VehicleStateLatest
  awayContext : ChargingSessionContext
  identificationConfidence : Option ℚ := none
  haloCorrelation : Option HaloCorrelation := none
  stationResolution : Option ResolvedChargingLocation := none

/-- A call of `process_vehicle`: with a home charger, its meter, its active EV session, and the EV intervals
that are stored. -/
structure ChargerCall extends VehicleCall where
  chargerId : ℕ
  meter : MeterSnapshot
  context : ChargingSessionContext
  evSession : Option ℕ := none
  evIntervals : List ChargingInterval := []

/-- What a call comes back with: the session that it opened or closed, or the error that it raised. -/
abbrev CallOutcome := Except (MultipleValues String) (Option ℕ)

def vehicleDataStale (latest : Option VehicleStateLatest) (now : Instant) : Bool :=
  match latest.bind (·.lastVehicleUpdate) with
  | none => true
  | some t => decide (now - t > staleTelemetrySeconds)

/-- `_halo_charger_active`. -/
def haloChargerActive (meter : MeterSnapshot) : Bool :=
  meter.isCharging || meter.vehicleConnected || decide (meter.powerW.getD 0 > 300)

/-- The home charger shows any activity. -/
def chargerActive (meter : MeterSnapshot) : Bool :=
  meter.isCharging || meter.vehicleConnected || decide (meter.powerW.getD 0 > 0)

/-- `_halo_hint`: a correlation that says nothing is none. -/
def haloHint (correlation : Option HaloCorrelation) : Option HaloCorrelation :=
  correlation.filter fun c => c.status.isSome || c.pluggedAgreement.isSome

namespace VehicleCall

variable (call : VehicleCall)

def soc : Option ℚ := call.latest.bind (·.stateOfChargePercent)

def targetSoc : Option ℚ := call.latest.bind (·.targetSocPercent)

/-- `_connection_from_latest`. -/
def connection (haloActive haloVehicleConnected : Option Bool) : EffectiveConnection :=
  resolveEffectiveConnection call.latest haloVehicleConnected haloActive
    (call.haloCorrelation.bind (·.pluggedAgreement)) call.clock

def isAway (connection : EffectiveConnection) (haloActive : Option Bool) : Bool :=
  isAwayCharging (haloHint call.haloCorrelation) (some connection.isPluggedIn)
    (some connection.isCharging) (call.latest.bind (·.chargingPowerKw)) haloActive

/-- The fields of a context, with the station resolution. -/
def sessionFields (context : ChargingSessionContext) : SessionColumns :=
  applyStationResolutionToCsi (csiFields context call.latest) call.stationResolution call.latest

theorem keys_sessionFields (context : ChargingSessionContext) : Fields.keys (call.sessionFields context) = csiKeys :=
  keys_applyStationResolutionToCsi (keys_csiFields _ _) _ _

/-- The keywords that `create` is given by name. -/
def createKeywords (chargerId : Option ℕ) (connectedAt : Instant) (meterStartKwh : Option ℚ) : SessionColumns :=
  [("vehicle_id", .ofNat (some call.vehicleId)),
   ("charger_id", .ofNat chargerId),
   ("site_id", .ofNat (some call.siteId)),
   ("connected_at", .time connectedAt),
   ("start_soc", .ofNumber call.soc),
   ("target_soc", .ofNumber call.targetSoc),
   ("meter_start_kwh", .ofNumber meterStartKwh),
   ("identification_confidence", .ofNumber call.identificationConfidence),
   ("savings_baseline", .text "IMMEDIATE_GRID_CHARGING"),
   ("calculation_version", .text "vehicle-charge-v1")]

end VehicleCall

def staleField : SessionColumns := [("vehicle_data_quality", .text "STALE")]

/-! ### Away from home -/

def batteryCapacityKwh : ℚ := 90

/-- `estimate_battery_delta_kwh` for the default battery. -/
def estimateBatteryDeltaKwh (startSoc endSoc : Option ℚ) : Option ℚ :=
  match startSoc, endSoc with
  | some start, some stop =>
    if stop - start ≤ 0 then none else some ((stop - start) * (batteryCapacityKwh / 100))
  | _, _ => none

/-- `finalize_away_session_energy`. -/
def finalizeAwaySessionEnergy (active : VehicleSession) (endSoc contextEstimatedKwh : Option ℚ) :
    Option ℚ × Option ℚ × String :=
  let delta := estimateBatteryDeltaKwh active.startSoc endSoc
  let energy := if delta.any (fun d => decide (d > 0)) then delta else contextEstimatedKwh
  if energy.any (fun e => decide (e > 0)) then (energy, delta, "ESTIMATED")
  else (none, delta, "UNKNOWN")

/-- The keywords that `_complete_away_session` gives by name. -/
def awayCompletion (active : VehicleSession) (call : VehicleCall) : SessionColumns :=
  let energy := finalizeAwaySessionEnergy active call.soc call.awayContext.estimatedEnergyKwh
  let cost := Value.ofNumber call.awayContext.chargingCostSek
  [("disconnected_at", .time call.clock),
   ("end_soc", .ofNumber call.soc),
   ("halo_energy_kwh", .ofNumber energy.1),
   ("estimated_battery_energy_delta_kwh", .ofNumber energy.2.1),
   ("charging_cost_sek", cost),
   ("cost_source", .text call.awayContext.costSource),
   ("price_model", .ofText call.awayContext.priceModel),
   ("price_value_sek_kwh", .ofNumber call.awayContext.priceValueSekKwh),
   ("energy_quality", .text energy.2.2),
   ("cost_quality", .text (if cost.truthy then "ESTIMATED" else "INCOMPLETE")),
   ("attribution_quality", .text "UNAVAILABLE")]

namespace VehicleAccounting

/-- `_complete_away_session`. -/
def completeAwaySession (s : VehicleAccounting) (active : VehicleSession) (call : VehicleCall) :
    Except (MultipleValues String) VehicleAccounting :=
  let csi := mergeCsiFields active.columns (call.sessionFields call.awayContext)
  (callKeywords (awayCompletion active call) csi).map fun fields =>
    (s.complete active.id fields).noteConnection call.vehicleId ⟨false, false⟩

/-- What an away call writes to the active session. -/
def awayUpdate (active : VehicleSession) (call : VehicleCall) (connection : EffectiveConnection)
    (haloActive : Option Bool) : SessionColumns :=
  let fields := mergeCsiFields active.columns (call.sessionFields call.awayContext)
  let fields := Fields.assignIf (call.soc.isSome = true) fields "end_soc" (.ofNumber call.soc)
  Fields.assignIf (call.isAway connection haloActive = true) fields "charger_id" .none

/-- `process_vehicle_without_charger`. -/
def processVehicleWithoutCharger (s : VehicleAccounting) (call : VehicleCall)
    (haloActive : Option Bool) : VehicleAccounting × CallOutcome :=
  let runtime := s.runtime call.vehicleId
  let connection := call.connection haloActive none
  let wasPlugged := runtime.lastPluggedIn.getD false
  match s.getActiveForVehicle call.vehicleId with
  | none =>
    if connection.isPluggedIn ∧ ¬ wasPlugged then
      match callKeywords (call.createKeywords none call.clock none)
          (call.sessionFields call.awayContext) with
      | .error e => (s, .error e)
      | .ok fields =>
        let created := s.create call.vehicleId call.siteId call.clock fields
        (created.setRuntime call.vehicleId fun runtime =>
          { runtime with
            lastPluggedIn := some connection.isPluggedIn
            lastCharging := some connection.isCharging
            lastSoc := call.soc }, .ok (some s.sessions.length))
    else (s.noteTelemetry call.vehicleId connection call.soc, .ok none)
  | some active =>
    let updated := s.updateCsiFields active.id (awayUpdate active call connection haloActive)
    if ¬ connection.isPluggedIn then
      match updated.completeAwaySession active call with
      | .error e => (updated, .error e)
      | .ok completed => (completed.noteTelemetry call.vehicleId connection call.soc, .ok none)
    else
      let updated :=
        if vehicleDataStale call.latest call.clock ∧ (connection.isCharging ∨ wasPlugged) then
          updated.updateCsiFields active.id staleField
        else updated
      (updated.noteTelemetry call.vehicleId connection call.soc, .ok none)

end VehicleAccounting

/-! ### At home -/

/-- `SessionTotals.as_fields`. -/
def totalsFields (t : SessionTotals) : SessionColumns :=
  [("total_energy_kwh", .number t.totalEnergyKwh),
   ("solar_direct_kwh", .number t.attribution.solarDirectKwh),
   ("solar_battery_kwh", .number t.attribution.solarBatteryKwh),
   ("grid_battery_kwh", .number t.attribution.gridBatteryKwh),
   ("grid_direct_kwh", .number t.attribution.gridDirectKwh),
   ("actual_cost_sek", .number t.actualCostSek),
   ("reference_cost_sek", .ofNumber t.referenceCostSek),
   ("savings_sek", .ofNumber t.savingsSek),
   ("smart_charging_savings_sek", .ofNumber t.smartChargingSavingsSek),
   ("solar_contribution_sek", .number t.solarContributionSek),
   ("renewable_share_pct", .number t.renewableSharePct),
   ("grid_share_pct", .number t.gridSharePct),
   ("energy_quality", .text t.energyQuality),
   ("cost_quality", .text t.costQuality),
   ("attribution_quality", .text t.attributionQuality),
   ("reconciliation_delta_kwh", .number t.reconciliationDeltaKwh),
   ("reconciliation_note", .text t.reconciliationNote)]

/-- The keywords of a completion that do not come from the totals. -/
def homeCompletion (active : VehicleSession) (call : ChargerCall) (totalKwh : ℚ) : SessionColumns :=
  [("disconnected_at", .time call.meter.recordedAt),
   ("end_soc", .ofNumber call.soc),
   ("meter_stop_kwh", .ofNumber call.meter.cumulativeKwh),
   ("halo_energy_kwh", .number totalKwh),
   ("estimated_battery_energy_delta_kwh",
     .ofNumber (estimateBatteryDeltaKwh active.startSoc call.soc))]

/-- The keywords of a completion from the linked EV session. -/
def linkedCompletion (active : VehicleSession) (call : ChargerCall)
    (intervals : List ChargingInterval) : SessionColumns :=
  let measured := sessionEnergyFromMeter active.meterStartKwh call.meter.cumulativeKwh
  let totals := sessionTotalsFromIntervals intervals measured.1 measured.2
  homeCompletion active call totals.totalEnergyKwh ++
    (totalsFields totals).filter fun p => decide (p.1 ≠ "total_energy_kwh")

/-- The keywords of a completion from the vehicle's own intervals. -/
def ownCompletion (active : VehicleSession) (call : ChargerCall)
    (intervals : List ChargingInterval) : SessionColumns :=
  let measured := sessionEnergyFromMeter active.meterStartKwh call.meter.cumulativeKwh
  let attributedKwh := (intervals.map fun i => i.chargedEnergyKwh).sum
  let measuredKwh := measured.1.getD attributedKwh
  let quality := if measured.1.isNone then "ESTIMATED" else measured.2
  let recon := reconcile (sumAttribution intervals) (some measuredKwh) attributedKwh
  let actualCost := (intervals.map fun i => i.actualCostSek).sum
  let referenceCost := sumReferenceCost intervals
  let total := sessionTotalKwh recon measuredKwh
  homeCompletion active call total ++
    [("solar_direct_kwh", .number recon.attribution.solarDirectKwh),
     ("solar_battery_kwh", .number recon.attribution.solarBatteryKwh),
     ("grid_battery_kwh", .number recon.attribution.gridBatteryKwh),
     ("grid_direct_kwh", .number recon.attribution.gridDirectKwh),
     ("actual_cost_sek", .number actualCost),
     ("reference_cost_sek", .ofNumber referenceCost),
     ("savings_sek", .ofNumber (referenceCost.map (· - actualCost))),
     ("renewable_share_pct", .number (sharePct recon.attribution.renewableKwh total)),
     ("grid_share_pct", .number (sharePct recon.attribution.gridKwh total)),
     ("energy_quality", .text (if quality = "MEASURED" then recon.energyQuality else quality)),
     ("cost_quality", .text (if referenceCost.isSome then "CALCULATED" else "INCOMPLETE")),
     ("attribution_quality", .text "CALCULATED"),
     ("reconciliation_delta_kwh", .number recon.deltaKwh),
     ("reconciliation_note", .text recon.note)]

namespace VehicleAccounting

/-- `_complete_session`: from the intervals of the linked EV session, if it has any, or else from the
vehicle's own. -/
def completeSession (s : VehicleAccounting) (active : VehicleSession) (call : ChargerCall) :
    Except (MultipleValues String) VehicleAccounting :=
  let csi := call.sessionFields call.context
  let intervals :=
    match active.evChargingSessionId with
    | some ev => call.evIntervals.filter fun i => decide (i.sessionId = ev)
    | none => s.intervalsOf active.id
  let completed :=
    if active.evChargingSessionId.isSome ∧ intervals ≠ [] then
      (callKeywords (linkedCompletion active call intervals) csi).map fun fields =>
        s.complete active.id fields
    else
      let stopped :=
        if (value active.columns "charging_started_at").truthy ∧
            value active.columns "charging_stopped_at" = .none then
          s.updateChargingTimestamps active.id none (some call.meter.recordedAt) none
        else s
      (callKeywords (ownCompletion active call intervals) csi).map fun fields =>
        stopped.complete active.id fields
  completed.map fun completed =>
    completed.setRuntime call.vehicleId fun runtime =>
      { runtime with
        lastMeterKwh := call.meter.cumulativeKwh
        lastSampleAt := some call.meter.recordedAt }

/-- The charging timestamps of a session that goes on. -/
def trackCharging (s : VehicleAccounting) (active : VehicleSession) (call : ChargerCall)
    (isCharging wasCharging : Bool) : VehicleAccounting :=
  if isCharging ∧ ¬ wasCharging then
    s.updateChargingTimestamps active.id (some call.meter.recordedAt) none call.targetSoc
  else if ¬ isCharging ∧ wasCharging then
    s.updateChargingTimestamps active.id none (some call.meter.recordedAt) none
  else s.updateChargingTimestamps active.id none none call.targetSoc

/-- The charger's EV session is linked once. -/
def linkEvSession (s : VehicleAccounting) (active : VehicleSession) (call : ChargerCall) : VehicleAccounting :=
  if active.evChargingSessionId.isNone ∧ call.evSession.isSome then
    s.updateCsiFields active.id [("ev_charging_session_id", .ofNat call.evSession)]
  else s

/-- `process_vehicle`. -/
def processVehicle (s : VehicleAccounting) (call : ChargerCall) : VehicleAccounting × CallOutcome :=
  let runtime := s.runtime call.vehicleId
  let haloActive := haloChargerActive call.meter
  let connection := call.connection (some haloActive) (some call.meter.vehicleConnected)
  let wasPlugged := runtime.lastPluggedIn.getD false
  let wasCharging := runtime.lastCharging.getD false
  let now := call.meter.recordedAt
  let stale := vehicleDataStale call.latest call.clock
  if call.isAway connection (some haloActive) then
    s.processVehicleWithoutCharger call.toVehicleCall (some haloActive)
  else
    let csi := call.sessionFields call.context
    match s.getActiveForVehicle call.vehicleId with
    | none =>
      if connection.isPluggedIn ∧ ¬ wasPlugged then
        match callKeywords
            (call.createKeywords (some call.chargerId) now call.meter.cumulativeKwh ++
              [("ev_charging_session_id", .ofNat call.evSession)]) csi with
        | .error e => (s, .error e)
        | .ok fields =>
          let created := s.create call.vehicleId call.siteId now fields
          let noted := created.setRuntime call.vehicleId fun _ =>
            { lastMeterKwh := call.meter.cumulativeKwh
              lastSampleAt := some now
              lastSoc := call.soc
              lastPluggedIn := some connection.isPluggedIn
              lastCharging := some connection.isCharging }
          (if connection.isCharging then
            noted.updateChargingTimestamps s.sessions.length (some now) none call.targetSoc
          else noted, .ok (some s.sessions.length))
      else (s.noteTelemetry call.vehicleId connection call.soc, .ok none)
    | some active =>
      if ¬ connection.isPluggedIn then
        let closed :=
          if stale ∧ chargerActive call.meter then
            (callKeywords staleField csi).map fun fields => s.updateCsiFields active.id fields
          else s.completeSession active call
        match closed with
        | .error e => (s, .error e)
        | .ok closed => (closed.noteConnection call.vehicleId connection, .ok (some active.id))
      else
        let updated := s.updateCsiFields active.id (mergeCsiFields active.columns csi)
        let updated :=
          if stale ∧ (connection.isCharging ∨ wasCharging ∨ chargerActive call.meter) then
            updated.updateCsiFields active.id staleField
          else updated
        let updated := updated.trackCharging active call connection.isCharging wasCharging
        let updated := updated.linkEvSession active call
        (updated.noteTelemetry call.vehicleId connection call.soc, .ok none)

end VehicleAccounting

/-! ### Events -/

inductive VehicleEvent where
  | withoutCharger (call : VehicleCall) (haloActive : Option Bool)
  | process (call : ChargerCall)

namespace VehicleEvent

def outcome (s : VehicleAccounting) : VehicleEvent → VehicleAccounting × CallOutcome
  | withoutCharger call haloActive => s.processVehicleWithoutCharger call haloActive
  | process call => s.processVehicle call

def apply (s : VehicleAccounting) (e : VehicleEvent) : VehicleAccounting := (e.outcome s).1

end VehicleEvent

end EnergyCore.Vehicles
