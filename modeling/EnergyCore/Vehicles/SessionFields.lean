import EnergyCore.Foundations.KeywordFields
import EnergyCore.Vehicles.ConnectionSignals

/-!
# The fields of a charging session

The dictionaries that describe where and how a vehicle charges: `_csi_fields` of the charging context, the
station resolution written over it, and the merge with what the session already knows.

* `keys_applyStationResolutionToCsi`, `keys_mergeCsiFields` — both keep the keys of the context.
-/

namespace EnergyCore.Vehicles

open KeywordFields

/-! ### Values -/

inductive Value where
  | none
  | bool (b : Bool)
  | number (q : ℚ)
  | text (s : String)
  | time (t : Instant)
  | items (l : List String)
  deriving Repr, DecidableEq

namespace Value

def ofText (s : Option String) : Value := s.elim none text

def ofNumber (q : Option ℚ) : Value := q.elim none number

def ofNat (n : Option ℕ) : Value := n.elim none fun n => number n

def ofBool (b : Option Bool) : Value := b.elim none bool

def truthy : Value → Bool
  | none => false
  | bool b => b
  | number q => decide (q ≠ 0)
  | text s => decide (s ≠ "")
  | time _ => true
  | items l => !l.isEmpty

def number? : Value → Option ℚ
  | number q => some q
  | _ => Option.none

end Value

abbrev SessionColumns := Fields String Value

namespace SessionColumns

/-- `fields.get(key)`, where a key that is missing counts as `None`. -/
def value (columns : SessionColumns) (k : String) : Value := (Fields.get columns k).getD .none

end SessionColumns

open SessionColumns

/-! ### The context -/

/-- What `ChargingSessionService.build_context` says about a session. -/
structure ChargingSessionContext where
  locationId : Option ℕ := none
  locationName : Option String := none
  chargerOperator : Option String := none
  chargingType : String := "UNKNOWN"
  detectionConfidence : String := "UNKNOWN"
  identificationMethod : String := "UNKNOWN"
  homeCharging : Option Bool := none
  energySource : String := "UNKNOWN"
  estimatedEnergyKwh : Option ℚ := none
  chargingCostSek : Option ℚ := none
  costSource : String := "UNKNOWN"
  chargingState : String := "UNKNOWN"
  vehicleDataQuality : String := "UNKNOWN"
  connectorType : Option String := none
  stationName : Option String := none
  stationProvider : Option String := none
  stationProviderId : Option String := none
  distanceFromVehicleM : Option ℚ := none
  stationConfidence : Option ℚ := none
  stationResolutionStatus : Option String := none
  stationCandidatesJson : Option (List String) := none
  chargingStationId : Option ℕ := none
  priceModel : Option String := none
  priceValueSekKwh : Option ℚ := none
  deriving Repr, DecidableEq

/-- `_csi_fields`. -/
def csiFields (context : ChargingSessionContext) (latest : Option VehicleStateLatest) : SessionColumns :=
  [("latitude", .ofNumber (latest.bind (·.latitude))),
   ("longitude", .ofNumber (latest.bind (·.longitude))),
   ("location_name", .ofText context.locationName),
   ("location_id", .ofNat context.locationId),
   ("charger_operator", .ofText context.chargerOperator),
   ("charging_type", .text context.chargingType),
   ("home_charging", .ofBool context.homeCharging),
   ("energy_source", .text context.energySource),
   ("estimated_energy_kwh", .ofNumber context.estimatedEnergyKwh),
   ("charging_cost_sek", .ofNumber context.chargingCostSek),
   ("cost_source", .text context.costSource),
   ("price_model", .ofText context.priceModel),
   ("price_value_sek_kwh", .ofNumber context.priceValueSekKwh),
   ("detection_confidence", .text context.detectionConfidence),
   ("identification_method", .text context.identificationMethod),
   ("vehicle_data_quality", .text context.vehicleDataQuality),
   ("charging_state", .text context.chargingState),
   ("connector_type", .ofText context.connectorType),
   ("station_name", .ofText context.stationName),
   ("station_provider", .ofText context.stationProvider),
   ("station_provider_id", .ofText context.stationProviderId),
   ("distance_from_vehicle_m", .ofNumber context.distanceFromVehicleM),
   ("station_confidence", .ofNumber context.stationConfidence),
   ("station_resolution_status", .ofText context.stationResolutionStatus),
   ("station_candidates_json", context.stationCandidatesJson.elim .none .items),
   ("charging_station_id", .ofNat context.chargingStationId)]

def csiKeys : List String :=
  ["latitude", "longitude", "location_name", "location_id", "charger_operator", "charging_type",
    "home_charging", "energy_source", "estimated_energy_kwh", "charging_cost_sek", "cost_source",
    "price_model", "price_value_sek_kwh", "detection_confidence", "identification_method",
    "vehicle_data_quality", "charging_state", "connector_type", "station_name", "station_provider",
    "station_provider_id", "distance_from_vehicle_m", "station_confidence",
    "station_resolution_status", "station_candidates_json", "charging_station_id"]

theorem keys_csiFields (context : ChargingSessionContext) (latest : Option VehicleStateLatest) :
    Fields.keys (csiFields context latest) = csiKeys := rfl

/-! ### Station resolution -/

inductive StationResolutionStatus where
  | ok
  | degraded
  | multipleCandidates
  | unknown
  deriving Repr, DecidableEq

namespace StationResolutionStatus

def value : StationResolutionStatus → String
  | ok => "OK"
  | degraded => "DEGRADED"
  | multipleCandidates => "MULTIPLE_CANDIDATES"
  | unknown => "UNKNOWN"

end StationResolutionStatus

/-- The fields of `ResolvedChargingLocation` that reach a session; the selected station by its provider
and its id there. -/
structure ResolvedChargingLocation where
  locationName : String
  stationName : Option String := none
  operatorName : Option String := none
  chargingType : Option String := none
  connectorType : Option String := none
  confidence : Option ℚ := none
  confidenceBand : String := ""
  identificationMethod : String := ""
  stationResolutionStatus : StationResolutionStatus := .ok
  selectedStation : Option (String × String) := none
  priceModel : Option String := some "UNKNOWN"
  priceValueSekKwh : Option ℚ := none
  deriving Repr, DecidableEq

/-- The characters that `str.strip` removes. -/
def isStripped (c : Char) : Bool :=
  let n := c.toNat
  decide (9 ≤ n ∧ n ≤ 13) || decide (28 ≤ n ∧ n ≤ 32) || decide (n = 133) || decide (n = 160) ||
    decide (n = 5760) || decide (8192 ≤ n ∧ n ≤ 8202) || decide (n = 8232) || decide (n = 8233) ||
    decide (n = 8239) || decide (n = 8287) || decide (n = 12288)

def strip (s : String) : String :=
  String.ofList ((s.toList.dropWhile isStripped).reverse.dropWhile isStripped).reverse

def awayLocationName : String := "Borta (ej hemma)"

/-- `is_unknown_location`. -/
def isUnknownLocation : Value → Bool
  | .text name => decide (name = "") || decide (strip name ∈ ["Unknown", awayLocationName])
  | _ => true

def isUnknownPriceModel (v : Value) : Bool := decide (v = .none) || decide (v = .text "UNKNOWN")

/-- What a station resolution writes over the fields, and when. -/
def stationUpdates (r : ResolvedChargingLocation) (latest : Option VehicleStateLatest) :
    List (Bool × String × Value) :=
  let priced := !isUnknownPriceModel (.ofText r.priceModel)
  let latitude := latest.bind (·.latitude)
  let longitude := latest.bind (·.longitude)
  [((Value.text r.locationName).truthy, "location_name", .text r.locationName),
   ((Value.ofText r.stationName).truthy, "station_name", .ofText r.stationName),
   ((Value.ofText r.operatorName).truthy, "charger_operator", .ofText r.operatorName),
   ((Value.ofText r.chargingType).truthy, "charging_type", .ofText r.chargingType),
   (priced, "price_model", .ofText r.priceModel),
   (priced, "price_value_sek_kwh", .ofNumber r.priceValueSekKwh),
   ((Value.ofText r.connectorType).truthy, "connector_type", .ofText r.connectorType),
   (r.confidence.isSome, "station_confidence", .ofNumber r.confidence),
   (true, "station_resolution_status", .text r.stationResolutionStatus.value),
   ((Value.text r.identificationMethod).truthy, "identification_method",
     .text r.identificationMethod),
   ((Value.text r.confidenceBand).truthy, "detection_confidence", .text r.confidenceBand),
   (r.selectedStation.isSome, "station_provider", .ofText (r.selectedStation.map Prod.fst)),
   (r.selectedStation.isSome, "station_provider_id", .ofText (r.selectedStation.map Prod.snd)),
   (latitude.isSome, "latitude", .ofNumber latitude),
   (longitude.isSome, "longitude", .ofNumber longitude)]

/-- `apply_station_resolution_to_csi`: an unknown station does not replace a known place. -/
def applyStationResolutionToCsi (csi : SessionColumns)
    (resolution : Option ResolvedChargingLocation) (latest : Option VehicleStateLatest) : SessionColumns :=
  match resolution with
  | none => csi
  | some r =>
    if ¬ isUnknownLocation (value csi "location_name") ∧ r.stationResolutionStatus = .unknown then
      csi
    else Fields.assignAll csi (stationUpdates r latest)

theorem keys_applyStationResolutionToCsi {csi : SessionColumns} (h : Fields.keys csi = csiKeys)
    (resolution : Option ResolvedChargingLocation) (latest : Option VehicleStateLatest) :
    Fields.keys (applyStationResolutionToCsi csi resolution latest) = csiKeys := by
  cases resolution with
  | none => exact h
  | some r =>
    simp only [applyStationResolutionToCsi]
    split_ifs
    · exact h
    · have hkeys : ∀ k ∈ (stationUpdates r latest).map (fun u => u.2.1), k ∈ csiKeys := by
        show ∀ k ∈ ["location_name", "station_name", "charger_operator", "charging_type",
          "price_model", "price_value_sek_kwh", "connector_type", "station_confidence",
          "station_resolution_status", "identification_method", "detection_confidence",
          "station_provider", "station_provider_id", "latitude", "longitude"], k ∈ csiKeys
        decide
      rw [Fields.keys_assignAll, h]
      intro u hu
      rw [h]
      exact hkeys _ (List.mem_map_of_mem hu)

/-! ### Merging -/

/-- The existing value of a key, where the incoming one says nothing. -/
def keepExisting (existing merged : SessionColumns) (k : String) : SessionColumns :=
  Fields.assignIf (¬ (value merged k).truthy ∧ (value existing k).truthy) merged k
    (value existing k)

/-- The existing location name, where the incoming one is unknown. -/
def keepLocationName (existing merged : SessionColumns) : SessionColumns :=
  Fields.assignIf (isUnknownLocation (value merged "location_name") ∧
    ¬ isUnknownLocation (value existing "location_name")) merged "location_name"
    (value existing "location_name")

/-- The existing price model with its price, where the incoming model is unknown. -/
def keepPrice (existing merged : SessionColumns) : SessionColumns :=
  if isUnknownPriceModel (value merged "price_model") ∧
      ¬ isUnknownPriceModel (value existing "price_model") then
    Fields.assign (Fields.assign merged "price_model" (value existing "price_model"))
      "price_value_sek_kwh" (value existing "price_value_sek_kwh")
  else merged

/-- The existing coordinates, while the location is still unknown. -/
def keepCoordinates (existing merged : SessionColumns) : SessionColumns :=
  if isUnknownLocation (value merged "location_name") ∧
      (value existing "latitude").truthy ∧ (value existing "longitude").truthy then
    Fields.assign (Fields.assign merged "latitude" (value existing "latitude"))
      "longitude" (value existing "longitude")
  else merged

/-- `merge_csi_fields` for a session that exists. -/
def mergeCsiFields (existing incoming : SessionColumns) : SessionColumns :=
  let merged := keepLocationName existing incoming
  let merged := keepExisting existing merged "station_name"
  let merged := keepExisting existing merged "charger_operator"
  let merged := keepPrice existing merged
  let merged := keepExisting existing merged "station_provider"
  let merged := keepExisting existing merged "station_provider_id"
  let merged := keepExisting existing merged "station_confidence"
  keepCoordinates existing merged

section

variable {existing merged : SessionColumns}

theorem keys_keepExisting (existing : SessionColumns) (h : Fields.keys merged = csiKeys)
    {k : String} (hk : k ∈ csiKeys) : Fields.keys (keepExisting existing merged k) = csiKeys := by
  rw [← h] at hk
  rw [keepExisting, Fields.keys_assignIf hk, h]

theorem keys_keepLocationName (h : Fields.keys merged = csiKeys) :
    Fields.keys (keepLocationName existing merged) = csiKeys := by
  have hk : "location_name" ∈ Fields.keys merged := by
    rw [h]
    decide
  rw [keepLocationName, Fields.keys_assignIf hk, h]

/-- Two assignments to keys of the context. -/
theorem keys_assign_assign (h : Fields.keys merged = csiKeys) {k k' : String} (hk : k ∈ csiKeys)
    (hk' : k' ∈ csiKeys) (v v' : Value) : Fields.keys (Fields.assign (Fields.assign merged k v) k' v') = csiKeys := by
  rw [← h] at hk hk'
  have hfirst := Fields.keys_assign hk v
  rw [Fields.keys_assign (by rw [hfirst]; exact hk'), hfirst, h]

theorem keys_keepPrice (h : Fields.keys merged = csiKeys) : Fields.keys (keepPrice existing merged) = csiKeys := by
  unfold keepPrice
  split_ifs
  · exact keys_assign_assign h (by decide) (by decide) _ _
  · exact h

theorem keys_keepCoordinates (h : Fields.keys merged = csiKeys) :
    Fields.keys (keepCoordinates existing merged) = csiKeys := by
  unfold keepCoordinates
  split_ifs
  · exact keys_assign_assign h (by decide) (by decide) _ _
  · exact h

theorem keys_mergeCsiFields {incoming : SessionColumns} (h : Fields.keys incoming = csiKeys) :
    Fields.keys (mergeCsiFields existing incoming) = csiKeys := by
  refine keys_keepCoordinates (keys_keepExisting existing ?_ (by decide))
  refine keys_keepExisting existing (keys_keepExisting existing ?_ (by decide)) (by decide)
  refine keys_keepPrice (keys_keepExisting existing ?_ (by decide))
  exact keys_keepExisting existing (keys_keepLocationName h) (by decide)

end

end EnergyCore.Vehicles
