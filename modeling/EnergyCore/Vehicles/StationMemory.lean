import EnergyCore.Vehicles.VehicleSessions

/-!
# What a charging session knows about its station

`merge_csi_fields` over a run of telemetry, each result stored before the next, and
`repair_completed_session_fields`, whose patch is stored with `patch_session`.

* `knownIn_mergeTelemetry` — what a merge keeps: everything but the coordinates always, these under a
  condition on the telemetry;
* `repairFields_patched` — a repair that is stored leaves nothing to repair;
* `station_remembered` — both, over every run of telemetry.
-/

namespace EnergyCore.Vehicles

open KeywordFields StepRun SessionColumns

/-! ### Telemetry -/

namespace VehicleSession

/-- A merge of `merge_csi_fields`, stored with `update_csi_fields`. -/
def mergeTelemetry (row : VehicleSession) (incoming : SessionColumns) : VehicleSession :=
  row.setColumns (mergeCsiFields row.columns incoming)

end VehicleSession

/-- A column after an update: the value that the update gives, or else the one that was there. -/
theorem value_setColumns (row : VehicleSession) {fields : SessionColumns}
    (h : (Fields.keys fields).Nodup) {k : String} (hk : k ∈ vehicleSessionColumns) :
    value (row.setColumns fields).columns k = (Fields.get fields k).getD (value row.columns k) := by
  have hget := Fields.get_assignAll_entries row.columns h (fun k => decide (k ∈ vehicleSessionColumns))
    (decide_eq_true hk)
  show (Fields.get (Fields.assignAll row.columns
    (fields.map fun p => (decide (p.1 ∈ vehicleSessionColumns), p))) k).getD .none = _
  rw [hget]
  cases Fields.get fields k with
  | none => rfl
  | some v => rfl

/-- What a session can know about its station. -/
inductive StationField where
  | locationName
  | stationName
  | chargerOperator
  | stationProviderId
  | priceModel
  | latitude
  | longitude
  deriving Repr, DecidableEq

namespace StationField

def key : StationField → String
  | locationName => "location_name"
  | stationName => "station_name"
  | chargerOperator => "charger_operator"
  | stationProviderId => "station_provider_id"
  | priceModel => "price_model"
  | latitude => "latitude"
  | longitude => "longitude"

/-- The value says something. -/
def known : StationField → Value → Bool
  | locationName, v => !isUnknownLocation v
  | priceModel, v => !isUnknownPriceModel v
  | latitude, v | longitude, v => decide (v ≠ .none)
  | _, v => v.truthy

def knownIn (field : StationField) (columns : SessionColumns) : Bool :=
  field.known (value columns field.key)

def coordinates : List StationField := [latitude, longitude]

theorem key_mem (field : StationField) : field.key ∈ vehicleSessionColumns := by
  cases field <;> decide

end StationField

/-! ### One merge -/

section

variable (existing merged incoming : SessionColumns)

theorem get_keepExisting (k k' : String) : Fields.get (keepExisting existing merged k) k' =
      if (¬ (value merged k).truthy ∧ (value existing k).truthy) ∧ k = k' then some (value existing k)
      else Fields.get merged k' := Fields.get_assignIf _ _ _ _ _

theorem get_keepLocationName (k : String) : Fields.get (keepLocationName existing merged) k =
      if (isUnknownLocation (value merged "location_name") ∧
          ¬ isUnknownLocation (value existing "location_name")) ∧ "location_name" = k then
        some (value existing "location_name") else Fields.get merged k := Fields.get_assignIf _ _ _ _ _

/-- Two keys that are written together or not at all. -/
theorem get_writeBoth (c : Prop) [Decidable c] (k₁ k₂ k : String) (v₁ v₂ : Value) :
    Fields.get (if c then Fields.assign (Fields.assign merged k₁ v₁) k₂ v₂ else merged) k =
      if c ∧ k₂ = k then some v₂ else if c ∧ k₁ = k then some v₁ else Fields.get merged k := by
  by_cases hc : c
  · rw [if_pos hc, Fields.get_assign, Fields.get_assign]
    simp only [hc, true_and]
  · rw [if_neg hc, if_neg fun h => hc h.1, if_neg fun h => hc h.1]

theorem nodup_keys_mergeCsiFields (h : (Fields.keys incoming).Nodup) :
    (Fields.keys (mergeCsiFields existing incoming)).Nodup := by
  have hlocation : (Fields.keys (keepLocationName existing incoming)).Nodup := Fields.nodup_keys_assignIf h _ _ _
  have hkeep : ∀ {m : SessionColumns} (k : String), (Fields.keys m).Nodup →
      (Fields.keys (keepExisting existing m k)).Nodup := fun k hm =>
    Fields.nodup_keys_assignIf hm _ _ _
  have hboth : ∀ {m : SessionColumns} (c : Prop) [Decidable c] (k₁ k₂ : String) (v₁ v₂ : Value),
      (Fields.keys m).Nodup →
      (Fields.keys (if c then Fields.assign (Fields.assign m k₁ v₁) k₂ v₂ else m)).Nodup := by
    intro m c _ k₁ k₂ v₁ v₂ hm
    split_ifs
    · exact Fields.nodup_keys_assign (Fields.nodup_keys_assign hm _ _) _ _
    · exact hm
  refine hboth _ _ _ _ _ (hkeep _ (hkeep _ (hkeep _ ?_)))
  exact hboth _ _ _ _ _ (hkeep _ (hkeep _ hlocation))

/-- What a merge writes at a key that only `keepExisting` guards. -/
theorem get_mergeCsiFields_kept {k : String} (hk : k ∈ ["station_name", "charger_operator", "station_provider_id"]) :
    Fields.get (mergeCsiFields existing incoming) k =
      if ¬ (value incoming k).truthy ∧ (value existing k).truthy then some (value existing k)
      else Fields.get incoming k := by
  simp only [List.mem_cons, List.not_mem_nil, or_false] at hk
  rcases hk with rfl | rfl | rfl <;>
    simp [mergeCsiFields, keepCoordinates, keepPrice, get_writeBoth, get_keepExisting, get_keepLocationName, value]

theorem get_mergeCsiFields_locationName : Fields.get (mergeCsiFields existing incoming) "location_name" =
      if isUnknownLocation (value incoming "location_name") ∧
          ¬ isUnknownLocation (value existing "location_name") then some (value existing "location_name")
      else Fields.get incoming "location_name" := by
  simp [mergeCsiFields, keepCoordinates, keepPrice, get_writeBoth, get_keepExisting, get_keepLocationName]

/-- The price model and its price are kept together. -/
theorem get_mergeCsiFields_price {k : String} (hk : k ∈ ["price_model", "price_value_sek_kwh"]) :
    Fields.get (mergeCsiFields existing incoming) k = if isUnknownPriceModel (value incoming "price_model") ∧
          ¬ isUnknownPriceModel (value existing "price_model") then some (value existing k)
      else Fields.get incoming k := by
  simp only [List.mem_cons, List.not_mem_nil, or_false] at hk
  rcases hk with rfl | rfl <;>
    simp [mergeCsiFields, keepCoordinates, keepPrice, get_writeBoth, get_keepExisting, get_keepLocationName, value]

/-- The merged location is unknown if neither side knows one. -/
theorem isUnknownLocation_keepLocationName :
    isUnknownLocation (value (keepLocationName existing incoming) "location_name") = true ↔
      isUnknownLocation (value incoming "location_name") ∧ isUnknownLocation (value existing "location_name") := by
  rw [value, get_keepLocationName]
  by_cases h : isUnknownLocation (value incoming "location_name") ∧
      ¬ isUnknownLocation (value existing "location_name")
  · rw [if_pos ⟨h, rfl⟩, Option.getD_some]
    exact iff_of_false h.2 fun hboth => h.2 hboth.2
  · rw [if_neg fun h' => h h'.1]
    constructor
    · intro hunknown
      exact ⟨hunknown, not_not.mp fun hknown => h ⟨hunknown, hknown⟩⟩
    · exact fun hboth => hboth.1

/-- The stored coordinates are kept while neither side knows a location. -/
theorem get_mergeCsiFields_coordinate {k : String} (hk : k ∈ ["latitude", "longitude"]) :
    Fields.get (mergeCsiFields existing incoming) k = if (isUnknownLocation (value incoming "location_name") ∧
            isUnknownLocation (value existing "location_name")) ∧
          (value existing "latitude").truthy ∧ (value existing "longitude").truthy then some (value existing k)
      else Fields.get incoming k := by
  simp only [← isUnknownLocation_keepLocationName]
  simp only [List.mem_cons, List.not_mem_nil, or_false] at hk
  rcases hk with rfl | rfl <;>
    simp [mergeCsiFields, keepCoordinates, keepPrice, get_writeBoth, get_keepExisting, get_keepLocationName, value]

end

/-- A coordinate that the session knows is not missing in the telemetry, unless the location is unknown on
both sides and the session has both coordinates. -/
def KeepsCoordinates (row : VehicleSession) (incoming : SessionColumns) : Prop :=
  ∀ field ∈ StationField.coordinates, field.knownIn row.columns →
    Fields.get incoming field.key ≠ some .none ∨
      (isUnknownLocation (value incoming "location_name") ∧
          isUnknownLocation (value row.columns "location_name")) ∧
        (value row.columns "latitude").truthy ∧ (value row.columns "longitude").truthy

instance (row : VehicleSession) (incoming : SessionColumns) : Decidable (KeepsCoordinates row incoming) :=
  inferInstanceAs (Decidable (∀ field ∈ StationField.coordinates, _ → _))

/-- The telemetry has both keys of the price or neither, or they are not read. -/
def PricesTogether (row : VehicleSession) (incoming : SessionColumns) : Prop :=
  (Fields.get incoming "price_model").isSome =
      (Fields.get incoming "price_value_sek_kwh").isSome ∨
    isUnknownPriceModel (value incoming "price_model") ∧
      ¬ isUnknownPriceModel (value row.columns "price_model")

instance (row : VehicleSession) (incoming : SessionColumns) : Decidable (PricesTogether row incoming) :=
  inferInstanceAs (Decidable (_ ∨ _))

/-- The price model with its price. -/
def price (columns : SessionColumns) : Value × Value :=
  (value columns "price_model", value columns "price_value_sek_kwh")

section

variable {row : VehicleSession} {incoming : SessionColumns}

theorem value_mergeTelemetry (row : VehicleSession) (h : (Fields.keys incoming).Nodup) {k : String}
    (hk : k ∈ vehicleSessionColumns) : value (row.mergeTelemetry incoming).columns k =
      (Fields.get (mergeCsiFields row.columns incoming) k).getD (value row.columns k) :=
  value_setColumns row (nodup_keys_mergeCsiFields _ _ h) hk

/-- A value that is kept where the telemetry's is unknown stays known. -/
theorem known_getD {c : Prop} [Decidable c] {known : Value → Bool} {old : Value}
    {new : Option Value} (hold : known old = true) (hnew : ¬ c → known (new.getD old) = true) :
    known ((if c then some old else new).getD old) = true := by
  split_ifs with hc
  · exact hold
  · exact hnew hc

/-- What the telemetry says where a key is read: the key is missing, or this is its value. -/
theorem known_get {known : Value → Bool} {old : Value} {k : String} (hold : known old = true)
    (hnew : Fields.get incoming k ≠ none → known (value incoming k) = true) :
    known ((Fields.get incoming k).getD old) = true := by
  cases hget : Fields.get incoming k with
  | none => exact hold
  | some v =>
    have hvalue := hnew (by rw [hget]; exact Option.some_ne_none v)
    rwa [value, hget] at hvalue

/-- Everything but the coordinates is kept whatever the telemetry says. -/
theorem knownIn_mergeTelemetry (h : (Fields.keys incoming).Nodup) {field : StationField}
    (hfield : field ∉ StationField.coordinates) (hknown : field.knownIn row.columns = true) :
    field.knownIn (row.mergeTelemetry incoming).columns = true := by
  have hvalue := value_mergeTelemetry row h field.key_mem
  have hkept : field.key ∈ ["station_name", "charger_operator", "station_provider_id"] →
      (∀ v, field.known v = v.truthy) → field.known ((Fields.get
        (mergeCsiFields row.columns incoming) field.key).getD (value row.columns field.key)) := by
    intro hkey htruthy
    rw [get_mergeCsiFields_kept _ _ hkey]
    refine known_getD hknown fun hc => known_get hknown fun _ => ?_
    rw [StationField.knownIn, htruthy] at hknown
    rw [htruthy]
    exact by_contra fun hfalse => hc ⟨hfalse, hknown⟩
  rw [StationField.knownIn, hvalue]
  cases field with
  | locationName =>
    rw [StationField.key, get_mergeCsiFields_locationName]
    refine known_getD hknown fun hc => known_get hknown fun _ => ?_
    simp only [StationField.knownIn, StationField.known, StationField.key,
      Bool.not_eq_true', ← Bool.not_eq_true] at hknown ⊢
    exact fun hunknown => hc ⟨hunknown, hknown⟩
  | stationName => exact hkept (by decide) fun _ => rfl
  | chargerOperator => exact hkept (by decide) fun _ => rfl
  | stationProviderId => exact hkept (by decide) fun _ => rfl
  | priceModel =>
    rw [StationField.key, get_mergeCsiFields_price _ _ (by decide)]
    refine known_getD hknown fun hc => known_get hknown fun _ => ?_
    simp only [StationField.knownIn, StationField.known, StationField.key,
      Bool.not_eq_true', ← Bool.not_eq_true] at hknown ⊢
    exact fun hunknown => hc ⟨hunknown, hknown⟩
  | latitude => exact absurd (by decide) hfield
  | longitude => exact absurd (by decide) hfield

/-- **The coordinates.** A merge keeps what is known of them exactly under this condition. -/
theorem coordinates_kept_iff (h : (Fields.keys incoming).Nodup) :
    (∀ field ∈ StationField.coordinates, field.knownIn row.columns →
      field.knownIn (row.mergeTelemetry incoming).columns) ↔ KeepsCoordinates row incoming := by
  refine forall_congr' fun field => forall_congr' fun hfield => forall_congr' fun hknown => ?_
  have hkey : field.key ∈ ["latitude", "longitude"] := by
    simp only [StationField.coordinates, List.mem_cons, List.not_mem_nil, or_false] at hfield
    rcases hfield with rfl | rfl <;> decide
  have hne : ∀ v, field.known v = decide (v ≠ .none) := by
    simp only [StationField.coordinates, List.mem_cons, List.not_mem_nil, or_false] at hfield
    rcases hfield with rfl | rfl <;> exact fun _ => rfl
  rw [StationField.knownIn, value_mergeTelemetry row h field.key_mem, get_mergeCsiFields_coordinate _ _ hkey]
  split_ifs with hc
  · exact iff_of_true hknown (Or.inr hc)
  · rw [hne, decide_eq_true_eq]
    rw [StationField.knownIn, hne, decide_eq_true_eq] at hknown
    have hsome : (Fields.get incoming field.key).getD (value row.columns field.key) ≠ .none ↔
        Fields.get incoming field.key ≠ some .none := by
      cases hget : Fields.get incoming field.key with
      | none => exact iff_of_true hknown (Option.some_ne_none _).symm
      | some v => rw [Option.getD_some, ne_eq, ne_eq, Option.some.injEq]
    rw [hsome]
    exact ⟨Or.inl, fun h => h.resolve_right hc⟩

/-- The price and its model come from the session or from the telemetry, together. -/
theorem price_mergeTelemetry (h : (Fields.keys incoming).Nodup) (hprice : PricesTogether row incoming) :
    price (row.mergeTelemetry incoming).columns = price row.columns ∨
      price (row.mergeTelemetry incoming).columns = price incoming := by
  have hmodel := value_mergeTelemetry row h (show "price_model" ∈ vehicleSessionColumns by decide)
  have hvalue := value_mergeTelemetry row h (show "price_value_sek_kwh" ∈ vehicleSessionColumns by decide)
  rw [get_mergeCsiFields_price _ _ (by decide)] at hmodel hvalue
  unfold price
  rw [hmodel, hvalue]
  split_ifs with hc
  · exact Or.inl rfl
  · have hboth := hprice.resolve_right hc
    cases hm : Fields.get incoming "price_model" with
    | none =>
      rw [hm, Option.isSome_none, eq_comm, Option.isSome_eq_false_iff, Option.isNone_iff_eq_none] at hboth
      rw [hboth]
      exact Or.inl rfl
    | some m =>
      rw [hm, Option.isSome_some, eq_comm, Option.isSome_iff_exists] at hboth
      obtain ⟨v, hv⟩ := hboth
      have hincoming : price incoming = (m, v) := by
        rw [price, value, value, hm, hv]
        rfl
      rw [hv]
      exact Or.inr hincoming.symm

end

/-! ### Runs of telemetry -/

/-- What the session and the next telemetry must look like. -/
def KeepsStation (row : VehicleSession) (incoming : SessionColumns) : Prop :=
  KeepsCoordinates row incoming ∧ PricesTogether row incoming

instance (row : VehicleSession) (incoming : SessionColumns) : Decidable (KeepsStation row incoming) :=
  inferInstanceAs (Decidable (_ ∧ _))

/-- The session never forgets its station: what is known at some point is known later, and the price comes
with its model from one of the sets of fields so far. -/
structure NeverForgets (row : VehicleSession) (telemetry : List SessionColumns) : Prop where
  known : ∀ (field : StationField) (earlier later : List SessionColumns),
    earlier ++ later <+: telemetry →
      field.knownIn (run VehicleSession.mergeTelemetry row earlier).columns →
        field.knownIn (run VehicleSession.mergeTelemetry row (earlier ++ later)).columns
  priced : ∀ earlier, earlier <+: telemetry → ∃ source ∈ row.columns :: earlier,
    price (run VehicleSession.mergeTelemetry row earlier).columns = price source

section

variable {row : VehicleSession} {telemetry : List SessionColumns}

/-- One merge keeps what is known. -/
theorem knownIn_of_keepsStation {incoming : SessionColumns} (h : (Fields.keys incoming).Nodup)
    (hkeeps : KeepsCoordinates row incoming) {field : StationField} (hknown : field.knownIn row.columns = true) :
    field.knownIn (row.mergeTelemetry incoming).columns = true := by
  by_cases hfield : field ∈ StationField.coordinates
  · exact (coordinates_kept_iff h).mpr hkeeps field hfield hknown
  · exact knownIn_mergeTelemetry h hfield hknown

theorem price_run (hdict : ∀ fields ∈ telemetry, (Fields.keys fields).Nodup)
    (h : AllSteps VehicleSession.mergeTelemetry PricesTogether row telemetry) : ∃ source ∈ row.columns :: telemetry,
      price (run VehicleSession.mergeTelemetry row telemetry).columns = price source := by
  induction telemetry generalizing row with
  | nil => exact ⟨row.columns, List.mem_singleton_self _, rfl⟩
  | cons fields telemetry ih =>
    obtain ⟨source, hsource, hprice⟩ := ih (fun f hf => hdict f (List.mem_cons_of_mem fields hf)) h.2
    rw [run_cons]
    rcases List.mem_cons.mp hsource with hfirst | hlater
    · rw [hfirst] at hprice
      rcases price_mergeTelemetry (hdict fields List.mem_cons_self) h.1 with hold | hnew
      · exact ⟨row.columns, List.mem_cons_self, hprice.trans hold⟩
      · exact ⟨fields, List.mem_cons_of_mem _ List.mem_cons_self, hprice.trans hnew⟩
    · exact ⟨source, List.mem_cons_of_mem _ (List.mem_cons_of_mem _ hlater), hprice⟩

theorem neverForgets_of_keepsStation (hdict : ∀ fields ∈ telemetry, (Fields.keys fields).Nodup)
    (h : AllSteps VehicleSession.mergeTelemetry KeepsStation row telemetry) : NeverForgets row telemetry where
  known := by
    rintro field earlier later ⟨rest, rfl⟩ hknown
    rw [run_append]
    have hsegment := (AllSteps.append.mp (AllSteps.append.mp h).1).2
    have hlater : ∀ fields ∈ later, (Fields.keys fields).Nodup := fun fields hfields =>
      hdict fields (List.mem_append_left _ (List.mem_append_right _ hfields))
    refine AllSteps.preserves (I := fun row => field.knownIn row.columns = true) ?_ hknown
      (hsegment.and (AllSteps.of_forall_mem hlater))
    intro row fields hknown hstep
    exact knownIn_of_keepsStation hstep.2 hstep.1.1 hknown
  priced := by
    rintro earlier ⟨rest, rfl⟩
    exact price_run (fun fields hfields => hdict fields (List.mem_append_left _ hfields))
      ((AllSteps.append.mp h).1.mono fun row fields hkeeps => hkeeps.2)

/-- A session that never forgets meets the condition on the coordinates at every merge. -/
theorem keepsCoordinates_of_neverForgets (hdict : ∀ fields ∈ telemetry, (Fields.keys fields).Nodup)
    (h : NeverForgets row telemetry) : AllSteps VehicleSession.mergeTelemetry KeepsCoordinates row telemetry := by
  rw [AllSteps.iff_forall_prefix]
  intro before fields after hsplit
  have hfields : fields ∈ telemetry := by simp [hsplit]
  refine (coordinates_kept_iff (hdict fields hfields)).mp fun field _ hknown => ?_
  have hprefix : before ++ [fields] <+: telemetry := ⟨after, by simp [hsplit]⟩
  have hlater := h.known field before [fields] hprefix hknown
  rwa [run_append] at hlater

end

/-! ### Repair -/

/-- `estimate_battery_delta_kwh`. -/
def estimateBatteryDelta (usableBatteryKwh startSoc endSoc : Option ℚ) : Option ℚ :=
  let capacity := (usableBatteryKwh.filter fun q => decide (q > 0)).getD batteryCapacityKwh
  match startSoc, endSoc with
  | some start, some stop =>
    if stop - start ≤ 0 then none else some ((stop - start) * (capacity / 100))
  | _, _ => none

/-- `finalize_away_session_energy`, with the usable battery. -/
def finalizeSessionEnergy (usableBatteryKwh : Option ℚ) (record : VehicleSession)
    (endSoc contextEstimatedKwh : Option ℚ) : Option ℚ × Option ℚ × String :=
  let delta := estimateBatteryDelta usableBatteryKwh record.startSoc endSoc
  let energy := if delta.any (fun d => decide (d > 0)) then delta else contextEstimatedKwh
  if energy.any (fun e => decide (e > 0)) then (energy, delta, "ESTIMATED")
  else (none, delta, "UNKNOWN")

def repairKeys : List String :=
  ["location_name", "station_name", "charger_operator", "charging_type", "connector_type",
    "station_confidence", "station_resolution_status", "identification_method",
    "detection_confidence", "station_provider", "station_provider_id", "latitude", "longitude"]

/-- What a completed session says about its station. -/
def completedCsi (record : VehicleSession) : SessionColumns :=
  repairKeys.map fun k => (k, value record.columns k)

/-- The fields of the station resolution that the session lacks, if its location is unknown. -/
def stationRepair (record : VehicleSession) (resolution : Option ResolvedChargingLocation) : SessionColumns :=
  if resolution.isSome ∧ isUnknownLocation (value record.columns "location_name") then
    (applyStationResolutionToCsi (completedCsi record) resolution none).filter fun p =>
      decide (p.2 ≠ .none ∧ value record.columns p.1 ≠ p.2)
  else []

/-- The keywords of an energy that is estimated from the state of charge. -/
def energyRepair (energy : Option ℚ × Option ℚ × String) : SessionColumns :=
  [("halo_energy_kwh", .ofNumber energy.1),
   ("estimated_battery_energy_delta_kwh", .ofNumber energy.2.1),
   ("energy_quality", .text energy.2.2),
   ("energy_source", .text "SOC_ESTIMATE")]

def repairEnergy (record : VehicleSession) (usableBatteryKwh : Option ℚ) : Option ℚ × Option ℚ × String :=
  finalizeSessionEnergy usableBatteryKwh record (record.number "end_soc")
    (record.number "estimated_energy_kwh")

/-- There is an energy to store, and none is stored. -/
def lacksEnergy (record : VehicleSession) (usableBatteryKwh : Option ℚ) : Bool :=
  (repairEnergy record usableBatteryKwh).1.any (fun e => decide (e > 0)) &&
    decide ((record.number "halo_energy_kwh").getD 0 ≤ 0)

/-- The patch of `repair_completed_session_fields`, which may be empty. -/
def repairFields (record : VehicleSession) (resolution : Option ResolvedChargingLocation)
    (usableBatteryKwh : Option ℚ) : SessionColumns :=
  Fields.assignAll (stationRepair record resolution)
    ((energyRepair (repairEnergy record usableBatteryKwh)).map fun p =>
      (lacksEnergy record usableBatteryKwh, p))

/-- `repair_completed_session_fields`. -/
def repairCompletedSessionFields (record : VehicleSession)
    (resolution : Option ResolvedChargingLocation) (usableBatteryKwh : Option ℚ) : Option SessionColumns :=
  let fields := repairFields record resolution usableBatteryKwh
  if fields = [] then none else some fields

namespace VehicleSession

/-- `patch_session` with the patch of a repair, if there is one. -/
def patchSession (record : VehicleSession) (patch : Option SessionColumns) : VehicleSession :=
  patch.elim record record.setColumns

end VehicleSession

/-! ### A second repair -/

/-- The keys that a repair of the energy writes. -/
def energyKeys : List String :=
  ["halo_energy_kwh", "estimated_battery_energy_delta_kwh", "energy_quality", "energy_source"]

/-- The keys that a repair of the station writes. -/
def stationKeys : List String := repairKeys ++ ["price_model", "price_value_sek_kwh"]

section

variable {record : VehicleSession} {resolution : Option ResolvedChargingLocation}
  {usableBatteryKwh : Option ℚ}

theorem keys_completedCsi : Fields.keys (completedCsi record) = repairKeys := by
  rw [Fields.keys, completedCsi, List.map_map]
  exact List.map_id _

theorem value_completedCsi {k : String} (hk : k ∈ repairKeys) :
    Fields.get (completedCsi record) k = some (value record.columns k) := by
  have hmem : (k, value record.columns k) ∈ completedCsi record := List.mem_map_of_mem hk
  refine Fields.get_of_mem_of_nodup ?_ hmem
  rw [keys_completedCsi]
  decide

/-- The fields that a resolution writes over the session's, where the location is unknown. -/
theorem applyStationResolution_completedCsi (r : ResolvedChargingLocation)
    (hunknown : isUnknownLocation (value record.columns "location_name") = true) :
    applyStationResolutionToCsi (completedCsi record) (some r) none =
      Fields.assignAll (completedCsi record) (stationUpdates r none) := by
  have hlocation : value (completedCsi record) "location_name" =
      value record.columns "location_name" := by
    rw [value, value_completedCsi (by decide)]
    rfl
  rw [applyStationResolutionToCsi, hlocation]
  exact if_neg fun h => h.1 hunknown

theorem nodup_stationRepair : (Fields.keys (stationRepair record resolution)).Nodup := by
  unfold stationRepair
  split_ifs with h
  · obtain ⟨r, rfl⟩ := Option.isSome_iff_exists.mp h.1
    rw [applyStationResolution_completedCsi r h.2]
    have hall : (Fields.keys (Fields.assignAll (completedCsi record) (stationUpdates r none))).Nodup := by
      refine Fields.nodup_keys_assignAll ?_ _
      rw [keys_completedCsi]
      decide
    exact hall.sublist (List.filter_sublist.map _)
  · exact List.nodup_nil

theorem mem_keys_applied (r : ResolvedChargingLocation) {k : String}
    (h : k ∈ Fields.keys (Fields.assignAll (completedCsi record) (stationUpdates r none))) : k ∈ stationKeys := by
  rcases Fields.mem_keys_assignAll h with hk | hk
  · rw [keys_completedCsi] at hk
    exact List.mem_append_left _ hk
  · have hupdates : ∀ k ∈ (stationUpdates r none).map (fun u => u.2.1), k ∈ stationKeys := by
      show ∀ k ∈ ["location_name", "station_name", "charger_operator", "charging_type",
        "price_model", "price_value_sek_kwh", "connector_type", "station_confidence",
        "station_resolution_status", "identification_method", "detection_confidence",
        "station_provider", "station_provider_id", "latitude", "longitude"], k ∈ stationKeys
      decide
    exact hupdates k hk

theorem mem_keys_stationRepair {k : String}
    (h : k ∈ Fields.keys (stationRepair record resolution)) : k ∈ stationKeys := by
  unfold stationRepair at h
  split_ifs at h with hc
  · obtain ⟨r, rfl⟩ := Option.isSome_iff_exists.mp hc.1
    rw [applyStationResolution_completedCsi r hc.2] at h
    obtain ⟨p, hp, rfl⟩ := List.mem_map.mp h
    exact mem_keys_applied r (List.mem_map_of_mem (List.mem_of_mem_filter hp))
  · cases h

theorem nodup_repairFields : (Fields.keys (repairFields record resolution usableBatteryKwh)).Nodup :=
  Fields.nodup_keys_assignAll nodup_stationRepair _

/-- Outside the energy the patch is the repair of the station. -/
theorem get_repairFields_of_notMem {k : String} (hk : k ∉ energyKeys) :
    Fields.get (repairFields record resolution usableBatteryKwh) k = Fields.get (stationRepair record resolution) k :=
  Fields.get_assignAll_of_notMem _ hk

theorem get_repairFields_energy (resolution : Option ResolvedChargingLocation) {k : String} (hk : k ∈ energyKeys)
    (h : lacksEnergy record usableBatteryKwh = true) : Fields.get (repairFields record resolution usableBatteryKwh) k =
      Fields.get (energyRepair (repairEnergy record usableBatteryKwh)) k := by
  have hnodup : (Fields.keys (energyRepair (repairEnergy record usableBatteryKwh))).Nodup := by
    show energyKeys.Nodup
    decide
  have hentries := Fields.get_assignAll_entries (stationRepair record resolution) hnodup
    (fun _ => lacksEnergy record usableBatteryKwh) (k := k) h
  have hmem : k ∈ Fields.keys (energyRepair (repairEnergy record usableBatteryKwh)) := hk
  obtain ⟨v, hv⟩ := Fields.get_of_mem hmem
  rw [repairFields, hentries, hv]
  rfl

theorem patchSession_repair : record.patchSession (repairCompletedSessionFields record resolution usableBatteryKwh) =
      record.setColumns (repairFields record resolution usableBatteryKwh) := by
  unfold repairCompletedSessionFields
  by_cases h : repairFields record resolution usableBatteryKwh = []
  · rw [if_pos h, h]
    rfl
  · rw [if_neg h]
    rfl

/-- A column after the patch is stored. -/
theorem value_repaired {k : String} (hk : k ∈ vehicleSessionColumns) :
    value (record.setColumns (repairFields record resolution usableBatteryKwh)).columns k =
      (Fields.get (repairFields record resolution usableBatteryKwh) k).getD
        (value record.columns k) := value_setColumns record nodup_repairFields hk

/-- The record after the patch. -/
def repaired (record : VehicleSession) (resolution : Option ResolvedChargingLocation)
    (usableBatteryKwh : Option ℚ) : VehicleSession :=
  record.setColumns (repairFields record resolution usableBatteryKwh)

/-- A column that no repair writes. -/
theorem value_repaired_of_notMem {k : String} (hk : k ∈ vehicleSessionColumns)
    (henergy : k ∉ energyKeys) (hstation : k ∉ stationKeys) :
    value (repaired record resolution usableBatteryKwh).columns k = value record.columns k := by
  have hnone := Fields.get_of_notMem fun h : k ∈ Fields.keys (stationRepair record resolution) =>
    hstation (mem_keys_stationRepair h)
  rw [repaired, value_repaired hk, get_repairFields_of_notMem henergy, hnone]
  rfl

/-- A column of the station after the patch, where the location was unknown: what the resolution writes, if
it writes something, or else what was there. -/
theorem value_repaired_station (r : ResolvedChargingLocation)
    (hunknown : isUnknownLocation (value record.columns "location_name") = true) {k : String}
    (hk : k ∈ stationKeys) : value (repaired record (some r) usableBatteryKwh).columns k =
      (((Fields.get (Fields.assignAll [] (stationUpdates r none)) k).filter
        fun v => decide (v ≠ .none)).getD (value record.columns k)) := by
  have hcolumn : k ∈ vehicleSessionColumns := by
    revert k
    decide
  have henergy : k ∉ energyKeys := by
    revert k
    decide
  have happlied : (Fields.keys
      (Fields.assignAll (completedCsi record) (stationUpdates r none))).Nodup := by
    refine Fields.nodup_keys_assignAll ?_ _
    rw [keys_completedCsi]
    decide
  rw [repaired, value_repaired hcolumn, get_repairFields_of_notMem henergy, stationRepair,
    if_pos ⟨rfl, hunknown⟩, applyStationResolution_completedCsi r hunknown,
    Fields.get_filter happlied, Fields.get_assignAll]
  cases Fields.get (Fields.assignAll [] (stationUpdates r none)) k with
  | some v =>
    by_cases hv : v = .none
    · simp [hv, Option.filter_some]
    · by_cases hsame : value record.columns k = v
      · simp [hv, hsame, Option.filter_some]
      · simp [hv, hsame, Option.filter_some]
  | none =>
    rw [Option.none_or, Option.filter_none, Option.getD_none]
    by_cases hrepair : k ∈ repairKeys
    · simp [value_completedCsi hrepair, Option.filter_some]
    · have hkey : k ∉ Fields.keys (completedCsi record) := by rwa [keys_completedCsi]
      rw [Fields.get_of_notMem hkey]
      rfl

theorem stationRepair_repaired : stationRepair (repaired record resolution usableBatteryKwh) resolution = [] := by
  by_cases h : resolution.isSome ∧
      isUnknownLocation (value (repaired record resolution usableBatteryKwh).columns "location_name")
  swap
  · rw [stationRepair, if_neg h]
  obtain ⟨r, rfl⟩ := Option.isSome_iff_exists.mp h.1
  have hunknown : isUnknownLocation (value record.columns "location_name") = true := by
    by_contra hknown
    have hnothing : stationRepair record (some r) = [] := by
      rw [stationRepair, if_neg fun hboth => hknown hboth.2]
    have hsame : value (repaired record (some r) usableBatteryKwh).columns "location_name" =
        value record.columns "location_name" := by
      rw [repaired, value_repaired (by decide), get_repairFields_of_notMem (by decide), hnothing]
      rfl
    rw [hsame] at h
    exact hknown h.2
  rw [stationRepair, if_pos h, applyStationResolution_completedCsi r h.2, List.filter_eq_nil_iff]
  intro p hp hwritten
  obtain ⟨hne, hother⟩ := of_decide_eq_true hwritten
  have hnodup : (Fields.keys (Fields.assignAll
      (completedCsi (repaired record (some r) usableBatteryKwh)) (stationUpdates r none))).Nodup := by
    refine Fields.nodup_keys_assignAll ?_ _
    rw [keys_completedCsi]
    decide
  have hget := Fields.get_of_mem_of_nodup hnodup hp
  rw [Fields.get_assignAll] at hget
  have hkey := mem_keys_applied r (List.mem_map_of_mem hp)
  rw [value_repaired_station r hunknown hkey] at hother
  cases hwrites : Fields.get (Fields.assignAll [] (stationUpdates r none)) p.1 with
  | some v =>
    -- what the resolution writes was stored by the first repair
    rw [hwrites, Option.some_or, Option.some.injEq] at hget
    subst hget
    rw [hwrites] at hother
    simp [Option.filter_some, hne] at hother
  | none =>
    rw [hwrites, Option.none_or] at hget
    have hrepair : p.1 ∈ repairKeys := by
      have hmem := List.mem_map_of_mem (f := Prod.fst) (Fields.mem_of_get hget)
      rwa [← @keys_completedCsi (repaired record (some r) usableBatteryKwh)]
    rw [value_completedCsi hrepair, Option.some.injEq, value_repaired_station r hunknown hkey, hwrites] at hget
    rw [hwrites] at hother
    exact hother hget

theorem number_repaired {k : String} (hk : k ∈ ["start_soc", "end_soc", "estimated_energy_kwh"]) :
    (repaired record resolution usableBatteryKwh).number k = record.number k := by
  have hcolumn : k ∈ vehicleSessionColumns ∧ k ∉ energyKeys ∧ k ∉ stationKeys := by
    revert k
    decide
  rw [VehicleSession.number, value_repaired_of_notMem hcolumn.1 hcolumn.2.1 hcolumn.2.2]
  rfl

theorem repairEnergy_repaired : repairEnergy (repaired record resolution usableBatteryKwh) usableBatteryKwh =
      repairEnergy record usableBatteryKwh := by
  unfold repairEnergy finalizeSessionEnergy VehicleSession.startSoc
  rw [number_repaired (by decide), number_repaired (by decide), number_repaired (by decide)]

theorem lacksEnergy_repaired : lacksEnergy (repaired record resolution usableBatteryKwh) usableBatteryKwh = false := by
  cases hlacks : lacksEnergy record usableBatteryKwh with
  | true =>
    -- the energy was stored, and it is positive
    have hget := get_repairFields_energy resolution (show "halo_energy_kwh" ∈ energyKeys by decide) hlacks
    have hvalue : value (repaired record resolution usableBatteryKwh).columns "halo_energy_kwh" =
        .ofNumber (repairEnergy record usableBatteryKwh).1 := by
      rw [repaired, value_repaired (by decide), hget]
      rfl
    have hpositive := (Bool.and_eq_true_iff.mp hlacks).1
    rw [Option.any_eq_true] at hpositive
    obtain ⟨energy, henergy, hpos⟩ := hpositive
    rw [lacksEnergy, VehicleSession.number, hvalue, henergy]
    have hstored : ¬ energy ≤ 0 := not_le.mpr (of_decide_eq_true hpos)
    simp [Value.ofNumber, Value.number?, hstored]
  | false =>
    have hsame : value (repaired record resolution usableBatteryKwh).columns "halo_energy_kwh" =
        value record.columns "halo_energy_kwh" := by
      have hnone : Fields.get (repairFields record resolution usableBatteryKwh)
          "halo_energy_kwh" = Fields.get (stationRepair record resolution) "halo_energy_kwh" := by
        rw [repairFields, hlacks]
        rfl
      have hnot := Fields.get_of_notMem fun h :
          "halo_energy_kwh" ∈ Fields.keys (stationRepair record resolution) =>
            absurd (mem_keys_stationRepair h) (by decide)
      rw [repaired, value_repaired (by decide), hnone, hnot]
      rfl
    rw [lacksEnergy, repairEnergy_repaired, VehicleSession.number, hsame]
    exact hlacks

/-- **A repair that is stored leaves nothing to repair.** -/
theorem repairFields_patched : repairCompletedSessionFields
        (record.patchSession (repairCompletedSessionFields record resolution usableBatteryKwh))
        resolution usableBatteryKwh = none := by
  rw [patchSession_repair]
  have hnothing : repairFields (repaired record resolution usableBatteryKwh) resolution
      usableBatteryKwh = [] := by
    rw [repairFields, stationRepair_repaired, lacksEnergy_repaired]
    rfl
  exact if_pos hnothing

end

/-! ### Together -/

/-- **The station of a session.** A run of telemetry that keeps the coordinates, and brings prices with their
models, never makes the session forget its station; a session that never forgets keeps the coordinates. A
repair is stored once. -/
theorem station_remembered {row : VehicleSession} {telemetry : List SessionColumns}
    (hdict : ∀ fields ∈ telemetry, (Fields.keys fields).Nodup) :
    (AllSteps VehicleSession.mergeTelemetry KeepsStation row telemetry → NeverForgets row telemetry) ∧
      (NeverForgets row telemetry → AllSteps VehicleSession.mergeTelemetry KeepsCoordinates row telemetry) ∧
      ∀ (record : VehicleSession) resolution usableBatteryKwh, repairCompletedSessionFields
        (record.patchSession (repairCompletedSessionFields record resolution usableBatteryKwh))
        resolution usableBatteryKwh = none :=
  ⟨neverForgets_of_keepsStation hdict, keepsCoordinates_of_neverForgets hdict,
    fun record resolution usableBatteryKwh =>
      @repairFields_patched record resolution usableBatteryKwh⟩

namespace StationDemo

/-- A session at a known place. -/
def hotel : VehicleSession where
  id := 1
  vehicleId := 1
  siteId := 1
  connectedAt := 0
  columns := [("location_name", .text "Hotell Corallen"), ("latitude", .number 57),
    ("longitude", .number 16)]

/-- Telemetry without a state of the vehicle. -/
def silent : SessionColumns := csiFields {} none

/-- Telemetry from the place. -/
def located : SessionColumns := csiFields {} (some { latitude := some 57, longitude := some 16 })

/-- The place is still known, but its coordinates are gone. -/
theorem coordinates_forgotten : (∀ fields ∈ [silent], (Fields.keys fields).Nodup) ∧ ¬ NeverForgets hotel [silent] := by
  refine ⟨by decide +kernel, fun h => ?_⟩
  have hlost := h.known .latitude [] [silent] (List.prefix_refl _)
  exact absurd hlost (by decide +kernel)

theorem hotel_remembered : NeverForgets hotel [located, located] ∧
      AllSteps VehicleSession.mergeTelemetry KeepsCoordinates hotel [located, located] := by
  have h := @station_remembered hotel [located, located] (by decide +kernel)
  have hnever := h.1 (by decide +kernel)
  exact ⟨hnever, h.2.1 hnever⟩

end StationDemo

end EnergyCore.Vehicles
