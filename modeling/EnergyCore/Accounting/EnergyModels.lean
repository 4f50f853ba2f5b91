import EnergyCore.Foundations.Clock
import EnergyCore.Foundations.HalfEvenRounding

/-!
# Meter readings, site samples and charging intervals

The records of `contracts/devices/meter.py`, `ev_accounting/models.py` and the interval tables, with the
functions that belong to them. The intervals of EV sessions and of vehicle sessions carry the same
fields.
-/

namespace EnergyCore.Accounting

open HalfEvenRounding

/-! ### The meter -/

/-- The fields of `MeterSnapshot` that the session services and samplers read. -/
structure MeterSnapshot where
  recordedAt : Instant
  cumulativeKwh : Option ℚ := none
  powerW : Option ℚ := none
  isCharging : Bool := false
  vehicleConnected : Bool := false
  deriving Repr, DecidableEq

/-- `session_energy_from_meter`: the energy of a session, and its quality. -/
def sessionEnergyFromMeter (startKwh stopKwh : Option ℚ) : Option ℚ × String :=
  match startKwh, stopKwh with
  | some start, some stop =>
    let delta := stop - start
    if delta < 0 then (none, "INCOMPLETE")
    else if delta = 0 then (some 0, "MEASURED")
    else (some (roundDigits 4 delta), "MEASURED")
  | _, _ => (none, "INCOMPLETE")

def integratePowerKwh (powerW durationHours : ℚ) : ℚ :=
  if powerW ≤ 0 ∨ durationHours ≤ 0 then 0
  else roundDigits 4 (powerW * durationHours / 1000)

theorem integratePowerKwh_nonneg (powerW durationHours : ℚ) : 0 ≤ integratePowerKwh powerW durationHours := by
  unfold integratePowerKwh
  split_ifs with h
  · exact le_rfl
  · obtain ⟨hpower, hduration⟩ := not_or.mp h
    rw [not_le] at hpower hduration
    exact roundDigits_nonneg 4 (by positivity)

/-! ### The site -/

/-- The prices of the site row that costing falls back on. -/
structure Site where
  id : ℕ := 0
  fallbackPurchasePriceSekKwh : ℚ := 2
  exportCompensationSekKwh : ℚ := 4 / 5
  deriving Repr, DecidableEq

/-- `SiteEnergySample`: the site's powers over one interval. -/
structure SiteEnergySample where
  pvPowerW : ℚ := 0
  houseConsumptionW : ℚ := 0
  gridImportW : ℚ := 0
  gridExportW : ℚ := 0
  batteryChargeW : ℚ := 0
  batteryDischargeW : ℚ := 0
  evPowerW : ℚ := 0
  electricityPriceSekKwh : Option ℚ := none
  durationHours : ℚ := 0
  deriving Repr, DecidableEq

namespace SiteEnergySample

/-- The energy of a power over the sample's duration; a negative power counts as none. -/
def energyKwh (s : SiteEnergySample) (powerW : ℚ) : ℚ := max 0 powerW * s.durationHours / 1000

def pvKwh (s : SiteEnergySample) : ℚ := s.energyKwh s.pvPowerW
def houseKwh (s : SiteEnergySample) : ℚ := s.energyKwh s.houseConsumptionW
def gridImportKwh (s : SiteEnergySample) : ℚ := s.energyKwh s.gridImportW
def gridExportKwh (s : SiteEnergySample) : ℚ := s.energyKwh s.gridExportW
def batteryChargeKwh (s : SiteEnergySample) : ℚ := s.energyKwh s.batteryChargeW
def batteryDischargeKwh (s : SiteEnergySample) : ℚ := s.energyKwh s.batteryDischargeW

end SiteEnergySample

/-! ### Attribution and intervals -/

structure EnergyAttribution where
  solarDirectKwh : ℚ := 0
  solarBatteryKwh : ℚ := 0
  gridBatteryKwh : ℚ := 0
  gridDirectKwh : ℚ := 0
  deriving Repr, DecidableEq

namespace EnergyAttribution

def totalKwh (a : EnergyAttribution) : ℚ :=
  a.solarDirectKwh + a.solarBatteryKwh + a.gridBatteryKwh + a.gridDirectKwh

def renewableKwh (a : EnergyAttribution) : ℚ := a.solarDirectKwh + a.solarBatteryKwh

def gridKwh (a : EnergyAttribution) : ℚ := a.gridBatteryKwh + a.gridDirectKwh

end EnergyAttribution

/-- A row of `ev_charging_intervals` or `vehicle_charging_intervals`, without its key and charger. -/
structure ChargingInterval where
  sessionId : ℕ
  startTime : Instant
  endTime : Instant
  chargedEnergyKwh : ℚ
  averageChargingPowerW : ℚ
  pvProductionKwh : ℚ
  houseConsumptionKwh : ℚ
  gridImportKwh : ℚ
  gridExportKwh : ℚ
  batteryChargeKwh : ℚ
  batteryDischargeKwh : ℚ
  electricityPriceSekKwh : Option ℚ
  attribution : EnergyAttribution
  actualCostSek : ℚ
  referenceCostSek : Option ℚ
  savingsSek : Option ℚ
  confidence : ℚ
  dataQuality : String
  deriving Repr, DecidableEq

end EnergyCore.Accounting
