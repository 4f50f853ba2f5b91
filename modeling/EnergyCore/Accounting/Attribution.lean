import EnergyCore.Accounting.EnergyModels

/-!
# Attribution, battery ledger and interval costs

`EnergyAttributionEngine.attribute_interval`, `BatteryEnergyLedgerService.update` and
`EVChargingCostCalculator`: where the energy of an interval came from, and what it cost.
-/

namespace EnergyCore.Accounting

open HalfEvenRounding

/-! ### The battery ledger -/

structure BatteryLedgerState where
  solarEnergyKwh : ℚ := 0
  gridEnergyKwh : ℚ := 0
  gridEnergyCostSek : ℚ := 0
  deriving Repr, DecidableEq

namespace BatteryLedgerState

def totalKwh (l : BatteryLedgerState) : ℚ := l.solarEnergyKwh + l.gridEnergyKwh

def gridAvgCostSekKwh (l : BatteryLedgerState) : Option ℚ :=
  if l.gridEnergyKwh ≤ 0 then none else some (l.gridEnergyCostSek / l.gridEnergyKwh)

end BatteryLedgerState

structure BatteryDischargeSplit where
  solarKwh : ℚ
  gridKwh : ℚ
  gridCostSek : ℚ
  deriving Repr, DecidableEq

def applyCharge (ledger : BatteryLedgerState) (sample : SiteEnergySample) (gridPriceSekKwh : ℚ) : BatteryLedgerState :=
  let chargeKwh := sample.batteryChargeKwh
  let pvSurplusKwh := max 0 (sample.pvKwh - sample.houseKwh)
  let pvSurplusKwh :=
    if sample.gridExportKwh > 0 then max pvSurplusKwh sample.gridExportKwh else pvSurplusKwh
  let solarCharge := min chargeKwh pvSurplusKwh
  let gridCharge := max 0 (chargeKwh - solarCharge)
  { solarEnergyKwh := ledger.solarEnergyKwh + solarCharge
    gridEnergyKwh := ledger.gridEnergyKwh + gridCharge
    gridEnergyCostSek := ledger.gridEnergyCostSek + gridCharge * gridPriceSekKwh }

def applyDischarge (ledger : BatteryLedgerState) (dischargeKwh : ℚ) : BatteryLedgerState × BatteryDischargeSplit :=
  let total := ledger.totalKwh
  if total ≤ 0 ∨ dischargeKwh ≤ 0 then
    (ledger, { solarKwh := 0, gridKwh := 0, gridCostSek := 0 })
  else
    let actualDischarge := min dischargeKwh total
    let solarOut := actualDischarge * (ledger.solarEnergyKwh / total)
    let gridOut := actualDischarge * (ledger.gridEnergyKwh / total)
    let gridCostOut :=
      if ledger.gridEnergyKwh > 0 then
        ledger.gridEnergyCostSek * (gridOut / ledger.gridEnergyKwh) else 0
    ({ solarEnergyKwh := max 0 (ledger.solarEnergyKwh - solarOut)
       gridEnergyKwh := max 0 (ledger.gridEnergyKwh - gridOut)
       gridEnergyCostSek := max 0 (ledger.gridEnergyCostSek - gridCostOut) },
      { solarKwh := solarOut, gridKwh := gridOut, gridCostSek := gridCostOut })

/-- `BatteryEnergyLedgerService.update`. -/
def updateLedger (ledger : BatteryLedgerState) (sample : SiteEnergySample) (gridPriceSekKwh : ℚ) :
    BatteryLedgerState × Option BatteryDischargeSplit :=
  let state :=
    if sample.batteryChargeKwh > 0 then applyCharge ledger sample gridPriceSekKwh else ledger
  if sample.batteryDischargeKwh > 0 then
    let discharged := applyDischarge state sample.batteryDischargeKwh
    (discharged.1, some discharged.2)
  else (state, none)

/-! ### Attribution -/

def attributionToleranceKwh : ℚ := 1 / 20

def attributionToleranceFraction : ℚ := 1 / 50

/-- Half a unit of the fourth decimal, to which the parts of an attribution are rounded. -/
def roundingUnitKwh : ℚ := 1 / 2 / 10 ^ 4

structure AttributionResult where
  attribution : EnergyAttribution
  confidence : ℚ
  dataQuality : String
  deriving Repr, DecidableEq

def withinTolerance (attributed target : ℚ) : Bool :=
  if target ≤ 0 then decide (attributed ≤ attributionToleranceKwh)
  else
    let delta := |attributed - target|
    decide (delta ≤ attributionToleranceKwh) ||
      decide (delta / target ≤ attributionToleranceFraction)

def scaleAttribution (a : EnergyAttribution) (target : ℚ) : EnergyAttribution :=
  let total := a.totalKwh
  if total ≤ 0 then { gridDirectKwh := target }
  else
    let factor := target / total
    { solarDirectKwh := roundDigits 4 (a.solarDirectKwh * factor)
      solarBatteryKwh := roundDigits 4 (a.solarBatteryKwh * factor)
      gridBatteryKwh := roundDigits 4 (a.gridBatteryKwh * factor)
      gridDirectKwh := roundDigits 4 (a.gridDirectKwh * factor) }

/-- The solar surplus that may have gone into the vehicle. -/
def solarDirectShare (evKwh : ℚ) (sample : SiteEnergySample) : ℚ :=
  let nonEvHouseKwh := max 0 (sample.houseKwh - evKwh)
  let pvSurplus := max 0 (sample.pvKwh - nonEvHouseKwh - sample.batteryChargeKwh)
  let pvSurplus :=
    if sample.gridExportKwh > 0 ∧ evKwh > 0 then max pvSurplus (min sample.gridExportKwh evKwh)
    else pvSurplus
  min evKwh pvSurplus

/-- The part of the remaining energy that came out of the battery, solar and grid. -/
def batteryShare (remaining : ℚ) (sample : SiteEnergySample)
    (batteryDischarge : Option BatteryDischargeSplit) : ℚ × ℚ × ℚ :=
  match batteryDischarge with
  | some d =>
    if remaining > 0 ∧ sample.batteryDischargeKwh > 0 then
      let totalDischarge := d.solarKwh + d.gridKwh
      let dischargeToEv := min remaining totalDischarge
      if totalDischarge > 0 then
        (dischargeToEv * (d.solarKwh / totalDischarge),
          dischargeToEv * (d.gridKwh / totalDischarge), remaining - dischargeToEv)
      else (0, 0, remaining - dischargeToEv)
    else (0, 0, remaining)
  | none => (0, 0, remaining)

/-- The rest is grid energy: first what the import can explain, then the remainder as well. -/
def gridDirectShare (remaining : ℚ) (sample : SiteEnergySample) : ℚ :=
  let direct :=
    if remaining > 0 ∧ sample.gridImportKwh > 0 then
      let nonEvImport := max 0 (sample.gridImportKwh - remaining)
      let attributableImport := max 0 (sample.gridImportKwh - nonEvImport)
      min remaining attributableImport
    else 0
  let rest := remaining - direct
  if rest > 0 then direct + rest else direct

/-- `attribute_interval`. -/
def attributeInterval (chargedKwh : ℚ) (sample : SiteEnergySample)
    (batteryDischarge : Option BatteryDischargeSplit) (evPowerW : Option ℚ) : AttributionResult :=
  if chargedKwh ≤ 0 then
    { attribution := {}, confidence := 1, dataQuality := "MEASURED" }
  else
    let solarDirect := solarDirectShare chargedKwh sample
    let battery := batteryShare (chargedKwh - solarDirect) sample batteryDischarge
    let attribution : EnergyAttribution :=
      { solarDirectKwh := roundDigits 4 solarDirect
        solarBatteryKwh := roundDigits 4 battery.1
        gridBatteryKwh := roundDigits 4 battery.2.1
        gridDirectKwh := roundDigits 4 (gridDirectShare battery.2.2 sample) }
    let noPower := evPowerW.any fun p => decide (p ≤ 0)
    let confidence : ℚ := if noPower then 1 / 2 else 4 / 5
    let quality := if noPower then "ESTIMATED" else "CALCULATED"
    if withinTolerance attribution.totalKwh chargedKwh then
      { attribution := attribution, confidence := confidence, dataQuality := quality }
    else
      { attribution := scaleAttribution attribution chargedKwh
        confidence := min confidence (7 / 10), dataQuality := quality }

/-- An attribution of a positive energy is never `MEASURED`. -/
theorem attributeInterval_dataQuality_ne {chargedKwh : ℚ} (h : 0 < chargedKwh)
    (sample : SiteEnergySample) (batteryDischarge : Option BatteryDischargeSplit) (evPowerW : Option ℚ) :
    (attributeInterval chargedKwh sample batteryDischarge evPowerW).dataQuality ≠ "MEASURED" := by
  simp only [attributeInterval]
  rw [if_neg (not_le.mpr h)]
  split_ifs <;> simp

/-! ### Costs -/

structure IntervalCostResult where
  actualCashCostSek : ℚ
  opportunityCostSek : ℚ
  referenceCostSek : Option ℚ
  savingsSek : Option ℚ
  deriving Repr, DecidableEq

/-- `interval_costs` with the default savings baseline. -/
def intervalCosts (a : EnergyAttribution) (gridPriceSekKwh gridBatteryAvgCostSekKwh : Option ℚ)
    (exportCompensationSekKwh : ℚ) : IntervalCostResult :=
  let gridDirectCost := (gridPriceSekKwh.map (a.gridDirectKwh * ·)).getD 0
  let gridBatteryCost := (gridBatteryAvgCostSekKwh.map (a.gridBatteryKwh * ·)).getD 0
  let actualCash := gridDirectCost + gridBatteryCost
  let reference := gridPriceSekKwh.map (a.totalKwh * ·)
  { actualCashCostSek := roundDigits 4 actualCash
    opportunityCostSek := roundDigits 4 (a.solarDirectKwh * exportCompensationSekKwh)
    referenceCostSek := reference.map (roundDigits 4)
    savingsSek := (reference.map (· - actualCash)).map (roundDigits 4) }

def solarContributionSek (a : EnergyAttribution) (gridPriceSekKwh : Option ℚ) : ℚ :=
  match gridPriceSekKwh with
  | none => 0
  | some price => roundDigits 4 ((a.solarDirectKwh + a.solarBatteryKwh) * price)

end EnergyCore.Accounting
