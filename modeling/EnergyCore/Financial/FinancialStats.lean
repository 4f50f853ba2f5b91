import EnergyCore.Financial.ExportRevenue
import EnergyCore.Foundations.KeyedTotals
import Mathlib.Tactic.Positivity

/-!
# Financial statistics

The two ways from energy readings to the statistics of days, months and years: integrating the readings per
period, or accumulating them per local day and summing the days of a period.
-/

namespace EnergyCore.Financial

open KeywordFields KeyedTotals StepRun

/-! ### Readings and intervals -/

structure EnergyReading where
  recordedAt : Instant
  solarProductionW : Option ℚ := none
  consumptionW : Option ℚ := none
  batteryPowerW : Option ℚ := none
  gridImportW : Option ℚ := none
  gridExportW : Option ℚ := none
  deriving Repr, DecidableEq

def maxIntervalSeconds : ℚ := 300

/-- The energies between two readings, from the powers of the first. -/
structure EnergyInterval where
  startedAt : Instant
  solarKwh : ℚ
  batteryKwh : ℚ
  exportKwh : ℚ
  importKwh : ℚ
  export_nonneg : 0 ≤ exportKwh

/-- What both loops make of two neighbouring readings; intervals that are empty or too long are skipped. -/
def energyInterval (previous current : EnergyReading) : Option EnergyInterval :=
  let seconds := current.recordedAt - previous.recordedAt
  if h : seconds ≤ 0 ∨ seconds > maxIntervalSeconds then none
  else
    let hours := seconds / 3600
    let solarW := max 0 (previous.solarProductionW.getD 0)
    let consumptionW := max 0 (previous.consumptionW.getD 0)
    let dischargeW := max 0 (-previous.batteryPowerW.getD 0)
    let importedW := max 0 (previous.gridImportW.getD 0)
    let exportedW := max 0 (previous.gridExportW.getD 0)
    let solarSelfW := min solarW (max 0 (consumptionW - dischargeW - importedW))
    let batterySelfW := min dischargeW (max 0 (consumptionW - solarSelfW))
    some
      { startedAt := previous.recordedAt
        solarKwh := solarSelfW * hours / 1000
        batteryKwh := batterySelfW * hours / 1000
        exportKwh := exportedW * hours / 1000
        importKwh := importedW * hours / 1000
        export_nonneg := by
          have hseconds : 0 ≤ seconds := (not_le.mp (not_or.mp h).1).le
          positivity }

/-- `pairwise(readings)`, without the pairs that are skipped. -/
def energyIntervals (readings : List EnergyReading) : List EnergyInterval :=
  (readings.zip readings.tail).filterMap fun pair => energyInterval pair.1 pair.2

/-! ### Dates and prices -/

/-- The arguments that both ways share: the local date of an instant in the time zone, the price maps by the
hour, the fallback price, and the sell price configuration. -/
structure FinancialInputs where
  localDate : Instant → CivilDate
  purchasePrices : Instant → Option ℚ := fun _ => none
  spotPrices : Instant → Option ℚ := fun _ => none
  feedInPrices : Instant → Option ℚ := fun _ => none
  fallbackPurchasePriceSekKwh : ℚ
  config : SellPriceConfig := {}

namespace FinancialInputs

variable (inputs : FinancialInputs) (i : EnergyInterval)

def date : CivilDate := inputs.localDate i.startedAt

def marketPrice : Option ℚ := inputs.purchasePrices (hourStart i.startedAt)

def exportPrice : Option ℚ :=
  match inputs.config.pricingMode with
  | .feedIn => inputs.feedInPrices (hourStart i.startedAt)
  | .spot => inputs.spotPrices (hourStart i.startedAt)
  | .flat => none

def purchasePrice : ℚ := (inputs.marketPrice i).getD inputs.fallbackPurchasePriceSekKwh

/-- `export_under_contract`. -/
def underContract : Bool :=
  match inputs.config.sellContractStartDate with
  | none => true
  | some start => (inputs.date i).onOrAfter start

/-- The energy that is bought or saved at the purchase price. -/
def usedKwh (i : EnergyInterval) : ℚ := i.solarKwh + i.batteryKwh + i.importKwh

def marketPricedKwh : ℚ := if (inputs.marketPrice i).isSome then usedKwh i else 0

/-- `accumulate_export_interval` for an interval. -/
def accumulateExport (acc : ExportRevenueAccumulator) : ExportRevenueAccumulator :=
  (accumulateExportInterval i.exportKwh (inputs.exportPrice i) inputs.config acc).2

end FinancialInputs

/-! ### Results -/

structure FinancialStatResult where
  periodStart : String
  solarSelfConsumedKwh : ℚ
  batterySelfConsumedKwh : ℚ
  exportedKwh : ℚ
  importedKwh : ℚ
  solarSavingsSek : ℚ
  batterySavingsSek : ℚ
  exportRevenueSek : ℚ
  gridImportCostSek : ℚ
  marketPricedFraction : ℚ
  energySaleRevenueSek : ℚ
  gridBenefitRevenueSek : ℚ
  taxCreditSek : ℚ
  effectiveSellPriceSekKwh : Option ℚ
  exportSpotPricedFraction : ℚ
  uncontractedExportedKwh : ℚ
  deriving Repr, DecidableEq

/-- The keys of a dictionary, sorted. -/
def sortedKeys {ν : Type*} (d : Fields String ν) : List String :=
  (Fields.keys d).insertionSort (· ≤ ·)

section

variable (round : ℕ → ℚ → ℚ)

/-- `yearly_tax_credit`: the credit of every year with an entry in the export. -/
def yearlyTaxCredits (config : SellPriceConfig) (yearlyExport yearlyImport : Fields ℕ ℚ) : Fields ℕ ℚ :=
  yearlyExport.map fun e =>
    (e.1, computeYearlyTaxCreditSek round e.1 e.2 ((Fields.get yearlyImport e.1).getD 0)
      config.country config.historicalTaxCreditEnabled)

/-- The tax credit of a period of a year. -/
def periodTaxCredit (config : SellPriceConfig) (yearlyExport yearlyImport : Fields ℕ ℚ) (year : ℕ)
    (periodExportKwh : ℚ) : ℚ :=
  allocateYearlyTaxCredit round periodExportKwh ((Fields.get yearlyExport year).getD 0)
    ((Fields.get (yearlyTaxCredits round config yearlyExport yearlyImport) year).getD 0)

end

/-! ### Integrating per period -/

/-- The list of totals of a period, of which the seventh stays unused. -/
structure PeriodTotals where
  solarKwh : ℚ := 0
  batteryKwh : ℚ := 0
  exportKwh : ℚ := 0
  importKwh : ℚ := 0
  solarSavingsSek : ℚ := 0
  batterySavingsSek : ℚ := 0
  gridImportCostSek : ℚ := 0
  pricedDenominatorKwh : ℚ := 0
  marketPricedKwh : ℚ := 0
  deriving Repr, DecidableEq

/-- The dictionaries of the loop over the readings. -/
structure StatsLoop where
  totals : Fields String PeriodTotals := []
  exportAcc : Fields String ExportRevenueAccumulator := []
  preContractExport : Fields String ℚ := []
  yearlyExport : Fields ℕ ℚ := []
  yearlyImport : Fields ℕ ℚ := []
  deriving Repr, DecidableEq

namespace FinancialInputs

variable (inputs : FinancialInputs)

def addTotals (i : EnergyInterval) (values : PeriodTotals) : PeriodTotals where
  solarKwh := values.solarKwh + i.solarKwh
  batteryKwh := values.batteryKwh + i.batteryKwh
  exportKwh := values.exportKwh + i.exportKwh
  importKwh := values.importKwh + i.importKwh
  solarSavingsSek := values.solarSavingsSek + i.solarKwh * inputs.purchasePrice i
  batterySavingsSek := values.batterySavingsSek + i.batteryKwh * inputs.purchasePrice i
  gridImportCostSek := values.gridImportCostSek + i.importKwh * inputs.purchasePrice i
  pricedDenominatorKwh := values.pricedDenominatorKwh + usedKwh i
  marketPricedKwh :=
    if (inputs.marketPrice i).isSome then values.marketPricedKwh + usedKwh i
    else values.marketPricedKwh

/-- One turn of the loop of `integrate_financial_stats`. -/
def statsStep (period : PeakPeriod) (s : StatsLoop) (i : EnergyInterval) : StatsLoop :=
  let key := periodKey period (inputs.date i)
  let year := (inputs.date i).year
  let added : StatsLoop :=
    { s with
      totals := upsert s.totals key {} (inputs.addTotals i)
      yearlyImport := upsert s.yearlyImport year 0 fun kwh => kwh + i.importKwh }
  if inputs.underContract i then
    { added with
      yearlyExport := upsert s.yearlyExport year 0 fun kwh => kwh + i.exportKwh
      exportAcc := upsert s.exportAcc key {} (inputs.accumulateExport i) }
  else if i.exportKwh > 0 then
    { added with
      preContractExport := upsert s.preContractExport key 0 fun kwh => kwh + i.exportKwh }
  else added

/-- The result of a period, from the dictionaries after the loop. -/
def statsResult (round : ℕ → ℚ → ℚ) (s : StatsLoop) (key : String) (year : ℕ) : FinancialStatResult :=
  let values := (Fields.get s.totals key).getD {}
  let exportTotals := finalizeExportTotals round ((Fields.get s.exportAcc key).getD {})
  { periodStart := key
    solarSelfConsumedKwh := round 3 values.solarKwh
    batterySelfConsumedKwh := round 3 values.batteryKwh
    exportedKwh := round 3 values.exportKwh
    importedKwh := round 3 values.importKwh
    solarSavingsSek := round 2 values.solarSavingsSek
    batterySavingsSek := round 2 values.batterySavingsSek
    exportRevenueSek := round 2 exportTotals.exportRevenueSek
    gridImportCostSek := round 2 values.gridImportCostSek
    marketPricedFraction :=
      if values.pricedDenominatorKwh > 0 then
        round 3 (values.marketPricedKwh / values.pricedDenominatorKwh)
      else 0
    energySaleRevenueSek := round 2 exportTotals.energySaleRevenueSek
    gridBenefitRevenueSek := round 2 exportTotals.gridBenefitRevenueSek
    taxCreditSek := periodTaxCredit round inputs.config s.yearlyExport s.yearlyImport year
      values.exportKwh
    effectiveSellPriceSekKwh := exportTotals.effectiveSellPriceSekKwh
    exportSpotPricedFraction := exportTotals.spotPricedFraction
    uncontractedExportedKwh := round 3 ((Fields.get s.preContractExport key).getD 0) }

/-- `integrate_financial_stats`; it fails where `int` raises. -/
def integrateFinancialStats (round : ℕ → ℚ → ℚ) (period : PeakPeriod)
    (readings : List EnergyReading) : Option (List FinancialStatResult) :=
  if readings.length < 2 then some []
  else
    let s := run (inputs.statsStep period) {} (energyIntervals readings)
    (sortedKeys s.totals).mapM fun key =>
      (int (firstChars 4 key)).map fun year => inputs.statsResult round s key year

end FinancialInputs

/-! ### Accumulating per day -/

structure FinancialDailyAccumulator where
  day : String
  solarSelfKwh : ℚ := 0
  batterySelfKwh : ℚ := 0
  exportKwh : ℚ := 0
  importKwh : ℚ := 0
  solarSavingsSek : ℚ := 0
  batterySavingsSek : ℚ := 0
  gridImportCostSek : ℚ := 0
  marketPricedKwh : ℚ := 0
  pricedDenominatorKwh : ℚ := 0
  energySaleSek : ℚ := 0
  gridBenefitSek : ℚ := 0
  spotPricedKwh : ℚ := 0
  fallbackPricedKwh : ℚ := 0
  negativePriceKwh : ℚ := 0
  contractedExportKwh : ℚ := 0
  uncontractedExportKwh : ℚ := 0
  deriving Repr, DecidableEq

namespace FinancialInputs

variable (inputs : FinancialInputs)

def addDailyEnergy (i : EnergyInterval) (acc : FinancialDailyAccumulator) : FinancialDailyAccumulator :=
  { acc with
    solarSelfKwh := acc.solarSelfKwh + i.solarKwh
    batterySelfKwh := acc.batterySelfKwh + i.batteryKwh
    exportKwh := acc.exportKwh + i.exportKwh
    importKwh := acc.importKwh + i.importKwh
    solarSavingsSek := acc.solarSavingsSek + i.solarKwh * inputs.purchasePrice i
    batterySavingsSek := acc.batterySavingsSek + i.batteryKwh * inputs.purchasePrice i
    gridImportCostSek := acc.gridImportCostSek + i.importKwh * inputs.purchasePrice i
    marketPricedKwh := acc.marketPricedKwh + inputs.marketPricedKwh i
    pricedDenominatorKwh :=
      acc.pricedDenominatorKwh + i.solarKwh + i.batteryKwh + i.importKwh }

/-- The accumulator for the export that a day has kept. -/
def exportAccOf (acc : FinancialDailyAccumulator) : ExportRevenueAccumulator where
  exportedKwh := acc.contractedExportKwh
  energySaleRevenueSek := acc.energySaleSek
  gridBenefitRevenueSek := acc.gridBenefitSek
  spotPricedKwh := acc.spotPricedKwh
  fallbackPricedKwh := acc.fallbackPricedKwh
  negativePriceKwh := acc.negativePriceKwh

def addDailyExport (i : EnergyInterval) (acc : FinancialDailyAccumulator) : FinancialDailyAccumulator :=
  if inputs.underContract i ∧ i.exportKwh > 0 then
    let exportAcc := inputs.accumulateExport i (exportAccOf acc)
    { acc with
      energySaleSek := exportAcc.energySaleRevenueSek
      gridBenefitSek := exportAcc.gridBenefitRevenueSek
      spotPricedKwh := exportAcc.spotPricedKwh
      fallbackPricedKwh := exportAcc.fallbackPricedKwh
      negativePriceKwh := exportAcc.negativePriceKwh
      contractedExportKwh := exportAcc.exportedKwh }
  else if i.exportKwh > 0 then
    { acc with uncontractedExportKwh := acc.uncontractedExportKwh + i.exportKwh }
  else acc

/-- One turn of the loop of `integrate_financial_daily_accumulators`. -/
def dailyStep (daily : Fields String FinancialDailyAccumulator) (i : EnergyInterval) :
    Fields String FinancialDailyAccumulator :=
  let dayKey := dayKey (inputs.date i)
  upsert daily dayKey { day := dayKey } fun acc =>
    inputs.addDailyExport i (inputs.addDailyEnergy i acc)

/-- `integrate_financial_daily_accumulators`. -/
def integrateFinancialDailyAccumulators (readings : List EnergyReading) : Fields String FinancialDailyAccumulator :=
  if readings.length < 2 then []
  else run inputs.dailyStep [] (energyIntervals readings)

end FinancialInputs

/-! ### Summing the days of a period -/

/-- `grouped`: the rows of each period, in their order. -/
def groupRows (period : PeakPeriod) (dailyRows : List FinancialDailyAccumulator) :
    Fields String (List FinancialDailyAccumulator) :=
  run (fun grouped row =>
    upsert grouped (periodOfDay period row.day) [] fun rows => rows ++ [row]) [] dailyRows

/-- A yearly total over rows that are given with their years. -/
def yearlyTotals (kwh : FinancialDailyAccumulator → ℚ) (rows : List (ℕ × FinancialDailyAccumulator)) : Fields ℕ ℚ :=
  run (fun yearly row => upsert yearly row.1 0 fun total => total + kwh row.2) [] rows

/-- The result of a period, from its rows. -/
def rowsResult (round : ℕ → ℚ → ℚ) (config : SellPriceConfig) (yearlyExport yearlyImport : Fields ℕ ℚ)
    (rows : List FinancialDailyAccumulator) (key : String) (year : ℕ) : FinancialStatResult :=
  let exportKwh := (rows.map fun r => r.exportKwh).sum
  let energySale := (rows.map fun r => r.energySaleSek).sum
  let gridBenefit := (rows.map fun r => r.gridBenefitSek).sum
  let contractedExport := (rows.map fun r => r.contractedExportKwh).sum
  let spotPriced := (rows.map fun r => r.spotPricedKwh).sum
  let marketPriced := (rows.map fun r => r.marketPricedKwh).sum
  let pricedDenominator := (rows.map fun r => r.pricedDenominatorKwh).sum
  let exportRevenue := energySale + gridBenefit
  { periodStart := key
    solarSelfConsumedKwh := round 3 (rows.map fun r => r.solarSelfKwh).sum
    batterySelfConsumedKwh := round 3 (rows.map fun r => r.batterySelfKwh).sum
    exportedKwh := round 3 exportKwh
    importedKwh := round 3 (rows.map fun r => r.importKwh).sum
    solarSavingsSek := round 2 (rows.map fun r => r.solarSavingsSek).sum
    batterySavingsSek := round 2 (rows.map fun r => r.batterySavingsSek).sum
    exportRevenueSek := round 2 exportRevenue
    gridImportCostSek := round 2 (rows.map fun r => r.gridImportCostSek).sum
    marketPricedFraction :=
      if pricedDenominator > 0 then round 3 (marketPriced / pricedDenominator) else 0
    energySaleRevenueSek := round 2 energySale
    gridBenefitRevenueSek := round 2 gridBenefit
    taxCreditSek := periodTaxCredit round config yearlyExport yearlyImport year exportKwh
    effectiveSellPriceSekKwh :=
      if contractedExport > 0 then some (round 6 (energySale / contractedExport)) else none
    exportSpotPricedFraction :=
      round 4 (if contractedExport > 0 then spotPriced / contractedExport else 0)
    uncontractedExportedKwh := round 3 (rows.map fun r => r.uncontractedExportKwh).sum }

/-- `aggregate_daily_to_period_stats`; it fails where `int` raises. -/
def aggregateDailyToPeriodStats (round : ℕ → ℚ → ℚ) (period : PeakPeriod) (config : SellPriceConfig)
    (dailyRows : List FinancialDailyAccumulator) : Option (List FinancialStatResult) :=
  let grouped := groupRows period dailyRows
  (dailyRows.mapM fun row => (int (firstChars 4 row.day)).map fun year => (year, row)).bind
    fun yearRows =>
      let yearlyExport := yearlyTotals (fun row => row.contractedExportKwh) yearRows
      let yearlyImport := yearlyTotals (fun row => row.importKwh) yearRows
      (sortedKeys grouped).mapM fun key =>
        (int (firstChars 4 key)).map fun year =>
          rowsResult round config yearlyExport yearlyImport ((Fields.get grouped key).getD []) key
            year

end EnergyCore.Financial
