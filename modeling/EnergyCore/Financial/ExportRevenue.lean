import EnergyCore.Financial.PeriodKeys
import EnergyCore.Foundations.HalfEvenRounding

/-!
# Export revenue and tax credit

What exported energy earns: interval by interval from a sell price, and once a year as a tax credit that is
shared out by export. Results are rounded by a function `round digits value`; the source's is
`HalfEvenRounding.roundDigits`, and a `round` that changes nothing shows the values before rounding.

* `accumulateExportInterval_add` — an interval adds the same to every accumulator.
-/

namespace EnergyCore.Financial

/-! ### The sell price -/

inductive DataQuality where
  | actual
  | calculated
  | estimated
  | missing
  deriving Repr, DecidableEq

inductive PricingMode where
  | spot
  | flat
  | feedIn
  deriving Repr, DecidableEq

structure SellPriceConfig where
  pricingMode : PricingMode := .spot
  provider : String := ""
  spotPriceAdjustmentOrePerKwh : ℚ := 0
  supplierDeductionOrePerKwh : ℚ := 0
  gridBenefitOrePerKwh : ℚ := 0
  country : String := "SE"
  historicalTaxCreditEnabled : Bool := true
  fallbackFlatPriceSekKwh : ℚ := 4 / 5
  sellContractStartDate : Option CivilDate := none
  deriving Repr, DecidableEq

def oreToKr (orePerKwh : ℚ) : ℚ := orePerKwh / 100

/-- The sell price, with the qualities of the spot price and of the adjustment. -/
def effectiveSellPriceSekKwh (marketPriceSekKwh : Option ℚ) (config : SellPriceConfig) :
    ℚ × DataQuality × DataQuality :=
  let adjustmentKr := oreToKr config.spotPriceAdjustmentOrePerKwh
  let deductionKr := oreToKr config.supplierDeductionOrePerKwh
  let fallbackPrice := config.fallbackFlatPriceSekKwh + adjustmentKr - deductionKr
  match config.pricingMode, marketPriceSekKwh with
  | .flat, _ => (fallbackPrice, .calculated, .calculated)
  | _, none =>
    (fallbackPrice, if config.fallbackFlatPriceSekKwh > 0 then .estimated else .missing,
      .calculated)
  | _, some market =>
    (market + adjustmentKr - deductionKr, .actual,
      if config.spotPriceAdjustmentOrePerKwh = 0 ∧ config.supplierDeductionOrePerKwh = 0 then
        if config.provider ≠ "" then .missing else .calculated
      else .calculated)

/-! ### Intervals -/

structure ExportIntervalResult where
  exportedKwh : ℚ
  spotPriceSekKwh : Option ℚ
  effectiveSellPriceSekKwh : ℚ
  energySaleRevenueSek : ℚ
  gridBenefitRevenueSek : ℚ
  spotQuality : DataQuality
  adjustmentQuality : DataQuality
  gridBenefitQuality : DataQuality
  deriving Repr, DecidableEq

structure ExportRevenueAccumulator where
  exportedKwh : ℚ := 0
  energySaleRevenueSek : ℚ := 0
  gridBenefitRevenueSek : ℚ := 0
  spotPricedKwh : ℚ := 0
  fallbackPricedKwh : ℚ := 0
  negativePriceKwh : ℚ := 0
  deriving Repr, DecidableEq

/-- `market_price_sek_kwh is not None and config.pricing_mode in ("spot", "feed_in")`. -/
def usesMarketPrice (marketPriceSekKwh : Option ℚ) (config : SellPriceConfig) : Bool :=
  marketPriceSekKwh.isSome && decide (config.pricingMode ≠ .flat)

/-- `accumulate_export_interval`. -/
def accumulateExportInterval (exportedKwh : ℚ) (marketPriceSekKwh : Option ℚ)
    (config : SellPriceConfig) (acc : ExportRevenueAccumulator) : ExportIntervalResult × ExportRevenueAccumulator :=
  if exportedKwh ≤ 0 then
    ({ exportedKwh := 0
       spotPriceSekKwh := marketPriceSekKwh
       effectiveSellPriceSekKwh := 0
       energySaleRevenueSek := 0
       gridBenefitRevenueSek := 0
       spotQuality := .missing
       adjustmentQuality := .missing
       gridBenefitQuality := .missing }, acc)
  else
    let sell := effectiveSellPriceSekKwh marketPriceSekKwh config
    let energySale := exportedKwh * sell.1
    let gridBenefit := exportedKwh * oreToKr config.gridBenefitOrePerKwh
    ({ exportedKwh := exportedKwh
       spotPriceSekKwh := marketPriceSekKwh
       effectiveSellPriceSekKwh := sell.1
       energySaleRevenueSek := energySale
       gridBenefitRevenueSek := gridBenefit
       spotQuality := sell.2.1
       adjustmentQuality := sell.2.2
       gridBenefitQuality := if config.gridBenefitOrePerKwh > 0 then .calculated else .missing },
     { exportedKwh := acc.exportedKwh + exportedKwh
       energySaleRevenueSek := acc.energySaleRevenueSek + energySale
       gridBenefitRevenueSek := acc.gridBenefitRevenueSek + gridBenefit
       spotPricedKwh :=
        if usesMarketPrice marketPriceSekKwh config then acc.spotPricedKwh + exportedKwh
        else acc.spotPricedKwh
       fallbackPricedKwh :=
        if usesMarketPrice marketPriceSekKwh config then acc.fallbackPricedKwh
        else acc.fallbackPricedKwh + exportedKwh
       negativePriceKwh :=
        if usesMarketPrice marketPriceSekKwh config ∧ sell.1 < 0 then
          acc.negativePriceKwh + exportedKwh
        else acc.negativePriceKwh })

/-- **An interval adds the same to every accumulator.** -/
theorem accumulateExportInterval_add (exportedKwh : ℚ) (marketPriceSekKwh : Option ℚ)
    (config : SellPriceConfig) (acc share : ExportRevenueAccumulator)
    (hshare : (accumulateExportInterval exportedKwh marketPriceSekKwh config {}).2 = share) :
    (accumulateExportInterval exportedKwh marketPriceSekKwh config acc).2
      = { exportedKwh := acc.exportedKwh + share.exportedKwh
          energySaleRevenueSek := acc.energySaleRevenueSek + share.energySaleRevenueSek
          gridBenefitRevenueSek := acc.gridBenefitRevenueSek + share.gridBenefitRevenueSek
          spotPricedKwh := acc.spotPricedKwh + share.spotPricedKwh
          fallbackPricedKwh := acc.fallbackPricedKwh + share.fallbackPricedKwh
          negativePriceKwh := acc.negativePriceKwh + share.negativePriceKwh } := by
  subst hshare
  unfold accumulateExportInterval
  by_cases hnone : exportedKwh ≤ 0
  · simp only [if_pos hnone, add_zero]
  · simp only [if_neg hnone, zero_add]
    split_ifs <;> simp only [add_zero]

/-- An interval adds what it exported. -/
theorem accumulateExportInterval_exportedKwh {exportedKwh : ℚ} (h : 0 ≤ exportedKwh)
    (marketPriceSekKwh : Option ℚ) (config : SellPriceConfig) :
    (accumulateExportInterval exportedKwh marketPriceSekKwh config {}).2.exportedKwh = exportedKwh := by
  unfold accumulateExportInterval
  by_cases hnone : exportedKwh ≤ 0
  · rw [if_pos hnone]
    exact (le_antisymm hnone h).symm
  · rw [if_neg hnone]
    exact zero_add exportedKwh

/-! ### Totals -/

structure ExportRevenueTotals where
  exportedKwh : ℚ
  energySaleRevenueSek : ℚ
  gridBenefitRevenueSek : ℚ
  exportRevenueSek : ℚ
  effectiveSellPriceSekKwh : Option ℚ
  spotPricedFraction : ℚ
  spotQuality : DataQuality
  adjustmentQuality : DataQuality
  gridBenefitQuality : DataQuality
  deriving Repr, DecidableEq

section

variable (round : ℕ → ℚ → ℚ)

/-- `finalize_export_totals`, with the default qualities. -/
def finalizeExportTotals (acc : ExportRevenueAccumulator) : ExportRevenueTotals where
  exportedKwh := round 6 acc.exportedKwh
  energySaleRevenueSek := round 4 acc.energySaleRevenueSek
  gridBenefitRevenueSek := round 4 acc.gridBenefitRevenueSek
  exportRevenueSek := round 4 (acc.energySaleRevenueSek + acc.gridBenefitRevenueSek)
  effectiveSellPriceSekKwh :=
    if acc.exportedKwh > 0 then some (round 6 (acc.energySaleRevenueSek / acc.exportedKwh))
    else none
  spotPricedFraction :=
    round 4 (if acc.exportedKwh > 0 then acc.spotPricedKwh / acc.exportedKwh else 0)
  spotQuality :=
    if acc.spotPricedKwh > 0 then .actual
    else if acc.fallbackPricedKwh > 0 then .estimated else .missing
  adjustmentQuality := .missing
  gridBenefitQuality := .missing

/-! ### Tax credit -/

def taxCreditRateSekKwh : ℚ := 3 / 5

def taxCreditYearLimitKwh : ℚ := 30000

def taxCreditEndDate : CivilDate := { year := 2025, month := 12, day := 31 }

/-- `country.upper() == "SE"`: the letters whose upper case is `S` are `s`, `S` and the long `ſ`. -/
def isSweden (country : String) : Bool :=
  match country.toList with
  | [s, e] => decide (s = 'S' ∨ s = 's' ∨ s = 'ſ') && decide (e = 'E' ∨ e = 'e')
  | _ => false

def computeYearlyTaxCreditKwh (year : ℕ) (yearlyExportKwh yearlyImportKwh : ℚ) (country : String)
    (enabled : Bool) : ℚ :=
  if ¬ enabled ∨ ¬ isSweden country ∨ year > taxCreditEndDate.year then 0
  else if yearlyExportKwh ≤ 0 then 0
  else min (min yearlyExportKwh yearlyImportKwh) taxCreditYearLimitKwh

def computeYearlyTaxCreditSek (year : ℕ) (yearlyExportKwh yearlyImportKwh : ℚ) (country : String)
    (enabled : Bool) : ℚ :=
  round 2 (computeYearlyTaxCreditKwh year yearlyExportKwh yearlyImportKwh country enabled
    * taxCreditRateSekKwh)

/-- A period's part of the yearly credit, by its part of the export. -/
def allocateYearlyTaxCredit (periodExportKwh yearlyExportKwh yearlyTaxCreditSek : ℚ) : ℚ :=
  if yearlyTaxCreditSek ≤ 0 ∨ yearlyExportKwh ≤ 0 ∨ periodExportKwh ≤ 0 then 0
  else round 2 (yearlyTaxCreditSek * (periodExportKwh / yearlyExportKwh))

end

end EnergyCore.Financial
