import EnergyCore.Financial.FinancialStats

/-!
# What an interval adds to the statistics

Both ways to the statistics add, for every interval, the same quantities to the period that it lies in.

* `shares_statsStep`, `shares_addDaily` — one turn of either loop adds the shares of its interval;
* `statsResult_eq`, `rowsResult_eq` — the result of a period depends on the sums of the shares only.
-/

namespace EnergyCore.Financial

open KeywordFields KeyedTotals StepRun

/-- The quantities that are summed over the intervals of a period. -/
inductive ShareField where
  | solarKwh
  | batteryKwh
  | exportKwh
  | importKwh
  | solarSavings
  | batterySavings
  | gridImportCost
  | pricedDenominator
  | marketPriced
  | energySale
  | gridBenefit
  | spotPriced
  | fallbackPriced
  | negativePrice
  | contracted
  | uncontracted
  deriving Repr, DecidableEq

abbrev Shares := ShareField → ℚ

namespace FinancialInputs

variable (inputs : FinancialInputs)

/-- What an interval earns while it is under contract. -/
def exportShare (i : EnergyInterval) : ExportRevenueAccumulator :=
  if inputs.underContract i then inputs.accumulateExport i {} else {}

/-- What an interval adds to its period. -/
def share (i : EnergyInterval) : Shares
  | .solarKwh => i.solarKwh
  | .batteryKwh => i.batteryKwh
  | .exportKwh => i.exportKwh
  | .importKwh => i.importKwh
  | .solarSavings => i.solarKwh * inputs.purchasePrice i
  | .batterySavings => i.batteryKwh * inputs.purchasePrice i
  | .gridImportCost => i.importKwh * inputs.purchasePrice i
  | .pricedDenominator => usedKwh i
  | .marketPriced => inputs.marketPricedKwh i
  | .energySale => (inputs.exportShare i).energySaleRevenueSek
  | .gridBenefit => (inputs.exportShare i).gridBenefitRevenueSek
  | .spotPriced => (inputs.exportShare i).spotPricedKwh
  | .fallbackPriced => (inputs.exportShare i).fallbackPricedKwh
  | .negativePrice => (inputs.exportShare i).negativePriceKwh
  | .contracted => (inputs.exportShare i).exportedKwh
  | .uncontracted => if inputs.underContract i then 0 else i.exportKwh

end FinancialInputs

/-- The sums that the dictionaries of the loop hold for a period. -/
def StatsLoop.shares (s : StatsLoop) (key : String) : Shares :=
  let values := (Fields.get s.totals key).getD {}
  let exportAcc := (Fields.get s.exportAcc key).getD {}
  fun
  | .solarKwh => values.solarKwh
  | .batteryKwh => values.batteryKwh
  | .exportKwh => values.exportKwh
  | .importKwh => values.importKwh
  | .solarSavings => values.solarSavingsSek
  | .batterySavings => values.batterySavingsSek
  | .gridImportCost => values.gridImportCostSek
  | .pricedDenominator => values.pricedDenominatorKwh
  | .marketPriced => values.marketPricedKwh
  | .energySale => exportAcc.energySaleRevenueSek
  | .gridBenefit => exportAcc.gridBenefitRevenueSek
  | .spotPriced => exportAcc.spotPricedKwh
  | .fallbackPriced => exportAcc.fallbackPricedKwh
  | .negativePrice => exportAcc.negativePriceKwh
  | .contracted => exportAcc.exportedKwh
  | .uncontracted => (Fields.get s.preContractExport key).getD 0

/-- The sums that a day holds. -/
def FinancialDailyAccumulator.shares (acc : FinancialDailyAccumulator) : Shares
  | .solarKwh => acc.solarSelfKwh
  | .batteryKwh => acc.batterySelfKwh
  | .exportKwh => acc.exportKwh
  | .importKwh => acc.importKwh
  | .solarSavings => acc.solarSavingsSek
  | .batterySavings => acc.batterySavingsSek
  | .gridImportCost => acc.gridImportCostSek
  | .pricedDenominator => acc.pricedDenominatorKwh
  | .marketPriced => acc.marketPricedKwh
  | .energySale => acc.energySaleSek
  | .gridBenefit => acc.gridBenefitSek
  | .spotPriced => acc.spotPricedKwh
  | .fallbackPriced => acc.fallbackPricedKwh
  | .negativePrice => acc.negativePriceKwh
  | .contracted => acc.contractedExportKwh
  | .uncontracted => acc.uncontractedExportKwh

namespace FinancialInputs

variable (inputs : FinancialInputs)

/-! ### Exports -/

/-- An interval adds its export share to every accumulator. -/
theorem accumulateExport_add (i : EnergyInterval) (acc : ExportRevenueAccumulator)
    (h : inputs.underContract i = true) :
    inputs.accumulateExport i acc
      = { exportedKwh := acc.exportedKwh + (inputs.exportShare i).exportedKwh
          energySaleRevenueSek :=
            acc.energySaleRevenueSek + (inputs.exportShare i).energySaleRevenueSek
          gridBenefitRevenueSek :=
            acc.gridBenefitRevenueSek + (inputs.exportShare i).gridBenefitRevenueSek
          spotPricedKwh := acc.spotPricedKwh + (inputs.exportShare i).spotPricedKwh
          fallbackPricedKwh := acc.fallbackPricedKwh + (inputs.exportShare i).fallbackPricedKwh
          negativePriceKwh := acc.negativePriceKwh + (inputs.exportShare i).negativePriceKwh } := by
  rw [exportShare, if_pos h]
  exact accumulateExportInterval_add _ _ _ acc _ rfl

/-- Without an export nothing is earned. -/
theorem accumulateExport_of_nonpos {i : EnergyInterval} (h : i.exportKwh ≤ 0)
    (acc : ExportRevenueAccumulator) : inputs.accumulateExport i acc = acc := by
  rw [accumulateExport, accumulateExportInterval, if_pos h]

/-- What is under contract is the export. -/
theorem exportShare_exportedKwh (i : EnergyInterval) :
    (inputs.exportShare i).exportedKwh = if inputs.underContract i then i.exportKwh else 0 := by
  rw [exportShare]
  split_ifs
  · exact accumulateExportInterval_exportedKwh i.export_nonneg _ _
  · rfl

/-! ### One turn of the loop over the readings -/

section

variable (period : PeakPeriod) (s : StatsLoop) (i : EnergyInterval)

theorem totals_statsStep : (inputs.statsStep period s i).totals
    = upsert s.totals (periodKey period (inputs.date i)) {} (inputs.addTotals i) := by
  simp only [statsStep]
  split_ifs <;> rfl

theorem yearlyImport_statsStep : (inputs.statsStep period s i).yearlyImport
    = upsert s.yearlyImport (inputs.date i).year 0 fun kwh => kwh + i.importKwh := by
  simp only [statsStep]
  split_ifs <;> rfl

theorem yearlyExport_statsStep : (inputs.statsStep period s i).yearlyExport = if inputs.underContract i then
        upsert s.yearlyExport (inputs.date i).year 0 fun kwh => kwh + i.exportKwh else s.yearlyExport := by
  simp only [statsStep]
  split_ifs <;> rfl

theorem exportAcc_statsStep : (inputs.statsStep period s i).exportAcc = if inputs.underContract i then
        upsert s.exportAcc (periodKey period (inputs.date i)) {} (inputs.accumulateExport i) else s.exportAcc := by
  simp only [statsStep]
  split_ifs <;> rfl

theorem preContractExport_statsStep : (inputs.statsStep period s i).preContractExport
    = if inputs.underContract i then s.preContractExport else if i.exportKwh > 0 then
        upsert s.preContractExport (periodKey period (inputs.date i)) 0 fun kwh =>
          kwh + i.exportKwh
      else s.preContractExport := by
  simp only [statsStep]
  split_ifs <;> rfl

/-- A year's import grows by the import of its intervals. -/
theorem getD_yearlyImport_statsStep (year : ℕ) :
    (Fields.get (inputs.statsStep period s i).yearlyImport year).getD 0 = (Fields.get s.yearlyImport year).getD 0
        + if (inputs.date i).year = year then inputs.share i .importKwh else 0 := by
  rw [yearlyImport_statsStep, getD_upsert]
  split_ifs
  · rfl
  · rw [add_zero]

/-- A year's export grows by what its intervals export under contract. -/
theorem getD_yearlyExport_statsStep (year : ℕ) :
    (Fields.get (inputs.statsStep period s i).yearlyExport year).getD 0 = (Fields.get s.yearlyExport year).getD 0
        + if (inputs.date i).year = year then inputs.share i .contracted else 0 := by
  rw [yearlyExport_statsStep, share, exportShare_exportedKwh]
  by_cases hcontract : inputs.underContract i = true
  · rw [if_pos hcontract, if_pos hcontract, getD_upsert]
    split_ifs
    · rfl
    · rw [add_zero]
  · rw [if_neg hcontract, if_neg hcontract, ite_self, add_zero]

/-- The export accumulator of a period grows by the export share. -/
theorem getD_exportAcc_statsStep (key : String) : (Fields.get (inputs.statsStep period s i).exportAcc key).getD {}
      = if periodKey period (inputs.date i) = key ∧ inputs.underContract i then
          inputs.accumulateExport i ((Fields.get s.exportAcc key).getD {})
        else (Fields.get s.exportAcc key).getD {} := by
  rw [exportAcc_statsStep]
  by_cases hcontract : inputs.underContract i = true
  · simp only [hcontract, if_true, and_true, getD_upsert]
  · simp only [hcontract, and_false, if_false, Bool.false_eq_true]

theorem getD_preContractExport_statsStep (key : String) :
    (Fields.get (inputs.statsStep period s i).preContractExport key).getD 0
      = (Fields.get s.preContractExport key).getD 0
        + if periodKey period (inputs.date i) = key then inputs.share i .uncontracted else 0 := by
  rw [preContractExport_statsStep, share]
  by_cases hcontract : inputs.underContract i = true
  · rw [if_pos hcontract, if_pos hcontract, ite_self, add_zero]
  · rw [if_neg hcontract, if_neg hcontract]
    by_cases hexport : i.exportKwh > 0
    · rw [if_pos hexport, getD_upsert]
      split_ifs
      · rfl
      · rw [add_zero]
    · have hzero : i.exportKwh = 0 := le_antisymm (not_lt.mp hexport) i.export_nonneg
      rw [if_neg hexport, hzero, ite_self, add_zero]

/-- **One turn of the loop over the readings** adds the interval's shares to its period. -/
theorem shares_statsStep (key : String) : (inputs.statsStep period s i).shares key
      = s.shares key + if periodKey period (inputs.date i) = key then inputs.share i else 0 := by
  have htotals : (Fields.get (inputs.statsStep period s i).totals key).getD {}
      = if periodKey period (inputs.date i) = key then
          inputs.addTotals i ((Fields.get s.totals key).getD {})
        else (Fields.get s.totals key).getD {} := by
    rw [totals_statsStep, getD_upsert]
  unfold StatsLoop.shares
  rw [htotals, getD_exportAcc_statsStep, getD_preContractExport_statsStep]
  by_cases hkey : periodKey period (inputs.date i) = key
  · simp only [hkey, if_true, true_and]
    by_cases hcontract : inputs.underContract i = true
    · rw [if_pos hcontract, accumulateExport_add _ _ _ hcontract]
      funext f
      cases f <;> simp only [Pi.add_apply, share, addTotals, marketPricedKwh]
      split_ifs
      · rfl
      · rw [add_zero]
    · have hnone : inputs.exportShare i = {} := if_neg hcontract
      rw [if_neg hcontract]
      funext f
      cases f <;> simp only [Pi.add_apply, share, addTotals, marketPricedKwh, hnone, add_zero]
      split_ifs
      · rfl
      · rw [add_zero]
  · simp only [hkey, false_and, if_false, add_zero]

end

/-! ### One turn of the loop over the days -/

theorem addDailyExport_eq (i : EnergyInterval) (acc : FinancialDailyAccumulator) :
    inputs.addDailyExport i acc
      = if inputs.underContract i then
          { acc with
            energySaleSek := acc.energySaleSek + (inputs.exportShare i).energySaleRevenueSek
            gridBenefitSek := acc.gridBenefitSek + (inputs.exportShare i).gridBenefitRevenueSek
            spotPricedKwh := acc.spotPricedKwh + (inputs.exportShare i).spotPricedKwh
            fallbackPricedKwh := acc.fallbackPricedKwh + (inputs.exportShare i).fallbackPricedKwh
            negativePriceKwh := acc.negativePriceKwh + (inputs.exportShare i).negativePriceKwh
            contractedExportKwh := acc.contractedExportKwh + (inputs.exportShare i).exportedKwh }
        else { acc with uncontractedExportKwh := acc.uncontractedExportKwh + i.exportKwh } := by
  unfold addDailyExport
  by_cases hexport : i.exportKwh > 0
  · by_cases hcontract : inputs.underContract i = true
    · rw [if_pos ⟨hcontract, hexport⟩, if_pos hcontract]
      simp only [accumulateExport_add _ _ _ hcontract, exportAccOf]
    · rw [if_neg (fun hand => hcontract hand.1), if_pos hexport, if_neg hcontract]
  · have hzero : i.exportKwh = 0 := le_antisymm (not_lt.mp hexport) i.export_nonneg
    rw [if_neg (fun hand => hexport hand.2), if_neg hexport]
    split_ifs with hcontract
    · have hnone : inputs.exportShare i = {} :=
        (if_pos hcontract).trans (inputs.accumulateExport_of_nonpos (not_lt.mp hexport) {})
      simp only [hnone, add_zero]
    · simp only [hzero, add_zero]

/-- **One turn of the loop over the days** adds the interval's shares to its day. -/
theorem shares_addDaily (i : EnergyInterval) (acc : FinancialDailyAccumulator) :
    (inputs.addDailyExport i (inputs.addDailyEnergy i acc)).shares = acc.shares + inputs.share i := by
  have hused : ∀ kwh, kwh + i.solarKwh + i.batteryKwh + i.importKwh = kwh + usedKwh i := by
    intro kwh
    rw [usedKwh]
    ring
  rw [addDailyExport_eq]
  funext f
  by_cases hcontract : inputs.underContract i = true
  · rw [if_pos hcontract]
    cases f <;> simp only [FinancialDailyAccumulator.shares, addDailyEnergy, Pi.add_apply, share,
      hused, if_pos hcontract, add_zero]
  · have hnone : inputs.exportShare i = {} := if_neg hcontract
    rw [if_neg hcontract]
    cases f <;> simp only [FinancialDailyAccumulator.shares, addDailyEnergy, Pi.add_apply, share,
      hused, hnone, if_neg hcontract, add_zero]

end FinancialInputs

/-! ### Results -/

section

variable (round : ℕ → ℚ → ℚ) (config : SellPriceConfig)

/-- The tax credit of a period, from the sums of its year. -/
def taxCreditOf (year : ℕ) (yearlyExportKwh yearlyImportKwh periodExportKwh : ℚ) : ℚ :=
  allocateYearlyTaxCredit round periodExportKwh yearlyExportKwh
    (computeYearlyTaxCreditSek round year yearlyExportKwh yearlyImportKwh config.country
      config.historicalTaxCreditEnabled)

/-- The result of a period, from the sums of its intervals; `roundSek` rounds what exports earned. -/
def periodResult (roundSek : ℚ → ℚ) (key : String) (t : Shares) (taxCreditSek : ℚ) : FinancialStatResult where
  periodStart := key
  solarSelfConsumedKwh := round 3 (t .solarKwh)
  batterySelfConsumedKwh := round 3 (t .batteryKwh)
  exportedKwh := round 3 (t .exportKwh)
  importedKwh := round 3 (t .importKwh)
  solarSavingsSek := round 2 (t .solarSavings)
  batterySavingsSek := round 2 (t .batterySavings)
  exportRevenueSek := roundSek (t .energySale + t .gridBenefit)
  gridImportCostSek := round 2 (t .gridImportCost)
  marketPricedFraction :=
    if t .pricedDenominator > 0 then round 3 (t .marketPriced / t .pricedDenominator) else 0
  energySaleRevenueSek := roundSek (t .energySale)
  gridBenefitRevenueSek := roundSek (t .gridBenefit)
  taxCreditSek := taxCreditSek
  effectiveSellPriceSekKwh :=
    if t .contracted > 0 then some (round 6 (t .energySale / t .contracted)) else none
  exportSpotPricedFraction :=
    round 4 (if t .contracted > 0 then t .spotPriced / t .contracted else 0)
  uncontractedExportedKwh := round 3 (t .uncontracted)

/-- A year without an entry has no credit, which is the credit of no export. -/
theorem periodTaxCredit_eq (yearlyExport yearlyImport : Fields ℕ ℚ) (year : ℕ) (periodExportKwh : ℚ) :
    periodTaxCredit round config yearlyExport yearlyImport year periodExportKwh
      = taxCreditOf round config year ((Fields.get yearlyExport year).getD 0)
        ((Fields.get yearlyImport year).getD 0) periodExportKwh := by
  unfold periodTaxCredit taxCreditOf yearlyTaxCredits
  rw [Fields.get_map_entries fun y kwh => computeYearlyTaxCreditSek round y kwh
    ((Fields.get yearlyImport y).getD 0) config.country config.historicalTaxCreditEnabled]
  cases Fields.get yearlyExport year with
  | some kwh => rfl
  | none =>
    have hzero : ∀ credit : ℚ, credit ≤ 0 ∨ (0 : ℚ) ≤ 0 ∨ periodExportKwh ≤ 0 := fun _ => .inr (.inl le_rfl)
    show allocateYearlyTaxCredit round periodExportKwh 0 0 = allocateYearlyTaxCredit round periodExportKwh 0 _
    rw [allocateYearlyTaxCredit, allocateYearlyTaxCredit, if_pos (hzero _), if_pos (hzero _)]

/-- **The result of the loop over the readings**, which rounds what exports earned twice. -/
theorem statsResult_eq (inputs : FinancialInputs) (s : StatsLoop) (key : String) (year : ℕ) :
    inputs.statsResult round s key year = periodResult round (fun sek => round 2 (round 4 sek)) key (s.shares key)
        (taxCreditOf round inputs.config year ((Fields.get s.yearlyExport year).getD 0)
          ((Fields.get s.yearlyImport year).getD 0) (s.shares key .exportKwh)) := by
  simp only [FinancialInputs.statsResult, periodTaxCredit_eq]
  rfl

/-- **The result of the rows of a period.** -/
theorem rowsResult_eq (yearlyExport yearlyImport : Fields ℕ ℚ)
    (rows : List FinancialDailyAccumulator) (key : String) (year : ℕ) {t : Shares}
    (ht : (rows.map fun r => r.shares).sum = t) : rowsResult round config yearlyExport yearlyImport rows key year
      = periodResult round (round 2) key t (taxCreditOf round config year ((Fields.get yearlyExport year).getD 0)
          ((Fields.get yearlyImport year).getD 0) (t .exportKwh)) := by
  have hfield : ∀ f, t f = (rows.map fun r => r.shares f).sum := by
    intro f
    rw [← ht, Pi.list_sum_apply, List.map_map]
    rfl
  simp only [rowsResult, periodTaxCredit_eq, periodResult, hfield]
  rfl

end

end EnergyCore.Financial
