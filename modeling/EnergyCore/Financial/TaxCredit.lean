import EnergyCore.Financial.SiteDates
import EnergyCore.Financial.StatsAgree

/-!
# The yearly tax credit

A year's tax credit is given to its periods by their part of the year's export. Nothing is rounded here.

* `sum_allocate` — the parts of a credit add up to the credit times the part of the exports that counts;
* `taxCredit_allocatedOnce_iff` — the credit of a year is allocated exactly once, if the export that is
  shared by is the export that earned it: nothing was exported before the contract in that year.
-/

namespace EnergyCore.Financial

open KeywordFields KeyedTotals StepRun

/-- A `round` that changes nothing. -/
def unrounded : ℕ → ℚ → ℚ := fun _ x => x

/-! ### The credit and its parts -/

/-- The yearly credit of a configuration. -/
def yearlyCredit (config : SellPriceConfig) (year : ℕ) (exportKwh importKwh : ℚ) : ℚ :=
  computeYearlyTaxCreditSek unrounded year exportKwh importKwh config.country
    config.historicalTaxCreditEnabled

/-- A year in which an export can earn a credit. -/
def Eligible (config : SellPriceConfig) (year : ℕ) (exportKwh : ℚ) : Prop :=
  config.historicalTaxCreditEnabled = true ∧ isSweden config.country = true ∧
    year ≤ taxCreditEndDate.year ∧ 0 < exportKwh

instance (config : SellPriceConfig) (year : ℕ) (exportKwh : ℚ) : Decidable (Eligible config year exportKwh) := by
  unfold Eligible; infer_instance

section

variable {config : SellPriceConfig} {year : ℕ} {exportKwh importKwh : ℚ}

theorem yearlyCredit_of_eligible (h : Eligible config year exportKwh) : yearlyCredit config year exportKwh importKwh
      = min (min exportKwh importKwh) taxCreditYearLimitKwh * taxCreditRateSekKwh := by
  obtain ⟨henabled, hsweden, hyear, hexport⟩ := h
  simp [yearlyCredit, computeYearlyTaxCreditSek, computeYearlyTaxCreditKwh, unrounded, henabled, hsweden,
    not_lt.mpr hyear, not_le.mpr hexport]

theorem yearlyCredit_of_not (h : ¬ Eligible config year exportKwh) :
    yearlyCredit config year exportKwh importKwh = 0 := by
  unfold yearlyCredit computeYearlyTaxCreditSek computeYearlyTaxCreditKwh unrounded
  split_ifs with hoff hnone
  · exact zero_mul _
  · exact zero_mul _
  · rw [not_or, not_or, not_not, not_not, not_lt] at hoff
    exact absurd ⟨hoff.1, hoff.2.1, hoff.2.2, not_le.mp hnone⟩ h

theorem yearlyCredit_pos_iff :
    0 < yearlyCredit config year exportKwh importKwh ↔ Eligible config year exportKwh ∧ 0 < importKwh := by
  by_cases h : Eligible config year exportKwh
  · have hrate : (0 : ℚ) < taxCreditRateSekKwh := by norm_num [taxCreditRateSekKwh]
    have hlimit : (0 : ℚ) < taxCreditYearLimitKwh := by norm_num [taxCreditYearLimitKwh]
    rw [yearlyCredit_of_eligible h, mul_pos_iff_of_pos_right hrate, lt_min_iff, lt_min_iff]
    exact ⟨fun hpos => ⟨h, hpos.1.2⟩, fun hpos => ⟨⟨h.2.2.2, hpos.2⟩, hlimit⟩⟩
  · rw [yearlyCredit_of_not h]
    exact iff_of_false (lt_irrefl 0) fun hpos => h hpos.1

theorem yearlyCredit_nonneg_iff :
    0 ≤ yearlyCredit config year exportKwh importKwh ↔ (Eligible config year exportKwh → 0 ≤ importKwh) := by
  by_cases h : Eligible config year exportKwh
  · have hrate : (0 : ℚ) < taxCreditRateSekKwh := by norm_num [taxCreditRateSekKwh]
    have hlimit : (0 : ℚ) ≤ taxCreditYearLimitKwh := by norm_num [taxCreditYearLimitKwh]
    rw [yearlyCredit_of_eligible h, mul_nonneg_iff_of_pos_right hrate, le_min_iff, le_min_iff]
    exact ⟨fun hle _ => hle.1.2, fun hle => ⟨⟨h.2.2.2.le, hle h⟩, hlimit⟩⟩
  · rw [yearlyCredit_of_not h]
    exact iff_of_true le_rfl fun hpos => absurd hpos h

end

theorem allocate_eq (x exportKwh credit : ℚ) : allocateYearlyTaxCredit unrounded x exportKwh credit
      = if 0 < credit ∧ 0 < exportKwh then credit * (max 0 x / exportKwh) else 0 := by
  unfold allocateYearlyTaxCredit unrounded
  by_cases hnone : credit ≤ 0 ∨ exportKwh ≤ 0 ∨ x ≤ 0
  · rw [if_pos hnone]
    by_cases h : 0 < credit ∧ 0 < exportKwh
    · have hx : x ≤ 0 := (hnone.resolve_left (not_le.mpr h.1)).resolve_left (not_le.mpr h.2)
      rw [if_pos h, max_eq_left hx, zero_div, mul_zero]
    · rw [if_neg h]
  · rw [if_neg hnone]
    rw [not_or, not_or, not_le, not_le, not_le] at hnone
    rw [if_pos ⟨hnone.1, hnone.2.1⟩, max_eq_right hnone.2.2.le]

theorem allocate_nonneg (x exportKwh credit : ℚ) : 0 ≤ allocateYearlyTaxCredit unrounded x exportKwh credit := by
  rw [allocate_eq]
  split_ifs with h
  · exact mul_nonneg h.1.le (div_nonneg (le_max_left 0 x) h.2.le)
  · exact le_rfl

/-- **The parts of a credit** add up to the credit, times the part of the yearly export that the positive
exports of the periods make. -/
theorem sum_allocate {κ : Type*} (keys : List κ) (x : κ → ℚ) (exportKwh credit : ℚ) :
    (keys.map fun k => allocateYearlyTaxCredit unrounded (x k) exportKwh credit).sum
      = if 0 < credit ∧ 0 < exportKwh then credit * ((keys.map fun k => max 0 (x k)).sum / exportKwh) else 0 := by
  simp only [allocate_eq]
  split_ifs with h
  · induction keys with
    | nil => simp
    | cons k keys ih =>
      rw [List.map_cons, List.sum_cons, ih, List.map_cons, List.sum_cons]
      ring
  · induction keys with
    | nil => rfl
    | cons k keys ih => rw [List.map_cons, List.sum_cons, ih, add_zero]

/-- The parts add up to the credit exactly if it is not negative, and the positive exports of the periods are
the yearly export where it is positive. -/
theorem sum_allocate_eq_iff {κ : Type*} {config : SellPriceConfig} {year : ℕ} {exportKwh importKwh : ℚ}
    (keys : List κ) (x : κ → ℚ) : (keys.map fun k => allocateYearlyTaxCredit unrounded (x k) exportKwh
        (yearlyCredit config year exportKwh importKwh)).sum = yearlyCredit config year exportKwh importKwh ↔
      (Eligible config year exportKwh →
        0 ≤ importKwh ∧ (0 < importKwh → (keys.map fun k => max 0 (x k)).sum = exportKwh)) := by
  rw [sum_allocate]
  by_cases heligible : Eligible config year exportKwh
  · have hexport : 0 < exportKwh := heligible.2.2.2
    by_cases himport : 0 < importKwh
    · have hcredit := yearlyCredit_pos_iff.mpr ⟨heligible, himport⟩
      rw [if_pos ⟨hcredit, hexport⟩]
      have hpart : ∀ total credit : ℚ, 0 < credit → (credit * (total / exportKwh) = credit ↔ total = exportKwh) := by
        intro total credit hpos
        rw [mul_eq_left₀ hpos.ne', div_eq_one_iff_eq hexport.ne']
      rw [hpart _ _ hcredit]
      exact ⟨fun h _ => ⟨himport.le, fun _ => h⟩, fun h => (h heligible).2 himport⟩
    · have hcredit : ¬ 0 < yearlyCredit config year exportKwh importKwh :=
        fun h => himport (yearlyCredit_pos_iff.mp h).2
      rw [if_neg fun h => hcredit h.1]
      constructor
      · intro hzero _
        exact ⟨yearlyCredit_nonneg_iff.mp (le_of_eq hzero) heligible, fun h => absurd h himport⟩
      · intro h
        exact le_antisymm (yearlyCredit_nonneg_iff.mpr fun _ => (h heligible).1) (not_lt.mp hcredit)
  · rw [yearlyCredit_of_not heligible, if_neg fun h => lt_irrefl 0 h.1]
    exact iff_of_true rfl fun h => absurd h heligible

/-! ### Results -/

/-- The results of a year's periods share the credit among them, and none is negative. -/
def AllocatedOnce (stats : List FinancialStatResult) (year : ℕ) (credit : ℚ) : Prop :=
  ((stats.filter fun r => decide (yearOf r.periodStart = year)).map fun r => r.taxCreditSek).sum = credit ∧
    ∀ r ∈ stats, 0 ≤ r.taxCreditSek

/-- Results that share the credits of their years by their exports. -/
theorem allocatedOnce_map_iff (config : SellPriceConfig) {keys : List String} {result : String → FinancialStatResult}
    (exportKwh importKwh : ℕ → ℚ) (x : String → ℚ) (hstart : ∀ k, (result k).periodStart = k)
    (htax : ∀ k, (result k).taxCreditSek
      = taxCreditOf unrounded config (yearOf k) (exportKwh (yearOf k)) (importKwh (yearOf k)) (x k)) (year : ℕ) :
    AllocatedOnce (keys.map result) year (yearlyCredit config year (exportKwh year) (importKwh year)) ↔
      (Eligible config year (exportKwh year) → 0 ≤ importKwh year ∧ (0 < importKwh year →
        ((keys.filter fun k => decide (yearOf k = year)).map fun k => max 0 (x k)).sum = exportKwh year)) := by
  have hsum : (((keys.map result).filter fun r => decide (yearOf r.periodStart = year)).map
        fun r => r.taxCreditSek).sum
      = ((keys.filter fun k => decide (yearOf k = year)).map fun k =>
          allocateYearlyTaxCredit unrounded (x k) (exportKwh year)
            (yearlyCredit config year (exportKwh year) (importKwh year))).sum := by
    rw [List.filter_map, List.map_map]
    have hkeys : keys.filter ((fun r : FinancialStatResult => decide (yearOf r.periodStart = year)) ∘ result)
        = keys.filter fun k => decide (yearOf k = year) :=
      List.filter_congr fun k _ => by rw [Function.comp_apply, hstart]
    rw [hkeys]
    refine congrArg List.sum (List.map_congr_left fun k hk => ?_)
    have hyear : yearOf k = year := of_decide_eq_true (List.mem_filter.mp hk).2
    rw [Function.comp_apply, htax, hyear]
    rfl
  rw [AllocatedOnce, hsum, sum_allocate_eq_iff]
  refine and_iff_left fun r hr => ?_
  obtain ⟨k, -, rfl⟩ := List.mem_map.mp hr
  rw [htax]
  exact allocate_nonneg _ _ _

/-! ### Readings -/

namespace FinancialInputs

variable (inputs : FinancialInputs) (period : PeakPeriod) (intervals : List EnergyInterval)

theorem share_exportKwh (i : EnergyInterval) :
    inputs.share i .exportKwh = inputs.share i .contracted + inputs.share i .uncontracted := by
  simp only [share, exportShare_exportedKwh]
  split_ifs
  · rw [add_zero]
  · rw [zero_add]

theorem totalAt_nonneg {κ : Type*} [DecidableEq κ] {key : EnergyInterval → κ} {worth : EnergyInterval → ℚ}
    (h : ∀ i, 0 ≤ worth i) (k : κ) : 0 ≤ totalAt key worth intervals k := by
  refine List.sum_nonneg fun x hx => ?_
  obtain ⟨i, -, rfl⟩ := List.mem_map.mp hx
  exact h i

/-- What a year exports is under contract, or was exported before the contract. -/
theorem yearShares_exportKwh (year : ℕ) : inputs.yearShares intervals year .exportKwh
      = inputs.yearShares intervals year .contracted + inputs.yearShares intervals year .uncontracted := by
  rw [yearShares_apply, yearShares_apply, yearShares_apply]
  unfold totalAt
  rw [← List.sum_map_add]
  refine congrArg List.sum (List.map_congr_left fun i _ => inputs.share_exportKwh i)

theorem yearShares_importKwh_nonneg (himport : ∀ i ∈ intervals, 0 ≤ i.importKwh) (year : ℕ) :
    0 ≤ inputs.yearShares intervals year .importKwh := by
  rw [yearShares_apply]
  refine List.sum_nonneg fun x hx => ?_
  obtain ⟨i, hi, rfl⟩ := List.mem_map.mp hx
  exact himport i (List.mem_of_mem_filter hi)

/-- The periods of a year export what the year exports. -/
theorem sum_periodShares_exportKwh (year : ℕ) :
    (((inputs.periodKeys period intervals).filter fun k => decide (yearOf k = year)).map fun k =>
        max 0 (inputs.periodShares period intervals k .exportKwh)).sum
      = inputs.yearShares intervals year .exportKwh := by
  have hkeys : (inputs.periodKeys period intervals).Nodup :=
    (List.perm_insertionSort _ _).nodup_iff.mpr (List.nodup_dedup _)
  have hpositive : ∀ k, max 0 (inputs.periodShares period intervals k .exportKwh)
      = totalAt (inputs.periodOf period) (fun i => inputs.share i .exportKwh) intervals k := by
    intro k
    rw [periodShares, totalAt_apply]
    exact max_eq_right (totalAt_nonneg intervals (fun i => i.export_nonneg) k)
  rw [List.map_congr_left fun k _ => hpositive k, sum_totalAt _ _ _ (hkeys.filter _), yearShares_apply, totalAt]
  refine congrArg (fun l => (List.map (fun i => inputs.share i .exportKwh) l).sum) ?_
  refine List.filter_congr fun i hi => decide_eq_decide.mpr ?_
  rw [List.mem_filter, decide_eq_true_eq, periodOf, yearOf_periodKey]
  exact and_iff_right (mem_periodKeys.mpr ⟨i, hi, rfl⟩)

/-- Nothing negative is imported between two readings. -/
theorem importKwh_nonneg {readings : List EnergyReading} {i : EnergyInterval} (h : i ∈ energyIntervals readings) :
    0 ≤ i.importKwh := by
  obtain ⟨pair, -, hpair⟩ := List.mem_filterMap.mp h
  unfold energyInterval at hpair
  dsimp only at hpair
  split at hpair
  · exact absurd hpair (by simp)
  · rename_i hseconds
    rw [not_or, not_le] at hseconds
    have hpositive := hseconds.1
    obtain rfl := Option.some.inj hpair
    positivity

/-- **Integrating** allocates the credit of a year once, exactly if nothing was exported before the contract in
a year that earns a credit. -/
theorem allocatedOnce_periodStats_iff (readings : List EnergyReading) (roundSek : ℚ → ℚ) (year : ℕ) :
    AllocatedOnce (inputs.periodStats period (energyIntervals readings) unrounded roundSek) year
        (yearlyCredit inputs.config year (inputs.yearShares (energyIntervals readings) year .contracted)
          (inputs.yearShares (energyIntervals readings) year .importKwh)) ↔
      (Eligible inputs.config year (inputs.yearShares (energyIntervals readings) year .contracted) →
        0 < inputs.yearShares (energyIntervals readings) year .importKwh →
          inputs.yearShares (energyIntervals readings) year .uncontracted = 0) := by
  have himport := inputs.yearShares_importKwh_nonneg (energyIntervals readings) (fun i hi => importKwh_nonneg hi) year
  rw [periodStats, allocatedOnce_map_iff inputs.config
    (fun year => inputs.yearShares (energyIntervals readings) year .contracted)
    (fun year => inputs.yearShares (energyIntervals readings) year .importKwh)
    (fun k => inputs.periodShares period (energyIntervals readings) k .exportKwh) (fun _ => rfl) (fun _ => rfl),
    sum_periodShares_exportKwh, yearShares_exportKwh]
  refine forall_congr' fun _ => ?_
  rw [and_iff_right himport, add_eq_left]

end FinancialInputs

/-! ### Rows of days -/

section

variable (period : PeakPeriod) (rows : List FinancialDailyAccumulator)

/-- The periods of the rows. -/
def rowKeys : List String := sortedKeys (groupRows period rows)

/-- The export of the rows of a period. -/
def rowsExport (key : String) : ℚ :=
  totalAt (fun r : FinancialDailyAccumulator => periodOfDay period r.day) (fun r => r.exportKwh) rows key

/-- What the rows of a year sum to. -/
def rowsOfYear (kwh : FinancialDailyAccumulator → ℚ) (year : ℕ) : ℚ :=
  totalAt (fun r : FinancialDailyAccumulator => yearOf r.day) kwh rows year

theorem firstChars_periodOfDay (day : String) : firstChars 4 (periodOfDay period day) = firstChars 4 day := by
  cases period with
  | day => rfl
  | month => simp [periodOfDay, firstChars, List.take_take]
  | year => simp [periodOfDay, firstChars, List.take_take]

variable {period rows}

/-- A loop that has not failed has a result for every item. -/
theorem exists_of_mapM {α β : Type*} {f : α → Option β} {items : List α} {out : List β}
    (h : items.mapM f = some out) : ∀ a ∈ items, ∃ b, f a = some b := by
  induction items generalizing out with
  | nil => exact fun a ha => absurd ha List.not_mem_nil
  | cons a items ih =>
    rw [List.mapM_cons] at h
    cases hfirst : f a with
    | none =>
      rw [hfirst] at h
      cases h
    | some b =>
      cases hrest : items.mapM f with
      | none =>
        rw [hfirst, hrest] at h
        cases h
      | some bs =>
        intro a' ha'
        rcases List.mem_cons.mp ha' with rfl | ha'
        · exact ⟨b, hfirst⟩
        · exact ih hrest a' ha'

theorem exists_of_mem_rowKeys {key : String} (h : key ∈ rowKeys period rows) :
    ∃ r ∈ rows, periodOfDay period r.day = key := by
  rw [rowKeys, sortedKeys, List.mem_insertionSort, groupRows,
    mem_keys_run (fun grouped => grouped) (fun row : FinancialDailyAccumulator => periodOfDay period row.day)
      (fun grouped row k => mem_keys_upsert _ _ _ _ _), or_iff_right (by simp [Fields.keys]), List.mem_map] at h
  exact h

/-- The year of every row can be read. -/
def YearsReadable (rows : List FinancialDailyAccumulator) : Prop :=
  ∀ r ∈ rows, (int (firstChars 4 r.day)).isSome = true

theorem int_eq_yearOf {day : String} (h : (int (firstChars 4 day)).isSome = true) :
    int (firstChars 4 day) = some (yearOf day) := by
  obtain ⟨year, hyear⟩ := Option.isSome_iff_exists.mp h
  rw [yearOf, hyear, Option.getD_some]

theorem yearsReadable_of_aggregate {round : ℕ → ℚ → ℚ} {config : SellPriceConfig} {stats : List FinancialStatResult}
    (h : aggregateDailyToPeriodStats round period config rows = some stats) : YearsReadable rows := by
  intro r hr
  obtain ⟨yearRows, hyears, -⟩ := Option.bind_eq_some_iff.mp h
  obtain ⟨_, hsome⟩ := exists_of_mapM hyears r hr
  obtain ⟨year, hyear, -⟩ := Option.map_eq_some_iff.mp hsome
  rw [hyear]
  rfl

/-- **Summing rows** whose years can be read. -/
theorem aggregate_eq {round : ℕ → ℚ → ℚ} {config : SellPriceConfig} (hread : YearsReadable rows) :
    aggregateDailyToPeriodStats round period config rows = some ((rowKeys period rows).map fun key =>
          periodResult round (round 2) key
            ((((Fields.get (groupRows period rows) key).getD []).map fun r => r.shares).sum)
            (taxCreditOf round config (yearOf key)
              (rowsOfYear rows (fun r => r.contractedExportKwh) (yearOf key))
              (rowsOfYear rows (fun r => r.importKwh) (yearOf key)) (rowsExport period rows key))) := by
  have hyears : (rows.mapM fun row => (int (firstChars 4 row.day)).map fun year => (year, row))
      = some (rows.map fun r => (yearOf r.day, r)) :=
    mapM_eq_some fun r hr => by rw [int_eq_yearOf (hread r hr), Option.map_some]
  have hkeys : ∀ key ∈ rowKeys period rows, int (firstChars 4 key) = some (yearOf key) := by
    intro key hkey
    obtain ⟨r, hr, rfl⟩ := exists_of_mem_rowKeys hkey
    refine int_eq_yearOf ?_
    rw [firstChars_periodOfDay]
    exact hread r hr
  have htotal : ∀ (kwh : FinancialDailyAccumulator → ℚ) (year : ℕ),
      (Fields.get (yearlyTotals kwh (rows.map fun r => (yearOf r.day, r))) year).getD 0
        = rowsOfYear rows kwh year := by
    intro kwh year
    rw [yearlyTotals, getD_sum_run, Fields.get_nil, Option.getD_none, zero_add, totalAt_map]
    rfl
  have hexport : ∀ key, (((Fields.get (groupRows period rows) key).getD []).map fun r => r.shares).sum .exportKwh
      = rowsExport period rows key := by
    intro key
    rw [groupRows, getD_group_run, Fields.get_nil, Option.getD_none, List.nil_append, Pi.list_sum_apply, List.map_map]
    rfl
  simp only [aggregateDailyToPeriodStats, hyears, Option.bind_some]
  refine mapM_eq_some fun key hkey => ?_
  rw [hkeys key hkey, Option.map_some, rowsResult_eq round config _ _ _ _ _ rfl, htotal, htotal, hexport]

end

/-! ### Allocated once -/

/-- `integrate_financial_stats` allocates the credit of a year once. -/
def IntegratedOnce (inputs : FinancialInputs) (period : PeakPeriod) (readings : List EnergyReading) (year : ℕ) :
    Prop :=
  ∃ stats, inputs.integrateFinancialStats unrounded period readings = some stats ∧
    AllocatedOnce stats year
      (yearlyCredit inputs.config year (inputs.yearShares (energyIntervals readings) year .contracted)
        (inputs.yearShares (energyIntervals readings) year .importKwh))

/-- `aggregate_daily_to_period_stats` allocates the credit of a year once, unless it fails. -/
def AggregatedOnce (config : SellPriceConfig) (period : PeakPeriod) (rows : List FinancialDailyAccumulator)
    (year : ℕ) : Prop :=
  ∀ stats, aggregateDailyToPeriodStats unrounded period config rows = some stats →
    AllocatedOnce stats year
      (yearlyCredit config year (rowsOfYear rows (fun r => r.contractedExportKwh) year)
        (rowsOfYear rows (fun r => r.importKwh) year))

/-- Nothing was exported before the contract in a year that earns a credit. -/
def NoEarlierExport (inputs : FinancialInputs) (readings : List EnergyReading) (year : ℕ) : Prop :=
  Eligible inputs.config year (inputs.yearShares (energyIntervals readings) year .contracted) →
    0 < inputs.yearShares (energyIntervals readings) year .importKwh →
      inputs.yearShares (energyIntervals readings) year .uncontracted = 0

/-- In a year that can earn a credit the rows import nothing negative, and where they import anything the
positive exports of the periods are the export under contract. -/
def RowsUnderContract (config : SellPriceConfig) (period : PeakPeriod) (rows : List FinancialDailyAccumulator)
    (year : ℕ) : Prop :=
  Eligible config year (rowsOfYear rows (fun r => r.contractedExportKwh) year) →
    0 ≤ rowsOfYear rows (fun r => r.importKwh) year ∧
      (0 < rowsOfYear rows (fun r => r.importKwh) year →
        (((rowKeys period rows).filter fun key => decide (yearOf key = year)).map fun key =>
            max 0 (rowsExport period rows key)).sum
          = rowsOfYear rows (fun r => r.contractedExportKwh) year)

/-- **The yearly tax credit is allocated exactly once** over the readings if and only if nothing was exported
before the contract in a year that earns a credit, and over rows of days if and only if what they exported is
what they exported under contract. -/
theorem taxCredit_allocatedOnce_iff (period : PeakPeriod) (year : ℕ) :
    (∀ (inputs : FinancialInputs) (readings : List EnergyReading),
      IntegratedOnce inputs period readings year ↔ NoEarlierExport inputs readings year) ∧
    ∀ (config : SellPriceConfig) (rows : List FinancialDailyAccumulator),
      AggregatedOnce config period rows year ↔ (YearsReadable rows → RowsUnderContract config period rows year) := by
  constructor
  · intro inputs readings
    rw [NoEarlierExport, ← inputs.allocatedOnce_periodStats_iff period readings (fun sek => unrounded 2 (unrounded 4 sek)),
      IntegratedOnce, inputs.integrateFinancialStats_eq period unrounded readings]
    exact ⟨fun ⟨stats, hstats, h⟩ => Option.some.inj hstats ▸ h, fun h => ⟨_, rfl, h⟩⟩
  · intro config rows
    have hrows : YearsReadable rows →
        (AggregatedOnce config period rows year ↔ RowsUnderContract config period rows year) := by
      intro hread
      rw [AggregatedOnce, aggregate_eq hread]
      refine Iff.trans ⟨fun h => h _ rfl, fun h stats hstats => Option.some.inj hstats ▸ h⟩ ?_
      exact allocatedOnce_map_iff _ (rowsOfYear rows fun r => r.contractedExportKwh)
        (rowsOfYear rows fun r => r.importKwh) (rowsExport period rows) (fun _ => rfl) (fun _ => rfl) year
    constructor
    · intro h hread
      exact (hrows hread).mp h
    · intro h stats hstats
      have hread := yearsReadable_of_aggregate hstats
      exact (hrows hread).mpr (h hread) stats hstats

/-- 31 May 2025. -/
def firstDay : ℤ := 20239

/-- A contract from the second of two days on. -/
def contractFromJune : FinancialInputs where
  localDate := fun t => CivilDate.ofDayNumber (firstDay + ⌊t / 86400⌋)
  fallbackPurchasePriceSekKwh := 1
  config := { sellContractStartDate := some (CivilDate.ofDayNumber (firstDay + 1)) }

/-- Five minutes of import and export on each day. -/
def twoDays : List EnergyReading :=
  [{ recordedAt := 0, gridImportW := some 1000, gridExportW := some 1000 }, { recordedAt := 300 },
    { recordedAt := 86400, gridImportW := some 1000, gridExportW := some 1000 }, { recordedAt := 86700 }]

/-- With a contract that starts in June the whole credit of the year goes to each of the two days. -/
theorem taxCredit_allocated_twice : ¬ IntegratedOnce contractFromJune .day twoDays 2025 ∧
      ¬ AggregatedOnce contractFromJune.config .day
        ((contractFromJune.integrateFinancialDailyAccumulators twoDays).map Prod.snd) 2025 := by
  have hcredit : yearlyCredit contractFromJune.config 2025
      (contractFromJune.yearShares (energyIntervals twoDays) 2025 .contracted)
      (contractFromJune.yearShares (energyIntervals twoDays) 2025 .importKwh) = 1 / 20 := by
    decide +kernel
  have hparts : (contractFromJune.integrateFinancialStats unrounded .day twoDays).map
      (fun stats => ((stats.filter fun r => decide (yearOf r.periodStart = 2025)).map fun r => r.taxCreditSek).sum)
      = some (1 / 10) := by
    decide +kernel
  have hrowsCredit : yearlyCredit contractFromJune.config 2025
      (rowsOfYear ((contractFromJune.integrateFinancialDailyAccumulators twoDays).map Prod.snd)
        (fun r => r.contractedExportKwh) 2025)
      (rowsOfYear ((contractFromJune.integrateFinancialDailyAccumulators twoDays).map Prod.snd)
        (fun r => r.importKwh) 2025) = 1 / 20 := by
    decide +kernel
  have hrowsParts : (aggregateDailyToPeriodStats unrounded .day contractFromJune.config
        ((contractFromJune.integrateFinancialDailyAccumulators twoDays).map Prod.snd)).map
      (fun stats => ((stats.filter fun r => decide (yearOf r.periodStart = 2025)).map fun r => r.taxCreditSek).sum)
      = some (1 / 10) := by
    decide +kernel
  constructor
  · rintro ⟨stats, hstats, hsum, -⟩
    rw [hstats, Option.map_some, hsum, hcredit] at hparts
    exact absurd (Option.some.inj hparts) (by norm_num)
  · intro h
    obtain ⟨stats, hstats, -⟩ := Option.map_eq_some_iff.mp hrowsParts
    rw [hstats, Option.map_some, (h stats hstats).1, hrowsCredit] at hrowsParts
    exact absurd (Option.some.inj hrowsParts) (by norm_num)

end EnergyCore.Financial
