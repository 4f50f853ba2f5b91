import EnergyCore.Financial.IntervalShares
import Mathlib.Data.List.Dedup
import Mathlib.Data.List.Forall2

/-!
# Financial statistics have one answer

Both ways to the statistics are the same sums of interval shares, by period and by year.

* `periodStats` — the statistics as sums over intervals;
* `integrateFinancialStats_eq`, `aggregateDailyToPeriodStats_eq` — both ways compute them, and differ in how
  often they round what exports earned;
* `financialStats_agree` — so they agree exactly before rounding, and up to one unit of the last decimal
  after it.
-/

namespace EnergyCore.Financial

open HalfEvenRounding KeywordFields KeyedTotals StepRun

/-- The year of a key. -/
def yearOf (key : String) : ℕ := (int (firstChars 4 key)).getD 0

@[simp] theorem yearOf_periodKey (period : PeakPeriod) (d : CivilDate) : yearOf (periodKey period d) = d.year := by
  rw [yearOf, int_periodKey, Option.getD_some]

@[simp] theorem yearOf_dayKey (d : CivilDate) : yearOf (dayKey d) = d.year :=
  yearOf_periodKey .day d

/-! ### Sums over intervals -/

namespace FinancialInputs

variable (inputs : FinancialInputs) (period : PeakPeriod) (intervals : List EnergyInterval)

def periodOf (i : EnergyInterval) : String := periodKey period (inputs.date i)

/-- The keys of the periods that the intervals lie in. -/
def periodKeys : List String :=
  (intervals.map (inputs.periodOf period)).dedup.insertionSort (· ≤ ·)

def periodShares (key : String) : Shares :=
  totalAt (inputs.periodOf period) inputs.share intervals key

def yearShares (year : ℕ) : Shares := totalAt (fun i => (inputs.date i).year) inputs.share intervals year

/-- **The statistics**, as sums over intervals. -/
def periodStats (round : ℕ → ℚ → ℚ) (roundSek : ℚ → ℚ) : List FinancialStatResult :=
  (inputs.periodKeys period intervals).map fun key =>
    let t := inputs.periodShares period intervals key
    let yearly := inputs.yearShares intervals (yearOf key)
    periodResult round roundSek key t
      (taxCreditOf round inputs.config (yearOf key) (yearly .contracted) (yearly .importKwh)
        (t .exportKwh))

variable {inputs period intervals}

theorem mem_periodKeys {key : String} :
    key ∈ inputs.periodKeys period intervals ↔ ∃ i ∈ intervals, inputs.periodOf period i = key := by
  rw [periodKeys, List.mem_insertionSort, List.mem_dedup, List.mem_map]

theorem int_of_mem_periodKeys {key : String} (h : key ∈ inputs.periodKeys period intervals) :
    int (firstChars 4 key) = some (yearOf key) := by
  obtain ⟨i, -, rfl⟩ := mem_periodKeys.mp h
  rw [periodOf, yearOf_periodKey, int_periodKey]

/-- Sorting any list of the same keys gives the same order. -/
theorem sortedKeys_eq {ν : Type*} {d : Fields String ν} (hd : (Fields.keys d).Nodup)
    (h : ∀ key, key ∈ Fields.keys d ↔ key ∈ intervals.map (inputs.periodOf period)) :
    sortedKeys d = inputs.periodKeys period intervals := by
  refine sort_eq_of_mem_iff hd (List.nodup_dedup _) fun key => ?_
  rw [h, List.mem_dedup]

/-- Fewer than two readings have no interval between them. -/
theorem energyIntervals_of_length_lt {readings : List EnergyReading} (h : readings.length < 2) :
    energyIntervals readings = [] := by
  rcases readings with _ | ⟨first, _ | ⟨second, rest⟩⟩
  · rfl
  · rfl
  · exact absurd h (by simp)

/-! ### Integrating per period -/

variable (inputs period intervals)

/-- What the loop over the readings ends with. -/
theorem shares_statsRun (key : String) : (run (inputs.statsStep period) {} intervals).shares key
      = inputs.periodShares period intervals key := by
  have hrun := total_run (fun _ => True) StatsLoop.shares
    (fun s i _ => ⟨trivial, inputs.shares_statsStep period s i⟩) (s := {}) trivial intervals key
  have hempty : ({} : StatsLoop).shares key = 0 := by
    funext f
    cases f <;> rfl
  rw [hrun, hempty, zero_add]
  rfl

theorem yearShares_apply (year : ℕ) (f : ShareField) : inputs.yearShares intervals year f
      = totalAt (fun i => (inputs.date i).year) (fun i => inputs.share i f) intervals year :=
  totalAt_apply _ _ _ _ _

theorem yearlyImport_statsRun (year : ℕ) :
    (Fields.get (run (inputs.statsStep period) {} intervals).yearlyImport year).getD 0
      = inputs.yearShares intervals year .importKwh := by
  have hrun := total_run (fun _ => True) (fun s year => (Fields.get s.yearlyImport year).getD 0)
    (fun s i _ => ⟨trivial, inputs.getD_yearlyImport_statsStep period s i⟩) (s := {}) trivial
    intervals year
  rw [hrun, yearShares_apply]
  exact zero_add _

theorem yearlyExport_statsRun (year : ℕ) :
    (Fields.get (run (inputs.statsStep period) {} intervals).yearlyExport year).getD 0
      = inputs.yearShares intervals year .contracted := by
  have hrun := total_run (fun _ => True) (fun s year => (Fields.get s.yearlyExport year).getD 0)
    (fun s i _ => ⟨trivial, inputs.getD_yearlyExport_statsStep period s i⟩) (s := {}) trivial
    intervals year
  rw [hrun, yearShares_apply]
  exact zero_add _

/-- The loop meets the periods of its intervals. -/
theorem sortedKeys_statsRun : sortedKeys (run (inputs.statsStep period) {} intervals).totals
      = inputs.periodKeys period intervals := by
  refine sortedKeys_eq ?_ fun key => ?_
  · refine AllSteps.preserves (C := fun _ _ => True)
      (I := fun s : StatsLoop => (Fields.keys s.totals).Nodup) (fun s i hs _ => ?_) List.nodup_nil
      (AllSteps.of_forall_mem fun _ _ => trivial)
    rw [totals_statsStep]
    exact nodup_keys_upsert hs _ _ _
  · rw [mem_keys_run StatsLoop.totals (inputs.periodOf period)]
    · exact or_iff_right (by simp [Fields.keys])
    · intro s i k
      rw [totals_statsStep, mem_keys_upsert]
      rfl

/-- **Integrating per period** rounds what exports earned to four decimals, and then to two. -/
theorem integrateFinancialStats_eq (round : ℕ → ℚ → ℚ) (readings : List EnergyReading) :
    inputs.integrateFinancialStats round period readings
      = some (inputs.periodStats period (energyIntervals readings) round fun sek => round 2 (round 4 sek)) := by
  have hloop : (sortedKeys (run (inputs.statsStep period) {} (energyIntervals readings)).totals).mapM
      (fun key => (int (firstChars 4 key)).map fun year => inputs.statsResult round
        (run (inputs.statsStep period) {} (energyIntervals readings)) key year)
      = some (inputs.periodStats period (energyIntervals readings) round
        fun sek => round 2 (round 4 sek)) := by
    rw [sortedKeys_statsRun, periodStats]
    refine mapM_eq_some fun key hkey => ?_
    rw [int_of_mem_periodKeys hkey, Option.map_some, statsResult_eq, shares_statsRun,
      yearlyExport_statsRun, yearlyImport_statsRun]
  unfold integrateFinancialStats
  split_ifs with hshort
  · rw [energyIntervals_of_length_lt hshort]
    rfl
  · exact hloop

/-! ### Accumulating per day -/

/-- Every day has one entry, which is named after it. -/
structure DaysKept (daily : Fields String FinancialDailyAccumulator) : Prop where
  nodup : (Fields.keys daily).Nodup
  named : ∀ e ∈ daily, e.2.day = e.1 ∧ ∃ d, e.1 = dayKey d

theorem DaysKept.nil : DaysKept [] := ⟨List.nodup_nil, by simp⟩

theorem day_addDaily (i : EnergyInterval) (acc : FinancialDailyAccumulator) :
    (inputs.addDailyExport i (inputs.addDailyEnergy i acc)).day = acc.day := by
  rw [addDailyExport_eq]
  split_ifs <;> rfl

/-- The entry that a day is added to is named after the day. -/
theorem DaysKept.day_getD {daily : Fields String FinancialDailyAccumulator} (h : DaysKept daily)
    (key : String) : ((Fields.get daily key).getD { day := key }).day = key := by
  cases hget : Fields.get daily key with
  | none => rfl
  | some acc => exact (h.named _ (Fields.mem_of_get hget)).1

theorem dailyStep_eq (daily : Fields String FinancialDailyAccumulator) (i : EnergyInterval) :
    inputs.dailyStep daily i
      = upsert daily (dayKey (inputs.date i)) { day := dayKey (inputs.date i) } fun acc =>
        inputs.addDailyExport i (inputs.addDailyEnergy i acc) := rfl

theorem daysKept_dailyStep {daily : Fields String FinancialDailyAccumulator} (h : DaysKept daily)
    (i : EnergyInterval) : DaysKept (inputs.dailyStep daily i) := by
  rw [dailyStep_eq]
  refine ⟨nodup_keys_upsert h.nodup _ _ _, fun e he => ?_⟩
  rcases mem_upsert he with he | rfl
  · exact h.named e he
  · exact ⟨(inputs.day_addDaily i _).trans (h.day_getD _), _, rfl⟩

variable {γ : Type*} [DecidableEq γ]

/-- What a day is added to, the group of the day is. -/
theorem totalAt_dailyStep {daily : Fields String FinancialDailyAccumulator} (h : DaysKept daily)
    (i : EnergyInterval) (coarse : String → γ) (g : γ) :
    totalAt (fun e => coarse e.1) (fun e => e.2.shares) (inputs.dailyStep daily i) g
      = totalAt (fun e => coarse e.1) (fun e => e.2.shares) daily g
        + if coarse (dayKey (inputs.date i)) = g then inputs.share i else 0 := by
  have hempty : ({ day := dayKey (inputs.date i) } : FinancialDailyAccumulator).shares = 0 := by
    funext f
    cases f <;> rfl
  rw [dailyStep_eq]
  exact totalAt_upsert coarse FinancialDailyAccumulator.shares h.nodup (dayKey (inputs.date i))
    hempty (inputs.shares_addDaily i _) g

/-- What the days end with, summed by any coarser key of the day. -/
theorem shares_dailyRun (coarse : String → γ) (g : γ) :
    totalAt (fun e => coarse e.1) (fun e => e.2.shares) (run inputs.dailyStep [] intervals) g
      = totalAt (fun i => coarse (dayKey (inputs.date i))) inputs.share intervals g := by
  have hrun := total_run DaysKept (fun daily g =>
      totalAt (fun e => coarse e.1) (fun e : String × FinancialDailyAccumulator => e.2.shares)
        daily g)
    (fun daily i hdaily =>
      ⟨inputs.daysKept_dailyStep hdaily i, inputs.totalAt_dailyStep hdaily i coarse⟩)
    DaysKept.nil intervals g
  rw [hrun, totalAt_nil, zero_add]

theorem daysKept_dailyRun : DaysKept (run inputs.dailyStep [] intervals) :=
  AllSteps.preserves (C := fun _ _ => True) (I := DaysKept)
    (fun _ i h _ => inputs.daysKept_dailyStep h i) DaysKept.nil (AllSteps.of_forall_mem fun _ _ => trivial)

theorem mem_keys_dailyRun (key : String) : key ∈ Fields.keys (run inputs.dailyStep [] intervals)
      ↔ ∃ i ∈ intervals, dayKey (inputs.date i) = key := by
  rw [mem_keys_run (fun daily => daily) fun i => dayKey (inputs.date i)]
  · simp [Fields.keys]
  · intro daily i k
    rw [dailyStep_eq, mem_keys_upsert]

theorem integrateFinancialDailyAccumulators_eq (readings : List EnergyReading) :
    inputs.integrateFinancialDailyAccumulators readings = run inputs.dailyStep [] (energyIntervals readings) := by
  unfold integrateFinancialDailyAccumulators
  split_ifs with hshort
  · rw [energyIntervals_of_length_lt hshort]
    rfl
  · rfl

/-! ### Summing the days of a period -/

/-- The values of the days. -/
def dailyRows : List FinancialDailyAccumulator := (run inputs.dailyStep [] intervals).map Prod.snd

/-- What the rows sum to, by any coarser key of the day. -/
theorem shares_dailyRows (coarse : String → γ) (g : γ) :
    totalAt (fun r => coarse r.day) (fun r => r.shares) (inputs.dailyRows intervals) g
      = totalAt (fun i => coarse (dayKey (inputs.date i))) inputs.share intervals g := by
  rw [dailyRows, totalAt_map, ← shares_dailyRun]
  refine totalAt_congr _ (fun e he => ?_) g
  rw [((inputs.daysKept_dailyRun intervals).named e he).1]

/-- The year of every row can be read. -/
theorem int_dailyRows {r : FinancialDailyAccumulator} (h : r ∈ inputs.dailyRows intervals) :
    int (firstChars 4 r.day) = some (yearOf r.day) := by
  obtain ⟨e, he, rfl⟩ := List.mem_map.mp h
  obtain ⟨hnamed, d, hd⟩ := (inputs.daysKept_dailyRun intervals).named e he
  rw [hnamed, hd, yearOf_dayKey]
  exact int_periodKey .day d

theorem getD_groupRows (key : String) :
    (((Fields.get (groupRows period (inputs.dailyRows intervals)) key).getD []).map fun r =>
      r.shares).sum = inputs.periodShares period intervals key := by
  have hshares := inputs.shares_dailyRows intervals (periodOfDay period) key
  simp only [periodOfDay_dayKey] at hshares
  rw [groupRows, getD_group_run, Fields.get_nil, Option.getD_none, List.nil_append]
  exact hshares

theorem getD_yearlyTotals {kwh : FinancialDailyAccumulator → ℚ} {f : ShareField}
    (hkwh : ∀ r, kwh r = r.shares f) (year : ℕ) :
    (Fields.get (yearlyTotals kwh ((inputs.dailyRows intervals).map fun r => (yearOf r.day, r)))
      year).getD 0 = inputs.yearShares intervals year f := by
  have hshares := inputs.shares_dailyRows intervals yearOf year
  simp only [yearOf_dayKey] at hshares
  rw [yearlyTotals, getD_sum_run, Fields.get_nil, Option.getD_none, zero_add, totalAt_map, yearShares,
    ← hshares, totalAt_apply]
  simp only [hkwh]

/-- The rows meet the periods of the intervals. -/
theorem sortedKeys_groupRows : sortedKeys (groupRows period (inputs.dailyRows intervals))
      = inputs.periodKeys period intervals := by
  refine sortedKeys_eq ?_ fun key => ?_
  · exact AllSteps.preserves (C := fun _ _ => True)
      (I := fun d : Fields String (List FinancialDailyAccumulator) => (Fields.keys d).Nodup)
      (fun _ _ hd _ => nodup_keys_upsert hd _ _ _) List.nodup_nil
      (AllSteps.of_forall_mem fun _ _ => trivial)
  · rw [groupRows, mem_keys_run (fun grouped => grouped) fun row : FinancialDailyAccumulator =>
      periodOfDay period row.day]
    · rw [or_iff_right (by simp [Fields.keys]), List.mem_map, List.mem_map]
      constructor
      · rintro ⟨r, hr, rfl⟩
        obtain ⟨e, he, rfl⟩ := List.mem_map.mp hr
        obtain ⟨i, hi, hday⟩ := (inputs.mem_keys_dailyRun intervals e.1).mp (List.mem_map_of_mem he)
        refine ⟨i, hi, ?_⟩
        rw [((inputs.daysKept_dailyRun intervals).named e he).1, ← hday, periodOfDay_dayKey]
        rfl
      · rintro ⟨i, hi, rfl⟩
        obtain ⟨e, he, hday⟩ := List.mem_map.mp ((inputs.mem_keys_dailyRun intervals _).mpr ⟨i, hi, rfl⟩)
        refine ⟨e.2, List.mem_map_of_mem he, ?_⟩
        rw [((inputs.daysKept_dailyRun intervals).named e he).1, hday, periodOfDay_dayKey]
        rfl
    · intro grouped row k
      exact mem_keys_upsert _ _ _ _ _

/-- **Summing the days of a period** rounds what exports earned once. -/
theorem aggregateDailyToPeriodStats_eq (round : ℕ → ℚ → ℚ) (readings : List EnergyReading) :
    aggregateDailyToPeriodStats round period inputs.config
        ((inputs.integrateFinancialDailyAccumulators readings).map Prod.snd)
      = some (inputs.periodStats period (energyIntervals readings) round (round 2)) := by
  rw [integrateFinancialDailyAccumulators_eq]
  show aggregateDailyToPeriodStats round period inputs.config (inputs.dailyRows (energyIntervals readings)) = _
  have hyears : (inputs.dailyRows (energyIntervals readings)).mapM
      (fun row => (int (firstChars 4 row.day)).map fun year => (year, row))
      = some ((inputs.dailyRows (energyIntervals readings)).map fun r => (yearOf r.day, r)) :=
    mapM_eq_some fun r hr => by rw [inputs.int_dailyRows _ hr, Option.map_some]
  simp only [aggregateDailyToPeriodStats, hyears, Option.bind_some]
  rw [sortedKeys_groupRows, periodStats]
  refine mapM_eq_some fun key hkey => ?_
  rw [int_of_mem_periodKeys hkey, Option.map_some,
    rowsResult_eq round _ _ _ _ _ _ (inputs.getD_groupRows period (energyIntervals readings) key),
    inputs.getD_yearlyTotals (energyIntervals readings) fun r =>
      show r.contractedExportKwh = r.shares .contracted from rfl,
    inputs.getD_yearlyTotals (energyIntervals readings) fun r =>
      show r.importKwh = r.shares .importKwh from rfl]

end FinancialInputs

/-! ### One answer -/

/-- The two results have the same period, and their fields differ by at most one unit of the last decimal. -/
structure FinancialStatResult.Agrees (a b : FinancialStatResult) : Prop where
  periodStart : a.periodStart = b.periodStart
  solarSelfConsumedKwh : |a.solarSelfConsumedKwh - b.solarSelfConsumedKwh| ≤ 1 / 10 ^ 3
  batterySelfConsumedKwh : |a.batterySelfConsumedKwh - b.batterySelfConsumedKwh| ≤ 1 / 10 ^ 3
  exportedKwh : |a.exportedKwh - b.exportedKwh| ≤ 1 / 10 ^ 3
  importedKwh : |a.importedKwh - b.importedKwh| ≤ 1 / 10 ^ 3
  solarSavingsSek : |a.solarSavingsSek - b.solarSavingsSek| ≤ 1 / 10 ^ 2
  batterySavingsSek : |a.batterySavingsSek - b.batterySavingsSek| ≤ 1 / 10 ^ 2
  exportRevenueSek : |a.exportRevenueSek - b.exportRevenueSek| ≤ 1 / 10 ^ 2
  gridImportCostSek : |a.gridImportCostSek - b.gridImportCostSek| ≤ 1 / 10 ^ 2
  marketPricedFraction : |a.marketPricedFraction - b.marketPricedFraction| ≤ 1 / 10 ^ 3
  energySaleRevenueSek : |a.energySaleRevenueSek - b.energySaleRevenueSek| ≤ 1 / 10 ^ 2
  gridBenefitRevenueSek : |a.gridBenefitRevenueSek - b.gridBenefitRevenueSek| ≤ 1 / 10 ^ 2
  taxCreditSek : |a.taxCreditSek - b.taxCreditSek| ≤ 1 / 10 ^ 2
  effectiveSellPriceSekKwh : Option.Rel (fun x y => |x - y| ≤ 1 / 10 ^ 6)
    a.effectiveSellPriceSekKwh b.effectiveSellPriceSekKwh
  exportSpotPricedFraction :
    |a.exportSpotPricedFraction - b.exportSpotPricedFraction| ≤ 1 / 10 ^ 4
  uncontractedExportedKwh : |a.uncontractedExportedKwh - b.uncontractedExportedKwh| ≤ 1 / 10 ^ 3

/-- Results of the same sums agree, if what exports earned is rounded to numbers at most one unit apart. -/
theorem periodResult_agrees (round : ℕ → ℚ → ℚ) {roundSek roundSek' : ℚ → ℚ}
    (h : ∀ sek, |roundSek sek - roundSek' sek| ≤ 1 / 10 ^ 2) (key : String) (t : Shares)
    (taxCreditSek : ℚ) :
    (periodResult round roundSek key t taxCreditSek).Agrees
      (periodResult round roundSek' key t taxCreditSek) := by
  have hsame : ∀ (digits : ℕ) (x : ℚ), |x - x| ≤ 1 / 10 ^ digits := by
    intro digits x
    rw [sub_self, abs_zero]
    positivity
  refine ⟨rfl, hsame _ _, hsame _ _, hsame _ _, hsame _ _, hsame _ _, hsame _ _, h _, hsame _ _,
    hsame _ _, h _, h _, hsame _ _, ?_, hsame _ _, hsame _ _⟩
  simp only [periodResult]
  split_ifs
  · exact .some (hsame _ _)
  · exact .none

/-- **Financial statistics have one answer.** For every time zone, price maps, configuration, period and list
of readings, integrating the readings and summing their days give the same periods in the same order, with
fields that agree up to one unit of the last decimal; without rounding they give the same results. -/
theorem financialStats_agree (inputs : FinancialInputs) (period : PeakPeriod) (readings : List EnergyReading) :
    (∃ integrated aggregated, inputs.integrateFinancialStats roundDigits period readings = some integrated ∧
      aggregateDailyToPeriodStats roundDigits period inputs.config
        ((inputs.integrateFinancialDailyAccumulators readings).map Prod.snd) = some aggregated ∧
      List.Forall₂ FinancialStatResult.Agrees integrated aggregated) ∧ ∃ stats,
      inputs.integrateFinancialStats (fun _ x => x) period readings = some stats ∧
      aggregateDailyToPeriodStats (fun _ x => x) period inputs.config
        ((inputs.integrateFinancialDailyAccumulators readings).map Prod.snd) = some stats := by
  refine ⟨⟨_, _, inputs.integrateFinancialStats_eq period _ readings,
    inputs.aggregateDailyToPeriodStats_eq period _ readings, ?_⟩,
    ⟨_, inputs.integrateFinancialStats_eq period _ readings,
      inputs.aggregateDailyToPeriodStats_eq period _ readings⟩⟩
  rw [FinancialInputs.periodStats, FinancialInputs.periodStats, List.forall₂_map_left_iff,
    List.forall₂_map_right_iff, List.forall₂_same]
  intro key _
  exact periodResult_agrees roundDigits (abs_roundDigits_roundDigits_sub_le (show 2 ≤ 4 by decide)) _ _ _

end EnergyCore.Financial
