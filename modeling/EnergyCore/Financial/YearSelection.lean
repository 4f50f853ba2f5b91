import EnergyCore.Financial.DailyTable
import EnergyCore.Financial.StatsAgree
import EnergyCore.Foundations.Neighbours

/-!
# The rows of a year

The endpoint turns the bounds of a local year into instants; the readings are selected by these, but the daily
rows by their UTC dates.

* `yearSelected_iff` — the rows of the year are selected exactly unless the zone is east of UTC and the last
  day of a year is rolled up;
* `samePeriods_iff` — both ways then report the same periods unless one has nothing but the interval across
  the end of the year.
-/

namespace EnergyCore.Financial

open KeywordFields KeyedTotals StepRun TimeZones
open Calendar Neighbours

/-! ### New year -/

namespace CivilDate

def IsLastDayOf (d : CivilDate) (year : ℕ) : Prop := d.year = year ∧ d.month = 12 ∧ d.day = 31

/-- The last day of a year is the day before new year. -/
theorem isLastDayOf_iff {d : CivilDate} (h : d.Valid) {year : ℕ} (hyear : 1 ≤ year) :
    d.IsLastDayOf year ↔ d.dayNumber = newYearDay (year + 1) - 1 := by
  have hdays : ∀ leap : Bool, daysBeforeMonth leap 12 + 31 = if leap then 366 else 365 := by decide
  have hlast : ymd2ord year 12 31 = daysBeforeYear (year + 1) := by
    rw [ymd2ord, daysBeforeYear_succ hyear, Nat.add_assoc, hdays]
    rfl
  have hdate : IsDate year 12 31 := ⟨hyear, by decide, by decide, by decide, by
    cases isLeap year <;> decide⟩
  unfold dayNumber newYearDay
  constructor
  · rintro ⟨rfl, hm, hd⟩
    rw [hm, hd, hlast]
    omega
  · intro heq
    have hord : ymd2ord d.year d.month d.day = ymd2ord year 12 31 := by omega
    have hyears : d.year = year := by
      have hd := h.isDate.ymd2ord_mem
      have hle := (h.isDate.year_le_iff hyear).mpr (by rw [hord]; exact hdate.ymd2ord_mem.1)
      have hge := (hdate.year_le_iff d.year_pos).mpr (by rw [← hord]; exact hd.1)
      omega
    refine ⟨hyears, ?_⟩
    by_contra hnot
    have hm := d.month_le
    have hd : d.day ≤ 31 := d.day_le
    have hlt := ymd2ord_lt h.isDate hdate (.inr ⟨hyears, by omega⟩)
    omega

end CivilDate

theorem clampDay_newYear {year : ℕ} (hlo : 1 < year) (hhi : year ≤ 9999) {n : ℤ}
    (hn : n = CivilDate.newYearDay year ∨ n = CivilDate.newYearDay year - 1) : CivilDate.clampDay n = n := by
  have hfirst := daysBeforeYear_mono (show 1 ≤ 2 by decide) (show 2 ≤ year by omega)
  have hlast := daysBeforeYear_mono (show 1 ≤ year by omega) hhi
  have h2 : daysBeforeYear 2 = 365 := rfl
  have h9999 : daysBeforeYear 9999 = 3651694 := rfl
  unfold CivilDate.newYearDay at hn
  unfold CivilDate.clampDay CivilDate.minDayNumber CivilDate.maxDayNumber
  omega

/-- **The UTC date of local new year** is new year's day or, east of UTC, the day before. -/
theorem dayNumber_localDate_yearStart (zone : TimeZone) {year : ℕ} (hlo : 1 < year) (hhi : year ≤ 9999) :
    (localDate utc (yearStart zone year)).dayNumber
      = if zone.utcoffset (TimeZone.midnight (CivilDate.newYearDay year)) ≤ 0
        then CivilDate.newYearDay year else CivilDate.newYearDay year - 1 := by
  rw [localDate, CivilDate.dayNumber_ofDayNumber, TimeZone.localDay, wall_utc, yearStart,
    TimeZone.dayNumber_toUtc_midnight]
  split_ifs
  · exact clampDay_newYear hlo hhi (.inl rfl)
  · exact clampDay_newYear hlo hhi (.inr rfl)

/-! ### Selecting the rows -/

variable (site : SiteFinancials) (zone : TimeZone) (year : ℕ)

/-- An interval between readings starts on the day. -/
def IntervalOn (d : CivilDate) : Prop :=
  ∃ i ∈ energyIntervals site.readings, localDate zone i.startedAt = d

/-- Every day with an interval has been rolled up. -/
def RolledUp : Prop := ∀ d, d ∈ Fields.keys site.daily ↔ IntervalOn site zone d

/-- The rows that the query for a year selects. -/
def yearRows : List FinancialDailyAccumulator :=
  listForSite site.daily (some (localDate utc (yearStart zone year)))
    (some (localDate utc (yearStart zone (year + 1))))

/-- The query selects the rows of the year, and no others. -/
def YearSelected : Prop :=
  ∀ acc, acc ∈ yearRows site zone year ↔
    acc ∈ listForSite site.daily none none ∧ yearOf acc.day = year

/-- The UTC date of local new year is new year's day, or else there is no interval on the day before. -/
def NewYearExact : Prop :=
  zone.utcoffset (TimeZone.midnight (CivilDate.newYearDay year)) ≤ 0 ∨
    ∀ d, IntervalOn site zone d → ¬ d.IsLastDayOf (year - 1)

variable {site zone year}

theorem IntervalOn.valid {d : CivilDate} (h : IntervalOn site zone d) : d.Valid := by
  obtain ⟨i, -, rfl⟩ := h
  exact valid_localDate zone _

/-- A row of a day that is selected, and of a day that is not, differ. -/
theorem mem_listForSite_iff_of_rolledUp (hrolled : RolledUp site zone) {fromDay toDay : Option CivilDate}
    {row : CivilDate × FinancialDailyAccumulator} (hrow : row ∈ site.daily) :
    readRow row ∈ listForSite site.daily fromDay toDay ↔ inDays fromDay toDay row.1 = true := by
  rw [mem_listForSite]
  constructor
  · rintro ⟨row', hrow', hin, heq⟩
    have hvalid := ((hrolled _).mp (List.mem_map_of_mem hrow)).valid
    have hvalid' := ((hrolled _).mp (List.mem_map_of_mem hrow')).valid
    have hday := CivilDate.dayKey_injective hvalid' hvalid (congrArg FinancialDailyAccumulator.day heq)
    rw [← hday]
    exact hin
  · intro hin
    exact ⟨row, hrow, hin, rfl⟩

/-- The selection, day by day. -/
theorem yearSelected_iff_forall (hrolled : RolledUp site zone) :
    YearSelected site zone year ↔ ∀ d, IntervalOn site zone d → (inDays (some (localDate utc (yearStart zone year)))
        (some (localDate utc (yearStart zone (year + 1)))) d = true ↔ d.year = year) := by
  constructor
  · intro hselected d hd
    obtain ⟨row, hrow, rfl⟩ := List.mem_map.mp ((hrolled d).mpr hd)
    have hiff := hselected (readRow row)
    rw [yearRows, mem_listForSite_iff_of_rolledUp hrolled hrow, mem_listForSite_iff_of_rolledUp hrolled hrow] at hiff
    rw [hiff]
    refine ⟨fun h => ?_, fun h => ⟨rfl, ?_⟩⟩
    · exact (yearOf_dayKey row.1).symm.trans h.2
    · exact (yearOf_dayKey row.1).trans h
  · intro hdays acc
    unfold yearRows
    constructor
    · intro hacc
      obtain ⟨row, hrow, hin, rfl⟩ := mem_listForSite.mp hacc
      have hyear := (hdays row.1 ((hrolled _).mp (List.mem_map_of_mem hrow))).mp hin
      exact ⟨mem_listForSite.mpr ⟨row, hrow, rfl, rfl⟩, (yearOf_dayKey row.1).trans hyear⟩
    · rintro ⟨hacc, hyear⟩
      obtain ⟨row, hrow, -, rfl⟩ := mem_listForSite.mp hacc
      have hyear : row.1.year = year := (yearOf_dayKey row.1).symm.trans hyear
      exact mem_listForSite.mpr ⟨row, hrow, (hdays row.1 ((hrolled _).mp (List.mem_map_of_mem hrow))).mpr hyear, rfl⟩

/-- What the bounds select, by the numbers of the days. -/
theorem inDays_yearStart_iff {d : CivilDate} (hd : d.Valid) : inDays (some (localDate utc (yearStart zone year)))
        (some (localDate utc (yearStart zone (year + 1)))) d = true ↔
      (localDate utc (yearStart zone year)).dayNumber ≤ d.dayNumber ∧
        d.dayNumber < (localDate utc (yearStart zone (year + 1))).dayNumber := by
  rw [inDays, Bool.and_eq_true, Option.all_some, Option.all_some, Bool.not_eq_true',
    CivilDate.onOrAfter_iff hd (valid_localDate _ _), Bool.eq_false_iff, ne_eq,
    CivilDate.onOrAfter_iff hd (valid_localDate _ _), not_le]

/-- **Which years are selected exactly.** -/
theorem yearSelected_iff (hrolled : RolledUp site zone) (hlo : 1 < year) (hhi : year < 9999) :
    YearSelected site zone year ↔ NewYearExact site zone year ∧ NewYearExact site zone (year + 1) := by
  have hlength := daysBeforeYear_succ (show 1 ≤ year by omega)
  have hpos : 365 ≤ daysInYear year := by
    unfold daysInYear
    split_ifs <;> omega
  have hstart : CivilDate.newYearDay (year + 1) = CivilDate.newYearDay year + daysInYear year := by
    unfold CivilDate.newYearDay
    omega
  have hpred : year - 1 + 1 = year := by omega
  rw [yearSelected_iff_forall hrolled]
  constructor
  · intro hdays
    refine ⟨?_, ?_⟩
    · refine or_iff_not_imp_left.mpr fun heast d hd hlast => ?_
      rw [CivilDate.isLastDayOf_iff hd.valid (by omega), hpred] at hlast
      have hiff := hdays d hd
      rw [inDays_yearStart_iff hd.valid, dayNumber_localDate_yearStart zone hlo hhi.le,
        dayNumber_localDate_yearStart zone (show 1 < year + 1 by omega) hhi, if_neg heast] at hiff
      have hyear := (CivilDate.year_le_iff hd.valid (show 1 ≤ year by omega)).mp
        (hiff.mp ⟨by omega, by split_ifs <;> omega⟩).ge
      omega
    · refine or_iff_not_imp_left.mpr fun heast d hd hlast => ?_
      have hyear : d.year = year := hlast.1
      rw [CivilDate.isLastDayOf_iff hd.valid (by omega)] at hlast
      have hiff := hdays d hd
      rw [inDays_yearStart_iff hd.valid,
        dayNumber_localDate_yearStart zone (show 1 < year + 1 by omega) hhi, if_neg heast] at hiff
      have hlt := (hiff.mpr hyear).2
      have hsame : CivilDate.newYearDay (year + 1 - 1 + 1) = CivilDate.newYearDay (year + 1) := rfl
      omega
  · rintro ⟨hfirst, hnext⟩ d hd
    have hge := CivilDate.year_le_iff hd.valid (show 1 ≤ year by omega)
    have hlt := CivilDate.year_le_iff hd.valid (show 1 ≤ year + 1 by omega)
    have hfirst' := hfirst.imp_right fun h => mt (CivilDate.isLastDayOf_iff hd.valid (by omega)).mpr (h d hd)
    have hnext' := hnext.imp_right fun h => mt (CivilDate.isLastDayOf_iff hd.valid (by omega)).mpr (h d hd)
    rw [hpred] at hfirst'
    rw [show year + 1 - 1 + 1 = year + 1 from rfl] at hnext'
    rw [inDays_yearStart_iff hd.valid, dayNumber_localDate_yearStart zone hlo hhi.le,
      dayNumber_localDate_yearStart zone (show 1 < year + 1 by omega) hhi]
    split_ifs with hwest hwest' hwest'
    · omega
    · have hnext' := hnext'.resolve_left hwest'
      omega
    · have hfirst' := hfirst'.resolve_left hwest
      omega
    · have hfirst' := hfirst'.resolve_left hwest
      have hnext' := hnext'.resolve_left hwest'
      omega

/-! ### Reporting the periods -/

/-- The intervals between readings that both lie between the bounds of the year. -/
def intervalsBetween (site : SiteFinancials) (zone : TimeZone) (year : ℕ) : List EnergyInterval :=
  ((neighbours site.readings).filter fun pair =>
    decide (yearStart zone year ≤ pair.1.recordedAt) &&
      decide (pair.2.recordedAt < yearStart zone (year + 1))).filterMap fun pair =>
    energyInterval pair.1 pair.2

/-- Both ways report the same set of periods. -/
def SamePeriods (round : ℕ → ℚ → ℚ) (site : SiteFinancials) (pricing : SitePricing)
    (period : PeakPeriod) (zone : TimeZone) (year : ℕ) : Prop :=
  ∃ aggregated raw, siteFinancialStats round site pricing period zone year true = some aggregated ∧
    siteFinancialStats round site pricing period zone year false = some raw ∧
    ∀ key, key ∈ aggregated.map FinancialStatResult.periodStart ↔
      key ∈ raw.map FinancialStatResult.periodStart

/-- A year without intervals has no rows, and both ways read the readings. Otherwise the intervals between the
bounds are of the year, and every period of the year has one of them. -/
def PeriodsCovered (site : SiteFinancials) (period : PeakPeriod) (zone : TimeZone) (year : ℕ) : Prop :=
  (∀ i ∈ energyIntervals site.readings, (localDate zone i.startedAt).year ≠ year) ∨
    (∀ i ∈ intervalsBetween site zone year, (localDate zone i.startedAt).year = year) ∧
      ∀ i ∈ energyIntervals site.readings, (localDate zone i.startedAt).year = year →
        ∃ j ∈ intervalsBetween site zone year,
          periodKey period (localDate zone j.startedAt) = periodKey period (localDate zone i.startedAt)

/-- The readings between the bounds have the intervals between the bounds. -/
theorem energyIntervals_between (site : SiteFinancials) (zone : TimeZone) (year : ℕ) :
    energyIntervals (site.readings.filter fun r =>
        recordedWithin (yearStart zone year) (yearStart zone (year + 1)) r.recordedAt)
      = intervalsBetween site zone year := by
  have hfilter := neighbours_filter site.ordered (fun r => decide (yearStart zone year ≤ r.recordedAt))
    (fun r => decide (r.recordedAt < yearStart zone (year + 1)))
    (fun r r' hlt h => decide_eq_true ((of_decide_eq_true h).trans hlt.le))
    (fun r r' hlt h => decide_eq_true (hlt.trans (of_decide_eq_true h)))
  exact congrArg (List.filterMap fun pair => energyInterval pair.1 pair.2) hfilter

theorem mem_energyIntervals_of_between {site : SiteFinancials} {zone : TimeZone} {year : ℕ}
    {i : EnergyInterval} (h : i ∈ intervalsBetween site zone year) : i ∈ energyIntervals site.readings := by
  obtain ⟨pair, hpair, hi⟩ := List.mem_filterMap.mp h
  exact List.mem_filterMap.mpr ⟨pair, (List.mem_filter.mp hpair).1, hi⟩

/-- The periods of the raw path are those of the intervals between the bounds. -/
theorem siteFinancialStats_raw (round : ℕ → ℚ → ℚ) (site : SiteFinancials) (pricing : SitePricing)
    (period : PeakPeriod) (zone : TimeZone) (year : ℕ) :
    ∃ raw, siteFinancialStats round site pricing period zone year false = some raw ∧
      ∀ key, key ∈ raw.map FinancialStatResult.periodStart ↔ ∃ i ∈ intervalsBetween site zone year,
          periodKey period (localDate zone i.startedAt) = key := by
  set inputs := pricing.inputs zone (site.marketPrices.filter fun r =>
    recordedWithin (yearStart zone year) (yearStart zone (year + 1)) r.recordedAt) with hinputs
  set readings := site.readings.filter fun r =>
    recordedWithin (yearStart zone year) (yearStart zone (year + 1)) r.recordedAt with hreadings
  have hraw : siteFinancialStats round site pricing period zone year false
      = inputs.integrateFinancialStats round period readings := by
    show (if readings.length < 2 then some []
      else inputs.integrateFinancialStats round period readings) = _
    split_ifs with hshort
    · rw [FinancialInputs.integrateFinancialStats, if_pos hshort]
    · rfl
  refine ⟨_, hraw.trans (inputs.integrateFinancialStats_eq period round readings), fun key => ?_⟩
  have hkeys : (inputs.periodStats period (energyIntervals readings) round
      fun sek => round 2 (round 4 sek)).map FinancialStatResult.periodStart
      = inputs.periodKeys period (energyIntervals readings) := by
    rw [FinancialInputs.periodStats, List.map_map]
    exact List.map_id _
  rw [hkeys, FinancialInputs.mem_periodKeys, hreadings, energyIntervals_between]
  rfl

/-- The periods that the sums of daily rows report. -/
theorem aggregateDailyToPeriodStats_periods (round : ℕ → ℚ → ℚ) (period : PeakPeriod)
    (config : SellPriceConfig) {rows : List FinancialDailyAccumulator} (h : ∀ row ∈ rows, ∃ d, row.day = dayKey d) :
    ∃ results, aggregateDailyToPeriodStats round period config rows = some results ∧
      ∀ key, key ∈ results.map FinancialStatResult.periodStart ↔ ∃ row ∈ rows, periodOfDay period row.day = key := by
  have hyears : rows.mapM (fun row => (int (firstChars 4 row.day)).map fun year => (year, row))
      = some (rows.map fun row => (yearOf row.day, row)) := by
    refine mapM_eq_some fun row hrow => ?_
    obtain ⟨d, hd⟩ := h row hrow
    rw [hd, yearOf_dayKey]
    show (int (firstChars 4 (periodKey .day d))).map _ = _
    rw [int_periodKey, Option.map_some]
  have hgroups : ∀ key, key ∈ sortedKeys (groupRows period rows) ↔
      ∃ row ∈ rows, periodOfDay period row.day = key := by
    intro key
    rw [sortedKeys, List.mem_insertionSort, groupRows,
      mem_keys_run (fun grouped => grouped) fun row : FinancialDailyAccumulator =>
        periodOfDay period row.day]
    · rw [or_iff_right (by simp [Fields.keys]), List.mem_map]
    · intro grouped row k
      exact mem_keys_upsert _ _ _ _ _
  have hresults : ∀ yearlyExport yearlyImport : Fields ℕ ℚ,
      (sortedKeys (groupRows period rows)).mapM (fun key =>
        (int (firstChars 4 key)).map fun year => rowsResult round config yearlyExport yearlyImport
          ((Fields.get (groupRows period rows) key).getD []) key year)
      = some ((sortedKeys (groupRows period rows)).map fun key => rowsResult round config yearlyExport
          yearlyImport ((Fields.get (groupRows period rows) key).getD []) key (yearOf key)) := by
    intro yearlyExport yearlyImport
    refine mapM_eq_some fun key hkey => ?_
    obtain ⟨row, hrow, rfl⟩ := (hgroups key).mp hkey
    obtain ⟨d, hd⟩ := h row hrow
    rw [hd, periodOfDay_dayKey, int_periodKey, yearOf_periodKey, Option.map_some]
  simp only [aggregateDailyToPeriodStats, hyears, Option.bind_some, hresults]
  refine ⟨_, rfl, fun key => ?_⟩
  rw [List.map_map, ← hgroups]
  show key ∈ (sortedKeys (groupRows period rows)).map (fun key => key) ↔ _
  rw [List.map_id']

/-- The rows of the year have texts of dates. -/
theorem day_of_mem_yearRows {acc : FinancialDailyAccumulator} (h : acc ∈ yearRows site zone year) :
    ∃ d, acc.day = dayKey d := by
  obtain ⟨row, -, -, rfl⟩ := mem_listForSite.mp h
  exact ⟨row.1, rfl⟩

/-- The rows of the year, if they are selected exactly, are those of its days with intervals. -/
theorem mem_yearRows_iff (hrolled : RolledUp site zone) (hselected : YearSelected site zone year)
    (period : PeakPeriod) (key : String) : (∃ acc ∈ yearRows site zone year, periodOfDay period acc.day = key) ↔
      ∃ i ∈ energyIntervals site.readings, (localDate zone i.startedAt).year = year ∧
        periodKey period (localDate zone i.startedAt) = key := by
  constructor
  · rintro ⟨acc, hacc, rfl⟩
    obtain ⟨hall, hyear⟩ := (hselected acc).mp hacc
    obtain ⟨row, hrow, -, rfl⟩ := mem_listForSite.mp hall
    obtain ⟨i, hi, hday⟩ := (hrolled row.1).mp (List.mem_map_of_mem hrow)
    refine ⟨i, hi, ?_, ?_⟩
    · rw [hday, ← hyear]
      exact (yearOf_dayKey row.1).symm
    · rw [hday]
      exact (periodOfDay_dayKey period row.1).symm
  · rintro ⟨i, hi, hyear, rfl⟩
    obtain ⟨row, hrow, hday⟩ := List.mem_map.mp ((hrolled _).mpr ⟨i, hi, rfl⟩)
    refine ⟨readRow row, (hselected _).mpr ⟨mem_listForSite.mpr ⟨row, hrow, rfl, rfl⟩, ?_⟩, ?_⟩
    · rw [← hyear, ← hday]
      exact yearOf_dayKey row.1
    · rw [← hday]
      exact periodOfDay_dayKey period row.1

/-- **When both ways report the same periods.** -/
theorem samePeriods_iff (hrolled : RolledUp site zone) (hselected : YearSelected site zone year)
    (round : ℕ → ℚ → ℚ) (pricing : SitePricing) (period : PeakPeriod) :
    SamePeriods round site pricing period zone year ↔ PeriodsCovered site period zone year := by
  obtain ⟨raw, hraw, hrawkeys⟩ := siteFinancialStats_raw round site pricing period zone year
  by_cases hempty : yearRows site zone year = []
  · -- no rows: the call falls back to the readings
    have hnone : ∀ i ∈ energyIntervals site.readings, (localDate zone i.startedAt).year ≠ year := by
      intro i hi hyear
      obtain ⟨acc, hacc, -⟩ := (mem_yearRows_iff hrolled hselected period _).mpr ⟨i, hi, hyear, rfl⟩
      rw [hempty] at hacc
      exact List.not_mem_nil hacc
    have hsame : siteFinancialStats round site pricing period zone year true
        = siteFinancialStats round site pricing period zone year false := by
      show (if yearRows site zone year ≠ [] then _ else _) = _
      rw [if_neg (not_not.mpr hempty)]
      rfl
    exact iff_of_true ⟨raw, raw, hsame.trans hraw, hraw, fun key => Iff.rfl⟩ (.inl hnone)
  · obtain ⟨aggregated, hagg, haggkeys⟩ := aggregateDailyToPeriodStats_periods round period
      pricing.config fun acc (hacc : acc ∈ yearRows site zone year) => day_of_mem_yearRows hacc
    have hagg : siteFinancialStats round site pricing period zone year true = some aggregated := by
      show (if yearRows site zone year ≠ [] then
        aggregateDailyToPeriodStats round period pricing.config (yearRows site zone year) else _) = _
      rw [if_pos hempty]
      exact hagg
    have hiff : SamePeriods round site pricing period zone year ↔ ∀ key,
        (∃ i ∈ energyIntervals site.readings, (localDate zone i.startedAt).year = year ∧
          periodKey period (localDate zone i.startedAt) = key) ↔
        ∃ i ∈ intervalsBetween site zone year,
          periodKey period (localDate zone i.startedAt) = key := by
      constructor
      · rintro ⟨aggregated', raw', hagg', hraw', hkeys⟩ key
        rw [hagg, Option.some_inj] at hagg'
        rw [hraw, Option.some_inj] at hraw'
        subst hagg' hraw'
        rw [← mem_yearRows_iff hrolled hselected, ← haggkeys, hkeys, hrawkeys]
      · intro hkeys
        refine ⟨aggregated, raw, hagg, hraw, fun key => ?_⟩
        rw [haggkeys, hrawkeys, mem_yearRows_iff hrolled hselected, hkeys]
    rw [hiff]
    constructor
    · intro hkeys
      refine .inr ⟨fun i hi => ?_, fun i hi hyear => (hkeys _).mp ⟨i, hi, hyear, rfl⟩⟩
      obtain ⟨j, -, hyear, hperiod⟩ := (hkeys _).mpr ⟨i, hi, rfl⟩
      have hyears := congrArg yearOf hperiod
      rw [yearOf_periodKey, yearOf_periodKey] at hyears
      exact hyears.symm.trans hyear
    · rintro (hnone | ⟨hbetween, hcovered⟩) key
      · obtain ⟨acc, hacc⟩ := List.exists_mem_of_ne_nil _ hempty
        obtain ⟨i, hi, hyear, -⟩ := (mem_yearRows_iff hrolled hselected period _).mp ⟨acc, hacc, rfl⟩
        exact absurd hyear (hnone i hi)
      · constructor
        · rintro ⟨i, hi, hyear, rfl⟩
          exact hcovered i hi hyear
        · rintro ⟨i, hi, rfl⟩
          exact ⟨i, mem_energyIntervals_of_between hi, hbetween i hi, rfl⟩

/-- **Year selection.** With every day rolled up, the daily rows of a year are selected exactly, and both ways
report the same periods, if and only if each end of the year is exact and no period is left with the interval
across the end of the year alone. -/
theorem year_reported_iff (round : ℕ → ℚ → ℚ) (site : SiteFinancials) (pricing : SitePricing)
    (period : PeakPeriod) (zone : TimeZone) (year : ℕ) (hlo : 1 < year) (hhi : year < 9999)
    (hrolled : RolledUp site zone) : (YearSelected site zone year ∧ SamePeriods round site pricing period zone year) ↔
      (NewYearExact site zone year ∧ NewYearExact site zone (year + 1)) ∧ PeriodsCovered site period zone year := by
  rw [← yearSelected_iff hrolled hlo hhi]
  constructor
  · rintro ⟨hselected, hsame⟩
    exact ⟨hselected, (samePeriods_iff hrolled hselected round pricing period).mp hsame⟩
  · rintro ⟨hselected, hcovered⟩
    exact ⟨hselected, (samePeriods_iff hrolled hselected round pricing period).mpr hcovered⟩

/-- Two intervals, on the last days of 2023 and of 2024, and their rows. -/
def lastDays : SiteFinancials where
  readings := [1704024000, 1704024300, 1735646400, 1735646700].map fun t => { recordedAt := t }
  daily := [1704024000, 1735646400].map fun t => (localDate utc t, { day := dayKey (localDate utc t) })
  ordered := by decide +kernel

/-- Central European time in 2024. -/
def centralEurope : TimeZone where
  offset := 3600
  transitions := [(1711846800, 7200), (1729990800, 3600)]
  ordered := by decide +kernel
  wallOrdered := by decide +kernel
  bounded := by decide +kernel

theorem rolledUp_of_keys_eq {site : SiteFinancials} {zone : TimeZone} (h : Fields.keys site.daily
      = (energyIntervals site.readings).map fun i => localDate zone i.startedAt) : RolledUp site zone := by
  intro d
  rw [h, List.mem_map]
  rfl

theorem year_reported_iff_utc :
    (YearSelected lastDays utc 2024 ∧
        SamePeriods (fun _ x => x) lastDays { fallbackPurchasePriceSekKwh := 2, exportCompensationSekKwh := 1 }
          .month utc 2024) ↔
      (NewYearExact lastDays utc 2024 ∧ NewYearExact lastDays utc 2025) ∧
        PeriodsCovered lastDays .month utc 2024 :=
  year_reported_iff _ lastDays _ .month utc 2024 (by decide) (by decide)
    (rolledUp_of_keys_eq (by decide +kernel))

/-- In Central Europe the query for 2024 selects the last day of 2023, and not that of 2024. -/
theorem year_reported_fails : RolledUp lastDays centralEurope ∧ ¬ YearSelected lastDays centralEurope 2024 ∧
      (yearRows lastDays centralEurope 2024).map (fun acc => acc.day) = ["2023-12-31"] := by
  have hrows : (yearRows lastDays centralEurope 2024).map (fun acc => acc.day) = ["2023-12-31"] := by
    decide +kernel
  refine ⟨rolledUp_of_keys_eq (by decide +kernel), fun hselected => ?_, hrows⟩
  have hmem : "2023-12-31" ∈ (yearRows lastDays centralEurope 2024).map fun acc => acc.day := by
    rw [hrows]
    exact List.mem_singleton_self _
  obtain ⟨acc, hacc, hday⟩ := List.mem_map.mp hmem
  have hyear := ((hselected acc).mp hacc).2
  rw [hday] at hyear
  exact absurd hyear (by decide +kernel)

end EnergyCore.Financial
