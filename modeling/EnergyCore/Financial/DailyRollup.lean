import EnergyCore.Financial.DailyTable
import EnergyCore.Financial.StatsAgree
import EnergyCore.Foundations.Neighbours

/-!
# Rolling up the days

`FinancialAggregationService.rollup_site` integrates the readings from the local midnight of the day before,
and overwrites the rows of the days it finds.

* `get_rollupSite` — a run overwrites the rows of the days in its window;
* `dayEntry_of_dayAfter`, `dayEntry_of_later` — what the windows of later runs hold of a day;
* `storedRow_eq_oneShotRow` — the rows of completed days.
-/

namespace EnergyCore.Financial

open KeywordFields KeyedTotals StepRun TimeZones
open Neighbours
open Prices (Settings MarketPriceRecord)

/-! ### A run -/

/-- The start of the window: the local midnight `days_back - 1` days ago. -/
def windowStart (zone : TimeZone) (now : Instant) (daysBack : ℕ) : Instant :=
  zone.toUtc (TimeZone.midnight (zone.localDay now - (daysBack - 1)))

/-- The end of the window. -/
def windowEnd (now : Instant) : Instant := now + 86400

/-- The accumulators of a run, which sees the readings recorded so far. -/
def windowDays (site : SiteFinancials) (pricing : SitePricing) (zone : TimeZone) (now : Instant)
    (daysBack : ℕ) : Fields String FinancialDailyAccumulator :=
  let within := recordedWithin (windowStart zone now daysBack) (windowEnd now)
  let recorded := site.readings.filter fun r => decide (r.recordedAt ≤ now)
  let readings := recorded.filter fun r => within r.recordedAt
  let priceRows := site.marketPrices.filter fun r => within r.recordedAt
  (pricing.inputs zone priceRows).integrateFinancialDailyAccumulators readings

/-- `rollup_site`: the table afterwards, and the number of rows written. -/
def rollupSite (site : SiteFinancials) (pricing : SitePricing) (zone : TimeZone) (now : Instant)
    (daysBack : ℕ) (table : FinancialDailyTable) : Option (FinancialDailyTable × ℕ) :=
  let daily := windowDays site pricing zone now daysBack
  ((daily.map Prod.snd).foldlM upsertDaily table).map fun table => (table, daily.length)

/-- A sequence of runs with `days_back=2`, from an empty table. -/
def rollups (site : SiteFinancials) (pricing : SitePricing) (zone : TimeZone) (nows : List Instant) :
    Option FinancialDailyTable :=
  nows.foldlM (fun table now => (rollupSite site pricing zone now 2 table).map Prod.fst) []

/-- The row of a day after the runs. -/
def storedRow (site : SiteFinancials) (pricing : SitePricing) (zone : TimeZone) (nows : List Instant)
    (day : CivilDate) : Option (Option FinancialDailyAccumulator) :=
  (rollups site pricing zone nows).map fun table => Fields.get table day

/-- The entry of a day when all readings are integrated at once. -/
def oneShotRow (site : SiteFinancials) (pricing : SitePricing) (zone : TimeZone) (day : CivilDate) :
    Option FinancialDailyAccumulator :=
  Fields.get ((pricing.inputs zone site.marketPrices).integrateFinancialDailyAccumulators
    site.readings) (dayKey day)

/-! ### Entries of days -/

/-- The entry of a day, made by the intervals of the day alone. -/
def dayEntry (inputs : FinancialInputs) (key : String) (intervals : List EnergyInterval) :
    Option FinancialDailyAccumulator :=
  (intervals.filter fun i => decide (dayKey (inputs.date i) = key)).foldl
    (fun entry i => some (inputs.addDailyExport i (inputs.addDailyEnergy i (entry.getD { day := key }))))
    none

theorem get_integrateDaily (inputs : FinancialInputs) (readings : List EnergyReading) (key : String) :
    Fields.get (inputs.integrateFinancialDailyAccumulators readings) key
      = dayEntry inputs key (energyIntervals readings) := by
  rw [FinancialInputs.integrateFinancialDailyAccumulators_eq]
  have hentry := get_upsert_run (fun i => dayKey (inputs.date i))
    (fun key => ({ day := key } : FinancialDailyAccumulator))
    (fun i acc => inputs.addDailyExport i (inputs.addDailyEnergy i acc)) [] (energyIntervals readings) key
  exact hentry

/-- Writing named rows of existing dates succeeds, and overwrites. -/
theorem get_upsertAll {daily : Fields String FinancialDailyAccumulator} (hkeys : (Fields.keys daily).Nodup)
    (hnamed : ∀ e ∈ daily, e.2.day = e.1 ∧ ∃ d : CivilDate, d.Valid ∧ e.1 = dayKey d)
    (table : FinancialDailyTable) : ∃ table', (daily.map Prod.snd).foldlM upsertDaily table = some table' ∧
      ∀ d : CivilDate, d.Valid → Fields.get table' d = (Fields.get daily (dayKey d)).or (Fields.get table d) := by
  induction daily generalizing table with
  | nil => exact ⟨table, rfl, fun d _ => rfl⟩
  | cons e daily ih =>
    obtain ⟨hfresh, hkeys⟩ := List.nodup_cons.mp hkeys
    obtain ⟨hday, day, hvalid, hkey⟩ := hnamed e List.mem_cons_self
    obtain ⟨table', hfold, hget⟩ := ih hkeys (fun e' he' => hnamed e' (List.mem_cons_of_mem e he'))
      (Fields.assign table day e.2)
    have hupsert : upsertDaily table e.2 = some (Fields.assign table day e.2) := by
      rw [upsertDaily, hday, hkey, CivilDate.fromIsoFormat_dayKey hvalid, Option.map_some]
    refine ⟨table', ?_, fun d hd => ?_⟩
    · rw [List.map_cons, List.foldlM_cons, hupsert]
      exact hfold
    · rw [hget d hd]
      by_cases hsame : d = day
      · have hnone : Fields.get daily (dayKey d) = none := by
          rw [hsame, ← hkey]
          exact Fields.get_of_notMem hfresh
        have hfound : Fields.get (e :: daily) (dayKey d) = some e.2 := by
          rw [Fields.get, List.find?_cons_of_pos (by rw [hsame, hkey, decide_eq_true_eq])]
          rfl
        rw [hnone, hfound, hsame, Fields.get_assign_self]
        rfl
      · have hne : ¬ e.1 = dayKey d := by
          rw [hkey]
          exact fun heq => hsame (CivilDate.dayKey_injective hvalid hd heq).symm
        have hskip : Fields.get (e :: daily) (dayKey d) = Fields.get daily (dayKey d) := by
          rw [Fields.get, List.find?_cons_of_neg (by rw [decide_eq_true_eq]; exact hne)]
          rfl
        rw [hskip, Fields.get_assign_of_ne table hsame]

section

variable (site : SiteFinancials) (pricing : SitePricing) (zone : TimeZone) (now : Instant)

/-- The pairs of readings that a run sees. -/
def windowPairs : List (EnergyReading × EnergyReading) :=
  (neighbours site.readings).filter fun pair =>
    decide (windowStart zone now 2 ≤ pair.1.recordedAt) &&
      (decide (pair.2.recordedAt < windowEnd now) && decide (pair.2.recordedAt ≤ now))

/-- The intervals that a run sees. -/
def windowIntervals : List EnergyInterval :=
  (windowPairs site zone now).filterMap fun pair => energyInterval pair.1 pair.2

/-- The arguments of the integration in a run. -/
def windowInputs : FinancialInputs :=
  pricing.inputs zone (site.marketPrices.filter fun r =>
    recordedWithin (windowStart zone now 2) (windowEnd now) r.recordedAt)

theorem energyIntervals_window :
    energyIntervals ((site.readings.filter fun r => decide (r.recordedAt ≤ now)).filter fun r =>
        recordedWithin (windowStart zone now 2) (windowEnd now) r.recordedAt)
      = windowIntervals site zone now := by
  have hreadings : (site.readings.filter fun r => decide (r.recordedAt ≤ now)).filter (fun r =>
      recordedWithin (windowStart zone now 2) (windowEnd now) r.recordedAt)
      = site.readings.filter fun r => decide (windowStart zone now 2 ≤ r.recordedAt) &&
        (decide (r.recordedAt < windowEnd now) && decide (r.recordedAt ≤ now)) := by
    rw [List.filter_filter]
    refine List.filter_congr fun r _ => ?_
    rw [recordedWithin, Bool.and_assoc]
  have hfilter := neighbours_filter site.ordered (fun r => decide (windowStart zone now 2 ≤ r.recordedAt))
    (fun r => decide (r.recordedAt < windowEnd now) && decide (r.recordedAt ≤ now))
    (fun r r' hlt h => decide_eq_true ((of_decide_eq_true h).trans hlt.le))
    (fun r r' hlt h => by
      rw [Bool.and_eq_true, decide_eq_true_eq, decide_eq_true_eq] at h ⊢
      exact ⟨hlt.trans h.1, hlt.le.trans h.2⟩)
  rw [hreadings]
  exact congrArg (List.filterMap fun pair => energyInterval pair.1 pair.2) hfilter

/-- A run integrates the intervals that it sees. -/
theorem get_windowDays (key : String) : Fields.get (windowDays site pricing zone now 2) key
      = dayEntry (windowInputs site pricing zone now) key (windowIntervals site zone now) := by
  rw [← energyIntervals_window]
  exact get_integrateDaily _ _ key

/-- **A run** overwrites the rows of the days in its window, and leaves the others alone. -/
theorem get_rollupSite (table : FinancialDailyTable) :
    ∃ table', (rollupSite site pricing zone now 2 table).map Prod.fst = some table' ∧
      ∀ d : CivilDate, d.Valid → Fields.get table' d
        = (dayEntry (windowInputs site pricing zone now) (dayKey d) (windowIntervals site zone now)).or
          (Fields.get table d) := by
  have heq : windowDays site pricing zone now 2
      = run (windowInputs site pricing zone now).dailyStep [] (windowIntervals site zone now) := by
    rw [← energyIntervals_window]
    exact FinancialInputs.integrateFinancialDailyAccumulators_eq _ _
  have hkept := (windowInputs site pricing zone now).daysKept_dailyRun (windowIntervals site zone now)
  have hnamed : ∀ e ∈ windowDays site pricing zone now 2,
      e.2.day = e.1 ∧ ∃ d : CivilDate, d.Valid ∧ e.1 = dayKey d := by
    intro e he
    rw [heq] at he
    obtain ⟨i, -, hkey⟩ := ((windowInputs site pricing zone now).mem_keys_dailyRun _ e.1).mp (List.mem_map_of_mem he)
    exact ⟨(hkept.named e he).1, _, valid_localDate zone _, hkey.symm⟩
  obtain ⟨table', hfold, hget⟩ := get_upsertAll (by rw [heq]; exact hkept.nodup) hnamed table
  refine ⟨table', ?_, fun d hd => ?_⟩
  · rw [rollupSite, Option.map_map]
    show ((windowDays site pricing zone now 2).map Prod.snd |>.foldlM upsertDaily table).map
      (fun table => table) = some table'
    rw [hfold]
    rfl
  · rw [hget d hd, get_windowDays]

end

/-! ### Prices of an hour -/

/-- The prices under an hour. -/
def PriceMaps.at (maps : PriceMaps) (hourKey : Instant) : Option ℚ × Option ℚ × Option ℚ :=
  (Fields.get maps.purchasePrices hourKey, Fields.get maps.spotPrices hourKey,
    Fields.get maps.feedInPrices hourKey)

theorem get_assignPrice (cfg : Settings) (prices : Fields Instant ℚ) (hourKey hour : Instant)
    (valueEur : Option ℚ) : Fields.get (assignPrice cfg prices hourKey valueEur) hour
      = if hourKey = hour then (Prices.storedEurToSekKwh cfg valueEur).or (Fields.get prices hour)
        else Fields.get prices hour := by
  unfold assignPrice
  cases Prices.storedEurToSekKwh cfg valueEur with
  | none =>
    split_ifs
    · rfl
    · rfl
  | some valueSek =>
    dsimp only
    split_ifs with hhour
    · rw [hhour, Fields.get_assign_self]
      rfl
    · rw [Fields.get_assign_of_ne prices (Ne.symm hhour)]

/-- A row changes the prices of its own hour only, depending on these. -/
theorem at_addPriceRow (cfg : Settings) (maps maps' : PriceMaps) (row : MarketPriceRecord)
    {hour : Instant} (h : maps.at hour = maps'.at hour) :
    (addPriceRow cfg maps row).at hour = (addPriceRow cfg maps' row).at hour ∧
      (hourStart row.recordedAt ≠ hour → (addPriceRow cfg maps row).at hour = maps.at hour) := by
  obtain ⟨hpurchase, hrest⟩ := Prod.mk.inj h
  obtain ⟨hspot, hfeedIn⟩ := Prod.mk.inj hrest
  constructor
  · simp only [PriceMaps.at, addPriceRow, get_assignPrice, hpurchase, hspot, hfeedIn]
  · intro hother
    simp only [PriceMaps.at, addPriceRow, get_assignPrice, if_neg hother]

/-- Rows of other hours can be left out. -/
theorem at_buildPriceMaps_filter (cfg : Settings) {rows : List MarketPriceRecord} {hour : Instant}
    {keep : MarketPriceRecord → Bool} (h : ∀ row ∈ rows, hourStart row.recordedAt = hour → keep row = true) :
    (buildPriceMaps cfg (rows.filter keep)).at hour = (buildPriceMaps cfg rows).at hour := by
  have hrun : ∀ maps maps' : PriceMaps, maps.at hour = maps'.at hour →
      (run (addPriceRow cfg) maps (rows.filter keep)).at hour
        = (run (addPriceRow cfg) maps' rows).at hour := by
    induction rows with
    | nil =>
      intro maps maps' hmaps
      exact hmaps
    | cons row rows ih =>
      intro maps maps' hmaps
      have hrest := ih fun row' hrow' => h row' (List.mem_cons_of_mem row hrow')
      obtain ⟨hsame, -⟩ := at_addPriceRow cfg maps maps' row hmaps
      by_cases hkeep : keep row = true
      · rw [List.filter_cons_of_pos hkeep, run_cons, run_cons]
        exact hrest _ _ hsame
      · have hother : hourStart row.recordedAt ≠ hour := fun heq => hkeep (h row List.mem_cons_self heq)
        rw [List.filter_cons_of_neg hkeep, run_cons]
        refine hrest _ _ (hmaps.trans ?_)
        exact ((at_addPriceRow cfg maps' maps' row rfl).2 hother).symm
  exact hrun {} {} rfl

/-- The daily loop looks at the prices of the hour in which an interval starts. -/
theorem addDaily_congr (pricing : SitePricing) (zone : TimeZone) {rows rows' : List MarketPriceRecord}
    {i : EnergyInterval} (h : (buildPriceMaps pricing.settings rows).at (hourStart i.startedAt)
      = (buildPriceMaps pricing.settings rows').at (hourStart i.startedAt)) (acc : FinancialDailyAccumulator) :
    (pricing.inputs zone rows).addDailyExport i ((pricing.inputs zone rows).addDailyEnergy i acc)
      = (pricing.inputs zone rows').addDailyExport i ((pricing.inputs zone rows').addDailyEnergy i acc) := by
  obtain ⟨hpurchase, hrest⟩ := Prod.mk.inj h
  obtain ⟨hspot, hfeedIn⟩ := Prod.mk.inj hrest
  have hmarket : (pricing.inputs zone rows).marketPrice i = (pricing.inputs zone rows').marketPrice i := hpurchase
  have hexport : (pricing.inputs zone rows).exportPrice i = (pricing.inputs zone rows').exportPrice i := by
    unfold FinancialInputs.exportPrice
    cases hmode : pricing.config.pricingMode with
    | feedIn => simpa only [SitePricing.inputs, hmode] using hfeedIn
    | spot => simpa only [SitePricing.inputs, hmode] using hspot
    | flat => simp only [SitePricing.inputs, hmode]
  have henergy : (pricing.inputs zone rows).addDailyEnergy i acc
      = (pricing.inputs zone rows').addDailyEnergy i acc := by
    unfold FinancialInputs.addDailyEnergy FinancialInputs.purchasePrice FinancialInputs.marketPricedKwh
    rw [hmarket]
    rfl
  rw [henergy]
  unfold FinancialInputs.addDailyExport FinancialInputs.accumulateExport
  rw [hexport]
  rfl

theorem dayEntry_congr (pricing : SitePricing) (zone : TimeZone) {rows rows' : List MarketPriceRecord}
    {key : String} {intervals intervals' : List EnergyInterval}
    (hsame : intervals.filter (fun i => decide (dayKey (localDate zone i.startedAt) = key))
      = intervals'.filter fun i => decide (dayKey (localDate zone i.startedAt) = key))
    (hprices : ∀ i ∈ intervals, dayKey (localDate zone i.startedAt) = key →
      (buildPriceMaps pricing.settings rows).at (hourStart i.startedAt)
        = (buildPriceMaps pricing.settings rows').at (hourStart i.startedAt)) :
    dayEntry (pricing.inputs zone rows) key intervals = dayEntry (pricing.inputs zone rows') key intervals' := by
  unfold dayEntry
  show (intervals.filter fun i => decide (dayKey (localDate zone i.startedAt) = key)).foldl _ none
    = (intervals'.filter fun i => decide (dayKey (localDate zone i.startedAt) = key)).foldl _ none
  rw [← hsame]
  refine List.foldl_ext _ _ none fun entry i hi => ?_
  obtain ⟨hmem, hkey⟩ := List.mem_filter.mp hi
  exact congrArg some (addDaily_congr pricing zone (hprices i hmem (of_decide_eq_true hkey)) _)

/-! ### What later windows hold of a day -/

section

variable {site : SiteFinancials} {zone : TimeZone} {n : ℤ}

/-- The date of a day that `datetime` has is met on that day alone. -/
theorem dayKey_localDate_iff (hlo : CivilDate.minDayNumber < n) (hhi : n < CivilDate.maxDayNumber) (t : Instant) :
    dayKey (localDate zone t) = dayKey (CivilDate.ofDayNumber n) ↔ zone.localDay t = n := by
  constructor
  · intro h
    have hdate := CivilDate.dayKey_injective (valid_localDate zone t) (CivilDate.valid_ofDayNumber n) h
    have hnumber := congrArg CivilDate.dayNumber hdate
    rw [localDate, CivilDate.dayNumber_ofDayNumber, CivilDate.dayNumber_ofDayNumber] at hnumber
    unfold CivilDate.clampDay at hnumber
    unfold CivilDate.minDayNumber CivilDate.maxDayNumber at *
    omega
  · intro h
    rw [localDate, h]

theorem startedAt_of_energyInterval {previous current : EnergyReading} {i : EnergyInterval}
    (h : energyInterval previous current = some i) : i.startedAt = previous.recordedAt := by
  unfold energyInterval at h
  dsimp only at h
  split_ifs at h
  rw [← Option.some_inj.mp h]

/-- Dropping pairs of other days keeps the intervals of the day. -/
theorem filter_windowIntervals {pairs : List (EnergyReading × EnergyReading)} {key : String}
    {keep : EnergyReading × EnergyReading → Bool}
    (h : ∀ pair ∈ pairs, dayKey (localDate zone pair.1.recordedAt) = key →
      (energyInterval pair.1 pair.2).isSome → keep pair = true) :
    ((pairs.filter keep).filterMap fun pair => energyInterval pair.1 pair.2).filter
        (fun i => decide (dayKey (localDate zone i.startedAt) = key))
      = (pairs.filterMap fun pair => energyInterval pair.1 pair.2).filter
        fun i => decide (dayKey (localDate zone i.startedAt) = key) := by
  rw [List.filterMap_filter, List.filter_filterMap, List.filter_filterMap]
  refine List.filterMap_congr fun pair hpair => ?_
  by_cases hkeep : keep pair = true
  · rw [if_pos hkeep]
  · rw [if_neg hkeep]
    cases hinterval : energyInterval pair.1 pair.2 with
    | none => rfl
    | some i =>
      have hday : ¬ dayKey (localDate zone i.startedAt) = key := by
        rw [startedAt_of_energyInterval hinterval]
        exact fun hday => hkeep (h pair hpair hday (by rw [hinterval]; rfl))
      rw [Option.filter_some, if_neg (by rw [decide_eq_true_eq]; exact hday)]
      rfl

/-- A day without intervals has no entry. -/
theorem dayEntry_eq_none_iff (inputs : FinancialInputs) (key : String) (intervals : List EnergyInterval) :
    dayEntry inputs key intervals = none ↔ intervals.filter (fun i => decide (dayKey (inputs.date i) = key)) = [] := by
  unfold dayEntry
  generalize intervals.filter (fun i => decide (dayKey (inputs.date i) = key)) = ofDay
  constructor
  · intro hnone
    rcases List.eq_nil_or_concat ofDay with rfl | ⟨init, last, rfl⟩
    · rfl
    · rw [List.concat_eq_append, List.foldl_append] at hnone
      exact absurd hnone (Option.some_ne_none _)
  · rintro rfl
    rfl

variable (site zone n) in
/-- A run in the day after, once the reading that ends the last interval of the day is recorded. -/
def CompletedBy (now : Instant) : Prop :=
  zone.localDay now = n + 1 ∧ ∀ pair ∈ neighbours site.readings, zone.localDay pair.1.recordedAt = n →
    (energyInterval pair.1 pair.2).isSome → pair.2.recordedAt ≤ now

variable (site zone n) in
/-- No price was recorded in the hour of the day's midnight before the midnight. -/
def PricesFromMidnight : Prop :=
  ∀ row ∈ site.marketPrices, hourStart (zone.toUtc (TimeZone.midnight n)) ≤ row.recordedAt →
    zone.toUtc (TimeZone.midnight n) ≤ row.recordedAt

/-- The window of a run in the day after begins with the day. -/
theorem windowStart_of_dayAfter {now : Instant} (h : zone.localDay now = n + 1) :
    windowStart zone now 2 = zone.toUtc (TimeZone.midnight n) := by
  have hday : zone.localDay now - ((2 : ℕ) - 1) = n := by
    push_cast
    omega
  rw [windowStart, hday]

/-- **In the day after**, a run makes the whole entry of the day. -/
theorem dayEntry_of_dayAfter (pricing : SitePricing) (hlo : CivilDate.minDayNumber < n)
    (hhi : n < CivilDate.maxDayNumber) (hunbroken : zone.Unbroken (TimeZone.midnight n))
    (hprices : PricesFromMidnight site zone n) {now : Instant} (h : CompletedBy site zone n now) :
    dayEntry (windowInputs site pricing zone now) (dayKey (CivilDate.ofDayNumber n))
        (windowIntervals site zone now) = oneShotRow site pricing zone (CivilDate.ofDayNumber n) := by
  obtain ⟨hafter, hcomplete⟩ := h
  have hstart := windowStart_of_dayAfter hafter
  rw [oneShotRow, get_integrateDaily]
  refine dayEntry_congr pricing zone (filter_windowIntervals fun pair hpair hkey hsome => ?_)
    fun i hi hkey => ?_
  · have hday := (dayKey_localDate_iff hlo hhi _).mp hkey
    have hfrom := (zone.le_localDay_iff hunbroken pair.1.recordedAt).mp hday.ge
    have huntil := hcomplete pair hpair hday hsome
    rw [Bool.and_eq_true, Bool.and_eq_true, decide_eq_true_eq, decide_eq_true_eq, decide_eq_true_eq, hstart]
    refine ⟨hfrom, ?_, huntil⟩
    unfold windowEnd
    linarith
  · obtain ⟨pair, hpair, hinterval⟩ := List.mem_filterMap.mp hi
    rw [startedAt_of_energyInterval hinterval]
    obtain ⟨hmem, hwindow⟩ := List.mem_filter.mp hpair
    rw [Bool.and_eq_true, Bool.and_eq_true, decide_eq_true_eq, decide_eq_true_eq, decide_eq_true_eq, hstart] at hwindow
    obtain ⟨hfrom, -, huntil⟩ := hwindow
    have hbefore := lt_of_mem_neighbours site.ordered hmem
    refine at_buildPriceMaps_filter _ fun row hrow hhour => ?_
    have hlt := lt_hourStart_add row.recordedAt
    have hle := hourStart_le row.recordedAt
    have hstarted := hourStart_le pair.1.recordedAt
    have hrecorded : zone.toUtc (TimeZone.midnight n) ≤ row.recordedAt := by
      refine hprices row hrow ?_
      calc hourStart (zone.toUtc (TimeZone.midnight n))
          ≤ hourStart pair.1.recordedAt := hourStart_mono hfrom
        _ = hourStart row.recordedAt := hhour.symm
        _ ≤ row.recordedAt := hle
    unfold recordedWithin windowEnd
    rw [Bool.and_eq_true, decide_eq_true_eq, decide_eq_true_eq, hstart]
    refine ⟨hrecorded, ?_⟩
    rw [hhour] at hlt
    linarith

/-- **After that**, the windows begin later than the day. -/
theorem dayEntry_of_later (pricing : SitePricing) (hlo : CivilDate.minDayNumber < n)
    (hhi : n < CivilDate.maxDayNumber) {now : Instant} (hlater : n + 2 ≤ zone.localDay now)
    (hunbroken : zone.Unbroken (TimeZone.midnight (zone.localDay now - 1))) :
    dayEntry (windowInputs site pricing zone now) (dayKey (CivilDate.ofDayNumber n))
      (windowIntervals site zone now) = none := by
  have hday : zone.localDay now - ((2 : ℕ) - 1) = zone.localDay now - 1 := by
    push_cast
    omega
  rw [dayEntry_eq_none_iff, List.filter_eq_nil_iff]
  intro i hi hkey
  obtain ⟨pair, hpair, hinterval⟩ := List.mem_filterMap.mp hi
  have hwindow := (List.mem_filter.mp hpair).2
  rw [Bool.and_eq_true, decide_eq_true_eq, windowStart, hday] at hwindow
  have hge := (zone.le_localDay_iff hunbroken pair.1.recordedAt).mpr hwindow.1
  have hsame := (dayKey_localDate_iff hlo hhi i.startedAt).mp (of_decide_eq_true hkey)
  rw [startedAt_of_energyInterval hinterval] at hsame
  omega

/-- A day without intervals has none in a window. -/
theorem dayEntry_of_oneShot_none (pricing : SitePricing) (day : CivilDate) (now : Instant)
    (h : oneShotRow site pricing zone day = none) :
    dayEntry (windowInputs site pricing zone now) (dayKey day) (windowIntervals site zone now) = none := by
  rw [oneShotRow, get_integrateDaily, dayEntry_eq_none_iff, List.filter_eq_nil_iff] at h
  rw [dayEntry_eq_none_iff, List.filter_eq_nil_iff]
  intro i hi
  obtain ⟨pair, hpair, hinterval⟩ := List.mem_filterMap.mp hi
  exact h i (List.mem_filterMap.mpr ⟨pair, (List.mem_filter.mp hpair).1, hinterval⟩)

end

/-! ### Sequences of runs -/

/-- The rows after more runs: if every run makes the entry of a day or none, the row stays. -/
theorem get_rollups_of_kept (site : SiteFinancials) (pricing : SitePricing) (zone : TimeZone)
    {day : CivilDate} (hday : day.Valid) (entry : Option FinancialDailyAccumulator) {nows : List Instant}
    (h : ∀ now ∈ nows, dayEntry (windowInputs site pricing zone now) (dayKey day)
        (windowIntervals site zone now) = entry ∨
      dayEntry (windowInputs site pricing zone now) (dayKey day) (windowIntervals site zone now) = none)
    (table : FinancialDailyTable) (htable : Fields.get table day = entry) :
    ∃ table', nows.foldlM (fun table now => (rollupSite site pricing zone now 2 table).map Prod.fst)
      table = some table' ∧ Fields.get table' day = entry := by
  induction nows generalizing table with
  | nil => exact ⟨table, rfl, htable⟩
  | cons now nows ih =>
    obtain ⟨next, hnext, hget⟩ := get_rollupSite site pricing zone now table
    have hentry : Fields.get next day = entry := by
      rw [hget day hday, htable]
      rcases h now List.mem_cons_self with hmade | hnone
      · rw [hmade]
        cases entry <;> rfl
      · rw [hnone]
        rfl
    obtain ⟨table', hfold, hlast⟩ := ih (fun now' hnow' => h now' (List.mem_cons_of_mem now hnow')) next hentry
    refine ⟨table', ?_, hlast⟩
    rw [List.foldlM_cons, hnext]
    exact hfold

theorem rollups_isSome (site : SiteFinancials) (pricing : SitePricing) (zone : TimeZone)
    (nows : List Instant) (table : FinancialDailyTable) :
    ∃ table', nows.foldlM (fun table now => (rollupSite site pricing zone now 2 table).map Prod.fst)
      table = some table' := by
  induction nows generalizing table with
  | nil => exact ⟨table, rfl⟩
  | cons now nows ih =>
    obtain ⟨next, hnext, -⟩ := get_rollupSite site pricing zone now table
    obtain ⟨table', hfold⟩ := ih next
    refine ⟨table', ?_⟩
    rw [List.foldlM_cons, hnext]
    exact hfold

/-- **The rows of completed days.** For every ordered sequence of runs with one in the day after, made once
the reading that ends the last interval of the day is recorded, the stored row is the entry of the day when all
readings are integrated at once; the zone's clock must not jump over the next midnight or over those at which
the windows begin, and no price may be recorded in the hour of the day's midnight before it. -/
theorem storedRow_eq_oneShotRow (site : SiteFinancials) (pricing : SitePricing) (zone : TimeZone)
    (nows : List Instant) (n : ℤ) (hnows : nows.Pairwise fun now now' => now ≤ now')
    (hlo : CivilDate.minDayNumber < n) (hhi : n < CivilDate.maxDayNumber)
    (hunbroken : zone.Unbroken (TimeZone.midnight (n + 1)))
    (hwindows : ∀ now ∈ nows, zone.Unbroken (TimeZone.midnight (zone.localDay now - 1)))
    (hprices : PricesFromMidnight site zone n) (hcompleted : ∃ now ∈ nows, CompletedBy site zone n now) :
    storedRow site pricing zone nows (CivilDate.ofDayNumber n)
      = some (oneShotRow site pricing zone (CivilDate.ofDayNumber n)) := by
  obtain ⟨now, hnow, hcomplete⟩ := hcompleted
  obtain ⟨before, after, rfl⟩ := List.append_of_mem hnow
  have hvalid := CivilDate.valid_ofDayNumber n
  obtain ⟨table, htable⟩ := rollups_isSome site pricing zone before []
  obtain ⟨next, hnext, hget⟩ := get_rollupSite site pricing zone now table
  have hafter : ∀ now' ∈ after, now ≤ now' := (List.pairwise_cons.mp (List.pairwise_append.mp hnows).2.1).1
  have hmidnight : zone.Unbroken (TimeZone.midnight n) := by
    have hwindow := hwindows now hnow
    rw [hcomplete.1, add_sub_cancel_right] at hwindow
    exact hwindow
  have hentry := dayEntry_of_dayAfter pricing hlo hhi hmidnight hprices hcomplete
  have hrow : Fields.get next (CivilDate.ofDayNumber n)
      = oneShotRow site pricing zone (CivilDate.ofDayNumber n) := by
    rw [hget _ hvalid, hentry]
    cases hnone : oneShotRow site pricing zone (CivilDate.ofDayNumber n) with
    | none =>
      obtain ⟨table', hfold, hempty⟩ := get_rollups_of_kept site pricing zone hvalid none
        (fun now' _ => .inl (dayEntry_of_oneShot_none pricing _ now' hnone)) [] rfl
      rw [htable, Option.some_inj] at hfold
      rw [hfold, hempty]
      rfl
    | some acc => rfl
  have hlater : ∀ now' ∈ after, dayEntry (windowInputs site pricing zone now') (dayKey (CivilDate.ofDayNumber n))
          (windowIntervals site zone now') = oneShotRow site pricing zone (CivilDate.ofDayNumber n) ∨
        dayEntry (windowInputs site pricing zone now') (dayKey (CivilDate.ofDayNumber n))
          (windowIntervals site zone now') = none := by
    intro now' hnow'
    have hday : n + 1 ≤ zone.localDay now' := by
      rw [zone.le_localDay_iff hunbroken]
      exact ((zone.le_localDay_iff hunbroken now).mp hcomplete.1.ge).trans (hafter now' hnow')
    -- a later run is in the day after, or its window begins after the day
    rcases hday.eq_or_lt with heq | hlt
    · exact .inl (dayEntry_of_dayAfter pricing hlo hhi hmidnight hprices
        ⟨heq.symm, fun pair hpair hstart hsome =>
          (hcomplete.2 pair hpair hstart hsome).trans (hafter now' hnow')⟩)
    · exact .inr (dayEntry_of_later pricing hlo hhi (by omega)
        (hwindows now' (List.mem_append_right before (List.mem_cons_of_mem now hnow'))))
  obtain ⟨table', hfold, hlast⟩ := get_rollups_of_kept site pricing zone hvalid _ hlater next hrow
  rw [storedRow, rollups, List.foldlM_append, htable, Option.bind_eq_bind, Option.bind_some,
    List.foldlM_cons, hnext, Option.bind_eq_bind, Option.bind_some, hfold, Option.map_some, hlast]

/-- Readings with an import of 1 kW. -/
def importing (times : List Instant) (h : times.Pairwise fun t t' => t < t')
    (marketPrices : List MarketPriceRecord) : SiteFinancials where
  readings := times.map fun t => { recordedAt := t, gridImportW := some 1000 }
  marketPrices := marketPrices
  ordered := List.pairwise_map.mpr h

def plainPricing : SitePricing where
  fallbackPurchasePriceSekKwh := 2
  exportCompensationSekKwh := 1

/-- One interval across the end of 1 June 2024 in UTC. -/
def acrossMidnight : SiteFinancials :=
  importing [1717286280, 1717286460] (by decide +kernel) []

theorem storedRow_eq_oneShotRow_noon :
    storedRow acrossMidnight plainPricing utc [1717243200, 1717329600] (CivilDate.ofDayNumber 19875)
      = some (oneShotRow acrossMidnight plainPricing utc (CivilDate.ofDayNumber 19875)) := by
  refine storedRow_eq_oneShotRow acrossMidnight plainPricing utc _ 19875 (by decide +kernel)
    (by decide) (by decide) (by decide +kernel) (by decide +kernel) ?_ ⟨1717329600, by simp, ?_⟩
  · intro row hrow
    exact absurd hrow List.not_mem_nil
  · refine ⟨by decide +kernel, ?_⟩
    intro pair hpair _ _
    have hall : ∀ pair ∈ neighbours acrossMidnight.readings, pair.2.recordedAt ≤ 1717329600 := by
      decide +kernel
    exact hall pair hpair

/-- One interval just after midnight at UTC+05:30, and the price of the hour. -/
def afterMidnight : SiteFinancials :=
  importing [1717180260, 1717180500] (by decide +kernel)
    [{ siteId := 1, recordedAt := 1717178400, spotPriceEurKwh := 1 / 10, allInPriceEurKwh := some (1 / 10) }]

def halfPastFive : TimeZone := fixedZone 19800 (by norm_num)

/-- An interval at noon on 1 November 2008, and one after the clock was set back at 00:01 to 23:01. -/
def setBack : SiteFinancials :=
  importing [1225549800, 1225550100, 1225594800, 1225595100] (by decide +kernel) []

/-- Newfoundland in autumn 2008. -/
def newfoundland : TimeZone where
  offset := -9000
  transitions := [(1225593060, -12600)]
  ordered := by decide +kernel
  wallOrdered := by decide +kernel
  bounded := by decide +kernel

/-- A run right after midnight misses the interval across it; a window that begins within an hour misses the
hour's price; and a window that begins before the clock is set back overwrites the row of the day before. -/
theorem storedRow_differs : (utc.localDay 1717286430 = 19875 + 1 ∧
      storedRow acrossMidnight plainPricing utc [1717286430] (CivilDate.ofDayNumber 19875)
        ≠ some (oneShotRow acrossMidnight plainPricing utc (CivilDate.ofDayNumber 19875))) ∧
    (halfPastFive.localDay 1717309800 = 19875 + 1 ∧
      storedRow afterMidnight plainPricing halfPastFive [1717309800] (CivilDate.ofDayNumber 19875)
        ≠ some (oneShotRow afterMidnight plainPricing halfPastFive (CivilDate.ofDayNumber 19875))) ∧
    (newfoundland.localDay 1225640000 = 14184 + 1 ∧
      storedRow setBack plainPricing newfoundland [1225640000, 1225726400] (CivilDate.ofDayNumber 14184)
        ≠ some (oneShotRow setBack plainPricing newfoundland (CivilDate.ofDayNumber 14184))) := by
  decide +kernel

end EnergyCore.Financial
