import EnergyCore.Accounting.EvTimeline
import EnergyCore.Accounting.LedgerCostBasis

/-!
# The price of a cycle

`EVAccountingCoordinator.process_site` books the battery's energy in the ledger and then records an interval for
each charger. Both should use one price: the market price of the hour, or the site's fallback.

* `newInterval_price` — an interval is priced at the fallback, whatever the market price;
* `ledgerPrice_eq_iff` — the ledger books at the market price unless that price is zero;
* `onePrice_iff` — when a cycle uses one price.
-/

namespace EnergyCore.Accounting

open Prices StepRun

/-! ### What a cycle reads -/

/-- The powers that `parse_live_overview` finds. -/
structure ParsedOverview where
  pvPowerW : Option ℚ := none
  homeConsumptionW : Option ℚ := none
  gridImportW : Option ℚ := none
  gridExportW : Option ℚ := none
  batteryChargePowerW : Option ℚ := none
  batteryDischargePowerW : Option ℚ := none
  evActualPowerW : Option ℚ := none
  deriving Repr, DecidableEq

/-- The fields `_CORE_OVERVIEW_FIELDS`. -/
def coreOverviewFields (parsed : ParsedOverview) : List (Option ℚ) :=
  [parsed.pvPowerW, parsed.homeConsumptionW, parsed.gridImportW, parsed.gridExportW,
    parsed.batteryChargePowerW, parsed.batteryDischargePowerW]

def overviewHasMeasurements (parsed : ParsedOverview) : Bool :=
  (coreOverviewFields parsed).any Option.isSome

/-- `_sample_from_parsed`. -/
def sampleFromParsed (parsed : ParsedOverview) (priceSekKwh durationHours : ℚ) : Option SiteEnergySample :=
  if overviewHasMeasurements parsed then
    some
      { pvPowerW := parsed.pvPowerW.getD 0
        houseConsumptionW := parsed.homeConsumptionW.getD 0
        gridImportW := parsed.gridImportW.getD 0
        gridExportW := parsed.gridExportW.getD 0
        batteryChargeW := parsed.batteryChargePowerW.getD 0
        batteryDischargeW := parsed.batteryDischargePowerW.getD 0
        evPowerW := parsed.evActualPowerW.getD 0
        electricityPriceSekKwh := some priceSekKwh
        durationHours := durationHours }
  else none

/-- One minute, the period of the collector. -/
def cycleHours : ℚ := 60 / 3600

/-- A charger of the site, and the answer of its meter reader: none if there is no reader or it fails. -/
structure ChargerRow where
  id : ℕ
  chargeampChargerId : Option String
  meter : Option MeterSnapshot
  deriving Repr, DecidableEq

/-- One call of `process_site`. -/
structure SiteCycle where
  site : Site := {}
  now : Instant
  overview : Option ParsedOverview
  chargers : List ChargerRow
  settings : Settings := {}
  pricePeriods : List PricePeriod := []
  marketPrices : List MarketPriceRecord := []
  deriving Repr, DecidableEq

/-- A row of `battery_energy_ledger`. -/
structure LedgerRow where
  siteId : ℕ
  recordedAt : Instant
  state : BatteryLedgerState
  deriving Repr, DecidableEq

/-- The session service, and the ledger. -/
structure SiteAccounting where
  ev : EvAccounting := {}
  ledger : List LedgerRow := []

namespace SiteAccounting

/-- `BatteryEnergyLedgerRepository.get_latest`. -/
def getLatest (ledger : List LedgerRow) (siteId : ℕ) : Option BatteryLedgerState :=
  ((ledger.filter fun row => decide (row.siteId = siteId)).argmax LedgerRow.recordedAt).map (·.state)

end SiteAccounting

namespace SiteCycle

/-- The market price that is stored for the hour of the cycle. -/
def marketPrice (c : SiteCycle) : Option ℚ :=
  readBack c.settings c.pricePeriods c.marketPrices c.site.id (hourStart c.now)

def fallback (c : SiteCycle) : ℚ := c.site.fallbackPurchasePriceSekKwh

/-- `_current_price`. -/
def currentPrice (c : SiteCycle) : ℚ :=
  match c.marketPrice with
  | some price => price
  | none => c.fallback

/-! ### The cycle -/

/-- The sample that the ledger is given. -/
def ledgerSample (c : SiteCycle) : Option SiteEnergySample :=
  c.overview.bind fun parsed => sampleFromParsed parsed c.currentPrice cycleHours

/-- The update that `sample_site_ledger` makes of a sample. -/
def ledgerUpdate (site : Site) (sample : SiteEnergySample) : LedgerUpdate where
  sample := sample
  gridPriceSekKwh := priceOr sample.electricityPriceSekKwh site.fallbackPurchasePriceSekKwh

/-- `sample_site_ledger`. -/
def sampleSiteLedger (ledger : List LedgerRow) (site : Site) (now : Instant) (sample : SiteEnergySample) :
    List LedgerRow :=
  let u := ledgerUpdate site sample
  let state := (SiteAccounting.getLatest ledger site.id).getD {}
  ledger ++ [{ siteId := site.id, recordedAt := now, state := (updateLedger state u.sample u.gridPriceSekKwh).1 }]

/-- The ledger after the site's sample. -/
def sampledLedger (c : SiteCycle) (ledger : List LedgerRow) : List LedgerRow :=
  match c.ledgerSample with
  | some sample => sampleSiteLedger ledger c.site c.now sample
  | none => ledger

/-- `_energy_sample_from_overview`: the sample that the chargers are given. -/
def energySampleFromOverview (c : SiteCycle) : Option SiteEnergySample :=
  c.overview.bind fun parsed => sampleFromParsed parsed c.fallback cycleHours

/-- What `sample_active_session` reads for a charger. -/
def sampleInput (c : SiteCycle) (ledger : List LedgerRow) (meter : MeterSnapshot) (sample : SiteEnergySample) :
    SampleInput where
  site := c.site
  meter := meter
  energySample := sample
  ledgerRow := SiteAccounting.getLatest ledger c.site.id
  settings := c.settings
  pricePeriods := c.pricePeriods
  marketPrices := c.marketPrices

/-- `_process_charger`, for a charger with an identifier and a reading. -/
def readCharger (c : SiteCycle) (ledger : List LedgerRow) (s : EvAccounting) (chargerId : ℕ)
    (meter : MeterSnapshot) : EvAccounting :=
  let processed := (s.processCharger chargerId c.site.id meter).1
  match c.energySampleFromOverview with
  | some sample => processed.sampleActiveSession chargerId (c.sampleInput ledger meter sample)
  | none => processed

/-- The reading of a charger that is processed at all. -/
def reading (charger : ChargerRow) : Option MeterSnapshot :=
  if charger.chargeampChargerId.getD "" = "" then none else charger.meter

def processCharger (c : SiteCycle) (ledger : List LedgerRow) (s : EvAccounting) (charger : ChargerRow) :
    EvAccounting :=
  match reading charger with
  | some meter => c.readCharger ledger s charger.id meter
  | none => s

/-- `process_site`: the state after the call, and the number of processed chargers. -/
def processSite (s : SiteAccounting) (c : SiteCycle) : SiteAccounting × ℕ :=
  let ledger := c.sampledLedger s.ledger
  ({ ev := run (c.processCharger ledger) s.ev c.chargers, ledger := ledger },
    c.chargers.countP fun charger => (reading charger).isSome)

/-! ### One price -/

/-- The intervals that the cycle adds to the table. -/
def newIntervals (s : SiteAccounting) (c : SiteCycle) : List ChargingInterval :=
  (processSite s c).1.ev.intervals.drop s.ev.intervals.length

/-- The costs of an interval are those of its energy at the grid price `price`. -/
def CostedAt (price : ℚ) (ledger : Option BatteryLedgerState) (site : Site) (i : ChargingInterval) : Prop :=
  let cost := intervalCosts i.attribution (some price) (ledger.getD {}).gridAvgCostSekKwh
    site.exportCompensationSekKwh
  i.actualCostSek = cost.actualCashCostSek ∧ i.referenceCostSek = cost.referenceCostSek ∧
    i.savingsSek = cost.savingsSek

/-- The ledger books grid energy in the cycle. -/
def BooksGridEnergy (c : SiteCycle) : Prop :=
  ∃ sample, c.ledgerSample = some sample ∧ 0 < gridChargeKwh sample

/-- Every new interval is costed and stored at the price of the cycle, and the ledger books grid energy at it. -/
def OnePrice (s : SiteAccounting) (c : SiteCycle) : Prop :=
  (∀ i ∈ newIntervals s c, i.electricityPriceSekKwh = some c.currentPrice ∧
      CostedAt c.currentPrice (SiteAccounting.getLatest (c.sampledLedger s.ledger) c.site.id) c.site i) ∧
    ∀ sample, c.ledgerSample = some sample → 0 < gridChargeKwh sample →
      (ledgerUpdate c.site sample).gridPriceSekKwh = c.currentPrice

/-- A charger's session is open after the reading, and energy was charged since its last sample. -/
def Records (c : SiteCycle) (ledger : List LedgerRow) (s : EvAccounting) (charger : ChargerRow) : Prop :=
  ∃ meter sample active interval, reading charger = some meter ∧ c.energySampleFromOverview = some sample ∧
    (s.processCharger charger.id c.site.id meter).1.getActiveForCharger charger.id = some active ∧
    takeSample (c.sampleInput ledger meter sample) active.id active.startedAt
        ((s.processCharger charger.id c.site.id meter).1.runtime charger.id).toSampleAnchors
      = .recorded interval

/-- No charger records an interval. -/
def Quiet (s : SiteAccounting) (c : SiteCycle) : Prop :=
  AllSteps (c.processCharger (c.sampledLedger s.ledger))
    (fun ev charger => ¬ c.Records (c.sampledLedger s.ledger) ev charger) s.ev c.chargers

/-! ### The intervals -/

theorem sampleFromParsed_price {parsed : ParsedOverview} {price hours : ℚ} {sample : SiteEnergySample}
    (h : sampleFromParsed parsed price hours = some sample) : sample.electricityPriceSekKwh = some price := by
  unfold sampleFromParsed at h
  split_ifs at h
  rw [← Option.some.inj h]

/-- The price of an interval is the price of its sample. -/
theorem chargingInterval_priced {input : SampleInput} {price : ℚ}
    (h : input.energySample.electricityPriceSekKwh = some price) (sessionId : ℕ) (start : Instant)
    (charged : ℚ × String) : (chargingInterval input sessionId start charged).electricityPriceSekKwh = some price ∧
      CostedAt price input.ledgerRow input.site (chargingInterval input sessionId start charged) := by
  have hprice : samplePrice input = price := by
    unfold samplePrice
    rw [h]
  rw [← hprice]
  exact ⟨rfl, rfl, rfl, rfl⟩

theorem takeSample_recorded {input : SampleInput} {sessionId : ℕ} {sessionStart : Instant}
    {anchors : SampleAnchors} {i : ChargingInterval}
    (h : takeSample input sessionId sessionStart anchors = .recorded i) :
    ∃ start charged, i = chargingInterval input sessionId start charged := by
  have hstep := takeSample_step input sessionId sessionStart anchors
  rw [h] at hstep
  cases hstep with
  | measured => exact ⟨_, _, rfl⟩
  | estimated => exact ⟨_, _, rfl⟩

theorem intervals_processCharger (s : EvAccounting) (chargerId siteId : ℕ) (meter : MeterSnapshot) :
    (s.processCharger chargerId siteId meter).1.intervals = s.intervals := by
  simp only [EvAccounting.processCharger]
  split
  · split_ifs <;> rfl
  · split_ifs <;> rfl

/-- When a charger with a reading records, in a cycle with measurements. -/
theorem records_iff {c : SiteCycle} {charger : ChargerRow} {meter : MeterSnapshot} {sample : SiteEnergySample}
    (hreading : reading charger = some meter) (hsample : c.energySampleFromOverview = some sample)
    (ledger : List LedgerRow) {s s' : EvAccounting} (hs' : (s.processCharger charger.id c.site.id meter).1 = s') :
    c.Records ledger s charger ↔ ∃ active i, s'.getActiveForCharger charger.id = some active ∧
      takeSample (c.sampleInput ledger meter sample) active.id active.startedAt
        (s'.runtime charger.id).toSampleAnchors = .recorded i := by
  rw [← hs']
  constructor
  · rintro ⟨meter', sample', active, i, hmeter, hsome, hopen, htake⟩
    obtain rfl : meter = meter' := Option.some.inj (hreading.symm.trans hmeter)
    obtain rfl : sample = sample' := Option.some.inj (hsample.symm.trans hsome)
    exact ⟨active, i, hopen, htake⟩
  · rintro ⟨active, i, hopen, htake⟩
    exact ⟨meter, sample, active, i, hreading, hsample, hopen, htake⟩

/-- A charger records nothing, or one interval at the fallback. -/
theorem processCharger_cases (c : SiteCycle) (ledger : List LedgerRow) (s : EvAccounting) (charger : ChargerRow) :
    (¬ c.Records ledger s charger ∧ (c.processCharger ledger s charger).intervals = s.intervals) ∨
      c.Records ledger s charger ∧ ∃ i, (c.processCharger ledger s charger).intervals = s.intervals ++ [i] ∧
          i.electricityPriceSekKwh = some c.fallback ∧
          CostedAt c.fallback (SiteAccounting.getLatest ledger c.site.id) c.site i := by
  unfold processCharger
  cases hreading : reading charger with
  | none =>
    refine Or.inl ⟨?_, rfl⟩
    rintro ⟨meter, _, _, _, hmeter, -⟩
    rw [hreading] at hmeter
    cases hmeter
  | some meter =>
    have hprocessed := intervals_processCharger s charger.id c.site.id meter
    simp only [readCharger]
    cases hsample : c.energySampleFromOverview with
    | none =>
      refine Or.inl ⟨?_, hprocessed⟩
      rintro ⟨_, sample, _, _, -, hsome, -⟩
      rw [hsample] at hsome
      cases hsome
    | some sample =>
      have hprice : (c.sampleInput ledger meter sample).energySample.electricityPriceSekKwh
          = some c.fallback := by
        obtain ⟨parsed, -, hparsed⟩ := Option.bind_eq_some_iff.mp hsample
        exact sampleFromParsed_price hparsed
      simp only
      generalize hs' : (s.processCharger charger.id c.site.id meter).1 = s' at hprocessed
      rw [records_iff hreading hsample ledger hs']
      cases hactive : s'.getActiveForCharger charger.id with
      | none =>
        refine Or.inl ⟨?_, ?_⟩
        · rintro ⟨active, _, hopen, -⟩
          cases hopen
        · rw [EvAccounting.sampleActiveSession, hactive]
          exact hprocessed
      | some active =>
        obtain ⟨totals, heq⟩ := sampleActiveSession_eq hactive (c.sampleInput ledger meter sample)
        rw [heq, hprocessed]
        simp only
        cases houtcome : takeSample (c.sampleInput ledger meter sample) active.id active.startedAt
            (s'.runtime charger.id).toSampleAnchors with
        | skipped =>
          refine Or.inl ⟨?_, List.append_nil _⟩
          rintro ⟨_, i, hopen, htake⟩
          obtain rfl := Option.some.inj hopen
          exact SampleOutcome.noConfusion (houtcome.symm.trans htake)
        | advanced =>
          refine Or.inl ⟨?_, List.append_nil _⟩
          rintro ⟨_, i, hopen, htake⟩
          obtain rfl := Option.some.inj hopen
          exact SampleOutcome.noConfusion (houtcome.symm.trans htake)
        | recorded i =>
          obtain ⟨start, charged, rfl⟩ := takeSample_recorded houtcome
          exact Or.inr ⟨⟨active, _, rfl, houtcome⟩, _, rfl, chargingInterval_priced hprice active.id start charged⟩

/-- The intervals of all chargers: each is priced at the fallback, and there are none exactly in a quiet cycle. -/
theorem intervals_run (c : SiteCycle) (ledger : List LedgerRow) (s : EvAccounting) (chargers : List ChargerRow) :
    ∃ new, (run (c.processCharger ledger) s chargers).intervals = s.intervals ++ new ∧
      (∀ i ∈ new, i.electricityPriceSekKwh = some c.fallback ∧
        CostedAt c.fallback (SiteAccounting.getLatest ledger c.site.id) c.site i) ∧ (new = [] ↔
        AllSteps (c.processCharger ledger) (fun ev charger => ¬ c.Records ledger ev charger) s chargers) := by
  induction chargers generalizing s with
  | nil => exact ⟨[], (List.append_nil _).symm, fun i hi => absurd hi List.not_mem_nil, iff_of_true rfl trivial⟩
  | cons charger chargers ih =>
    obtain ⟨new, hnew, hpriced, hquiet⟩ := ih (c.processCharger ledger s charger)
    rw [run_cons, hnew, AllSteps]
    rcases processCharger_cases c ledger s charger with ⟨hnone, hsame⟩ | ⟨hrecords, i, hrecorded, hi⟩
    · rw [hsame]
      refine ⟨new, rfl, hpriced, hquiet.trans ?_⟩
      exact (and_iff_right hnone).symm
    · rw [hrecorded]
      refine ⟨i :: new, by rw [List.append_assoc]; rfl, ?_, ?_⟩
      · intro j hj
        rcases List.mem_cons.mp hj with rfl | hj
        · exact hi
        · exact hpriced j hj
      · exact iff_of_false (List.cons_ne_nil i new) fun h => h.1 hrecords

/-- **An interval is priced at the fallback**, whatever the market price. -/
theorem newInterval_price (s : SiteAccounting) (c : SiteCycle) :
    (∀ i ∈ newIntervals s c, i.electricityPriceSekKwh = some c.fallback ∧
      CostedAt c.fallback (SiteAccounting.getLatest (c.sampledLedger s.ledger) c.site.id) c.site i) ∧
    (newIntervals s c = [] ↔ Quiet s c) := by
  obtain ⟨new, hnew, hpriced, hquiet⟩ := intervals_run c (c.sampledLedger s.ledger) s.ev c.chargers
  have heq : newIntervals s c = new := by
    simp only [newIntervals, processSite]
    rw [hnew, List.drop_left]
  rw [heq]
  exact ⟨hpriced, hquiet⟩

/-! ### The ledger -/

theorem currentPrice_eq_iff (c : SiteCycle) :
    c.currentPrice = c.fallback ↔ c.marketPrice = none ∨ c.marketPrice = some c.fallback := by
  unfold currentPrice
  cases c.marketPrice with
  | none => simp
  | some price => simp

/-- **The ledger books at the price of the cycle** unless a market price of zero gives way to the fallback. -/
theorem ledgerPrice_eq_iff {c : SiteCycle} {sample : SiteEnergySample} (h : c.ledgerSample = some sample) :
    (ledgerUpdate c.site sample).gridPriceSekKwh = c.currentPrice ↔ c.currentPrice = 0 → c.fallback = 0 := by
  have hprice : sample.electricityPriceSekKwh = some c.currentPrice := by
    obtain ⟨parsed, -, hparsed⟩ := Option.bind_eq_some_iff.mp h
    exact sampleFromParsed_price hparsed
  simp only [ledgerUpdate, priceOr, fallback]
  rw [hprice, Option.getD_some]
  by_cases hzero : c.currentPrice = 0
  · rw [if_neg (not_not.mpr hzero), hzero]
    exact ⟨fun h _ => h, fun h => h rfl⟩
  · rw [if_pos hzero]
    exact iff_of_true rfl fun h => absurd h hzero

/-- **One price per cycle.** A cycle uses one price exactly if the market price is missing or equal to the
fallback, or nothing is charged but the battery, and that not at a market price of zero. -/
theorem onePrice_iff (s : SiteAccounting) (c : SiteCycle) :
    OnePrice s c ↔ (c.marketPrice = none ∨ c.marketPrice = some c.fallback) ∨
      Quiet s c ∧ (c.marketPrice = some 0 → ¬ c.BooksGridEnergy) := by
  obtain ⟨hpriced, hquiet⟩ := newInterval_price s c
  have hzero : ∀ p, c.marketPrice = some p → c.currentPrice = p := by
    intro p hp
    unfold currentPrice
    rw [hp]
  constructor
  · rintro ⟨hintervals, hledger⟩
    by_cases hsame : c.currentPrice = c.fallback
    · exact Or.inl ((currentPrice_eq_iff c).mp hsame)
    · refine Or.inr ⟨hquiet.mp ?_, ?_⟩
      · by_contra hne
        obtain ⟨i, hi⟩ := List.exists_mem_of_ne_nil _ hne
        have hstored := (hintervals i hi).1.symm.trans (hpriced i hi).1
        exact hsame (Option.some.inj hstored)
      · rintro hmarket ⟨sample, hsample, hbooks⟩
        have hprice := (ledgerPrice_eq_iff hsample).mp (hledger sample hsample hbooks) (hzero 0 hmarket)
        exact hsame ((hzero 0 hmarket).trans hprice.symm)
  · rintro (hmarket | ⟨hnone, hbooks⟩)
    · have hsame := (currentPrice_eq_iff c).mpr hmarket
      refine ⟨fun i hi => ?_, fun sample hsample _ => (ledgerPrice_eq_iff hsample).mpr fun h => ?_⟩
      · rw [hsame]
        exact hpriced i hi
      · exact hsame.symm.trans h
    · refine ⟨fun i hi => ?_, fun sample hsample hgrid => (ledgerPrice_eq_iff hsample).mpr fun h => ?_⟩
      · rw [hquiet.mpr hnone] at hi
        exact absurd hi List.not_mem_nil
      · by_contra hfallback
        have hmarket : c.marketPrice = some 0 := by
          cases hprice : c.marketPrice with
          | none =>
            unfold currentPrice at h
            rw [hprice] at h
            exact absurd h hfallback
          | some p => rw [← hzero p hprice, h]
        exact hbooks hmarket ⟨sample, hsample, hgrid⟩

end SiteCycle

/-! ### A charging car, at a stored price of 1 SEK -/

section Demo

/-- A car that draws 6 kW, with its session one minute old. -/
def demoCharging : EvAccounting where
  runtime := fun _ => { lastMeterKwh := some 10, lastSampleAt := some 3540, lastVehicleConnected := some true }
  sessions := [{ id := 0, chargerId := 1, siteId := 0, startedAt := 3540, meterStartKwh := some 10 }]

def demoCycle : SiteCycle where
  now := 3600
  overview := some { homeConsumptionW := some 6000, gridImportW := some 6000, evActualPowerW := some 6000 }
  chargers :=
    [{ id := 1, chargeampChargerId := some "CA-1"
       meter := some { recordedAt := 3600, cumulativeKwh := some (101 / 10), powerW := some 6000, isCharging := true,
                       vehicleConnected := true } }]
  pricePeriods := [{ siteId := 0, periodStart := 3600, marketPriceSekKwh := some 1, importPriceSekKwh := some 1 }]

/-- The hour has a price of 1 SEK/kWh, and the interval is priced at the fallback of 2 SEK/kWh. -/
theorem onePrice_fallback : ¬ ∀ (s : SiteAccounting) (c : SiteCycle), SiteCycle.OnePrice s c := by
  intro h
  have hnew : (SiteCycle.newIntervals { ev := demoCharging } demoCycle).map (·.electricityPriceSekKwh) = [some 2] := by
    decide +kernel
  have hprice : demoCycle.currentPrice = 1 := by decide +kernel
  obtain ⟨i, hi, hstored⟩ := List.mem_map.mp (hnew ▸ List.mem_singleton_self (some (2 : ℚ)))
  have hone := ((h { ev := demoCharging } demoCycle).1 i hi).1
  rw [hstored, hprice] at hone
  exact absurd hone (by decide +kernel)

end Demo

end EnergyCore.Accounting
