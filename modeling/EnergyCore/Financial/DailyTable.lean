import EnergyCore.Financial.FinancialStats
import EnergyCore.Financial.SiteDates
import EnergyCore.Prices.MarketPrices

/-!
# The table of daily rows

The rows that `financial_daily` keeps for a site, the price maps of `market_prices`, and the query for the
statistics, which sums daily rows or falls back to the readings.

* `mem_listForSite` — the rows that a range of days selects.
-/

namespace EnergyCore.Financial

open KeywordFields KeyedTotals StepRun TimeZones
open Prices (Settings MarketPriceRecord storedEurToSekKwh)

/-! ### Price maps -/

structure PriceMaps where
  purchasePrices : Fields Instant ℚ := []
  spotPrices : Fields Instant ℚ := []
  feedInPrices : Fields Instant ℚ := []
  deriving Repr, DecidableEq

/-- `prices[hour_key] = …`, for a column that may be empty. -/
def assignPrice (cfg : Settings) (prices : Fields Instant ℚ) (hourKey : Instant)
    (valueEur : Option ℚ) : Fields Instant ℚ :=
  match storedEurToSekKwh cfg valueEur with
  | some valueSek => Fields.assign prices hourKey valueSek
  | none => prices

def addPriceRow (cfg : Settings) (maps : PriceMaps) (row : MarketPriceRecord) : PriceMaps :=
  let hourKey := hourStart row.recordedAt
  { purchasePrices := assignPrice cfg maps.purchasePrices hourKey row.allInPriceEurKwh
    spotPrices := assignPrice cfg maps.spotPrices hourKey (some row.spotPriceEurKwh)
    feedInPrices := assignPrice cfg maps.feedInPrices hourKey row.feedInPriceEurKwh }

def buildPriceMaps (cfg : Settings) (priceRows : List MarketPriceRecord) : PriceMaps :=
  run (addPriceRow cfg) {} priceRows

/-! ### Daily rows -/

/-- The rows of a site, by their days. -/
abbrev FinancialDailyTable := Fields CivilDate FinancialDailyAccumulator

/-- `FinancialDailyRepository.upsert`; it fails where `date.fromisoformat` raises. -/
def upsertDaily (table : FinancialDailyTable) (acc : FinancialDailyAccumulator) : Option FinancialDailyTable :=
  (CivilDate.fromIsoFormat acc.day).map fun day => Fields.assign table day acc

/-- `day >= from_day` and `day < to_day`, where the bounds are given. -/
def inDays (fromDay toDay : Option CivilDate) (day : CivilDate) : Bool :=
  fromDay.all (fun start => day.onOrAfter start) && toDay.all fun stop => !day.onOrAfter stop

/-- The accumulator of a row. -/
def readRow (row : CivilDate × FinancialDailyAccumulator) : FinancialDailyAccumulator :=
  { row.2 with day := dayKey row.1 }

def listForSite (table : FinancialDailyTable) (fromDay toDay : Option CivilDate) : List FinancialDailyAccumulator :=
  ((table.filter fun row => inDays fromDay toDay row.1).insertionSort
    fun row row' => row'.1.onOrAfter row.1 = true).map readRow

theorem mem_listForSite {table : FinancialDailyTable} {fromDay toDay : Option CivilDate}
    {acc : FinancialDailyAccumulator} : acc ∈ listForSite table fromDay toDay ↔
      ∃ row ∈ table, inDays fromDay toDay row.1 = true ∧ readRow row = acc := by
  simp only [listForSite, List.mem_map, List.mem_insertionSort, List.mem_filter, and_assoc]

/-! ### The query -/

/-- What the tables hold for a site; the readings are unique by their times, and queried in their order. -/
structure SiteFinancials where
  readings : List EnergyReading
  marketPrices : List MarketPriceRecord := []
  daily : FinancialDailyTable := []
  ordered : readings.Pairwise fun r r' => r.recordedAt < r'.recordedAt

/-- The arguments that do not depend on the query's range. -/
structure SitePricing where
  settings : Settings := {}
  fallbackPurchasePriceSekKwh : ℚ
  exportCompensationSekKwh : ℚ
  sellConfig : Option SellPriceConfig := none
  deriving Repr, DecidableEq

namespace SitePricing

variable (pricing : SitePricing)

def config : SellPriceConfig :=
  pricing.sellConfig.getD { fallbackFlatPriceSekKwh := pricing.exportCompensationSekKwh }

/-- The arguments of the integration, for price rows. -/
def inputs (zone : TimeZone) (priceRows : List MarketPriceRecord) : FinancialInputs where
  localDate := localDate zone
  purchasePrices := Fields.get (buildPriceMaps pricing.settings priceRows).purchasePrices
  spotPrices := Fields.get (buildPriceMaps pricing.settings priceRows).spotPrices
  feedInPrices := Fields.get (buildPriceMaps pricing.settings priceRows).feedInPrices
  fallbackPurchasePriceSekKwh := pricing.fallbackPurchasePriceSekKwh
  config := pricing.config

end SitePricing

/-- `recorded_at >= from_time` and `recorded_at < to_time`. -/
def recordedWithin (fromTime toTime : Instant) (recordedAt : Instant) : Bool :=
  decide (recordedAt ≥ fromTime) && decide (recordedAt < toTime)

/-- `list_financial_stats` between two times; what it returns are copies of the results. -/
def listFinancialStats (round : ℕ → ℚ → ℚ) (site : SiteFinancials) (pricing : SitePricing)
    (period : PeakPeriod) (zone : TimeZone) (fromTime toTime : Instant) (useAggregates : Bool) :
    Option (List FinancialStatResult) :=
  let dailyRows :=
    if useAggregates then
      listForSite site.daily (some (localDate utc fromTime)) (some (localDate utc toTime))
    else []
  if dailyRows ≠ [] then aggregateDailyToPeriodStats round period pricing.config dailyRows
  else
    let readings := site.readings.filter fun r => recordedWithin fromTime toTime r.recordedAt
    if readings.length < 2 then some []
    else
      let priceRows := site.marketPrices.filter fun r => recordedWithin fromTime toTime r.recordedAt
      (pricing.inputs zone priceRows).integrateFinancialStats round period readings

/-- The statistics of a year, as the endpoint asks for them. -/
def siteFinancialStats (round : ℕ → ℚ → ℚ) (site : SiteFinancials) (pricing : SitePricing)
    (period : PeakPeriod) (zone : TimeZone) (year : ℕ) (useAggregates : Bool) : Option (List FinancialStatResult) :=
  listFinancialStats round site pricing period zone (yearStart zone year) (yearStart zone (year + 1))
    useAggregates

end EnergyCore.Financial
