import EnergyCore.Foundations.Clock
import Mathlib.Data.List.MinMax
import Mathlib.Tactic.FieldSimp

/-!
# Market prices and their currencies

The price engine stores SEK prices in `price_periods`; accounting reads them back through
`MarketPriceRepository.get_at`, which converts them to EUR, and `effective_price_sek_kwh`, which converts
them to SEK again and guesses from the magnitude whether a value was EUR at all.

* `storedEurToSekKwh_sekToEur` — what the two conversions make of a price;
* `readBack_iff` — which stored prices accounting reads back unchanged.
-/

namespace EnergyCore.Prices

/-! ### Currencies -/

/-- The setting that the conversions read. -/
structure Settings where
  eurToSekRate : ℚ := 11
  deriving Repr, DecidableEq

def legacySekInEurColumnThreshold : ℚ := 1 / 4

def eurToSek (cfg : Settings) (valueEur : ℚ) : ℚ := valueEur * cfg.eurToSekRate

def sekToEur (cfg : Settings) (valueSek : ℚ) : ℚ := valueSek / cfg.eurToSekRate

/-- Values above the threshold are taken for SEK that an old migration left in a EUR column. -/
def isLegacySekStoredAsEur (value : ℚ) : Bool := decide (value > legacySekInEurColumnThreshold)

def storedEurToSekKwh (cfg : Settings) (valueEur : Option ℚ) : Option ℚ :=
  valueEur.map fun v => if isLegacySekStoredAsEur v then v else eurToSek cfg v

/-! ### The tables -/

/-- A row of `price_periods`. -/
structure PricePeriod where
  siteId : ℕ
  periodStart : Instant
  marketPriceSekKwh : Option ℚ := none
  importPriceSekKwh : Option ℚ := none
  exportPriceSekKwh : Option ℚ := none
  deriving Repr, DecidableEq

/-- A row of `market_prices`, and what `get_at` returns. -/
structure MarketPriceRecord where
  siteId : ℕ
  recordedAt : Instant
  spotPriceEurKwh : ℚ
  allInPriceEurKwh : Option ℚ
  feedInPriceEurKwh : Option ℚ := none
  deriving Repr, DecidableEq

/-- The row of the hour, or else the earliest row within the hour. -/
def periodRowAt (periods : List PricePeriod) (siteId : ℕ) (recordedAt : Instant) : Option PricePeriod :=
  let hour := hourStart recordedAt
  (periods.find? fun r => decide (r.siteId = siteId) && decide (r.periodStart = hour)).or
    ((periods.filter fun r => decide (r.siteId = siteId) && decide (r.periodStart ≥ hour) &&
      decide (r.periodStart < hour + 3600)).argmin PricePeriod.periodStart)

/-- The record of a period, which must have a market price. -/
def recordOfPeriod (cfg : Settings) (siteId : ℕ) (hour : Instant) (r : PricePeriod) : Option MarketPriceRecord :=
  (r.marketPriceSekKwh.map (sekToEur cfg)).map fun spotEur =>
    { siteId := siteId, recordedAt := hour, spotPriceEurKwh := spotEur
      allInPriceEurKwh := r.importPriceSekKwh.map (sekToEur cfg)
      feedInPriceEurKwh := r.exportPriceSekKwh.map (sekToEur cfg) }

/-- `MarketPriceRepository.get_at`: the price period of the hour, or else the market price row of the
instant. -/
def getAt (cfg : Settings) (periods : List PricePeriod) (marketPrices : List MarketPriceRecord)
    (siteId : ℕ) (recordedAt : Instant) : Option MarketPriceRecord :=
  ((periodRowAt periods siteId recordedAt).bind
    (recordOfPeriod cfg siteId (hourStart recordedAt))).or
    (marketPrices.find? fun row =>
      decide (row.siteId = siteId) && decide (row.recordedAt = recordedAt))

/-- `all_in or spot`: a price of zero counts as absent. -/
def effectivePriceEur (row : MarketPriceRecord) : ℚ :=
  if row.allInPriceEurKwh.getD 0 ≠ 0 then row.allInPriceEurKwh.getD 0 else row.spotPriceEurKwh

def effectivePriceSekKwh (cfg : Settings) (row : Option MarketPriceRecord) : Option ℚ :=
  storedEurToSekKwh cfg (row.map effectivePriceEur)

/-- The price that accounting reads back. -/
def readBack (cfg : Settings) (periods : List PricePeriod) (marketPrices : List MarketPriceRecord)
    (siteId : ℕ) (recordedAt : Instant) : Option ℚ :=
  effectivePriceSekKwh cfg (getAt cfg periods marketPrices siteId recordedAt)

/-! ### There and back again -/

/-- A price above the threshold comes back divided by the rate. -/
theorem storedEurToSekKwh_sekToEur {cfg : Settings} (hrate : 0 < cfg.eurToSekRate) (p : ℚ) :
    storedEurToSekKwh cfg (some (sekToEur cfg p))
      = some (if cfg.eurToSekRate / 4 < p then p / cfg.eurToSekRate else p) := by
  have hlegacy : isLegacySekStoredAsEur (sekToEur cfg p) = decide (cfg.eurToSekRate / 4 < p) := by
    rw [isLegacySekStoredAsEur, sekToEur, legacySekInEurColumnThreshold, decide_eq_decide,
      gt_iff_lt, lt_div_iff₀ hrate]
    constructor <;> intro h <;> linarith
  rw [storedEurToSekKwh, Option.map_some, hlegacy]
  by_cases h : cfg.eurToSekRate / 4 < p
  · simp only [h, decide_true, if_true, sekToEur]
  · simp only [h, decide_false, Bool.false_eq_true, if_false, eurToSek, sekToEur]
    rw [div_mul_cancel₀ p hrate.ne']

/-- The two conversions keep a price exactly if it is at most a quarter of the rate, or the rate
is 1. -/
theorem storedEurToSekKwh_sekToEur_eq_iff {cfg : Settings} (hrate : 0 < cfg.eurToSekRate) (p : ℚ) :
    storedEurToSekKwh cfg (some (sekToEur cfg p)) = some p ↔ p ≤ cfg.eurToSekRate / 4 ∨ cfg.eurToSekRate = 1 := by
  rw [storedEurToSekKwh_sekToEur hrate, Option.some_inj]
  by_cases h : cfg.eurToSekRate / 4 < p
  · have hp : 0 < p := lt_trans (by linarith) h
    rw [if_pos h, div_eq_iff hrate.ne']
    constructor
    · intro heq
      refine .inr ?_
      have hmul : p * 1 = p * cfg.eurToSekRate := by rw [mul_one]; exact heq
      exact (mul_left_cancel₀ hp.ne' hmul).symm
    · rintro (hle | hone)
      · exact absurd h (not_lt.mpr hle)
      · rw [hone, mul_one]
  · rw [if_neg h]
    exact iff_of_true rfl (.inl (not_lt.mp h))

/-- The price of a row: its import price, or its market price when there is none. -/
def PricePeriod.priceSekKwh (r : PricePeriod) : Option ℚ :=
  r.importPriceSekKwh.or r.marketPriceSekKwh

/-- A stored price that comes back: the row has a market price, the price does not look like legacy SEK
once converted, and an import price of zero does not hide another market price. -/
def PriceSurvives (cfg : Settings) (r : PricePeriod) (p : ℚ) : Prop :=
  ∃ m, r.marketPriceSekKwh = some m ∧ (p ≤ cfg.eurToSekRate / 4 ∨ cfg.eurToSekRate = 1) ∧
    (r.importPriceSekKwh = some 0 → m = 0)

/-- What is read back from the row of a period with a market price. -/
theorem readBack_of_market (cfg : Settings) {periods : List PricePeriod}
    (marketPrices : List MarketPriceRecord) {siteId : ℕ} {t : Instant} {r : PricePeriod}
    (hr : periodRowAt periods siteId t = some r) {m : ℚ} (hm : r.marketPriceSekKwh = some m) :
    readBack cfg periods marketPrices siteId t = storedEurToSekKwh cfg (some
          (if (r.importPriceSekKwh.map (sekToEur cfg)).getD 0 ≠ 0 then
            (r.importPriceSekKwh.map (sekToEur cfg)).getD 0 else sekToEur cfg m)) := by
  simp only [readBack, effectivePriceSekKwh, getAt, hr, Option.bind_some, recordOfPeriod, hm,
    Option.map_some, Option.some_or, effectivePriceEur]

/-- **A price before and after storage.** For every positive rate, a stored price is read back
unchanged, whatever the market price table holds, exactly if it survives. -/
theorem readBack_iff (cfg : Settings) (hrate : 0 < cfg.eurToSekRate) {periods : List PricePeriod}
    {siteId : ℕ} {t : Instant} {r : PricePeriod} (hr : periodRowAt periods siteId t = some r)
    {p : ℚ} (hp : r.priceSekKwh = some p) : (∀ marketPrices, readBack cfg periods marketPrices siteId t = some p) ↔
      PriceSurvives cfg r p := by
  have hzero : ∀ i, sekToEur cfg i ≠ 0 ↔ i ≠ 0 := by
    intro i
    rw [sekToEur, ne_eq, div_eq_zero_iff, not_or]
    exact and_iff_left hrate.ne'
  cases hm : r.marketPriceSekKwh with
  | none =>
    have hnone : readBack cfg periods [] siteId t = none := by
      simp [readBack, effectivePriceSekKwh, getAt, hr, recordOfPeriod, hm, storedEurToSekKwh]
    constructor
    · intro h
      exact absurd ((h []).symm.trans hnone) (by simp)
    · rintro ⟨m, hm', -⟩
      exact absurd (hm.symm.trans hm') (by simp)
  | some m =>
    have hread : ∀ marketPrices, readBack cfg periods marketPrices siteId t = some p ↔
        (p ≤ cfg.eurToSekRate / 4 ∨ cfg.eurToSekRate = 1) ∧
          (r.importPriceSekKwh = some 0 → m = 0) := by
      intro marketPrices
      rw [readBack_of_market cfg marketPrices hr hm]
      cases hi : r.importPriceSekKwh with
      | none =>
        obtain rfl : m = p := by simpa [PricePeriod.priceSekKwh, hi, hm] using hp
        simp only [Option.map_none, Option.getD_none, ne_eq, not_true_eq_false, if_false]
        rw [storedEurToSekKwh_sekToEur_eq_iff hrate]
        simp
      | some i =>
        obtain rfl : i = p := by simpa [PricePeriod.priceSekKwh, hi] using hp
        simp only [Option.map_some, Option.getD_some]
        by_cases h0 : i = 0
        · subst h0
          rw [if_neg (by rw [hzero]; simp), storedEurToSekKwh_sekToEur hrate, Option.some_inj]
          have hsmall : (0 : ℚ) ≤ cfg.eurToSekRate / 4 := by linarith
          constructor
          · intro h
            refine ⟨.inl hsmall, fun _ => ?_⟩
            split_ifs at h with hlarge
            · exact (div_eq_zero_iff.mp h).resolve_right hrate.ne'
            · exact h
          · rintro ⟨-, h⟩
            rw [h rfl, if_neg (not_lt.mpr hsmall)]
        · rw [if_pos ((hzero i).mpr h0), storedEurToSekKwh_sekToEur_eq_iff hrate]
          simp [h0]
    rw [forall_congr' hread]
    constructor
    · intro h
      exact ⟨m, hm, h []⟩
    · rintro ⟨m', hm', h⟩ _
      obtain rfl : m = m' := Option.some_inj.mp (hm.symm.trans hm')
      exact h

/-- An hour at 0.50 SEK/kWh, with the default rate of 11. -/
def cheapHour : PricePeriod :=
  { siteId := 1, periodStart := 3600, marketPriceSekKwh := some (1 / 4),
    importPriceSekKwh := some (1 / 2) }

theorem readBack_iff_cheapHour : (∀ marketPrices, readBack {} [cheapHour] marketPrices 1 5400 = some (1 / 2)) ↔
      PriceSurvives {} cheapHour (1 / 2) :=
  @readBack_iff {} (show (0 : ℚ) < 11 by norm_num) [cheapHour] 1 5400 cheapHour (by decide +kernel)
    (1 / 2) (by decide +kernel)

/-- An hour at 3.30 SEK/kWh, which is 0.30 EUR/kWh. -/
def expensiveHour : PricePeriod :=
  { siteId := 1, periodStart := 3600, marketPriceSekKwh := some 1,
    importPriceSekKwh := some (33 / 10) }

/-- It is read back as 0.30 SEK/kWh. -/
theorem readBack_expensiveHour : expensiveHour.priceSekKwh = some (33 / 10) ∧
      readBack {} [expensiveHour] [] 1 3600 = some (3 / 10) ∧
      ¬ ∀ marketPrices, readBack {} [expensiveHour] marketPrices 1 3600 = some (33 / 10) := by
  refine ⟨by decide +kernel, by decide +kernel, fun h => ?_⟩
  have hsome := h []
  revert hsome
  decide +kernel

end EnergyCore.Prices
