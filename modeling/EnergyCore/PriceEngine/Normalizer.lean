import EnergyCore.Foundations.JsonValues
import EnergyCore.Foundations.KeyedChanges
import EnergyCore.Foundations.RankedEntries
import EnergyCore.Prices.MarketPrices

/-!
# Normalized price periods

`normalize_to_periods` turns the price points of the providers, which last a quarter of an hour, an hour or any other
number of quarters, into the rows of the price engine, one for each quarter. Points that last longer than a quarter
are replicated over the quarters from the start of their hour, whatever the minute is that they start at.

* `mem_starts_iff` — the quarters that a point is expanded to;
* `mem_starts_normalizeToPeriods` — the quarters of the rows;
* `row_of_prevailing` — whose prices a row carries;
* `coversOwnTime_iff` — when the rows cover the intervals of the points, with the prices of points that hold there;
* `CoversOwnTime.of_wholeHours` — points on the hour are covered.
-/

namespace EnergyCore.PriceEngine

open JsonValues KeywordFields StepRun RankedEntries
open Prices (Settings storedEurToSekKwh)

/-! ### Types -/

inductive PriceArea where
  | se4 | dk2
  deriving Repr, DecidableEq

inductive Currency where
  | sek | eur
  deriving Repr, DecidableEq

inductive PriceQuality where
  | real | calculated | estimated | stale | missing
  deriving Repr, DecidableEq

inductive PriceSource where
  | heartbeat | replicatedHourly | nordPool | cache | fallback
  deriving Repr, DecidableEq

def intervalMinutes : ℤ := 15

/-- What a provider gives; the timestamps are instants, so that their time zones do not matter. -/
structure RawPricePoint where
  timestamp : Instant
  marketPriceEurKwh : Option ℚ := none
  importPriceEurKwh : Option ℚ := none
  exportPriceEurKwh : Option ℚ := none
  nativeResolutionMinutes : ℤ := 60
  components : Dict := []
  deriving Repr

structure PricePeriod where
  periodStart : Instant
  periodEnd : Instant
  siteId : ℕ
  priceArea : PriceArea
  currency : Currency
  marketPriceSekKwh : Option ℚ
  importPriceSekKwh : Option ℚ
  exportPriceSekKwh : Option ℚ
  source : PriceSource
  quality : PriceQuality
  isEstimated : Bool
  components : Dict := []
  deriving Repr

/-! ### The grid -/

/-- `ts.minute`. -/
def minute (ts : Instant) : ℤ := ⌊(ts - hourStart ts) / 60⌋

/-- `ts.replace(minute=m)`. -/
def replaceMinute (ts : Instant) (m : ℤ) : Instant := ts + 60 * (m - minute ts)

/-- Floors a timestamp to the start of its interval. -/
def alignPeriodStart (ts : Instant) (interval : ℤ) : Instant := hourStart ts + 60 * (minute ts / interval * interval : ℤ)

def periodEnd (periodStart : Instant) (interval : ℤ) : Instant := periodStart + 60 * interval

/-- `range(0, stop, step)`. -/
def offsets (stop step : ℤ) : List ℤ := (List.range ((stop + step - 1) / step).toNat).map fun i : ℕ => step * i

/-! ### Normalization -/

def qualityRank : PriceQuality → ℕ
  | .real => 5
  | .calculated => 4
  | .estimated => 3
  | .stale => 2
  | .missing => 1

def eurToSek (value : Option ℚ) (cfg : Settings) : Option ℚ :=
  match value with
  | none => none
  | some v => storedEurToSekKwh cfg (some v)

namespace RawPricePoint

/-- The points of at most a quarter. -/
def isNative (point : RawPricePoint) : Bool := decide (point.nativeResolutionMinutes ≤ intervalMinutes)

def starts (point : RawPricePoint) : List Instant :=
  if point.isNative then [alignPeriodStart point.timestamp intervalMinutes]
  else
    let hourStart := alignPeriodStart (replaceMinute point.timestamp 0) intervalMinutes
    (offsets point.nativeResolutionMinutes intervalMinutes).map fun offset : ℤ => hourStart + 60 * offset

def quality (point : RawPricePoint) : PriceQuality := if point.isNative then .real else .estimated

def source (point : RawPricePoint) : PriceSource := if point.isNative then .heartbeat else .replicatedHourly

def isEstimated (point : RawPricePoint) : Bool := !point.isNative

end RawPricePoint

/-- What a call of `normalize_to_periods` is given besides the points, with the text of instants. -/
structure Context where
  siteId : ℕ
  priceArea : PriceArea
  currency : Currency := .sek
  cfg : Settings := {}
  isoformat : Instant → String

namespace Context

variable (ctx : Context)

/-- The row that a point makes for the period with the start. -/
def row (point : RawPricePoint) (start : Instant) : PricePeriod where
  periodStart := start
  periodEnd := PriceEngine.periodEnd start intervalMinutes
  siteId := ctx.siteId
  priceArea := ctx.priceArea
  currency := ctx.currency
  marketPriceSekKwh := eurToSek point.marketPriceEurKwh ctx.cfg
  importPriceSekKwh := eurToSek point.importPriceEurKwh ctx.cfg
  exportPriceSekKwh := eurToSek point.exportPriceEurKwh ctx.cfg
  source := point.source
  quality := point.quality
  isEstimated := point.isEstimated
  components :=
    if point.isEstimated then
      Fields.assign point.components "replication" (.obj
        [("from_resolution_minutes", .num (.int point.nativeResolutionMinutes)),
          ("native_timestamp", .str (ctx.isoformat point.timestamp))])
    else point.components

/-- One start of a point: its row replaces one that is not of a better quality. -/
def putRow (point : RawPricePoint) (byPeriod : Fields Instant PricePeriod) (start : Instant) :
    Fields Instant PricePeriod :=
  let existing := byPeriod.get start
  let row := ctx.row point start
  if existing.all (fun e => decide (qualityRank row.quality ≥ qualityRank e.quality)) then byPeriod.assign start row
  else byPeriod

def putPoint (byPeriod : Fields Instant PricePeriod) (point : RawPricePoint) : Fields Instant PricePeriod :=
  point.starts.foldl (ctx.putRow point) byPeriod

def byPeriod (points : List RawPricePoint) : Fields Instant PricePeriod := run ctx.putPoint [] points

def normalizeToPeriods (points : List RawPricePoint) : List PricePeriod :=
  ((ctx.byPeriod points).map Prod.snd).mergeSort fun p q => decide (p.periodStart ≤ q.periodStart)

end Context

/-! ### Quarters -/

/-- The instants at which a quarter of an hour starts. -/
def IsQuarter (s : Instant) : Prop := ∃ n : ℤ, s = 900 * n

theorem hourStart_quarter (n : ℤ) : hourStart (900 * n) = 3600 * (n / 4 : ℤ) := by
  have hle : 4 * (n / 4) ≤ n := by omega
  have hlt : n < 4 * (n / 4) + 4 := by omega
  have hle' : (4 * (n / 4 : ℤ) : ℚ) ≤ n := by exact_mod_cast hle
  have hlt' : (n : ℚ) < 4 * (n / 4 : ℤ) + 4 := by exact_mod_cast hlt
  exact hourStart_eq_of_mem (by linarith) (by linarith)

theorem minute_quarter (n : ℤ) : minute (900 * n) = 15 * (n % 4) := by
  have hmod : n % 4 = n - 4 * (n / 4) := by omega
  have hexact : ((900 : ℚ) * n - 3600 * (n / 4 : ℤ)) / 60 = (15 * (n % 4) : ℤ) := by
    rw [hmod]
    push_cast
    ring
  rw [minute, hourStart_quarter, hexact, Int.floor_intCast]

/-- Quarters are aligned. -/
theorem alignPeriodStart_quarter (n : ℤ) : alignPeriodStart (900 * n) intervalMinutes = 900 * n := by
  have hminute : minute (900 * n) / intervalMinutes * intervalMinutes = 15 * (n - 4 * (n / 4)) := by
    rw [minute_quarter, intervalMinutes]
    omega
  rw [alignPeriodStart, hminute, hourStart_quarter]
  push_cast
  ring

theorem replaceMinute_quarter (n : ℤ) : replaceMinute (900 * n) 0 = 900 * (4 * (n / 4) : ℤ) := by
  have hmod : n % 4 = n - 4 * (n / 4) := by omega
  rw [replaceMinute, minute_quarter, hmod]
  push_cast
  ring

theorem mem_offsets {r m : ℤ} (hr : 0 ≤ r) : m ∈ offsets (15 * r) 15 ↔ ∃ i, 0 ≤ i ∧ i < r ∧ m = 15 * i := by
  have hcount : (15 * r + 15 - 1) / 15 = r := by omega
  rw [offsets, hcount, List.mem_map]
  constructor
  · rintro ⟨i, hi, rfl⟩
    have hlt : i < r.toNat := List.mem_range.mp hi
    exact ⟨i, Int.natCast_nonneg i, by omega, rfl⟩
  · rintro ⟨i, hnonneg, hlt, rfl⟩
    refine ⟨i.toNat, List.mem_range.mpr (by omega), ?_⟩
    rw [Int.toNat_of_nonneg hnonneg]

theorem nodup_offsets (r : ℤ) : (offsets r intervalMinutes).Nodup := by
  refine List.Nodup.map (fun i j hij => ?_) List.nodup_range
  have h15 : (15 : ℤ) * i = 15 * j := hij
  omega

/-! ### The intervals of the points -/

namespace RawPricePoint

/-- The timestamp is on the grid, and the resolution is a number of quarters. -/
structure Gridded (p : RawPricePoint) : Prop where
  timestamp : IsQuarter p.timestamp
  positive : 0 < p.nativeResolutionMinutes
  quarters : intervalMinutes ∣ p.nativeResolutionMinutes

/-- A quarter of the interval from the timestamp to the timestamp plus the resolution. -/
def Covers (p : RawPricePoint) (s : Instant) : Prop :=
  IsQuarter s ∧ p.timestamp ≤ s ∧ s < p.timestamp + 60 * p.nativeResolutionMinutes

/-- The point with its interval moved to the start of its hour, if it lasts longer than a quarter. -/
def fromHour (p : RawPricePoint) : RawPricePoint :=
  if p.isNative then p else { p with timestamp := hourStart p.timestamp }

variable {p q : RawPricePoint} {s : Instant}

theorem fromHour_of_native (h : p.isNative = true) : p.fromHour = p := if_pos h

theorem fromHour_of_hour (h : hourStart p.timestamp = p.timestamp) : p.fromHour = p := by
  unfold fromHour
  split_ifs
  · rfl
  · rw [h]

theorem quality_of_native (h : p.isNative = true) : p.quality = .real := if_pos h

theorem quality_of_not_native (h : ¬ p.isNative = true) : p.quality = .estimated := if_neg h

/-- The quarters of an interval, counted. -/
theorem covers_iff {n r : ℤ} (hn : p.timestamp = 900 * n) (hr : p.nativeResolutionMinutes = 15 * r) :
    p.Covers s ↔ ∃ m : ℤ, s = 900 * m ∧ n ≤ m ∧ m < n + r := by
  unfold Covers
  rw [hn, hr]
  constructor
  · rintro ⟨⟨m, rfl⟩, hle, hlt⟩
    refine ⟨m, rfl, ?_, ?_⟩
    · have hle' : (n : ℚ) ≤ m := by linarith
      exact_mod_cast hle'
    · push_cast at hlt
      have hlt' : (m : ℚ) < n + r := by linarith
      exact_mod_cast hlt'
  · rintro ⟨m, rfl, hle, hlt⟩
    have hle' : (n : ℚ) ≤ m := by exact_mod_cast hle
    have hlt' : (m : ℚ) < n + r := by exact_mod_cast hlt
    refine ⟨⟨m, rfl⟩, by linarith, ?_⟩
    push_cast
    linarith

/-- **A point** is expanded to the quarters of its interval, moved to the start of the hour. -/
theorem mem_starts_iff (h : p.Gridded) : s ∈ p.starts ↔ p.fromHour.Covers s := by
  obtain ⟨n, hn⟩ := h.timestamp
  obtain ⟨r, hr⟩ := h.quarters
  have hpos := h.positive
  rw [intervalMinutes] at hr
  by_cases hnative : p.isNative = true
  · have hle : p.nativeResolutionMinutes ≤ intervalMinutes := of_decide_eq_true hnative
    have hone : r = 1 := by
      rw [intervalMinutes] at hle
      omega
    rw [fromHour_of_native hnative, covers_iff hn hr, starts, if_pos hnative, hn, alignPeriodStart_quarter,
      List.mem_singleton]
    constructor
    · rintro rfl
      exact ⟨n, rfl, le_rfl, by omega⟩
    · rintro ⟨m, rfl, hle, hlt⟩
      have hm : m = n := by omega
      rw [hm]
  · have hmoved : p.fromHour = { p with timestamp := hourStart p.timestamp } := if_neg hnative
    have htimestamp : p.fromHour.timestamp = 900 * (4 * (n / 4) : ℤ) := by
      rw [hmoved]
      show hourStart p.timestamp = _
      rw [hn, hourStart_quarter]
      push_cast
      ring
    have hresolution : p.fromHour.nativeResolutionMinutes = 15 * r := by
      rw [hmoved]
      exact hr
    rw [covers_iff htimestamp hresolution, starts, if_neg hnative, hn, replaceMinute_quarter,
      alignPeriodStart_quarter, hr, List.mem_map]
    have hnonneg : 0 ≤ r := by omega
    constructor
    · rintro ⟨offset, hoffset, rfl⟩
      obtain ⟨i, hi, hlt, rfl⟩ := (mem_offsets hnonneg).mp hoffset
      refine ⟨4 * (n / 4) + i, ?_, by omega, by omega⟩
      push_cast
      ring
    · rintro ⟨m, rfl, hle, hlt⟩
      refine ⟨15 * (m - 4 * (n / 4)), (mem_offsets hnonneg).mpr ⟨m - 4 * (n / 4), by omega, by omega, rfl⟩, ?_⟩
      push_cast
      ring

theorem nodup_starts (p : RawPricePoint) : p.starts.Nodup := by
  unfold starts
  split_ifs
  · exact List.nodup_singleton _
  · refine List.Nodup.map (fun i j hij => ?_) (nodup_offsets _)
    have hcast : (i : ℚ) = j := by linarith
    exact_mod_cast hcast

end RawPricePoint

/-! ### The rows -/

def rowRank (r : PricePeriod) : ℕ := qualityRank r.quality

/-- The point is the last of those of the best quality whose intervals, moved to the hour, have the quarter. -/
def Prevails (points : List RawPricePoint) (s : Instant) (p : RawPricePoint) : Prop :=
  ∃ before after, points = before ++ p :: after ∧ p.fromHour.Covers s
    ∧ (∀ q ∈ before, q.fromHour.Covers s → qualityRank q.quality ≤ qualityRank p.quality)
    ∧ ∀ q ∈ after, q.fromHour.Covers s → qualityRank q.quality < qualityRank p.quality

section

variable {ctx : Context} {points : List RawPricePoint} {p : RawPricePoint} {r : PricePeriod} {s : Instant}

theorem wins_iff_prevails (h : ∀ p ∈ points, p.Gridded) :
    Wins rowRank RawPricePoint.starts ctx.row points s p ↔ Prevails points s p := by
  unfold Wins Prevails
  refine exists_congr fun before => exists_congr fun after => and_congr_right fun heq => ?_
  have hbefore : ∀ q ∈ before, q.Gridded := fun q hq => h q (by rw [heq]; exact List.mem_append_left _ hq)
  have hafter : ∀ q ∈ after, q.Gridded := fun q hq =>
    h q (by rw [heq]; exact List.mem_append_right _ (List.mem_cons_of_mem _ hq))
  have hp : p.Gridded := h p (by rw [heq]; exact List.mem_append_right _ List.mem_cons_self)
  refine and_congr (RawPricePoint.mem_starts_iff hp) (and_congr ?_ ?_)
  · exact forall₂_congr fun q hq => imp_congr (RawPricePoint.mem_starts_iff (hbefore q hq)) Iff.rfl
  · exact forall₂_congr fun q hq => imp_congr (RawPricePoint.mem_starts_iff (hafter q hq)) Iff.rfl

theorem putPoint_eq_spread : ctx.putPoint = spread rowRank RawPricePoint.starts ctx.row := rfl

theorem nodup_keys_byPeriod (points : List RawPricePoint) : (ctx.byPeriod points).keys.Nodup := by
  rw [Context.byPeriod, putPoint_eq_spread]
  exact nodup_keys_run_spread points List.nodup_nil

/-- An entry of the dictionary is the row of the point that prevails at its key. -/
theorem mem_byPeriod_iff (h : ∀ p ∈ points, p.Gridded) :
    (s, r) ∈ ctx.byPeriod points ↔ ∃ p, Prevails points s p ∧ r = ctx.row p s := by
  rw [← KeyedChanges.get_eq_some_iff (nodup_keys_byPeriod points), Context.byPeriod, putPoint_eq_spread,
    get_run_spread_iff fun p _ => p.nodup_starts]
  exact exists_congr fun p => and_congr_left fun _ => wins_iff_prevails h

theorem exists_prevails (ctx : Context) (h : ∀ p ∈ points, p.Gridded) (hcovers : ∃ p ∈ points, p.fromHour.Covers s) :
    ∃ p, Prevails points s p := by
  obtain ⟨p, hp, hs⟩ := hcovers
  have hkey : s ∈ p.starts := (RawPricePoint.mem_starts_iff (h p hp)).mpr hs
  obtain ⟨w, hw⟩ := exists_wins rowRank ctx.row ⟨p, hp, hkey⟩
  exact ⟨w, (wins_iff_prevails h).mp hw⟩

/-- **A row** is that of the point that prevails at its quarter. -/
theorem row_of_prevailing (h : ∀ p ∈ points, p.Gridded) :
    r ∈ ctx.normalizeToPeriods points ↔ ∃ p, Prevails points r.periodStart p ∧ r = ctx.row p r.periodStart := by
  rw [Context.normalizeToPeriods, List.mem_mergeSort, List.mem_map]
  constructor
  · rintro ⟨⟨s, r⟩, hmem, rfl⟩
    obtain ⟨p, hp, rfl⟩ := (mem_byPeriod_iff h).mp hmem
    exact ⟨p, hp, rfl⟩
  · intro hrow
    exact ⟨(r.periodStart, r), (mem_byPeriod_iff h).mpr hrow, rfl⟩

/-- **The quarters of the rows** are those of the moved intervals. -/
theorem mem_starts_normalizeToPeriods (h : ∀ p ∈ points, p.Gridded) :
    s ∈ (ctx.normalizeToPeriods points).map PricePeriod.periodStart ↔ ∃ p ∈ points, p.fromHour.Covers s := by
  rw [List.mem_map]
  constructor
  · rintro ⟨r, hr, rfl⟩
    obtain ⟨p, ⟨before, after, rfl, hcovers, -⟩, -⟩ := (row_of_prevailing h).mp hr
    exact ⟨p, List.mem_append_right _ List.mem_cons_self, hcovers⟩
  · intro hcovers
    obtain ⟨p, hp⟩ := exists_prevails ctx h hcovers
    exact ⟨ctx.row p s, (row_of_prevailing h).mpr ⟨p, hp, rfl⟩, rfl⟩

/-- No two rows are of one quarter. -/
theorem nodup_starts_normalizeToPeriods (h : ∀ p ∈ points, p.Gridded) :
    ((ctx.normalizeToPeriods points).map PricePeriod.periodStart).Nodup := by
  have hkeys : ((ctx.byPeriod points).map Prod.snd).map PricePeriod.periodStart = (ctx.byPeriod points).keys := by
    rw [List.map_map]
    refine List.map_congr_left fun entry hentry => ?_
    obtain ⟨p, -, hrow⟩ := (mem_byPeriod_iff h).mp hentry
    show entry.2.periodStart = entry.1
    rw [hrow]
    rfl
  have hperm : ((ctx.normalizeToPeriods points).map PricePeriod.periodStart).Perm (ctx.byPeriod points).keys := by
    rw [← hkeys]
    exact (List.mergeSort_perm _ _).map _
  exact hperm.nodup_iff.mpr (nodup_keys_byPeriod points)

end

/-! ### Coverage -/

def RawPricePoint.prices (cfg : Settings) (p : RawPricePoint) : Option ℚ × Option ℚ × Option ℚ :=
  (eurToSek p.marketPriceEurKwh cfg, eurToSek p.importPriceEurKwh cfg, eurToSek p.exportPriceEurKwh cfg)

def PricePeriod.prices (r : PricePeriod) : Option ℚ × Option ℚ × Option ℚ :=
  (r.marketPriceSekKwh, r.importPriceSekKwh, r.exportPriceSekKwh)

/-- The rows are one for each quarter of the intervals of the points, with the prices of a point that has the quarter
and is of the best quality of those. -/
structure CoversOwnTime (cfg : Settings) (points : List RawPricePoint) (rows : List PricePeriod) : Prop where
  nodup : (rows.map PricePeriod.periodStart).Nodup
  ends : ∀ r ∈ rows, r.periodEnd = r.periodStart + 900
  slots : ∀ s, s ∈ rows.map PricePeriod.periodStart ↔ ∃ p ∈ points, p.Covers s
  carries : ∀ r ∈ rows, ∃ p ∈ points, p.Covers r.periodStart ∧ r.prices = p.prices cfg ∧ r.quality = p.quality
    ∧ ∀ q ∈ points, q.Covers r.periodStart → qualityRank q.quality ≤ qualityRank p.quality

/-- Moving the intervals to the hour loses no quarter, and a point that prevails at a quarter has the prices of one
that has the quarter. -/
structure MovesFaithfully (cfg : Settings) (points : List RawPricePoint) : Prop where
  kept : ∀ p ∈ points, ∀ s, p.Covers s → ∃ q ∈ points, q.fromHour.Covers s
  samePrices : ∀ s p, Prevails points s p → ∃ q ∈ points, q.Covers s ∧ q.prices cfg = p.prices cfg

section

variable {ctx : Context} {points : List RawPricePoint} {p q : RawPricePoint} {s : Instant}

theorem Prevails.mem (h : Prevails points s p) : p ∈ points := by
  obtain ⟨before, after, rfl, -⟩ := h
  exact List.mem_append_right _ List.mem_cons_self

theorem Prevails.covers (h : Prevails points s p) : p.fromHour.Covers s := by
  obtain ⟨before, after, -, hcovers, -⟩ := h
  exact hcovers

theorem Prevails.qualityRank_le (h : Prevails points s p) (hq : q ∈ points) (hs : q.fromHour.Covers s) :
    qualityRank q.quality ≤ qualityRank p.quality := by
  obtain ⟨before, after, rfl, -, hbefore, hafter⟩ := h
  rcases List.mem_append.mp hq with hq | hq
  · exact hbefore q hq hs
  · rcases List.mem_cons.mp hq with rfl | hq
    · exact le_rfl
    · exact (hafter q hq hs).le

/-- Native points that have the quarter are not of a better quality, as their intervals are not moved. -/
theorem Prevails.qualityRank_le_of_covers (h : Prevails points s p) (hq : q ∈ points) (hs : q.Covers s) :
    qualityRank q.quality ≤ qualityRank p.quality := by
  by_cases hnative : q.isNative = true
  · refine h.qualityRank_le hq ?_
    rw [RawPricePoint.fromHour_of_native hnative]
    exact hs
  · rw [RawPricePoint.quality_of_not_native hnative]
    by_cases hp : p.isNative = true
    · rw [RawPricePoint.quality_of_native hp]
      decide
    · rw [RawPricePoint.quality_of_not_native hp]

/-- A point with the quarter takes the place of the one that prevails but does not have it: both are coarse. -/
theorem Prevails.quality_eq (h : Prevails points s p) (hp : ¬ p.Covers s) (hq : q ∈ points) (hs : q.Covers s) :
    q.quality = p.quality := by
  have hcoarse : ¬ p.isNative = true := by
    intro hnative
    have hcovers := h.covers
    rw [RawPricePoint.fromHour_of_native hnative] at hcovers
    exact hp hcovers
  have hle := h.qualityRank_le_of_covers hq hs
  rw [RawPricePoint.quality_of_not_native hcoarse] at hle ⊢
  by_cases hnative : q.isNative = true
  · rw [RawPricePoint.quality_of_native hnative] at hle
    exact absurd hle (by decide)
  · exact RawPricePoint.quality_of_not_native hnative

theorem CoversOwnTime.movesFaithfully (h : ∀ p ∈ points, p.Gridded)
    (hcovers : CoversOwnTime ctx.cfg points (ctx.normalizeToPeriods points)) : MovesFaithfully ctx.cfg points := by
  constructor
  · intro p hp s hs
    exact (mem_starts_normalizeToPeriods h).mp ((hcovers.slots s).mpr ⟨p, hp, hs⟩)
  · intro s p hp
    have hrow : ctx.row p s ∈ ctx.normalizeToPeriods points := (row_of_prevailing h).mpr ⟨p, hp, rfl⟩
    obtain ⟨q, hq, hs, hprices, -⟩ := hcovers.carries _ hrow
    exact ⟨q, hq, hs, hprices.symm⟩

theorem MovesFaithfully.coversOwnTime (h : ∀ p ∈ points, p.Gridded) (hmoves : MovesFaithfully ctx.cfg points) :
    CoversOwnTime ctx.cfg points (ctx.normalizeToPeriods points) where
  nodup := nodup_starts_normalizeToPeriods h
  ends := by
    intro r hr
    obtain ⟨p, -, hrow⟩ := (row_of_prevailing h).mp hr
    rw [hrow]
    show r.periodStart + 60 * (intervalMinutes : ℚ) = r.periodStart + 900
    norm_num [intervalMinutes]
  slots := by
    intro s
    rw [mem_starts_normalizeToPeriods h]
    constructor
    · intro hs
      obtain ⟨p, hp⟩ := exists_prevails ctx h hs
      obtain ⟨q, hq, hcovers, -⟩ := hmoves.samePrices s p hp
      exact ⟨q, hq, hcovers⟩
    · rintro ⟨p, hp, hs⟩
      exact hmoves.kept p hp s hs
  carries := by
    intro r hr
    obtain ⟨p, hp, hrow⟩ := (row_of_prevailing h).mp hr
    have hprices : r.prices = p.prices ctx.cfg := by rw [hrow]; rfl
    have hquality : r.quality = p.quality := by rw [hrow]; rfl
    by_cases hcovers : p.Covers r.periodStart
    · exact ⟨p, hp.mem, hcovers, hprices, hquality, fun q hq hs => hp.qualityRank_le_of_covers hq hs⟩
    · obtain ⟨q, hq, hs, hsame⟩ := hmoves.samePrices r.periodStart p hp
      have hqp : q.quality = p.quality := hp.quality_eq hcovers hq hs
      refine ⟨q, hq, hs, hprices.trans hsame.symm, hquality.trans hqp.symm, fun q' hq' hs' => ?_⟩
      rw [hqp]
      exact hp.qualityRank_le_of_covers hq' hs'

/-- Points that last longer than a quarter and start on the hour are not moved. -/
theorem MovesFaithfully.of_wholeHours (cfg : Settings)
    (h : ∀ p ∈ points, ¬ p.isNative = true → hourStart p.timestamp = p.timestamp) : MovesFaithfully cfg points := by
  have hmoved : ∀ p ∈ points, p.fromHour = p := by
    intro p hp
    by_cases hnative : p.isNative = true
    · exact RawPricePoint.fromHour_of_native hnative
    · exact RawPricePoint.fromHour_of_hour (h p hp hnative)
  constructor
  · intro p hp s hs
    exact ⟨p, hp, (hmoved p hp).symm ▸ hs⟩
  · intro s p hp
    have hs := hp.covers
    rw [hmoved p hp.mem] at hs
    exact ⟨p, hp.mem, hs, rfl⟩

/-- **The rows** cover the intervals of the points, with prices that hold there, exactly if moving the intervals to the
hour keeps their quarters and their prices. -/
theorem coversOwnTime_iff (ctx : Context) {points : List RawPricePoint} (h : ∀ p ∈ points, p.Gridded) :
    CoversOwnTime ctx.cfg points (ctx.normalizeToPeriods points) ↔ MovesFaithfully ctx.cfg points :=
  ⟨CoversOwnTime.movesFaithfully h, MovesFaithfully.coversOwnTime h⟩

end

/-! ### Half an hour from 12:30 -/

namespace NormalizerDemo

def context : Context where
  siteId := 1
  priceArea := .se4
  isoformat := fun _ => "1970-01-01T12:30:00+00:00"

/-- 12:30 to 13:00. -/
def halfHour : RawPricePoint where
  timestamp := 45000
  marketPriceEurKwh := some (1 / 10)
  nativeResolutionMinutes := 30

def noon : RawPricePoint where
  timestamp := 43200
  marketPriceEurKwh := some (1 / 5)

/-- 12:15 to 12:30. -/
def quarter : RawPricePoint where
  timestamp := 44100
  marketPriceEurKwh := some (1 / 10)
  nativeResolutionMinutes := 15

theorem gridded_halfHour : halfHour.Gridded where
  timestamp := ⟨50, by decide +kernel⟩
  positive := by decide
  quarters := ⟨2, by decide⟩

theorem gridded_noon_quarter : ∀ p ∈ [noon, quarter], p.Gridded := by
  intro p hp
  rcases List.mem_cons.mp hp with rfl | hp
  · exact ⟨⟨48, by decide +kernel⟩, by decide, ⟨4, by decide⟩⟩
  · rw [List.mem_singleton.mp hp]
    exact ⟨⟨49, by decide +kernel⟩, by decide, ⟨1, by decide⟩⟩

theorem coversOwnTime_noon_quarter :
    CoversOwnTime context.cfg [noon, quarter] (context.normalizeToPeriods [noon, quarter]) := by
  refine (coversOwnTime_iff context gridded_noon_quarter).mpr (MovesFaithfully.of_wholeHours context.cfg ?_)
  intro p hp hcoarse
  rcases List.mem_cons.mp hp with rfl | hp
  · decide +kernel
  · rw [List.mem_singleton.mp hp] at hcoarse
    exact absurd rfl hcoarse

/-- A price from 12:30 to 13:00 becomes rows from 12:00 to 12:30. -/
theorem half_hour_moved_back : halfHour.Gridded
    ∧ (context.normalizeToPeriods [halfHour]).map PricePeriod.periodStart = [43200, 44100]
    ∧ ¬ CoversOwnTime context.cfg [halfHour] (context.normalizeToPeriods [halfHour]) := by
  have hstarts : (context.normalizeToPeriods [halfHour]).map PricePeriod.periodStart = [43200, 44100] := by
    rw [Context.normalizeToPeriods, List.mergeSort_of_pairwise (by decide +kernel)]
    decide +kernel
  refine ⟨gridded_halfHour, hstarts, fun hcovers => ?_⟩
  have hslot : (45000 : Instant) ∈ (context.normalizeToPeriods [halfHour]).map PricePeriod.periodStart := by
    refine (hcovers.slots 45000).mpr ⟨halfHour, List.mem_singleton_self _, ⟨50, by decide +kernel⟩, ?_, ?_⟩
    · decide +kernel
    · decide +kernel
  rw [hstarts] at hslot
  exact absurd hslot (by decide +kernel)

end NormalizerDemo

end EnergyCore.PriceEngine
