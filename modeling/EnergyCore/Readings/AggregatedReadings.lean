import EnergyCore.Foundations.Clock
import EnergyCore.Foundations.KeyedTotals
import Mathlib.Algebra.Order.BigOperators.Group.Finset

/-!
# Aggregated readings

The means of the readings of a site in buckets of so many minutes, by each of the three ways in which the database
layer computes them: in Python over what SQLite returns, in a SQL query, and from the views of Timescale.

* `averaged_eq_iff` — when two groupings have the same means;
* `postgres_eq_plain_iff`, `sqlite_eq_postgres_iff`, `timescale_eq_postgres_iff` — each way beside the next one;
* `aggregates_alike_iff` — when all ways return the plain buckets of one grid.
-/

namespace EnergyCore.Readings

open KeyedTotals

/-! ### Readings -/

/-- The columns of a reading. -/
structure Measured where
  solarProductionW : ℚ
  consumptionW : ℚ
  gridImportW : ℚ
  gridExportW : ℚ
  batterySocPct : ℚ
  batteryPowerW : ℚ
  deriving DecidableEq

structure ReadingRecord extends Measured where
  siteId : ℤ
  recordedAt : Instant

/-- A bucket starts with a minute, counted from the epoch. -/
structure AggregatedReading extends Measured where
  bucketStart : ℤ
  deriving DecidableEq

/-- The plain mean of each column. -/
def mean (group : List Measured) : Measured where
  solarProductionW := (group.map Measured.solarProductionW).sum / group.length
  consumptionW := (group.map Measured.consumptionW).sum / group.length
  gridImportW := (group.map Measured.gridImportW).sum / group.length
  gridExportW := (group.map Measured.gridExportW).sum / group.length
  batterySocPct := (group.map Measured.batterySocPct).sum / group.length
  batteryPowerW := (group.map Measured.batteryPowerW).sum / group.length

/-- The means of groups, in the order of their buckets. -/
def averaged {α : Type} (bucket : α → ℤ) (measured : α → Measured) (items : List α) : List AggregatedReading :=
  (groups bucket items).map fun e => { mean (e.2.map measured) with bucketStart := e.1 }

/-! ### Buckets -/

/-- The minute an instant lies in. -/
def minuteOf (t : Instant) : ℤ := ⌊t / 60⌋

def startOf (minute : ℤ) : Instant := 60 * minute

/-- `_floor_bucket`, which floors the minute of the hour. -/
def floorBucket (minute bucketMinutes : ℤ) : ℤ :=
  minute - minute % 60 + minute % 60 / bucketMinutes * bucketMinutes

/-- `time_bucket` of so many minutes. -/
def timeBucket (width minute : ℤ) : ℤ := minute - minute % width

/-- The arguments of `list_aggregated`. -/
structure AggregateQuery where
  siteId : ℤ
  bucketMinutes : ℤ
  fromTime : Option Instant := none
  toTime : Option Instant := none

namespace AggregateQuery

variable (q : AggregateQuery)

def InRange (t : Instant) : Prop := (∀ fromTime ∈ q.fromTime, fromTime ≤ t) ∧ ∀ toTime ∈ q.toTime, t ≤ toTime

instance (t : Instant) : Decidable (q.InRange t) := inferInstanceAs (Decidable (_ ∧ _))

def siteReadings (table : List ReadingRecord) : List ReadingRecord :=
  table.filter fun r => decide (r.siteId = q.siteId)

/-- The readings of the site in the range. -/
def readings (table : List ReadingRecord) : List ReadingRecord :=
  (q.siteReadings table).filter fun r => decide (q.InRange r.recordedAt)

/-- `list_readings`. -/
def listReadings (table : List ReadingRecord) (limit : ℕ) : List ReadingRecord :=
  ((q.readings table).insertionSort fun r r' => r.recordedAt ≤ r'.recordedAt).take limit

/-- Where the SQL query truncates to the hour. -/
def Hourly : Prop := q.bucketMinutes ≥ 60 ∧ q.bucketMinutes % 60 = 0

instance : Decidable q.Hourly := inferInstanceAs (Decidable (_ ∧ _))

/-- `bucket_expr`. -/
def dateTrunc (r : ReadingRecord) : ℤ :=
  if q.Hourly then minuteOf r.recordedAt - minuteOf r.recordedAt % 60 else minuteOf r.recordedAt

/-- The bucket width of the view. -/
def viewMinutes : ℤ := if q.bucketMinutes ≥ 60 then 60 else 5

def viewBucket (r : ReadingRecord) : ℤ := timeBucket q.viewMinutes (minuteOf r.recordedAt)

/-- `_list_aggregated_cagg`, of a view that is up to date. -/
def listAggregatedCagg (table : List ReadingRecord) : List AggregatedReading :=
  (averaged q.viewBucket ReadingRecord.toMeasured (q.siteReadings table)).filter fun row =>
    decide (q.InRange (startOf row.bucketStart))

/-- `list_aggregated`. -/
def listAggregated (isSqlite enableTimescaledb : Bool) (table : List ReadingRecord) : List AggregatedReading :=
  if isSqlite then
    averaged (fun r => floorBucket (minuteOf r.recordedAt) q.bucketMinutes) ReadingRecord.toMeasured
      (q.listReadings table 10000)
  else
    let caggRows := if enableTimescaledb then q.listAggregatedCagg table else []
    if caggRows ≠ [] then
      if q.bucketMinutes = 5 ∨ q.bucketMinutes = 60 then caggRows
      else averaged (fun row => floorBucket row.bucketStart q.bucketMinutes) AggregatedReading.toMeasured caggRows
    else averaged q.dateTrunc ReadingRecord.toMeasured (q.readings table)

/-! ### The purpose -/

/-- The bucket of a minute on the grid through `origin`. -/
def gridBucket (origin minute : ℤ) : ℤ := origin + (minute - origin) / q.bucketMinutes * q.bucketMinutes

/-- The buckets of the grid with the plain means of their readings. -/
def plainBuckets (origin : ℤ) (table : List ReadingRecord) : List AggregatedReading :=
  averaged (fun r => q.gridBucket origin (minuteOf r.recordedAt)) ReadingRecord.toMeasured (q.readings table)

/-- Whatever the database, the buckets are the plain ones of one grid. -/
def AggregatesAlike (table : List ReadingRecord) : Prop :=
  ∃ origin, ∀ isSqlite enableTimescaledb,
    q.listAggregated isSqlite enableTimescaledb table = q.plainBuckets origin table

end AggregateQuery

/-! ### Groupings -/

section

variable {α β : Type}

/-- The bucket of a group says where it starts. -/
theorem bucketStart_mk (measured : α → Measured) (k : ℤ) (l : List α) :
    (AggregatedReading.mk (mean (l.map measured)) k).bucketStart = k := rfl

/-- **Two groupings have the same means** if they have the same buckets, with one mean in each. -/
theorem averaged_eq_iff {bucket : α → ℤ} {bucket' : β → ℤ} {measured : α → Measured} {measured' : β → Measured}
    {items : List α} {items' : List β} : averaged bucket measured items = averaged bucket' measured' items' ↔
      (∀ k, k ∈ items.map bucket ↔ k ∈ items'.map bucket') ∧
        ∀ k ∈ items.map bucket, mean ((items.filter fun a => decide (bucket a = k)).map measured) =
          mean ((items'.filter fun a => decide (bucket' a = k)).map measured') := by
  unfold averaged
  rw [map_groups_eq_iff (bucketStart_mk measured) (bucketStart_mk measured')]
  simp only [AggregatedReading.mk.injEq, and_true]

theorem averaged_congr {bucket bucket' : α → ℤ} {measured : α → Measured} {items : List α}
    (h : ∀ a ∈ items, bucket a = bucket' a) : averaged bucket measured items = averaged bucket' measured items := by
  rw [averaged_eq_iff, List.map_congr_left h]
  refine ⟨fun _ => Iff.rfl, fun k _ => ?_⟩
  rw [List.filter_congr fun a ha => by rw [h a ha]]

theorem mem_averaged {bucket : α → ℤ} {measured : α → Measured} {items : List α} {row : AggregatedReading} :
    row ∈ averaged bucket measured items ↔ ∃ k ∈ items.map bucket,
      AggregatedReading.mk (mean ((items.filter fun a => decide (bucket a = k)).map measured)) k = row :=
  @mem_map_groups _ _ _ _ bucket items _ (fun k l => AggregatedReading.mk (mean (l.map measured)) k) row

theorem pairwise_averaged (bucket : α → ℤ) (measured : α → Measured) (items : List α) :
    (averaged bucket measured items).Pairwise fun row row' => row.bucketStart < row'.bucketStart :=
  pairwise_map_groups (bucketStart_mk measured)

theorem averaged_eq_nil_iff {bucket : α → ℤ} {measured : α → Measured} {items : List α} :
    averaged bucket measured items = [] ↔ items = [] := by
  constructor
  · intro h
    by_contra hne
    obtain ⟨a, ha⟩ := List.exists_mem_of_ne_nil items hne
    have hrow : AggregatedReading.mk (mean ((items.filter fun a' => decide (bucket a' = bucket a)).map measured))
        (bucket a) ∈ averaged bucket measured items :=
      mem_averaged.mpr ⟨bucket a, List.mem_map_of_mem ha, rfl⟩
    rw [h] at hrow
    cases hrow
  · rintro rfl
    rfl

/-- Buckets are selected by their start with the items in them. -/
theorem filter_averaged (bucket : α → ℤ) (measured : α → Measured) (items : List α) (p : ℤ → Bool) :
    (averaged bucket measured items).filter (fun row => p row.bucketStart) =
      averaged bucket measured (items.filter fun a => p (bucket a)) := by
  refine eq_of_pairwise_of_mem_iff ((pairwise_averaged bucket measured items).filter _)
    (pairwise_averaged bucket measured _) fun row => ?_
  -- the items of a selected bucket are all selected
  have hgroup : ∀ k, p k = true → ((items.filter fun a => p (bucket a)).filter fun a => decide (bucket a = k)) =
      items.filter fun a => decide (bucket a = k) := by
    intro k hk
    rw [List.filter_filter]
    refine List.filter_congr fun a _ => ?_
    by_cases ha : bucket a = k
    · rw [ha, hk, Bool.and_true]
    · rw [decide_eq_false ha, Bool.false_and]
  rw [List.mem_filter, mem_averaged, mem_averaged]
  constructor
  · rintro ⟨⟨k, hk, rfl⟩, hp⟩
    obtain ⟨a, ha, rfl⟩ := List.mem_map.mp hk
    exact ⟨bucket a, List.mem_map_of_mem (List.mem_filter.mpr ⟨ha, hp⟩), by rw [hgroup _ hp]⟩
  · rintro ⟨k, hk, rfl⟩
    obtain ⟨a, ha, rfl⟩ := List.mem_map.mp hk
    obtain ⟨ha, hp⟩ := List.mem_filter.mp ha
    exact ⟨⟨bucket a, List.mem_map_of_mem ha, by rw [hgroup _ hp]⟩, hp⟩

theorem mean_singleton (m : Measured) : mean [m] = m := by
  simp [mean]

/-- Buckets that keep their starts stay as they are. -/
theorem averaged_self {rows : List AggregatedReading} {bucket : AggregatedReading → ℤ}
    (hrows : rows.Pairwise fun row row' => row.bucketStart < row'.bucketStart)
    (h : ∀ row ∈ rows, bucket row = row.bucketStart) : averaged bucket AggregatedReading.toMeasured rows = rows := by
  have hnodup : (rows.map AggregatedReading.bucketStart).Nodup := by
    rw [List.Nodup, List.pairwise_map]
    exact hrows.imp fun hlt => ne_of_lt hlt
  have hgroup : ∀ row ∈ rows, (rows.filter fun row' => decide (bucket row' = row.bucketStart)) = [row] := by
    intro row hrow
    refine List.perm_singleton.mp ((List.perm_ext_iff_of_nodup (hnodup.of_map.filter _)
      (List.nodup_singleton row)).mpr fun row' => ?_)
    rw [List.mem_filter, decide_eq_true_eq, List.mem_singleton]
    constructor
    · rintro ⟨hrow', heq⟩
      exact List.inj_on_of_nodup_map hnodup hrow' hrow ((h row' hrow').symm.trans heq)
    · rintro rfl
      exact ⟨hrow, h _ hrow⟩
  refine eq_of_pairwise_of_mem_iff (pairwise_averaged _ _ _) hrows fun row => ?_
  rw [mem_averaged]
  constructor
  · rintro ⟨k, hk, rfl⟩
    obtain ⟨row, hrow, rfl⟩ := List.mem_map.mp hk
    rw [h row hrow, hgroup row hrow, List.map_singleton, mean_singleton]
    exact hrow
  · intro hrow
    refine ⟨row.bucketStart, List.mem_map.mpr ⟨row, hrow, h row hrow⟩, ?_⟩
    rw [hgroup row hrow, List.map_singleton, mean_singleton]

end

/-! ### Minutes -/

/-- A map that lowers numbers and brings some of a set back onto all of it moves nothing. -/
theorem fixed_of_mem_iff {xs ys : List ℤ} {f : ℤ → ℤ} (hsub : xs ⊆ ys) (h : ∀ k, k ∈ xs.map f ↔ k ∈ ys)
    (hle : ∀ x ∈ xs, f x ≤ x) : ∀ y ∈ ys, y ∈ xs ∧ f y = y := by
  have himage : xs.toFinset.image f = ys.toFinset := by
    ext k
    rw [Finset.mem_image, List.mem_toFinset, ← h k, List.mem_map]
    simp only [List.mem_toFinset]
  have hcard : ys.toFinset.card ≤ xs.toFinset.card := by
    rw [← himage]
    exact Finset.card_image_le
  have hsame : xs.toFinset = ys.toFinset :=
    Finset.eq_of_subset_of_card_le (fun x hx => List.mem_toFinset.mpr (hsub (List.mem_toFinset.mp hx))) hcard
  -- the map is injective, so the sum of the images is the sum of the numbers
  have hinj : Set.InjOn f xs.toFinset := by
    rw [← Finset.card_image_iff, himage, hsame]
  have hsum : ∑ x ∈ xs.toFinset, f x = ∑ x ∈ xs.toFinset, x := by
    rw [← Finset.sum_image hinj (f := fun x => x), himage, hsame]
  have hfixed := (Finset.sum_eq_sum_iff_of_le fun x hx => hle x (List.mem_toFinset.mp hx)).mp hsum
  intro y hy
  have hy' : y ∈ xs.toFinset := by
    rw [hsame]
    exact List.mem_toFinset.mpr hy
  exact ⟨List.mem_toFinset.mp hy', hfixed y hy'⟩

theorem floorBucket_le {minute bucketMinutes : ℤ} (hb : 1 ≤ bucketMinutes) :
    floorBucket minute bucketMinutes ≤ minute := by
  have hmod : 0 ≤ minute % 60 := Int.emod_nonneg _ (by norm_num)
  have hle : minute % 60 / bucketMinutes * bucketMinutes ≤ minute % 60 := Int.ediv_mul_le _ (by omega)
  unfold floorBucket
  omega

/-- A minute that divides its hour is the start of its bucket. -/
theorem floorBucket_eq_self_iff (minute bucketMinutes : ℤ) :
    floorBucket minute bucketMinutes = minute ↔ bucketMinutes ∣ minute % 60 := by
  unfold floorBucket
  constructor
  · intro h
    exact ⟨minute % 60 / bucketMinutes, by rw [Int.mul_comm]; omega⟩
  · intro h
    rw [Int.ediv_mul_cancel h]
    omega

namespace AggregateQuery

variable {q : AggregateQuery}

theorem gridBucket_le (hb : 1 ≤ q.bucketMinutes) (origin minute : ℤ) : q.gridBucket origin minute ≤ minute := by
  have hle := Int.ediv_mul_le (minute - origin) (show q.bucketMinutes ≠ 0 by omega)
  unfold gridBucket
  omega

theorem lt_gridBucket_add (hb : 1 ≤ q.bucketMinutes) (origin minute : ℤ) :
    minute < q.gridBucket origin minute + q.bucketMinutes := by
  have hlt := Int.lt_ediv_add_one_mul_self (minute - origin) (show 0 < q.bucketMinutes by omega)
  rw [Int.add_mul, Int.one_mul] at hlt
  unfold gridBucket
  omega

theorem dvd_gridBucket_sub (origin minute : ℤ) : q.bucketMinutes ∣ q.gridBucket origin minute - origin := by
  unfold gridBucket
  rw [add_sub_cancel_left]
  exact Int.dvd_mul_left _ _

/-- The bucket of a minute is the one point of the grid that is just before it. -/
theorem gridBucket_eq (hb : 1 ≤ q.bucketMinutes) {origin minute start : ℤ} (hle : start ≤ minute)
    (hlt : minute < start + q.bucketMinutes) (hgrid : q.bucketMinutes ∣ start - origin) :
    q.gridBucket origin minute = start := by
  have hdvd : q.bucketMinutes ∣ q.gridBucket origin minute - start := by
    have hsub := Int.dvd_sub (q.dvd_gridBucket_sub origin minute) hgrid
    rwa [sub_sub_sub_cancel_right] at hsub
  have hle' := gridBucket_le hb origin minute
  have hlt' := lt_gridBucket_add hb origin minute
  have hzero : q.gridBucket origin minute - start = 0 := Int.eq_zero_of_abs_lt_dvd hdvd (by rw [abs_lt]; omega)
  omega

theorem dateTrunc_le (r : ReadingRecord) : q.dateTrunc r ≤ minuteOf r.recordedAt := by
  have hmod : 0 ≤ minuteOf r.recordedAt % 60 := Int.emod_nonneg _ (by norm_num)
  unfold dateTrunc
  split_ifs
  · omega
  · exact le_refl _

theorem lt_dateTrunc_add (hb : 1 ≤ q.bucketMinutes) (r : ReadingRecord) :
    minuteOf r.recordedAt < q.dateTrunc r + q.bucketMinutes := by
  have hmod : minuteOf r.recordedAt % 60 < 60 := Int.emod_lt_of_pos _ (by norm_num)
  unfold dateTrunc
  split_ifs with hhourly
  · have hhour := hhourly.1
    omega
  · omega

theorem dateTrunc_of_not_hourly (h : ¬ q.Hourly) (r : ReadingRecord) : q.dateTrunc r = minuteOf r.recordedAt :=
  if_neg h

/-! ### The query beside the plain buckets -/

variable {table : List ReadingRecord}

/-- The truncated times of the readings lie on one grid. -/
def OnGrid (q : AggregateQuery) (table : List ReadingRecord) : Prop :=
  ∀ r ∈ q.readings table, ∀ r' ∈ q.readings table, q.bucketMinutes ∣ q.dateTrunc r - q.dateTrunc r'

theorem postgres_eq_plain_iff (hb : 1 ≤ q.bucketMinutes) :
    (∃ origin, averaged q.dateTrunc ReadingRecord.toMeasured (q.readings table) = q.plainBuckets origin table) ↔
      q.OnGrid table := by
  constructor
  · rintro ⟨origin, h⟩
    obtain ⟨hbuckets, -⟩ := averaged_eq_iff.mp h
    -- a point of the grid is not behind the truncated time
    have hle : ∀ r ∈ q.readings table, q.gridBucket origin (minuteOf r.recordedAt) ≤ q.dateTrunc r := by
      intro r hr
      have hgrid := gridBucket_le hb origin (minuteOf r.recordedAt)
      unfold dateTrunc
      split_ifs with hhourly
      · obtain ⟨r', -, hr'⟩ := List.mem_map.mp ((hbuckets _).mpr (List.mem_map_of_mem hr))
        rw [dateTrunc, if_pos hhourly] at hr'
        omega
      · exact hgrid
    have hsame : ∀ r ∈ q.readings table,
        q.gridBucket origin (q.dateTrunc r) = q.gridBucket origin (minuteOf r.recordedAt) := by
      intro r hr
      have hlt := lt_gridBucket_add hb origin (minuteOf r.recordedAt)
      have htrunc := @dateTrunc_le q r
      exact gridBucket_eq hb (hle r hr) (by omega) (dvd_gridBucket_sub _ _)
    have hlabels : ∀ k, k ∈ ((q.readings table).map q.dateTrunc).map (q.gridBucket origin) ↔
        k ∈ (q.readings table).map q.dateTrunc := by
      intro k
      rw [List.map_map, hbuckets k, show (q.readings table).map (q.gridBucket origin ∘ q.dateTrunc) =
        (q.readings table).map fun r => q.gridBucket origin (minuteOf r.recordedAt) from
          List.map_congr_left hsame]
    have hfixed := fixed_of_mem_iff (List.Subset.refl _) hlabels fun x _ => gridBucket_le hb origin x
    have hgrid : ∀ r ∈ q.readings table, q.bucketMinutes ∣ q.dateTrunc r - origin := by
      intro r hr
      have hdvd := dvd_gridBucket_sub (q := q) origin (q.dateTrunc r)
      rwa [(hfixed _ (List.mem_map_of_mem hr)).2] at hdvd
    intro r hr r' hr'
    have hsub := Int.dvd_sub (hgrid r hr) (hgrid r' hr')
    rwa [sub_sub_sub_cancel_right] at hsub
  · intro h
    cases hreadings : q.readings table with
    | nil => exact ⟨0, by rw [plainBuckets, hreadings]; rfl⟩
    | cons r rest =>
      refine ⟨q.dateTrunc r, ?_⟩
      rw [plainBuckets, hreadings]
      refine averaged_congr fun r' hr' => (gridBucket_eq hb (dateTrunc_le r') (lt_dateTrunc_add hb r') ?_).symm
      exact h r' (by rw [hreadings]; exact hr') r (by rw [hreadings]; exact List.mem_cons_self)

/-! ### The readings in Python beside the query -/

/-- Within the hour, the readings are in minutes that the buckets start with. -/
def Aligned (q : AggregateQuery) (table : List ReadingRecord) : Prop :=
  ¬ q.Hourly → ∀ r ∈ q.readings table, q.bucketMinutes ∣ minuteOf r.recordedAt % 60

/-- The readings behind the first ten thousand are in buckets of others, and leave the means as they are. -/
def LimitHarmless (q : AggregateQuery) (table : List ReadingRecord) : Prop :=
  ∀ r ∈ q.readings table, (∃ r' ∈ q.listReadings table 10000, q.dateTrunc r' = q.dateTrunc r) ∧
    mean (((q.listReadings table 10000).filter fun r' => decide (q.dateTrunc r' = q.dateTrunc r)).map
        ReadingRecord.toMeasured) =
      mean (((q.readings table).filter fun r' => decide (q.dateTrunc r' = q.dateTrunc r)).map
        ReadingRecord.toMeasured)

theorem listReadings_subset (table : List ReadingRecord) (limit : ℕ) : q.listReadings table limit ⊆ q.readings table :=
  fun _ hr => (List.mem_insertionSort _).mp (List.mem_of_mem_take hr)

/-- The two floors agree on what is aligned. -/
theorem floorBucket_dateTrunc (haligned : q.Aligned table) {r : ReadingRecord} (hr : r ∈ q.readings table) :
    floorBucket (minuteOf r.recordedAt) q.bucketMinutes = q.dateTrunc r := by
  by_cases hhourly : q.Hourly
  · have hzero : minuteOf r.recordedAt % 60 / q.bucketMinutes = 0 := by
      refine Int.ediv_eq_zero_of_lt (Int.emod_nonneg _ (by norm_num)) ?_
      have hlt : minuteOf r.recordedAt % 60 < 60 := Int.emod_lt_of_pos _ (by norm_num)
      have hhour := hhourly.1
      omega
    rw [floorBucket, dateTrunc, if_pos hhourly, hzero]
    omega
  · rw [dateTrunc_of_not_hourly hhourly]
    exact (floorBucket_eq_self_iff _ _).mpr (haligned hhourly r hr)

theorem sqlite_eq_postgres_iff (hb : 1 ≤ q.bucketMinutes) :
    averaged (fun r => floorBucket (minuteOf r.recordedAt) q.bucketMinutes) ReadingRecord.toMeasured
        (q.listReadings table 10000) = averaged q.dateTrunc ReadingRecord.toMeasured (q.readings table) ↔
      q.Aligned table ∧ q.LimitHarmless table := by
  have hlimit : q.Aligned table → averaged (fun r => floorBucket (minuteOf r.recordedAt) q.bucketMinutes)
      ReadingRecord.toMeasured (q.listReadings table 10000) =
        averaged q.dateTrunc ReadingRecord.toMeasured (q.listReadings table 10000) := fun haligned =>
    averaged_congr fun r hr => floorBucket_dateTrunc haligned (listReadings_subset table _ hr)
  constructor
  · intro h
    have haligned : q.Aligned table := by
      intro hhourly r hr
      obtain ⟨hbuckets, -⟩ := averaged_eq_iff.mp h
      have hlabels : ∀ k, k ∈ ((q.listReadings table 10000).map fun r => minuteOf r.recordedAt).map
            (floorBucket · q.bucketMinutes) ↔ k ∈ (q.readings table).map fun r => minuteOf r.recordedAt := by
        intro k
        rw [List.map_map, ← List.map_congr_left fun r _ => dateTrunc_of_not_hourly hhourly r]
        exact hbuckets k
      have hfixed := fixed_of_mem_iff (List.map_subset _ (listReadings_subset table _)) hlabels
        fun x _ => floorBucket_le hb
      exact (floorBucket_eq_self_iff _ _).mp (hfixed _ (List.mem_map_of_mem hr)).2
    refine ⟨haligned, fun r hr => ?_⟩
    rw [hlimit haligned] at h
    obtain ⟨hbuckets, hmeans⟩ := averaged_eq_iff.mp h
    have hk := (hbuckets _).mpr (List.mem_map_of_mem hr)
    exact ⟨List.mem_map.mp hk, hmeans _ hk⟩
  · rintro ⟨haligned, hharmless⟩
    rw [hlimit haligned, averaged_eq_iff]
    refine ⟨fun k => ⟨fun hk => ?_, fun hk => ?_⟩, fun k hk => ?_⟩
    · obtain ⟨r, hr, rfl⟩ := List.mem_map.mp hk
      exact List.mem_map_of_mem (listReadings_subset table _ hr)
    · obtain ⟨r, hr, rfl⟩ := List.mem_map.mp hk
      exact List.mem_map.mpr (hharmless r hr).1
    · obtain ⟨r, hr, rfl⟩ := List.mem_map.mp hk
      exact (hharmless r (listReadings_subset table _ hr)).2

/-! ### The views beside the query -/

/-- The readings in the buckets of the view that start in the range. -/
def viewReadings (q : AggregateQuery) (table : List ReadingRecord) : List ReadingRecord :=
  (q.siteReadings table).filter fun r => decide (q.InRange (startOf (q.viewBucket r)))

/-- The range takes a reading without the start of its view bucket, or the other way round. -/
def CutsView (q : AggregateQuery) (table : List ReadingRecord) : Prop :=
  ∃ r ∈ q.siteReadings table, ¬ (q.InRange (startOf (q.viewBucket r)) ↔ q.InRange r.recordedAt)

/-- The start of a bucket of the view is floored again, unless the view has the wanted width. -/
def floorView (q : AggregateQuery) (start : ℤ) : ℤ :=
  if q.bucketMinutes = 5 ∨ q.bucketMinutes = 60 then start else floorBucket start q.bucketMinutes

/-- Where the range cuts the view: the rows that start in it are floored to the truncated times of the readings in
the range, and their means have the mean of these readings. -/
structure RowsAgree (q : AggregateQuery) (table : List ReadingRecord) : Prop where
  starts : ∀ k, (∃ row ∈ q.listAggregatedCagg table, q.floorView row.bucketStart = k) ↔
    ∃ r ∈ q.readings table, q.dateTrunc r = k
  means : ∀ row ∈ q.listAggregatedCagg table,
    mean (((q.listAggregatedCagg table).filter fun row' =>
        decide (q.floorView row'.bucketStart = q.floorView row.bucketStart)).map AggregatedReading.toMeasured) =
      mean (((q.readings table).filter fun r => decide (q.dateTrunc r = q.floorView row.bucketStart)).map
        ReadingRecord.toMeasured)

/-- The view has nothing to offer, or the truncated times are starts of its buckets; a range that cuts the view may
leave the means as they are. -/
def ViewAgrees (q : AggregateQuery) (table : List ReadingRecord) : Prop :=
  q.viewReadings table ≠ [] →
    (¬ q.CutsView table → ∀ r ∈ q.readings table, q.viewMinutes ∣ q.dateTrunc r) ∧
      (q.CutsView table → q.RowsAgree table)

theorem listAggregatedCagg_eq (q : AggregateQuery) (table : List ReadingRecord) :
    q.listAggregatedCagg table = averaged q.viewBucket ReadingRecord.toMeasured (q.viewReadings table) :=
  filter_averaged q.viewBucket ReadingRecord.toMeasured (q.siteReadings table) fun k =>
    decide (q.InRange (startOf k))

theorem viewReadings_of_not_cutsView (h : ¬ q.CutsView table) : q.viewReadings table = q.readings table := by
  refine List.filter_congr fun r hr => ?_
  have hiff : q.InRange (startOf (q.viewBucket r)) ↔ q.InRange r.recordedAt := by
    by_contra hne
    exact h ⟨r, hr, hne⟩
  exact decide_eq_decide.mpr hiff

theorem dvd_viewBucket (r : ReadingRecord) : q.viewMinutes ∣ q.viewBucket r :=
  Int.dvd_self_sub_emod

/-- Flooring the start of a view bucket does not go behind the minute. -/
theorem floorView_le (hb : 1 ≤ q.bucketMinutes) (minute : ℤ) :
    q.floorView (timeBucket q.viewMinutes minute) ≤ timeBucket q.viewMinutes minute ∧
      timeBucket q.viewMinutes minute ≤ minute := by
  have hmod : 0 ≤ minute % q.viewMinutes := by
    unfold viewMinutes
    split_ifs <;> exact Int.emod_nonneg _ (by norm_num)
  refine ⟨?_, by unfold timeBucket; omega⟩
  unfold floorView
  split_ifs
  · exact le_refl _
  · exact floorBucket_le hb

/-- A truncated time that starts a bucket of the view is the start of the reading's bucket. -/
theorem viewBucket_eq_dateTrunc {r : ReadingRecord} (h : q.viewMinutes ∣ q.dateTrunc r) :
    q.viewBucket r = q.dateTrunc r := by
  by_cases hhourly : q.Hourly
  · have hview : q.viewMinutes = 60 := if_pos hhourly.1
    rw [viewBucket, timeBucket, hview, dateTrunc, if_pos hhourly]
  · rw [dateTrunc_of_not_hourly hhourly] at h ⊢
    rw [viewBucket, timeBucket, Int.emod_eq_zero_of_dvd h, Int.sub_zero]

/-- The truncated time of an aligned reading is the start of a bucket. -/
theorem floorView_dateTrunc (haligned : q.Aligned table) {r : ReadingRecord} (hr : r ∈ q.readings table) :
    q.floorView (q.dateTrunc r) = q.dateTrunc r := by
  unfold floorView
  split_ifs
  · rfl
  · refine (floorBucket_eq_self_iff _ _).mpr ?_
    by_cases hhourly : q.Hourly
    · rw [dateTrunc, if_pos hhourly]
      have hzero : (minuteOf r.recordedAt - minuteOf r.recordedAt % 60) % 60 = 0 := by omega
      rw [hzero]
      exact Int.dvd_zero _
    · rw [dateTrunc_of_not_hourly hhourly]
      exact haligned hhourly r hr

/-- A range that cuts nothing off the view. -/
theorem timescale_of_not_cutsView_iff (hb : 1 ≤ q.bucketMinutes) (haligned : q.Aligned table)
    (hcuts : ¬ q.CutsView table) :
    averaged (fun row => q.floorView row.bucketStart) AggregatedReading.toMeasured (q.listAggregatedCagg table) =
        averaged q.dateTrunc ReadingRecord.toMeasured (q.readings table) ↔
      ∀ r ∈ q.readings table, q.viewMinutes ∣ q.dateTrunc r := by
  have hrows := listAggregatedCagg_eq q table
  rw [viewReadings_of_not_cutsView hcuts] at hrows
  constructor
  · intro h r hr
    by_cases hhourly : q.Hourly
    · rw [dateTrunc, if_pos hhourly, show q.viewMinutes = 60 from if_pos hhourly.1]
      exact Int.dvd_self_sub_emod
    · rw [dateTrunc_of_not_hourly hhourly]
      have hlabels : ∀ k, k ∈ ((q.readings table).map fun r => minuteOf r.recordedAt).map
          (fun minute => q.floorView (timeBucket q.viewMinutes minute)) ↔
            k ∈ (q.readings table).map fun r => minuteOf r.recordedAt := by
        intro k
        have hbuckets := (averaged_eq_iff.mp h).1 k
        rw [List.map_congr_left fun r _ => dateTrunc_of_not_hourly hhourly r] at hbuckets
        rw [← hbuckets, hrows, List.map_map, List.mem_map, List.mem_map]
        constructor
        · rintro ⟨r, hr, rfl⟩
          exact ⟨_, mem_averaged.mpr ⟨q.viewBucket r, List.mem_map_of_mem hr, rfl⟩, rfl⟩
        · rintro ⟨row, hrow, rfl⟩
          obtain ⟨k, hk, rfl⟩ := mem_averaged.mp hrow
          obtain ⟨r, hr, rfl⟩ := List.mem_map.mp hk
          exact ⟨r, hr, rfl⟩
      have hfixed := fixed_of_mem_iff (List.Subset.refl _) hlabels fun minute _ =>
        (floorView_le hb minute).1.trans (floorView_le hb minute).2
      have hminute := (hfixed _ (List.mem_map_of_mem hr)).2
      have hle := floorView_le hb (minuteOf r.recordedAt)
      have hstart : timeBucket q.viewMinutes (minuteOf r.recordedAt) = minuteOf r.recordedAt :=
        le_antisymm hle.2 (hminute.symm.le.trans hle.1)
      rw [← hstart]
      exact dvd_viewBucket r
  · intro h
    have hview : ∀ r ∈ q.readings table, q.viewBucket r = q.dateTrunc r := fun r hr =>
      viewBucket_eq_dateTrunc (h r hr)
    rw [hrows, averaged_congr hview]
    refine averaged_self (pairwise_averaged _ _ _) fun row hrow => ?_
    obtain ⟨k, hk, rfl⟩ := mem_averaged.mp hrow
    obtain ⟨r, hr, rfl⟩ := List.mem_map.mp hk
    exact floorView_dateTrunc haligned hr

theorem timescale_of_cutsView_iff :
    averaged (fun row => q.floorView row.bucketStart) AggregatedReading.toMeasured (q.listAggregatedCagg table) =
        averaged q.dateTrunc ReadingRecord.toMeasured (q.readings table) ↔ q.RowsAgree table := by
  rw [averaged_eq_iff]
  constructor
  · rintro ⟨hbuckets, hmeans⟩
    refine ⟨fun k => ?_, fun row hrow => hmeans _ (List.mem_map_of_mem hrow)⟩
    rw [← List.mem_map, ← List.mem_map]
    exact hbuckets k
  · intro h
    refine ⟨fun k => ?_, fun k hk => ?_⟩
    · rw [List.mem_map, List.mem_map]
      exact h.starts k
    · obtain ⟨row, hrow, rfl⟩ := List.mem_map.mp hk
      exact h.means row hrow

/-- **The views beside the query.** -/
theorem timescale_eq_postgres_iff (hb : 1 ≤ q.bucketMinutes) (haligned : q.Aligned table) :
    q.listAggregated false true table = q.listAggregated false false table ↔ q.ViewAgrees table := by
  have hpostgres : q.listAggregated false false table =
      averaged q.dateTrunc ReadingRecord.toMeasured (q.readings table) := rfl
  have hempty : q.listAggregatedCagg table = [] ↔ q.viewReadings table = [] := by
    rw [listAggregatedCagg_eq, averaged_eq_nil_iff]
  by_cases hnone : q.viewReadings table = []
  · have hrows := hempty.mpr hnone
    refine iff_of_true ?_ fun hne => absurd hnone hne
    rw [listAggregated, if_neg (by decide), if_pos rfl, hrows]
    rfl
  · have hrows : q.listAggregatedCagg table ≠ [] := fun h => hnone (hempty.mp h)
    have htimescale : q.listAggregated false true table =
        averaged (fun row => q.floorView row.bucketStart) AggregatedReading.toMeasured
          (q.listAggregatedCagg table) := by
      rw [listAggregated, if_neg (by decide), if_pos rfl, if_pos hrows]
      unfold floorView
      split_ifs with hexact
      · refine (averaged_self ?_ fun _ _ => rfl).symm
        rw [listAggregatedCagg_eq]
        exact pairwise_averaged _ _ _
      · rfl
    rw [htimescale, hpostgres, ViewAgrees]
    by_cases hcuts : q.CutsView table
    · rw [timescale_of_cutsView_iff]
      exact ⟨fun h _ => ⟨fun hnot => absurd hcuts hnot, fun _ => h⟩, fun h => (h hnone).2 hcuts⟩
    · rw [timescale_of_not_cutsView_iff hb haligned hcuts]
      exact ⟨fun h _ => ⟨fun _ => h, fun hcuts' => absurd hcuts' hcuts⟩, fun h => (h hnone).1 hcuts⟩

/-- **When all ways aggregate alike.** Whatever the readings and the range: SQLite, the query and the views return
the plain buckets of one grid exactly if the truncated times of the readings in the range lie on one grid, are aligned
within the hour, are told by the first ten thousand readings, and are the starts of buckets of the view. -/
theorem aggregates_alike_iff (hb : 1 ≤ q.bucketMinutes) : q.AggregatesAlike table ↔
      q.OnGrid table ∧ q.Aligned table ∧ q.LimitHarmless table ∧ q.ViewAgrees table := by
  have hsqlite : ∀ enableTimescaledb, q.listAggregated true enableTimescaledb table =
      averaged (fun r => floorBucket (minuteOf r.recordedAt) q.bucketMinutes) ReadingRecord.toMeasured
        (q.listReadings table 10000) := fun _ => rfl
  have hpostgres : q.listAggregated false false table =
      averaged q.dateTrunc ReadingRecord.toMeasured (q.readings table) := rfl
  constructor
  · rintro ⟨origin, h⟩
    have hgrid := (postgres_eq_plain_iff hb).mp ⟨origin, hpostgres.symm.trans (h false false)⟩
    have hpython : q.listAggregated true false table = q.listAggregated false false table :=
      (h true false).trans (h false false).symm
    rw [hsqlite, hpostgres] at hpython
    obtain ⟨haligned, hlimit⟩ := (sqlite_eq_postgres_iff hb).mp hpython
    exact ⟨hgrid, haligned, hlimit,
      (timescale_eq_postgres_iff hb haligned).mp ((h false true).trans (h false false).symm)⟩
  · rintro ⟨hgrid, haligned, hlimit, hview⟩
    obtain ⟨origin, hplain⟩ := (postgres_eq_plain_iff hb).mpr hgrid
    refine ⟨origin, fun isSqlite enableTimescaledb => ?_⟩
    cases isSqlite with
    | true => exact ((sqlite_eq_postgres_iff hb).mpr ⟨haligned, hlimit⟩).trans hplain
    | false =>
      cases enableTimescaledb with
      | true => exact ((timescale_eq_postgres_iff hb haligned).mpr hview).trans hplain
      | false => exact hplain

namespace SolarDemo

def reading (minute : ℤ) (solarProductionW : ℚ) : ReadingRecord where
  siteId := 1
  recordedAt := startOf minute
  solarProductionW := solarProductionW
  consumptionW := 0
  gridImportW := 0
  gridExportW := 0
  batterySocPct := 50
  batteryPowerW := 0

/-- Two readings in one quarter of an hour. -/
def morning : List ReadingRecord := [reading 600 1000, reading 601 2000]

def hours : AggregateQuery where
  siteId := 1
  bucketMinutes := 60

def quarters : AggregateQuery where
  siteId := 1
  bucketMinutes := 15

end SolarDemo

open SolarDemo

theorem hours_alike_iff : hours.AggregatesAlike morning ↔
      hours.OnGrid morning ∧ hours.Aligned morning ∧ hours.LimitHarmless morning ∧ hours.ViewAgrees morning :=
  aggregates_alike_iff (by decide)

/-- The query puts the readings of a quarter into buckets of a minute. -/
theorem quarters_not_alike : ¬ quarters.AggregatesAlike morning := by
  rintro ⟨origin, h⟩
  have hsame : quarters.listAggregated true false morning = quarters.listAggregated false false morning :=
    (h true false).trans (h false false).symm
  exact absurd (congrArg List.length hsame) (by decide +kernel)

end AggregateQuery

end EnergyCore.Readings
