import EnergyCore.Consumers.BucketPartition
import EnergyCore.PriceEngine.Normalizer

/-!
# Local days on the grid

The quarters of a local day: from its midnight to the next one, each resolved to UTC. The second midnight is the first
one plus a day on the clock of the place, so it is the first midnight of the next day, whatever the zone does between.

* `periodsOfDay_eq` — the quarters of a day are those from its start to that of the next day;
* `length_periodsOfDay` — how many there are;
* `localDays_partition` — when the days follow each other, and when they partition the grid.
-/

namespace EnergyCore.PriceEngine

open TimeZones TimeZone
open Consumers (europeStockholm)

/-! ### The source -/

/-- The UTC bounds of a local day: both midnights are wall times of the zone. -/
def localDayBounds (zone : TimeZone) (day : ℤ) : Instant × Instant :=
  (zone.toUtc (midnight day), zone.toUtc (midnight day + 86400))

/-- The loop of `enumerate_periods`. -/
def periodsFrom (interval : ℕ+) (stop cursor : Instant) : List Instant :=
  if cursor < stop then cursor :: periodsFrom interval stop (cursor + 60 * (interval : ℕ)) else []
  termination_by ⌈(stop - cursor) / (60 * (interval : ℕ))⌉.toNat
  decreasing_by
    rename_i hlt
    have hinterval : (0 : ℚ) < (interval : ℕ) := by exact_mod_cast interval.pos
    have hpos : 0 < (stop - cursor) / (60 * (interval : ℕ)) := div_pos (by linarith) (by linarith)
    have hstep : (stop - (cursor + 60 * (interval : ℕ))) / (60 * (interval : ℕ))
        = (stop - cursor) / (60 * (interval : ℕ)) - 1 := by
      field_simp
      ring
    have hceil := Int.ceil_pos.mpr hpos
    rw [hstep, Int.ceil_sub_one]
    omega

def enumeratePeriods (start stop : Instant) (interval : ℕ+) : List Instant :=
  let cursor := alignPeriodStart start interval
  let cursor := if cursor < start then cursor + 60 * (interval : ℕ) else cursor
  periodsFrom interval stop cursor

def enumerateLocalDayPeriods (zone : TimeZone) (day : ℤ) (interval : ℕ+) : List Instant :=
  let (dayStart, dayEnd) := localDayBounds zone day
  enumeratePeriods dayStart dayEnd interval

/-- The periods of a local day, of a quarter of an hour each. -/
def periodsOfDay (zone : TimeZone) (day : ℤ) : List Instant := enumerateLocalDayPeriods zone day 15

/-! ### Quarters -/

/-- The quarters from one to another. -/
def quarters (m n : ℤ) : List Instant := (List.range (n - m).toNat).map fun i : ℕ => (900 : ℚ) * (m + i)

theorem quarters_of_le {m n : ℤ} (h : n ≤ m) : quarters m n = [] := by
  rw [quarters, Int.toNat_eq_zero.mpr (by omega)]
  rfl

theorem quarters_of_lt {m n : ℤ} (h : m < n) : quarters m n = 900 * (m : ℚ) :: quarters (m + 1) n := by
  have hcount : (n - m).toNat = (n - (m + 1)).toNat + 1 := by omega
  rw [quarters, hcount, List.range_succ_eq_map, List.map_cons, List.map_map, quarters]
  congr 1
  · push_cast
    ring
  · refine List.map_congr_left fun i _ => ?_
    simp only [Function.comp_apply]
    push_cast
    ring

theorem mem_quarters {m n : ℤ} {s : Instant} : s ∈ quarters m n ↔ ∃ k : ℤ, m ≤ k ∧ k < n ∧ s = 900 * (k : ℚ) := by
  rw [quarters, List.mem_map]
  constructor
  · rintro ⟨i, hi, rfl⟩
    have hlt := List.mem_range.mp hi
    refine ⟨m + i, by omega, by omega, ?_⟩
    push_cast
    ring
  · rintro ⟨k, hm, hn, rfl⟩
    refine ⟨(k - m).toNat, List.mem_range.mpr (by omega), ?_⟩
    have hcast : (((k - m).toNat : ℤ) : ℚ) = k - m := by rw [Int.toNat_of_nonneg (by omega), Int.cast_sub]
    rw [← Int.cast_natCast, hcast]
    ring

theorem quarters_append {a b c : ℤ} (hab : a ≤ b) (hbc : b ≤ c) : quarters a b ++ quarters b c = quarters a c := by
  obtain ⟨n, rfl⟩ := Int.le.dest hab
  induction n generalizing a with
  | zero =>
    rw [quarters_of_le (by omega), List.nil_append]
    simp
  | succ n ih =>
    have hnext : a + ((n + 1 : ℕ) : ℤ) = a + 1 + (n : ℕ) := by push_cast; ring
    rw [hnext] at hbc hab ⊢
    rw [quarters_of_lt (by omega), List.cons_append, ih (by omega) hbc, ← quarters_of_lt (by omega)]

theorem head?_quarters {m n : ℤ} (h : m < n) : (quarters m n).head? = some (900 * (m : ℚ)) := by
  rw [quarters_of_lt h]
  rfl

theorem getLast?_quarters {m n : ℤ} (h : m < n) : (quarters m n).getLast? = some (900 * ((n - 1 : ℤ) : ℚ)) := by
  have hlast : quarters (n - 1) n = [900 * ((n - 1 : ℤ) : ℚ)] := by
    rw [quarters_of_lt (by omega), quarters_of_le (by omega)]
  rw [← quarters_append (show m ≤ n - 1 by omega) (show n - 1 ≤ n by omega), hlast, List.getLast?_concat]

/-- The loop between two quarters. -/
theorem periodsFrom_quarters (m n : ℤ) : periodsFrom 15 (900 * (n : ℚ)) (900 * (m : ℚ)) = quarters m n := by
  by_cases hlt : m < n
  · obtain ⟨k, hk⟩ := Int.le.dest hlt.le
    induction k generalizing m with
    | zero => omega
    | succ k ih =>
      have hcast : (m : ℚ) < n := by exact_mod_cast hlt
      have hstep : (900 : ℚ) * m + 60 * ((15 : ℕ+) : ℕ) = 900 * ((m + 1 : ℤ) : ℚ) := by
        push_cast
        norm_num
        ring
      rw [periodsFrom, if_pos (by linarith), hstep, quarters_of_lt hlt]
      congr 1
      by_cases hnext : m + 1 < n
      · exact ih (m + 1) hnext (by push_cast at hk; omega)
      · have hcast' : (n : ℚ) ≤ (m + 1 : ℤ) := by exact_mod_cast not_lt.mp hnext
        rw [periodsFrom, if_neg (by linarith), quarters_of_le (by omega)]
  · have hcast : (n : ℚ) ≤ m := by exact_mod_cast not_lt.mp hlt
    rw [periodsFrom, if_neg (by linarith), quarters_of_le (by omega)]

theorem enumeratePeriods_quarters (m n : ℤ) : enumeratePeriods (900 * (m : ℚ)) (900 * (n : ℚ)) 15 = quarters m n := by
  have halign : alignPeriodStart (900 * (m : ℚ)) ((15 : ℕ+) : ℕ) = 900 * (m : ℚ) := alignPeriodStart_quarter m
  unfold enumeratePeriods
  rw [halign]
  dsimp only
  rw [if_neg (lt_irrefl _)]
  exact periodsFrom_quarters m n

/-! ### The days of a zone -/

/-- The offsets of the zone are whole quarters. -/
def QuarterOffsets (zone : TimeZone) : Prop := ∀ o ∈ zone.offset :: zone.transitions.map Prod.snd, ∃ k : ℤ, o = 900 * (k : ℚ)

/-- How long a local day lasts: a day on the clock, less what the clock is put forward. -/
def dayLength (zone : TimeZone) (day : ℤ) : ℚ :=
  86400 - (zone.utcoffset (midnight (day + 1)) - zone.utcoffset (midnight day))

/-- The number of the quarter with which a local day begins. -/
def dayStart (zone : TimeZone) (day : ℤ) : ℤ := ⌊zone.toUtc (midnight day) / 900⌋

theorem midnight_succ (day : ℤ) : midnight (day + 1) = midnight day + 86400 := by
  unfold midnight
  push_cast
  ring

theorem localDayBounds_eq (zone : TimeZone) (day : ℤ) :
    localDayBounds zone day = (zone.toUtc (midnight day), zone.toUtc (midnight (day + 1))) := by
  rw [midnight_succ]
  rfl

theorem toUtc_midnight_succ (zone : TimeZone) (day : ℤ) :
    zone.toUtc (midnight (day + 1)) = zone.toUtc (midnight day) + dayLength zone day := by
  rw [dayLength, toUtc, toUtc, midnight_succ]
  ring

section

variable {zone : TimeZone} (h : QuarterOffsets zone) (day : ℤ)

include h

theorem toUtc_midnight : zone.toUtc (midnight day) = 900 * (dayStart zone day : ℚ) := by
  obtain ⟨k, hk⟩ := h _ (wallOffsetAfter_mem _ _ (midnight day))
  have hoffset : zone.utcoffset (midnight day) = 900 * (k : ℚ) := hk
  have hquarter : zone.toUtc (midnight day) / 900 = ((96 * day - k : ℤ) : ℚ) := by
    rw [toUtc, hoffset, midnight]
    push_cast
    ring
  rw [dayStart, hquarter, Int.floor_intCast, ← hquarter]
  ring

/-- **The quarters of a day** are those from its start to that of the next day. -/
theorem periodsOfDay_eq : periodsOfDay zone day = quarters (dayStart zone day) (dayStart zone (day + 1)) := by
  unfold periodsOfDay enumerateLocalDayPeriods
  rw [localDayBounds_eq, toUtc_midnight h, toUtc_midnight h]
  exact enumeratePeriods_quarters _ _

theorem dayLength_eq : dayLength zone day = 900 * ((dayStart zone (day + 1) - dayStart zone day : ℤ) : ℚ) := by
  have hnext := toUtc_midnight_succ zone day
  rw [toUtc_midnight h, toUtc_midnight h] at hnext
  push_cast
  linarith

/-- **As many quarters as the day is long.** -/
theorem length_periodsOfDay : (periodsOfDay zone day).length = ⌊dayLength zone day / 900⌋.toNat := by
  have hquarters : dayLength zone day / 900 = ((dayStart zone (day + 1) - dayStart zone day : ℤ) : ℚ) := by
    rw [dayLength_eq h]
    ring
  rw [periodsOfDay_eq h, quarters, List.length_map, List.length_range, hquarters, Int.floor_intCast]

/-- A day that the zone leaves out has no quarters. -/
theorem periodsOfDay_eq_nil_iff : periodsOfDay zone day = [] ↔ dayLength zone day ≤ 0 := by
  have hlength := dayLength_eq h day
  rw [periodsOfDay_eq h, quarters, List.map_eq_nil_iff, List.range_eq_nil, Int.toNat_eq_zero, hlength,
    mul_nonpos_iff_pos_imp_nonpos, Int.cast_nonpos]
  exact ⟨fun hle => ⟨fun _ => hle, fun _ => by norm_num⟩, fun hle => hle.1 (by norm_num)⟩

theorem dayStart_lt_iff : dayStart zone day < dayStart zone (day + 1) ↔ 0 < dayLength zone day := by
  rw [dayLength_eq h, mul_pos_iff_of_pos_left (by norm_num), Int.cast_pos, sub_pos]

theorem dayStart_le_iff : dayStart zone day ≤ dayStart zone (day + 1) ↔ 0 ≤ dayLength zone day := by
  rw [dayLength_eq h, mul_nonneg_iff_of_pos_left (by norm_num), Int.cast_nonneg_iff, sub_nonneg]

/-- Days do not begin more than a day away from where they would in UTC. -/
theorem dayStart_bounds : 96 * (day - 1) < dayStart zone day ∧ dayStart zone day < 96 * (day + 1) := by
  obtain ⟨hlo, hhi⟩ := zone.utcoffset_bounded (midnight day)
  have hstart := toUtc_midnight h day
  rw [toUtc, midnight] at hstart
  rw [midnight] at hlo hhi
  constructor
  · have hcast : ((96 * (day - 1) : ℤ) : ℚ) < dayStart zone day := by
      push_cast
      linarith
    exact_mod_cast hcast
  · have hcast : (dayStart zone day : ℚ) < ((96 * (day + 1) : ℤ) : ℚ) := by
      push_cast
      linarith
    exact_mod_cast hcast

end

/-- Every day lasts in a zone whose offsets are less than a day apart. -/
theorem dayLength_pos {zone : TimeZone} (h : ∀ o ∈ zone.offset :: zone.transitions.map Prod.snd,
    ∀ o' ∈ zone.offset :: zone.transitions.map Prod.snd, o' - o < 86400) (day : ℤ) : 0 < dayLength zone day := by
  have hoffsets := h _ (wallOffsetAfter_mem _ _ (midnight day)) _ (wallOffsetAfter_mem _ _ (midnight (day + 1)))
  unfold dayLength
  exact sub_pos.mpr hoffsets

/-! ### The partition -/

/-- The second list goes on a quarter after the end of the first one. -/
def Consecutive (first second : List Instant) : Prop :=
  ∃ p q, first.getLast? = some p ∧ second.head? = some q ∧ q = p + 900

/-- Over any range of days the lists are the quarters from the start of the first day on, and every quarter is in one of
them. -/
structure PartitionsGrid (zone : TimeZone) : Prop where
  range : ∀ (day : ℤ) (n : ℕ), (List.range n).flatMap (fun i : ℕ => periodsOfDay zone (day + i))
    = enumeratePeriods (localDayBounds zone day).1 (localDayBounds zone (day + n)).1 15
  once : ∀ s, IsQuarter s → ∃! day, s ∈ periodsOfDay zone day

section

variable {zone : TimeZone} (h : QuarterOffsets zone)

include h

theorem disjoint_next (day : ℤ) : (periodsOfDay zone day).Disjoint (periodsOfDay zone (day + 1)) := by
  intro s hs hs'
  rw [periodsOfDay_eq h, mem_quarters] at hs hs'
  obtain ⟨k, -, hlt, rfl⟩ := hs
  obtain ⟨k', hle, -, heq⟩ := hs'
  have hcast : (k : ℚ) = k' := by linarith
  have hk : k = k' := by exact_mod_cast hcast
  omega

/-- A day without quarters has no last one. -/
theorem lasts_of_consecutive {day : ℤ} (hnext : Consecutive (periodsOfDay zone day) (periodsOfDay zone (day + 1))) :
    0 < dayLength zone day := by
  obtain ⟨p, -, hlast, -⟩ := hnext
  by_contra hle
  rw [(periodsOfDay_eq_nil_iff h day).mpr (not_lt.mp hle)] at hlast
  cases hlast

theorem consecutive_of_lasts {day : ℤ} (hday : 0 < dayLength zone day) (hnext : 0 < dayLength zone (day + 1)) :
    Consecutive (periodsOfDay zone day) (periodsOfDay zone (day + 1)) := by
  rw [← dayStart_lt_iff h] at hday hnext
  rw [periodsOfDay_eq h, periodsOfDay_eq h]
  refine ⟨_, _, getLast?_quarters hday, head?_quarters hnext, ?_⟩
  push_cast
  ring

theorem quarter_mem {k day : ℤ} : (900 : ℚ) * k ∈ periodsOfDay zone day
    ↔ dayStart zone day ≤ k ∧ k < dayStart zone (day + 1) := by
  rw [periodsOfDay_eq h, mem_quarters]
  constructor
  · rintro ⟨k', hle, hlt, heq⟩
    have hcast : (k : ℚ) = k' := by linarith
    have hk : k = k' := by exact_mod_cast hcast
    rw [hk]
    exact ⟨hle, hlt⟩
  · exact fun ⟨hle, hlt⟩ => ⟨k, hle, hlt, rfl⟩

/-- After a day that has begun there is a last one that has, and the quarter belongs to it. -/
theorem exists_day {k first : ℤ} (hfirst : dayStart zone first ≤ k) :
    ∃ day, first ≤ day ∧ dayStart zone day ≤ k ∧ k < dayStart zone (day + 1) := by
  obtain ⟨day, hbegun, hlast⟩ := Int.exists_greatest_of_bdd (P := fun day => dayStart zone day ≤ k)
    ⟨k / 96 + 1, fun day hday => by
      have := (dayStart_bounds h day).1
      omega⟩
    ⟨first, hfirst⟩
  refine ⟨day, hlast first hfirst, hbegun, ?_⟩
  by_contra hle
  have := hlast (day + 1) (not_lt.mp hle)
  omega

/-- Before a day that has not begun there is a last one that has. -/
theorem exists_day_before {k day : ℤ} (hday : k < dayStart zone day) :
    ∃ before, (dayStart zone before ≤ k ∧ k < dayStart zone (before + 1)) ∧ before < day := by
  obtain ⟨before, ⟨hbegun, hlt⟩, hlast⟩ := Int.exists_greatest_of_bdd
    (P := fun before => dayStart zone before ≤ k ∧ before < day) ⟨day, fun before hbefore => hbefore.2.le⟩
    ⟨min (k / 96 - 1) (day - 1), by
      have := (dayStart_bounds h (min (k / 96 - 1) (day - 1))).2
      omega, by omega⟩
  refine ⟨before, ⟨hbegun, ?_⟩, hlt⟩
  by_contra hle
  have hnext : before + 1 < day := by
    by_contra hge
    have heq : before + 1 = day := by omega
    rw [heq] at hle
    exact hle hday
  have := hlast (before + 1) ⟨not_lt.mp hle, hnext⟩
  omega

section

variable (hlasts : ∀ day, 0 ≤ dayLength zone day)

include hlasts

theorem dayStart_mono : Monotone (dayStart zone) :=
  monotone_int_of_le_succ fun day => (dayStart_le_iff h day).mpr (hlasts day)

theorem flatMap_periodsOfDay (day : ℤ) (n : ℕ) : (List.range n).flatMap (fun i : ℕ => periodsOfDay zone (day + i))
      = quarters (dayStart zone day) (dayStart zone (day + n)) := by
  induction n with
  | zero => rw [List.range_zero, List.flatMap_nil, Nat.cast_zero, add_zero, quarters_of_le le_rfl]
  | succ n ih =>
    have hsucc : day + ((n + 1 : ℕ) : ℤ) = day + n + 1 := by push_cast; ring
    rw [List.range_succ, List.flatMap_append, ih, List.flatMap_singleton, periodsOfDay_eq h, hsucc,
      quarters_append (dayStart_mono h hlasts (by omega)) (dayStart_mono h hlasts (by omega))]

/-- Every quarter belongs to one day. -/
theorem existsUnique_day (k : ℤ) : ∃! day, (900 : ℚ) * k ∈ periodsOfDay zone day := by
  have hfirst : dayStart zone (k / 96 - 1) ≤ k := by
    have := (dayStart_bounds h (k / 96 - 1)).2
    omega
  obtain ⟨day, -, hbegun, hover⟩ := exists_day h hfirst
  refine ⟨day, (quarter_mem h).mpr ⟨hbegun, hover⟩, fun day' hday' => ?_⟩
  obtain ⟨hbegun', hover'⟩ := (quarter_mem h).mp hday'
  have hmono := dayStart_mono h hlasts
  refine le_antisymm (not_lt.mp fun hlt => ?_) (not_lt.mp fun hlt => ?_)
  · have := hmono (show day + 1 ≤ day' by omega)
    omega
  · have := hmono (show day' + 1 ≤ day by omega)
    omega

end

/-- Where a day ends before it begins, the quarters between belong to a day before it and to one after it. -/
theorem lasts_of_partitionsGrid (hpartition : PartitionsGrid zone) (day : ℤ) : 0 ≤ dayLength zone day := by
  rw [← dayStart_le_iff h]
  by_contra hback
  obtain ⟨before, hbefore, hlt⟩ := exists_day_before h (not_le.mp hback)
  obtain ⟨after, hafter, hbegun, hover⟩ := exists_day h (le_refl (dayStart zone (day + 1)))
  obtain ⟨found, -, hunique⟩ := hpartition.once _ ⟨dayStart zone (day + 1), rfl⟩
  have hsame := (hunique before ((quarter_mem h).mpr hbefore)).trans
    (hunique after ((quarter_mem h).mpr ⟨hbegun, hover⟩)).symm
  omega

/-- **Local days on the grid.** The lists of a day and of the next one are disjoint. They are consecutive for all days
exactly if every day lasts, and they partition the grid exactly if no day ends before it begins. -/
theorem localDays_partition : (∀ day, (periodsOfDay zone day).Disjoint (periodsOfDay zone (day + 1))) ∧
      ((∀ day, Consecutive (periodsOfDay zone day) (periodsOfDay zone (day + 1))) ↔ ∀ day, 0 < dayLength zone day) ∧
      (PartitionsGrid zone ↔ ∀ day, 0 ≤ dayLength zone day) := by
  refine ⟨disjoint_next h, ⟨fun hall day => lasts_of_consecutive h (hall day), fun hall day => ?_⟩,
    lasts_of_partitionsGrid h, fun hall => ⟨fun day n => ?_, ?_⟩⟩
  · exact consecutive_of_lasts h (hall day) (hall (day + 1))
  · show _ = enumeratePeriods (zone.toUtc (midnight day)) (zone.toUtc (midnight (day + n))) 15
    rw [flatMap_periodsOfDay h hall, toUtc_midnight h, toUtc_midnight h, enumeratePeriods_quarters]
  · rintro s ⟨k, rfl⟩
    exact existsUnique_day h hall k

end

/-! ### Two zones -/

/-- The days of 23 and of 25 hours are part of the partition. -/
theorem localDays_europeStockholm :
    ((∀ day, (periodsOfDay europeStockholm day).Disjoint (periodsOfDay europeStockholm (day + 1))) ∧
      (∀ day, Consecutive (periodsOfDay europeStockholm day) (periodsOfDay europeStockholm (day + 1))) ∧
        PartitionsGrid europeStockholm) ∧
      (periodsOfDay europeStockholm 20541).length = 92 ∧ (periodsOfDay europeStockholm 20751).length = 100 := by
  have hquarters : QuarterOffsets europeStockholm := by
    show ∀ o ∈ [(3600 : ℚ), 7200, 3600], ∃ k : ℤ, o = 900 * (k : ℚ)
    intro o ho
    refine ⟨⌊o / 900⌋, ?_⟩
    revert o
    decide +kernel
  have hlasts : ∀ day, 0 < dayLength europeStockholm day := dayLength_pos
    (show ∀ o ∈ [(3600 : ℚ), 7200, 3600], ∀ o' ∈ [(3600 : ℚ), 7200, 3600], o' - o < 86400 by decide +kernel)
  obtain ⟨hdisjoint, hconsecutive, hpartition⟩ := localDays_partition hquarters
  refine ⟨⟨hdisjoint, hconsecutive.mpr hlasts, hpartition.mpr fun day => (hlasts day).le⟩, ?_, ?_⟩
  · rw [length_periodsOfDay hquarters]
    decide +kernel
  · rw [length_periodsOfDay hquarters]
    decide +kernel

/-- A zone that crosses the date line at the end of a day. -/
def dateLine : TimeZone where
  offset := -36000
  transitions := [(1325239200, 50400)]
  ordered := List.pairwise_singleton _ _
  wallOrdered := List.pairwise_singleton _ _
  bounded := by decide +kernel

/-- **A day that is left out.** It has no quarters, and is not followed by the next day a quarter after its last one. -/
theorem day_left_out : QuarterOffsets dateLine ∧ periodsOfDay dateLine 15338 = [] ∧
    ¬ Consecutive (periodsOfDay dateLine 15338) (periodsOfDay dateLine 15339) := by
  have hquarters : QuarterOffsets dateLine := by
    show ∀ o ∈ [(-36000 : ℚ), 50400], ∃ k : ℤ, o = 900 * (k : ℚ)
    intro o ho
    refine ⟨⌊o / 900⌋, ?_⟩
    revert o
    decide +kernel
  have hempty : periodsOfDay dateLine 15338 = [] := (periodsOfDay_eq_nil_iff hquarters 15338).mpr (by decide +kernel)
  refine ⟨hquarters, hempty, ?_⟩
  rintro ⟨p, -, hlast, -⟩
  rw [hempty] at hlast
  cases hlast

end EnergyCore.PriceEngine
