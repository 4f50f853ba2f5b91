import EnergyCore.Consumers.SampleBackfill
import EnergyCore.Foundations.CalendarPeriods
import EnergyCore.Foundations.HalfEvenRounding
import EnergyCore.Foundations.KeyedTotals

/-!
# Buckets of consumer intervals

Intervals are added up by hours, days, months and years of local time: the aggregates of the periods of now are stored,
and intervals are grouped by the period in which they begin.

* `periodBounds_eq` — the bounds of a period, by the periods of the calendar;
* `together_iff` — which intervals come into one group.
-/

namespace EnergyCore.Consumers

open Calendar HalfEvenRounding KeyedChanges KeyedTotals
open KeywordFields StepRun TimeZones

/-! ### Local datetimes -/

/-- A local datetime: the date, the seconds since midnight, and the `fold`. -/
structure DateTime where
  date : Date
  time : ℚ
  fold : Bool := false
  deriving Repr, DecidableEq

namespace DateTime

def ofLocal (l : LocalTime) : DateTime where
  date := Date.ofDay (TimeZone.dayNumber l.wall)
  time := l.wall - TimeZone.midnight (TimeZone.dayNumber l.wall)
  fold := l.fold

def toLocal (d : DateTime) : LocalTime where
  wall := TimeZone.midnight d.date.toDay + d.time
  fold := d.fold

/-- `d + timedelta(…)`, which forgets the `fold`. -/
def addSeconds (d : DateTime) (seconds : ℚ) : DateTime := ofLocal { wall := d.toLocal.wall + seconds }

/-- `reference.astimezone(tz)`. -/
def astimezone (zone : TimeZone) (reference : Instant) : DateTime := ofLocal (zone.astimezone reference)

/-- `d.astimezone(UTC)`. -/
def toUtc (zone : TimeZone) (d : DateTime) : Instant := zone.resolve d.toLocal

/-- `d.replace(hour=0, minute=0, second=0, microsecond=0)`. -/
def atMidnight (d : DateTime) : DateTime := { d with time := 0 }

/-- `d.replace(minute=0, second=0, microsecond=0)`. -/
def onTheHour (d : DateTime) : DateTime := { d with time := 3600 * ⌊d.time / 3600⌋ }

/-- `d.replace(day=1)`: every month has a first day. -/
def onTheFirst (d : DateTime) : DateTime := { d with date := { d.date with day := 1 } }

/-- `d.replace(year=…, month=…, day=…)`, an error if there is no such date. -/
def replaceDate (d : DateTime) (date : Date) : Option DateTime :=
  if date.Valid then some { d with date := date } else none

@[simp] theorem toLocal_ofLocal (l : LocalTime) : (ofLocal l).toLocal = l := by
  unfold ofLocal toLocal
  rw [Date.toDay_ofDay, add_sub_cancel]

theorem toLocal_midnight (date : Date) (fold : Bool) :
    toLocal { date := date, time := 0, fold := fold } = { wall := TimeZone.midnight date.toDay, fold := fold } := by
  unfold toLocal
  rw [add_zero]

@[simp] theorem toLocal_addSeconds (d : DateTime) (seconds : ℚ) :
    (d.addSeconds seconds).toLocal = { wall := d.toLocal.wall + seconds } := toLocal_ofLocal _

end DateTime

/-! ### Bounds -/

/-- The granularities, any other text among them. -/
inductive Granularity where
  | hour
  | day
  | month
  | year
  | other
  deriving Repr, DecidableEq

/-- The local start and end of a period. -/
def localPeriod : Granularity → DateTime → Option (DateTime × DateTime)
  | .hour, t =>
    let start := t.onTheHour
    some (start, start.addSeconds 3600)
  | .day, t =>
    let start := t.atMidnight
    some (start, start.addSeconds 86400)
  | .month, t =>
    let start := t.atMidnight.onTheFirst
    let stop :=
      if start.date.month = 12 then
        start.replaceDate { start.date with year := start.date.year + 1, month := 1 }
      else start.replaceDate { start.date with month := start.date.month + 1 }
    stop.map fun stop => (start, stop)
  | .year, t =>
    let start := { t.atMidnight.onTheFirst with date := { t.date with month := 1, day := 1 } }
    (start.replaceDate { start.date with year := start.date.year + 1 }).map fun stop => (start, stop)
  | .other, t =>
    let start := t.atMidnight
    (start.replaceDate { start.date with day := start.date.day + 1 }).map fun stop => (start, stop)

def periodBounds (granularity : Granularity) (reference : Instant) (zone : TimeZone) : Option (Instant × Instant) :=
  (localPeriod granularity (DateTime.astimezone zone reference)).map fun period =>
    (period.1.toUtc zone, period.2.toUtc zone)

/-- The periods of a granularity. -/
def Granularity.periods : Granularity → Periods
  | .hour => hours
  | .month => months
  | .year => years
  | _ => days

/-- Whether the end of a period is resolved with the `fold` of its start: `replace` keeps it, adding a `timedelta`
does not. -/
def Granularity.keepsFold : Granularity → Bool
  | .hour => false
  | .day => false
  | _ => true

theorem onTheHour_wall (w : WallTime) :
    TimeZone.midnight (TimeZone.dayNumber w) + 3600 * ⌊(w - TimeZone.midnight (TimeZone.dayNumber w)) / 3600⌋
      = 3600 * ⌊w / 3600⌋ := by
  have hshift : (w - TimeZone.midnight (TimeZone.dayNumber w)) / 3600
      = w / 3600 - ((24 * TimeZone.dayNumber w : ℤ) : ℚ) := by
    unfold TimeZone.midnight
    push_cast
    ring
  rw [hshift, Int.floor_sub_intCast]
  unfold TimeZone.midnight
  push_cast
  ring

theorem firstOfMonth_succ_eq {d : Date} (h : d.Valid) : firstOfMonth (d.monthNumber + 1)
    = if d.month = 12 then { year := d.year + 1, month := 1, day := 1 }
      else { year := d.year, month := d.month + 1, day := 1 } := by
  have hpos := h.month_pos
  have hle := h.month_le
  unfold firstOfMonth Date.monthNumber
  split_ifs with hlast
  · rw [Date.mk.injEq]
    exact ⟨by omega, by omega, rfl⟩
  · rw [Date.mk.injEq]
    exact ⟨by omega, by omega, rfl⟩

theorem valid_firstOfMonth (n : ℤ) : (firstOfMonth n).Valid := by
  have hall : ∀ leap : Bool, ∀ month ≤ 12, 1 ≤ month → 1 ≤ daysInMonth leap month := by decide
  have hpos : 1 ≤ (firstOfMonth n).month := Nat.succ_pos _
  have hle : (firstOfMonth n).month ≤ 12 := by
    show (n % 12).toNat + 1 ≤ 12
    omega
  exact ⟨hpos, hle, le_rfl, hall _ _ hle hpos⟩

theorem valid_newYear (year : ℤ) : (Date.mk year 1 1).Valid := by
  have hall : ∀ leap : Bool, 1 ≤ daysInMonth leap 1 := by decide
  exact ⟨le_rfl, (by omega : 1 ≤ 12), le_rfl, hall _⟩

theorem toDay_newYear (year : ℤ) : (Date.mk year 1 1).toDay = newYear year := by
  have hJanuary : ∀ leap : Bool, daysBeforeMonth leap 1 = 0 := by decide
  unfold Date.toDay
  rw [hJanuary]
  simp

theorem replaceDate_of_valid {d : DateTime} {date : Date} (h : date.Valid) :
    d.replaceDate date = some { d with date := date } := if_pos h

theorem localPeriod_month {t : DateTime} (h : t.date.Valid) : localPeriod .month t
    = some ({ date := firstOfMonth t.date.monthNumber, time := 0, fold := t.fold },
        { date := firstOfMonth (t.date.monthNumber + 1), time := 0, fold := t.fold }) := by
  have hstart : t.atMidnight.onTheFirst = { date := firstOfMonth t.date.monthNumber, time := 0, fold := t.fold } := by
    rw [firstOfMonth_monthNumber h]
    rfl
  have hnext := valid_firstOfMonth (t.date.monthNumber + 1)
  unfold localPeriod
  dsimp only
  rw [hstart, firstOfMonth_monthNumber h]
  rw [firstOfMonth_succ_eq h] at hnext ⊢
  dsimp only
  split_ifs at hnext ⊢
  · rw [replaceDate_of_valid hnext]
    rfl
  · rw [replaceDate_of_valid hnext]
    rfl

theorem localPeriod_year (t : DateTime) : localPeriod .year t
    = some ({ date := { year := t.date.year, month := 1, day := 1 }, time := 0, fold := t.fold },
        { date := { year := t.date.year + 1, month := 1, day := 1 }, time := 0, fold := t.fold }) := by
  unfold localPeriod
  dsimp only
  rw [replaceDate_of_valid (valid_newYear (t.date.year + 1))]
  rfl

/-- The local start and end of a period, by the calendar. -/
theorem localPeriod_ofLocal {granularity : Granularity} (h : granularity ≠ .other) (l : LocalTime) :
    (localPeriod granularity (DateTime.ofLocal l)).map (fun period => (period.1.toLocal, period.2.toLocal))
      = some ({ wall := granularity.periods.start (granularity.periods.index l.wall), fold := l.fold },
          { wall := granularity.periods.start (granularity.periods.index l.wall + 1),
            fold := granularity.keepsFold && l.fold }) := by
  have hvalid := Date.valid_ofDay (TimeZone.dayNumber l.wall)
  cases granularity with
  | hour =>
    have hstart : (DateTime.ofLocal l).onTheHour.toLocal = { wall := 3600 * ⌊l.wall / 3600⌋, fold := l.fold } := by
      unfold DateTime.onTheHour DateTime.toLocal DateTime.ofLocal
      rw [Date.toDay_ofDay, onTheHour_wall]
    show some ((DateTime.ofLocal l).onTheHour.toLocal, ((DateTime.ofLocal l).onTheHour.addSeconds 3600).toLocal) = _
    rw [DateTime.toLocal_addSeconds, hstart, Option.some.injEq, Prod.mk.injEq]
    refine ⟨rfl, ?_⟩
    show LocalTime.mk (3600 * (⌊l.wall / 3600⌋ : ℚ) + 3600) false = ⟨3600 * ((⌊l.wall / 3600⌋ + 1 : ℤ) : ℚ), false⟩
    rw [LocalTime.mk.injEq]
    push_cast
    exact ⟨by ring, rfl⟩
  | day =>
    have hstart : (DateTime.ofLocal l).atMidnight.toLocal
        = { wall := TimeZone.midnight (TimeZone.dayNumber l.wall), fold := l.fold } := by
      unfold DateTime.atMidnight
      rw [DateTime.toLocal_midnight]
      unfold DateTime.ofLocal
      rw [Date.toDay_ofDay]
    show some ((DateTime.ofLocal l).atMidnight.toLocal, ((DateTime.ofLocal l).atMidnight.addSeconds 86400).toLocal) = _
    rw [DateTime.toLocal_addSeconds, hstart, Option.some.injEq, Prod.mk.injEq]
    refine ⟨rfl, ?_⟩
    show LocalTime.mk (86400 * (TimeZone.dayNumber l.wall : ℚ) + 86400) false
      = ⟨86400 * ((TimeZone.dayNumber l.wall + 1 : ℤ) : ℚ), false⟩
    rw [LocalTime.mk.injEq]
    push_cast
    exact ⟨by ring, rfl⟩
  | month =>
    rw [localPeriod_month (t := DateTime.ofLocal l) hvalid, Option.map_some]
    dsimp only
    rw [DateTime.toLocal_midnight, DateTime.toLocal_midnight]
    rfl
  | year =>
    rw [localPeriod_year, Option.map_some]
    dsimp only
    rw [DateTime.toLocal_midnight, DateTime.toLocal_midnight, toDay_newYear, toDay_newYear]
    rfl
  | other => exact absurd rfl h

/-- **The bounds of a period** are those of the calendar. -/
theorem periodBounds_eq {granularity : Granularity} (h : granularity ≠ .other) (t : Instant) (zone : TimeZone) :
    periodBounds granularity t zone = some (granularity.periods.bounds granularity.keepsFold zone t) := by
  have hlocal := localPeriod_ofLocal h (zone.astimezone t)
  have hresolve := congrArg (Option.map fun period => (zone.resolve period.1, zone.resolve period.2)) hlocal
  rw [Option.map_map] at hresolve
  exact hresolve

/-! ### Groups -/

/-- The key of the group of an interval. -/
def groupKey (granularity : Granularity) (zone : TimeZone) (startTime : Instant) : Instant :=
  let t := DateTime.astimezone zone startTime
  let key :=
    match granularity with
    | .month => t.atMidnight.onTheFirst
    | .hour => t.onTheHour
    | _ => t.atMidnight
  key.toUtc zone

variable {σ : Type}

def groupIntervalsByLocalPeriod (intervals : List (ConsumerInterval σ)) (granularity : Granularity) (zone : TimeZone) :
    List (Instant × List (ConsumerInterval σ)) :=
  byKey (run (fun buckets interval =>
    upsert buckets (groupKey granularity zone interval.startTime) [] fun found => found ++ [interval]) [] intervals)

/-- Hours, days and months are grouped by the start of their bounds. -/
theorem groupKey_eq {granularity : Granularity} (hyear : granularity ≠ .year) (h : granularity ≠ .other)
    (zone : TimeZone) (t : Instant) :
    groupKey granularity zone t = (granularity.periods.bounds granularity.keepsFold zone t).1 := by
  have hbounds := periodBounds_eq h t zone
  cases granularity with
  | hour =>
    rw [periodBounds, localPeriod, Option.map_some, Option.some.injEq] at hbounds
    exact congrArg Prod.fst hbounds
  | day =>
    rw [periodBounds, localPeriod, Option.map_some, Option.some.injEq] at hbounds
    exact congrArg Prod.fst hbounds
  | month =>
    have hvalid : (DateTime.astimezone zone t).date.Valid := Date.valid_ofDay _
    rw [periodBounds, localPeriod_month hvalid, Option.map_some, Option.some.injEq,
      firstOfMonth_monthNumber hvalid] at hbounds
    exact congrArg Prod.fst hbounds
  | year => exact absurd rfl hyear
  | other => exact absurd rfl h

/-- The groups, with what is in them. -/
theorem mem_groups_iff {intervals : List (ConsumerInterval σ)} {granularity : Granularity} {zone : TimeZone}
    {group : Instant × List (ConsumerInterval σ)} : group ∈ groupIntervalsByLocalPeriod intervals granularity zone ↔
      group.1 ∈ intervals.map (fun a => groupKey granularity zone a.startTime) ∧
        group.2 = intervals.filter fun a => decide (groupKey granularity zone a.startTime = group.1) := mem_groups

/-- **Intervals come into one group** exactly if they have one key. -/
theorem together_iff {intervals : List (ConsumerInterval σ)} {granularity : Granularity} {zone : TimeZone}
    {a b : ConsumerInterval σ} (ha : a ∈ intervals) (hb : b ∈ intervals) :
    (∃ group ∈ groupIntervalsByLocalPeriod intervals granularity zone, a ∈ group.2 ∧ b ∈ group.2) ↔
      groupKey granularity zone a.startTime = groupKey granularity zone b.startTime := by
  constructor
  · rintro ⟨group, hgroup, ha', hb'⟩
    rw [(mem_groups_iff.mp hgroup).2, List.mem_filter, decide_eq_true_eq] at ha' hb'
    rw [ha'.2, hb'.2]
  · intro heq
    refine ⟨(groupKey granularity zone a.startTime, intervals.filter fun c =>
      decide (groupKey granularity zone c.startTime = groupKey granularity zone a.startTime)), ?_, ?_, ?_⟩
    · exact mem_groups_iff.mpr ⟨List.mem_map_of_mem ha, rfl⟩
    · exact List.mem_filter.mpr ⟨ha, decide_eq_true rfl⟩
    · exact List.mem_filter.mpr ⟨hb, decide_eq_true heq.symm⟩

/-! ### Aggregates -/

/-- `interval_repo.list_for_period`. -/
def intervalsForPeriod (intervals : List (ConsumerInterval σ)) (consumerId : ℕ) (start stop : Instant) :
    List (ConsumerInterval σ) :=
  (intervals.filter fun row =>
    decide (row.consumerId = consumerId ∧ row.startTime ≥ start ∧ row.startTime < stop)).mergeSort
      fun row row' => decide (row.startTime ≤ row'.startTime)

end EnergyCore.Consumers
