import EnergyCore.FlexibleLoads.Optimizer
import EnergyCore.Foundations.LocalTimes

/-!
# The filter policy of a spa

How often and how long the water is filtered, when, and the load that is planned for it.

* `SpaFilterPolicy.validate` — whether the cycles of a policy fit in its window;
* `cleaningDeadline_eq` — until when the next cycle has to be done.
-/

namespace EnergyCore.SpaEnergy

open FlexibleLoads TimeZones

/-! ### Times of day -/

/-- A time of day as it is written, `HH:MM`, with what it says. -/
structure ClockTime where
  text : String
  hour : ℕ
  minute : ℕ
  hour_lt : hour < 24
  minute_lt : minute < 60

def ClockTime.minutes (t : ClockTime) : ℤ := t.hour * 60 + t.minute

def allowedWindowHours (start stop : ClockTime) : ℚ :=
  let stopMinutes := if stop.minutes ≤ start.minutes then stop.minutes + 24 * 60 else stop.minutes
  ((stopMinutes - start.minutes : ℤ) : ℚ) / 60

/-- `local.replace(hour=…, minute=…, second=0, microsecond=0)`. -/
def replaceTime (l : LocalTime) (t : ClockTime) : LocalTime :=
  { l with wall := TimeZone.midnight (TimeZone.dayNumber l.wall) + t.minutes * 60 }

def windowBounds (zone : TimeZone) (reference : Instant) (start stop : ClockTime) : Instant × Instant :=
  let current := zone.astimezone reference
  let earliest := replaceTime current start
  let latest := replaceTime current stop
  -- adding a day starts again with the first of two wall times
  let latest := if latest.wall ≤ earliest.wall then { wall := latest.wall + 86400 } else latest
  let earliest := if earliest.wall < current.wall then current else earliest
  (zone.resolve earliest, zone.resolve latest)

/-! ### The policy -/

structure CleaningConfigValidation where
  feasible : Bool
  warningSv : Option String := none
  maxAchievableHours : Option ℚ := none
  deriving Repr, DecidableEq

structure SpaFilterPolicy where
  cyclesPerDay : ℤ := 4
  durationPerCycleMinutes : ℤ := 120
  minimumCycleSeparationMinutes : ℤ := 60
  optimizationEnabled : Bool := true
  earliestStart : ClockTime
  latestFinish : ClockTime

namespace SpaFilterPolicy

def totalDailyRuntimeMinutes (policy : SpaFilterPolicy) : ℤ := policy.cyclesPerDay * policy.durationPerCycleMinutes

def totalDailyRuntimeHours (policy : SpaFilterPolicy) : ℚ := (policy.totalDailyRuntimeMinutes : ℚ) / 60

def validate (text : PlanText) (policy : SpaFilterPolicy) : CleaningConfigValidation :=
  let duration := policy.durationPerCycleMinutes
  let opening := policy.earliestStart.text
  let closing := policy.latestFinish.text
  if policy.cyclesPerDay < 1 ∨ duration < 15 then
    { feasible := false, warningSv := some "Filtercykler måste vara minst 15 minuter och minst en cykel per dygn." }
  else
    let windowHours := allowedWindowHours policy.earliestStart policy.latestFinish
    let cycleHours : ℚ := (duration : ℚ) / 60
    if cycleHours > windowHours then
      { feasible := false
        warningSv := some
          (s!"Varje filtercykel ({duration} min) är längre än " ++ s!"tidsfönstret {opening}–{closing}.") }
    else
      let separation := policy.minimumCycleSeparationMinutes
      let separationHours : ℚ := (separation : ℚ) / 60
      let minSpan := policy.cyclesPerDay * cycleHours + (max 0 (policy.cyclesPerDay - 1) : ℤ) * separationHours
      if minSpan > windowHours + 1 / 1000000000 then
        let cycles := policy.cyclesPerDay
        let span := text.general minSpan
        let window := text.general windowHours
        { feasible := false
          warningSv := some
            (s!"{cycles} cykler à {duration} min " ++ s!"med minst {separation} min paus kräver " ++
              s!"{span} h men fönstret är {window} h.")
          maxAchievableHours := some windowHours }
      else { feasible := true, maxAchievableHours := some policy.totalDailyRuntimeHours }

end SpaFilterPolicy

/-! ### Requirements -/

/-- `CLEANING_STATUSES`. -/
def cleaningStatuses : List String := ["Filtering", "Purge", "Sanitize", "Boost"]

/-- The loop of `detect_last_cleaning_end`: the end of the last cleaning, and whether one is going on. -/
def lastCleaningFrom (samples : List (Instant × Option String)) : Option Instant × Bool :=
  samples.foldl (fun state sample =>
    let active := sample.2.any fun status => decide (status ∈ cleaningStatuses)
    if active then (state.1, true)
    else if state.2 then (some sample.1, false) else state) (none, false)

def detectLastCleaningEnd (samples : List (Instant × Option String)) : Option Instant :=
  let sorted := samples.mergeSort fun s s' => decide (s.1 ≤ s'.1)
  let state := lastCleaningFrom sorted
  if state.2 then sorted.getLast?.map Prod.fst else state.1

structure SpaCleaningRequirement where
  minimumRuntimeHours : ℚ
  maximumRuntimeHours : ℚ
  cleaningDeadline : Instant
  lastCleaningEnd : Option Instant
  hoursSinceLastCleaning : Option ℚ
  hoursRequiredWithin24h : ℚ
  filterFrequencyPerDay : ℚ
  filterDurationHours : ℚ

/-- Midnight, `00:00`. -/
def clockMidnight : ClockTime where
  text := "00:00"
  hour := 0
  minute := 0
  hour_lt := by decide
  minute_lt := by decide

def buildCleaningRequirement (zone : TimeZone) (now : Instant)
    (filterFrequencyPerDay filterDurationHours minCleaningHoursPerDay : ℚ) (lastCleaningEnd : Option Instant)
    (allowedWindowEnd : ClockTime) : SpaCleaningRequirement :=
  let freq := max filterFrequencyPerDay (minCleaningHoursPerDay / max filterDurationHours (1 / 2))
  let duration := max filterDurationHours minCleaningHoursPerDay
  let intervalHours := 24 / max freq (1 / 10)
  let deadline := lastCleaningEnd.getD now + intervalHours * 3600
  let latestFinish := (windowBounds zone now clockMidnight allowedWindowEnd).2
  { minimumRuntimeHours := min duration minCleaningHoursPerDay
    maximumRuntimeHours := minCleaningHoursPerDay
    cleaningDeadline := if deadline > latestFinish then latestFinish else deadline
    lastCleaningEnd := lastCleaningEnd
    hoursSinceLastCleaning := lastCleaningEnd.map fun last => (now - last) / 3600
    hoursRequiredWithin24h := minCleaningHoursPerDay
    filterFrequencyPerDay := freq
    filterDurationHours := duration }

/-! ### The load -/

/-- What the control of a spa says beside its policy. -/
structure SpaControl where
  strategy : LoadStrategy := .smart
  fixedScheduleStart : Option ClockTime := none
  fixedScheduleEnd : Option ClockTime := none
  loadPriority : ℤ := 50
  circulationW : ℚ := 200
  heaterW : ℚ := 3000

/-- `_build_flexible_load`, from the samples of the last seven days. -/
def buildFlexibleLoad (zone : TimeZone) (policy : SpaFilterPolicy) (control : SpaControl)
    (samples : List (Instant × Option String)) (now : Instant) : FlexibleLoad :=
  let requirement := buildCleaningRequirement zone now policy.cyclesPerDay (policy.durationPerCycleMinutes / 60)
    policy.totalDailyRuntimeHours (detectLastCleaningEnd samples) policy.latestFinish
  let bounds := windowBounds zone now policy.earliestStart policy.latestFinish
  let minRuntime : Duration := policy.durationPerCycleMinutes * 60
  let dailyTarget : Duration := policy.totalDailyRuntimeMinutes * 60
  let separation : Duration := policy.minimumCycleSeparationMinutes * 60
  let fixed : Option (Instant × Instant) :=
    match control.strategy, control.fixedScheduleStart, control.fixedScheduleEnd with
    | .fixedSchedule, some start, some stop => some (windowBounds zone now start stop)
    | _, _, _ => none
  { loadId := "spa_cleaning"
    name := "Spa filter"
    nominalPowerW := control.circulationW + control.heaterW * (3 / 10)
    minimumRuntime := minRuntime
    maximumRuntime := dailyTarget
    earliestStart := bounds.1
    latestFinish := min bounds.2 requirement.cleaningDeadline
    deadline := requirement.cleaningDeadline
    priority := control.loadPriority
    safetyCritical := true
    fixedStart := fixed.map Prod.fst
    fixedEnd := fixed.map Prod.snd
    dailyRuntimeTarget := some dailyTarget
    maxStartsPerDay := some policy.cyclesPerDay
    minimumPause := some separation
    fixedCyclesPerDay := if policy.optimizationEnabled then some policy.cyclesPerDay else none
    fixedCycleDuration := if policy.optimizationEnabled then some minRuntime else none
    minimumCycleSeparation := some separation }

/-! ### Deadlines -/

theorem cycles_pos_of_feasible {text : PlanText} {policy : SpaFilterPolicy}
    (h : (policy.validate text).feasible = true) : 1 ≤ policy.cyclesPerDay ∧ 15 ≤ policy.durationPerCycleMinutes := by
  unfold SpaFilterPolicy.validate at h
  dsimp only at h
  split_ifs at h with hshort
  rw [not_or, not_lt, not_lt] at hshort
  exact hshort

/-- **The deadline** is so many hours after the last cleaning as the cycles leave of a day, but no later than the next
time that the window closes after midnight. -/
theorem cleaningDeadline_eq (zone : TimeZone) (policy : SpaFilterPolicy) (now : Instant)
    (lastCleaningEnd : Option Instant) (hcycles : 1 ≤ policy.cyclesPerDay)
    (hduration : 15 ≤ policy.durationPerCycleMinutes) :
    (buildCleaningRequirement zone now policy.cyclesPerDay (policy.durationPerCycleMinutes / 60)
        policy.totalDailyRuntimeHours lastCleaningEnd policy.latestFinish).cleaningDeadline =
      min (lastCleaningEnd.getD now + 86400 / policy.cyclesPerDay)
        (windowBounds zone now clockMidnight policy.latestFinish).2 := by
  have hn : (1 : ℚ) ≤ policy.cyclesPerDay := by exact_mod_cast hcycles
  have hd : (15 : ℚ) ≤ policy.durationPerCycleMinutes := by exact_mod_cast hduration
  have hfreq : max (policy.cyclesPerDay : ℚ)
      (policy.totalDailyRuntimeHours / max ((policy.durationPerCycleMinutes : ℚ) / 60) (1 / 2)) =
        policy.cyclesPerDay := by
    refine max_eq_left ?_
    have hhalf : 0 < max ((policy.durationPerCycleMinutes : ℚ) / 60) (1 / 2) :=
      lt_of_lt_of_le (by norm_num) (le_max_right _ _)
    rw [div_le_iff₀ hhalf]
    calc policy.totalDailyRuntimeHours
        = (policy.cyclesPerDay : ℚ) * ((policy.durationPerCycleMinutes : ℚ) / 60) := by
          unfold SpaFilterPolicy.totalDailyRuntimeHours SpaFilterPolicy.totalDailyRuntimeMinutes
          push_cast
          ring
      _ ≤ (policy.cyclesPerDay : ℚ) * max ((policy.durationPerCycleMinutes : ℚ) / 60) (1 / 2) :=
          mul_le_mul_of_nonneg_left (le_max_left _ _) (by linarith)
  have hinterval : 24 / max (policy.cyclesPerDay : ℚ) (1 / 10) * 3600 = 86400 / policy.cyclesPerDay := by
    rw [max_eq_left (by linarith)]
    ring
  unfold buildCleaningRequirement
  dsimp only
  rw [hfreq, hinterval]
  split_ifs with hlate
  · exact (min_eq_right hlate.le).symm
  · exact (min_eq_left (not_lt.mp hlate)).symm

end EnergyCore.SpaEnergy
