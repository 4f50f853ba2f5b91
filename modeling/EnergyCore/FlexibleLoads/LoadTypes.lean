import EnergyCore.Foundations.Clock
import Mathlib.Data.List.MinMax

/-!
# Flexible loads

Loads that may be moved, the blocks of the horizon they are planned on, and their plans.
-/

namespace EnergyCore.FlexibleLoads

/-- A duration, in seconds. -/
abbrev Duration := ℚ

/-- `timedelta(minutes=15)`. -/
def interval : Duration := 900

inductive LoadStrategy where
  | smart
  | solarOnly
  | cheapest
  | fixedSchedule
  deriving Repr, DecidableEq

inductive EnergySource where
  | solar
  | battery
  | grid
  | mixed
  deriving Repr, DecidableEq

structure FlexibleLoad where
  loadId : String
  name : String
  nominalPowerW : ℚ
  minimumRuntime : Duration
  maximumRuntime : Duration
  earliestStart : Instant
  latestFinish : Instant
  deadline : Instant
  priority : ℤ := 50
  safetyCritical : Bool := true
  fixedStart : Option Instant := none
  fixedEnd : Option Instant := none
  dailyRuntimeTarget : Option Duration := none
  maxStartsPerDay : Option ℤ := none
  minimumPause : Option Duration := none
  fixedCyclesPerDay : Option ℤ := none
  fixedCycleDuration : Option Duration := none
  minimumCycleSeparation : Option Duration := none
  deriving Repr, DecidableEq

structure HorizonBlock where
  timestamp : Instant
  solarForecastW : ℚ
  houseLoadForecastW : ℚ
  higherPriorityLoadsW : ℚ
  availableSurplusW : ℚ
  batterySocPct : Option ℚ
  spotPriceEurKwh : Option ℚ
  allInPriceEurKwh : Option ℚ
  exportValueSekKwh : ℚ
  priceEstimated : Bool := false
  forecastConfidence : ℚ := 1 / 2
  deriving Repr, DecidableEq

structure ScoredBlock where
  block : HorizonBlock
  score : ℚ
  solarSurplusScore : ℚ
  lowPriceScore : ℚ
  batteryAvailabilityScore : ℚ
  deadlineScore : ℚ
  gridImportPenalty : ℚ
  batteryDepletionPenalty : ℚ
  exportOpportunityPenalty : ℚ
  expectedEnergySource : EnergySource
  marginalCostSekKwh : ℚ
  loadFeasible : Bool
  deriving Repr, DecidableEq

structure PlanWindow where
  start : Instant
  stop : Instant
  duration : Duration
  expectedEnergyKwh : ℚ
  expectedCostSek : ℚ
  expectedEnergySource : EnergySource
  averageScore : ℚ
  blocks : List ScoredBlock := []
  deriving Repr, DecidableEq

structure LoadPlan where
  loadId : String
  strategy : LoadStrategy
  windows : List PlanWindow
  reason : String
  reasonSv : String
  explanationSv : String
  fallbackFromSolarOnly : Bool := false
  fixedScheduleAnalysis : Bool := false
  alternativeWindows : List PlanWindow := []
  scoredBlocks : List ScoredBlock := []
  baselineCostSek : Option ℚ := none
  plannedCostSek : Option ℚ := none
  savingsSek : Option ℚ := none
  deriving Repr

/-- `value or default`, where nothing and zero count as false. -/
def orNonzero (value default : Option ℚ) : Option ℚ :=
  match value with
  | some x => if x = 0 then default else some x
  | none => default

/-- The number of whole blocks in a duration, and at least one. -/
def wholeBlocks (duration : Duration) : ℕ := max 1 ⌊duration / interval⌋₊

/-- The average over some blocks. -/
def average (f : ScoredBlock → ℚ) (blocks : List ScoredBlock) : ℚ := (blocks.map f).sum / blocks.length

/-- How texts are written. -/
structure PlanText where
  hourMinute : Instant → String
  general : ℚ → String
  fixedPoint : ℕ → ℚ → String

/-- The order in which a set of sources is gone through. -/
structure SetOrder where
  iterate : List EnergySource → List EnergySource
  mem_iterate : ∀ sources source, source ∈ iterate sources ↔ source ∈ sources

theorem SetOrder.mem_id (sources : List EnergySource) (source : EnergySource) :
    source ∈ id sources ↔ source ∈ sources := Iff.rfl

/-- The source of most blocks: `max(set(sources), key=sources.count)`. -/
def SetOrder.primarySource (order : SetOrder) (sources : List EnergySource) : Option EnergySource :=
  (order.iterate sources).argmax fun source => sources.count source

end EnergyCore.FlexibleLoads
