import EnergyCore.FlexibleLoads.BlockScoring
import EnergyCore.SpaEnergy.FilterCycles

/-!
# The optimizer of flexible loads

The windows in which a load runs on a horizon.

* `plan` — the plan of a load;
* `scoredBlocks_plan` — every plan keeps the blocks of its horizon, scored.
-/

namespace EnergyCore.FlexibleLoads

open SpaEnergy

/-- What the optimizer is given beside the load and the horizon. -/
structure OptimizerContext where
  settings : OptimizerSettings := {}
  order : SetOrder
  text : PlanText

/-! ### Blocks -/

def scoreHorizon (settings : OptimizerSettings) (load : FlexibleLoad) (horizon : List HorizonBlock)
    (urgency : DeadlineUrgency) : List ScoredBlock :=
  horizon.map fun block => scoreBlock defaultWeights settings block load urgency
    (computeBlockLoadCost settings block load.nominalPowerW)

def filterEligibleBlocks (scored : List ScoredBlock) (load : FlexibleLoad) (now : Instant) : List ScoredBlock :=
  let eligible := scored.filter fun s =>
    decide (load.earliestStart ≤ s.block.timestamp ∧ s.block.timestamp < load.latestFinish ∧
      s.block.timestamp ≥ now - interval) && s.loadFeasible
  if eligible.isEmpty then scored else eligible

/-! ### Windows -/

/-- A window of `_best_window`. -/
def bestWindowCandidate (order : SetOrder) (load : FlexibleLoad) (strategy : LoadStrategy) (first : ScoredBlock)
    (rest : List ScoredBlock) : PlanWindow :=
  let blocks := first :: rest
  let start := first.block.timestamp
  let stop := (blocks.getLast (List.cons_ne_nil _ _)).block.timestamp + interval
  { start := start
    stop := stop
    duration := stop - start
    expectedEnergyKwh := (load.nominalPowerW / 1000) * (blocks.length * 15 / 60)
    expectedCostSek :=
      average (fun b => b.marginalCostSekKwh * (load.nominalPowerW / 1000) * (15 / 60)) blocks * blocks.length
    expectedEnergySource := (order.primarySource (blocks.map ScoredBlock.expectedEnergySource)).getD .grid
    averageScore :=
      if strategy = .cheapest then -average ScoredBlock.marginalCostSekKwh blocks
      else average ScoredBlock.score blocks
    blocks := blocks }

/-- The windows of every start and every length, from the first start on and from the shortest to the longest. -/
def bestWindowCandidates (order : SetOrder) (load : FlexibleLoad) (scored : List ScoredBlock) (strategy : LoadStrategy) :
    List PlanWindow :=
  let minBlocks := wholeBlocks load.minimumRuntime
  let maxBlocks := max minBlocks ⌊load.maximumRuntime / interval⌋₊
  (List.range scored.length).flatMap fun startIdx =>
    ((List.range (min maxBlocks (scored.length - startIdx) + 1)).drop minBlocks).filterMap fun length =>
      match (scored.drop startIdx).take length with
      | [] => none
      | first :: rest =>
        if tooLittleSun strategy load.nominalPowerW (first :: rest) = true then none
        else some (bestWindowCandidate order load strategy first rest)

def bestWindow (ctx : OptimizerContext) (load : FlexibleLoad) (scored : List ScoredBlock) (strategy : LoadStrategy) :
    Option PlanWindow :=
  let candidates := bestWindowCandidates ctx.order load scored strategy
  let solarCandidates := candidates.filter fun w => decide (w.expectedEnergySource = .solar)
  if strategy = .cheapest then candidates.argmin PlanWindow.expectedCostSek
  else if strategy = .solarOnly ∧ ctx.settings.preferSolar = true ∧ solarCandidates ≠ [] then
    solarCandidates.argmax PlanWindow.averageScore
  else candidates.argmax PlanWindow.averageScore

/-- `_fallback_window`: the earliest window before the deadline. -/
def fallbackWindow (load : FlexibleLoad) (scored : List ScoredBlock) (now : Instant) : Option PlanWindow :=
  let minBlocks := wholeBlocks load.minimumRuntime
  let early := scored.filter fun s => decide (s.block.timestamp ≥ now ∧ s.block.timestamp < load.deadline)
  let eligible := if early.length < minBlocks then scored.drop (scored.length - minBlocks) else early
  match eligible.take minBlocks with
  | [] => none
  | first :: rest =>
    let energyKwh := (load.nominalPowerW / 1000) * (minBlocks * 15 / 60)
    some
      { start := first.block.timestamp
        stop := first.block.timestamp + load.minimumRuntime
        duration := load.minimumRuntime
        expectedEnergyKwh := energyKwh
        expectedCostSek := average ScoredBlock.marginalCostSekKwh (first :: rest) * energyKwh
        expectedEnergySource := .grid
        averageScore := 0
        blocks := first :: rest }

/-- `_window_from_fixed`. -/
def windowFromFixed (load : FlexibleLoad) (fixedStart fixedEnd : Instant) (scored eligible : List ScoredBlock) :
    Option PlanWindow :=
  let within := scored.filter fun s => decide (fixedStart ≤ s.block.timestamp ∧ s.block.timestamp < fixedEnd)
  match (if within.isEmpty then eligible.take (wholeBlocks load.minimumRuntime) else within) with
  | [] => none
  | first :: rest =>
    let energyKwh := (load.nominalPowerW / 1000) * ((fixedEnd - fixedStart) / 3600)
    some
      { start := fixedStart
        stop := fixedEnd
        duration := fixedEnd - fixedStart
        expectedEnergyKwh := energyKwh
        expectedCostSek := average ScoredBlock.marginalCostSekKwh (first :: rest) * energyKwh
        expectedEnergySource := first.expectedEnergySource
        averageScore := average ScoredBlock.score (first :: rest)
        blocks := first :: rest }

def baselineCost (load : FlexibleLoad) (scored : List ScoredBlock) : Option ℚ :=
  if scored = [] then none
  else
    some ((load.nominalPowerW / 1000) * (load.minimumRuntime / 3600) * average ScoredBlock.marginalCostSekKwh scored)

/-! ### Texts -/

def resolveReason (window : Option PlanWindow) (strategy : LoadStrategy) (fallback : Bool)
    (urgency : DeadlineUrgency) : String × String :=
  match window with
  | none => ("no_window", "ingen_plan")
  | some window =>
    if fallback then ("solar_only_fallback_safety", "solel_fallback_sakerhet")
    else if urgency.runRegardless then ("deadline_critical", "deadline_kritisk")
    else if window.expectedEnergySource = .solar then ("solar_surplus", "sol_overskott")
    else if strategy = .cheapest then ("cheapest_energy", "billigaste_energi")
    else ("smart_scheduled", "smart_planerad")

def explainWindow (text : PlanText) (window : Option PlanWindow) (strategy : LoadStrategy) (fallback : Bool) :
    String :=
  match window with
  | none => "EMIC kunde inte hitta ett lämpligt fönster inom tillåten tid."
  | some window =>
    let startLocal := text.hourMinute window.start
    let endLocal := text.hourMinute window.stop
    let gridImport := text.fixedPoint 1 (max 0 (window.expectedEnergyKwh * (1 / 10)))
    if fallback then
      s!"Cleaning kunde inte genomföras enbart med solel och planeras nu {startLocal}–{endLocal} " ++
        "för att uppfylla spaets säkerhetskrav."
    else if window.expectedEnergySource = .solar then
      s!"EMIC har valt {startLocal}–{endLocal} eftersom solöverskottet förväntas vara " ++
        s!"tillräckligt under denna period. Beräknad nätimport: {gridImport} kWh."
    else if strategy = .cheapest then
      s!"EMIC har valt {startLocal}–{endLocal} baserat på de billigaste timmarna inom fönstret."
    else s!"EMIC har valt {startLocal}–{endLocal} som bästa kompromiss mellan pris, solel och deadline."

def explainFixed (text : PlanText) (fixed alt : Option PlanWindow) : String :=
  match fixed with
  | none => "Fast schema är konfigurerat men kunde inte analyseras."
  | some fixed =>
    let start := text.hourMinute fixed.start
    let stop := text.hourMinute fixed.stop
    let msg := s!"Fast schema: {start}–{stop}. EMIC flyttar inte schemat."
    match alt with
    | none => msg
    | some alt =>
      let altStart := text.hourMinute alt.start
      let altStop := text.hourMinute alt.stop
      let saving := text.fixedPoint 2 (fixed.expectedCostSek - alt.expectedCostSek)
      if alt.expectedCostSek < fixed.expectedCostSek then
        msg ++ s!" Bättre tid finns: {altStart}–{altStop} (ca {saving} kr billigare)."
      else msg

def explainFixedFilterWindows (text : PlanText) (windows : List PlanWindow) (cycleDuration : Duration)
    (strategy : LoadStrategy) (fallback : Bool) : String :=
  if windows = [] then "Ingen filterplan kunde skapas inom dagens tidsfönster."
  else
    let count := windows.length
    let total := text.general ((windows.map PlanWindow.duration).sum / 3600)
    let cycle := text.general (cycleDuration / 3600)
    let planned := s!"EMIC har planerat {count} filtercykler à {cycle} h ({total} h totalt)."
    if fallback then planned ++ " Sol-only kunde inte uppfyllas — smart fallback används."
    else if strategy = .solarOnly then planned ++ " Prioriterar solel inom varje 2-timmarscykel."
    else planned

def explainDailyWindows (text : PlanText) (windows : List PlanWindow) (dailyRuntime : Duration) (fallback : Bool) :
    String :=
  if windows = [] then "EMIC kunde inte hitta lämpliga cleaning-fönster inom tillåten tid."
  else
    let count := windows.length
    let daily := text.general (dailyRuntime / 3600)
    let schedule := ", ".intercalate (windows.map fun w => text.hourMinute w.start ++ "–" ++ text.hourMinute w.stop)
    let planned := s!"EMIC planerar {daily} h cleaning fördelat på {count} period(er): {schedule}. "
    if fallback then planned ++ "Solel räckte inte till alla perioder — kompletterar med smart schemaläggning."
    else planned ++ "Färre starter prioriteras framför korta spridda körningar."

/-! ### Plans -/

/-- The deadline is too near to wait for the sun. -/
def tooLateForSun (strategy : LoadStrategy) (urgency : DeadlineUrgency) : Bool :=
  decide (strategy = .solarOnly) && decide (urgency.tier = .critical ∨ urgency.tier = .urgent)

/-- The strategy that a plan is made with. -/
def effectiveStrategy (strategy : LoadStrategy) (urgency : DeadlineUrgency) : LoadStrategy :=
  if tooLateForSun strategy urgency = true then .smart else strategy

/-- The plan of several windows, of which a load that must run gets one at least. -/
def planSeveral (load : FlexibleLoad) (scored : List ScoredBlock) (strategy : LoadStrategy)
    (urgency : DeadlineUrgency) (now : Instant) (found : List PlanWindow) (explain : List PlanWindow → String) :
    LoadPlan :=
  let fallback := tooLateForSun strategy urgency
  let windows :=
    if found.isEmpty && load.safetyCritical then (fallbackWindow load scored now).toList else found
  let reasons := resolveReason windows.head? (effectiveStrategy strategy urgency) fallback urgency
  let baseline := baselineCost load scored
  let planned := if windows = [] then none else some (windows.map PlanWindow.expectedCostSek).sum
  { loadId := load.loadId
    strategy := strategy
    windows := windows
    reason := reasons.1
    reasonSv := reasons.2
    explanationSv := explain windows
    fallbackFromSolarOnly := fallback
    scoredBlocks := scored
    baselineCostSek := baseline
    plannedCostSek := planned
    savingsSek := Option.map₂ (· - ·) baseline planned }

/-- The windows of `_plan_fixed_filter_cycles`. -/
def findFilterCycles (ctx : OptimizerContext) (load : FlexibleLoad) (scored : List ScoredBlock)
    (strategy : LoadStrategy) (urgency : DeadlineUrgency) (now : Instant) (cyclesPerDay : ℤ)
    (cycleDuration : Duration) : List PlanWindow :=
  let minSeparation := (orNonzero load.minimumCycleSeparation (orNonzero load.minimumPause (some 3600))).getD 3600
  planFixedFilterCycles ctx.order scored cyclesPerDay ⌊cycleDuration / 60⌋ minSeparation load.earliestStart
    (min load.latestFinish load.deadline) now (effectiveStrategy strategy urgency) load.nominalPowerW

/-- `_plan_fixed_filter_cycles`. -/
def planFilterCycles (ctx : OptimizerContext) (load : FlexibleLoad) (scored : List ScoredBlock)
    (strategy : LoadStrategy) (urgency : DeadlineUrgency) (now : Instant) (cyclesPerDay : ℤ)
    (cycleDuration : Duration) : LoadPlan :=
  let found := findFilterCycles ctx load scored strategy urgency now cyclesPerDay cycleDuration
  planSeveral load scored strategy urgency now found fun windows =>
    explainFixedFilterWindows ctx.text windows cycleDuration (effectiveStrategy strategy urgency)
      (tooLateForSun strategy urgency)

/-- `_plan_daily_cleaning`. -/
def planDailyCleaning (ctx : OptimizerContext) (load : FlexibleLoad) (scored : List ScoredBlock)
    (strategy : LoadStrategy) (urgency : DeadlineUrgency) (now : Instant) (dailyRuntime : Duration)
    (maxStarts : ℤ) : LoadPlan :=
  let minPause := (orNonzero load.minimumPause (some 1200)).getD 1200
  let effective := effectiveStrategy strategy urgency
  let found := planDailyCleaningWindows ctx.order scored (dailyRuntime / 3600) load.minimumRuntime minPause maxStarts
    load.earliestStart (min load.latestFinish load.deadline) now effective load.nominalPowerW
  planSeveral load scored strategy urgency now found fun windows =>
    explainDailyWindows ctx.text windows dailyRuntime (tooLateForSun strategy urgency)

/-- The plan of a fixed schedule. -/
def planFixedSchedule (ctx : OptimizerContext) (load : FlexibleLoad) (scored eligible : List ScoredBlock)
    (fixedStart fixedEnd : Instant) : LoadPlan :=
  let window := windowFromFixed load fixedStart fixedEnd scored eligible
  let alt := bestWindow ctx load eligible .smart
  { loadId := load.loadId
    strategy := .fixedSchedule
    windows := window.toList
    reason := "fixed_schedule"
    reasonSv := "fast_schema"
    explanationSv := explainFixed ctx.text window alt
    fixedScheduleAnalysis := true
    alternativeWindows := alt.toList
    scoredBlocks := scored }

/-- The plan of a single window. -/
def planSingle (ctx : OptimizerContext) (load : FlexibleLoad) (scored eligible : List ScoredBlock)
    (strategy : LoadStrategy) (urgency : DeadlineUrgency) (now : Instant) : LoadPlan :=
  let fallback := tooLateForSun strategy urgency
  let effective := effectiveStrategy strategy urgency
  let best := bestWindow ctx load eligible effective
  let window := if best.isNone && load.safetyCritical then fallbackWindow load scored now else best
  let reasons := resolveReason window effective fallback urgency
  let baseline := baselineCost load scored
  let planned := window.map PlanWindow.expectedCostSek
  { loadId := load.loadId
    strategy := strategy
    windows := window.toList
    reason := reasons.1
    reasonSv := reasons.2
    explanationSv := explainWindow ctx.text window effective fallback
    fallbackFromSolarOnly := fallback
    scoredBlocks := scored
    baselineCostSek := baseline
    plannedCostSek := planned
    savingsSek := Option.map₂ (· - ·) baseline planned }

/-- `FlexibleLoadOptimizer.plan`. -/
def plan (ctx : OptimizerContext) (load : FlexibleLoad) (horizon : List HorizonBlock) (strategy : LoadStrategy)
    (now : Instant) : LoadPlan :=
  let urgency := computeDeadlineUrgency now load.deadline
  let scored := scoreHorizon ctx.settings load horizon urgency
  let eligible := filterEligibleBlocks scored load now
  match strategy, load.fixedStart, load.fixedEnd with
  | .fixedSchedule, some fixedStart, some fixedEnd =>
    planFixedSchedule ctx load scored eligible fixedStart fixedEnd
  | _, _, _ =>
    match load.fixedCyclesPerDay, load.fixedCycleDuration with
    | some cyclesPerDay, some cycleDuration =>
      planFilterCycles ctx load scored strategy urgency now cyclesPerDay cycleDuration
    | _, _ =>
      match load.dailyRuntimeTarget, load.maxStartsPerDay with
      | some dailyRuntime, some maxStarts =>
        if maxStarts ≠ 0 then
          planDailyCleaning ctx load scored strategy urgency now dailyRuntime maxStarts
        else planSingle ctx load scored eligible strategy urgency now
      | _, _ => planSingle ctx load scored eligible strategy urgency now

/-! ### The horizon of a plan -/

theorem block_scoreHorizon (settings : OptimizerSettings) (load : FlexibleLoad) (horizon : List HorizonBlock)
    (urgency : DeadlineUrgency) : (scoreHorizon settings load horizon urgency).map ScoredBlock.block = horizon := by
  unfold scoreHorizon
  rw [List.map_map]
  exact List.map_id horizon

/-- **The blocks of a plan** are those of its horizon. -/
theorem scoredBlocks_plan (ctx : OptimizerContext) (load : FlexibleLoad) (horizon : List HorizonBlock)
    (strategy : LoadStrategy) (now : Instant) :
    (plan ctx load horizon strategy now).scoredBlocks.map ScoredBlock.block = horizon := by
  have hscored := block_scoreHorizon ctx.settings load horizon (computeDeadlineUrgency now load.deadline)
  unfold plan
  dsimp only
  split
  · exact hscored
  · split
    · exact hscored
    · split
      · split_ifs
        · exact hscored
        · exact hscored
      · exact hscored

end EnergyCore.FlexibleLoads
