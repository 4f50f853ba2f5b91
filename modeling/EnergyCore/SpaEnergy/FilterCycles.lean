import EnergyCore.FlexibleLoads.LoadTypes
import EnergyCore.Foundations.HalfEvenRounding
import Mathlib.Algebra.Order.Ring.WithTop

/-!
# Filter cycles and daily cleaning

Windows of consecutive blocks: the search for as many of them as there are cycles, and cleaning of so many hours a
day, in as few windows as the scores make worth while.

* `planFixedFilterCycles` — the cycles of a day;
* `planDailyCleaningWindows` — the cleaning of a day.
-/

namespace EnergyCore.SpaEnergy

open FlexibleLoads HalfEvenRounding

/-! ### Windows -/

/-- `_window_from_blocks`, of the blocks `first :: rest`. -/
def windowFromBlocks (order : SetOrder) (nominalPowerW : ℚ) (first : ScoredBlock) (rest : List ScoredBlock) :
    PlanWindow :=
  let blocks := first :: rest
  let start := first.block.timestamp
  let stop := (blocks.getLast (List.cons_ne_nil _ _)).block.timestamp + interval
  { start := start
    stop := stop
    duration := stop - start
    expectedEnergyKwh := (nominalPowerW / 1000) * (blocks.length * 15 / 60)
    expectedCostSek := (blocks.map fun b => b.marginalCostSekKwh * (nominalPowerW / 1000) * (15 / 60)).sum
    expectedEnergySource := (order.primarySource (blocks.map ScoredBlock.expectedEnergySource)).getD .grid
    averageScore := average ScoredBlock.score blocks
    blocks := blocks }

/-- A strategy for the sun alone takes no window with less than half of the power. -/
def tooLittleSun (strategy : LoadStrategy) (nominalPowerW : ℚ) (blocks : List ScoredBlock) : Bool :=
  decide (strategy = .solarOnly) &&
    decide (average (fun b => b.block.availableSurplusW) blocks < nominalPowerW * (1 / 2))

/-- `_block_score_for_strategy`, where `⊥` is minus infinity. -/
def blockScoreForStrategy (blocks : List ScoredBlock) (strategy : LoadStrategy) (nominalPowerW : ℚ) : WithBot ℚ :=
  if tooLittleSun strategy nominalPowerW blocks = true then ⊥
  else if strategy = .cheapest then ((-average ScoredBlock.marginalCostSekKwh blocks : ℚ) : WithBot ℚ)
  else ((average ScoredBlock.score blocks : ℚ) : WithBot ℚ)

def findBestWindowAtIndex (order : SetOrder) (scored : List ScoredBlock) (startIdx blocksNeeded : ℕ)
    (strategy : LoadStrategy) (nominalPowerW : ℚ) : Option PlanWindow :=
  if startIdx + blocksNeeded > scored.length then none
  else
    let windowBlocks := (scored.drop startIdx).take blocksNeeded
    if tooLittleSun strategy nominalPowerW windowBlocks = true then none
    else
      match windowBlocks with
      | [] => none
      | first :: rest => some (windowFromBlocks order nominalPowerW first rest)

/-! ### The search -/

/-- The best plan so far and its score. -/
abbrev BestPlan := List PlanWindow × WithBot ℚ

def compatible (minSeparation : Duration) (chosen : List PlanWindow) (candidate : PlanWindow) : Bool :=
  chosen.getLast?.all fun last => decide (candidate.start ≥ last.stop + minSeparation)

/-- Keeps a plan that is complete if it is better than the best so far. -/
def keepBetter (chosen : List PlanWindow) (best : BestPlan) : BestPlan :=
  let score : WithBot ℚ := (((chosen.map PlanWindow.averageScore).sum : ℚ) : WithBot ℚ)
  if score > best.2 then (chosen, score) else best

/-- `backtrack`, where `search` goes on with the candidates that are left. -/
def visit (cyclesNeeded : ℕ) (chosen : List PlanWindow) (left : ℕ) (search : BestPlan → BestPlan)
    (best : BestPlan) : BestPlan :=
  if chosen.length = cyclesNeeded then keepBetter chosen best
  else if left = 0 ∨ left < cyclesNeeded - chosen.length then best
  else search best

/-- The loop of `backtrack` over the candidates that are left. -/
def searchCycles (cyclesNeeded : ℕ) (minSeparation : Duration) :
    List PlanWindow → List PlanWindow → BestPlan → BestPlan
  | [], _, best => best
  | candidate :: rest, chosen, best =>
    searchCycles cyclesNeeded minSeparation rest chosen
      (if compatible minSeparation chosen candidate then
        visit cyclesNeeded (chosen ++ [candidate]) rest.length
          (searchCycles cyclesNeeded minSeparation rest (chosen ++ [candidate])) best
      else best)

def enumerateFixedCyclePlans (candidates : List PlanWindow) (cyclesNeeded : ℕ) (minSeparation : Duration) :
    List PlanWindow :=
  (visit cyclesNeeded [] candidates.length (searchCycles cyclesNeeded minSeparation candidates []) ([], ⊥)).1

/-! ### The cycles of a day -/

def blocksPerCycle (durationMinutes : ℤ) : ℕ :=
  let whole := max 1 (durationMinutes / 15)
  (if whole * 15 ≠ durationMinutes then max 1 (roundHalfEven ((durationMinutes : ℚ) / 15)) else whole).toNat

/-- The blocks that a plan may use. -/
def eligibleBlocks (scored : List ScoredBlock) (earliest latest now : Instant) : List ScoredBlock :=
  let allowed := scored.filter fun s => decide (earliest ≤ s.block.timestamp ∧ s.block.timestamp < latest)
  let eligible := allowed.filter fun s => decide (s.block.timestamp ≥ now - interval) && s.loadFeasible
  if eligible.isEmpty then allowed else eligible

/-- A window for every index at which one fits, without those that cover the same time as an earlier one. -/
def candidateWindows (order : SetOrder) (eligible : List ScoredBlock) (blocksNeeded : ℕ) (strategy : LoadStrategy)
    (nominalPowerW : ℚ) : List PlanWindow :=
  (List.range (eligible.length + 1 - blocksNeeded)).foldl (fun candidates startIdx =>
    match findBestWindowAtIndex order eligible startIdx blocksNeeded strategy nominalPowerW with
    | none => candidates
    | some window =>
      if candidates.any fun w => decide (w.start = window.start ∧ w.stop = window.stop) then candidates
      else candidates ++ [window]) []

/-- The windows at every `step`-th index that keep their distance, up to the number of cycles. -/
def spacedWindows (order : SetOrder) (eligible : List ScoredBlock) (cycles blocksNeeded : ℕ) (minSeparation : Duration)
    (strategy : LoadStrategy) (nominalPowerW : ℚ) : List PlanWindow :=
  let step := max 1 ((eligible.length - blocksNeeded) / max 1 cycles)
  let indices := ((List.range eligible.length).map (· * step)).filter fun idx =>
    decide (idx + blocksNeeded ≤ eligible.length)
  indices.foldl (fun fallback idx =>
    if fallback.length < cycles then
      match findBestWindowAtIndex order eligible idx blocksNeeded strategy nominalPowerW with
      | none => fallback
      | some window => if compatible minSeparation fallback window then fallback ++ [window] else fallback
    else fallback) []

def planFixedFilterCycles (order : SetOrder) (scored : List ScoredBlock) (cyclesPerDay durationMinutes : ℤ)
    (minSeparation : Duration) (earliest latest now : Instant) (strategy : LoadStrategy) (nominalPowerW : ℚ) :
    List PlanWindow :=
  if scored = [] ∨ cyclesPerDay ≤ 0 ∨ durationMinutes ≤ 0 then []
  else
    let cycles := cyclesPerDay.toNat
    let blocksNeeded := blocksPerCycle durationMinutes
    let eligible := eligibleBlocks scored earliest latest now
    let candidates := (candidateWindows order eligible blocksNeeded strategy nominalPowerW).mergeSort
      fun w w' => decide (w.start ≤ w'.start)
    if candidates.isEmpty then []
    else
      let plan := enumerateFixedCyclePlans candidates cycles minSeparation
      if plan ≠ [] then plan
      else if eligible.length ≥ blocksNeeded then
        let fallback := spacedWindows order eligible cycles blocksNeeded minSeparation strategy nominalPowerW
        if fallback.length = cycles then fallback else []
      else []

/-! ### Merging -/

/-- The loop of `_merge_windows` behind the window that may still grow. -/
def mergeInto (order : SetOrder) (minPause : Duration) (maxMergedHours nominalPowerW : ℚ) :
    PlanWindow → List PlanWindow → List PlanWindow
  | current, [] => [current]
  | current, next :: rest =>
    let gap := next.start - current.stop
    let mergedHours := (next.stop - current.start) / 3600
    if gap ≤ minPause ∧ mergedHours ≤ maxMergedHours then
      match current.blocks ++ next.blocks with
      | [] => mergeInto order minPause maxMergedHours nominalPowerW current rest
      | first :: blocks =>
        mergeInto order minPause maxMergedHours nominalPowerW (windowFromBlocks order nominalPowerW first blocks)
          rest
    else current :: mergeInto order minPause maxMergedHours nominalPowerW next rest

def mergeWindows (order : SetOrder) (windows : List PlanWindow) (minPause : Duration)
    (maxMergedHours nominalPowerW : ℚ) : List PlanWindow :=
  match windows with
  | [] => []
  | current :: rest => mergeInto order minPause maxMergedHours nominalPowerW current rest

/-! ### The cleaning of a day -/

/-- The best window that starts at one of the indices, the first of those that score the same. -/
def bestWindowAmong (order : SetOrder) (eligible : List ScoredBlock) (indices : List ℕ) (blocksNeeded : ℕ)
    (strategy : LoadStrategy) (nominalPowerW : ℚ) : Option PlanWindow :=
  (indices.foldl (fun (best : Option PlanWindow × WithBot ℚ) startIdx =>
    match findBestWindowAtIndex order eligible startIdx blocksNeeded strategy nominalPowerW with
    | none => best
    | some candidate =>
      let score := blockScoreForStrategy candidate.blocks strategy nominalPowerW
      if score > best.2 then (some candidate, score) else best) (none, ⊥)).1

/-- The best windows one after the other, each behind the pause after the last one, or none at all. -/
def consecutiveWindows (order : SetOrder) (eligible : List ScoredBlock) (blocksPerWindow pauseBlocks : ℕ)
    (strategy : LoadStrategy) (nominalPowerW : ℚ) : ℕ → ℕ → Option (List PlanWindow)
  | 0, _ => some []
  | starts + 1, first => do
    let indices := (List.range (eligible.length + 1 - blocksPerWindow)).drop first
    let best ← bestWindowAmong order eligible indices blocksPerWindow strategy nominalPowerW
    let last ← best.blocks.getLast?
    let rest ← consecutiveWindows order eligible blocksPerWindow pauseBlocks strategy nominalPowerW starts
      (eligible.idxOf last + pauseBlocks + 1)
    return best :: rest

/-- `START_COUNT_PENALTY`. -/
def startCountPenalty : ℚ := 500

/-- The blocks of each of the windows when cleaning starts so many times. -/
def blocksPerWindow (minBlocks dailyBlocks starts : ℕ) : ℕ :=
  let blocks := max minBlocks (roundHalfEven ((dailyBlocks : ℚ) / starts)).toNat
  if blocks * starts < dailyBlocks then blocks + 1 else blocks

/-- One more number of starts, which is taken if it scores better. -/
def tryStarts (order : SetOrder) (eligible : List ScoredBlock) (dailyHours : ℚ) (minCycle minPause : Duration)
    (minBlocks dailyBlocks : ℕ) (strategy : LoadStrategy) (nominalPowerW : ℚ) (best : BestPlan) (starts : ℕ) :
    BestPlan :=
  let blocks := blocksPerWindow minBlocks dailyBlocks starts
  if (blocks : ℚ) * 15 / 60 < minCycle / 3600 then best
  else
    match consecutiveWindows order eligible blocks (wholeBlocks minPause) strategy nominalPowerW starts 0 with
    | none => best
    | some windows =>
      let merged := mergeWindows order windows minPause (dailyHours + 1 / 100) nominalPowerW
      let score : WithBot ℚ :=
        (((merged.map PlanWindow.averageScore).sum - startCountPenalty * merged.length : ℚ) : WithBot ℚ)
      if score > best.2 then (merged, score) else best

def planDailyCleaningWindows (order : SetOrder) (scored : List ScoredBlock) (dailyHours : ℚ)
    (minCycle minPause : Duration) (maxStarts : ℤ) (earliest latest now : Instant) (strategy : LoadStrategy)
    (nominalPowerW : ℚ) : List PlanWindow :=
  if scored = [] ∨ dailyHours ≤ 0 ∨ maxStarts ≤ 0 then []
  else
    let eligible := eligibleBlocks scored earliest latest now
    let minBlocks := wholeBlocks minCycle
    let dailyBlocks := max minBlocks (roundHalfEven (dailyHours * 60 / 15)).toNat
    let best := ((List.range maxStarts.toNat).map (· + 1)).foldl
      (tryStarts order eligible dailyHours minCycle minPause minBlocks dailyBlocks strategy nominalPowerW) ([], ⊥)
    if best.1 ≠ [] then best.1
    else
      let fallbackBlocks := max minBlocks (min dailyBlocks eligible.length)
      (bestWindowAmong order eligible (List.range (eligible.length + 1 - fallbackBlocks)) fallbackBlocks strategy
        nominalPowerW).toList

end EnergyCore.SpaEnergy
