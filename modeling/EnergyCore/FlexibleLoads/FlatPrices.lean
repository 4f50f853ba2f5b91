import EnergyCore.FlexibleLoads.SafetyFallback
import EnergyCore.SpaEnergy.CleaningPlans
import EnergyCore.SpaEnergy.CyclePlans

/-!
# Savings at a flat price

What a plan costs against its baseline when every block costs the same, and when both are for the same energy.

* `billed_of_foundAt`, `billed_of_fallbackWindow`, `billed_cleaning` — windows cost their energy at the flat price;
* `Compares.fair_iff` — a plan is compared with as much energy if its windows are as long as the minimum runtime;
* `fair_plan_iff` — when this is so for each of the planners.
-/

namespace EnergyCore.FlexibleLoads

open SpaEnergy ExhaustiveSearch

/-! ### Energy and cost -/

/-- The energy of a load over so many blocks. -/
def energyKwh (power : ℚ) (blocks : ℕ) : ℚ := (power / 1000) * (blocks * 15 / 60)

/-- The energy that the baseline is for. -/
def FlexibleLoad.baselineEnergyKwh (load : FlexibleLoad) : ℚ := (load.nominalPowerW / 1000) * (load.minimumRuntime / 3600)

def LoadPlan.plannedEnergyKwh (plan : LoadPlan) : ℚ := (plan.windows.map PlanWindow.expectedEnergyKwh).sum

/-- Every block costs the same. -/
def Flat (scored : List ScoredBlock) (cost : ℚ) : Prop := ∀ s ∈ scored, s.marginalCostSekKwh = cost

/-- The baseline and the plan are for the same energy, and the plan saves nothing if every block costs the same. -/
structure Fair (load : FlexibleLoad) (plan : LoadPlan) : Prop where
  noSavings : ∀ cost, Flat plan.scoredBlocks cost → ∀ savings ∈ plan.savingsSek, savings = 0
  sameEnergy : plan.baselineCostSek.isSome → plan.plannedCostSek.isSome →
    plan.plannedEnergyKwh = load.baselineEnergyKwh

/-- A window of some of the blocks, whose cost at a flat price is that of its energy. -/
structure Billed (power : ℚ) (scored : List ScoredBlock) (blocks : ℕ) (w : PlanWindow) : Prop where
  energy : w.expectedEnergyKwh = energyKwh power blocks
  cost : ∀ cost, Flat scored cost → w.expectedCostSek = cost * w.expectedEnergyKwh

variable {load : FlexibleLoad} {scored : List ScoredBlock} {now : Instant} {power : ℚ} {blocks : ℕ} {w : PlanWindow}

/-- The energy of so many blocks is that of the baseline if they last for the minimum runtime. -/
theorem energyKwh_eq_baseline_iff : energyKwh load.nominalPowerW blocks = load.baselineEnergyKwh ↔
      load.nominalPowerW = 0 ∨ interval * blocks = load.minimumRuntime := by
  unfold energyKwh FlexibleLoad.baselineEnergyKwh interval
  constructor
  · intro h
    by_cases hpower : load.nominalPowerW = 0
    · exact .inl hpower
    · have hhours := mul_left_cancel₀ (div_ne_zero hpower (by norm_num)) h
      right
      linarith
  · rintro (hpower | hruntime)
    · rw [hpower, zero_div, zero_mul, zero_mul]
    · rw [← hruntime]
      ring

theorem sum_map_flat {part : List ScoredBlock} {cost : ℚ} (hflat : Flat scored cost) (hpart : part ⊆ scored) (c : ℚ) :
    (part.map fun b => b.marginalCostSekKwh * c).sum = part.length * (cost * c) := by
  have hsame : part.map (fun b => b.marginalCostSekKwh * c) = part.map fun _ => cost * c :=
    List.map_congr_left fun b hb => by rw [hflat b (hpart hb)]
  rw [hsame, List.map_const', List.sum_replicate, nsmul_eq_mul]

/-- At a flat price, the average over some blocks is the price. -/
theorem average_flat {part : List ScoredBlock} {cost : ℚ} (hflat : Flat scored cost) (hpart : part ⊆ scored)
    (hne : part ≠ []) : average ScoredBlock.marginalCostSekKwh part = cost := by
  have hlength : (part.length : ℚ) ≠ 0 := by
    exact_mod_cast List.length_pos_iff.mpr hne |>.ne'
  have hsum := sum_map_flat hflat hpart 1
  simp only [mul_one] at hsum
  unfold average
  rw [hsum, mul_div_cancel_left₀ cost hlength]

/-- A window from blocks costs its energy. -/
theorem billed_windowFromBlocks {order : SetOrder} {first : ScoredBlock} {rest : List ScoredBlock}
    (hpart : first :: rest ⊆ scored) :
    Billed power scored (first :: rest).length (windowFromBlocks order power first rest) where
  energy := rfl
  cost := by
    intro cost hflat
    have hsum := sum_map_flat hflat hpart ((power / 1000) * (15 / 60))
    simp only [← mul_assoc] at hsum
    show ((first :: rest).map fun b => b.marginalCostSekKwh * (power / 1000) * (15 / 60)).sum
      = cost * ((power / 1000) * (((first :: rest).length : ℚ) * 15 / 60))
    rw [hsum]
    ring

theorem billed_of_foundAt {order : SetOrder} {usable : List ScoredBlock} {strategy : LoadStrategy}
    (husable : usable ⊆ scored) (hfound : FoundAt order usable blocks strategy power w) :
    Billed power scored blocks w := by
  have hlength := hfound.length_blocks
  obtain ⟨i, hi⟩ := hfound
  have hrun := (findBestWindowAtIndex_spec hi).2.1
  unfold findBestWindowAtIndex at hi
  split_ifs at hi
  dsimp only at hi
  split_ifs at hi
  split at hi
  · cases hi
  · rename_i first rest hblocks
    cases hi
    have hpart : first :: rest ⊆ scored := by
      rw [← hblocks]
      exact List.Subset.trans (infix_drop_take usable i blocks).subset husable
    rw [← hlength]
    exact billed_windowFromBlocks hpart

/-! ### The single window -/

theorem billed_bestWindowCandidates {order : SetOrder} {usable : List ScoredBlock} {strategy : LoadStrategy}
    (husable : usable ⊆ scored) (hw : w ∈ bestWindowCandidates order load usable strategy) :
    wholeBlocks load.minimumRuntime ≤ w.blocks.length ∧ Billed load.nominalPowerW scored w.blocks.length w := by
  unfold bestWindowCandidates at hw
  obtain ⟨i, hi, hn⟩ := List.mem_flatMap.mp hw
  obtain ⟨n, hn, hfound⟩ := List.mem_filterMap.mp hn
  have hbounds : wholeBlocks load.minimumRuntime ≤ n ∧ n ≤ usable.length - i := by
    obtain ⟨k, hk, rfl⟩ := List.mem_iff_getElem.mp hn
    rw [List.length_drop, List.length_range] at hk
    rw [List.getElem_drop, List.getElem_range]
    omega
  split at hfound
  · cases hfound
  · rename_i first rest hrun
    split_ifs at hfound
    cases hfound
    have hlength := congrArg List.length hrun
    rw [List.length_take, List.length_drop] at hlength
    have hpart : first :: rest ⊆ scored := by
      rw [← hrun]
      exact List.Subset.trans (infix_drop_take usable i n).subset husable
    refine ⟨?_, rfl, fun cost hflat => ?_⟩
    · show wholeBlocks load.minimumRuntime ≤ (first :: rest).length
      omega
    · have hpos : ((first :: rest).length : ℚ) ≠ 0 := by
        exact_mod_cast (List.length_pos_iff.mpr (List.cons_ne_nil first rest)).ne'
      have hsum := sum_map_flat hflat hpart ((load.nominalPowerW / 1000) * (15 / 60))
      simp only [← mul_assoc] at hsum
      show average (fun b => b.marginalCostSekKwh * (load.nominalPowerW / 1000) * (15 / 60)) (first :: rest)
          * ((first :: rest).length : ℚ)
        = cost * ((load.nominalPowerW / 1000) * (((first :: rest).length : ℚ) * 15 / 60))
      unfold average
      rw [div_mul_cancel₀ _ hpos, hsum]
      ring

/-- The windows that the single planner chooses from: those of the sun, if the sun is preferred and has any. -/
def offeredWindows (ctx : OptimizerContext) (load : FlexibleLoad) (usable : List ScoredBlock) (strategy : LoadStrategy) :
    List PlanWindow :=
  let candidates := bestWindowCandidates ctx.order load usable strategy
  let solarCandidates := candidates.filter fun w => decide (w.expectedEnergySource = .solar)
  if strategy = .solarOnly ∧ ctx.settings.preferSolar = true ∧ solarCandidates ≠ [] then solarCandidates
  else candidates

/-- What a window is chosen for. -/
def worth (strategy : LoadStrategy) (w : PlanWindow) : ℚ :=
  if strategy = .cheapest then -w.expectedCostSek else w.averageScore

theorem argmin_eq_argmax_neg {α : Type*} (f : α → ℚ) (l : List α) : l.argmin f = l.argmax fun a => -f a := by
  induction l using List.reverseRecOn with
  | nil => rfl
  | append_singleton l a ih =>
    rw [List.argmin_concat, List.argmax_concat, ih]
    cases l.argmax fun a => -f a with
    | none => rfl
    | some m => simp only [neg_lt_neg_iff]

/-- **The single window** is the first of the best that are offered. -/
theorem bestWindow_eq (ctx : OptimizerContext) (load : FlexibleLoad) (usable : List ScoredBlock)
    (strategy : LoadStrategy) :
    bestWindow ctx load usable strategy = (offeredWindows ctx load usable strategy).argmax (worth strategy) := by
  unfold bestWindow offeredWindows
  dsimp only
  by_cases hcheapest : strategy = .cheapest
  · have hworth : worth strategy = fun w => -w.expectedCostSek := funext fun w => if_pos hcheapest
    have hnotSolar : ¬ (strategy = .solarOnly ∧ ctx.settings.preferSolar = true
        ∧ (bestWindowCandidates ctx.order load usable strategy).filter
          (fun w => decide (w.expectedEnergySource = .solar)) ≠ []) := by
      rintro ⟨hsolar, -⟩
      rw [hcheapest] at hsolar
      cases hsolar
    rw [if_pos hcheapest, if_neg hnotSolar, hworth, argmin_eq_argmax_neg]
  · have hworth : worth strategy = PlanWindow.averageScore := funext fun w => if_neg hcheapest
    rw [if_neg hcheapest, hworth]
    split_ifs
    · rfl
    · rfl

theorem offeredWindows_subset (ctx : OptimizerContext) (load : FlexibleLoad) (usable : List ScoredBlock)
    (strategy : LoadStrategy) :
    offeredWindows ctx load usable strategy ⊆ bestWindowCandidates ctx.order load usable strategy := by
  unfold offeredWindows
  dsimp only
  split_ifs
  · exact List.filter_subset_self _
  · exact List.Subset.refl _

/-! ### Plans that compare their cost with a baseline -/

/-- The fallback of a load that must run is for the blocks of the minimum runtime, whether there are so many or not. -/
theorem billed_of_fallbackWindow (h : fallbackWindow load scored now = some w) :
    Billed load.nominalPowerW scored (wholeBlocks load.minimumRuntime) w := by
  unfold fallbackWindow at h
  dsimp only at h
  split at h
  · cases h
  · rename_i first rest hwindow
    cases h
    have hpart : first :: rest ⊆ scored := by
      rw [← hwindow]
      refine List.Subset.trans (List.take_subset _ _) ?_
      split_ifs
      · exact List.drop_subset _ _
      · exact List.filter_subset_self _
    refine ⟨rfl, fun cost hflat => ?_⟩
    exact congrArg (· * _) (average_flat hflat hpart (List.cons_ne_nil _ _))

/-- A plan of the windows that were found, or else of the fallback, whose cost is compared with the baseline. -/
structure Compares (load : FlexibleLoad) (scored : List ScoredBlock) (now : Instant) (found : List PlanWindow)
    (plan : LoadPlan) : Prop where
  windows : plan.windows
    = if found.isEmpty && load.safetyCritical then (fallbackWindow load scored now).toList else found
  scoredBlocks : plan.scoredBlocks = scored
  baseline : plan.baselineCostSek = baselineCost load scored
  planned : plan.plannedCostSek
    = if plan.windows = [] then none else some (plan.windows.map PlanWindow.expectedCostSek).sum
  savings : plan.savingsSek = Option.map₂ (· - ·) plan.baselineCostSek plan.plannedCostSek

/-- The windows that were found cost the energy of their blocks. -/
theorem billed_sum {found : List PlanWindow} (hfound : ∀ w ∈ found, Billed power scored w.blocks.length w) :
    (found.map PlanWindow.expectedEnergyKwh).sum = energyKwh power (foundBlocks found)
      ∧ ∀ cost, Flat scored cost → (found.map PlanWindow.expectedCostSek).sum
          = cost * (found.map PlanWindow.expectedEnergyKwh).sum := by
  induction found with
  | nil =>
    refine ⟨?_, fun cost _ => (mul_zero cost).symm⟩
    simp [energyKwh, foundBlocks]
  | cons w found ih =>
    obtain ⟨henergy, hcost⟩ := ih fun w' hw' => hfound w' (List.mem_cons_of_mem _ hw')
    have hw := hfound w List.mem_cons_self
    constructor
    · rw [List.map_cons, List.sum_cons, henergy, hw.energy]
      simp only [energyKwh, foundBlocks, List.map_cons, List.sum_cons]
      push_cast
      ring
    · intro cost hflat
      rw [List.map_cons, List.sum_cons, List.map_cons, List.sum_cons, hw.cost cost hflat, hcost cost hflat, mul_add]

/-- What a plan is for, in blocks: those of its windows, or those of the minimum runtime if it has only the fallback. -/
theorem Compares.billed {found : List PlanWindow} {plan : LoadPlan} (h : Compares load scored now found plan)
    (hfound : ∀ w ∈ found, Billed load.nominalPowerW scored w.blocks.length w) (hscored : scored ≠ []) :
    (plan.windows = [] ↔ found = [] ∧ load.safetyCritical = false)
      ∧ plan.plannedEnergyKwh = energyKwh load.nominalPowerW
          (if found.isEmpty && load.safetyCritical then wholeBlocks load.minimumRuntime else foundBlocks found)
      ∧ ∀ cost, Flat scored cost →
          (plan.windows.map PlanWindow.expectedCostSek).sum = cost * plan.plannedEnergyKwh := by
  unfold LoadPlan.plannedEnergyKwh
  rw [h.windows]
  by_cases hfallback : (found.isEmpty && load.safetyCritical) = true
  · obtain ⟨hnone, hcritical⟩ := Bool.and_eq_true_iff.mp hfallback
    have hsome : (fallbackWindow load scored now).isSome := fallbackWindow_isSome hscored
    obtain ⟨w, hw⟩ := Option.isSome_iff_exists.mp hsome
    have hbilled := billed_of_fallbackWindow hw
    rw [if_pos hfallback, if_pos hfallback, hw, Option.toList_some]
    refine ⟨iff_of_false (List.cons_ne_nil _ _) fun hnot => ?_, ?_, fun cost hflat => ?_⟩
    · rw [hnot.2] at hcritical
      cases hcritical
    · rw [List.map_singleton, List.sum_singleton, hbilled.energy]
    · rw [List.map_singleton, List.sum_singleton, List.map_singleton, List.sum_singleton, hbilled.cost cost hflat]
  · obtain ⟨henergy, hcost⟩ := billed_sum hfound
    rw [if_neg hfallback, if_neg hfallback]
    refine ⟨?_, henergy, hcost⟩
    rw [Bool.and_eq_true_iff, List.isEmpty_iff, not_and, Bool.not_eq_true] at hfallback
    exact ⟨fun hnone => ⟨hnone, hfallback hnone⟩, fun hnone => hnone.1⟩

/-- **A plan is fair** exactly if its windows last for the minimum runtime, together, and so do the blocks of the
fallback if it has only that. -/
theorem Compares.fair_iff {found : List PlanWindow} {plan : LoadPlan} (h : Compares load scored now found plan)
    (hfound : ∀ w ∈ found, Billed load.nominalPowerW scored w.blocks.length w) (hscored : scored ≠ []) :
    Fair load plan ↔ load.nominalPowerW = 0 ∨ ((found ≠ [] → interval * foundBlocks found = load.minimumRuntime)
          ∧ (found = [] → load.safetyCritical = true →
            interval * wholeBlocks load.minimumRuntime = load.minimumRuntime)) := by
  obtain ⟨hnone, henergy, hcost⟩ := h.billed hfound hscored
  have hbaseline := h.baseline
  rw [baselineCost, if_neg hscored] at hbaseline
  have hsame : Fair load plan ↔ (plan.windows ≠ [] → plan.plannedEnergyKwh = load.baselineEnergyKwh) := by
    constructor
    · intro hfair hsome
      refine hfair.sameEnergy ?_ ?_
      · rw [hbaseline]
        rfl
      · rw [h.planned, if_neg hsome]
        rfl
    · intro hequal
      refine ⟨fun cost hflat savings hsavings => ?_, fun _ hplanned => ?_⟩
      · rw [h.scoredBlocks] at hflat
        rw [h.savings, hbaseline, h.planned] at hsavings
        split_ifs at hsavings with hwindows
        · cases hsavings
        · obtain rfl := Option.some_inj.mp hsavings
          rw [hcost cost hflat, hequal hwindows, average_flat hflat (List.Subset.refl _) hscored]
          unfold FlexibleLoad.baselineEnergyKwh
          ring
      · refine hequal fun hwindows => ?_
        rw [h.planned, if_pos hwindows] at hplanned
        cases hplanned
  rw [hsame, henergy, energyKwh_eq_baseline_iff, Ne, hnone]
  cases found with
  | nil =>
    cases load.safetyCritical with
    | true => simp
    | false => simp
  | cons w found => simp

section

variable {ctx : OptimizerContext} {strategy : LoadStrategy} {urgency : DeadlineUrgency}

theorem compares_planSeveral (found : List PlanWindow) (explain : List PlanWindow → String) :
    Compares load scored now found (planSeveral load scored strategy urgency now found explain) :=
  ⟨rfl, rfl, rfl, rfl, rfl⟩

theorem sum_toList (window : Option PlanWindow) : window.map PlanWindow.expectedCostSek
      = if window.toList = [] then none else some (window.toList.map PlanWindow.expectedCostSek).sum := by
  cases window with
  | none => rfl
  | some w => simp

theorem compares_planSingle (eligible : List ScoredBlock) :
    Compares load scored now (bestWindow ctx load eligible (effectiveStrategy strategy urgency)).toList
      (planSingle ctx load scored eligible strategy urgency now) := by
  have hwindows : (planSingle ctx load scored eligible strategy urgency now).windows
      = if (bestWindow ctx load eligible (effectiveStrategy strategy urgency)).toList.isEmpty && load.safetyCritical then
          (fallbackWindow load scored now).toList
        else (bestWindow ctx load eligible (effectiveStrategy strategy urgency)).toList := by
    unfold planSingle
    dsimp only
    cases bestWindow ctx load eligible (effectiveStrategy strategy urgency) with
    | none =>
      cases load.safetyCritical with
      | true => rfl
      | false => rfl
    | some w => rfl
  exact ⟨hwindows, rfl, rfl, sum_toList _, rfl⟩

end

/-! ### When each planner is fair -/

/-- The minimum runtime is a whole number of blocks, and at least one. -/
def WholeRuntime (load : FlexibleLoad) : Prop := interval * wholeBlocks load.minimumRuntime = load.minimumRuntime

/-- The single window is no longer than the minimum runtime: no longer window beats those of the shortest length. -/
def SingleFair (ctx : OptimizerContext) (load : FlexibleLoad) (usable : List ScoredBlock) (strategy : LoadStrategy) :
    Prop :=
  let offered := offeredWindows ctx load usable strategy
  (offered ≠ [] ∨ load.safetyCritical = true → WholeRuntime load)
    ∧ (offered ≠ [] → ∃ w ∈ offered, w.blocks.length = wholeBlocks load.minimumRuntime
      ∧ ∀ w' ∈ offered, w'.blocks.length ≠ wholeBlocks load.minimumRuntime → Beats (worth strategy) offered w w')

/-- What the filter cycles of a load ask for. -/
def filterRequest (ctx : OptimizerContext) (load : FlexibleLoad) (scored : List ScoredBlock) (strategy : LoadStrategy)
    (urgency : DeadlineUrgency) (now : Instant) (cyclesPerDay : ℤ) (cycleDuration : Duration) : CycleRequest :=
  { order := ctx.order, scored := scored, cyclesPerDay := cyclesPerDay, durationMinutes := ⌊cycleDuration / 60⌋
    minSeparation := (orNonzero load.minimumCycleSeparation (orNonzero load.minimumPause (some 3600))).getD 3600
    earliest := load.earliestStart, latest := min load.latestFinish load.deadline, now := now
    strategy := effectiveStrategy strategy urgency, nominalPowerW := load.nominalPowerW }

/-- All the cycles together last for the minimum runtime, if so many can be placed. -/
def CyclesFair (load : FlexibleLoad) (r : CycleRequest) : Prop :=
  ((∃ plan, r.Choice plan) ∨ r.fallback ≠ [] → interval * (r.cycles * r.blocks : ℕ) = load.minimumRuntime)
    ∧ (¬ ((∃ plan, r.Choice plan) ∨ r.fallback ≠ []) → load.safetyCritical = true → WholeRuntime load)

/-- What the daily cleaning of a load asks for. -/
def cleaningRequest (ctx : OptimizerContext) (load : FlexibleLoad) (scored : List ScoredBlock)
    (strategy : LoadStrategy) (urgency : DeadlineUrgency) (now : Instant) (dailyRuntime : Duration) (maxStarts : ℤ) :
    CleaningRequest :=
  { order := ctx.order, scored := scored, dailyHours := dailyRuntime / 3600, minCycle := load.minimumRuntime
    minPause := (orNonzero load.minimumPause (some 1200)).getD 1200, maxStarts := maxStarts
    earliest := load.earliestStart, latest := min load.latestFinish load.deadline, now := now
    strategy := effectiveStrategy strategy urgency, nominalPowerW := load.nominalPowerW }

/-- A day's cleaning is no longer than the minimum runtime, and is planned in a single start, which no plan of several
starts outscores; or there are no more blocks than that. -/
def CleaningFair (load : FlexibleLoad) (r : CleaningRequest) : Prop :=
  ((r.Asks ∧ (r.tried ≠ [] ∨ r.fallback ≠ none)) ∨ load.safetyCritical = true → WholeRuntime load)
    ∧ (r.Asks → r.tried ≠ [] → r.dailyBlocks = r.minBlocks ∧ ∃ plan, r.startsPlan 1 = some plan
      ∧ ∀ plan' ∈ r.tried, planScore plan' ≤ planScore plan)
    ∧ (r.Asks → r.tried = [] → r.fallback ≠ none → min r.dailyBlocks r.eligible.length ≤ r.minBlocks)

/-- Blocks that are no fewer than those of the minimum runtime last for it if they are just as many. -/
theorem interval_mul_eq_runtime_iff {k : ℕ} (hk : wholeBlocks load.minimumRuntime ≤ k) :
    interval * k = load.minimumRuntime ↔ WholeRuntime load ∧ k = wholeBlocks load.minimumRuntime := by
  constructor
  · intro hruntime
    have hfloor : ⌊load.minimumRuntime / interval⌋₊ = k := by
      rw [← hruntime, mul_div_cancel_left₀ _ interval_pos.ne', Nat.floor_natCast]
    have hwhole : k = wholeBlocks load.minimumRuntime := by
      unfold wholeBlocks at hk ⊢
      rw [hfloor] at hk ⊢
      omega
    exact ⟨by unfold WholeRuntime; rw [← hwhole]; exact hruntime, hwhole⟩
  · rintro ⟨hwhole, rfl⟩
    exact hwhole

theorem single_fair_iff {ctx : OptimizerContext} {strategy : LoadStrategy} {usable : List ScoredBlock}
    (husable : usable ⊆ scored) : (((bestWindow ctx load usable strategy).toList ≠ [] →
          interval * foundBlocks (bestWindow ctx load usable strategy).toList = load.minimumRuntime)
        ∧ ((bestWindow ctx load usable strategy).toList = [] → load.safetyCritical = true → WholeRuntime load))
      ↔ SingleFair ctx load usable strategy := by
  have hlong : ∀ w ∈ offeredWindows ctx load usable strategy, wholeBlocks load.minimumRuntime ≤ w.blocks.length :=
    fun w hw => (billed_bestWindowCandidates husable (offeredWindows_subset ctx load usable strategy hw)).1
  have hsatisfies := argmax_satisfies_iff (f := worth strategy) (l := offeredWindows ctx load usable strategy)
    fun w => w.blocks.length = wholeBlocks load.minimumRuntime
  unfold SingleFair
  dsimp only
  rw [bestWindow_eq, ← hsatisfies]
  cases hbest : (offeredWindows ctx load usable strategy).argmax (worth strategy) with
  | none =>
    have hnone := List.argmax_eq_none.mp hbest
    simp [hnone]
  | some w =>
    have hsome := List.ne_nil_of_mem (List.argmax_mem hbest)
    have hblocks : foundBlocks (some w).toList = w.blocks.length := by simp [foundBlocks]
    rw [hblocks, interval_mul_eq_runtime_iff (hlong w (List.argmax_mem hbest))]
    simp [hsome]

theorem cycles_fair_iff (r : CycleRequest) : ((r.planned ≠ [] → interval * foundBlocks r.planned = load.minimumRuntime)
        ∧ (r.planned = [] → load.safetyCritical = true → WholeRuntime load)) ↔ CyclesFair load r := by
  have hsome : r.planned ≠ [] ↔ (∃ plan, r.Choice plan) ∨ r.fallback ≠ [] := by
    constructor
    · intro hplanned
      by_contra hnone
      rw [not_or, not_ne_iff] at hnone
      refine hplanned ?_
      exact CycleRequest.planned_satisfies (p := (· = [])) (fun plan hchoice => absurd ⟨plan, hchoice⟩ hnone.1)
        fun _ => hnone.2
    · intro hany
      refine CycleRequest.planned_satisfies (p := (· ≠ [])) (fun plan hchoice => hchoice.ne_nil) fun hnone => ?_
      exact hany.resolve_left hnone
  have hblocks : r.planned ≠ [] → foundBlocks r.planned = r.cycles * r.blocks := by
    intro hplanned
    obtain ⟨hasks, hlength⟩ := CycleRequest.length_planned hplanned
    rw [foundBlocks_of_found CycleRequest.foundAt_planned]
    unfold CycleRequest.cycles
    congr 1
    omega
  unfold CyclesFair
  rw [← hsome, not_ne_iff]
  refine and_congr_left fun _ => forall_congr' fun hplanned => ?_
  rw [hblocks hplanned]

/-- A single start with the shortest windows has their blocks. -/
theorem blocksPerWindow_one (minBlocks : ℕ) : blocksPerWindow minBlocks minBlocks 1 = minBlocks := by
  have hround : HalfEvenRounding.roundHalfEven ((minBlocks : ℚ) / (1 : ℕ)) = minBlocks := by
    rw [Nat.cast_one, div_one]
    exact_mod_cast HalfEvenRounding.roundHalfEven_intCast (minBlocks : ℤ)
  unfold blocksPerWindow
  dsimp only
  rw [hround, Int.toNat_natCast, max_self, if_neg (by omega)]

theorem cleaning_fair_iff (r : CleaningRequest) (hcycle : r.minCycle = load.minimumRuntime) :
    ((r.planned ≠ [] → interval * foundBlocks r.planned = load.minimumRuntime)
        ∧ (r.planned = [] → load.safetyCritical = true → WholeRuntime load)) ↔ CleaningFair load r := by
  have hmin : r.minBlocks = wholeBlocks load.minimumRuntime := congrArg wholeBlocks hcycle
  unfold CleaningFair
  by_cases hasks : r.Asks
  · simp only [hasks, true_and, forall_const]
    rw [CleaningRequest.planned_eq hasks]
    cases hbest : r.tried.argmax planScore with
    | none =>
      have hnone : r.tried = [] := List.argmax_eq_none.mp hbest
      simp only [hnone, Option.getD_none, ne_eq, not_true_eq_false, false_or, false_imp_iff, true_and, forall_const]
      cases hfallback : r.fallback with
      | none => simp
      | some w =>
        have hblocks : foundBlocks (some w).toList = r.fallbackBlocks := by
          rw [← (CleaningRequest.fallback_spec hfallback).1]
          simp [foundBlocks]
        have hlong : wholeBlocks load.minimumRuntime ≤ r.fallbackBlocks := hmin ▸ le_max_left _ _
        have hfew : r.fallbackBlocks = wholeBlocks load.minimumRuntime
            ↔ min r.dailyBlocks r.eligible.length ≤ r.minBlocks := by
          rw [← hmin]
          exact max_eq_left_iff
        rw [hblocks, interval_mul_eq_runtime_iff hlong, hfew]
        simp
    | some plan =>
      have hmem := List.argmax_mem hbest
      have hsome : r.tried ≠ [] := List.ne_nil_of_mem hmem
      have hne := CleaningRequest.tried_ne_nil hmem
      obtain ⟨starts, hpos, -, hplan⟩ := CleaningRequest.tried_spec hmem
      have hblocks := (CleaningRequest.startsPlan_spec hpos hplan).1
      obtain ⟨hshort, hdaily⟩ := CleaningRequest.blocksPerWindow_spec (r := r) hpos
      have hminPos := CleaningRequest.minBlocks_pos (r := r)
      have hlong : wholeBlocks load.minimumRuntime ≤ foundBlocks plan := by
        rw [← hmin, hblocks]
        exact hshort.trans (Nat.le_mul_of_pos_left _ hpos)
      rw [Option.getD_some, interval_mul_eq_runtime_iff hlong]
      simp only [hsome, hne, ne_eq, not_false_eq_true, true_or, forall_const, false_imp_iff, and_true]
      refine and_congr_right fun _ => ⟨fun hequal => ?_, fun hone => ?_⟩
      · rw [hblocks, ← hmin] at hequal
        obtain rfl : starts = 1 := by
          by_contra hseveral
          have hdouble : 2 * r.minBlocks ≤ starts * blocksPerWindow r.minBlocks r.dailyBlocks starts :=
            Nat.mul_le_mul (by omega) hshort
          omega
        refine ⟨?_, plan, hplan, fun plan' hplan' => List.le_of_mem_argmax hplan' hbest⟩
        have hle : r.minBlocks ≤ r.dailyBlocks := le_max_left _ _
        omega
      · obtain ⟨hequal, plan', hplan', hle⟩ := hone
        have hsame := CleaningRequest.argmax_tried_of_one hasks hplan' hle
        obtain rfl : plan = plan' := Option.some_inj.mp (hbest.symm.trans hsame)
        rw [(CleaningRequest.startsPlan_spec Nat.one_pos hplan').1, hequal, blocksPerWindow_one, Nat.one_mul, hmin]
  · rw [CleaningRequest.planned_eq_nil hasks]
    simp [hasks]

/-! ### When a plan is fair -/

/-- The planner that the load is given to plans as much as the minimum runtime, if it has no number of cycles. -/
def DailyFair (ctx : OptimizerContext) (load : FlexibleLoad) (scored : List ScoredBlock) (strategy : LoadStrategy)
    (now : Instant) : Prop :=
  let urgency := computeDeadlineUrgency now load.deadline
  let single := SingleFair ctx load (filterEligibleBlocks scored load now) (effectiveStrategy strategy urgency)
  match load.dailyRuntimeTarget, load.maxStartsPerDay with
  | some dailyRuntime, some maxStarts =>
    if maxStarts ≠ 0 then
      CleaningFair load (cleaningRequest ctx load scored strategy urgency now dailyRuntime maxStarts)
    else single
  | _, _ => single

/-- The planner that the load is given to plans as much as the minimum runtime. -/
def PlannerFair (ctx : OptimizerContext) (load : FlexibleLoad) (scored : List ScoredBlock) (strategy : LoadStrategy)
    (now : Instant) : Prop :=
  match load.fixedCyclesPerDay, load.fixedCycleDuration with
  | some cyclesPerDay, some cycleDuration =>
    CyclesFair load (filterRequest ctx load scored strategy (computeDeadlineUrgency now load.deadline) now cyclesPerDay
      cycleDuration)
  | _, _ => DailyFair ctx load scored strategy now

/-- The plan follows a fixed schedule, which has no baseline. -/
def FollowsSchedule (load : FlexibleLoad) (strategy : LoadStrategy) : Prop :=
  strategy = .fixedSchedule ∧ load.fixedStart.isSome ∧ load.fixedEnd.isSome

/-- A plan without a baseline is not compared with one. -/
theorem fair_of_noBaseline {plan : LoadPlan} (hbaseline : plan.baselineCostSek = none)
    (hsavings : plan.savingsSek = none) : Fair load plan := by
  refine ⟨fun cost _ savings hmem => ?_, fun hsome => ?_⟩
  · rw [hsavings] at hmem
    cases hmem
  · rw [hbaseline] at hsome
    cases hsome

/-- Where there are blocks, a plan is fair if its power is nothing or its planner plans as much as the baseline. -/
theorem Compares.fair_iff_of {found : List PlanWindow} {plan : LoadPlan} {planner : Prop}
    (h : Compares load scored now found plan)
    (hfound : ∀ w ∈ found, Billed load.nominalPowerW scored w.blocks.length w)
    (hplanner : ((found ≠ [] → interval * foundBlocks found = load.minimumRuntime)
      ∧ (found = [] → load.safetyCritical = true → WholeRuntime load)) ↔ planner) :
    Fair load plan ↔ load.nominalPowerW = 0 ∨ scored = [] ∨ planner := by
  by_cases hscored : scored = []
  · have hbaseline : plan.baselineCostSek = none := by
      rw [h.baseline, baselineCost, if_pos hscored]
    refine iff_of_true (fair_of_noBaseline hbaseline ?_) (.inr (.inl hscored))
    rw [h.savings, hbaseline]
    rfl
  · rw [h.fair_iff hfound hscored, or_iff_right (b := planner) hscored, ← hplanner]
    exact Iff.rfl

theorem fair_planSingle_iff {ctx : OptimizerContext} {strategy : LoadStrategy} {urgency : DeadlineUrgency}
    {usable : List ScoredBlock} (husable : usable ⊆ scored) :
    Fair load (planSingle ctx load scored usable strategy urgency now)
      ↔ load.nominalPowerW = 0 ∨ scored = [] ∨ SingleFair ctx load usable (effectiveStrategy strategy urgency) := by
  refine (compares_planSingle usable).fair_iff_of (fun w hw => ?_) (single_fair_iff husable)
  have hbest := Option.mem_toList.mp hw
  rw [bestWindow_eq] at hbest
  exact (billed_bestWindowCandidates husable (offeredWindows_subset ctx load usable _ (List.argmax_mem hbest))).2

theorem fair_planFilterCycles_iff {ctx : OptimizerContext} {strategy : LoadStrategy} {urgency : DeadlineUrgency}
    (cyclesPerDay : ℤ) (cycleDuration : Duration) :
    Fair load (planFilterCycles ctx load scored strategy urgency now cyclesPerDay cycleDuration)
      ↔ load.nominalPowerW = 0 ∨ scored = []
        ∨ CyclesFair load (filterRequest ctx load scored strategy urgency now cyclesPerDay cycleDuration) := by
  have hcompares : Compares load scored now
      (filterRequest ctx load scored strategy urgency now cyclesPerDay cycleDuration).planned
      (planFilterCycles ctx load scored strategy urgency now cyclesPerDay cycleDuration) := by
    unfold planFilterCycles
    exact compares_planSeveral _ _
  refine hcompares.fair_iff_of (fun w hw => ?_) (cycles_fair_iff _)
  have hfound := CycleRequest.foundAt_planned w hw
  rw [hfound.length_blocks]
  exact billed_of_foundAt (eligibleBlocks_sublist scored _ _ now).subset hfound

/-- Merged windows cost the energy of their blocks as well. -/
theorem billed_mergeInto {order : SetOrder} {minPause : Duration} {maxMergedHours : ℚ} {current : PlanWindow}
    {rest : List PlanWindow} (hcurrent : Billed power scored current.blocks.length current ∧ current.blocks ⊆ scored)
    (hrest : ∀ w ∈ rest, Billed power scored w.blocks.length w ∧ w.blocks ⊆ scored) :
    ∀ w ∈ mergeInto order minPause maxMergedHours power current rest, Billed power scored w.blocks.length w := by
  induction rest generalizing current with
  | nil =>
    intro w hw
    rw [List.mem_singleton.mp hw]
    exact hcurrent.1
  | cons next rest ih =>
    have hnext := hrest next List.mem_cons_self
    have hlater : ∀ w ∈ rest, Billed power scored w.blocks.length w ∧ w.blocks ⊆ scored :=
      fun w hw => hrest w (List.mem_cons_of_mem _ hw)
    rw [mergeInto]
    split_ifs
    · split
      · exact ih hcurrent hlater
      · rename_i first both hboth
        have hpart : first :: both ⊆ scored := by
          rw [← hboth]
          exact List.append_subset.mpr ⟨hcurrent.2, hnext.2⟩
        exact @ih (windowFromBlocks order power first both) ⟨billed_windowFromBlocks hpart, hpart⟩ hlater
    · intro w hw
      rcases List.mem_cons.mp hw with rfl | hmem
      · exact hcurrent.1
      · exact ih hnext hlater w hmem

theorem billed_cleaning {r : CleaningRequest} :
    ∀ w ∈ r.planned, Billed r.nominalPowerW r.scored w.blocks.length w := by
  have hsubset : r.eligible ⊆ r.scored := (eligibleBlocks_sublist r.scored _ _ r.now).subset
  have hfound : ∀ {blocks : ℕ} {w : PlanWindow}, FoundAt r.order r.eligible blocks r.strategy r.nominalPowerW w →
      Billed r.nominalPowerW r.scored w.blocks.length w ∧ w.blocks ⊆ r.scored := by
    intro blocks w hw
    refine ⟨?_, List.Subset.trans hw.windowOf.sublist.subset hsubset⟩
    rw [hw.length_blocks]
    exact billed_of_foundAt hsubset hw
  intro w hw
  by_cases hasks : r.Asks
  · rw [CleaningRequest.planned_eq hasks] at hw
    cases hbest : r.tried.argmax planScore with
    | none =>
      rw [hbest, Option.getD_none] at hw
      exact (hfound (CleaningRequest.fallback_spec (Option.mem_toList.mp hw)).2).1
    | some plan =>
      rw [hbest, Option.getD_some] at hw
      obtain ⟨starts, -, -, hplan⟩ := CleaningRequest.tried_spec (List.argmax_mem hbest)
      unfold CleaningRequest.startsPlan at hplan
      dsimp only at hplan
      split_ifs at hplan
      obtain ⟨windows, hwindows, rfl⟩ := Option.map_eq_some_iff.mp hplan
      have hall := (consecutiveWindows_found hwindows).2
      cases windows with
      | nil => exact absurd hw List.not_mem_nil
      | cons current rest =>
        exact billed_mergeInto (hfound (hall current List.mem_cons_self))
          (fun w' hw' => hfound (hall w' (List.mem_cons_of_mem _ hw'))) w hw
  · rw [CleaningRequest.planned_eq_nil hasks] at hw
    exact absurd hw List.not_mem_nil

theorem fair_planDailyCleaning_iff {ctx : OptimizerContext} {strategy : LoadStrategy} {urgency : DeadlineUrgency}
    (dailyRuntime : Duration) (maxStarts : ℤ) :
    Fair load (planDailyCleaning ctx load scored strategy urgency now dailyRuntime maxStarts)
      ↔ load.nominalPowerW = 0 ∨ scored = []
        ∨ CleaningFair load (cleaningRequest ctx load scored strategy urgency now dailyRuntime maxStarts) := by
  have hcompares : Compares load scored now
      (cleaningRequest ctx load scored strategy urgency now dailyRuntime maxStarts).planned
      (planDailyCleaning ctx load scored strategy urgency now dailyRuntime maxStarts) := by
    unfold planDailyCleaning
    exact compares_planSeveral _ _
  exact hcompares.fair_iff_of (fun w hw => billed_cleaning w hw) (cleaning_fair_iff _ rfl)

/-- The plan of a load that has no number of cycles. -/
def dailyPlan (ctx : OptimizerContext) (load : FlexibleLoad) (scored : List ScoredBlock) (strategy : LoadStrategy)
    (now : Instant) : LoadPlan :=
  let urgency := computeDeadlineUrgency now load.deadline
  let single := planSingle ctx load scored (filterEligibleBlocks scored load now) strategy urgency now
  match load.dailyRuntimeTarget, load.maxStartsPerDay with
  | some dailyRuntime, some maxStarts =>
    if maxStarts ≠ 0 then planDailyCleaning ctx load scored strategy urgency now dailyRuntime maxStarts
    else single
  | _, _ => single

/-- The plan of a load by the planner that it is given to. -/
def plannerPlan (ctx : OptimizerContext) (load : FlexibleLoad) (scored : List ScoredBlock) (strategy : LoadStrategy)
    (now : Instant) : LoadPlan :=
  match load.fixedCyclesPerDay, load.fixedCycleDuration with
  | some cyclesPerDay, some cycleDuration =>
    planFilterCycles ctx load scored strategy (computeDeadlineUrgency now load.deadline) now cyclesPerDay cycleDuration
  | _, _ => dailyPlan ctx load scored strategy now

theorem plan_eq_plannerPlan {ctx : OptimizerContext} {horizon : List HorizonBlock} {strategy : LoadStrategy}
    (hfree : ¬ FollowsSchedule load strategy) :
    plan ctx load horizon strategy now = plannerPlan ctx load (scoredFor ctx load horizon now) strategy now := by
  unfold plan
  split
  · rename_i fixedStart fixedEnd hstart hend
    unfold FollowsSchedule at hfree
    rw [hstart, hend] at hfree
    exact absurd ⟨rfl, rfl, rfl⟩ hfree
  · rfl

theorem fair_dailyPlan_iff (ctx : OptimizerContext) (load : FlexibleLoad) (scored : List ScoredBlock)
    (strategy : LoadStrategy) (now : Instant) : Fair load (dailyPlan ctx load scored strategy now) ↔
      load.nominalPowerW = 0 ∨ scored = [] ∨ DailyFair ctx load scored strategy now := by
  have husable : filterEligibleBlocks scored load now ⊆ scored := (filterEligibleBlocks_sublist _ load now).subset
  unfold dailyPlan DailyFair
  cases load.dailyRuntimeTarget with
  | none => exact fair_planSingle_iff husable
  | some dailyRuntime =>
    cases load.maxStartsPerDay with
    | none => exact fair_planSingle_iff husable
    | some maxStarts =>
      dsimp only
      split_ifs
      · exact fair_planDailyCleaning_iff dailyRuntime maxStarts
      · exact fair_planSingle_iff husable

theorem fair_plannerPlan_iff (ctx : OptimizerContext) (load : FlexibleLoad) (scored : List ScoredBlock)
    (strategy : LoadStrategy) (now : Instant) : Fair load (plannerPlan ctx load scored strategy now) ↔
      load.nominalPowerW = 0 ∨ scored = [] ∨ PlannerFair ctx load scored strategy now := by
  have hdaily := fair_dailyPlan_iff ctx load scored strategy now
  unfold plannerPlan PlannerFair
  cases load.fixedCyclesPerDay with
  | none => exact hdaily
  | some cyclesPerDay =>
    cases load.fixedCycleDuration with
    | none => exact hdaily
    | some cycleDuration => exact fair_planFilterCycles_iff cyclesPerDay cycleDuration

namespace FlatDemo

/-- An hour without sun at one price. -/
def horizon : List HorizonBlock :=
  [0, 900, 1800, 2700].map fun timestamp =>
    { NightDemo.block 0 timestamp with spotPriceEurKwh := some 1, allInPriceEurKwh := some 1, exportValueSekKwh := 1 }

/-- Half an hour of cleaning in starts of a quarter of an hour. -/
def spa : FlexibleLoad := { NightDemo.cleaningLoad with dailyRuntimeTarget := some 1800 }

end FlatDemo

end EnergyCore.FlexibleLoads
