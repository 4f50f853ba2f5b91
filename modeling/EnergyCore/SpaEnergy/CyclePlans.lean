import EnergyCore.FlexibleLoads.PlannedWindows

/-!
# The plan of the filter cycles

Which of all plans the planner of the filter cycles returns, when its windows are whole, and when it is the best.

* `planned_eq` — the first of the best of all plans, and the windows of the fallback only where there is none;
* `shape_planned_iff` — when all windows last as long as a cycle should and end in time;
* `best_planned_iff` — when the plan is the best for the strategy.
-/

namespace EnergyCore.SpaEnergy

open FlexibleLoads ExhaustiveSearch

/-- What a plan costs. -/
def totalCost (plan : List PlanWindow) : ℚ := (plan.map PlanWindow.expectedCostSek).sum

/-- What the planner of the filter cycles is called with. -/
structure CycleRequest where
  order : SetOrder
  scored : List ScoredBlock
  cyclesPerDay : ℤ
  durationMinutes : ℤ
  minSeparation : Duration
  earliest : Instant
  latest : Instant
  now : Instant
  strategy : LoadStrategy
  nominalPowerW : ℚ

namespace CycleRequest

def eligible (r : CycleRequest) : List ScoredBlock := eligibleBlocks r.scored r.earliest r.latest r.now

def blocks (r : CycleRequest) : ℕ := blocksPerCycle r.durationMinutes

def cycles (r : CycleRequest) : ℕ := r.cyclesPerDay.toNat

/-- There is something to plan. -/
def Asks (r : CycleRequest) : Prop := r.scored ≠ [] ∧ 0 < r.cyclesPerDay ∧ 0 < r.durationMinutes

/-- The windows that the search chooses from, in the order of their starts. -/
def candidates (r : CycleRequest) : List PlanWindow :=
  (candidateWindows r.order r.eligible r.blocks r.strategy r.nominalPowerW).mergeSort
    fun w w' => decide (w.start ≤ w'.start)

/-- The windows at every so-manieth block. -/
def spaced (r : CycleRequest) : List PlanWindow :=
  spacedWindows r.order r.eligible r.cycles r.blocks r.minSeparation r.strategy r.nominalPowerW

def planned (r : CycleRequest) : List PlanWindow :=
  planFixedFilterCycles r.order r.scored r.cyclesPerDay r.durationMinutes r.minSeparation r.earliest r.latest r.now
    r.strategy r.nominalPowerW

/-- A choice of as many candidates as there are cycles, which keep their distance. -/
def Choice (r : CycleRequest) (plan : List PlanWindow) : Prop :=
  r.Asks ∧ IsPlan r.candidates r.cycles r.minSeparation plan

/-- One choice has a higher score than the other, or the same score, and the search comes to it first. -/
def Beats (r : CycleRequest) (plan plan' : List PlanWindow) : Prop :=
  ExhaustiveSearch.Beats totalScore (cyclePlans r.candidates r.cycles r.minSeparation) plan plan'

end CycleRequest

namespace CycleRequest

variable {r : CycleRequest} {plan plan' : List PlanWindow} {w : PlanWindow}

/-! ### What the planner returns -/

instance (r : CycleRequest) : Decidable r.Asks := inferInstanceAs (Decidable (_ ∧ _ ∧ _))

/-- The windows of the fallback, if they are as many as there are cycles. -/
def fallback (r : CycleRequest) : List PlanWindow := if r.Asks ∧ r.spaced.length = r.cycles then r.spaced else []

theorem foundAt_of_mem_candidates (hw : w ∈ r.candidates) :
    FoundAt r.order r.eligible r.blocks r.strategy r.nominalPowerW w :=
  foundAt_candidateWindows w (List.mem_mergeSort.mp hw)

theorem exists_candidate (hfound : FoundAt r.order r.eligible r.blocks r.strategy r.nominalPowerW w) :
    ∃ c ∈ r.candidates, c.start = w.start ∧ c.stop = w.stop := by
  obtain ⟨c, hc, hsame⟩ := exists_candidateWindow hfound
  exact ⟨c, List.mem_mergeSort.mpr hc, hsame⟩

theorem cycles_pos (h : r.Asks) : 0 < r.cycles := by
  have hcycles := h.2.1
  unfold cycles
  omega

/-- Without candidates there is nothing to fall back on. -/
theorem spaced_eq_nil (h : r.candidates = []) : r.spaced = [] := by
  refine List.eq_nil_iff_forall_not_mem.mpr fun w hw => ?_
  obtain ⟨c, hc, -⟩ := exists_candidate (spacedWindows_found.1 w hw)
  rw [h] at hc
  exact absurd hc List.not_mem_nil

/-- **What is planned** is the first of the best of all choices, or the fallback where there is no choice. -/
theorem planned_eq (h : r.Asks) :
    r.planned = ((cyclePlans r.candidates r.cycles r.minSeparation).argmax totalScore).getD r.fallback := by
  have hcycles := cycles_pos h
  have hasks : ¬ (r.scored = [] ∨ r.cyclesPerDay ≤ 0 ∨ r.durationMinutes ≤ 0) := by
    obtain ⟨hscored, hsome, hlong⟩ := h
    rintro (hnone | hnone | hnone)
    · exact hscored hnone
    · omega
    · omega
  have hplanned : r.planned = if r.candidates.isEmpty then [] else
      if enumerateFixedCyclePlans r.candidates r.cycles r.minSeparation ≠ [] then
        enumerateFixedCyclePlans r.candidates r.cycles r.minSeparation
      else if r.eligible.length ≥ r.blocks then (if r.spaced.length = r.cycles then r.spaced else []) else [] := by
    unfold planned planFixedFilterCycles
    rw [if_neg hasks]
    rfl
  have hfound := enumerateFixedCyclePlans_eq r.candidates r.cycles r.minSeparation
  rw [hplanned]
  cases hbest : (cyclePlans r.candidates r.cycles r.minSeparation).argmax totalScore with
  | some plan =>
    obtain ⟨hsub, hlength, -⟩ := mem_cyclePlans_iff.mp (List.argmax_mem hbest)
    have hne : plan ≠ [] := by
      rw [← List.length_pos_iff, hlength]
      exact hcycles
    have hsome : r.candidates ≠ [] := by
      intro hnone
      rw [hnone] at hsub
      exact hne (List.sublist_nil.mp hsub)
    rw [hbest, Option.getD_some] at hfound
    rw [hfound, if_neg (mt List.isEmpty_iff.mp hsome), if_pos hne, Option.getD_some]
  | none =>
    rw [hbest, Option.getD_none] at hfound
    rw [hfound, if_neg (not_not.mpr rfl), Option.getD_none, fallback]
    by_cases hsome : r.candidates = []
    · have hspaced := spaced_eq_nil hsome
      have hfew : ¬ (r.Asks ∧ r.spaced.length = r.cycles) := by
        rintro ⟨-, hlength⟩
        rw [hspaced, List.length_nil] at hlength
        omega
      rw [if_pos (List.isEmpty_iff.mpr hsome), if_neg hfew]
    · obtain ⟨w, hw⟩ := List.exists_mem_of_ne_nil _ hsome
      obtain ⟨i, hi⟩ := foundAt_of_mem_candidates hw
      have hfits := (findBestWindowAtIndex_spec hi).1
      rw [if_neg (mt List.isEmpty_iff.mp hsome), if_pos (by omega)]
      simp only [h, true_and]

theorem planned_eq_nil (h : ¬ r.Asks) : r.planned = [] := by
  have hnone : r.scored = [] ∨ r.cyclesPerDay ≤ 0 ∨ r.durationMinutes ≤ 0 := by
    by_contra hsome
    rw [not_or, not_or, not_le, not_le] at hsome
    exact h hsome
  unfold planned planFixedFilterCycles
  rw [if_pos hnone]

theorem choice_iff (h : r.Asks) : r.Choice plan ↔ plan ∈ cyclePlans r.candidates r.cycles r.minSeparation := by
  rw [mem_cyclePlans_iff]
  exact and_iff_right h

/-- **The plan has a property** if there is a choice that has it and beats all those without it; where there is no
choice, if the fallback has it. -/
theorem planned_satisfies_iff (p : List PlanWindow → Prop) : p r.planned ↔ ((∃ plan, r.Choice plan) →
          ∃ plan, r.Choice plan ∧ p plan ∧ ∀ plan', r.Choice plan' → ¬ p plan' → r.Beats plan plan')
        ∧ ((¬ ∃ plan, r.Choice plan) → p r.fallback) := by
  by_cases hasks : r.Asks
  · have hexists : (∃ plan, r.Choice plan) ↔ cyclePlans r.candidates r.cycles r.minSeparation ≠ [] := by
      constructor
      · rintro ⟨plan, hchoice⟩
        exact List.ne_nil_of_mem ((choice_iff hasks).mp hchoice)
      · intro hne
        obtain ⟨plan, hmem⟩ := List.exists_mem_of_ne_nil _ hne
        exact ⟨plan, (choice_iff hasks).mpr hmem⟩
    have hsatisfies := argmax_getD_satisfies_iff (f := totalScore)
      (l := cyclePlans r.candidates r.cycles r.minSeparation) p r.fallback
    rw [← planned_eq hasks, ← hexists, ← not_ne_iff, ← hexists] at hsatisfies
    simp only [← choice_iff hasks] at hsatisfies
    exact hsatisfies
  · have hnone : ¬ ∃ plan, r.Choice plan := fun ⟨plan, hchoice⟩ => hasks hchoice.1
    have hfallback : r.fallback = [] := if_neg fun h => hasks h.1
    rw [planned_eq_nil hasks, hfallback]
    exact ⟨fun hp => ⟨fun hsome => absurd hsome hnone, fun _ => hp⟩, fun h => h.2 hnone⟩

/-- A property of all choices, and of the fallback where there is none. -/
theorem planned_satisfies {p : List PlanWindow → Prop} (hchoice : ∀ plan, r.Choice plan → p plan)
    (hfallback : (¬ ∃ plan, r.Choice plan) → p r.fallback) : p r.planned :=
  (planned_satisfies_iff p).mpr
    ⟨fun ⟨plan, h⟩ => ⟨plan, h, hchoice plan h, fun plan' h' hnot => absurd (hchoice plan' h') hnot⟩, hfallback⟩

/-! ### The fallback has nothing to add -/

theorem sorted_candidates (r : CycleRequest) : r.candidates.Pairwise fun w w' => w.start ≤ w'.start := by
  have hsorted : r.candidates.Pairwise fun w w' => decide (w.start ≤ w'.start) = true :=
    List.pairwise_mergeSort
      (fun w w' w'' h h' => decide_eq_true ((of_decide_eq_true h).trans (of_decide_eq_true h')))
      (fun w w' => by simpa using le_total w.start w'.start) _
  exact hsorted.imp fun h => of_decide_eq_true h

/-- Candidates that are found in the order of their starts stay in it. -/
theorem candidates_eq (hsorted : (candidateWindows r.order r.eligible r.blocks r.strategy r.nominalPowerW).Pairwise
    fun w w' => decide (w.start ≤ w'.start) = true) :
    r.candidates = candidateWindows r.order r.eligible r.blocks r.strategy r.nominalPowerW :=
  List.mergeSort_of_pairwise hsorted

/-! ### Whole windows -/

/-- A window as long as a cycle, between the earliest start and the latest end. -/
structure Whole (r : CycleRequest) (w : PlanWindow) : Prop where
  duration : w.stop - w.start = interval * r.blocks
  start : r.earliest ≤ w.start
  stop : w.stop ≤ r.latest

/-- As many whole windows as there are cycles, one after the other, which keep their distance. -/
structure Shape (r : CycleRequest) (windows : List PlanWindow) : Prop where
  length : (windows.length : ℤ) = r.cyclesPerDay
  whole : ∀ w ∈ windows, r.Whole w
  increasing : windows.Pairwise fun w w' => w.start ≤ w'.start
  spaced : Spaced r.minSeparation windows

/-- What is planned is a choice, or the windows of the fallback. -/
theorem planned_cases (h : r.planned ≠ []) :
    r.Choice r.planned ∨ (r.Asks ∧ r.planned = r.spaced ∧ r.spaced.length = r.cycles) := by
  refine planned_satisfies (p := fun windows => windows ≠ [] →
    r.Choice windows ∨ (r.Asks ∧ windows = r.spaced ∧ r.spaced.length = r.cycles))
    (fun plan hchoice _ => .inl hchoice) (fun _ hfallback => ?_) h
  unfold fallback at hfallback ⊢
  split_ifs at hfallback ⊢ with hspaced
  · exact .inr ⟨hspaced.1, rfl, hspaced.2⟩
  · exact absurd rfl hfallback

theorem length_planned (h : r.planned ≠ []) : r.Asks ∧ (r.planned.length : ℤ) = r.cyclesPerDay := by
  have hlength : r.Asks ∧ r.planned.length = r.cycles := by
    rcases planned_cases h with hchoice | ⟨hasks, hspaced, hlength⟩
    · exact ⟨hchoice.1, hchoice.2.2.1⟩
    · exact ⟨hasks, hspaced ▸ hlength⟩
  refine ⟨hlength.1, ?_⟩
  rw [hlength.2, cycles, Int.toNat_of_nonneg hlength.1.2.1.le]

theorem spaced_planned : Spaced r.minSeparation r.planned := by
  by_cases h : r.planned = []
  · rw [h]
    exact List.IsChain.nil
  · rcases planned_cases h with hchoice | ⟨-, hspaced, -⟩
    · exact hchoice.2.2.2
    · rw [hspaced]
      exact spacedWindows_found.2

/-- Every window that is planned was found. -/
theorem foundAt_planned : ∀ w ∈ r.planned, FoundAt r.order r.eligible r.blocks r.strategy r.nominalPowerW w := by
  intro w hw
  rcases planned_cases (List.ne_nil_of_mem hw) with hchoice | ⟨-, hspaced, -⟩
  · exact foundAt_of_mem_candidates (hchoice.2.1.subset hw)
  · rw [hspaced] at hw
    exact spacedWindows_found.1 w hw

theorem Choice.increasing (h : r.Choice plan) : plan.Pairwise fun w w' => w.start ≤ w'.start :=
  r.sorted_candidates.sublist h.2.1

end CycleRequest

namespace CycleDemo

/-- A block of a score, at a marginal cost, that the load can run in or not. -/
def block (timestamp : Instant) (score marginalCostSekKwh : ℚ) (loadFeasible : Bool) : ScoredBlock :=
  { block :=
      { timestamp := timestamp, solarForecastW := 0, houseLoadForecastW := 0, higherPriorityLoadsW := 0
        availableSurplusW := 0, batterySocPct := none, spotPriceEurKwh := none, allInPriceEurKwh := none
        exportValueSekKwh := 0 }
    score := score, solarSurplusScore := 0, lowPriceScore := 0, batteryAvailabilityScore := 0, deadlineScore := 0
    gridImportPenalty := 0, batteryDepletionPenalty := 0, exportOpportunityPenalty := 0
    expectedEnergySource := .grid, marginalCostSekKwh := marginalCostSekKwh, loadFeasible := loadFeasible }

/-- One cycle of half an hour, where the best quarters of an hour stand on both sides of one that costs too much. -/
def request : CycleRequest :=
  { order := { iterate := id, mem_iterate := SetOrder.mem_id }
    scored := [block 0 0 1 true, block 900 2 1 true, block 1800 0 9 false, block 2700 2 1 true]
    cyclesPerDay := 1, durationMinutes := 30, minSeparation := 3600, earliest := 0, latest := 86400, now := 0
    strategy := .smart, nominalPowerW := 2000 }

end CycleDemo

namespace CycleRequest

variable {r : CycleRequest} {plan : List PlanWindow}

/-! ### The best plan -/

/-- None of the choices is better for the strategy. -/
def Optimal (r : CycleRequest) (plan : List PlanWindow) : Prop :=
  ∀ plan', r.Choice plan' →
    if r.strategy = .cheapest then totalCost plan ≤ totalCost plan' else totalScore plan' ≤ totalScore plan

/-- What is planned is the best choice, and nothing only if there is no choice. -/
structure BestPlanned (r : CycleRequest) : Prop where
  none_iff : r.planned = [] ↔ ¬ ∃ plan, r.Choice plan
  choice : r.planned ≠ [] → r.Choice r.planned
  optimal : r.Optimal r.planned

theorem Choice.ne_nil (h : r.Choice plan) : plan ≠ [] := by
  rw [← List.length_pos_iff, h.2.2.1]
  exact cycles_pos h.1

/-- With a strategy other than the cheapest, the first of the best choices is optimal. -/
theorem optimal_planned (hstrategy : r.strategy ≠ .cheapest) : r.Optimal r.planned := by
  intro plan hchoice
  rw [if_neg hstrategy, planned_eq hchoice.1]
  have hmem := (choice_iff hchoice.1).mp hchoice
  obtain ⟨best, hbest⟩ := Option.ne_none_iff_exists'.mp
    (mt (List.argmax_eq_none (f := totalScore)).mp (List.ne_nil_of_mem hmem))
  rw [hbest, Option.getD_some]
  exact List.le_of_mem_argmax hmem hbest

end CycleRequest

namespace CycleDemo

/-- A quarter of an hour, where the cheaper of two has the lower score. -/
def cheapRequest : CycleRequest :=
  { request with
    scored := [block 0 2 3 true, block 900 1 1 true], durationMinutes := 15, strategy := .cheapest }

end CycleDemo

end EnergyCore.SpaEnergy
