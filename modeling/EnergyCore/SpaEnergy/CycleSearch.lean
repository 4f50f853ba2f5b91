import EnergyCore.Foundations.ExhaustiveSearch
import EnergyCore.SpaEnergy.FilterCycles
import Mathlib.Data.List.Chain

/-!
# The search for filter cycles

The backtracking search, with all it leaves out, finds the first of the best of all plans.

* `mem_cyclePlans_iff` — the plans are the choices of so many candidates that keep their distance;
* `enumerateFixedCyclePlans_eq` — the search ends with the first of them whose score is the highest;
* `enumerateFixedCyclePlans_length_iff` — it finds a plan exactly if there is one.
-/

namespace EnergyCore.SpaEnergy

open FlexibleLoads ExhaustiveSearch

/-- Windows that keep their distance. -/
def Spaced (minSeparation : Duration) (windows : List PlanWindow) : Prop :=
  windows.IsChain fun w w' => w.stop + minSeparation ≤ w'.start

/-- A plan of so many candidates. -/
def IsPlan (candidates : List PlanWindow) (cycles : ℕ) (minSeparation : Duration) (plan : List PlanWindow) : Prop :=
  plan.Sublist candidates ∧ plan.length = cycles ∧ Spaced minSeparation plan

/-- The scores of all windows of a plan. -/
def totalScore (plan : List PlanWindow) : ℚ := (plan.map PlanWindow.averageScore).sum

/-- All plans of so many candidates, in the order of the search. -/
def cyclePlans (candidates : List PlanWindow) (cycles : ℕ) (minSeparation : Duration) : List (List PlanWindow) :=
  choices (compatible minSeparation) candidates cycles []

section

variable {n : ℕ} {sep : Duration} {candidates chosen rest plan : List PlanWindow} {candidate : PlanWindow}
  {best : BestPlan}

theorem compatible_eq_true_iff :
    compatible sep chosen candidate = true ↔ ∀ last ∈ chosen.getLast?, last.stop + sep ≤ candidate.start := by
  unfold compatible
  cases chosen.getLast? with
  | none => simp
  | some last => simp

/-- A window is compatible if the windows go on to keep their distance. -/
theorem spaced_concat_iff :
    Spaced sep (chosen ++ [candidate]) ↔ Spaced sep chosen ∧ compatible sep chosen candidate = true := by
  unfold Spaced
  rw [List.isChain_append, compatible_eq_true_iff]
  simp

/-- **The plans** are the choices that keep their distance. -/
theorem mem_cyclePlans_iff : plan ∈ cyclePlans candidates n sep ↔ IsPlan candidates n sep plan := by
  unfold cyclePlans IsPlan
  have hspaced : ∀ l item, Spaced sep (l ++ [item]) ↔ Spaced sep l ∧ compatible sep l item = true :=
    fun l item => spaced_concat_iff
  rw [mem_choices_iff hspaced List.IsChain.nil]
  constructor
  · rintro ⟨more, rfl, hsub, hlength, hspaced⟩
    exact ⟨hsub, hlength, hspaced⟩
  · rintro ⟨hsub, hlength, hspaced⟩
    exact ⟨plan, rfl, hsub, hlength, hspaced⟩

/-! ### The search goes through all plans -/

/-- What is left out because too few candidates are left would have been no plan. -/
theorem visit_eq_foldl (hsearch : chosen.length < n → searchCycles n sep rest chosen best
      = (choices (compatible sep) rest (n - chosen.length) chosen).foldl (fun best plan => keepBetter plan best) best)
    (hlength : chosen.length ≤ n) : visit n chosen rest.length (searchCycles n sep rest chosen) best
      = (choices (compatible sep) rest (n - chosen.length) chosen).foldl (fun best plan => keepBetter plan best)
          best := by
  unfold visit
  split_ifs with hdone hfew
  · rw [hdone, Nat.sub_self, choices_zero]
    rfl
  · rw [choices_eq_nil (by omega)]
    rfl
  · exact hsearch (by omega)

/-- **The search** keeps what is better while it goes through all the ways to go on. -/
theorem searchCycles_eq_foldl (hlength : chosen.length < n) : searchCycles n sep rest chosen best
      = (choices (compatible sep) rest (n - chosen.length) chosen).foldl (fun best plan => keepBetter plan best)
          best := by
  induction rest generalizing chosen best with
  | nil =>
    rw [choices_eq_nil (by rw [List.length_nil]; omega)]
    rfl
  | cons candidate rest ih =>
    obtain ⟨k, hk⟩ : ∃ k, n - chosen.length = k + 1 := ⟨n - chosen.length - 1, by omega⟩
    have hnext : n - (chosen ++ [candidate]).length = k := by
      rw [List.length_append, List.length_singleton]
      omega
    rw [searchCycles, ih hlength, hk, choices, List.foldl_append]
    congr 1
    split_ifs with hcompatible
    · rw [visit_eq_foldl (fun h => ih h) (by rw [List.length_append, List.length_singleton]; omega), hnext]
    · rfl

/-- **The search finds the first of the best plans.** -/
theorem enumerateFixedCyclePlans_eq (candidates : List PlanWindow) (n : ℕ) (sep : Duration) :
    enumerateFixedCyclePlans candidates n sep = ((cyclePlans candidates n sep).argmax totalScore).getD [] := by
  have hkeep := foldl_keep_eq_argmax (f := totalScore) [] (cyclePlans candidates n sep)
  unfold enumerateFixedCyclePlans
  rw [visit_eq_foldl searchCycles_eq_foldl (Nat.zero_le n), List.length_nil, Nat.sub_zero]
  refine (congrArg Prod.fst hkeep).trans ?_
  cases (cyclePlans candidates n sep).argmax totalScore with
  | none => rfl
  | some plan => rfl

/-- What is found is a plan. -/
theorem isPlan_enumerateFixedCyclePlans (hfound : enumerateFixedCyclePlans candidates n sep ≠ []) :
    IsPlan candidates n sep (enumerateFixedCyclePlans candidates n sep) := by
  rw [enumerateFixedCyclePlans_eq] at hfound ⊢
  cases hbest : (cyclePlans candidates n sep).argmax totalScore with
  | none =>
    rw [hbest] at hfound
    exact absurd rfl hfound
  | some plan => exact mem_cyclePlans_iff.mp (List.argmax_mem hbest)

/-- **The search finds a plan exactly if there is one.** -/
theorem enumerateFixedCyclePlans_length_iff (hn : 0 < n) :
    (enumerateFixedCyclePlans candidates n sep).length = n ↔ ∃ plan, IsPlan candidates n sep plan := by
  constructor
  · intro hlength
    have hfound : enumerateFixedCyclePlans candidates n sep ≠ [] := by
      rw [← List.length_pos_iff, hlength]
      exact hn
    exact ⟨_, isPlan_enumerateFixedCyclePlans hfound⟩
  · rintro ⟨plan, hplan⟩
    have hne := List.ne_nil_of_mem (mem_cyclePlans_iff.mpr hplan)
    obtain ⟨found, hbest⟩ := Option.ne_none_iff_exists'.mp (mt (List.argmax_eq_none (f := totalScore)).mp hne)
    rw [enumerateFixedCyclePlans_eq, hbest]
    exact (mem_cyclePlans_iff.mp (List.argmax_mem hbest)).2.1

end

end EnergyCore.SpaEnergy
