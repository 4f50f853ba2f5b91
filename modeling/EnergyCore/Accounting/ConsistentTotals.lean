import EnergyCore.Accounting.CostFollowsEnergy
import Mathlib.Algebra.Order.BigOperators.Group.List

/-!
# Consistent session totals

The parts of a session should add up to its total energy, none negative, with shares of a hundred percent.

* `consistent_iff` — the totals are consistent exactly if the parts are not negative and either add up to
  something or stand beside an empty meter;
* `sessionTotals_consistent_iff` — when reconciliation leaves such parts.
-/

namespace EnergyCore.Accounting

open HalfEvenRounding

namespace EnergyAttribution

/-- No part is negative. -/
def Nonneg (a : EnergyAttribution) : Prop :=
  0 ≤ a.solarDirectKwh ∧ 0 ≤ a.solarBatteryKwh ∧ 0 ≤ a.gridBatteryKwh ∧ 0 ≤ a.gridDirectKwh

instance (a : EnergyAttribution) : Decidable a.Nonneg := by
  unfold Nonneg; infer_instance

def parts (a : EnergyAttribution) : List ℚ :=
  [a.solarDirectKwh, a.solarBatteryKwh, a.gridBatteryKwh, a.gridDirectKwh]

theorem totalKwh_eq (a : EnergyAttribution) : a.totalKwh = a.renewableKwh + a.gridKwh := by
  unfold totalKwh renewableKwh gridKwh
  ring

end EnergyAttribution

/-- The total is the sum of the parts, none is negative, and the shares add up to a hundred percent of a
positive total. -/
def Consistent (t : SessionTotals) : Prop :=
  t.totalEnergyKwh = t.attribution.totalKwh ∧ t.attribution.Nonneg ∧
    (0 < t.totalEnergyKwh → t.renewableSharePct + t.gridSharePct = 100)

instance (t : SessionTotals) : Decidable (Consistent t) := by
  unfold Consistent; infer_instance

/-- The total that the intervals or the meter give. -/
def measuredOrAttributed (intervals : List ChargingInterval) (measuredKwh : Option ℚ) : ℚ :=
  measuredKwh.getD (intervalsKwh intervals)

/-- **Consistent totals.** Parts that add up to nothing leave the total to the meter. -/
theorem consistent_iff (intervals : List ChargingInterval) (measuredKwh : Option ℚ) (meterQuality : String)
    {a : EnergyAttribution} (ha : (reconcile (sumAttribution intervals)
      (some (measuredOrAttributed intervals measuredKwh)) (intervalsKwh intervals)).attribution = a) :
    Consistent (sessionTotalsFromIntervals intervals measuredKwh meterQuality) ↔
      a.Nonneg ∧ (a.totalKwh = 0 → measuredOrAttributed intervals measuredKwh = 0) := by
  have hattribution : (sessionTotalsFromIntervals intervals measuredKwh meterQuality).attribution = a := ha
  have htotal : (sessionTotalsFromIntervals intervals measuredKwh meterQuality).totalEnergyKwh
      = if a.totalKwh ≠ 0 then a.totalKwh else measuredOrAttributed intervals measuredKwh := by
    rw [← ha]
    rfl
  have hshares : (sessionTotalsFromIntervals intervals measuredKwh meterQuality).renewableSharePct
        + (sessionTotalsFromIntervals intervals measuredKwh meterQuality).gridSharePct
      = sharePct a.renewableKwh (sessionTotalsFromIntervals intervals measuredKwh meterQuality).totalEnergyKwh
        + sharePct a.gridKwh (sessionTotalsFromIntervals intervals measuredKwh meterQuality).totalEnergyKwh := by
    rw [← ha]
    rfl
  rw [Consistent, hattribution, hshares, htotal]
  by_cases hzero : a.totalKwh = 0
  · rw [if_neg (not_not.mpr hzero), hzero]
    constructor
    · rintro ⟨hsame, hparts, -⟩
      exact ⟨hparts, fun _ => hsame⟩
    · rintro ⟨hparts, hsame⟩
      refine ⟨hsame rfl, hparts, fun hpos => ?_⟩
      rw [hsame rfl] at hpos
      exact absurd hpos (lt_irrefl 0)
  · rw [if_pos hzero]
    constructor
    · rintro ⟨-, hparts, -⟩
      exact ⟨hparts, fun h => absurd h hzero⟩
    · rintro ⟨hparts, -⟩
      refine ⟨rfl, hparts, fun hpos => ?_⟩
      rw [sharePct, sharePct, if_pos hpos, if_pos hpos, ← add_mul, ← add_div, ← a.totalKwh_eq, div_self hzero, one_mul]

/-! ### Reconciled parts -/

/-- Reconciliation keeps the parts of the intervals: the register was reset, or the meter agrees with them. -/
def KeepsParts (measured attributed : ℚ) : Prop :=
  (measured ≤ 0 ∧ attributed > attributionToleranceKwh) ∨ |measured - attributed| ≤ attributionToleranceKwh

instance (measured attributed : ℚ) : Decidable (KeepsParts measured attributed) := by
  unfold KeepsParts; infer_instance

theorem reconcile_attribution (a : EnergyAttribution) (measured attributed : ℚ) :
    (reconcile a (some measured) attributed).attribution
      = if KeepsParts measured attributed then a
        else if attributed > 0 then scaleAttribution a measured else { gridDirectKwh := measured } := by
  have hkeeps : KeepsParts measured attributed ↔ (measured ≤ 0 ∧ attributed > attributionToleranceKwh) ∨
        |measured - attributed| ≤ attributionToleranceKwh := Iff.rfl
  simp only [reconcile]
  by_cases hreset : measured ≤ 0 ∧ attributed > attributionToleranceKwh
  · rw [if_pos hreset, if_pos (hkeeps.mpr (Or.inl hreset))]
  · rw [if_neg hreset]
    by_cases hdelta : |measured - attributed| ≤ attributionToleranceKwh
    · rw [if_pos hdelta, if_pos (hkeeps.mpr (Or.inr hdelta))]
    · have hscales : ¬ KeepsParts measured attributed := by
        intro h
        rcases hkeeps.mp h with h | h
        · exact hreset h
        · exact hdelta h
      rw [if_neg hdelta, if_neg hscales]

theorem nonneg_iff_parts (a : EnergyAttribution) : a.Nonneg ↔ ∀ part ∈ a.parts, 0 ≤ part := by
  simp [EnergyAttribution.Nonneg, EnergyAttribution.parts]

theorem totalKwh_eq_sum (a : EnergyAttribution) : a.totalKwh = a.parts.sum := by
  unfold EnergyAttribution.totalKwh EnergyAttribution.parts
  simp only [List.sum_cons, List.sum_nil]
  ring

/-- Parts that are not negative add up to something exactly if one of them is positive. -/
theorem totalKwh_ne_zero_iff {a : EnergyAttribution} (h : a.Nonneg) : a.totalKwh ≠ 0 ↔ ∃ part ∈ a.parts, 0 < part := by
  have hparts : ∀ part ∈ a.parts, 0 ≤ part := (nonneg_iff_parts a).mp h
  rw [totalKwh_eq_sum]
  constructor
  · intro hsum
    by_contra hnone
    refine hsum (List.sum_eq_zero fun part hpart => ?_)
    exact le_antisymm (not_lt.mp fun hpos => hnone ⟨part, hpart, hpos⟩) (hparts part hpart)
  · rintro ⟨part, hpart, hpos⟩
    exact (lt_of_lt_of_le hpos (List.single_le_sum hparts part hpart)).ne'

/-- The scaled parts: each part's portion of the meter total, rounded. -/
theorem scaled_parts {a : EnergyAttribution} (hpos : 0 < a.totalKwh) (measured : ℚ) :
    (scaleAttribution a measured).parts = a.parts.map fun part => roundDigits 4 (part * (measured / a.totalKwh)) := by
  simp only [scaleAttribution]
  rw [if_neg (not_le.mpr hpos)]
  rfl

/-- The portion of a part is more than half a unit of the fourth decimal. -/
theorem rounded_pos_iff (kwh : ℚ) : 0 < roundDigits 4 kwh ↔ roundingUnitKwh < kwh := by
  have hpow : (0 : ℚ) < 10 ^ 4 := by norm_num
  rw [roundDigits_pos_iff, roundingUnitKwh, div_lt_iff₀ hpow]

/-- Scaled parts stand beside a meter that is not empty if the meter is positive and one portion is not rounded
away. -/
theorem scaled_consistent_iff {a : EnergyAttribution} (h : a.Nonneg) (hpos : 0 < a.totalKwh) {measured : ℚ}
    (hmeasured : measured ≠ 0) :
    ((scaleAttribution a measured).Nonneg ∧ ((scaleAttribution a measured).totalKwh = 0 → measured = 0)) ↔
      0 ≤ measured ∧ ∃ part ∈ a.parts, roundingUnitKwh < part * (measured / a.totalKwh) := by
  have hparts : ∀ part ∈ a.parts, 0 ≤ part := (nonneg_iff_parts a).mp h
  have hunit : (0 : ℚ) < roundingUnitKwh := by norm_num [roundingUnitKwh]
  constructor
  · rintro ⟨hscaled, hzero⟩
    obtain ⟨rounded, hrounded, hgt⟩ := (totalKwh_ne_zero_iff hscaled).mp fun htotal => hmeasured (hzero htotal)
    rw [scaled_parts hpos] at hrounded
    obtain ⟨part, hpart, rfl⟩ := List.mem_map.mp hrounded
    have hportion := (rounded_pos_iff _).mp hgt
    refine ⟨?_, part, hpart, hportion⟩
    by_contra hneg
    have hfactor : measured / a.totalKwh ≤ 0 := (div_neg_of_neg_of_pos (not_le.mp hneg) hpos).le
    have hle : part * (measured / a.totalKwh) ≤ 0 := mul_nonpos_of_nonneg_of_nonpos (hparts part hpart) hfactor
    linarith
  · rintro ⟨hnonneg, part, hpart, hportion⟩
    have hscaled : (scaleAttribution a measured).Nonneg := by
      rw [nonneg_iff_parts, scaled_parts hpos]
      intro rounded hrounded
      obtain ⟨other, hother, rfl⟩ := List.mem_map.mp hrounded
      exact roundDigits_nonneg 4 (mul_nonneg (hparts other hother) (div_nonneg hnonneg hpos.le))
    refine ⟨hscaled, fun htotal => absurd htotal ((totalKwh_ne_zero_iff hscaled).mpr ?_)⟩
    rw [scaled_parts hpos]
    exact ⟨_, List.mem_map.mpr ⟨part, hpart, rfl⟩, (rounded_pos_iff _).mpr hportion⟩

/-- The meter total as grid energy is consistent unless it is negative. -/
theorem gridDirect_consistent_iff (measured : ℚ) :
    (({ gridDirectKwh := measured } : EnergyAttribution).Nonneg ∧
        (({ gridDirectKwh := measured } : EnergyAttribution).totalKwh = 0 → measured = 0)) ↔ 0 ≤ measured := by
  rw [totalKwh_gridDirect]
  constructor
  · rintro ⟨⟨-, -, -, hnonneg⟩, -⟩
    exact hnonneg
  · intro hnonneg
    exact ⟨⟨le_rfl, le_rfl, le_rfl, hnonneg⟩, id⟩

/-! ### Intervals with parts that are not negative -/

def PartsNonneg (intervals : List ChargingInterval) : Prop :=
  ∀ i ∈ intervals, i.attribution.Nonneg

instance (intervals : List ChargingInterval) : Decidable (PartsNonneg intervals) := by
  unfold PartsNonneg; infer_instance

theorem sumAttribution_nonneg {intervals : List ChargingInterval} (h : PartsNonneg intervals) :
    (sumAttribution intervals).Nonneg := by
  induction intervals with
  | nil => exact ⟨le_rfl, le_rfl, le_rfl, le_rfl⟩
  | cons i intervals ih =>
    obtain ⟨h₁, h₂, h₃, h₄⟩ := h i List.mem_cons_self
    obtain ⟨k₁, k₂, k₃, k₄⟩ := ih fun j hj => h j (List.mem_cons_of_mem i hj)
    rw [sumAttribution_cons]
    exact ⟨add_nonneg h₁ k₁, add_nonneg h₂ k₂, add_nonneg h₃ k₃, add_nonneg h₄ k₄⟩

/-- When reconciliation leaves consistent parts: parts that are kept add up to something unless the meter is
empty; parts that are replaced by the meter total need one that is not negative, and scaled parts one portion
that is not rounded away. -/
def MeterFits (parts : EnergyAttribution) (measured attributed : ℚ) : Prop :=
  (KeepsParts measured attributed → parts.totalKwh ≠ 0 ∨ measured = 0) ∧
    (¬ KeepsParts measured attributed → 0 ≤ measured ∧
      (0 < attributed → 0 < parts.totalKwh →
        ∃ part ∈ parts.parts, roundingUnitKwh < part * (measured / parts.totalKwh)))

/-- An empty meter keeps the parts of a session that charged. -/
theorem keepsParts_zero {attributed : ℚ} (h : 0 < attributed) : KeepsParts 0 attributed := by
  by_cases hgt : attributed > attributionToleranceKwh
  · exact Or.inl ⟨le_rfl, hgt⟩
  · refine Or.inr ?_
    rw [zero_sub, abs_neg, abs_of_pos h]
    exact not_lt.mp hgt

/-- **Consistent totals.** The totals of a session are consistent exactly if the meter fits the parts of its
intervals. -/
theorem sessionTotals_consistent_iff {intervals : List ChargingInterval} (h : PartsNonneg intervals)
    (measuredKwh : Option ℚ) (meterQuality : String) :
    Consistent (sessionTotalsFromIntervals intervals measuredKwh meterQuality) ↔
      MeterFits (sumAttribution intervals) (measuredOrAttributed intervals measuredKwh) (intervalsKwh intervals) := by
  have hsum : (sumAttribution intervals).Nonneg := sumAttribution_nonneg h
  rw [consistent_iff intervals measuredKwh meterQuality (reconcile_attribution _ _ _), MeterFits]
  by_cases hkeeps : KeepsParts (measuredOrAttributed intervals measuredKwh) (intervalsKwh intervals)
  · rw [if_pos hkeeps]
    constructor
    · rintro ⟨-, hzero⟩
      refine ⟨fun _ => ?_, fun hnot => absurd hkeeps hnot⟩
      by_cases htotal : (sumAttribution intervals).totalKwh = 0
      · exact Or.inr (hzero htotal)
      · exact Or.inl htotal
    · rintro ⟨hfits, -⟩
      exact ⟨hsum, fun htotal => (hfits hkeeps).resolve_left (not_not.mpr htotal)⟩
  · rw [if_neg hkeeps]
    by_cases hcharged : 0 < intervalsKwh intervals
    · rw [if_pos hcharged]
      by_cases htotal : 0 < (sumAttribution intervals).totalKwh
      · have hmeasured : measuredOrAttributed intervals measuredKwh ≠ 0 := by
          intro hzero
          rw [hzero] at hkeeps
          exact hkeeps (keepsParts_zero hcharged)
        rw [scaled_consistent_iff hsum htotal hmeasured]
        constructor
        · rintro ⟨hnonneg, hportion⟩
          exact ⟨fun hk => absurd hk hkeeps, fun _ => ⟨hnonneg, fun _ _ => hportion⟩⟩
        · rintro ⟨-, hfits⟩
          exact ⟨(hfits hkeeps).1, (hfits hkeeps).2 hcharged htotal⟩
      · have hdirect : scaleAttribution (sumAttribution intervals) (measuredOrAttributed intervals measuredKwh)
            = { gridDirectKwh := measuredOrAttributed intervals measuredKwh } := by
          simp only [scaleAttribution]
          rw [if_pos (not_lt.mp htotal)]
        rw [hdirect, gridDirect_consistent_iff]
        constructor
        · intro hnonneg
          exact ⟨fun hk => absurd hk hkeeps, fun _ => ⟨hnonneg, fun _ hpos => absurd hpos htotal⟩⟩
        · rintro ⟨-, hfits⟩
          exact (hfits hkeeps).1
    · rw [if_neg hcharged, gridDirect_consistent_iff]
      constructor
      · intro hnonneg
        exact ⟨fun hk => absurd hk hkeeps, fun _ => ⟨hnonneg, fun hpos => absurd hpos hcharged⟩⟩
      · rintro ⟨-, hfits⟩
        exact (hfits hkeeps).1

/-- The meter has counted 12 kWh for the 10 kWh of the interval. -/
theorem sessionTotals_consistent_scaled :
    Consistent (sessionTotalsFromIntervals [demoGridInterval] (some 12) "MEASURED") :=
  (sessionTotals_consistent_iff (by decide +kernel) (some 12) "MEASURED").mpr
    ⟨fun _ => Or.inl (by decide +kernel), fun _ => ⟨by decide +kernel, fun _ _ =>
      ⟨10, by decide +kernel, by decide +kernel⟩⟩⟩

/-- The meter has counted 0.03 kWh for a session without intervals: the total is the meter's, and no source
has it. -/
theorem sessionTotals_without_source :
    ¬ ∀ (intervals : List ChargingInterval) (measuredKwh : Option ℚ) (meterQuality : String),
      PartsNonneg intervals → Consistent (sessionTotalsFromIntervals intervals measuredKwh meterQuality) := by
  intro h
  exact absurd (h [] (some (3 / 100)) "MEASURED" (by decide +kernel)) (by decide +kernel)

end EnergyCore.Accounting
