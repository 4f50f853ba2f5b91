import EnergyCore.Accounting.Attribution
import EnergyCore.Foundations.CostPools
import EnergyCore.Foundations.StepRun

/-!
# The cost basis of the battery ledger

The grid pool of the ledger is a pool of energy and what it cost. Charging deposits at the price of the step,
and discharging withdraws in proportion, but the cost that is left is clamped at zero.

* `gridPool_charged` — charging is a deposit;
* `gridPool_discharged` — discharging is a withdrawal, unless the cost is clamped;
* `keepsBasis_iff` — a step keeps the books exactly if it does not clamp a negative cost;
* `keepsBasis_run_iff` — the same for a run.
-/

namespace EnergyCore.Accounting

open CostPools StepRun

/-- The parameters of one `update`. -/
structure LedgerUpdate where
  sample : SiteEnergySample
  gridPriceSekKwh : ℚ

/-- No power and no duration is negative. -/
structure LedgerUpdate.Admissible (u : LedgerUpdate) : Prop where
  pv : 0 ≤ u.sample.pvPowerW
  house : 0 ≤ u.sample.houseConsumptionW
  gridImport : 0 ≤ u.sample.gridImportW
  gridExport : 0 ≤ u.sample.gridExportW
  batteryCharge : 0 ≤ u.sample.batteryChargeW
  batteryDischarge : 0 ≤ u.sample.batteryDischargeW
  ev : 0 ≤ u.sample.evPowerW
  duration : 0 ≤ u.sample.durationHours

/-! ### The two halves of an update -/

/-- The surplus that may have gone into the battery. -/
def ledgerSurplusKwh (sample : SiteEnergySample) : ℚ :=
  let pvSurplusKwh := max 0 (sample.pvKwh - sample.houseKwh)
  if sample.gridExportKwh > 0 then max pvSurplusKwh sample.gridExportKwh else pvSurplusKwh

def solarChargeKwh (sample : SiteEnergySample) : ℚ :=
  min sample.batteryChargeKwh (ledgerSurplusKwh sample)

def gridChargeKwh (sample : SiteEnergySample) : ℚ :=
  max 0 (sample.batteryChargeKwh - solarChargeKwh sample)

theorem applyCharge_eq (ledger : BatteryLedgerState) (sample : SiteEnergySample) (price : ℚ) :
    applyCharge ledger sample price
      = { solarEnergyKwh := ledger.solarEnergyKwh + solarChargeKwh sample
          gridEnergyKwh := ledger.gridEnergyKwh + gridChargeKwh sample
          gridEnergyCostSek := ledger.gridEnergyCostSek + gridChargeKwh sample * price } := rfl

/-- The ledger after the charging half. -/
def chargedLedger (ledger : BatteryLedgerState) (u : LedgerUpdate) : BatteryLedgerState :=
  if u.sample.batteryChargeKwh > 0 then applyCharge ledger u.sample u.gridPriceSekKwh else ledger

/-- The ledger after the discharging half. -/
def dischargedLedger (ledger : BatteryLedgerState) (dischargeKwh : ℚ) : BatteryLedgerState :=
  if dischargeKwh > 0 then (applyDischarge ledger dischargeKwh).1 else ledger

theorem updateLedger_eq (ledger : BatteryLedgerState) (u : LedgerUpdate) :
    (updateLedger ledger u.sample u.gridPriceSekKwh).1
      = dischargedLedger (chargedLedger ledger u) u.sample.batteryDischargeKwh := by
  simp only [updateLedger, dischargedLedger, chargedLedger]
  by_cases h : u.sample.batteryDischargeKwh > 0
  · rw [if_pos h, if_pos h]
  · rw [if_neg h, if_neg h]

/-- The grid energy of the ledger and what it cost. -/
def BatteryLedgerState.gridPool (ledger : BatteryLedgerState) : Pool ℚ where
  amount := ledger.gridEnergyKwh
  cost := ledger.gridEnergyCostSek

theorem gridAvgCostSekKwh_eq (ledger : BatteryLedgerState) : ledger.gridAvgCostSekKwh = ledger.gridPool.mean := rfl

/-! ### Charging -/

theorem energyKwh_nonneg {sample : SiteEnergySample} (h : 0 ≤ sample.durationHours) (powerW : ℚ) :
    0 ≤ sample.energyKwh powerW := by
  have hpower : 0 ≤ max 0 powerW := le_max_left 0 powerW
  exact div_nonneg (mul_nonneg hpower h) (by norm_num)

theorem ledgerSurplusKwh_nonneg (sample : SiteEnergySample) : 0 ≤ ledgerSurplusKwh sample := by
  have hsurplus : 0 ≤ max 0 (sample.pvKwh - sample.houseKwh) := le_max_left 0 _
  simp only [ledgerSurplusKwh]
  split_ifs
  · exact le_max_of_le_left hsurplus
  · exact hsurplus

theorem solarChargeKwh_nonneg {sample : SiteEnergySample} (h : 0 ≤ sample.batteryChargeKwh) :
    0 ≤ solarChargeKwh sample := le_min h (ledgerSurplusKwh_nonneg sample)

theorem gridChargeKwh_nonneg (sample : SiteEnergySample) : 0 ≤ gridChargeKwh sample := le_max_left 0 _

/-- The charge is split between the two pools. -/
theorem solarCharge_add_gridCharge (sample : SiteEnergySample) :
    solarChargeKwh sample + gridChargeKwh sample = sample.batteryChargeKwh := by
  have hle : solarChargeKwh sample ≤ sample.batteryChargeKwh := min_le_left _ _
  rw [gridChargeKwh, max_eq_right (sub_nonneg.mpr hle)]
  ring

/-- The ledger after the charging half, whether anything was charged or not. -/
theorem chargedLedger_eq (ledger : BatteryLedgerState) {u : LedgerUpdate} (h : 0 ≤ u.sample.batteryChargeKwh) :
    chargedLedger ledger u = applyCharge ledger u.sample u.gridPriceSekKwh := by
  unfold chargedLedger
  rcases h.eq_or_lt with hzero | hpos
  · have hsolar : solarChargeKwh u.sample = 0 :=
      le_antisymm ((min_le_left _ _).trans hzero.ge) (solarChargeKwh_nonneg h)
    have hgrid : gridChargeKwh u.sample = 0 := by
      have hsum := solarCharge_add_gridCharge u.sample
      linarith
    rw [if_neg (not_lt.mpr hzero.ge), applyCharge_eq, hsolar, hgrid]
    simp
  · rw [if_pos hpos]

/-- **Charging is a deposit** into the grid pool, at the price of the step. -/
theorem gridPool_charged (ledger : BatteryLedgerState) {u : LedgerUpdate} (h : 0 ≤ u.sample.batteryChargeKwh) :
    (chargedLedger ledger u).gridPool = ledger.gridPool.deposit (gridChargeKwh u.sample) u.gridPriceSekKwh := by
  rw [chargedLedger_eq ledger h]
  rfl

theorem totalKwh_charged (ledger : BatteryLedgerState) {u : LedgerUpdate} (h : 0 ≤ u.sample.batteryChargeKwh) :
    (chargedLedger ledger u).totalKwh = ledger.totalKwh + u.sample.batteryChargeKwh := by
  have hsum := solarCharge_add_gridCharge u.sample
  rw [chargedLedger_eq ledger h, applyCharge_eq]
  simp only [BatteryLedgerState.totalKwh]
  linarith

/-! ### Discharging -/

/-- The share of the pools that a discharge leaves. -/
def keptShare (totalKwh dischargeKwh : ℚ) : ℚ :=
  if totalKwh ≤ 0 then 1 else 1 - min dischargeKwh totalKwh / totalKwh

theorem keptShare_nonneg (totalKwh dischargeKwh : ℚ) : 0 ≤ keptShare totalKwh dischargeKwh := by
  unfold keptShare
  split_ifs with h
  · exact zero_le_one
  · have hle : min dischargeKwh totalKwh / totalKwh ≤ 1 := (div_le_one (not_le.mp h)).mpr (min_le_right _ _)
    linarith

theorem keptShare_pos_iff {totalKwh : ℚ} (h : 0 < totalKwh) (dischargeKwh : ℚ) :
    0 < keptShare totalKwh dischargeKwh ↔ dischargeKwh < totalKwh := by
  rw [keptShare, if_neg (not_le.mpr h), sub_pos, div_lt_one h, min_lt_iff]
  exact or_iff_left (lt_irrefl totalKwh)

theorem mul_keptShare {totalKwh dischargeKwh : ℚ} (htotal : 0 ≤ totalKwh) (hpos : 0 < dischargeKwh) :
    totalKwh * keptShare totalKwh dischargeKwh = totalKwh - min dischargeKwh totalKwh := by
  unfold keptShare
  split_ifs with h
  · have hzero : totalKwh = 0 := le_antisymm h htotal
    rw [hzero, min_eq_right hpos.le]
    ring
  · have hne : totalKwh ≠ 0 := (not_le.mp h).ne'
    rw [mul_sub, mul_one, mul_div_cancel₀ _ hne]

/-- What a discharge leaves of a pool. -/
theorem sub_share {pool totalKwh dischargeKwh : ℚ} (h : ¬ totalKwh ≤ 0) :
    pool - min dischargeKwh totalKwh * (pool / totalKwh) = pool * keptShare totalKwh dischargeKwh := by
  rw [keptShare, if_neg h]
  ring

/-- The pools of a ledger before a discharge. -/
structure BatteryLedgerState.WellFormed (ledger : BatteryLedgerState) : Prop where
  solar_nonneg : 0 ≤ ledger.solarEnergyKwh
  grid_nonneg : 0 ≤ ledger.gridEnergyKwh
  cost_of_empty : ledger.gridEnergyKwh = 0 → ledger.gridEnergyCostSek = 0

theorem BatteryLedgerState.WellFormed.total_nonneg {ledger : BatteryLedgerState}
    (h : ledger.WellFormed) : 0 ≤ ledger.totalKwh := add_nonneg h.solar_nonneg h.grid_nonneg

/-- A discharge leaves the same share of both pools, and of the cost what is not below zero. -/
theorem applyDischarge_eq {ledger : BatteryLedgerState} (h : ledger.WellFormed) {dischargeKwh : ℚ}
    (hpos : 0 < dischargeKwh) :
    (applyDischarge ledger dischargeKwh).1
      = { solarEnergyKwh := ledger.solarEnergyKwh * keptShare ledger.totalKwh dischargeKwh
          gridEnergyKwh := ledger.gridEnergyKwh * keptShare ledger.totalKwh dischargeKwh
          gridEnergyCostSek :=
            max 0 (ledger.gridEnergyCostSek * keptShare ledger.totalKwh dischargeKwh) } := by
  have hsolar := h.solar_nonneg
  have hgrid := h.grid_nonneg
  have hshare := keptShare_nonneg ledger.totalKwh dischargeKwh
  by_cases htotal : ledger.totalKwh ≤ 0
  · -- there is nothing to discharge
    have hsum : ledger.solarEnergyKwh + ledger.gridEnergyKwh ≤ 0 := htotal
    have hempty : ledger.gridEnergyKwh = 0 := by linarith
    have hcost := h.cost_of_empty hempty
    simp only [applyDischarge]
    rw [if_pos (Or.inl htotal), keptShare, if_pos htotal, hcost]
    simp only [mul_one, max_self]
    exact congrArg (BatteryLedgerState.mk _ _) hcost
  · have hcost : ledger.gridEnergyCostSek
        - (if ledger.gridEnergyKwh > 0 then
            ledger.gridEnergyCostSek * (min dischargeKwh ledger.totalKwh
              * (ledger.gridEnergyKwh / ledger.totalKwh) / ledger.gridEnergyKwh) else 0)
        = ledger.gridEnergyCostSek * keptShare ledger.totalKwh dischargeKwh := by
      rcases hgrid.eq_or_lt with hempty | hfull
      · rw [h.cost_of_empty hempty.symm, if_neg (not_lt.mpr hempty.ge)]
        ring
      · rw [if_pos hfull, ← sub_share htotal]
        have hne := hfull.ne'
        field_simp
    simp only [applyDischarge]
    rw [if_neg (not_or.mpr ⟨htotal, not_le.mpr hpos⟩)]
    simp only [hcost, sub_share htotal]
    rw [max_eq_right (mul_nonneg hsolar hshare), max_eq_right (mul_nonneg hgrid hshare)]

/-- **Discharging is a withdrawal** from the grid pool, unless the cost is clamped. -/
theorem gridPool_discharged {ledger : BatteryLedgerState} (h : ledger.WellFormed) {dischargeKwh : ℚ}
    (hpos : 0 < dischargeKwh) (hcost : ¬ (dischargeKwh < ledger.totalKwh ∧ ledger.gridEnergyCostSek < 0)) :
    (applyDischarge ledger dischargeKwh).1.gridPool
      = ledger.gridPool.keep (keptShare ledger.totalKwh dischargeKwh) := by
  have hshare := keptShare_nonneg ledger.totalKwh dischargeKwh
  have hkept : 0 ≤ ledger.gridEnergyCostSek * keptShare ledger.totalKwh dischargeKwh := by
    by_cases hneg : ledger.gridEnergyCostSek < 0
    · have hle : ledger.totalKwh ≤ dischargeKwh := not_lt.mp fun hlt => hcost ⟨hlt, hneg⟩
      have hgrid : ledger.gridEnergyKwh ≠ 0 := fun hzero => hneg.ne (h.cost_of_empty hzero)
      have htotal : 0 < ledger.totalKwh :=
        add_pos_of_nonneg_of_pos h.solar_nonneg (lt_of_le_of_ne h.grid_nonneg hgrid.symm)
      have hzero : keptShare ledger.totalKwh dischargeKwh = 0 :=
        le_antisymm (not_lt.mp fun hlt => hle.not_gt ((keptShare_pos_iff htotal _).mp hlt)) hshare
      rw [hzero, mul_zero]
    · exact mul_nonneg (not_lt.mp hneg) hshare
  rw [applyDischarge_eq h hpos, max_eq_right hkept]
  rfl

/-- A clamped cost makes the energy that is left free. -/
theorem gridPool_clamped {ledger : BatteryLedgerState} (h : ledger.WellFormed) {dischargeKwh : ℚ}
    (hpos : 0 < dischargeKwh) (hlt : dischargeKwh < ledger.totalKwh) (hneg : ledger.gridEnergyCostSek < 0) :
    0 < (applyDischarge ledger dischargeKwh).1.gridEnergyKwh ∧
      (applyDischarge ledger dischargeKwh).1.gridAvgCostSekKwh ≠ ledger.gridAvgCostSekKwh := by
  have hgrid : 0 < ledger.gridEnergyKwh :=
    lt_of_le_of_ne h.grid_nonneg fun hzero => hneg.ne (h.cost_of_empty hzero.symm)
  have hshare : 0 < keptShare ledger.totalKwh dischargeKwh := (keptShare_pos_iff (hpos.trans hlt) _).mpr hlt
  have hleft : 0 < ledger.gridEnergyKwh * keptShare ledger.totalKwh dischargeKwh := mul_pos hgrid hshare
  have hcost : ledger.gridEnergyCostSek * keptShare ledger.totalKwh dischargeKwh ≤ 0 :=
    (mul_neg_of_neg_of_pos hneg hshare).le
  rw [applyDischarge_eq h hpos, max_eq_left hcost]
  refine ⟨hleft, ?_⟩
  simp only [BatteryLedgerState.gridAvgCostSekKwh]
  rw [if_neg (not_le.mpr hleft), if_neg (not_le.mpr hgrid), zero_div]
  intro heq
  have hzero : (0 : ℚ) = ledger.gridEnergyCostSek / ledger.gridEnergyKwh := Option.some.inj heq
  exact (div_neg_of_neg_of_pos hneg hgrid).ne hzero.symm

/-! ### The books over a run -/

/-- A ledger, with the prices at which grid energy was charged. -/
structure CostedLedger where
  ledger : BatteryLedgerState := {}
  prices : List ℚ := []

namespace CostedLedger

def update (w : CostedLedger) (u : LedgerUpdate) : CostedLedger where
  ledger := (updateLedger w.ledger u.sample u.gridPriceSekKwh).1
  prices := pricesPaid w.prices (gridChargeKwh u.sample) u.gridPriceSekKwh

/-- What an update owes to the books: pools that are not negative, the energy that went in and out, a mean
that discharging leaves alone, and that lies between two prices at which energy was charged. -/
structure KeepsBasis (w : CostedLedger) (u : LedgerUpdate) : Prop where
  solar_nonneg : 0 ≤ (w.update u).ledger.solarEnergyKwh
  grid_nonneg : 0 ≤ (w.update u).ledger.gridEnergyKwh
  total : (w.update u).ledger.totalKwh
    = w.ledger.totalKwh + u.sample.batteryChargeKwh
      - min u.sample.batteryDischargeKwh (w.ledger.totalKwh + u.sample.batteryChargeKwh)
  mean : 0 < u.sample.batteryDischargeKwh → 0 < (w.update u).ledger.gridEnergyKwh →
    (w.update u).ledger.gridAvgCostSekKwh = (chargedLedger w.ledger u).gridAvgCostSekKwh
  between : ∀ mean, (w.update u).ledger.gridAvgCostSekKwh = some mean →
    ∃ lo ∈ (w.update u).prices, ∃ hi ∈ (w.update u).prices, lo ≤ mean ∧ mean ≤ hi

/-- Part of the battery is discharged, while the grid energy in it has cost less than nothing. -/
def ClampsCost (w : CostedLedger) (u : LedgerUpdate) : Prop :=
  0 < u.sample.batteryDischargeKwh ∧
    u.sample.batteryDischargeKwh < w.ledger.totalKwh + u.sample.batteryChargeKwh ∧
    w.ledger.gridEnergyCostSek + gridChargeKwh u.sample * u.gridPriceSekKwh < 0

/-- The ledger's pools hold energy that was charged at the prices. -/
structure Booked (w : CostedLedger) : Prop where
  solar_nonneg : 0 ≤ w.ledger.solarEnergyKwh
  priced : w.ledger.gridPool.Priced w.prices

theorem Booked.wellFormed {w : CostedLedger} (h : w.Booked) : w.ledger.WellFormed :=
  ⟨h.solar_nonneg, h.priced.amount_nonneg, h.priced.cost_of_empty⟩

theorem booked_empty : ({} : CostedLedger).Booked := ⟨le_rfl, Pool.priced_empty []⟩

/-- The charging half keeps the books. -/
theorem Booked.charged {w : CostedLedger} (h : w.Booked) {u : LedgerUpdate} (hu : u.Admissible) :
    (⟨chargedLedger w.ledger u,
      pricesPaid w.prices (gridChargeKwh u.sample) u.gridPriceSekKwh⟩ : CostedLedger).Booked := by
  have hcharge : 0 ≤ u.sample.batteryChargeKwh := energyKwh_nonneg hu.duration _
  have hsolar : (chargedLedger w.ledger u).solarEnergyKwh
      = w.ledger.solarEnergyKwh + solarChargeKwh u.sample := by
    rw [chargedLedger_eq w.ledger hcharge, applyCharge_eq]
  refine ⟨?_, ?_⟩
  · rw [hsolar]
    exact add_nonneg h.solar_nonneg (solarChargeKwh_nonneg hcharge)
  · show (chargedLedger w.ledger u).gridPool.Priced _
    rw [gridPool_charged w.ledger hcharge]
    exact h.priced.deposit (gridChargeKwh_nonneg u.sample) u.gridPriceSekKwh

/-- The condition, in the terms of the ledger after the charging half. -/
theorem clampsCost_iff (w : CostedLedger) {u : LedgerUpdate} (hu : u.Admissible) :
    w.ClampsCost u ↔ 0 < u.sample.batteryDischargeKwh ∧
      u.sample.batteryDischargeKwh < (chargedLedger w.ledger u).totalKwh ∧
      (chargedLedger w.ledger u).gridEnergyCostSek < 0 := by
  have hcharge : 0 ≤ u.sample.batteryChargeKwh := energyKwh_nonneg hu.duration _
  rw [totalKwh_charged w.ledger hcharge, chargedLedger_eq w.ledger hcharge, applyCharge_eq]
  rfl

theorem ledger_update (w : CostedLedger) (u : LedgerUpdate) : (w.update u).ledger
      = dischargedLedger (chargedLedger w.ledger u) u.sample.batteryDischargeKwh :=
  updateLedger_eq w.ledger u

/-- The pools and the total after an update, clamped or not. -/
theorem Booked.energy_update {w : CostedLedger} (h : w.Booked) {u : LedgerUpdate} (hu : u.Admissible) :
    0 ≤ (w.update u).ledger.solarEnergyKwh ∧ 0 ≤ (w.update u).ledger.gridEnergyKwh ∧
      (w.update u).ledger.totalKwh = w.ledger.totalKwh + u.sample.batteryChargeKwh
        - min u.sample.batteryDischargeKwh (w.ledger.totalKwh + u.sample.batteryChargeKwh) := by
  have hcharge : 0 ≤ u.sample.batteryChargeKwh := energyKwh_nonneg hu.duration _
  have hdischarge : 0 ≤ u.sample.batteryDischargeKwh := energyKwh_nonneg hu.duration _
  have hformed : (chargedLedger w.ledger u).WellFormed := (h.charged hu).wellFormed
  have htotal := hformed.total_nonneg
  rw [ledger_update, ← totalKwh_charged w.ledger hcharge, dischargedLedger]
  rcases hdischarge.eq_or_lt with hzero | hpos
  · rw [if_neg (not_lt.mpr hzero.ge), ← hzero, min_eq_left htotal, sub_zero]
    exact ⟨hformed.solar_nonneg, hformed.grid_nonneg, rfl⟩
  · have hshare := keptShare_nonneg (chargedLedger w.ledger u).totalKwh u.sample.batteryDischargeKwh
    rw [if_pos hpos, applyDischarge_eq hformed hpos]
    refine ⟨mul_nonneg hformed.solar_nonneg hshare, mul_nonneg hformed.grid_nonneg hshare, ?_⟩
    rw [← mul_keptShare htotal hpos]
    simp only [BatteryLedgerState.totalKwh]
    ring

/-- The grid pool after an update that clamps no cost. -/
theorem Booked.gridPool_update {w : CostedLedger} (h : w.Booked) {u : LedgerUpdate}
    (hu : u.Admissible) (hclamp : ¬ w.ClampsCost u) : ∃ share, 0 ≤ share ∧
      (w.update u).ledger.gridPool = (chargedLedger w.ledger u).gridPool.keep share := by
  have hformed : (chargedLedger w.ledger u).WellFormed := (h.charged hu).wellFormed
  rw [ledger_update, dischargedLedger]
  by_cases hpos : u.sample.batteryDischargeKwh > 0
  · have hcost : ¬ (u.sample.batteryDischargeKwh < (chargedLedger w.ledger u).totalKwh ∧
        (chargedLedger w.ledger u).gridEnergyCostSek < 0) := fun hcost =>
      hclamp ((clampsCost_iff w hu).mpr ⟨hpos, hcost⟩)
    rw [if_pos hpos]
    exact ⟨_, keptShare_nonneg _ _, gridPool_discharged hformed hpos hcost⟩
  · rw [if_neg hpos]
    exact ⟨1, zero_le_one, by simp [Pool.keep]⟩

/-- An update that clamps no cost keeps the ledger booked. -/
theorem Booked.update {w : CostedLedger} (h : w.Booked) {u : LedgerUpdate} (hu : u.Admissible)
    (hclamp : ¬ w.ClampsCost u) : (w.update u).Booked := by
  obtain ⟨share, hshare, hpool⟩ := h.gridPool_update hu hclamp
  refine ⟨(h.energy_update hu).1, ?_⟩
  rw [hpool]
  exact (h.charged hu).priced.keep hshare

/-- **A step** of a booked ledger keeps the books exactly if it clamps no negative cost. -/
theorem keepsBasis_iff {w : CostedLedger} (h : w.Booked) {u : LedgerUpdate} (hu : u.Admissible) :
    w.KeepsBasis u ↔ ¬ w.ClampsCost u := by
  obtain ⟨hsolar, hgrid, htotal⟩ := h.energy_update hu
  have hformed : (chargedLedger w.ledger u).WellFormed := (h.charged hu).wellFormed
  constructor
  · intro hkeeps hclamp
    obtain ⟨hpos, hlt, hneg⟩ := (clampsCost_iff w hu).mp hclamp
    obtain ⟨hleft, hmean⟩ := gridPool_clamped hformed hpos hlt hneg
    have hledger : (w.update u).ledger
        = (applyDischarge (chargedLedger w.ledger u) u.sample.batteryDischargeKwh).1 := by
      rw [ledger_update, dischargedLedger, if_pos hpos]
    rw [← hledger] at hleft hmean
    exact hmean (hkeeps.mean hpos hleft)
  · intro hclamp
    obtain ⟨share, hshare, hpool⟩ := h.gridPool_update hu hclamp
    refine ⟨hsolar, hgrid, htotal, ?_, ?_⟩
    · intro _ hleft
      have hleft' : 0 < ((chargedLedger w.ledger u).gridPool.keep share).amount := by
        rw [← hpool]
        exact hleft
      rw [gridAvgCostSekKwh_eq, gridAvgCostSekKwh_eq, hpool]
      exact Pool.mean_keep hleft' hshare
    · intro mean hmean
      exact (h.update hu hclamp).priced.mean_between hmean

/-- **Every run** of updates from an empty ledger keeps the books exactly if no step clamps a negative cost. -/
theorem keepsBasis_run_iff {updates : List LedgerUpdate} (h : ∀ u ∈ updates, u.Admissible) :
    AllSteps update KeepsBasis {} updates ↔ AllSteps update (fun w u => ¬ w.ClampsCost u) {} updates :=
  AllSteps.congr_of_invariant (fun _ _ hbooked hu hclamp => hbooked.update hu hclamp)
    (fun _ _ hbooked hu => keepsBasis_iff hbooked hu) booked_empty (AllSteps.of_forall_mem h)

/-! ### An hour at a negative price -/

section Demo

/-- An hour in which 1 kWh is charged from the grid, and an hour in which half of it is discharged. -/
def demoChargeThenDischarge (price : ℚ) : List LedgerUpdate :=
  [⟨{ gridImportW := 1000, batteryChargeW := 1000, durationHours := 1 }, price⟩,
    ⟨{ houseConsumptionW := 500, batteryDischargeW := 500, durationHours := 1 }, price⟩]

theorem demo_admissible (price : ℚ) : ∀ u ∈ demoChargeThenDischarge price, u.Admissible := by
  intro u hu
  rcases List.mem_cons.mp hu with rfl | hu
  · constructor <;> norm_num
  · obtain rfl := List.mem_singleton.mp hu
    constructor <;> norm_num

/-- The energy was charged at −1 SEK/kWh, and what the discharge leaves of it costs nothing. -/
theorem keepsBasis_fails : ¬ ∀ updates : List LedgerUpdate, (∀ u ∈ updates, u.Admissible) →
      AllSteps update KeepsBasis {} updates := by
  intro h
  obtain ⟨-, hkeeps, -⟩ := h (demoChargeThenDischarge (-1)) (demo_admissible (-1))
  have hmean := hkeeps.mean
  revert hmean
  decide +kernel

/-- At 1 SEK/kWh the books are kept. -/
theorem demo_keepsBasis : AllSteps update KeepsBasis {} (demoChargeThenDischarge 1) := by
  refine (keepsBasis_run_iff (demo_admissible 1)).mpr ⟨?_, ?_, trivial⟩
  · rintro ⟨hpos, -⟩
    revert hpos
    decide +kernel
  · rintro ⟨-, -, hneg⟩
    revert hneg
    decide +kernel

end Demo

end CostedLedger

end EnergyCore.Accounting
