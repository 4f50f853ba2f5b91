import EnergyCore.Foundations.Clock

/-!
# The charging urgency

The urgency of a deadline rises with the time left to it, and with the energy that is still required. Each of the two
is a ramp between a relaxed and an urgent horizon; the relaxed horizon of the energy depends on the time left.

* `chargingUrgency_monotone` — the ramp of the time;
* `tightness_le_of_hours`, `tightness_le_of_need` — the ramp of the energy;
* `combinedChargingUrgency_ramp` — the two together.
-/

namespace EnergyCore.Charging

/-! ### The urgency -/

/-- The fields of `ChargingConfig` that the urgency reads. -/
structure UrgencyConfig where
  maxCurrentA : ℚ := 16
  phases : ℤ := 3
  nominalVoltageV : ℚ := 230
  smartChargeHours : ℚ := 4
  deriving Repr, DecidableEq

def deadlineRelaxedFactor : ℚ := 3

/-- `_power_for_current`; `root3` is the value of `math.sqrt(3)`. -/
def powerForCurrent (root3 : ℚ) (currentA : ℚ) (config : UrgencyConfig) : ℚ :=
  if currentA ≤ 0 then 0
  else if config.phases ≥ 3 then currentA * root3 * config.nominalVoltageV
  else currentA * config.nominalVoltageV

def estimateChargePowerKw (root3 : ℚ) (config : UrgencyConfig) : ℚ :=
  powerForCurrent root3 config.maxCurrentA config / 1000

def urgentHours (config : UrgencyConfig) : ℚ := max (1 / 2) config.smartChargeHours

def relaxedHours (config : UrgencyConfig) : ℚ := urgentHours config * deadlineRelaxedFactor

/-- `charging_urgency`. -/
def chargingUrgency (now : Instant) (deadline : Option Instant) (config : UrgencyConfig) : ℚ :=
  match deadline with
  | none => 0
  | some deadline =>
    if deadline ≤ now then 1
    else
      let hoursLeft := (deadline - now) / 3600
      if hoursLeft ≤ urgentHours config then 1
      else if hoursLeft ≥ relaxedHours config then 0
      else (relaxedHours config - hoursLeft) / (relaxedHours config - urgentHours config)

/-- `energy_charging_urgency`. -/
def energyChargingUrgency (requiredEnergyKwh hoursLeft chargePowerKw : ℚ) : ℚ :=
  if requiredEnergyKwh ≤ 1 / 20 then 0
  else if hoursLeft ≤ 0 then 1
  else if chargePowerKw ≤ 0 then 1 / 2
  else
    let hoursNeeded := requiredEnergyKwh / chargePowerKw * (11 / 10)
    if hoursNeeded ≥ hoursLeft then 1
    else
      let relaxed := max (hoursLeft * (1 / 2)) (1 / 2)
      if hoursNeeded ≤ relaxed then 0
      else (hoursNeeded - relaxed) / max (hoursLeft - relaxed) (1 / 100)

/-- `combined_charging_urgency`. -/
def combinedChargingUrgency (root3 : ℚ) (now : Instant) (deadline : Option Instant) (config : UrgencyConfig)
    (requiredEnergyKwh : Option ℚ) : ℚ :=
  let timeUrgency := chargingUrgency now deadline config
  match deadline, requiredEnergyKwh with
  | some deadline, some requiredEnergyKwh =>
    if requiredEnergyKwh ≤ 0 then timeUrgency
    else
      let hoursLeft := max 0 ((deadline - now) / 3600)
      max timeUrgency (energyChargingUrgency requiredEnergyKwh hoursLeft (estimateChargePowerKw root3 config))
  | _, _ => timeUrgency

/-! ### The ramp of the time -/

section

variable (config : UrgencyConfig)

theorem urgentHours_pos : 0 < urgentHours config :=
  lt_of_lt_of_le (by norm_num) (le_max_left (1 / 2) config.smartChargeHours)

theorem relaxedHours_sub : relaxedHours config - urgentHours config = 2 * urgentHours config := by
  unfold relaxedHours deadlineRelaxedFactor
  ring

theorem relaxedHours_sub_pos : 0 < relaxedHours config - urgentHours config := by
  rw [relaxedHours_sub]
  have h := urgentHours_pos config
  linarith

/-- The ramp, from an urgent number of hours left up to a relaxed one. -/
def timeRamp (hoursLeft : ℚ) : ℚ :=
  if hoursLeft ≤ urgentHours config then 1
  else if hoursLeft ≥ relaxedHours config then 0
  else (relaxedHours config - hoursLeft) / (relaxedHours config - urgentHours config)

theorem timeRamp_mem (hoursLeft : ℚ) : 0 ≤ timeRamp config hoursLeft ∧ timeRamp config hoursLeft ≤ 1 := by
  unfold timeRamp
  have hpos := relaxedHours_sub_pos config
  split_ifs with hurgent hrelaxed
  · norm_num
  · norm_num
  · constructor
    · exact div_nonneg (by linarith) hpos.le
    · rw [div_le_one hpos]
      linarith

theorem timeRamp_antitone : Antitone (timeRamp config) := by
  intro hours hours' hle
  by_cases hurgent : hours ≤ urgentHours config
  · have hone : timeRamp config hours = 1 := if_pos hurgent
    rw [hone]
    exact (timeRamp_mem config hours').2
  · by_cases hrelaxed : hours' ≥ relaxedHours config
    · have hpos := relaxedHours_sub_pos config
      have hzero : timeRamp config hours' = 0 := by
        unfold timeRamp
        rw [if_neg (by linarith), if_pos hrelaxed]
      rw [hzero]
      exact (timeRamp_mem config hours).1
    · have hbetween : ∀ {h}, ¬ h ≤ urgentHours config → ¬ h ≥ relaxedHours config →
          timeRamp config h = (relaxedHours config - h) / (relaxedHours config - urgentHours config) :=
        fun hlow hhigh => (if_neg hlow).trans (if_neg hhigh)
      rw [hbetween hurgent (by linarith), hbetween (by linarith) hrelaxed]
      exact div_le_div_of_nonneg_right (by linarith) (relaxedHours_sub_pos config).le

/-- The time left, in hours. -/
def hoursLeft (deadline now : Instant) : ℚ := (deadline - now) / 3600

theorem hoursLeft_antitone (deadline : Instant) : Antitone (hoursLeft deadline) := fun now now' hle =>
  div_le_div_of_nonneg_right (by linarith) (by norm_num)

theorem chargingUrgency_some (deadline now : Instant) :
    chargingUrgency now (some deadline) config = timeRamp config (hoursLeft deadline now) := by
  unfold chargingUrgency
  dsimp only
  split_ifs with hover hurgent hrelaxed
  · have hneg : hoursLeft deadline now ≤ 0 := div_nonpos_of_nonpos_of_nonneg (by linarith) (by norm_num)
    exact (if_pos (hneg.trans (urgentHours_pos config).le)).symm
  · exact (if_pos hurgent).symm
  · exact ((if_neg hurgent).trans (if_pos hrelaxed)).symm
  · exact ((if_neg hurgent).trans (if_neg hrelaxed)).symm

/-- **The time.** The urgency does not fall as the deadline comes nearer. -/
theorem chargingUrgency_monotone (deadline : Option Instant) :
    Monotone fun now => chargingUrgency now deadline config := by
  cases deadline with
  | none => exact monotone_const
  | some deadline =>
    intro now now' hle
    show chargingUrgency now (some deadline) config ≤ chargingUrgency now' (some deadline) config
    rw [chargingUrgency_some, chargingUrgency_some]
    exact timeRamp_antitone config (hoursLeft_antitone deadline hle)

theorem chargingUrgency_mem (deadline : Option Instant) (now : Instant) :
    0 ≤ chargingUrgency now deadline config ∧ chargingUrgency now deadline config ≤ 1 := by
  cases deadline with
  | none => exact ⟨le_refl 0, zero_le_one⟩
  | some deadline =>
    rw [chargingUrgency_some]
    exact timeRamp_mem config _

end

/-! ### The ramp of the energy -/

/-- The time that is relaxed, of a time left. -/
def relaxedShare (hours : ℚ) : ℚ := max (hours * (1 / 2)) (1 / 2)

/-- How tight a number of hours needed is in a number of hours left. -/
def tightness (needed hours : ℚ) : ℚ :=
  if needed ≥ hours then 1
  else if needed ≤ relaxedShare hours then 0
  else (needed - relaxedShare hours) / max (hours - relaxedShare hours) (1 / 100)

theorem relaxedShare_monotone : Monotone relaxedShare := fun hours hours' hle =>
  max_le_max (by linarith) (le_refl _)

/-- The rest of the time left does not fall with it either. -/
theorem sub_relaxedShare_monotone : Monotone fun hours => hours - relaxedShare hours := by
  intro hours hours' hle
  unfold relaxedShare
  dsimp only
  rcases max_cases (hours * (1 / 2)) (1 / 2 : ℚ) with ⟨h, hle'⟩ | ⟨h, hle'⟩ <;>
    rcases max_cases (hours' * (1 / 2)) (1 / 2 : ℚ) with ⟨h', hle''⟩ | ⟨h', hle''⟩ <;>
    rw [h, h'] <;> linarith

theorem rest_pos (hours : ℚ) : 0 < max (hours - relaxedShare hours) (1 / 100) :=
  lt_of_lt_of_le (by norm_num) (le_max_right _ _)

theorem tightness_mem (needed hours : ℚ) : 0 ≤ tightness needed hours ∧ tightness needed hours ≤ 1 := by
  unfold tightness
  split_ifs with htight hrelaxed
  · norm_num
  · norm_num
  · have hpos := rest_pos hours
    constructor
    · exact div_nonneg (by linarith) hpos.le
    · rw [div_le_one hpos]
      exact le_trans (by linarith) (le_max_left _ _)

theorem tightness_between {needed hours : ℚ} (htight : ¬ needed ≥ hours) (hrelaxed : ¬ needed ≤ relaxedShare hours) :
    tightness needed hours = (needed - relaxedShare hours) / max (hours - relaxedShare hours) (1 / 100) :=
  (if_neg htight).trans (if_neg hrelaxed)

/-- **The energy.** With less time left, the same need is tighter. -/
theorem tightness_le_of_hours (needed : ℚ) : Antitone (tightness needed) := by
  intro hours hours' hle
  by_cases htight : needed ≥ hours
  · have hone : tightness needed hours = 1 := if_pos htight
    rw [hone]
    exact (tightness_mem needed hours').2
  · by_cases hrelaxed : needed ≤ relaxedShare hours'
    · have hzero : tightness needed hours' = 0 := by
        unfold tightness
        rw [if_neg (by linarith), if_pos hrelaxed]
      rw [hzero]
      exact (tightness_mem needed hours).1
    · have hshare := relaxedShare_monotone hle
      have hrest := sub_relaxedShare_monotone hle
      dsimp only at hrest
      rw [tightness_between htight (by linarith), tightness_between (by linarith) hrelaxed]
      exact div_le_div₀ (by linarith) (by linarith) (rest_pos hours) (max_le_max hrest (le_refl _))

/-- A greater need is tighter in the same time. -/
theorem tightness_le_of_need (hours : ℚ) : Monotone fun needed => tightness needed hours := by
  intro needed needed' hle
  show tightness needed hours ≤ tightness needed' hours
  by_cases htight : needed' ≥ hours
  · have hone : tightness needed' hours = 1 := if_pos htight
    rw [hone]
    exact (tightness_mem needed hours).2
  · by_cases hrelaxed : needed ≤ relaxedShare hours
    · have hzero : tightness needed hours = 0 := by
        unfold tightness
        rw [if_neg (by linarith), if_pos hrelaxed]
      rw [hzero]
      exact (tightness_mem needed' hours).1
    · rw [tightness_between (by linarith) hrelaxed, tightness_between htight (by linarith)]
      exact div_le_div_of_nonneg_right (by linarith) (rest_pos hours).le

/-- The hours that an energy takes. -/
def hoursNeeded (requiredEnergyKwh chargePowerKw : ℚ) : ℚ := requiredEnergyKwh / chargePowerKw * (11 / 10)

theorem energyChargingUrgency_mem (required hours power : ℚ) :
    0 ≤ energyChargingUrgency required hours power ∧ energyChargingUrgency required hours power ≤ 1 := by
  by_cases hsmall : required ≤ 1 / 20
  · have hzero : energyChargingUrgency required hours power = 0 := if_pos hsmall
    rw [hzero]
    norm_num
  · unfold energyChargingUrgency
    rw [if_neg hsmall]
    split_ifs with hover hpower
    · norm_num
    · norm_num
    · exact tightness_mem (hoursNeeded required power) hours

theorem energyChargingUrgency_antitone (required power : ℚ) :
    Antitone fun hours => energyChargingUrgency required hours power := by
  intro hours hours' hle
  show energyChargingUrgency required hours' power ≤ energyChargingUrgency required hours power
  by_cases hover : hours ≤ 0
  · by_cases hsmall : required ≤ 1 / 20
    · unfold energyChargingUrgency
      rw [if_pos hsmall, if_pos hsmall]
    · have hone : energyChargingUrgency required hours power = 1 := (if_neg hsmall).trans (if_pos hover)
      rw [hone]
      exact (energyChargingUrgency_mem required hours' power).2
  · unfold energyChargingUrgency
    rw [if_neg hover, if_neg (by linarith : ¬ hours' ≤ 0)]
    split_ifs with hsmall hpower
    · exact le_refl _
    · exact le_refl _
    · exact tightness_le_of_hours (hoursNeeded required power) hle

theorem energyChargingUrgency_monotone (hours power : ℚ) :
    Monotone fun required => energyChargingUrgency required hours power := by
  intro required required' hle
  show energyChargingUrgency required hours power ≤ energyChargingUrgency required' hours power
  by_cases hsmall : required ≤ 1 / 20
  · have hzero : energyChargingUrgency required hours power = 0 := if_pos hsmall
    rw [hzero]
    exact (energyChargingUrgency_mem required' hours power).1
  · unfold energyChargingUrgency
    rw [if_neg hsmall, if_neg (by linarith : ¬ required' ≤ 1 / 20)]
    split_ifs with hover hpower
    · exact le_refl _
    · exact le_refl _
    · refine tightness_le_of_need hours ?_
      have hdiv : required / power ≤ required' / power := div_le_div_of_nonneg_right hle (by linarith)
      linarith

/-! ### The two together -/

section

variable (root3 : ℚ) (config : UrgencyConfig)

theorem combined_none (deadline : Option Instant) (now : Instant) :
    combinedChargingUrgency root3 now deadline config none = chargingUrgency now deadline config := by
  cases deadline <;> rfl

/-- A required energy raises the urgency of the time. -/
def energyPart (deadline : Option Instant) (required : ℚ) (now : Instant) : ℚ :=
  match deadline with
  | none => 0
  | some deadline =>
    if required ≤ 0 then 0
    else energyChargingUrgency required (max 0 (hoursLeft deadline now)) (estimateChargePowerKw root3 config)

theorem combined_some (deadline : Option Instant) (required : ℚ) (now : Instant) :
    combinedChargingUrgency root3 now deadline config (some required)
      = max (chargingUrgency now deadline config) (energyPart root3 config deadline required now) := by
  have hmem := (chargingUrgency_mem config deadline now).1
  cases deadline with
  | none => exact (max_eq_left hmem).symm
  | some deadline =>
    unfold combinedChargingUrgency energyPart
    dsimp only
    split_ifs with hnothing
    · exact (max_eq_left hmem).symm
    · rfl

theorem energyPart_mem (deadline : Option Instant) (required : ℚ) (now : Instant) :
    0 ≤ energyPart root3 config deadline required now ∧ energyPart root3 config deadline required now ≤ 1 := by
  unfold energyPart
  cases deadline with
  | none => norm_num
  | some deadline =>
    dsimp only
    split_ifs
    · norm_num
    · exact energyChargingUrgency_mem _ _ _

theorem energyPart_monotone_now (deadline : Option Instant) (required : ℚ) :
    Monotone (energyPart root3 config deadline required) := by
  intro now now' hle
  unfold energyPart
  cases deadline with
  | none => exact le_refl _
  | some deadline =>
    dsimp only
    split_ifs
    · exact le_refl _
    · exact energyChargingUrgency_antitone _ _ (max_le_max (le_refl 0) (hoursLeft_antitone deadline hle))

theorem energyPart_monotone_required (deadline : Option Instant) (now : Instant) :
    Monotone fun required => energyPart root3 config deadline required now := by
  intro required required' hle
  show energyPart root3 config deadline required now ≤ energyPart root3 config deadline required' now
  by_cases hnothing : required ≤ 0
  · have hzero : energyPart root3 config deadline required now = 0 := by
      unfold energyPart
      cases deadline with
      | none => rfl
      | some deadline => exact if_pos hnothing
    rw [hzero]
    exact (energyPart_mem root3 config deadline required' now).1
  · unfold energyPart
    cases deadline with
    | none => exact le_refl _
    | some deadline =>
      dsimp only
      rw [if_neg hnothing, if_neg (by linarith)]
      exact energyChargingUrgency_monotone _ _ hle

/-- **The urgency is a ramp.** It lies between 0 and 1, does not fall as the deadline comes nearer nor as more energy is
required, and is 1 from the deadline on. -/
theorem combinedChargingUrgency_ramp (deadline : Option Instant) :
    (∀ now required, 0 ≤ combinedChargingUrgency root3 now deadline config required ∧
      combinedChargingUrgency root3 now deadline config required ≤ 1) ∧
    (∀ required, Monotone fun now => combinedChargingUrgency root3 now deadline config required) ∧
    (∀ now, Monotone fun required => combinedChargingUrgency root3 now deadline config (some required)) ∧
    (∀ now required, ∀ t ∈ deadline, t ≤ now → combinedChargingUrgency root3 now deadline config required = 1) := by
  have hmem : ∀ now required, 0 ≤ combinedChargingUrgency root3 now deadline config required ∧
      combinedChargingUrgency root3 now deadline config required ≤ 1 := by
    intro now required
    have htime := chargingUrgency_mem config deadline now
    cases required with
    | none =>
      rw [combined_none]
      exact htime
    | some required =>
      rw [combined_some]
      exact ⟨htime.1.trans (le_max_left _ _), max_le htime.2 (energyPart_mem root3 config deadline required now).2⟩
  have hreaches : ∀ now required,
      chargingUrgency now deadline config ≤ combinedChargingUrgency root3 now deadline config required := by
    intro now required
    cases required with
    | none => rw [combined_none]
    | some required =>
      rw [combined_some]
      exact le_max_left _ _
  refine ⟨hmem, fun required => ?_, fun now => ?_, fun now required t ht hover => ?_⟩
  · cases required with
    | none =>
      simp only [combined_none]
      exact chargingUrgency_monotone config deadline
    | some required =>
      simp only [combined_some]
      exact (chargingUrgency_monotone config deadline).max (energyPart_monotone_now root3 config deadline required)
  · simp only [combined_some]
    exact monotone_const.max (energyPart_monotone_required root3 config deadline now)
  · rw [Option.mem_def] at ht
    subst ht
    have hone : chargingUrgency now (some t) config = 1 := if_pos hover
    exact le_antisymm (hmem now required).2 (hone ▸ hreaches now required)

end

end EnergyCore.Charging
