import EnergyCore.Charging.SmartSchedule

/-!
# The schedule of import prices

`should_charge_import_price` charges in the green tier of the import prices of a look-ahead window, and more freely the
more urgent it is.

* `charges_of_raised` — a more urgent call does not wait where a less urgent one charges;
* `charges_iff` — when a call below the deadline risk charges;
* `importCharges_iff` — when a charge means a price of at most the average.
-/

namespace EnergyCore.Charging

/-! ### The decision -/

/-- The arguments of `should_charge_import_price`. -/
structure ImportPriceCall where
  now : Instant
  currentPeriodStart : Option Instant := none
  currentImportSekKwh : Option ℚ
  importForecast : List (Instant × ℚ)
  urgency : ℚ := 0
  lookaheadHours : ℤ := 18
  deriving Repr, DecidableEq

def importDeadlineRiskUrgency : ℚ := 8 / 10
def importBalancedUrgency : ℚ := 4 / 10

/-- `align_period_start`, with periods of 15 minutes. -/
def alignPeriodStart (ts : Instant) : Instant := 900 * ⌊ts / 900⌋

/-- `_period_import_price`, for a current price that is there. -/
def periodImportPrice (periodStart : Instant) (currentImportSekKwh : ℚ) (importForecast : List (Instant × ℚ)) : ℚ :=
  match importForecast.find? fun entry => decide (entry.1 = periodStart) with
  | some (_, price) => price
  | none => currentImportSekKwh

namespace ImportPriceCall

variable (c : ImportPriceCall)

def periodStart : Instant := c.currentPeriodStart.getD (alignPeriodStart c.now)

/-- The prices of the look-ahead window. -/
def slots : List (Instant × ℚ) := windowPrices c.importForecast c.now (c.now + 3600 * c.lookaheadHours)

/-- `period_price`, for a current price that is there. -/
def periodPrice (current : ℚ) : ℚ := periodImportPrice c.periodStart current c.importForecast

end ImportPriceCall

/-- `should_charge_import_price`. -/
def shouldChargeImportPrice (c : ImportPriceCall) : Bool × String :=
  match c.currentImportSekKwh with
  | none => (false, "import_price_missing")
  | some currentImportSekKwh =>
    if c.importForecast = [] then (false, "import_price_missing")
    else if clampedUrgency c.urgency ≥ importDeadlineRiskUrgency then (true, "import_deadline_risk")
    else
      match averagePrice c.slots with
      | none => (false, "import_no_forecast")
      | some average =>
        let greenThreshold := average * greenPriceRatio
        let periodPrice := c.periodPrice currentImportSekKwh
        if clampedUrgency c.urgency ≥ importBalancedUrgency ∧ periodPrice ≤ average then
          (true, "import_balanced_urgency")
        else if periodPrice ≤ greenThreshold then (true, "import_cheap_now")
        else (false, "import_wait_cheaper")

/-- The call decides for charging. -/
def Charges (c : ImportPriceCall) : Prop := (shouldChargeImportPrice c).1 = true

instance (c : ImportPriceCall) : Decidable (Charges c) :=
  inferInstanceAs (Decidable ((shouldChargeImportPrice c).1 = true))

/-! ### The urgency -/

/-- A threshold between zero and one is reached by the clamped urgency if it is by the urgency. -/
theorem le_clampedUrgency_iff {threshold u : ℚ} (hpos : 0 < threshold) (hone : threshold ≤ 1) :
    threshold ≤ clampedUrgency u ↔ threshold ≤ u := by
  rw [clampedUrgency, le_max_iff, le_min_iff]
  constructor
  · intro h
    rcases h with h | h
    · exact absurd h (not_le.mpr hpos)
    · exact h.2
  · intro h
    exact .inr ⟨hone, h⟩

/-- **A call charges** at a deadline at risk, at a price of at most the average if it is somewhat urgent, and at a
price of the green tier. -/
theorem charges_iff {c : ImportPriceCall} : Charges c ↔ ∃ current ∈ c.currentImportSekKwh, c.importForecast ≠ [] ∧
      (importDeadlineRiskUrgency ≤ c.urgency ∨ ∃ average ∈ averagePrice c.slots,
        (importBalancedUrgency ≤ c.urgency ∧ c.periodPrice current ≤ average)
          ∨ c.periodPrice current ≤ average * greenPriceRatio) := by
  have hrisk : importDeadlineRiskUrgency ≤ clampedUrgency c.urgency ↔ importDeadlineRiskUrgency ≤ c.urgency :=
    le_clampedUrgency_iff (by decide +kernel) (by decide +kernel)
  have hbalanced : importBalancedUrgency ≤ clampedUrgency c.urgency ↔ importBalancedUrgency ≤ c.urgency :=
    le_clampedUrgency_iff (by decide +kernel) (by decide +kernel)
  unfold Charges shouldChargeImportPrice
  cases hcurrent : c.currentImportSekKwh with
  | none => simp
  | some current =>
    by_cases hempty : c.importForecast = []
    · simp [hempty]
    by_cases hurgent : importDeadlineRiskUrgency ≤ c.urgency
    · simp [hempty, hrisk, hurgent]
    cases haverage : averagePrice c.slots with
    | none => simp [hempty, hrisk, hurgent]
    | some average =>
      simp only [hempty, ge_iff_le, hrisk, hurgent, hbalanced, if_false, Option.mem_def, Option.some.injEq,
        exists_eq_left', false_or, ne_eq, not_false_eq_true, true_and]
      split_ifs with hmean hgreen
      · simp [hmean]
      · simp [hgreen]
      · simp [hmean, hgreen]

/-- **More urgency** never makes a call wait that would charge with less. -/
theorem charges_of_raised {c : ImportPriceCall} {urgency : ℚ} (hraised : c.urgency ≤ urgency) (h : Charges c) :
    Charges { c with urgency := urgency } := by
  obtain ⟨current, hcurrent, hforecast, hcharges⟩ := charges_iff.mp h
  refine charges_iff.mpr ⟨current, hcurrent, hforecast, ?_⟩
  rcases hcharges with hrisk | ⟨average, haverage, hmean | hgreen⟩
  · exact .inl (hrisk.trans hraised)
  · exact .inr ⟨average, haverage, .inl ⟨hmean.1.trans hraised, hmean.2⟩⟩
  · exact .inr ⟨average, haverage, .inr hgreen⟩

/-! ### Cheap prices -/

/-- A call below the deadline risk charges only at a price of at most the average of the window. -/
def CheapIsAtMostAverage (c : ImportPriceCall) : Prop :=
  c.urgency < importDeadlineRiskUrgency → Charges c →
    ∃ current ∈ c.currentImportSekKwh, ∃ average ∈ averagePrice c.slots, c.periodPrice current ≤ average

/-- The price lies above the average of the window, and yet in its green tier. -/
def GreenAboveAverage (c : ImportPriceCall) : Prop :=
  ∃ current ∈ c.currentImportSekKwh, ∃ average ∈ averagePrice c.slots,
    average < c.periodPrice current ∧ c.periodPrice current ≤ average * greenPriceRatio

theorem averagePrice_nil : averagePrice [] = none := rfl

/-- A window with an average is a window on a forecast that is not empty. -/
theorem importForecast_ne_nil {c : ImportPriceCall} {average : ℚ} (h : average ∈ averagePrice c.slots) :
    c.importForecast ≠ [] := by
  intro hempty
  have hslots : c.slots = [] := by
    rw [ImportPriceCall.slots, windowPrices, hempty, List.filter_nil]
  rw [hslots, averagePrice_nil] at h
  exact absurd h (Option.not_mem_none average)

theorem cheapIsAtMostAverage_iff {c : ImportPriceCall} :
    CheapIsAtMostAverage c ↔ (c.urgency < importDeadlineRiskUrgency → ¬ GreenAboveAverage c) := by
  constructor
  · intro h hurgency hgreen
    obtain ⟨current, hcurrent, average, haverage, habove, htier⟩ := hgreen
    have hcharges : Charges c :=
      charges_iff.mpr ⟨current, hcurrent, importForecast_ne_nil haverage, .inr ⟨average, haverage, .inr htier⟩⟩
    obtain ⟨current', hcurrent', average', haverage', hle⟩ := h hurgency hcharges
    rw [Option.mem_unique hcurrent' hcurrent, Option.mem_unique haverage' haverage] at hle
    exact absurd hle (not_le.mpr habove)
  · intro h hurgency hcharges
    obtain ⟨current, hcurrent, -, hrisk | ⟨average, haverage, hmean | htier⟩⟩ := charges_iff.mp hcharges
    · exact absurd hrisk (not_le.mpr hurgency)
    · exact ⟨current, hcurrent, average, haverage, hmean.2⟩
    · refine ⟨current, hcurrent, average, haverage, ?_⟩
      by_contra hnot
      exact h hurgency ⟨current, hcurrent, average, haverage, not_le.mp hnot, htier⟩

/-- **A charge means a price of at most the average**, and more urgency more charges, exactly where the price does not
lie between a negative average and its smaller part. -/
theorem importCharges_iff (c : ImportPriceCall) :
    (CheapIsAtMostAverage c ∧ ∀ urgency, c.urgency ≤ urgency → Charges c → Charges { c with urgency := urgency })
      ↔ (c.urgency < importDeadlineRiskUrgency → ¬ GreenAboveAverage c) := by
  constructor
  · intro h
    exact cheapIsAtMostAverage_iff.mp h.1
  · intro h
    exact ⟨cheapIsAtMostAverage_iff.mpr h, fun _ hraised => charges_of_raised hraised⟩

/-- Two periods in which the import is paid for. -/
def paidForImport : ImportPriceCall :=
  { now := 0, currentImportSekKwh := some (-9 / 10), importForecast := [(0, -9 / 10), (900, -11 / 10)] }

/-- **Green above the average.** With the prices -0.90 and -1.10, a call charges at the dearer one. -/
theorem paidForImport_charges : paidForImport.urgency < importDeadlineRiskUrgency ∧ Charges paidForImport
      ∧ averagePrice paidForImport.slots = some (-1) ∧ paidForImport.periodPrice (-9 / 10) = -9 / 10
      ∧ ¬ CheapIsAtMostAverage paidForImport := by
  have hgreen : GreenAboveAverage paidForImport :=
    ⟨-9 / 10, rfl, -1, by decide +kernel, by decide +kernel, by decide +kernel⟩
  refine ⟨by decide +kernel, by decide +kernel, by decide +kernel, by decide +kernel, fun h => ?_⟩
  exact cheapIsAtMostAverage_iff.mp h (by decide +kernel) hgreen

end EnergyCore.Charging
