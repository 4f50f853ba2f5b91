import EnergyCore.Accounting.Attribution

/-!
# Reconciliation and session totals

`SessionReconciliationService.reconcile` and `session_totals_from_intervals`: the totals that a session
row carries, from its intervals and the meter.
-/

namespace EnergyCore.Accounting

structure ReconciliationResult where
  attribution : EnergyAttribution
  measuredKwh : Option ℚ
  attributedKwh : ℚ
  deltaKwh : ℚ
  note : String
  energyQuality : String
  deriving Repr, DecidableEq

/-- `reconcile`: the attribution is scaled to the meter, unless the meter shows nothing for a session
that charged. -/
def reconcile (a : EnergyAttribution) (measuredKwh : Option ℚ) (attributedKwh : ℚ) : ReconciliationResult :=
  match measuredKwh with
  | none =>
    { attribution := a, measuredKwh := none, attributedKwh := attributedKwh, deltaKwh := 0
      note := "no_meter_reading", energyQuality := "ESTIMATED" }
  | some measured =>
    let delta := measured - attributedKwh
    if measured ≤ 0 ∧ attributedKwh > attributionToleranceKwh then
      { attribution := a, measuredKwh := some measured, attributedKwh := attributedKwh
        deltaKwh := delta, note := "meter_register_reset", energyQuality := "ESTIMATED" }
    else if |delta| ≤ attributionToleranceKwh then
      { attribution := a, measuredKwh := some measured, attributedKwh := attributedKwh
        deltaKwh := delta, note := "within_tolerance", energyQuality := "MEASURED" }
    else
      { attribution :=
          if attributedKwh > 0 then scaleAttribution a measured
          else { gridDirectKwh := measured }
        measuredKwh := some measured, attributedKwh := attributedKwh, deltaKwh := delta
        note := "scaled_to_meter", energyQuality := "MEASURED" }

/-- The derived fields of a completed session row. -/
structure SessionTotals where
  totalEnergyKwh : ℚ
  attribution : EnergyAttribution
  actualCostSek : ℚ
  referenceCostSek : Option ℚ
  savingsSek : Option ℚ
  smartChargingSavingsSek : Option ℚ
  solarContributionSek : ℚ
  renewableSharePct : ℚ
  gridSharePct : ℚ
  energyQuality : String
  costQuality : String
  attributionQuality : String
  reconciliationDeltaKwh : ℚ
  reconciliationNote : String
  deriving Repr, DecidableEq

def sumAttribution (intervals : List ChargingInterval) : EnergyAttribution :=
  { solarDirectKwh := (intervals.map (·.attribution.solarDirectKwh)).sum
    solarBatteryKwh := (intervals.map (·.attribution.solarBatteryKwh)).sum
    gridBatteryKwh := (intervals.map (·.attribution.gridBatteryKwh)).sum
    gridDirectKwh := (intervals.map (·.attribution.gridDirectKwh)).sum }

/-- The sum of the reference costs that exist, if it is positive. -/
def sumReferenceCost (intervals : List ChargingInterval) : Option ℚ :=
  let sum := (intervals.filterMap (·.referenceCostSek)).sum
  if sum > 0 then some sum else none

/-- `recon.attribution.total_kwh or measured_kwh or 0.0`. -/
def sessionTotalKwh (recon : ReconciliationResult) (measuredKwh : ℚ) : ℚ :=
  if recon.attribution.totalKwh ≠ 0 then recon.attribution.totalKwh else measuredKwh

def sharePct (part total : ℚ) : ℚ := if total > 0 then part / total * 100 else 0

/-- `session_totals_from_intervals`. -/
def sessionTotalsFromIntervals (intervals : List ChargingInterval) (measuredKwh : Option ℚ)
    (meterQuality : String) : SessionTotals :=
  let attributedKwh := (intervals.map (·.chargedEnergyKwh)).sum
  let meterQuality := if measuredKwh.isNone then "ESTIMATED" else meterQuality
  let measured := measuredKwh.getD attributedKwh
  let recon := reconcile (sumAttribution intervals) (some measured) attributedKwh
  let actualCost := (intervals.map (·.actualCostSek)).sum
  let referenceCost := sumReferenceCost intervals
  let savings := referenceCost.map (· - actualCost)
  let total := sessionTotalKwh recon measured
  { totalEnergyKwh := total
    attribution := recon.attribution
    actualCostSek := actualCost
    referenceCostSek := referenceCost
    savingsSek := savings
    smartChargingSavingsSek := savings
    solarContributionSek :=
      (intervals.map fun i => solarContributionSek i.attribution i.electricityPriceSekKwh).sum
    renewableSharePct := sharePct recon.attribution.renewableKwh total
    gridSharePct := sharePct recon.attribution.gridKwh total
    energyQuality := if meterQuality = "MEASURED" then recon.energyQuality else meterQuality
    costQuality := if referenceCost.isSome then "CALCULATED" else "INCOMPLETE"
    attributionQuality := "CALCULATED"
    reconciliationDeltaKwh := recon.deltaKwh
    reconciliationNote := recon.note }

end EnergyCore.Accounting
