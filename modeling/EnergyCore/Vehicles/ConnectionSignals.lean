import EnergyCore.Accounting.EnergyModels

/-!
# Connection signals

`vehicles/connection_signals.py` and the away test of `charging_intelligence/location.py`: whether a vehicle
is plugged in and charging, from its telemetry, the home charger and their correlation.

* `resolveMercedesCharging_of_not_plugged` — a vehicle that is not reported as plugged in charges by its flag or power;
* `resolveEffectiveConnection_coherent_iff` — which signals are resolved to charging without being plugged in.
-/

namespace EnergyCore.Vehicles

open Accounting

/-! ### Telemetry -/

def staleTelemetrySeconds : ℚ := 300

def powerChargingThresholdKw : ℚ := 3 / 10

/-- The fields of `VehicleStateLatestModel` that the session service reads. -/
structure VehicleStateLatest where
  stateOfChargePercent : Option ℚ := none
  targetSocPercent : Option ℚ := none
  isPluggedIn : Option Bool := none
  isCharging : Option Bool := none
  chargingPowerKw : Option ℚ := none
  latitude : Option ℚ := none
  longitude : Option ℚ := none
  chargingUpdatedAt : Option Instant := none
  lastVehicleUpdate : Option Instant := none
  deriving Repr, DecidableEq

structure HaloCorrelation where
  status : Option String := none
  pluggedAgreement : Option Bool := none
  deriving Repr, DecidableEq

def ageSeconds (timestamp : Option Instant) (now : Instant) : Option ℚ :=
  timestamp.map fun t => max 0 (now - t)

/-- An unknown age counts as old. -/
def isStaleAge (age : Option ℚ) : Bool := age.all fun a => decide (a > staleTelemetrySeconds)

/-- A positive power that is left over from an earlier charge is ignored. -/
def trustedPowerKw (isCharging : Option Bool) (chargingPowerKw : Option ℚ)
    (chargingUpdatedAt : Option Instant) (now : Instant) : ℚ :=
  if isCharging = some false ∧ isStaleAge (ageSeconds chargingUpdatedAt now) then 0
  else chargingPowerKw.getD 0

/-! ### Effective connection -/

structure EffectiveConnection where
  isPluggedIn : Bool
  isCharging : Bool
  deriving Repr, DecidableEq

/-- `infer_plugged_in_from_mercedes`, called without a status label. -/
def inferPluggedInFromMercedes (isPluggedIn isCharging : Option Bool) (powerKw : ℚ) : Option Bool :=
  if isPluggedIn = some false then some false
  else if isPluggedIn = some true then some true
  else if isCharging = some true then some true
  else if powerKw ≥ powerChargingThresholdKw then some true
  else if isCharging = some false ∧ powerKw < powerChargingThresholdKw then some false
  else none

/-- `_resolve_mercedes_charging`. -/
def resolveMercedesCharging (latest : VehicleStateLatest) (now : Instant) : Bool :=
  let chAge := ageSeconds latest.chargingUpdatedAt now
  let powerKw :=
    trustedPowerKw latest.isCharging latest.chargingPowerKw latest.chargingUpdatedAt now
  if latest.isCharging = some true then true
  else if powerKw ≥ powerChargingThresholdKw then true
  else if latest.isCharging = some false ∧ chAge.any (fun a => decide (a ≤ staleTelemetrySeconds)) then
    false
  else if latest.isPluggedIn = some true ∧ chAge.any (fun a => decide (a > staleTelemetrySeconds)) then
    true
  else latest.isCharging.getD false

/-- `resolve_effective_connection`. -/
def resolveEffectiveConnection (latest : Option VehicleStateLatest)
    (haloVehicleConnected haloChargerActive pluggedAgreement : Option Bool) (now : Instant) : EffectiveConnection :=
  match latest with
  | none => ⟨false, false⟩
  | some latest =>
    let powerKw :=
      trustedPowerKw latest.isCharging latest.chargingPowerKw latest.chargingUpdatedAt now
    let mercedesCharging := resolveMercedesCharging latest now
    let mercedesPlugged := inferPluggedInFromMercedes latest.isPluggedIn latest.isCharging powerKw
    let rawPowerKw := latest.chargingPowerKw.getD 0
    let chAge := ageSeconds latest.chargingUpdatedAt now
    if latest.isPluggedIn = some true then
      if pluggedAgreement = some false ∧ ¬ mercedesCharging then ⟨false, false⟩
      else ⟨true, mercedesCharging⟩
    else if latest.isCharging = some false ∧ rawPowerKw ≥ powerChargingThresholdKw ∧
        isStaleAge chAge then ⟨false, false⟩
    else if pluggedAgreement = some false ∧ ¬ mercedesCharging then ⟨false, false⟩
    else if haloVehicleConnected = some false ∧ latest.isPluggedIn ≠ some true ∧
        ¬ mercedesCharging ∧ powerKw < powerChargingThresholdKw then ⟨false, false⟩
    else if mercedesPlugged = some false then ⟨false, mercedesCharging⟩
    else if mercedesPlugged = some true then ⟨true, mercedesCharging⟩
    else if haloVehicleConnected = some true then
      ⟨true, mercedesCharging || haloChargerActive.getD false⟩
    else if ¬ mercedesCharging ∧ powerKw < powerChargingThresholdKw then ⟨false, false⟩
    else ⟨false, mercedesCharging⟩

/-! ### Charging and plugged in -/

section

variable {latest : VehicleStateLatest} {now : Instant}

/-- The telemetry reports a charge: by its flag, or by a power that is not left over. -/
def reportsCharge (latest : VehicleStateLatest) (now : Instant) : Prop :=
  latest.isCharging = some true ∨
    trustedPowerKw latest.isCharging latest.chargingPowerKw latest.chargingUpdatedAt now ≥ powerChargingThresholdKw

instance : Decidable (reportsCharge latest now) := inferInstanceAs (Decidable (_ ∨ _))

/-- Stale telemetry makes a vehicle charge only if it is reported as plugged in. -/
theorem resolveMercedesCharging_of_not_plugged (hplug : latest.isPluggedIn ≠ some true) :
    resolveMercedesCharging latest now = true ↔ reportsCharge latest now := by
  unfold resolveMercedesCharging reportsCharge
  dsimp only
  by_cases hflag : latest.isCharging = some true
  · rw [if_pos hflag]
    exact iff_of_true rfl (.inl hflag)
  · rw [if_neg hflag]
    by_cases hpower : trustedPowerKw latest.isCharging latest.chargingPowerKw latest.chargingUpdatedAt now
        ≥ powerChargingThresholdKw
    · rw [if_pos hpower]
      exact iff_of_true rfl (.inr hpower)
    · rw [if_neg hpower, if_neg (fun h => hplug h.1 :
        ¬ (latest.isPluggedIn = some true ∧ _))]
      refine iff_of_false (fun h => ?_) fun h => h.elim hflag hpower
      split_ifs at h
      cases hcharging : latest.isCharging with
      | none =>
        rw [hcharging] at h
        cases h
      | some flag =>
        rw [hcharging] at h hflag
        exact hflag (congrArg some h)

/-- A charge that is reported is not that of left-over power. -/
theorem not_leftOver_of_reportsCharge (h : reportsCharge latest now) :
    ¬ (latest.isCharging = some false ∧ latest.chargingPowerKw.getD 0 ≥ powerChargingThresholdKw ∧
      isStaleAge (ageSeconds latest.chargingUpdatedAt now) = true) := by
  rintro ⟨hflag, -, hstale⟩
  rcases h with h | h
  · rw [hflag] at h
    cases h
  · unfold trustedPowerKw at h
    rw [if_pos ⟨hflag, hstale⟩] at h
    exact absurd h (by unfold powerChargingThresholdKw; norm_num)

/-- Without a reported charge, a vehicle that is not reported as plugged in charges only with the home charger. -/
theorem coherent_of_not_reportsCharge {haloVehicleConnected haloChargerActive pluggedAgreement : Option Bool}
    (hplug : latest.isPluggedIn ≠ some true) (h : ¬ reportsCharge latest now)
    (hcharging : (resolveEffectiveConnection (some latest) haloVehicleConnected haloChargerActive pluggedAgreement
      now).isCharging = true) :
    (resolveEffectiveConnection (some latest) haloVehicleConnected haloChargerActive pluggedAgreement now).isPluggedIn
      = true := by
  have hidle : resolveMercedesCharging latest now = false :=
    Bool.eq_false_iff.mpr fun hmercedes => h ((resolveMercedesCharging_of_not_plugged hplug).mp hmercedes)
  unfold resolveEffectiveConnection at hcharging ⊢
  simp only [hidle, if_neg hplug] at hcharging ⊢
  split_ifs at hcharging ⊢
  rfl

/-- A reported charge is taken over, with the plug as the telemetry reports it, or as plugged in where it is silent. -/
theorem resolve_of_reportsCharge {haloVehicleConnected haloChargerActive pluggedAgreement : Option Bool}
    (hplug : latest.isPluggedIn ≠ some true) (h : reportsCharge latest now) :
    resolveEffectiveConnection (some latest) haloVehicleConnected haloChargerActive pluggedAgreement now
      = ⟨latest.isPluggedIn.isNone, true⟩ := by
  have hmercedes : resolveMercedesCharging latest now = true := (resolveMercedesCharging_of_not_plugged hplug).mpr h
  have hinferred : inferPluggedInFromMercedes latest.isPluggedIn latest.isCharging
      (trustedPowerKw latest.isCharging latest.chargingPowerKw latest.chargingUpdatedAt now)
        = some latest.isPluggedIn.isNone := by
    unfold inferPluggedInFromMercedes
    cases hreported : latest.isPluggedIn with
    | some plug =>
      cases plug with
      | true => exact absurd hreported hplug
      | false => rfl
    | none =>
      rcases h with hflag | hpower
      · rw [hflag]
        rfl
      · rw [if_neg (by decide), if_neg (by decide)]
        split_ifs
        · rfl
        · rfl
  unfold resolveEffectiveConnection
  simp only [hmercedes, hinferred, if_neg hplug, if_neg (not_leftOver_of_reportsCharge h)]
  cases latest.isPluggedIn with
  | none => simp
  | some plug => simp

/-- **Charging implies plugged in**, unless the telemetry reports a charge of a vehicle that it reports as unplugged. -/
theorem resolveEffectiveConnection_coherent_iff (latest : Option VehicleStateLatest)
    (haloVehicleConnected haloChargerActive pluggedAgreement : Option Bool) (now : Instant) :
    ((resolveEffectiveConnection latest haloVehicleConnected haloChargerActive pluggedAgreement now).isCharging = true →
      (resolveEffectiveConnection latest haloVehicleConnected haloChargerActive pluggedAgreement now).isPluggedIn
        = true) ↔ ∀ l ∈ latest, ¬ (l.isPluggedIn = some false ∧ reportsCharge l now) := by
  cases latest with
  | none => exact iff_of_true (fun h => by cases h) fun l hl => by cases hl
  | some latest =>
    have hall : (∀ l ∈ some latest, ¬ (l.isPluggedIn = some false ∧ reportsCharge l now)) ↔
        ¬ (latest.isPluggedIn = some false ∧ reportsCharge latest now) := by
      simp
    rw [hall]
    by_cases hplug : latest.isPluggedIn = some true
    · refine iff_of_true ?_ fun h => by rw [hplug] at h; cases h.1
      unfold resolveEffectiveConnection
      simp only [if_pos hplug]
      split_ifs
      · exact id
      · exact fun _ => rfl
    · by_cases hreports : reportsCharge latest now
      · rw [resolve_of_reportsCharge hplug hreports]
        cases hreported : latest.isPluggedIn with
        | none => exact iff_of_true (fun _ => rfl) fun h => by cases h.1
        | some plug =>
          cases plug with
          | true => exact absurd hreported hplug
          | false => exact iff_of_false (fun h => by cases h rfl) fun h => h ⟨rfl, hreports⟩
      · exact iff_of_true (coherent_of_not_reportsCharge hplug hreports) fun h => hreports h.2

/-- **A vehicle that charges unplugged**, as its telemetry reports it. -/
theorem charging_unresolved :
    (resolveEffectiveConnection (some { isPluggedIn := some false, isCharging := some true, chargingUpdatedAt := some 0 })
        none none none 10).isCharging = true ∧
      (resolveEffectiveConnection (some { isPluggedIn := some false, isCharging := some true, chargingUpdatedAt := some 0 })
        none none none 10).isPluggedIn = false := by decide +kernel

end

/-! ### Away from home -/

/-- `is_away_charging`: the vehicle shows activity that the home charger does not. -/
def isAwayCharging (halo : Option HaloCorrelation) (mercedesPlugged mercedesCharging : Option Bool)
    (mercedesPowerKw : Option ℚ) (haloChargerActive : Option Bool) : Bool :=
  let charging :=
    if mercedesCharging.isNone ∧ mercedesPowerKw.any (fun p => decide (p ≥ 3 / 10)) then some true
    else mercedesCharging
  let plugged := if mercedesPlugged.isNone ∧ charging.getD false then some true else mercedesPlugged
  if ¬ (plugged.getD false ∨ charging.getD false) then false
  else if halo.any (fun h => decide (h.status = some "MISMATCH")) then true
  else decide (haloChargerActive = some false)

end EnergyCore.Vehicles
