import EnergyCore.Vehicles.VehicleSessions

/-!
# The lifecycle of vehicle sessions

Which calls keep the promise that no call raises, that a vehicle never has two active sessions, and that an
unplugged vehicle has none.

* `completeAwaySession_raises` — an away session is never completed: every attempt raises;
* `completeSession_ok`, `create` — the keywords of the other calls are distinct;
* `lifecycle_run_iff` — a run keeps the promise exactly if no call tries to close an away session, or to mark
  a session of an unplugged vehicle as stale.
-/

namespace EnergyCore.Vehicles

open Accounting KeywordFields OpenRows StepRun
open SessionColumns

/-! ### Keywords that come twice -/

theorem callKeywords_csi_ok {explicit csi : SessionColumns} (hcsi : Fields.keys csi = csiKeys)
    (h : ∀ k ∈ csiKeys, k ∉ Fields.keys explicit) : callKeywords explicit csi = .ok (explicit ++ csi) :=
  callKeywords_ok (by rw [hcsi]; exact h)

/-- Every attempt to complete an away session gives `charging_cost_sek` twice. -/
theorem completeAwaySession_raises (s : VehicleAccounting) (active : VehicleSession)
    (call : VehicleCall) : ∃ e, s.completeAwaySession active call = .error e := by
  have hkeys : Fields.keys (mergeCsiFields active.columns (call.sessionFields call.awayContext))
      = csiKeys := keys_mergeCsiFields (call.keys_sessionFields _)
  have hcost : "charging_cost_sek" ∈
      Fields.keys (mergeCsiFields active.columns (call.sessionFields call.awayContext)) := by
    rw [hkeys]
    decide
  have hexplicit : "charging_cost_sek" ∈ Fields.keys (awayCompletion active call) := by
    show "charging_cost_sek" ∈ ["disconnected_at", "end_soc", "halo_energy_kwh",
      "estimated_battery_energy_delta_kwh", "charging_cost_sek", "cost_source", "price_model",
      "price_value_sek_kwh", "energy_quality", "cost_quality", "attribution_quality"]
    decide
  obtain ⟨e, he⟩ := callKeywords_error hcost hexplicit
  exact ⟨e, by rw [VehicleAccounting.completeAwaySession, he]; rfl⟩

/-- Marking the fields of a session as stale gives `vehicle_data_quality` twice. -/
theorem callKeywords_stale_raises {csi : SessionColumns} (hcsi : Fields.keys csi = csiKeys) :
    ∃ e, callKeywords staleField csi = .error e := by
  have hquality : "vehicle_data_quality" ∈ Fields.keys csi := by
    rw [hcsi]
    decide
  exact callKeywords_error hquality List.mem_cons_self

theorem callKeywords_create_ok (call : VehicleCall) (chargerId : Option ℕ) (connectedAt : Instant)
    (meterStartKwh : Option ℚ) (context : ChargingSessionContext) :
    callKeywords (call.createKeywords chargerId connectedAt meterStartKwh) (call.sessionFields context)
      = .ok (call.createKeywords chargerId connectedAt meterStartKwh ++ call.sessionFields context) := by
  refine callKeywords_csi_ok (call.keys_sessionFields context) ?_
  show ∀ k ∈ csiKeys, k ∉ ["vehicle_id", "charger_id", "site_id", "connected_at", "start_soc",
    "target_soc", "meter_start_kwh", "identification_confidence", "savings_baseline",
    "calculation_version"]
  decide

theorem callKeywords_createLinked_ok (call : VehicleCall) (chargerId : Option ℕ)
    (connectedAt : Instant) (meterStartKwh : Option ℚ) (evSession : Option ℕ) (context : ChargingSessionContext) :
    callKeywords (call.createKeywords chargerId connectedAt meterStartKwh ++
        [("ev_charging_session_id", .ofNat evSession)]) (call.sessionFields context)
      = .ok (call.createKeywords chargerId connectedAt meterStartKwh ++
        [("ev_charging_session_id", .ofNat evSession)] ++ call.sessionFields context) := by
  refine callKeywords_csi_ok (call.keys_sessionFields context) ?_
  show ∀ k ∈ csiKeys, k ∉ ["vehicle_id", "charger_id", "site_id", "connected_at", "start_soc",
    "target_soc", "meter_start_kwh", "identification_confidence", "savings_baseline",
    "calculation_version", "ev_charging_session_id"]
  decide

theorem callKeywords_linked_ok (active : VehicleSession) (call : ChargerCall) (intervals : List ChargingInterval) :
    callKeywords (linkedCompletion active call intervals) (call.sessionFields call.context)
      = .ok (linkedCompletion active call intervals ++ call.sessionFields call.context) := by
  refine callKeywords_csi_ok (call.keys_sessionFields _) ?_
  show ∀ k ∈ csiKeys, k ∉ ["disconnected_at", "end_soc", "meter_stop_kwh", "halo_energy_kwh",
    "estimated_battery_energy_delta_kwh", "solar_direct_kwh", "solar_battery_kwh",
    "grid_battery_kwh", "grid_direct_kwh", "actual_cost_sek", "reference_cost_sek", "savings_sek",
    "smart_charging_savings_sek", "solar_contribution_sek", "renewable_share_pct", "grid_share_pct",
    "energy_quality", "cost_quality", "attribution_quality", "reconciliation_delta_kwh",
    "reconciliation_note"]
  decide

theorem callKeywords_own_ok (active : VehicleSession) (call : ChargerCall) (intervals : List ChargingInterval) :
    callKeywords (ownCompletion active call intervals) (call.sessionFields call.context)
      = .ok (ownCompletion active call intervals ++ call.sessionFields call.context) := by
  refine callKeywords_csi_ok (call.keys_sessionFields _) ?_
  show ∀ k ∈ csiKeys, k ∉ ["disconnected_at", "end_soc", "meter_stop_kwh", "halo_energy_kwh",
    "estimated_battery_energy_delta_kwh", "solar_direct_kwh", "solar_battery_kwh",
    "grid_battery_kwh", "grid_direct_kwh", "actual_cost_sek", "reference_cost_sek", "savings_sek",
    "renewable_share_pct", "grid_share_pct", "energy_quality", "cost_quality",
    "attribution_quality", "reconciliation_delta_kwh", "reconciliation_note"]
  decide

/-! ### What the repository keeps -/

/-- The session table numbers its rows, and no vehicle has two active sessions. -/
def VehicleAccounting.WellKept (s : VehicleAccounting) : Prop :=
  vehicleSessionTable.WellKept s.sessions

namespace VehicleAccounting

variable {s : VehicleAccounting}

theorem WellKept.updateCsiFields (h : s.WellKept) (sessionId : ℕ) (fields : SessionColumns) :
    (s.updateCsiFields sessionId fields).WellKept :=
  Schema.WellKept.update h sessionId (fun _ => rfl) (fun _ => rfl) fun _ hr => hr

theorem WellKept.complete (h : s.WellKept) (sessionId : ℕ) (fields : SessionColumns) :
    (s.complete sessionId fields).WellKept :=
  Schema.WellKept.update h sessionId (fun _ => rfl) (fun _ => rfl)
    fun _ hr => absurd hr Bool.false_ne_true

theorem WellKept.create (h : s.WellKept) {vehicleId : ℕ}
    (hnone : s.getActiveForVehicle vehicleId = none) (siteId : ℕ) (connectedAt : Instant)
    (fields : SessionColumns) : (s.create vehicleId siteId connectedAt fields).WellKept :=
  Schema.WellKept.append h rfl hnone

theorem WellKept.trackCharging (h : s.WellKept) (active : VehicleSession) (call : ChargerCall)
    (isCharging wasCharging : Bool) : (s.trackCharging active call isCharging wasCharging).WellKept := by
  unfold VehicleAccounting.trackCharging
  split_ifs
  · exact h.updateCsiFields _ _
  · exact h.updateCsiFields _ _
  · exact h.updateCsiFields _ _

theorem WellKept.linkEvSession (h : s.WellKept) (active : VehicleSession) (call : ChargerCall) :
    (s.linkEvSession active call).WellKept := by
  unfold VehicleAccounting.linkEvSession
  split_ifs
  · exact h.updateCsiFields _ _
  · exact h

/-- Writing columns keeps the active session of a vehicle. -/
theorem getActiveForVehicle_updateCsiFields (h : s.WellKept) {vehicleId : ℕ}
    {active : VehicleSession} (hactive : s.getActiveForVehicle vehicleId = some active)
    (sessionId : ℕ) (fields : SessionColumns) :
    ∃ active', (s.updateCsiFields sessionId fields).getActiveForVehicle vehicleId = some active' ∧
      active'.id = active.id := by
  refine ⟨_, Schema.WellKept.openRow_update h hactive sessionId (fun _ => rfl) (fun _ => rfl)
    (fun _ => rfl), ?_⟩
  split_ifs
  · rfl
  · rfl

/-- Completing the active session of a vehicle leaves none. -/
theorem getActiveForVehicle_complete (h : s.WellKept) {vehicleId : ℕ} {active : VehicleSession}
    (hactive : s.getActiveForVehicle vehicleId = some active) (fields : SessionColumns) :
    (s.complete active.id fields).getActiveForVehicle vehicleId = none :=
  Schema.WellKept.openRow_update_of_closed h hactive fun _ => rfl

/-! ### The two completions -/

/-- A session at home is completed without an error, and none is left active. -/
theorem completeSession_ok (h : s.WellKept) {active : VehicleSession} {call : ChargerCall}
    (hactive : s.getActiveForVehicle call.vehicleId = some active) :
    ∃ s', s.completeSession active call = .ok s' ∧ s'.WellKept ∧ s'.getActiveForVehicle call.vehicleId = none := by
  unfold completeSession
  simp only [callKeywords_linked_ok, callKeywords_own_ok]
  split_ifs
  · exact ⟨_, rfl, h.complete _ _, getActiveForVehicle_complete h hactive _⟩
  · have hstopped : (s.updateChargingTimestamps active.id none (some call.meter.recordedAt)
        none).WellKept := h.updateCsiFields _ _
    obtain ⟨active', hactive', hid⟩ : ∃ active', (s.updateChargingTimestamps active.id none
        (some call.meter.recordedAt) none).getActiveForVehicle call.vehicleId = some active' ∧
        active'.id = active.id := getActiveForVehicle_updateCsiFields h hactive _ _
    refine ⟨_, rfl, hstopped.complete _ _, ?_⟩
    have hnone := getActiveForVehicle_complete hstopped hactive'
    rw [hid] at hnone
    exact hnone _
  · exact ⟨_, rfl, h.complete _ _, getActiveForVehicle_complete h hactive _⟩

/-- What a call away from home does: it raises exactly when it finds an active session and no plug. -/
theorem processVehicleWithoutCharger_spec (h : s.WellKept) (call : VehicleCall) (haloActive : Option Bool) :
    (s.processVehicleWithoutCharger call haloActive).1.WellKept ∧
      ((∃ e, (s.processVehicleWithoutCharger call haloActive).2 = .error e) ↔
        s.getActiveForVehicle call.vehicleId ≠ none ∧ (call.connection haloActive none).isPluggedIn = false) ∧
      (s.getActiveForVehicle call.vehicleId = none → (call.connection haloActive none).isPluggedIn = false →
        (s.processVehicleWithoutCharger call haloActive).1.getActiveForVehicle call.vehicleId = none) := by
  unfold processVehicleWithoutCharger
  cases hactive : s.getActiveForVehicle call.vehicleId with
  | none =>
    simp only [callKeywords_create_ok]
    split_ifs with hopened
    · refine ⟨h.create hactive _ _ _, ?_, ?_⟩
      · simp
      · intro _ hunplugged
        rw [hunplugged] at hopened
        exact absurd hopened.1 (by simp)
    · exact ⟨h, by simp, fun _ _ => hactive⟩
  | some active =>
    have hupdated := h.updateCsiFields active.id (awayUpdate active call (call.connection haloActive none) haloActive)
    obtain ⟨e, he⟩ := completeAwaySession_raises (s.updateCsiFields active.id
      (awayUpdate active call (call.connection haloActive none) haloActive)) active call
    simp only [he]
    by_cases hplugged : (call.connection haloActive none).isPluggedIn = true
    · rw [if_neg (not_not.mpr hplugged)]
      refine ⟨?_, by simp [hplugged], fun hnone => absurd hnone (by simp)⟩
      split_ifs
      · exact hupdated.updateCsiFields _ _
      · exact hupdated
    · rw [if_pos hplugged]
      exact ⟨hupdated, iff_of_true ⟨e, rfl⟩ ⟨by simp, by simpa using hplugged⟩,
        fun hnone => absurd hnone (by simp)⟩

/-- What a call at the home charger does: it raises exactly when it finds an active session, no plug, old
telemetry and an active charger. -/
theorem processVehicle_spec (h : s.WellKept) (call : ChargerCall)
    {connection : EffectiveConnection} (hconnection : call.connection (some (haloChargerActive call.meter))
      (some call.meter.vehicleConnected) = connection)
    (hhome : call.isAway connection (some (haloChargerActive call.meter)) = false) :
    (s.processVehicle call).1.WellKept ∧ ((∃ e, (s.processVehicle call).2 = .error e) ↔
        s.getActiveForVehicle call.vehicleId ≠ none ∧ connection.isPluggedIn = false ∧
          (vehicleDataStale call.latest call.clock && chargerActive call.meter) = true) ∧
      (connection.isPluggedIn = false → (vehicleDataStale call.latest call.clock && chargerActive call.meter) = false →
        (s.processVehicle call).1.getActiveForVehicle call.vehicleId = none) := by
  unfold processVehicle
  simp only [hconnection, hhome, Bool.false_eq_true, if_false]
  cases hactive : s.getActiveForVehicle call.vehicleId with
  | none =>
    simp only [callKeywords_createLinked_ok]
    split_ifs with hopened hcharging
    · refine ⟨(h.create hactive _ _ _).updateCsiFields _ _, by simp, fun hunplugged => ?_⟩
      rw [hunplugged] at hopened
      exact absurd hopened.1 (by simp)
    · refine ⟨h.create hactive _ _ _, by simp, fun hunplugged => ?_⟩
      rw [hunplugged] at hopened
      exact absurd hopened.1 (by simp)
    · exact ⟨h, by simp, fun _ _ => hactive⟩
  | some active =>
    simp only
    by_cases hplugged : connection.isPluggedIn = true
    · rw [if_neg (not_not.mpr hplugged)]
      refine ⟨?_, by simp [hplugged], fun hunplugged => ?_⟩
      · have hupdated := h.updateCsiFields active.id (mergeCsiFields active.columns (call.sessionFields call.context))
        refine WellKept.linkEvSession (WellKept.trackCharging ?_ _ _ _ _) _ _
        split_ifs
        · exact hupdated.updateCsiFields _ _
        · exact hupdated
      · rw [hplugged] at hunplugged
        exact absurd hunplugged (by simp)
    · rw [if_pos hplugged]
      have hunplugged : connection.isPluggedIn = false := by simpa using hplugged
      by_cases hstale : vehicleDataStale call.latest call.clock = true ∧
          chargerActive call.meter = true
      · obtain ⟨e, he⟩ := callKeywords_stale_raises (call.keys_sessionFields call.context)
        rw [if_pos hstale, he]
        refine ⟨h, iff_of_true ⟨e, rfl⟩ ⟨by simp, hunplugged, ?_⟩, fun _ hfresh => ?_⟩
        · rw [hstale.1, hstale.2]
          rfl
        · rw [hstale.1, hstale.2] at hfresh
          exact absurd hfresh (by simp)
      · obtain ⟨s', hs', hkept, hnone⟩ := completeSession_ok h hactive
        rw [if_neg hstale, hs']
        refine ⟨hkept, iff_of_false (by simp) ?_, fun _ _ => hnone⟩
        rintro ⟨-, -, hboth⟩
        exact hstale (by simpa using hboth)

end VehicleAccounting

/-! ### Calls and runs -/

namespace VehicleEvent

def call : VehicleEvent → VehicleCall
  | withoutCharger call _ => call
  | process call => call.toVehicleCall

/-- The connection that a call at the home charger resolves first. -/
def homeConnection (call : ChargerCall) : EffectiveConnection :=
  call.connection (some (haloChargerActive call.meter)) (some call.meter.vehicleConnected)

/-- The call is handled as one away from home. -/
def isAway : VehicleEvent → Bool
  | withoutCharger _ _ => true
  | process call => call.isAway (homeConnection call) (some (haloChargerActive call.meter))

/-- The connection that a call acts on. -/
def connection : VehicleEvent → EffectiveConnection
  | withoutCharger call haloActive => call.connection haloActive none
  | process call =>
    if call.isAway (homeConnection call) (some (haloChargerActive call.meter)) then
      call.connection (some (haloChargerActive call.meter)) none
    else homeConnection call

/-- The telemetry is old while the home charger is active. -/
def isStaleWhileActive : VehicleEvent → Bool
  | withoutCharger _ _ => false
  | process call => vehicleDataStale call.latest call.clock && chargerActive call.meter

end VehicleEvent

/-- What a call promises: it does not raise, the vehicle has at most one active session afterwards, and
none if the call found it unplugged, unless its telemetry is old while the home charger is active. -/
structure KeepsLifecycle (s : VehicleAccounting) (e : VehicleEvent) : Prop where
  returns : ∃ id, (e.outcome s).2 = .ok id
  one : ((e.apply s).sessions.filter fun r =>
    decide (r.vehicleId = e.call.vehicleId) && decide (r.status = .active)).length ≤ 1
  closed : e.connection.isPluggedIn = false → (e.isAway = true ∨ e.isStaleWhileActive = false) →
    ∀ r ∈ (e.apply s).sessions, r.vehicleId = e.call.vehicleId → r.status ≠ .active

/-- A call that finds an active session and no plug is one at the home charger, and the telemetry is fresh
or the charger idle. -/
def ClosesAtHome (s : VehicleAccounting) (e : VehicleEvent) : Prop :=
  s.getActiveForVehicle e.call.vehicleId ≠ none → e.connection.isPluggedIn = false →
    e.isAway = false ∧ e.isStaleWhileActive = false

theorem getActiveForVehicle_eq_none_iff {s : VehicleAccounting} {vehicleId : ℕ} :
    s.getActiveForVehicle vehicleId = none ↔ ∀ r ∈ s.sessions, r.vehicleId = vehicleId → r.status ≠ .active := by
  rw [VehicleAccounting.getActiveForVehicle, openRow_eq_none_iff]
  constructor
  · intro h r hr hvehicle
    exact of_decide_eq_false (h r hr hvehicle)
  · intro h r hr hvehicle
    exact decide_eq_false (h r hr hvehicle)

theorem returns_iff (outcome : CallOutcome) : (∃ id, outcome = .ok id) ↔ ¬ ∃ e, outcome = .error e := by
  cases outcome with
  | ok id => simp
  | error e => simp

/-- When a call raises, and what it closes, for both entry points. -/
theorem outcome_spec {s : VehicleAccounting} (h : s.WellKept) (e : VehicleEvent) : (e.apply s).WellKept ∧
      ((∃ error, (e.outcome s).2 = .error error) ↔ s.getActiveForVehicle e.call.vehicleId ≠ none ∧
        e.connection.isPluggedIn = false ∧ (e.isAway = true ∨ e.isStaleWhileActive = true)) ∧
      (e.connection.isPluggedIn = false → (s.getActiveForVehicle e.call.vehicleId = none ∨ e.isAway = false) →
        (e.isAway = true ∨ e.isStaleWhileActive = false) →
        (e.apply s).getActiveForVehicle e.call.vehicleId = none) := by
  cases e with
  | withoutCharger call haloActive =>
    obtain ⟨hkept, hraises, hclosed⟩ := VehicleAccounting.processVehicleWithoutCharger_spec h call haloActive
    refine ⟨hkept, ?_, fun hunplugged hactive _ => ?_⟩
    · show (∃ error, (s.processVehicleWithoutCharger call haloActive).2 = .error error) ↔ _
      rw [hraises]
      exact and_congr_right fun _ => (and_iff_left (.inl rfl)).symm
    · exact hclosed (hactive.resolve_right (by simp [VehicleEvent.isAway])) hunplugged
  | process call =>
    cases haway : call.isAway (VehicleEvent.homeConnection call)
        (some (haloChargerActive call.meter)) with
    | true =>
      have heq : s.processVehicle call = s.processVehicleWithoutCharger call.toVehicleCall
          (some (haloChargerActive call.meter)) := by
        unfold VehicleAccounting.processVehicle
        simp only [← VehicleEvent.homeConnection.eq_def, haway, if_true]
      obtain ⟨hkept, hraises, hclosed⟩ := VehicleAccounting.processVehicleWithoutCharger_spec h
        call.toVehicleCall (some (haloChargerActive call.meter))
      rw [← heq] at hkept hraises hclosed
      have hconnection : (VehicleEvent.process call).connection
          = call.connection (some (haloChargerActive call.meter)) none := by
        simp only [VehicleEvent.connection, haway, if_true]
      rw [hconnection]
      refine ⟨hkept, ?_, fun hunplugged hactive _ => ?_⟩
      · show (∃ error, (s.processVehicle call).2 = .error error) ↔ _
        rw [hraises]
        exact and_congr_right fun _ => (and_iff_left (.inl haway)).symm
      · refine hclosed (hactive.resolve_right ?_) hunplugged
        rw [VehicleEvent.isAway, haway]
        simp
    | false =>
      have hconnection : (VehicleEvent.process call).connection
          = VehicleEvent.homeConnection call := by
        simp only [VehicleEvent.connection, haway, Bool.false_eq_true, if_false]
      have hhome : (VehicleEvent.process call).isAway = false := haway
      obtain ⟨hkept, hraises, hclosed⟩ := VehicleAccounting.processVehicle_spec h call rfl haway
      rw [hconnection, hhome]
      refine ⟨hkept, ?_, fun hunplugged _ hfresh => ?_⟩
      · show (∃ error, (s.processVehicle call).2 = .error error) ↔ _
        rw [hraises, or_iff_right Bool.false_ne_true]
        exact Iff.rfl
      · exact hclosed hunplugged (hfresh.resolve_left Bool.false_ne_true)

/-- **One call.** It keeps the table well kept, and the promise exactly if it does not close a session
away from home or under old telemetry. -/
theorem lifecycle_step {s : VehicleAccounting} (h : s.WellKept) (e : VehicleEvent) :
    (e.apply s).WellKept ∧ (KeepsLifecycle s e ↔ ClosesAtHome s e) := by
  obtain ⟨hkept, hraises, hclosed⟩ := outcome_spec h e
  refine ⟨hkept, ?_, ?_⟩
  · intro hkeeps hactive hunplugged
    have hreturns := (returns_iff _).mp hkeeps.returns
    rw [hraises] at hreturns
    constructor
    · exact Bool.eq_false_iff.mpr fun haway => hreturns ⟨hactive, hunplugged, .inl haway⟩
    · exact Bool.eq_false_iff.mpr fun hstale => hreturns ⟨hactive, hunplugged, .inr hstale⟩
  · intro hcloses
    refine ⟨(returns_iff _).mpr ?_, hkept.length_open_le_one _, fun hunplugged hcase => ?_⟩
    · rw [hraises]
      rintro ⟨hactive, hunplugged, hcase⟩
      obtain ⟨hhome, hfresh⟩ := hcloses hactive hunplugged
      rw [hhome, hfresh] at hcase
      exact absurd hcase (by simp)
    · refine getActiveForVehicle_eq_none_iff.mp (hclosed hunplugged ?_ hcase)
      by_cases hactive : s.getActiveForVehicle e.call.vehicleId = none
      · exact .inl hactive
      · exact .inr (hcloses hactive hunplugged).1

/-- **The lifecycle of vehicle sessions.** From every well kept table, a sequence of calls keeps its promises
exactly if every call that finds an active session and no plug is one at the home charger, with fresh
telemetry or an idle charger. -/
theorem lifecycle_run_iff (s : VehicleAccounting) (h : s.WellKept) (es : List VehicleEvent) :
    AllSteps VehicleEvent.apply KeepsLifecycle s es ↔ AllSteps VehicleEvent.apply ClosesAtHome s es := by
  have hsteps : AllSteps VehicleEvent.apply (fun _ _ => True) s es :=
    AllSteps.of_forall_mem fun _ _ => trivial
  exact AllSteps.congr_of_invariant (I := VehicleAccounting.WellKept)
    (fun _ e hs _ _ => (lifecycle_step hs e).1) (fun _ e hs _ => (lifecycle_step hs e).2) h hsteps

/-! ### A charge away from home -/

/-- The vehicle reports its plug, a minute ago. -/
def pluggedTelemetry (clock : Instant) (plugged : Bool) : VehicleStateLatest :=
  { isPluggedIn := some plugged
    isCharging := some false
    stateOfChargePercent := some 50
    chargingUpdatedAt := some (clock - 60)
    lastVehicleUpdate := some (clock - 60) }

def awayCall (clock : Instant) (plugged : Bool) : VehicleCall :=
  { vehicleId := 1
    siteId := 1
    clock := clock
    latest := some (pluggedTelemetry clock plugged)
    awayContext := {} }

def homeCall (clock : Instant) (plugged : Bool) : ChargerCall :=
  { awayCall clock plugged with
    chargerId := 1
    meter := { recordedAt := clock, cumulativeKwh := some 10, vehicleConnected := plugged }
    context := {} }

/-- A charge at home, plugged in and unplugged. -/
def homeCharge : List VehicleEvent := [.process (homeCall 0 true), .process (homeCall 3600 false)]

theorem lifecycle_run_iff_homeCharge : AllSteps VehicleEvent.apply KeepsLifecycle {} homeCharge ↔
      AllSteps VehicleEvent.apply ClosesAtHome {} homeCharge :=
  lifecycle_run_iff {} (Schema.WellKept.nil _) homeCharge

/-- Plugged in and unplugged away from home: the second call raises, and the session stays active. -/
theorem away_session_never_closed :
    ((VehicleEvent.withoutCharger (awayCall 0 true) (some false)).outcome {}).2 = .ok (some 0) ∧
      ((VehicleEvent.withoutCharger (awayCall 3600 false) (some false)).outcome
        ((VehicleEvent.withoutCharger (awayCall 0 true) (some false)).apply {})).2 = .error ⟨"charging_cost_sek"⟩ ∧
      ((StepRun.run VehicleEvent.apply {} [.withoutCharger (awayCall 0 true) (some false),
        .withoutCharger (awayCall 3600 false) (some false)]).sessions.map fun r => r.status) = [.active] ∧
      ¬ AllSteps VehicleEvent.apply KeepsLifecycle {} [.withoutCharger (awayCall 0 true) (some false),
          .withoutCharger (awayCall 3600 false) (some false)] := by
  have hraises : ((VehicleEvent.withoutCharger (awayCall 3600 false) (some false)).outcome
      ((VehicleEvent.withoutCharger (awayCall 0 true) (some false)).apply {})).2
        = .error ⟨"charging_cost_sek"⟩ := by decide +kernel
  refine ⟨by decide +kernel, hraises, by decide +kernel, fun h => ?_⟩
  obtain ⟨id, hid⟩ := h.2.1.returns
  rw [hraises] at hid
  exact absurd hid (by simp)

end EnergyCore.Vehicles
