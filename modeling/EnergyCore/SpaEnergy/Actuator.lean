import EnergyCore.FlexibleLoads.LoadTypes
import EnergyCore.Foundations.TimeZones

/-!
# The cleaning of a spa

The state machine that starts and stops the cleaning of a spa by its plan, and the watchdog over the planner.

* `runCycle`, `applyPreheat` and `watchdogRun` — the calls on one runtime.
-/

namespace EnergyCore.SpaEnergy

open FlexibleLoads TimeZones

/-! ### Settings and state -/

/-- The settings that the actuator and the watchdog read. -/
structure SpaControlConfigRecord where
  smartControlEnabled : Bool := true
  strategy : LoadStrategy := .smart
  dryRun : Bool := false
  shadowMode : Bool := false
  fixedScheduleStart : Option String := none
  fixedScheduleEnd : Option String := none
  filterOptimizationEnabled : Bool := true
  filterCyclesPerDay : ℤ := 4
  filterDurationMinutes : ℤ := 120
  minimumCycleSeparationMinutes : ℤ := 60
  safetyFloorFrequencyPerDay : ℚ := 4
  safetyFloorDurationHours : ℚ := 2
  smartPreheatEnabled : Bool := false
  normalTemperatureC : ℚ := 38
  maxPreheatTemperatureC : ℚ := 39
  minComfortTemperatureC : ℚ := 37
  deriving Repr, DecidableEq

/-- A text that is there and not empty. -/
def nonempty (text : Option String) : Bool := text.any fun t => decide (t ≠ "")

def isSpaFilterSelfManaged (control : SpaControlConfigRecord) : Bool :=
  !control.filterOptimizationEnabled ||
    (decide (control.strategy = .fixedSchedule) && nonempty control.fixedScheduleStart &&
      nonempty control.fixedScheduleEnd)

inductive SpaActuatorState where
  | idle
  | waiting
  | cleaning
  | cooldown
  | degraded
  | manual
  deriving Repr, DecidableEq

structure SpaActuatorRuntime where
  state : SpaActuatorState := .idle
  cleaningStartedAt : Option Instant := none
  cleaningStopAt : Option Instant := none
  lastCommandAt : Option Instant := none
  lastStopAt : Option Instant := none
  startsToday : ℤ := 0
  startsDay : Option ℤ := none
  filterHeldOffUntil : Option Instant := none
  lastPlannerRunAt : Option Instant := none
  integrationDegraded : Bool := false
  integrationDegradedMessageSv : String := ""
  lastReason : String := ""
  lastReasonSv : String := ""
  deriving Repr, DecidableEq

/-- `DEGRADED_MESSAGE_SV`. -/
def degradedMessageSv : String :=
  "Arctic Spa smartstyrning är tillfälligt otillgänglig. " ++ "Spaet använder sitt ordinarie interna cleaning-schema."

structure SpaStatus where
  connected : Bool := true
  setpointC : Option ℚ := none
  filterStatus : Option String := none
  errors : List String := []
  deriving Repr, DecidableEq

/-! ### Commands -/

inductive SpaCommand where
  | ensureSafetyFloor (frequencyPerDay durationHours : ℚ)
  | startFiltering
  | stopFiltering
  | setTargetTemperature (temperatureC : ℚ)
  deriving Repr, DecidableEq

/-- Which commands the spa takes; the others end in `SpaControlError`. -/
structure SpaApi where
  safetyFloor : Bool := true
  start : Bool := true
  stop : Bool := true
  temperature : Bool := true
  deriving Repr, DecidableEq

structure SpaActuatorDecision where
  action : String
  reason : String
  reasonSv : String
  commandSent : Bool := false
  dryRun : Bool := false
  deriving Repr, DecidableEq

/-- What a call leaves: the runtime, its decision, and the commands that it sent with their success. -/
structure SpaCallResult where
  runtime : SpaActuatorRuntime
  decision : SpaActuatorDecision
  commands : List (SpaCommand × Bool) := []
  deriving Repr, DecidableEq

namespace SpaActuatorRuntime

/-- The integration has failed. -/
def degrade (r : SpaActuatorRuntime) : SpaActuatorRuntime :=
  { r with integrationDegraded := true, integrationDegradedMessageSv := degradedMessageSv }

/-- The starts of a new day are counted anew. -/
def countDay (r : SpaActuatorRuntime) (day : ℤ) : SpaActuatorRuntime :=
  if r.startsDay ≠ some day then { r with startsDay := some day, startsToday := 0 } else r

end SpaActuatorRuntime

/-! ### The cycle -/

/-- `window.start <= now < window.end`. -/
def covers (w : PlanWindow) (now : Instant) : Bool := decide (w.start ≤ now ∧ now < w.stop)

def selectWindow (plan : Option LoadPlan) (now : Instant) : Option PlanWindow :=
  match plan with
  | none => none
  | some plan =>
    match plan.windows.find? fun w => covers w now with
    | some w => some w
    | none =>
      let upcoming := plan.windows.filter fun w => decide (w.start > now)
      if upcoming.isEmpty then plan.windows.getLast? else upcoming.argmin PlanWindow.start

def cooldownBlocksStart (control : SpaControlConfigRecord) (r : SpaActuatorRuntime) (now : Instant) : Bool :=
  r.lastStopAt.any fun last => decide (now - last < control.minimumCycleSeparationMinutes * 60)

def startCleaning (control : SpaControlConfigRecord) (api : SpaApi) (r : SpaActuatorRuntime) (now : Instant)
    (reason reasonSv : String) (dryRun : Bool) (stopAt : Option Instant) : SpaCallResult :=
  if r.startsToday ≥ control.filterCyclesPerDay then
    { runtime := r, decision := { action := "none", reason := "max_starts", reasonSv := "max_starter", dryRun := dryRun } }
  else if dryRun then
    { runtime := { r with state := .waiting, lastReason := reason, lastReasonSv := reasonSv }
      decision := { action := "start", reason := reason, reasonSv := reasonSv, dryRun := true } }
  else
    let floor := SpaCommand.ensureSafetyFloor control.safetyFloorFrequencyPerDay control.safetyFloorDurationHours
    let failed : SpaActuatorDecision := { action := "none", reason := "api_failed", reasonSv := "api_fel" }
    if !api.safetyFloor then
      { runtime := { r.degrade with state := .degraded }, decision := failed, commands := [(floor, false)] }
    else if !api.start then
      { runtime := { r.degrade with state := .degraded }
        decision := failed
        commands := [(floor, true), (.startFiltering, false)] }
    else
      { runtime :=
          { r with
            state := .cleaning
            cleaningStartedAt := some now
            cleaningStopAt := some (stopAt.getD (now + control.filterDurationMinutes * 60))
            lastCommandAt := some now
            startsToday := r.startsToday + 1
            lastReason := reason
            lastReasonSv := reasonSv }
        decision := { action := "start", reason := reason, reasonSv := reasonSv, commandSent := true }
        commands := [(floor, true), (.startFiltering, true)] }

def handleActiveCleaning (control : SpaControlConfigRecord) (api : SpaApi) (r : SpaActuatorRuntime)
    (status : Option SpaStatus) (now : Instant) (dryRun : Bool) (window : Option PlanWindow) : SpaCallResult :=
  let minRun : Duration := control.filterDurationMinutes * 60
  if r.cleaningStartedAt.any fun started => decide (now - started < minRun) then
    { runtime := r, decision := { action := "hold", reason := "min_run", reasonSv := "min_kortid", dryRun := dryRun } }
  else if window.any fun w => decide (now < w.stop) then
    { runtime := r
      decision := { action := "hold", reason := "cleaning_active", reasonSv := "cleaning_pagar", dryRun := dryRun } }
  else if r.cleaningStopAt.any fun stop => decide (stop ≤ now) then
    let stopped : SpaActuatorDecision := { action := "stop", reason := "window_end", reasonSv := "fonster_slut" }
    if dryRun then
      { runtime := { r with state := .cooldown, lastStopAt := some now }, decision := { stopped with dryRun := true } }
    else if api.stop then
      { runtime :=
          { r with state := .cooldown, lastStopAt := some now, cleaningStartedAt := none, cleaningStopAt := none }
        decision := { stopped with commandSent := true }
        commands := [(.stopFiltering, true)] }
    else
      { runtime := r.degrade
        decision := { action := "hold", reason := "stop_failed", reasonSv := "stopp_fel" }
        commands := [(.stopFiltering, false)] }
  else if status.any (fun s => decide (s.filterStatus = some "Idle" ∨ s.filterStatus = some "Suspended")) &&
      r.cleaningStartedAt.any fun started => decide (minRun ≤ now - started) then
    { runtime := { r with state := .idle, lastStopAt := some now }
      decision := { action := "done", reason := "cleaning_complete", reasonSv := "cleaning_klar", dryRun := dryRun } }
  else
    { runtime := r
      decision := { action := "hold", reason := "cleaning_active", reasonSv := "cleaning_pagar", dryRun := dryRun } }

/-- A cycle that follows the plan. -/
def followPlan (control : SpaControlConfigRecord) (api : SpaApi) (r : SpaActuatorRuntime) (plan : Option LoadPlan)
    (now : Instant) (dryRun : Bool) : Option PlanWindow → SpaCallResult
  | none =>
    { runtime := r, decision := { action := "none", reason := "no_plan", reasonSv := "ingen_plan", dryRun := dryRun } }
  | some window =>
    if now < window.start then
      if now ≥ window.start - 300 then
        { runtime := r
          decision := { action := "wait", reason := "pre_window", reasonSv := "vantar_fonster", dryRun := dryRun } }
      else
        { runtime := r
          decision := { action := "none", reason := "scheduled", reasonSv := "planerad", dryRun := dryRun } }
    else if covers window now then
      if cooldownBlocksStart control r now then
        { runtime := r, decision := { action := "none", reason := "cooldown", reasonSv := "paus", dryRun := dryRun } }
      else
        startCleaning control api r now (plan.elim "scheduled" LoadPlan.reason)
          (plan.elim "planerad" LoadPlan.reasonSv) dryRun (some window.stop)
    else
      { runtime := r
        decision := { action := "none", reason := "window_passed", reasonSv := "fonster_passerat", dryRun := dryRun } }

/-- What a cycle is called with. -/
structure CycleInput where
  control : SpaControlConfigRecord := {}
  api : SpaApi := {}
  status : Option SpaStatus := none
  plan : Option LoadPlan := none
  now : Instant
  manualOverride : Bool := false

/-- A fault that the status reports. -/
def CycleInput.faulty (input : CycleInput) : Bool := input.status.any fun s => !s.errors.isEmpty

/-- A cycle that only plans. -/
def CycleInput.autoDryRun (input : CycleInput) : Bool := input.control.dryRun || input.control.shadowMode

/-- `run_cycle`. -/
def runCycle (zone : TimeZone) (r : SpaActuatorRuntime) (input : CycleInput) : SpaCallResult :=
  let control := input.control
  let dryRun := input.autoDryRun
  let r := r.countDay (zone.localDay input.now)
  if input.faulty then
    { runtime := { r.degrade with state := .degraded }
      decision := { action := "none", reason := "spa_fault", reasonSv := "spa_fel", dryRun := control.dryRun } }
  else if dryRun && !input.manualOverride then
    { runtime := r
      decision := { action := "plan_only", reason := "dry_run", reasonSv := "torrkorning", dryRun := true } }
  else if isSpaFilterSelfManaged control && !input.manualOverride then
    { runtime := r
      decision := { action := "plan_only", reason := "spa_self_managed", reasonSv := "eco_pak_styr_filter", dryRun := true } }
  else if input.manualOverride then
    startCleaning control input.api r input.now "manual_override" "manuell_overstyrning" control.dryRun none
  else if r.integrationDegraded then
    { runtime := r
      decision :=
        { action := "none", reason := "integration_degraded", reasonSv := "integration_degraderad", dryRun := dryRun } }
  else
    let window := selectWindow input.plan input.now
    if r.state = .cleaning then handleActiveCleaning control input.api r input.status input.now dryRun window
    else followPlan control input.api r input.plan input.now dryRun window

/-! ### Preheating and the watchdog -/

structure PreheatInput where
  control : SpaControlConfigRecord := {}
  api : SpaApi := {}
  status : Option SpaStatus := none
  surplusW : ℚ
  priceEurKwh : Option ℚ
  now : Instant

def applyPreheat (r : SpaActuatorRuntime) (input : PreheatInput) : SpaCallResult :=
  let control := input.control
  let skip (reason reasonSv : String) (dryRun : Bool) : SpaCallResult :=
    { runtime := r, decision := { action := "none", reason := reason, reasonSv := reasonSv, dryRun := dryRun } }
  let targetC := max (min control.maxPreheatTemperatureC (control.normalTemperatureC + 1)) control.minComfortTemperatureC
  let cheap := input.priceEurKwh.any fun price => decide (price ≤ 15 / 100)
  if !control.smartPreheatEnabled then skip "preheat_disabled" "forvarmning_av" control.dryRun
  else if control.dryRun || control.shadowMode then skip "preheat_dry_run" "forvarmning_tor" true
  else
    match input.status with
    | none => skip "preheat_offline" "forvarmning_offline" false
    | some status =>
      if !status.connected then skip "preheat_offline" "forvarmning_offline" false
      else if input.surplusW < 1500 ∧ cheap = false then skip "preheat_skip" "forvarmning_skip" false
      else if status.setpointC.any fun c => decide (c ≥ targetC - 1 / 10) then
        skip "preheat_ok" "forvarmning_redan" false
      else if input.api.temperature then
        { runtime := { r with lastCommandAt := some input.now }
          decision :=
            { action := "preheat", reason := "preheat_applied", reasonSv := "forvarmning_aktiv", commandSent := true }
          commands := [(.setTargetTemperature targetC, true)] }
      else
        { runtime := r.degrade
          decision := { action := "none", reason := "preheat_failed", reasonSv := "forvarmning_fel" }
          commands := [(.setTargetTemperature targetC, false)] }

structure WatchdogInput where
  control : SpaControlConfigRecord := {}
  api : SpaApi := {}
  now : Instant
  dryRun : Bool := false
  staleAfterSeconds : ℤ := 180

/-- `SpaPlannerWatchdog.run`. -/
def watchdogRun (r : SpaActuatorRuntime) (input : WatchdogInput) : SpaCallResult :=
  let control := input.control
  let skip (reason reasonSv : String) : SpaCallResult :=
    { runtime := r, decision := { action := "none", reason := reason, reasonSv := reasonSv } }
  if !control.smartControlEnabled || input.dryRun || isSpaFilterSelfManaged control then
    skip "watchdog_inactive" "vakt_inaktiv"
  else
    match r.lastPlannerRunAt with
    | none => skip "watchdog_no_baseline" "vakt_ingen_baslinje"
    | some last =>
      if ¬ input.now - last > input.staleAfterSeconds then skip "watchdog_ok" "vakt_ok"
      else if ¬ (r.state = .waiting ∨ r.state = .idle ∨ r.state = .cooldown) then
        skip "watchdog_active_cleaning" "vakt_cleaning_pagar"
      else
        let floor := SpaCommand.ensureSafetyFloor control.safetyFloorFrequencyPerDay control.safetyFloorDurationHours
        if input.api.safetyFloor then
          { runtime :=
              { r with
                integrationDegraded := true
                integrationDegradedMessageSv :=
                  "EMIC-planering har varit otillgänglig. Spaet har återställts till sitt säkerhetsgolv."
                filterHeldOffUntil := none
                state := .degraded }
            decision :=
              { action := "recover", reason := "watchdog_safety_floor_restored", reasonSv := "vakt_sakerhetsgolv"
                commandSent := true }
            commands := [(floor, true)] }
        else
          { runtime := { r.degrade with state := .degraded }
            decision := { action := "none", reason := "watchdog_api_failed", reasonSv := "vakt_api_fel" }
            commands := [(floor, false)] }

/-! ### Runs -/

inductive SpaCall where
  | cycle (input : CycleInput)
  | preheat (input : PreheatInput)
  | watchdog (input : WatchdogInput)

def SpaCall.now : SpaCall → Instant
  | cycle input => input.now
  | preheat input => input.now
  | watchdog input => input.now

/-- The runtime, and the start that no stop has followed yet. -/
structure SpaSystem where
  runtime : SpaActuatorRuntime := {}
  running : Option Instant := none
  deriving Repr, DecidableEq

def callResult (zone : TimeZone) (r : SpaActuatorRuntime) : SpaCall → SpaCallResult
  | .cycle input => runCycle zone r input
  | .preheat input => applyPreheat r input
  | .watchdog input => watchdogRun r input

/-- What a command makes of the cleaning that runs. -/
def runningAfter (now : Instant) (running : Option Instant) : SpaCommand × Bool → Option Instant
  | (.startFiltering, true) => some now
  | (.stopFiltering, true) => none
  | _ => running

/-- One call. -/
def spaStep (zone : TimeZone) (s : SpaSystem) (call : SpaCall) : SpaSystem :=
  let result := callResult zone s.runtime call
  { runtime := result.runtime, running := result.commands.foldl (runningAfter call.now) s.running }

end EnergyCore.SpaEnergy
