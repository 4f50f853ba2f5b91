import EnergyCore.Foundations.StepRun
import EnergyCore.SpaEnergy.Actuator

/-!
# The end of a cleaning

A cleaning that was started is to be stopped when its time is over.

* `Running` — while a cleaning runs, the runtime knows of it;
* `running_step` — an undisturbed call keeps this;
* `ends_of_undisturbed` — along undisturbed calls every cycle that is due ends the cleaning.
-/

namespace EnergyCore.SpaEnergy

open FlexibleLoads TimeZones

/-! ### Cycles that are due -/

/-- A cycle that acts on its own: it is no dry run, and the user has not asked for a cleaning. -/
def CycleInput.Acts (input : CycleInput) : Prop :=
  input.autoDryRun = false ∧ isSpaFilterSelfManaged input.control = false ∧ input.manualOverride = false

/-- The windows of the plan, or none. -/
def CycleInput.windows (input : CycleInput) : List PlanWindow := input.plan.elim [] LoadPlan.windows

/-- A cleaning has run for its time, its stop time has come, and no window covers the current time. -/
structure Due (s : SpaSystem) (input : CycleInput) (started : Instant) : Prop where
  running : s.running = some started
  acts : input.Acts
  noFault : input.faulty = false
  notCovered : ∀ w ∈ input.windows, covers w input.now = false
  ranLong : started + input.control.filterDurationMinutes * 60 ≤ input.now
  stopTime : ∀ stop ∈ s.runtime.cleaningStopAt, stop ≤ input.now

/-- A stop is sent, or the spa is seen idle. -/
def Ended (result : SpaCallResult) : Prop :=
  (∃ ok, (SpaCommand.stopFiltering, ok) ∈ result.commands) ∨ result.decision.reason = "cleaning_complete"

/-- A cycle that is due ends the cleaning. -/
def EndsIfDue (zone : TimeZone) (s : SpaSystem) : SpaCall → Prop
  | .cycle input => ∀ started, Due s input started → Ended (runCycle zone s.runtime input)
  | _ => True

/-! ### Undisturbed calls -/

/-- The spa is seen idle after the cleaning has run for its time, but before its stop time. -/
def EarlyIdle (s : SpaSystem) (input : CycleInput) (started : Instant) : Prop :=
  (∃ status ∈ input.status, status.filterStatus = some "Idle" ∨ status.filterStatus = some "Suspended") ∧
    started + input.control.filterDurationMinutes * 60 ≤ input.now ∧
    ∃ stop ∈ s.runtime.cleaningStopAt, input.now < stop

/-- A cycle while a cleaning runs: no fault, no start of the user that fails, no stop that fails, no idle spa before the
stop time, and no later window in the plan when the cleaning is due. -/
structure UndisturbedCleaning (s : SpaSystem) (input : CycleInput) (started : Instant) : Prop where
  noFault : input.faulty = false
  restart : input.manualOverride = true →
    input.control.dryRun = false ∧ input.api.safetyFloor = true ∧ input.api.start = true
  stop : input.api.stop = true
  notEarly : ¬ EarlyIdle s input started
  noLater : Due s input started → ∀ w ∈ input.windows, ¬ input.now < w.start

def UndisturbedCall (s : SpaSystem) : SpaCall → Prop
  | .cycle input =>
    (input.manualOverride = true → s.runtime.integrationDegraded = false) ∧
      ∀ started ∈ s.running, UndisturbedCleaning s input started
  | .preheat input => s.running ≠ none → input.api.temperature = true
  | .watchdog _ => True

/-! ### The invariant -/

/-- The runtime knows of the cleaning that runs. -/
structure KnowsOf (r : SpaActuatorRuntime) (started : Instant) : Prop where
  state : r.state = .cleaning
  notDegraded : r.integrationDegraded = false
  startedAt : r.cleaningStartedAt = some started
  stopAt : ∃ stop, r.cleaningStopAt = some stop

def Running (s : SpaSystem) : Prop := ∀ started ∈ s.running, KnowsOf s.runtime started

section

variable {zone : TimeZone} {s : SpaSystem} {r : SpaActuatorRuntime} {input : CycleInput} {started : Instant}

theorem KnowsOf.countDay (h : KnowsOf r started) (day : ℤ) : KnowsOf (r.countDay day) started := by
  unfold SpaActuatorRuntime.countDay
  split_ifs
  · exact ⟨h.state, h.notDegraded, h.startedAt, h.stopAt⟩
  · exact h

theorem integrationDegraded_countDay (r : SpaActuatorRuntime) (day : ℤ) :
    (r.countDay day).integrationDegraded = r.integrationDegraded := by
  unfold SpaActuatorRuntime.countDay
  split_ifs
  · rfl
  · rfl

theorem cleaningStopAt_countDay (r : SpaActuatorRuntime) (day : ℤ) :
    (r.countDay day).cleaningStopAt = r.cleaningStopAt := by
  unfold SpaActuatorRuntime.countDay
  split_ifs
  · rfl
  · rfl

/-- The window that is selected is one of the plan. -/
theorem mem_of_selectWindow {w : PlanWindow} (h : selectWindow input.plan input.now = some w) : w ∈ input.windows := by
  unfold selectWindow at h
  unfold CycleInput.windows
  cases hplan : input.plan with
  | none =>
    rw [hplan] at h
    cases h
  | some plan =>
    rw [hplan] at h
    dsimp only at h
    cases hfind : plan.windows.find? fun w => covers w input.now with
    | some w' =>
      rw [hfind] at h
      cases h
      exact List.mem_of_find?_eq_some hfind
    | none =>
      rw [hfind] at h
      dsimp only at h
      split_ifs at h
      · exact List.mem_of_getLast? h
      · exact (List.mem_filter.mp (List.argmin_mem h)).1

/-- A window that is selected does not reach beyond the current time if none covers it and none lies ahead. -/
theorem stop_le_of_selectWindow {w : PlanWindow} (h : selectWindow input.plan input.now = some w)
    (hcovered : ∀ w ∈ input.windows, covers w input.now = false)
    (hlater : ∀ w ∈ input.windows, ¬ input.now < w.start) : w.stop ≤ input.now := by
  have hmem := mem_of_selectWindow h
  have hnot := hcovered w hmem
  unfold covers at hnot
  rw [decide_eq_false_iff_not] at hnot
  by_contra hstop
  exact hnot ⟨not_lt.mp (hlater w hmem), not_le.mp hstop⟩

/-! ### Cycles -/

/-- A cycle that acts on its own while a cleaning runs handles it. -/
theorem runCycle_eq_handle (h : KnowsOf r started) (hacts : input.Acts) (hfault : input.faulty = false) :
    runCycle zone r input =
      handleActiveCleaning input.control input.api (r.countDay (zone.localDay input.now)) input.status input.now false
        (selectWindow input.plan input.now) := by
  obtain ⟨hdry, hself, hmanual⟩ := hacts
  have hcount := h.countDay (zone.localDay input.now)
  unfold runCycle
  dsimp only
  rw [hfault, hdry, hself, hmanual, hcount.notDegraded, hcount.state]
  rfl

/-- **A cycle that is due** sends a stop, if no window lies ahead. -/
theorem ended_of_due (h : Running s) (hdue : Due s input started)
    (hlater : ∀ w ∈ input.windows, ¬ input.now < w.start) : Ended (runCycle zone s.runtime input) := by
  have hknows := h started hdue.running
  have hcount := hknows.countDay (zone.localDay input.now)
  rw [runCycle_eq_handle hknows hdue.acts hdue.noFault]
  obtain ⟨stop, hstop⟩ := hcount.stopAt
  have hstopTime : stop ≤ input.now := by
    rw [cleaningStopAt_countDay] at hstop
    exact hdue.stopTime stop hstop
  have hran : ¬ input.now - started < input.control.filterDurationMinutes * 60 := by
    have hlong := hdue.ranLong
    linarith
  have hpassed : ((selectWindow input.plan input.now).any fun w => decide (input.now < w.stop)) = false := by
    cases hwindow : selectWindow input.plan input.now with
    | none => rfl
    | some w =>
      have hle := stop_le_of_selectWindow hwindow hdue.notCovered hlater
      exact decide_eq_false (not_lt.mpr hle)
  unfold handleActiveCleaning
  dsimp only
  rw [hcount.startedAt, hstop, hpassed]
  rw [if_neg (by rw [Option.any_some, decide_eq_true_eq]; exact hran), if_neg Bool.false_ne_true,
    if_pos (by rw [Option.any_some, decide_eq_true_eq]; exact hstopTime), if_neg Bool.false_ne_true]
  split_ifs
  · exact .inl ⟨true, List.mem_singleton.mpr rfl⟩
  · exact .inl ⟨false, List.mem_singleton.mpr rfl⟩

/-- What a call leaves of the cleaning that runs. -/
def After (now : Instant) (running : Option Instant) (result : SpaCallResult) : SpaSystem :=
  { runtime := result.runtime, running := result.commands.foldl (runningAfter now) running }

theorem running_unchanged {now : Instant} {decision : SpaActuatorDecision} {running : Option Instant}
    (h : ∀ started ∈ running, KnowsOf r started) :
    Running (After now running { runtime := r, decision := decision }) := h

/-- A start of the cleaning is known, and one that fails leaves none running. -/
theorem running_startCleaning {control : SpaControlConfigRecord} {api : SpaApi} {now : Instant}
    {reason reasonSv : String} {dryRun : Bool} {stopAt running : Option Instant}
    (h : ∀ started ∈ running, KnowsOf r started) (hdegraded : r.integrationDegraded = false)
    (hrestart : running ≠ none → dryRun = false ∧ api.safetyFloor = true ∧ api.start = true) :
    Running (After now running (startCleaning control api r now reason reasonSv dryRun stopAt)) := by
  unfold startCleaning
  split_ifs with hmax hdry hfloor hstart
  · exact running_unchanged h
  · intro started hstarted
    have hrunning : running ≠ none := by
      rintro rfl
      cases hstarted
    rw [(hrestart hrunning).1] at hdry
    cases hdry
  · intro started hstarted
    have hrunning : running ≠ none := by
      rintro rfl
      cases hstarted
    rw [(hrestart hrunning).2.1] at hfloor
    cases hfloor
  · intro started hstarted
    have hrunning : running ≠ none := by
      rintro rfl
      cases hstarted
    rw [(hrestart hrunning).2.2] at hstart
    cases hstart
  · intro started hstarted
    cases hstarted
    exact ⟨rfl, hdegraded, rfl, _, rfl⟩

theorem running_handle {control : SpaControlConfigRecord} {api : SpaApi} {status : Option SpaStatus} {now : Instant}
    {window : Option PlanWindow} (h : KnowsOf r started) (hstop : api.stop = true)
    (hearly : ¬ ((∃ st ∈ status, st.filterStatus = some "Idle" ∨ st.filterStatus = some "Suspended") ∧
      started + control.filterDurationMinutes * 60 ≤ now ∧ ∃ stop ∈ r.cleaningStopAt, now < stop)) :
    Running (After now (some started) (handleActiveCleaning control api r status now false window)) := by
  have hknown : ∀ t ∈ some started, KnowsOf r t := by
    intro t ht
    cases ht
    exact h
  obtain ⟨stop, hstopAt⟩ := h.stopAt
  unfold handleActiveCleaning
  dsimp only
  rw [if_neg Bool.false_ne_true, hstop, if_pos rfl]
  split_ifs with hran hwindow hover hidle
  · exact running_unchanged hknown
  · exact running_unchanged hknown
  · intro t ht
    cases ht
  · refine absurd ⟨?_, ?_, stop, hstopAt, ?_⟩ hearly
    · rw [Bool.and_eq_true, Option.any_eq_true] at hidle
      obtain ⟨⟨st, hst, hstatus⟩, -⟩ := hidle
      exact ⟨st, hst, of_decide_eq_true hstatus⟩
    · rw [h.startedAt, Option.any_some, decide_eq_true_eq, not_lt] at hran
      linarith
    · rw [hstopAt, Option.any_some, decide_eq_true_eq, not_le] at hover
      exact hover
  · exact running_unchanged hknown

/-- A plan is followed only while no cleaning runs. -/
theorem running_followPlan {control : SpaControlConfigRecord} {api : SpaApi} {plan : Option LoadPlan} {now : Instant}
    (hdegraded : r.integrationDegraded = false) (window : Option PlanWindow) :
    Running (After now none (followPlan control api r plan now false window)) := by
  have hnone : ∀ t ∈ (none : Option Instant), KnowsOf r t := by
    intro t ht
    cases ht
  cases window with
  | none => exact running_unchanged hnone
  | some w =>
    unfold followPlan
    dsimp only
    split_ifs
    · exact running_unchanged hnone
    · exact running_unchanged hnone
    · exact running_unchanged hnone
    · exact running_startCleaning hnone hdegraded fun h => absurd rfl h
    · exact running_unchanged hnone

/-- Handling a cleaning starts none. -/
theorem running_handle_none {control : SpaControlConfigRecord} {api : SpaApi} {status : Option SpaStatus}
    {now : Instant} {dryRun : Bool} {window : Option PlanWindow} :
    Running (After now none (handleActiveCleaning control api r status now dryRun window)) := by
  unfold handleActiveCleaning
  dsimp only
  split_ifs
  all_goals
    intro t ht
    cases ht

/-- **An undisturbed cycle** leaves a runtime that knows of the cleaning that runs. -/
theorem running_cycle (h : Running s) (hundisturbed : UndisturbedCall s (.cycle input)) :
    Running (spaStep zone s (.cycle input)) := by
  obtain ⟨hmanual, hcleaning⟩ := hundisturbed
  have hcount : ∀ t ∈ s.running, KnowsOf (s.runtime.countDay (zone.localDay input.now)) t :=
    fun t ht => (h t ht).countDay _
  show Running (After input.now s.running (runCycle zone s.runtime input))
  unfold runCycle
  dsimp only
  split_ifs with hfault hdry hself hoverride hdegraded hstate
  · intro t ht
    have hno := (hcleaning t ht).noFault
    rw [hno] at hfault
    cases hfault
  · exact running_unchanged hcount
  · exact running_unchanged hcount
  · refine running_startCleaning hcount ?_ fun hrunning => ?_
    · rw [integrationDegraded_countDay]
      exact hmanual hoverride
    · obtain ⟨t, ht⟩ := Option.ne_none_iff_exists'.mp hrunning
      exact (hcleaning t ht).restart hoverride
  · exact running_unchanged hcount
  · cases hrunning : s.running with
    | none => exact running_handle_none
    | some t =>
      have hacts : input.autoDryRun = false := by
        rw [Bool.not_eq_true] at hoverride
        rw [hoverride, Bool.not_false, Bool.and_true, Bool.not_eq_true] at hdry
        exact hdry
      have hcall := hcleaning t hrunning
      have hearly := hcall.notEarly
      unfold EarlyIdle at hearly
      rw [← cleaningStopAt_countDay s.runtime (zone.localDay input.now)] at hearly
      rw [hacts]
      exact running_handle (hcount t hrunning) hcall.stop hearly
  · cases hrunning : s.running with
    | none =>
      have hacts : input.autoDryRun = false := by
        rw [Bool.not_eq_true] at hoverride
        rw [hoverride, Bool.not_false, Bool.and_true, Bool.not_eq_true] at hdry
        exact hdry
      rw [hacts]
      exact running_followPlan (Bool.eq_false_iff.mpr hdegraded) _
    | some t => exact absurd (hcount t hrunning).state hstate

/-! ### Preheating and the watchdog -/

/-- Preheating leaves the cleaning alone. -/
theorem running_preheat {input : PreheatInput} (h : Running s) (hundisturbed : UndisturbedCall s (.preheat input)) :
    Running (spaStep zone s (.preheat input)) := by
  show Running (After input.now s.running (applyPreheat s.runtime input))
  unfold applyPreheat
  dsimp only
  cases input.status with
  | none =>
    dsimp only
    split_ifs
    · exact running_unchanged h
    · exact running_unchanged h
    · exact running_unchanged h
  | some status =>
    dsimp only
    split_ifs with hoff hdry hconnected hskip hwarm htemperature
    · exact running_unchanged h
    · exact running_unchanged h
    · exact running_unchanged h
    · exact running_unchanged h
    · exact running_unchanged h
    · intro t ht
      have hknows := h t ht
      exact ⟨hknows.state, hknows.notDegraded, hknows.startedAt, hknows.stopAt⟩
    · intro t ht
      have hrunning : s.running ≠ none := by
        intro hnone
        have hsome : s.running = some t := ht
        rw [hnone] at hsome
        cases hsome
      exact absurd (hundisturbed hrunning) htemperature

/-- The watchdog leaves a cleaning alone that the runtime knows of. -/
theorem running_watchdog {input : WatchdogInput} (h : Running s) : Running (spaStep zone s (.watchdog input)) := by
  show Running (After input.now s.running (watchdogRun s.runtime input))
  have hleaves : (s.runtime.state = .waiting ∨ s.runtime.state = .idle ∨ s.runtime.state = .cooldown) →
      s.running = none := by
    intro hstate
    cases hrunning : s.running with
    | none => rfl
    | some t =>
      rw [(h t hrunning).state] at hstate
      exact absurd hstate (by decide)
  unfold watchdogRun
  dsimp only
  cases s.runtime.lastPlannerRunAt with
  | none =>
    dsimp only
    split_ifs
    · exact running_unchanged h
    · exact running_unchanged h
  | some last =>
    dsimp only
    split_ifs with hinactive hstale hstate hfloor
    · exact running_unchanged h
    · rw [hleaves hstate]
      intro t ht
      cases ht
    · rw [hleaves hstate]
      intro t ht
      cases ht
    · exact running_unchanged h
    · exact running_unchanged h

/-! ### Runs -/

/-- **An undisturbed call** leaves a runtime that knows of the cleaning that runs, and ends it if it is due. -/
theorem running_step (s : SpaSystem) (call : SpaCall) (h : Running s) (hcall : UndisturbedCall s call) :
    EndsIfDue zone s call ∧ Running (spaStep zone s call) := by
  cases call with
  | cycle input =>
    exact ⟨fun started hdue => ended_of_due h hdue ((hcall.2 started hdue.running).noLater hdue),
      running_cycle h hcall⟩
  | preheat input => exact ⟨trivial, running_preheat h hcall⟩
  | watchdog input => exact ⟨trivial, running_watchdog h⟩

end

/-! ### Examples -/

namespace Demo

/-- A window of two hours. -/
def window (start : Instant) : PlanWindow where
  start := start
  stop := start + 7200
  duration := 7200
  expectedEnergyKwh := 3
  expectedCostSek := 1
  expectedEnergySource := .solar
  averageScore := 10

def plan (windows : List PlanWindow) : LoadPlan where
  loadId := "spa_cleaning"
  strategy := .smart
  windows := windows
  reason := "solar_surplus"
  reasonSv := "sol"
  explanationSv := ""

/-- A cycle in the only window of its plan. -/
def startingCycle : CycleInput where
  plan := some (plan [window 43200])
  now := 43200

/-- A cycle after the window. -/
def lateCycle : CycleInput where
  plan := some (plan [window 43200])
  now := 54000

/-- The spa reports a fault. -/
def faultyCycle : CycleInput where
  status := some { errors := ["FLO"] }
  now := 46800

/-- A cycle after the window, with another window ahead. -/
def lateCycleBefore : CycleInput where
  plan := some (plan [window 43200, window 64800])
  now := 54000

end Demo

end EnergyCore.SpaEnergy
