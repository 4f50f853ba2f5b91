import EnergyCore.SpaEnergy.CleaningEnds

/-!
# The limits on the starts of a spa

An observer beside the runtime keeps the starts of the spa, whether a cleaning is in progress, and when the
last one ended. Along the calls of the actuator and the watchdog

* `effect_cycle` — a cycle is quiet, starts a cleaning or ends one; preheating and the watchdog are quiet;
* `automatic_start` — a start by the plan finds no cleaning in the runtime, and the separation over;
* `startLimits_run` — the daily limit and the separation hold along every run in which no fault and no failed
  start of the user comes while a cleaning is in progress, and no local day is entered again.
-/

namespace EnergyCore.SpaEnergy

open FlexibleLoads TimeZones StepRun

/-! ### The observer -/

/-- The spa took a start. -/
def SpaCallResult.started (result : SpaCallResult) : Bool :=
  decide ((SpaCommand.startFiltering, true) ∈ result.commands)

/-- The spa took a stop, or was seen idle. -/
def SpaCallResult.ended (result : SpaCallResult) : Bool :=
  decide ((SpaCommand.stopFiltering, true) ∈ result.commands) || decide (result.decision.action = "done")

/-- The runtime, and what an observer of the spa has seen. -/
structure SpaWatch where
  runtime : SpaActuatorRuntime := {}
  inProgress : Bool := false
  endedAt : Option Instant := none
  starts : List Instant := []
  deriving Repr, DecidableEq

/-- A call, or one of the changes that the service makes to the runtime between them. -/
inductive SpaEvent where
  | call (call : SpaCall)
  | planned (now : Instant)
  | scheduleDegraded (message : String)
  | resetIntegration

def SpaWatch.observe (s : SpaWatch) (now : Instant) (result : SpaCallResult) : SpaWatch :=
  { runtime := result.runtime
    inProgress := result.started || (s.inProgress && !result.ended)
    endedAt := if result.ended then some now else s.endedAt
    starts := if result.started then s.starts ++ [now] else s.starts }

def watchStep (zone : TimeZone) (s : SpaWatch) : SpaEvent → SpaWatch
  | .call call => s.observe call.now (callResult zone s.runtime call)
  | .planned now => { s with runtime := { s.runtime with lastPlannerRunAt := some now } }
  | .scheduleDegraded message =>
    { s with
      runtime := { s.runtime with integrationDegraded := true, integrationDegradedMessageSv := message } }
  | .resetIntegration => { s with runtime := { s.runtime with integrationDegraded := false } }

/-- The starts on one local day. -/
def startsOn (zone : TimeZone) (starts : List Instant) (day : ℤ) : ℕ :=
  (starts.filter fun t => decide (zone.localDay t = day)).length

/-- A cycle that starts a cleaning by its plan. -/
def AutomaticStart (zone : TimeZone) (s : SpaWatch) : SpaEvent → Prop
  | .call (.cycle input) => input.manualOverride = false ∧ (runCycle zone s.runtime input).started = true
  | _ => False

/-- The time of an event; the changes between the calls have none. -/
def SpaEvent.now : SpaEvent → Option Instant
  | .call c => some c.now
  | _ => none

/-- No local day has more starts than the configuration allows, and a start by the plan comes when no cleaning
is in progress and the last one ended long enough ago. -/
def StartLimits (zone : TimeZone) (control : SpaControlConfigRecord) (s : SpaWatch) (e : SpaEvent) : Prop :=
  (∀ day, (startsOn zone (watchStep zone s e).starts day : ℤ) ≤ max 0 control.filterCyclesPerDay) ∧
    (AutomaticStart zone s e → s.inProgress = false ∧
      ∀ now ∈ e.now, ∀ endedAt ∈ s.endedAt, control.minimumCycleSeparationMinutes * 60 ≤ now - endedAt)

/-- The events of a fixed configuration. -/
def SpaEvent.Uses (control : SpaControlConfigRecord) : SpaEvent → Prop
  | .call (.cycle input) => input.control = control
  | .call (.preheat input) => input.control = control
  | .call (.watchdog input) => input.control = control
  | _ => True

/-- A cleaning that the user asks for, on a day with starts left, is not taken by the spa. -/
def FailsOverride (zone : TimeZone) (r : SpaActuatorRuntime) (input : CycleInput) : Prop :=
  input.manualOverride = true ∧
    (r.countDay (zone.localDay input.now)).startsToday < input.control.filterCyclesPerDay ∧
    ¬ (input.api.safetyFloor = true ∧ input.api.start = true)

/-- While a cleaning is in progress no fault is reported and no start of the user fails, and the local day is
not before the one that the runtime counts. -/
def Undisrupted (zone : TimeZone) (s : SpaWatch) : SpaEvent → Prop
  | .call (.cycle input) =>
    (s.inProgress = true → input.faulty = false ∧ ¬ FailsOverride zone s.runtime input) ∧
      ∀ day ∈ s.runtime.startsDay, day ≤ zone.localDay input.now
  | _ => True

/-! ### What a call can do -/

/-- A call that the observer does not see; where `keeps` holds it leaves a cleaning in the runtime. -/
structure Quiet (control : SpaControlConfigRecord) (keeps : Prop) (r : SpaActuatorRuntime)
    (result : SpaCallResult) : Prop where
  started : result.started = false
  ended : result.ended = false
  lastStop : result.runtime.lastStopAt = r.lastStopAt
  day : result.runtime.startsDay = r.startsDay
  today : result.runtime.startsToday = r.startsToday
  state : control.dryRun = false → keeps → r.state = .cleaning → result.runtime.state = .cleaning

/-- What a call at `now` makes of the runtime: nothing that the observer sees, a start, or an end. -/
inductive Effect (control : SpaControlConfigRecord) (keeps : Prop) (r : SpaActuatorRuntime) (now : Instant)
    (result : SpaCallResult) : Prop
  | quiet (h : Quiet control keeps r result)
  | start (started : result.started = true) (ended : result.ended = false) (wet : control.dryRun = false)
      (lastStop : result.runtime.lastStopAt = r.lastStopAt) (day : result.runtime.startsDay = r.startsDay)
      (below : r.startsToday < control.filterCyclesPerDay)
      (today : result.runtime.startsToday = r.startsToday + 1) (state : result.runtime.state = .cleaning)
  | finish (started : result.started = false) (ended : result.ended = true)
      (lastStop : result.runtime.lastStopAt = some now) (day : result.runtime.startsDay = r.startsDay)
      (today : result.runtime.startsToday = r.startsToday)

section

variable {zone : TimeZone} {r : SpaActuatorRuntime} {input : CycleInput} {control : SpaControlConfigRecord}
  {api : SpaApi} {now : Instant} {keeps : Prop}

/-- A call that leaves the runtime alone is quiet, if its decision is not that the spa was seen idle. -/
theorem Quiet.same {decision : SpaActuatorDecision} (h : decision.action ≠ "done") :
    Quiet control keeps r { runtime := r, decision := decision } :=
  ⟨rfl, decide_eq_false h, rfl, rfl, rfl, fun _ _ hstate => hstate⟩

theorem effect_startCleaning {reason reasonSv : String} {stopAt : Option Instant}
    (hkeeps : keeps → r.startsToday < control.filterCyclesPerDay → api.safetyFloor = true ∧ api.start = true) :
    Effect control keeps r now (startCleaning control api r now reason reasonSv control.dryRun stopAt) := by
  unfold startCleaning
  split_ifs with hmax hdry hfloor hstart
  · exact .quiet (.same (by simp))
  · exact .quiet ⟨rfl, rfl, rfl, rfl, rfl, fun hwet => absurd (hwet.symm.trans hdry) (by decide)⟩
  · refine .quiet ⟨rfl, rfl, rfl, rfl, rfl, fun _ hk => ?_⟩
    have htaken := (hkeeps hk (not_le.mp hmax)).1
    rw [htaken] at hfloor
    exact absurd hfloor (by decide)
  · refine .quiet ⟨rfl, rfl, rfl, rfl, rfl, fun _ hk => ?_⟩
    have htaken := (hkeeps hk (not_le.mp hmax)).2
    rw [htaken] at hstart
    exact absurd hstart (by decide)
  · exact .start rfl rfl (Bool.eq_false_iff.mpr hdry) rfl rfl (not_le.mp hmax) rfl rfl

theorem effect_handle {status : Option SpaStatus} {window : Option PlanWindow} :
    Effect control keeps r now (handleActiveCleaning control api r status now false window) := by
  unfold handleActiveCleaning
  dsimp only
  rw [if_neg Bool.false_ne_true]
  split_ifs
  · exact .quiet (.same (by simp))
  · exact .quiet (.same (by simp))
  · exact .finish rfl rfl rfl rfl rfl
  · exact .quiet ⟨rfl, rfl, rfl, rfl, rfl, fun _ _ hstate => hstate⟩
  · exact .finish rfl rfl rfl rfl rfl
  · exact .quiet (.same (by simp))

theorem effect_followPlan {plan : Option LoadPlan} (hdry : control.dryRun = false)
    (hstate : r.state ≠ .cleaning) (window : Option PlanWindow) :
    Effect control keeps r now (followPlan control api r plan now false window) := by
  cases window with
  | none => exact .quiet (.same (by simp))
  | some w =>
    unfold followPlan
    dsimp only
    split_ifs
    · exact .quiet (.same (by simp))
    · exact .quiet (.same (by simp))
    · exact .quiet (.same (by simp))
    · have h : Effect control False r now (startCleaning control api r now (plan.elim "scheduled" LoadPlan.reason)
            (plan.elim "planerad" LoadPlan.reasonSv) control.dryRun (some w.stop)) :=
        effect_startCleaning False.elim
      rw [hdry] at h
      cases h with
      | quiet h => exact .quiet { h with state := fun _ _ hcleaning => absurd hcleaning hstate }
      | start hs he hw hl hd hb ht hst => exact .start hs he hw hl hd hb ht hst
      | finish hs he hl hd ht => exact .finish hs he hl hd ht
    · exact .quiet (.same (by simp))

/-- **One cycle**, from the runtime that counts the day of the cycle. -/
theorem effect_cycle (hdry : input.control = control)
    (hkeeps : keeps → input.faulty = false ∧ ¬ FailsOverride zone r input) :
    Effect control keeps (r.countDay (zone.localDay input.now)) input.now (runCycle zone r input) := by
  subst hdry
  unfold runCycle
  dsimp only
  split_ifs with hfault hauto hself hoverride hdegraded hstate
  · refine .quiet ⟨rfl, rfl, rfl, rfl, rfl, fun _ hk => ?_⟩
    rw [(hkeeps hk).1] at hfault
    exact absurd hfault (by decide)
  · exact .quiet (.same (by simp))
  · exact .quiet (.same (by simp))
  · refine effect_startCleaning fun hk hbelow => ?_
    by_contra hfails
    exact (hkeeps hk).2 ⟨hoverride, hbelow, hfails⟩
  · exact .quiet (.same (by simp))
  · have hwet : input.autoDryRun = false := by
      rw [Bool.not_eq_true] at hoverride
      rw [hoverride, Bool.not_false, Bool.and_true, Bool.not_eq_true] at hauto
      exact hauto
    rw [hwet]
    exact effect_handle
  · have hwet : input.autoDryRun = false := by
      rw [Bool.not_eq_true] at hoverride
      rw [hoverride, Bool.not_false, Bool.and_true, Bool.not_eq_true] at hauto
      exact hauto
    rw [hwet]
    refine effect_followPlan ?_ hstate _
    rw [CycleInput.autoDryRun, Bool.or_eq_false_iff] at hwet
    exact hwet.1

/-- Preheating is quiet. -/
theorem quiet_preheat (input : PreheatInput) : Quiet control keeps r (applyPreheat r input) := by
  unfold applyPreheat
  dsimp only
  cases input.status with
  | none =>
    dsimp only
    split_ifs
    · exact .same (by simp)
    · exact .same (by simp)
    · exact .same (by simp)
  | some status =>
    dsimp only
    split_ifs
    · exact .same (by simp)
    · exact .same (by simp)
    · exact .same (by simp)
    · exact .same (by simp)
    · exact .same (by simp)
    · exact ⟨by simp [SpaCallResult.started], by simp [SpaCallResult.ended], rfl, rfl, rfl,
        fun _ _ hstate => hstate⟩
    · exact ⟨by simp [SpaCallResult.started], by simp [SpaCallResult.ended], rfl, rfl, rfl,
        fun _ _ hstate => hstate⟩

/-- The watchdog is quiet, and leaves a cleaning that the runtime knows of. -/
theorem quiet_watchdog (input : WatchdogInput) : Quiet control keeps r (watchdogRun r input) := by
  unfold watchdogRun
  dsimp only
  cases r.lastPlannerRunAt with
  | none =>
    dsimp only
    split_ifs
    · exact .same (by simp)
    · exact .same (by simp)
  | some last =>
    dsimp only
    split_ifs with hinactive hstale hstate hfloor
    · exact .same (by simp)
    · refine ⟨rfl, rfl, rfl, rfl, rfl, fun _ _ hcleaning => ?_⟩
      rw [hcleaning] at hstate
      exact absurd hstate (by decide)
    · refine ⟨rfl, rfl, rfl, rfl, rfl, fun _ _ hcleaning => ?_⟩
      rw [hcleaning] at hstate
      exact absurd hstate (by decide)
    · exact .same (by simp)
    · exact .same (by simp)

/-- **A start by the plan** finds no cleaning in the runtime, and the separation over. -/
theorem automatic_start (hmanual : input.manualOverride = false) (hstarted : (runCycle zone r input).started = true) :
    r.state ≠ .cleaning ∧ cooldownBlocksStart input.control r input.now = false := by
  have hstate : (r.countDay (zone.localDay input.now)).state = r.state := by
    unfold SpaActuatorRuntime.countDay
    split_ifs
    · rfl
    · rfl
  have hblocks : cooldownBlocksStart input.control (r.countDay (zone.localDay input.now)) input.now
      = cooldownBlocksStart input.control r input.now := by
    unfold SpaActuatorRuntime.countDay
    split_ifs
    · rfl
    · rfl
  rw [← hstate, ← hblocks]
  unfold runCycle at hstarted
  dsimp only at hstarted
  rw [hmanual] at hstarted
  split_ifs at hstarted with hfault hauto hself hoverride hdegraded hcleaning
  · exact absurd hstarted (by simp [SpaCallResult.started])
  · exact absurd hstarted (by simp [SpaCallResult.started])
  · exact absurd hstarted (by simp [SpaCallResult.started])
  · exact hoverride.elim
  · exact absurd hstarted (by simp [SpaCallResult.started])
  · refine absurd hstarted ?_
    unfold handleActiveCleaning
    dsimp only
    split_ifs
    all_goals simp [SpaCallResult.started]
  · refine ⟨hcleaning, ?_⟩
    unfold followPlan at hstarted
    cases hwindow : selectWindow input.plan input.now with
    | none =>
      rw [hwindow] at hstarted
      exact absurd hstarted (by simp [SpaCallResult.started])
    | some w =>
      rw [hwindow] at hstarted
      dsimp only at hstarted
      split_ifs at hstarted with hbefore hsoon hcovers hblocked
      · exact absurd hstarted (by simp [SpaCallResult.started])
      · exact absurd hstarted (by simp [SpaCallResult.started])
      · exact absurd hstarted (by simp [SpaCallResult.started])
      · exact Bool.eq_false_iff.mpr hblocked
      · exact absurd hstarted (by simp [SpaCallResult.started])

/-! ### The invariant -/

/-- What the runtime knows of what the observer has seen. -/
structure Tracks (zone : TimeZone) (control : SpaControlConfigRecord) (s : SpaWatch) : Prop where
  known : s.inProgress = true → s.runtime.state = .cleaning
  wet : control.dryRun = true → s.inProgress = false
  lastStop : s.endedAt = s.runtime.lastStopAt
  noDay : s.runtime.startsDay = none → s.starts = []
  days : ∀ day ∈ s.runtime.startsDay, ∀ t ∈ s.starts, zone.localDay t ≤ day
  today : ∀ day ∈ s.runtime.startsDay, (startsOn zone s.starts day : ℤ) = s.runtime.startsToday
  limit : ∀ day, (startsOn zone s.starts day : ℤ) ≤ max 0 control.filterCyclesPerDay

variable {s : SpaWatch}

theorem Tracks.fresh : Tracks zone control {} where
  known := fun h => absurd h (by decide)
  wet := fun _ => rfl
  lastStop := rfl
  noDay := fun _ => rfl
  days := fun _ h => absurd h (by simp)
  today := fun _ h => absurd h (by simp)
  limit := fun _ => by simp [startsOn]

theorem startsOn_eq_zero {starts : List Instant} {day : ℤ} (h : ∀ t ∈ starts, zone.localDay t < day) :
    startsOn zone starts day = 0 := by
  unfold startsOn
  rw [List.length_eq_zero_iff, List.filter_eq_nil_iff]
  intro t ht
  rw [decide_eq_true_eq]
  exact (h t ht).ne

theorem startsOn_append (starts : List Instant) (t : Instant) (day : ℤ) : startsOn zone (starts ++ [t]) day
      = startsOn zone starts day + (if zone.localDay t = day then 1 else 0) := by
  unfold startsOn
  rw [List.filter_append, List.length_append]
  by_cases h : zone.localDay t = day
  · simp [h]
  · simp [h]

/-- Counting a day that is not before the one counted keeps the invariant. -/
theorem Tracks.countDay (h : Tracks zone control s) {day : ℤ}
    (hday : ∀ counted ∈ s.runtime.startsDay, counted ≤ day) :
    Tracks zone control { s with runtime := s.runtime.countDay day } := by
  unfold SpaActuatorRuntime.countDay
  split_ifs with hnew
  · have hbefore : ∀ t ∈ s.starts, zone.localDay t < day := by
      intro t ht
      cases hcounted : s.runtime.startsDay with
      | none =>
        rw [h.noDay hcounted] at ht
        exact absurd ht (by simp)
      | some counted =>
        have hle := h.days counted hcounted t ht
        have hlt : counted < day := lt_of_le_of_ne (hday counted hcounted) fun heq => hnew (heq ▸ hcounted)
        exact lt_of_le_of_lt hle hlt
    refine ⟨h.known, h.wet, h.lastStop, fun hnone => absurd hnone (by simp), ?_, ?_, h.limit⟩
    · intro d hd t ht
      obtain rfl : day = d := Option.some.inj hd
      exact (hbefore t ht).le
    · intro d hd
      obtain rfl : day = d := Option.some.inj hd
      rw [startsOn_eq_zero hbefore]
      rfl
  · exact h

/-- A quiet call keeps the invariant. -/
theorem Tracks.quiet (h : Tracks zone control s) {result : SpaCallResult} (hkeeps : s.inProgress = true → keeps)
    (hquiet : Quiet control keeps s.runtime result) : Tracks zone control (s.observe now result) := by
  have hsame : s.observe now result = { s with runtime := result.runtime } := by
    simp [SpaWatch.observe, hquiet.started, hquiet.ended]
  rw [hsame]
  refine ⟨?_, h.wet, h.lastStop.trans hquiet.lastStop.symm, ?_, ?_, ?_, h.limit⟩
  · intro hprogress
    refine hquiet.state ?_ (hkeeps hprogress) (h.known hprogress)
    by_contra hdry
    rw [Bool.not_eq_false] at hdry
    exact absurd hprogress (by simp [h.wet hdry])
  · intro hnone
    exact h.noDay (hquiet.day.symm.trans hnone)
  · intro day hd
    exact h.days day (hquiet.day.symm.trans hd)
  · intro day hd
    exact (h.today day (hquiet.day.symm.trans hd)).trans hquiet.today.symm

/-- A call on the runtime that counts its day keeps the invariant, whatever its effect. -/
theorem Tracks.observe (h : Tracks zone control s) {result : SpaCallResult} (hkeeps : s.inProgress = true → keeps)
    (hcounted : s.runtime.startsDay = some (zone.localDay now))
    (heffect : Effect control keeps s.runtime now result) : Tracks zone control (s.observe now result) := by
  cases heffect with
  | quiet hquiet => exact h.quiet hkeeps hquiet
  | start hstarted hended hwet hstop hday' hbelow htoday hstate =>
    have hcount := h.today _ hcounted
    have hseen : s.observe now result
        = { runtime := result.runtime, inProgress := true, endedAt := s.endedAt, starts := s.starts ++ [now] } := by
      simp [SpaWatch.observe, hstarted, hended]
    rw [hseen]
    refine ⟨fun _ => hstate, fun hdry => absurd (hwet.symm.trans hdry) (by decide),
      h.lastStop.trans hstop.symm, ?_, ?_, ?_, ?_⟩
    · intro hnone
      exact absurd (hcounted.symm.trans (hday'.symm.trans hnone)) (by simp)
    · intro day hd t ht
      obtain rfl : zone.localDay now = day := Option.some.inj (hcounted.symm.trans (hday'.symm.trans hd))
      rcases List.mem_append.mp ht with ht | ht
      · exact h.days _ hcounted t ht
      · rw [List.mem_singleton.mp ht]
    · intro day hd
      obtain rfl : zone.localDay now = day := Option.some.inj (hcounted.symm.trans (hday'.symm.trans hd))
      rw [startsOn_append, if_pos rfl, htoday, ← hcount]
      push_cast
      rfl
    · intro day
      rw [startsOn_append]
      by_cases heq : zone.localDay now = day
      · rw [if_pos heq, ← heq]
        push_cast
        rw [hcount]
        exact le_max_of_le_right (by omega)
      · rw [if_neg heq, add_zero]
        exact h.limit day
  | finish hstarted hended hstop hday' htoday =>
    have hseen : s.observe now result
        = { runtime := result.runtime, inProgress := false, endedAt := some now, starts := s.starts } := by
      simp [SpaWatch.observe, hstarted, hended]
    rw [hseen]
    refine ⟨fun hprogress => absurd hprogress (by simp), fun _ => rfl, hstop.symm, ?_, ?_, ?_, h.limit⟩
    · intro hnone
      exact h.noDay (hday'.symm.trans hnone)
    · intro day hd
      exact h.days day (hday'.symm.trans hd)
    · intro day hd
      exact (h.today day (hday'.symm.trans hd)).trans htoday.symm

theorem startsDay_countDay (r : SpaActuatorRuntime) (day : ℤ) : (r.countDay day).startsDay = some day := by
  unfold SpaActuatorRuntime.countDay
  split_ifs with hnew
  · rfl
  · exact not_not.mp hnew

/-- **The step lemma.** An undisrupted event keeps the invariant. -/
theorem Tracks.step (h : Tracks zone control s) {e : SpaEvent} (huses : e.Uses control)
    (hundisrupted : Undisrupted zone s e) : Tracks zone control (watchStep zone s e) := by
  cases e with
  | call c =>
    cases c with
    | cycle input =>
      obtain ⟨hkeeps, hday⟩ := hundisrupted
      exact (h.countDay hday).observe id (startsDay_countDay _ _) (effect_cycle huses hkeeps)
    | preheat input => exact h.quiet id (quiet_preheat input)
    | watchdog input => exact h.quiet id (quiet_watchdog input)
  | planned now => exact ⟨h.known, h.wet, h.lastStop, h.noDay, h.days, h.today, h.limit⟩
  | scheduleDegraded message => exact ⟨h.known, h.wet, h.lastStop, h.noDay, h.days, h.today, h.limit⟩
  | resetIntegration => exact ⟨h.known, h.wet, h.lastStop, h.noDay, h.days, h.today, h.limit⟩

/-- A start by the plan, under the invariant. -/
theorem Tracks.automatic (h : Tracks zone control s) {e : SpaEvent} (huses : e.Uses control)
    (hstart : AutomaticStart zone s e) : s.inProgress = false ∧
      ∀ now ∈ e.now, ∀ endedAt ∈ s.endedAt, control.minimumCycleSeparationMinutes * 60 ≤ now - endedAt := by
  cases e with
  | call c =>
    cases c with
    | cycle input =>
      obtain ⟨hstate, hblocks⟩ := automatic_start hstart.1 hstart.2
      have hcontrol : input.control = control := huses
      refine ⟨Bool.eq_false_iff.mpr fun hprogress => hstate (h.known hprogress), ?_⟩
      intro now hnow endedAt hended
      obtain rfl : input.now = now := Option.some.inj hnow
      have hlast : s.runtime.lastStopAt = some endedAt := h.lastStop.symm.trans hended
      rw [cooldownBlocksStart, hlast, Option.any_some, decide_eq_false_iff_not, not_lt, hcontrol] at hblocks
      exact hblocks
    | preheat input => exact hstart.elim
    | watchdog input => exact hstart.elim
  | planned now => exact hstart.elim
  | scheduleDegraded message => exact hstart.elim
  | resetIntegration => exact hstart.elim

end

/-- **The limits on the starts.** From a fresh runtime and under a fixed configuration, no local day has more
starts than the configuration allows, and every start by the plan comes when no cleaning is in progress and
the separation since the end of the last one is over, along every run in which no fault and no failed start of
the user comes while a cleaning is in progress, and no local day is entered again. -/
theorem startLimits_run (zone : TimeZone) (control : SpaControlConfigRecord) (events : List SpaEvent)
    (hcontrol : ∀ e ∈ events, e.Uses control) (hundisrupted : AllSteps (watchStep zone) (Undisrupted zone) {} events) :
    AllSteps (watchStep zone) (StartLimits zone control) {} events := by
  have huses : AllSteps (watchStep zone) (fun _ e => e.Uses control) {} events :=
    AllSteps.of_forall_mem hcontrol
  refine (huses.and hundisrupted).of_invariant (I := Tracks zone control) ?_ Tracks.fresh
  rintro s e h ⟨hu, hn⟩
  have hnext := h.step hu hn
  exact ⟨⟨hnext.limit, h.automatic hu⟩, hnext⟩

/-- A cleaning by the plan, and the end of its window. -/
theorem startLimits_oneCleaning : AllSteps (watchStep utc) (StartLimits utc {}) {}
      [.call (.cycle Demo.startingCycle), .planned 46800, .call (.cycle Demo.lateCycle)] := by
  refine startLimits_run utc {} _ ?_ ⟨⟨fun h => absurd h (by decide +kernel), by decide +kernel⟩, trivial, ?_, trivial⟩
  · simp [SpaEvent.Uses, Demo.startingCycle, Demo.lateCycle]
  · refine ⟨fun _ => ⟨by decide +kernel, fun hfails => absurd hfails.1 (by decide +kernel)⟩, by decide +kernel⟩

/-- A fault during the cleaning, which clears, and the next cycle in the same window. -/
def clearedFault : List SpaEvent :=
  [.call (.cycle Demo.startingCycle), .call (.cycle Demo.faultyCycle), .resetIntegration,
    .call (.cycle { Demo.startingCycle with now := 47400 })]

/-- After a fault that has cleared the plan starts a cleaning that is in progress already. -/
theorem started_in_progress :
    (∀ e ∈ clearedFault, e.Uses {}) ∧ ¬ AllSteps (watchStep utc) (StartLimits utc {}) {} clearedFault := by
  refine ⟨by simp [clearedFault, SpaEvent.Uses, Demo.startingCycle, Demo.faultyCycle], ?_⟩
  rintro ⟨-, -, -, ⟨-, hlimits⟩, -⟩
  have hidle := (hlimits ⟨rfl, by decide +kernel⟩).1
  exact absurd hidle (by decide +kernel)

end EnergyCore.SpaEnergy
