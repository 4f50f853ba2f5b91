import EnergyCore.Charging.AutomaticStartLimit
import EnergyCore.Charging.CoupledCharger
import EnergyCore.Charging.EngineRuns

/-!
# The starts after a restart

A new engine restores the state machine from the row of the charger, and its automatic starts from the edges of the
applied current in the rows of the last hour. The notes beside a run say which rows the running engine counts as
starts.

* `automaticStarts_evaluate`, `appliedCurrentA_of_onStartPath` — what one call counts, and what it leaves applied;
* `length_startTimes_markStarts` — the edges of an hour against the starts that are counted;
* `noted_step` — the row, the memory and the notes stay in step;
* `restart_equivalent_iff` — when a restart admits the same starts.
-/

namespace EnergyCore.Charging

open StepRun
open SlidingWindow

variable {σ : Type*}

/-! ### Admission -/

/-- The runtime on which the running engine evaluates its next cycle, and that of an engine which has been restarted. -/
def keptRuntime (s : EngineState σ) (now : Instant) : SmartChargingRuntime :=
  (ensureRuntime s.runtime s.charger s.rows now).smartRuntime

def restartedRuntime (s : EngineState σ) (now : Instant) : SmartChargingRuntime :=
  (ensureRuntime none s.charger s.rows now).smartRuntime

/-- The cooldown, the minimum off time or the hourly limit refuses a start. -/
def startRefused (r : SmartChargingRuntime) (c : EvaluateCall) : Bool := coolingDown r c || rateLimited r c

/-- A restart before the next cycle admits the same starts: it counts as many, asks in the same states, and refuses the
same. -/
structure RestartEquivalent (s : EngineState σ) (c : EvaluateCall) : Prop where
  count : (restartedRuntime s c.now).automaticStarts.length =
    (pruneStarts (keptRuntime s c.now).automaticStarts c.now).length
  path : onStartPath (restartedRuntime s c.now) = onStartPath (keptRuntime s c.now)
  refused : startRefused (restartedRuntime s c.now) c = startRefused (keptRuntime s c.now) c

/-! ### One call -/

/-- The call makes a start that counts. -/
def startsAutomatically (r : SmartChargingRuntime) (c : EvaluateCall) : Bool := startsNow r c && !fastCall c

theorem automaticStarts_evaluate (r : SmartChargingRuntime) (c : EvaluateCall) :
    (evaluateSmartCharging r c).1.automaticStarts =
      pruneStarts r.automaticStarts c.now ++ if startsAutomatically r c = true then [c.now] else [] := by
  have hstep := evaluateStep r c
  unfold startsAutomatically
  generalize evaluateSmartCharging r c = out at hstep ⊢
  cases hstep with
  | fault hf => simp [startsNow, live, hf, prunedRuntime]
  | pause hf hp => simp [startsNow, live, hp, prunedRuntime]
  | unplugged hf hp hv => simp [startsNow, live, hv, prunedRuntime, resetTimers]
  | cooldown hf hp hv hc => simp [startsNow, live, hc, prunedRuntime]
  | keepImporting hl hd hk => simp [startsNow, not_lt.mpr hd]
  | reduceBeforeStop hl hd hk hr => simp [startsNow, not_lt.mpr hd]
  | stopDelay hl hd hk hr hs => simp [startsNow, not_lt.mpr hd]
  | stop hl hd hk hr hs => simp [startsNow, not_lt.mpr hd]
  | rateLimited hl hd hp hr => simp [startsNow, hr]
  | waitingForExport hl hd hp hr he => simp [startsNow, he]
  | startDelay hl hd hp hr he hs => simp [startsNow, hs]
  | start hl hd hp hr he hs =>
    have hstarts : startsNow r c = true := by simp [startsNow, hl, hd, hp, hr, he, hs]
    rw [hstarts]
    cases fastCall c <;> simp
  | settled hl hd hp hs hc => simp [startsNow, hp]
  | reissue hl hd hp hs hc => simp [startsNow, hp]
  | rampMove hl hd hp hs => simp [startsNow, hp]

theorem onStartPath_of_startsAutomatically {r : SmartChargingRuntime} {c : EvaluateCall}
    (h : startsAutomatically r c = true) : onStartPath r = true := by
  unfold startsAutomatically startsNow at h
  simp only [Bool.and_eq_true] at h
  exact h.1.1.1.1.2

/-- **A machine that is about to start** has left nothing applied. -/
theorem appliedCurrentA_of_onStartPath {r : SmartChargingRuntime} {c : EvaluateCall}
    (h : onStartPath (evaluateSmartCharging r c).1 = true) : (evaluateSmartCharging r c).2.appliedCurrentA ≤ 0 := by
  have hstep := evaluateStep r c
  generalize evaluateSmartCharging r c = out at hstep h ⊢
  cases hstep with
  | fault hf => exact le_rfl
  | pause hf hp => exact le_rfl
  | unplugged hf hp hv => exact le_rfl
  | cooldown hf hp hv hc => exact le_rfl
  | keepImporting hl hd hk => simpa [onStartPath, startStates, setDecision] using h
  | reduceBeforeStop hl hd hk hr => simpa [onStartPath, startStates, setDecision] using h
  | stopDelay hl hd hk hr hs => simpa [onStartPath, startStates, noneDecision] using h
  | stop hl hd hk hr hs => exact le_rfl
  | rateLimited hl hd hp hr => exact le_rfl
  | waitingForExport hl hd hp hr he => exact le_rfl
  | startDelay hl hd hp hr he hs => exact le_rfl
  | start hl hd hp hr he hs =>
    cases hfast : fastCall c with
    | false => simpa [onStartPath, startStates, setDecision, hfast] using h
    | true => simpa [onStartPath, startStates, setDecision, hfast] using h
  | settled hl hd hp hs hc => simpa [onStartPath, startStates, noneDecision] using h
  | reissue hl hd hp hs hc => simpa [onStartPath, startStates, setDecision] using h
  | rampMove hl hd hp hs =>
    by_cases hdown : rampedA r c < r.requestedCurrentA
    · simpa [onStartPath, startStates, setDecision, hdown] using h
    · simpa [onStartPath, startStates, setDecision, hdown] using h

/-! ### Notes -/

/-- A row of the cycles, and whether the engine counts its cycle as an automatic start. -/
structure CycleNote where
  row : EvBridgeCycle
  counted : Bool

/-- The notes of the hour that begins at `since`. -/
def notesSince (since : Instant) (notes : List CycleNote) : List CycleNote :=
  notes.filter fun note => decide (since ≤ note.row.recordedAt)

/-- The times of the starts that are counted. -/
def startTimes (notes : List CycleNote) : List Instant :=
  (notes.filter CycleNote.counted).map fun note => note.row.recordedAt

theorem startTimes_cons (note : CycleNote) (notes : List CycleNote) : startTimes (note :: notes) =
    (if note.counted = true then [note.row.recordedAt] else []) ++ startTimes notes := by
  unfold startTimes
  rw [List.filter_cons]
  split_ifs
  · rfl
  · rfl

theorem startTimes_append (notes notes' : List CycleNote) :
    startTimes (notes ++ notes') = startTimes notes ++ startTimes notes' := by
  unfold startTimes
  rw [List.filter_append, List.map_append]

/-- What `list_starts_since` takes for starts: the rows with a current after one without. -/
def markStarts (previousA : ℚ) : List EvBridgeCycle → List CycleNote
  | [] => []
  | row :: rows =>
    { row := row, counted := decide (row.appliedCurrentA > 0 ∧ previousA ≤ 0) } :: markStarts row.appliedCurrentA rows

theorem listStartsSince_eq (rows : List EvBridgeCycle) (since : Instant) :
    listStartsSince rows since = startTimes (markStarts 0 (rows.filter fun row => decide (since ≤ row.recordedAt))) := by
  have hfold : ∀ (rows : List EvBridgeCycle) (found : List Instant) (previousA : ℚ),
      (rows.foldl (fun (found : List Instant × ℚ) (row : EvBridgeCycle) =>
        (if row.appliedCurrentA > 0 ∧ found.2 ≤ 0 then found.1 ++ [row.recordedAt] else found.1,
          row.appliedCurrentA)) (found, previousA)).1 = found ++ startTimes (markStarts previousA rows) := by
    intro rows
    induction rows with
    | nil => exact fun found previousA => (List.append_nil found).symm
    | cons row rows ih =>
      intro found previousA
      rw [List.foldl_cons, ih]
      rw [markStarts, startTimes_cons, ← List.append_assoc]
      by_cases htaken : row.appliedCurrentA > 0 ∧ previousA ≤ 0
      · rw [if_pos htaken, if_pos (decide_eq_true htaken)]
      · rw [if_neg htaken, if_neg (fun h => htaken (of_decide_eq_true h)), List.append_nil]
  exact hfold _ [] 0

/-- Rows that a restart takes for starts, and that the running engine does not count. -/
def mistakenStarts (previousA : ℚ) : List CycleNote → List CycleNote
  | [] => []
  | note :: notes =>
    (if note.row.appliedCurrentA > 0 ∧ previousA ≤ 0 ∧ note.counted = false then [note] else []) ++
      mistakenStarts note.row.appliedCurrentA notes

/-- Starts that ask for no current, which the minimum current and the ramp of the settings may leave. -/
def idleStarts (notes : List CycleNote) : List CycleNote :=
  notes.filter fun note => decide (note.counted = true ∧ note.row.appliedCurrentA ≤ 0)

theorem idleStarts_cons (note : CycleNote) (notes : List CycleNote) : idleStarts (note :: notes) =
    (if note.counted = true ∧ note.row.appliedCurrentA ≤ 0 then [note] else []) ++ idleStarts notes := by
  unfold idleStarts
  by_cases h : note.counted = true ∧ note.row.appliedCurrentA ≤ 0
  · rw [if_pos h]
    exact List.filter_cons_of_pos (decide_eq_true h)
  · rw [if_neg h]
    exact List.filter_cons_of_neg (fun hall => h (of_decide_eq_true hall))

/-- What is counted follows a row without a current. -/
def StartsAtRest (previousA : ℚ) : List CycleNote → Prop
  | [] => True
  | note :: notes => (note.counted = true → previousA ≤ 0) ∧ StartsAtRest note.row.appliedCurrentA notes

/-- **The edges of an hour** are the starts that are counted, less those without a current, and the mistaken ones. -/
theorem length_startTimes_markStarts {previousA : ℚ} {notes : List CycleNote} (h : StartsAtRest previousA notes) :
    (startTimes (markStarts previousA (notes.map CycleNote.row))).length + (idleStarts notes).length =
      (startTimes notes).length + (mistakenStarts previousA notes).length := by
  induction notes generalizing previousA with
  | nil => rfl
  | cons note notes ih =>
    have hrest := ih h.2
    rw [List.map_cons, markStarts, mistakenStarts, startTimes_cons, startTimes_cons, idleStarts_cons]
    simp only [List.length_append]
    cases hcounted : note.counted with
    | true =>
      have hprevious := h.1 hcounted
      by_cases hpositive : note.row.appliedCurrentA > 0
      · simp [hprevious, hpositive, not_le.mpr hpositive]
        omega
      · simp [hpositive, not_lt.mp hpositive]
        omega
    | false =>
      by_cases htaken : note.row.appliedCurrentA > 0 ∧ previousA ≤ 0
      · simp [htaken.1, htaken.2]
        omega
      · simp [htaken]
        omega

/-! ### Runs with notes -/

/-- The engine of a charger, the notes of its cycles, and the time of the last one. -/
structure NotedEngine (σ : Type*) where
  engine : EngineState σ
  notes : List CycleNote := []
  clock : Instant

/-- What an engine that has been restarted counts: in the rows from `since` on, what it takes for starts. -/
def renote (since : Instant) (previousA : ℚ) : List CycleNote → List CycleNote
  | [] => []
  | note :: notes =>
    if since ≤ note.row.recordedAt then
      { note with counted := decide (note.row.appliedCurrentA > 0 ∧ previousA ≤ 0) } ::
        renote since note.row.appliedCurrentA notes
    else note :: renote since previousA notes

/-- The call with which a cycle evaluates the state machine. -/
def EngineState.call (adapter : ChargerAdapter σ) (inputs : CycleInputs σ) (s : EngineState σ) (energy : EnergyState)
    (config : ChargingConfig) (target : ℚ × String) : EvaluateCall :=
  evaluateCall inputs (expireOverride s.charger inputs.now) config energy target
    (readCharger adapter inputs (ensureRuntime s.runtime s.charger s.rows inputs.now) s.device).seen

/-- The cycle makes a start that counts. -/
def cycleStarts (adapter : ChargerAdapter σ) (inputs : CycleInputs σ) (s : EngineState σ) : Bool :=
  (inputs.handed s.charger).any fun energy => inputs.config.any fun config =>
    (inputs.optimizerTarget energy).any fun target =>
      startsAutomatically (keptRuntime s inputs.now) (s.call adapter inputs energy config target)

/-- The notes that the engine goes by in a cycle. -/
def NotedEngine.known (s : NotedEngine σ) (step : EngineStep σ) : List CycleNote :=
  if (step.found s.engine).runtime.isNone ∧ (step.inputs.handed (step.found s.engine).charger).isSome then
    renote (step.inputs.now - 3600) 0 s.notes
  else s.notes

def notedStep (adapter : ChargerAdapter σ) (s : NotedEngine σ) (step : EngineStep σ) : NotedEngine σ where
  engine := engineStep adapter s.engine step
  notes := s.known step ++ ((engineStep adapter s.engine step).rows.drop s.engine.rows.length).map fun row =>
    { row := row, counted := cycleStarts adapter step.inputs (step.found s.engine) }
  clock := step.inputs.now

/-- The row of the cycle shows the current of its decision. -/
def DecisionApplied (adapter : ChargerAdapter σ) (s : NotedEngine σ) (step : EngineStep σ) : Prop :=
  ∀ row runtime decision, (engineStep adapter s.engine step).rows = s.engine.rows ++ [row] →
    (engineStep adapter s.engine step).runtime = some runtime → runtime.lastDecision = some decision →
      row.appliedCurrentA = decision.appliedCurrentA

/-- A cycle of the runs: time does not go back, and the decision is applied. -/
structure AppliedCycle (adapter : ChargerAdapter σ) (s : NotedEngine σ) (step : EngineStep σ) : Prop where
  clock : s.clock ≤ step.inputs.now
  applied : DecisionApplied adapter s step

/-! ### Windows of notes -/

theorem recent_startTimes (since : Instant) (notes : List CycleNote) :
    recent since (startTimes notes) = startTimes (notesSince since notes) := by
  induction notes with
  | nil => rfl
  | cons note notes ih =>
    unfold notesSince at ih ⊢
    rw [startTimes_cons, recent_append, ih, List.filter_cons]
    by_cases hsince : since ≤ note.row.recordedAt
    · rw [if_pos (decide_eq_true hsince), startTimes_cons]
      cases note.counted with
      | true => simp [recent, hsince]
      | false => rfl
    · rw [if_neg (fun h => hsince (of_decide_eq_true h))]
      cases note.counted with
      | true => simp [recent, hsince]
      | false => rfl

theorem notesSince_notesSince {since since' : Instant} (h : since ≤ since') (notes : List CycleNote) :
    notesSince since' (notesSince since notes) = notesSince since' notes := by
  unfold notesSince
  rw [List.filter_filter]
  refine List.filter_congr fun note _ => ?_
  by_cases hsince : since' ≤ note.row.recordedAt
  · simp [hsince, h.trans hsince]
  · simp [hsince]

theorem map_row_renote (since : Instant) (previousA : ℚ) (notes : List CycleNote) :
    (renote since previousA notes).map CycleNote.row = notes.map CycleNote.row := by
  induction notes generalizing previousA with
  | nil => rfl
  | cons note notes ih =>
    unfold renote
    split_ifs
    · rw [List.map_cons, ih]
      rfl
    · rw [List.map_cons, ih]
      rfl

theorem notesSince_renote (since : Instant) (previousA : ℚ) (notes : List CycleNote) :
    notesSince since (renote since previousA notes) =
      markStarts previousA ((notes.map CycleNote.row).filter fun row => decide (since ≤ row.recordedAt)) := by
  induction notes generalizing previousA with
  | nil => rfl
  | cons note notes ih =>
    unfold renote
    rw [List.map_cons, List.filter_cons]
    unfold notesSince at ih ⊢
    by_cases hsince : since ≤ note.row.recordedAt
    · rw [if_pos hsince, if_pos (decide_eq_true hsince), List.filter_cons, if_pos (decide_eq_true hsince), ih]
      rfl
    · rw [if_neg hsince, if_neg (fun h => hsince (of_decide_eq_true h)), List.filter_cons,
        if_neg (fun h => hsince (of_decide_eq_true h)), ih]

theorem map_row_notesSince (since : Instant) (notes : List CycleNote) : (notesSince since notes).map CycleNote.row =
      (notes.map CycleNote.row).filter fun row => decide (since ≤ row.recordedAt) := by
  unfold notesSince
  rw [List.filter_map]
  rfl

/-- The rows are noted in the order of their times. -/
def InOrder (rows : List EvBridgeCycle) : Prop := rows.Pairwise fun row row' => row.recordedAt ≤ row'.recordedAt

theorem map_row_markStarts (previousA : ℚ) (rows : List EvBridgeCycle) :
    (markStarts previousA rows).map CycleNote.row = rows := by
  induction rows generalizing previousA with
  | nil => rfl
  | cons row rows ih => rw [markStarts, List.map_cons, ih]

theorem startsAtRest_markStarts (previousA : ℚ) (rows : List EvBridgeCycle) :
    StartsAtRest previousA (markStarts previousA rows) := by
  induction rows generalizing previousA with
  | nil => trivial
  | cons row rows ih => exact ⟨fun hcounted => (of_decide_eq_true hcounted).2, ih row.appliedCurrentA⟩

/-- The notes of a window are the last ones, and what comes first in it has nothing before it. -/
theorem StartsAtRest.since {previousA : ℚ} {notes : List CycleNote} (since : Instant)
    (hordered : InOrder (notes.map CycleNote.row)) (h : StartsAtRest previousA notes) :
    StartsAtRest 0 (notesSince since notes) := by
  induction notes generalizing previousA with
  | nil => trivial
  | cons note notes ih =>
    have hpairwise := List.pairwise_cons.mp hordered
    by_cases hsince : since ≤ note.row.recordedAt
    · have hall : notesSince since (note :: notes) = note :: notes := by
        refine List.filter_eq_self.mpr fun note' hmem => decide_eq_true ?_
        rcases List.mem_cons.mp hmem with rfl | hmem
        · exact hsince
        · exact hsince.trans (hpairwise.1 _ (List.mem_map_of_mem hmem))
      rw [hall]
      exact ⟨fun _ => le_rfl, h.2⟩
    · have hlater : notesSince since (note :: notes) = notesSince since notes := by
        unfold notesSince
        rw [List.filter_cons, if_neg (fun h => hsince (of_decide_eq_true h))]
      rw [hlater]
      exact ih hpairwise.2 h.2

/-- The current of the last row. -/
def lastCurrentA (previousA : ℚ) (rows : List EvBridgeCycle) : ℚ :=
  (rows.getLast?.map EvBridgeCycle.appliedCurrentA).getD previousA

theorem lastCurrentA_concat (previousA : ℚ) (rows : List EvBridgeCycle) (row : EvBridgeCycle) :
    lastCurrentA previousA (rows ++ [row]) = row.appliedCurrentA := by
  unfold lastCurrentA
  rw [List.getLast?_concat]
  rfl

theorem StartsAtRest.concat {previousA : ℚ} {notes : List CycleNote} {note : CycleNote} (h : StartsAtRest previousA notes)
    (hnote : note.counted = true → lastCurrentA previousA (notes.map CycleNote.row) ≤ 0) :
    StartsAtRest previousA (notes ++ [note]) := by
  induction notes generalizing previousA with
  | nil => exact ⟨hnote, trivial⟩
  | cons first notes ih =>
    refine ⟨h.1, ih h.2 fun hcounted => ?_⟩
    have hlast := hnote hcounted
    unfold lastCurrentA at hlast ⊢
    rw [List.map_cons, List.getLast?_cons] at hlast
    cases hend : (notes.map CycleNote.row).getLast? with
    | none =>
      rw [hend] at hlast
      exact hlast
    | some row =>
      rw [hend] at hlast
      exact hlast

/-- The last row of a window is the last row. -/
theorem lastCurrentA_since {rows : List EvBridgeCycle} (since : Instant) (hordered : InOrder rows)
    (h : lastCurrentA 0 rows ≤ 0) : lastCurrentA 0 (rows.filter fun row => decide (since ≤ row.recordedAt)) ≤ 0 := by
  rcases List.eq_nil_or_concat rows with rfl | ⟨before, row, rfl⟩
  · exact le_rfl
  · rw [List.concat_eq_append] at hordered h ⊢
    rw [lastCurrentA_concat] at h
    rw [List.filter_append]
    by_cases hsince : since ≤ row.recordedAt
    · rw [List.filter_cons, if_pos (decide_eq_true hsince), List.filter_nil]
      exact (lastCurrentA_concat _ _ _).trans_le h
    · have hearlier : (before.filter fun row => decide (since ≤ row.recordedAt)) = [] := by
        refine List.filter_eq_nil_iff.mpr fun row' hmem hlate => hsince ?_
        exact (of_decide_eq_true hlate).trans
          ((List.pairwise_append.mp hordered).2.2 row' hmem row (List.mem_singleton_self row))
      rw [hearlier, List.filter_cons, if_neg (fun hlate => hsince (of_decide_eq_true hlate))]
      exact le_rfl

/-! ### One cycle -/

/-- The runtimes agree in what decides on a start, the starts they count apart. -/
structure SameAdmission (r r' : SmartChargingRuntime) : Prop where
  state : r'.state = r.state
  requestedCurrentA : r'.requestedCurrentA = r.requestedCurrentA
  lastStopAt : r'.lastStopAt = r.lastStopAt

theorem SameAdmission.trans {r r' r'' : SmartChargingRuntime} (h : SameAdmission r r') (h' : SameAdmission r' r'') :
    SameAdmission r r'' :=
  ⟨h'.state.trans h.state, h'.requestedCurrentA.trans h.requestedCurrentA, h'.lastStopAt.trans h.lastStopAt⟩

theorem SameAdmission.onStartPath {r r' : SmartChargingRuntime} (h : SameAdmission r r') :
    onStartPath r' = onStartPath r := by
  unfold EnergyCore.Charging.onStartPath
  rw [h.state, h.requestedCurrentA]

theorem SameRecord.restore {charger charger' : EvCharger} (h : SameRecord charger charger') :
    SameAdmission (restoreRuntimeFromCharger charger) (restoreRuntimeFromCharger charger') := by
  unfold restoreRuntimeFromCharger
  rw [h.smartChargingState, h.lastRequestedCurrentA, h.lastStartAt, h.lastStopAt]
  exact ⟨rfl, rfl, rfl⟩

theorem restored_ensureRuntime (runtime : Option ChargerRuntimeState) (charger : EvCharger)
    (rows : List EvBridgeCycle) (now : Instant) : (ensureRuntime runtime charger rows now).restored = true := by
  unfold ensureRuntime
  dsimp only
  split_ifs with h
  · exact h
  · rfl

theorem ensureRuntime_of_restored {runtime : ChargerRuntimeState} (h : runtime.restored = true) (charger : EvCharger)
    (rows : List EvBridgeCycle) (now : Instant) : ensureRuntime (some runtime) charger rows now = runtime :=
  if_pos h

/-- What is left by a cycle that evaluates the state machine. -/
structure Controlled (s s' : EngineState σ) (r : SmartChargingRuntime) (c : EvaluateCall) (row : EvBridgeCycle)
    (runtime : ChargerRuntimeState) : Prop where
  rows : s'.rows = s.rows ++ [row]
  recordedAt : row.recordedAt = c.now
  memory : s'.runtime = some runtime
  restored : runtime.restored = true
  automaticStarts : runtime.smartRuntime.automaticStarts = (evaluateSmartCharging r c).1.automaticStarts
  record : SameAdmission (restoreRuntimeFromCharger s'.charger) runtime.smartRuntime
  evaluated : SameAdmission (evaluateSmartCharging r c).1 runtime.smartRuntime
  decision : ∃ decision, runtime.lastDecision = some decision ∧
    decision.appliedCurrentA = (evaluateSmartCharging r c).2.appliedCurrentA

theorem engineStep_controlled (adapter : ChargerAdapter σ) {s : EngineState σ} {step : EngineStep σ}
    {energy : EnergyState} {config : ChargingConfig} {target : ℚ × String}
    (hhanded : step.inputs.handed (step.found s).charger = some energy) (hconfig : step.inputs.config = some config)
    (htarget : step.inputs.optimizerTarget energy = some target) :
    ∃ row runtime, Controlled s (engineStep adapter s step) (keptRuntime (step.found s) step.inputs.now)
      ((step.found s).call adapter step.inputs energy config target) row runtime := by
  obtain ⟨config', hconfig', hcycle⟩ := runChargerCycle_of_handed adapter hhanded
  obtain rfl : config' = config := Option.some.inj (hconfig'.symm.trans hconfig)
  rw [htarget] at hcycle
  unfold engineStep
  rw [hcycle]
  exact ⟨_, _, rfl, rfl, rfl, restored_ensureRuntime _ _ _ _, rfl, ⟨rfl, rfl, rfl⟩, ⟨rfl, rfl, rfl⟩, _, rfl, rfl⟩

/-- A cycle that does not get to the state machine leaves the record and the rows. -/
theorem engineStep_uncontrolled (adapter : ChargerAdapter σ) {s : EngineState σ} {step : EngineStep σ}
    (h : ∀ energy, step.inputs.handed (step.found s).charger = some energy → step.inputs.optimizerTarget energy = none) :
    SameRecord s.charger (engineStep adapter s step).charger ∧ (engineStep adapter s step).rows = s.rows ∧
      (engineStep adapter s step).runtime = if (step.inputs.handed (step.found s).charger).isSome then
        some (ensureRuntime (step.found s).runtime (step.found s).charger s.rows step.inputs.now)
      else (step.found s).runtime := by
  have hsettings : SameRecord s.charger (step.found s).charger := step.settings.keeps s.charger
  unfold engineStep
  cases hhanded : step.inputs.handed (step.found s).charger with
  | none =>
    obtain ⟨hrecord, hrows, hruntime⟩ := turnedAway_keeps step.inputs (step.found s)
    rw [runChargerCycle_of_handed_none adapter hhanded]
    exact ⟨hsettings.trans hrecord, hrows, hruntime⟩
  | some energy =>
    obtain ⟨config, -, hcycle⟩ := runChargerCycle_of_handed adapter hhanded
    rw [hcycle, h energy hhanded]
    exact ⟨hsettings.trans (sameRecord_expireOverride _ _), rfl, rfl⟩

/-! ### The row, the memory and the notes -/

/-- What a runtime in memory has in common with the row of the charger and with the notes. -/
structure Remembers (charger : EvCharger) (notes : List CycleNote) (clock : Instant) (runtime : ChargerRuntimeState) :
    Prop where
  restored : runtime.restored = true
  record : SameAdmission (restoreRuntimeFromCharger charger) runtime.smartRuntime
  counted : ∀ since, clock - 3600 ≤ since →
    recent since runtime.smartRuntime.automaticStarts = startTimes (notesSince since notes)
  atRest : ∀ since, clock - 3600 ≤ since → StartsAtRest 0 (notesSince since notes)

/-- The row, the memory and the notes are in step. -/
structure Noted (s : NotedEngine σ) : Prop where
  rows : s.notes.map CycleNote.row = s.engine.rows
  ordered : InOrder s.engine.rows
  past : ∀ row ∈ s.engine.rows, row.recordedAt ≤ s.clock
  rest : onStartPath (restoreRuntimeFromCharger s.engine.charger) = true → lastCurrentA 0 s.engine.rows ≤ 0
  memory : ∀ runtime, s.engine.runtime = some runtime → Remembers s.engine.charger s.notes s.clock runtime

theorem Remembers.later {charger charger' : EvCharger} {notes : List CycleNote} {clock now : Instant}
    {runtime : ChargerRuntimeState} (h : Remembers charger notes clock runtime) (hrecord : SameRecord charger charger')
    (hclock : clock ≤ now) : Remembers charger' notes now runtime where
  restored := h.restored
  record := hrecord.symm.restore.trans h.record
  counted since hsince := h.counted since ((sub_le_sub_right hclock 3600).trans hsince)
  atRest since hsince := h.atRest since ((sub_le_sub_right hclock 3600).trans hsince)

/-- An engine that starts remembers what it has found. -/
theorem remembers_renote {notes : List CycleNote} {rows : List EvBridgeCycle} (hrows : notes.map CycleNote.row = rows)
    (hordered : InOrder rows) (charger : EvCharger) (now : Instant) :
    Remembers charger (renote (now - 3600) 0 notes) now (ensureRuntime none charger rows now) := by
  have hmarked : notesSince (now - 3600) (renote (now - 3600) 0 notes) =
      markStarts 0 (rows.filter fun row => decide (now - 3600 ≤ row.recordedAt)) := by
    rw [notesSince_renote, hrows]
  refine ⟨restored_ensureRuntime _ _ _ _, ⟨rfl, rfl, rfl⟩, fun since hsince => ?_, fun since hsince => ?_⟩
  · have hfound : (ensureRuntime none charger rows now).smartRuntime.automaticStarts =
        listStartsSince rows (now - 3600) := rfl
    rw [hfound, listStartsSince_eq, ← hmarked, recent_startTimes, notesSince_notesSince hsince]
  · rw [← notesSince_notesSince hsince, hmarked]
    refine (startsAtRest_markStarts _ _).since since ?_
    rw [← hmarked, map_row_notesSince, map_row_renote, hrows]
    exact hordered.filter _

theorem known_row {s : NotedEngine σ} (hs : Noted s) (step : EngineStep σ) :
    (s.known step).map CycleNote.row = s.engine.rows := by
  unfold NotedEngine.known
  split_ifs
  · rw [map_row_renote, hs.rows]
  · exact hs.rows

/-- What the engine goes by in a cycle. -/
theorem remembers_known {s : NotedEngine σ} (hs : Noted s) {step : EngineStep σ} (hclock : s.clock ≤ step.inputs.now)
    (hhanded : (step.inputs.handed (step.found s.engine).charger).isSome = true) :
    Remembers (step.found s.engine).charger (s.known step) step.inputs.now
      (ensureRuntime (step.found s.engine).runtime (step.found s.engine).charger s.engine.rows step.inputs.now) := by
  unfold NotedEngine.known
  cases hfound : (step.found s.engine).runtime with
  | none =>
    rw [if_pos ⟨rfl, hhanded⟩]
    exact remembers_renote hs.rows hs.ordered _ _
  | some runtime =>
    have hruntime : s.engine.runtime = some runtime := by
      unfold EngineStep.found at hfound
      dsimp only at hfound
      split_ifs at hfound
      exact hfound
    have hremembers := (hs.memory runtime hruntime).later (step.settings.keeps s.engine.charger) hclock
    rw [if_neg (fun h => Bool.false_ne_true h.1), ensureRuntime_of_restored hremembers.restored]
    exact hremembers

theorem noted_uncontrolled (adapter : ChargerAdapter σ) {s : NotedEngine σ} (hs : Noted s) {step : EngineStep σ}
    (hclock : s.clock ≤ step.inputs.now)
    (h : ∀ energy, step.inputs.handed (step.found s.engine).charger = some energy →
      step.inputs.optimizerTarget energy = none) : Noted (notedStep adapter s step) := by
  obtain ⟨hrecord, hrows, hruntime⟩ := engineStep_uncontrolled adapter h
  have hnotes : (notedStep adapter s step).notes = s.known step := by
    unfold notedStep
    rw [hrows, List.drop_length]
    exact List.append_nil _
  refine ⟨?_, ?_, fun row hmem => ?_, fun hpath => ?_, fun runtime hmemory => ?_⟩
  · rw [hnotes, known_row hs]
    exact hrows.symm
  · exact hrows.symm ▸ hs.ordered
  · have hmem' : row ∈ (engineStep adapter s.engine step).rows := hmem
    rw [hrows] at hmem'
    exact (hs.past row hmem').trans hclock
  · show lastCurrentA 0 (engineStep adapter s.engine step).rows ≤ 0
    rw [hrows]
    exact hs.rest (hrecord.restore.onStartPath.symm.trans hpath)
  · have hmemory' : (engineStep adapter s.engine step).runtime = some runtime := hmemory
    rw [hruntime] at hmemory'
    rw [hnotes]
    by_cases hhanded : (step.inputs.handed (step.found s.engine).charger).isSome = true
    · rw [if_pos hhanded, Option.some.injEq] at hmemory'
      rw [← hmemory']
      have hfound : SameRecord (step.found s.engine).charger s.engine.charger := (step.settings.keeps s.engine.charger).symm
      exact (remembers_known hs hclock hhanded).later (hfound.trans hrecord) le_rfl
    · rw [if_neg hhanded] at hmemory'
      have hknown : s.known step = s.notes := if_neg fun hboth => hhanded hboth.2
      have hkept : s.engine.runtime = some runtime := by
        unfold EngineStep.found at hmemory'
        dsimp only at hmemory'
        split_ifs at hmemory'
        exact hmemory'
      rw [hknown]
      exact (hs.memory runtime hkept).later hrecord hclock

theorem noted_controlled (adapter : ChargerAdapter σ) {s : NotedEngine σ} (hs : Noted s) {step : EngineStep σ}
    (hcycle : AppliedCycle adapter s step) {energy : EnergyState} {config : ChargingConfig} {target : ℚ × String}
    (hhanded : step.inputs.handed (step.found s.engine).charger = some energy) (hconfig : step.inputs.config = some config)
    (htarget : step.inputs.optimizerTarget energy = some target) : Noted (notedStep adapter s step) := by
  obtain ⟨row, runtime, h⟩ := engineStep_controlled adapter hhanded hconfig htarget
  have hknown := remembers_known hs hcycle.clock (Option.isSome_of_eq_some hhanded)
  have hnow : ((step.found s.engine).call adapter step.inputs energy config target).now = step.inputs.now := rfl
  have hrow : row.recordedAt = step.inputs.now := h.recordedAt
  have hcounted : cycleStarts adapter step.inputs (step.found s.engine) =
      startsAutomatically (keptRuntime (step.found s.engine) step.inputs.now)
        ((step.found s.engine).call adapter step.inputs energy config target) := by
    unfold cycleStarts
    rw [hhanded, hconfig, Option.any_some, Option.any_some, htarget, Option.any_some]
  have hnotes : (notedStep adapter s step).notes =
      s.known step ++ [{ row := row, counted := cycleStarts adapter step.inputs (step.found s.engine) }] := by
    unfold notedStep
    rw [h.rows, List.drop_left]
    rfl
  obtain ⟨decision, hlast, hdecided⟩ := h.decision
  refine ⟨?_, ?_, fun row' hmem => ?_, fun hpath => ?_, fun runtime' hmemory => ?_⟩
  · rw [hnotes, List.map_append, known_row hs]
    exact h.rows.symm
  · show InOrder (engineStep adapter s.engine step).rows
    rw [h.rows]
    refine List.pairwise_append.mpr ⟨hs.ordered, List.pairwise_singleton _ _, fun row' hmem row'' hlast => ?_⟩
    rw [List.mem_singleton.mp hlast, hrow]
    exact (hs.past row' hmem).trans hcycle.clock
  · have hmem' : row' ∈ (engineStep adapter s.engine step).rows := hmem
    rw [h.rows] at hmem'
    rcases List.mem_append.mp hmem' with hold | hnew
    · exact (hs.past row' hold).trans hcycle.clock
    · rw [List.mem_singleton.mp hnew]
      exact hrow.le
  · show lastCurrentA 0 (engineStep adapter s.engine step).rows ≤ 0
    rw [h.rows, lastCurrentA_concat, hcycle.applied row runtime decision h.rows h.memory hlast, hdecided]
    refine appliedCurrentA_of_onStartPath ?_
    rw [← h.evaluated.onStartPath, h.record.onStartPath]
    exact hpath
  · have hruntime : runtime' = runtime := Option.some.inj (hmemory.symm.trans h.memory)
    rw [hruntime, hnotes]
    refine ⟨h.restored, h.record, fun since hsince => ?_, fun since hsince => ?_⟩
    · have hone : startTimes [{ row := row, counted := cycleStarts adapter step.inputs (step.found s.engine) }] =
          if cycleStarts adapter step.inputs (step.found s.engine) = true then [step.inputs.now] else [] := by
        rw [startTimes_cons, ← hrow]
        exact List.append_nil _
      rw [h.automaticStarts, automaticStarts_evaluate, hnow, ← hcounted, ← hone, recent_append, recent_startTimes]
      have hpruned : recent since (pruneStarts (keptRuntime (step.found s.engine) step.inputs.now).automaticStarts
          step.inputs.now) = startTimes (notesSince since (s.known step)) :=
        (recent_recent hsince _).trans (hknown.counted since hsince)
      unfold notesSince
      rw [hpruned, List.filter_append, startTimes_append]
      rfl
    · unfold notesSince
      rw [List.filter_append]
      by_cases hlate : since ≤ step.inputs.now
      · rw [List.filter_cons, if_pos (decide_eq_true (hlate.trans hrow.ge)), List.filter_nil]
        refine (hknown.atRest since hsince).concat fun hstarts => ?_
        have hpath := onStartPath_of_startsAutomatically (hcounted.symm.trans hstarts)
        have hstopped : lastCurrentA 0 s.engine.rows ≤ 0 :=
          hs.rest ((step.settings.keeps s.engine.charger).restore.onStartPath.symm.trans
            (hknown.record.onStartPath.symm.trans hpath))
        rw [map_row_notesSince, known_row hs]
        exact lastCurrentA_since since hs.ordered hstopped
      · rw [List.filter_cons, if_neg (fun h => hlate ((of_decide_eq_true h).trans hrow.le)), List.filter_nil,
          List.append_nil]
        exact hknown.atRest since hsince

/-- **The row, the memory and the notes stay in step.** -/
theorem noted_step (adapter : ChargerAdapter σ) (s : NotedEngine σ) (step : EngineStep σ) (hs : Noted s)
    (hcycle : AppliedCycle adapter s step) : Noted (notedStep adapter s step) := by
  by_cases hcontrolled : ∃ energy target, step.inputs.handed (step.found s.engine).charger = some energy ∧
      step.inputs.optimizerTarget energy = some target
  · obtain ⟨energy, target, hhanded, htarget⟩ := hcontrolled
    obtain ⟨-, -, -, ⟨config, hconfig⟩, -⟩ := handed_eq_some.mp hhanded
    exact noted_controlled adapter hs hcycle hhanded hconfig htarget
  · refine noted_uncontrolled adapter hs hcycle.clock fun energy hhanded => ?_
    cases htarget : step.inputs.optimizerTarget energy with
    | none => rfl
    | some target => exact absurd ⟨energy, target, hhanded, htarget⟩ hcontrolled

/-! ### Restarts -/

/-- A charger that no cycle has run for, and an engine that does not know it. -/
def NotedEngine.initial (charger : EvCharger) (device : σ) (clock : Instant) : NotedEngine σ where
  engine := { charger := charger, device := device }
  clock := clock

theorem noted_initial {charger : EvCharger} (device : σ) (clock : Instant) :
    Noted (NotedEngine.initial charger device clock) where
  rows := rfl
  ordered := List.Pairwise.nil
  past _ hmem := absurd hmem List.not_mem_nil
  rest _ := le_rfl
  memory _ hmemory := Option.noConfusion rfl (heq_of_eq hmemory)

/-- While the cooldown of the last stop is running, the off time or the hourly limit refuses a start as well. -/
def CooldownCovered (s : EngineState σ) (c : EvaluateCall) : Prop :=
  coolingDown (keptRuntime s c.now) c = true → rateLimited (keptRuntime s c.now) c = true

/-- The rows of the last hour that are mistaken for starts are as many as the starts without a current. -/
def EdgesCount (s : NotedEngine σ) (now : Instant) : Prop :=
  (mistakenStarts 0 (notesSince (now - 3600) s.notes)).length = (idleStarts (notesSince (now - 3600) s.notes)).length

/-- The starts that are restored are those of the last hour. -/
theorem pruneStarts_restartedRuntime (s : EngineState σ) (now : Instant) :
    pruneStarts (restartedRuntime s now).automaticStarts now = (restartedRuntime s now).automaticStarts := by
  have hrestarted : (restartedRuntime s now).automaticStarts = listStartsSince s.rows (now - 3600) := rfl
  rw [hrestarted, listStartsSince_eq]
  refine (recent_startTimes _ _).trans (congrArg startTimes ?_)
  refine List.filter_eq_self.mpr fun note hmem => decide_eq_true ?_
  have hrow : note.row ∈ (markStarts 0 (s.rows.filter fun row => decide (now - 3600 ≤ row.recordedAt))).map
      CycleNote.row := List.mem_map_of_mem hmem
  rw [map_row_markStarts] at hrow
  exact of_decide_eq_true (List.mem_filter.mp hrow).2

/-- Of two runtimes that count as many starts, the hourly limit refuses both or none. -/
theorem rateLimited_congr {r r' : SmartChargingRuntime} {c : EvaluateCall} (h : SameAdmission r r')
    (hlength : (pruneStarts r.automaticStarts c.now).length = (pruneStarts r'.automaticStarts c.now).length) :
    rateLimited r c = rateLimited r' c := by
  unfold rateLimited startAllowed prunedRuntime
  dsimp only
  rw [h.lastStopAt, hlength]

/-- **A restart in a state that is in step with its notes.** -/
theorem restart_equivalent_state {s : NotedEngine σ} (hs : Noted s) {c : EvaluateCall} (hclock : s.clock ≤ c.now) :
    RestartEquivalent s.engine c ↔
      (s.engine.runtime.isSome = true → EdgesCount s c.now ∧ CooldownCovered s.engine c) := by
  cases hmemory : s.engine.runtime with
  | none =>
    have hkept : keptRuntime s.engine c.now = restartedRuntime s.engine c.now := by
      unfold keptRuntime
      rw [hmemory]
      rfl
    refine iff_of_true ⟨?_, ?_, ?_⟩ fun h => absurd h Bool.false_ne_true
    · rw [hkept, pruneStarts_restartedRuntime]
    · rw [hkept]
    · rw [hkept]
  | some runtime =>
    have hremembers := (hs.memory runtime hmemory).later (SameRecord.refl _) hclock
    have hkept : keptRuntime s.engine c.now = runtime.smartRuntime := by
      unfold keptRuntime
      rw [hmemory, ensureRuntime_of_restored hremembers.restored]
    have hsame : SameAdmission (restartedRuntime s.engine c.now) (keptRuntime s.engine c.now) := by
      rw [hkept]
      exact ⟨hremembers.record.state, hremembers.record.requestedCurrentA, hremembers.record.lastStopAt⟩
    have hcount : (restartedRuntime s.engine c.now).automaticStarts.length =
        (pruneStarts (keptRuntime s.engine c.now).automaticStarts c.now).length ↔ EdgesCount s c.now := by
      have hcounted : pruneStarts runtime.smartRuntime.automaticStarts c.now =
          startTimes (notesSince (c.now - 3600) s.notes) := hremembers.counted _ le_rfl
      have hedges := length_startTimes_markStarts (hremembers.atRest _ le_rfl)
      rw [map_row_notesSince, hs.rows, ← listStartsSince_eq] at hedges
      rw [hkept, hcounted]
      show (listStartsSince s.engine.rows (c.now - 3600)).length = _ ↔ _
      unfold EdgesCount
      omega
    have hfresh : coolingDown (restartedRuntime s.engine c.now) c = false := Bool.and_false _
    refine Iff.trans ?_ (forall_prop_of_true rfl).symm
    rw [← hcount]
    constructor
    · intro h
      refine ⟨h.count, fun hcooling => ?_⟩
      have hrefused := h.refused
      unfold startRefused at hrefused
      rw [hfresh, Bool.false_or, hcooling, Bool.true_or] at hrefused
      rw [← hrefused]
      refine (rateLimited_congr hsame ?_).symm
      rw [pruneStarts_restartedRuntime]
      exact h.count
    · rintro ⟨hlength, hcovered⟩
      refine ⟨hlength, hsame.onStartPath.symm, ?_⟩
      have hlimited : rateLimited (restartedRuntime s.engine c.now) c = rateLimited (keptRuntime s.engine c.now) c := by
        refine rateLimited_congr hsame ?_
        rw [pruneStarts_restartedRuntime]
        exact hlength
      unfold startRefused
      rw [hfresh, Bool.false_or, hlimited]
      cases hcooling : coolingDown (keptRuntime s.engine c.now) c with
      | false => rfl
      | true => exact hcovered hcooling

/-- The row and the decision of a cycle show the same current. -/
theorem decisionApplied_of (adapter : ChargerAdapter σ) {s : NotedEngine σ} {step : EngineStep σ}
    (h : (engineStep adapter s.engine step).rows.getLast?.map EvBridgeCycle.appliedCurrentA =
      ((engineStep adapter s.engine step).runtime.bind ChargerRuntimeState.lastDecision).map
        ChargingDecision.appliedCurrentA) : DecisionApplied adapter s step := by
  intro row runtime decision hrows hruntime hdecision
  rw [hrows, List.getLast?_concat, hruntime] at h
  exact Option.some.inj (h.trans (congrArg (Option.map ChargingDecision.appliedCurrentA) hdecision))

namespace LongSpell

def config : ChargingConfig := { startDelaySeconds := 0, stopDelaySeconds := 0, maxAutomaticStartsPerHour := 1 }

def cycleAt (now targetA : ℚ) : EngineStep MockChargeAmpsController where
  inputs :=
    { now := now
      energyState := some (some { timestamp := now })
      config := some config
      optimizerTarget := fun _ => some (targetA, "solar_surplus")
      slowSignals := fun _ => {} }

def start : NotedEngine MockChargeAmpsController := .initial {} {} 0

/-- A start, charging for almost an hour, and a stop. -/
def steps : List (EngineStep MockChargeAmpsController) := [cycleAt 0 6, cycleAt 3000 6, cycleAt 3300 0]

def call (now : Instant) : EvaluateCall := { config := config, optimizerTargetA := 6, isCharging := false, now := now }

theorem steps_applied : AllSteps (notedStep mockCharger.toChargerAdapter) (AppliedCycle mockCharger.toChargerAdapter)
    start steps := by
  refine ⟨⟨by decide +kernel, decisionApplied_of _ ?_⟩, ⟨by decide +kernel, decisionApplied_of _ ?_⟩,
    ⟨by decide +kernel, decisionApplied_of _ ?_⟩, trivial⟩
  all_goals decide +kernel

end LongSpell

end EnergyCore.Charging
