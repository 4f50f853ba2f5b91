import EnergyCore.Isolation.HostInvariants

/-!
# Crash loops

How often a runtime is launched, over runs of the manager.

* `keeps_transition_bounded`, `launched_transition` — the steps that count;
* `bounded_hostStep` — the invariant on the state, the counter and the trace;
* `launches_bounded_run` — a runtime is launched at most once more than it may be restarted, and never after it has
  been quarantined.
-/

namespace EnergyCore.Isolation

open FallibleSteps StepRun

/-! ### Launches in the trace -/

/-- The event is a launch of the runtime. -/
def HostEvent.launches (id : String) : HostEvent → Bool
  | .launched id' _ _ => decide (id' = id)
  | _ => false

def launchCount (id : String) (trace : List HostEvent) : ℕ := trace.countP (HostEvent.launches id)

/-- The runtime is not launched any more once it has been quarantined. -/
def QuarantineFinal (id : String) (trace : List HostEvent) : Prop :=
  ∀ before after, trace = before ++ .moved id .quarantined :: after → launchCount id after = 0

section

variable {id : String} {trace : List HostEvent} {event : HostEvent}

theorem launchCount_concat (h : event.launches id = false) :
    launchCount id (trace ++ [event]) = launchCount id trace := by
  unfold launchCount
  rw [List.countP_append, List.countP_singleton, h]
  rfl

theorem QuarantineFinal.concat (hfinal : QuarantineFinal id trace)
    (h : event.launches id = false ∨ HostEvent.moved id .quarantined ∉ trace) :
    QuarantineFinal id (trace ++ [event]) := by
  intro before after heq
  rcases List.eq_nil_or_concat' after with rfl | ⟨after', last, rfl⟩
  · rfl
  · have hsplit : trace = before ++ .moved id .quarantined :: after' ∧ [event] = [last] := by
      rw [← List.cons_append, ← List.append_assoc] at heq
      exact List.append_inj' heq rfl
    obtain ⟨htrace, hlast⟩ := hsplit
    rcases h with h | h
    · rw [← hlast, launchCount_concat h]
      exact hfinal before after' htrace
    · refine absurd ?_ h
      rw [htrace]
      exact List.mem_append_right _ List.mem_cons_self

end

/-! ### The invariant -/

/-- The states of a runtime that has been quarantined. -/
def retiredStates : List IsolatedRuntimeState := [.quarantined, .stopping, .stopped]

/-- From there, only these moves lead elsewhere. -/
theorem retired_of_canTransition {state toState : IsolatedRuntimeState} (hstate : state ∈ retiredStates)
    (hlegal : state.canTransition toState = true)
    (hto : toState ∉ [IsolatedRuntimeState.preparing, .crashed, .blocked]) : toState ∈ retiredStates := by
  cases state <;> cases toState <;> revert hstate hlegal hto <;> decide

/-- What a run of the manager keeps: each launch is paid for by the first start or by a counted restart, and a runtime
that waits to be launched has still to pay. -/
structure Bounded (settings : RuntimeSettings) (s : RuntimeHost) : Prop where
  listed : Listed s
  absent : ∀ id, s.rows id = none → launchCount id s.trace = 0 ∧ HostEvent.moved id .quarantined ∉ s.trace
  budget : ∀ id row, s.rows id = some row →
    launchCount id s.trace + (if row.state = .preparing then 1 else 0) ≤ 1 + row.restartCount
  limit : ∀ id row, s.rows id = some row → row.restartCount ≤ settings.maxRestarts
  retired : ∀ id row, s.rows id = some row → HostEvent.moved id .quarantined ∈ s.trace → row.state ∈ retiredStates
  final : ∀ id, QuarantineFinal id s.trace

/-- The runtime has never been quarantined. -/
def Unquarantined (id : String) (s : RuntimeHost) : Prop := HostEvent.moved id .quarantined ∉ s.trace

section

variable {settings : RuntimeSettings} {s : RuntimeHost} {id : String}

theorem Bounded.congr {s' : RuntimeHost} (h : Bounded settings s) (hrows : s'.rows = s.rows) (hids : s'.ids = s.ids)
    (htrace : s'.trace = s.trace) : Bounded settings s' := by
  refine ⟨h.listed.congr hrows hids, ?_, ?_, ?_, ?_, ?_⟩
  · rw [hrows, htrace]
    exact h.absent
  · rw [hrows, htrace]
    exact h.budget
  · rw [hrows]
    exact h.limit
  · rw [hrows, htrace]
    exact h.retired
  · rw [htrace]
    exact h.final

/-- An event that is neither a launch nor a move. -/
theorem Bounded.log {event : HostEvent} (h : Bounded settings s) (hlaunch : ∀ id, event.launches id = false)
    (hmoved : ∀ id, event ≠ .moved id .quarantined) : Bounded settings (s.log event) := by
  have hmem : ∀ id, HostEvent.moved id .quarantined ∈ s.trace ++ [event] →
      HostEvent.moved id .quarantined ∈ s.trace := by
    intro id hmem
    rcases List.mem_append.mp hmem with hmem | hmem
    · exact hmem
    · exact absurd (List.mem_singleton.mp hmem).symm (hmoved id)
  refine ⟨h.listed.congr rfl rfl, fun id hrow => ?_, fun id row hrow => ?_, h.limit, fun id row hrow hquarantined => ?_,
    fun id => (h.final id).concat (.inl (hlaunch id))⟩
  · exact ⟨(launchCount_concat (hlaunch id)).trans (h.absent id hrow).1, fun hq => (h.absent id hrow).2 (hmem id hq)⟩
  · show launchCount id (s.trace ++ [event]) + _ ≤ _
    rw [launchCount_concat (hlaunch id)]
    exact h.budget id row hrow
  · exact h.retired id row hrow (hmem id hquarantined)

/-- A stored move. -/
theorem Bounded.move {row : RuntimeRow} (h : Bounded settings s)
    (hbudget : launchCount id s.trace + (if row.state = .preparing then 1 else 0) ≤ 1 + row.restartCount)
    (hlimit : row.restartCount ≤ settings.maxRestarts)
    (hretired : HostEvent.moved id .quarantined ∈ s.trace ∨ row.state = .quarantined → row.state ∈ retiredStates) :
    Bounded settings ((s.setRow id row).log (.moved id row.state)) := by
  have hcount : ∀ j, launchCount j (s.trace ++ [.moved id row.state]) = launchCount j s.trace :=
    fun j => launchCount_concat rfl
  have hother : ∀ j, j ≠ id → HostEvent.moved j .quarantined ∈ s.trace ++ [.moved id row.state] →
      HostEvent.moved j .quarantined ∈ s.trace := by
    intro j hj hmem
    rcases List.mem_append.mp hmem with hmem | hmem
    · exact hmem
    · have heq := List.mem_singleton.mp hmem
      rw [HostEvent.moved.injEq] at heq
      exact absurd heq.1 hj
  refine ⟨h.listed.setRow.congr rfl rfl, fun j hrow => ?_, fun j row' hrow' => ?_, fun j row' hrow' => ?_,
    fun j row' hrow' hquarantined => ?_, fun j => (h.final j).concat (.inl rfl)⟩
  · obtain ⟨hj, hnone⟩ := rows_setRow_none hrow
    exact ⟨(hcount j).trans (h.absent j hnone).1, fun hmem => (h.absent j hnone).2 (hother j hj hmem)⟩
  · show launchCount j (s.trace ++ [_]) + _ ≤ _
    rw [hcount]
    rcases rows_setRow_cases hrow' with ⟨rfl, rfl⟩ | ⟨-, hrow⟩
    · exact hbudget
    · exact h.budget j row' hrow
  · rcases rows_setRow_cases hrow' with ⟨rfl, rfl⟩ | ⟨-, hrow⟩
    · exact hlimit
    · exact h.limit j row' hrow
  · rcases rows_setRow_cases hrow' with ⟨rfl, rfl⟩ | ⟨hj, hrow⟩
    · refine hretired ?_
      rcases List.mem_append.mp hquarantined with hmem | hmem
      · exact .inl hmem
      · have heq := List.mem_singleton.mp hmem
        rw [HostEvent.moved.injEq] at heq
        exact .inr heq.2.symm
    · exact h.retired j row' hrow (hother j hj hquarantined)

/-- A move to a state that is neither waiting nor, after a quarantine, one that leads back to it. -/
theorem Bounded.transition {row : RuntimeRow} {toState : IsolatedRuntimeState} {change : RuntimeRow → RuntimeRow}
    (h : Bounded settings s) (hchange : ∀ row, (change row).restartCount = row.restartCount)
    (hrow : s.rows id = some row) (hlegal : row.state.canTransition toState = true)
    (hpreparing : toState ≠ .preparing)
    (hto : Unquarantined id s ∨ toState ∉ [IsolatedRuntimeState.preparing, .crashed, .blocked]) :
    Bounded settings ((s.setRow id { change row with state := toState }).log (.moved id toState)) := by
  refine @Bounded.move _ _ _ { change row with state := toState } h ?_ ?_ ?_
  · have hbudget := h.budget id row hrow
    have hcount := hchange row
    show _ + (if toState = .preparing then 1 else 0) ≤ 1 + (change row).restartCount
    rw [if_neg hpreparing]
    omega
  · show (change row).restartCount ≤ _
    rw [hchange]
    exact h.limit id row hrow
  · rintro (hquarantined | hquarantined)
    · rcases hto with hto | hto
      · exact absurd hquarantined hto
      · exact retired_of_canTransition (h.retired id row hrow hquarantined) hlegal hto
    · show toState ∈ retiredStates
      have hstate : toState = .quarantined := hquarantined
      rw [hstate]
      decide

/-- A row that is written with the same state and counter. -/
theorem Bounded.touch {row row' : RuntimeRow} (h : Bounded settings s) (hrow : s.rows id = some row)
    (hstate : row'.state = row.state) (hcount : row'.restartCount = row.restartCount) :
    Bounded settings (s.setRow id row') := by
  have hrows : ∀ j row'', (s.setRow id row').rows j = some row'' →
      ∃ old, s.rows j = some old ∧ row''.state = old.state ∧ row''.restartCount = old.restartCount := by
    intro j row'' hrow''
    rcases rows_setRow_cases hrow'' with ⟨rfl, rfl⟩ | ⟨-, hold⟩
    · exact ⟨row, hrow, hstate, hcount⟩
    · exact ⟨row'', hold, rfl, rfl⟩
  refine ⟨h.listed.setRow, fun j hnone => ?_, fun j row'' hrow'' => ?_, fun j row'' hrow'' => ?_,
    fun j row'' hrow'' hquarantined => ?_, h.final⟩
  · exact h.absent j (rows_setRow_none hnone).2
  · obtain ⟨old, hold, hstate', hcount'⟩ := hrows j row'' hrow''
    rw [hstate', hcount']
    exact h.budget j old hold
  · obtain ⟨old, hold, -, hcount'⟩ := hrows j row'' hrow''
    rw [hcount']
    exact h.limit j old hold
  · obtain ⟨old, hold, hstate', -⟩ := hrows j row'' hrow''
    rw [hstate']
    exact h.retired j old hold hquarantined

/-- A runtime that has just been created. -/
theorem Bounded.create {row : RuntimeRow} (h : Bounded settings s) (hnew : s.rows id = none) (hrow : NewRow row) :
    Bounded settings { s.setRow id row with ids := id :: s.ids } := by
  obtain ⟨hcount, hunquarantined⟩ := h.absent id hnew
  refine ⟨h.listed.create hnew, fun j hnone => ?_, fun j row' hrow' => ?_, fun j row' hrow' => ?_,
    fun j row' hrow' hquarantined => ?_, h.final⟩
  · exact h.absent j (rows_setRow_none hnone).2
  · rcases rows_setRow_cases hrow' with ⟨rfl, rfl⟩ | ⟨-, hold⟩
    · show launchCount j s.trace + _ ≤ _
      rw [hcount, hrow.restartCount, if_pos hrow.state]
    · exact h.budget j row' hold
  · rcases rows_setRow_cases hrow' with ⟨rfl, rfl⟩ | ⟨-, hold⟩
    · rw [hrow.restartCount]
      exact Nat.zero_le _
    · exact h.limit j row' hold
  · rcases rows_setRow_cases hrow' with ⟨rfl, rfl⟩ | ⟨-, hold⟩
    · exact absurd hquarantined hunquarantined
    · exact h.retired j row' hold hquarantined

/-! ### Launching -/

/-- The runtime waits to be launched. -/
def Waiting (settings : RuntimeSettings) (id : String) (s : RuntimeHost) : Prop :=
  Bounded settings s ∧ ∃ row, s.rows id = some row ∧ row.state = .preparing

/-- The runtime may be launched: it is STARTING, and its launch is paid for. -/
structure MayLaunch (settings : RuntimeSettings) (id : String) (s : RuntimeHost) : Prop where
  bounded : Bounded settings s
  unquarantined : Unquarantined id s
  paid : ∃ row, s.rows id = some row ∧ row.state = .starting ∧ launchCount id s.trace + 1 ≤ 1 + row.restartCount

/-- The runtime has been launched, and was never quarantined. -/
def Launched (settings : RuntimeSettings) (id : String) (s : RuntimeHost) : Prop :=
  Bounded settings s ∧ Unquarantined id s

theorem Waiting.unquarantined (h : Waiting settings id s) : Unquarantined id s := by
  obtain ⟨hbounded, row, hrow, hstate⟩ := h
  intro hquarantined
  have hretired := hbounded.retired id row hrow hquarantined
  rw [hstate] at hretired
  exact absurd hretired (by decide)

theorem MayLaunch.launched (h : MayLaunch settings id s) : Launched settings id s := ⟨h.bounded, h.unquarantined⟩

theorem Unquarantined.log {event : HostEvent} (h : Unquarantined id s) (hevent : event ≠ .moved id .quarantined) :
    Unquarantined id (s.log event) := by
  intro hmem
  rcases List.mem_append.mp hmem with hmem | hmem
  · exact h hmem
  · exact hevent (List.mem_singleton.mp hmem).symm

theorem localTo_bounded : LocalTo id (Bounded settings) :=
  fun _ _ hbeside h => h.congr hbeside.rows hbeside.ids hbeside.trace

theorem localTo_unquarantined {j : String} : LocalTo id (Unquarantined j) := by
  intro s s' hbeside h
  unfold Unquarantined
  rw [hbeside.trace]
  exact h

/-- **A launch** that is paid for. -/
theorem MayLaunch.log {publisherId : String} {spec : SandboxLaunchSpec} (h : MayLaunch settings id s) :
    Launched settings id (s.log (.launched id publisherId spec)) := by
  obtain ⟨row, hrow, hstate, hpaid⟩ := h.paid
  have hother : ∀ j, j ≠ id → launchCount j (s.trace ++ [.launched id publisherId spec]) = launchCount j s.trace :=
    fun j hj => launchCount_concat (decide_eq_false fun heq => hj heq.symm)
  have hself : launchCount id (s.trace ++ [.launched id publisherId spec]) = launchCount id s.trace + 1 := by
    unfold launchCount
    rw [List.countP_append, List.countP_singleton]
    congr 1
    exact if_pos (decide_eq_true rfl)
  have hmem : ∀ j, HostEvent.moved j .quarantined ∈ s.trace ++ [.launched id publisherId spec] →
      HostEvent.moved j .quarantined ∈ s.trace := by
    intro j hmem
    rcases List.mem_append.mp hmem with hmem | hmem
    · exact hmem
    · cases List.mem_singleton.mp hmem
  refine ⟨⟨h.bounded.listed.congr rfl rfl, fun j hnone => ?_, fun j row' hrow' => ?_, h.bounded.limit,
    fun j row' hrow' hquarantined => h.bounded.retired j row' hrow' (hmem j hquarantined), fun j => ?_⟩,
    h.unquarantined.log (fun heq => HostEvent.noConfusion heq)⟩
  · have hj : j ≠ id := by
      rintro rfl
      rw [show s.rows j = none from hnone] at hrow
      cases hrow
    exact ⟨(hother j hj).trans (h.bounded.absent j hnone).1, fun hq => (h.bounded.absent j hnone).2 (hmem j hq)⟩
  · show launchCount j (s.trace ++ [_]) + _ ≤ _
    have hold : s.rows j = some row' := hrow'
    by_cases hj : j = id
    · rw [hj, hrow, Option.some.injEq] at hold
      rw [hj, hself, ← hold, hstate]
      exact hpaid
    · rw [hother j hj]
      exact h.bounded.budget j row' hold
  · by_cases hj : j = id
    · exact (h.bounded.final j).concat (.inr (hj ▸ h.unquarantined))
    · exact (h.bounded.final j).concat (.inl (decide_eq_false fun heq => hj heq.symm))

end

/-! ### The operations -/

section

variable {settings : RuntimeSettings} {text : RuntimeText} {answers : CallAnswers} {id : String}

/-- A move that needs nothing but the invariant. -/
theorem keeps_transition_bounded {toState : IsolatedRuntimeState} {change : RuntimeRow → RuntimeRow}
    (hchange : Neutral change) (hto : toState ∉ [IsolatedRuntimeState.preparing, .crashed, .blocked]) :
    Keeps (Bounded settings) (transition answers id toState change) := by
  refine keeps_transition fun s row hs hrow hlegal => ?_
  refine hs.transition hchange.restartCount hrow hlegal ?_ (.inr hto)
  rintro rfl
  exact hto List.mem_cons_self

/-- A move of a runtime that has never been quarantined. -/
theorem launched_transition {s : RuntimeHost} {row : RuntimeRow} {toState : IsolatedRuntimeState}
    (change : RuntimeRow → RuntimeRow) (hchange : ∀ row, (change row).restartCount = row.restartCount) (hpreparing : toState ≠ .preparing)
    (hquarantined : toState ≠ .quarantined) (hs : Launched settings id s) (hrow : s.rows id = some row)
    (hlegal : row.state.canTransition toState = true) :
    Launched settings id ((s.setRow id { change row with state := toState }).log (.moved id toState)) := by
  refine ⟨hs.1.transition hchange hrow hlegal hpreparing (.inl hs.2), ?_⟩
  have hset : Unquarantined id (s.setRow id { change row with state := toState }) := hs.2
  refine hset.log fun heq => ?_
  rw [HostEvent.moved.injEq] at heq
  exact hquarantined heq.2

theorem localTo_launched : LocalTo id (Launched settings id) :=
  fun s s' hbeside h => ⟨localTo_bounded s s' hbeside h.1, localTo_unquarantined s s' hbeside h.2⟩

theorem launched_terminated (process : ℕ) (s : RuntimeHost) (h : Launched settings id s) :
    Launched settings id (s.log (.terminated process)) :=
  ⟨h.1.log (fun _ => rfl) (fun _ heq => HostEvent.noConfusion heq), h.2.log fun heq => HostEvent.noConfusion heq⟩

theorem stopRule_bounded : StopRule answers id (Bounded settings) where
  stored := localTo_bounded
  move toState hmem change hchange := by
    refine keeps_transition_bounded hchange ?_
    rw [List.mem_cons, List.mem_singleton] at hmem
    rcases hmem with rfl | rfl <;> decide
  terminated process s h := h.log (fun _ => rfl) fun _ heq => HostEvent.noConfusion heq

/-- The launching operations pay for what they launch. -/
theorem launchRule_bounded : LaunchRule answers id (fun _ _ => True) (Bounded settings) (Waiting settings id)
    (MayLaunch settings id) (Launched settings id) where
  waiting s s' hbeside h := by
    refine ⟨localTo_bounded s s' hbeside h.1, ?_⟩
    rw [hbeside.rows]
    exact h.2
  back s h := h.1
  starting change hchange s h := by
    obtain ⟨row, hrow, hstate⟩ := h.2
    refine ends_transition ⟨h.1, h.unquarantined⟩ (fun hnone => ?_) fun row' hrow' hlegal => ?_
    · rw [hrow] at hnone
      cases hnone
    rw [hrow, Option.some.injEq] at hrow'
    rw [← hrow'] at hlegal ⊢
    have hmoved : Launched settings id ((s.setRow id { change row with state := .starting }).log
        (.moved id .starting)) :=
      launched_transition change hchange.restartCount (by decide) (by decide) ⟨h.1, h.unquarantined⟩ hrow hlegal
    refine ⟨⟨hmoved.1, hmoved.2, _, rows_move_self _ _ _ _, rfl, ?_⟩, hmoved⟩
    have hbudget := h.1.budget id row hrow
    rw [if_pos hstate] at hbudget
    show launchCount id (s.trace ++ [_]) + 1 ≤ 1 + (change row).restartCount
    rw [launchCount_concat rfl, hchange.restartCount]
    exact hbudget
  launch publisherId spec _ s h := by
    unfold launchProcess launch
    refine ends_bind (Q := fun _ => Launched settings id) ?_ fun process s₁ h₁ => ?_
    · refine ends_attempt (fun _ => h.launched) ?_
      refine ends_bind (ends_get (Q := fun _ s' => s' = s) rfl) ?_
      rintro host s' rfl
      have hlog : Launched settings id { s'.log (.launched id publisherId spec) with spawned := host.spawned + 1 } :=
        ⟨h.log.1.congr rfl rfl rfl, h.log.2⟩
      exact ends_bind (ends_modify (Q := fun _ => Launched settings id) hlog) fun _ s'' h'' =>
        ends_pure ⟨h'', fun _ => h''⟩
    · refine keeps_bind (keeps_memory localTo_launched (.track process)) (fun _ => ?_) s₁ h₁
      refine keeps_bind (keeps_modify fun s hs => ?_) fun _ => ?_
      · exact ⟨hs.1.log (fun _ => rfl) (fun _ heq => HostEvent.noConfusion heq),
          hs.2.log fun heq => HostEvent.noConfusion heq⟩
      · exact keeps_transition fun s row hs hrow hlegal =>
          launched_transition (fun row => { row with startedAt := some (answers.now (.transition id .handshaking)) })
            (fun _ => rfl) (by decide) (by decide) hs hrow hlegal
  launched := localTo_launched
  move toState hmem change hchange := by
    refine keeps_transition fun s row hs hrow hlegal =>
      launched_transition change hchange.restartCount ?_ ?_ hs hrow hlegal
    all_goals
      rintro rfl
      exact absurd hmem (by decide)
  terminated := launched_terminated
  leave s h := h.1

theorem ends_createInstance_bounded {s : RuntimeHost} {row : RuntimeRow} (hs : Bounded settings s) (hrow : NewRow row) :
    Ends (createInstance answers row) s
      (fun id s' => id = answers.runtimeInstanceId ∧ Waiting settings answers.runtimeInstanceId s')
      fun _ => Bounded settings := by
  refine ends_createInstance hs fun hnew => ?_
  have hcreated := hs.create hnew hrow
  refine ⟨⟨rfl, hcreated, row, ?_, hrow.state⟩, hcreated⟩
  exact rows_move_self s answers.runtimeInstanceId row (.terminated 0)

theorem keeps_startRuntime_bounded (request : RuntimeStartRequest) :
    Keeps (Bounded settings) (startRuntime settings text answers request) := by
  have hadmitted : ∀ identity package permissions capabilities, Keeps (Bounded settings)
      (startAdmitted settings text answers identity package permissions capabilities) :=
    fun identity package permissions capabilities s hs =>
      launchRule_bounded.ends_startAdmitted (fun row hrow => ends_createInstance_bounded hs hrow)
        fun _ _ _ _ _ _ => trivial
  refine keeps_startRuntime (fun event s hevent hs => ?_) hadmitted request
  cases event with
  | spawnPermitted | runDecided | digestMatched =>
    exact hs.log (fun _ => rfl) fun _ heq => HostEvent.noConfusion heq
  | _ => cases hevent

theorem keeps_restartRuntimeInstance_bounded :
    Keeps (Bounded settings) (restartRuntimeInstance settings text answers id) :=
  fun _ hs => launchRule_bounded.ends_restartRuntimeInstance (fun row hrow hstate => ⟨hs, row, hrow, hstate⟩)
    (fun _ _ => trivial) hs

/-- While the supervisor goes through its list: no supervised runtime that is still to come was ever quarantined. -/
def Supervising (settings : RuntimeSettings) (records : List (String × RuntimeRow)) (s : RuntimeHost) : Prop :=
  Bounded settings s ∧ ∀ record ∈ records, record.2.state.supervised = true → Unquarantined record.1 s

theorem superviseRule_bounded {records : List (String × RuntimeRow)} (hid : id ∉ records.map Prod.fst) :
    SuperviseRule settings answers id (Supervising settings records)
      (fun s => Supervising settings records s ∧ Unquarantined id s) := by
  have hne : ∀ record ∈ records, record.1 ≠ id := by
    intro record hmem heq
    exact hid (heq ▸ List.mem_map_of_mem hmem)
  have hothers : ∀ (s : RuntimeHost) (row : RuntimeRow) (toState : IsolatedRuntimeState),
      (∀ record ∈ records, record.2.state.supervised = true → Unquarantined record.1 s) →
      ∀ record ∈ records, record.2.state.supervised = true →
        Unquarantined record.1 ((s.setRow id row).log (.moved id toState)) := by
    intro s row toState h record hmem hsupervised
    have hset : Unquarantined record.1 (s.setRow id row) := h record hmem hsupervised
    refine hset.log fun heq => ?_
    rw [HostEvent.moved.injEq] at heq
    exact hne record hmem heq.1.symm
  refine ⟨?_, ?_, ?_, ?_, ?_, fun s h => h.1⟩
  · intro s s' hbeside h
    exact ⟨⟨localTo_bounded s s' hbeside h.1.1, fun record hmem hsupervised =>
      localTo_unquarantined s s' hbeside (h.1.2 record hmem hsupervised)⟩, localTo_unquarantined s s' hbeside h.2⟩
  · intro toState hmem change hchange
    refine keeps_transition fun s row hs hrow hlegal => ?_
    have hlaunched := launched_transition change hchange.restartCount ?_ ?_ ⟨hs.1.1, hs.2⟩ hrow hlegal
    · exact ⟨⟨hlaunched.1, hothers s _ toState hs.1.2⟩, hlaunched.2⟩
    all_goals
      rintro rfl
      exact absurd hmem (by decide)
  · intro process s h
    exact ⟨⟨h.1.1.log (fun _ => rfl) (fun _ heq => HostEvent.noConfusion heq), fun record hmem hsupervised =>
      (h.1.2 record hmem hsupervised).log fun heq => HostEvent.noConfusion heq⟩,
      h.2.log fun heq => HostEvent.noConfusion heq⟩
  · intro change hchange s h
    refine ends_transition h.1 (fun _ => h.1) fun row hrow hlegal => ?_
    have hmoved : Supervising settings records
        ((s.setRow id { change row with state := .quarantined }).log (.moved id .quarantined)) :=
      ⟨h.1.1.transition hchange.restartCount hrow hlegal (by decide) (.inr (by decide)), hothers s _ _ h.1.2⟩
    exact ⟨hmoved, hmoved⟩
  · intro s n h hcount hlt
    refine ends_transition h.1 (fun _ => h.1) fun row hrow hlegal => ?_
    have hmoved : Supervising settings records
        ((s.setRow id { row with restartCount := n + 1, state := .preparing }).log (.moved id .preparing)) := by
      refine ⟨@Bounded.move _ _ _ { row with restartCount := n + 1, state := .preparing } h.1.1 ?_ hlt ?_,
        hothers s _ _ h.1.2⟩
      · have hbudget := h.1.1.budget id row hrow
        rw [hcount row hrow] at hbudget
        show launchCount id s.trace + 1 ≤ 1 + (n + 1)
        omega
      · rintro (hquarantined | hquarantined)
        · exact absurd hquarantined h.2
        · cases hquarantined
    exact ⟨hmoved, hmoved⟩

theorem ends_superviseEach {now : Instant} {records : List (String × RuntimeRow)} {s : RuntimeHost}
    (hnodup : (records.map Prod.fst).Nodup) (hs : Supervising settings records s) :
    Ends (superviseEach settings answers now records) s (fun _ => Bounded settings) fun _ => Bounded settings := by
  induction records generalizing s with
  | nil => exact ends_pure hs.1
  | cons record records ih =>
    obtain ⟨id, row⟩ := record
    rw [List.map_cons, List.nodup_cons] at hnodup
    have hrest : Supervising settings records s := ⟨hs.1, fun record hmem => hs.2 record (List.mem_cons_of_mem _ hmem)⟩
    have hone : Ends (superviseOne settings answers now id row) s (fun _ => Supervising settings records)
        fun _ => Supervising settings records := by
      by_cases hsupervised : row.state.supervised = true
      · refine (superviseRule_bounded hnodup.1).ends_superviseOne
          ⟨hrest, hs.2 (id, row) List.mem_cons_self hsupervised⟩ fun _ _ last _ _ _ s' h => ?_
        exact ⟨⟨h.1.1.log (fun _ => rfl) (fun _ heq => HostEvent.noConfusion heq), fun record hmem hrecord =>
          (h.1.2 record hmem hrecord).log fun heq => HostEvent.noConfusion heq⟩,
          h.2.log fun heq => HostEvent.noConfusion heq⟩
      · unfold superviseOne
        rw [if_pos (Bool.eq_false_iff.mpr hsupervised)]
        exact ends_pure hrest
    unfold superviseEach
    exact ends_bind (hone.mono (fun _ _ h => h) fun _ _ h => h.1) fun _ s' hs' => ih hnodup.2 hs'

theorem keeps_supervise : Keeps (Bounded settings) (supervise settings answers) := by
  intro s hs
  unfold supervise
  refine ends_bind (ends_listInstances hs) ?_
  rintro records s' ⟨rfl, rfl⟩
  refine ends_superviseEach hs.listed.nodup_instances ⟨hs, ?_⟩
  rintro ⟨id, row⟩ hmem hsupervised hquarantined
  have hretired := hs.retired id row (mem_instances hmem) hquarantined
  have hdisjoint : ∀ state ∈ retiredStates, state.supervised = false := by decide
  rw [hdisjoint row.state hretired] at hsupervised
  cases hsupervised

/-- **Every operation** pays for its launches, and leaves a quarantined runtime alone. -/
theorem keeps_operation (input : HostInput) : Keeps (Bounded settings) (operation settings text answers input) := by
  cases input with
  | startRuntime request => exact keeps_bind (keeps_startRuntime_bounded request) fun _ => keeps_pure ()
  | stopRuntime id reason => exact stopRule_bounded.keeps_stopRuntime
  | restartRuntimeInstance id => exact keeps_bind keeps_restartRuntimeInstance_bounded fun _ => keeps_pure ()
  | supervise => exact keeps_supervise
  | processPendingRestarts => exact keeps_processPendingRestarts fun _ => keeps_restartRuntimeInstance_bounded
  | scanActive =>
    refine keeps_scanActive (fun _ => stopRule_bounded) fun id change hchange => ?_
    exact keeps_transition_bounded hchange (by decide)
  | heartbeat id =>
    refine keeps_onHeartbeat localTo_bounded fun s row hs hrow now => ?_
    exact Bounded.log (hs.touch hrow rfl rfl) (fun _ => rfl) fun _ heq => HostEvent.noConfusion heq
  | serve requests => exact @keeps_memory _ "" localTo_bounded _ (.serve settings text _)
  | newManager sign => exact keeps_modify fun s hs => hs.congr rfl rfl rfl

end

/-! ### Runs -/

/-- No runtime is known yet. -/
def RuntimeHost.initial (gateway : Gateway) : RuntimeHost where
  gateway := gateway

theorem bounded_initial (settings : RuntimeSettings) (gateway : Gateway) :
    Bounded settings (RuntimeHost.initial gateway) where
  listed := ⟨List.nodup_nil, fun _ hmem => absurd hmem List.not_mem_nil⟩
  absent _ _ := ⟨rfl, List.not_mem_nil⟩
  budget _ _ hrow := Option.noConfusion rfl (heq_of_eq hrow)
  limit _ _ hrow := Option.noConfusion rfl (heq_of_eq hrow)
  retired _ _ hrow := Option.noConfusion rfl (heq_of_eq hrow)
  final _ before after h := absurd h.symm (by simp [RuntimeHost.initial])

theorem bounded_hostStep {settings : RuntimeSettings} {text : RuntimeText} {s : RuntimeHost}
    (step : HostInput × CallAnswers) (hs : Bounded settings s) : Bounded settings (hostStep settings text s step) := by
  unfold hostStep
  exact of_ends_stateAfter (keeps_operation step.1 s hs)

/-- **Crash loops are bounded, and quarantine is final.** In every run of the manager, whatever its calls are
answered, a runtime is launched at most once more than it may be restarted, and never after it has been
quarantined. -/
theorem launches_bounded_run (settings : RuntimeSettings) (text : RuntimeText) (gateway : Gateway)
    (steps : List (HostInput × CallAnswers)) (id : String) :
    launchCount id (run (hostStep settings text) (RuntimeHost.initial gateway) steps).trace ≤
        1 + settings.maxRestarts ∧
      QuarantineFinal id (run (hostStep settings text) (RuntimeHost.initial gateway) steps).trace := by
  have hbounded : Bounded settings (run (hostStep settings text) (RuntimeHost.initial gateway) steps) :=
    AllSteps.preserves (C := fun _ _ => True) (fun _ step hs _ => bounded_hostStep step hs)
      (bounded_initial settings gateway) (AllSteps.of_forall_mem fun _ _ => trivial)
  refine ⟨?_, hbounded.final id⟩
  cases hrow : (run (hostStep settings text) (RuntimeHost.initial gateway) steps).rows id with
  | none =>
    rw [(hbounded.absent id hrow).1]
    exact Nat.zero_le _
  | some row =>
    have hbudget := hbounded.budget id row hrow
    have hlimit := hbounded.limit id row hrow
    omega

end EnergyCore.Isolation
