import EnergyCore.Isolation.HostInvariants

/-!
# Heartbeat kills

A runtime should be stopped for its heartbeats only when its latest heartbeat and its latest start are both longer
ago than the limit. The supervisor takes the age of the heartbeat alone, once there is one.

* `Tracked` — the rows know the latest heartbeats and starts of the trace;
* `tracked_hostStep` — an operation keeps this, and stops no runtime too early if it is on time;
* `noPrematureKill_run` — the same for runs.
-/

namespace EnergyCore.Isolation

open FallibleSteps StepRun

/-! ### Heartbeats and starts in the trace -/

def HostEvent.heartbeatOf (id : String) : HostEvent → Option Instant
  | .heartbeat id' now => if id' = id then some now else none
  | _ => none

def HostEvent.startOf (id : String) : HostEvent → Option Instant
  | .started id' now => if id' = id then some now else none
  | _ => none

/-- The latest time that `f` finds in the trace. -/
def latest (f : HostEvent → Option Instant) (trace : List HostEvent) : Option Instant := (trace.filterMap f).getLast?

def latestHeartbeat (id : String) (trace : List HostEvent) : Option Instant := latest (HostEvent.heartbeatOf id) trace

def latestStart (id : String) (trace : List HostEvent) : Option Instant := latest (HostEvent.startOf id) trace

/-- The latest heartbeat and the latest start are longer ago than the limit. -/
def Overdue (settings : RuntimeSettings) (id : String) (now : Instant) (trace : List HostEvent) : Prop :=
  ∀ t, latestHeartbeat id trace = some t ∨ latestStart id trace = some t → settings.heartbeatLimit < now - t

/-- A runtime that is stopped for its heartbeats is overdue then. -/
def Punctual (settings : RuntimeSettings) (trace : List HostEvent) : Prop :=
  ∀ id now before after, trace = before ++ .timedOut id now :: after → Overdue settings id now before

theorem latest_concat (f : HostEvent → Option Instant) (trace : List HostEvent) (event : HostEvent) :
    latest f (trace ++ [event]) = (f event).or (latest f trace) := by
  unfold latest
  rw [List.filterMap_append]
  cases hevent : f event with
  | none => rw [List.filterMap_cons_none hevent, List.filterMap_nil, List.append_nil, Option.none_or]
  | some t => rw [List.filterMap_cons_some hevent, List.filterMap_nil, List.getLast?_concat, Option.some_or]

theorem latestStart_heartbeat (id j : String) (now : Instant) (trace : List HostEvent) :
    latestStart j (trace ++ [.heartbeat id now]) = latestStart j trace := latest_concat _ _ _

theorem latestHeartbeat_started (id j : String) (now : Instant) (trace : List HostEvent) :
    latestHeartbeat j (trace ++ [.started id now]) = latestHeartbeat j trace := latest_concat _ _ _

theorem latestHeartbeat_heartbeat (id j : String) (now : Instant) (trace : List HostEvent) :
    latestHeartbeat j (trace ++ [.heartbeat id now]) = if id = j then some now else latestHeartbeat j trace := by
  rw [latestHeartbeat, latest_concat, HostEvent.heartbeatOf]
  split_ifs <;> rfl

theorem latestStart_started (id j : String) (now : Instant) (trace : List HostEvent) :
    latestStart j (trace ++ [.started id now]) = if id = j then some now else latestStart j trace := by
  rw [latestStart, latest_concat, HostEvent.startOf]
  split_ifs <;> rfl

theorem Punctual.concat {settings : RuntimeSettings} {trace : List HostEvent} {event : HostEvent}
    (h : Punctual settings trace) (hevent : ∀ id now, event = .timedOut id now → Overdue settings id now trace) :
    Punctual settings (trace ++ [event]) := by
  intro id now before after heq
  rcases List.eq_nil_or_concat' after with rfl | ⟨after', last, rfl⟩
  · obtain ⟨rfl, hlast⟩ := List.append_inj' heq rfl
    exact hevent id now (List.cons.inj hlast).1
  · rw [← List.cons_append, ← List.append_assoc] at heq
    exact h id now before after' (List.append_inj' heq rfl).1

/-! ### The condition -/

/-- The check that is about to be made would stop the runtime although it was started within the limit. -/
def Premature (settings : RuntimeSettings) (now : Instant) (misses : ℕ) (row : RuntimeRow) : Prop :=
  ∃ heartbeat started, row.lastHeartbeatAt = some heartbeat ∧ row.startedAt = some started ∧
    settings.heartbeatLimit < now - heartbeat ∧ now - started ≤ settings.heartbeatLimit ∧
    settings.heartbeatMissThreshold ≤ misses + 1

instance (settings : RuntimeSettings) (now : Instant) (misses : ℕ) (row : RuntimeRow) :
    Decidable (Premature settings now misses row) :=
  decidable_of_iff
    (∃ heartbeat ∈ row.lastHeartbeatAt, ∃ started ∈ row.startedAt, settings.heartbeatLimit < now - heartbeat ∧
      now - started ≤ settings.heartbeatLimit ∧ settings.heartbeatMissThreshold ≤ misses + 1)
    ⟨fun ⟨heartbeat, hheartbeat, started, hstarted, h⟩ => ⟨heartbeat, started, hheartbeat, hstarted, h⟩,
      fun ⟨heartbeat, started, hheartbeat, hstarted, h⟩ => ⟨heartbeat, hheartbeat, started, hstarted, h⟩⟩

/-- A turn for the runtime gets to the check of its heartbeat. -/
structure Probed (settings : RuntimeSettings) (answers : CallAnswers) (s : RuntimeHost) (id : String)
    (row : RuntimeRow) : Prop where
  supervised : row.state.supervised = true
  quota : ¬ OverQuota settings answers id row
  alive : ¬ ((s.processes id).isSome ∧ answers.exited id = true)

/-- The supervisor finds no runtime that it would stop too early. -/
def OnTime (settings : RuntimeSettings) (s : RuntimeHost) (step : HostInput × CallAnswers) : Prop :=
  step.1 = .supervise → ∀ record ∈ s.instances, Probed settings step.2 s record.1 record.2 →
    ¬ Premature settings (step.2.now .listSupervised) ((s.missCounts record.1).getD 0) record.2

/-! ### The invariant -/

/-- The states between a launch and its end. -/
def IsolatedRuntimeState.live (state : IsolatedRuntimeState) : Bool :=
  decide (state ∈ [IsolatedRuntimeState.handshaking, .ready, .running, .degraded])

/-- A runtime gets to these states by a handshake. -/
theorem live_of_canTransition {state toState : IsolatedRuntimeState} (hlegal : state.canTransition toState = true)
    (hto : toState ≠ .handshaking) (hlive : toState.live = true) : state.live = true := by
  cases state <;> cases toState <;> revert hlegal hto hlive <;> decide

/-- The rows know the latest heartbeats, and those of live runtimes the latest starts. -/
structure Tracked (settings : RuntimeSettings) (s : RuntimeHost) : Prop where
  listed : Listed s
  absent : ∀ id, s.rows id = none → latestHeartbeat id s.trace = none ∧ latestStart id s.trace = none
  heartbeat : ∀ id row, s.rows id = some row → row.lastHeartbeatAt = latestHeartbeat id s.trace
  start : ∀ id row, s.rows id = some row → row.state.live = true → row.startedAt = latestStart id s.trace
  punctual : Punctual settings s.trace

section

variable {settings : RuntimeSettings} {s : RuntimeHost} {id : String}

theorem Tracked.congr {s' : RuntimeHost} (h : Tracked settings s) (hrows : s'.rows = s.rows) (hids : s'.ids = s.ids)
    (htrace : s'.trace = s.trace) : Tracked settings s' := by
  refine ⟨h.listed.congr hrows hids, ?_, ?_, ?_, ?_⟩
  · rw [hrows, htrace]
    exact h.absent
  · rw [hrows, htrace]
    exact h.heartbeat
  · rw [hrows, htrace]
    exact h.start
  · rw [htrace]
    exact h.punctual

/-- An event that is neither a heartbeat nor a start. -/
structure Silent (event : HostEvent) : Prop where
  heartbeat : ∀ id, event.heartbeatOf id = none
  start : ∀ id, event.startOf id = none

theorem latestHeartbeat_silent {event : HostEvent} (h : Silent event) (id : String) (trace : List HostEvent) :
    latestHeartbeat id (trace ++ [event]) = latestHeartbeat id trace := by
  rw [latestHeartbeat, latest_concat, h.heartbeat, Option.none_or, latestHeartbeat]

theorem latestStart_silent {event : HostEvent} (h : Silent event) (id : String) (trace : List HostEvent) :
    latestStart id (trace ++ [event]) = latestStart id trace := by
  rw [latestStart, latest_concat, h.start, Option.none_or, latestStart]

theorem Tracked.log {event : HostEvent} (h : Tracked settings s) (hsilent : Silent event)
    (hevent : ∀ id now, event = .timedOut id now → Overdue settings id now s.trace) :
    Tracked settings (s.log event) where
  listed := h.listed.congr rfl rfl
  absent id hnone := by
    obtain ⟨hheartbeat, hstart⟩ := h.absent id hnone
    exact ⟨(latestHeartbeat_silent hsilent id s.trace).trans hheartbeat,
      (latestStart_silent hsilent id s.trace).trans hstart⟩
  heartbeat id row hrow := (h.heartbeat id row hrow).trans (latestHeartbeat_silent hsilent id s.trace).symm
  start id row hrow hlive := (h.start id row hrow hlive).trans (latestStart_silent hsilent id s.trace).symm
  punctual := h.punctual.concat hevent

/-- A row that is written with the latest heartbeat and, of a live runtime, the latest start. -/
theorem Tracked.setRow {row : RuntimeRow} (h : Tracked settings s)
    (hheartbeat : row.lastHeartbeatAt = latestHeartbeat id s.trace)
    (hstart : row.state.live = true → row.startedAt = latestStart id s.trace) : Tracked settings (s.setRow id row) where
  listed := h.listed.setRow
  absent j hnone := h.absent j (rows_setRow_none hnone).2
  heartbeat j row' hrow' := by
    rcases rows_setRow_cases hrow' with ⟨rfl, rfl⟩ | ⟨-, hrow⟩
    · exact hheartbeat
    · exact h.heartbeat j row' hrow
  start j row' hrow' hlive := by
    rcases rows_setRow_cases hrow' with ⟨rfl, rfl⟩ | ⟨-, hrow⟩
    · exact hstart hlive
    · exact h.start j row' hrow hlive
  punctual := h.punctual

theorem silent_moved (toState : IsolatedRuntimeState) : Silent (.moved id toState) := ⟨fun _ => rfl, fun _ => rfl⟩

theorem silent_terminated (process : ℕ) : Silent (.terminated process) := ⟨fun _ => rfl, fun _ => rfl⟩

theorem Tracked.terminated (h : Tracked settings s) (process : ℕ) : Tracked settings (s.log (.terminated process)) :=
  h.log (silent_terminated process) fun _ _ heq => HostEvent.noConfusion heq

/-- A move that writes neither stamp. -/
theorem Tracked.transition {row : RuntimeRow} {toState : IsolatedRuntimeState} {change : RuntimeRow → RuntimeRow}
    (h : Tracked settings s) (hheartbeat : ∀ row, (change row).lastHeartbeatAt = row.lastHeartbeatAt)
    (hstarted : ∀ row, (change row).startedAt = row.startedAt) (hrow : s.rows id = some row)
    (hlegal : row.state.canTransition toState = true) (hto : toState ≠ .handshaking) :
    Tracked settings ((s.setRow id { change row with state := toState }).log (.moved id toState)) := by
  refine (h.setRow ?_ fun hlive => ?_).log (silent_moved toState) fun _ _ heq => HostEvent.noConfusion heq
  · exact (hheartbeat row).trans (h.heartbeat id row hrow)
  · exact (hstarted row).trans (h.start id row hrow (live_of_canTransition hlegal hto hlive))

theorem Tracked.create {row : RuntimeRow} (h : Tracked settings s) (hnew : s.rows id = none) (hrow : NewRow row) :
    Tracked settings { s.setRow id row with ids := id :: s.ids } := by
  obtain ⟨hheartbeat, -⟩ := h.absent id hnew
  have hset : Tracked settings (s.setRow id row) := by
    refine h.setRow (hrow.lastHeartbeatAt.trans hheartbeat.symm) fun hlive => ?_
    rw [hrow.state] at hlive
    cases hlive
  exact ⟨h.listed.create hnew, hset.absent, hset.heartbeat, hset.start, hset.punctual⟩

/-- A heartbeat that is written to the row. -/
theorem Tracked.beat {row : RuntimeRow} (h : Tracked settings s) (hrow : s.rows id = some row) (now : Instant) :
    Tracked settings ((s.setRow id { row with lastHeartbeatAt := some now }).log (.heartbeat id now)) where
  listed := h.listed.setRow.congr rfl rfl
  absent j hnone := by
    obtain ⟨hj, hnone'⟩ := rows_setRow_none hnone
    obtain ⟨hheartbeat, hstart⟩ := h.absent j hnone'
    constructor
    · refine (latestHeartbeat_heartbeat id j now s.trace).trans ?_
      rw [if_neg (Ne.symm hj)]
      exact hheartbeat
    · exact (latestStart_heartbeat id j now s.trace).trans hstart
  heartbeat j row' hrow' := by
    refine Eq.trans ?_ (latestHeartbeat_heartbeat id j now s.trace).symm
    rcases rows_setRow_cases hrow' with ⟨rfl, rfl⟩ | ⟨hj, hold⟩
    · rw [if_pos rfl]
    · rw [if_neg (Ne.symm hj)]
      exact h.heartbeat j row' hold
  start j row' hrow' hlive := by
    refine Eq.trans ?_ (latestStart_heartbeat id j now s.trace).symm
    rcases rows_setRow_cases hrow' with ⟨rfl, rfl⟩ | ⟨-, hold⟩
    · exact h.start j row hrow hlive
    · exact h.start j row' hold hlive
  punctual := h.punctual.concat fun _ _ heq => HostEvent.noConfusion heq

/-- A start that the row does not know yet. -/
theorem Tracked.log_started (h : Tracked settings s) {row : RuntimeRow} (hrow : s.rows id = some row)
    (hidle : row.state.live = false) (now : Instant) : Tracked settings (s.log (.started id now)) where
  listed := h.listed.congr rfl rfl
  absent j hnone := by
    have hj : id ≠ j := by
      rintro rfl
      exact Option.noConfusion rfl (heq_of_eq (hrow.symm.trans hnone))
    obtain ⟨hheartbeat, hstart⟩ := h.absent j hnone
    constructor
    · exact (latestHeartbeat_started id j now s.trace).trans hheartbeat
    · refine (latestStart_started id j now s.trace).trans ?_
      rw [if_neg hj]
      exact hstart
  heartbeat j row' hrow' := (h.heartbeat j row' hrow').trans (latestHeartbeat_started id j now s.trace).symm
  start j row' hrow' hlive := by
    have hj : id ≠ j := by
      rintro rfl
      rw [← Option.some.inj (hrow.symm.trans hrow'), hidle] at hlive
      cases hlive
    refine Eq.trans ?_ (latestStart_started id j now s.trace).symm
    rw [if_neg hj]
    exact h.start j row' hrow' hlive
  punctual := h.punctual.concat fun _ _ heq => HostEvent.noConfusion heq

theorem localTo_tracked : LocalTo id (Tracked settings) :=
  fun _ _ hbeside h => h.congr hbeside.rows hbeside.ids hbeside.trace

end

/-! ### Starting and stopping -/

section

variable {settings : RuntimeSettings} {text : RuntimeText} {answers : CallAnswers} {id : String}

theorem keeps_transition_tracked {toState : IsolatedRuntimeState} {change : RuntimeRow → RuntimeRow}
    (hchange : Neutral change) (hto : toState ≠ .handshaking) :
    Keeps (Tracked settings) (transition answers id toState change) :=
  keeps_transition fun _ _ hs hrow hlegal =>
    hs.transition hchange.lastHeartbeatAt hchange.startedAt hrow hlegal hto

theorem stopRule_tracked : StopRule answers id (Tracked settings) where
  stored := localTo_tracked
  move toState hmem change hchange := by
    refine keeps_transition_tracked hchange ?_
    rintro rfl
    exact absurd hmem (by decide)
  terminated process s h := h.terminated process

/-- The runtime is stored, and STARTING. -/
def Starting (settings : RuntimeSettings) (id : String) (s : RuntimeHost) : Prop :=
  Tracked settings s ∧ ∃ row, s.rows id = some row ∧ row.state = .starting

theorem localTo_starting : LocalTo id (Starting settings id) := by
  intro s s' hbeside h
  refine ⟨localTo_tracked s s' hbeside h.1, ?_⟩
  rw [hbeside.rows]
  exact h.2

/-- The launch writes its time to the row. -/
theorem ends_launchProcess_tracked {publisherId : String} {spec : SandboxLaunchSpec} {s : RuntimeHost}
    (hs : Starting settings id s) :
    Ends (launchProcess answers id publisherId spec) s (fun _ => Tracked settings) fun _ => Tracked settings := by
  have hleave : ∀ s, Starting settings id s → Tracked settings s := fun s h => h.1
  unfold launchProcess launch
  refine ends_bind (Q := fun _ => Starting settings id) ?_ fun process s₁ h₁ => ?_
  · refine ends_attempt (fun _ => hs.1) ?_
    refine ends_bind (ends_get (Q := fun _ s' => s' = s) rfl) ?_
    rintro host s' rfl
    have hlog : Starting settings id { s'.log (.launched id publisherId spec) with spawned := host.spawned + 1 } :=
      ⟨(hs.1.log ⟨fun _ => rfl, fun _ => rfl⟩ fun _ _ heq => HostEvent.noConfusion heq).congr rfl rfl rfl, hs.2⟩
    exact ends_bind (ends_modify (Q := fun _ => Starting settings id) hlog) fun _ s'' h'' =>
      ends_pure ⟨h'', fun _ => h''.1⟩
  · have hkeeps := keeps_memory localTo_starting (.track process) s₁ h₁
    refine ends_bind (hkeeps.mono (fun _ _ h => h) fun _ s' hs' => hleave s' hs') fun _ s₂ h₂ => ?_
    obtain ⟨row, hrow, hstate⟩ := h₂.2
    have hidle : row.state.live = false := by
      rw [hstate]
      rfl
    refine ends_bind (ends_modify (Q := fun _ s' => s' = s₂.log (.started id (answers.now (.transition id .handshaking))))
      rfl) ?_
    rintro _ s₃ rfl
    have hstarted := h₂.1.log_started hrow hidle (answers.now (.transition id .handshaking))
    refine ends_transition hstarted (fun _ => hstarted) fun row' hrow' _ => ?_
    have hmoved : Tracked settings ((RuntimeHost.setRow (s₂.log (.started id (answers.now (.transition id .handshaking))))
        id { row' with startedAt := some (answers.now (.transition id .handshaking)), state := .handshaking }).log
          (.moved id .handshaking)) := by
      refine Tracked.log (Tracked.setRow hstarted ?_ fun _ => ?_) (silent_moved _)
        fun _ _ heq => HostEvent.noConfusion heq
      · exact hstarted.heartbeat id row' hrow'
      · refine Eq.trans ?_ (latestStart_started id id _ s₂.trace).symm
        rw [if_pos rfl]
    exact ⟨hmoved, hmoved⟩

theorem launchRule_tracked : LaunchRule answers id (fun _ _ => True) (Tracked settings)
    (fun s => Tracked settings s ∧ s.rows id ≠ none) (Starting settings id) (Tracked settings) where
  waiting s s' hbeside h := by
    refine ⟨localTo_tracked s s' hbeside h.1, ?_⟩
    rw [hbeside.rows]
    exact h.2
  back s h := h.1
  starting change hchange s h := by
    refine ends_transition h.1 (fun hnone => absurd hnone h.2) fun row hrow hlegal => ?_
    have hmoved := h.1.transition hchange.lastHeartbeatAt hchange.startedAt hrow hlegal (by decide)
    exact ⟨⟨hmoved, _, rows_move_self _ _ _ _, rfl⟩, hmoved⟩
  launch publisherId spec _ s h := ends_launchProcess_tracked h
  launched := localTo_tracked
  move toState hmem change hchange := by
    refine keeps_transition_tracked hchange ?_
    rintro rfl
    exact absurd hmem (by decide)
  terminated process s h := h.terminated process
  leave s h := h

theorem keeps_startRuntime_tracked (request : RuntimeStartRequest) :
    Keeps (Tracked settings) (startRuntime settings text answers request) := by
  have hcreate : ∀ (row : RuntimeRow) (s : RuntimeHost), Tracked settings s → NewRow row →
      Ends (createInstance answers row) s
        (fun id s' => id = answers.runtimeInstanceId ∧ Tracked settings s' ∧ s'.rows answers.runtimeInstanceId ≠ none)
        fun _ => Tracked settings := by
    intro row s hs hrow
    refine ends_createInstance hs fun hnew => ?_
    have hcreated := hs.create hnew hrow
    refine ⟨⟨rfl, hcreated, ?_⟩, hcreated⟩
    show Function.update s.rows answers.runtimeInstanceId (some row) answers.runtimeInstanceId ≠ none
    rw [Function.update_self]
    exact Option.some_ne_none row
  have hadmitted : ∀ identity package permissions capabilities, Keeps (Tracked settings)
      (startAdmitted settings text answers identity package permissions capabilities) :=
    fun identity package permissions capabilities s hs =>
      launchRule_tracked.ends_startAdmitted (fun row hrow => hcreate row s hs hrow) fun _ _ _ _ _ _ => trivial
  refine keeps_startRuntime (fun event s hevent hs => ?_) hadmitted request
  cases event with
  | spawnPermitted | runDecided | digestMatched =>
    exact hs.log ⟨fun _ => rfl, fun _ => rfl⟩ fun _ _ heq => HostEvent.noConfusion heq
  | _ => cases hevent

theorem keeps_restartRuntimeInstance_tracked :
    Keeps (Tracked settings) (restartRuntimeInstance settings text answers id) := by
  intro s hs
  refine launchRule_tracked.ends_restartRuntimeInstance (fun row hrow _ => ⟨hs, ?_⟩) (fun _ _ => trivial) hs
  rw [hrow]
  exact Option.some_ne_none row

/-! ### Supervising -/

/-- While the supervisor goes through its list: what is still to come is as it was listed, and on time. -/
structure Awaiting (settings : RuntimeSettings) (answers : CallAnswers) (now : Instant)
    (records : List (String × RuntimeRow)) (s : RuntimeHost) : Prop where
  tracked : Tracked settings s
  listed : ∀ record ∈ records, s.rows record.1 = some record.2
  onTime : ∀ record ∈ records, Probed settings answers s record.1 record.2 →
    ¬ Premature settings now ((s.missCounts record.1).getD 0) record.2

section

variable {now : Instant} {records : List (String × RuntimeRow)} {s : RuntimeHost}

theorem Probed.congr {s' : RuntimeHost} {row : RuntimeRow} (h : Probed settings answers s' id row)
    (hprocess : s'.processes id = s.processes id) : Probed settings answers s id row where
  supervised := h.supervised
  quota := h.quota
  alive := hprocess ▸ h.alive

/-- What a turn for one runtime changes does not concern the others. -/
theorem Awaiting.beside {s' : RuntimeHost} (h : Awaiting settings answers now records s)
    (htracked : Tracked settings s') (hrows : ∀ record ∈ records, s'.rows record.1 = s.rows record.1)
    (hprocesses : ∀ record ∈ records, s'.processes record.1 = s.processes record.1)
    (hmisses : ∀ record ∈ records, s'.missCounts record.1 = s.missCounts record.1) :
    Awaiting settings answers now records s' where
  tracked := htracked
  listed record hmem := (hrows record hmem).trans (h.listed record hmem)
  onTime record hmem hchecked := by
    rw [hmisses record hmem]
    exact h.onTime record hmem (hchecked.congr (hprocesses record hmem))

/-- The stamps of the runtime whose turn it is. -/
structure Turn (settings : RuntimeSettings) (answers : CallAnswers) (now : Instant)
    (records : List (String × RuntimeRow)) (id : String) (heartbeat start : Option Instant) (s : RuntimeHost) :
    Prop where
  rest : Awaiting settings answers now records s
  heartbeat : latestHeartbeat id s.trace = heartbeat
  start : latestStart id s.trace = start

variable {heartbeat start : Option Instant}

theorem Turn.log {event : HostEvent} (h : Turn settings answers now records id heartbeat start s)
    (hsilent : Silent event) (hevent : ∀ j t, event = .timedOut j t → Overdue settings j t s.trace) :
    Turn settings answers now records id heartbeat start (s.log event) where
  rest := h.rest.beside (h.rest.tracked.log hsilent hevent) (fun _ _ => rfl) (fun _ _ => rfl) fun _ _ => rfl
  heartbeat := (latestHeartbeat_silent hsilent id s.trace).trans h.heartbeat
  start := (latestStart_silent hsilent id s.trace).trans h.start

theorem Turn.moved {row : RuntimeRow} {toState : IsolatedRuntimeState} {change : RuntimeRow → RuntimeRow}
    (h : Turn settings answers now records id heartbeat start s) (hid : id ∉ records.map Prod.fst)
    (hheartbeat : ∀ row, (change row).lastHeartbeatAt = row.lastHeartbeatAt)
    (hstarted : ∀ row, (change row).startedAt = row.startedAt) (hrow : s.rows id = some row)
    (hlegal : row.state.canTransition toState = true) (hto : toState ≠ .handshaking) :
    Turn settings answers now records id heartbeat start
      ((s.setRow id { change row with state := toState }).log (.moved id toState)) where
  rest := by
    refine h.rest.beside (h.rest.tracked.transition hheartbeat hstarted hrow hlegal hto) (fun record hmem => ?_)
      (fun _ _ => rfl) fun _ _ => rfl
    refine rows_move_of_ne s ?_ _ _
    intro heq
    exact hid (heq ▸ List.mem_map_of_mem hmem)
  heartbeat := (latestHeartbeat_silent (silent_moved toState) id s.trace).trans h.heartbeat
  start := (latestStart_silent (silent_moved toState) id s.trace).trans h.start

theorem superviseRule_tracked (hid : id ∉ records.map Prod.fst) :
    SuperviseRule settings answers id (Awaiting settings answers now records)
      (Turn settings answers now records id heartbeat start) where
  stored s s' hbeside h := by
    have hne : ∀ record ∈ records, record.1 ≠ id := by
      intro record hmem heq
      exact hid (heq ▸ List.mem_map_of_mem hmem)
    have hrest : Awaiting settings answers now records s' :=
      h.rest.beside (localTo_tracked s s' hbeside h.rest.tracked) (fun _ _ => by rw [hbeside.rows])
        (fun record hmem => hbeside.processes _ (hne record hmem))
        fun record hmem => hbeside.missCounts _ (hne record hmem)
    exact ⟨hrest, by rw [hbeside.trace]; exact h.heartbeat, by rw [hbeside.trace]; exact h.start⟩
  move toState hmem change hchange := by
    refine keeps_transition fun s row hs hrow hlegal =>
      hs.moved hid hchange.lastHeartbeatAt hchange.startedAt hrow hlegal ?_
    rintro rfl
    exact absurd hmem (by decide)
  terminated process s h := h.log (silent_terminated process) fun _ _ heq => HostEvent.noConfusion heq
  quarantined change hchange s h := by
    refine ends_transition h.rest (fun _ => h.rest) fun row hrow hlegal => ?_
    have hmoved := h.moved hid hchange.lastHeartbeatAt hchange.startedAt hrow hlegal (by decide)
    exact ⟨hmoved.rest, hmoved.rest⟩
  again s n h _ _ := by
    refine ends_transition h.rest (fun _ => h.rest) fun row hrow hlegal => ?_
    have hmoved := @Turn.moved _ _ id now records s heartbeat start row .preparing
      (fun row => { row with restartCount := n + 1 }) h hid (fun _ => rfl) (fun _ => rfl) hrow hlegal (by decide)
    exact ⟨hmoved.rest, hmoved.rest⟩
  leave s h := h.rest

theorem live_of_supervised {state : IsolatedRuntimeState} (h : state.supervised = true) : state.live = true := by
  cases state <;> revert h <;> decide

/-- A runtime that has missed its last heartbeat, and is not stopped too early, is overdue. -/
theorem overdue_of_not_premature {row : RuntimeRow} {last : Instant} {misses : ℕ} {trace : List HostEvent}
    (hheartbeat : latestHeartbeat id trace = row.lastHeartbeatAt) (hstart : latestStart id trace = row.startedAt)
    (hlast : row.lastSign = some last) (hage : settings.heartbeatLimit < now - last)
    (hmisses : settings.heartbeatMissThreshold ≤ misses + 1) (htime : ¬ Premature settings now misses row) :
    Overdue settings id now trace := by
  intro t ht
  rw [hheartbeat, hstart] at ht
  unfold RuntimeRow.lastSign at hlast
  cases hbeat : row.lastHeartbeatAt with
  | none =>
    rw [hbeat] at hlast ht
    rcases ht with ht | ht
    · cases ht
    · rw [← Option.some.inj (hlast.symm.trans ht)]
      exact hage
  | some beat =>
    rw [hbeat] at hlast ht
    have hbeatAge : settings.heartbeatLimit < now - beat := by
      rw [Option.some.inj hlast]
      exact hage
    rcases ht with ht | ht
    · rw [← Option.some.inj ht]
      exact hbeatAge
    · by_contra hlate
      exact htime ⟨beat, t, hbeat, ht, hbeatAge, not_lt.mp hlate, hmisses⟩

theorem ends_superviseEach_tracked (hnodup : (records.map Prod.fst).Nodup)
    (hs : Awaiting settings answers now records s) :
    Ends (superviseEach settings answers now records) s (fun _ => Tracked settings) fun _ => Tracked settings := by
  induction records generalizing s with
  | nil => exact ends_pure hs.tracked
  | cons record records ih =>
    obtain ⟨id, row⟩ := record
    rw [List.map_cons, List.nodup_cons] at hnodup
    have hrest : Awaiting settings answers now records s :=
      ⟨hs.tracked, fun record hmem => hs.listed record (List.mem_cons_of_mem _ hmem),
        fun record hmem => hs.onTime record (List.mem_cons_of_mem _ hmem)⟩
    have hrow : s.rows id = some row := hs.listed (id, row) List.mem_cons_self
    have hone : Ends (superviseOne settings answers now id row) s
        (fun _ => Awaiting settings answers now records) fun _ => Awaiting settings answers now records := by
      by_cases hsupervised : row.state.supervised = true
      · have hturn : Turn settings answers now records id row.lastHeartbeatAt row.startedAt s :=
          ⟨hrest, (hs.tracked.heartbeat id row hrow).symm,
            (hs.tracked.start id row hrow (live_of_supervised hsupervised)).symm⟩
        refine (superviseRule_tracked hnodup.1).ends_superviseOne hturn
          fun hquota halive last hlast hage hmisses s' h => ?_
        refine h.log ⟨fun _ => rfl, fun _ => rfl⟩ fun j t heq => ?_
        obtain ⟨rfl, rfl⟩ := HostEvent.timedOut.inj heq
        exact overdue_of_not_premature h.heartbeat h.start hlast hage hmisses
          (hs.onTime (id, row) List.mem_cons_self ⟨hsupervised, hquota, halive⟩)
      · unfold superviseOne
        rw [if_pos (Bool.eq_false_iff.mpr hsupervised)]
        exact ends_pure hrest
    unfold superviseEach
    exact ends_bind (hone.mono (fun _ _ h => h) fun _ _ h => h.tracked) fun _ s' hs' => ih hnodup.2 hs'

theorem ends_supervise_tracked (hs : Tracked settings s) (htime : OnTime settings s (.supervise, answers)) :
    Ends (supervise settings answers) s (fun _ => Tracked settings) fun _ => Tracked settings := by
  unfold supervise
  refine ends_bind (ends_listInstances hs) ?_
  rintro records s' ⟨rfl, rfl⟩
  exact ends_superviseEach_tracked hs.listed.nodup_instances ⟨hs, fun record => mem_instances, htime rfl⟩

/-- **Every operation** that is on time keeps the rows up to date, and stops no runtime too early. -/
theorem ends_operation_tracked {input : HostInput} (hs : Tracked settings s)
    (htime : OnTime settings s (input, answers)) :
    Ends (operation settings text answers input) s (fun _ => Tracked settings) fun _ => Tracked settings := by
  cases input with
  | startRuntime request => exact keeps_bind (keeps_startRuntime_tracked request) (fun _ => keeps_pure ()) s hs
  | stopRuntime id reason => exact stopRule_tracked.keeps_stopRuntime s hs
  | restartRuntimeInstance id => exact keeps_bind keeps_restartRuntimeInstance_tracked (fun _ => keeps_pure ()) s hs
  | supervise => exact ends_supervise_tracked hs htime
  | processPendingRestarts => exact keeps_processPendingRestarts (fun _ => keeps_restartRuntimeInstance_tracked) s hs
  | scanActive =>
    refine keeps_scanActive (fun _ => stopRule_tracked) (fun id change hchange => ?_) s hs
    exact keeps_transition_tracked hchange (by decide)
  | heartbeat id => exact keeps_onHeartbeat localTo_tracked (fun _ _ hs hrow => hs.beat hrow) s hs
  | serve requests => exact @keeps_memory _ "" localTo_tracked _ (.serve settings text _) s hs
  | newManager sign => exact keeps_modify (fun s hs => hs.congr rfl rfl rfl) s hs

end

end

/-! ### Runs -/

theorem tracked_initial (settings : RuntimeSettings) (gateway : Gateway) :
    Tracked settings ({ gateway := gateway } : RuntimeHost) where
  listed := ⟨List.nodup_nil, fun _ hmem => absurd hmem List.not_mem_nil⟩
  absent _ _ := ⟨rfl, rfl⟩
  heartbeat _ _ hrow := Option.noConfusion rfl (heq_of_eq hrow)
  start _ _ hrow := Option.noConfusion rfl (heq_of_eq hrow)
  punctual _ _ before after h := absurd h.symm (by simp)

theorem tracked_hostStep {settings : RuntimeSettings} {text : RuntimeText} {s : RuntimeHost}
    (step : HostInput × CallAnswers) (hs : Tracked settings s) (htime : OnTime settings s step) :
    Tracked settings (hostStep settings text s step) := by
  unfold hostStep
  exact of_ends_stateAfter (ends_operation_tracked hs htime)

/-- **No premature heartbeat kill.** In every run whose supervisor calls are on time, whatever its calls are answered,
a runtime is stopped for its heartbeats only when its latest heartbeat and its latest start are both longer ago than
the limit. -/
theorem noPrematureKill_run (settings : RuntimeSettings) (text : RuntimeText) (gateway : Gateway)
    {steps : List (HostInput × CallAnswers)}
    (htime : AllSteps (hostStep settings text) (OnTime settings) { gateway := gateway } steps) :
    Punctual settings (run (hostStep settings text) { gateway := gateway } steps).trace :=
  (AllSteps.preserves (fun _ step hs htime => tracked_hostStep step hs htime) (tracked_initial settings gateway)
    htime).punctual

namespace HeatDemo

/-- A turn of the supervisor, at one instant. -/
def tick (now : Instant) : HostInput × CallAnswers := (.supervise, answers now "")

/-- The module sends one heartbeat, and is stopped after three turns that have missed the next one. -/
def missedHeartbeats : List (HostInput × CallAnswers) :=
  [(start, answers 0 "t1"), (.heartbeat "r1", answers 10 ""), tick 50, tick 51, tick 52]

theorem noPrematureKill_missedHeartbeats : Punctual settings (reached missedHeartbeats).trace := by
  refine noPrematureKill_run settings text empty.gateway
    ⟨fun h => HostInput.noConfusion h, fun h => HostInput.noConfusion h, ?_, ?_, ?_, trivial⟩
  · have htime : ∀ record ∈ (reached (missedHeartbeats.take 2)).instances,
        ¬ Premature settings 50 (((reached (missedHeartbeats.take 2)).missCounts record.1).getD 0) record.2 := by
      decide +kernel
    exact fun _ record hmem _ => htime record hmem
  · have htime : ∀ record ∈ (reached (missedHeartbeats.take 3)).instances,
        ¬ Premature settings 51 (((reached (missedHeartbeats.take 3)).missCounts record.1).getD 0) record.2 := by
      decide +kernel
    exact fun _ record hmem _ => htime record hmem
  · have htime : ∀ record ∈ (reached (missedHeartbeats.take 4)).instances,
        ¬ Premature settings 52 (((reached (missedHeartbeats.take 4)).missCounts record.1).getD 0) record.2 := by
      decide +kernel
    exact fun _ record hmem _ => htime record hmem

/-- The module crashes after its heartbeat, and is started again. -/
def restarted : List (HostInput × CallAnswers) :=
  [(start, answers 0 "t1"), (.heartbeat "r1", answers 50 ""),
    (.supervise, { answers 60 "" with exited := fun _ => true }), (.processPendingRestarts, answers 100 "t2"),
    tick 101, tick 102, tick 103]

/-- Three seconds after its restart the module is stopped for the heartbeat that it sent before the crash. -/
theorem heartbeat_kill_after_restart :
    ¬ ∀ (settings : RuntimeSettings) (text : RuntimeText) (gateway : Gateway) (steps : List (HostInput × CallAnswers)),
      Punctual settings (run (hostStep settings text) { gateway := gateway } steps).trace := by
  intro h
  have hpunctual : Punctual settings (reached restarted).trace := h settings text empty.gateway restarted
  have htrace : (reached restarted).trace = (reached restarted).trace.take 19
      ++ .timedOut "r1" 103 :: (reached restarted).trace.drop 20 := by
    decide +kernel
  have hstart : latestStart "r1" ((reached restarted).trace.take 19) = some 100 := by decide +kernel
  have hlimit := hpunctual "r1" 103 _ _ htrace 100 (Or.inr hstart)
  exact absurd hlimit (by decide +kernel)

end HeatDemo

end EnergyCore.Isolation
