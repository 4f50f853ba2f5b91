import EnergyCore.Isolation.RuntimeSupervisor

/-!
# Invariants of the runtime manager

How an invariant of the rows and the trace is shown of the operations: most of what they do touches neither.

* `ends_transition` — what a transition can do;
* `StopRule.keeps_stopRuntime` — stopping a runtime;
* `LaunchRule.ends_startAdmitted`, `LaunchRule.ends_restartRuntimeInstance` — one rule for the two operations that
  launch;
* `SuperviseRule.ends_superviseOne` — one turn of the supervisor.
-/

namespace EnergyCore.Isolation

open FallibleSteps StepRun

/-- The second state has the rows and the trace of the first, and in memory only what belongs to one runtime is
different. -/
structure Beside (id : String) (s s' : RuntimeHost) : Prop where
  rows : s'.rows = s.rows
  ids : s'.ids = s.ids
  trace : s'.trace = s.trace
  processes : ∀ j, j ≠ id → s'.processes j = s.processes j
  missCounts : ∀ j, j ≠ id → s'.missCounts j = s.missCounts j

/-- What the manager has in memory of a runtime, and of the gateway, does not matter to the invariant. -/
def LocalTo (id : String) (I : RuntimeHost → Prop) : Prop := ∀ s s', Beside id s s' → I s → I s'

/-- The changes in memory. -/
inductive MemoryChange (id : String) : (RuntimeHost → RuntimeHost) → Prop where
  | track (process : ℕ) : MemoryChange id fun s => s.track id process
  | dropProcess : MemoryChange id fun s => s.dropProcess id
  | clearRuntime : MemoryChange id fun s => s.clearRuntime id
  | setMisses (misses : ℕ) : MemoryChange id fun s => s.setMisses id misses
  | unregister : MemoryChange id fun s => s.unregister id
  | revokeDevices : MemoryChange id fun s => s.revokeDevices id
  | deactivateLeases : MemoryChange id fun s => s.deactivateLeases id
  | register (record : IsolatedRuntimeRecord) (permissions capabilities : List String) (siteConfig : JsonValues.Dict)
      (token : String) (now : Instant) :
      MemoryChange id fun s => s.register record permissions capabilities siteConfig token now
  | listen (address : String) : MemoryChange id fun s => { s with listenAddress := some address }
  | serve (settings : RuntimeSettings) (text : RuntimeText) (poll : Poll) :
      MemoryChange id (servePoll settings text poll)

theorem MemoryChange.beside {id : String} {f : RuntimeHost → RuntimeHost} (h : MemoryChange id f) (s : RuntimeHost) :
    Beside id s (f s) := by
  cases h with
  | track | dropProcess => exact ⟨rfl, rfl, rfl, fun j hj => Function.update_of_ne hj _ _, fun _ _ => rfl⟩
  | clearRuntime | setMisses => exact ⟨rfl, rfl, rfl, fun _ _ => rfl, fun j hj => Function.update_of_ne hj _ _⟩
  | unregister | revokeDevices | deactivateLeases | register | listen | serve =>
    exact ⟨rfl, rfl, rfl, fun _ _ => rfl, fun _ _ => rfl⟩

/-! ### The listed rows -/

theorem rows_move_self (s : RuntimeHost) (id : String) (row : RuntimeRow) (event : HostEvent) :
    ((s.setRow id row).log event).rows id = some row := by
  show Function.update s.rows id (some row) id = some row
  rw [Function.update_self]

theorem rows_move_of_ne (s : RuntimeHost) {id j : String} (hj : j ≠ id) (row : RuntimeRow) (event : HostEvent) :
    ((s.setRow id row).log event).rows j = s.rows j := by
  show Function.update s.rows id (some row) j = s.rows j
  rw [Function.update_of_ne hj]

theorem rows_setRow_cases {s : RuntimeHost} {id j : String} {row row' : RuntimeRow} (h : (s.setRow id row).rows j = some row') :
    (j = id ∧ row' = row) ∨ (j ≠ id ∧ s.rows j = some row') := by
  by_cases hj : j = id
  · rw [hj] at h
    refine .inl ⟨hj, Option.some.inj (h.symm.trans ?_)⟩
    show Function.update s.rows id (some row) id = some row
    rw [Function.update_self]
  · refine .inr ⟨hj, ?_⟩
    rw [← h]
    show s.rows j = Function.update s.rows id (some row) j
    rw [Function.update_of_ne hj]

theorem rows_setRow_none {s : RuntimeHost} {id j : String} {row : RuntimeRow} (h : (s.setRow id row).rows j = none) :
    j ≠ id ∧ s.rows j = none := by
  have hj : j ≠ id := by
    rintro rfl
    have hself : (s.setRow j row).rows j = some row := by
      show Function.update s.rows j (some row) j = some row
      rw [Function.update_self]
    rw [hself] at h
    cases h
  refine ⟨hj, ?_⟩
  rw [← h]
  show s.rows j = Function.update s.rows id (some row) j
  rw [Function.update_of_ne hj]

/-- The ids are those of stored rows, each once. -/
structure Listed (s : RuntimeHost) : Prop where
  nodup : s.ids.Nodup
  stored : ∀ id ∈ s.ids, s.rows id ≠ none

namespace Listed

variable {s : RuntimeHost} {id : String} {row : RuntimeRow}

theorem congr {s' : RuntimeHost} (h : Listed s) (hrows : s'.rows = s.rows) (hids : s'.ids = s.ids) : Listed s' := by
  refine ⟨hids ▸ h.nodup, ?_⟩
  rw [hids, hrows]
  exact h.stored

theorem setRow (h : Listed s) : Listed (s.setRow id row) := by
  refine ⟨h.nodup, fun j hj => ?_⟩
  show Function.update s.rows id (some row) j ≠ none
  by_cases hji : j = id
  · rw [hji, Function.update_self]
    exact Option.some_ne_none row
  · rw [Function.update_of_ne hji]
    exact h.stored j hj

theorem create (h : Listed s) (hnew : s.rows id = none) : Listed { s.setRow id row with ids := id :: s.ids } := by
  refine ⟨List.nodup_cons.mpr ⟨fun hmem => h.stored id hmem hnew, h.nodup⟩, fun j hj => ?_⟩
  rcases List.mem_cons.mp hj with rfl | hj
  · show Function.update s.rows j (some row) j ≠ none
    rw [Function.update_self]
    exact Option.some_ne_none row
  · exact h.setRow.stored j hj

end Listed

theorem mem_instances {s : RuntimeHost} {record : String × RuntimeRow} (h : record ∈ s.instances) :
    s.rows record.1 = some record.2 := by
  obtain ⟨id, -, hid⟩ := List.mem_filterMap.mp h
  obtain ⟨row, hrow, rfl⟩ := Option.map_eq_some_iff.mp hid
  exact hrow

theorem instances_sublist (rows : String → Option RuntimeRow) (ids : List String) :
    List.Sublist ((ids.filterMap fun id => (rows id).map fun row => (id, row)).map Prod.fst) ids := by
  induction ids with
  | nil => exact List.Sublist.slnil
  | cons id ids ih =>
    cases hrow : rows id with
    | none =>
      rw [List.filterMap_cons_none (by rw [hrow]; rfl)]
      exact ih.cons id
    | some row =>
      rw [List.filterMap_cons_some (b := (id, row)) (by rw [hrow]; rfl)]
      exact ih.cons_cons id

theorem Listed.nodup_instances {s : RuntimeHost} (h : Listed s) : (s.instances.map Prod.fst).Nodup :=
  (instances_sublist s.rows s.ids).nodup h.nodup

section

variable {settings : RuntimeSettings} {text : RuntimeText} {answers : CallAnswers} {I : RuntimeHost → Prop}
  {id reason : String}

/-! ### Steps that change no row -/

theorem keeps_getByInstanceId (call : RuntimeCall) : Keeps I (getByInstanceId answers call id) := by
  unfold getByInstanceId
  exact keeps_attempt (keeps_bind keeps_get fun _ => keeps_pure _)

theorem keeps_listInstances (call : RuntimeCall) : Keeps I (listInstances answers call) := by
  unfold listInstances
  exact keeps_attempt (keeps_bind keeps_get fun _ => keeps_pure _)

/-- What is read is the row. -/
theorem ends_getByInstanceId {call : RuntimeCall} {s : RuntimeHost} (hs : I s) :
    Ends (getByInstanceId answers call id) s (fun row s' => s' = s ∧ row = s.rows id) fun _ s' => I s' := by
  unfold getByInstanceId
  refine ends_attempt (fun _ => hs) ?_
  exact ends_bind (ends_get (Q := fun s₁ s' => s₁ = s ∧ s' = s) ⟨rfl, rfl⟩) fun s₁ s' h =>
    ends_pure ⟨⟨h.2, by rw [h.1]⟩, fun _ => h.2 ▸ hs⟩

/-- What is listed are the rows. -/
theorem ends_listInstances {call : RuntimeCall} {s : RuntimeHost} (hs : I s) :
    Ends (listInstances answers call) s (fun records s' => s' = s ∧ records = s.instances) fun _ s' => I s' := by
  unfold listInstances
  refine ends_attempt (fun _ => hs) ?_
  exact ends_bind (ends_get (Q := fun s₁ s' => s₁ = s ∧ s' = s) ⟨rfl, rfl⟩) fun s₁ s' h =>
    ends_pure ⟨⟨h.2, by rw [h.1]⟩, fun _ => h.2 ▸ hs⟩

theorem keeps_recordEvent (eventType : RuntimeEventType) : Keeps I (recordEvent answers id eventType) :=
  keeps_attempt (keeps_pure ())

theorem keeps_answer {α : Type} (failure : Failure) (answer : α) :
    Keeps I (attempt failure (pure answer)) := keeps_attempt (keeps_pure answer)

/-- An answer changes nothing. -/
theorem ends_answer {α : Type} {failure : Failure} {answer : α} {s : RuntimeHost} (hs : I s) :
    Ends (attempt failure (pure answer)) s (fun a s' => a = answer ∧ s' = s) fun _ s' => I s' :=
  ends_attempt (fun _ => hs) (ends_pure ⟨⟨rfl, rfl⟩, fun _ => hs⟩)

theorem keeps_memory (hI : LocalTo id I) {f : RuntimeHost → RuntimeHost} (h : MemoryChange id f) :
    Keeps I (modify f : HostOp PUnit) :=
  keeps_modify fun s hs => hI s (f s) (h.beside s) hs

theorem keeps_revokeLeases (hI : LocalTo id I) : Keeps I (revokeLeases answers id) :=
  keeps_attempt (keeps_memory hI .deactivateLeases)

theorem keeps_startServer (hI : LocalTo id I) : Keeps I (startServer answers id) :=
  keeps_attempt (keeps_memory hI (.listen _))

theorem keeps_ensureServer (hI : LocalTo id I) : Keeps I (ensureServer answers id) := by
  unfold ensureServer
  exact keeps_bind keeps_get fun _ => keeps_ite (keeps_startServer hI) (keeps_pure ())

theorem keeps_registerRuntime (hI : LocalTo id I) (row : RuntimeRow) (permissions capabilities : List String)
    (siteConfig : JsonValues.Dict) : Keeps I (registerRuntime answers id row permissions capabilities siteConfig) :=
  keeps_memory hI (.register _ _ _ _ _ _)

theorem keeps_waitForProcessReady (hI : LocalTo id I) (polls : List Poll) :
    Keeps I (waitForProcessReady settings text id polls) := by
  induction polls with
  | nil => exact keeps_pure _
  | cons poll polls ih =>
    unfold waitForProcessReady
    refine keeps_bind (keeps_memory hI (.serve settings text poll)) fun _ => ?_
    refine keeps_bind keeps_get fun s => ?_
    exact keeps_ite (keeps_pure _) (keeps_ite (keeps_pure _) ih)

/-! ### Transitions -/

variable {toState : IsolatedRuntimeState} {change : RuntimeRow → RuntimeRow}

/-- What a transition can do: nothing, or a legal move that is stored and traced. -/
theorem ends_transition {s : RuntimeHost} {Q : RuntimeHost → Prop} {E : RuntimeHost → Prop} (hbefore : E s)
    (hnone : s.rows id = none → Q s)
    (hsome : ∀ row, s.rows id = some row → row.state.canTransition toState = true →
      Q ((s.setRow id { change row with state := toState }).log (.moved id toState)) ∧
        E ((s.setRow id { change row with state := toState }).log (.moved id toState))) :
    Ends (transition answers id toState change) s (fun _ => Q) fun _ => E := by
  unfold transition
  refine ends_attempt (fun _ => hbefore) ?_
  refine ends_bind (ends_get (Q := fun s₁ s' => s₁ = s ∧ s' = s) ⟨rfl, rfl⟩) ?_
  rintro s₁ s' ⟨rfl, rfl⟩
  cases hrow : s'.rows id with
  | none => exact ends_pure ⟨hnone hrow, fun _ => hbefore⟩
  | some row =>
    refine ends_ite (fun hlegal => ?_) fun _ => ends_throw hbefore
    exact ends_modify ⟨(hsome row hrow hlegal).1, fun _ => (hsome row hrow hlegal).2⟩

theorem keeps_transition (h : ∀ s row, I s → s.rows id = some row → row.state.canTransition toState = true →
    I ((s.setRow id { change row with state := toState }).log (.moved id toState))) :
    Keeps I (transition answers id toState change) :=
  fun s hs => ends_transition hs (fun _ => hs) fun row hrow hlegal => ⟨h s row hs hrow hlegal, h s row hs hrow hlegal⟩

end

/-! ### Stopping -/

/-- The change writes neither the counter of restarts nor what is known of starts and heartbeats. -/
structure Neutral (change : RuntimeRow → RuntimeRow) : Prop where
  restartCount : ∀ row, (change row).restartCount = row.restartCount
  startedAt : ∀ row, (change row).startedAt = row.startedAt
  lastHeartbeatAt : ∀ row, (change row).lastHeartbeatAt = row.lastHeartbeatAt

/-- What stopping a runtime asks of an invariant. -/
structure StopRule (answers : CallAnswers) (id : String) (I : RuntimeHost → Prop) : Prop where
  stored : LocalTo id I
  move : ∀ toState ∈ [IsolatedRuntimeState.stopping, .stopped], ∀ change, Neutral change →
    Keeps I (transition answers id toState change)
  terminated : ∀ process s, I s → I (s.log (.terminated process))

section

variable {settings : RuntimeSettings} {text : RuntimeText} {answers : CallAnswers} {I : RuntimeHost → Prop}
  {id reason : String}

theorem StopRule.keeps_stopRuntime (h : StopRule answers id I) : Keeps I (stopRuntime answers id reason) := by
  have hheld : Keeps I (stopHeld answers id reason) := by
    unfold stopHeld
    refine keeps_bind (keeps_revokeLeases h.stored) fun _ => ?_
    refine keeps_bind (h.move .stopped (by simp) _ ⟨fun _ => rfl, fun _ => rfl, fun _ => rfl⟩) fun _ => ?_
    refine keeps_bind (keeps_recordEvent _) fun _ => ?_
    exact keeps_memory h.stored .clearRuntime
  have hreleased : Keeps I (stopReleased answers id reason) := by
    unfold stopReleased
    refine keeps_bind (keeps_memory h.stored .unregister) fun _ => ?_
    exact keeps_bind (keeps_memory h.stored .revokeDevices) fun _ => hheld
  have hprocess : ∀ process, Keeps I (terminateProcess answers id process) := by
    intro process
    cases process with
    | none => exact keeps_pure ()
    | some process => exact keeps_attempt (keeps_modify (h.terminated process))
  unfold stopRuntime
  refine keeps_bind keeps_get fun s => ?_
  refine keeps_bind (keeps_memory h.stored .dropProcess) fun _ => ?_
  refine keeps_bind (keeps_getByInstanceId _) fun row => ?_
  cases row with
  | none => exact keeps_pure ()
  | some row =>
    unfold stopStored
    refine keeps_bind (h.move .stopping (by simp) _ ⟨fun _ => rfl, fun _ => rfl, fun _ => rfl⟩) fun _ => ?_
    exact keeps_bind (hprocess _) fun _ => hreleased

end

/-! ### Launching -/

theorem ends_createInstance {answers : CallAnswers} {s : RuntimeHost} {row : RuntimeRow}
    {Q : String → RuntimeHost → Prop} {E : RuntimeHost → Prop} (hbefore : E s)
    (hnew : s.rows answers.runtimeInstanceId = none →
      Q answers.runtimeInstanceId
          { s.setRow answers.runtimeInstanceId row with ids := answers.runtimeInstanceId :: s.ids } ∧
        E { s.setRow answers.runtimeInstanceId row with ids := answers.runtimeInstanceId :: s.ids }) :
    Ends (createInstance answers row) s Q fun _ => E := by
  unfold createInstance
  refine ends_attempt (fun _ => hbefore) ?_
  refine ends_bind (ends_get (Q := fun s₁ s' => s₁ = s ∧ s' = s) ⟨rfl, rfl⟩) ?_
  rintro s₁ s' ⟨rfl, rfl⟩
  refine ends_ite (fun _ => ends_throw hbefore) fun hnone => ?_
  have hrow : s'.rows answers.runtimeInstanceId = none := by simpa using hnone
  refine ends_bind (ends_modify (Q := fun _ s'' => s'' =
    { s'.setRow answers.runtimeInstanceId row with ids := answers.runtimeInstanceId :: s'.ids }) rfl) ?_
  rintro _ s'' rfl
  exact ends_pure ⟨(hnew hrow).1, fun _ => (hnew hrow).2⟩

/-- The row of a runtime that has just been created. -/
structure NewRow (row : RuntimeRow) : Prop where
  state : row.state = .preparing
  restartCount : row.restartCount = 0
  startedAt : row.startedAt = none
  lastHeartbeatAt : row.lastHeartbeatAt = none

/-- What a launch asks of an invariant `I`: `P` holds of a runtime that waits to be launched, `J` once it is STARTING,
and `F` from the launch on. `Fits` says what may be launched. -/
structure LaunchRule (answers : CallAnswers) (id : String) (Fits : String → SandboxLaunchSpec → Prop)
    (I P J F : RuntimeHost → Prop) : Prop where
  waiting : LocalTo id P
  back : ∀ s, P s → I s
  starting : ∀ change, Neutral change → ∀ s, P s →
    Ends (transition answers id .starting change) s (fun _ => J) fun _ => F
  launch : ∀ publisherId spec, Fits publisherId spec → ∀ s, J s →
    Ends (launchProcess answers id publisherId spec) s (fun _ => F) fun _ => F
  launched : LocalTo id F
  move : ∀ toState ∈ [IsolatedRuntimeState.ready, .running, .stopping, .stopped, .crashed], ∀ change, Neutral change →
    Keeps F (transition answers id toState change)
  terminated : ∀ process s, F s → F (s.log (.terminated process))
  leave : ∀ s, F s → I s

namespace LaunchRule

variable {settings : RuntimeSettings} {text : RuntimeText} {answers : CallAnswers} {id : String}
  {Fits : String → SandboxLaunchSpec → Prop} {I P J F : RuntimeHost → Prop} (h : LaunchRule answers id Fits I P J F)
  {s : RuntimeHost} {row : RuntimeRow} {spec : SandboxLaunchSpec}
include h

theorem stopRule : StopRule answers id F where
  stored := h.launched
  move toState hmem change hchange := by
    refine h.move toState ?_ change hchange
    rw [List.mem_cons, List.mem_singleton] at hmem
    rcases hmem with rfl | rfl <;> simp
  terminated := h.terminated

theorem keeps_crashed {message : String} :
    Keeps F (transition answers id .crashed fun row => { row with lastError := some message }) :=
  h.move .crashed (by simp) _ ⟨fun _ => rfl, fun _ => rfl, fun _ => rfl⟩

theorem keeps_ready {α : Type} {m : HostOp α} (hm : Keeps F m) :
    Keeps F (transition answers id .ready (fun row => row) >>= fun _ =>
      transition answers id .running (fun row => row) >>= fun _ => m) :=
  keeps_bind (h.move .ready (by simp) _ ⟨fun _ => rfl, fun _ => rfl, fun _ => rfl⟩) fun _ =>
    keeps_bind (h.move .running (by simp) _ ⟨fun _ => rfl, fun _ => rfl, fun _ => rfl⟩) fun _ => hm

theorem keeps_stopped {reason : String} (result : RuntimeStartResult) :
    Keeps F (stopRuntime answers id reason >>= fun _ => pure result) :=
  keeps_bind h.stopRule.keeps_stopRuntime fun _ => keeps_pure result

theorem ends_launchNew (hfits : Fits row.publisherId spec) (hs : J s) :
    Ends (tryCatch (launchNew settings text answers id row spec) (startFailed answers id)) s (fun _ => F)
      fun _ => F := by
  have hbody : Ends (launchNew settings text answers id row spec) s (fun _ => F) fun _ => F := by
    unfold launchNew
    refine ends_bind (h.launch _ _ hfits s hs) fun _ s₁ hs₁ => ?_
    refine keeps_bind (keeps_recordEvent _) (fun _ => ?_) s₁ hs₁
    refine keeps_bind (keeps_waitForProcessReady h.launched _) fun ready => ?_
    refine keeps_ite ?_ (h.keeps_stopped _)
    exact h.keeps_ready (keeps_bind (keeps_recordEvent _) fun _ => keeps_pure _)
  have hfailed : ∀ message, Keeps F (startFailed answers id message) := by
    intro message
    unfold startFailed
    refine keeps_bind (keeps_memory h.launched .revokeDevices) fun _ => ?_
    exact keeps_bind h.keeps_crashed fun _ => keeps_pure _
  exact ends_tryCatch hbody hfailed

/-- A new runtime is STARTING, with what is to be launched. -/
theorem ends_prepareNew {package : InstalledPackage} {capabilities : List String}
    (hcreate : Ends (createInstance answers row) s (fun id' s' => id' = id ∧ P s') fun _ => I) :
    Ends (prepareNew settings answers package row capabilities) s
      (fun prepared s' => prepared.1 = id ∧ (∃ dataPath socketPath listen, prepared.2 =
        launchSpec answers id row package.packagePath dataPath socketPath listen) ∧ J s') fun _ => I := by
  unfold prepareNew
  refine ends_bind hcreate ?_
  rintro id' s₁ ⟨rfl, hs₁⟩
  have hback : ∀ {α : Type} {m : HostOp α}, Keeps P m → ∀ s', P s' → Ends m s' (fun _ => P) fun _ => I :=
    fun hm s' hs' => (hm s' hs').mono (fun _ _ h => h) fun _ s'' hs'' => h.back s'' hs''
  refine ends_bind (hback (keeps_recordEvent _) s₁ hs₁) fun _ s₂ hs₂ => ?_
  refine ends_bind (hback (keeps_answer _ _) s₂ hs₂) fun _ s₃ hs₃ => ?_
  refine ends_bind (hback (keeps_answer _ _) s₃ hs₃) fun _ s₄ hs₄ => ?_
  refine ends_bind (hback (keeps_answer _ _) s₄ hs₄) fun _ s₅ hs₅ => ?_
  refine ends_bind (hback (keeps_registerRuntime h.waiting _ _ _ _) s₅ hs₅) fun _ s₆ hs₆ => ?_
  refine ends_bind (hback (keeps_startServer h.waiting) s₆ hs₆) fun _ s₇ hs₇ => ?_
  refine ends_bind (hback keeps_get s₇ hs₇) fun host s₈ hs₈ => ?_
  refine ends_bind ((h.starting _ ?_ s₈ hs₈).mono (fun _ _ h => h) fun _ s' hs' => h.leave s' hs') fun _ s₉ hs₉ => ?_
  · exact ⟨fun _ => rfl, fun _ => rfl, fun _ => rfl⟩
  · exact ends_pure ⟨rfl, ⟨_, _, _, rfl⟩, hs₉⟩

theorem ends_startAdmitted {identity : ModuleIdentity} {package : InstalledPackage}
    {permissions capabilities : List String}
    (hcreate : ∀ row, NewRow row → Ends (createInstance answers row) s (fun id' s' => id' = id ∧ P s') fun _ => I)
    (hfits : ∀ spec : SandboxLaunchSpec, spec.moduleId = identity.moduleId → spec.version = identity.version →
      spec.artifactSha256 = text.lower identity.artifactSha256 → spec.siteId = identity.siteId →
      spec.packagePath = package.packagePath → Fits identity.publisherId spec) :
    Ends (startAdmitted settings text answers identity package permissions capabilities) s (fun _ => I)
      fun _ => I := by
  unfold startAdmitted
  refine ends_bind (h.ends_prepareNew (hcreate _ ⟨rfl, rfl, rfl, rfl⟩)) ?_
  rintro ⟨id', spec⟩ s₁ ⟨hid, ⟨dataPath, socketPath, listen, hspec⟩, hs₁⟩
  dsimp only at hid hspec
  rw [hid, hspec]
  have hfit := hfits (launchSpec answers id
    { moduleId := identity.moduleId, version := identity.version, publisherId := identity.publisherId
      artifactSha256 := text.lower identity.artifactSha256, siteId := identity.siteId, state := .preparing
      permissions := permissions } package.packagePath dataPath socketPath listen) rfl rfl rfl rfl rfl
  exact (h.ends_launchNew hfit hs₁).mono (fun _ s' hs' => h.leave s' hs') fun _ s' hs' => h.leave s' hs'

theorem keeps_prepareRestart : Keeps P (prepareRestart settings answers id row) := by
  unfold prepareRestart
  refine keeps_bind ?_ fun manifest => ?_
  · unfold restartManifest
    exact keeps_ite (keeps_pure _) (keeps_answer _ _)
  refine keeps_bind (keeps_memory h.waiting .unregister) fun _ => ?_
  refine keeps_bind (keeps_registerRuntime h.waiting _ _ _ _) fun _ => ?_
  refine keeps_bind (keeps_ensureServer h.waiting) fun _ => keeps_bind keeps_get fun host => ?_
  exact keeps_bind (keeps_answer _ _) fun _ => keeps_pure _

theorem ends_launchAgain (hfits : Fits row.publisherId spec) (hs : P s) :
    Ends (tryCatch (launchAgain settings text answers id row spec) (restartFailed answers id)) s (fun _ => F)
      fun _ => F := by
  have hbody : Ends (launchAgain settings text answers id row spec) s (fun _ => F) fun _ => F := by
    unfold launchAgain
    refine ends_bind (h.starting _ ?_ s hs) fun _ s₁ hs₁ => ?_
    · exact ⟨fun _ => rfl, fun _ => rfl, fun _ => rfl⟩
    refine ends_bind (h.launch _ _ hfits s₁ hs₁) fun _ s₂ hs₂ => ?_
    refine keeps_bind (keeps_waitForProcessReady h.launched _) (fun ready => ?_) s₂ hs₂
    exact keeps_ite (h.keeps_ready (keeps_pure _)) (h.keeps_stopped _)
  have hfailed : ∀ message, Keeps F (restartFailed answers id message) :=
    fun message => keeps_bind h.keeps_crashed fun _ => keeps_pure _
  exact ends_tryCatch hbody hfailed

theorem ends_restartRuntimeInstance (henter : ∀ row, s.rows id = some row → row.state = .preparing → P s)
    (hfits : ∀ publisherId spec, Fits publisherId spec) (hs : I s) :
    Ends (restartRuntimeInstance settings text answers id) s (fun _ => I) fun _ => I := by
  unfold restartRuntimeInstance
  refine ends_bind (ends_getByInstanceId hs) ?_
  rintro row s₁ ⟨rfl, rfl⟩
  cases hrow : s₁.rows id with
  | none => exact ends_pure hs
  | some row =>
    refine ends_ite (fun _ => ends_pure hs) fun hpreparing => ?_
    rw [not_not] at hpreparing
    have hP : P s₁ := henter row hrow hpreparing
    refine ends_bind ((h.keeps_prepareRestart s₁ hP).mono (fun _ _ h => h) fun _ s' hs' => h.back s' hs') ?_
    intro spec s₂ hs₂
    exact (h.ends_launchAgain (hfits _ _) hs₂).mono (fun _ s' hs' => h.leave s' hs') fun _ s' hs' => h.leave s' hs'

end LaunchRule

/-! ### Starts, restarts and heartbeats -/

/-- What the checks of a start log. -/
def HostEvent.check : HostEvent → Bool
  | .spawnPermitted .. | .runDecided .. | .digestMatched .. => true
  | _ => false

section

variable {settings : RuntimeSettings} {text : RuntimeText} {answers : CallAnswers} {I : RuntimeHost → Prop}

theorem keeps_startRuntime (hlog : ∀ event s, event.check = true → I s → I (s.log event))
    (hadmitted : ∀ identity package permissions capabilities,
      Keeps I (startAdmitted settings text answers identity package permissions capabilities))
    (request : RuntimeStartRequest) : Keeps I (startRuntime settings text answers request) := by
  have hcheck : ∀ event : HostEvent, event.check = true → Keeps I (modify fun s => s.log event : HostOp PUnit) :=
    fun event hevent => keeps_modify fun s => hlog event s hevent
  have hpermitted : ∀ identity descriptor package,
      Keeps I (startPermitted settings text answers identity descriptor package) := by
    intro identity descriptor package
    unfold startPermitted
    refine keeps_bind (keeps_answer _ _) fun manifest => keeps_bind ?_ fun result => ?_
    · unfold evaluateRun
      exact keeps_attempt (keeps_bind (hcheck _ rfl) fun _ => keeps_pure _)
    · cases policyRefusal text descriptor result with
      | some refusal => exact keeps_pure _
      | none =>
        refine keeps_bind ?_ fun matched => keeps_ite (hadmitted _ _ _ _) (keeps_pure _)
        unfold verifyPackageDigest
        exact keeps_attempt (keeps_ite (keeps_bind (hcheck _ rfl) fun _ => keeps_pure _) (keeps_pure _))
  unfold startRuntime
  cases answers.registry request.moduleId with
  | none => exact keeps_pure _
  | some descriptor =>
    refine keeps_bind (keeps_answer _ _) fun package => ?_
    cases package with
    | none => exact keeps_pure _
    | some package =>
      refine keeps_bind ?_ fun allowed => keeps_ite (hpermitted _ _ _) (keeps_pure _)
      unfold runtimeSpawnAllowed
      refine keeps_ite (keeps_bind (hcheck _ rfl) fun _ => keeps_pure _) (keeps_attempt ?_)
      cases findValid text answers.authorizations (identityOf request package) (answers.now .authorization) with
      | none => exact keeps_pure _
      | some record => exact keeps_bind (hcheck _ rfl) fun _ => keeps_pure _

theorem keeps_restartEach (h : ∀ id, Keeps I (restartRuntimeInstance settings text answers id))
    (records : List (String × RuntimeRow)) : Keeps I (restartEach settings text answers records) := by
  induction records with
  | nil => exact keeps_pure ()
  | cons record records ih =>
    unfold restartEach
    refine keeps_bind keeps_get fun host => ?_
    exact keeps_ite (keeps_bind (h record.1) fun _ => ih) ih

theorem keeps_processPendingRestarts (h : ∀ id, Keeps I (restartRuntimeInstance settings text answers id)) :
    Keeps I (processPendingRestarts settings text answers) := by
  unfold processPendingRestarts
  exact keeps_bind (keeps_listInstances _) fun records => keeps_restartEach h records

theorem keeps_onHeartbeat {id : String} (hI : LocalTo id I) (hbeat : ∀ s row, I s → s.rows id = some row → ∀ now,
      I ((s.setRow id { row with lastHeartbeatAt := some now }).log (.heartbeat id now))) :
    Keeps I (onHeartbeat answers id) := by
  unfold onHeartbeat
  refine keeps_bind (keeps_attempt fun s hs => ?_) fun _ => keeps_memory hI (.setMisses 0)
  refine ends_bind (ends_get (Q := fun s₁ s' => s₁ = s ∧ s' = s) ⟨rfl, rfl⟩) ?_
  rintro s₁ s' ⟨rfl, rfl⟩
  cases hrow : s'.rows id with
  | none => exact ends_pure hs
  | some row => exact ends_modify (hbeat s' row hs hrow _)

end

/-! ### Supervising -/

/-- What a turn of the supervisor asks of an invariant `I`: `F` holds until the runtime is quarantined or waits to be
launched again. -/
structure SuperviseRule (settings : RuntimeSettings) (answers : CallAnswers) (id : String)
    (I F : RuntimeHost → Prop) : Prop where
  stored : LocalTo id F
  move : ∀ toState ∈ [IsolatedRuntimeState.stopping, .stopped, .crashed, .degraded], ∀ change, Neutral change →
    Keeps F (transition answers id toState change)
  terminated : ∀ process s, F s → F (s.log (.terminated process))
  quarantined : ∀ change, Neutral change → ∀ s, F s →
    Ends (transition answers id .quarantined change) s (fun _ => I) fun _ => I
  again : ∀ s n, F s → (∀ row, s.rows id = some row → row.restartCount = n) → n < settings.maxRestarts →
    Ends (transition answers id .preparing fun row => { row with restartCount := n + 1 }) s (fun _ => I) fun _ => I
  leave : ∀ s, F s → I s

/-- The data of the runtime exceed the quota. -/
def OverQuota (settings : RuntimeSettings) (answers : CallAnswers) (id : String) (row : RuntimeRow) : Prop :=
  givenOr row.dataPath "" ≠ "" ∧ ∃ total, answers.dataSize id = some total ∧ settings.dataQuotaMb * 1024 * 1024 < total

namespace SuperviseRule

variable {settings : RuntimeSettings} {answers : CallAnswers} {id reason : String} {I F : RuntimeHost → Prop}
  (h : SuperviseRule settings answers id I F) {s : RuntimeHost} {row : RuntimeRow} {now : Instant}
include h

theorem stopRule : StopRule answers id F where
  stored := h.stored
  move toState hmem change hchange := by
    refine h.move toState ?_ change hchange
    rw [List.mem_cons, List.mem_singleton] at hmem
    rcases hmem with rfl | rfl <;> simp
  terminated := h.terminated

/-- A step that keeps `F`, before one that need only lead to `I`. -/
theorem ends_keeps {α : Type} {m : HostOp α} (hm : Keeps F m) (hs : F s) : Ends m s (fun _ => F) fun _ => I :=
  (hm s hs).mono (fun _ _ hs' => hs') fun _ s' hs' => h.leave s' hs'

theorem ends_maybeRestart (hs : F s) (hcount : ∀ row', s.rows id = some row' → row'.restartCount = row.restartCount) :
    Ends (maybeRestart settings answers id row reason) s (fun _ => I) fun _ => I := by
  unfold maybeRestart
  refine ends_ite (fun _ => ?_) fun hlt => h.again s _ hs hcount (not_le.mp hlt)
  refine ends_bind (h.quarantined _ ?_ s hs) fun _ s₁ hs₁ => keeps_recordEvent _ s₁ hs₁
  exact ⟨fun _ => rfl, fun _ => rfl, fun _ => rfl⟩

theorem ends_handleCrash (hs : F s) : Ends (handleCrash settings answers id reason) s (fun _ => I) fun _ => I := by
  unfold handleCrash
  refine ends_bind ((ends_getByInstanceId hs).mono (fun _ _ h => h) fun _ s' hs' => h.leave s' hs') ?_
  rintro row s₁ ⟨rfl, rfl⟩
  cases hrow : s₁.rows id with
  | none => exact ends_pure (h.leave _ hs)
  | some row =>
    have hlocal : LocalTo id fun s => F s ∧ ∀ row', s.rows id = some row' → row'.restartCount = row.restartCount := by
      intro s s' hbeside hboth
      refine ⟨h.stored s s' hbeside hboth.1, ?_⟩
      rw [hbeside.rows]
      exact hboth.2
    have hboth : F s₁ ∧ ∀ row', s₁.rows id = some row' → row'.restartCount = row.restartCount := by
      refine ⟨hs, fun row' hrow' => ?_⟩
      rw [hrow, Option.some.injEq] at hrow'
      rw [hrow']
    have hback : ∀ {α : Type} {m : HostOp α},
        Keeps (fun s => F s ∧ ∀ row', s.rows id = some row' → row'.restartCount = row.restartCount) m →
        ∀ s', (F s' ∧ ∀ row', s'.rows id = some row' → row'.restartCount = row.restartCount) →
        Ends m s' (fun _ s => F s ∧ ∀ row', s.rows id = some row' → row'.restartCount = row.restartCount)
          fun _ => I :=
      fun hm s' hs' => (hm s' hs').mono (fun _ _ h => h) fun _ s'' hs'' => h.leave s'' hs''.1
    unfold crashStored
    refine ends_bind (hback (keeps_memory hlocal .clearRuntime) s₁ hboth) fun _ s₂ h₂ => ?_
    refine ends_bind (hback (keeps_memory hlocal .dropProcess) s₂ h₂) fun _ s₃ h₃ => ?_
    refine ends_bind (hback (keeps_memory hlocal .unregister) s₃ h₃) fun _ s₄ h₄ => ?_
    refine ends_bind (hback (keeps_memory hlocal .revokeDevices) s₄ h₄) fun _ s₅ h₅ => ?_
    refine ends_bind (hback (keeps_revokeLeases hlocal) s₅ h₅) fun _ s₆ h₆ => ?_
    have hcrashed : Ends (transition answers id .crashed fun row' => { row' with lastError := some reason }) s₆
        (fun _ s => F s ∧ ∀ row', s.rows id = some row' → row'.restartCount = row.restartCount) fun _ => I := by
      have hF := h.move .crashed (by simp) (fun row' => { row' with lastError := some reason })
        ⟨fun _ => rfl, fun _ => rfl, fun _ => rfl⟩ s₆ h₆.1
      have hrows : Ends (transition answers id .crashed fun row' => { row' with lastError := some reason }) s₆
          (fun _ s => ∀ row', s.rows id = some row' → row'.restartCount = row.restartCount) fun _ _ => True := by
        refine ends_transition trivial (fun _ => h₆.2) fun row' hrow' _ => ⟨?_, trivial⟩
        intro row'' hrow''
        rw [rows_move_self] at hrow''
        rw [← Option.some.inj hrow'']
        exact h₆.2 row' hrow'
      exact (hF.and hrows).mono (fun _ _ h => h) fun _ s' hs' => h.leave s' hs'.1
    refine ends_bind hcrashed fun _ s₇ h₇ => ?_
    refine ends_bind (hback (keeps_recordEvent _) s₇ h₇) fun _ s₈ h₈ => ?_
    exact h.ends_maybeRestart h₈.1 h₈.2

theorem ends_checkDiskQuota (hs : F s) : Ends (checkDiskQuota settings answers id row) s
      (fun stopped s' => (stopped = true ∧ I s') ∨ (stopped = false ∧ s' = s ∧ ¬ OverQuota settings answers id row))
      fun _ => I := by
  unfold checkDiskQuota
  refine ends_ite (fun hnone => ends_pure (.inr ⟨rfl, rfl, fun hover => hover.1 hnone⟩)) fun _ => ?_
  refine ends_bind ((ends_answer hs).mono (fun _ _ h => h) fun _ s' hs' => h.leave s' hs') ?_
  rintro size s₁ ⟨rfl, rfl⟩
  cases hsize : answers.dataSize id with
  | none =>
    refine ends_pure (.inr ⟨rfl, rfl, ?_⟩)
    rintro ⟨-, total, htotal, -⟩
    exact Option.noConfusion rfl (heq_of_eq (hsize.symm.trans htotal))
  | some total =>
    refine ends_ite (fun hle => ends_pure (.inr ⟨rfl, rfl, ?_⟩)) fun _ => ?_
    · rintro ⟨-, total', htotal, hlt⟩
      obtain rfl := Option.some.inj (hsize.symm.trans htotal)
      exact absurd hlt (not_lt.mpr hle)
    have hquota : Ends (stopForQuota answers id) s₁ (fun _ => I) fun _ => I := by
      unfold stopForQuota
      refine ends_bind (h.ends_keeps (keeps_recordEvent _) hs) fun _ s₂ h₂ => ?_
      refine ends_bind (h.ends_keeps h.stopRule.keeps_stopRuntime h₂) fun _ s₃ h₃ => ?_
      refine h.quarantined _ ?_ s₃ h₃
      exact ⟨fun _ => rfl, fun _ => rfl, fun _ => rfl⟩
    exact ends_bind hquota fun _ s₂ h₂ => ends_pure (.inl ⟨rfl, h₂⟩)

/-- The check of a heartbeat; `htimedOut` is asked where the runtime is stopped. -/
theorem ends_checkHeartbeat (hs : F s)
    (htimedOut : ∀ last, row.lastSign = some last → settings.heartbeatLimit < now - last →
      settings.heartbeatMissThreshold ≤ (s.missCounts id).getD 0 + 1 → ∀ s', F s' → F (s'.log (.timedOut id now))) :
    Ends (checkHeartbeat settings answers id row now) s (fun _ => I) fun _ => I := by
  unfold checkHeartbeat
  cases hlast : row.lastSign with
  | none => exact ends_pure (h.leave s hs)
  | some last =>
    refine ends_ite (fun _ => ?_) fun hage => ?_
    · exact (keeps_memory h.stored (.setMisses 0) s hs).mono (fun _ s' hs' => h.leave s' hs') fun _ s' hs' =>
        h.leave s' hs'
    · refine ends_bind (ends_get (Q := fun s₁ s' => s₁ = s ∧ s' = s) ⟨rfl, rfl⟩) ?_
      rintro s₁ s' ⟨rfl, rfl⟩
      unfold missHeartbeat
      refine ends_bind (h.ends_keeps (keeps_memory h.stored (.setMisses _)) hs) fun _ s₂ h₂ => ?_
      refine ends_ite (fun _ => ?_) fun hmisses => ?_
      · refine ends_runIf (fun _ => ?_) fun _ => h.leave s₂ h₂
        exact (h.move .degraded (by simp) _ ⟨fun _ => rfl, fun _ => rfl, fun _ => rfl⟩ s₂ h₂).mono
          (fun _ s' hs' => h.leave s' hs') fun _ s' hs' => h.leave s' hs'
      · have hlog := htimedOut last hlast (not_le.mp hage) (not_lt.mp hmisses)
        unfold stopForTimeout
        refine ends_bind (h.ends_keeps (keeps_recordEvent _) h₂) fun _ s₃ h₃ => ?_
        refine ends_bind (ends_modify (Q := fun _ => F) (hlog s₃ h₃)) fun _ s₄ h₄ => ?_
        refine ends_bind (h.ends_keeps h.stopRule.keeps_stopRuntime h₄) fun _ s₅ h₅ => ?_
        refine ends_bind ((ends_getByInstanceId h₅).mono (fun _ _ h => h) fun _ s' hs' => h.leave s' hs') ?_
        rintro fresh s₆ ⟨rfl, rfl⟩
        cases hrow : s₆.rows id with
        | none => exact ends_pure (h.leave s₆ h₅)
        | some fresh =>
          refine h.ends_maybeRestart h₅ fun row' hrow' => ?_
          rw [hrow, Option.some.injEq] at hrow'
          rw [hrow']

/-- **One turn of the supervisor**, for a runtime in a supervised state. -/
theorem ends_superviseOne (hs : F s)
    (htimedOut : ¬ OverQuota settings answers id row → ¬ ((s.processes id).isSome ∧ answers.exited id = true) → ∀ last, row.lastSign = some last → settings.heartbeatLimit < now - last →
      settings.heartbeatMissThreshold ≤ (s.missCounts id).getD 0 + 1 → ∀ s', F s' → F (s'.log (.timedOut id now))) :
    Ends (superviseOne settings answers now id row) s (fun _ => I) fun _ => I := by
  unfold superviseOne
  refine ends_ite (fun _ => ends_pure (h.leave s hs)) fun _ => ?_
  refine ends_bind (h.ends_checkDiskQuota hs) ?_
  rintro stopped s₁ (⟨rfl, h₁⟩ | ⟨rfl, rfl, hquota⟩)
  · exact ends_ite (fun _ => ends_pure h₁) fun hfalse => absurd rfl hfalse
  · refine ends_ite (fun htrue => absurd htrue Bool.false_ne_true) fun _ => ?_
    refine ends_bind (ends_get (Q := fun s₂ s' => s₂ = s₁ ∧ s' = s₁) ⟨rfl, rfl⟩) ?_
    rintro s₂ s' ⟨rfl, rfl⟩
    exact ends_ite (fun _ => h.ends_handleCrash hs) fun halive => h.ends_checkHeartbeat hs (htimedOut hquota halive)

end SuperviseRule

/-! ### Security stops -/

section

variable {settings : RuntimeSettings} {text : RuntimeText} {answers : CallAnswers} {I : RuntimeHost → Prop}
  (hstop : ∀ id, StopRule answers id I)
  (hquarantined : ∀ id change, Neutral change → Keeps I (transition answers id .quarantined change))
include hstop hquarantined

theorem keeps_stopSecurityEvent (id reason eventScope : String) :
    Keeps I (stopSecurityEvent text answers id reason eventScope) := by
  unfold stopSecurityEvent
  refine keeps_bind (hstop id).keeps_stopRuntime fun _ => keeps_bind (hquarantined id _ ?_) fun _ => keeps_recordEvent _
  exact ⟨fun _ => rfl, fun _ => rfl, fun _ => rfl⟩

theorem keeps_checkRuntime (id : String) : Keeps I (checkRuntime settings text answers id) := by
  have hrevocation : Keeps I (checkRevocation text answers id) := by
    unfold checkRevocation
    refine keeps_bind (keeps_answer _ _) fun scope => ?_
    cases scope with
    | none => exact keeps_pure _
    | some scope => exact keeps_bind (keeps_stopSecurityEvent hstop hquarantined _ _ _) fun _ => keeps_pure _
  have hadvisory : Keeps I (checkCriticalAdvisory settings text answers id) := by
    unfold checkCriticalAdvisory
    refine keeps_ite (keeps_pure _) (keeps_bind (keeps_answer _ _) fun critical => ?_)
    exact keeps_ite (keeps_bind (keeps_stopSecurityEvent hstop hquarantined _ _ _) fun _ => keeps_pure _) (keeps_pure _)
  unfold checkRuntime
  refine keeps_bind (keeps_getByInstanceId _) fun row => ?_
  cases row with
  | none => exact keeps_pure _
  | some row =>
    refine keeps_ite (keeps_pure _) (keeps_bind hrevocation fun stopped => ?_)
    exact keeps_ite (keeps_pure _) hadvisory

theorem keeps_scanActive : Keeps I (scanActive settings text answers) := by
  have heach : ∀ records, Keeps I (scanEach settings text answers records) := by
    intro records
    induction records with
    | nil => exact keeps_pure ()
    | cons record records ih =>
      unfold scanEach
      exact keeps_bind (keeps_checkRuntime hstop hquarantined _) fun _ => ih
  unfold scanActive
  exact keeps_bind (keeps_listInstances _) fun records => heach records

end

/-! ### The state after an operation -/

theorem of_ends_stateAfter {α : Type} {m : HostOp α} {s : RuntimeHost} {Q : RuntimeHost → Prop}
    (h : Ends m s (fun _ => Q) fun _ => Q) : Q (stateAfter m s) := by
  unfold stateAfter
  unfold Ends at h
  cases hrun : m s with
  | ok _ s' =>
    rw [hrun] at h
    exact h
  | error _ s' =>
    rw [hrun] at h
    exact h

/-! ### What an operation has traced -/

/-- The events since the trace `t` meet `R`. -/
def Since (t : List HostEvent) (R : List HostEvent → Prop) (s : RuntimeHost) : Prop :=
  ∃ events, s.trace = t ++ events ∧ R events

/-- One more event does not break `R`. -/
def Admits (R : List HostEvent → Prop) (event : HostEvent) : Prop := ∀ events, R events → R (events ++ [event])

section

variable {answers : CallAnswers} {id : String} {t : List HostEvent} {R : List HostEvent → Prop} {s : RuntimeHost}

theorem Since.of_trace {s' : RuntimeHost} (h : Since t R s) (htrace : s'.trace = s.trace) : Since t R s' := by
  unfold Since
  rw [htrace]
  exact h

theorem Since.log {event : HostEvent} (h : Since t R s) (hevent : Admits R event) : Since t R (s.log event) := by
  obtain ⟨events, htrace, hR⟩ := h
  refine ⟨events ++ [event], ?_, hevent events hR⟩
  show s.trace ++ [event] = _
  rw [htrace, List.append_assoc]

theorem localTo_since : LocalTo id (Since t R) := fun _ _ hbeside h => h.of_trace hbeside.trace

theorem keeps_transition_since {toState : IsolatedRuntimeState} {change : RuntimeRow → RuntimeRow}
    (hmoved : Admits R (.moved id toState)) : Keeps (Since t R) (transition answers id toState change) :=
  keeps_transition fun s row hs _ _ =>
    Since.log (s := s.setRow id { change row with state := toState }) (hs.of_trace rfl) hmoved

theorem stopRule_since (hmoved : ∀ toState, Admits R (.moved id toState))
    (hterminated : ∀ process, Admits R (.terminated process)) : StopRule answers id (Since t R) where
  stored := localTo_since
  move toState _ _ _ := keeps_transition_since (hmoved toState)
  terminated process _ h := h.log (hterminated process)

theorem launchRule_since {Fits : String → SandboxLaunchSpec → Prop} (hmoved : ∀ toState, Admits R (.moved id toState))
    (hterminated : ∀ process, Admits R (.terminated process)) (hstarted : ∀ now, Admits R (.started id now))
    (hlaunched : ∀ publisherId spec, Fits publisherId spec → Admits R (.launched id publisherId spec)) :
    LaunchRule answers id Fits (Since t R) (Since t R) (Since t R) (Since t R) where
  waiting := localTo_since
  back _ h := h
  starting _ _ s h := keeps_transition_since (hmoved _) s h
  launch publisherId spec hfits s h := by
    have hkeeps : Keeps (Since t R) (launchProcess answers id publisherId spec) := by
      unfold launchProcess launch
      refine keeps_bind (keeps_attempt (keeps_bind keeps_get fun host => keeps_bind (keeps_modify fun s hs => ?_)
        fun _ => keeps_pure _)) fun process => ?_
      · exact (hs.log (hlaunched publisherId spec hfits)).of_trace rfl
      · refine keeps_bind (keeps_memory localTo_since (.track process)) fun _ => ?_
        exact keeps_bind (keeps_modify fun s hs => hs.log (hstarted _)) fun _ => keeps_transition_since (hmoved _)
    exact hkeeps s h
  launched := localTo_since
  move toState _ _ _ := keeps_transition_since (hmoved toState)
  terminated process _ h := h.log (hterminated process)
  leave _ h := h

theorem superviseRule_since {settings : RuntimeSettings} (hmoved : ∀ toState, Admits R (.moved id toState))
    (hterminated : ∀ process, Admits R (.terminated process)) :
    SuperviseRule settings answers id (Since t R) (Since t R) where
  stored := localTo_since
  move toState _ _ _ := keeps_transition_since (hmoved toState)
  terminated process _ h := h.log (hterminated process)
  quarantined _ _ s h := keeps_transition_since (hmoved _) s h
  again s _ h _ _ := keeps_transition_since (hmoved _) s h
  leave _ h := h

theorem keeps_onHeartbeat_since (hheartbeat : ∀ now, Admits R (.heartbeat id now)) :
    Keeps (Since t R) (onHeartbeat answers id) :=
  keeps_onHeartbeat localTo_since fun s row hs _ now =>
    Since.log (s := s.setRow id { row with lastHeartbeatAt := some now }) (hs.of_trace rfl) (hheartbeat now)

end

end EnergyCore.Isolation
