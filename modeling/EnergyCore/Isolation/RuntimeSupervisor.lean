import EnergyCore.Foundations.StepRun
import EnergyCore.Isolation.RuntimeManager

/-!
# The supervisor of isolated runtimes

Heartbeats, crashes, quotas and security stops, and the runs that the manager goes through with them.

* `supervise`, `processPendingRestarts`, `scanActive` — the three parts of a tick;
* `hostStep` — one operation of a run;
* `superviseTick_eq_run` — a tick is a run of its parts.
-/

namespace EnergyCore.Isolation

open FallibleSteps JsonValues StepRun

section

variable (settings : RuntimeSettings) (text : RuntimeText) (answers : CallAnswers)

/-! ### The supervisor -/

/-- The states of the runtimes that are supervised. -/
def IsolatedRuntimeState.supervised (state : IsolatedRuntimeState) : Bool :=
  decide (state ∈ [IsolatedRuntimeState.running, .degraded, .ready])

/-- What `_check_disk_quota` does with a runtime whose data exceed the quota. -/
def stopForQuota (id : String) : HostOp Unit := do
  recordEvent answers id .resourceLimit
  stopRuntime answers id "disk quota exceeded"
  transition answers id .quarantined fun row =>
    { row with lastError := some "disk quota exceeded", reasonCodes := ["DISK_QUOTA"] }

/-- `_check_disk_quota`; a directory that does not exist has no size. -/
def checkDiskQuota (id : String) (row : RuntimeRow) : HostOp Bool :=
  if givenOr row.dataPath "" = "" then return false
  else do
    match ← attempt (answers.failure (.dataSize id)) (pure (answers.dataSize id)) with
    | none => return false
    | some total =>
      if total ≤ settings.dataQuotaMb * 1024 * 1024 then return false
      else do
        stopForQuota answers id
        return true

/-- `_maybe_restart`; the backoff only takes time. -/
def maybeRestart (id : String) (row : RuntimeRow) (reason : String) : HostOp Unit :=
  if settings.maxRestarts ≤ row.restartCount then do
    transition answers id .quarantined fun row' =>
      { row' with lastError := some s!"crash-loop: {reason}", reasonCodes := ["CRASH_LOOP"] }
    recordEvent answers id .quarantine
  else transition answers id .preparing fun row' => { row' with restartCount := row.restartCount + 1 }

/-- What `_handle_crash` does with a runtime that is stored. -/
def crashStored (id : String) (row : RuntimeRow) (reason : String) : HostOp Unit := do
  modify fun s => s.clearRuntime id
  modify fun s => s.dropProcess id
  modify fun s => s.unregister id
  modify fun s => s.revokeDevices id
  revokeLeases answers id
  transition answers id .crashed fun row' => { row' with lastError := some reason }
  recordEvent answers id .crash
  maybeRestart settings answers id row reason

def handleCrash (id reason : String) : HostOp Unit := do
  match ← getByInstanceId answers (.readForCrash id) id with
  | none => pure ()
  | some row => crashStored settings answers id row reason

/-- What becomes of a runtime whose heartbeats have been missed too often. -/
def stopForTimeout (id : String) (now : Instant) : HostOp Unit := do
  recordEvent answers id .resourceLimit
  modify fun s => s.log (.timedOut id now)
  stopRuntime answers id "heartbeat timeout"
  match ← getByInstanceId answers (.readStopped id) id with
  | none => pure ()
  | some fresh => maybeRestart settings answers id fresh "heartbeat timeout"

/-- `interval * threshold`. -/
def RuntimeSettings.heartbeatLimit : ℚ := settings.heartbeatIntervalSeconds * settings.heartbeatMissThreshold

/-- `last_heartbeat_at or started_at`. -/
def RuntimeRow.lastSign (row : RuntimeRow) : Option Instant := row.lastHeartbeatAt.orElse fun _ => row.startedAt

/-- A missed heartbeat, which is counted. -/
def missHeartbeat (id : String) (row : RuntimeRow) (misses : ℕ) (now : Instant) : HostOp Unit := do
  modify fun s => s.setMisses id misses
  if misses < settings.heartbeatMissThreshold then
    runIf (row.state = .running) (transition answers id .degraded fun row => row)
  else stopForTimeout settings answers id now

def checkHeartbeat (id : String) (row : RuntimeRow) (now : Instant) : HostOp Unit :=
  match row.lastSign with
  | none => pure ()
  | some last => do
    if now - last ≤ settings.heartbeatLimit then modify fun s => s.setMisses id 0
    else missHeartbeat settings answers id row (((← get).missCounts id).getD 0 + 1) now

/-- One turn of the loop of `supervise`. -/
def superviseOne (now : Instant) (id : String) (row : RuntimeRow) : HostOp Unit :=
  if row.state.supervised = false then pure ()
  else do
    if ← checkDiskQuota settings answers id row then pure ()
    else if ((← get).processes id).isSome ∧ answers.exited id = true then
      handleCrash settings answers id "process exited"
    else checkHeartbeat settings answers id row now

def superviseEach (now : Instant) : List (String × RuntimeRow) → HostOp Unit
  | [] => pure ()
  | (id, row) :: records => do
    superviseOne settings answers now id row
    superviseEach now records

def supervise : HostOp Unit := do
  superviseEach settings answers (answers.now .listSupervised) (← listInstances answers .listSupervised)

/-! ### The security monitor -/

/-- The states in which a runtime is stopped for its security. -/
def IsolatedRuntimeState.scanned (state : IsolatedRuntimeState) : Bool :=
  decide (state ∈ [IsolatedRuntimeState.running, .degraded, .ready, .handshaking])

/-- `_stop_security_event`. -/
def stopSecurityEvent (id reason eventScope : String) : HostOp Unit := do
  stopRuntime answers id reason
  transition answers id .quarantined fun row =>
    { row with lastError := some reason, reasonCodes := ["SECURITY_POLICY", text.upper eventScope] }
  recordEvent answers id .revocationStop

/-- `_check_revocation`; the answer is the scope of an active revocation. -/
def checkRevocation (id : String) : HostOp Bool := do
  match ← attempt (answers.failure (.revocations id)) (pure (answers.revocationScope id)) with
  | none => return false
  | some scope => do
    stopSecurityEvent text answers id s!"revocation:{scope}" scope
    return true

/-- `_check_critical_advisory`. -/
def checkCriticalAdvisory (id : String) : HostOp Bool := do
  if settings.marketplaceMetadataEnabled = false then return false
  else
    if ← attempt (answers.failure (.advisories id)) (pure (answers.criticalAdvisory id)) then do
      stopSecurityEvent text answers id "advisory:CRITICAL" "advisory"
      return true
    else return false

def checkRuntime (id : String) : HostOp Bool := do
  match ← getByInstanceId answers (.readActive id) id with
  | none => return false
  | some row =>
    if row.state.scanned = false then return false
    else if ← checkRevocation text answers id then return true
    else checkCriticalAdvisory settings text answers id

def scanEach : List (String × RuntimeRow) → HostOp Unit
  | [] => pure ()
  | (id, _) :: records => do
    let _ ← checkRuntime settings text answers id
    scanEach records

def scanActive : HostOp Unit := do
  scanEach settings text answers (← listInstances answers .listActive)

/-- `supervise_tick`. -/
def superviseTick : HostOp Unit := do
  supervise settings answers
  processPendingRestarts settings text answers
  scanActive settings text answers

/-! ### Runs -/

/-- `_on_heartbeat`. -/
def onHeartbeat (id : String) : HostOp Unit := do
  attempt (answers.failure (.heartbeat id)) do
    match (← get).rows id with
    | none => pure ()
    | some row =>
      modify fun s => (s.setRow id { row with lastHeartbeatAt := some (answers.now (.heartbeat id)) }).log
        (.heartbeat id (answers.now (.heartbeat id)))
  modify fun s => s.setMisses id 0

/-- What a manager can be told to do, and what can happen beside it: heartbeats and requests of runtimes, and a new
manager, with an empty gateway, on the same rows. -/
inductive HostInput where
  | startRuntime (request : RuntimeStartRequest)
  | stopRuntime (id reason : String)
  | restartRuntimeInstance (id : String)
  | supervise
  | processPendingRestarts
  | scanActive
  | heartbeat (id : String)
  | serve (requests : List (RpcRequest × Surroundings))
  | newManager (sign : String → String → String)

/-- What the manager has in memory is gone. -/
def RuntimeHost.newManager (s : RuntimeHost) (sign : String → String → String) : RuntimeHost where
  rows := s.rows
  ids := s.ids
  leases := s.leases
  gateway := { sessions := { sign := sign }, keyed := keyed_none }
  spawned := s.spawned
  trace := s.trace

def operation : HostInput → HostOp Unit
  | .startRuntime request => do
    let _ ← startRuntime settings text answers request
  | .stopRuntime id reason => stopRuntime answers id reason
  | .restartRuntimeInstance id => do
    let _ ← restartRuntimeInstance settings text answers id
  | .supervise => supervise settings answers
  | .processPendingRestarts => processPendingRestarts settings text answers
  | .scanActive => scanActive settings text answers
  | .heartbeat id => onHeartbeat answers id
  | .serve requests => modify (servePoll settings text { requests := requests })
  | .newManager sign => modify fun s => s.newManager sign

/-- The state that an operation leaves, whether it returns or raises. -/
def stateAfter {α : Type} (m : HostOp α) (s : RuntimeHost) : RuntimeHost :=
  match m s with
  | .ok _ s' => s'
  | .error _ s' => s'

/-- One operation, with what its calls are answered. -/
def hostStep (s : RuntimeHost) (step : HostInput × CallAnswers) : RuntimeHost :=
  stateAfter (operation settings text step.2 step.1) s

/-- A tick is a run of its parts, which breaks off after the first one that raises. -/
theorem superviseTick_eq_run (s : RuntimeHost) : ∃ parts,
    parts <+: [HostInput.supervise, .processPendingRestarts, .scanActive] ∧
      stateAfter (superviseTick settings text answers) s =
        run (hostStep settings text) s (parts.map fun part => (part, answers)) := by
  unfold superviseTick stateAfter
  cases hsupervise : supervise settings answers s with
  | error message s₁ =>
    refine ⟨[.supervise], ⟨_, rfl⟩, ?_⟩
    rw [run_bind_of_error hsupervise]
    show s₁ = stateAfter (supervise settings answers) s
    unfold stateAfter
    rw [hsupervise]
  | ok _ s₁ =>
    rw [run_bind_of_ok hsupervise]
    have h₁ : stateAfter (supervise settings answers) s = s₁ := by
      unfold stateAfter
      rw [hsupervise]
    cases hpending : processPendingRestarts settings text answers s₁ with
    | error message s₂ =>
      refine ⟨[.supervise, .processPendingRestarts], ⟨_, rfl⟩, ?_⟩
      rw [run_bind_of_error hpending]
      show s₂ = stateAfter (processPendingRestarts settings text answers) (stateAfter (supervise settings answers) s)
      rw [h₁]
      unfold stateAfter
      rw [hpending]
    | ok _ s₂ =>
      refine ⟨_, List.prefix_refl _, ?_⟩
      rw [run_bind_of_ok hpending]
      have h₂ : stateAfter (processPendingRestarts settings text answers) s₁ = s₂ := by
        unfold stateAfter
        rw [hpending]
      show stateAfter (scanActive settings text answers) s₂ = stateAfter (scanActive settings text answers)
        (stateAfter (processPendingRestarts settings text answers) (stateAfter (supervise settings answers) s))
      rw [h₁, h₂]

end

/-! ### A module that runs -/

namespace HeatDemo

def settings : RuntimeSettings where
  isolatedRuntimeEnabled := true

def text : RuntimeText := { RpcText.plain with upper := id }

def governance : GovernanceRows where
  policy :=
    { policyVersion := 1, allowedTiers := ["VERIFIED"], publisherAllowlist := [], publisherDenylist := []
      moduleAllowlist := [], moduleDenylist := [], blockedPermissions := [], controlModulePolicy := "VERIFIED_OK"
      breakGlassEnabled := false }
  publisher _ := some { publisherId := "acme", tier := "VERIFIED", status := "ACTIVE" }

def request (method : String) (params : Dict) : RpcRequest where
  method := method
  params := params ++ [("runtime_instance_id", .str "r1"), ("module_id", .str "heat"), ("site_id", .num (.int 1))]

/-- What the process sends until it is ready. -/
def readyRequests (token : String) (now : Instant) : List (RpcRequest × Surroundings) :=
  [(request "Handshake" [("protocol_version", .num (.int 1)), ("version", .str "1.0"),
      ("artifact_sha256", .str "ab"), ("startup_token", .str token)], { now := now, raw := token }),
    (request "BootstrapReady" [("_session_token", .str token)], { now := now, raw := "" }),
    (request "ReportModuleReady" [("_session_token", .str token)], { now := now, raw := "" })]

/-- All calls succeed, at one instant. -/
def answers (now : Instant) (token : String) : CallAnswers where
  now _ := now
  registry _ := some { capabilitiesProvided := ["hvac.read"], packageSource := .installed }
  packages _ := some
    { publisher := "acme", installedVersion := "1.0", checksumSha256 := "ab", packagePath := "/packages/heat" }
  governance := governance
  contentSha256 := "ab"
  runtimeInstanceId := "r1"
  startupToken _ := token
  listenAddress _ := "/run/heat.sock"
  polls _ := [{ requests := readyRequests token now }]

def start : HostInput := .startRuntime { moduleId := "heat", siteId := 1 }

def empty : RuntimeHost where
  gateway := { sessions := { sign := fun _ raw => raw }, keyed := keyed_none }

def reached (steps : List (HostInput × CallAnswers)) : RuntimeHost := run (hostStep settings text) empty steps

example : ((reached [(start, answers 0 "t1")]).rows "r1").map RuntimeRow.state = some .running := by decide +kernel

end HeatDemo

end EnergyCore.Isolation
