import EnergyCore.Isolation.RuntimeHost
import Mathlib.Data.List.Sort

/-!
# The runtime manager

Starting, stopping and restarting isolated runtimes.

* `startRuntime` — checks that a module may run, and launches it in a new runtime;
* `stopRuntime` — stops a runtime;
* `restartRuntimeInstance` — launches a runtime again that is waiting for it.
-/

namespace EnergyCore.Isolation

open FallibleSteps JsonValues
open Governance (PolicyEvaluationInput PolicyEvaluationResult PolicyReasonCode PublisherTier evaluate
  controlIsolationGateOpen)

structure RuntimeStartRequest where
  moduleId : String
  siteId : ℤ
  version : Option String := none
  artifactSha256 : Option String := none
  publisherId : Option String := none

inductive StartReason where
  | thirdPartyRuntimeDisabled
  | runtimeNotAuthorized
  | policy (code : PolicyReasonCode)
  deriving Repr, DecidableEq

structure RuntimeStartResult where
  ok : Bool
  runtimeInstanceId : Option String := none
  state : IsolatedRuntimeState := .blocked
  message : String := ""
  reasonCodes : List StartReason := []
  deriving Repr, DecidableEq

/-- `given or other`, for texts. -/
def givenOr (given : Option String) (other : String) : String :=
  match given with
  | some text => if text = "" then other else text
  | none => other

variable (settings : RuntimeSettings) (text : RuntimeText) (answers : CallAnswers)

/-! ### Permission to spawn -/

/-- `find_valid`. -/
def findValid (records : List RuntimeAuthorizationRecord) (identity : ModuleIdentity) (now : Instant) :
    Option RuntimeAuthorizationRecord :=
  records.find? fun record => decide (record.moduleId = identity.moduleId ∧ record.version = identity.version ∧
    record.artifactSha256 = text.lower identity.artifactSha256 ∧ record.publisherId = identity.publisherId ∧
    record.siteId = identity.siteId ∧ record.revokedAt = none ∧ now < record.expiresAt)

def runtimeSpawnAllowed (identity : ModuleIdentity) : HostOp Bool :=
  if settings.runtimeSpawnAllowed then do
    modify fun s => s.log (.spawnPermitted identity .settings)
    return true
  else attempt (answers.failure .authorization) do
    match findValid text answers.authorizations identity (answers.now .authorization) with
    | none => return false
    | some record => do
      modify fun s => s.log (.spawnPermitted identity (.authorization record (answers.now .authorization)))
      return true

/-- `runtime_blocked_reason(settings) or "RUNTIME_NOT_AUTHORIZED"`. -/
def blockedReason : String × StartReason :=
  if settings.runtimeSpawnAllowed then ("RUNTIME_NOT_AUTHORIZED", .runtimeNotAuthorized)
  else ("THIRD_PARTY_RUNTIME_DISABLED", .thirdPartyRuntimeDisabled)

/-! ### The RUN decision -/

def readManifest (call : RuntimeCall) : HostOp ManifestLists :=
  attempt (answers.failure call) (pure (answers.manifest call))

/-- `GovernanceEvaluationService.evaluate` for the action RUN. -/
def evaluateRun (identity : ModuleIdentity) (permissions capabilities : List String) : HostOp PolicyEvaluationResult :=
  attempt (answers.failure .evaluation) do
    let rows := answers.governance
    let result := evaluate text.lower rows.policy (rows.publisher identity.publisherId) rows.revocation
      { action := .run
        moduleId := identity.moduleId
        publisherId := identity.publisherId
        permissions := permissions
        providedCapabilities := capabilities
        appEnvProduction := settings.isProduction
        breakGlassActive := rows.breakGlassActive
        canonicalOwnerPublisherId := rows.owner identity.moduleId
        marketplaceMetadataEnabled := settings.marketplaceMetadataEnabled }
    modify fun s => s.log (.runDecided identity.moduleId identity.publisherId result.decision)
    return result

def tierAllowsRuntime (publisherTier : Option String) : Bool :=
  decide (text.upper (givenOr publisherTier PublisherTier.community.value) ∈
    [PublisherTier.verified.value, PublisherTier.orgApproved.value, PublisherTier.official.value])

def requiresIsolatedRuntime (descriptor : ModuleDescriptor) : Bool := decide (descriptor.packageSource ≠ .builtIn)

/-- What `start_runtime` returns after an evaluation that does not let the module run. -/
def policyRefusal (descriptor : ModuleDescriptor) (result : PolicyEvaluationResult) : Option RuntimeStartResult :=
  if result.decision = .deny then
    some { ok := false, message := givenOr (some result.explanation) "policy denied"
           reasonCodes := result.reasonCodes.map .policy }
  else if tierAllowsRuntime text result.publisherTier = false then
    some { ok := false, message := "publisher tier denied" }
  else if requiresIsolatedRuntime descriptor = false then
    some { ok := false, message := "module does not require isolation" }
  else if controlIsolationGateOpen = false ∧ result.controlCapable = true then
    some { ok := false, message := "control isolation gate closed"
           reasonCodes := [.policy .controlModuleIsolationRequired] }
  else none

/-! ### The digest -/

def verifyPackageDigest (packagePath expected : String) : HostOp Bool :=
  attempt (answers.failure .packageDigest) do
    if text.lower answers.contentSha256 = text.lower expected then do
      modify fun s => s.log (.digestMatched packagePath (text.lower expected))
      return true
    else return false

/-! ### Stopping -/

/-- `launcher.terminate`, if there is a process. -/
def terminateProcess (id : String) : Option ℕ → HostOp Unit
  | none => pure ()
  | some process => attempt (answers.failure (.terminate id)) (modify fun s => s.log (.terminated process))

/-- The end of `stop_runtime`, once the gateway holds nothing of the runtime any more. -/
def stopHeld (id reason : String) : HostOp Unit := do
  revokeLeases answers id
  transition answers id .stopped fun row => { row with lastError := some reason }
  recordEvent answers id .stop
  modify fun s => s.clearRuntime id

/-- What `stop_runtime` does once the process is terminated. -/
def stopReleased (id reason : String) : HostOp Unit := do
  modify fun s => s.unregister id
  modify fun s => s.revokeDevices id
  stopHeld answers id reason

/-- What `stop_runtime` does with a runtime that is stored. -/
def stopStored (id : String) (process : Option ℕ) (reason : String) : HostOp Unit := do
  transition answers id .stopping fun row => row
  terminateProcess answers id process
  stopReleased answers id reason

def stopRuntime (id reason : String) : HostOp Unit := do
  let process := (← get).processes id
  modify fun s => s.dropProcess id
  match ← getByInstanceId answers (.readForStop id) id with
  | none => pure ()
  | some _ => stopStored answers id process reason

/-! ### Launching -/

/-- The gateway after the requests that it has served. -/
def serveRequests (requests : List (RpcRequest × Surroundings)) (g : Gateway) : Gateway :=
  requests.foldl (fun g request => (g.dispatch settings.rpc text.toRpcText request.1 request.2).2) g

def servePoll (poll : Poll) (s : RuntimeHost) : RuntimeHost :=
  { s with gateway := serveRequests settings text poll.requests s.gateway }

/-- `_wait_for_process_ready`; after the last poll the time is over. -/
def waitForProcessReady (id : String) : List Poll → HostOp Bool
  | [] => pure false
  | poll :: polls => do
    modify (servePoll settings text poll)
    if (← get).gateway.isProcessReady id then return true
    else if poll.exited then return false
    else waitForProcessReady id polls

/-- Registers a runtime with the gateway. -/
def registerRuntime (id : String) (row : RuntimeRow) (permissions capabilities : List String) (siteConfig : Dict) :
    HostOp Unit :=
  modify fun s => s.register (row.record id) permissions capabilities siteConfig (answers.startupToken id)
    (answers.now (.register id))

def startServer (id : String) : HostOp Unit :=
  attempt (answers.failure (.startServer id))
    (modify fun s => { s with listenAddress := some (answers.listenAddress id) })

/-- `launcher.launch`. -/
def launch (id publisherId : String) (spec : SandboxLaunchSpec) : HostOp ℕ :=
  attempt (answers.failure (.launch id)) do
    let process := (← get).spawned
    modify fun s => { s.log (.launched id publisherId spec) with spawned := process + 1 }
    return process

/-- Launches a process and keeps its handle. -/
def launchProcess (id publisherId : String) (spec : SandboxLaunchSpec) : HostOp Unit := do
  let process ← launch answers id publisherId spec
  modify fun s => s.track id process
  let now := answers.now (.transition id .handshaking)
  modify fun s => s.log (.started id now)
  transition answers id .handshaking fun row => { row with startedAt := some now }

/-! ### Starting -/

def permissionsFromDescriptor (descriptor : ModuleDescriptor) : List String :=
  descriptor.capabilitiesProvided.dedup.insertionSort (· ≤ ·)

def runtimeDataPath (id : String) (row : RuntimeRow) : String :=
  s!"{settings.dataRoot}/{row.moduleId}/{row.siteId}/{id}"

def socketPathOf (id : String) : String := s!"{settings.socketDir}/{id}.sock"

/-- What is launched for a row. -/
def launchSpec (id : String) (row : RuntimeRow) (packagePath dataPath socketPath listen : String) :
    SandboxLaunchSpec where
  moduleId := row.moduleId
  siteId := row.siteId
  packagePath := packagePath
  dataPath := dataPath
  socketPath := socketPath
  rpcAddress := listen
  startupToken := answers.startupToken id
  artifactSha256 := row.artifactSha256
  version := row.version

/-- The launch of a new runtime, until it is ready. -/
def launchNew (id : String) (row : RuntimeRow) (spec : SandboxLaunchSpec) : HostOp RuntimeStartResult := do
  launchProcess answers id row.publisherId spec
  recordEvent answers id .start
  if ← waitForProcessReady settings text id (answers.polls id) then do
    transition answers id .ready fun row => row
    transition answers id .running fun row => row
    recordEvent answers id .ready
    return { ok := true, runtimeInstanceId := some id, state := .running, message := "running" }
  else do
    stopRuntime answers id "startup timeout"
    return { ok := false, runtimeInstanceId := some id, state := .crashed, message := "startup timeout" }

/-- How `start_runtime` handles an exception of the launch. -/
def startFailed (id message : String) : HostOp RuntimeStartResult := do
  modify fun s => s.revokeDevices id
  transition answers id .crashed fun row => { row with lastError := some message }
  return { ok := false, runtimeInstanceId := some id, state := .crashed, message := message }

/-- What comes between the new row and its launch. -/
def prepareNew (package : InstalledPackage) (row : RuntimeRow) (capabilities : List String) :
    HostOp (String × SandboxLaunchSpec) := do
  let id ← createInstance answers row
  recordEvent answers id .prepare
  attempt (answers.failure (.directories id)) (pure ())
  attempt (answers.failure (.bootstrapScript id)) (pure ())
  attempt (answers.failure (.provision id)) (pure ())
  registerRuntime answers id row row.permissions capabilities answers.siteConfig
  startServer answers id
  let dataPath := runtimeDataPath settings id row
  let listen := givenOr (← get).listenAddress (socketPathOf settings id)
  transition answers id .starting fun row =>
    { row with socketPath := some listen, packagePath := some package.packagePath, dataPath := some dataPath }
  return (id, launchSpec answers id row package.packagePath dataPath (socketPathOf settings id) listen)

/-- What `start_runtime` does once all checks have passed. -/
def startAdmitted (identity : ModuleIdentity) (package : InstalledPackage) (permissions capabilities : List String) :
    HostOp RuntimeStartResult := do
  let row : RuntimeRow :=
    { moduleId := identity.moduleId, version := identity.version, publisherId := identity.publisherId
      artifactSha256 := text.lower identity.artifactSha256, siteId := identity.siteId, state := .preparing
      permissions := permissions }
  let (id, spec) ← prepareNew settings answers package row capabilities
  tryCatch (launchNew settings text answers id row spec) (startFailed answers id)

def identityOf (request : RuntimeStartRequest) (package : InstalledPackage) : ModuleIdentity where
  moduleId := request.moduleId
  version := givenOr request.version package.installedVersion
  artifactSha256 := givenOr request.artifactSha256 package.checksumSha256
  publisherId := givenOr request.publisherId package.publisher
  siteId := request.siteId

/-- The checks of `start_runtime`, of a module that may be spawned. -/
def startPermitted (identity : ModuleIdentity) (descriptor : ModuleDescriptor) (package : InstalledPackage) :
    HostOp RuntimeStartResult := do
  let manifest ← readManifest answers .startManifest
  let capabilities := if manifest.providedCapabilities = [] then descriptor.capabilitiesProvided
    else manifest.providedCapabilities
  let result ← evaluateRun settings text answers identity manifest.permissions capabilities
  match policyRefusal text descriptor result with
  | some refusal => return refusal
  | none =>
    if ← verifyPackageDigest text answers package.packagePath identity.artifactSha256 then
      startAdmitted settings text answers identity package
        (if manifest.permissions = [] then permissionsFromDescriptor descriptor else manifest.permissions)
        capabilities
    else return { ok := false, state := .quarantined, message := "artifact digest mismatch" }

def startRuntime (request : RuntimeStartRequest) : HostOp RuntimeStartResult :=
  match answers.registry request.moduleId with
  | none => return { ok := false, message := "module not registered" }
  | some descriptor => do
    match ← attempt (answers.failure .findPackage) (pure (answers.packages request.moduleId)) with
    | none => return { ok := false, message := "package not installed" }
    | some package =>
      if ← runtimeSpawnAllowed settings text answers (identityOf request package) then
        startPermitted settings text answers (identityOf request package) descriptor package
      else
        return { ok := false, message := (blockedReason settings).1, reasonCodes := [(blockedReason settings).2] }

/-! ### Restarting -/

/-- The manifest of the installed package, where its path is stored. -/
def restartManifest (id : String) (row : RuntimeRow) : HostOp ManifestLists :=
  if givenOr row.packagePath "" = "" then pure {} else readManifest answers (.restartManifest id)

/-- The address that the gateway listens at; the server is started if there is none. -/
def ensureServer (id : String) : HostOp Unit := do
  if (← get).listenAddress = none then startServer answers id else pure ()

/-- What `restart_runtime_instance` does before it tries to launch. -/
def prepareRestart (id : String) (row : RuntimeRow) : HostOp SandboxLaunchSpec := do
  let manifest ← restartManifest answers id row
  modify fun s => s.unregister id
  registerRuntime answers id row
    (if manifest.permissions = [] then row.permissions else manifest.permissions) manifest.providedCapabilities []
  ensureServer answers id
  let socketPath := givenOr row.socketPath (socketPathOf settings id)
  let listen := givenOr (← get).listenAddress socketPath
  attempt (answers.failure (.bootstrapScript id)) (pure ())
  -- `Path("")` is the current directory, and never false
  return launchSpec answers id row (givenOr row.packagePath ".") (givenOr row.dataPath ".") socketPath listen

/-- The launch of a runtime that is started again, until it is ready. -/
def launchAgain (id : String) (row : RuntimeRow) (spec : SandboxLaunchSpec) : HostOp RuntimeStartResult := do
  transition answers id .starting fun row => { row with socketPath := some spec.rpcAddress }
  launchProcess answers id row.publisherId spec
  if ← waitForProcessReady settings text id (answers.polls id) then do
    transition answers id .ready fun row => row
    transition answers id .running fun row => row
    return { ok := true, runtimeInstanceId := some id, state := .running, message := "restarted" }
  else do
    stopRuntime answers id "restart handshake timeout"
    return { ok := false, runtimeInstanceId := some id, state := .crashed, message := "restart handshake timeout" }

/-- How `restart_runtime_instance` handles an exception of the launch. -/
def restartFailed (id message : String) : HostOp RuntimeStartResult := do
  transition answers id .crashed fun row => { row with lastError := some message }
  return { ok := false, runtimeInstanceId := some id, message := message }

def restartRuntimeInstance (id : String) : HostOp RuntimeStartResult := do
  match ← getByInstanceId answers (.readForRestart id) id with
  | none => return { ok := false, message := "runtime not found" }
  | some row =>
    if row.state ≠ .preparing then
      return { ok := false, message := s!"runtime not restartable from {row.state.value}" }
    else do
      let spec ← prepareRestart settings answers id row
      tryCatch (launchAgain settings text answers id row spec) (restartFailed answers id)

/-- Restarts the runtimes of a list that wait for it and have no process. -/
def restartEach : List (String × RuntimeRow) → HostOp Unit
  | [] => pure ()
  | (id, row) :: records => do
    if row.state = .preparing ∧ 0 < row.restartCount ∧ (← get).processes id = none then do
      let _ ← restartRuntimeInstance settings text answers id
      restartEach records
    else restartEach records

def processPendingRestarts : HostOp Unit := do
  restartEach settings text answers (← listInstances answers .listPending)

end EnergyCore.Isolation
