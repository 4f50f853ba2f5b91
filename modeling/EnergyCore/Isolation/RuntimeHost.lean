import EnergyCore.Foundations.FallibleSteps
import EnergyCore.Governance.PolicyEngine
import EnergyCore.Isolation.Gateway

/-!
# The stores of the runtime manager

The rows of isolated runtimes, their control leases, and what the manager keeps in memory. An operation asks the
outside through its calls: each is named by what it is made for, and may fail before or after it has had its effect.
What an operation has done is also written to a trace, which no operation reads.

* `attempt`, with `ends_attempt` and `keeps_attempt` — a call that may fail;
* `transition` — moves a runtime to another state, where that is legal.
-/

namespace EnergyCore.Isolation

open FallibleSteps JsonValues
open Governance (InstallationPolicySnapshot PublisherSnapshot RevocationContext PolicyDecision)

/-! ### Rows -/

/-- A row of `isolated_runtime_instances`, found by its `runtime_instance_id`. -/
structure RuntimeRow where
  moduleId : String
  version : String
  publisherId : String
  artifactSha256 : String
  siteId : ℤ
  state : IsolatedRuntimeState
  permissions : List String
  socketPath : Option String := none
  packagePath : Option String := none
  dataPath : Option String := none
  restartCount : ℕ := 0
  lastError : Option String := none
  reasonCodes : List String := []
  startedAt : Option Instant := none
  lastHeartbeatAt : Option Instant := none
  deriving Repr, DecidableEq

/-- What the gateway is given of a row. -/
def RuntimeRow.record (row : RuntimeRow) (runtimeInstanceId : String) : IsolatedRuntimeRecord where
  runtimeInstanceId := runtimeInstanceId
  moduleId := row.moduleId
  version := row.version
  artifactSha256 := row.artifactSha256
  siteId := row.siteId
  state := row.state

/-- A row of `runtime_control_leases`. -/
structure ControlLeaseRow where
  runtimeInstanceId : String
  active : Bool
  deriving Repr, DecidableEq

/-! ### What an operation asks for -/

inductive PackageSource where
  | builtIn
  | installed
  | quarantined
  deriving Repr, DecidableEq

structure ModuleDescriptor where
  capabilitiesProvided : List String
  packageSource : PackageSource

structure InstalledPackage where
  publisher : String
  installedVersion : String
  checksumSha256 : String
  packagePath : String

structure RuntimeAuthorizationRecord where
  moduleId : String
  version : String
  artifactSha256 : String
  publisherId : String
  siteId : ℤ
  expiresAt : Instant
  revokedAt : Option Instant := none
  deriving Repr, DecidableEq

/-- The rows that a governance evaluation reads. -/
structure GovernanceRows where
  policy : InstallationPolicySnapshot
  publisher : String → Option PublisherSnapshot
  owner : String → Option String := fun _ => none
  revocation : Option RevocationContext := none
  breakGlassActive : Bool := false

/-- The lists that are read from the manifest of an installed package. -/
structure ManifestLists where
  permissions : List String := []
  providedCapabilities : List String := []

/-- What has happened when the manager looks whether a process is ready: the requests that the gateway has served
since it looked last, and whether the process has exited. -/
structure Poll where
  requests : List (RpcRequest × Surroundings) := []
  exited : Bool := false

inductive RuntimeEventType where
  | prepare
  | start
  | ready
  | stop
  | crash
  | quarantine
  | resourceLimit
  | revocationStop
  deriving Repr, DecidableEq

/-- The calls of an operation, by what they are made for. -/
inductive RuntimeCall where
  | findPackage
  | authorization
  | startManifest
  | evaluation
  | packageDigest
  | createInstance
  | listSupervised
  | listPending
  | listActive
  | directories (id : String)
  | bootstrapScript (id : String)
  | provision (id : String)
  | register (id : String)
  | startServer (id : String)
  | launch (id : String)
  | transition (id : String) (toState : IsolatedRuntimeState)
  | recordEvent (id : String) (eventType : RuntimeEventType)
  | readForStop (id : String)
  | terminate (id : String)
  | revokeLeases (id : String)
  | readForRestart (id : String)
  | restartManifest (id : String)
  | readForCrash (id : String)
  | readStopped (id : String)
  | dataSize (id : String)
  | readActive (id : String)
  | revocations (id : String)
  | advisories (id : String)
  | heartbeat (id : String)
  deriving Repr, DecidableEq

/-- Whether a call raises, and whether it has had its effect then. -/
inductive Failure where
  | no
  | before (message : String)
  | after (message : String)
  deriving Repr, DecidableEq

/-- What the calls of one operation are answered with. -/
structure CallAnswers where
  failure : RuntimeCall → Failure := fun _ => .no
  now : RuntimeCall → Instant := fun _ => 0
  registry : String → Option ModuleDescriptor := fun _ => none
  packages : String → Option InstalledPackage := fun _ => none
  authorizations : List RuntimeAuthorizationRecord := []
  governance : GovernanceRows
  manifest : RuntimeCall → ManifestLists := fun _ => {}
  contentSha256 : String := ""
  runtimeInstanceId : String := ""
  siteConfig : Dict := []
  startupToken : String → String := fun _ => ""
  listenAddress : String → String := fun _ => ""
  polls : String → List Poll := fun _ => []
  exited : String → Bool := fun _ => false
  dataSize : String → Option ℕ := fun _ => none
  revocationScope : String → Option String := fun _ => none
  criticalAdvisory : String → Bool := fun _ => false

/-- The settings that the manager reads. -/
structure RuntimeSettings where
  rpc : IsolationSettings := {}
  thirdPartyRuntimeEnabled : Bool := false
  isolatedRuntimeEnabled : Bool := false
  isProduction : Bool := false
  marketplaceMetadataEnabled : Bool := false
  heartbeatIntervalSeconds : ℚ := 10
  heartbeatMissThreshold : ℕ := 3
  maxRestarts : ℕ := 3
  dataQuotaMb : ℕ := 128
  socketDir : String := ""
  dataRoot : String := ""

def RuntimeSettings.runtimeSpawnAllowed (settings : RuntimeSettings) : Bool :=
  settings.thirdPartyRuntimeEnabled || (settings.isolatedRuntimeEnabled && !settings.isProduction)

/-- How texts are made lower-case and upper-case, and values into texts and numbers. -/
structure RuntimeText extends RpcText where
  upper : String → String

/-! ### Stores -/

/-- What must be authorized: the exact module, version, digest, publisher and site. -/
structure ModuleIdentity where
  moduleId : String
  version : String
  artifactSha256 : String
  publisherId : String
  siteId : ℤ
  deriving Repr, DecidableEq

structure SandboxLaunchSpec where
  moduleId : String
  siteId : ℤ
  packagePath : String
  dataPath : String
  socketPath : String
  rpcAddress : String
  startupToken : String
  artifactSha256 : String
  version : String
  deriving Repr, DecidableEq

/-- What a spawn permission rests on. -/
inductive SpawnPermit where
  | settings
  | authorization (record : RuntimeAuthorizationRecord) (now : Instant)
  deriving Repr, DecidableEq

/-- What an operation has obtained or done. -/
inductive HostEvent where
  | spawnPermitted (identity : ModuleIdentity) (permit : SpawnPermit)
  | runDecided (moduleId publisherId : String) (decision : PolicyDecision)
  | digestMatched (packagePath artifactSha256 : String)
  | moved (id : String) (state : IsolatedRuntimeState)
  | launched (id publisherId : String) (spec : SandboxLaunchSpec)
  | started (id : String) (now : Instant)
  | terminated (process : ℕ)
  | heartbeat (id : String) (now : Instant)
  | timedOut (id : String) (now : Instant)
  deriving Repr, DecidableEq

/-- The rows, newest first by their ids, the leases, and what the manager has in memory: the gateway, the address it
listens at, the handles of the processes, and the missed heartbeats. -/
structure RuntimeHost where
  rows : String → Option RuntimeRow := fun _ => none
  ids : List String := []
  leases : List ControlLeaseRow := []
  gateway : Gateway
  listenAddress : Option String := none
  processes : String → Option ℕ := fun _ => none
  missCounts : String → Option ℕ := fun _ => none
  spawned : ℕ := 0
  trace : List HostEvent := []

namespace RuntimeHost

variable (s : RuntimeHost)

def log (event : HostEvent) : RuntimeHost := { s with trace := s.trace ++ [event] }

def setRow (id : String) (row : RuntimeRow) : RuntimeHost := { s with rows := Function.update s.rows id (some row) }

/-- Keeps the handle of the process that was started last. -/
def track (id : String) (process : ℕ) : RuntimeHost :=
  { s with processes := Function.update s.processes id (some process) }

def dropProcess (id : String) : RuntimeHost := { s with processes := Function.update s.processes id none }

def clearRuntime (id : String) : RuntimeHost := { s with missCounts := Function.update s.missCounts id none }

def setMisses (id : String) (misses : ℕ) : RuntimeHost :=
  { s with missCounts := Function.update s.missCounts id (some misses) }

def register (record : IsolatedRuntimeRecord) (permissions capabilities : List String) (siteConfig : Dict)
    (token : String) (now : Instant) : RuntimeHost :=
  { s with gateway := s.gateway.registerRuntime record permissions capabilities siteConfig token now }

def unregister (id : String) : RuntimeHost := { s with gateway := s.gateway.unregisterRuntime id }

def revokeDevices (id : String) : RuntimeHost :=
  { s with gateway := { s.gateway with device := s.gateway.device.revokeRuntime id } }

def deactivateLeases (id : String) : RuntimeHost :=
  { s with leases := s.leases.map fun lease =>
      if lease.runtimeInstanceId = id then { lease with active := false } else lease }

/-- The stored rows, in their order. -/
def instances : List (String × RuntimeRow) := s.ids.filterMap fun id => (s.rows id).map fun row => (id, row)

end RuntimeHost

abbrev HostOp := EStateM String RuntimeHost

/-! ### Calls -/

def raiseBefore : Failure → HostOp Unit
  | .before message => throw message
  | _ => pure ()

def raiseAfter : Failure → HostOp Unit
  | .after message => throw message
  | _ => pure ()

/-- A call that may fail. -/
def attempt {α : Type} (failure : Failure) (call : HostOp α) : HostOp α := do
  raiseBefore failure
  let result ← call
  raiseAfter failure
  return result

section

variable {α : Type} {failure : Failure} {call : HostOp α} {s s' : RuntimeHost} {a : α}

theorem attempt_of_no (hfailure : failure = .no) : attempt failure call = call := by
  rw [hfailure]
  funext s
  show EStateM.bind (raiseBefore .no) (fun _ => _) s = call s
  unfold EStateM.bind
  show EStateM.bind call (fun result => _) s = call s
  unfold EStateM.bind
  cases call s <;> rfl

theorem attempt_of_before {message : String} (hfailure : failure = .before message) :
    attempt failure call s = .error message s := by
  rw [hfailure]
  rfl

theorem attempt_of_after {message : String} (hfailure : failure = .after message) (h : call s = .ok a s') :
    attempt failure call s = .error message s' := by
  rw [hfailure]
  show (call >>= fun result => _) s = _
  rw [run_bind_of_ok h]
  rfl

/-- A call that raises of itself. -/
theorem attempt_of_error {message : String} (hfailure : ∀ message', failure ≠ .before message')
    (h : call s = .error message s') : attempt failure call s = .error message s' := by
  cases failure with
  | no => rw [attempt_of_no rfl, h]
  | before message' => exact absurd rfl (hfailure message')
  | after message' =>
    show (call >>= fun result => _) s = _
    rw [run_bind_of_error h]

theorem ends_attempt {Q : α → RuntimeHost → Prop} {E : String → RuntimeHost → Prop}
    (hbefore : ∀ message, E message s) (hcall : Ends call s (fun a s' => Q a s' ∧ ∀ message, E message s') E) :
    Ends (attempt failure call) s Q E := by
  unfold attempt
  refine ends_bind (Q := fun _ s' => s' = s) ?_ ?_
  · cases failure with
    | no => exact rfl
    | before message => exact hbefore message
    | after message => exact rfl
  · intro _ s₁ hs₁
    rw [hs₁]
    refine ends_bind hcall ?_
    rintro a s' ⟨hQ, hE⟩
    refine ends_bind (Q := fun _ s'' => s'' = s') ?_ ?_
    · cases failure with
      | no => exact rfl
      | before message => exact rfl
      | after message => exact hE message
    · intro _ s'' hs''
      rw [hs'']
      exact ends_pure hQ

/-- A call that returns has not failed. -/
theorem ends_attempt_returns {Q : α → RuntimeHost → Prop} {E : String → RuntimeHost → Prop}
    (hbefore : ∀ message, failure = .before message → E message s)
    (hcall : Ends call s (fun a s' => Q a s' ∧ ∀ message, failure = .after message → E message s') E) :
    Ends (attempt failure call) s (fun a s' => failure = .no ∧ Q a s') E := by
  cases failure with
  | no =>
    rw [attempt_of_no rfl]
    exact hcall.mono (fun _ _ h => ⟨rfl, h.1⟩) fun _ _ h => h
  | before message => exact (ends_iff_of_error (attempt_of_before rfl)).mpr (hbefore message rfl)
  | after message =>
    unfold attempt
    refine ends_bind (Q := fun _ s' => s' = s) rfl ?_
    rintro _ s₁ rfl
    exact ends_bind hcall fun a s' h => h.2 message rfl

theorem keeps_attempt {I : RuntimeHost → Prop} (h : Keeps I call) : Keeps I (attempt failure call) :=
  fun s hs => ends_attempt (fun _ => hs) ((h s hs).mono (fun _ _ h => ⟨h, fun _ => h⟩) fun _ _ h => h)

end

/-! ### The repository -/

variable (answers : CallAnswers)

/-- `get_by_instance_id`. -/
def getByInstanceId (call : RuntimeCall) (id : String) : HostOp (Option RuntimeRow) :=
  attempt (answers.failure call) do return (← get).rows id

def listInstances (call : RuntimeCall) : HostOp (List (String × RuntimeRow)) :=
  attempt (answers.failure call) do return (← get).instances

def createInstance (row : RuntimeRow) : HostOp String :=
  attempt (answers.failure .createInstance) do
    if ((← get).rows answers.runtimeInstanceId).isSome then throw "UNIQUE constraint failed"
    else
      modify fun s => { s.setRow answers.runtimeInstanceId row with ids := answers.runtimeInstanceId :: s.ids }
      return answers.runtimeInstanceId

/-- `assert_transition`, and the update; `change` writes the other fields. -/
def storeTransition (id : String) (toState : IsolatedRuntimeState) (change : RuntimeRow → RuntimeRow) :
    Option RuntimeRow → HostOp Unit
  | none => pure ()
  | some row =>
    if row.state.canTransition toState then
      modify fun s => (s.setRow id { change row with state := toState }).log (.moved id toState)
    else throw s!"Illegal runtime transition: {row.state.value} -> {toState.value}"

def transition (id : String) (toState : IsolatedRuntimeState) (change : RuntimeRow → RuntimeRow) : HostOp Unit :=
  attempt (answers.failure (.transition id toState)) do
    storeTransition id toState change ((← get).rows id)

/-- Events are only written. -/
def recordEvent (id : String) (eventType : RuntimeEventType) : HostOp Unit :=
  attempt (answers.failure (.recordEvent id eventType)) (pure ())

def revokeLeases (id : String) : HostOp Unit :=
  attempt (answers.failure (.revokeLeases id)) (modify fun s => s.deactivateLeases id)

/-! ### How far a call gets -/

section Run

variable {answers : CallAnswers} {s : RuntimeHost} {id : String} {row : RuntimeRow}

theorem run_getByInstanceId {call : RuntimeCall} (h : answers.failure call = .no) :
    getByInstanceId answers call id s = .ok (s.rows id) s := by
  unfold getByInstanceId
  rw [attempt_of_no h]
  rfl

theorem run_getByInstanceId_of_failure {call : RuntimeCall} (h : answers.failure call ≠ .no) :
    ∃ message, getByInstanceId answers call id s = .error message s := by
  unfold getByInstanceId
  cases hfailure : answers.failure call with
  | no => exact absurd hfailure h
  | before message => exact ⟨message, attempt_of_before rfl⟩
  | after message => exact ⟨message, attempt_of_after rfl rfl⟩

variable {toState : IsolatedRuntimeState} {change : RuntimeRow → RuntimeRow}

theorem run_storeTransition (hrow : s.rows id = some row) (hlegal : row.state.canTransition toState = true) :
    (do storeTransition id toState change ((← get).rows id) : HostOp Unit) s =
      .ok () ((s.setRow id { change row with state := toState }).log (.moved id toState)) := by
  show storeTransition id toState change (s.rows id) s = _
  rw [hrow]
  unfold storeTransition
  dsimp only
  rw [if_pos hlegal]
  rfl

theorem run_transition (hrow : s.rows id = some row) (hlegal : row.state.canTransition toState = true)
    (hfailure : answers.failure (.transition id toState) = .no) :
    transition answers id toState change s =
      .ok () ((s.setRow id { change row with state := toState }).log (.moved id toState)) := by
  unfold transition
  rw [attempt_of_no hfailure]
  exact run_storeTransition hrow hlegal

theorem run_transition_of_after (hrow : s.rows id = some row) (hlegal : row.state.canTransition toState = true)
    {message : String} (hfailure : answers.failure (.transition id toState) = .after message) :
    transition answers id toState change s =
      .error message ((s.setRow id { change row with state := toState }).log (.moved id toState)) := by
  unfold transition
  exact attempt_of_after hfailure (run_storeTransition hrow hlegal)

theorem run_transition_of_illegal (hrow : s.rows id = some row) (hillegal : row.state.canTransition toState = false) :
    ∃ message, transition answers id toState change s = .error message s := by
  have hcall : (do storeTransition id toState change ((← get).rows id) : HostOp Unit) s =
      .error s!"Illegal runtime transition: {row.state.value} -> {toState.value}" s := by
    show storeTransition id toState change (s.rows id) s = _
    rw [hrow]
    unfold storeTransition
    dsimp only
    rw [if_neg (by rw [hillegal]; exact Bool.false_ne_true)]
    rfl
  unfold transition
  cases hfailure : answers.failure (.transition id toState) with
  | no => exact ⟨_, by rw [attempt_of_no rfl]; exact hcall⟩
  | before message => exact ⟨message, attempt_of_before rfl⟩
  | after message => exact ⟨_, attempt_of_error (fun _ h => Failure.noConfusion h) hcall⟩

end Run

end EnergyCore.Isolation
