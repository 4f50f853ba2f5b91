import EnergyCore.Modules.SiteModules

/-!
# Starting and stopping modules

The orchestrator of one site. Whatever it awaits may raise; the answers to these calls are numbered in the order in
which they are asked for. Starting and stopping look at all other modules again and may start and stop these in turn,
so that the calls are nested without a bound; `perform` follows them to a given depth.

* `Call`, `perform` — the two operations, and `Visit` — one of them with the state before and after it;
* `startModule`, `stopModule`, `reevaluateDependents` — the code, over what performs the nested calls.
-/

namespace EnergyCore.Modules

open FallibleSteps KeywordFields

/-! ### Handles -/

inductive RuntimeStatus where
  | stopped
  | starting
  | running
  | stopping
  | failed
  | blocked
  | unknown
  deriving Repr, DecidableEq

/-- An exception, known by the call that raised it. -/
structure PyException where
  raisedBy : ℕ
  text : String
  deriving Repr, DecidableEq

/-- What `last_error` was taken from. -/
inductive LastError where
  | reason (text : String)
  | exception (exc : PyException)
  deriving Repr, DecidableEq

structure ModuleRuntimeHandle where
  state : RuntimeStatus := .stopped
  lastError : Option LastError := none
  deriving Repr, DecidableEq

namespace ModuleRuntimeHandle

def markStarting (_ : ModuleRuntimeHandle) : ModuleRuntimeHandle := { state := .starting, lastError := none }

def markRunning (_ : ModuleRuntimeHandle) : ModuleRuntimeHandle := { state := .running, lastError := none }

def markStopping (handle : ModuleRuntimeHandle) : ModuleRuntimeHandle := { handle with state := .stopping }

def markStopped (handle : ModuleRuntimeHandle) : ModuleRuntimeHandle := { handle with state := .stopped }

def markBlocked (reason : String) (handle : ModuleRuntimeHandle) : ModuleRuntimeHandle :=
  { state := .blocked, lastError := if reason = "" then handle.lastError else some (.reason reason) }

def markFailed (exc : PyException) (_ : ModuleRuntimeHandle) : ModuleRuntimeHandle :=
  { state := .failed, lastError := some (.exception exc) }

end ModuleRuntimeHandle

/-! ### States and calls -/

/-- The answer to an awaited call: whether it raises, whether the isolated runtime is seen running, and how many
registrations were made before it raised. -/
structure Answer where
  raises : Option String := none
  running : Bool := true
  registered : ℕ := 0

/-- The handles of the modules, the capability registry, and how many calls were awaited so far. -/
structure Snapshot where
  handles : String → ModuleRuntimeHandle := fun _ => {}
  capabilities : CapabilityRegistry := {}
  asked : ℕ := 0

def Snapshot.status (s : Snapshot) (moduleId : String) : RuntimeStatus := (s.handles moduleId).state

inductive Call where
  | start (moduleId : String)
  | stop (moduleId : String)
  deriving Repr, DecidableEq

def Call.moduleId : Call → String
  | start moduleId => moduleId
  | stop moduleId => moduleId

/-- A call that returned or raised, with the state before and after it. -/
structure Visit where
  call : Call
  before : Snapshot
  after : Snapshot

/-- `visits` is the log of the calls that have ended; no operation reads it. -/
structure OrchestratorState extends Snapshot where
  visits : List Visit := []

/-- What ends an operation before its end: an exception, or that the calls are nested deeper than is followed. -/
inductive Interrupt where
  | raised (exc : PyException)
  | exhausted
  deriving Repr, DecidableEq

abbrev Action := EStateM Interrupt OrchestratorState

/-- The orchestrator of one site, with what it reads of the site and the answers to what it awaits. -/
structure ModuleOrchestrator where
  resolver : SiteModuleResolver
  siteId : ℤ
  records : SiteRecords
  answers : ℕ → Answer

namespace ModuleOrchestrator

def enabledMap (o : ModuleOrchestrator) : Fields String Bool := o.resolver.resolveEnabledModules o.records

def enabledIds (o : ModuleOrchestrator) : List String := Fields.keys o.enabledMap

def canStart (o : ModuleOrchestrator) (s : Snapshot) (moduleId : String) : CanStartResult :=
  o.resolver.modules.canStart s.capabilities o.siteId o.enabledIds moduleId

def hasPublisher (descriptor : ModuleDescriptor) : Bool := descriptor.publisher.any fun publisher => publisher ≠ ""

def requiresIsolatedRuntime (descriptor : ModuleDescriptor) : Bool :=
  Isolation.requiresIsolatedRuntime descriptor.runtimeView

/-! ### Single steps -/

def mark (moduleId : String) (f : ModuleRuntimeHandle → ModuleRuntimeHandle) : Action Unit :=
  modify fun s => { s with handles := Function.update s.handles moduleId (f (s.handles moduleId)) }

def unregisterModule (o : ModuleOrchestrator) (moduleId : String) : Action Unit :=
  modify fun s => { s with capabilities := s.capabilities.unregisterModule o.siteId moduleId }

/-- An awaited call. -/
def ask (o : ModuleOrchestrator) : Action Answer := fun s =>
  match (o.answers s.asked).raises with
  | none => .ok (o.answers s.asked) { s with asked := s.asked + 1 }
  | some text => .error (.raised ⟨s.asked, text⟩) { s with asked := s.asked + 1 }

def emitRuntimeState (o : ModuleOrchestrator) : Action Unit := o.ask >>= fun _ => pure ()

/-- The publisher of the module is looked up, if it names one. -/
def lookUpPublisher (o : ModuleOrchestrator) (descriptor : ModuleDescriptor) : Action Unit :=
  runIf (hasPublisher descriptor = true) (o.ask >>= fun _ => pure ())

/-- `register_capabilities_for_module`, which may raise between two registrations. -/
def registerCapabilities (o : ModuleOrchestrator) (moduleId : String) : Action Unit := fun s =>
  let registrations := o.resolver.siteRegistrations o.siteId o.records [(moduleId, true)] [moduleId]
  match (o.answers s.asked).raises with
  | none => .ok () { s with
      asked := s.asked + 1
      capabilities := s.capabilities.registerAll registrations }
  | some text => .error (.raised ⟨s.asked, text⟩) { s with
      asked := s.asked + 1
      capabilities := s.capabilities.registerAll (registrations.take (o.answers s.asked).registered) }

/-- `try: body` with `except Exception as exc: handler`. -/
def exceptException (body : Action Unit) (handler : PyException → Action Unit) : Action Unit :=
  tryCatch body fun
    | .raised exc => handler exc
    | .exhausted => throw .exhausted

/-- `try: body` with `finally: last`; what `last` raises replaces what `body` raised. -/
def finallyDo (body last : Action Unit) : Action Unit := fun s =>
  match body s with
  | .ok _ s' => last s'
  | .error .exhausted s' => .error .exhausted s'
  | .error (.raised exc) s' => (last >>= fun _ => throw (.raised exc)) s'

/-! ### Other modules -/

def missingReason (result : CanStartResult) : String :=
  String.intercalate "," (result.missingRequired.map Capability.value)

/-- What becomes of one other module after a module has changed. -/
def reevaluateOne (o : ModuleOrchestrator) (perform : Call → Action Unit) (changed : String) (tryStart : Bool)
    (descriptor : ModuleDescriptor) : Action Unit :=
  if descriptor.moduleId = changed ∨ descriptor.moduleId ∉ o.enabledIds ∨
      (changed ∉ descriptor.dependencies ∧ descriptor.capabilitiesRequired = []) then pure ()
  else do
    let s ← get
    let result := o.canStart s.toSnapshot descriptor.moduleId
    if result.canStart = true then
      runIf (tryStart = true ∨ s.status descriptor.moduleId = .blocked) (perform (.start descriptor.moduleId))
    else if s.status descriptor.moduleId = .running then perform (.stop descriptor.moduleId)
    else
      runIf (s.status descriptor.moduleId ≠ .stopped) do
        mark descriptor.moduleId (.markBlocked (missingReason result))
        o.emitRuntimeState

def reevaluateEach (o : ModuleOrchestrator) (perform : Call → Action Unit) (changed : String) (tryStart : Bool) :
    List ModuleDescriptor → Action Unit
  | [] => pure ()
  | descriptor :: descriptors =>
    o.reevaluateOne perform changed tryStart descriptor >>= fun _ =>
      o.reevaluateEach perform changed tryStart descriptors

def reevaluateDependents (o : ModuleOrchestrator) (perform : Call → Action Unit) (changed : String)
    (tryStart : Bool) : Action Unit :=
  o.ask >>= fun _ => o.reevaluateEach perform changed tryStart o.resolver.modules.listModules

/-! ### Starting -/

def startBlocked (o : ModuleOrchestrator) (perform : Call → Action Unit) (moduleId : String)
    (result : CanStartResult) : Action Unit := do
  let reason := if missingReason result = "" then "dependencies" else missingReason result
  mark moduleId (.markBlocked reason)
  o.emitRuntimeState
  o.unregisterModule moduleId
  o.reevaluateDependents perform moduleId false

/-- The start of an installed module: `adapter.start` and `list_runtimes` are awaited. -/
def startIsolated (o : ModuleOrchestrator) (moduleId : String) : Action Unit := do
  let _ ← o.ask
  let current ← o.ask
  if current.running = true then
    o.registerCapabilities moduleId
    mark moduleId .markRunning
    o.emitRuntimeState
  else
    mark moduleId (.markBlocked "isolated runtime blocked")
    o.emitRuntimeState

def startInProcess (o : ModuleOrchestrator) (perform : Call → Action Unit) (moduleId : String) : Action Unit :=
  exceptException
    (do
      let _ ← o.ask
      o.registerCapabilities moduleId
      mark moduleId .markRunning
      o.emitRuntimeState
      o.reevaluateDependents perform moduleId true)
    fun exc => do
      mark moduleId (.markFailed exc)
      o.emitRuntimeState
      o.unregisterModule moduleId

def startPermitted (o : ModuleOrchestrator) (perform : Call → Action Unit) (moduleId : String)
    (descriptor : ModuleDescriptor) : Action Unit := do
  mark moduleId .markStarting
  o.emitRuntimeState
  o.lookUpPublisher descriptor
  if requiresIsolatedRuntime descriptor = true then o.startIsolated moduleId else o.startInProcess perform moduleId

def startRequested (o : ModuleOrchestrator) (perform : Call → Action Unit) (moduleId : String)
    (descriptor : ModuleDescriptor) : Action Unit := do
  let _ ← o.ask
  if (Fields.get o.enabledMap moduleId).any id = false then
    mark moduleId .markStopped
    o.emitRuntimeState
  else
    let s ← get
    let result := o.canStart s.toSnapshot moduleId
    if result.canStart = false then o.startBlocked perform moduleId result
    else o.startPermitted perform moduleId descriptor

/-- The body of `start_module`. -/
def startModule (o : ModuleOrchestrator) (perform : Call → Action Unit) (moduleId : String) : Action Unit :=
  if o.resolver.settings.moduleGateEnabled = false then pure ()
  else
    match o.resolver.modules.get moduleId with
    | none => pure ()
    | some descriptor => do
      let s ← get
      if s.status moduleId = .running ∨ s.status moduleId = .starting then pure ()
      else o.startRequested perform moduleId descriptor

/-! ### Stopping -/

def stopIsolated (o : ModuleOrchestrator) (moduleId : String) : Action Unit := do
  let _ ← o.ask
  o.unregisterModule moduleId
  mark moduleId .markStopped
  o.emitRuntimeState

def stopInProcess (o : ModuleOrchestrator) (perform : Call → Action Unit) (moduleId : String) : Action Unit :=
  finallyDo
    (exceptException (o.ask >>= fun _ => pure ()) fun exc => do
      mark moduleId (.markFailed exc)
      o.emitRuntimeState)
    (do
      o.unregisterModule moduleId
      mark moduleId .markStopped
      o.emitRuntimeState
      o.reevaluateDependents perform moduleId false)

def stopRequested (o : ModuleOrchestrator) (perform : Call → Action Unit) (moduleId : String) : Action Unit := do
  mark moduleId .markStopping
  o.emitRuntimeState
  match o.resolver.modules.get moduleId with
  | none => o.stopInProcess perform moduleId
  | some descriptor =>
    o.lookUpPublisher descriptor
    if requiresIsolatedRuntime descriptor = true then o.stopIsolated moduleId else o.stopInProcess perform moduleId

/-- The body of `stop_module`. -/
def stopModule (o : ModuleOrchestrator) (perform : Call → Action Unit) (moduleId : String) : Action Unit := do
  let s ← get
  if s.status moduleId = .stopped ∨ s.status moduleId = .stopping then pure ()
  else o.stopRequested perform moduleId

/-! ### Nested calls -/

def body (o : ModuleOrchestrator) (perform : Call → Action Unit) : Call → Action Unit
  | .start moduleId => o.startModule perform moduleId
  | .stop moduleId => o.stopModule perform moduleId

/-- The state `s'`, with the entry of a call that began in `s`. -/
def logged (call : Call) (s s' : OrchestratorState) : OrchestratorState :=
  { s' with visits := s'.visits ++ [⟨call, s.toSnapshot, s'.toSnapshot⟩] }

/-- What a call does, and its entry in the log when it has ended. -/
def recordVisit (call : Call) (action : Action Unit) : Action Unit := fun s =>
  match action s with
  | .ok _ s' => .ok () (logged call s s')
  | .error .exhausted s' => .error .exhausted s'
  | .error (.raised exc) s' => .error (.raised exc) (logged call s s')

/-- The call, with the calls nested in it to the depth `fuel`. -/
def perform (o : ModuleOrchestrator) : ℕ → Call → Action Unit
  | 0, _ => throw .exhausted
  | fuel + 1, call => recordVisit call (o.body (o.perform fuel) call)

end ModuleOrchestrator

end EnergyCore.Modules
