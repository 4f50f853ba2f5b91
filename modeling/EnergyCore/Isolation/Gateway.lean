import EnergyCore.Isolation.DeviceBroker
import EnergyCore.Isolation.SessionStore

/-!
# The gateway of isolated runtimes

The registered runtimes with their sessions, leases and counters, and what each request does to them. What the other
brokers and the callbacks answer is an input of the request.

* `Gateway.registerRuntime`, `Gateway.unregisterRuntime` — what the manager does;
* `Gateway.dispatch` — one request.
-/

namespace EnergyCore.Isolation

open JsonValues

structure ActiveRuntimeContext where
  record : IsolatedRuntimeRecord
  permissions : List String
  capabilities : List String
  siteConfig : Dict
  lastHeartbeat : Instant
  bootstrapReady : Bool := false
  moduleReady : Bool := false

structure Gateway where
  sessions : RuntimeSessionStore
  device : DeviceControlBroker := {}
  active : String → Option ActiveRuntimeContext := fun _ => none
  rateWindow : String → List Instant := fun _ => []
  inflight : String → ℤ := fun _ => 0
  keyed : ∀ id ctx, active id = some ctx → ctx.record.runtimeInstanceId = id

/-- Where no runtime is registered, there is nothing to check. -/
theorem keyed_none (id : String) (ctx : ActiveRuntimeContext) (h : none = some ctx) :
    ctx.record.runtimeInstanceId = id := by
  cases h

/-- What a request meets outside of the gateway: the clock, the random part of a session token, and what the other
brokers, the audit and the heartbeat callback answer. -/
structure Surroundings where
  now : Instant
  raw : String
  broker : Except HandlerError Dict := .ok []
  audit : Except HandlerError Unit := .ok ()
  heartbeat : Except HandlerError Unit := .ok ()

/-- A handler ends with a result or an exception, and the gateway as it is then. -/
abbrev Handled := Except HandlerError Dict × Gateway

namespace Gateway

/-! ### Registration -/

/-- Writes the context of a registered runtime. -/
def setContext (g : Gateway) (ctx : ActiveRuntimeContext) : Gateway :=
  { g with
    active := Function.update g.active ctx.record.runtimeInstanceId (some ctx)
    keyed := by
      intro id ctx' h
      by_cases hid : id = ctx.record.runtimeInstanceId
      · rw [hid, Function.update_self] at h
        rw [hid, Option.some.inj h]
      · rw [Function.update_of_ne hid] at h
        exact g.keyed id ctx' h }

/-- The token comes from outside. -/
def registerRuntime (g : Gateway) (record : IsolatedRuntimeRecord) (permissions capabilities : List String)
    (siteConfig : Dict) (token : String) (now : Instant) : Gateway :=
  let g := g.setContext
    { record := record, permissions := permissions, capabilities := capabilities, siteConfig := siteConfig,
      lastHeartbeat := now }
  { g with sessions := g.sessions.issueStartupToken record.runtimeInstanceId token now }

def unregisterRuntime (g : Gateway) (runtimeInstanceId : String) : Gateway :=
  { g with
    active := Function.update g.active runtimeInstanceId none
    sessions := g.sessions.revokeRuntime runtimeInstanceId
    keyed := by
      intro id ctx h
      by_cases hid : id = runtimeInstanceId
      · rw [hid, Function.update_self] at h
        cases h
      · rw [Function.update_of_ne hid] at h
        exact g.keyed id ctx h }

def isProcessReady (g : Gateway) (runtimeInstanceId : String) : Bool :=
  (g.active runtimeInstanceId).any fun ctx => ctx.bootstrapReady && ctx.moduleReady

/-! ### Requests without a session -/

/-- `str(params.get(key, ""))`. -/
def strParam (text : RpcText) (params : Dict) (key : String) : String := text.str (getItemOr params key (.str ""))

/-- `int(params.get(key, 0) or 0)`. -/
def intParam (text : RpcText) (params : Dict) (key : String) : Except HandlerError ℤ :=
  text.int ((getItemOr params key (.num (.int 0))).orElse (.num (.int 0)))

def respond (request : RpcRequest) (reply : Except (RpcErrorCode × String) Dict) : RpcResponse :=
  { requestId := request.requestId, reply := reply }

/-- What a handshake must show before its startup token is looked at. -/
def checkIdentity (settings : IsolationSettings) (text : RpcText) (g : Gateway) (params : Dict)
    (protocolVersion : ℤ) : Except (RpcErrorCode × String) ActiveRuntimeContext :=
  match g.active (strParam text params "runtime_instance_id") with
  | none => .error (.notRunning, "unknown runtime")
  | some ctx =>
    if protocolVersion ≠ settings.protocolVersion then .error (.protocolMismatch, "protocol mismatch")
    else if ctx.record.moduleId ≠ strParam text params "module_id" ∨
        ctx.record.version ≠ strParam text params "version" then
      .error (.authFailed, "identity mismatch")
    else if text.lower ctx.record.artifactSha256 ≠ text.lower (strParam text params "artifact_sha256") then
      .error (.authFailed, "digest mismatch")
    else .ok ctx

/-- The checks of a handshake, which use the startup token up. -/
def acceptHandshake (settings : IsolationSettings) (text : RpcText) (g : Gateway) (params : Dict) (protocolVersion : ℤ)
    (now : Instant) : Except (RpcErrorCode × String) ActiveRuntimeContext × Gateway :=
  match checkIdentity settings text g params protocolVersion with
  | .error error => (.error error, g)
  | .ok ctx =>
    match getItem params "startup_token" with
    | .str startupToken =>
      let consumed := g.sessions.consumeStartupToken startupToken
        (strParam text params "runtime_instance_id") now
      (if consumed.1 then .ok ctx else .error (.authFailed, "startup token invalid"),
        { g with sessions := consumed.2 })
    | _ => (.error (.authFailed, "startup token invalid"), g)

def handleHandshake (settings : IsolationSettings) (text : RpcText) (g : Gateway) (request : RpcRequest)
    (around : Surroundings) : Except HandlerError RpcResponse × Gateway :=
  match intParam text request.params "protocol_version" with
  | .error e => (.error e, g)
  | .ok protocolVersion =>
    match g.acceptHandshake settings text request.params protocolVersion around.now with
    | (.error error, g) => (.ok (respond request (.error error)), g)
    | (.ok ctx, g) =>
      let created := g.sessions.createSession (strParam text request.params "runtime_instance_id")
        (strParam text request.params "module_id") ctx.record.siteId around.raw around.now
      (around.audit.map fun _ => respond request (.ok
        [("session_token", .str created.1.sessionToken),
          ("protocol_version", .num (.int settings.protocolVersion))]),
        { g with sessions := created.2 })

/-- What a report of a failed privilege drop leads to. -/
def terminate (g : Gateway) (ctx : ActiveRuntimeContext) (runtimeInstanceId : String) : Gateway :=
  { g with sessions := g.sessions.revokeRuntime runtimeInstanceId }.setContext { ctx with bootstrapReady := false }

def handlePrivilegeDropFailed (text : RpcText) (g : Gateway) (request : RpcRequest) (around : Surroundings) :
    Except HandlerError RpcResponse × Gateway :=
  let runtimeInstanceId := strParam text request.params "runtime_instance_id"
  match intParam text request.params "site_id" with
  | .error e => (.error e, g)
  | .ok siteId =>
    match g.active runtimeInstanceId with
    | none => (.ok (respond request (.error (.notRunning, "unknown runtime"))), g)
    | some ctx =>
      let answered := around.audit.map fun _ => respond request (.ok
        [("ok", .num (.bool true)), ("terminated", .num (.bool true))])
      match request.sessionToken with
      | some sessionToken =>
        match g.sessions.validateSession sessionToken runtimeInstanceId
          (strParam text request.params "module_id") siteId around.now with
        | (none, sessions) =>
          (.ok (respond request (.error (.authFailed, "invalid session"))), { g with sessions := sessions })
        | (some _, _) => (answered, g.terminate ctx runtimeInstanceId)
      | none => (answered, g.terminate ctx runtimeInstanceId)

/-! ### Handlers -/

/-- `params.get("params") or {}`, which must be an object. -/
def objectParams (params : Dict) : Except HandlerError Dict :=
  match (getItem params "params").orElse (.obj []) with
  | .obj members => .ok members
  | _ => .error (.value "params must be object")

def handleBootstrapReady (settings : IsolationSettings) (text : RpcText) (g : Gateway)
    (record : IsolatedRuntimeRecord) (params : Dict) : Handled :=
  match g.active record.runtimeInstanceId with
  | none => (.error (.value "runtime not active"), g)
  | some ctx =>
    let checked : Except HandlerError (ℤ × ℤ) := do
      let uid ← text.int (getItemOr params "uid" (.num (.int (-1))))
      let gid ← text.int (getItemOr params "gid" (.num (.int (-1))))
      if uid ≥ 0 ∧ gid ≥ 0 ∧ (uid ≠ settings.moduleUid ∨ gid ≠ settings.moduleGid) then
        throw (.permission s!"identity mismatch after drop: uid={uid} gid={gid}")
      return (uid, gid)
    match checked with
    | .error e => (.error e, g)
    | .ok (uid, gid) =>
      (.ok [("ok", .num (.bool true)), ("uid", .num (.int uid)), ("gid", .num (.int gid))],
        g.setContext { ctx with bootstrapReady := true })

def handleModuleReady (g : Gateway) (record : IsolatedRuntimeRecord) : Handled :=
  match g.active record.runtimeInstanceId with
  | none => (.error (.value "runtime not active"), g)
  | some ctx => (.ok [("ok", .num (.bool true))], g.setContext { ctx with moduleReady := true })

def handleHealth (g : Gateway) (record : IsolatedRuntimeRecord) : Handled :=
  (.ok [("healthy", .num (.bool true)), ("state", .str record.state.value),
    ("runtime_instance_id", .str record.runtimeInstanceId)], g)

def handleCapabilities (g : Gateway) (record : IsolatedRuntimeRecord) : Handled :=
  match g.active record.runtimeInstanceId with
  | none => (.error .other, g)
  | some ctx => (.ok [("capabilities", .arr (ctx.capabilities.map .str))], g)

def handleRead (g : Gateway) (record : IsolatedRuntimeRecord) (params : Dict) (around : Surroundings) : Handled :=
  match objectParams params with
  | .error e => (.error e, g)
  | .ok _ =>
    match g.active record.runtimeInstanceId with
    | none => (.error .other, g)
    | some _ => (around.broker, g)

/-- A call of the device broker on behalf of a runtime. -/
def withDevice (g : Gateway) (record : IsolatedRuntimeRecord) (params : Dict)
    (call : Dict → List String → Except HandlerError Dict × DeviceControlBroker) : Handled :=
  match objectParams params with
  | .error e => (.error e, g)
  | .ok inner =>
    match g.active record.runtimeInstanceId with
    | none => (.error .other, g)
    | some ctx =>
      let called := call inner ctx.permissions
      (called.1, { g with device := called.2 })

def handleCommand (text : RpcText) (g : Gateway) (record : IsolatedRuntimeRecord) (params : Dict)
    (around : Surroundings) : Handled :=
  g.withDevice record params fun inner permissions =>
    g.device.command text record.runtimeInstanceId record.siteId (strParam text params "capability")
      (strParam text params "command") inner permissions around.now

def handleAcquireLease (settings : IsolationSettings) (text : RpcText) (g : Gateway)
    (record : IsolatedRuntimeRecord) (params : Dict) (around : Surroundings) : Handled :=
  g.withDevice record params fun inner permissions =>
    g.device.acquireLease text settings.controlLeaseTtlSeconds record.runtimeInstanceId record.moduleId
      record.siteId (text.str (getItemOr params "capability" (.str "device.control"))) inner permissions around.now

def handleRenewLease (settings : IsolationSettings) (text : RpcText) (g : Gateway)
    (record : IsolatedRuntimeRecord) (params : Dict) (around : Surroundings) : Handled :=
  g.withDevice record params fun inner permissions =>
    g.device.renewLease text settings.controlLeaseTtlSeconds record.runtimeInstanceId record.siteId
      (text.str (getItemOr params "capability" (.str "device.control"))) inner permissions around.now

/-- `config.update(members)` keeps the last value of a key, which is found first here. -/
def handleConfig (g : Gateway) (record : IsolatedRuntimeRecord) (params : Dict) : Handled :=
  let own : Dict := [("module_id", .str record.moduleId), ("site_id", .num (.int record.siteId))]
  let config := ((g.active record.runtimeInstanceId).elim [] ActiveRuntimeContext.siteConfig) ++ own
  match (getItem params "key").nonemptyStr with
  | some key => (.ok [("config", .obj [(key, getItem config key)])], g)
  | none => (.ok [("config", .obj config)], g)

def handleSecret (text : RpcText) (g : Gateway) (record : IsolatedRuntimeRecord) (params : Dict)
    (around : Surroundings) : Handled :=
  if strParam text params "secret_ref" = "" then (.error (.value "secret_ref required"), g)
  else
    match g.active record.runtimeInstanceId with
    | none => (.error .other, g)
    | some _ => (around.broker, g)

def handleNetwork (g : Gateway) (record : IsolatedRuntimeRecord) (params : Dict) (around : Surroundings) : Handled :=
  match (getItem params "headers").orElse (.obj []) with
  | .obj _ =>
    match g.active record.runtimeInstanceId with
    | none => (.error .other, g)
    | some _ => (around.broker, g)
  | _ => (.error (.value "headers must be object"), g)

def handlePublishReadings (text : RpcText) (g : Gateway) (record : IsolatedRuntimeRecord) (params : Dict)
    (around : Surroundings) : Handled :=
  let published : Except HandlerError Dict := do
    let readings ← match getItem params "readings" with
      | .arr readings => pure readings
      | _ => throw (.value "readings must be a list")
    match getItem params "site_id" with
    | .null => pure ()
    | requestedSite =>
      let site ← text.int requestedSite
      if site ≠ record.siteId then throw (.permission "cross-site publish denied")
    let ctx := g.active record.runtimeInstanceId
    let allowed := ctx.any fun ctx =>
      (ctx.capabilities.any fun c => c.startsWith "hvac.read") || decide ("device.read" ∈ ctx.permissions)
    if ¬ allowed then throw (.permission "publish not permitted for module capabilities")
    let _ ← around.broker
    return [("ok", .num (.bool true)), ("count", .num (.int readings.length))]
  (published, g)

/-- The handlers, by the name of their method. -/
def handlers (settings : IsolationSettings) (text : RpcText) (g : Gateway) (record : IsolatedRuntimeRecord)
    (params : Dict) (around : Surroundings) : List (String × Handled) :=
  [("BootstrapReady", g.handleBootstrapReady settings text record params),
    ("ReportModuleReady", g.handleModuleReady record),
    ("GetHealth", g.handleHealth record),
    ("GetCapabilities", g.handleCapabilities record),
    ("Read", g.handleRead record params around),
    ("Command", g.handleCommand text record params around),
    ("AcquireControlLease", g.handleAcquireLease settings text record params around),
    ("RenewControlLease", g.handleRenewLease settings text record params around),
    ("GetConfig", g.handleConfig record params),
    ("GetSecret", g.handleSecret text record params around),
    ("NetworkRequest", g.handleNetwork record params around),
    ("PublishReadings", g.handlePublishReadings text record params around),
    ("ReportMetric", (.ok [("ok", .num (.bool true))], g)),
    ("Stop", (.ok [("ok", .num (.bool true)), ("stopping", .num (.bool true))], g))]

def handler (settings : IsolationSettings) (text : RpcText) (g : Gateway) (method : String)
    (record : IsolatedRuntimeRecord) (params : Dict) (around : Surroundings) : Option Handled :=
  ((g.handlers settings text record params around).find? fun entry => decide (entry.1 = method)).map Prod.snd

/-! ### Requests with a session -/

/-- `_rate_ok`. -/
def rateOk (settings : IsolationSettings) (g : Gateway) (runtimeInstanceId : String) (now : Instant) :
    Bool × Gateway :=
  let window := (g.rateWindow runtimeInstanceId).filter fun t => decide (now - t < 60)
  if settings.rpcRateLimitPerMinute ≤ window.length then
    (false, { g with rateWindow := Function.update g.rateWindow runtimeInstanceId window })
  else
    (true, { g with rateWindow := Function.update g.rateWindow runtimeInstanceId (window ++ [now]) })

/-- Adds to the counter of requests at work. -/
def addInflight (g : Gateway) (runtimeInstanceId : String) (n : ℤ) : Gateway :=
  { g with inflight := Function.update g.inflight runtimeInstanceId (g.inflight runtimeInstanceId + n) }

/-- How an exception of a handler is answered. -/
def answerError (request : RpcRequest) (around : Surroundings) (e : HandlerError) : Except HandlerError RpcResponse :=
  match e with
  | .permission message => around.audit.map fun _ => respond request (.error (.capabilityDenied, message))
  | .value message => .ok (respond request (.error (.brokerRejected, message)))
  | .other => .error .other

def runHandler (settings : IsolationSettings) (text : RpcText) (g : Gateway) (request : RpcRequest) (params : Dict)
    (ctx : ActiveRuntimeContext) (around : Surroundings) : Except HandlerError RpcResponse × Gateway :=
  match g.handler settings text request.method ctx.record params around with
  | none => (.ok (respond request (.error (.invalidRequest, "unknown method"))), g)
  | some (.error e, g) => (answerError request around e, g)
  | some (.ok result, g) =>
    if request.method = "GetHealth" then
      let g := g.setContext { ctx with lastHeartbeat := around.now }
      match around.heartbeat with
      | .error e => (answerError request around e, g)
      | .ok _ => (.ok (respond request (.ok result)), g)
    else (.ok (respond request (.ok result)), g)

/-- A request of a registered runtime. -/
def serve (settings : IsolationSettings) (text : RpcText) (g : Gateway) (request : RpcRequest)
    (ctx : ActiveRuntimeContext) (around : Surroundings) : Except HandlerError RpcResponse × Gateway :=
  let runtimeInstanceId := strParam text request.params "runtime_instance_id"
  match g.rateOk settings runtimeInstanceId around.now with
  | (false, g) => (.ok (respond request (.error (.rateLimited, "rate limit"))), g)
  | (true, g) =>
    if g.inflight runtimeInstanceId ≥ settings.rpcMaxConcurrent then
      (.ok (respond request (.error (.rateLimited, "too many concurrent"))), g)
    else
      let params := request.params.filter fun m => decide (m.1 ≠ "_session_token")
      let ran := (g.addInflight runtimeInstanceId 1).runHandler settings text request params ctx around
      (ran.1, ran.2.addInflight runtimeInstanceId (-1))

/-- `_dispatch`. -/
def dispatch (settings : IsolationSettings) (text : RpcText) (g : Gateway) (request : RpcRequest)
    (around : Surroundings) : Except HandlerError RpcResponse × Gateway :=
  let runtimeInstanceId := strParam text request.params "runtime_instance_id"
  match intParam text request.params "site_id" with
  | .error e => (.error e, g)
  | .ok siteId =>
    if request.method = "Handshake" then g.handleHandshake settings text request around
    else if request.method = "ReportPrivilegeDropFailed" then
      g.handlePrivilegeDropFailed text request around
    else
      match request.sessionToken with
      | none => (.ok (respond request (.error (.authFailed, "missing session"))), g)
      | some sessionToken =>
        match g.sessions.validateSession sessionToken runtimeInstanceId
          (strParam text request.params "module_id") siteId around.now with
        | (none, sessions) =>
          (.ok (respond request (.error (.authFailed, "invalid session"))), { g with sessions := sessions })
        | (some _, _) =>
          match g.active runtimeInstanceId with
          | none => (.ok (respond request (.error (.notRunning, "runtime not active"))), g)
          | some ctx => g.serve settings text request ctx around

end Gateway

end EnergyCore.Isolation
