import EnergyCore.Foundations.Clock
import EnergyCore.Foundations.JsonValues

/-!
# Isolated runtimes

The records of isolated runtimes, the states they go through, and what their calls are answered with.
-/

namespace EnergyCore.Isolation

open JsonValues

/-! ### States -/

inductive IsolatedRuntimeState where
  | preparing
  | starting
  | handshaking
  | ready
  | running
  | degraded
  | stopping
  | stopped
  | crashed
  | quarantined
  | blocked
  deriving Repr, DecidableEq

namespace IsolatedRuntimeState

def value : IsolatedRuntimeState → String
  | preparing => "PREPARING"
  | starting => "STARTING"
  | handshaking => "HANDSHAKING"
  | ready => "READY"
  | running => "RUNNING"
  | degraded => "DEGRADED"
  | stopping => "STOPPING"
  | stopped => "STOPPED"
  | crashed => "CRASHED"
  | quarantined => "QUARANTINED"
  | blocked => "BLOCKED"

/-- `_TRANSITIONS`. -/
def transitions : IsolatedRuntimeState → List IsolatedRuntimeState
  | preparing => [starting, blocked, quarantined]
  | starting => [handshaking, crashed, stopped, quarantined]
  | handshaking => [ready, crashed, quarantined, stopped, stopping]
  | ready => [running, stopping, crashed, quarantined, degraded]
  | running => [degraded, stopping, crashed, quarantined]
  | degraded => [running, stopping, crashed, quarantined]
  | stopping => [stopped, crashed]
  | stopped => [preparing, blocked, quarantined]
  | crashed => [preparing, quarantined, blocked]
  | quarantined => [stopped, stopping]
  | blocked => [preparing]

def canTransition (fromState toState : IsolatedRuntimeState) : Bool :=
  if fromState = toState then true else decide (toState ∈ fromState.transitions)

end IsolatedRuntimeState

/-- What the gateway knows of a runtime. -/
structure IsolatedRuntimeRecord where
  runtimeInstanceId : String
  moduleId : String
  version : String
  artifactSha256 : String
  siteId : ℤ
  state : IsolatedRuntimeState
  deriving Repr, DecidableEq

/-! ### Calls -/

inductive RpcErrorCode where
  | notRunning
  | capabilityDenied
  | brokerRejected
  | authFailed
  | protocolMismatch
  | rateLimited
  | invalidRequest
  deriving Repr, DecidableEq

/-- The exceptions of a call: `PermissionError` and `ValueError` with their texts, and all others. -/
inductive HandlerError where
  | permission (message : String)
  | value (message : String)
  | other
  deriving Repr, DecidableEq

/-- A decoded request. -/
structure RpcRequest where
  requestId : Json := .null
  method : String
  params : Dict

/-- `params.pop("_session_token", None) or params.get("session_token")`, if it is a text. -/
def RpcRequest.sessionToken (request : RpcRequest) : Option String :=
  match (getItem request.params "_session_token").orElse (getItem request.params "session_token") with
  | .str token => some token
  | _ => none

/-- The answer to a request. -/
structure RpcResponse where
  requestId : Json
  reply : Except (RpcErrorCode × String) Dict

/-- How values are turned into texts and numbers, with the laws that are relied on. -/
structure RpcText where
  str : Json → String
  int : Json → Except HandlerError ℤ
  float : Json → Except HandlerError ℚ
  decimal : ℚ → String
  lower : String → String
  isoformat : Instant → String
  str_str : ∀ s, str (.str s) = s
  int_int : ∀ n, int (.num (.int n)) = .ok n

/-- Texts and whole numbers as they are. -/
def RpcText.plain : RpcText where
  str value := value.strD
  int value := match value with
    | .num n => .ok n.value
    | _ => .error .other
  float value := match value with
    | .num n => .ok n.value
    | _ => .error .other
  decimal _ := ""
  lower s := s
  isoformat _ := ""
  str_str _ := rfl
  int_int _ := rfl

/-- The settings of isolated runtimes. -/
structure IsolationSettings where
  protocolVersion : ℤ := 1
  rpcRateLimitPerMinute : ℕ := 600
  rpcMaxConcurrent : ℤ := 16
  moduleUid : ℤ := 10001
  moduleGid : ℤ := 10001
  controlLeaseTtlSeconds : ℚ := 30

end EnergyCore.Isolation
