import EnergyCore.Foundations.SlidingWindow
import EnergyCore.Foundations.StepRun
import EnergyCore.Isolation.RequestEffects

/-!
# Requests that run at the same time

`_dispatch` as a task that is suspended wherever it waits: for a handler, the heartbeat callback or the audit.
Between two steps of a task anything else may run, on this gateway too, but only `_dispatch` and `_rate_ok`
write the windows and the counters.

* `began` — what a request has done when it first waits or ends;
* `limits_step` — one step keeps the counters and the windows right;
* `rpc_limits` — the limits.
-/

namespace EnergyCore.Isolation

open JsonValues SlidingWindow StepRun

/-! ### Tasks -/

/-- Where a request waits: for its handler, for the heartbeat callback, for the audit of a refused permission, or
for the audit of a request that has no session. -/
inductive Stage where
  | handling (request : RpcRequest)
  | heartbeat (request : RpcRequest) (result : Dict)
  | denied (request : RpcRequest) (message : String)
  | reported (answer : RpcResponse)

/-- The stage lies between the two writes of the counter. -/
def Stage.counted : Stage → Bool
  | reported _ => false
  | _ => true

/-- A request has ended, or waits. -/
inductive Progress where
  | finished (answer : Except HandlerError RpcResponse)
  | waiting (stage : Stage)

namespace Gateway

def beginHandshake (settings : IsolationSettings) (text : RpcText) (g : Gateway) (request : RpcRequest)
    (now : Instant) (raw : String) : Progress × Gateway :=
  match intParam text request.params "protocol_version" with
  | .error e => (.finished (.error e), g)
  | .ok protocolVersion =>
    match g.acceptHandshake settings text request.params protocolVersion now with
    | (.error error, g) => (.finished (.ok (respond request (.error error))), g)
    | (.ok ctx, g) =>
      let created := g.sessions.createSession (strParam text request.params "runtime_instance_id")
        (strParam text request.params "module_id") ctx.record.siteId raw now
      (.waiting (.reported (respond request (.ok
        [("session_token", .str created.1.sessionToken),
          ("protocol_version", .num (.int settings.protocolVersion))]))),
        { g with sessions := created.2 })

def beginPrivilegeDropFailed (text : RpcText) (g : Gateway) (request : RpcRequest) (now : Instant) :
    Progress × Gateway :=
  let runtimeInstanceId := strParam text request.params "runtime_instance_id"
  match intParam text request.params "site_id" with
  | .error e => (.finished (.error e), g)
  | .ok siteId =>
    match g.active runtimeInstanceId with
    | none => (.finished (.ok (respond request (.error (.notRunning, "unknown runtime")))), g)
    | some ctx =>
      let reported := Progress.waiting (.reported (respond request (.ok
        [("ok", .num (.bool true)), ("terminated", .num (.bool true))])))
      match request.sessionToken with
      | some sessionToken =>
        match g.sessions.validateSession sessionToken runtimeInstanceId
          (strParam text request.params "module_id") siteId now with
        | (none, sessions) =>
          (.finished (.ok (respond request (.error (.authFailed, "invalid session")))),
            { g with sessions := sessions })
        | (some _, _) => (reported, g.terminate ctx runtimeInstanceId)
      | none => (reported, g.terminate ctx runtimeInstanceId)

/-- The methods that have a handler. -/
def handlerNames : List String :=
  ["BootstrapReady", "ReportModuleReady", "GetHealth", "GetCapabilities", "Read", "Command",
    "AcquireControlLease", "RenewControlLease", "GetConfig", "GetSecret", "NetworkRequest",
    "PublishReadings", "ReportMetric", "Stop"]

/-- From the limits to the call of the handler. -/
def passLimits (settings : IsolationSettings) (text : RpcText) (g : Gateway) (request : RpcRequest)
    (now : Instant) : Progress × Gateway :=
  let runtimeInstanceId := strParam text request.params "runtime_instance_id"
  match g.rateOk settings runtimeInstanceId now with
  | (false, g) => (.finished (.ok (respond request (.error (.rateLimited, "rate limit")))), g)
  | (true, g) =>
    if g.inflight runtimeInstanceId ≥ settings.rpcMaxConcurrent then
      (.finished (.ok (respond request (.error (.rateLimited, "too many concurrent")))), g)
    else
      let g := g.addInflight runtimeInstanceId 1
      if request.method ∈ handlerNames then (.waiting (.handling request), g)
      else
        (.finished (.ok (respond request (.error (.invalidRequest, "unknown method")))),
          g.addInflight runtimeInstanceId (-1))

/-- `_dispatch` until it first waits or ends. -/
def begin (settings : IsolationSettings) (text : RpcText) (g : Gateway) (request : RpcRequest)
    (now : Instant) (raw : String) : Progress × Gateway :=
  let runtimeInstanceId := strParam text request.params "runtime_instance_id"
  match intParam text request.params "site_id" with
  | .error e => (.finished (.error e), g)
  | .ok siteId =>
    if request.method = "Handshake" then g.beginHandshake settings text request now raw
    else if request.method = "ReportPrivilegeDropFailed" then
      g.beginPrivilegeDropFailed text request now
    else
      match request.sessionToken with
      | none => (.finished (.ok (respond request (.error (.authFailed, "missing session")))), g)
      | some sessionToken =>
        match g.sessions.validateSession sessionToken runtimeInstanceId
          (strParam text request.params "module_id") siteId now with
        | (none, sessions) =>
          (.finished (.ok (respond request (.error (.authFailed, "invalid session")))),
            { g with sessions := sessions })
        | (some _, _) =>
          match g.active runtimeInstanceId with
          | none => (.finished (.ok (respond request (.error (.notRunning, "runtime not active")))), g)
          | some _ => g.passLimits settings text request now

end Gateway

open Gateway

/-- How an exception of a handler goes on. -/
def failed (request : RpcRequest) : HandlerError → Progress
  | .permission message => .waiting (.denied request message)
  | .value message => .finished (.ok (respond request (.error (.brokerRejected, message))))
  | .other => .finished (.error .other)

/-- What follows when the wait ends with a result, an exception or a cancellation. -/
def Stage.next : Stage → Except HandlerError Dict → Progress
  | handling request, .ok result =>
    if request.method = "GetHealth" then .waiting (heartbeat request result)
    else .finished (.ok (respond request (.ok result)))
  | heartbeat request result, .ok _ => .finished (.ok (respond request (.ok result)))
  | handling request, .error e => failed request e
  | heartbeat request _, .error e => failed request e
  | denied request message, .ok _ =>
    .finished (.ok (respond request (.error (.capabilityDenied, message))))
  | reported answer, .ok _ => .finished (.ok answer)
  | denied _ _, .error e => .finished (.error e)
  | reported _, .error e => .finished (.error e)

/-! ### The server -/

structure Task where
  runtimeInstanceId : String
  stage : Stage

/-- The gateway with the requests that are in progress, and what happened so far: the time of the last request, the
calls of handlers, and the answers. -/
structure RpcServer where
  gateway : Gateway
  tasks : List Task := []
  clock : Option Instant := none
  dispatched : List (String × Instant) := []
  answers : List (Except HandlerError RpcResponse) := []

inductive RpcEvent where
  | arrive (request : RpcRequest) (now : Instant) (raw : String)
  | resume (i : ℕ) (outcome : Except HandlerError Dict)
  | elsewhere (g : Gateway)

/-- The counters stay, whatever else becomes of the gateway. -/
def Gateway.withCounters (g counters : Gateway) : Gateway :=
  { g with
    rateWindow := counters.rateWindow
    inflight := counters.inflight }

namespace RpcServer

variable (settings : IsolationSettings) (text : RpcText)

def arrive (s : RpcServer) (request : RpcRequest) (now : Instant) (raw : String) : RpcServer :=
  let runtimeInstanceId := strParam text request.params "runtime_instance_id"
  match s.gateway.begin settings text request now raw with
  | (.finished answer, g) =>
    { s with gateway := g, clock := some now, answers := s.answers ++ [answer] }
  | (.waiting stage, g) =>
    { s with
      gateway := g
      clock := some now
      tasks := ⟨runtimeInstanceId, stage⟩ :: s.tasks
      dispatched := if stage.counted then s.dispatched ++ [(runtimeInstanceId, now)] else s.dispatched }

def resume (s : RpcServer) (i : ℕ) (outcome : Except HandlerError Dict) : RpcServer :=
  match s.tasks[i]? with
  | none => s
  | some task =>
    match task.stage.next outcome with
    | .waiting stage => { s with tasks := ⟨task.runtimeInstanceId, stage⟩ :: s.tasks.eraseIdx i }
    | .finished answer =>
      { s with
        gateway :=
          if task.stage.counted then s.gateway.addInflight task.runtimeInstanceId (-1) else s.gateway
        tasks := s.tasks.eraseIdx i
        answers := s.answers ++ [answer] }

def step (s : RpcServer) : RpcEvent → RpcServer
  | .arrive request now raw => s.arrive settings text request now raw
  | .resume i outcome => s.resume i outcome
  | .elsewhere g => { s with gateway := g.withCounters s.gateway }

/-- The clock does not go back. -/
def ClockRuns (s : RpcServer) : RpcEvent → Prop
  | .arrive _ now _ => ∀ t ∈ s.clock, t ≤ now
  | _ => True

instance (s : RpcServer) : ∀ e, Decidable (s.ClockRuns e)
  | .arrive _ now _ => inferInstanceAs (Decidable (∀ t ∈ s.clock, t ≤ now))
  | .resume _ _ => .isTrue trivial
  | .elsewhere _ => .isTrue trivial

/-- The requests of a runtime that are in progress after they have passed the limits. -/
def inProgress (s : RpcServer) (runtimeInstanceId : String) : ℕ :=
  s.tasks.countP fun task => decide (task.runtimeInstanceId = runtimeInstanceId) && task.stage.counted

/-- When handlers of a runtime were called. -/
def dispatchTimes (s : RpcServer) (runtimeInstanceId : String) : List Instant :=
  (s.dispatched.filter fun e => decide (e.1 = runtimeInstanceId)).map Prod.snd

end RpcServer

/-! ### What a request has done when it first waits or ends -/

/-- The window and the counter of a runtime after the first part of a request: it was turned away before the limits
or has none, it was refused by the rate or after it, or its handler is called. -/
inductive Began (settings : IsolationSettings) (g : Gateway) (id : String) (now : Instant) :
    Progress → Gateway → Prop where
  | aside {progress : Progress} {g' : Gateway} :
      g'.rateWindow = g.rateWindow → g'.inflight = g.inflight →
      (∀ stage, progress = .waiting stage → stage.counted = false) → Began settings g id now progress g'
  | limited {answer : Except HandlerError RpcResponse} {g' : Gateway} :
      g'.rateWindow = Function.update g.rateWindow id (within 60 now (g.rateWindow id)) →
      g'.inflight = g.inflight → Began settings g id now (.finished answer) g'
  | refused {answer : Except HandlerError RpcResponse} {g' : Gateway} :
      (within 60 now (g.rateWindow id)).length < settings.rpcRateLimitPerMinute →
      g'.rateWindow = Function.update g.rateWindow id (within 60 now (g.rateWindow id) ++ [now]) →
      g'.inflight = g.inflight → Began settings g id now (.finished answer) g'
  | admitted {request : RpcRequest} {g' : Gateway} :
      (within 60 now (g.rateWindow id)).length < settings.rpcRateLimitPerMinute →
      g'.rateWindow = Function.update g.rateWindow id (within 60 now (g.rateWindow id) ++ [now]) →
      g.inflight id < settings.rpcMaxConcurrent →
      g'.inflight = Function.update g.inflight id (g.inflight id + 1) →
      Began settings g id now (.waiting (.handling request)) g'

section

variable {settings : IsolationSettings} {text : RpcText} {g : Gateway} {request : RpcRequest}
  {now : Instant} {raw : String}

theorem began_finished {id : String} {answer : Except HandlerError RpcResponse} {g' : Gateway}
    (hwindow : g'.rateWindow = g.rateWindow) (hinflight : g'.inflight = g.inflight) :
    Began settings g id now (.finished answer) g' :=
  .aside hwindow hinflight fun _ h => nomatch h

theorem began_reported {id : String} {answer : RpcResponse} {g' : Gateway}
    (hwindow : g'.rateWindow = g.rateWindow) (hinflight : g'.inflight = g.inflight) :
    Began settings g id now (.waiting (.reported answer)) g' :=
  .aside hwindow hinflight fun _ h => by cases h; rfl

theorem counters_acceptHandshake (params : Dict) (protocolVersion : ℤ) :
    (g.acceptHandshake settings text params protocolVersion now).2.rateWindow = g.rateWindow ∧
      (g.acceptHandshake settings text params protocolVersion now).2.inflight = g.inflight := by
  unfold acceptHandshake
  cases checkIdentity settings text g params protocolVersion with
  | error error => exact ⟨rfl, rfl⟩
  | ok ctx => cases getItem params "startup_token" <;> exact ⟨rfl, rfl⟩

theorem began_handshake {id : String} : Began settings g id now (g.beginHandshake settings text request now raw).1
      (g.beginHandshake settings text request now raw).2 := by
  unfold beginHandshake
  cases intParam text request.params "protocol_version" with
  | error e => exact began_finished rfl rfl
  | ok protocolVersion =>
    have hcounters := @counters_acceptHandshake settings text g now request.params protocolVersion
    dsimp only
    cases haccepted : g.acceptHandshake settings text request.params protocolVersion now with
    | mk result g' =>
      rw [haccepted] at hcounters
      cases result with
      | error error => exact began_finished hcounters.1 hcounters.2
      | ok ctx => exact began_reported hcounters.1 hcounters.2

theorem began_privilegeDropFailed {id : String} :
    Began settings g id now (g.beginPrivilegeDropFailed text request now).1
      (g.beginPrivilegeDropFailed text request now).2 := by
  unfold beginPrivilegeDropFailed
  dsimp only
  cases intParam text request.params "site_id" with
  | error e => exact began_finished rfl rfl
  | ok siteId =>
    dsimp only
    cases g.active (strParam text request.params "runtime_instance_id") with
    | none => exact began_finished rfl rfl
    | some ctx =>
      dsimp only
      cases request.sessionToken with
      | none => exact began_reported rfl rfl
      | some sessionToken =>
        dsimp only
        cases g.sessions.validateSession sessionToken
            (strParam text request.params "runtime_instance_id")
            (strParam text request.params "module_id") siteId now with
        | mk session sessions =>
          cases session with
          | none => exact began_finished rfl rfl
          | some session => exact began_reported rfl rfl

/-- The limits of a request of a registered runtime. -/
theorem began_passLimits : Began settings g (strParam text request.params "runtime_instance_id") now
      (g.passLimits settings text request now).1 (g.passLimits settings text request now).2 := by
  unfold passLimits rateOk
  dsimp only
  by_cases hfull : settings.rpcRateLimitPerMinute ≤
      ((g.rateWindow (strParam text request.params "runtime_instance_id")).filter
        fun t => decide (now - t < 60)).length
  · rw [if_pos hfull]
    exact .limited rfl rfl
  · rw [if_neg hfull]
    dsimp only
    have hroom : (within 60 now (g.rateWindow (strParam text request.params
        "runtime_instance_id"))).length < settings.rpcRateLimitPerMinute := not_le.mp hfull
    split_ifs with hbusy hmethod
    · exact .refused hroom rfl rfl
    · exact .admitted hroom rfl (not_le.mp hbusy) rfl
    · exact .refused hroom rfl (inflight_addInflight_cancel rfl)

/-- **The first part of a request.** -/
theorem began : Began settings g (strParam text request.params "runtime_instance_id") now
      (g.begin settings text request now raw).1 (g.begin settings text request now raw).2 := by
  unfold begin
  dsimp only
  cases intParam text request.params "site_id" with
  | error e => exact began_finished rfl rfl
  | ok siteId =>
    dsimp only
    split_ifs
    · exact began_handshake
    · exact began_privilegeDropFailed
    · cases request.sessionToken with
      | none => exact began_finished rfl rfl
      | some sessionToken =>
        dsimp only
        cases g.sessions.validateSession sessionToken
            (strParam text request.params "runtime_instance_id")
            (strParam text request.params "module_id") siteId now with
        | mk session sessions =>
          cases session with
          | none => exact began_finished rfl rfl
          | some session =>
            dsimp only
            cases g.active (strParam text request.params "runtime_instance_id") with
            | none => exact began_finished rfl rfl
            | some ctx => exact began_passLimits

end

/-! ### The limits over every interleaving -/

theorem countP_eraseIdx {α : Type*} {l : List α} {i : ℕ} {a : α} (h : l[i]? = some a) (p : α → Bool) :
    l.countP p = (l.eraseIdx i).countP p + if p a then 1 else 0 := by
  obtain ⟨hi, rfl⟩ := List.getElem?_eq_some_iff.mp h
  rw [← (List.getElem_cons_eraseIdx_perm hi).countP_eq, List.countP_cons]

namespace RpcServer

/-- The counter of every runtime is the number of its requests in progress, and within the limit; its window
remembers when its handlers were called. -/
structure Limits (settings : IsolationSettings) (s : RpcServer) : Prop where
  balanced : ∀ id, s.gateway.inflight id = s.inProgress id
  capped : ∀ id, s.gateway.inflight id ≤ settings.rpcMaxConcurrent
  windows : ∀ id, Remembers 60 settings.rpcRateLimitPerMinute s.clock (s.gateway.rateWindow id)
    (s.dispatchTimes id)

section

variable {settings : IsolationSettings} {text : RpcText} {s : RpcServer}

theorem inProgress_cons (task : Task) (s : RpcServer) (id : String) :
    ({ s with tasks := task :: s.tasks } : RpcServer).inProgress id =
      s.inProgress id + if task.runtimeInstanceId = id ∧ task.stage.counted = true then 1 else 0 := by
  unfold inProgress
  rw [List.countP_cons]
  simp only [Bool.and_eq_true, decide_eq_true_eq]

theorem dispatchTimes_append (s : RpcServer) (id other : String) (now : Instant) :
    ((s.dispatched ++ [(id, now)]).filter fun e => decide (e.1 = other)).map Prod.snd =
      s.dispatchTimes other ++ if id = other then [now] else [] := by
  rw [List.filter_append, List.map_append, dispatchTimes]
  by_cases h : id = other
  · have hkept : [(id, now)].filter (fun e => decide (e.1 = other)) = [(id, now)] := by simp [h]
    rw [if_pos h, hkept]
    rfl
  · have hdropped : [(id, now)].filter (fun e => decide (e.1 = other)) = [] := by simp [h]
    rw [if_neg h, hdropped]
    rfl

/-- A request arrives. -/
theorem limits_arrive (h : Limits settings s) {request : RpcRequest} {now : Instant} {raw : String}
    (hclock : ∀ t ∈ s.clock, t ≤ now) : Limits settings (s.arrive settings text request now raw) := by
  have hbegan := @began settings text s.gateway request now raw
  unfold arrive
  generalize hid : strParam text request.params "runtime_instance_id" = id at hbegan ⊢
  cases hbegin : s.gateway.begin settings text request now raw with
  | mk progress g' =>
    rw [hbegin] at hbegan
    -- the windows of the other runtimes only grow older
    have hothers : ∀ other, other ≠ id → ∀ window, Remembers 60 settings.rpcRateLimitPerMinute (some now)
        (Function.update s.gateway.rateWindow id window other) (s.dispatchTimes other) := by
      intro other hother window
      rw [Function.update_of_ne hother]
      exact (h.windows other).advance hclock
    cases hbegan with
    | aside hwindow hinflight hcounted =>
      cases progress with
      | finished answer =>
        exact ⟨fun other => (congrFun hinflight other).trans (h.balanced other),
          fun other => (le_of_eq (congrFun hinflight other)).trans (h.capped other), fun other => by
            rw [show g'.rateWindow other = _ from congrFun hwindow other]
            exact (h.windows other).advance hclock⟩
      | waiting stage =>
        have hstage := hcounted stage rfl
        refine ⟨fun other => ?_, fun other => (le_of_eq (congrFun hinflight other)).trans (h.capped other),
          fun other => ?_⟩
        · have hcount := inProgress_cons ⟨id, stage⟩ s other
          rw [if_neg (fun hboth => by rw [hstage] at hboth; exact absurd hboth.2 (by decide))] at hcount
          exact (congrFun hinflight other).trans ((h.balanced other).trans (congrArg _ hcount.symm))
        · show Remembers _ _ (some now) (g'.rateWindow other) (((if stage.counted then
            s.dispatched ++ [(id, now)] else s.dispatched).filter
              fun e => decide (e.1 = other)).map Prod.snd)
          rw [hstage, hwindow]
          exact (h.windows other).advance hclock
    | limited hwindow hinflight =>
      refine ⟨fun other => (congrFun hinflight other).trans (h.balanced other),
        fun other => (le_of_eq (congrFun hinflight other)).trans (h.capped other), fun other => ?_⟩
      show Remembers _ _ (some now) (g'.rateWindow other) (s.dispatchTimes other)
      rw [hwindow]
      by_cases hother : other = id
      · rw [hother, Function.update_self]
        exact (h.windows id).prune hclock
      · exact hothers other hother _
    | refused hroom hwindow hinflight =>
      refine ⟨fun other => (congrFun hinflight other).trans (h.balanced other),
        fun other => (le_of_eq (congrFun hinflight other)).trans (h.capped other), fun other => ?_⟩
      show Remembers _ _ (some now) (g'.rateWindow other) (s.dispatchTimes other)
      rw [hwindow]
      by_cases hother : other = id
      · rw [hother, Function.update_self]
        exact ((h.windows id).add hclock hroom).1
      · exact hothers other hother _
    | @admitted request' _ hroom hwindow hbusy hinflight =>
      refine ⟨fun other => ?_, fun other => ?_, fun other => ?_⟩
      · have hcount := inProgress_cons ⟨id, .handling request'⟩ s other
        show g'.inflight other = (({ s with tasks := _ :: s.tasks } : RpcServer).inProgress other : ℤ)
        rw [hcount, hinflight]
        by_cases hother : other = id
        · rw [hother, Function.update_self, if_pos ⟨rfl, rfl⟩, h.balanced id]
          push_cast
          rfl
        · rw [Function.update_of_ne hother, if_neg fun hboth => hother hboth.1.symm, h.balanced other]
          rfl
      · show g'.inflight other ≤ _
        rw [hinflight]
        by_cases hother : other = id
        · rw [hother, Function.update_self]
          omega
        · rw [Function.update_of_ne hother]
          exact h.capped other
      · show Remembers _ _ (some now) (g'.rateWindow other)
          (((s.dispatched ++ [(id, now)]).filter fun e => decide (e.1 = other)).map Prod.snd)
        rw [hwindow, dispatchTimes_append]
        by_cases hother : other = id
        · rw [hother, Function.update_self, if_pos rfl]
          exact ((h.windows id).add hclock hroom).2
        · rw [if_neg (Ne.symm hother), List.append_nil]
          exact hothers other hother _

/-- A wait ends in the stage of the same request, or with the request. -/
theorem counted_next {stage stage' : Stage} {outcome : Except HandlerError Dict}
    (h : stage.next outcome = .waiting stage') : stage.counted = true ∧ stage'.counted = true := by
  have hfailed : ∀ request e, failed request e = .waiting stage' → stage'.counted = true := by
    intro request e h
    cases e with
    | permission message =>
      cases h
      rfl
    | value message => cases h
    | other => cases h
  cases stage with
  | handling request =>
    refine ⟨rfl, ?_⟩
    cases outcome with
    | error e => exact hfailed request e h
    | ok result =>
      rw [Stage.next] at h
      split_ifs at h
      cases h
      rfl
  | heartbeat request result =>
    refine ⟨rfl, ?_⟩
    cases outcome with
    | error e => exact hfailed request e h
    | ok _ => cases h
  | denied request message => cases outcome <;> cases h
  | reported answer => cases outcome <;> cases h

/-- A request goes on. -/
theorem limits_resume (h : Limits settings s) (i : ℕ) (outcome : Except HandlerError Dict) :
    Limits settings (s.resume i outcome) := by
  unfold resume
  cases htask : s.tasks[i]? with
  | none => exact h
  | some task =>
    have hcount : ∀ id, s.inProgress id =
        ({ s with tasks := s.tasks.eraseIdx i } : RpcServer).inProgress id +
          if task.runtimeInstanceId = id ∧ task.stage.counted = true then 1 else 0 := by
      intro id
      have herased := countP_eraseIdx htask fun task => decide (task.runtimeInstanceId = id) && task.stage.counted
      simp only [Bool.and_eq_true, decide_eq_true_eq] at herased
      exact herased
    dsimp only
    cases hnext : task.stage.next outcome with
    | waiting stage =>
      obtain ⟨hcounted, hcounted'⟩ := counted_next hnext
      refine ⟨fun id => ?_, h.capped, h.windows⟩
      have hcons := inProgress_cons ⟨task.runtimeInstanceId, stage⟩
        { s with tasks := s.tasks.eraseIdx i } id
      rw [h.balanced id, hcount id]
      refine congrArg _ (Eq.trans ?_ hcons.symm)
      simp only [hcounted, hcounted']
    | finished answer =>
      dsimp only
      by_cases hcounted : task.stage.counted = true
      · rw [if_pos hcounted]
        have hinflight : ∀ id, (s.gateway.addInflight task.runtimeInstanceId (-1)).inflight id =
            s.gateway.inflight id - if task.runtimeInstanceId = id then 1 else 0 := by
          intro id
          show Function.update s.gateway.inflight task.runtimeInstanceId _ id = _
          by_cases hid : id = task.runtimeInstanceId
          · rw [hid, Function.update_self, if_pos rfl]
            rfl
          · rw [Function.update_of_ne hid, if_neg (Ne.symm hid), sub_zero]
        refine ⟨fun id => ?_, fun id => ?_, h.windows⟩
        · show (s.gateway.addInflight task.runtimeInstanceId (-1)).inflight id =
            (({ s with tasks := s.tasks.eraseIdx i } : RpcServer).inProgress id : ℤ)
          rw [hinflight, h.balanced id, hcount id]
          simp only [hcounted, and_true]
          push_cast
          ring
        · show (s.gateway.addInflight task.runtimeInstanceId (-1)).inflight id ≤ _
          rw [hinflight]
          have hcap := h.capped id
          split_ifs
          · omega
          · omega
      · rw [if_neg hcounted]
        refine ⟨fun id => ?_, h.capped, h.windows⟩
        show s.gateway.inflight id =
          (({ s with tasks := s.tasks.eraseIdx i } : RpcServer).inProgress id : ℤ)
        rw [h.balanced id, hcount id, if_neg fun hboth => hcounted hboth.2]
        rfl

/-- **One step keeps the limits.** -/
theorem limits_step (h : Limits settings s) {e : RpcEvent} (hclock : s.ClockRuns e) :
    Limits settings (s.step settings text e) := by
  cases e with
  | arrive request now raw => exact limits_arrive h hclock
  | resume i outcome => exact limits_resume h i outcome
  | elsewhere g => exact ⟨h.balanced, h.capped, h.windows⟩

end

/-! ### The limits -/

/-- A gateway that has not answered yet. -/
def start (g : Gateway) : RpcServer where
  gateway :=
    { g with
      rateWindow := fun _ => []
      inflight := fun _ => 0 }

theorem limits_start {settings : IsolationSettings} (h : 0 ≤ settings.rpcMaxConcurrent) (g : Gateway) :
    Limits settings (start g) where
  balanced _ := rfl
  capped _ := h
  windows _ := .start 60 settings.rpcRateLimitPerMinute none

/-- **The limits hold over every interleaving.** However requests arrive, wait, end, fail and are cancelled, and
whatever else happens to the gateway in between, the handlers of a runtime are called at most as often as the rate
limit says in any sixty seconds, no more of its requests than allowed are in progress after they have passed the
limits, and the counters count these requests, so that they are zero when all requests have ended. -/
theorem rpc_limits {settings : IsolationSettings} {text : RpcText} {g : Gateway} {events : List RpcEvent}
    (hmax : 0 ≤ settings.rpcMaxConcurrent) (hclock : AllSteps (step settings text) ClockRuns (start g) events) :
    (∀ id a, ((run (step settings text) (start g) events).dispatchTimes id).countP
        (fun t => decide (a ≤ t) && decide (t < a + 60)) ≤ settings.rpcRateLimitPerMinute) ∧
      (∀ id, ((run (step settings text) (start g) events).inProgress id : ℤ) ≤ settings.rpcMaxConcurrent) ∧
      (∀ id, (run (step settings text) (start g) events).gateway.inflight id =
        (run (step settings text) (start g) events).inProgress id) ∧
      ((run (step settings text) (start g) events).tasks = [] →
        ∀ id, (run (step settings text) (start g) events).gateway.inflight id = 0) := by
  have hlimits : Limits settings (run (step settings text) (start g) events) :=
    AllSteps.preserves (I := Limits settings) (fun _ _ h hclock => limits_step h hclock) (limits_start hmax g) hclock
  refine ⟨fun id a => (hlimits.windows id).limited a, fun id => ?_, hlimits.balanced, fun htasks id => ?_⟩
  · rw [← hlimits.balanced id]
    exact hlimits.capped id
  · rw [hlimits.balanced id, inProgress, htasks]
    rfl

namespace HealthDemo

def record : IsolatedRuntimeRecord where
  runtimeInstanceId := "rt-1"
  moduleId := "heat"
  version := "1.0.0"
  artifactSha256 := "a1"
  siteId := 7
  state := .starting

def empty : Gateway := { sessions := { sign := fun id raw => id ++ ":" ++ raw }, keyed := keyed_none }

/-- A gateway with one registered runtime that has a session. -/
def registered : Gateway :=
  let g := empty.registerRuntime record [] [] [] "first" 0
  { g with sessions := (g.sessions.createSession "rt-1" "heat" 7 "raw" 0).2 }

/-- One request a minute, one at a time. -/
def oneAtATime : IsolationSettings := { rpcRateLimitPerMinute := 1, rpcMaxConcurrent := 1 }

def health : RpcRequest where
  method := "GetHealth"
  params := [("runtime_instance_id", .str "rt-1"), ("module_id", .str "heat"), ("site_id", .num (.int 7)),
    ("session_token", .str (registered.sessions.createSession "rt-1" "heat" 7 "raw" 0).1.sessionToken)]

def report : RpcRequest where
  method := "ReportPrivilegeDropFailed"
  params := [("runtime_instance_id", .str "rt-1"), ("module_id", .str "heat")]

/-- The second of three requests is refused. -/
def checked : List RpcEvent :=
  [.arrive health 0 "", .arrive health 30 "", .resume 0 (.ok []), .resume 0 (.ok []), .arrive health 60 "",
    .resume 0 (.error .other)]

/-- Two reports arrive within a second. -/
def reported : List RpcEvent := [.arrive report 0 "", .arrive report 1 ""]

end HealthDemo

open HealthDemo

theorem health_limited :
    (run (step oneAtATime RpcText.plain) (start registered) checked).dispatchTimes "rt-1" = [0, 60] ∧
      (run (step oneAtATime RpcText.plain) (start registered) checked).gateway.inflight "rt-1" = 0 :=
  ⟨by decide +kernel, (rpc_limits (by decide) (by decide +kernel)).2.2.2 (by decide +kernel) "rt-1"⟩

/-- Requests without a session are not counted. -/
theorem reports_unlimited : ¬ (AllSteps (step oneAtATime RpcText.plain) ClockRuns (start registered) reported →
      ((run (step oneAtATime RpcText.plain) (start registered) reported).tasks.countP
        (fun task => decide (task.runtimeInstanceId = "rt-1")) : ℤ) ≤ oneAtATime.rpcMaxConcurrent) := by
  decide +kernel

end RpcServer

end EnergyCore.Isolation
