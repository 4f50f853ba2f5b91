import EnergyCore.Isolation.Gateway

/-!
# What a request can do

The effects that a request can have on the gateway, each with the credentials it takes.

* `onlyTouches_serve` — a request that is served touches only what belongs to its runtime;
* `effect_dispatch` — every request has one of the effects.
-/

namespace EnergyCore.Isolation

open JsonValues

namespace Gateway

/-! ### What belongs to a runtime -/

/-- All that may differ is the context of a registered runtime, its leases, the devices, and the bookkeeping of
rates. -/
structure OnlyTouches (id : String) (g g' : Gateway) : Prop where
  sessions : g'.sessions = g.sessions
  inflight : g'.inflight = g.inflight
  active : ∀ other, other ≠ id → g'.active other = g.active other
  registered : ∀ other, (g'.active other).isSome = (g.active other).isSome
  leases : ∀ key : LeaseKey, key.runtimeInstanceId ≠ id → g'.device.leases key = g.device.leases key

namespace OnlyTouches

variable {id : String} {g g' g'' : Gateway}

theorem refl : OnlyTouches id g g := ⟨rfl, rfl, fun _ _ => rfl, fun _ => rfl, fun _ _ => rfl⟩

theorem trans (h : OnlyTouches id g g') (h' : OnlyTouches id g' g'') : OnlyTouches id g g'' where
  sessions := h'.sessions.trans h.sessions
  inflight := h'.inflight.trans h.inflight
  active other hother := (h'.active other hother).trans (h.active other hother)
  registered other := (h'.registered other).trans (h.registered other)
  leases key hkey := (h'.leases key hkey).trans (h.leases key hkey)

/-- The context of a registered runtime is written. -/
theorem setContext {ctx : ActiveRuntimeContext} (hctx : ctx.record.runtimeInstanceId = id)
    (hactive : (g.active id).isSome = true) : OnlyTouches id g (g.setContext ctx) where
  sessions := rfl
  inflight := rfl
  active other hother := Function.update_of_ne (fun h => hother (h.trans hctx)) _ _
  registered other := by
    show (Function.update g.active ctx.record.runtimeInstanceId (some ctx) other).isSome = _
    rw [hctx]
    by_cases h : other = id
    · rw [h, Function.update_self, hactive]
      rfl
    · rw [Function.update_of_ne h]
  leases _ _ := rfl

theorem withDevice {record : IsolatedRuntimeRecord} {params : Dict}
    {call : Dict → List String → Except HandlerError Dict × DeviceControlBroker}
    (hcall : ∀ inner permissions (key : LeaseKey), key.runtimeInstanceId ≠ id →
      (call inner permissions).2.leases key = g.device.leases key) :
    OnlyTouches id g (g.withDevice record params call).2 := by
  unfold Gateway.withDevice
  cases objectParams params with
  | error e => exact refl
  | ok inner =>
    dsimp only
    cases g.active record.runtimeInstanceId with
    | none => exact refl
    | some ctx => exact ⟨rfl, rfl, fun _ _ => rfl, fun _ => rfl, hcall inner ctx.permissions⟩

end OnlyTouches

section Handlers

variable {settings : IsolationSettings} {text : RpcText} {g : Gateway} {record : IsolatedRuntimeRecord}
  {params : Dict} {around : Surroundings}

theorem onlyTouches_handleBootstrapReady :
    OnlyTouches record.runtimeInstanceId g (g.handleBootstrapReady settings text record params).2 := by
  unfold handleBootstrapReady
  cases hactive : g.active record.runtimeInstanceId with
  | none => exact .refl
  | some ctx =>
    dsimp only
    split
    · exact .refl
    · refine .setContext (g.keyed _ ctx hactive) ?_
      rw [hactive]
      rfl

theorem onlyTouches_handleModuleReady : OnlyTouches record.runtimeInstanceId g (g.handleModuleReady record).2 := by
  unfold handleModuleReady
  cases hactive : g.active record.runtimeInstanceId with
  | none => exact .refl
  | some ctx =>
    refine .setContext (g.keyed _ ctx hactive) ?_
    rw [hactive]
    rfl

theorem onlyTouches_handleCapabilities : OnlyTouches record.runtimeInstanceId g (g.handleCapabilities record).2 := by
  unfold handleCapabilities
  cases g.active record.runtimeInstanceId <;> exact .refl

theorem onlyTouches_handleRead : OnlyTouches record.runtimeInstanceId g (g.handleRead record params around).2 := by
  unfold handleRead
  cases objectParams params with
  | error e => exact .refl
  | ok inner => cases g.active record.runtimeInstanceId <;> exact .refl

theorem onlyTouches_handleConfig : OnlyTouches record.runtimeInstanceId g (g.handleConfig record params).2 := by
  unfold handleConfig
  cases (getItem params "key").nonemptyStr <;> exact .refl

theorem onlyTouches_handleSecret :
    OnlyTouches record.runtimeInstanceId g (g.handleSecret text record params around).2 := by
  unfold handleSecret
  split_ifs
  · exact .refl
  · cases g.active record.runtimeInstanceId <;> exact .refl

theorem onlyTouches_handleNetwork :
    OnlyTouches record.runtimeInstanceId g (g.handleNetwork record params around).2 := by
  unfold handleNetwork
  cases (getItem params "headers").orElse (.obj []) with
  | obj _ => cases g.active record.runtimeInstanceId <;> exact .refl
  | null | num _ | float _ | str _ | arr _ => exact .refl

/-- **The handlers** touch only what belongs to their runtime. -/
theorem onlyTouches_of_mem_handlers : ∀ entry ∈ g.handlers settings text record params around,
      OnlyTouches record.runtimeInstanceId g entry.2.2 := by
  unfold handlers
  simp only [List.forall_mem_cons]
  refine ⟨onlyTouches_handleBootstrapReady, onlyTouches_handleModuleReady, .refl, onlyTouches_handleCapabilities,
    onlyTouches_handleRead, ?_, ?_, ?_, onlyTouches_handleConfig, onlyTouches_handleSecret,
    onlyTouches_handleNetwork, .refl, .refl, .refl, fun _ h => absurd h List.not_mem_nil⟩
  · exact .withDevice fun _ _ key _ => congrFun (DeviceControlBroker.leases_command _) key
  · exact .withDevice fun _ _ _ hkey => DeviceControlBroker.leases_acquireLease hkey _ _
  · exact .withDevice fun _ _ _ hkey => DeviceControlBroker.leases_renewLease hkey _

theorem onlyTouches_handler {method : String} {handled : Handled}
    (h : g.handler settings text method record params around = some handled) :
    OnlyTouches record.runtimeInstanceId g handled.2 := by
  obtain ⟨entry, hentry, rfl⟩ := Option.map_eq_some_iff.mp h
  exact onlyTouches_of_mem_handlers entry (List.mem_of_find?_eq_some hentry)

theorem onlyTouches_runHandler {request : RpcRequest} {ctx : ActiveRuntimeContext}
    (hactive : g.active ctx.record.runtimeInstanceId = some ctx) : OnlyTouches ctx.record.runtimeInstanceId g
      (g.runHandler settings text request params ctx around).2 := by
  unfold runHandler
  cases hhandled : g.handler settings text request.method ctx.record params around with
  | none => exact .refl
  | some handled =>
    have htouches := onlyTouches_handler hhandled
    obtain ⟨result, g'⟩ := handled
    cases result with
    | error e => exact htouches
    | ok result =>
      dsimp only
      split_ifs
      · have hbeat : OnlyTouches ctx.record.runtimeInstanceId g
            (g'.setContext { ctx with lastHeartbeat := around.now }) := by
          refine htouches.trans (.setContext rfl ?_)
          rw [htouches.registered, hactive]
          rfl
        cases around.heartbeat <;> exact hbeat
      · exact htouches

theorem inflight_addInflight_cancel {g' : Gateway} {id : String}
    (h : g'.inflight = (g.addInflight id 1).inflight) : (g'.addInflight id (-1)).inflight = g.inflight := by
  unfold addInflight at h ⊢
  funext other
  dsimp only at h ⊢
  rw [h]
  by_cases hother : other = id
  · rw [hother, Function.update_self, Function.update_self]
    omega
  · rw [Function.update_of_ne hother, Function.update_of_ne hother]

/-- **A request that is served** touches only what belongs to its runtime. -/
theorem onlyTouches_serve {request : RpcRequest} {ctx : ActiveRuntimeContext}
    (hactive : g.active (strParam text request.params "runtime_instance_id") = some ctx) :
    OnlyTouches (strParam text request.params "runtime_instance_id") g
      (g.serve settings text request ctx around).2 := by
  have hid := g.keyed _ ctx hactive
  have hrate : OnlyTouches (strParam text request.params "runtime_instance_id") g
      (g.rateOk settings (strParam text request.params "runtime_instance_id") around.now).2 := by
    unfold rateOk
    dsimp only
    split_ifs <;> exact ⟨rfl, rfl, fun _ _ => rfl, fun _ => rfl, fun _ _ => rfl⟩
  have hkept : (g.rateOk settings (strParam text request.params "runtime_instance_id") around.now).2.active =
      g.active := by
    unfold rateOk
    dsimp only
    split_ifs <;> rfl
  unfold serve
  dsimp only
  cases hrated : g.rateOk settings (strParam text request.params "runtime_instance_id") around.now with
  | mk ok g₁ =>
    rw [hrated] at hrate hkept
    cases ok with
    | false => exact hrate
    | true =>
      dsimp only
      split_ifs
      · exact hrate
      · have hactive₁ : (g₁.addInflight (strParam text request.params "runtime_instance_id") 1).active
            ctx.record.runtimeInstanceId = some ctx := by
          show g₁.active _ = _
          rw [hkept, hid, hactive]
        have hran := @onlyTouches_runHandler settings text _
          (request.params.filter fun m => decide (m.1 ≠ "_session_token")) around request ctx hactive₁
        rw [hid] at hran
        exact hrate.trans ⟨hran.sessions, inflight_addInflight_cancel hran.inflight, hran.active,
          hran.registered, hran.leases⟩

end Handlers

/-! ### Effects -/

/-- A request presents a session that is of its runtime, its module and its site. -/
def Presents (text : RpcText) (g : Gateway) (request : RpcRequest) (token : String) (session : RuntimeSession) :
    Prop :=
  request.sessionToken = some token ∧ g.sessions.sessions token = some session ∧
    ∃ siteId, intParam text request.params "site_id" = .ok siteId ∧
      RuntimeSessionStore.Accepts session (strParam text request.params "runtime_instance_id")
        (strParam text request.params "module_id") siteId

/-- A handshake shows the identity of a registered runtime. -/
def ShowsIdentity (settings : IsolationSettings) (text : RpcText) (g : Gateway) (request : RpcRequest)
    (ctx : ActiveRuntimeContext) : Prop :=
  request.method = "Handshake" ∧ (∃ siteId, intParam text request.params "site_id" = .ok siteId) ∧
    ∃ protocolVersion, intParam text request.params "protocol_version" = .ok protocolVersion ∧
      checkIdentity settings text g request.params protocolVersion = .ok ctx

/-- What a request does. -/
inductive Effect (settings : IsolationSettings) (text : RpcText) (g : Gateway) (request : RpcRequest)
    (around : Surroundings) : Gateway → Prop where
  | unchanged : Effect settings text g request around g
  | rejected (ctx : ActiveRuntimeContext) (token : String) :
      ShowsIdentity settings text g request ctx → getItem request.params "startup_token" = .str token →
      (g.sessions.consumeStartupToken token (strParam text request.params "runtime_instance_id") around.now).1 =
        false →
      Effect settings text g request around { g with sessions :=
        (g.sessions.consumeStartupToken token (strParam text request.params "runtime_instance_id") around.now).2 }
  | shookHands (ctx : ActiveRuntimeContext) (token : String) :
      ShowsIdentity settings text g request ctx → getItem request.params "startup_token" = .str token →
      (g.sessions.consumeStartupToken token (strParam text request.params "runtime_instance_id") around.now).1 =
        true →
      Effect settings text g request around { g with sessions :=
        ((g.sessions.consumeStartupToken token (strParam text request.params "runtime_instance_id")
          around.now).2.createSession (strParam text request.params "runtime_instance_id")
            (strParam text request.params "module_id") ctx.record.siteId around.raw around.now).2 }
  | ranOut (token : String) (session : RuntimeSession) :
      request.method ≠ "Handshake" →
      (request.method = "ReportPrivilegeDropFailed" →
        (g.active (strParam text request.params "runtime_instance_id")).isSome = true) →
      Presents text g request token session → session.expired around.now = true →
      Effect settings text g request around { g with sessions := g.sessions.markRevoked token session }
  | terminated (ctx : ActiveRuntimeContext) :
      request.method = "ReportPrivilegeDropFailed" →
      (∃ siteId, intParam text request.params "site_id" = .ok siteId) →
      g.active (strParam text request.params "runtime_instance_id") = some ctx →
      (request.sessionToken = none ∨
        ∃ token session, Presents text g request token session ∧ session.expired around.now = false) →
      Effect settings text g request around
        (g.terminate ctx (strParam text request.params "runtime_instance_id"))
  | served (token : String) (session : RuntimeSession) (g' : Gateway) :
      Presents text g request token session → session.expired around.now = false →
      OnlyTouches (strParam text request.params "runtime_instance_id") g g' →
      Effect settings text g request around g'

section Dispatch

variable {settings : IsolationSettings} {text : RpcText} {g : Gateway} {request : RpcRequest}
  {around : Surroundings}

/-- What becomes of a session that a request presents: it is accepted, it has run out, or nothing happens. -/
theorem validated_cases {token : String} (htoken : request.sessionToken = some token) {siteId : ℤ}
    (hsite : intParam text request.params "site_id" = .ok siteId) :
    (∃ session, Presents text g request token session ∧ session.expired around.now = false ∧
        g.sessions.validateSession token (strParam text request.params "runtime_instance_id")
          (strParam text request.params "module_id") siteId around.now = (some session, g.sessions)) ∨
      (∃ session, Presents text g request token session ∧ session.expired around.now = true ∧
        g.sessions.validateSession token (strParam text request.params "runtime_instance_id")
          (strParam text request.params "module_id") siteId around.now =
            (none, g.sessions.markRevoked token session)) ∨
      g.sessions.validateSession token (strParam text request.params "runtime_instance_id")
        (strParam text request.params "module_id") siteId around.now = (none, g.sessions) := by
  by_cases hfits : ∃ session, g.sessions.sessions token = some session ∧ RuntimeSessionStore.Accepts session
      (strParam text request.params "runtime_instance_id") (strParam text request.params "module_id") siteId
  · obtain ⟨session, hsession, haccepts⟩ := hfits
    have hpresents : Presents text g request token session := ⟨htoken, hsession, siteId, hsite, haccepts⟩
    have hvalidated := @RuntimeSessionStore.validateSession_of_accepts _ _ around.now _ _ _ _ hsession haccepts
    cases hexpired : session.expired around.now with
    | false =>
      rw [hexpired, if_neg Bool.false_ne_true] at hvalidated
      exact .inl ⟨session, hpresents, hexpired, hvalidated⟩
    | true =>
      rw [hexpired, if_pos rfl] at hvalidated
      exact .inr (.inl ⟨session, hpresents, hexpired, hvalidated⟩)
  · rw [not_exists] at hfits
    exact .inr (.inr (RuntimeSessionStore.validateSession_of_not_accepts
      fun session hsession haccepts => hfits session ⟨hsession, haccepts⟩))

theorem effect_handleHandshake (hmethod : request.method = "Handshake") {siteId : ℤ}
    (hsite : intParam text request.params "site_id" = .ok siteId) :
    Effect settings text g request around (g.handleHandshake settings text request around).2 := by
  unfold handleHandshake
  cases hprotocol : intParam text request.params "protocol_version" with
  | error e => exact .unchanged
  | ok protocolVersion =>
    dsimp only
    unfold acceptHandshake
    cases hidentity : checkIdentity settings text g request.params protocolVersion with
    | error error => exact .unchanged
    | ok ctx =>
      have hshows : ShowsIdentity settings text g request ctx :=
        ⟨hmethod, ⟨siteId, hsite⟩, protocolVersion, hprotocol, hidentity⟩
      cases htoken : getItem request.params "startup_token" with
      | str token =>
        dsimp only
        cases hconsumed : (g.sessions.consumeStartupToken token
          (strParam text request.params "runtime_instance_id") around.now).1 with
        | false => exact .rejected ctx token hshows htoken hconsumed
        | true => exact .shookHands ctx token hshows htoken hconsumed
      | null | num _ | float _ | arr _ | obj _ => exact .unchanged

theorem effect_handlePrivilegeDropFailed (hmethod : request.method = "ReportPrivilegeDropFailed") :
    Effect settings text g request around (g.handlePrivilegeDropFailed text request around).2 := by
  have hhandshake : request.method ≠ "Handshake" := by
    rw [hmethod]
    decide
  unfold handlePrivilegeDropFailed
  cases hsite : intParam text request.params "site_id" with
  | error e => exact .unchanged
  | ok siteId =>
    dsimp only
    cases hactive : g.active (strParam text request.params "runtime_instance_id") with
    | none => exact .unchanged
    | some ctx =>
      dsimp only
      cases htoken : request.sessionToken with
      | none => exact .terminated ctx hmethod ⟨siteId, hsite⟩ hactive (.inl htoken)
      | some token =>
        dsimp only
        rcases validated_cases htoken hsite with ⟨session, hpresents, hexpired, hvalidated⟩ |
          ⟨session, hpresents, hexpired, hvalidated⟩ | hvalidated
        · rw [hvalidated]
          exact .terminated ctx hmethod ⟨siteId, hsite⟩ hactive (.inr ⟨token, session, hpresents, hexpired⟩)
        · rw [hvalidated]
          refine .ranOut token session hhandshake (fun _ => ?_) hpresents hexpired
          rw [hactive]
          rfl
        · rw [hvalidated]
          exact .unchanged

/-- **The effect of a request.** -/
theorem effect_dispatch : Effect settings text g request around (g.dispatch settings text request around).2 := by
  unfold dispatch
  dsimp only
  cases hsite : intParam text request.params "site_id" with
  | error e => exact .unchanged
  | ok siteId =>
    dsimp only
    split_ifs with hhandshake hdrop
    · exact effect_handleHandshake hhandshake hsite
    · exact effect_handlePrivilegeDropFailed hdrop
    · cases htoken : request.sessionToken with
      | none => exact .unchanged
      | some token =>
        dsimp only
        rcases validated_cases htoken hsite with ⟨session, hpresents, hexpired, hvalidated⟩ |
          ⟨session, hpresents, hexpired, hvalidated⟩ | hvalidated
        · rw [hvalidated]
          cases hactive : g.active (strParam text request.params "runtime_instance_id") with
          | none => exact .unchanged
          | some ctx => exact .served token session _ hpresents hexpired (onlyTouches_serve hactive)
        · rw [hvalidated]
          exact .ranOut token session hhandshake (fun h => absurd h hdrop) hpresents hexpired
        · rw [hvalidated]
          exact .unchanged

end Dispatch

end Gateway

end EnergyCore.Isolation
