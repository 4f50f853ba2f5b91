import EnergyCore.Isolation.RequestEffects

/-!
# Requests without credentials

What a request leaves of a runtime for which it carries neither a session nor a startup token.

* `unaffected_of_effect` — the effects that leave the runtime as it was;
* `dispatch_of_terminates`, `dispatch_of_marks` — the two that do not;
* `unauthenticated_unaffected_iff` — when a request without credentials leaves the runtime as it was.
-/

namespace EnergyCore.Isolation

open JsonValues

namespace Gateway

/-! ### The property -/

/-- The sessions of a runtime, its context with the two ready flags, its counter and its leases are the same. -/
structure Unaffected (id : String) (g g' : Gateway) : Prop where
  sessions : ∀ token (session : RuntimeSession), session.runtimeInstanceId = id →
    (g'.sessions.sessions token = some session ↔ g.sessions.sessions token = some session)
  active : g'.active id = g.active id
  inflight : g'.inflight id = g.inflight id
  leases : ∀ key : LeaseKey, key.runtimeInstanceId = id → g'.device.leases key = g.device.leases key

/-- The request carries a valid session of the runtime. -/
def CarriesSession (g : Gateway) (request : RpcRequest) (now : Instant) (id : String) : Prop :=
  ∃ token session, request.sessionToken = some token ∧ g.sessions.sessions token = some session ∧
    session.runtimeInstanceId = id ∧ session.revoked = false ∧ session.expired now = false

/-- The request carries a valid startup token of the runtime. -/
def CarriesStartupToken (g : Gateway) (request : RpcRequest) (now : Instant) (id : String) : Prop :=
  ∃ token issuedAt, getItem request.params "startup_token" = .str token ∧
    g.sessions.startupTokens token = some (id, issuedAt) ∧
    now - issuedAt ≤ RuntimeSessionStore.startupTokenSeconds

/-- The request reports a failed privilege drop of a registered runtime that has something to lose, and names no
session. -/
def Terminates (text : RpcText) (g : Gateway) (request : RpcRequest) (id : String) : Prop :=
  request.method = "ReportPrivilegeDropFailed" ∧ (∃ siteId, intParam text request.params "site_id" = .ok siteId) ∧
    strParam text request.params "runtime_instance_id" = id ∧ request.sessionToken = none ∧
    ∃ ctx, g.active id = some ctx ∧ (ctx.bootstrapReady = true ∨
      ∃ token session, g.sessions.sessions token = some session ∧ session.runtimeInstanceId = id ∧
        session.revoked = false)

/-- The request presents a session of the runtime that has run out and is not marked yet. -/
def Marks (text : RpcText) (g : Gateway) (request : RpcRequest) (now : Instant) (id : String) : Prop :=
  request.method ≠ "Handshake" ∧
    (request.method = "ReportPrivilegeDropFailed" → (g.active id).isSome = true) ∧
    strParam text request.params "runtime_instance_id" = id ∧
    ∃ token session, Presents text g request token session ∧ session.expired now = true

theorem Unaffected.refl {id : String} {g : Gateway} : Unaffected id g g :=
  ⟨fun _ _ _ => Iff.rfl, rfl, rfl, fun _ _ => rfl⟩

theorem OnlyTouches.unaffected {id other : String} {g g' : Gateway} (h : OnlyTouches other g g')
    (hid : id ≠ other) : Unaffected id g g' where
  sessions _ _ _ := by rw [h.sessions]
  active := h.active id hid
  inflight := by rw [h.inflight]
  leases key hkey := h.leases key (hkey.trans_ne hid)

/-! ### Sessions of other runtimes -/

section Sessions

variable {store : RuntimeSessionStore} {id other : String}

/-- A session of another runtime is replaced by one of that runtime. -/
theorem sessions_update_of_ne {token : String} {after : RuntimeSession}
    (hbefore : ∀ session, store.sessions token = some session → session.runtimeInstanceId = other)
    (hafter : after.runtimeInstanceId = other) (hid : id ≠ other) (t : String) (session : RuntimeSession)
    (hsession : session.runtimeInstanceId = id) :
    Function.update store.sessions token (some after) t = some session ↔ store.sessions t = some session := by
  by_cases ht : t = token
  · rw [ht, Function.update_self]
    refine iff_of_false (fun h => ?_) (fun h => ?_)
    · rw [← Option.some.inj h, hafter] at hsession
      exact hid hsession.symm
    · rw [hbefore session h] at hsession
      exact hid hsession.symm
  · rw [Function.update_of_ne ht]

theorem sessions_revokeRuntime_of_ne (hid : id ≠ other) (t : String) (session : RuntimeSession)
    (hsession : session.runtimeInstanceId = id) :
    (store.revokeRuntime other).sessions t = some session ↔ store.sessions t = some session := by
  show (store.sessions t).map _ = _ ↔ _
  cases hstored : store.sessions t with
  | none => exact Iff.rfl
  | some stored =>
    rw [Option.map_some, Option.some.injEq, Option.some.injEq]
    by_cases hother : stored.runtimeInstanceId = other
    · rw [if_pos hother]
      refine iff_of_false (fun h => ?_) (fun h => ?_)
      · rw [← h] at hsession
        exact hid (hsession.symm.trans hother)
      · rw [← h] at hsession
        exact hid (hsession.symm.trans hother)
    · rw [if_neg hother]

/-- Sessions that are revoked already stay as they are. -/
theorem revokeRuntime_of_revoked
    (h : ∀ t session, store.sessions t = some session → session.runtimeInstanceId = id → session.revoked = true) :
    store.revokeRuntime id = store := by
  unfold RuntimeSessionStore.revokeRuntime
  congr 1
  funext t
  cases hstored : store.sessions t with
  | none => rfl
  | some stored =>
    rw [Option.map_some]
    split_ifs with hid
    · have hrevoked := h t stored hstored hid
      obtain ⟨_, _, _, _, _, _, revoked⟩ := stored
      dsimp only at hrevoked
      rw [hrevoked]
    · rfl

end Sessions

/-! ### The effects -/

section

variable {settings : IsolationSettings} {text : RpcText} {g g' : Gateway} {request : RpcRequest}
  {around : Surroundings} {id : String}

/-- A report that terminates a runtime with nothing to lose changes nothing. -/
theorem terminate_eq_self {ctx : ActiveRuntimeContext} (hactive : g.active id = some ctx)
    (hready : ctx.bootstrapReady = false)
    (hrevoked : ∀ t session, g.sessions.sessions t = some session → session.runtimeInstanceId = id →
      session.revoked = true) : Unaffected id g (g.terminate ctx id) where
  sessions t session _ := by
    show (g.sessions.revokeRuntime id).sessions t = _ ↔ _
    rw [revokeRuntime_of_revoked hrevoked]
  active := by
    show Function.update g.active ctx.record.runtimeInstanceId _ id = _
    rw [g.keyed id ctx hactive, Function.update_self, hactive]
    obtain ⟨_, _, _, _, _, bootstrapReady, _⟩ := ctx
    dsimp only at hready
    rw [hready]
  inflight := rfl
  leases _ _ := rfl

theorem terminate_of_ne {other : String} {ctx : ActiveRuntimeContext} (hactive : g.active other = some ctx)
    (hid : id ≠ other) : Unaffected id g (g.terminate ctx other) where
  sessions := sessions_revokeRuntime_of_ne hid
  active := by
    show Function.update g.active ctx.record.runtimeInstanceId _ id = _
    rw [g.keyed other ctx hactive, Function.update_of_ne hid]
  inflight := rfl
  leases _ _ := rfl

/-- **The effects without credentials** other than the two leave the runtime as it was. -/
theorem unaffected_of_effect (h : Effect settings text g request around g')
    (hsession : ¬ CarriesSession g request around.now id) (hstartup : ¬ CarriesStartupToken g request around.now id)
    (hfresh : g.sessions.sessions (g.sessions.sign (strParam text request.params "runtime_instance_id") around.raw) =
      none) (hterminates : ¬ Terminates text g request id) (hmarks : ¬ Marks text g request around.now id) :
    Unaffected id g g' := by
  have hvalid : ∀ token session, Presents text g request token session → session.expired around.now = false →
      id ≠ strParam text request.params "runtime_instance_id" := by
    rintro token session ⟨htoken, hstored, siteId, -, haccepts⟩ hexpired rfl
    exact hsession ⟨token, session, htoken, hstored, haccepts.runtimeInstanceId, haccepts.unrevoked, hexpired⟩
  cases h with
  | unchanged => exact .refl
  | rejected ctx token =>
    refine ⟨fun t session _ => ?_, rfl, rfl, fun _ _ => rfl⟩
    rw [RuntimeSessionStore.sessions_consumeStartupToken]
  | shookHands ctx token hshows htoken hconsumed =>
    obtain ⟨issuedAt, hissued, hage⟩ := RuntimeSessionStore.consumeStartupToken_eq_true.mp hconsumed
    have hid : id ≠ strParam text request.params "runtime_instance_id" := by
      rintro rfl
      exact hstartup ⟨token, issuedAt, htoken, hissued, hage⟩
    refine ⟨fun t session hs => ?_, rfl, rfl, fun _ _ => rfl⟩
    unfold RuntimeSessionStore.createSession
    dsimp only
    rw [RuntimeSessionStore.sessions_consumeStartupToken]
    refine sessions_update_of_ne (fun stored hstored => ?_) rfl hid t session hs
    · have hsign : (g.sessions.consumeStartupToken token (strParam text request.params "runtime_instance_id")
          around.now).2.sign = g.sessions.sign := by
        unfold RuntimeSessionStore.consumeStartupToken
        rw [hissued]
        dsimp only
        split_ifs <;> rfl
      rw [hsign, hfresh] at hstored
      cases hstored
  | ranOut token session hhandshake hregistered hpresents hexpired =>
    have hid : id ≠ strParam text request.params "runtime_instance_id" := by
      rintro rfl
      exact hmarks ⟨hhandshake, hregistered, rfl, token, session, hpresents, hexpired⟩
    obtain ⟨-, hstored, siteId, -, haccepts⟩ := hpresents
    refine ⟨fun t s hs => ?_, rfl, rfl, fun _ _ => rfl⟩
    show Function.update g.sessions.sessions token (some { session with revoked := true }) t = some s ↔ _
    have hafter : ({ session with revoked := true } : RuntimeSession).runtimeInstanceId =
        strParam text request.params "runtime_instance_id" := haccepts.runtimeInstanceId
    refine sessions_update_of_ne (fun stored hstored' => ?_) hafter hid t s hs
    rw [← Option.some.inj (hstored.symm.trans hstored')]
    exact haccepts.runtimeInstanceId
  | terminated ctx hmethod hsite hactive htoken =>
    by_cases hid : id = strParam text request.params "runtime_instance_id"
    · rcases htoken with hnone | ⟨token, session, hpresents, hexpired⟩
      · subst hid
        have hsafe : ¬ (ctx.bootstrapReady = true ∨ ∃ token session, g.sessions.sessions token = some session ∧
            session.runtimeInstanceId = strParam text request.params "runtime_instance_id" ∧
            session.revoked = false) :=
          fun hlose => hterminates ⟨hmethod, hsite, rfl, hnone, ctx, hactive, hlose⟩
        rw [not_or] at hsafe
        refine terminate_eq_self hactive (Bool.eq_false_iff.mpr hsafe.1) fun t session hstored hown => ?_
        by_contra hrevoked
        exact hsafe.2 ⟨t, session, hstored, hown, Bool.eq_false_iff.mpr hrevoked⟩
      · exact absurd hid (hvalid token session hpresents hexpired)
    · exact terminate_of_ne hactive hid
  | served token session _ hpresents hexpired htouches =>
    exact htouches.unaffected (hvalid token session hpresents hexpired)

/-- The report without a session, computed. -/
theorem dispatch_of_terminates {ctx : ActiveRuntimeContext} (hmethod : request.method = "ReportPrivilegeDropFailed")
    {siteId : ℤ} (hsite : intParam text request.params "site_id" = .ok siteId)
    (hactive : g.active (strParam text request.params "runtime_instance_id") = some ctx)
    (htoken : request.sessionToken = none) : (g.dispatch settings text request around).2 =
      g.terminate ctx (strParam text request.params "runtime_instance_id") := by
  have hhandshake : request.method ≠ "Handshake" := by
    rw [hmethod]
    decide
  unfold dispatch
  dsimp only
  rw [hsite]
  dsimp only
  rw [if_neg hhandshake, if_pos hmethod]
  unfold handlePrivilegeDropFailed
  dsimp only
  rw [hsite]
  dsimp only
  rw [hactive]
  dsimp only
  rw [htoken]

/-- The session that has run out, computed. -/
theorem dispatch_of_marks {token : String} {session : RuntimeSession} (hhandshake : request.method ≠ "Handshake")
    (hregistered : request.method = "ReportPrivilegeDropFailed" →
      (g.active (strParam text request.params "runtime_instance_id")).isSome = true)
    (hpresents : Presents text g request token session) (hexpired : session.expired around.now = true) :
    (g.dispatch settings text request around).2 = { g with sessions := g.sessions.markRevoked token session } := by
  obtain ⟨htoken, hstored, siteId, hsite, haccepts⟩ := hpresents
  have hvalidated := @RuntimeSessionStore.validateSession_of_accepts _ _ around.now _ _ _ _ hstored haccepts
  rw [hexpired, if_pos rfl] at hvalidated
  unfold dispatch
  dsimp only
  rw [hsite]
  dsimp only
  rw [if_neg hhandshake]
  split_ifs with hdrop
  · unfold handlePrivilegeDropFailed
    dsimp only
    rw [hsite]
    dsimp only
    obtain ⟨ctx, hactive⟩ := Option.isSome_iff_exists.mp (hregistered hdrop)
    rw [hactive]
    dsimp only
    rw [htoken]
    dsimp only
    rw [hvalidated]
  · rw [htoken]
    dsimp only
    rw [hvalidated]

/-- **Requests without credentials.** A request that carries neither a valid session nor a valid startup token of a
runtime leaves it as it was, unless it reports a failed privilege drop without a session, or presents a session that
has run out. -/
theorem unauthenticated_unaffected_iff (settings : IsolationSettings) (text : RpcText) (g : Gateway)
    (request : RpcRequest) (around : Surroundings) (id : String) (hsession : ¬ CarriesSession g request around.now id)
    (hstartup : ¬ CarriesStartupToken g request around.now id)
    (hfresh : g.sessions.sessions (g.sessions.sign (strParam text request.params "runtime_instance_id") around.raw) =
      none) : Unaffected id g (g.dispatch settings text request around).2 ↔
      ¬ Terminates text g request id ∧ ¬ Marks text g request around.now id := by
  constructor
  · intro hsame
    constructor
    · rintro ⟨hmethod, ⟨siteId, hsite⟩, rfl, htoken, ctx, hactive, hlose⟩
      rw [dispatch_of_terminates hmethod hsite hactive htoken] at hsame
      rcases hlose with hready | ⟨token, session, hstored, hown, hrevoked⟩
      · have hctx := hsame.active
        unfold terminate setContext at hctx
        dsimp only at hctx
        rw [g.keyed _ ctx hactive, Function.update_self, hactive, Option.some.injEq] at hctx
        rw [← hctx] at hready
        cases hready
      · have hkept : (g.sessions.revokeRuntime _).sessions token = some session :=
          (hsame.sessions token session hown).mpr hstored
        unfold RuntimeSessionStore.revokeRuntime at hkept
        dsimp only at hkept
        rw [hstored, Option.map_some, if_pos hown, Option.some.injEq] at hkept
        rw [← hkept] at hrevoked
        cases hrevoked
    · rintro ⟨hhandshake, hregistered, rfl, token, session, hpresents, hexpired⟩
      rw [dispatch_of_marks hhandshake hregistered hpresents hexpired] at hsame
      obtain ⟨-, hstored, siteId, -, haccepts⟩ := hpresents
      have hkept := (hsame.sessions token session haccepts.runtimeInstanceId).mpr hstored
      unfold RuntimeSessionStore.markRevoked at hkept
      dsimp only at hkept
      rw [Function.update_self, Option.some.injEq] at hkept
      have hunrevoked := haccepts.unrevoked
      rw [← hkept] at hunrevoked
      cases hunrevoked
  · rintro ⟨hterminates, hmarks⟩
    exact unaffected_of_effect effect_dispatch hsession hstartup hfresh hterminates hmarks

end

/-! ### A report from a stranger -/

namespace Demo

def record : IsolatedRuntimeRecord where
  runtimeInstanceId := "rt-1"
  moduleId := "heat"
  version := "1.0.0"
  artifactSha256 := "a1"
  siteId := 7
  state := .running

/-- A runtime that has dropped its privileges and is at work. -/
def running : Gateway :=
  ({ sessions := { sign := fun id raw => id ++ ":" ++ raw }
     keyed := keyed_none } : Gateway).setContext
    { record := record, permissions := [], capabilities := [], siteConfig := [], lastHeartbeat := 0,
      bootstrapReady := true, moduleReady := true }

/-- A request that names the runtime and carries no token. -/
def bare (method : String) : RpcRequest where
  method := method
  params := [("runtime_instance_id", .str "rt-1"), ("module_id", .str "heat"), ("site_id", .num (.int 7))]

def around : Surroundings where
  now := 100
  raw := "r0"

theorem active_running : running.active "rt-1" =
    some { record := record, permissions := [], capabilities := [], siteConfig := [], lastHeartbeat := 0,
           bootstrapReady := true, moduleReady := true } := by
  unfold running setContext
  dsimp only
  have hid : record.runtimeInstanceId = "rt-1" := rfl
  rw [hid, Function.update_self]

theorem not_carriesSession (method : String) (id : String) : ¬ CarriesSession running (bare method) 100 id :=
  fun ⟨_, _, htoken, _⟩ => nomatch htoken

theorem not_carriesStartupToken (method : String) (id : String) : ¬ CarriesStartupToken running (bare method) 100 id :=
  fun ⟨_, _, htoken, _⟩ => nomatch htoken

end Demo

theorem unauthenticated_unaffected_iff_health :
    ¬ CarriesSession Demo.running (Demo.bare "GetHealth") Demo.around.now "rt-1" ∧
      ¬ CarriesStartupToken Demo.running (Demo.bare "GetHealth") Demo.around.now "rt-1" ∧
      (Unaffected "rt-1" Demo.running (Demo.running.dispatch {} RpcText.plain (Demo.bare "GetHealth") Demo.around).2 ↔
        ¬ Terminates RpcText.plain Demo.running (Demo.bare "GetHealth") "rt-1" ∧
          ¬ Marks RpcText.plain Demo.running (Demo.bare "GetHealth") Demo.around.now "rt-1") :=
  ⟨Demo.not_carriesSession _ _, Demo.not_carriesStartupToken _ _,
    unauthenticated_unaffected_iff {} RpcText.plain Demo.running (Demo.bare "GetHealth") Demo.around "rt-1"
      (Demo.not_carriesSession _ _) (Demo.not_carriesStartupToken _ _) rfl⟩

/-- A report of a failed privilege drop takes no credentials, and the runtime at work loses its ready flag. -/
theorem report_without_credentials_affects :
    ¬ CarriesSession Demo.running (Demo.bare "ReportPrivilegeDropFailed") Demo.around.now "rt-1" ∧
      ¬ CarriesStartupToken Demo.running (Demo.bare "ReportPrivilegeDropFailed") Demo.around.now "rt-1" ∧
      ¬ Unaffected "rt-1" Demo.running
        (Demo.running.dispatch {} RpcText.plain (Demo.bare "ReportPrivilegeDropFailed") Demo.around).2 := by
  refine ⟨Demo.not_carriesSession _ _, Demo.not_carriesStartupToken _ _, fun hsame => ?_⟩
  have hactive := Demo.active_running
  rw [dispatch_of_terminates rfl rfl hactive rfl] at hsame
  have hready := congrArg (Option.map ActiveRuntimeContext.bootstrapReady) (hsame.active.trans hactive)
  revert hready
  decide +kernel

end Gateway

end EnergyCore.Isolation
