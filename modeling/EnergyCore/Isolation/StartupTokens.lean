import EnergyCore.Foundations.StepRun
import EnergyCore.Isolation.RequestEffects

/-!
# Startup tokens

Which registration the startup token of a handshake comes from, over runs of registrations, unregistrations,
requests and time.

* `acceptedAtMostIssued_run` — a startup token is accepted at most once for each time it was issued;
* `tokensPerRegistration_run_iff` — when only the token of the present registration is accepted;
* `opened_run` — a live session goes back to an accepted handshake of its runtime.
-/

namespace EnergyCore.Isolation

open JsonValues StepRun

namespace Gateway

/-! ### Accepted handshakes -/

/-- The runtime and the startup token that a request is accepted with. -/
def acceptedToken (settings : IsolationSettings) (text : RpcText) (g : Gateway) (request : RpcRequest)
    (now : Instant) : Option (String × String) :=
  if request.method = "Handshake" then
    match intParam text request.params "site_id", intParam text request.params "protocol_version" with
    | .ok _, .ok protocolVersion =>
      match (g.acceptHandshake settings text request.params protocolVersion now).1 with
      | .ok _ => some (strParam text request.params "runtime_instance_id",
          (getItem request.params "startup_token").strD)
      | .error _ => none
    | _, _ => none
  else none

section Accepted

variable {settings : IsolationSettings} {text : RpcText} {g : Gateway} {request : RpcRequest}
  {around : Surroundings} {now : Instant}

/-- A request is accepted if it shows the identity of a registered runtime and a token that was issued to it within
the last minute. -/
theorem acceptedToken_eq_some {id token : String} : g.acceptedToken settings text request now = some (id, token) ↔
      (∃ ctx, ShowsIdentity settings text g request ctx) ∧ getItem request.params "startup_token" = .str token ∧
        strParam text request.params "runtime_instance_id" = id ∧
        (g.sessions.consumeStartupToken token id now).1 = true := by
  constructor
  · intro h
    unfold acceptedToken at h
    split_ifs at h with hmethod
    split at h
    next siteId protocolVersion hsite hprotocol =>
      unfold acceptHandshake at h
      cases hidentity : checkIdentity settings text g request.params protocolVersion with
      | error error =>
        rw [hidentity] at h
        cases h
      | ok ctx =>
        rw [hidentity] at h
        cases htoken : getItem request.params "startup_token" with
        | str startupToken =>
          rw [htoken] at h
          dsimp only at h
          cases hconsumed : (g.sessions.consumeStartupToken startupToken
            (strParam text request.params "runtime_instance_id") now).1 with
          | false =>
            rw [hconsumed] at h
            cases h
          | true =>
            rw [hconsumed] at h
            cases h
            exact ⟨⟨ctx, hmethod, ⟨siteId, hsite⟩, protocolVersion, hprotocol, hidentity⟩, rfl, rfl, hconsumed⟩
        | null | num _ | float _ | arr _ | obj _ =>
          rw [htoken] at h
          cases h
    next => cases h
  · rintro ⟨⟨ctx, hmethod, ⟨siteId, hsite⟩, protocolVersion, hprotocol, hidentity⟩, htoken, rfl, hconsumed⟩
    unfold acceptedToken acceptHandshake
    rw [if_pos hmethod, hsite, hprotocol]
    dsimp only
    rw [hidentity, htoken]
    dsimp only
    rw [hconsumed]
    rfl

theorem dispatch_of_accepted {id token : String}
    (h : g.acceptedToken settings text request around.now = some (id, token)) :
    ∃ moduleId siteId, (g.dispatch settings text request around).2 =
      { g with sessions :=
        ((g.sessions.consumeStartupToken token id around.now).2.createSession id moduleId siteId around.raw
          around.now).2 } := by
  obtain ⟨⟨ctx, hmethod, ⟨siteId, hsite⟩, protocolVersion, hprotocol, hidentity⟩, htoken, rfl, hconsumed⟩ :=
    acceptedToken_eq_some.mp h
  refine ⟨strParam text request.params "module_id", ctx.record.siteId, ?_⟩
  unfold dispatch handleHandshake acceptHandshake
  dsimp only
  rw [hsite]
  dsimp only
  rw [if_pos hmethod, hprotocol]
  dsimp only
  rw [hidentity, htoken]
  dsimp only
  rw [hconsumed]
  rfl

/-- **No other request** opens a session. -/
theorem session_of_not_accepted (h : g.acceptedToken settings text request around.now = none) {sessionToken : String}
    {session : RuntimeSession}
    (hsession : (g.dispatch settings text request around).2.sessions.sessions sessionToken = some session)
    (hrevoked : session.revoked = false) : g.sessions.sessions sessionToken = some session := by
  generalize hg : (g.dispatch settings text request around).2 = g' at hsession
  have heffect : Effect settings text g request around g' := hg ▸ effect_dispatch
  cases heffect with
  | unchanged => exact hsession
  | rejected ctx token =>
    rw [RuntimeSessionStore.sessions_consumeStartupToken] at hsession
    exact hsession
  | shookHands ctx token hshows htoken hconsumed =>
    rw [acceptedToken_eq_some.mpr ⟨⟨ctx, hshows⟩, htoken, rfl, hconsumed⟩] at h
    cases h
  | ranOut token stored _ _ hpresents _ =>
    unfold RuntimeSessionStore.markRevoked at hsession
    dsimp only at hsession
    by_cases ht : sessionToken = token
    · rw [ht, Function.update_self, Option.some.injEq] at hsession
      rw [← hsession] at hrevoked
      cases hrevoked
    · rw [Function.update_of_ne ht] at hsession
      exact hsession
  | terminated ctx _ _ _ _ =>
    have hkept : (g.sessions.sessions sessionToken).map (fun s => if s.runtimeInstanceId =
        strParam text request.params "runtime_instance_id" then { s with revoked := true } else s) =
      some session := hsession
    obtain ⟨stored, hstored, hafter⟩ := Option.map_eq_some_iff.mp hkept
    split_ifs at hafter
    · rw [← hafter] at hrevoked
      cases hrevoked
    · rw [← hafter]
      exact hstored
  | served token stored g' _ _ htouches =>
    rw [htouches.sessions] at hsession
    exact hsession

/-- A live session was live before the request, or was opened by it. -/
theorem session_dispatch {sessionToken : String} {session : RuntimeSession}
    (hsession : (g.dispatch settings text request around).2.sessions.sessions sessionToken = some session)
    (hlive : session.revoked = false) : g.sessions.sessions sessionToken = some session ∨
      ∃ token, g.acceptedToken settings text request around.now = some (session.runtimeInstanceId, token) := by
  cases haccepted : g.acceptedToken settings text request around.now with
  | none => exact .inl (session_of_not_accepted haccepted hsession hlive)
  | some entry =>
    obtain ⟨id, token⟩ := entry
    obtain ⟨moduleId, siteId, hdispatch⟩ := dispatch_of_accepted haccepted
    rw [hdispatch] at hsession
    unfold RuntimeSessionStore.createSession at hsession
    dsimp only at hsession
    rw [RuntimeSessionStore.sessions_consumeStartupToken] at hsession
    rcases eq_or_ne sessionToken _ with heq | hne
    · rw [heq, Function.update_self, Option.some.injEq] at hsession
      exact .inr ⟨token, by rw [← hsession]⟩
    · rw [Function.update_of_ne hne] at hsession
      exact .inl hsession

/-- A request issues no startup token. -/
theorem startupTokens_dispatch {token : String} {entry : String × Instant}
    (h : (g.dispatch settings text request around).2.sessions.startupTokens token = some entry) :
    g.sessions.startupTokens token = some entry := by
  generalize hg : (g.dispatch settings text request around).2 = g' at h
  have heffect : Effect settings text g request around g' := hg ▸ effect_dispatch
  have hconsumed : ∀ used id, (g.sessions.consumeStartupToken used id around.now).2.startupTokens token = some entry →
        g.sessions.startupTokens token = some entry := by
    intro used id hentry
    rw [RuntimeSessionStore.startupTokens_consumeStartupToken] at hentry
    by_cases ht : token = used
    · rw [ht, Function.update_self] at hentry
      cases hentry
    · rwa [Function.update_of_ne ht] at hentry
  cases heffect with
  | unchanged => exact h
  | rejected ctx used => exact hconsumed used _ h
  | shookHands ctx used => exact hconsumed used _ h
  | ranOut => exact h
  | terminated => exact h
  | served _ _ _ _ _ htouches =>
    rw [htouches.sessions] at h
    exact h

/-- A request registers no runtime and unregisters none. -/
theorem registered_dispatch (id : String) :
    ((g.dispatch settings text request around).2.active id).isSome = (g.active id).isSome := by
  generalize hg : (g.dispatch settings text request around).2 = g'
  have heffect : Effect settings text g request around g' := hg ▸ effect_dispatch
  cases heffect with
  | unchanged => rfl
  | rejected => rfl
  | shookHands => rfl
  | ranOut => rfl
  | terminated ctx _ _ hactive _ =>
    show (Function.update g.active ctx.record.runtimeInstanceId _ id).isSome = _
    rw [g.keyed _ ctx hactive]
    by_cases hid : id = strParam text request.params "runtime_instance_id"
    · rw [hid, Function.update_self, hactive]
      rfl
    · rw [Function.update_of_ne hid]
  | served _ _ _ _ _ htouches => exact htouches.registered id

/-- The token that a handshake was accepted with is used up. -/
theorem startupTokens_dispatch_of_accepted {id token : String}
    (h : g.acceptedToken settings text request around.now = some (id, token)) :
    (g.dispatch settings text request around).2.sessions.startupTokens token = none := by
  obtain ⟨moduleId, siteId, hdispatch⟩ := dispatch_of_accepted h
  rw [hdispatch]
  show (g.sessions.consumeStartupToken token id around.now).2.startupTokens token = none
  rw [RuntimeSessionStore.startupTokens_consumeStartupToken, Function.update_self]

end Accepted

end Gateway

/-! ### Runs -/

/-- What happens to the gateway: the manager registers a runtime, which issues a token, or unregisters one, a request
arrives, or time passes. -/
inductive GatewayEvent where
  | register (record : IsolatedRuntimeRecord) (permissions capabilities : List String) (siteConfig : Dict)
      (token : String)
  | unregister (id : String)
  | request (request : RpcRequest) (around : Surroundings)
  | pass (seconds : ℚ) (nonneg : 0 ≤ seconds)

/-- The gateway at an instant, with the token of the present registration of each runtime, and how often each token
was issued and accepted. -/
structure TokenHistory where
  gateway : Gateway
  now : Instant
  current : String → Option String := fun _ => none
  issued : String → ℕ := fun _ => 0
  accepted : String → ℕ := fun _ => 0

namespace TokenHistory

/-- A gateway without runtimes. -/
def start (sign : String → String → String) (now : Instant) : TokenHistory where
  gateway :=
    { sessions := { sign := sign }
      keyed := keyed_none }
  now := now

/-- Adds one to a count. -/
def countUp (count : String → ℕ) (token : String) : String → ℕ := Function.update count token (count token + 1)

/-- Requests are handled at the instant of the history, whatever their surroundings say. -/
def step (settings : IsolationSettings) (text : RpcText) (s : TokenHistory) : GatewayEvent → TokenHistory
  | .register record permissions capabilities siteConfig token =>
    { s with
      gateway := s.gateway.registerRuntime record permissions capabilities siteConfig token s.now
      current := Function.update s.current record.runtimeInstanceId (some token)
      issued := countUp s.issued token }
  | .unregister id =>
    { s with gateway := s.gateway.unregisterRuntime id, current := Function.update s.current id none }
  | .request request around =>
    { s with
      gateway := (s.gateway.dispatch settings text request { around with now := s.now }).2
      accepted := (s.gateway.acceptedToken settings text request s.now).elim s.accepted fun entry =>
        countUp s.accepted entry.2 }
  | .pass seconds _ => { s with now := s.now + seconds }

/-- No token was accepted more often than it was issued. -/
def AcceptedAtMostIssued (s : TokenHistory) : Prop := ∀ token, s.accepted token ≤ s.issued token

/-- A handshake is accepted with the token of the present registration only. -/
def OnlyCurrentAccepted (settings : IsolationSettings) (text : RpcText) (s : TokenHistory) : Prop :=
  ∀ request id token, s.gateway.acceptedToken settings text request s.now = some (id, token) →
    s.current id = some token

/-- No other token of the runtime that is registered was issued within the last minute and is unused. -/
def RegistersAlone (s : TokenHistory) : GatewayEvent → Prop
  | .register record _ _ _ token => ∀ old issuedAt, old ≠ token →
      s.gateway.sessions.startupTokens old = some (record.runtimeInstanceId, issuedAt) →
      RuntimeSessionStore.startupTokenSeconds < s.now - issuedAt
  | _ => True

/-! ### Tokens are used once -/

/-- An unused token was issued more often than it was accepted. -/
def UnusedLeft (s : TokenHistory) : Prop :=
  ∀ token, s.accepted token + (if (s.gateway.sessions.startupTokens token).isSome then 1 else 0) ≤ s.issued token

section

variable {settings : IsolationSettings} {text : RpcText} {s : TokenHistory}

theorem unusedLeft_step (event : GatewayEvent) (h : UnusedLeft s) : UnusedLeft (s.step settings text event) := by
  intro token
  have htoken := h token
  cases event with
  | register record permissions capabilities siteConfig used =>
    show s.accepted token + (if (Function.update s.gateway.sessions.startupTokens used
      (some (record.runtimeInstanceId, s.now)) token).isSome then 1 else 0) ≤ countUp s.issued used token
    unfold countUp
    by_cases ht : token = used
    · rw [ht, Function.update_self, Function.update_self]
      rw [ht] at htoken
      have hle : s.accepted used ≤ s.issued used := le_trans (Nat.le_add_right _ _) htoken
      exact Nat.add_le_add_right hle 1
    · rw [Function.update_of_ne ht, Function.update_of_ne ht]
      exact htoken
  | unregister id => exact htoken
  | pass seconds nonneg => exact htoken
  | request request around =>
    have hkept : ∀ t, ((s.gateway.dispatch settings text request
        { around with now := s.now }).2.sessions.startupTokens t).isSome = true →
          (s.gateway.sessions.startupTokens t).isSome = true := by
      intro t ht
      obtain ⟨entry, hentry⟩ := Option.isSome_iff_exists.mp ht
      rw [Gateway.startupTokens_dispatch hentry]
      rfl
    show Option.elim _ s.accepted _ token + (if ((s.gateway.dispatch settings text request
      { around with now := s.now }).2.sessions.startupTokens token).isSome then 1 else 0) ≤ s.issued token
    have hmono : (if ((s.gateway.dispatch settings text request
        { around with now := s.now }).2.sessions.startupTokens token).isSome then 1 else 0) ≤
          (if (s.gateway.sessions.startupTokens token).isSome then 1 else 0) := by
      split_ifs with hafter hbefore
      · exact le_rfl
      · exact absurd (hkept token hafter) hbefore
      · exact Nat.zero_le 1
      · exact le_rfl
    cases haccepted : s.gateway.acceptedToken settings text request s.now with
    | none => exact le_trans (Nat.add_le_add_left hmono _) htoken
    | some entry =>
      obtain ⟨id, used⟩ := entry
      show countUp s.accepted used token + _ ≤ _
      unfold countUp
      by_cases ht : token = used
      · obtain ⟨-, -, -, hconsumed⟩ := Gateway.acceptedToken_eq_some.mp haccepted
        obtain ⟨issuedAt, hissued, -⟩ := RuntimeSessionStore.consumeStartupToken_eq_true.mp hconsumed
        have hused := @Gateway.startupTokens_dispatch_of_accepted settings text s.gateway request
          { around with now := s.now } id used haccepted
        rw [ht, hissued] at htoken
        rw [ht, Function.update_self, hused]
        exact htoken
      · rw [Function.update_of_ne ht]
        exact le_trans (Nat.add_le_add_left hmono _) htoken

theorem unusedLeft_start (sign : String → String → String) (now : Instant) : UnusedLeft (start sign now) :=
  fun _ => le_rfl

/-- **Tokens are used once**, in every run. -/
theorem acceptedAtMostIssued_run (sign : String → String → String) (now : Instant) (events : List GatewayEvent) :
    AcceptedAtMostIssued (run (step settings text) (start sign now) events) := by
  have hrun : UnusedLeft (run (step settings text) (start sign now) events) :=
    AllSteps.preserves (C := fun _ _ => True) (fun _ event hleft _ => unusedLeft_step event hleft)
      (unusedLeft_start sign now) (AllSteps.of_forall_mem fun _ _ => trivial)
  exact fun token => le_trans (Nat.le_add_right _ _) (hrun token)

/-! ### Tokens of earlier registrations -/

/-- The tokens of a registered runtime that are young enough are those of the present registration. -/
def YoungAreCurrent (s : TokenHistory) : Prop :=
  ∀ token id issuedAt, s.gateway.sessions.startupTokens token = some (id, issuedAt) →
    s.now - issuedAt ≤ RuntimeSessionStore.startupTokenSeconds → (s.gateway.active id).isSome = true →
    s.current id = some token

theorem YoungAreCurrent.onlyCurrentAccepted (h : YoungAreCurrent s) : OnlyCurrentAccepted settings text s := by
  intro request id token haccepted
  obtain ⟨⟨ctx, -, -, _, -, hidentity⟩, -, hid, hconsumed⟩ := Gateway.acceptedToken_eq_some.mp haccepted
  obtain ⟨issuedAt, hissued, hage⟩ := RuntimeSessionStore.consumeStartupToken_eq_true.mp hconsumed
  refine h token id issuedAt hissued hage ?_
  unfold Gateway.checkIdentity at hidentity
  rw [hid] at hidentity
  cases hactive : s.gateway.active id with
  | none =>
    rw [hactive] at hidentity
    cases hidentity
  | some _ => rfl

theorem youngAreCurrent_step (event : GatewayEvent) (h : YoungAreCurrent s) (halone : RegistersAlone s event) :
    YoungAreCurrent (s.step settings text event) := by
  intro token id issuedAt hissued hage hactive
  cases event with
  | register record permissions capabilities siteConfig used =>
    have hissued' : Function.update s.gateway.sessions.startupTokens used
      (some (record.runtimeInstanceId, s.now)) token = some (id, issuedAt) := hissued
    have hactive' : (Function.update s.gateway.active record.runtimeInstanceId _ id).isSome = true := hactive
    show Function.update s.current record.runtimeInstanceId (some used) id = some token
    by_cases ht : token = used
    · rw [ht, Function.update_self, Option.some.injEq, Prod.mk.injEq] at hissued'
      rw [← hissued'.1, ht, Function.update_self]
    · rw [Function.update_of_ne ht] at hissued'
      by_cases hid : id = record.runtimeInstanceId
      · rw [hid] at hissued'
        exact absurd hage (not_le.mpr (halone token issuedAt ht hissued'))
      · rw [Function.update_of_ne hid] at hactive' ⊢
        exact h token id issuedAt hissued' hage hactive'
  | unregister other =>
    have hactive' : (Function.update s.gateway.active other none id).isSome = true := hactive
    show Function.update s.current other none id = some token
    by_cases hid : id = other
    · rw [hid, Function.update_self] at hactive'
      cases hactive'
    · rw [Function.update_of_ne hid] at hactive' ⊢
      exact h token id issuedAt hissued hage hactive'
  | request request around =>
    have hactive' : ((s.gateway.dispatch settings text request { around with now := s.now }).2.active id).isSome =
      true := hactive
    have hissued' : (s.gateway.dispatch settings text request
      { around with now := s.now }).2.sessions.startupTokens token = some (id, issuedAt) := hissued
    rw [Gateway.registered_dispatch] at hactive'
    exact h token id issuedAt (Gateway.startupTokens_dispatch hissued') hage hactive'
  | pass seconds nonneg =>
    refine h token id issuedAt hissued ?_ hactive
    have hage' : s.now + seconds - issuedAt ≤ RuntimeSessionStore.startupTokenSeconds := hage
    linarith

/-- The handshake of a registered runtime with a token. -/
def handshake (settings : IsolationSettings) (record : IsolatedRuntimeRecord) (token : String) : RpcRequest where
  method := "Handshake"
  params :=
    [("runtime_instance_id", .str record.runtimeInstanceId), ("module_id", .str record.moduleId),
      ("version", .str record.version), ("artifact_sha256", .str record.artifactSha256),
      ("protocol_version", .num (.int settings.protocolVersion)), ("startup_token", .str token)]

theorem intParam_int {params : Dict} {key : String} {n : ℤ} (h : findItem params key = some (.num (.int n))) :
    Gateway.intParam text params key = .ok n := by
  unfold Gateway.intParam getItemOr Json.orElse
  rw [h]
  dsimp only [Option.getD]
  split_ifs with htruthy
  · exact text.int_int n
  · have hzero : n = 0 := by
      unfold Json.truthy PyInt.value at htruthy
      simpa using htruthy
    rw [hzero]
    exact text.int_int 0

/-- A runtime that shows what it is registered with is accepted with every token that was issued to it within the last
minute. -/
theorem acceptedToken_handshake {g : Gateway} {now : Instant} {ctx : ActiveRuntimeContext} {token : String}
    {issuedAt : Instant} (hactive : g.active ctx.record.runtimeInstanceId = some ctx)
    (hissued : g.sessions.startupTokens token = some (ctx.record.runtimeInstanceId, issuedAt))
    (hage : now - issuedAt ≤ RuntimeSessionStore.startupTokenSeconds) :
    g.acceptedToken settings text (handshake settings ctx.record token) now =
      some (ctx.record.runtimeInstanceId, token) := by
  have hstr : ∀ key value, findItem (handshake settings ctx.record token).params key = some (.str value) →
      Gateway.strParam text (handshake settings ctx.record token).params key = value := by
    intro key value hvalue
    unfold Gateway.strParam getItemOr
    rw [hvalue]
    exact text.str_str value
  have hid := hstr "runtime_instance_id" ctx.record.runtimeInstanceId rfl
  rw [Gateway.acceptedToken_eq_some]
  refine ⟨⟨ctx, rfl, ⟨0, text.int_int 0⟩, settings.protocolVersion, intParam_int rfl, ?_⟩, rfl, hid,
    RuntimeSessionStore.consumeStartupToken_eq_true.mpr ⟨issuedAt, hissued, hage⟩⟩
  unfold Gateway.checkIdentity
  rw [hid, hactive, hstr "module_id" ctx.record.moduleId rfl, hstr "version" ctx.record.version rfl,
    hstr "artifact_sha256" ctx.record.artifactSha256 rfl]
  dsimp only
  rw [if_neg (not_not.mpr rfl), if_neg (by simp), if_neg (not_not.mpr rfl)]

/-- A registration beside a young token of the same runtime leaves that token accepted. -/
theorem registersAlone_of_onlyCurrentAccepted (event : GatewayEvent)
    (h : OnlyCurrentAccepted settings text (s.step settings text event)) : RegistersAlone s event := by
  cases event with
  | unregister | request | pass => exact trivial
  | register record permissions capabilities siteConfig used =>
    intro old issuedAt hold hissued
    by_contra hage
    rw [not_lt] at hage
    have hcurrent : Function.update s.current record.runtimeInstanceId (some used) record.runtimeInstanceId =
        some old := by
      refine h (handshake settings record old) record.runtimeInstanceId old (@acceptedToken_handshake settings text _ _
          { record := record, permissions := permissions, capabilities := capabilities, siteConfig := siteConfig,
            lastHeartbeat := s.now } old issuedAt (Function.update_self _ _ _) ?_ hage)
      show Function.update s.gateway.sessions.startupTokens used _ old = _
      rw [Function.update_of_ne hold, hissued]
    rw [Function.update_self, Option.some.injEq] at hcurrent
    exact hold hcurrent.symm

end

/-- **Startup tokens, per registration.** In every run a token is accepted at most once for each time it was issued;
and only the tokens of present registrations are accepted throughout exactly if no runtime is registered while
another token of it, unused, is at most a minute old. -/
theorem tokensPerRegistration_run_iff (settings : IsolationSettings) (text : RpcText) (sign : String → String → String)
    (now : Instant) (events : List GatewayEvent) : (∀ before after, events = before ++ after →
      AcceptedAtMostIssued (run (step settings text) (start sign now) before) ∧
        OnlyCurrentAccepted settings text (run (step settings text) (start sign now) before)) ↔
      AllSteps (step settings text) RegistersAlone (start sign now) events := by
  constructor
  · intro h
    rw [AllSteps.iff_forall_prefix]
    intro before event after hevents
    refine @registersAlone_of_onlyCurrentAccepted settings text _ event ?_
    have hcurrent := (h (before ++ [event]) after (by rw [hevents]; simp)).2
    rw [run_append] at hcurrent
    exact hcurrent
  · intro h before after hevents
    rw [hevents, AllSteps.append] at h
    refine ⟨acceptedAtMostIssued_run sign now before, YoungAreCurrent.onlyCurrentAccepted ?_⟩
    refine AllSteps.preserves (fun _ event hyoung halone => youngAreCurrent_step event hyoung halone) ?_ h.1
    intro token id issuedAt hissued
    cases hissued

/-! ### A token that outlives its registration -/

namespace Demo

def record : IsolatedRuntimeRecord where
  runtimeInstanceId := "rt-1"
  moduleId := "heat"
  version := "1.0.0"
  artifactSha256 := "a1"
  siteId := 7
  state := .preparing

/-- A runtime is registered, is unregistered before it has shaken hands, and is registered again. -/
def restarted : List GatewayEvent :=
  [.register record [] [] [] "first", .unregister "rt-1", .register record [] [] [] "second"]

def reached : TokenHistory := run (step {} RpcText.plain) (start (fun id raw => id ++ ":" ++ raw) 0) restarted

/-- What the gateway knows of the runtime in the end. -/
def context : ActiveRuntimeContext where
  record := record
  permissions := []
  capabilities := []
  siteConfig := []
  lastHeartbeat := 0

theorem active_reached : reached.gateway.active context.record.runtimeInstanceId = some context := by
  have hlast : reached.gateway.active = Function.update
    (run (step {} RpcText.plain) (start (fun id raw => id ++ ":" ++ raw) 0)
      [.register record [] [] [] "first", .unregister "rt-1"]).gateway.active
    context.record.runtimeInstanceId (some context) := rfl
  rw [hlast, Function.update_self]

theorem startupTokens_reached : reached.gateway.sessions.startupTokens "first" =
    some (context.record.runtimeInstanceId, 0) := by
  decide +kernel

end Demo

/-- The second registration leaves the unused token of the first accepted. -/
theorem earlier_token_accepted : ¬ ∀ before after, Demo.restarted = before ++ after →
      AcceptedAtMostIssued (run (step {} RpcText.plain) (start (fun id raw => id ++ ":" ++ raw) 0) before) ∧
        OnlyCurrentAccepted {} RpcText.plain
          (run (step {} RpcText.plain) (start (fun id raw => id ++ ":" ++ raw) 0) before) := by
  intro h
  have honly := (h Demo.restarted [] (List.append_nil _).symm).2
  have haccepted : Demo.reached.gateway.acceptedToken {} RpcText.plain (handshake {} Demo.context.record "first")
      Demo.reached.now = some (Demo.context.record.runtimeInstanceId, "first") :=
    acceptedToken_handshake Demo.active_reached Demo.startupTokens_reached (by decide +kernel)
  have hcurrent : Demo.reached.current "rt-1" = some "first" := honly _ _ _ haccepted
  have hsecond : Demo.reached.current "rt-1" = some "second" := by decide +kernel
  rw [hsecond] at hcurrent
  exact absurd hcurrent (by decide)

/-! ### Sessions come from handshakes -/

section

variable {settings : IsolationSettings} {text : RpcText}

/-- A live session was opened by an accepted handshake of its runtime, which has not been unregistered since. -/
def Opened (settings : IsolationSettings) (text : RpcText) (s : TokenHistory) (events : List GatewayEvent)
    (id : String) : Prop :=
  ∃ before request around after token, events = before ++ .request request around :: after ∧
    (run (step settings text) s before).gateway.acceptedToken settings text request
      (run (step settings text) s before).now = some (id, token) ∧ GatewayEvent.unregister id ∉ after

theorem Opened.concat {events : List GatewayEvent} {event : GatewayEvent} {id : String}
    (h : Opened settings text s events id) (hevent : event ≠ .unregister id) :
    Opened settings text s (events ++ [event]) id := by
  obtain ⟨before, request, around, after, token, rfl, haccepted, hafter⟩ := h
  refine ⟨before, request, around, after ++ [event], token, by simp, haccepted, fun hmem => ?_⟩
  rcases List.mem_append.mp hmem with hmem | hmem
  · exact hafter hmem
  · exact hevent (List.mem_singleton.mp hmem).symm

/-- **Sessions come from handshakes**, in every run. -/
theorem opened_run (sign : String → String → String) (now : Instant) (events : List GatewayEvent)
    {sessionToken : String} {session : RuntimeSession}
    (h : (run (step settings text) (start sign now) events).gateway.sessions.sessions sessionToken = some session)
    (hlive : session.revoked = false) : Opened settings text (start sign now) events session.runtimeInstanceId := by
  induction events using List.reverseRecOn with
  | nil => cases h
  | append_singleton events event ih =>
    rw [run_append, run_cons, run_nil] at h
    generalize hs : run (step settings text) (start sign now) events = s at h ih
    cases event with
    | register record permissions capabilities siteConfig token => exact (ih h).concat (by simp)
    | pass seconds nonneg => exact (ih h).concat (by simp)
    | unregister id =>
      obtain ⟨stored, hstored, hafter⟩ := Option.map_eq_some_iff.mp (show (s.gateway.sessions.sessions sessionToken).map
        (fun stored => if stored.runtimeInstanceId = id then { stored with revoked := true } else stored) = _ from h)
      split_ifs at hafter with hid
      · rw [← hafter] at hlive
        cases hlive
      · rw [hafter] at hstored hid
        refine (ih hstored).concat fun heq => hid ?_
        rw [GatewayEvent.unregister.injEq] at heq
        exact heq.symm
    | request request around =>
      rcases Gateway.session_dispatch h hlive with hbefore | ⟨token, haccepted⟩
      · exact (ih hbefore).concat (by simp)
      · refine ⟨events, request, around, [], token, rfl, ?_, List.not_mem_nil⟩
        rw [hs]
        exact haccepted

end

namespace Demo

/-- A runtime is registered and shakes hands. -/
def opening : List GatewayEvent :=
  [.register record [] [] [] "first", .request (handshake {} record "first") { now := 0, raw := "raw" }]

end Demo

theorem opened_run_opening : Opened {} RpcText.plain (start (fun id raw => id ++ ":" ++ raw) 0) Demo.opening "rt-1" := by
  have hsome : ((run (step {} RpcText.plain) (start (fun id raw => id ++ ":" ++ raw) 0)
      Demo.opening).gateway.sessions.sessions "rt-1:raw").any (fun session =>
        !session.revoked && session.runtimeInstanceId == "rt-1") = true := by
    decide +kernel
  obtain ⟨session, hsession, hlive⟩ := (Option.any_eq_true _ _).mp hsome
  obtain ⟨hlive, hid⟩ := (Bool.and_eq_true _ _).mp hlive
  rw [← eq_of_beq hid]
  exact opened_run _ 0 Demo.opening hsession ((Bool.not_eq_true' _).mp hlive)

end TokenHistory

end EnergyCore.Isolation
