import EnergyCore.Isolation.RuntimeTypes

/-!
# Sessions of isolated runtimes

The store of startup tokens and of sessions. Tokens and the random part of session tokens come from outside; the
keyed digest of session tokens is a parameter.

* `consumeStartupToken_eq_true` — which startup tokens are accepted;
* `validateSession_of_accepts`, `validateSession_of_not_accepts` — what becomes of a session that is presented.
-/

namespace EnergyCore.Isolation

structure RuntimeSession where
  runtimeInstanceId : String
  moduleId : String
  siteId : ℤ
  sessionToken : String
  createdAt : Instant
  expiresAt : Option Instant
  revoked : Bool := false
  deriving Repr, DecidableEq

/-- Whether a session has run out. -/
def RuntimeSession.expired (session : RuntimeSession) (now : Instant) : Bool :=
  session.expiresAt.any fun expiresAt => decide (now > expiresAt)

/-- The tables of `RuntimeSessionStore`. -/
structure RuntimeSessionStore where
  sessions : String → Option RuntimeSession := fun _ => none
  startupTokens : String → Option (String × Instant) := fun _ => none
  sessionTtl : ℚ := 3600
  sign : String → String → String

namespace RuntimeSessionStore

/-! ### Startup tokens -/

def issueStartupToken (store : RuntimeSessionStore) (runtimeInstanceId token : String) (now : Instant) :
    RuntimeSessionStore :=
  { store with startupTokens := Function.update store.startupTokens token (some (runtimeInstanceId, now)) }

/-- How long a startup token is accepted. -/
def startupTokenSeconds : ℚ := 60

def consumeStartupToken (store : RuntimeSessionStore) (token expectedInstanceId : String) (now : Instant) :
    Bool × RuntimeSessionStore :=
  let popped := { store with startupTokens := Function.update store.startupTokens token none }
  match store.startupTokens token with
  | none => (false, popped)
  | some (instanceId, issuedAt) =>
    if instanceId ≠ expectedInstanceId then (false, popped)
    else if now - issuedAt > startupTokenSeconds then (false, popped)
    else (true, popped)

/-! ### Sessions -/

def createSession (store : RuntimeSessionStore) (runtimeInstanceId moduleId : String) (siteId : ℤ) (raw : String)
    (now : Instant) : RuntimeSession × RuntimeSessionStore :=
  let token := store.sign runtimeInstanceId raw
  let session : RuntimeSession :=
    { runtimeInstanceId := runtimeInstanceId, moduleId := moduleId, siteId := siteId, sessionToken := token,
      createdAt := now, expiresAt := some (now + store.sessionTtl) }
  (session, { store with sessions := Function.update store.sessions token (some session) })

/-- `session.revoked = True`. -/
def markRevoked (store : RuntimeSessionStore) (token : String) (session : RuntimeSession) : RuntimeSessionStore :=
  { store with sessions := Function.update store.sessions token (some { session with revoked := true }) }

def validateSession (store : RuntimeSessionStore) (token runtimeInstanceId moduleId : String) (siteId : ℤ)
    (now : Instant) : Option RuntimeSession × RuntimeSessionStore :=
  match store.sessions token with
  | none => (none, store)
  | some session =>
    if session.revoked then (none, store)
    else if session.runtimeInstanceId ≠ runtimeInstanceId then (none, store)
    else if session.moduleId ≠ moduleId then (none, store)
    else if session.siteId ≠ siteId then (none, store)
    else if session.expired now then (none, store.markRevoked token session)
    else (some session, store)

def revokeRuntime (store : RuntimeSessionStore) (runtimeInstanceId : String) : RuntimeSessionStore :=
  { store with sessions := fun token => (store.sessions token).map fun session =>
      if session.runtimeInstanceId = runtimeInstanceId then { session with revoked := true } else session }

/-! ### What the operations do -/

section

variable {store : RuntimeSessionStore} {token : String} {now : Instant}

@[simp] theorem sessions_consumeStartupToken (id : String) :
    (store.consumeStartupToken token id now).2.sessions = store.sessions := by
  unfold consumeStartupToken
  cases store.startupTokens token with
  | none => rfl
  | some entry =>
    dsimp only
    split_ifs <;> rfl

@[simp] theorem startupTokens_consumeStartupToken (id : String) :
    (store.consumeStartupToken token id now).2.startupTokens = Function.update store.startupTokens token none := by
  unfold consumeStartupToken
  cases store.startupTokens token with
  | none => rfl
  | some entry =>
    dsimp only
    split_ifs <;> rfl

/-- A startup token is accepted for the runtime that it was issued to, within a minute. -/
theorem consumeStartupToken_eq_true {id : String} : (store.consumeStartupToken token id now).1 = true ↔
      ∃ issuedAt, store.startupTokens token = some (id, issuedAt) ∧ now - issuedAt ≤ startupTokenSeconds := by
  unfold consumeStartupToken
  cases store.startupTokens token with
  | none => simp
  | some entry =>
    obtain ⟨instanceId, issuedAt⟩ := entry
    dsimp only
    split_ifs with hid hage
    · refine iff_of_false not_false ?_
      rintro ⟨_, hentry, -⟩
      cases hentry
      exact hid rfl
    · refine iff_of_false not_false ?_
      rintro ⟨_, hentry, hle⟩
      cases hentry
      exact absurd hle (not_le.mpr hage)
    · rw [not_not] at hid
      exact iff_of_true rfl ⟨issuedAt, by rw [hid], not_lt.mp hage⟩

/-- What a session must be to be accepted. -/
structure Accepts (session : RuntimeSession) (id moduleId : String) (siteId : ℤ) : Prop where
  unrevoked : session.revoked = false
  runtimeInstanceId : session.runtimeInstanceId = id
  moduleId : session.moduleId = moduleId
  siteId : session.siteId = siteId

theorem validateSession_of_accepts {session : RuntimeSession} {id moduleId : String} {siteId : ℤ}
    (hsession : store.sessions token = some session) (h : Accepts session id moduleId siteId) :
    store.validateSession token id moduleId siteId now =
      if session.expired now then (none, store.markRevoked token session) else (some session, store) := by
  unfold validateSession
  rw [hsession]
  dsimp only
  rw [if_neg (by simp [h.unrevoked]), if_neg (not_not.mpr h.runtimeInstanceId), if_neg (not_not.mpr h.moduleId),
    if_neg (not_not.mpr h.siteId)]

/-- A session that does not fit is rejected, and nothing changes. -/
theorem validateSession_of_not_accepts {id moduleId : String} {siteId : ℤ}
    (h : ∀ session, store.sessions token = some session → ¬ Accepts session id moduleId siteId) :
    store.validateSession token id moduleId siteId now = (none, store) := by
  unfold validateSession
  cases hsession : store.sessions token with
  | none => rfl
  | some session =>
    dsimp only
    split_ifs with hrevoked hid hmodule hsite
    · rfl
    · rfl
    · rfl
    · rfl
    all_goals
      rw [not_not] at hid hmodule hsite
      exact absurd ⟨Bool.eq_false_iff.mpr hrevoked, hid, hmodule, hsite⟩ (h session hsession)

end

end RuntimeSessionStore

end EnergyCore.Isolation
