import EnergyCore.Foundations.Clock
import Mathlib.Logic.Function.Basic

/-!
# The Mercedes token store

`MercedesTokenStore` between its awaits: a task that holds the lock reloads, refreshes and persists; `store_login`
sets its bundle without the lock. The provider numbers the pairs of tokens it issues by the step of the run, and
accepts a refresh token once.

* `TokenStore` — the bundle in memory, the persisted row, the task in the lock and the logins that await their
  write;
* `TokenEvent` — what may happen next;
* `step` — one turn of the event loop.
-/

namespace EnergyCore.Vehicles

/-! ### Bundles -/

/-- `MercedesTokenBundle`, with the numbers of its tokens. -/
structure MercedesTokenBundle where
  accessToken : ℕ
  refreshToken : ℕ
  expiresAt : ℤ
  deviceGuid : String
  sessionId : String
  deriving Repr, DecidableEq

namespace MercedesTokenBundle

/-- `from_dict`: the pair that was issued under one number. -/
def fromDict (number : ℕ) (expiresAt : ℤ) (deviceGuid sessionId newSessionId : String) : MercedesTokenBundle where
  accessToken := number
  refreshToken := number
  expiresAt := expiresAt
  deviceGuid := deviceGuid
  sessionId := if sessionId = "" then newSessionId else sessionId

/-- `_ensure_session_id`. -/
def ensureSessionId (bundle : MercedesTokenBundle) (newSessionId : String) : MercedesTokenBundle :=
  if bundle.sessionId.toList.all Char.isWhitespace then { bundle with sessionId := newSessionId } else bundle

@[simp] theorem refreshToken_fromDict (number : ℕ) (expiresAt : ℤ) (deviceGuid sessionId newSessionId : String) :
    (fromDict number expiresAt deviceGuid sessionId newSessionId).refreshToken = number := rfl

@[simp] theorem refreshToken_ensureSessionId (bundle : MercedesTokenBundle) (newSessionId : String) :
    (bundle.ensureSessionId newSessionId).refreshToken = bundle.refreshToken := by
  unfold ensureSessionId
  split_ifs <;> rfl

/-- `is_token_expired`, at the second `now`. -/
def isExpired (bundle : MercedesTokenBundle) (now : ℤ) : Bool := decide (bundle.expiresAt - now < 60)

end MercedesTokenBundle

/-- `_maybe_reload`: the bundle in memory after the reload has returned. -/
def maybeReload (token reloaded : Option MercedesTokenBundle) (newSessionId : String) : Option MercedesTokenBundle :=
  match reloaded with
  | none => token
  | some reloaded =>
    match token with
    | none => some (reloaded.ensureSessionId newSessionId)
    | some current =>
      if reloaded.expiresAt ≥ current.expiresAt then some (reloaded.ensureSessionId newSessionId)
      else some current

/-! ### The store -/

/-- What a pair was issued for. -/
inductive Issue where
  | login
  | refresh (startedAt : ℕ)
  deriving Repr, DecidableEq

/-- The await at which the task in the lock is suspended. -/
inductive LockedAwait where
  | reload (force : Bool)
  | refresh (refreshToken startedAt : ℕ)
  | persist (bundle : MercedesTokenBundle)
  deriving Repr, DecidableEq

/-- The store with its row, its tasks and the provider. -/
structure TokenStore where
  /-- The device of the login flow. -/
  deviceGuid : String
  token : Option MercedesTokenBundle := none
  lastRefreshAt : Option Instant := none
  persisted : Option MercedesTokenBundle := none
  /-- The task in the lock. -/
  locked : Option LockedAwait := none
  /-- The bundles of the `store_login` calls that await `_persist`. -/
  storing : List MercedesTokenBundle := []
  /-- The refresh tokens that the provider has accepted. -/
  accepted : List ℕ := []
  /-- What each pair was issued for. -/
  issuedFor : ℕ → Issue := fun _ => .login
  /-- The number of the next step. -/
  clock : ℕ := 0

/-- One turn of the event loop. -/
inductive TokenEvent where
  /-- `get_valid_access_token`, or `force_refresh`, takes the lock. -/
  | acquire (force : Bool)
  | reloaded (now : ℤ) (newSessionId : String)
  | reloadFails
  | refreshed (expiresAt : ℤ) (now : Instant) (newSessionId : String)
  | refreshFails
  | persisted
  | persistFails
  | login (expiresAt : ℤ) (newSessionId : String)
  | loginPersisted (i : ℕ)
  | loginPersistFails (i : ℕ)
  deriving Repr, DecidableEq

namespace TokenStore

/-- The task in the lock goes on after the reload: it raises, returns the access token or submits the refresh
token. -/
def goOn (s : TokenStore) (force : Bool) (now : ℤ) : TokenStore :=
  match s.token with
  | none => { s with locked := none }
  | some bundle =>
    if ¬ force ∧ ¬ bundle.isExpired now then { s with locked := none }
    else { s with locked := some (.refresh bundle.refreshToken s.clock) }

/-- `_refresh_locked` after the provider's answer: a refresh token that was accepted before is refused. -/
def answer (s : TokenStore) (refreshToken startedAt : ℕ) (expiresAt : ℤ) (now : Instant) (newSessionId : String) :
    TokenStore :=
  match s.token with
  | none => { s with locked := none }
  | some current =>
    if refreshToken ∈ s.accepted then { s with locked := none }
    else
      let bundle := MercedesTokenBundle.fromDict s.clock expiresAt current.deviceGuid current.sessionId newSessionId
      { s with
        token := some bundle
        lastRefreshAt := some now
        locked := some (.persist bundle)
        accepted := refreshToken :: s.accepted
        issuedFor := Function.update s.issuedFor s.clock (.refresh startedAt) }

/-- `store_login` up to its await. -/
def storeLogin (s : TokenStore) (expiresAt : ℤ) (newSessionId : String) : TokenStore :=
  let bundle :=
    (MercedesTokenBundle.fromDict s.clock expiresAt s.deviceGuid "" newSessionId).ensureSessionId newSessionId
  { s with
    token := some bundle
    storing := s.storing ++ [bundle]
    issuedFor := Function.update s.issuedFor s.clock .login }

/-- What an event does; an event that does not apply does nothing. -/
def act (s : TokenStore) : TokenEvent → TokenStore
  | .acquire force =>
    match s.locked with
    | none => { s with locked := some (.reload force) }
    | some _ => s
  | .reloaded now newSessionId =>
    match s.locked with
    | some (.reload force) =>
      goOn { s with token := maybeReload s.token s.persisted newSessionId } force now
    | _ => s
  | .reloadFails =>
    match s.locked with
    | some (.reload _) => { s with locked := none }
    | _ => s
  | .refreshed expiresAt now newSessionId =>
    match s.locked with
    | some (.refresh refreshToken startedAt) => s.answer refreshToken startedAt expiresAt now newSessionId
    | _ => s
  | .refreshFails =>
    match s.locked with
    | some (.refresh _ _) => { s with locked := none }
    | _ => s
  | .persisted =>
    match s.locked with
    | some (.persist bundle) => { s with persisted := some bundle, locked := none }
    | _ => s
  | .persistFails =>
    match s.locked with
    | some (.persist _) => { s with locked := none }
    | _ => s
  | .login expiresAt newSessionId => s.storeLogin expiresAt newSessionId
  | .loginPersisted i =>
    match s.storing[i]? with
    | some bundle => { s with persisted := some bundle, storing := s.storing.eraseIdx i }
    | none => s
  | .loginPersistFails i => { s with storing := s.storing.eraseIdx i }

def step (s : TokenStore) (e : TokenEvent) : TokenStore := { s.act e with clock := s.clock + 1 }

end TokenStore

end EnergyCore.Vehicles
