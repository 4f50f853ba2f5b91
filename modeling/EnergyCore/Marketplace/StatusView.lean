import EnergyCore.Marketplace.TrustRuns

/-!
# The status view

What the marketplace reports of its trust cache. The two states are those that the last writer of the row stored;
the two ages beside them are counted up to the instant of the view.

* `buildStatusView_ok_iff` — what the view reports of a row that is valid, of one that is not, and of a marketplace
  that is switched off.
-/

namespace EnergyCore.Marketplace

open JsonValues
open MarketplaceTrustCache

/-! ### The words of the states -/

def MetadataHealth.value : MetadataHealth → String
  | .uninitialized => "uninitialized"
  | .healthy => "healthy"
  | .stale => "stale"
  | .expired => "expired"
  | .offline => "offline"
  | .invalid => "invalid"
  | .unavailable => "unavailable"
  | .disabled => "disabled"

def RevocationFreshness.value : RevocationFreshness → String
  | .fresh => "fresh"
  | .stale => "stale"
  | .expired => "expired"
  | .unavailable => "unavailable"

/-! ### The view -/

structure MarketplaceStatusView where
  enabled : Bool
  metadataHealth : MetadataHealth
  revocationFreshness : RevocationFreshness
  lastSync : Option Instant
  lastSuccess : Option Instant
  lastError : Option String
  syncFailed : Bool
  offline : Bool
  rootVersion : Option ℤ
  timestampVersion : Option ℤ
  snapshotVersion : Option ℤ
  targetsVersion : Option ℤ
  catalogAgeSeconds : Option ℚ
  revocationAgeSeconds : Option ℚ
  cacheGeneration : ℤ
  catalogStatus : String
  revocationStatus : String
  revocationGeneration : Option ℤ := none

namespace MarketplaceTrustCache

variable (text : PyText) (row : MarketplaceTrustCache)

/-- A view with a health that is no state of the cache; its ages are left out. -/
def markedView (enabled : Bool) (health : MetadataHealth) (lastError : Option String) (syncFailed : Bool) :
    MarketplaceStatusView where
  enabled := enabled
  metadataHealth := health
  revocationFreshness := .unavailable
  lastSync := row.lastAttemptAt
  lastSuccess := row.lastSuccessAt
  lastError := lastError
  syncFailed := syncFailed
  offline := false
  rootVersion := row.rootVersion
  timestampVersion := row.timestampVersion
  snapshotVersion := row.snapshotVersion
  targetsVersion := row.targetsVersion
  catalogAgeSeconds := none
  revocationAgeSeconds := none
  cacheGeneration := row.cacheGeneration
  catalogStatus := health.value
  revocationStatus := RevocationFreshness.unavailable.value
  revocationGeneration := row.revocationGeneration

/-- The view of a row that is valid: the stored states, with the ages at the instant of the view. -/
def storedView (enabled : Bool) (now : Instant) : MarketplaceStatusView where
  enabled := enabled
  metadataHealth := row.cacheState
  revocationFreshness := row.revocationState
  lastSync := row.lastAttemptAt
  lastSuccess := row.lastSuccessAt
  lastError := row.lastError
  syncFailed := row.syncFailed
  offline := decide (row.cacheState = .offline)
  rootVersion := row.rootVersion
  timestampVersion := row.timestampVersion
  snapshotVersion := row.snapshotVersion
  targetsVersion := row.targetsVersion
  catalogAgeSeconds := (row.catalogUpdatedAt.or row.lastSuccessAt).map fun updated => now - updated
  revocationAgeSeconds := (row.revocationUpdatedAt.or row.lastSuccessAt).map fun updated => now - updated
  cacheGeneration := row.cacheGeneration
  catalogStatus := row.cacheState.value
  revocationStatus := row.revocationState.value
  revocationGeneration := row.revocationGeneration

def buildStatusView (enabled : Bool) (now : Instant) : Except Raised MarketplaceStatusView :=
  if enabled = false then .ok (row.markedView false .disabled row.lastError row.syncFailed)
  else
    match row.validateCacheRow text with
    | .error (.cacheValidation message) => .ok (row.markedView true .invalid (some message) true)
    | .error exception => .error exception
    | .ok () => .ok (row.storedView enabled now)

/-- **What the view reports.** A view is returned unless the row raises something else than a validation error. -/
theorem buildStatusView_ok_iff (enabled : Bool) (now : Instant) (view : MarketplaceStatusView) :
    row.buildStatusView text enabled now = .ok view ↔
      (enabled = false ∧ view = row.markedView false .disabled row.lastError row.syncFailed) ∨
      (enabled = true ∧ ∃ message, row.validateCacheRow text = .error (.cacheValidation message) ∧
        view = row.markedView true .invalid (some message) true) ∨
      (enabled = true ∧ row.validateCacheRow text = .ok () ∧ view = row.storedView true now) := by
  unfold buildStatusView
  cases enabled with
  | false => simp [eq_comm]
  | true =>
    rw [if_neg (by decide)]
    cases hvalid : row.validateCacheRow text with
    | ok u => simp [eq_comm]
    | error exception =>
      cases exception with
      | cacheValidation message => simp [eq_comm]
      | revocationPolicy error => simp
      | jsonDecodeError => simp
      | attributeError => simp
      | typeError => simp

end MarketplaceTrustCache

end EnergyCore.Marketplace
