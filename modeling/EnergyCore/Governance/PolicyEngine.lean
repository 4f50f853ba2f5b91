import Mathlib.Data.Int.Notation
import Mathlib.Data.List.Basic
import Mathlib.Tactic.Common

/-!
# The install policy engine

The decision on an action with a module: a cascade of checks, the first of which that applies decides.

* `evaluate_of_staleReview` — stale revocation metadata sends installs and updates to a review, before anything that
  comes later in the cascade is looked at;
* `evaluate_deny_of_denyGround` — where that does not happen, every ground to deny decides;
* `deny_dominates_iff` — when the grounds to deny decide.
-/

namespace EnergyCore.Governance

/-! ### Types -/

inductive PublisherTier where
  | official
  | verified
  | orgApproved
  | community
  | revoked
  deriving Repr, DecidableEq

def PublisherTier.value : PublisherTier → String
  | .official => "OFFICIAL"
  | .verified => "VERIFIED"
  | .orgApproved => "ORG_APPROVED"
  | .community => "COMMUNITY"
  | .revoked => "REVOKED"

inductive PublisherStatus where
  | pendingVerification
  | active
  | suspended
  | revoked
  deriving Repr, DecidableEq

def PublisherStatus.value : PublisherStatus → String
  | .pendingVerification => "PENDING_VERIFICATION"
  | .active => "ACTIVE"
  | .suspended => "SUSPENDED"
  | .revoked => "REVOKED"

inductive PolicyDecision where
  | allow
  | deny
  | requireAdminApproval
  | requireSecurityReview
  deriving Repr, DecidableEq

inductive PolicyAction where
  | install
  | update
  | enable
  | run
  deriving Repr, DecidableEq

inductive ControlModulePolicy where
  | officialOnly
  | verifiedOk
  deriving Repr, DecidableEq

def ControlModulePolicy.value : ControlModulePolicy → String
  | .officialOnly => "OFFICIAL_ONLY"
  | .verifiedOk => "VERIFIED_OK"

/-- The reasons that the engine gives. -/
inductive PolicyReasonCode where
  | publisherRevoked
  | publisherSuspended
  | publisherNotFound
  | tierNotAllowed
  | publisherDenied
  | moduleDenied
  | permissionBlocked
  | controlModuleIsolationRequired
  | communityNotAllowed
  | revocationActive
  | revocationStale
  | revocationStateUntrusted
  | securityReviewRequired
  | ownershipMismatch
  | defaultDeny
  | allowlistMatch
  | tierAllowed
  | breakGlassActive
  deriving Repr, DecidableEq

/-- The fields of a policy that the engine reads. -/
structure InstallationPolicySnapshot where
  policyVersion : ℤ
  allowedTiers : List String
  publisherAllowlist : List String
  publisherDenylist : List String
  moduleAllowlist : List String
  moduleDenylist : List String
  blockedPermissions : List String
  controlModulePolicy : String
  breakGlassEnabled : Bool
  deriving Repr, DecidableEq

structure PublisherSnapshot where
  publisherId : String
  tier : String
  status : String
  deriving Repr, DecidableEq

structure RevocationMatch where
  publisherId : Option String
  moduleId : Option String
  deriving Repr, DecidableEq

structure RevocationContext where
  freshness : String
  metadataHealth : String
  revocations : List RevocationMatch
  deriving Repr, DecidableEq

structure PolicyEvaluationInput where
  action : PolicyAction
  moduleId : String
  publisherId : String
  permissions : List String := []
  providedCapabilities : List String := []
  appEnvProduction : Bool := true
  breakGlassActive : Bool := false
  canonicalOwnerPublisherId : Option String := none
  marketplaceMetadataEnabled : Bool := false
  deriving Repr, DecidableEq

structure PolicyEvaluationResult where
  decision : PolicyDecision
  reasonCodes : List PolicyReasonCode
  publisherTier : Option String
  publisherStatus : Option String
  moduleId : String
  requestedPermissions : List String
  controlCapable : Bool
  policyVersion : ℤ
  explanation : String
  deriving Repr, DecidableEq

/-! ### Risks -/

def highRiskPermissions : List String := ["device.control", "energy.control", "network.local"]

def controlCapabilityPrefixes : List String :=
  ["device.control", "energy.control", "charger.command", "ev_charger.start", "ev_charger.stop",
    "ev_charger.set_current", "vehicle.command", "spa.control", "spa.set_temperature"]

/-- `is_control_capable`; `lower` makes texts lower-case. -/
def isControlCapable (lower : String → String) (permissions providedCapabilities : List String) : Bool :=
  permissions.any (fun perm => decide (perm ∈ highRiskPermissions)) ||
    providedCapabilities.any fun cap =>
      (controlCapabilityPrefixes.any fun start => start.toList.isPrefixOf (lower cap).toList) ||
        decide (lower cap = "device.control" ∨ lower cap = "energy.control")

/-! ### Results -/

section

variable (publisher : PublisherSnapshot) (request : PolicyEvaluationInput)
  (policy : InstallationPolicySnapshot) (controlCapable : Bool)

/-- `_result`. -/
def resultOf (decision : PolicyDecision) (reasons : List PolicyReasonCode)
    (publisher : Option PublisherSnapshot) (request : PolicyEvaluationInput)
    (policy : InstallationPolicySnapshot) (controlCapable : Bool) (explanation : String) : PolicyEvaluationResult where
  decision := decision
  reasonCodes := reasons
  publisherTier := publisher.map PublisherSnapshot.tier
  publisherStatus := publisher.map PublisherSnapshot.status
  moduleId := request.moduleId
  requestedPermissions := request.permissions
  controlCapable := controlCapable
  policyVersion := policy.policyVersion
  explanation := explanation

/-- `_deny`. -/
def denied (code : PolicyReasonCode) (explanation : String) : PolicyEvaluationResult :=
  resultOf .deny [code] (some publisher) request policy controlCapable explanation

/-- `_allow`. -/
def allowed (reasons : List PolicyReasonCode) (explanation : String) : PolicyEvaluationResult :=
  resultOf .allow reasons (some publisher) request policy controlCapable explanation

@[simp] theorem denied_decision (code : PolicyReasonCode) (explanation : String) :
    (denied publisher request policy controlCapable code explanation).decision = .deny := rfl

@[simp] theorem allowed_decision (reasons : List PolicyReasonCode) (explanation : String) :
    (allowed publisher request policy controlCapable reasons explanation).decision = .allow := rfl

/-! ### The engine -/

/-- `_PACKAGE_GOVERNANCE_ACTIONS`. -/
def packageGovernanceActions : List PolicyAction := [.install, .update, .enable, .run]

def controlIsolationGateOpen : Bool := false

/-- `_revocation_trust_decision`. -/
def revocationTrustDecision (revocation : RevocationContext) : Option PolicyEvaluationResult :=
  if request.action ∉ packageGovernanceActions then none
  else if revocation.metadataHealth = "invalid" ∨ revocation.metadataHealth = "unavailable" then
    some (denied publisher request policy controlCapable .revocationStateUntrusted
      "Revocation metadata is invalid or unavailable.")
  else if revocation.freshness = "expired" then
    some (denied publisher request policy controlCapable .revocationStateUntrusted
      "Revocation metadata freshness is expired.")
  else if revocation.freshness = "stale" then
    if (request.action = .enable ∨ request.action = .run) ∧ controlCapable then
      some (denied publisher request policy true .revocationStale
        "Stale revocation metadata — control actions denied.")
    else if request.action = .install ∨ request.action = .update then
      some (resultOf .requireSecurityReview [.revocationStale, .securityReviewRequired] (some publisher)
        request policy controlCapable
        "Stale revocation metadata — security review required before install/update.")
    else none
  else none

/-- `_active_revocation`. -/
def activeRevocation (context : RevocationContext) : Option RevocationMatch :=
  context.revocations.find? fun item =>
    decide ((item.publisherId.getD "" ≠ "" ∧ item.publisherId = some request.publisherId) ∨
      (item.moduleId.getD "" ≠ "" ∧ item.moduleId = some request.moduleId))

/-- The checks on the revocations, where the metadata is in use. -/
def revocationDecision (revocation : Option RevocationContext) : Option PolicyEvaluationResult :=
  match revocation with
  | none => none
  | some revocation =>
    if request.marketplaceMetadataEnabled then
      match revocationTrustDecision publisher request policy controlCapable revocation with
      | some untrusted => some untrusted
      | none =>
        match activeRevocation request revocation with
        | some _ => some (denied publisher request policy controlCapable .revocationActive
            "Active revocation applies.")
        | none => none
    else none

/-- Whether a session overrides restrictions of the organization. -/
def breakGlass : Bool := request.breakGlassActive && policy.breakGlassEnabled

/-- The checks that come after the revocations. -/
def organizationDecision : PolicyEvaluationResult :=
  let tier := publisher.tier
  let status := publisher.status
  let deny := denied publisher request policy controlCapable
  let allow := allowed publisher request policy controlCapable
  if request.moduleId ∈ policy.moduleDenylist then
    deny .moduleDenied "Module is on organization denylist."
  else if publisher.publisherId ∈ policy.publisherDenylist then
    deny .publisherDenied "Publisher is on organization denylist."
  else if status = PublisherStatus.revoked.value ∨ tier = PublisherTier.revoked.value then
    deny .publisherRevoked "Publisher is revoked."
  else if status = PublisherStatus.suspended.value then
    deny .publisherSuspended "Publisher is suspended."
  else match request.permissions.find? fun perm => decide (perm ∈ policy.blockedPermissions) with
  | some perm =>
    deny .permissionBlocked ("Permission " ++ perm ++ " is blocked by organization policy.")
  | none =>
    if controlCapable ∧ (request.action = .run ∨ request.action = .enable) ∧
        ¬ controlIsolationGateOpen then
      denied publisher request policy true .controlModuleIsolationRequired
        "Control-capable modules cannot RUN before Step 5C.5 isolation gate."
    else if tier = PublisherTier.community.value ∧ request.appEnvProduction ∧
        ¬ breakGlass request policy then
      deny .communityNotAllowed "COMMUNITY tier is not permitted in production."
    else if tier ∉ policy.allowedTiers ∧ ¬ breakGlass request policy then
      deny .tierNotAllowed ("Publisher tier " ++ tier ++ " is not in allowed tiers.")
    else if controlCapable ∧ policy.controlModulePolicy = ControlModulePolicy.officialOnly.value ∧
        tier ≠ PublisherTier.official.value ∧ ¬ breakGlass request policy then
      denied publisher request policy true .controlModuleIsolationRequired
        "Control modules require OFFICIAL tier under current policy."
    else if request.moduleId ∈ policy.moduleAllowlist then
      allow [.allowlistMatch] "Module allowlist match."
    else if publisher.publisherId ∈ policy.publisherAllowlist ∧ tier ∈ policy.allowedTiers then
      allow [.allowlistMatch] "Publisher allowlist match."
    else if tier ∈ policy.allowedTiers then
      allow [.tierAllowed] ("Tier " ++ tier ++ " allowed by policy.")
    else if breakGlass request policy then
      allow [.breakGlassActive] "Break-glass override active for non-critical restrictions."
    else
      deny .defaultDeny "Default deny — no matching allow rule."

end

/-- `ModuleInstallPolicyEngine.evaluate`. -/
def evaluate (lower : String → String) (policy : InstallationPolicySnapshot)
    (publisher : Option PublisherSnapshot) (revocation : Option RevocationContext)
    (request : PolicyEvaluationInput) : PolicyEvaluationResult :=
  let controlCapable := isControlCapable lower request.permissions request.providedCapabilities
  match publisher with
  | none => resultOf .deny [.publisherNotFound] none request policy controlCapable
      "Publisher not registered in governance."
  | some publisher =>
    if request.canonicalOwnerPublisherId.any fun owner => decide (request.publisherId ≠ owner) then
      denied publisher request policy controlCapable .ownershipMismatch
        "Manifest publisher does not match canonical module ownership."
    else
      match revocationDecision publisher request policy controlCapable revocation with
      | some decision => decision
      | none => organizationDecision publisher request policy controlCapable

/-! ### Grounds to deny -/

section

variable (lower : String → String) (policy : InstallationPolicySnapshot)
  (publisher : Option PublisherSnapshot) (revocation : Option RevocationContext)
  (request : PolicyEvaluationInput)

/-- A ground to deny that nothing is meant to override. -/
inductive DenyGround : Prop where
  | publisherRevoked {p : PublisherSnapshot} (hp : publisher = some p)
      (h : p.status = PublisherStatus.revoked.value ∨ p.tier = PublisherTier.revoked.value)
  | publisherSuspended {p : PublisherSnapshot} (hp : publisher = some p)
      (h : p.status = PublisherStatus.suspended.value)
  | moduleDenied (h : request.moduleId ∈ policy.moduleDenylist)
  | publisherDenied {p : PublisherSnapshot} (hp : publisher = some p)
      (h : p.publisherId ∈ policy.publisherDenylist)
  | revocationActive {context : RevocationContext} (hcontext : revocation = some context)
      (henabled : request.marketplaceMetadataEnabled = true)
      (h : activeRevocation request context ≠ none)
  | permissionBlocked {perm : String} (hperm : perm ∈ request.permissions)
      (h : perm ∈ policy.blockedPermissions)

/-- Stale metadata in use, for an install or update with a publisher that owns the module. -/
structure StaleReview : Prop where
  registered : publisher ≠ none
  owner : ∀ owner, request.canonicalOwnerPublisherId = some owner → request.publisherId = owner
  enabled : request.marketplaceMetadataEnabled = true
  action : request.action = .install ∨ request.action = .update
  stale : ∃ context, revocation = some context ∧ context.metadataHealth ≠ "invalid" ∧
    context.metadataHealth ≠ "unavailable" ∧ context.freshness = "stale"

end

section

variable {policy : InstallationPolicySnapshot} {publisher : PublisherSnapshot}
  {request : PolicyEvaluationInput} {controlCapable : Bool}

theorem mem_packageGovernanceActions (action : PolicyAction) : action ∈ packageGovernanceActions := by
  cases action <;> decide

/-- What the trust in the metadata decides: to deny, or to review an install or update. -/
theorem revocationTrustDecision_some {context : RevocationContext} {decided : PolicyEvaluationResult}
    (h : revocationTrustDecision publisher request policy controlCapable context = some decided) :
    decided.decision = .deny ∨ (decided.decision = .requireSecurityReview ∧
        (request.action = .install ∨ request.action = .update) ∧ context.metadataHealth ≠ "invalid" ∧
        context.metadataHealth ≠ "unavailable" ∧ context.freshness = "stale") := by
  unfold revocationTrustDecision at h
  rw [if_neg (not_not.mpr (mem_packageGovernanceActions request.action))] at h
  split_ifs at h with hhealth hexpired hstale hcontrol hinstall
  · rw [Option.some.injEq] at h
    rw [← h]
    exact .inl rfl
  · rw [Option.some.injEq] at h
    rw [← h]
    exact .inl rfl
  · rw [Option.some.injEq] at h
    rw [← h]
    exact .inl rfl
  · rw [Option.some.injEq] at h
    rw [← h]
    rw [not_or] at hhealth
    exact .inr ⟨rfl, hinstall, hhealth.1, hhealth.2, hstale⟩

variable (policy publisher controlCapable) in
/-- Stale metadata sends an install or update to a review. -/
theorem revocationTrustDecision_stale {context : RevocationContext}
    (haction : request.action = .install ∨ request.action = .update)
    (hinvalid : context.metadataHealth ≠ "invalid") (hunavailable : context.metadataHealth ≠ "unavailable")
    (hstale : context.freshness = "stale") :
    ∃ decided, revocationTrustDecision publisher request policy controlCapable context = some decided ∧
      decided.decision = .requireSecurityReview := by
  have hexpired : context.freshness ≠ "expired" := by
    rw [hstale]
    decide
  have hcontrol : ¬ ((request.action = .enable ∨ request.action = .run) ∧ controlCapable = true) := by
    rintro ⟨hother, -⟩
    rcases haction with h | h
    · rw [h] at hother
      exact absurd hother (by decide)
    · rw [h] at hother
      exact absurd hother (by decide)
  unfold revocationTrustDecision
  rw [if_neg (not_not.mpr (mem_packageGovernanceActions request.action)),
    if_neg (not_or.mpr ⟨hinvalid, hunavailable⟩), if_neg hexpired, if_pos hstale, if_neg hcontrol,
    if_pos haction]
  exact ⟨_, rfl, rfl⟩

/-- What the checks on the revocations decide. -/
theorem revocationDecision_some {revocation : Option RevocationContext} {decided : PolicyEvaluationResult}
    (h : revocationDecision publisher request policy controlCapable revocation = some decided) :
    decided.decision = .deny ∨ (decided.decision = .requireSecurityReview ∧ request.marketplaceMetadataEnabled = true ∧
        (request.action = .install ∨ request.action = .update) ∧
        ∃ context, revocation = some context ∧ context.metadataHealth ≠ "invalid" ∧
          context.metadataHealth ≠ "unavailable" ∧ context.freshness = "stale") := by
  cases revocation with
  | none => cases h
  | some context =>
    unfold revocationDecision at h
    dsimp only at h
    split_ifs at h with henabled
    cases htrust : revocationTrustDecision publisher request policy controlCapable context with
    | some untrusted =>
      rw [htrust] at h
      cases h
      rcases revocationTrustDecision_some htrust with
        hdeny | ⟨hreview, haction, hinvalid, hunavailable, hstale⟩
      · exact .inl hdeny
      · exact .inr ⟨hreview, henabled, haction, context, rfl, hinvalid, hunavailable, hstale⟩
    | none =>
      rw [htrust] at h
      cases hactive : activeRevocation request context with
      | some item =>
        rw [hactive] at h
        cases h
        exact .inl rfl
      | none =>
        rw [hactive] at h
        cases h

/-- Where they decide nothing, no revocation is active. -/
theorem revocationDecision_none {context : RevocationContext}
    (h : revocationDecision publisher request policy controlCapable (some context) = none)
    (henabled : request.marketplaceMetadataEnabled = true) : activeRevocation request context = none := by
  unfold revocationDecision at h
  dsimp only at h
  rw [if_pos henabled] at h
  cases htrust : revocationTrustDecision publisher request policy controlCapable context with
  | some untrusted =>
    rw [htrust] at h
    cases h
  | none =>
    rw [htrust] at h
    cases hactive : activeRevocation request context with
    | some item =>
      rw [hactive] at h
      cases h
    | none => rfl

/-- The later checks deny what a list, the publisher or a permission gives a ground for. -/
theorem organizationDecision_deny
    (h : request.moduleId ∈ policy.moduleDenylist ∨ publisher.publisherId ∈ policy.publisherDenylist ∨
      (publisher.status = PublisherStatus.revoked.value ∨ publisher.tier = PublisherTier.revoked.value) ∨
      publisher.status = PublisherStatus.suspended.value ∨
      ∃ perm ∈ request.permissions, perm ∈ policy.blockedPermissions) :
    (organizationDecision publisher request policy controlCapable).decision = .deny := by
  unfold organizationDecision
  dsimp only
  by_cases hmodule : request.moduleId ∈ policy.moduleDenylist
  · rw [if_pos hmodule]
    rfl
  rw [if_neg hmodule]
  by_cases hpublisher : publisher.publisherId ∈ policy.publisherDenylist
  · rw [if_pos hpublisher]
    rfl
  rw [if_neg hpublisher]
  by_cases hrevoked : publisher.status = PublisherStatus.revoked.value ∨
      publisher.tier = PublisherTier.revoked.value
  · rw [if_pos hrevoked]
    rfl
  rw [if_neg hrevoked]
  by_cases hsuspended : publisher.status = PublisherStatus.suspended.value
  · rw [if_pos hsuspended]
    rfl
  rw [if_neg hsuspended]
  obtain ⟨perm, hperm, hblocked⟩ :=
    (((h.resolve_left hmodule).resolve_left hpublisher).resolve_left hrevoked).resolve_left hsuspended
  cases hfound : request.permissions.find? fun perm => decide (perm ∈ policy.blockedPermissions) with
  | some perm => rfl
  | none =>
    rw [List.find?_eq_none] at hfound
    exact absurd (decide_eq_true hblocked) (hfound perm hperm)

end

section

variable {lower : String → String} {policy : InstallationPolicySnapshot}
  {publisher : Option PublisherSnapshot} {revocation : Option RevocationContext}
  {request : PolicyEvaluationInput}

/-- **Stale metadata comes first.** It sends an install or update to a review, whatever comes after it. -/
theorem evaluate_of_staleReview (h : StaleReview publisher revocation request) :
    (evaluate lower policy publisher revocation request).decision = .requireSecurityReview := by
  obtain ⟨context, hcontext, hinvalid, hunavailable, hstale⟩ := h.stale
  cases publisher with
  | none => exact absurd rfl h.registered
  | some p =>
    have howner : (request.canonicalOwnerPublisherId.any fun owner =>
        decide (request.publisherId ≠ owner)) = false := by
      cases hcanonical : request.canonicalOwnerPublisherId with
      | none => rfl
      | some owner => simp [h.owner owner hcanonical]
    obtain ⟨decided, htrust, hdecision⟩ := revocationTrustDecision_stale policy p
      (isControlCapable lower request.permissions request.providedCapabilities) h.action hinvalid
      hunavailable hstale
    unfold evaluate revocationDecision
    simp only [howner, hcontext, h.enabled, htrust]
    exact hdecision

/-- **Grounds to deny decide** where no review of stale metadata comes first. -/
theorem evaluate_deny_of_denyGround (h : DenyGround policy publisher revocation request)
    (hstale : ¬ StaleReview publisher revocation request) :
    (evaluate lower policy publisher revocation request).decision = .deny := by
  cases publisher with
  | none => rfl
  | some p =>
    unfold evaluate
    dsimp only
    by_cases howner : (request.canonicalOwnerPublisherId.any fun owner =>
        decide (request.publisherId ≠ owner)) = true
    · rw [if_pos howner]
      rfl
    rw [if_neg howner]
    generalize isControlCapable lower request.permissions request.providedCapabilities = controlCapable
    have hregistered : ∀ owner, request.canonicalOwnerPublisherId = some owner →
        request.publisherId = owner := by
      intro owner hcanonical
      by_contra hne
      rw [hcanonical] at howner
      exact howner (decide_eq_true hne)
    cases hrevocation : revocationDecision p request policy controlCapable revocation with
    | some decided =>
      show decided.decision = .deny
      rcases revocationDecision_some hrevocation with hdeny | ⟨-, henabled, haction, hcontext⟩
      · exact hdeny
      · exact absurd ⟨Option.some_ne_none p, hregistered, henabled, haction, hcontext⟩ hstale
    | none =>
      show (organizationDecision p request policy controlCapable).decision = .deny
      cases h with
      | publisherRevoked hp hrevoked =>
        cases hp
        exact organizationDecision_deny (.inr (.inr (.inl hrevoked)))
      | publisherSuspended hp hsuspended =>
        cases hp
        exact organizationDecision_deny (.inr (.inr (.inr (.inl hsuspended))))
      | moduleDenied hmodule => exact organizationDecision_deny (.inl hmodule)
      | publisherDenied hp hpublisher =>
        cases hp
        exact organizationDecision_deny (.inr (.inl hpublisher))
      | revocationActive hcontext henabled hactive =>
        cases hcontext
        exact absurd (revocationDecision_none hrevocation henabled) hactive
      | permissionBlocked hperm hblocked =>
        exact organizationDecision_deny (.inr (.inr (.inr (.inr ⟨_, hperm, hblocked⟩))))

/-- **Deny dominance.** Where there is a ground to deny, the engine denies exactly if stale metadata does not send
the action to a review first; a ground to deny never ends in an approval. -/
theorem deny_dominates_iff (h : DenyGround policy publisher revocation request) :
    ((evaluate lower policy publisher revocation request).decision = .deny ↔
      ¬ StaleReview publisher revocation request) ∧
    (evaluate lower policy publisher revocation request).decision ≠ .allow := by
  by_cases hstale : StaleReview publisher revocation request
  · rw [evaluate_of_staleReview hstale]
    exact ⟨iff_of_false (by decide) (not_not.mpr hstale), by decide⟩
  · rw [evaluate_deny_of_denyGround h hstale]
    exact ⟨iff_of_true rfl hstale, by decide⟩

end

/-! ### A revoked publisher -/

def defaultPolicy : InstallationPolicySnapshot where
  policyVersion := 1
  allowedTiers := ["OFFICIAL", "VERIFIED", "ORG_APPROVED"]
  publisherAllowlist := []
  publisherDenylist := []
  moduleAllowlist := []
  moduleDenylist := []
  blockedPermissions := []
  controlModulePolicy := "VERIFIED_OK"
  breakGlassEnabled := false

def revokedPublisher : PublisherSnapshot where
  publisherId := "acme"
  tier := "REVOKED"
  status := "REVOKED"

def installRequest : PolicyEvaluationInput where
  action := .install
  moduleId := "acme.module"
  publisherId := "acme"
  marketplaceMetadataEnabled := true

theorem denyGround_revokedPublisher (revocation : Option RevocationContext) :
    DenyGround defaultPolicy (some revokedPublisher) revocation installRequest :=
  .publisherRevoked rfl (.inl rfl)

/-- With fresh metadata, the revoked publisher is denied. -/
theorem deny_dominates_iff_fresh : ((evaluate id defaultPolicy (some revokedPublisher) (some ⟨"fresh", "healthy", []⟩)
        installRequest).decision = .deny ↔
      ¬ StaleReview (some revokedPublisher) (some ⟨"fresh", "healthy", []⟩) installRequest) ∧
    (evaluate id defaultPolicy (some revokedPublisher) (some ⟨"fresh", "healthy", []⟩)
      installRequest).decision ≠ .allow :=
  deny_dominates_iff (denyGround_revokedPublisher _)

/-- **A revoked publisher is sent to a review** while the revocation metadata is stale, although the revocation of
the publisher is known, and listed. -/
theorem revoked_publisher_reviewed : let context : RevocationContext := ⟨"stale", "stale", [⟨some "acme", none⟩]⟩
    DenyGround defaultPolicy (some revokedPublisher) (some context) installRequest ∧
      activeRevocation installRequest context ≠ none ∧
      (evaluate id defaultPolicy (some revokedPublisher) (some context) installRequest).decision
        = .requireSecurityReview :=
  ⟨denyGround_revokedPublisher _, by decide, by decide⟩

end EnergyCore.Governance
