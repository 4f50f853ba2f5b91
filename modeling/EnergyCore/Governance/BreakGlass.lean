import EnergyCore.Governance.PolicyEngine

/-!
# Break-glass

What a break-glass session changes in the decisions of the policy engine. It is looked at by the rules on tiers only,
which come after the revocations, the denylists, the publisher, the permissions and the isolation gate.

* `organizationDecision_breakGlass` — the checks of the organization change only where a rule on tiers denies;
* `breakGlass_lifts_tiers` — so does the engine, and nothing that is allowed or held back by the gate changes.
-/

namespace EnergyCore.Governance

/-- A request, with or without a break-glass session. -/
abbrev withBreakGlass (request : PolicyEvaluationInput) (active : Bool) : PolicyEvaluationInput :=
  { request with breakGlassActive := active }

/-- The denials of the rules on tiers. -/
def TierRestricted (result : PolicyEvaluationResult) : Prop :=
  result.decision = .deny ∧
    (result.reasonCodes = [.communityNotAllowed] ∨ result.reasonCodes = [.tierNotAllowed] ∨
      (result.reasonCodes = [.controlModuleIsolationRequired] ∧
        result.explanation = "Control modules require OFFICIAL tier under current policy."))

variable (publisher : PublisherSnapshot) (request : PolicyEvaluationInput)
  (policy : InstallationPolicySnapshot) (controlCapable : Bool)

/-! ### The checks one by one -/

@[simp] theorem breakGlass_inactive : breakGlass (withBreakGlass request false) policy = false := rfl

/-- The revocations are checked without it. -/
theorem revocationDecision_breakGlass (revocation : Option RevocationContext) (active : Bool) :
    revocationDecision publisher (withBreakGlass request active) policy controlCapable revocation
      = revocationDecision publisher (withBreakGlass request false) policy controlCapable revocation := by
  cases revocation with
  | none => rfl
  | some context => rfl

/-- **The checks of the organization** change only where a rule on tiers denies. -/
theorem organizationDecision_breakGlass
    (h : ¬ TierRestricted (organizationDecision publisher (withBreakGlass request false) policy controlCapable)) :
    organizationDecision publisher (withBreakGlass request true) policy controlCapable
      = organizationDecision publisher (withBreakGlass request false) policy controlCapable := by
  unfold organizationDecision at h ⊢
  dsimp only at h ⊢
  by_cases hmodule : request.moduleId ∈ policy.moduleDenylist
  · rw [if_pos hmodule, if_pos hmodule]
    rfl
  rw [if_neg hmodule] at h
  rw [if_neg hmodule, if_neg hmodule]
  by_cases hpublisher : publisher.publisherId ∈ policy.publisherDenylist
  · rw [if_pos hpublisher, if_pos hpublisher]
    rfl
  rw [if_neg hpublisher] at h
  rw [if_neg hpublisher, if_neg hpublisher]
  by_cases hrevoked : publisher.status = PublisherStatus.revoked.value ∨
      publisher.tier = PublisherTier.revoked.value
  · rw [if_pos hrevoked, if_pos hrevoked]
    rfl
  rw [if_neg hrevoked] at h
  rw [if_neg hrevoked, if_neg hrevoked]
  by_cases hsuspended : publisher.status = PublisherStatus.suspended.value
  · rw [if_pos hsuspended, if_pos hsuspended]
    rfl
  rw [if_neg hsuspended] at h
  rw [if_neg hsuspended, if_neg hsuspended]
  cases hperm : request.permissions.find? fun perm => decide (perm ∈ policy.blockedPermissions) with
  | some perm => rfl
  | none =>
    rw [hperm] at h
    dsimp only at h ⊢
    by_cases hgate : controlCapable = true ∧ (request.action = .run ∨ request.action = .enable) ∧
        ¬ controlIsolationGateOpen = true
    · rw [if_pos hgate, if_pos hgate]
      rfl
    rw [if_neg hgate] at h
    rw [if_neg hgate, if_neg hgate]
    have hinactive : ¬ breakGlass (withBreakGlass request false) policy = true := by
      rw [breakGlass_inactive]
      exact Bool.false_ne_true
    by_cases hcommunity : publisher.tier = PublisherTier.community.value ∧ request.appEnvProduction = true
    · rw [if_pos ⟨hcommunity.1, hcommunity.2, hinactive⟩] at h
      exact absurd ⟨rfl, .inl rfl⟩ h
    have hcommunity' : ∀ active, ¬ (publisher.tier = PublisherTier.community.value ∧
        request.appEnvProduction = true ∧ ¬ breakGlass (withBreakGlass request active) policy = true) :=
      fun active hall => hcommunity ⟨hall.1, hall.2.1⟩
    rw [if_neg (hcommunity' false)] at h
    rw [if_neg (hcommunity' true), if_neg (hcommunity' false)]
    by_cases htier : publisher.tier ∈ policy.allowedTiers
    · have htier' : ∀ active, ¬ (publisher.tier ∉ policy.allowedTiers ∧
          ¬ breakGlass (withBreakGlass request active) policy = true) := fun active hall => hall.1 htier
      rw [if_neg (htier' false)] at h
      rw [if_neg (htier' true), if_neg (htier' false)]
      by_cases hofficial : controlCapable = true ∧
          policy.controlModulePolicy = ControlModulePolicy.officialOnly.value ∧
          publisher.tier ≠ PublisherTier.official.value
      · rw [if_pos ⟨hofficial.1, hofficial.2.1, hofficial.2.2, hinactive⟩] at h
        exact absurd ⟨rfl, .inr (.inr ⟨rfl, rfl⟩)⟩ h
      have hofficial' : ∀ active, ¬ (controlCapable = true ∧
          policy.controlModulePolicy = ControlModulePolicy.officialOnly.value ∧
          publisher.tier ≠ PublisherTier.official.value ∧
          ¬ breakGlass (withBreakGlass request active) policy = true) :=
        fun active hall => hofficial ⟨hall.1, hall.2.1, hall.2.2.1⟩
      rw [if_neg (hofficial' true), if_neg (hofficial' false)]
      -- an allowed tier is let through by one of the next three rules, with or without a session
      rw [if_pos htier, if_pos htier]
      rfl
    · rw [if_pos ⟨htier, hinactive⟩] at h
      exact absurd ⟨rfl, .inr (.inl rfl)⟩ h

/-- What the isolation gate holds back, it holds back with a session too. -/
theorem organizationDecision_gate (hcontrol : controlCapable = true)
    (haction : request.action = .run ∨ request.action = .enable) (hgate : controlIsolationGateOpen = false) :
    (organizationDecision publisher request policy controlCapable).decision = .deny := by
  have hheld : controlCapable = true ∧ (request.action = .run ∨ request.action = .enable) ∧
      ¬ controlIsolationGateOpen = true := by
    refine ⟨hcontrol, haction, ?_⟩
    rw [hgate]
    exact Bool.false_ne_true
  by_cases hground : request.moduleId ∈ policy.moduleDenylist ∨ publisher.publisherId ∈ policy.publisherDenylist ∨
      (publisher.status = PublisherStatus.revoked.value ∨ publisher.tier = PublisherTier.revoked.value) ∨
      publisher.status = PublisherStatus.suspended.value ∨
      ∃ perm ∈ request.permissions, perm ∈ policy.blockedPermissions
  · exact organizationDecision_deny hground
  obtain ⟨hmodule, hground⟩ := not_or.mp hground
  obtain ⟨hpublisher, hground⟩ := not_or.mp hground
  obtain ⟨hrevoked, hground⟩ := not_or.mp hground
  obtain ⟨hsuspended, hperm⟩ := not_or.mp hground
  have hnone : (request.permissions.find? fun perm => decide (perm ∈ policy.blockedPermissions)) = none := by
    rw [List.find?_eq_none]
    exact fun perm hmem hblocked => hperm ⟨perm, hmem, of_decide_eq_true hblocked⟩
  unfold organizationDecision
  dsimp only
  rw [if_neg hmodule, if_neg hpublisher, if_neg hrevoked, if_neg hsuspended, hnone]
  dsimp only
  rw [if_pos hheld]
  rfl

/-! ### The engine -/

/-- **Break-glass lifts rules on tiers and nothing else.** The outcome changes only where a rule on tiers denies; a
control-capable module does not run and is not enabled while the isolation gate is closed; and what is allowed stays
allowed in the same way. -/
theorem breakGlass_lifts_tiers (lower : String → String) (policy : InstallationPolicySnapshot)
    (publisher : Option PublisherSnapshot) (revocation : Option RevocationContext)
    (request : PolicyEvaluationInput) : (evaluate lower policy publisher revocation (withBreakGlass request true)
        ≠ evaluate lower policy publisher revocation (withBreakGlass request false) →
      TierRestricted (evaluate lower policy publisher revocation (withBreakGlass request false))) ∧
    (controlIsolationGateOpen = false →
      isControlCapable lower request.permissions request.providedCapabilities = true →
      request.action = .run ∨ request.action = .enable →
      (evaluate lower policy publisher revocation (withBreakGlass request true)).decision = .deny) ∧
    ((evaluate lower policy publisher revocation (withBreakGlass request false)).decision = .allow →
      evaluate lower policy publisher revocation (withBreakGlass request true)
        = evaluate lower policy publisher revocation (withBreakGlass request false)) := by
  have hchanges : ¬ TierRestricted (evaluate lower policy publisher revocation (withBreakGlass request false)) →
      evaluate lower policy publisher revocation (withBreakGlass request true)
        = evaluate lower policy publisher revocation (withBreakGlass request false) := by
    intro h
    cases publisher with
    | none => rfl
    | some p =>
      unfold evaluate at h ⊢
      dsimp only at h ⊢
      by_cases howner : (request.canonicalOwnerPublisherId.any fun owner =>
          decide (request.publisherId ≠ owner)) = true
      · rw [if_pos howner, if_pos howner]
        rfl
      rw [if_neg howner] at h
      rw [if_neg howner, if_neg howner, revocationDecision_breakGlass]
      cases hrevocation : revocationDecision p (withBreakGlass request false) policy
          (isControlCapable lower request.permissions request.providedCapabilities) revocation with
      | some decided => rfl
      | none =>
        rw [hrevocation] at h
        exact organizationDecision_breakGlass p request policy _ h
  refine ⟨fun hne => ?_, fun hgate hcontrol haction => ?_, fun hallow => hchanges fun hrestricted => ?_⟩
  · by_contra h
    exact hne (hchanges h)
  · cases publisher with
    | none => rfl
    | some p =>
      unfold evaluate
      dsimp only
      by_cases howner : (request.canonicalOwnerPublisherId.any fun owner =>
          decide (request.publisherId ≠ owner)) = true
      · rw [if_pos howner]
        rfl
      rw [if_neg howner]
      cases hrevocation : revocationDecision p (withBreakGlass request true) policy
          (isControlCapable lower request.permissions request.providedCapabilities) revocation with
      | some decided =>
        rcases revocationDecision_some hrevocation with hdeny | ⟨-, -, hinstall, -⟩
        · exact hdeny
        · rcases haction with haction | haction
          all_goals
            rw [haction] at hinstall
            exact absurd hinstall (by decide)
      | none => exact organizationDecision_gate p (withBreakGlass request true) policy _ hcontrol haction hgate
  · rw [hrestricted.1] at hallow
    cases hallow

end EnergyCore.Governance
