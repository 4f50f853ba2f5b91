import EnergyCore.Foundations.Clock
import EnergyCore.Governance.PolicyEngine
import EnergyCore.PackageArchives.ManifestChecks

/-!
# Transfers of ownership

Who owns a module, which publishers there are, and the transfers between them: requested, approved or rejected, and
completed, while modules are assigned and publishers change their status in between.

* `effects_governanceCall` — what a call that goes through changes, in terms of the events it records;
* `recorded_step` — since its request, the events of a transfer tell who owns the module and whether the target is
  revoked;
* `transfers_safe_iff` — when ownership moves by valid transfers only.
-/

namespace EnergyCore.Governance

open StepRun
open PackageArchives (isProtectedModuleId)

/-! ### Rows -/

inductive GovernanceErrorCode where
  | publisherNotFound
  | publisherRevoked
  | invalidTrustTier
  | ownershipTransferNotAllowed
  | invalidTransition
  | transferNotFound
  deriving Repr, DecidableEq

structure GovernanceError where
  message : String
  code : GovernanceErrorCode
  deriving Repr, DecidableEq

inductive TransferStatus where
  | pending
  | approved
  | rejected
  | cancelled
  | completed
  deriving Repr, DecidableEq

structure ModuleOwnership where
  publisherId : String
  isProtected : Bool := false
  deriving Repr, DecidableEq

structure ModulePublisher where
  tier : String
  status : String
  verifiedAt : Option Instant := none
  suspendedAt : Option Instant := none
  revokedAt : Option Instant := none
  deriving Repr, DecidableEq

structure OwnershipTransfer where
  moduleId : String
  fromPublisherId : String
  toPublisherId : String
  fromTier : String
  toTier : String
  requestedBy : String
  status : TransferStatus
  reason : Option String := none
  approvedBy : Option String := none
  approvedAt : Option Instant := none
  effectiveAt : Option Instant := none
  deriving Repr, DecidableEq

/-- The tables, with the next id of a transfer. -/
structure GovernanceStore where
  ownership : String → Option ModuleOwnership
  publishers : String → Option ModulePublisher
  transfers : ℕ → Option OwnershipTransfer := fun _ => none
  nextId : ℕ := 1

namespace GovernanceStore

def setOwnership (s : GovernanceStore) (moduleId : String) (row : ModuleOwnership) : GovernanceStore :=
  { s with ownership := Function.update s.ownership moduleId (some row) }

def setPublisher (s : GovernanceStore) (publisherId : String) (row : ModulePublisher) : GovernanceStore :=
  { s with publishers := Function.update s.publishers publisherId (some row) }

def setTransfer (s : GovernanceStore) (id : ℕ) (row : OwnershipTransfer) : GovernanceStore :=
  { s with transfers := Function.update s.transfers id (some row) }

end GovernanceStore

/-! ### Publishers -/

/-- The status or the tier is REVOKED. -/
def ModulePublisher.isRevoked (publisher : ModulePublisher) : Bool :=
  decide (publisher.status = PublisherStatus.revoked.value ∨ publisher.tier = PublisherTier.revoked.value)

def publisherTiers : List String :=
  [PublisherTier.official, .verified, .orgApproved, .community, .revoked].map PublisherTier.value

def publisherStatuses : List String :=
  [PublisherStatus.pendingVerification, .active, .suspended, .revoked].map PublisherStatus.value

/-- `ALLOWED_TRANSITIONS.get(status, set())`. -/
def allowedTransitions (status : String) : List String :=
  if status = PublisherStatus.pendingVerification.value then
    [PublisherStatus.active.value, PublisherStatus.revoked.value]
  else if status = PublisherStatus.active.value then
    [PublisherStatus.suspended.value, PublisherStatus.revoked.value]
  else if status = PublisherStatus.suspended.value then
    [PublisherStatus.active.value, PublisherStatus.revoked.value]
  else []

/-- The row with a new status. -/
def ModulePublisher.withStatus (row : ModulePublisher) (newStatus : String) (now : Instant) : ModulePublisher :=
  if newStatus = PublisherStatus.active.value then { row with status := newStatus, suspendedAt := none }
  else if newStatus = PublisherStatus.suspended.value then { row with status := newStatus, suspendedAt := some now }
  else if newStatus = PublisherStatus.revoked.value then
    { row with status := newStatus, revokedAt := some now, tier := PublisherTier.revoked.value }
  else { row with status := newStatus }

/-- The row of a publisher that has been verified. -/
def ModulePublisher.verified (row : ModulePublisher) (now : Instant) : ModulePublisher :=
  { row with
    verifiedAt := some now
    tier := if row.tier = PublisherTier.community.value then PublisherTier.verified.value else row.tier }

/-- Another transfer of the module is pending. -/
def GovernanceStore.hasPending (s : GovernanceStore) (moduleId : String) : Bool :=
  (List.range s.nextId).any fun id =>
    (s.transfers id).any fun row => decide (row.moduleId = moduleId ∧ row.status = .pending)

section

variable (s : GovernanceStore)

def getPublisherOrRaise (publisherId : String) : Except GovernanceError ModulePublisher :=
  match s.publishers publisherId with
  | none => .error ⟨s!"Publisher not found: {publisherId}", .publisherNotFound⟩
  | some row => .ok row

def createPublisher (publisherId tier : String) : Except GovernanceError GovernanceStore :=
  match s.publishers publisherId with
  | some _ => .error ⟨s!"Publisher already exists: {publisherId}", .invalidTrustTier⟩
  | none => .ok (s.setPublisher publisherId { tier := tier, status := PublisherStatus.pendingVerification.value })

def updateFields (publisherId : String) (tier : Option String) : Except GovernanceError GovernanceStore := do
  let row ← getPublisherOrRaise s publisherId
  if tier.any fun tier => decide (tier ∉ publisherTiers) then throw ⟨"Invalid tier", .invalidTrustTier⟩
  else return s.setPublisher publisherId { row with tier := tier.getD row.tier }

def transitionStatus (publisherId newStatus : String) (now : Instant) : Except GovernanceError GovernanceStore := do
  let row ← getPublisherOrRaise s publisherId
  if newStatus ∉ publisherStatuses then throw ⟨"Invalid status", .invalidTransition⟩
  else if newStatus ∉ allowedTransitions row.status ∧ row.status ≠ newStatus then
    throw ⟨s!"Invalid transition {row.status} -> {newStatus}", .invalidTransition⟩
  else return s.setPublisher publisherId (row.withStatus newStatus now)

def verifyPublisher (publisherId : String) (now : Instant) : Except GovernanceError GovernanceStore := do
  let s ← transitionStatus s publisherId PublisherStatus.active.value now
  let row ← getPublisherOrRaise s publisherId
  return s.setPublisher publisherId (row.verified now)

/-! ### Owners -/

def assign (moduleId publisherId : String) (isProtected : Option Bool) : Except GovernanceError GovernanceStore :=
  if isProtectedModuleId moduleId then
    .error ⟨s!"Protected module cannot be assigned: {moduleId}", .ownershipTransferNotAllowed⟩
  else
    match s.ownership moduleId with
    | none => .ok (s.setOwnership moduleId { publisherId := publisherId, isProtected := isProtected.getD false })
    | some row =>
      .ok (s.setOwnership moduleId { publisherId := publisherId, isProtected := isProtected.getD row.isProtected })

def transferOwnership (moduleId toPublisherId : String) : Except GovernanceError GovernanceStore :=
  match s.ownership moduleId with
  | none => .error ⟨s!"Ownership not found for module: {moduleId}", .ownershipTransferNotAllowed⟩
  | some row =>
    if row.isProtected || isProtectedModuleId moduleId then
      .error ⟨s!"Protected module ownership cannot be transferred: {moduleId}", .ownershipTransferNotAllowed⟩
    else .ok (s.setOwnership moduleId { row with publisherId := toPublisherId })

/-! ### Transfers -/

def getTransferOrRaise (id : ℕ) : Except GovernanceError OwnershipTransfer :=
  match s.transfers id with
  | none => .error ⟨s!"Transfer not found: {id}", .transferNotFound⟩
  | some row => .ok row

def requestTransfer (moduleId toPublisherId requestedBy : String) (reason : Option String) :
    Except GovernanceError GovernanceStore :=
  if isProtectedModuleId moduleId then
    .error ⟨"Official/protected module cannot be transferred", .ownershipTransferNotAllowed⟩
  else
    match s.ownership moduleId with
    | none => .error ⟨s!"No ownership record for module {moduleId}", .ownershipTransferNotAllowed⟩
    | some ownership => do
      let fromPublisher ← getPublisherOrRaise s ownership.publisherId
      let toPublisher ← getPublisherOrRaise s toPublisherId
      if toPublisher.isRevoked then throw ⟨"Target publisher is revoked", .publisherRevoked⟩
      else if s.hasPending moduleId then throw ⟨"Pending transfer already exists", .ownershipTransferNotAllowed⟩
      else
        let row : OwnershipTransfer :=
          { moduleId := moduleId
            fromPublisherId := ownership.publisherId
            toPublisherId := toPublisherId
            fromTier := fromPublisher.tier
            toTier := toPublisher.tier
            requestedBy := requestedBy
            status := .pending
            reason := reason }
        return { s.setTransfer s.nextId row with nextId := s.nextId + 1 }

/-- `approve` and `reject`: a pending transfer is decided. -/
def decideTransfer (status : TransferStatus) (id : ℕ) (approvedBy : String) (now : Instant) :
    Except GovernanceError GovernanceStore := do
  let row ← getTransferOrRaise s id
  if row.status ≠ .pending then throw ⟨"Transfer is not pending", .invalidTransition⟩
  else return s.setTransfer id { row with status := status, approvedBy := some approvedBy, approvedAt := some now }

def approve : ℕ → String → Instant → Except GovernanceError GovernanceStore := decideTransfer s .approved

def reject : ℕ → String → Instant → Except GovernanceError GovernanceStore := decideTransfer s .rejected

def complete (id : ℕ) (now : Instant) : Except GovernanceError GovernanceStore := do
  let row ← getTransferOrRaise s id
  if row.status ≠ .approved then throw ⟨"Transfer is not approved", .invalidTransition⟩
  else
    let s ← transferOwnership s row.moduleId row.toPublisherId
    return s.setTransfer id { row with status := .completed, effectiveAt := some now }

end

/-! ### Calls -/

inductive GovernanceCall where
  | createPublisher (publisherId tier : String)
  | updateFields (publisherId : String) (tier : Option String)
  | transitionStatus (publisherId newStatus : String)
  | verifyPublisher (publisherId : String)
  | assign (moduleId publisherId : String) (isProtected : Option Bool)
  | requestTransfer (moduleId toPublisherId requestedBy : String) (reason : Option String)
  | approve (id : ℕ) (approvedBy : String)
  | reject (id : ℕ) (approvedBy : String)
  | complete (id : ℕ)
  deriving Repr, DecidableEq

def governanceCall (s : GovernanceStore) (now : Instant) : GovernanceCall → Except GovernanceError GovernanceStore
  | .createPublisher publisherId tier => createPublisher s publisherId tier
  | .updateFields publisherId tier => updateFields s publisherId tier
  | .transitionStatus publisherId newStatus => transitionStatus s publisherId newStatus now
  | .verifyPublisher publisherId => verifyPublisher s publisherId now
  | .assign moduleId publisherId isProtected => assign s moduleId publisherId isProtected
  | .requestTransfer moduleId toPublisherId requestedBy reason =>
    requestTransfer s moduleId toPublisherId requestedBy reason
  | .approve id approvedBy => approve s id approvedBy now
  | .reject id approvedBy => reject s id approvedBy now
  | .complete id => complete s id now

/-- An owner is written, or a publisher. -/
inductive GovernanceEvent where
  | owned (moduleId publisherId : String)
  | rated (publisherId : String) (isRevoked : Bool)
  deriving Repr, DecidableEq

/-- What a call that leads to `s'` writes. -/
def GovernanceCall.events (s s' : GovernanceStore) : GovernanceCall → List GovernanceEvent
  | .createPublisher publisherId _ | .updateFields publisherId _ | .transitionStatus publisherId _
  | .verifyPublisher publisherId =>
    ((s'.publishers publisherId).map fun row => .rated publisherId row.isRevoked).toList
  | .assign moduleId publisherId _ => [.owned moduleId publisherId]
  | .complete id => ((s.transfers id).map fun row => .owned row.moduleId row.toPublisherId).toList
  | .requestTransfer .. | .approve .. | .reject .. => []

/-- The owner of a module after some events. -/
def ownerAfter (moduleId owner : String) (events : List GovernanceEvent) : String :=
  events.foldl (fun owner event => match event with
    | .owned moduleId' publisherId => if moduleId' = moduleId then publisherId else owner
    | .rated _ _ => owner) owner

/-- Whether a publisher is revoked after some events. -/
def revokedAfter (publisherId : String) (isRevoked : Bool) (events : List GovernanceEvent) : Bool :=
  events.foldl (fun isRevoked event => match event with
    | .rated publisherId' isRevoked' => if publisherId' = publisherId then isRevoked' else isRevoked
    | .owned _ _ => isRevoked) isRevoked

/-- The tables, with the events since each transfer was requested. -/
structure GovernanceHistory where
  store : GovernanceStore
  since : ℕ → List GovernanceEvent := fun _ => []

/-- One call. What raises leaves the tables as they are. -/
def governanceStep (s : GovernanceHistory) (step : Instant × GovernanceCall) : GovernanceHistory :=
  match governanceCall s.store step.1 step.2 with
  | .error _ => s
  | .ok store =>
    { store := store
      since := fun id => if id < s.store.nextId then s.since id ++ step.2.events s.store store else [] }

/-! ### What a call writes -/

section

variable {s s' : GovernanceStore}

theorem exists_of_bind_ok {α β : Type} {x : Except GovernanceError α} {f : α → Except GovernanceError β} {b : β}
    (h : (x >>= f) = .ok b) : ∃ a, x = .ok a ∧ f a = .ok b := by
  cases x with
  | error e => cases h
  | ok a => exact ⟨a, rfl, h⟩

theorem of_guard_ok {α : Type} {c : Prop} [Decidable c] {e : GovernanceError} {x : Except GovernanceError α} {b : α}
    (h : (if c then throw e else x) = .ok b) : ¬ c ∧ x = .ok b := by
  by_cases hc : c
  · rw [if_pos hc] at h
    cases h
  · rw [if_neg hc] at h
    exact ⟨hc, h⟩

theorem getPublisherOrRaise_ok {publisherId : String} {row : ModulePublisher}
    (h : getPublisherOrRaise s publisherId = .ok row) : s.publishers publisherId = some row := by
  unfold getPublisherOrRaise at h
  cases hrow : s.publishers publisherId with
  | none =>
    rw [hrow] at h
    cases h
  | some row' =>
    rw [hrow] at h
    cases h
    rfl

theorem getTransferOrRaise_ok {id : ℕ} {row : OwnershipTransfer} (h : getTransferOrRaise s id = .ok row) :
    s.transfers id = some row := by
  unfold getTransferOrRaise at h
  cases hrow : s.transfers id with
  | none =>
    rw [hrow] at h
    cases h
  | some row' =>
    rw [hrow] at h
    cases h
    rfl

theorem transitionStatus_ok {publisherId newStatus : String} {now : Instant}
    (h : transitionStatus s publisherId newStatus now = .ok s') : ∃ row, s' = s.setPublisher publisherId row := by
  obtain ⟨row, -, h⟩ := exists_of_bind_ok h
  obtain ⟨-, h⟩ := of_guard_ok h
  obtain ⟨-, h⟩ := of_guard_ok h
  cases h
  exact ⟨_, rfl⟩

theorem verifyPublisher_ok {publisherId : String} {now : Instant} (h : verifyPublisher s publisherId now = .ok s') :
    ∃ row, s' = s.setPublisher publisherId row := by
  obtain ⟨s₁, htransition, h⟩ := exists_of_bind_ok h
  obtain ⟨row, rfl⟩ := transitionStatus_ok htransition
  obtain ⟨row', -, h⟩ := exists_of_bind_ok h
  cases h
  refine ⟨row'.verified now, ?_⟩
  unfold GovernanceStore.setPublisher
  rw [Function.update_idem]

theorem assign_ok {moduleId publisherId : String} {isProtected : Option Bool}
    (h : assign s moduleId publisherId isProtected = .ok s') :
    ∃ row, row.publisherId = publisherId ∧ s' = s.setOwnership moduleId row := by
  obtain ⟨-, h⟩ := of_guard_ok h
  cases hrow : s.ownership moduleId with
  | none =>
    rw [hrow] at h
    cases h
    exact ⟨_, rfl, rfl⟩
  | some row =>
    rw [hrow] at h
    cases h
    exact ⟨_, rfl, rfl⟩

theorem transferOwnership_ok {moduleId toPublisherId : String}
    (h : transferOwnership s moduleId toPublisherId = .ok s') : ∃ row, s.ownership moduleId = some row ∧
      s' = s.setOwnership moduleId { row with publisherId := toPublisherId } := by
  unfold transferOwnership at h
  cases hrow : s.ownership moduleId with
  | none =>
    rw [hrow] at h
    cases h
  | some row =>
    rw [hrow] at h
    obtain ⟨-, h⟩ := of_guard_ok h
    cases h
    exact ⟨row, rfl, rfl⟩

/-- **A request** finds the owner, and a target that is not revoked. -/
theorem requestTransfer_ok {moduleId toPublisherId requestedBy : String} {reason : Option String}
    (h : requestTransfer s moduleId toPublisherId requestedBy reason = .ok s') :
    ∃ row own target, row.moduleId = moduleId ∧ s.ownership moduleId = some own ∧
      row.fromPublisherId = own.publisherId ∧ s.publishers row.toPublisherId = some target ∧
        target.isRevoked = false ∧ s' = { s.setTransfer s.nextId row with nextId := s.nextId + 1 } := by
  obtain ⟨-, h⟩ := of_guard_ok h
  cases hown : s.ownership moduleId with
  | none =>
    rw [hown] at h
    cases h
  | some own =>
    rw [hown] at h
    obtain ⟨source, -, h⟩ := exists_of_bind_ok h
    obtain ⟨target, htarget, h⟩ := exists_of_bind_ok h
    obtain ⟨hrevoked, h⟩ := of_guard_ok h
    obtain ⟨-, h⟩ := of_guard_ok h
    cases h
    exact ⟨_, own, target, rfl, rfl, rfl, getPublisherOrRaise_ok htarget, Bool.eq_false_iff.mpr hrevoked, rfl⟩

theorem decideTransfer_ok {status : TransferStatus} {id : ℕ} {approvedBy : String} {now : Instant}
    (h : decideTransfer s status id approvedBy now = .ok s') : ∃ row, s.transfers id = some row ∧ s' =
      s.setTransfer id { row with status := status, approvedBy := some approvedBy, approvedAt := some now } := by
  obtain ⟨row, hrow, h⟩ := exists_of_bind_ok h
  obtain ⟨-, h⟩ := of_guard_ok h
  cases h
  exact ⟨row, getTransferOrRaise_ok hrow, rfl⟩

/-- **A completion** finds an approved transfer, and the module with some owner. -/
theorem complete_ok {id : ℕ} {now : Instant} (h : complete s id now = .ok s') :
    ∃ row own, s.transfers id = some row ∧ row.status = .approved ∧ s.ownership row.moduleId = some own ∧
      s' = (s.setOwnership row.moduleId { own with publisherId := row.toPublisherId }).setTransfer id
        { row with status := .completed, effectiveAt := some now } := by
  obtain ⟨row, hrow, h⟩ := exists_of_bind_ok h
  obtain ⟨hstatus, h⟩ := of_guard_ok h
  obtain ⟨s₁, htransfer, h⟩ := exists_of_bind_ok h
  obtain ⟨own, hown, rfl⟩ := transferOwnership_ok htransfer
  cases h
  exact ⟨row, own, getTransferOrRaise_ok hrow, not_not.mp hstatus, hown, rfl⟩

/-! ### What a call changes -/

/-- The transfers are about the same module and publishers. -/
def SameParties (row row' : OwnershipTransfer) : Prop :=
  row'.moduleId = row.moduleId ∧ row'.fromPublisherId = row.fromPublisherId ∧ row'.toPublisherId = row.toPublisherId

/-- A transfer as it is requested: its source owns the module, and its target is not revoked. -/
def Requested (s : GovernanceStore) (row : OwnershipTransfer) : Prop :=
  (∃ own, s.ownership row.moduleId = some own ∧ own.publisherId = row.fromPublisherId) ∧
    ∃ target, s.publishers row.toPublisherId = some target ∧ target.isRevoked = false

/-- What the events say of the owners and publishers, and that a transfer is an old one or has just been requested. -/
structure Effects (s s' : GovernanceStore) (events : List GovernanceEvent) : Prop where
  owner : ∀ moduleId own, s.ownership moduleId = some own → ∃ own', s'.ownership moduleId = some own' ∧
    own'.publisherId = ownerAfter moduleId own.publisherId events
  target : ∀ publisherId row, s.publishers publisherId = some row → ∃ row', s'.publishers publisherId = some row' ∧
    row'.isRevoked = revokedAfter publisherId row.isRevoked events
  grows : s.nextId ≤ s'.nextId
  transfers : ∀ id row', s'.transfers id = some row' → (∃ row, s.transfers id = some row ∧ SameParties row row') ∨
    id = s.nextId ∧ id < s'.nextId ∧ Requested s' row'

theorem effects_setPublisher (publisherId : String) (row : ModulePublisher) :
    Effects s (s.setPublisher publisherId row) [.rated publisherId row.isRevoked] where
  owner moduleId own hown := ⟨own, hown, rfl⟩
  target publisherId' row' hrow' := by
    by_cases hsame : publisherId' = publisherId
    · subst hsame
      exact ⟨row, Function.update_self _ _ _, (if_pos rfl).symm⟩
    · exact ⟨row', (Function.update_of_ne hsame _ _).trans hrow', (if_neg (Ne.symm hsame)).symm⟩
  grows := le_rfl
  transfers id row' hrow' := .inl ⟨row', hrow', rfl, rfl, rfl⟩

theorem effects_setOwnership (moduleId : String) (row : ModuleOwnership) :
    Effects s (s.setOwnership moduleId row) [.owned moduleId row.publisherId] where
  owner moduleId' own hown := by
    by_cases hsame : moduleId' = moduleId
    · subst hsame
      exact ⟨row, Function.update_self _ _ _, (if_pos rfl).symm⟩
    · exact ⟨own, (Function.update_of_ne hsame _ _).trans hown, (if_neg (Ne.symm hsame)).symm⟩
  target publisherId row' hrow' := ⟨row', hrow', rfl⟩
  grows := le_rfl
  transfers id row' hrow' := .inl ⟨row', hrow', rfl, rfl, rfl⟩

theorem transfers_setTransfer_self (id : ℕ) (row : OwnershipTransfer) :
    (s.setTransfer id row).transfers id = some row := Function.update_self _ _ _

/-- A transfer that is only decided or completed. -/
theorem Effects.setTransfer {events : List GovernanceEvent} {id : ℕ} {row row' : OwnershipTransfer}
    (h : Effects s s' events) (hrow : s.transfers id = some row) (hsame : SameParties row row') :
    Effects s (s'.setTransfer id row') events where
  owner := h.owner
  target := h.target
  grows := h.grows
  transfers id' row'' hrow'' := by
    by_cases hid : id' = id
    · subst hid
      have heq : row' = row'' := Option.some.inj ((transfers_setTransfer_self id' row').symm.trans hrow'')
      rw [← heq]
      exact .inl ⟨row, hrow, hsame⟩
    · exact h.transfers id' row'' ((Function.update_of_ne hid _ _).symm.trans hrow'')

theorem effects_refl : Effects s s [] where
  owner _ own hown := ⟨own, hown, rfl⟩
  target _ row hrow := ⟨row, hrow, rfl⟩
  grows := le_rfl
  transfers _ row hrow := .inl ⟨row, hrow, rfl, rfl, rfl⟩

theorem events_setPublisher (publisherId : String) (row : ModulePublisher) :
    (((s.setPublisher publisherId row).publishers publisherId).map
      fun row => GovernanceEvent.rated publisherId row.isRevoked).toList = [.rated publisherId row.isRevoked] := by
  have hself : (s.setPublisher publisherId row).publishers publisherId = some row := Function.update_self _ _ _
  rw [hself]
  rfl

/-- **What a call changes.** -/
theorem effects_governanceCall {now : Instant} {call : GovernanceCall} (h : governanceCall s now call = .ok s') :
    Effects s s' (call.events s s') := by
  cases call with
  | createPublisher publisherId tier =>
    have hcall : createPublisher s publisherId tier = .ok s' := h
    unfold createPublisher at hcall
    cases hrow : s.publishers publisherId with
    | some row =>
      rw [hrow] at hcall
      cases hcall
    | none =>
      rw [hrow] at hcall
      cases hcall
      rw [GovernanceCall.events, events_setPublisher]
      exact effects_setPublisher publisherId _
  | updateFields publisherId tier =>
    obtain ⟨row, -, h⟩ := exists_of_bind_ok (show updateFields s publisherId tier = .ok s' from h)
    obtain ⟨-, h⟩ := of_guard_ok h
    cases h
    rw [GovernanceCall.events, events_setPublisher]
    exact effects_setPublisher publisherId _
  | transitionStatus publisherId newStatus =>
    obtain ⟨row, rfl⟩ := transitionStatus_ok h
    rw [GovernanceCall.events, events_setPublisher]
    exact effects_setPublisher publisherId row
  | verifyPublisher publisherId =>
    obtain ⟨row, rfl⟩ := verifyPublisher_ok h
    rw [GovernanceCall.events, events_setPublisher]
    exact effects_setPublisher publisherId row
  | assign moduleId publisherId isProtected =>
    obtain ⟨row, rfl, rfl⟩ := assign_ok h
    exact effects_setOwnership moduleId row
  | requestTransfer moduleId toPublisherId requestedBy reason =>
    obtain ⟨row, own, target, rfl, hown, hfrom, htarget, hrevoked, rfl⟩ := requestTransfer_ok h
    refine ⟨fun _ own hown => ⟨own, hown, rfl⟩, fun _ row hrow => ⟨row, hrow, rfl⟩, Nat.le_succ _, ?_⟩
    intro id row' hrow'
    by_cases hid : id = s.nextId
    · subst hid
      have heq : row = row' := Option.some.inj ((transfers_setTransfer_self s.nextId row).symm.trans hrow')
      rw [← heq]
      exact .inr ⟨rfl, Nat.lt_succ_self _, ⟨own, hown, hfrom.symm⟩, target, htarget, hrevoked⟩
    · exact .inl ⟨row', (Function.update_of_ne hid _ _).symm.trans hrow', rfl, rfl, rfl⟩
  | approve id approvedBy =>
    obtain ⟨row, hrow, rfl⟩ := decideTransfer_ok (show decideTransfer s .approved id approvedBy now = .ok s' from h)
    exact effects_refl.setTransfer hrow ⟨rfl, rfl, rfl⟩
  | reject id approvedBy =>
    obtain ⟨row, hrow, rfl⟩ := decideTransfer_ok (show decideTransfer s .rejected id approvedBy now = .ok s' from h)
    exact effects_refl.setTransfer hrow ⟨rfl, rfl, rfl⟩
  | complete id =>
    obtain ⟨row, own, hrow, -, hown, rfl⟩ := complete_ok h
    have hevents : GovernanceCall.events s ((s.setOwnership row.moduleId
        { own with publisherId := row.toPublisherId }).setTransfer id
          { row with status := .completed, effectiveAt := some now }) (.complete id) =
        [.owned row.moduleId row.toPublisherId] := by
      show ((s.transfers id).map fun row => GovernanceEvent.owned row.moduleId row.toPublisherId).toList = _
      rw [hrow]
      rfl
    rw [hevents]
    exact (effects_setOwnership row.moduleId { own with publisherId := row.toPublisherId }).setTransfer hrow
      ⟨rfl, rfl, rfl⟩

end

/-! ### Histories -/

/-- Since its request, the events of a transfer tell who owns the module and whether the target is revoked. -/
structure Recorded (s : GovernanceHistory) : Prop where
  known : ∀ id row, s.store.transfers id = some row → id < s.store.nextId
  owner : ∀ id row, s.store.transfers id = some row → ∃ own, s.store.ownership row.moduleId = some own ∧
    own.publisherId = ownerAfter row.moduleId row.fromPublisherId (s.since id)
  target : ∀ id row, s.store.transfers id = some row → ∃ target, s.store.publishers row.toPublisherId = some target ∧
    target.isRevoked = revokedAfter row.toPublisherId false (s.since id)

theorem governanceStep_of_ok {s : GovernanceHistory} {step : Instant × GovernanceCall} {store : GovernanceStore}
    (h : governanceCall s.store step.1 step.2 = .ok store) : governanceStep s step =
      { store := store
        since := fun id => if id < s.store.nextId then s.since id ++ step.2.events s.store store else [] } := by
  unfold governanceStep
  rw [h]

theorem governanceStep_of_error {s : GovernanceHistory} {step : Instant × GovernanceCall} {e : GovernanceError}
    (h : governanceCall s.store step.1 step.2 = .error e) : governanceStep s step = s := by
  unfold governanceStep
  rw [h]

/-- **The events are recorded** by every call. -/
theorem recorded_step {s : GovernanceHistory} {step : Instant × GovernanceCall} (hs : Recorded s) :
    Recorded (governanceStep s step) := by
  cases hcall : governanceCall s.store step.1 step.2 with
  | error e =>
    rw [governanceStep_of_error hcall]
    exact hs
  | ok store =>
    have heffects := effects_governanceCall hcall
    rw [governanceStep_of_ok hcall]
    refine ⟨fun id row hrow => ?_, fun id row hrow => ?_, fun id row hrow => ?_⟩
    · rcases heffects.transfers id row hrow with ⟨old, hold, -⟩ | ⟨-, hlt, -⟩
      · exact (hs.known id old hold).trans_le heffects.grows
      · exact hlt
    · show ∃ own, store.ownership row.moduleId = some own ∧ own.publisherId = ownerAfter row.moduleId
        row.fromPublisherId (if id < s.store.nextId then s.since id ++ step.2.events s.store store else [])
      rcases heffects.transfers id row hrow with ⟨old, hold, hmodule, hfrom, -⟩ | ⟨rfl, -, ⟨own, hown, hfrom⟩, -⟩
      · obtain ⟨own, hown, howner⟩ := hs.owner id old hold
        obtain ⟨own', hown', howner'⟩ := heffects.owner _ own hown
        rw [if_pos (hs.known id old hold), hmodule, hfrom]
        refine ⟨own', hown', ?_⟩
        rw [howner', howner]
        exact List.foldl_append.symm
      · rw [if_neg (lt_irrefl _)]
        exact ⟨own, hown, hfrom⟩
    · show ∃ target, store.publishers row.toPublisherId = some target ∧ target.isRevoked = revokedAfter
        row.toPublisherId false (if id < s.store.nextId then s.since id ++ step.2.events s.store store else [])
      rcases heffects.transfers id row hrow with ⟨old, hold, -, -, hto⟩ | ⟨rfl, -, -, target, htarget, hrevoked⟩
      · obtain ⟨target, htarget, hrevoked⟩ := hs.target id old hold
        obtain ⟨target', htarget', hrevoked'⟩ := heffects.target _ target htarget
        rw [if_pos (hs.known id old hold), hto]
        refine ⟨target', htarget', ?_⟩
        rw [hrevoked', hrevoked]
        exact List.foldl_append.symm
      · rw [if_neg (lt_irrefl _)]
        exact ⟨target, htarget, hrevoked⟩

/-! ### Valid transfers -/

/-- A completion moves the module from the source of the transfer, who owns it at that moment, to a target that is not
revoked at that moment; it goes through for an approved transfer only, and nothing but a completion or an assignment
touches an owner. -/
structure TransferSafe (s : GovernanceHistory) (step : Instant × GovernanceCall) : Prop where
  valid : ∀ id store, step.2 = .complete id → governanceCall s.store step.1 step.2 = .ok store →
    ∃ row own target, s.store.transfers id = some row ∧ row.status = .approved ∧
      s.store.ownership row.moduleId = some own ∧ own.publisherId = row.fromPublisherId ∧
        s.store.publishers row.toPublisherId = some target ∧ target.isRevoked = false ∧
          store.ownership =
            Function.update s.store.ownership row.moduleId (some { own with publisherId := row.toPublisherId })
  unapproved : ∀ id row, step.2 = .complete id → s.store.transfers id = some row → row.status ≠ .approved →
    governanceStep s step = s
  others : (∀ id, step.2 ≠ .complete id) → (∀ moduleId publisherId isProtected,
    step.2 ≠ .assign moduleId publisherId isProtected) →
      (governanceStep s step).store.ownership = s.store.ownership

/-- An approved transfer is completed although, since it was requested, the module has come to another owner, or the
target has been revoked. -/
def CompletesLapsed (s : GovernanceHistory) (step : Instant × GovernanceCall) : Prop :=
  ∃ id row, step.2 = .complete id ∧ s.store.transfers id = some row ∧
    (governanceCall s.store step.1 step.2).toBool = true ∧
      (ownerAfter row.moduleId row.fromPublisherId (s.since id) ≠ row.fromPublisherId ∨
        revokedAfter row.toPublisherId false (s.since id) = true)

theorem ownership_of_others {s s' : GovernanceStore} {now : Instant} {call : GovernanceCall}
    (hcomplete : ∀ id, call ≠ .complete id)
    (hassign : ∀ moduleId publisherId isProtected, call ≠ .assign moduleId publisherId isProtected)
    (h : governanceCall s now call = .ok s') : s'.ownership = s.ownership := by
  cases call with
  | createPublisher publisherId tier =>
    have hcall : createPublisher s publisherId tier = .ok s' := h
    unfold createPublisher at hcall
    cases hrow : s.publishers publisherId with
    | some row =>
      rw [hrow] at hcall
      cases hcall
    | none =>
      rw [hrow] at hcall
      cases hcall
      rfl
  | updateFields publisherId tier =>
    obtain ⟨row, -, h⟩ := exists_of_bind_ok (show updateFields s publisherId tier = .ok s' from h)
    obtain ⟨-, h⟩ := of_guard_ok h
    cases h
    rfl
  | transitionStatus publisherId newStatus =>
    obtain ⟨row, rfl⟩ := transitionStatus_ok h
    rfl
  | verifyPublisher publisherId =>
    obtain ⟨row, rfl⟩ := verifyPublisher_ok h
    rfl
  | assign moduleId publisherId isProtected => exact absurd rfl (hassign moduleId publisherId isProtected)
  | requestTransfer moduleId toPublisherId requestedBy reason =>
    obtain ⟨row, own, target, -, -, -, -, -, rfl⟩ := requestTransfer_ok h
    rfl
  | approve id approvedBy =>
    obtain ⟨row, -, rfl⟩ := decideTransfer_ok (show decideTransfer s .approved id approvedBy now = .ok s' from h)
    rfl
  | reject id approvedBy =>
    obtain ⟨row, -, rfl⟩ := decideTransfer_ok (show decideTransfer s .rejected id approvedBy now = .ok s' from h)
    rfl
  | complete id => exact absurd rfl (hcomplete id)

/-- **One call** moves ownership validly exactly if it completes no lapsed transfer. -/
theorem transferSafe_iff {s : GovernanceHistory} (hs : Recorded s) (step : Instant × GovernanceCall) :
    TransferSafe s step ↔ ¬ CompletesLapsed s step := by
  constructor
  · rintro hsafe ⟨id, row, hcomplete, hrow, hok, hlapsed⟩
    cases hcall : governanceCall s.store step.1 step.2 with
    | error e =>
      rw [hcall] at hok
      cases hok
    | ok store =>
      obtain ⟨row', own, target, hrow', -, hown, howner, htarget, hrevoked, -⟩ := hsafe.valid id store hcomplete hcall
      obtain rfl : row = row' := Option.some.inj (hrow.symm.trans hrow')
      obtain ⟨own', hown', howner'⟩ := hs.owner id row hrow
      obtain ⟨target', htarget', hrevoked'⟩ := hs.target id row hrow
      obtain rfl : own = own' := Option.some.inj (hown.symm.trans hown')
      obtain rfl : target = target' := Option.some.inj (htarget.symm.trans htarget')
      rcases hlapsed with hmoved | hrevoked''
      · exact hmoved (howner'.symm.trans howner)
      · exact Bool.false_ne_true (hrevoked.symm.trans (hrevoked'.trans hrevoked''))
  · intro hnot
    refine ⟨fun id store hcomplete hcall => ?_, fun id row hcomplete hrow hstatus => ?_, fun hcomplete hassign => ?_⟩
    · have hcall' : complete s.store id step.1 = .ok store := by
        rw [hcomplete] at hcall
        exact hcall
      obtain ⟨row, own, hrow, hstatus, hown, rfl⟩ := complete_ok hcall'
      obtain ⟨own', hown', howner⟩ := hs.owner id row hrow
      obtain ⟨target, htarget, hrevoked⟩ := hs.target id row hrow
      obtain rfl : own = own' := Option.some.inj (hown.symm.trans hown')
      have hok : (governanceCall s.store step.1 step.2).toBool = true := by
        rw [hcall]
        rfl
      refine ⟨row, own, target, hrow, hstatus, hown, ?_, htarget, ?_, rfl⟩
      · by_contra hmoved
        exact hnot ⟨id, row, hcomplete, hrow, hok, .inl fun hsame => hmoved (howner.trans hsame)⟩
      · rw [hrevoked, Bool.eq_false_iff]
        exact fun hrevoked => hnot ⟨id, row, hcomplete, hrow, hok, .inr hrevoked⟩
    · cases hcall : governanceCall s.store step.1 step.2 with
      | error e => exact governanceStep_of_error hcall
      | ok store =>
        have hcall' : complete s.store id step.1 = .ok store := by
          rw [hcomplete] at hcall
          exact hcall
        obtain ⟨row', own, hrow', hstatus', -, -⟩ := complete_ok hcall'
        obtain rfl : row = row' := Option.some.inj (hrow.symm.trans hrow')
        exact absurd hstatus' hstatus
    · cases hcall : governanceCall s.store step.1 step.2 with
      | error e => rw [governanceStep_of_error hcall]
      | ok store =>
        rw [governanceStep_of_ok hcall]
        exact ownership_of_others hcomplete hassign hcall

/-! ### Runs -/

/-- Modules and publishers without a transfer. -/
def GovernanceHistory.initial (ownership : String → Option ModuleOwnership)
    (publishers : String → Option ModulePublisher) : GovernanceHistory where
  store := { ownership := ownership, publishers := publishers }

theorem recorded_initial (ownership : String → Option ModuleOwnership)
    (publishers : String → Option ModulePublisher) : Recorded (.initial ownership publishers) where
  known _ _ hrow := Option.noConfusion rfl (heq_of_eq hrow)
  owner _ _ hrow := Option.noConfusion rfl (heq_of_eq hrow)
  target _ _ hrow := Option.noConfusion rfl (heq_of_eq hrow)

/-- **Ownership moves by valid transfers only** exactly in the runs that complete no lapsed transfer. -/
theorem transfers_safe_iff (ownership : String → Option ModuleOwnership)
    (publishers : String → Option ModulePublisher) (steps : List (Instant × GovernanceCall)) :
    AllSteps governanceStep TransferSafe (.initial ownership publishers) steps ↔
      AllSteps governanceStep (fun s step => ¬ CompletesLapsed s step) (.initial ownership publishers) steps :=
  AllSteps.congr_of_invariant (C := fun _ _ => True) (fun _ _ hs _ _ => recorded_step hs)
    (fun _ step hs _ => transferSafe_iff hs step) (recorded_initial ownership publishers)
    (AllSteps.of_forall_mem (P := fun _ => True) fun _ _ => trivial)

/-! ### A transfer that lapses -/

namespace MeterModule

def publishers : String → Option ModulePublisher := fun publisherId =>
  if publisherId ∈ ["acme", "volt", "ohm"] then some { tier := "VERIFIED", status := "ACTIVE" } else none

def ownership : String → Option ModuleOwnership := fun moduleId =>
  if moduleId = "demo.meter" then some { publisherId := "acme" } else none

/-- A transfer to `volt` that is approved, and completed after one more call. -/
def steps (call : GovernanceCall) : List (Instant × GovernanceCall) :=
  [(0, .requestTransfer "demo.meter" "volt" "admin" none), (60, .approve 1 "admin"), (120, call), (180, .complete 1)]

end MeterModule

open MeterModule in
/-- **A lapsed transfer is completed**: after the target has been revoked, and after the module has been assigned to a
third publisher. -/
theorem meter_transfer_lapsed : ¬ AllSteps governanceStep TransferSafe (.initial ownership publishers)
        (steps (.transitionStatus "volt" "REVOKED")) ∧
      ¬ AllSteps governanceStep TransferSafe (.initial ownership publishers)
        (steps (.assign "demo.meter" "ohm" none)) := by
  constructor
  · intro h
    obtain ⟨store, hcall⟩ : ∃ store, governanceCall (run governanceStep (.initial ownership publishers)
        ((steps (.transitionStatus "volt" "REVOKED")).take 3)).store 180 (.complete 1) = .ok store := ⟨_, rfl⟩
    obtain ⟨row, own, target, hrow, -, -, -, htarget, hrevoked, -⟩ := h.2.2.2.1.valid 1 store rfl hcall
    cases hrow
    cases htarget
    revert hrevoked
    decide +kernel
  · intro h
    obtain ⟨store, hcall⟩ : ∃ store, governanceCall (run governanceStep (.initial ownership publishers)
        ((steps (.assign "demo.meter" "ohm" none)).take 3)).store 180 (.complete 1) = .ok store := ⟨_, rfl⟩
    obtain ⟨row, own, target, hrow, -, hown, howner, -⟩ := h.2.2.2.1.valid 1 store rfl hcall
    cases hrow
    cases hown
    revert howner
    decide +kernel

end EnergyCore.Governance
