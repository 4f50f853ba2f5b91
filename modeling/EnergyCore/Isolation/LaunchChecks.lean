import EnergyCore.Isolation.LaunchBudget

/-!
# The checks before a launch

What an operation has obtained before it launches a process, over runs of the manager.

* `startRuntime_checked` — a start has obtained all three checks of its own identity;
* `ends_restart_of_reaches`, `ends_restart_of_not_reaches` — when a restart launches;
* `launches_checked_iff` — in a run each launch is checked exactly if no operation launches again.
-/

namespace EnergyCore.Isolation

open FallibleSteps StepRun
open Governance (PolicyDecision)

/-! ### What is to be obtained -/

/-- What the permission rests on: the settings, or an authorization of exactly this identity that is neither revoked
nor expired. -/
def SpawnPermit.Holds (settings : RuntimeSettings) (text : RuntimeText) (answers : CallAnswers)
    (identity : ModuleIdentity) : SpawnPermit → Prop
  | .settings => settings.runtimeSpawnAllowed = true
  | .authorization record now =>
    record ∈ answers.authorizations ∧ record.moduleId = identity.moduleId ∧ record.version = identity.version ∧
      record.artifactSha256 = text.lower identity.artifactSha256 ∧ record.publisherId = identity.publisherId ∧
      record.siteId = identity.siteId ∧ record.revokedAt = none ∧ now = answers.now .authorization ∧
      now < record.expiresAt

/-- What is launched is of this identity. -/
structure ModuleIdentity.Fits (text : RuntimeText) (identity : ModuleIdentity) (publisherId : String)
    (spec : SandboxLaunchSpec) : Prop where
  moduleId : spec.moduleId = identity.moduleId
  version : spec.version = identity.version
  artifactSha256 : spec.artifactSha256 = text.lower identity.artifactSha256
  siteId : spec.siteId = identity.siteId
  publisherId : publisherId = identity.publisherId

/-- The spawn of this identity has been permitted, with good reason. -/
def Permitted (settings : RuntimeSettings) (text : RuntimeText) (answers : CallAnswers) (identity : ModuleIdentity)
    (events : List HostEvent) : Prop :=
  ∃ permit, .spawnPermitted identity permit ∈ events ∧ permit.Holds settings text answers identity

/-- The RUN decision was not DENY. -/
def Decided (identity : ModuleIdentity) (events : List HostEvent) : Prop :=
  ∃ decision, .runDecided identity.moduleId identity.publisherId decision ∈ events ∧ decision ≠ PolicyDecision.deny

/-- The content of the package has the digest of the identity. -/
def Matched (text : RuntimeText) (answers : CallAnswers) (identity : ModuleIdentity) (packagePath : String)
    (events : List HostEvent) : Prop :=
  .digestMatched packagePath (text.lower identity.artifactSha256) ∈ events ∧
    text.lower answers.contentSha256 = text.lower identity.artifactSha256

/-- All that must be obtained before a launch. -/
structure Checked (settings : RuntimeSettings) (text : RuntimeText) (answers : CallAnswers) (identity : ModuleIdentity)
    (packagePath : String) (events : List HostEvent) : Prop where
  permitted : Permitted settings text answers identity events
  decided : Decided identity events
  matched : Matched text answers identity packagePath events

/-- Each launch comes after its checks. -/
def LaunchesChecked (settings : RuntimeSettings) (text : RuntimeText) (answers : CallAnswers)
    (events : List HostEvent) : Prop :=
  ∀ before id publisherId spec after, events = before ++ .launched id publisherId spec :: after →
    ∃ identity : ModuleIdentity, identity.Fits text publisherId spec ∧
      Checked settings text answers identity spec.packagePath before

/-- The launches of one operation come after checks of the same operation. -/
def StepChecked (settings : RuntimeSettings) (text : RuntimeText) (s : RuntimeHost)
    (step : HostInput × CallAnswers) : Prop :=
  Since s.trace (LaunchesChecked settings text step.2) (hostStep settings text s step)

/-! ### When a restart launches -/

/-- All calls return that a restart makes between reading the row and trying to launch. -/
structure Prepared (answers : CallAnswers) (listening : Prop) (id : String) (row : RuntimeRow) : Prop where
  manifest : givenOr row.packagePath "" = "" ∨ answers.failure (.restartManifest id) = .no
  server : listening ∨ answers.failure (.startServer id) = .no
  script : answers.failure (.bootstrapScript id) = .no

/-- The call fails before it has had its effect. -/
def Failure.Early (failure : Failure) : Prop := ∃ message, failure = .before message

/-- The restart launches a process. -/
structure Reaches (answers : CallAnswers) (listening : Prop) (id : String) (row : RuntimeRow) : Prop where
  read : answers.failure (.readForRestart id) = .no
  prepared : Prepared answers listening id row
  starting : answers.failure (.transition id .starting) = .no
  launch : ¬ (answers.failure (.launch id)).Early

/-- The restart launches nothing and returns: what failed is stored as a crash. -/
structure FailsQuietly (answers : CallAnswers) (listening : Prop) (id : String) (row : RuntimeRow) : Prop where
  read : answers.failure (.readForRestart id) = .no
  prepared : Prepared answers listening id row
  starting : ¬ (answers.failure (.transition id .starting)).Early
  unlaunched : answers.failure (.transition id .starting) = .no → (answers.failure (.launch id)).Early
  crashed : answers.failure (.transition id .crashed) = .no

/-- The runtime waits to be launched again. -/
def Pending (processes : String → Option ℕ) (id : String) (row : RuntimeRow) : Prop :=
  row.state = .preparing ∧ 0 < row.restartCount ∧ processes id = none

/-- No pending restart of the list launches a process: the first that does not fail quietly raises. -/
def PendingQuiet (answers : CallAnswers) (processes : String → Option ℕ) : Prop → List (String × RuntimeRow) → Prop
  | _, [] => True
  | listening, (id, row) :: records =>
    (Pending processes id row → ¬ Reaches answers listening id row) ∧
      (¬ Pending processes id row → PendingQuiet answers processes listening records) ∧
      (Pending processes id row → FailsQuietly answers listening id row → PendingQuiet answers processes True records)

/-- The operation launches a runtime again. -/
def LaunchesAgain (s : RuntimeHost) (step : HostInput × CallAnswers) : Prop :=
  match step.1 with
  | .restartRuntimeInstance id =>
    ∃ row, s.rows id = some row ∧ row.state = .preparing ∧ Reaches step.2 (s.listenAddress ≠ none) id row
  | .processPendingRestarts =>
    step.2.failure .listPending = .no ∧
      ¬ PendingQuiet step.2 s.processes (s.listenAddress ≠ none) s.instances
  | _ => False

/-! ### Kinds of events -/

def HostEvent.isLaunch : HostEvent → Bool
  | .launched _ _ _ => true
  | _ => false

def HostEvent.isPermission : HostEvent → Bool
  | .spawnPermitted _ _ => true
  | _ => false

/-- None of the events is of this kind. -/
def Without (kind : HostEvent → Bool) (events : List HostEvent) : Prop := ∀ event ∈ events, kind event = false

/-- One of the events is of this kind. -/
def Having (kind : HostEvent → Bool) (events : List HostEvent) : Prop := ∃ event ∈ events, kind event = true

section

variable {settings : RuntimeSettings} {text : RuntimeText} {answers : CallAnswers} {kind : HostEvent → Bool}
  {event : HostEvent} {events : List HostEvent} {s s' : RuntimeHost} {t : List HostEvent}

theorem admits_without (h : kind event = false) : Admits (Without kind) event := by
  intro events hwithout event' hmem
  rcases List.mem_append.mp hmem with hmem | hmem
  · exact hwithout event' hmem
  · rw [List.mem_singleton.mp hmem]
    exact h

theorem admits_having : Admits (Having kind) event := by
  rintro events ⟨event', hmem, hkind⟩
  exact ⟨event', List.mem_append_left _ hmem, hkind⟩

theorem Since.mono {R R' : List HostEvent → Prop} (h : Since t R s) (hR : ∀ events, R events → R' events) :
    Since t R' s := by
  obtain ⟨events, htrace, hevents⟩ := h
  exact ⟨events, htrace, hR events hevents⟩

/-- Two facts about the same events. -/
theorem Since.and {R R' : List HostEvent → Prop} (h : Since t R s) (h' : Since t R' s) :
    Since t (fun events => R events ∧ R' events) s := by
  obtain ⟨events, htrace, hevents⟩ := h
  obtain ⟨events', htrace', hevents'⟩ := h'
  rw [htrace] at htrace'
  rw [← List.append_cancel_left htrace'] at hevents'
  exact ⟨events, htrace, hevents, hevents'⟩

/-- An event after which something else holds. -/
theorem Since.logged {R R' : List HostEvent → Prop} (h : Since t R s)
    (hevent : ∀ events, R events → R' (events ++ [event])) : Since t R' (s.log event) := by
  obtain ⟨events, htrace, hevents⟩ := h
  refine ⟨events ++ [event], ?_, hevent events hevents⟩
  show s.trace ++ [event] = _
  rw [htrace, List.append_assoc]

theorem since_refl {R : List HostEvent → Prop} (h : R []) : Since s.trace R s := ⟨[], (List.append_nil _).symm, h⟩

theorem since_without_refl : Since s.trace (Without kind) s := since_refl fun _ hmem => absurd hmem List.not_mem_nil

section

variable {identity : ModuleIdentity} {packagePath : String} {events' : List HostEvent} (hsubset : events ⊆ events')
include hsubset

theorem Permitted.mono (h : Permitted settings text answers identity events) :
    Permitted settings text answers identity events' := by
  obtain ⟨permit, hmem, hholds⟩ := h
  exact ⟨permit, hsubset hmem, hholds⟩

theorem Decided.mono (h : Decided identity events) : Decided identity events' := by
  obtain ⟨decision, hmem, hdeny⟩ := h
  exact ⟨decision, hsubset hmem, hdeny⟩

theorem Checked.mono (h : Checked settings text answers identity packagePath events) :
    Checked settings text answers identity packagePath events' :=
  ⟨h.permitted.mono hsubset, h.decided.mono hsubset, hsubset h.matched.1, h.matched.2⟩

end

theorem launchesChecked_of_without (h : Without HostEvent.isLaunch events) :
    LaunchesChecked settings text answers events := by
  intro before id publisherId spec after heq
  have hmem : HostEvent.launched id publisherId spec ∈ events := by
    rw [heq]
    exact List.mem_append_right _ List.mem_cons_self
  exact absurd (h _ hmem) Bool.true_eq_false.mp

/-- A launch without any permission is not checked. -/
theorem not_launchesChecked (hlaunch : Having HostEvent.isLaunch events)
    (hpermission : Without HostEvent.isPermission events) : ¬ LaunchesChecked settings text answers events := by
  intro h
  obtain ⟨event, hmem, hkind⟩ := hlaunch
  obtain ⟨before, after, heq⟩ := List.append_of_mem hmem
  cases event with
  | launched id publisherId spec =>
    obtain ⟨identity, -, hchecked⟩ := h before id publisherId spec after heq
    obtain ⟨permit, hpermit, -⟩ := hchecked.permitted
    have hfalse := hpermission (.spawnPermitted identity permit) (by
      rw [heq]
      exact List.mem_append_left _ hpermit)
    cases hfalse
  | spawnPermitted | runDecided | digestMatched | moved | started | terminated | heartbeat | timedOut => cases hkind

/-- An event that is no launch, or one that comes after its checks. -/
theorem LaunchesChecked.concat (h : LaunchesChecked settings text answers events)
    (hevent : ∀ id publisherId spec, event = .launched id publisherId spec →
      ∃ identity : ModuleIdentity, identity.Fits text publisherId spec ∧
        Checked settings text answers identity spec.packagePath events) :
    LaunchesChecked settings text answers (events ++ [event]) := by
  intro before id publisherId spec after heq
  rcases List.eq_nil_or_concat' after with rfl | ⟨after', last, rfl⟩
  · have hsplit := List.append_inj' heq rfl
    rw [← hsplit.1]
    exact hevent id publisherId spec (List.singleton_inj.mp hsplit.2)
  · rw [← List.cons_append, ← List.append_assoc] at heq
    exact h before id publisherId spec after' (List.append_inj' heq rfl).1

end

/-! ### Starting -/

section

variable {settings : RuntimeSettings} {text : RuntimeText} {answers : CallAnswers} {identity : ModuleIdentity}
  {s : RuntimeHost} {t : List HostEvent}

variable (settings) in
theorem holds_of_findValid {record : RuntimeAuthorizationRecord}
    (h : findValid text answers.authorizations identity (answers.now .authorization) = some record) :
    (SpawnPermit.authorization record (answers.now .authorization)).Holds settings text answers identity := by
  unfold findValid at h
  have hfound := List.find?_some h
  obtain ⟨hmodule, hversion, hdigest, hpublisher, hsite, hrevoked, hexpires⟩ := of_decide_eq_true hfound
  exact ⟨List.mem_of_find?_eq_some h, hmodule, hversion, hdigest, hpublisher, hsite, hrevoked, rfl, hexpires⟩

/-- Nothing has been launched since, and this has been obtained. -/
def Obtained (t : List HostEvent) (R : List HostEvent → Prop) : RuntimeHost → Prop :=
  Since t fun events => Without HostEvent.isLaunch events ∧ R events

theorem Obtained.unlaunched {R : List HostEvent → Prop} (h : Obtained t R s) :
    Since t (LaunchesChecked settings text answers) s :=
  h.mono fun _ h => launchesChecked_of_without h.1

/-- One more check, of which an event tells. -/
theorem Obtained.logged {R R' : List HostEvent → Prop} {event : HostEvent} (h : Obtained t R s)
    (hkind : event.isLaunch = false) (hevent : ∀ events, R events → R' (events ++ [event])) :
    Obtained t R' (s.log event) :=
  Since.logged h fun events h => ⟨admits_without hkind events h.1, hevent events h.2⟩

theorem ends_runtimeSpawnAllowed {R : List HostEvent → Prop} (hs : Obtained t R s) :
    Ends (runtimeSpawnAllowed settings text answers identity) s
      (fun allowed => if allowed = true then Obtained t (Permitted settings text answers identity)
        else Since t (LaunchesChecked settings text answers))
      fun _ => Since t (LaunchesChecked settings text answers) := by
  have hpermitted : ∀ permit : SpawnPermit, permit.Holds settings text answers identity →
      Obtained t (Permitted settings text answers identity) (s.log (.spawnPermitted identity permit)) :=
    fun permit hholds => hs.logged rfl fun _ _ => ⟨permit, by simp, hholds⟩
  unfold runtimeSpawnAllowed
  refine ends_ite (fun hallowed => ?_) fun _ => ?_
  · exact ends_bind (ends_modify (Q := fun _ s' => s' = s.log (.spawnPermitted identity .settings)) rfl)
      fun _ s' hs' => ends_pure (hs' ▸ hpermitted .settings hallowed)
  · refine ends_attempt (fun _ => hs.unlaunched) ?_
    cases hfind : findValid text answers.authorizations identity (answers.now .authorization) with
    | none => exact ends_pure ⟨hs.unlaunched, fun _ => hs.unlaunched⟩
    | some record =>
      have hrecord := hpermitted _ (holds_of_findValid settings hfind)
      refine ends_bind (ends_modify (Q := fun _ s' => s' = _) rfl) ?_
      rintro _ s' rfl
      exact ends_pure ⟨hrecord, fun _ => hrecord.unlaunched⟩

theorem decision_of_policyRefusal {descriptor : ModuleDescriptor} {result : Governance.PolicyEvaluationResult}
    (h : policyRefusal text descriptor result = none) : result.decision ≠ .deny := by
  intro hdeny
  unfold policyRefusal at h
  rw [if_pos hdeny] at h
  cases h

theorem ends_evaluateRun {R : List HostEvent → Prop} {permissions capabilities : List String}
    (hR : ∀ events event, R events → R (events ++ [event])) (hs : Obtained t R s) :
    Ends (evaluateRun settings text answers identity permissions capabilities) s
      (fun result => Obtained t fun events => R events ∧ (result.decision ≠ .deny → Decided identity events))
      fun _ => Since t (LaunchesChecked settings text answers) := by
  unfold evaluateRun
  refine ends_attempt (fun _ => hs.unlaunched) ?_
  refine ends_bind (ends_modify (Q := fun _ s' => s' = _) rfl) ?_
  rintro _ s' rfl
  have hlogged : ∀ decision, Obtained t
      (fun events => R events ∧ (decision ≠ PolicyDecision.deny → Decided identity events))
      (s.log (.runDecided identity.moduleId identity.publisherId decision)) :=
    fun decision => hs.logged rfl fun events h => ⟨hR _ _ h, fun hdeny => ⟨decision, by simp, hdeny⟩⟩
  exact ends_pure ⟨hlogged _, fun _ => (hlogged _).unlaunched⟩

theorem ends_verifyPackageDigest {R : List HostEvent → Prop} {packagePath : String}
    (hR : ∀ events event, R events → R (events ++ [event])) (hs : Obtained t R s) :
    Ends (verifyPackageDigest text answers packagePath identity.artifactSha256) s
      (fun matched => if matched = true then
          Obtained t fun events => R events ∧ Matched text answers identity packagePath events
        else Since t (LaunchesChecked settings text answers))
      fun _ => Since t (LaunchesChecked settings text answers) := by
  unfold verifyPackageDigest
  refine ends_attempt (fun _ => hs.unlaunched) ?_
  refine ends_ite (fun hmatched => ?_) fun _ => ends_pure ⟨hs.unlaunched, fun _ => hs.unlaunched⟩
  have hlogged : Obtained t (fun events => R events ∧ Matched text answers identity packagePath events)
      (s.log (.digestMatched packagePath (text.lower identity.artifactSha256))) :=
    hs.logged rfl fun events h => ⟨hR _ _ h, by simp, hmatched⟩
  refine ends_bind (ends_modify (Q := fun _ s' => s' = _) rfl) ?_
  rintro _ s' rfl
  exact ends_pure ⟨hlogged, fun _ => hlogged.unlaunched⟩

/-- What has been checked may be launched. -/
theorem ends_startAdmitted_checked {package : InstalledPackage} {permissions capabilities : List String}
    (hs : Obtained t (Checked settings text answers identity package.packagePath) s) :
    Ends (startAdmitted settings text answers identity package permissions capabilities) s
      (fun _ => Since t (LaunchesChecked settings text answers))
      fun _ => Since t (LaunchesChecked settings text answers) := by
  have hadmits : ∀ event : HostEvent, event.isLaunch = false → Admits (fun events =>
      LaunchesChecked settings text answers events ∧
        Checked settings text answers identity package.packagePath events) event := by
    intro event hkind events h
    refine ⟨h.1.concat fun id publisherId spec heq => ?_, h.2.mono (List.subset_append_left _ _)⟩
    rw [heq] at hkind
    cases hkind
  have hrule : LaunchRule answers answers.runtimeInstanceId
      (fun publisherId spec => identity.Fits text publisherId spec ∧ spec.packagePath = package.packagePath) _ _ _ _ :=
    launchRule_since (t := t) (fun _ => hadmits _ rfl) (fun _ => hadmits _ rfl) (fun _ => hadmits _ rfl)
      fun publisherId spec hfits events h =>
        ⟨h.1.concat fun id publisherId' spec' heq => by
          rw [HostEvent.launched.injEq] at heq
          obtain ⟨-, rfl, rfl⟩ := heq
          exact ⟨identity, hfits.1, hfits.2 ▸ h.2⟩,
        h.2.mono (List.subset_append_left _ _)⟩
  have hstart : Since t (fun events => LaunchesChecked settings text answers events ∧
      Checked settings text answers identity package.packagePath events) s :=
    hs.mono fun _ h => ⟨launchesChecked_of_without h.1, h.2⟩
  refine (hrule.ends_startAdmitted (fun row _ => ?_) fun spec hmodule hversion hdigest hsite hpath => ?_).mono
    (fun _ _ h => h.mono fun _ h => h.1) fun _ _ h => h.mono fun _ h => h.1
  · exact ends_createInstance hstart fun _ => ⟨⟨rfl, hstart.of_trace rfl⟩, hstart.of_trace rfl⟩
  · exact ⟨⟨hmodule, hversion, hdigest, hsite, rfl⟩, hpath⟩

/-- **A start** launches only what it has checked. -/
theorem startRuntime_checked (request : RuntimeStartRequest) :
    Ends (startRuntime settings text answers request) s (fun _ => Since s.trace (LaunchesChecked settings text answers))
      fun _ => Since s.trace (LaunchesChecked settings text answers) := by
  have hs : Obtained s.trace (fun _ => True) s := since_refl ⟨fun _ hmem => absurd hmem List.not_mem_nil, trivial⟩
  unfold startRuntime
  cases answers.registry request.moduleId with
  | none => exact ends_pure hs.unlaunched
  | some descriptor =>
    refine ends_bind ((ends_answer hs).mono (fun _ _ h => h) fun _ _ h => h.unlaunched) ?_
    rintro package s₁ ⟨rfl, rfl⟩
    cases answers.packages request.moduleId with
    | none => exact ends_pure hs.unlaunched
    | some package =>
      refine ends_bind (ends_runtimeSpawnAllowed hs) fun allowed s₂ h₂ => ?_
      refine ends_ite (fun hallowed => ?_) fun hallowed => ?_
      · rw [if_pos hallowed] at h₂
        unfold startPermitted
        refine ends_bind ((ends_answer h₂).mono (fun _ _ h => h) fun _ _ h => h.unlaunched) ?_
        rintro manifest s₃ ⟨rfl, rfl⟩
        refine ends_bind (ends_evaluateRun (fun _ _ h => h.mono (List.subset_append_left _ _)) h₂) ?_
        intro result s₄ h₄
        cases hrefusal : policyRefusal text descriptor result with
        | some refusal => exact ends_pure h₄.unlaunched
        | none =>
          have h₅ : Obtained s₁.trace (fun events =>
              Permitted settings text answers (identityOf request package) events ∧
                Decided (identityOf request package) events) s₄ :=
            h₄.mono fun _ h => ⟨h.1, h.2.1, h.2.2 (decision_of_policyRefusal hrefusal)⟩
          refine ends_bind (ends_verifyPackageDigest (fun _ _ h =>
            ⟨h.1.mono (List.subset_append_left _ _), h.2.mono (List.subset_append_left _ _)⟩) h₅) ?_
          intro matched s₆ h₆
          refine ends_ite (fun hmatched => ?_) fun hmatched => ?_
          · rw [if_pos hmatched] at h₆
            exact ends_startAdmitted_checked (h₆.mono fun _ h => ⟨h.1, h.2.1.1, h.2.1.2, h.2.2⟩)
          · rw [if_neg hmatched] at h₆
            exact ends_pure h₆
      · rw [if_neg hallowed] at h₂
        exact ends_pure h₂

end

/-! ### Operations that launch nothing -/

section

variable {settings : RuntimeSettings} {text : RuntimeText} {answers : CallAnswers} {id : String} {row : RuntimeRow}
  {s : RuntimeHost} {t : List HostEvent} {R : List HostEvent → Prop}

theorem keeps_supervise_since (hmoved : ∀ id toState, Admits R (.moved id toState))
    (hterminated : ∀ process, Admits R (.terminated process)) (htimedOut : ∀ id now, Admits R (.timedOut id now)) :
    Keeps (Since t R) (supervise settings answers) := by
  have heach : ∀ now records, Keeps (Since t R) (superviseEach settings answers now records) := by
    intro now records
    induction records with
    | nil => exact keeps_pure ()
    | cons record records ih =>
      unfold superviseEach
      refine keeps_bind (fun s hs => ?_) fun _ => ih
      exact (superviseRule_since (hmoved record.1) hterminated).ends_superviseOne hs
        fun _ _ _ _ _ _ s' h => h.log (htimedOut record.1 now)
  unfold supervise
  exact keeps_bind (keeps_listInstances _) fun records => heach _ records

theorem keeps_restart_since (hmoved : ∀ toState, Admits R (.moved id toState))
    (hterminated : ∀ process, Admits R (.terminated process)) (hstarted : ∀ now, Admits R (.started id now))
    (hlaunched : ∀ publisherId spec, Admits R (.launched id publisherId spec)) :
    Keeps (Since t R) (restartRuntimeInstance settings text answers id) :=
  have hrule : LaunchRule answers id (fun _ _ => True) (Since t R) (Since t R) (Since t R) (Since t R) :=
    launchRule_since hmoved hterminated hstarted fun publisherId spec _ => hlaunched publisherId spec
  fun _ hs => hrule.ends_restartRuntimeInstance (fun _ _ _ => hs) (fun _ _ => trivial) hs

theorem keeps_restartEach_since (hmoved : ∀ id toState, Admits R (.moved id toState))
    (hterminated : ∀ process, Admits R (.terminated process)) (hstarted : ∀ id now, Admits R (.started id now))
    (hlaunched : ∀ id publisherId spec, Admits R (.launched id publisherId spec))
    (records : List (String × RuntimeRow)) : Keeps (Since t R) (restartEach settings text answers records) :=
  keeps_restartEach (fun id => keeps_restart_since (hmoved id) hterminated (hstarted id) (hlaunched id)) records

/-! ### A restart -/

theorem Beside.refl : Beside id s s := ⟨rfl, rfl, rfl, fun _ _ => rfl, fun _ _ => rfl⟩

theorem localTo_beside : LocalTo id (Beside id s) := by
  intro s' s'' hbeside h
  exact ⟨hbeside.rows.trans h.rows, hbeside.ids.trans h.ids, hbeside.trace.trans h.trace,
    fun j hj => (hbeside.processes j hj).trans (h.processes j hj),
    fun j hj => (hbeside.missCounts j hj).trans (h.missCounts j hj)⟩

/-- A restart comes to its launch exactly if it is prepared. -/
theorem ends_prepareRestart : Ends (prepareRestart settings answers id row) s
      (fun _ s' => Beside id s s' ∧ s'.listenAddress ≠ none ∧ Prepared answers (s.listenAddress ≠ none) id row)
      fun _ s' => Beside id s s' ∧ ¬ Prepared answers (s.listenAddress ≠ none) id row := by
  have hmanifest : Ends (restartManifest answers id row) s
      (fun _ s' => s' = s ∧ (givenOr row.packagePath "" = "" ∨ answers.failure (.restartManifest id) = .no))
      fun _ s' => s' = s ∧ ¬ Prepared answers (s.listenAddress ≠ none) id row := by
    unfold restartManifest readManifest
    refine ends_ite (fun hpath => ends_pure ⟨rfl, .inl hpath⟩) fun hpath => ?_
    have hfails : answers.failure (.restartManifest id) ≠ .no →
        ¬ Prepared answers (s.listenAddress ≠ none) id row := by
      intro hfailure hprepared
      rcases hprepared.manifest with h | h
      · exact hpath h
      · exact hfailure h
    refine (ends_attempt_returns (Q := fun _ s' => s' = s) (fun message h => ⟨rfl, hfails ?_⟩)
      (ends_pure ⟨rfl, fun message h => ⟨rfl, hfails ?_⟩⟩)).mono (fun _ _ h => ⟨h.2, .inr h.1⟩) fun _ _ h => h
    all_goals
      rw [h]
      exact Failure.noConfusion
  have hserver : ∀ s₁, Beside id s s₁ → s₁.listenAddress = s.listenAddress → Ends (ensureServer answers id) s₁
      (fun _ s' => Beside id s s' ∧ s'.listenAddress ≠ none ∧
        (s.listenAddress ≠ none ∨ answers.failure (.startServer id) = .no))
      fun _ s' => Beside id s s' ∧ ¬ Prepared answers (s.listenAddress ≠ none) id row := by
    intro s₁ hbeside hlisten
    unfold ensureServer
    refine ends_bind (ends_get (Q := fun s₂ s' => s₂ = s₁ ∧ s' = s₁) ⟨rfl, rfl⟩) ?_
    rintro s₂ s' ⟨rfl, rfl⟩
    refine ends_ite (fun hnone => ?_) fun hsome => ?_
    · have hfails : answers.failure (.startServer id) ≠ .no →
          ¬ Prepared answers (s.listenAddress ≠ none) id row := by
        intro hfailure hprepared
        rcases hprepared.server with h | h
        · exact h (hlisten ▸ hnone)
        · exact hfailure h
      have hbeside' := localTo_beside _ _ ((MemoryChange.listen (answers.listenAddress id)).beside s') hbeside
      unfold startServer
      refine (ends_attempt_returns (Q := fun _ s'' => Beside id s s'' ∧ s''.listenAddress ≠ none)
        (fun message h => ⟨hbeside, hfails ?_⟩)
        (ends_modify ⟨⟨hbeside', Option.some_ne_none _⟩, fun message h => ⟨hbeside', hfails ?_⟩⟩)).mono
        (fun _ _ h => ⟨h.2.1, h.2.2, .inr h.1⟩) fun _ _ h => h
      all_goals
        rw [h]
        exact Failure.noConfusion
    · exact ends_pure ⟨hbeside, hsome, .inl (hlisten ▸ hsome)⟩
  unfold prepareRestart
  refine ends_bind (hmanifest.mono (fun _ _ h => h) fun _ s' h => ⟨h.1 ▸ Beside.refl, h.2⟩) ?_
  rintro manifest s₁ ⟨rfl, hreadable⟩
  have hregistered : ∀ record permissions capabilities siteConfig token now,
      Beside id s₁ ((s₁.unregister id).register record permissions capabilities siteConfig token now) :=
    fun _ _ _ _ _ _ => ⟨rfl, rfl, rfl, fun _ _ => rfl, fun _ _ => rfl⟩
  refine ends_bind (ends_modify (Q := fun _ s' => s' = s₁.unregister id) rfl) ?_
  rintro _ s₂ rfl
  refine ends_bind (ends_modify (Q := fun _ s' => Beside id s₁ s' ∧ s'.listenAddress = s₁.listenAddress)
    ⟨hregistered _ _ _ _ _ _, rfl⟩) ?_
  rintro _ s₃ ⟨hbeside, hlisten⟩
  refine ends_bind (hserver s₃ hbeside hlisten) ?_
  rintro _ s₄ ⟨hbeside₄, hlistening, hstarted⟩
  refine ends_bind (ends_get (Q := fun _ s' => s' = s₄) rfl) ?_
  rintro host s₅ rfl
  have hfails : answers.failure (.bootstrapScript id) ≠ .no →
      ¬ Prepared answers (s₁.listenAddress ≠ none) id row := fun hfailure hprepared => hfailure hprepared.script
  refine ends_bind (Q := fun _ s' => answers.failure (.bootstrapScript id) = .no ∧ s' = s₅)
    (ends_attempt_returns (fun message h => ⟨hbeside₄, hfails ?_⟩)
      (ends_pure ⟨rfl, fun message h => ⟨hbeside₄, hfails ?_⟩⟩)) ?_
  · rw [h]
    exact Failure.noConfusion
  · rw [h]
    exact Failure.noConfusion
  · rintro _ s₆ ⟨hscript, rfl⟩
    exact ends_pure ⟨hbeside₄, hlistening, hreadable, hstarted, hscript⟩

/-- A legal move that returns has been stored; one that raises may have been stored. -/
theorem ends_transition_of_legal {toState : IsolatedRuntimeState} {change : RuntimeRow → RuntimeRow}
    (hrow : s.rows id = some row) (hlegal : row.state.canTransition toState = true) :
    Ends (transition answers id toState change) s
      (fun _ s' => answers.failure (.transition id toState) = .no ∧
        s' = (s.setRow id { change row with state := toState }).log (.moved id toState))
      fun _ s' => answers.failure (.transition id toState) ≠ .no ∧
        ((answers.failure (.transition id toState)).Early ∧ s' = s ∨
          ¬ (answers.failure (.transition id toState)).Early ∧
            s' = (s.setRow id { change row with state := toState }).log (.moved id toState)) := by
  cases hfailure : answers.failure (.transition id toState) with
  | no => exact (ends_iff_of_ok (run_transition hrow hlegal hfailure)).mpr ⟨rfl, rfl⟩
  | before message =>
    exact (ends_iff_of_error (attempt_of_before hfailure)).mpr ⟨Failure.noConfusion, .inl ⟨⟨message, rfl⟩, rfl⟩⟩
  | after message =>
    refine (ends_iff_of_error (run_transition_of_after hrow hlegal hfailure)).mpr ⟨Failure.noConfusion, .inr ⟨?_, rfl⟩⟩
    rintro ⟨_, h⟩
    cases h

/-- Nothing is launched, and what is kept of other runtimes is as before. -/
structure Aside (id : String) (s s' : RuntimeHost) : Prop where
  launched : Since s.trace (Without HostEvent.isLaunch) s'
  rows : ∀ j, j ≠ id → s'.rows j = s.rows j
  processes : ∀ j, j ≠ id → s'.processes j = s.processes j

theorem Beside.aside {s' : RuntimeHost} (h : Beside id s s') : Aside id s s' :=
  ⟨since_without_refl.of_trace h.trace, fun j _ => congrFun h.rows j, h.processes⟩

theorem Aside.moved {s' : RuntimeHost} {toState : IsolatedRuntimeState} (h : Aside id s s') :
    Aside id s ((s'.setRow id row).log (.moved id toState)) :=
  ⟨Since.log (s := s'.setRow id row) (h.launched.of_trace rfl) (admits_without rfl),
    fun j hj => (rows_move_of_ne s' hj row _).trans (h.rows j hj), h.processes⟩

/-- What a restart does whose launch is not reached. -/
theorem ends_launchAgain_of_not_reaches {spec : SandboxLaunchSpec} {s₀ : RuntimeHost} {row₀ : RuntimeRow}
    (hbeside : Aside id s₀ s) (hlisten : s.listenAddress ≠ none) (hrow : s.rows id = some row)
    (hstate : row.state = .preparing)
    (hreaches : answers.failure (.transition id .starting) = .no → (answers.failure (.launch id)).Early) :
    Ends (tryCatch (launchAgain settings text answers id row₀ spec) (restartFailed answers id)) s
      (fun _ s' => Aside id s₀ s' ∧ s'.listenAddress ≠ none ∧
        ¬ (answers.failure (.transition id .starting)).Early ∧ answers.failure (.transition id .crashed) = .no)
      fun _ s' => Aside id s₀ s' ∧ ((answers.failure (.transition id .starting)).Early ∨
        answers.failure (.transition id .crashed) ≠ .no) := by
  have hlegal : row.state.canTransition .starting = true := by
    rw [hstate]
    rfl
  -- what the handler finds: the move to STARTING may have been stored
  have hbody : Ends (launchAgain settings text answers id row₀ spec) s
      (fun _ s' => Aside id s₀ s' ∧ s'.listenAddress ≠ none ∧
        ¬ (answers.failure (.transition id .starting)).Early ∧ answers.failure (.transition id .crashed) = .no)
      fun _ s' => s' = s ∧ (answers.failure (.transition id .starting)).Early ∨
        Aside id s₀ s' ∧ s'.listenAddress ≠ none ∧ ¬ (answers.failure (.transition id .starting)).Early ∧
          ∃ row', s'.rows id = some row' ∧ row'.state = .starting := by
    unfold launchAgain
    refine ends_bind ((ends_transition_of_legal hrow hlegal).mono (fun _ _ h => h) ?_) ?_
    · rintro message s' ⟨-, ⟨hearly, rfl⟩ | ⟨hearly, rfl⟩⟩
      · exact .inl ⟨rfl, hearly⟩
      · exact .inr ⟨hbeside.moved, hlisten, hearly, _, rows_move_self _ _ _ _, rfl⟩
    · rintro _ s₁ ⟨hstarting, rfl⟩
      obtain ⟨message, hlaunch⟩ := hreaches hstarting
      have hnotEarly : ¬ (answers.failure (.transition id .starting)).Early := by
        rw [hstarting]
        rintro ⟨_, h⟩
        cases h
      have hprocess : ∀ s', launchProcess answers id row₀.publisherId spec s' = .error message s' :=
        fun s' => run_bind_of_error (attempt_of_before hlaunch)
      exact ends_bind_of_error (hprocess _) (.inr ⟨hbeside.moved, hlisten, hnotEarly, _, rows_move_self _ _ _ _, rfl⟩)
  refine ends_tryCatch hbody ?_
  · rintro message s' (⟨rfl, hearly⟩ | ⟨haside, hlisten', hearly, row', hrow', hstate'⟩)
    · have hillegal : row.state.canTransition .crashed = false := by
        rw [hstate]
        rfl
      have hcrashed : ∃ message', transition answers id .crashed (fun row => { row with lastError := some message })
          s' = .error message' s' := run_transition_of_illegal hrow hillegal
      obtain ⟨message', hcrashed⟩ := hcrashed
      exact ends_bind_of_error hcrashed ⟨hbeside, .inl hearly⟩
    · have hlegal' : row'.state.canTransition .crashed = true := by
        rw [hstate']
        rfl
      refine ends_bind ((ends_transition_of_legal hrow' hlegal').mono (fun _ _ h => h) ?_) ?_
      · rintro message' s'' ⟨hcrashed, ⟨-, rfl⟩ | ⟨-, rfl⟩⟩
        · exact ⟨haside, .inr hcrashed⟩
        · exact ⟨haside.moved, .inr hcrashed⟩
      · rintro _ s'' ⟨hcrashed, rfl⟩
        exact ends_pure ⟨haside.moved, hlisten', hearly, hcrashed⟩

variable (settings text) in
/-- A restart that does not reach its launch returns only where it fails quietly. -/
theorem ends_restart_of_not_reaches (hrow : s.rows id = some row) (hstate : row.state = .preparing)
    (hreaches : ¬ Reaches answers (s.listenAddress ≠ none) id row) :
    Ends (restartRuntimeInstance settings text answers id) s
      (fun _ s' => Aside id s s' ∧ s'.listenAddress ≠ none ∧ FailsQuietly answers (s.listenAddress ≠ none) id row)
      fun _ s' => Aside id s s' ∧ ¬ FailsQuietly answers (s.listenAddress ≠ none) id row := by
  by_cases hread : answers.failure (.readForRestart id) = .no
  · unfold restartRuntimeInstance
    refine ends_bind_of_ok (run_getByInstanceId hread) ?_
    rw [hrow]
    refine ends_ite (fun hne => absurd hstate hne) fun _ => ?_
    refine ends_bind (ends_prepareRestart.mono (fun _ _ h => h) fun _ s' h =>
      ⟨h.1.aside, fun hquiet => h.2 hquiet.prepared⟩) ?_
    rintro spec s₁ ⟨hbeside, hlisten, hprepared⟩
    have hlaunch : answers.failure (.transition id .starting) = .no → (answers.failure (.launch id)).Early := by
      intro hstarting
      by_contra hearly
      exact hreaches ⟨hread, hprepared, hstarting, hearly⟩
    refine (ends_launchAgain_of_not_reaches hbeside.aside hlisten ((congrFun hbeside.rows id).trans hrow) hstate
      hlaunch).mono (fun _ s' h => ?_) fun _ s' h => ?_
    · exact ⟨h.1, h.2.1, hread, hprepared, h.2.2.1, hlaunch, h.2.2.2⟩
    · refine ⟨h.1, fun hquiet => ?_⟩
      rcases h.2 with hearly | hcrashed
      · exact hquiet.starting hearly
      · exact hcrashed hquiet.crashed
  · obtain ⟨message, hfail⟩ := run_getByInstanceId_of_failure hread
    exact ends_bind_of_error hfail ⟨Beside.refl.aside, fun hquiet => hread hquiet.read⟩

/-- **A restart that reaches its launch** launches, whatever becomes of it. -/
theorem ends_restart_of_reaches (hrow : s.rows id = some row) (hstate : row.state = .preparing)
    (hreaches : Reaches answers (s.listenAddress ≠ none) id row) (hs : Since t (fun _ => True) s) :
    Ends (restartRuntimeInstance settings text answers id) s (fun _ => Since t (Having HostEvent.isLaunch))
      fun _ => Since t (Having HostEvent.isLaunch) := by
  have hkept : LaunchRule answers id (fun _ _ => True) (Since t (Having HostEvent.isLaunch))
      (Since t (Having HostEvent.isLaunch)) (Since t (Having HostEvent.isLaunch))
      (Since t (Having HostEvent.isLaunch)) :=
    launchRule_since (fun _ => admits_having) (fun _ => admits_having) (fun _ => admits_having)
      fun _ _ _ => admits_having
  have hrule : LaunchRule answers id (fun _ _ => True) (fun _ => True)
      (fun s => Since t (fun _ => True) s ∧ ∃ row, s.rows id = some row ∧ row.state = .preparing)
      (Since t fun _ => True) (Since t (Having HostEvent.isLaunch)) := by
    refine ⟨?_, fun _ _ => trivial, ?_, ?_, hkept.launched, hkept.move, hkept.terminated, fun _ _ => trivial⟩
    · rintro s s' hbeside ⟨hs, row, hrow, hstate⟩
      exact ⟨hs.of_trace hbeside.trace, row, (congrFun hbeside.rows id).trans hrow, hstate⟩
    · rintro change hchange s ⟨hs, row, hrow, hstate⟩
      have hlegal : row.state.canTransition .starting = true := by
        rw [hstate]
        rfl
      refine (ends_transition_of_legal hrow hlegal).mono ?_ fun _ _ h => absurd hreaches.starting h.1
      rintro _ s' ⟨-, rfl⟩
      exact Since.log (s := s.setRow id { change row with state := .starting }) (hs.of_trace rfl) fun _ _ => trivial
    · intro publisherId spec _ s hs
      unfold launchProcess
      refine ends_bind (Q := fun _ => Since t (Having HostEvent.isLaunch)) ?_ fun process s₁ h₁ => ?_
      · unfold launch
        refine (ends_attempt_returns (Q := fun _ => Since t (Having HostEvent.isLaunch))
          (fun message h => absurd ⟨message, h⟩ hreaches.launch) ?_).mono (fun _ _ h => h.2) fun _ _ h => h
        refine ends_bind (ends_get (Q := fun _ s' => s' = s) rfl) ?_
        rintro host s' rfl
        have hlog : Since t (Having HostEvent.isLaunch) (s'.log (.launched id publisherId spec)) :=
          hs.logged fun events _ => ⟨_, List.mem_append_right _ List.mem_cons_self, rfl⟩
        exact ends_bind (ends_modify (Q := fun _ => Since t (Having HostEvent.isLaunch)) (hlog.of_trace rfl))
          fun _ s'' h'' => ends_pure ⟨h'', fun _ _ => h''⟩
      · refine keeps_bind (keeps_memory localTo_since (.track process)) (fun _ => ?_) s₁ h₁
        exact keeps_bind (keeps_modify fun s hs => hs.log admits_having) fun _ => keeps_transition_since admits_having
  unfold restartRuntimeInstance
  refine ends_bind_of_ok (run_getByInstanceId hreaches.read) ?_
  rw [hrow]
  refine ends_ite (fun hne => absurd hstate hne) fun _ => ?_
  refine ends_bind (ends_prepareRestart.mono (fun _ _ h => h) fun _ _ h => absurd hreaches.prepared h.2) ?_
  rintro spec s₁ ⟨hbeside, -, -⟩
  exact hrule.ends_launchAgain trivial ⟨hs.of_trace hbeside.trace, row, (congrFun hbeside.rows id).trans hrow, hstate⟩

end

/-! ### Pending restarts -/

section

variable {settings : RuntimeSettings} {text : RuntimeText} {answers : CallAnswers} {s : RuntimeHost}
  {t : List HostEvent}

theorem pendingQuiet_congr {processes processes' : String → Option ℕ} {records : List (String × RuntimeRow)}
    (h : ∀ record ∈ records, processes' record.1 = processes record.1) {listening : Prop} :
    PendingQuiet answers processes' listening records ↔ PendingQuiet answers processes listening records := by
  induction records generalizing listening with
  | nil => exact Iff.rfl
  | cons record records ih =>
    obtain ⟨id, row⟩ := record
    have hpending : Pending processes' id row ↔ Pending processes id row := by
      unfold Pending
      rw [h (id, row) List.mem_cons_self]
    have hrest : ∀ {listening : Prop}, PendingQuiet answers processes' listening records ↔
        PendingQuiet answers processes listening records :=
      ih fun record hmem => h record (List.mem_cons_of_mem _ hmem)
    unfold PendingQuiet
    rw [hpending, hrest, hrest]

/-- What has been launched stays so. -/
theorem keeps_restartEach_having (records : List (String × RuntimeRow)) :
    Keeps (Since t (Having HostEvent.isLaunch)) (restartEach settings text answers records) :=
  keeps_restartEach_since (fun _ _ => admits_having) (fun _ => admits_having) (fun _ _ => admits_having)
    (fun _ _ _ => admits_having) records

theorem Since.trans_without {s' : RuntimeHost} {kind : HostEvent → Bool} (h : Since t (Without kind) s)
    (h' : Since s.trace (Without kind) s') : Since t (Without kind) s' := by
  obtain ⟨events, htrace, hevents⟩ := h
  obtain ⟨events', htrace', hevents'⟩ := h'
  refine ⟨events ++ events', ?_, fun event hmem => ?_⟩
  · rw [htrace', htrace, List.append_assoc]
  · rcases List.mem_append.mp hmem with hmem | hmem
    · exact hevents event hmem
    · exact hevents' event hmem

variable (settings text answers) in
/-- The pending restarts launch a process exactly if they are not quiet. -/
theorem ends_restartEach {records : List (String × RuntimeRow)} (hnodup : (records.map Prod.fst).Nodup)
    (hrows : ∀ record ∈ records, s.rows record.1 = some record.2) (hs : Since t (Without HostEvent.isLaunch) s) :
    (PendingQuiet answers s.processes (s.listenAddress ≠ none) records →
        Ends (restartEach settings text answers records) s (fun _ => Since t (Without HostEvent.isLaunch))
          fun _ => Since t (Without HostEvent.isLaunch)) ∧
      (¬ PendingQuiet answers s.processes (s.listenAddress ≠ none) records →
        Ends (restartEach settings text answers records) s (fun _ => Since t (Having HostEvent.isLaunch))
          fun _ => Since t (Having HostEvent.isLaunch)) := by
  induction records generalizing s with
  | nil => exact ⟨fun _ => ends_pure hs, fun h => absurd trivial h⟩
  | cons record records ih =>
    obtain ⟨id, row⟩ := record
    rw [List.map_cons, List.nodup_cons] at hnodup
    have hrow : s.rows id = some row := hrows (id, row) List.mem_cons_self
    have hne : ∀ record ∈ records, record.1 ≠ id := by
      intro record hmem heq
      exact hnodup.1 (List.mem_map.mpr ⟨record, hmem, heq⟩)
    by_cases hpending : Pending s.processes id row
    · have hrun : restartEach settings text answers ((id, row) :: records) s =
          (restartRuntimeInstance settings text answers id >>= fun _ => restartEach settings text answers records)
            s := by
        show (if row.state = .preparing ∧ 0 < row.restartCount ∧ s.processes id = none then _ else _ : HostOp Unit)
          s = _
        exact congrFun (if_pos hpending) s
      unfold Ends
      rw [hrun]
      by_cases hreaches : Reaches answers (s.listenAddress ≠ none) id row
      · refine ⟨fun hquiet => absurd hreaches (hquiet.1 hpending), fun _ => ?_⟩
        exact ends_bind (ends_restart_of_reaches hrow hpending.1 hreaches (hs.mono fun _ _ => trivial))
          fun _ s' hs' => keeps_restartEach_having records s' hs'
      · have hrestart := ends_restart_of_not_reaches settings text hrow hpending.1 hreaches
        -- after a quiet failure the rest of the list is as before, and the server listens
        have hrest : ∀ s', Aside id s s' → s'.listenAddress ≠ none →
            (PendingQuiet answers s'.processes (s'.listenAddress ≠ none) records ↔
              PendingQuiet answers s.processes True records) := by
          intro s' haside hlisten
          rw [eq_true hlisten]
          exact pendingQuiet_congr fun record hmem => haside.processes record.1 (hne record hmem)
        have hnext : ∀ s', Aside id s s' → _ := fun s' haside => ih (s := s') hnodup.2
          (fun record hmem => (haside.rows record.1 (hne record hmem)).trans
            (hrows record (List.mem_cons_of_mem _ hmem))) (hs.trans_without haside.launched)
        constructor
        · intro hquiet
          refine ends_bind (hrestart.mono (fun _ _ h => h) fun _ s' h => hs.trans_without h.1.launched) ?_
          rintro _ s' ⟨haside, hlisten, hfails⟩
          exact (hnext s' haside).1 ((hrest s' haside hlisten).mpr (hquiet.2.2 hpending hfails))
        · intro hquiet
          have hloud : FailsQuietly answers (s.listenAddress ≠ none) id row ∧
              ¬ PendingQuiet answers s.processes True records := by
            by_contra hnot
            rw [not_and, not_not] at hnot
            exact hquiet ⟨fun _ => hreaches, fun h => absurd hpending h, fun _ => hnot⟩
          refine ends_bind (hrestart.mono (fun _ _ h => h) fun _ _ h => absurd hloud.1 h.2) ?_
          rintro _ s' ⟨haside, hlisten, -⟩
          exact (hnext s' haside).2 fun h => hloud.2 ((hrest s' haside hlisten).mp h)
    · have hrun : restartEach settings text answers ((id, row) :: records) s =
          restartEach settings text answers records s := by
        show (if row.state = .preparing ∧ 0 < row.restartCount ∧ s.processes id = none then _ else _ : HostOp Unit)
          s = _
        exact congrFun (if_neg hpending) s
      unfold Ends
      rw [hrun]
      obtain ⟨hquiet, hloud⟩ := ih hnodup.2 (fun record hmem => hrows record (List.mem_cons_of_mem _ hmem)) hs
      refine ⟨fun h => hquiet (h.2.1 hpending), fun h => hloud fun hrest => h ?_⟩
      exact ⟨fun h => absurd h hpending, fun _ => hrest, fun h => absurd h hpending⟩

end

/-! ### Runs -/

section

variable {settings : RuntimeSettings} {text : RuntimeText} {s : RuntimeHost} {input : HostInput}
  {answers : CallAnswers}

/-- An operation without a launch has nothing to check. -/
theorem stepChecked_of_unlaunched (h : Ends (operation settings text answers input) s
    (fun _ => Since s.trace (Without HostEvent.isLaunch)) fun _ => Since s.trace (Without HostEvent.isLaunch)) :
    StepChecked settings text s (input, answers) := by
  have hstep : Since s.trace (Without HostEvent.isLaunch) (hostStep settings text s (input, answers)) :=
    of_ends_stateAfter h
  exact hstep.mono fun _ => launchesChecked_of_without

/-- A restart obtains no permission. -/
theorem not_stepChecked_of_launched (hlaunched : Ends (operation settings text answers input) s
      (fun _ => Since s.trace (Having HostEvent.isLaunch)) fun _ => Since s.trace (Having HostEvent.isLaunch))
    (hpermission : Keeps (Since s.trace (Without HostEvent.isPermission)) (operation settings text answers input)) :
    ¬ StepChecked settings text s (input, answers) := by
  intro hchecked
  have hlaunch : Since s.trace (Having HostEvent.isLaunch) (hostStep settings text s (input, answers)) :=
    of_ends_stateAfter hlaunched
  have hwithout : Since s.trace (Without HostEvent.isPermission) (hostStep settings text s (input, answers)) :=
    of_ends_stateAfter (hpermission s since_without_refl)
  obtain ⟨events, -, h⟩ := (hlaunch.and hwithout).and hchecked
  exact not_launchesChecked h.1.1 h.1.2 h.2

theorem stepChecked_restart_iff {id : String} : StepChecked settings text s (.restartRuntimeInstance id, answers) ↔
      ¬ LaunchesAgain s (.restartRuntimeInstance id, answers) := by
  have hquiet : ∀ {α : Type} {m : HostOp α}, Ends m s (fun _ => Since s.trace (Without HostEvent.isLaunch))
      (fun _ => Since s.trace (Without HostEvent.isLaunch)) →
      Ends (m >>= fun _ => pure ()) s (fun _ => Since s.trace (Without HostEvent.isLaunch))
        fun _ => Since s.trace (Without HostEvent.isLaunch) :=
    fun h => ends_bind h fun _ _ hs' => ends_pure hs'
  by_cases hagain : LaunchesAgain s (.restartRuntimeInstance id, answers)
  · refine iff_of_false ?_ (not_not_intro hagain)
    obtain ⟨row, hrow, hstate, hreaches⟩ := hagain
    refine not_stepChecked_of_launched ?_ (keeps_bind (keeps_restart_since (fun _ => admits_without rfl)
      (fun _ => admits_without rfl) (fun _ => admits_without rfl) fun _ _ => admits_without rfl) fun _ => keeps_pure _)
    exact ends_bind (ends_restart_of_reaches hrow hstate hreaches (since_refl trivial)) fun _ _ hs' => ends_pure hs'
  · refine iff_of_true (stepChecked_of_unlaunched (hquiet ?_)) hagain
    by_cases hpreparing : ∃ row, s.rows id = some row ∧ row.state = .preparing
    · obtain ⟨row, hrow, hstate⟩ := hpreparing
      have hreaches : ¬ Reaches answers (s.listenAddress ≠ none) id row := fun h => hagain ⟨row, hrow, hstate, h⟩
      exact (ends_restart_of_not_reaches _ _ hrow hstate hreaches).mono (fun _ _ h => h.1.launched) fun _ _ h =>
        h.1.launched
    · unfold restartRuntimeInstance
      refine ends_bind (ends_getByInstanceId since_without_refl) ?_
      rintro row s₁ ⟨rfl, rfl⟩
      cases hrow : s₁.rows id with
      | none => exact ends_pure since_without_refl
      | some row =>
        refine ends_ite (fun _ => ends_pure since_without_refl) fun hstate => ?_
        exact absurd ⟨row, hrow, not_not.mp hstate⟩ hpreparing

theorem stepChecked_pending_iff (hlisted : Listed s) : StepChecked settings text s (.processPendingRestarts, answers) ↔
      ¬ LaunchesAgain s (.processPendingRestarts, answers) := by
  obtain ⟨hquiet, hloud⟩ := ends_restartEach settings text answers hlisted.nodup_instances
    (fun record hmem => mem_instances hmem) (since_without_refl : Since s.trace (Without HostEvent.isLaunch) s)
  have hlist : Ends (listInstances answers .listPending) s
      (fun records s' => answers.failure .listPending = .no ∧ s' = s ∧ records = s.instances) fun _ s' => s' = s ∧
        answers.failure .listPending ≠ .no := by
    unfold listInstances
    refine ends_attempt_returns (Q := fun records s' => s' = s ∧ records = s.instances) (fun message h => ?_) ?_
    · exact ⟨rfl, h ▸ Failure.noConfusion⟩
    · refine ends_bind (ends_get (Q := fun s₁ s' => s₁ = s ∧ s' = s) ⟨rfl, rfl⟩) ?_
      rintro s₁ s' ⟨rfl, rfl⟩
      exact ends_pure ⟨⟨rfl, rfl⟩, fun message h => ⟨rfl, h ▸ Failure.noConfusion⟩⟩
  by_cases hagain : LaunchesAgain s (.processPendingRestarts, answers)
  · refine iff_of_false (not_stepChecked_of_launched ?_ ?_) (not_not_intro hagain)
    · refine ends_bind (hlist.mono (fun _ _ h => h) fun _ _ h => absurd hagain.1 h.2) ?_
      rintro records s' ⟨-, rfl, rfl⟩
      exact hloud hagain.2
    · exact keeps_bind (keeps_listInstances _) fun records => keeps_restartEach_since (fun _ _ => admits_without rfl)
        (fun _ => admits_without rfl) (fun _ _ => admits_without rfl) (fun _ _ _ => admits_without rfl) records
  · refine iff_of_true (stepChecked_of_unlaunched ?_) hagain
    refine ends_bind (hlist.mono (fun _ _ h => h) fun _ s' h => h.1 ▸ since_without_refl) ?_
    rintro records s' ⟨hlisted', rfl, rfl⟩
    refine hquiet ?_
    by_contra hnot
    exact hagain ⟨hlisted', hnot⟩

/-- **One operation**: its launches are checked exactly if it launches nothing again. -/
theorem stepChecked_iff (hlisted : Listed s) (step : HostInput × CallAnswers) :
    StepChecked settings text s step ↔ ¬ LaunchesAgain s step := by
  obtain ⟨input, answers⟩ := step
  have hstop : ∀ id, StopRule answers id (Since s.trace (Without HostEvent.isLaunch)) :=
    fun id => stopRule_since (fun _ => admits_without rfl) fun _ => admits_without rfl
  cases input with
  | startRuntime request =>
    refine iff_of_true ?_ not_false
    exact of_ends_stateAfter (ends_bind (startRuntime_checked request) fun _ _ hs' => ends_pure hs')
  | stopRuntime id reason =>
    exact iff_of_true (stepChecked_of_unlaunched ((hstop id).keeps_stopRuntime s since_without_refl)) not_false
  | restartRuntimeInstance id => exact stepChecked_restart_iff
  | supervise =>
    have hkeeps : Keeps (Since s.trace (Without HostEvent.isLaunch)) (supervise settings answers) :=
      keeps_supervise_since (fun _ _ => admits_without rfl) (fun _ => admits_without rfl)
        fun _ _ => admits_without rfl
    exact iff_of_true (stepChecked_of_unlaunched (hkeeps s since_without_refl)) not_false
  | processPendingRestarts => exact stepChecked_pending_iff hlisted
  | scanActive =>
    have hkeeps : Keeps (Since s.trace (Without HostEvent.isLaunch)) (scanActive settings text answers) :=
      keeps_scanActive hstop fun id change _ => keeps_transition_since (admits_without rfl)
    exact iff_of_true (stepChecked_of_unlaunched (hkeeps s since_without_refl)) not_false
  | heartbeat id =>
    have hkeeps : Keeps (Since s.trace (Without HostEvent.isLaunch)) (onHeartbeat answers id) :=
      keeps_onHeartbeat_since fun _ => admits_without rfl
    exact iff_of_true (stepChecked_of_unlaunched (hkeeps s since_without_refl)) not_false
  | serve requests | newManager sign =>
    exact iff_of_true (stepChecked_of_unlaunched (since_without_refl (s := s))) not_false

end

/-- **In a run of the manager**, whatever changes between the operations and whatever their calls are answered, each
launch is checked in its own operation exactly if no operation launches a runtime again. -/
theorem launches_checked_iff (settings : RuntimeSettings) (text : RuntimeText) (gateway : Gateway)
    (steps : List (HostInput × CallAnswers)) :
    AllSteps (hostStep settings text) (StepChecked settings text) (RuntimeHost.initial gateway) steps ↔
      AllSteps (hostStep settings text) (fun s step => ¬ LaunchesAgain s step) (RuntimeHost.initial gateway) steps :=
  AllSteps.congr_of_invariant (C := fun _ _ => True) (I := Bounded settings)
    (fun _ step hs _ _ => bounded_hostStep step hs) (fun _ step hs _ => stepChecked_iff hs.listed step)
    (bounded_initial settings gateway) (AllSteps.of_forall_mem fun _ _ => trivial)

/-! ### A pilot that has ended -/

namespace HeatDemo

/-- A pilot of the module is authorized, until 50. -/
def pilot : CallAnswers :=
  { answers 0 "t1" with
    authorizations :=
      [{ moduleId := "heat", version := "1.0", artifactSha256 := "ab", publisherId := "acme", siteId := 1
         expiresAt := 50 }] }

/-- The process has exited. -/
def exited : CallAnswers := { answers 100 "" with exited := fun _ => true }

/-- The authorization is gone, the publisher is not known any more, and the package has changed. -/
def ended : CallAnswers :=
  { answers 110 "t2" with
    governance := { governance with publisher := fun _ => none }
    contentSha256 := "cd" }

/-- The pilot is launched again long after it has ended, without any check. -/
def pilotRun : List (HostInput × CallAnswers) :=
  [(start, pilot), (.supervise, exited), (.processPendingRestarts, ended)]

end HeatDemo

theorem pilot_launched_unchecked :
    ¬ AllSteps (hostStep {} HeatDemo.text) (StepChecked {} HeatDemo.text) HeatDemo.empty HeatDemo.pilotRun := by
  intro h
  obtain ⟨-, -, ⟨events, htrace, hchecked⟩, -⟩ := h
  have hdrop : events = (run (hostStep {} HeatDemo.text) HeatDemo.empty HeatDemo.pilotRun).trace.drop 11 := by
    have hlength : (run (hostStep {} HeatDemo.text) HeatDemo.empty [(HeatDemo.start, HeatDemo.pilot),
        (.supervise, HeatDemo.exited)]).trace.length = 11 := by decide +kernel
    show events = (hostStep {} HeatDemo.text _ (.processPendingRestarts, HeatDemo.ended)).trace.drop 11
    rw [htrace, ← hlength]
    exact List.drop_left.symm
  have hlaunch : Having HostEvent.isLaunch events := by
    rw [hdrop]
    unfold Having
    decide +kernel
  have hpermission : Without HostEvent.isPermission events := by
    rw [hdrop]
    unfold Without
    decide +kernel
  exact not_launchesChecked hlaunch hpermission hchecked

end EnergyCore.Isolation
