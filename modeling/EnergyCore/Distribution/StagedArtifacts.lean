import EnergyCore.Distribution.CacheCoherence

/-!
# Staged artifacts

An artifact is staged under the identity of its row, after an evaluation of the package that is found at its cache path.
Rows are found by their digest alone, so that a release may be staged with the row of another one.

* `passed_of_not_blocks` — what an evaluation that does not block has found;
* `ends_fetchBody_kept` — a fetch keeps the rows that are staged sound, if the row that it is about is that of the release;
* `fetchRun_staged_checked` — so does every run whose fetches stage releases with their own rows.
-/

namespace EnergyCore.Distribution

open FallibleSteps PackageArchives StepRun SupplyChain
open Packages (ModuleManifest)

/-! ### What is checked -/

structure ReleaseIdentity where
  moduleId : String
  publisherId : String
  version : String
  deriving Repr, DecidableEq

def ArtifactRow.identity (row : ArtifactRow) : ReleaseIdentity := ⟨row.moduleId, row.publisherId, row.version⟩

def ArtifactDescriptor.identity (d : ArtifactDescriptor) : ReleaseIdentity := ⟨d.moduleId, d.publisherId, d.version⟩

def identityOf (manifest : ModuleManifest) : ReleaseIdentity :=
  ⟨manifest.moduleId, manifest.publisher, manifest.version⟩

/-- The manifest inside an archive. -/
def HasManifest (lib : ArtifactLib) (content : Bytes) (manifest : Manifest) : Prop :=
  ∃ archive data raw, lib.openZip content = some archive ∧ read archive manifestJson = .ok data ∧
    lib.loads data = .ok (.obj raw) ∧ parseFields lib.toPyLib raw = .ok manifest

/-- The identity of a row is that of the manifest inside the archive at its cache path. -/
def Archived (lib : ArtifactLib) (cache : Cache) (row : ArtifactRow) : Prop :=
  ∃ path content manifest, row.cachePath = some path ∧ cache path = some content ∧ HasManifest lib content manifest ∧
    identityOf manifest.toModuleManifest = row.identity

/-- An evaluation that lets an artifact be staged. -/
structure Passed (evaluation : ArtifactSecurity) : Prop where
  integrity : evaluation.integrityVerified = true
  decision : evaluation.policyDecision ≠ .deny
  sbom : evaluation.sbomStatus ≠ .invalid
  identity : identityMismatch ∉ evaluation.reasonCodes

/-- If the row with a digest is staged, it is that of its archive, and has been evaluated. -/
def StagedChecked (lib : ArtifactLib) (cache : Cache) (db : Database) (digest : String) : Prop :=
  ∀ row, db.artifacts digest = some row → row.state = .staged →
    Archived lib cache row ∧ ∃ evaluation, db.security digest = some evaluation ∧ Passed evaluation

/-- The staged rows with digests of a kind are checked. -/
def Sound (lib : ArtifactLib) (P : String → Prop) (cache : Cache) (db : Database) : Prop :=
  ∀ digest, P digest → StagedChecked lib cache db digest

/-! ### What an evaluation finds -/

section

variable {lib : ArtifactLib} {answers : FetchAnswers} {d : ArtifactDescriptor} {content : Bytes}

/-- A valid package has the manifest that the validation returns. -/
theorem hasManifest_of_valid {validation : Validation} (h : validate lib answers content = .ok validation)
    (hvalid : validation.valid = true) :
    ∃ manifest, HasManifest lib content manifest ∧ validation.manifest = some manifest.toModuleManifest := by
  have hends := ends_validateArchive { answers.validator with lib := lib.toPyLib } answers.disk
    (some ⟨content.length, lib.openZip content⟩) [] true {}
  unfold validate at h
  cases hrun : validateArchive { answers.validator with lib := lib.toPyLib } answers.disk
      (some ⟨content.length, lib.openZip content⟩) [] true {} with
  | error raised w =>
    rw [hrun] at h
    cases h
  | ok result w =>
    rw [hrun] at h
    obtain rfl := Except.ok.inj h
    obtain ⟨file, archive, raw, manifest, status, packageDir, hfile, hmembers, haccepted, hresult⟩ :=
      hends.ok hrun hvalid
    obtain ⟨data, hread, hloads⟩ := haccepted.readable
    obtain rfl := Option.some.inj hfile
    refine ⟨manifest, ⟨archive, data, raw, hmembers, hread, hloads, haccepted.parsed⟩, ?_⟩
    rw [hresult] at hvalid ⊢
    obtain ⟨-, hsignature⟩ := conclude_valid _ hvalid
    unfold conclude
    rw [hsignature]
    rfl

theorem identityCodes_nil {manifest : Option ModuleManifest} (h : ∀ code ∈ identityCodes d manifest, code ∉ blockingCodes) :
    ∃ found, manifest = some found ∧ identityOf found = d.identity := by
  have hmismatch : identityMismatch ∈ blockingCodes := by decide
  cases manifest with
  | none => exact absurd (show packageSignatureInvalid ∈ blockingCodes by decide) (h _ (List.mem_singleton_self _))
  | some manifest =>
    have hequal : ∀ {p : Prop} [Decidable p], (p → identityMismatch ∈ identityCodes d (some manifest)) → ¬ p :=
      fun hp holds => h _ (hp holds) hmismatch
    have hmem : ∀ {p : Prop} [Decidable p], p → identityMismatch ∈ if p then [identityMismatch] else [] := by
      intro p _ holds
      rw [if_pos holds]
      exact List.mem_singleton_self _
    have hmodule : ¬ d.moduleId ≠ manifest.moduleId := hequal fun hne =>
      List.mem_append_left _ (List.mem_append_left _ (hmem hne))
    have hversion : ¬ d.version ≠ manifest.version := hequal fun hne =>
      List.mem_append_left _ (List.mem_append_right _ (hmem hne))
    have hpublisher : ¬ d.publisherId ≠ manifest.publisher := hequal fun hne => List.mem_append_right _ (hmem hne)
    refine ⟨manifest, rfl, ?_⟩
    unfold identityOf ArtifactDescriptor.identity
    rw [not_not.mp hmodule, not_not.mp hversion, not_not.mp hpublisher]

/-- **What does not block.** The package is valid, and has the identity of the release; neither the governance nor the
SBOM stands against it. -/
theorem passed_of_not_blocks {found : Findings} {policy : SupplyChainPolicy}
    (h : blocks answers d found policy = false) : found.validation.valid = true ∧
      (∃ manifest, found.validation.manifest = some manifest ∧ identityOf manifest = d.identity) ∧
      Passed (securityOf (snapshotOf answers found policy) (reasonCodesOf answers d found policy)) := by
  unfold blocks at h
  rw [Bool.or_eq_false_iff, Bool.or_eq_false_iff] at h
  obtain ⟨⟨hstaging, -⟩, hcodes⟩ := h
  have hnot : ¬ blocksStaging (snapshotOf answers found policy) policy = true := by
    rw [hstaging]
    exact Bool.false_ne_true
  rw [blocksStaging_iff, not_or, not_or, not_or] at hnot
  obtain ⟨hintegrity, hdeny, -, hsbom⟩ := hnot
  have hallowed : ∀ code ∈ reasonCodesOf answers d found policy, code ∉ blockingCodes := by
    intro code hcode hblocking
    have hany : ((reasonCodesOf answers d found policy).any fun code => decide (code ∈ blockingCodes)) = true :=
      List.any_eq_true.mpr ⟨code, hcode, decide_eq_true hblocking⟩
    rw [hcodes] at hany
    cases hany
  have hvalid : found.validation.valid = true := Bool.not_eq_false _ ▸ hintegrity
  refine ⟨hvalid, identityCodes_nil fun code hcode => hallowed code ?_, ⟨hvalid, hdeny, hsbom, fun hmem => ?_⟩⟩
  · unfold reasonCodesOf packageCodes
    simp only [List.append_assoc]
    exact List.mem_append_left _ hcode
  · exact hallowed _ (List.mem_eraseDups.mp hmem) (by decide)

end

/-! ### Sound tables -/

section

variable {lib : ArtifactLib} {P : String → Prop} {cache : Cache} {db : Database} {digest : String}

/-- A cache in which every file is found again. -/
def Grows (cache cache' : Cache) : Prop := ∀ name content, cache name = some content → cache' name = some content

theorem Archived.grows {cache' : Cache} {row : ArtifactRow} (h : Archived lib cache row) (hgrows : Grows cache cache') :
    Archived lib cache' row := by
  obtain ⟨path, content, manifest, hpath, hcontent, hmanifest⟩ := h
  exact ⟨path, content, manifest, hpath, hgrows _ _ hcontent, hmanifest⟩

theorem Sound.grows {cache' : Cache} (h : Sound lib P cache db) (hgrows : Grows cache cache') :
    Sound lib P cache' db := by
  intro digest hdigest row hrow hstaged
  obtain ⟨harchived, hpassed⟩ := h digest hdigest row hrow hstaged
  exact ⟨harchived.grows hgrows, hpassed⟩

/-- Tables with the same rows and evaluations. -/
theorem Sound.congr {db' : Database} (h : Sound lib P cache db) (hartifacts : db'.artifacts = db.artifacts)
    (hsecurity : db'.security = db.security) : Sound lib P cache db' := by
  intro digest hdigest row hrow hstaged
  rw [hartifacts] at hrow
  rw [hsecurity]
  exact h digest hdigest row hrow hstaged

/-- A row that is written, checked if it is staged. -/
theorem Sound.setArtifact {row : ArtifactRow} (h : Sound lib P cache db) (hrow : P digest → row.state = .staged →
      Archived lib cache row ∧ ∃ evaluation, db.security digest = some evaluation ∧ Passed evaluation) :
    Sound lib P cache (db.setArtifact digest row) := by
  intro other hother row' hrow' hstaged
  by_cases hsame : other = digest
  · subst hsame
    have hfound : (db.setArtifact other row).artifacts other = some row := Function.update_self ..
    obtain rfl := Option.some.inj (hfound.symm.trans hrow')
    exact hrow hother hstaged
  · have hfound : (db.setArtifact digest row).artifacts other = db.artifacts other := Function.update_of_ne hsame ..
    rw [hfound] at hrow'
    exact h other hother row' hrow' hstaged

theorem Sound.addArtifact (h : Sound lib P cache db) (d : ArtifactDescriptor) :
    Sound lib P cache (db.addArtifact d) := by
  unfold Database.addArtifact
  cases db.artifacts d.contentSha256 with
  | some row => exact h
  | none => exact h.setArtifact fun _ hstaged => by cases hstaged

theorem Sound.changeState {state : ArtifactState} {change : StateChange} (h : Sound lib P cache db)
    (hrow : ∀ row, db.artifacts digest = some row → P digest → state = .staged →
      Archived lib cache (row.withState state change) ∧
        ∃ evaluation, db.security digest = some evaluation ∧ Passed evaluation) :
    Sound lib P cache (db.changeState digest state change) := by
  unfold Database.changeState
  cases hfound : db.artifacts digest with
  | none => exact h
  | some row => exact h.setArtifact (hrow row hfound)

/-- An evaluation of a row that is not staged. -/
theorem Sound.setSecurity {evaluation : ArtifactSecurity} (h : Sound lib P cache db)
    (hrow : ∀ row, db.artifacts digest = some row → row.state ≠ .staged) :
    Sound lib P cache { db with security := Function.update db.security digest (some evaluation) } := by
  intro other hother row hfound hstaged
  by_cases hsame : other = digest
  · subst hsame
    exact absurd hstaged (hrow row hfound)
  · show _ ∧ ∃ evaluation', Function.update db.security digest (some evaluation) other = some evaluation' ∧ _
    rw [Function.update_of_ne hsame]
    exact h other hother row hfound hstaged

theorem artifacts_changeState {state : ArtifactState} {change : StateChange} {row : ArtifactRow}
    (h : db.artifacts digest = some row) :
    (db.changeState digest state change).artifacts digest = some (row.withState state change) := by
  unfold Database.changeState
  rw [h]
  exact Function.update_self ..

end

/-! ### Sound sessions -/

/-- What is committed is sound, and so is the session. -/
structure Kept (lib : ArtifactLib) (P : String → Prop) (s : Staging) : Prop where
  stored : Sound lib P s.cache s.stored
  session : Sound lib P s.cache s.session

/-- The session has a row that is not staged, with the digest and an identity. -/
structure Fetching (lib : ArtifactLib) (P : String → Prop) (digest : String) (identity : ReleaseIdentity) (s : Staging) :
    Prop extends Kept lib P s where
  row : ∃ row, s.session.artifacts digest = some row ∧ row.state ≠ .staged ∧ row.identity = identity

section

variable {lib : ArtifactLib} {answers : FetchAnswers} {P : String → Prop} {digest : String}
  {identity : ReleaseIdentity} {d : ArtifactDescriptor} {s : Staging}

/-- What a call of the session does. -/
theorem ends_dbCall_change (answers : FetchAnswers) (call : DbCall) (change : Database → Database) (s : Staging) :
    Ends (dbCall answers call change) s (fun _ s' => s' = { s with session := change s.session })
      fun _ s' => s' = s ∨ s' = { s with broken := true } := by
  unfold dbCall
  refine ends_bind (ends_get (Q := fun s₁ s' => s₁ = s ∧ s' = s) ⟨rfl, rfl⟩) ?_
  rintro s₁ s' ⟨rfl, rfl⟩
  refine ends_ite (fun _ => ends_throw (.inl rfl)) fun _ => ?_
  cases answers.failing call with
  | some text =>
    refine ends_bind (ends_modify (Q := fun _ s'' => s'' = { s' with broken := true }) rfl) ?_
    rintro _ s'' rfl
    exact ends_throw (.inr rfl)
  | none => exact ends_modify rfl

theorem keeps_dbCall {I : Staging → Prop} {call : DbCall} {change : Database → Database}
    (hbroken : ∀ s, I s → I { s with broken := true })
    (hchange : ∀ s, I s → I { s with session := change s.session }) : Keeps I (dbCall answers call change) := by
  intro s hs
  refine (ends_dbCall_change answers call change s).mono ?_ ?_
  · rintro _ s' rfl
    exact hchange s hs
  · rintro _ s' (rfl | rfl)
    · exact hs
    · exact hbroken s hs

theorem keeps_commit {state : ArtifactState} : Keeps (Kept lib P) (commit answers state) := by
  unfold commit
  exact keeps_bind (keeps_dbCall (fun _ h => ⟨h.stored, h.session⟩) fun _ h => ⟨h.stored, h.session⟩) fun _ =>
    keeps_modify fun _ h => ⟨h.session, h.session⟩

theorem keeps_commit_fetching {state : ArtifactState} : Keeps (Fetching lib P digest identity) (commit answers state) := by
  unfold commit
  exact keeps_bind (keeps_dbCall (fun _ h => ⟨⟨h.stored, h.session⟩, h.row⟩) fun _ h => ⟨⟨h.stored, h.session⟩, h.row⟩)
    fun _ => keeps_modify fun _ h => ⟨⟨h.session, h.session⟩, h.row⟩

/-- A state other than the one of a staged artifact. -/
theorem keeps_setState {state : ArtifactState} {change : StateChange} (hstate : state ≠ .staged) :
    Keeps (Kept lib P) (setState answers digest state change) :=
  keeps_dbCall (fun _ h => ⟨h.stored, h.session⟩) fun _ h =>
    ⟨h.stored, h.session.changeState fun _ _ _ hstaged => absurd hstaged hstate⟩

theorem keeps_setState_fetching {state : ArtifactState} {change : StateChange} (hstate : state ≠ .staged) :
    Keeps (Fetching lib P digest identity) (setState answers digest state change) := by
  refine keeps_dbCall (fun _ h => ⟨⟨h.stored, h.session⟩, h.row⟩) fun s h => ?_
  obtain ⟨row, hrow, -, hidentity⟩ := h.row
  exact ⟨⟨h.stored, h.session.changeState fun _ _ _ hstaged => absurd hstaged hstate⟩,
    row.withState state change, artifacts_changeState hrow, hstate, hidentity⟩

/-- The first state of a fetch. -/
theorem ends_setState_fetching {state : ArtifactState} {change : StateChange} (hstate : state ≠ .staged)
    (hs : Kept lib P s) (hrow : ∃ row, s.session.artifacts digest = some row ∧ row.identity = identity) :
    Ends (setState answers digest state change) s (fun _ => Fetching lib P digest identity) fun _ => Kept lib P := by
  obtain ⟨row, hfound, hidentity⟩ := hrow
  refine (ends_dbCall_change answers (.setState state) (fun db => db.changeState digest state change) s).mono ?_ ?_
  · rintro _ s' rfl
    exact ⟨⟨hs.stored, hs.session.changeState fun _ _ _ hstaged => absurd hstaged hstate⟩,
      row.withState state change, artifacts_changeState hfound, hstate, hidentity⟩
  · rintro _ s' (rfl | rfl)
    · exact hs
    · exact ⟨hs.stored, hs.session⟩

/-! ### Files -/

theorem grows_download (lib : ArtifactLib) (settings : DownloadSettings) (net : Network) (promotes : Option String)
    (cache : Cache) (d : ArtifactDescriptor) : Grows cache (download lib settings net promotes cache d).2 := by
  intro name found hname
  cases hcached : cache d.contentSha256 with
  | some content =>
    rcases download_of_cached lib settings net promotes hcached with ⟨-, hrun⟩ | ⟨-, failure, hrun⟩
    · rw [hrun]
      exact hname
    · rw [hrun]
      exact hname
  | none =>
    rw [download_of_missing _ _ _ _ hcached]
    rcases downloadMissing_cases lib settings net promotes cache d with ⟨content, -, -, hrun⟩ | ⟨-, failure, hrun⟩
    · rw [hrun]
      show Function.update cache d.contentSha256 (some content) name = some found
      rw [Function.update_of_ne ?_]
      · exact hname
      · rintro rfl
        rw [hcached] at hname
        cases hname
    · rw [hrun]
      exact hname

theorem keeps_liftExcept {α : Type} {I : Staging → Prop} (r : Except Failure α) : Keeps I (liftExcept r) := by
  cases r with
  | ok a => exact keeps_pure a
  | error failure => exact keeps_throw failure

/-- What is kept when files are added to the cache is kept by a download. -/
theorem keeps_downloadArtifact {I : Staging → Prop}
    (hI : ∀ s cache, Grows s.cache cache → I s → I { s with cache := cache }) :
    Keeps I (downloadArtifact lib answers d) := by
  intro s hs
  unfold downloadArtifact
  refine ends_bind (ends_get (Q := fun s₁ s' => s₁ = s ∧ s' = s) ⟨rfl, rfl⟩) ?_
  rintro s₁ s' ⟨rfl, rfl⟩
  have hgrows := grows_download lib answers.settings answers.network (answers.promotes d.contentSha256) s'.cache d
  exact ends_bind (ends_modify (Q := fun _ => I) (hI s' _ hgrows hs)) fun _ s₂ hs₂ => keeps_liftExcept _ s₂ hs₂

theorem keeps_readFile {I : Staging → Prop} (name : String) : Keeps I (readFile name) := by
  unfold readFile
  refine keeps_bind keeps_get fun s => ?_
  cases s.cache name with
  | some content => exact keeps_pure content
  | none => exact keeps_throw missingFile

theorem keeps_readSbom {I : Staging → Prop} (content : Bytes)
    (hI : ∀ s cache, Grows s.cache cache → I s → I { s with cache := cache }) :
    Keeps I (readSbom lib answers d content) := by
  unfold readSbom
  cases d.sbomReference with
  | none => exact keeps_pure none
  | some reference =>
    refine keeps_ite (keeps_liftExcept _) ?_
    cases nonEmpty reference.url with
    | none => exact keeps_pure none
    | some url =>
      cases nonEmpty reference.sha256 with
      | none => exact keeps_pure none
      | some sha256 =>
        refine keeps_bind ?_ fun raw => keeps_pure (some raw)
        unfold externalSbom
        refine keeps_bind keeps_get fun s => ?_
        cases s.cache ("sbom-" ++ sha256) with
        | some raw => exact keeps_pure raw
        | none => exact keeps_bind (keeps_downloadArtifact hI) fun result => keeps_readFile result.path

theorem keeps_evaluateSbom {I : Staging → Prop} (raw : Option Bytes)
    (hbroken : ∀ s, I s → I { s with broken := true })
    (hsboms : ∀ s sboms, I s → I { s with session := { s.session with sboms := sboms } }) :
    Keeps I (evaluateSbom lib answers d raw) := by
  unfold evaluateSbom
  rcases raw with _ | _ | ⟨byte, bytes⟩
  · exact keeps_pure sbomMissing
  · exact keeps_pure sbomMissing
  · dsimp only
    cases parseSbom lib answers (byte :: bytes) (d.sbomReference.bind SbomReference.sha256) with
    | none => exact keeps_pure _
    | some parsed =>
      refine keeps_tryCatch (keeps_bind (keeps_dbCall hbroken fun s hs => hsboms s _ hs) fun _ => keeps_pure _) fun _ =>
        keeps_pure _

theorem keeps_fileOp {I : Staging → Prop} (failing : Option String) : Keeps I (fileOp failing) := by
  cases failing with
  | none => exact keeps_pure ()
  | some text => exact keeps_throw (Failure.exception text)

/-! ### A fetch -/

/-- The session of an artifact whose package is at a path of the cache. -/
structure Holding (lib : ArtifactLib) (P : String → Prop) (digest : String) (identity : ReleaseIdentity) (path : String)
    (content : Bytes) (s : Staging) : Prop extends Fetching lib P digest identity s where
  cached : s.cache path = some content

/-- **What is staged is checked.** The last write of a fetch keeps the tables sound if the row is that of the release. -/
theorem ends_stage {path : String} {content : Bytes} {found : Findings} {policy : SupplyChainPolicy}
    (hs : Holding lib P d.contentSha256 identity path content s)
    (hmanifest : found.validation.valid = true → ∃ manifest, HasManifest lib content manifest ∧
      found.validation.manifest = some manifest.toModuleManifest)
    (hmatch : P d.contentSha256 → identity = d.identity) (hsecurity : s.session.security d.contentSha256
      = some (securityOf (snapshotOf answers found policy) (reasonCodesOf answers d found policy)))
    (change : StateChange) (hpath : change.cachePath = some path) :
    Ends (setState answers d.contentSha256 (finalState (blocks answers d found policy)) change) s
      (fun _ => Kept lib P) fun _ => Kept lib P := by
  cases hblocks : blocks answers d found policy with
  | true => exact keeps_setState (fun h => by cases h) s hs.toKept
  | false =>
    obtain ⟨hvalid, ⟨parsed, hparsed, hidentity⟩, hpassed⟩ := passed_of_not_blocks hblocks
    obtain ⟨manifest, hinside, hreturned⟩ := hmanifest hvalid
    obtain ⟨row, hrow, -, hrowIdentity⟩ := hs.row
    have hkept : Kept lib P { s with session := s.session.changeState d.contentSha256 (finalState false) change } := by
      refine ⟨hs.stored, hs.session.changeState fun row' hrow' hP _ => ⟨?_, _, hsecurity, hpassed⟩⟩
      obtain rfl := Option.some.inj (hrow.symm.trans hrow')
      refine ⟨path, content, manifest, ?_, hs.cached, hinside, ?_⟩
      · show change.cachePath.or row.cachePath = some path
        rw [hpath]
        rfl
      · calc identityOf manifest.toModuleManifest
            = identityOf parsed := by rw [Option.some.inj (hreturned.symm.trans hparsed)]
          _ = identity := hidentity.trans (hmatch hP).symm
          _ = (row.withState (finalState false) change).identity := hrowIdentity.symm
    refine (ends_dbCall_change answers _ _ s).mono ?_ ?_
    · rintro _ s' rfl
      exact hkept
    · rintro _ s' (rfl | rfl)
      · exact hs.toKept
      · exact ⟨hs.stored, hs.session⟩

theorem ends_concludeArtifact_kept {path : String} {content : Bytes} {found : Findings}
    (hs : Holding lib P d.contentSha256 identity path content s)
    (hmanifest : found.validation.valid = true → ∃ manifest, HasManifest lib content manifest ∧
      found.validation.manifest = some manifest.toModuleManifest)
    (hmatch : P d.contentSha256 → identity = d.identity) :
    Ends (concludeArtifact answers d path content found) s (fun _ => Kept lib P) fun _ => Kept lib P := by
  have hbroken : ∀ s, Holding lib P d.contentSha256 identity path content s →
      Holding lib P d.contentSha256 identity path content { s with broken := true } :=
    fun _ h => ⟨⟨⟨h.stored, h.session⟩, h.row⟩, h.cached⟩
  unfold concludeArtifact
  refine ends_bind ((keeps_dbCall hbroken (fun _ h => h) s hs).mono (fun _ _ h => h) fun _ _ h => h.toKept) fun _ s₁ hs₁ => ?_
  refine ends_bind ((keeps_liftExcept answers.policy s₁ hs₁).mono (fun _ _ h => h) fun _ _ h => h.toKept)
    fun policy s₂ hs₂ => ?_
  let evaluation := securityOf (snapshotOf answers found policy) (reasonCodesOf answers d found policy)
  let I : Staging → Prop := fun s => Holding lib P d.contentSha256 identity path content s ∧
    s.session.security d.contentSha256 = some evaluation
  have hevaluated : Ends (dbCall answers .upsertSecurity fun db =>
      { db with security := Function.update db.security d.contentSha256 (some evaluation) }) s₂
      (fun _ => I) fun _ => Kept lib P := by
    refine (ends_dbCall_change answers _ _ s₂).mono ?_ ?_
    · rintro _ s' rfl
      refine ⟨⟨⟨⟨hs₂.stored, hs₂.session.setSecurity fun row hrow => ?_⟩, hs₂.row⟩, hs₂.cached⟩, Function.update_self ..⟩
      obtain ⟨row', hrow', hstate, -⟩ := hs₂.row
      rw [Option.some.inj (hrow.symm.trans hrow')]
      exact hstate
    · rintro _ s' (rfl | rfl)
      · exact hs₂.toKept
      · exact ⟨hs₂.stored, hs₂.session⟩
  refine ends_bind hevaluated fun _ s₃ hs₃ => ?_
  have hraised : ∀ (_ : Failure) s, I s → Kept lib P s := fun _ _ h => h.1.toKept
  have hreplaced : Keeps I (dbCall answers .replaceVulnerabilities fun db =>
      { db with vulnerabilities := Function.update db.vulnerabilities d.contentSha256 (vulnerabilitiesOf answers found) }) :=
    keeps_dbCall (fun _ h => ⟨hbroken _ h.1, h.2⟩) fun _ h =>
      ⟨⟨⟨⟨h.1.stored, h.1.session.congr rfl rfl⟩, h.1.row⟩, h.1.cached⟩, h.2⟩
  refine ends_bind ((hreplaced s₃ hs₃).mono (fun _ _ h => h) hraised) fun _ s₄ hs₄ => ?_
  refine ends_bind ((keeps_fileOp _ s₄ hs₄).mono (fun _ _ h => h) hraised) fun _ s₅ hs₅ => ?_
  have hcopied : Keeps I (copyBlocked answers d.contentSha256 content) := by
    unfold copyBlocked
    exact keeps_bind (keeps_fileOp _) fun _ => keeps_modify fun _ h =>
      ⟨⟨⟨⟨h.1.stored, h.1.session⟩, h.1.row⟩, h.1.cached⟩, h.2⟩
  refine ends_bind ((keeps_runIf hcopied s₅ hs₅).mono (fun _ _ h => h) hraised) fun _ s₆ hs₆ => ?_
  refine ends_bind (ends_stage hs₆.1 hmanifest hmatch hs₆.2 _ rfl) fun _ s₇ hs₇ => ?_
  exact ends_bind (keeps_commit s₇ hs₇) fun _ _ h => ends_pure h

theorem ends_evaluateArtifact_kept {path : String} {content : Bytes}
    (hs : Holding lib P d.contentSha256 identity path content s) (hmatch : P d.contentSha256 → identity = d.identity) :
    Ends (evaluateArtifact lib answers d path content) s (fun _ => Kept lib P) fun _ => Kept lib P := by
  have hgrows : ∀ s cache, Grows s.cache cache → Holding lib P d.contentSha256 identity path content s →
      Holding lib P d.contentSha256 identity path content { s with cache := cache } := fun _ _ hgrows h =>
    ⟨⟨⟨h.stored.grows hgrows, h.session.grows hgrows⟩, h.row⟩, hgrows _ _ h.cached⟩
  unfold evaluateArtifact
  cases hvalidate : validate lib answers content with
  | error failure => exact ends_throw hs.toKept
  | ok validation =>
    refine ends_bind (ends_pure (Q := fun v s' => v = validation ∧ s' = s) ⟨rfl, rfl⟩) ?_
    rintro validation s' ⟨rfl, rfl⟩
    refine ends_bind ((keeps_liftExcept _ s' hs).mono (fun _ _ h => h) fun _ _ h => h.toKept) fun ownership s₁ hs₁ => ?_
    refine ends_bind ((keeps_readSbom content hgrows s₁ hs₁).mono (fun _ _ h => h) fun _ _ h => h.toKept)
      fun raw s₂ hs₂ => ?_
    refine ends_bind ((keeps_evaluateSbom raw (fun _ h => ⟨⟨⟨h.stored, h.session⟩, h.row⟩, h.cached⟩)
      (fun _ _ h => ⟨⟨⟨h.stored, h.session.congr rfl rfl⟩, h.row⟩, h.cached⟩) s₂ hs₂).mono (fun _ _ h => h)
      fun _ _ h => h.toKept) fun sbom s₃ hs₃ => ?_
    exact ends_concludeArtifact_kept hs₃ (hasManifest_of_valid hvalidate) hmatch

/-- The row is known to be that of the release only where the fetch comes to its download. -/
theorem ends_fetchBody_kept {stored : Option ArtifactState} {cache : Cache} (hat : At d.contentSha256 stored cache s)
    (hs : Kept lib P s) (hrow : ∃ row, s.session.artifacts d.contentSha256 = some row ∧ row.identity = identity)
    (hmatch : P d.contentSha256 → Works answers (.setState .downloadPending) → Works answers (.commit .downloadPending) →
      identity = d.identity) : Ends (fetchBody lib answers d) s (fun _ => Kept lib P) fun _ => Kept lib P := by
  have hraised : ∀ {A : Staging → Prop} (_ : Failure) s, A s ∧ Fetching lib P d.contentSha256 identity s → Kept lib P s :=
    fun _ _ h => h.2.toKept
  unfold fetchBody
  refine ends_bind (((ends_setState hat).and (ends_setState_fetching (by decide) hs hrow)).mono (fun _ _ h => h)
    fun _ _ h => h.2) ?_
  rintro _ s₁ ⟨⟨hset, hat₁, -⟩, hs₁⟩
  refine ends_bind (((ends_commit hat₁).and (keeps_commit_fetching s₁ hs₁)).mono (fun _ _ h => h) hraised) ?_
  rintro _ s₂ ⟨⟨hcommit, hat₂⟩, hs₂⟩
  refine ends_bind (((ends_setState hat₂).and (keeps_setState_fetching (by decide) s₂ hs₂)).mono (fun _ _ h => h) hraised) ?_
  rintro _ s₃ ⟨⟨-, hat₃, -⟩, hs₃⟩
  have hgrows : ∀ s cache, Grows s.cache cache → Fetching lib P d.contentSha256 identity s →
      Fetching lib P d.contentSha256 identity { s with cache := cache } := fun _ _ hgrows h =>
    ⟨⟨h.stored.grows hgrows, h.session.grows hgrows⟩, h.row⟩
  refine ends_bind (((ends_downloadArtifact hat₃).and (keeps_downloadArtifact hgrows s₃ hs₃)).mono (fun _ _ h => h)
    hraised) ?_
  rintro result s₄ ⟨⟨content, cache', -, hpath, hat₄⟩, hs₄⟩
  refine ends_bind (((ends_setState hat₄).and (keeps_setState_fetching (by decide) s₄ hs₄)).mono (fun _ _ h => h) hraised) ?_
  rintro _ s₅ ⟨⟨-, hat₅, -⟩, hs₅⟩
  refine ends_bind (((ends_commit hat₅).and (keeps_commit_fetching s₅ hs₅)).mono (fun _ _ h => h) hraised) ?_
  rintro _ s₆ ⟨⟨-, hat₆⟩, hs₆⟩
  refine ends_bind (((ends_setState hat₆).and (keeps_setState_fetching (by decide) s₆ hs₆)).mono (fun _ _ h => h) hraised) ?_
  rintro _ s₇ ⟨⟨-, hat₇, -⟩, hs₇⟩
  refine ends_bind (((ends_readFile hat₇ hpath).and (keeps_readFile result.path s₇ hs₇)).mono (fun _ _ h => h)
    fun _ _ h => h.1.elim) ?_
  rintro content' s₈ ⟨⟨rfl, hat₈⟩, hs₈⟩
  refine ends_evaluateArtifact_kept ⟨hs₈, ?_⟩ fun hP => hmatch hP hset hcommit
  rw [hat₈.cache]
  exact hpath

theorem keeps_fetchFailed (failure : Failure) : Keeps (Kept lib P) (fetchFailed answers d failure) := by
  unfold fetchFailed
  exact keeps_bind (keeps_setState (by decide)) fun _ => keeps_bind keeps_commit fun _ => keeps_throw _

/-- The identity of the row that a fetch of a release finds, or adds. -/
def Database.identityFor (db : Database) (d : ArtifactDescriptor) : ReleaseIdentity :=
  (db.artifacts d.contentSha256).elim d.identity ArtifactRow.identity

theorem identity_addArtifact (db : Database) (d : ArtifactDescriptor) :
    ∃ row, (db.addArtifact d).artifacts d.contentSha256 = some row ∧ row.identity = db.identityFor d := by
  unfold Database.addArtifact Database.identityFor
  cases hrow : db.artifacts d.contentSha256 with
  | some row => exact ⟨row, hrow, rfl⟩
  | none => exact ⟨rowOf d, Function.update_self .., rfl⟩

end

/-- **A call keeps the tables sound**, if it comes to the download only with the row of its release. -/
theorem fetchStep_sound (lib : ArtifactLib) {P : String → Prop} {s : Staging} (call : FetchCall)
    (hs : Sound lib P s.cache s.stored)
    (hmatch : ∀ d, call.answers.resolve call.moduleId call.version = .ok d → P d.contentSha256 →
      Works call.answers .getOrCreate → Works call.answers (.setState .downloadPending) →
      Works call.answers (.commit .downloadPending) → s.stored.identityFor d = d.identity) :
    Sound lib P (fetchStep lib s call).cache (fetchStep lib s call).stored := by
  have hkept : Kept lib P { s with session := s.stored, broken := false } := ⟨hs, hs⟩
  have hends : Ends (fetchRelease lib call.answers call.moduleId call.version)
      { s with session := s.stored, broken := false } (fun _ => Kept lib P) fun _ => Kept lib P := by
    unfold fetchRelease
    cases hresolve : call.answers.resolve call.moduleId call.version with
    | error failure => exact ends_throw hkept
    | ok d =>
      refine ends_bind (ends_pure (Q := fun d' s' => d' = d ∧
        s' = { s with session := s.stored, broken := false }) ⟨rfl, rfl⟩) ?_
      rintro d s' ⟨rfl, rfl⟩
      have hopen : Open d.contentSha256 (s.stored.stateOf d.contentSha256) s.cache
          { s with session := s.stored, broken := false } := ⟨rfl, rfl, rfl⟩
      refine ends_bind (((ends_dbCall hopen (isSome_addArtifact s.stored d)).and
        (ends_dbCall_change call.answers _ _ _)).mono (fun _ _ h => h) ?_) ?_
      · rintro _ s' ⟨-, rfl | rfl⟩
        · exact hkept
        · exact ⟨hs, hs⟩
      · rintro _ s' ⟨⟨hcreates, hat, -⟩, rfl⟩
        exact ends_tryCatch (ends_fetchBody_kept hat ⟨hs, hs.addArtifact d⟩ (identity_addArtifact s.stored d)
          fun hP => hmatch d hresolve hP hcreates) fun failure s' h => keeps_fetchFailed failure s' h
  unfold fetchStep
  cases hrun : fetchRelease lib call.answers call.moduleId call.version
    { s with session := s.stored, broken := false } with
  | ok _ s' => exact (hends.ok hrun).stored
  | error _ s' => exact (hends.error hrun).stored

/-! ### When a release is staged -/

/-- What has been found is recorded as that of a staged artifact. -/
structure RecordsStaged (answers : FetchAnswers) (d : ArtifactDescriptor) (found : Findings)
    (policy : SupplyChainPolicy) : Prop where
  policyRead : Works answers .policy
  read : answers.policy = .ok policy
  free : blocks answers d found policy = false
  upserted : Works answers .upsertSecurity
  replaced : Works answers .replaceVulnerabilities
  quarantineDir : answers.quarantineDir = none
  set : Works answers (.setState .staged)
  committed : Works answers (.commit .staged)

/-- The calls before the evaluation go through. -/
structure ComesToEvaluation (answers : FetchAnswers) : Prop where
  downloading : Works answers (.setState .downloading)
  downloaded : Works answers (.setState .downloaded)
  committed : Works answers (.commit .downloaded)
  verifying : Works answers (.setState .verifying)

/-- A fetch that comes to its download stages the release. -/
def Stages (lib : ArtifactLib) (answers : FetchAnswers) (cache : Cache) (d : ArtifactDescriptor) : Prop :=
  ComesToEvaluation answers ∧ ∃ content cache' validation ownership raw cache'' policy,
    obtained lib answers cache d = (some content, cache') ∧ Assessed lib answers d content validation ownership ∧
    obtainedSbom lib answers cache' d content = (some raw, cache'') ∧
    (parsedSbom lib answers d raw ≠ none → Works answers .saveSbom) ∧
    RecordsStaged answers d
      { validation := validation, ownership := ownership, sbom := savedFinding lib answers d raw } policy

section

variable {lib : ArtifactLib} {answers : FetchAnswers} {cache : Cache} {d : ArtifactDescriptor}

theorem handled_ne_staged {before : ArtifactState} (h : before ≠ .staged) : handled answers before ≠ .staged := by
  unfold handled
  split_ifs
  · decide
  · exact h

theorem concluded_eq_staged {found : Findings} (h : concluded answers d found = .staged) :
    ∃ policy, RecordsStaged answers d found policy := by
  unfold concluded at h
  by_cases hread : Works answers .policy
  · rw [if_neg (not_not.mpr hread)] at h
    cases hpolicy : answers.policy with
    | error failure =>
      rw [hpolicy] at h
      exact absurd h (handled_ne_staged (by decide))
    | ok policy =>
      rw [hpolicy] at h
      dsimp only at h
      by_cases hupdated : Works answers .upsertSecurity ∧ Works answers .replaceVulnerabilities
      · rw [if_neg (not_not.mpr hupdated)] at h
        by_cases hfiles : answers.quarantineDir ≠ none ∨ (blocks answers d found policy = true ∧ answers.copying ≠ none)
        · rw [if_pos hfiles] at h
          exact absurd h (handled_ne_staged (by decide))
        · rw [if_neg hfiles] at h
          cases hblocks : blocks answers d found policy with
          | true =>
            rw [hblocks] at h
            split_ifs at h
            cases h
          | false =>
            rw [hblocks] at h
            change (if ¬ (Works answers (.setState .staged) ∧ Works answers (.commit .staged)) then .downloaded
              else .staged) = ArtifactState.staged at h
            by_cases hworks : Works answers (.setState .staged) ∧ Works answers (.commit .staged)
            · exact ⟨policy, hread, hpolicy, hblocks, hupdated.1, hupdated.2,
                not_not.mp fun hdir => hfiles (.inl hdir), hworks.1, hworks.2⟩
            · rw [if_pos hworks] at h
              cases h
      · rw [if_pos hupdated] at h
        cases h
  · rw [if_pos hread] at h
    cases h

theorem fetched_of_stages (h : Stages lib answers cache d) : (fetched lib answers d cache).1 = .staged := by
  obtain ⟨hcomes, content, cache', validation, ownership, raw, cache'', policy, hobtained, hassessed, hsbom, hsaved,
    hrecords⟩ := h
  have hevaluated : evaluated lib answers d content cache' = (.staged, cache'') := by
    unfold evaluated
    rw [hassessed.validated]
    dsimp only
    rw [hassessed.owned]
    dsimp only
    rw [hsbom]
    dsimp only
    unfold concludedWith concluded
    rw [if_neg fun h => h.2 (hsaved h.1), if_neg (not_not.mpr hrecords.policyRead), hrecords.read]
    dsimp only
    rw [if_neg (not_not.mpr ⟨hrecords.upserted, hrecords.replaced⟩), hrecords.free, if_neg ?_]
    · exact congrArg (·, cache'') (if_neg (not_not.mpr ⟨hrecords.set, hrecords.committed⟩))
    · rintro (hdir | ⟨hblocked, -⟩)
      · exact hdir hrecords.quarantineDir
      · cases hblocked
  unfold fetched
  rw [if_neg (not_not.mpr hcomes.downloading), hobtained]
  dsimp only
  rw [if_neg (not_not.mpr ⟨hcomes.downloaded, hcomes.committed⟩), if_neg (not_not.mpr hcomes.verifying), hevaluated]

/-- **What comes to be staged.** -/
theorem stages_of_fetched (h : (fetched lib answers d cache).1 = .staged) : Stages lib answers cache d := by
  unfold fetched at h
  by_cases hdownloading : Works answers (.setState .downloading)
  · rw [if_neg (not_not.mpr hdownloading)] at h
    rcases hobtained : obtained lib answers cache d with ⟨_ | content, cache'⟩
    · rw [hobtained] at h
      exact absurd h (handled_ne_staged (by decide))
    · rw [hobtained] at h
      dsimp only at h
      by_cases hdownloaded : Works answers (.setState .downloaded) ∧ Works answers (.commit .downloaded)
      · rw [if_neg (not_not.mpr hdownloaded)] at h
        by_cases hverifying : Works answers (.setState .verifying)
        · rw [if_neg (not_not.mpr hverifying)] at h
          unfold evaluated at h
          cases hvalidate : validate lib answers content with
          | error failure =>
            rw [hvalidate] at h
            exact absurd h (handled_ne_staged (by decide))
          | ok validation =>
            rw [hvalidate] at h
            dsimp only at h
            cases hownership : answers.ownership (ownershipRequest d validation.manifest) with
            | error failure =>
              rw [hownership] at h
              exact absurd h (handled_ne_staged (by decide))
            | ok ownership =>
              rw [hownership] at h
              dsimp only at h
              rcases hsbom : obtainedSbom lib answers cache' d content with ⟨_ | raw, cache''⟩
              · rw [hsbom] at h
                exact absurd h (handled_ne_staged (by decide))
              · rw [hsbom] at h
                dsimp only at h
                unfold concludedWith at h
                by_cases hsaved : parsedSbom lib answers d raw ≠ none ∧ ¬ Works answers .saveSbom
                · rw [if_pos hsaved] at h
                  cases h
                · rw [if_neg hsaved] at h
                  obtain ⟨policy, hrecords⟩ := concluded_eq_staged h
                  exact ⟨⟨hdownloading, hdownloaded.1, hdownloaded.2, hverifying⟩, content, cache', validation,
                    ownership, raw, cache'', policy, hobtained, ⟨hvalidate, hownership⟩, hsbom,
                    fun hparsed => not_not.mp fun hfails => hsaved ⟨hparsed, hfails⟩, hrecords⟩
        · rw [if_pos hverifying] at h
          cases h
      · rw [if_pos hdownloaded] at h
        cases h
  · rw [if_pos hdownloading] at h
    cases h

end

/-! ### Runs -/

/-- The row that is found with the digest of a release is that of the release, unless the fetch does not stage it. -/
def RowMatches (lib : ArtifactLib) (s : Staging) (call : FetchCall) : Prop :=
  ∀ d row, call.answers.resolve call.moduleId call.version = .ok d → s.stored.artifacts d.contentSha256 = some row →
    Works call.answers .getOrCreate → Works call.answers (.setState .downloadPending) →
    Works call.answers (.commit .downloadPending) → Stages lib call.answers s.cache d → row.identity = d.identity

/-- A call whose row matches keeps all staged rows checked. -/
theorem fetchStep_checked (lib : ArtifactLib) (s : Staging) (call : FetchCall)
    (hs : Sound lib (fun _ => True) s.cache s.stored) (hmatch : RowMatches lib s call) :
    Sound lib (fun _ => True) (fetchStep lib s call).cache (fetchStep lib s call).stored := by
  by_cases hgoes : ∀ d, call.answers.resolve call.moduleId call.version = .ok d → Works call.answers .getOrCreate →
      Works call.answers (.setState .downloadPending) → Works call.answers (.commit .downloadPending) →
      s.stored.identityFor d = d.identity
  · exact fetchStep_sound lib call hs fun d hresolve _ => hgoes d hresolve
  · push Not at hgoes
    obtain ⟨d, hresolve, hcreates, hset, hcommit, hother⟩ := hgoes
    have helse : Sound lib (· ≠ d.contentSha256) (fetchStep lib s call).cache (fetchStep lib s call).stored := by
      refine fetchStep_sound lib call (fun digest _ => hs digest trivial) fun d' hresolve' hne => ?_
      obtain rfl := Except.ok.inj (hresolve.symm.trans hresolve')
      exact absurd rfl hne
    obtain ⟨found, hfound, hidentity⟩ : ∃ found, s.stored.artifacts d.contentSha256 = some found ∧
        found.identity ≠ d.identity := by
      unfold Database.identityFor at hother
      cases hfound : s.stored.artifacts d.contentSha256 with
      | none =>
        rw [hfound] at hother
        exact absurd rfl hother
      | some found =>
        rw [hfound] at hother
        exact ⟨found, rfl, hother⟩
    intro digest _ row hrow hstaged
    by_cases hsame : digest = d.contentSha256
    · subst hsame
      obtain ⟨hstate, -⟩ := fetchStep_course lib s call hresolve
      have hfinal : (fetchStep lib s call).stored.stateOf d.contentSha256 = some .staged := by
        unfold Database.stateOf
        rw [hrow]
        exact congrArg some hstaged
      have hcourse : course lib call.answers d (s.stored.stateOf d.contentSha256) s.cache
          = (some (fetched lib call.answers d s.cache).1, (fetched lib call.answers d s.cache).2) :=
        if_neg (not_not.mpr ⟨hcreates, hset, hcommit⟩)
      rw [hfinal, hcourse] at hstate
      exact absurd (hmatch d found hresolve hfound hcreates hset hcommit
        (stages_of_fetched (Option.some.inj hstate).symm)) hidentity
    · exact helse digest hsame row hrow hstaged

/-! ### The identity of a row -/

/-- The row with a digest, if there is one, has an identity. -/
def HasIdentity (db : Database) (digest : String) (identity : ReleaseIdentity) : Prop :=
  ∀ row, db.artifacts digest = some row → row.identity = identity

section

variable {db : Database} {digest : String} {identity : ReleaseIdentity}

theorem HasIdentity.setArtifact {other : String} {row : ArtifactRow} (h : HasIdentity db digest identity)
    (hrow : other = digest → row.identity = identity) : HasIdentity (db.setArtifact other row) digest identity := by
  intro found hfound
  by_cases hsame : digest = other
  · subst hsame
    have hself : (db.setArtifact digest row).artifacts digest = some row := Function.update_self ..
    rw [← Option.some.inj (hself.symm.trans hfound)]
    exact hrow rfl
  · have hkept : (db.setArtifact other row).artifacts digest = db.artifacts digest := Function.update_of_ne hsame ..
    exact h found (hkept ▸ hfound)

theorem HasIdentity.changeState {other : String} {state : ArtifactState} {change : StateChange}
    (h : HasIdentity db digest identity) : HasIdentity (db.changeState other state change) digest identity := by
  unfold Database.changeState
  cases hfound : db.artifacts other with
  | none => exact h
  | some row =>
    refine h.setArtifact fun hsame => ?_
    rw [hsame] at hfound
    exact h row hfound

theorem HasIdentity.addArtifact {d : ArtifactDescriptor} (h : HasIdentity db digest identity)
    (hadd : d.contentSha256 = digest → db.artifacts digest = none → d.identity = identity) :
    HasIdentity (db.addArtifact d) digest identity := by
  unfold Database.addArtifact
  cases hfound : db.artifacts d.contentSha256 with
  | some row => exact h
  | none =>
    refine h.setArtifact fun hsame => hadd hsame ?_
    rw [← hsame]
    exact hfound

/-- The row that is committed has the identity, and so has that of the session. -/
structure Identified (digest : String) (identity : ReleaseIdentity) (s : Staging) : Prop where
  stored : HasIdentity s.stored digest identity
  session : HasIdentity s.session digest identity

variable {lib : ArtifactLib} {answers : FetchAnswers} {d : ArtifactDescriptor}

theorem keeps_dbCall_identified {call : DbCall} {change : Database → Database}
    (hchange : ∀ db, HasIdentity db digest identity → HasIdentity (change db) digest identity) :
    Keeps (Identified digest identity) (dbCall answers call change) :=
  keeps_dbCall (fun _ h => ⟨h.stored, h.session⟩) fun _ h => ⟨h.stored, hchange _ h.session⟩

theorem keeps_setState_identified {state : ArtifactState} {change : StateChange} :
    Keeps (Identified digest identity) (setState answers d.contentSha256 state change) :=
  keeps_dbCall_identified fun _ h => h.changeState

theorem keeps_commit_identified {state : ArtifactState} : Keeps (Identified digest identity) (commit answers state) := by
  unfold commit
  exact keeps_bind (keeps_dbCall_identified fun _ h => h) fun _ => keeps_modify fun _ h => ⟨h.session, h.session⟩

theorem keeps_concludeArtifact_identified (path : String) (content : Bytes) (found : Findings) :
    Keeps (Identified digest identity) (concludeArtifact answers d path content found) := by
  unfold concludeArtifact copyBlocked
  refine keeps_bind (keeps_dbCall_identified fun _ h => h) fun _ => keeps_bind (keeps_liftExcept _) fun policy => ?_
  refine keeps_bind (keeps_dbCall_identified fun _ h => h) fun _ => ?_
  refine keeps_bind (keeps_dbCall_identified fun _ h => h) fun _ => keeps_bind (keeps_fileOp _) fun _ => ?_
  refine keeps_bind (keeps_runIf (keeps_bind (keeps_fileOp _) fun _ => keeps_modify fun _ h => ⟨h.stored, h.session⟩))
    fun _ => ?_
  exact keeps_bind keeps_setState_identified fun _ => keeps_bind keeps_commit_identified fun _ => keeps_pure _

theorem keeps_fetchBody_identified : Keeps (Identified digest identity) (fetchBody lib answers d) := by
  have hfiles : ∀ (s : Staging) cache, Grows s.cache cache → Identified digest identity s →
      Identified digest identity { s with cache := cache } := fun _ _ _ h => ⟨h.stored, h.session⟩
  unfold fetchBody evaluateArtifact
  refine keeps_bind keeps_setState_identified fun _ => keeps_bind keeps_commit_identified fun _ => ?_
  refine keeps_bind keeps_setState_identified fun _ => keeps_bind (keeps_downloadArtifact hfiles) fun result => ?_
  refine keeps_bind keeps_setState_identified fun _ => keeps_bind keeps_commit_identified fun _ => ?_
  refine keeps_bind keeps_setState_identified fun _ => keeps_bind (keeps_readFile _) fun content => ?_
  refine keeps_bind (keeps_liftExcept _) fun validation => keeps_bind (keeps_liftExcept _) fun ownership => ?_
  refine keeps_bind (keeps_readSbom content hfiles) fun raw => ?_
  refine keeps_bind (keeps_evaluateSbom raw (fun _ h => ⟨h.stored, h.session⟩) fun _ _ h => ⟨h.stored, h.session⟩)
    fun sbom => ?_
  exact keeps_concludeArtifact_identified _ _ _

/-- **A row keeps its identity**, which is that of the release it was created for. -/
theorem fetchStep_identity (lib : ArtifactLib) {s : Staging} (call : FetchCall)
    (hs : HasIdentity s.stored digest identity)
    (hadd : ∀ d, call.answers.resolve call.moduleId call.version = .ok d → d.contentSha256 = digest →
      s.stored.artifacts digest = none → d.identity = identity) :
    HasIdentity (fetchStep lib s call).stored digest identity := by
  have hstart : Identified digest identity { s with session := s.stored, broken := false } := ⟨hs, hs⟩
  have hends : Ends (fetchRelease lib call.answers call.moduleId call.version)
      { s with session := s.stored, broken := false } (fun _ => Identified digest identity)
      fun _ => Identified digest identity := by
    unfold fetchRelease
    cases hresolve : call.answers.resolve call.moduleId call.version with
    | error failure => exact ends_throw hstart
    | ok d =>
      refine ends_bind (ends_pure (Q := fun d' s' => d' = d ∧
        s' = { s with session := s.stored, broken := false }) ⟨rfl, rfl⟩) ?_
      rintro d s' ⟨rfl, rfl⟩
      refine ends_bind (Q := fun _ => Identified digest identity) ?_ fun _ s₁ hs₁ => ?_
      · refine (ends_dbCall_change call.answers .getOrCreate (fun db => db.addArtifact d) _).mono ?_ ?_
        · rintro _ s' rfl
          exact ⟨hs, hs.addArtifact (hadd d hresolve)⟩
        · rintro _ s' (rfl | rfl)
          · exact hstart
          · exact ⟨hs, hs⟩
      · refine keeps_tryCatch keeps_fetchBody_identified (fun failure => ?_) s₁ hs₁
        unfold fetchFailed
        exact keeps_bind keeps_setState_identified fun _ => keeps_bind keeps_commit_identified fun _ => keeps_throw _
  unfold fetchStep
  cases hrun : fetchRelease lib call.answers call.moduleId call.version
    { s with session := s.stored, broken := false } with
  | ok _ s' => exact (hends.ok hrun).stored
  | error _ s' => exact (hends.error hrun).stored

end

/-- **Staged means checked.** In every run that starts without rows, whatever files there are, and that stages releases
with their own rows only: after every call, every staged row has the identity of the manifest inside its archive, and
the last evaluation of it was passed. -/
theorem fetchRun_staged_checked (lib : ArtifactLib) (s : Staging) (calls : List FetchCall) (hs : s.stored = {})
    (hmatch : AllSteps (fetchStep lib) (RowMatches lib) s calls) : AllSteps (fetchStep lib) (fun s call => ∀ digest,
      StagedChecked lib (fetchStep lib s call).cache (fetchStep lib s call).stored digest) s calls := by
  have hstart : Sound lib (fun _ => True) s.cache s.stored := by
    intro digest _ row hrow
    rw [hs] at hrow
    cases hrow
  refine hmatch.of_invariant (I := fun s => Sound lib (fun _ => True) s.cache s.stored) (fun s call hsound hmatches => ?_)
    hstart
  have hafter := fetchStep_checked lib s call hsound hmatches
  exact ⟨fun digest => hafter digest trivial, hafter⟩

/-! ### Two releases with one digest -/

theorem packageDigest_of_openZip {lib : ArtifactLib} {content : Bytes} {archive : Archive} {digest : String}
    (hopen : lib.openZip content = some archive) (hhash : contentHash lib.toPyLib archive = .ok digest) :
    packageDigest lib content = .ok digest := by
  unfold packageDigest
  rw [hopen]
  dsimp only
  rw [hhash]

namespace StagingDemo

open Packages (sha256Bytes)

def raw : JsonValues.Dict := demoRaw sha256Bytes "1" "acme"
def signed : JsonValues.Dict := demoSigned sha256Bytes "1" "acme" "acme"
def archive : Archive := packageArchive sha256Bytes "1" "acme" "acme"
def digest : String := demoContentHash sha256Bytes "1" "acme"
def meterUrl : String := "https://cdn.acme.io/meter.emicpkg"
def otherUrl : String := "https://cdn.acme.io/other.emicpkg"

/-- A release of a module, with the digest of the package of the meter. -/
def release (moduleId artifactUrl : String) : ArtifactDescriptor where
  moduleId := moduleId
  publisherId := "acme"
  version := "1"
  releaseId := moduleId ++ "@1"
  artifactUrl := artifactUrl
  contentSha256 := digest
  artifactSize := none
  source := .public

section

variable (content : Bytes)

/-- A library that opens one archive. -/
def libOf : ArtifactLib where
  toPyLib := demoLib sha256Bytes raw signed
  openZip content' := if content' = content then some archive else none
  hashFailure _ := none
  sha256_ne_empty := CacheDemo.lib.sha256_ne_empty
  mem_sha256 := CacheDemo.lib.mem_sha256

/-- A server with one file. -/
def networkOf : Network where
  validate _ _ _ := .ok ()
  get url := if url = meterUrl then .ok (.body none [content] none) else .ok (.status 404)
  follow _ location := location
  isHttps url := Packages.startsWith url "https://"

def settingsOf : DownloadSettings where
  maxBytes := content.length
  allowRedirects := false
  maxRedirects := 0
  requireHttps := true

def validatorOf (packageMaxBytes : ℕ) : PackageValidator :=
  { packageValidator sha256Bytes "1" "acme" "acme" with
    settings :=
      { modulesPath := ["modules"], allowUnsignedModules := false, versions := demoVersions,
        packageMaxBytes := packageMaxBytes, emicVersion := "1", moduleApiVersion := 1 } }

def answersOf (d : ArtifactDescriptor) : FetchAnswers where
  resolve _ _ := .ok d
  settings := settingsOf content
  network := networkOf content
  validator := validatorOf content.length
  disk := demoDisk
  ownership _ := .ok { decision := .allow, reasonCodes := [] }
  sbomDocument _ := none
  advisories := none
  packaging := unranged
  policy := .ok {}

/-- The release of another module, whose package is not there. -/
def otherCall : FetchCall :=
  { moduleId := "other.meter", version := "1", answers := answersOf content (release "other.meter" otherUrl) }

def meterCall : FetchCall :=
  { moduleId := "demo.meter", version := "1", answers := answersOf content (release "demo.meter" meterUrl) }

theorem openZip_libOf : (libOf content).openZip content = some archive := if_pos rfl

theorem requestFile_networkOf :
    requestFile (settingsOf content) (networkOf content) .public 0 meterUrl = .ok content := by
  have hget : (networkOf content).get meterUrl = .ok (.body none [content] none) := by
    unfold networkOf
    dsimp only
    rw [if_pos rfl]
  have hchunks : readChunks content.length none [content] [] = .ok content := by
    unfold readChunks
    rw [List.nil_append, if_neg (lt_irrefl _)]
    rfl
  unfold requestFile
  rw [hget]
  exact hchunks

theorem delivered_package :
    Delivered (libOf content) (settingsOf content) (networkOf content) (release "demo.meter" meterUrl) content where
  requested := requestFile_networkOf content
  digest := by
    have hhash : contentHash (libOf content).toPyLib archive = .ok digest :=
      contentHash_packageArchive sha256Bytes "1" "acme" "acme"
    have hdigest : packageDigest (libOf content) content = .ok digest :=
      packageDigest_of_openZip (openZip_libOf content) hhash
    show artifactDigest (libOf content) false meterUrl content = .ok digest
    unfold artifactDigest
    rw [hdigest, if_pos (by decide +kernel)]
  size := rfl

theorem accepted_validatorOf (size : ℕ) :
    PackageArchives.Accepted (validatorOf size) demoDisk archive raw (packageManifest sha256Bytes "1" "acme") .valid
      (packageTree sha256Bytes "1" "acme" "acme") := by
  have h := accepted_packageArchive sha256Bytes "1" "acme" "acme" (.inl rfl)
  exact {
    limits := h.limits
    listed := h.listed
    readable := h.readable
    parsed := h.parsed
    unprotected := h.unprotected
    hashes := h.hashes
    staged := h.staged
    signature := h.signature }

theorem validateArchive_validatorOf (size : ℕ) :
    ∃ w', validateArchive (validatorOf size) demoDisk (some ⟨size, some archive⟩) [] true {}
      = .ok (conclude (validatorOf size) (packageManifest sha256Bytes "1" "acme") [] .valid) w' := by
  have hsize : (⟨size, some archive⟩ : ArchiveFile).size ≤ (validatorOf size).settings.packageMaxBytes := le_refl size
  have hmembers : (⟨size, some archive⟩ : ArchiveFile).members = some archive := rfl
  have hstatic : staticErrors (validatorOf size) archive raw (packageManifest sha256Bytes "1" "acme") [] = .ok [] :=
    staticErrors_packageArchive sha256Bytes "1" "acme" "acme" []
  have hparsed : parseManifestDict (validatorOf size).lib (.obj raw) = .ok (raw, packageManifest sha256Bytes "1" "acme") :=
    parse_demoManifest sha256Bytes _ _ "1" "acme" _
  obtain ⟨result, w', hrun, hresult⟩ := (returns_validateArchive (validatorOf size) true quiet_demoDisk hsize hmembers
    (accepted_validatorOf size) hparsed List.not_mem_nil hstatic).run {}
  rw [hresult] at hrun
  exact ⟨w', hrun⟩

theorem validate_package : validate (libOf content) (meterCall content).answers content
      = .ok (conclude (validatorOf content.length) (packageManifest sha256Bytes "1" "acme") [] .valid) := by
  obtain ⟨w', hrun⟩ := validateArchive_validatorOf content.length
  have hvalidator : { (meterCall content).answers.validator with lib := (libOf content).toPyLib }
      = validatorOf content.length := rfl
  have hdisk : (meterCall content).answers.disk = demoDisk := rfl
  unfold validate
  rw [openZip_libOf, hvalidator, hdisk, hrun]

/-- The findings on the package. -/
def packageFindings (size : ℕ) : Findings where
  validation := conclude (validatorOf size) (packageManifest sha256Bytes "1" "acme") [] .valid
  ownership := { decision := .allow, reasonCodes := [] }
  sbom := sbomMissing

theorem not_blocks_package :
    blocks (meterCall content).answers (release "demo.meter" meterUrl) (packageFindings content.length) {} = false := by
  rfl

theorem stages_meter :
    Stages (libOf content) (meterCall content).answers (fun _ => none) (release "demo.meter" meterUrl) := by
  have hobtained : obtained (libOf content) (meterCall content).answers (fun _ => none) (release "demo.meter" meterUrl)
      = (some content, Function.update (fun _ => none) digest (some content)) :=
    obtained_of_obtains (.inr ⟨rfl, rfl, delivered_package content⟩)
  refine ⟨⟨rfl, rfl, rfl, rfl⟩, content, _, _, { decision := .allow, reasonCodes := [] }, none, _, {}, hobtained,
    ⟨validate_package content, rfl⟩, rfl, fun h => absurd rfl h, ?_⟩
  exact ⟨rfl, rfl, not_blocks_package content, rfl, rfl, rfl, rfl, rfl⟩

/-- The row of the release that is not there. -/
theorem rejected_other : (fetchStep (libOf content) {} (otherCall content)).stored.stateOf digest = some .rejected ∧
      (fetchStep (libOf content) {} (otherCall content)).cache = fun _ => none := by
  have hnothing : ∀ content', ¬ Obtains (libOf content) (otherCall content).answers (fun _ => none)
      (release "other.meter" otherUrl) content' := by
    rintro content' (⟨hcached, -⟩ | ⟨-, -, hdelivered⟩)
    · cases hcached
    · have hrequested : requestFile (settingsOf content) (networkOf content) .public 0 otherUrl = .ok content' :=
        hdelivered.requested
      have hget : (networkOf content).get otherUrl = .ok (.status 404) := by
        unfold networkOf
        dsimp only
        rw [if_neg (by decide)]
      unfold requestFile at hrequested
      rw [hget] at hrequested
      cases hrequested
  have hcalls : ∀ dbCall, Works (otherCall content).answers dbCall := fun _ => rfl
  obtain ⟨hstate, hcache⟩ := fetchStep_course (libOf content) {} (otherCall content)
    (d := release "other.meter" otherUrl) rfl
  have hcourse : course (libOf content) (otherCall content).answers (release "other.meter" otherUrl) none (fun _ => none)
      = (some .rejected, fun _ => none) := by
    unfold course
    rw [if_neg (not_not.mpr ⟨hcalls _, hcalls _, hcalls _⟩), fetched_of_not_obtains hcalls hnothing]
  exact ⟨hstate.trans (congrArg Prod.fst hcourse), hcache.trans (congrArg Prod.snd hcourse)⟩

/-- The package of the meter is staged with the row of the other release. -/
theorem staged_with_other_row :
    ∃ row, (run (fetchStep (libOf content)) {} [otherCall content, meterCall content]).stored.artifacts digest
      = some row ∧ row.state = .staged ∧ row.identity = (release "other.meter" otherUrl).identity := by
  obtain ⟨hrejected, hcache⟩ := rejected_other content
  have hfirst : HasIdentity (fetchStep (libOf content) {} (otherCall content)).stored digest
      (release "other.meter" otherUrl).identity := by
    refine fetchStep_identity _ _ (fun row hrow => by cases hrow) fun d hresolve _ _ => ?_
    exact congrArg ArtifactDescriptor.identity (Except.ok.inj hresolve).symm
  have hsecond := fetchStep_identity (libOf content) (meterCall content) hfirst fun d _ _ hnone => by
    unfold Database.stateOf at hrejected
    rw [hnone] at hrejected
    cases hrejected
  obtain ⟨hstate, -⟩ := fetchStep_course (libOf content) (fetchStep (libOf content) {} (otherCall content))
    (meterCall content) (d := release "demo.meter" meterUrl) rfl
  have hcourse : course (libOf content) (meterCall content).answers (release "demo.meter" meterUrl)
      ((fetchStep (libOf content) {} (otherCall content)).stored.stateOf digest) (fun _ => none)
      = (some .staged, (fetched (libOf content) (meterCall content).answers (release "demo.meter" meterUrl)
          fun _ => none).2) := by
    unfold course
    rw [if_neg (not_not.mpr ⟨rfl, rfl, rfl⟩)]
    exact congrArg (fun state => (some state, _)) (fetched_of_stages (stages_meter content))
  rw [hcache] at hstate
  have hstaged := hstate.trans (congrArg Prod.fst hcourse)
  unfold Database.stateOf at hstaged
  obtain ⟨row, hrow, hrowState⟩ := Option.map_eq_some_iff.mp hstaged
  exact ⟨row, hrow, hrowState, hsecond row hrow⟩

/-- The only manifest there is. -/
theorem manifest_package {content' : Bytes} {manifest : Manifest} (h : HasManifest (libOf content) content' manifest) :
    manifest = packageManifest sha256Bytes "1" "acme" := by
  obtain ⟨archive', data, raw', hopen, hread, hloads, hparsed⟩ := h
  have harchive : archive = archive' := by
    by_cases hsame : content' = content
    · rw [hsame] at hopen
      exact Option.some.inj ((openZip_libOf content).symm.trans hopen)
    · exact absurd (show (libOf content).openZip content' = none from if_neg hsame) (by rw [hopen]; exact Option.some_ne_none _)
  subst harchive
  have haccepted := accepted_validatorOf 0
  obtain ⟨data', hread', hloads'⟩ := haccepted.readable
  obtain rfl := Except.ok.inj (hread.symm.trans hread')
  have hraw : raw' = raw := JsonValues.Json.obj.inj (Except.ok.inj (hloads.symm.trans hloads'))
  rw [hraw] at hparsed
  exact Except.ok.inj (hparsed.symm.trans haccepted.parsed)

theorem not_stagedChecked_other :
    ¬ StagedChecked (libOf content) (run (fetchStep (libOf content)) {} [otherCall content, meterCall content]).cache
      (run (fetchStep (libOf content)) {} [otherCall content, meterCall content]).stored digest := by
  intro h
  obtain ⟨row, hrow, hstaged, hidentity⟩ := staged_with_other_row content
  obtain ⟨⟨path, content', manifest, -, -, hmanifest, hsame⟩, -⟩ := h row hrow hstaged
  rw [manifest_package content hmanifest, hidentity] at hsame
  exact absurd (congrArg ReleaseIdentity.moduleId hsame) (by decide)

end

/-- The bytes of the package. -/
def packageBytes : Bytes := [80, 75, 3, 4] ++ manifestText raw ++ signatureText signed

/-- The meter is fetched on its own. -/
theorem fetchRun_staged_checked_meter :
    AllSteps (fetchStep (libOf packageBytes)) (fun s call => ∀ digest, StagedChecked (libOf packageBytes)
      (fetchStep (libOf packageBytes) s call).cache (fetchStep (libOf packageBytes) s call).stored digest)
      {} [meterCall packageBytes] := by
  have hmatches : RowMatches (libOf packageBytes) {} (meterCall packageBytes) := by
    intro d row _ hrow
    cases hrow
  exact fetchRun_staged_checked (libOf packageBytes) {} [meterCall packageBytes] rfl ⟨hmatches, trivial⟩

/-- **A package is staged under another module.** The row of a release that is not there is found with the digest of
the release that is, and staged with its package. -/
theorem staged_under_other_module : ¬ StagedChecked (libOf packageBytes)
      (run (fetchStep (libOf packageBytes)) {} [otherCall packageBytes, meterCall packageBytes]).cache
      (run (fetchStep (libOf packageBytes)) {} [otherCall packageBytes, meterCall packageBytes]).stored digest :=
  not_stagedChecked_other packageBytes

end StagingDemo

end EnergyCore.Distribution
