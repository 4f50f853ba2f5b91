import EnergyCore.Distribution.StagingService

/-!
# The course of a fetch

What `fetch_release` makes of the state of a row, as a function of the files that it obtains and of what its calls are
answered. `course` says it without a session; `ends_fetchRelease` says that the code follows it.

* `ends_concludeArtifact`, `ends_evaluateArtifact`, `ends_fetchBody` — the parts of a fetch;
* `fetchStep_course` — the state of the row, and the cache, after a call.
-/

namespace EnergyCore.Distribution

open FallibleSteps PackageArchives SupplyChain

/-! ### The course -/

section

variable (lib : ArtifactLib) (answers : FetchAnswers)

/-- The call goes through. -/
def Works (call : DbCall) : Prop := answers.failing call = none

instance (call : DbCall) : Decidable (Works answers call) := inferInstanceAs (Decidable (_ = _))

/-- The state of a row whose fetch has raised while its session was in order. -/
def handled (before : ArtifactState) : ArtifactState :=
  if Works answers (.setState .rejected) ∧ Works answers (.commit .rejected) then .rejected else before

/-- The file that a download obtains. -/
def obtained (cache : Cache) (d : ArtifactDescriptor) : Option Bytes × Cache :=
  match download lib answers.settings answers.network (answers.promotes d.contentSha256) cache d with
  | (.ok result, cache') => (cache' result.path, cache')
  | (.error _, cache') => (none, cache')

def obtainedExternal (cache : Cache) (d : ArtifactDescriptor) (url sha256 : String) : Option Bytes × Cache :=
  match cache ("sbom-" ++ sha256) with
  | some raw => (some raw, cache)
  | none => obtained lib answers cache (sbomDescriptor d url sha256)

/-- The bytes of the SBOM that are obtained, if there is one; `none` where obtaining them raises. -/
def obtainedSbom (cache : Cache) (d : ArtifactDescriptor) (content : Bytes) : Option (Option Bytes) × Cache :=
  match d.sbomReference with
  | none => (some none, cache)
  | some reference =>
    if reference.embedded then ((readEmbeddedSbom lib content).toOption, cache)
    else
      match nonEmpty reference.url, nonEmpty reference.sha256 with
      | some url, some sha256 =>
        let (raw, cache') := obtainedExternal lib answers cache d url sha256
        (raw.map some, cache')
      | _, _ => (some none, cache)

/-- What is parsed of the SBOM, and so has to be saved. -/
def parsedSbom (d : ArtifactDescriptor) : Option Bytes → Option ParsedSbom
  | none | some [] => none
  | some raw => parseSbom lib answers raw (d.sbomReference.bind SbomReference.sha256)

/-- What is found of an SBOM that is saved. -/
def savedFinding (d : ArtifactDescriptor) : Option Bytes → SbomFinding
  | none | some [] => sbomMissing
  | some raw =>
    match parseSbom lib answers raw (d.sbomReference.bind SbomReference.sha256) with
    | none => { status := .invalid, parsed := none, reasonCodes := ["SBOM_INVALID"] }
    | some parsed => { status := .valid, parsed := some parsed, reasonCodes := [] }

/-- The state that a fetch concludes with. -/
def concluded (d : ArtifactDescriptor) (found : Findings) : ArtifactState :=
  if ¬ Works answers .policy then .downloaded
  else
    match answers.policy with
    | .error _ => handled answers .downloaded
    | .ok policy =>
      let final := finalState (blocks answers d found policy)
      if ¬ (Works answers .upsertSecurity ∧ Works answers .replaceVulnerabilities) then .downloaded
      else if answers.quarantineDir ≠ none ∨ (blocks answers d found policy = true ∧ answers.copying ≠ none) then
        handled answers .downloaded
      else if ¬ (Works answers (.setState final) ∧ Works answers (.commit final)) then .downloaded
      else final

/-- The same, with the SBOM saved before. -/
def concludedWith (d : ArtifactDescriptor) (validation : Validation) (ownership : OwnershipResult)
    (raw : Option Bytes) : ArtifactState :=
  if parsedSbom lib answers d raw ≠ none ∧ ¬ Works answers .saveSbom then .downloaded
  else concluded answers d { validation := validation, ownership := ownership, sbom := savedFinding lib answers d raw }

/-- The state after the evaluation of a downloaded artifact, and the cache. -/
def evaluated (d : ArtifactDescriptor) (content : Bytes) (cache : Cache) : ArtifactState × Cache :=
  match validate lib answers content with
  | .error _ => (handled answers .downloaded, cache)
  | .ok validation =>
    match answers.ownership (ownershipRequest d validation.manifest) with
    | .error _ => (handled answers .downloaded, cache)
    | .ok ownership =>
      match obtainedSbom lib answers cache d content with
      | (none, cache') => (handled answers .downloaded, cache')
      | (some raw, cache') => (concludedWith lib answers d validation ownership raw, cache')

/-- The state after a fetch whose row is found, and the cache. -/
def fetched (d : ArtifactDescriptor) (cache : Cache) : ArtifactState × Cache :=
  if ¬ Works answers (.setState .downloading) then (.downloadPending, cache)
  else
    match obtained lib answers cache d with
    | (none, cache') => (handled answers .downloadPending, cache')
    | (some content, cache') =>
      if ¬ (Works answers (.setState .downloaded) ∧ Works answers (.commit .downloaded)) then
        (.downloadPending, cache')
      else if ¬ Works answers (.setState .verifying) then (.downloaded, cache')
      else evaluated lib answers d content cache'

/-- The state of the row after a fetch, and the cache. -/
def course (d : ArtifactDescriptor) (before : Option ArtifactState) (cache : Cache) : Option ArtifactState × Cache :=
  if ¬ (Works answers .getOrCreate ∧ Works answers (.setState .downloadPending) ∧
      Works answers (.commit .downloadPending)) then (before, cache)
  else
    let (state, cache') := fetched lib answers d cache
    (some state, cache')

end

/-! ### Sessions -/

/-- The state of the row with a digest. -/
def Database.stateOf (db : Database) (digest : String) : Option ArtifactState :=
  (db.artifacts digest).map ArtifactRow.state

/-- The session is in order: what is committed of the row, and the cache. -/
structure Open (digest : String) (stored : Option ArtifactState) (cache : Cache) (s : Staging) : Prop where
  broken : s.broken = false
  stored : s.stored.stateOf digest = stored
  cache : s.cache = cache

/-- The session is in order, and has the row. -/
structure At (digest : String) (stored : Option ArtifactState) (cache : Cache) (s : Staging) : Prop
    extends Open digest stored cache s where
  session : (s.session.artifacts digest).isSome = true

/-- The session is lost: what was committed of the row before, and the cache. -/
structure Lost (digest : String) (stored : Option ArtifactState) (cache : Cache) (s : Staging) : Prop where
  broken : s.broken = true
  stored : s.stored.stateOf digest = stored
  cache : s.cache = cache

/-- The call has ended with the row in a state. -/
def Ended (digest : String) (outcome : Option ArtifactState × Cache) (s : Staging) : Prop :=
  s.stored.stateOf digest = outcome.1 ∧ s.cache = outcome.2

/-- The body has raised on its way to an outcome. -/
def RaisedOn (answers : FetchAnswers) (digest : String) (outcome : ArtifactState × Cache) (s : Staging) : Prop :=
  Lost digest (some outcome.1) outcome.2 s ∨
    ∃ before, At digest (some before) outcome.2 s ∧ outcome.1 = handled answers before

section

variable {lib : ArtifactLib} {answers : FetchAnswers} {digest : String} {stored : Option ArtifactState}
  {cache : Cache} {s : Staging} {d : ArtifactDescriptor}

/-- A call that keeps the rows. -/
theorem ends_dbCall {call : DbCall} {change : Database → Database} (hs : Open digest stored cache s)
    (hchange : ((change s.session).artifacts digest).isSome = true) : Ends (dbCall answers call change) s
      (fun _ s' => Works answers call ∧ At digest stored cache s' ∧ s'.session = change s.session)
      fun _ s' => ¬ Works answers call ∧ Lost digest stored cache s' := by
  unfold dbCall
  refine ends_bind (ends_get (Q := fun s₁ s' => s₁ = s ∧ s' = s) ⟨rfl, rfl⟩) ?_
  rintro s₁ s' ⟨rfl, rfl⟩
  refine ends_ite (fun hbroken => ?_) fun _ => ?_
  · rw [hs.broken] at hbroken
    cases hbroken
  cases hfailing : answers.failing call with
  | some text =>
    have hnot : ¬ Works answers call := by
      intro hworks
      rw [Works, hfailing] at hworks
      cases hworks
    refine ends_bind (ends_modify (Q := fun _ s'' => s'' = { s' with broken := true }) rfl) ?_
    rintro _ s'' rfl
    exact ends_throw ⟨hnot, rfl, hs.stored, hs.cache⟩
  | none => exact ends_modify ⟨hfailing, ⟨⟨hs.broken, hs.stored, hs.cache⟩, hchange⟩, rfl⟩

theorem ends_dbCall_lost {call : DbCall} {change : Database → Database} (hs : Lost digest stored cache s) :
    Ends (dbCall answers call change) s (fun _ _ => False) fun _ s' => Lost digest stored cache s' := by
  unfold dbCall
  refine ends_bind (ends_get (Q := fun s₁ s' => s₁ = s ∧ s' = s) ⟨rfl, rfl⟩) ?_
  rintro s₁ s' ⟨rfl, rfl⟩
  exact ends_ite (fun _ => ends_throw hs) fun hbroken => absurd hs.broken hbroken

theorem ends_setState {state : ArtifactState} {change : StateChange} (hs : At digest stored cache s) :
    Ends (setState answers digest state change) s
      (fun _ s' => Works answers (.setState state) ∧ At digest stored cache s' ∧
        s'.session.stateOf digest = some state)
      fun _ s' => ¬ Works answers (.setState state) ∧ Lost digest stored cache s' := by
  obtain ⟨row, hrow⟩ := Option.isSome_iff_exists.mp hs.session
  have hchanged : (s.session.changeState digest state change).artifacts digest
      = some (row.withState state change) := by
    unfold Database.changeState
    rw [hrow]
    exact Function.update_self ..
  unfold setState
  refine (ends_dbCall hs.toOpen ?_).mono (fun _ s' h => ⟨h.1, h.2.1, ?_⟩) fun _ _ h => h
  · rw [hchanged]
    rfl
  · rw [h.2.2, Database.stateOf, hchanged]
    rfl

theorem ends_commit {state : ArtifactState} (hs : At digest stored cache s) : Ends (commit answers state) s
      (fun _ s' => Works answers (.commit state) ∧ At digest (s.session.stateOf digest) cache s')
      fun _ s' => ¬ Works answers (.commit state) ∧ Lost digest stored cache s' := by
  unfold commit
  refine ends_bind (ends_dbCall hs.toOpen hs.session) ?_
  rintro _ s₁ ⟨hworks, hs₁, hsession⟩
  refine ends_modify ⟨hworks, ⟨hs₁.broken, ?_, hs₁.cache⟩, hs₁.session⟩
  rw [hsession]
  rfl

/-- A state that is written and committed. -/
theorem ends_commitState (answers : FetchAnswers) (state : ArtifactState) (change : StateChange) (hs : At digest stored cache s) :
    Ends (setState answers digest state change >>= fun _ => commit answers state) s
      (fun _ s' => (Works answers (.setState state) ∧ Works answers (.commit state)) ∧ At digest (some state) cache s')
      fun _ s' => ¬ (Works answers (.setState state) ∧ Works answers (.commit state)) ∧
        Lost digest stored cache s' := by
  refine ends_bind ((ends_setState hs).mono (fun _ _ h => h) fun _ _ h => ⟨fun hw => h.1 hw.1, h.2⟩) ?_
  rintro _ s₁ ⟨hset, hs₁, hstate⟩
  refine (ends_commit hs₁).mono (fun _ s' h => ⟨⟨hset, h.1⟩, ?_⟩) fun _ _ h => ⟨fun hw => h.1 hw.2, h.2⟩
  rw [← hstate]
  exact h.2

theorem ends_fileOp {failing : Option String} (hs : At digest stored cache s) :
    Ends (fileOp failing) s (fun _ s' => failing = none ∧ At digest stored cache s')
      fun _ s' => failing ≠ none ∧ At digest stored cache s' := by
  cases failing with
  | none => exact ends_pure ⟨rfl, hs⟩
  | some text => exact ends_throw ⟨Option.some_ne_none text, hs⟩

/-! ### Files -/

/-- What a download returns is in the cache. -/
theorem cache_path_of_download {settings : DownloadSettings} {net : Network} {promotes : Option String} {cache' : Cache}
    {result : DownloadResult} (h : download lib settings net promotes cache d = (.ok result, cache')) :
    ∃ content, cache' result.path = some content := by
  cases hcached : cache d.contentSha256 with
  | some content =>
    rcases download_of_cached lib settings net promotes hcached with
      ⟨-, hrun⟩ | ⟨-, failure, hrun⟩
    · obtain ⟨hresult, rfl⟩ := Prod.mk.inj (h.symm.trans hrun)
      rw [Except.ok.inj hresult]
      exact ⟨content, hcached⟩
    · rw [hrun] at h
      cases h
  | none =>
    rw [download_of_missing _ _ _ _ hcached] at h
    rcases downloadMissing_cases lib settings net promotes cache d with
      ⟨content, -, -, hrun⟩ | ⟨-, failure, hrun⟩
    · obtain ⟨hresult, rfl⟩ := Prod.mk.inj (h.symm.trans hrun)
      rw [Except.ok.inj hresult]
      exact ⟨content, Function.update_self ..⟩
    · rw [hrun] at h
      cases h

theorem ends_downloadArtifact (hs : At digest stored cache s) : Ends (downloadArtifact lib answers d) s
      (fun result s' => ∃ content cache', obtained lib answers cache d = (some content, cache') ∧
        cache' result.path = some content ∧ At digest stored cache' s')
      fun _ s' => ∃ cache', obtained lib answers cache d = (none, cache') ∧ At digest stored cache' s' := by
  unfold downloadArtifact
  refine ends_bind (ends_get (Q := fun s₁ s' => s₁ = s ∧ s' = s) ⟨rfl, rfl⟩) ?_
  rintro s₁ s' ⟨rfl, rfl⟩
  rw [hs.cache]
  cases hrun : download lib answers.settings answers.network (answers.promotes d.contentSha256) cache d with
  | mk outcome cache' =>
    have hafter : At digest stored cache' { s' with cache := cache' } := ⟨⟨hs.broken, hs.stored, rfl⟩, hs.session⟩
    refine ends_bind (ends_modify (Q := fun _ s'' => s'' = { s' with cache := cache' }) rfl) ?_
    rintro _ s'' rfl
    cases outcome with
    | ok result =>
      obtain ⟨content, hcontent⟩ := cache_path_of_download hrun
      refine ends_pure ⟨content, cache', ?_, hcontent, hafter⟩
      rw [obtained, hrun]
      exact congrArg (·, cache') hcontent
    | error failure =>
      refine ends_throw ⟨cache', ?_, hafter⟩
      rw [obtained, hrun]

theorem ends_readFile {name : String} {content : Bytes} (hs : At digest stored cache s)
    (hname : cache name = some content) :
    Ends (readFile name) s (fun content' s' => content' = content ∧ At digest stored cache s') fun _ _ => False := by
  unfold readFile
  refine ends_bind (ends_get (Q := fun s₁ s' => s₁ = s ∧ s' = s) ⟨rfl, rfl⟩) ?_
  rintro s₁ s' ⟨rfl, rfl⟩
  rw [hs.cache, hname]
  exact ends_pure ⟨rfl, hs⟩

theorem ends_externalSbom {url sha256 : String} (hs : At digest stored cache s) :
    Ends (externalSbom lib answers d url sha256) s
      (fun raw s' => ∃ cache', obtainedExternal lib answers cache d url sha256 = (some raw, cache') ∧
        At digest stored cache' s')
      fun _ s' => ∃ cache', obtainedExternal lib answers cache d url sha256 = (none, cache') ∧
        At digest stored cache' s' := by
  unfold externalSbom obtainedExternal
  refine ends_bind (ends_get (Q := fun s₁ s' => s₁ = s ∧ s' = s) ⟨rfl, rfl⟩) ?_
  rintro s₁ s' ⟨rfl, rfl⟩
  rw [hs.cache]
  cases cache ("sbom-" ++ sha256) with
  | some raw => exact ends_pure ⟨cache, rfl, hs⟩
  | none =>
    refine ends_bind (ends_downloadArtifact hs) ?_
    rintro result s₁ ⟨content, cache', hobtained, hpath, hs₁⟩
    refine (ends_readFile hs₁ hpath).mono (fun raw s₂ h => ?_) fun _ _ h => h.elim
    obtain ⟨rfl, hs₂⟩ := h
    exact ⟨cache', hobtained, hs₂⟩

theorem ends_readSbom {content : Bytes} (hs : At digest stored cache s) : Ends (readSbom lib answers d content) s
      (fun raw s' => ∃ cache', obtainedSbom lib answers cache d content = (some raw, cache') ∧
        At digest stored cache' s') fun _ s' => ∃ cache', obtainedSbom lib answers cache d content = (none, cache') ∧
        At digest stored cache' s' := by
  unfold readSbom obtainedSbom
  cases d.sbomReference with
  | none => exact ends_pure ⟨cache, rfl, hs⟩
  | some reference =>
    dsimp only
    by_cases hembedded : reference.embedded = true
    · rw [if_pos hembedded, if_pos hembedded]
      cases readEmbeddedSbom lib content with
      | ok raw => exact ends_pure ⟨cache, rfl, hs⟩
      | error failure => exact ends_throw ⟨cache, rfl, hs⟩
    · rw [if_neg hembedded, if_neg hembedded]
      cases nonEmpty reference.url with
      | none => exact ends_pure ⟨cache, rfl, hs⟩
      | some url =>
        cases nonEmpty reference.sha256 with
        | none => exact ends_pure ⟨cache, rfl, hs⟩
        | some sha256 =>
          dsimp only
          refine ends_bind ((ends_externalSbom hs).mono (fun _ _ h => h) ?_) ?_
          · rintro _ s' ⟨cache', hobtained, hs'⟩
            rw [hobtained]
            exact ⟨cache', rfl, hs'⟩
          · rintro raw s' ⟨cache', hobtained, hs'⟩
            rw [hobtained]
            exact ends_pure ⟨cache', rfl, hs'⟩

/-! ### The evaluation -/

/-- The finding on an SBOM; if it cannot be saved, the session is lost. -/
theorem ends_evaluateSbom {raw : Option Bytes} (hs : At digest stored cache s) :
    Ends (evaluateSbom lib answers d raw) s
      (fun sbom s' => (parsedSbom lib answers d raw ≠ none ∧ ¬ Works answers .saveSbom ∧ Lost digest stored cache s') ∨
        ((parsedSbom lib answers d raw ≠ none → Works answers .saveSbom) ∧
          sbom = savedFinding lib answers d raw ∧ At digest stored cache s')) fun _ _ => False := by
  unfold evaluateSbom parsedSbom savedFinding
  rcases raw with _ | _ | ⟨byte, bytes⟩
  · exact ends_pure (.inr ⟨fun h => absurd rfl h, rfl, hs⟩)
  · exact ends_pure (.inr ⟨fun h => absurd rfl h, rfl, hs⟩)
  · dsimp only
    cases parseSbom lib answers (byte :: bytes) (d.sbomReference.bind SbomReference.sha256) with
    | none => exact ends_pure (.inr ⟨fun h => absurd rfl h, rfl, hs⟩)
    | some parsed =>
      dsimp only
      refine ends_tryCatch (ends_bind (ends_dbCall hs.toOpen hs.session) ?_) ?_
      · rintro _ s' ⟨hworks, hs', -⟩
        exact ends_pure (.inr ⟨fun _ => hworks, rfl, hs'⟩)
      · rintro _ s' ⟨hfails, hlost⟩
        exact ends_pure (.inl ⟨Option.some_ne_none parsed, hfails, hlost⟩)

theorem RaisedOn.lost {outcome : ArtifactState × Cache} {before : ArtifactState} (hs : Lost digest (some before) cache s)
    (houtcome : outcome = (before, cache)) : RaisedOn answers digest outcome s := by
  rw [houtcome]
  exact .inl hs

theorem RaisedOn.at {outcome : ArtifactState × Cache} {before : ArtifactState} (hs : At digest (some before) cache s)
    (houtcome : outcome = (handled answers before, cache)) : RaisedOn answers digest outcome s := by
  rw [houtcome]
  exact .inr ⟨before, hs, rfl⟩

/-- What was downloaded is recorded in the state that it concludes with. -/
theorem ends_concludeArtifact {path : String} {content : Bytes} {found : Findings}
    (hs : At d.contentSha256 (some .downloaded) cache s) : Ends (concludeArtifact answers d path content found) s
      (fun _ => Ended d.contentSha256 (some (concluded answers d found), cache))
      fun _ => RaisedOn answers d.contentSha256 (concluded answers d found, cache) := by
  unfold concludeArtifact
  refine ends_bind ((ends_dbCall hs.toOpen hs.session).mono (fun _ _ h => h) fun _ s' h => ?_) ?_
  · refine RaisedOn.lost h.2 (congrArg (·, cache) ?_)
    exact if_pos h.1
  rintro _ s₁ ⟨hpolicyRead, hs₁, -⟩
  have hconcluded : concluded answers d found = match answers.policy with
      | .error _ => handled answers .downloaded
      | .ok policy =>
        if ¬ (Works answers .upsertSecurity ∧ Works answers .replaceVulnerabilities) then .downloaded
        else if answers.quarantineDir ≠ none ∨ (blocks answers d found policy = true ∧ answers.copying ≠ none) then
          handled answers .downloaded
        else if ¬ (Works answers (.setState (finalState (blocks answers d found policy))) ∧
            Works answers (.commit (finalState (blocks answers d found policy)))) then .downloaded
        else finalState (blocks answers d found policy) := by
    unfold concluded
    exact if_neg (not_not.mpr hpolicyRead)
  cases hpolicy : answers.policy with
  | error failure =>
    rw [hpolicy] at hconcluded
    exact ends_throw (RaisedOn.at hs₁ (congrArg (·, cache) hconcluded))
  | ok policy =>
    rw [hpolicy] at hconcluded
    dsimp only at hconcluded
    refine ends_bind (ends_pure (Q := fun p s' => p = policy ∧ s' = s₁) ⟨rfl, rfl⟩) ?_
    rintro policy s' ⟨rfl, rfl⟩
    refine ends_bind ((ends_dbCall hs₁.toOpen hs₁.session).mono (fun _ _ h => h) fun _ s' h => ?_) ?_
    · exact RaisedOn.lost h.2 (congrArg (·, cache) (hconcluded.trans (if_pos fun hw => h.1 hw.1)))
    rintro _ s₂ ⟨hupsert, hs₂, -⟩
    refine ends_bind ((ends_dbCall hs₂.toOpen hs₂.session).mono (fun _ _ h => h) fun _ s' h => ?_) ?_
    · exact RaisedOn.lost h.2 (congrArg (·, cache) (hconcluded.trans (if_pos fun hw => h.1 hw.2)))
    rintro _ s₃ ⟨hreplace, hs₃, -⟩
    rw [if_neg (not_not.mpr ⟨hupsert, hreplace⟩)] at hconcluded
    refine ends_bind ((ends_fileOp hs₃).mono (fun _ _ h => h) fun _ s' h => ?_) ?_
    · exact RaisedOn.at h.2 (congrArg (·, cache) (hconcluded.trans (if_pos (.inl h.1))))
    rintro _ s₄ ⟨hdir, hs₄⟩
    have hcopied : Ends (runIf (blocks answers d found policy = true) (copyBlocked answers d.contentSha256 content)) s₄
        (fun _ s' => (blocks answers d found policy = true → answers.copying = none) ∧
          At d.contentSha256 (some .downloaded) cache s')
        fun _ s' => (blocks answers d found policy = true ∧ answers.copying ≠ none) ∧
          At d.contentSha256 (some .downloaded) cache s' := by
      refine ends_runIf (fun hblocked => ?_) fun hfree => ⟨fun hblocked => absurd hblocked hfree, hs₄⟩
      unfold copyBlocked
      refine ends_bind ((ends_fileOp hs₄).mono (fun _ _ h => h) fun _ s' h => ⟨⟨hblocked, h.1⟩, h.2⟩) ?_
      rintro _ s' ⟨hcopying, hs'⟩
      exact ends_modify ⟨fun _ => hcopying, ⟨⟨hs'.broken, hs'.stored, hs'.cache⟩, hs'.session⟩⟩
    refine ends_bind (hcopied.mono (fun _ _ h => h) fun _ s' h => ?_) ?_
    · exact RaisedOn.at h.2 (congrArg (·, cache) (hconcluded.trans (if_pos (.inr h.1))))
    rintro _ s₅ ⟨hcopying, hs₅⟩
    rw [if_neg (by
      rintro (h | ⟨hblocked, h⟩)
      · exact h hdir
      · exact h (hcopying hblocked))] at hconcluded
    show Ends (setState _ _ _ _ >>= fun _ => commit _ _ >>= fun _ => pure _) _ _ _
    rw [← bind_assoc]
    refine ends_bind ((ends_commitState _ _ _ hs₅).mono (fun _ _ h => h) fun _ s' h => ?_) ?_
    · exact RaisedOn.lost h.2 (congrArg (·, cache) (hconcluded.trans (if_pos h.1)))
    rintro _ s₆ ⟨hworks, hs₆⟩
    refine ends_pure ⟨?_, hs₆.cache⟩
    rw [hs₆.stored]
    exact congrArg some (hconcluded.trans (if_neg (not_not.mpr hworks))).symm

/-- A fetch whose session is lost ends where it is. -/
theorem ends_concludeArtifact_lost {path : String} {content : Bytes} {found : Findings}
    (hs : Lost digest stored cache s) :
    Ends (concludeArtifact answers d path content found) s (fun _ _ => False) fun _ => Lost digest stored cache := by
  unfold concludeArtifact
  exact ends_bind (ends_dbCall_lost hs) fun _ _ h => h.elim

theorem ends_evaluateArtifact {path : String} {content : Bytes} (hs : At d.contentSha256 (some .downloaded) cache s) :
    Ends (evaluateArtifact lib answers d path content) s
      (fun _ => Ended d.contentSha256 (some (evaluated lib answers d content cache).1,
        (evaluated lib answers d content cache).2))
      fun _ => RaisedOn answers d.contentSha256 (evaluated lib answers d content cache) := by
  have hevaluated : evaluated lib answers d content cache = evaluated lib answers d content cache := rfl
  conv at hevaluated => rhs; unfold evaluated
  unfold evaluateArtifact
  cases hvalidate : validate lib answers content with
  | error failure =>
    rw [hvalidate] at hevaluated
    exact ends_throw (RaisedOn.at hs hevaluated)
  | ok validation =>
    rw [hvalidate] at hevaluated
    dsimp only at hevaluated
    refine ends_bind (ends_pure (Q := fun v s' => v = validation ∧ s' = s) ⟨rfl, rfl⟩) ?_
    rintro validation s' ⟨rfl, rfl⟩
    cases hownership : answers.ownership (ownershipRequest d validation.manifest) with
    | error failure =>
      rw [hownership] at hevaluated
      exact ends_throw (RaisedOn.at hs hevaluated)
    | ok ownership =>
      rw [hownership] at hevaluated
      dsimp only at hevaluated
      refine ends_bind (ends_pure (Q := fun o s'' => o = ownership ∧ s'' = s') ⟨rfl, rfl⟩) ?_
      rintro ownership s'' ⟨rfl, rfl⟩
      refine ends_bind ((ends_readSbom hs).mono (fun _ _ h => h) ?_) ?_
      · rintro _ s₁ ⟨cache', hobtained, hs₁⟩
        rw [hobtained] at hevaluated
        exact RaisedOn.at hs₁ hevaluated
      rintro raw s₁ ⟨cache', hobtained, hs₁⟩
      rw [hobtained] at hevaluated
      dsimp only at hevaluated
      have hwith : concludedWith lib answers d validation ownership raw
          = if parsedSbom lib answers d raw ≠ none ∧ ¬ Works answers .saveSbom then .downloaded
            else concluded answers d
              { validation := validation, ownership := ownership, sbom := savedFinding lib answers d raw } := rfl
      refine ends_bind ((ends_evaluateSbom hs₁).mono (fun _ _ h => h) fun _ _ h => h.elim) ?_
      rintro sbom s₂ (⟨hparsed, hfails, hlost⟩ | ⟨hsaved, rfl, hs₂⟩)
      · refine (ends_concludeArtifact_lost hlost).mono (fun _ _ h => h.elim) fun _ s₃ h => ?_
        rw [if_pos ⟨hparsed, hfails⟩] at hwith
        rw [hwith] at hevaluated
        exact RaisedOn.lost h hevaluated
      · rw [if_neg fun h => h.2 (hsaved h.1)] at hwith
        rw [hevaluated, hwith]
        exact ends_concludeArtifact hs₂

/-! ### A fetch -/

theorem ends_fetchBody (hgoes : Works answers (.setState .downloadPending) ∧ Works answers (.commit .downloadPending))
    (hs : At d.contentSha256 stored cache s) : Ends (fetchBody lib answers d) s
      (fun _ => Ended d.contentSha256 (some (fetched lib answers d cache).1, (fetched lib answers d cache).2))
      fun _ => RaisedOn answers d.contentSha256 (fetched lib answers d cache) := by
  have hfetched : fetched lib answers d cache = fetched lib answers d cache := rfl
  conv at hfetched => rhs; unfold fetched
  unfold fetchBody
  show Ends (setState _ _ _ _ >>= fun _ => commit _ _ >>= fun _ => _) _ _ _
  rw [← bind_assoc]
  refine ends_bind ((ends_commitState _ _ _ hs).mono (fun _ _ h => h) fun _ _ h => absurd hgoes h.1) ?_
  rintro _ s₁ ⟨-, hs₁⟩
  refine ends_bind ((ends_setState hs₁).mono (fun _ _ h => h) fun _ s' h => ?_) ?_
  · rw [if_pos h.1] at hfetched
    exact RaisedOn.lost h.2 hfetched
  rintro _ s₂ ⟨hdownloading, hs₂, -⟩
  rw [if_neg (not_not.mpr hdownloading)] at hfetched
  refine ends_bind ((ends_downloadArtifact hs₂).mono (fun _ _ h => h) ?_) ?_
  · rintro _ s' ⟨cache', hobtained, hs'⟩
    rw [hobtained] at hfetched
    exact RaisedOn.at hs' hfetched
  rintro result s₃ ⟨content, cache', hobtained, hpath, hs₃⟩
  rw [hobtained] at hfetched
  dsimp only at hfetched
  show Ends (setState _ _ _ _ >>= fun _ => commit _ _ >>= fun _ => _) _ _ _
  rw [← bind_assoc]
  refine ends_bind ((ends_commitState _ _ _ hs₃).mono (fun _ _ h => h) fun _ s' h => ?_) ?_
  · rw [if_pos h.1] at hfetched
    exact RaisedOn.lost h.2 hfetched
  rintro _ s₄ ⟨hdownloaded, hs₄⟩
  rw [if_neg (not_not.mpr hdownloaded)] at hfetched
  refine ends_bind ((ends_setState hs₄).mono (fun _ _ h => h) fun _ s' h => ?_) ?_
  · rw [if_pos h.1] at hfetched
    exact RaisedOn.lost h.2 hfetched
  rintro _ s₅ ⟨hverifying, hs₅, -⟩
  rw [if_neg (not_not.mpr hverifying)] at hfetched
  refine ends_bind ((ends_readFile hs₅ hpath).mono (fun _ _ h => h) fun _ _ h => h.elim) ?_
  rintro content' s₆ ⟨rfl, hs₆⟩
  rw [hfetched]
  exact ends_evaluateArtifact hs₆

/-- The handlers of a lost session. -/
theorem ends_fetchFailed_lost {failure : Failure} (hs : Lost d.contentSha256 stored cache s) :
    Ends (fetchFailed answers d failure) s (fun _ _ => False) fun _ => Lost d.contentSha256 stored cache := by
  have hset : ∀ change, Ends (setState answers d.contentSha256 .rejected change) s (fun _ _ => False)
      fun _ => Lost d.contentSha256 stored cache := fun _ => ends_dbCall_lost hs
  unfold fetchFailed
  exact ends_bind (hset _) fun _ _ h => h.elim

/-- The handlers end on the outcome that the body was on. -/
theorem ends_fetchFailed {outcome : ArtifactState × Cache} {failure : Failure}
    (hs : RaisedOn answers d.contentSha256 outcome s) : Ends (fetchFailed answers d failure) s (fun _ _ => False)
      fun _ => Ended d.contentSha256 (some outcome.1, outcome.2) := by
  rcases hs with hs | ⟨before, hs, houtcome⟩
  · exact (ends_fetchFailed_lost hs).mono (fun _ _ h => h) fun _ _ h => ⟨h.stored, h.cache⟩
  · unfold fetchFailed
    show Ends (setState _ _ _ _ >>= fun _ => commit _ _ >>= fun _ => throw _) _ _ _
    rw [← bind_assoc]
    refine ends_bind ((ends_commitState _ _ _ hs).mono (fun _ _ h => h) fun _ s' h => ?_) ?_
    · have hbefore : outcome.1 = before := houtcome.trans (if_neg h.1)
      rw [hbefore]
      exact ⟨h.2.stored, h.2.cache⟩
    · rintro _ s' ⟨hworks, hs'⟩
      have hrejected : outcome.1 = .rejected := houtcome.trans (if_pos hworks)
      refine ends_throw ⟨?_, hs'.cache⟩
      rw [hrejected]
      exact hs'.stored

theorem isSome_addArtifact (db : Database) (d : ArtifactDescriptor) :
    ((db.addArtifact d).artifacts d.contentSha256).isSome = true := by
  unfold Database.addArtifact
  cases hrow : db.artifacts d.contentSha256 with
  | some row => exact Option.isSome_iff_exists.mpr ⟨row, hrow⟩
  | none =>
    refine Option.isSome_iff_exists.mpr ⟨rowOf d, ?_⟩
    exact Function.update_self ..

end

/-- **A call follows the course**: the state of the row, and the cache, are what the files and the answers make them. -/
theorem fetchStep_course (lib : ArtifactLib) (s : Staging) (call : FetchCall) {d : ArtifactDescriptor}
    (hresolve : call.answers.resolve call.moduleId call.version = .ok d) :
    Ended d.contentSha256 (course lib call.answers d (s.stored.stateOf d.contentSha256) s.cache)
      (fetchStep lib s call) := by
  have hcourse : course lib call.answers d (s.stored.stateOf d.contentSha256) s.cache
      = if ¬ (Works call.answers .getOrCreate ∧ Works call.answers (.setState .downloadPending) ∧
            Works call.answers (.commit .downloadPending)) then (s.stored.stateOf d.contentSha256, s.cache)
        else (some (fetched lib call.answers d s.cache).1, (fetched lib call.answers d s.cache).2) := rfl
  have hends : Ends (fetchRelease lib call.answers call.moduleId call.version)
      { s with session := s.stored, broken := false }
      (fun _ => Ended d.contentSha256 (course lib call.answers d (s.stored.stateOf d.contentSha256) s.cache))
      fun _ => Ended d.contentSha256 (course lib call.answers d (s.stored.stateOf d.contentSha256) s.cache) := by
    unfold fetchRelease
    rw [hresolve]
    have hopen : Open d.contentSha256 (s.stored.stateOf d.contentSha256) s.cache
        { s with session := s.stored, broken := false } := ⟨rfl, rfl, rfl⟩
    refine ends_bind (ends_pure (Q := fun d' s' => d' = d ∧
      s' = { s with session := s.stored, broken := false }) ⟨rfl, rfl⟩) ?_
    rintro d s' ⟨rfl, rfl⟩
    refine ends_bind ((ends_dbCall hopen (isSome_addArtifact s.stored d)).mono (fun _ _ h => h) fun _ s' h => ?_) ?_
    · rw [hcourse, if_pos fun hw => h.1 hw.1]
      exact ⟨h.2.stored, h.2.cache⟩
    rintro _ s₁ ⟨hworks, hs₁, -⟩
    by_cases hgoes : Works call.answers (.setState .downloadPending) ∧ Works call.answers (.commit .downloadPending)
    · rw [hcourse, if_neg (not_not.mpr ⟨hworks, hgoes⟩)]
      exact ends_tryCatch (ends_fetchBody hgoes hs₁) fun failure s' h =>
        (ends_fetchFailed h).mono (fun _ _ h => h.elim) fun _ _ h => h
    · rw [hcourse, if_pos fun hw => hgoes hw.2]
      have hbody : Ends (fetchBody lib call.answers d) s₁ (fun _ _ => False)
          fun _ => Lost d.contentSha256 (s.stored.stateOf d.contentSha256) s.cache := by
        unfold fetchBody
        show Ends (setState _ _ _ _ >>= fun _ => commit _ _ >>= fun _ => _) _ _ _
        rw [← bind_assoc]
        refine ends_bind (Q := fun _ _ => False) ?_ fun _ _ h => h.elim
        exact (ends_commitState _ _ _ hs₁).mono (fun _ _ h => absurd h.1 hgoes) fun _ _ h => h.2
      refine ends_tryCatch (hbody.mono (fun _ _ h => h.elim) fun _ _ h => h) fun failure s' h => ?_
      exact (ends_fetchFailed_lost h).mono (fun _ _ h => h.elim) fun _ _ h => ⟨h.stored, h.cache⟩
  unfold fetchStep
  cases hrun : fetchRelease lib call.answers call.moduleId call.version
    { s with session := s.stored, broken := false } with
  | ok _ s' => exact hends.ok hrun
  | error _ s' => exact hends.error hrun

end EnergyCore.Distribution
