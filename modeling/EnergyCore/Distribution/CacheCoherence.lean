import EnergyCore.Distribution.FetchCourse
import EnergyCore.PackageArchives.SignedPackages

/-!
# The cache of downloaded artifacts

A file is checked with one digest when it is downloaded and with another when it is found in the cache: the cache takes
every file for a package, the download only one whose URL ends like a package.

* `accepted_iff_of_delivered` — which delivered files the cache accepts again;
* `coherentDownload_iff` — when every later download succeeds from the cache with the same digest;
* `fetched_of_obtains` — what becomes of the row of a release, by the files that its call obtains;
* `downloadCache_coherent_iff` — both, for the artifacts of a release and for the state that two calls reach.
-/

namespace EnergyCore.Distribution

open FallibleSteps PackageArchives SupplyChain

/-! ### Downloads -/

section

variable {lib : ArtifactLib} {settings : DownloadSettings} {net : Network} {promotes : Option String}
  {cache cache' : Cache} {d : ArtifactDescriptor} {content : Bytes}

/-- The cache takes the file for the artifact: the URL is one of a package, or the file is a package with the stated
digest. -/
def Recognised (lib : ArtifactLib) (d : ArtifactDescriptor) (content : Bytes) : Prop :=
  packageUrl d.artifactUrl = true ∨ packageDigest lib content = .ok d.contentSha256

/-- A download that downloads is repeated from the cache, whatever else has changed, with the same digest. -/
def CoherentDownload (lib : ArtifactLib) (settings : DownloadSettings) (net : Network) (promotes : Option String)
    (cache : Cache) (d : ArtifactDescriptor) : Prop :=
  ∀ result cache', download lib settings net promotes cache d = (.ok result, cache') → result.fromCache = false →
    ∀ settings' net' promotes' later, later d.contentSha256 = cache' d.contentSha256 →
      ∃ again, download lib settings' net' promotes' later d = (.ok again, later) ∧ again.fromCache = true ∧
        again.sha256 = result.sha256

theorem artifactDigest_ok_of_package (packageSuffix : Bool) {digest : String}
    (hpackage : (packageSuffix || packageUrl d.artifactUrl) = true) :
    artifactDigest lib packageSuffix d.artifactUrl content = .ok digest ↔ packageDigest lib content = .ok digest := by
  unfold artifactDigest
  rw [if_pos hpackage]
  cases packageDigest lib content with
  | ok digest' => exact ⟨fun h => congrArg _ (Except.ok.inj h), fun h => congrArg _ (Except.ok.inj h)⟩
  | error text => cases text <;> exact iff_of_false (fun h => by cases h) fun h => by cases h

/-- The digest of a file is a name that has a suffix in the cache. -/
theorem cachedSuffix_sha256 (lib : ArtifactLib) (bytes : Bytes) : cachedSuffix (lib.sha256 bytes) = true := by
  have hslash : Packages.endsWith (lib.sha256 bytes) "/" = false := by
    rw [Bool.eq_false_iff]
    intro h
    have hsuffix : "/".toList <:+ (lib.sha256 bytes).toList := List.isSuffixOf_iff_suffix.mp h
    have hmem : '/' ∈ (lib.sha256 bytes).toList := hsuffix.subset List.mem_cons_self
    exact absurd (lib.mem_sha256 bytes _ hmem) (by decide)
  unfold cachedSuffix
  rw [hslash, decide_eq_true (lib.sha256_ne_empty bytes)]
  rfl

theorem packageDigest_eq_sha256 {digest : String} (h : packageDigest lib content = .ok digest) :
    ∃ bytes, digest = lib.sha256 bytes := by
  unfold packageDigest at h
  cases hzip : lib.openZip content with
  | none =>
    rw [hzip] at h
    cases h
  | some archive =>
    rw [hzip] at h
    dsimp only at h
    cases hhash : contentHash lib.toPyLib archive with
    | error raised =>
      rw [hhash] at h
      cases h
    | ok digest' =>
      rw [hhash] at h
      obtain rfl := Except.ok.inj h
      unfold contentHash at hhash
      cases hblocks : contentBlocks lib.toPyLib archive with
      | error raised =>
        rw [hblocks] at hhash
        cases hhash
      | ok blocks =>
        rw [hblocks] at hhash
        exact ⟨_, (Except.ok.inj hhash).symm⟩

theorem artifactDigest_eq_sha256 {packageSuffix : Bool} {artifactUrl digest : String}
    (h : artifactDigest lib packageSuffix artifactUrl content = .ok digest) : ∃ bytes, digest = lib.sha256 bytes := by
  unfold artifactDigest at h
  split_ifs at h with hpackage
  · cases hdigest : packageDigest lib content with
    | ok digest' =>
      rw [hdigest] at h
      obtain rfl := Except.ok.inj h
      exact packageDigest_eq_sha256 hdigest
    | error text =>
      rw [hdigest] at h
      cases text <;> cases h
  · exact ⟨content, (Except.ok.inj h).symm⟩

/-- **A delivered file** is accepted by the cache exactly if the cache recognises it. -/
theorem accepted_iff_of_delivered (h : Delivered lib settings net d content) :
    Accepted lib d content ↔ Recognised lib d content := by
  obtain ⟨bytes, hbytes⟩ := artifactDigest_eq_sha256 h.digest
  have hsuffix : cachedSuffix d.contentSha256 = true := hbytes ▸ cachedSuffix_sha256 lib bytes
  have haccepted : Accepted lib d content ↔ packageDigest lib content = .ok d.contentSha256 := by
    rw [← artifactDigest_ok_of_package (cachedSuffix d.contentSha256) (by rw [hsuffix, Bool.true_or])]
    exact ⟨Accepted.digest, fun hdigest => ⟨hdigest, h.size⟩⟩
  rw [haccepted]
  constructor
  · exact .inr
  · rintro (hurl | hdigest)
    · exact (artifactDigest_ok_of_package false (by rw [hurl, Bool.or_true])).mp h.digest
    · exact hdigest

/-- **Coherence of one download.** A download is repeated from the cache exactly if what it delivers, and accepts, is
recognised. -/
theorem coherentDownload_iff (lib : ArtifactLib) (settings : DownloadSettings) (net : Network)
    (promotes : Option String) (cache : Cache) (d : ArtifactDescriptor) :
    CoherentDownload lib settings net promotes cache d ↔
      (cache d.contentSha256 = none → promotes = none → ∀ content, Delivered lib settings net d content →
        Recognised lib d content) := by
  constructor
  · intro hcoherent hmissing hpromotes content hdelivered
    have hdownload := download_of_missing lib settings net promotes hmissing
    rcases downloadMissing_cases lib settings net promotes cache d with ⟨content', hdelivered', -, hrun⟩ | ⟨hnone, -⟩
    · obtain rfl := Except.ok.inj (hdelivered.requested.symm.trans hdelivered'.requested)
      obtain ⟨again, hagain, -, -⟩ := hcoherent _ _ (hdownload.trans hrun) rfl settings net promotes _ rfl
      have hcached : Function.update cache d.contentSha256 (some content) d.contentSha256 = some content :=
        Function.update_self ..
      rcases download_of_cached lib settings net promotes hcached with
        ⟨haccepted, -⟩ | ⟨-, failure, hfailed⟩
      · exact (accepted_iff_of_delivered hdelivered).mp haccepted
      · rw [hfailed] at hagain
        cases hagain
    · exact absurd ⟨content, hdelivered, hpromotes⟩ hnone
  · intro hrecognised result cache' hrun hfresh settings' net' promotes' later hlater
    cases hcached : cache d.contentSha256 with
    | some content =>
      rcases download_of_cached lib settings net promotes hcached with
        ⟨-, hrun'⟩ | ⟨-, failure, hrun'⟩
      · obtain ⟨hresult, -⟩ := Prod.mk.inj (hrun.symm.trans hrun')
        rw [Except.ok.inj hresult] at hfresh
        cases hfresh
      · rw [hrun'] at hrun
        cases hrun
    | none =>
      rw [download_of_missing _ _ _ _ hcached] at hrun
      rcases downloadMissing_cases lib settings net promotes cache d with
        ⟨content, hdelivered, hpromotes, hrun'⟩ | ⟨-, failure, hrun'⟩
      · obtain ⟨hresult, rfl⟩ := Prod.mk.inj (hrun.symm.trans hrun')
        rw [Except.ok.inj hresult]
        have hstored : later d.contentSha256 = some content := hlater.trans (Function.update_self ..)
        have haccepted := (accepted_iff_of_delivered hdelivered).mpr (hrecognised hcached hpromotes content hdelivered)
        rcases download_of_cached lib settings' net' promotes' hstored with ⟨-, hagain⟩ | ⟨hnot, -⟩
        · exact ⟨_, hagain, rfl, rfl⟩
        · exact absurd haccepted hnot
      · rw [hrun'] at hrun
        cases hrun

end

/-! ### Files that are obtained again -/

section

variable (lib : ArtifactLib) (answers : FetchAnswers)

/-- The file is obtained for the artifact: it is cached and accepted, or it is not cached and is delivered. -/
def Obtains (cache : Cache) (d : ArtifactDescriptor) (content : Bytes) : Prop :=
  (cache d.contentSha256 = some content ∧ Accepted lib d content) ∨
    (cache d.contentSha256 = none ∧ answers.promotes d.contentSha256 = none ∧
      Delivered lib answers.settings answers.network d content)

/-- What has been obtained by a download is recognised. -/
def Again (cache : Cache) (d : ArtifactDescriptor) (content : Bytes) : Prop :=
  cache d.contentSha256 = none → Recognised lib d content

def ObtainsSbom (cache : Cache) (d : ArtifactDescriptor) (url sha256 : String) (raw : Bytes) : Prop :=
  cache ("sbom-" ++ sha256) = some raw ∨
    (cache ("sbom-" ++ sha256) = none ∧ Obtains lib answers cache (sbomDescriptor d url sha256) raw)

def AgainSbom (cache : Cache) (d : ArtifactDescriptor) (url sha256 : String) (raw : Bytes) : Prop :=
  cache ("sbom-" ++ sha256) = none → Again lib cache (sbomDescriptor d url sha256) raw

end

section

variable {lib : ArtifactLib} {answers : FetchAnswers} {cache cache' later : Cache} {d : ArtifactDescriptor}
  {content raw : Bytes} {url sha256 : String}

/-- A download obtains a file, or leaves the cache as it is and does so again. -/
theorem obtained_cases (lib : ArtifactLib) (answers : FetchAnswers) (cache : Cache) (d : ArtifactDescriptor) :
    (∃ content, Obtains lib answers cache d content ∧
      obtained lib answers cache d = (some content, Function.update cache d.contentSha256 (some content))) ∨
    ((∀ content, ¬ Obtains lib answers cache d content) ∧ obtained lib answers cache d = (none, cache)) := by
  unfold obtained
  cases hcached : cache d.contentSha256 with
  | some content =>
    have hsame : Function.update cache d.contentSha256 (some content) = cache := by
      rw [← hcached]
      exact Function.update_eq_self ..
    rcases download_of_cached lib answers.settings answers.network (answers.promotes d.contentSha256) hcached with
      ⟨haccepted, hrun⟩ | ⟨hnot, failure, hrun⟩
    · refine .inl ⟨content, .inl ⟨hcached, haccepted⟩, ?_⟩
      rw [hrun, hsame]
      exact congrArg (·, cache) hcached
    · refine .inr ⟨?_, ?_⟩
      · rintro content' (⟨hcached', haccepted⟩ | ⟨hmissing, -⟩)
        · rw [hcached] at hcached'
          rw [Option.some.inj hcached'] at hnot
          exact hnot haccepted
        · rw [hcached] at hmissing
          cases hmissing
      · rw [hrun]
  | none =>
    rw [download_of_missing _ _ _ _ hcached]
    rcases downloadMissing_cases lib answers.settings answers.network (answers.promotes d.contentSha256) cache d with
      ⟨content, hdelivered, hpromotes, hrun⟩ | ⟨hnone, failure, hrun⟩
    · refine .inl ⟨content, .inr ⟨hcached, hpromotes, hdelivered⟩, ?_⟩
      rw [hrun]
      exact congrArg (·, _) (Function.update_self ..)
    · refine .inr ⟨?_, ?_⟩
      · rintro content (⟨hcached', -⟩ | ⟨-, hpromotes, hdelivered⟩)
        · rw [hcached] at hcached'
          cases hcached'
        · exact hnone ⟨content, hdelivered, hpromotes⟩
      · rw [hrun]

theorem Obtains.unique {content' : Bytes} (h : Obtains lib answers cache d content)
    (h' : Obtains lib answers cache d content') : content' = content := by
  rcases h with ⟨hcached, -⟩ | ⟨hmissing, -, hdelivered⟩
  · rcases h' with ⟨hcached', -⟩ | ⟨hmissing', -⟩
    · exact Option.some.inj (hcached'.symm.trans hcached)
    · rw [hcached] at hmissing'
      cases hmissing'
  · rcases h' with ⟨hcached', -⟩ | ⟨-, -, hdelivered'⟩
    · rw [hmissing] at hcached'
      cases hcached'
    · exact Except.ok.inj (hdelivered'.requested.symm.trans hdelivered.requested)

theorem obtained_of_obtains (h : Obtains lib answers cache d content) :
    obtained lib answers cache d = (some content, Function.update cache d.contentSha256 (some content)) := by
  rcases obtained_cases lib answers cache d with ⟨content', h', hrun⟩ | ⟨hnone, -⟩
  · rw [hrun, h.unique h']
  · exact absurd h (hnone content)

/-- What was obtained is obtained again exactly if it is accepted by the cache. -/
theorem obtains_again_iff (h : Obtains lib answers cache d content) (hlater : later d.contentSha256 = some content) :
    (∃ content', Obtains lib answers later d content') ↔ Again lib cache d content := by
  have haccepted : (∃ content', Obtains lib answers later d content') ↔ Accepted lib d content := by
    constructor
    · rintro ⟨content', ⟨hcached, haccepted⟩ | ⟨hmissing, -⟩⟩
      · rw [hlater] at hcached
        rw [Option.some.inj hcached]
        exact haccepted
      · rw [hlater] at hmissing
        cases hmissing
    · exact fun haccepted => ⟨content, .inl ⟨hlater, haccepted⟩⟩
  rw [haccepted]
  rcases h with ⟨hcached, haccepted⟩ | ⟨hmissing, -, hdelivered⟩
  · refine iff_of_true haccepted fun hmissing => ?_
    rw [hcached] at hmissing
    cases hmissing
  · rw [accepted_iff_of_delivered hdelivered]
    exact ⟨fun h _ => h, fun h => h hmissing⟩

/-- What was obtained, and is recognised, is obtained again. -/
theorem Obtains.again (h : Obtains lib answers cache d content) (hlater : later d.contentSha256 = some content)
    (hkept : Again lib cache d content) : Obtains lib answers later d content := by
  obtain ⟨content', hagain⟩ := (obtains_again_iff h hlater).mpr hkept
  rcases hagain with ⟨hcached, haccepted⟩ | ⟨hmissing, -⟩
  · obtain rfl := Option.some.inj (hlater.symm.trans hcached)
    exact .inl ⟨hlater, haccepted⟩
  · exact absurd (hlater.symm.trans hmissing) (Option.some_ne_none content)

theorem update_of_stored (hlater : later d.contentSha256 = some content) :
    Function.update later d.contentSha256 (some content) = later := by
  rw [← hlater]
  exact Function.update_eq_self ..

/-! ### The SBOM again -/

/-- The release refers to its SBOM by a URL. -/
structure External (d : ArtifactDescriptor) (url sha256 : String) : Prop where
  reference : ∃ reference, d.sbomReference = some reference ∧ reference.embedded = false ∧
    nonEmpty reference.url = some url ∧ nonEmpty reference.sha256 = some sha256

theorem obtainedSbom_of_external (h : External d url sha256) : obtainedSbom lib answers cache d content
      = ((obtainedExternal lib answers cache d url sha256).1.map some,
          (obtainedExternal lib answers cache d url sha256).2) := by
  obtain ⟨reference, hreference, hembedded, hurl, hsha⟩ := h.reference
  unfold obtainedSbom
  rw [hreference]
  dsimp only
  rw [if_neg (by rw [hembedded]; exact Bool.false_ne_true), hurl, hsha]

/-- No digest is the name under which an SBOM is looked for. -/
theorem sbomName_ne_sha256 (lib : ArtifactLib) (name : String) (bytes : Bytes) :
    "sbom-" ++ name ≠ lib.sha256 bytes := by
  intro h
  have hmem : 's' ∈ (lib.sha256 bytes).toList := by
    rw [← h, String.toList_append]
    exact List.mem_append_left _ (by decide)
  exact absurd (lib.mem_sha256 bytes _ hmem) (by decide)

/-- What an obtained file changes in the cache. -/
theorem update_of_obtains (h : Obtains lib answers cache d content) (name : String) :
    Function.update cache d.contentSha256 (some content) name = cache name ∨
      (name = d.contentSha256 ∧ cache name = none ∧ ∃ bytes, name = lib.sha256 bytes) := by
  by_cases hname : name = d.contentSha256
  · subst hname
    rcases h with ⟨hcached, -⟩ | ⟨hmissing, -, hdelivered⟩
    · refine .inl ?_
      rw [Function.update_self, hcached]
    · exact .inr ⟨rfl, hmissing, artifactDigest_eq_sha256 hdelivered.digest⟩
  · exact .inl (Function.update_of_ne hname _ _)

theorem update_sbomName (h : Obtains lib answers cache d content) (name : String) :
    Function.update cache d.contentSha256 (some content) ("sbom-" ++ name) = cache ("sbom-" ++ name) := by
  rcases update_of_obtains h ("sbom-" ++ name) with hsame | ⟨-, -, bytes, hbytes⟩
  · exact hsame
  · exact absurd hbytes (sbomName_ne_sha256 lib name bytes)

theorem update_of_cached {name : String} {found : Bytes} (h : Obtains lib answers cache d content)
    (hname : cache name = some found) : Function.update cache d.contentSha256 (some content) name = some found := by
  rcases update_of_obtains h name with hsame | ⟨-, hmissing, -⟩
  · rw [hsame, hname]
  · rw [hname] at hmissing
    cases hmissing

theorem ObtainsSbom.unique {raw' : Bytes} (h : ObtainsSbom lib answers cache d url sha256 raw)
    (h' : ObtainsSbom lib answers cache d url sha256 raw') : raw' = raw := by
  rcases h with hcached | ⟨hmissing, hobtains⟩
  · rcases h' with hcached' | ⟨hmissing', -⟩
    · exact Option.some.inj (hcached'.symm.trans hcached)
    · exact absurd (hcached.symm.trans hmissing') (Option.some_ne_none raw)
  · rcases h' with hcached' | ⟨-, hobtains'⟩
    · exact absurd (hcached'.symm.trans hmissing) (Option.some_ne_none raw')
    · exact hobtains.unique hobtains'

/-- **The SBOM again.** The bytes of the SBOM are obtained with a cache that keeps what it has, and from that cache
once more exactly if they are recognised; or they are obtained neither time. -/
theorem obtainedExternal_again (lib : ArtifactLib) (answers : FetchAnswers) (cache : Cache) (d : ArtifactDescriptor)
    (url sha256 : String) : (∃ raw cache', ObtainsSbom lib answers cache d url sha256 raw ∧
      obtainedExternal lib answers cache d url sha256 = (some raw, cache') ∧
      (∀ name found, cache name = some found → cache' name = some found) ∧
      ((AgainSbom lib cache d url sha256 raw ∧ obtainedExternal lib answers cache' d url sha256 = (some raw, cache')) ∨
        (¬ AgainSbom lib cache d url sha256 raw ∧
          obtainedExternal lib answers cache' d url sha256 = (none, cache')))) ∨
    ((∀ raw, ¬ ObtainsSbom lib answers cache d url sha256 raw) ∧
      obtainedExternal lib answers cache d url sha256 = (none, cache)) := by
  have hfound : ∀ {c : Cache} {raw : Bytes}, c ("sbom-" ++ sha256) = some raw →
      obtainedExternal lib answers c d url sha256 = (some raw, c) := by
    intro c raw h
    rw [obtainedExternal, h]
  have hsearched : ∀ {c : Cache}, c ("sbom-" ++ sha256) = none →
      obtainedExternal lib answers c d url sha256 = obtained lib answers c (sbomDescriptor d url sha256) := by
    intro c h
    rw [obtainedExternal, h]
  cases hname : cache ("sbom-" ++ sha256) with
  | some raw =>
    refine .inl ⟨raw, cache, .inl hname, hfound hname, fun _ _ h => h, .inl ⟨fun hmissing => ?_, hfound hname⟩⟩
    rw [hname] at hmissing
    cases hmissing
  | none =>
    rw [hsearched hname]
    rcases obtained_cases lib answers cache (sbomDescriptor d url sha256) with ⟨raw, hobtains, hrun⟩ | ⟨hnone, hrun⟩
    · have hlater : Function.update cache sha256 (some raw) sha256 = some raw := Function.update_self ..
      have hname' : Function.update cache sha256 (some raw) ("sbom-" ++ sha256) = none :=
        (update_sbomName hobtains sha256).trans hname
      have hagain := obtains_again_iff hobtains hlater
      refine .inl ⟨raw, _, .inr ⟨hname, hobtains⟩, hrun, fun name found h => update_of_cached hobtains h, ?_⟩
      show (_ ∧ obtainedExternal lib answers (Function.update cache sha256 (some raw)) d url sha256 = _) ∨
        (_ ∧ obtainedExternal lib answers (Function.update cache sha256 (some raw)) d url sha256 = _)
      rw [hsearched hname']
      rcases obtained_cases lib answers (Function.update cache sha256 (some raw)) (sbomDescriptor d url sha256) with
        ⟨raw', hobtains', hrun'⟩ | ⟨hnone', hrun'⟩
      · have hraw : raw' = raw := by
          rcases hobtains' with ⟨hcached, -⟩ | ⟨hmissing, -⟩
          · exact (Option.some.inj (hlater.symm.trans hcached)).symm
          · exact absurd (hlater.symm.trans hmissing) (Option.some_ne_none raw)
        subst hraw
        refine .inl ⟨fun _ => hagain.mp ⟨raw', hobtains'⟩, ?_⟩
        rw [hrun']
        exact congrArg (some raw', ·) (Function.update_idem ..)
      · refine .inr ⟨fun h => ?_, hrun'⟩
        obtain ⟨raw', hobtains'⟩ := hagain.mpr (h hname)
        exact hnone' raw' hobtains'
    · refine .inr ⟨?_, hrun⟩
      rintro raw (hcached | ⟨-, hobtains⟩)
      · rw [hname] at hcached
        cases hcached
      · exact hnone raw hobtains

/-! ### Two fetches -/

/-- The artifact is validated, and its ownership is decided on. -/
structure Assessed (lib : ArtifactLib) (answers : FetchAnswers) (d : ArtifactDescriptor) (content : Bytes)
    (validation : Validation) (ownership : OwnershipResult) : Prop where
  validated : validate lib answers content = .ok validation
  owned : answers.ownership (ownershipRequest d validation.manifest) = .ok ownership

theorem evaluated_of_assessed {validation : Validation} {ownership : OwnershipResult} {outcome : Option Bytes × Cache}
    (hexternal : External d url sha256) (h : Assessed lib answers d content validation ownership)
    (hsbom : obtainedExternal lib answers cache d url sha256 = outcome) : evaluated lib answers d content cache
      = (outcome.1.elim (handled answers .downloaded) fun raw =>
          concludedWith lib answers d validation ownership (some raw), outcome.2) := by
  obtain ⟨raw, cache'⟩ := outcome
  unfold evaluated
  rw [h.validated]
  dsimp only
  rw [h.owned]
  dsimp only
  rw [obtainedSbom_of_external hexternal, hsbom]
  cases raw <;> rfl

/-- An evaluation that does not come to the SBOM. -/
theorem evaluated_of_not_assessed (h : ∀ validation ownership, ¬ Assessed lib answers d content validation ownership) :
    evaluated lib answers d content cache = (handled answers .downloaded, cache) := by
  unfold evaluated
  cases hvalidate : validate lib answers content with
  | error failure => rfl
  | ok validation =>
    dsimp only
    cases hownership : answers.ownership (ownershipRequest d validation.manifest) with
    | error failure => rfl
    | ok ownership => exact absurd ⟨hvalidate, hownership⟩ (h validation ownership)

/-- An evaluation keeps what is cached. -/
theorem evaluated_cached (lib : ArtifactLib) (answers : FetchAnswers) (content : Bytes) {name : String} {found : Bytes} (hexternal : External d url sha256)
    (hname : cache name = some found) : (evaluated lib answers d content cache).2 name = some found := by
  by_cases hassessed : ∃ validation ownership, Assessed lib answers d content validation ownership
  · obtain ⟨validation, ownership, hassessed⟩ := hassessed
    rcases obtainedExternal_again lib answers cache d url sha256 with ⟨raw, cache', -, hrun, hkeeps, -⟩ | ⟨-, hrun⟩
    · rw [evaluated_of_assessed hexternal hassessed hrun]
      exact hkeeps name found hname
    · rw [evaluated_of_assessed hexternal hassessed hrun]
      exact hname
  · rw [evaluated_of_not_assessed fun validation ownership h => hassessed ⟨validation, ownership, h⟩]
    exact hname

/-- The evaluation comes to the SBOM, and obtains it. -/
structure Reaches (lib : ArtifactLib) (answers : FetchAnswers) (cache : Cache) (d : ArtifactDescriptor)
    (url sha256 : String) (content : Bytes) (validation : Validation) (ownership : OwnershipResult) (raw : Bytes) :
    Prop where
  assessed : Assessed lib answers d content validation ownership
  obtains : ObtainsSbom lib answers cache d url sha256 raw

/-- **The evaluation again** comes to the same state if it recognises the SBOM, and is rejected otherwise. -/
theorem evaluated_of_reaches {validation : Validation} {ownership : OwnershipResult} (hexternal : External d url sha256)
    (h : Reaches lib answers cache d url sha256 content validation ownership raw) :
    (evaluated lib answers d content cache).1 = concludedWith lib answers d validation ownership (some raw) ∧
      (AgainSbom lib cache d url sha256 raw → (evaluated lib answers d content (evaluated lib answers d content cache).2).1
        = concludedWith lib answers d validation ownership (some raw)) ∧ (¬ AgainSbom lib cache d url sha256 raw →
        (evaluated lib answers d content (evaluated lib answers d content cache).2).1 = handled answers .downloaded) := by
  rcases obtainedExternal_again lib answers cache d url sha256 with
    ⟨raw', cache', hobtains, hrun, -, hlater⟩ | ⟨hnone, -⟩
  · obtain rfl := h.obtains.unique hobtains
    rw [evaluated_of_assessed hexternal h.assessed hrun]
    rcases hlater with ⟨hagain, hrun'⟩ | ⟨hnot, hrun'⟩
    · rw [evaluated_of_assessed hexternal h.assessed hrun']
      exact ⟨rfl, fun _ => rfl, fun hnot => absurd hagain hnot⟩
    · rw [evaluated_of_assessed hexternal h.assessed hrun']
      exact ⟨rfl, fun hagain => absurd hagain hnot, fun _ => rfl⟩
  · exact absurd h.obtains (hnone raw)

/-- An evaluation that does not come to an SBOM leaves the cache as it is. -/
theorem evaluated_of_not_reaches (hexternal : External d url sha256)
    (h : ∀ validation ownership raw, ¬ Reaches lib answers cache d url sha256 content validation ownership raw) :
    evaluated lib answers d content cache = (handled answers .downloaded, cache) := by
  by_cases hassessed : ∃ validation ownership, Assessed lib answers d content validation ownership
  · obtain ⟨validation, ownership, hassessed⟩ := hassessed
    rcases obtainedExternal_again lib answers cache d url sha256 with ⟨raw, -, hobtains, -⟩ | ⟨-, hrun⟩
    · exact absurd ⟨hassessed, hobtains⟩ (h validation ownership raw)
    · rw [evaluated_of_assessed hexternal hassessed hrun]
      rfl
  · exact evaluated_of_not_assessed fun validation ownership h => hassessed ⟨validation, ownership, h⟩

/-- What has been found can be recorded: the policy is there, and so are the files of the quarantine. -/
def Records (answers : FetchAnswers) (d : ArtifactDescriptor) (found : Findings) : Prop :=
  ∃ policy, answers.policy = .ok policy ∧ answers.quarantineDir = none ∧
    (blocks answers d found policy = true → answers.copying = none)

/-- The evaluation of the artifact, with the bytes of its SBOM, comes to its end. -/
def Concludes (lib : ArtifactLib) (answers : FetchAnswers) (d : ArtifactDescriptor) (content raw : Bytes) : Prop :=
  ∃ validation ownership, Assessed lib answers d content validation ownership ∧
    Records answers d { validation := validation, ownership := ownership, sbom := savedFinding lib answers d (some raw) }

/-- The files that the first fetch obtains are recognised by the second one. -/
def FilesRecognised (lib : ArtifactLib) (answers : FetchAnswers) (cache : Cache) (d : ArtifactDescriptor)
    (url sha256 : String) : Prop :=
  ∀ content, Obtains lib answers cache d content → Again lib cache d content ∧
    ∀ raw, ObtainsSbom lib answers (Function.update cache d.contentSha256 (some content)) d url sha256 raw →
      AgainSbom lib (Function.update cache d.contentSha256 (some content)) d url sha256 raw

/-- The same of the fetches whose evaluation comes to its end. -/
def ConcludedRecognised (lib : ArtifactLib) (answers : FetchAnswers) (cache : Cache) (d : ArtifactDescriptor)
    (url sha256 : String) : Prop :=
  ∀ content raw, Obtains lib answers cache d content →
    ObtainsSbom lib answers (Function.update cache d.contentSha256 (some content)) d url sha256 raw →
    Concludes lib answers d content raw → Again lib cache d content ∧
      AgainSbom lib (Function.update cache d.contentSha256 (some content)) d url sha256 raw

section

variable (hcalls : ∀ call, Works answers call)
include hcalls

theorem handled_of_works (before : ArtifactState) : handled answers before = .rejected :=
  if_pos ⟨hcalls _, hcalls _⟩

theorem concluded_eq_rejected_iff {found : Findings} :
    concluded answers d found = .rejected ↔ ¬ Records answers d found := by
  unfold concluded Records
  rw [if_neg (not_not.mpr (hcalls _))]
  cases answers.policy with
  | error failure => exact iff_of_true (handled_of_works hcalls _) (by simp)
  | ok policy =>
    dsimp only
    rw [if_neg (not_not.mpr ⟨hcalls _, hcalls _⟩)]
    by_cases hfiles : answers.quarantineDir ≠ none ∨ (blocks answers d found policy = true ∧ answers.copying ≠ none)
    · rw [if_pos hfiles]
      refine iff_of_true (handled_of_works hcalls _) ?_
      rintro ⟨policy', hpolicy', hdir, hcopying⟩
      obtain rfl := Except.ok.inj hpolicy'
      rcases hfiles with h | ⟨hblocked, h⟩
      · exact h hdir
      · exact h (hcopying hblocked)
    · rw [if_neg hfiles, if_neg (not_not.mpr ⟨hcalls _, hcalls _⟩)]
      rw [not_or, not_not, not_and, not_not] at hfiles
      refine iff_of_false ?_ (not_not_intro ⟨policy, rfl, hfiles.1, hfiles.2⟩)
      cases blocks answers d found policy <;> exact ArtifactState.noConfusion

theorem concludedWith_eq_rejected_iff {validation : Validation} {ownership : OwnershipResult} {raw : Option Bytes} :
    concludedWith lib answers d validation ownership raw = .rejected ↔
      ¬ Records answers d
        { validation := validation, ownership := ownership, sbom := savedFinding lib answers d raw } := by
  unfold concludedWith
  rw [if_neg fun h => h.2 (hcalls _)]
  exact concluded_eq_rejected_iff hcalls

theorem evaluated_eq_rejected_iff (hexternal : External d url sha256) :
    (evaluated lib answers d content cache).1 = .rejected ↔
      ∀ raw, ObtainsSbom lib answers cache d url sha256 raw → ¬ Concludes lib answers d content raw := by
  by_cases hreaches : ∃ validation ownership raw,
      Reaches lib answers cache d url sha256 content validation ownership raw
  · obtain ⟨validation, ownership, raw, hreaches⟩ := hreaches
    rw [(evaluated_of_reaches hexternal hreaches).1, concludedWith_eq_rejected_iff hcalls]
    constructor
    · rintro hnot raw' hobtains ⟨validation', ownership', hassessed, hrecords⟩
      obtain rfl := Except.ok.inj (hreaches.assessed.validated.symm.trans hassessed.validated)
      obtain rfl := Except.ok.inj (hreaches.assessed.owned.symm.trans hassessed.owned)
      obtain rfl := hobtains.unique hreaches.obtains
      exact hnot hrecords
    · exact fun h hrecords => h raw hreaches.obtains ⟨validation, ownership, hreaches.assessed, hrecords⟩
  · have hnone : ∀ validation ownership raw,
        ¬ Reaches lib answers cache d url sha256 content validation ownership raw :=
      fun validation ownership raw h => hreaches ⟨validation, ownership, raw, h⟩
    rw [evaluated_of_not_reaches hexternal hnone]
    refine iff_of_true (handled_of_works hcalls _) ?_
    rintro raw hobtains ⟨validation, ownership, hassessed, -⟩
    exact hnone validation ownership raw ⟨hassessed, hobtains⟩

/-- A fetch that obtains its artifact. -/
theorem fetched_of_obtains (h : Obtains lib answers cache d content) : fetched lib answers d cache
      = evaluated lib answers d content (Function.update cache d.contentSha256 (some content)) := by
  unfold fetched
  rw [if_neg (not_not.mpr (hcalls _)), obtained_of_obtains h]
  dsimp only
  rw [if_neg (not_not.mpr ⟨hcalls _, hcalls _⟩), if_neg (not_not.mpr (hcalls _))]

theorem fetched_of_not_obtains (h : ∀ content, ¬ Obtains lib answers cache d content) :
    fetched lib answers d cache = (.rejected, cache) := by
  rcases obtained_cases lib answers cache d with ⟨content, hobtains, -⟩ | ⟨-, hrun⟩
  · exact absurd hobtains (h content)
  · unfold fetched
    rw [if_neg (not_not.mpr (hcalls _)), hrun]
    exact congrArg (·, cache) (handled_of_works hcalls _)

/-- **Two fetches**, with a database that works, end in the same state exactly if what they conclude on is
recognised. -/
theorem fetched_again_iff (hexternal : External d url sha256) :
    (fetched lib answers d (fetched lib answers d cache).2).1 = (fetched lib answers d cache).1 ↔
      ConcludedRecognised lib answers cache d url sha256 := by
  by_cases hobtains : ∃ content, Obtains lib answers cache d content
  · obtain ⟨content, hobtains⟩ := hobtains
    have hself : Function.update cache d.contentSha256 (some content) d.contentSha256 = some content :=
      Function.update_self ..
    have hlater := evaluated_cached lib answers content hexternal hself
    have hagain := obtains_again_iff hobtains hlater
    have hconcluded : ConcludedRecognised lib answers cache d url sha256 ↔ ∀ raw,
        ObtainsSbom lib answers (Function.update cache d.contentSha256 (some content)) d url sha256 raw →
        Concludes lib answers d content raw → Again lib cache d content ∧
          AgainSbom lib (Function.update cache d.contentSha256 (some content)) d url sha256 raw := by
      refine ⟨fun h raw => h content raw hobtains, fun h content' raw hobtains' => ?_⟩
      obtain rfl := hobtains.unique hobtains'
      exact h raw
    rw [hconcluded, fetched_of_obtains hcalls hobtains]
    by_cases hkept : Again lib cache d content
    · rw [fetched_of_obtains hcalls (hobtains.again hlater hkept), update_of_stored hlater]
      by_cases hreaches : ∃ validation ownership raw, Reaches lib answers
          (Function.update cache d.contentSha256 (some content)) d url sha256 content validation ownership raw
      · obtain ⟨validation, ownership, raw, hreaches⟩ := hreaches
        obtain ⟨hfirst, hrecognised, hnot⟩ := evaluated_of_reaches hexternal hreaches
        have hraw : (∀ raw', ObtainsSbom lib answers (Function.update cache d.contentSha256 (some content)) d url
            sha256 raw' → Concludes lib answers d content raw' → Again lib cache d content ∧
              AgainSbom lib (Function.update cache d.contentSha256 (some content)) d url sha256 raw') ↔
            (Concludes lib answers d content raw →
              AgainSbom lib (Function.update cache d.contentSha256 (some content)) d url sha256 raw) := by
          refine ⟨fun h hconcludes => (h raw hreaches.obtains hconcludes).2, fun h raw' hobtains'' hconcludes => ?_⟩
          obtain rfl := hobtains''.unique hreaches.obtains
          exact ⟨hkept, h hconcludes⟩
        rw [hraw]
        by_cases hsbom : AgainSbom lib (Function.update cache d.contentSha256 (some content)) d url sha256 raw
        · exact iff_of_true ((hrecognised hsbom).trans hfirst.symm) fun _ => hsbom
        · rw [hnot hsbom, handled_of_works hcalls, eq_comm, evaluated_eq_rejected_iff hcalls hexternal]
          constructor
          · exact fun h hconcludes => absurd hconcludes (h raw hreaches.obtains)
          · intro h raw' hobtains'' hconcludes
            obtain rfl := hobtains''.unique hreaches.obtains
            exact hsbom (h hconcludes)
      · have hnone : ∀ validation ownership raw, ¬ Reaches lib answers
            (Function.update cache d.contentSha256 (some content)) d url sha256 content validation ownership raw :=
          fun validation ownership raw h => hreaches ⟨validation, ownership, raw, h⟩
        rw [evaluated_of_not_reaches hexternal hnone, evaluated_of_not_reaches hexternal hnone]
        refine iff_of_true rfl ?_
        rintro raw hobtains'' ⟨validation, ownership, hassessed, -⟩
        exact absurd ⟨hassessed, hobtains''⟩ (hnone validation ownership raw)
    · rw [fetched_of_not_obtains hcalls fun content' h => hkept (hagain.mp ⟨content', h⟩), eq_comm,
        evaluated_eq_rejected_iff hcalls hexternal]
      constructor
      · exact fun h raw hobtains' hconcludes => absurd hconcludes (h raw hobtains')
      · exact fun h raw hobtains' hconcludes => hkept (h raw hobtains' hconcludes).1
  · have hnone : ∀ content, ¬ Obtains lib answers cache d content := fun content h => hobtains ⟨content, h⟩
    rw [fetched_of_not_obtains hcalls hnone, fetched_of_not_obtains hcalls hnone]
    exact iff_of_true rfl fun content _ h => absurd h (hnone content)

end

/-- Two fetches end in the same state if the files are recognised, whatever becomes of the calls of the database. -/
theorem fetched_again_of_recognised (hexternal : External d url sha256)
    (h : FilesRecognised lib answers cache d url sha256) :
    (fetched lib answers d (fetched lib answers d cache).2).1 = (fetched lib answers d cache).1 := by
  by_cases hdownloading : Works answers (.setState .downloading)
  · rcases obtained_cases lib answers cache d with ⟨content, hobtains, hrun⟩ | ⟨-, hrun⟩
    · obtain ⟨hkept, hsbom⟩ := h content hobtains
      have hself : Function.update cache d.contentSha256 (some content) d.contentSha256 = some content :=
        Function.update_self ..
      have hfirst : ∀ {c : Cache}, obtained lib answers c d = (some content, Function.update c d.contentSha256 (some content)) →
          fetched lib answers d c =
            if ¬ (Works answers (.setState .downloaded) ∧ Works answers (.commit .downloaded)) then
              (.downloadPending, Function.update c d.contentSha256 (some content))
            else if ¬ Works answers (.setState .verifying) then
              (.downloaded, Function.update c d.contentSha256 (some content))
            else evaluated lib answers d content (Function.update c d.contentSha256 (some content)) := by
        intro c hc
        unfold fetched
        rw [if_neg (not_not.mpr hdownloading), hc]
      have hagain : ∀ {later : Cache}, later d.contentSha256 = some content →
          obtained lib answers later d = (some content, Function.update later d.contentSha256 (some content)) :=
        fun hlater => obtained_of_obtains (hobtains.again hlater hkept)
      rw [hfirst hrun]
      by_cases hdownloaded : Works answers (.setState .downloaded) ∧ Works answers (.commit .downloaded)
      · rw [if_neg (not_not.mpr hdownloaded)]
        by_cases hverifying : Works answers (.setState .verifying)
        · rw [if_neg (not_not.mpr hverifying)]
          have hlater := evaluated_cached lib answers content hexternal hself
          rw [hfirst (hagain hlater), if_neg (not_not.mpr hdownloaded), if_neg (not_not.mpr hverifying),
            update_of_stored hlater]
          by_cases hreaches : ∃ validation ownership raw, Reaches lib answers
              (Function.update cache d.contentSha256 (some content)) d url sha256 content validation ownership raw
          · obtain ⟨validation, ownership, raw, hreaches⟩ := hreaches
            obtain ⟨hstate, hrecognised, -⟩ := evaluated_of_reaches hexternal hreaches
            exact (hrecognised (hsbom raw hreaches.obtains)).trans hstate.symm
          · have hnone : ∀ validation ownership raw, ¬ Reaches lib answers
                (Function.update cache d.contentSha256 (some content)) d url sha256 content validation ownership raw :=
              fun validation ownership raw h => hreaches ⟨validation, ownership, raw, h⟩
            rw [evaluated_of_not_reaches hexternal hnone, evaluated_of_not_reaches hexternal hnone]
        · rw [if_pos hverifying, hfirst (hagain hself), if_neg (not_not.mpr hdownloaded), if_pos hverifying]
      · rw [if_pos hdownloaded, hfirst (hagain hself), if_pos hdownloaded]
    · have hrefused : fetched lib answers d cache = (handled answers .downloadPending, cache) := by
        unfold fetched
        rw [if_neg (not_not.mpr hdownloading), hrun]
      rw [hrefused, hrefused]
  · have hearly : ∀ c, fetched lib answers d c = (.downloadPending, c) := fun _ => if_pos hdownloading
    rw [hearly, hearly]

end

/-! ### Downloads and fetches -/

/-- What a download delivers, and accepts, is recognised by the cache. -/
def DownloadRecognised (lib : ArtifactLib) (settings : DownloadSettings) (net : Network) (promotes : Option String)
    (cache : Cache) (d : ArtifactDescriptor) : Prop :=
  cache d.contentSha256 = none → promotes = none → ∀ content, Delivered lib settings net d content →
    Recognised lib d content

/-- Two calls of the service leave the row in the same state. -/
def SameFinalState (lib : ArtifactLib) (s : Staging) (call : FetchCall) (digest : String) : Prop :=
  (fetchStep lib (fetchStep lib s call) call).stored.stateOf digest = (fetchStep lib s call).stored.stateOf digest

theorem sameFinalState_iff {lib : ArtifactLib} {s : Staging} {call : FetchCall} {d : ArtifactDescriptor}
    (hresolve : call.answers.resolve call.moduleId call.version = .ok d)
    (hgoes : Works call.answers .getOrCreate ∧ Works call.answers (.setState .downloadPending) ∧
      Works call.answers (.commit .downloadPending)) : SameFinalState lib s call d.contentSha256 ↔
      (fetched lib call.answers d (fetched lib call.answers d s.cache).2).1
        = (fetched lib call.answers d s.cache).1 := by
  have hcourse : ∀ before cache, course lib call.answers d before cache
      = (some (fetched lib call.answers d cache).1, (fetched lib call.answers d cache).2) :=
    fun _ _ => if_neg (not_not.mpr hgoes)
  obtain ⟨hfirst, hcache⟩ := fetchStep_course lib s call hresolve
  obtain ⟨hsecond, -⟩ := fetchStep_course lib (fetchStep lib s call) call hresolve
  rw [hcourse] at hfirst hcache hsecond
  rw [SameFinalState, hsecond, hfirst, hcache]
  exact Option.some_inj

/-- A call that does not come to the download leaves the row as it is. -/
theorem sameFinalState_of_early {lib : ArtifactLib} {s : Staging} {call : FetchCall} {d : ArtifactDescriptor}
    (hresolve : call.answers.resolve call.moduleId call.version = .ok d)
    (hends : ¬ (Works call.answers .getOrCreate ∧ Works call.answers (.setState .downloadPending) ∧
      Works call.answers (.commit .downloadPending))) : SameFinalState lib s call d.contentSha256 := by
  have hcourse : ∀ before cache, course lib call.answers d before cache = (before, cache) := fun _ _ => if_pos hends
  obtain ⟨hsecond, -⟩ := fetchStep_course lib (fetchStep lib s call) call hresolve
  rw [hcourse] at hsecond
  exact hsecond

/-- **When the cache is coherent.** A download is repeated from the cache exactly if what it delivers is recognised.
Two fetches of a release that refers to its SBOM by a URL end in the same state if the files of the first one are
recognised; with a database that works, exactly if this holds of the files that an evaluation concludes on. -/
theorem downloadCache_coherent_iff (lib : ArtifactLib) (s : Staging) (call : FetchCall) {d : ArtifactDescriptor}
    {url sha256 : String} (hresolve : call.answers.resolve call.moduleId call.version = .ok d)
    (hexternal : External d url sha256) :
    (∀ settings net promotes cache artifact, CoherentDownload lib settings net promotes cache artifact ↔
      DownloadRecognised lib settings net promotes cache artifact) ∧
    (FilesRecognised lib call.answers s.cache d url sha256 → SameFinalState lib s call d.contentSha256) ∧
    ((∀ dbCall, Works call.answers dbCall) → (SameFinalState lib s call d.contentSha256 ↔
      ConcludedRecognised lib call.answers s.cache d url sha256)) := by
  refine ⟨coherentDownload_iff lib, fun hrecognised => ?_, fun hcalls => ?_⟩
  · by_cases hgoes : Works call.answers .getOrCreate ∧ Works call.answers (.setState .downloadPending) ∧
        Works call.answers (.commit .downloadPending)
    · exact (sameFinalState_iff hresolve hgoes).mpr (fetched_again_of_recognised hexternal hrecognised)
    · exact sameFinalState_of_early hresolve hgoes
  · exact (sameFinalState_iff hresolve ⟨hcalls _, hcalls _, hcalls _⟩).trans (fetched_again_iff hcalls hexternal)

/-! ### An SBOM that is fetched twice -/

namespace CacheDemo

open Packages (sha256Bytes)

/-- An empty zip archive with a comment of 1200 blanks. -/
def emptyZip : Bytes := [80, 75, 5, 6] ++ List.replicate 16 0 ++ [176, 4] ++ List.replicate 1200 32

def lib : ArtifactLib where
  toPyLib := demoLib sha256Bytes [] []
  openZip content := if content = emptyZip then some [] else none
  hashFailure _ := none
  sha256_ne_empty bytes := by
    show sha256Bytes bytes ≠ ""
    unfold sha256Bytes
    exact Sha256.hexdigest_ne_empty _
  mem_sha256 bytes c hc := by
    have hmem : c ∈ (sha256Bytes bytes).toList := hc
    unfold sha256Bytes at hmem
    exact Sha256.mem_hexdigest hmem

def packageDigestText : String := "e3b0c44298fc1c149afbf4c8996fb92427ae41e4649b934ca495991b7852b855"
def sbomDigestText : String := "44136fa355b3678a1146ad16f7e8649e94fb4fc21fe77e8310c060f61caaff8a"
def sbomUrl : String := "https://cdn.acme.io/sbom.json"

def artifact : ArtifactDescriptor where
  moduleId := "acme.meter"
  publisherId := "acme"
  version := "1"
  releaseId := "acme.meter@1"
  artifactUrl := "https://cdn.acme.io/meter.emicpkg"
  contentSha256 := packageDigestText
  artifactSize := none
  source := .public
  sbomReference := some { url := some sbomUrl, sha256 := some sbomDigestText }

/-- A server with the package, and with an SBOM that is an empty JSON object. -/
def network : Network where
  validate _ _ _ := .ok ()
  get url :=
    if url = sbomUrl then .ok (.body none [[123, 125]] none)
    else if url = artifact.artifactUrl then .ok (.body none [emptyZip] none)
    else .ok (.status 404)
  follow _ location := location
  isHttps url := Packages.startsWith url "https://"

def settings : DownloadSettings where
  maxBytes := 52428800
  allowRedirects := false
  maxRedirects := 0
  requireHttps := true

/-- The package is larger than the validator admits. -/
def answers : FetchAnswers where
  resolve _ _ := .ok artifact
  settings := settings
  network := network
  validator :=
    { demoValidator (demoLib sha256Bytes [] []) [] (fun _ _ _ => false) with
      settings :=
        { modulesPath := ["modules"], allowUnsignedModules := false, versions := demoVersions, packageMaxBytes := 1024,
          emicVersion := "1", moduleApiVersion := 1 } }
  disk := demoDisk
  ownership _ := .ok { decision := .allow, reasonCodes := [] }
  sbomDocument _ := none
  advisories := none
  packaging := unranged
  policy := .ok {}

def call : FetchCall := { moduleId := "acme.meter", version := "1", answers := answers }

/-- The SBOM is there under the name that it is looked for. -/
def stocked : Staging where
  cache name := if name = "sbom-" ++ sbomDigestText then some [123, 125] else none

/-- With an SBOM that does not have to be downloaded, the release is fetched twice with the same result. -/
theorem downloadCache_coherent_stocked : SameFinalState lib stocked call packageDigestText := by
  have hresolve : call.answers.resolve call.moduleId call.version = .ok artifact := rfl
  have hexternal : External artifact sbomUrl sbomDigestText := ⟨⟨_, rfl, rfl, rfl, rfl⟩⟩
  refine (downloadCache_coherent_iff lib stocked call hresolve hexternal).2.1 ?_
  refine fun content _ => ⟨fun _ => .inl (by decide), fun raw _ hmissing => ?_⟩
  have hfound : Function.update stocked.cache artifact.contentSha256 (some content) ("sbom-" ++ sbomDigestText)
      = some [123, 125] := by
    rw [Function.update_of_ne (by decide)]
    show (if "sbom-" ++ sbomDigestText = "sbom-" ++ sbomDigestText then some [123, 125] else none) = some [123, 125]
    exact if_pos rfl
  rw [hfound] at hmissing
  cases hmissing

/-- **An SBOM is rejected the second time.** It is downloaded with the digest of its bytes, and found in the cache as a
package that it is not: the release is quarantined by the first call, and rejected by the second. -/
theorem sbom_rejected_from_cache :
    ¬ CoherentDownload lib settings network none (fun _ => none) (sbomDescriptor artifact sbomUrl sbomDigestText) ∧
      (fetchStep lib {} call).stored.stateOf packageDigestText = some .quarantined ∧
      (fetchStep lib (fetchStep lib {} call) call).stored.stateOf packageDigestText = some .rejected := by
  refine ⟨?_, by decide +kernel, by decide +kernel⟩
  rw [coherentDownload_iff]
  intro h
  have hdelivered : Delivered lib settings network (sbomDescriptor artifact sbomUrl sbomDigestText) [123, 125] :=
    ⟨by decide +kernel, by decide +kernel, rfl⟩
  rcases h rfl rfl _ hdelivered with hurl | hdigest
  · exact absurd hurl (by decide +kernel)
  · exact absurd hdigest (by decide +kernel)

end CacheDemo

end EnergyCore.Distribution
