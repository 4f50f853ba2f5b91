import EnergyCore.PackageArchives.SignedPackages

/-!
# Who has signed a package

A validation reports a valid publisher identity when the signature of the package is valid. The key of the signature is
looked up under the publisher that `integrity/signature.json` names; the publisher of the manifest, for whom the policy
is evaluated, is not compared with it.

* `publisherIdentity_iff` — the publisher of the manifest is the signer exactly if the signature file names it.
-/

namespace EnergyCore.PackageArchives

open FallibleSteps JsonValues KeywordFields
open Packages (SignatureStatus ModuleManifest sha256Bytes)

variable (v : PackageValidator)

/-- The key that has verified the signature is registered for the publisher of the manifest. -/
def PublisherIsSigner (archive : Archive) (raw : Dict) (manifest : Manifest) (packageDir : Tree) : Prop :=
  ∃ store data signer, v.trustStore = some store ∧ Fields.get packageDir signaturePath = some data ∧
    SignedBy v.lib v.verify store data raw archive signer ∧ signer.publisherId = manifest.publisher

/-- The signature file names the publisher of the manifest. -/
def SignatoryIsPublisher (manifest : Manifest) (packageDir : Tree) : Prop :=
  ((Fields.get packageDir signaturePath).bind (signatoryOf v.lib)).map Prod.fst = some manifest.publisher

/-- There is one signer. -/
theorem SignedBy.unique {store : PublisherTrustStore} {data : Bytes} {raw : Dict} {archive : Archive}
    {signer signer' : PublisherKeyRecord} (h : SignedBy v.lib v.verify store data raw archive signer)
    (h' : SignedBy v.lib v.verify store data raw archive signer') : signer = signer' := by
  have hnames := h.named.symm.trans h'.named
  rw [Option.some.injEq, Prod.mk.injEq] at hnames
  have hregistered := h.registered
  rw [hnames.1, hnames.2, h'.registered] at hregistered
  exact (Except.ok.inj hregistered).symm

theorem publisherIsSigner_iff {disk : Disk} {archive : Archive} {raw : Dict} {manifest : Manifest}
    {packageDir : Tree} (h : Accepted v disk archive raw manifest .valid packageDir) :
    PublisherIsSigner v archive raw manifest packageDir ↔ SignatoryIsPublisher v manifest packageDir := by
  obtain ⟨store, data, signer, hstore, hdata, hsigned⟩ := verifySignature_valid v.lib v.verify h.signature
  have hnamed : SignatoryIsPublisher v manifest packageDir ↔ signer.publisherId = manifest.publisher := by
    unfold SignatoryIsPublisher
    rw [hdata, Option.bind_some, hsigned.named, Option.map_some, Option.some.injEq]
  rw [hnamed]
  refine ⟨?_, fun heq => ⟨store, data, signer, hstore, hdata, hsigned, heq⟩⟩
  rintro ⟨store', data', signer', hstore', hdata', hsigned', heq⟩
  rw [hstore, Option.some.injEq] at hstore'
  rw [hdata, Option.some.injEq] at hdata'
  subst hstore' hdata'
  rw [hsigned.unique v hsigned']
  exact heq

/-- A valid identity is that of an accepted archive with a valid signature. -/
theorem conclude_identity {manifest : Manifest} {errors : List String} {status : SignatureStatus}
    (h : (conclude v manifest errors status).publisherIdentityValid = true) : status = .valid := by
  unfold conclude at h
  dsimp only at h
  split_ifs at h <;> exact of_decide_eq_true h

theorem ends_identity (disk : Disk) (file : Option ArchiveFile) (installed : InstalledVersions)
    (allowReinstall : Bool) (w : World) : Ends (validateArchive v disk file installed allowReinstall) w
      (fun result _ => result.publisherIdentityValid = true → result.valid = true) (fun _ _ => True) := by
  refine ends_validateArchive_of_inspected v (fun file' archive raw manifest _ _ hinspected => ?_)
    (fun errors hidentity => by cases hidentity) fun _ => trivial
  refine ends_bind (ends_true w) fun errors w₁ _ => ends_ite (fun _ => ends_pure fun hidentity => ?_) fun _ => ?_
  · cases conclude_identity v hidentity
  · refine ends_bind (ends_true w₁) fun outcome w₂ _ => ?_
    cases outcome with
    | error code =>
      refine ends_pure fun hidentity => ?_
      cases conclude_identity v hidentity
    | ok status =>
      refine ends_pure fun hidentity => ?_
      rw [conclude_identity v hidentity]
      rfl

/-- **Whose identity is valid.** Where a validation reports a valid identity, the publisher of the manifest, for whom
the policy is evaluated, is the publisher of the verifying key exactly if the signature file names it. -/
theorem publisherIdentity_iff {disk : Disk} {file : Option ArchiveFile} {installed : InstalledVersions}
    {allowReinstall : Bool} {w w' : World} {result : Validation}
    (hrun : validateArchive v disk file installed allowReinstall w = .ok result w')
    (hidentity : result.publisherIdentityValid = true) :
    ∃ file' archive raw manifest packageDir, file = some file' ∧ file'.members = some archive ∧
      Accepted v disk archive raw manifest .valid packageDir ∧
      result.manifest = some manifest.toModuleManifest ∧ result.policy = policyOf v manifest ∧
      (PublisherIsSigner v archive raw manifest packageDir ↔ SignatoryIsPublisher v manifest packageDir) := by
  have hvalid := (ends_identity v disk file installed allowReinstall w).ok hrun hidentity
  obtain ⟨file', archive, raw, manifest, status, packageDir, hfile, hmembers, haccepted, rfl⟩ :=
    (ends_validateArchive v disk file installed allowReinstall w).ok hrun hvalid
  obtain rfl := conclude_identity v hidentity
  exact ⟨file', archive, raw, manifest, packageDir, hfile, hmembers, haccepted, rfl, rfl,
    publisherIsSigner_iff v haccepted⟩

/-- The signatory of a package of two files is its publisher if the names are the same. -/
theorem signatoryIsPublisher_packageTree (sha256 : Bytes → String) (version publisher signatory : String) :
    SignatoryIsPublisher (packageValidator sha256 version publisher signatory)
      (packageManifest sha256 version publisher) (packageTree sha256 version publisher signatory)
        ↔ signatory = publisher := by
  have hdata : Fields.get (packageTree sha256 version publisher signatory) signaturePath
      = some (signatureText (demoSigned sha256 version publisher signatory)) := rfl
  unfold SignatoryIsPublisher
  rw [hdata, Option.bind_some, signatory_packageArchive, Option.map_some, Option.some.injEq]
  exact Iff.rfl

/-- A package of a publisher that the same publisher has signed. -/
theorem acme_identity : ∃ result w', validateArchive (packageValidator sha256Bytes "1" "acme" "acme") demoDisk
        (some (packageFile sha256Bytes "1" "acme" "acme")) [] false {} = .ok result w' ∧
      result.publisherIdentityValid = true ∧ ∃ archive raw manifest packageDir,
        Accepted (packageValidator sha256Bytes "1" "acme" "acme") demoDisk archive raw manifest .valid packageDir ∧
        (PublisherIsSigner (packageValidator sha256Bytes "1" "acme" "acme") archive raw manifest packageDir ↔
          SignatoryIsPublisher (packageValidator sha256Bytes "1" "acme" "acme") manifest packageDir) := by
  obtain ⟨result, w', hrun, hidentity, _⟩ :=
    validate_packageArchive sha256Bytes "1" "acme" "acme" (.inl rfl) {}
  obtain ⟨_, archive, raw, manifest, packageDir, _, _, haccepted, _, _, hiff⟩ := publisherIdentity_iff _ hrun hidentity
  exact ⟨result, w', hrun, hidentity, archive, raw, manifest, packageDir, haccepted, hiff⟩

/-- A package that states one trusted publisher and is signed by another: its identity is reported as valid. -/
theorem mallory_signs_acme : ∃ result w', validateArchive (packageValidator sha256Bytes "1" "acme" "mallory") demoDisk
        (some (packageFile sha256Bytes "1" "acme" "mallory")) [] false {} = .ok result w' ∧
      result.publisherIdentityValid = true ∧
      result.manifest = some (packageManifest sha256Bytes "1" "acme").toModuleManifest ∧
      (packageManifest sha256Bytes "1" "acme").publisher = "acme" ∧
      ¬ PublisherIsSigner (packageValidator sha256Bytes "1" "acme" "mallory")
        (packageArchive sha256Bytes "1" "acme" "mallory") (demoRaw sha256Bytes "1" "acme")
        (packageManifest sha256Bytes "1" "acme") (packageTree sha256Bytes "1" "acme" "mallory") := by
  obtain ⟨result, w', hrun, hidentity, hmanifest⟩ :=
    validate_packageArchive sha256Bytes "1" "acme" "mallory" (.inr rfl) {}
  refine ⟨result, w', hrun, hidentity, hmanifest, rfl, ?_⟩
  rw [publisherIsSigner_iff _ (accepted_packageArchive sha256Bytes "1" "acme" "mallory" (.inr rfl)),
    signatoryIsPublisher_packageTree]
  decide

end EnergyCore.PackageArchives
