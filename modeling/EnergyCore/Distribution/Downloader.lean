import EnergyCore.PackageArchives.ContentHash

/-!
# The artifact downloader

Artifacts are downloaded into a cache of files, each under the digest that its descriptor states. The network answers
every request, and says which redirects it makes of a location.

* `downloadMissing_cases` — a missing file is stored as it is delivered, if it is accepted;
* `download_of_cached` — a cached file is checked again, and nothing is downloaded.
-/

namespace EnergyCore.Distribution

open PackageArchives
open Packages (Raised endsWith startsWith)

/-! ### Types -/

inductive ArtifactSourceType where
  | «local»
  | internal
  | org
  | «public»
  deriving Repr, DecidableEq

def ArtifactSourceType.value : ArtifactSourceType → String
  | .local => "LOCAL"
  | .internal => "INTERNAL"
  | .org => "ORG"
  | .public => "PUBLIC"

inductive DistributionErrorCode where
  | artifactNotFound
  | artifactDigestMismatch
  | artifactSizeMismatch
  | artifactSourceForbidden
  | artifactRedirectRejected
  | artifactSsrfBlocked
  | artifactUrlInvalid
  | catalogEntryNotFound
  | packageSignatureInvalid
  | packageIdentityMismatch
  | ownershipMismatch
  | namespaceShadowing
  | downloadTimeout
  | downloadSizeExceeded
  | policyDenied
  | cacheCorrupt
  | concurrentFetch
  | stagingFailed
  deriving Repr, DecidableEq

def DistributionErrorCode.value : DistributionErrorCode → String
  | .artifactNotFound => "ARTIFACT_NOT_FOUND"
  | .artifactDigestMismatch => "ARTIFACT_DIGEST_MISMATCH"
  | .artifactSizeMismatch => "ARTIFACT_SIZE_MISMATCH"
  | .artifactSourceForbidden => "ARTIFACT_SOURCE_FORBIDDEN"
  | .artifactRedirectRejected => "ARTIFACT_REDIRECT_REJECTED"
  | .artifactSsrfBlocked => "ARTIFACT_SSRF_BLOCKED"
  | .artifactUrlInvalid => "ARTIFACT_URL_INVALID"
  | .catalogEntryNotFound => "CATALOG_ENTRY_NOT_FOUND"
  | .packageSignatureInvalid => "PACKAGE_SIGNATURE_INVALID"
  | .packageIdentityMismatch => "PACKAGE_IDENTITY_MISMATCH"
  | .ownershipMismatch => "OWNERSHIP_MISMATCH"
  | .namespaceShadowing => "NAMESPACE_SHADOWING"
  | .downloadTimeout => "DOWNLOAD_TIMEOUT"
  | .downloadSizeExceeded => "DOWNLOAD_SIZE_EXCEEDED"
  | .policyDenied => "POLICY_DENIED"
  | .cacheCorrupt => "CACHE_CORRUPT"
  | .concurrentFetch => "CONCURRENT_FETCH"
  | .stagingFailed => "STAGING_FAILED"

/-- What is raised: a `DistributionError`, or another exception with its text. -/
inductive Failure where
  | distribution (message : String) (code : DistributionErrorCode)
  | exception (text : String)
  deriving Repr, DecidableEq

structure SbomReference where
  url : Option String := none
  sha256 : Option String := none
  embedded : Bool := false
  deriving Repr, DecidableEq

structure ArtifactDescriptor where
  moduleId : String
  publisherId : String
  version : String
  releaseId : String
  artifactUrl : String
  contentSha256 : String
  artifactSize : Option ℤ
  source : ArtifactSourceType
  sbomReference : Option SbomReference := none
  catalogVersion : Option ℤ := none
  deriving Repr, DecidableEq

structure DownloadResult where
  path : String
  sha256 : String
  bytesDownloaded : ℕ
  fromCache : Bool := false
  deriving Repr, DecidableEq

structure DownloadSettings where
  maxBytes : ℕ
  allowRedirects : Bool
  maxRedirects : ℕ
  requireHttps : Bool
  deriving Repr, DecidableEq

/-- The standard library, with the zip files in it: the members of a file if it is a zip archive, and the text of the
exception if the hash of its members fails with one that is neither a `BadZipFile` nor an `OSError` nor a
`ValueError`. Digests are written in hexadecimal. -/
structure ArtifactLib extends PyLib where
  openZip : Bytes → Option Archive
  hashFailure : Archive → Option String
  sha256_ne_empty : ∀ bytes, sha256 bytes ≠ ""
  mem_sha256 : ∀ bytes, ∀ c ∈ (sha256 bytes).toList, c ∈ Sha256.hexChars

/-! ### Digests -/

variable (lib : ArtifactLib)

/-- `compute_package_content_sha256` of a file; `none` is an exception that `_artifact_digest` catches. -/
def packageDigest (content : Bytes) : Except (Option String) String :=
  match lib.openZip content with
  | none => .error none
  | some archive =>
    match contentHash lib.toPyLib archive with
    | .ok digest => .ok digest
    | .error _ => .error (lib.hashFailure archive)

def packageUrl (artifactUrl : String) : Bool := endsWith artifactUrl ".emicpkg"

/-- `_artifact_digest` of a file that has the suffix of a package or not. -/
def artifactDigest (packageSuffix : Bool) (artifactUrl : String) (content : Bytes) : Except Failure String :=
  if packageSuffix || packageUrl artifactUrl then
    match packageDigest lib content with
    | .ok digest => .ok digest
    | .error none => .error (.distribution "Cached artifact corrupt" .cacheCorrupt)
    | .error (some text) => .error (.exception text)
  else .ok (lib.sha256 content)

/-! ### Requests -/

/-- What is answered to a request: a redirect, another status, or a body in chunks that may break off. -/
inductive Response where
  | redirect (status : ℕ) (location : Option String)
  | status (code : ℕ)
  | body (contentLength : Option ℤ) (chunks : List Bytes) (breaks : Option String)
  deriving Repr, DecidableEq

/-- The network: how `validate_artifact_url` decides on a URL, what a request is answered, if it is, where a location
leads, and which URLs have the scheme of HTTPS. -/
structure Network where
  validate : Bool → ArtifactSourceType → String → Except Failure Unit
  get : String → Except String Response
  follow : String → String → String
  isHttps : String → Bool

variable (settings : DownloadSettings) (net : Network)

/-- The chunks that are written to the partial file. -/
def readChunks (maxBytes : ℕ) (breaks : Option String) : List Bytes → Bytes → Except Failure Bytes
  | [], content =>
    match breaks with
    | none => .ok content
    | some text => .error (.exception text)
  | chunk :: chunks, content =>
    if (content ++ chunk).length > maxBytes then
      .error (.distribution "Artifact exceeds max size during download" .downloadSizeExceeded)
    else readChunks maxBytes breaks chunks (content ++ chunk)

/-- The requests of `_stream_download`, one for each redirect that may still be made, and the file that they leave. -/
def requestFile (source : ArtifactSourceType) : ℕ → String → Except Failure Bytes
  | redirects, url => do
    net.validate settings.requireHttps source url
    match net.get url with
    | .error text => .error (.exception text)
    | .ok (.redirect status location) =>
      if settings.allowRedirects = false then
        .error (.distribution ("Redirect rejected: " ++ toString status) .artifactRedirectRejected)
      else
        match redirects with
        | 0 => .error (.distribution "Too many redirects" .artifactRedirectRejected)
        | redirects + 1 =>
          match location with
          | none | some "" => .error (.distribution "Redirect missing location" .artifactRedirectRejected)
          | some location =>
            let nextUrl := net.follow url location
            if net.isHttps nextUrl then requestFile source redirects nextUrl
            else .error (.distribution "Redirect must stay HTTPS" .artifactRedirectRejected)
    | .ok (.status code) =>
      .error (.distribution ("HTTP " ++ toString code ++ " downloading artifact") .artifactNotFound)
    | .ok (.body contentLength chunks breaks) =>
      if contentLength.any fun expected => decide (expected > (settings.maxBytes : ℤ)) then
        .error (.distribution "Content-Length exceeds limit" .downloadSizeExceeded)
      else readChunks settings.maxBytes breaks chunks []

/-- `_stream_download`: the file with its digest. -/
def streamDownload (d : ArtifactDescriptor) : Except Failure (Bytes × String) := do
  let content ← requestFile settings net d.source settings.maxRedirects d.artifactUrl
  let digest ← artifactDigest lib false d.artifactUrl content
  return (content, digest)

/-! ### The cache -/

/-- The files of the verified directory, by their names without the suffix. -/
abbrev Cache := String → Option Bytes

/-- The file of the cache has a suffix, unless its name is empty. -/
def cachedSuffix (name : String) : Bool := decide (name ≠ "") && !endsWith name "/"

def cacheCorrupt : Failure := .distribution "Cached artifact digest mismatch" .cacheCorrupt

def fromCache (d : ArtifactDescriptor) (content : Bytes) (digest : String) : DownloadResult where
  path := d.contentSha256
  sha256 := digest
  bytesDownloaded := content.length
  fromCache := true

/-- The size that the descriptor states, if it states one, is not that of the file. -/
def hasOtherSize (d : ArtifactDescriptor) (content : Bytes) : Bool :=
  d.artifactSize.any fun size => decide ((content.length : ℤ) ≠ size)

/-- What is made of a failure of the download in its thread. -/
def Failure.ofThread : Failure → Failure
  | .distribution message code => .distribution message code
  | .exception text => .distribution text .downloadTimeout

/-- The part of `download` that follows the lock, for a file that is not cached. `promotes` is the text of the error
if the partial file cannot be moved. -/
def downloadMissing (promotes : Option String) (cache : Cache) (d : ArtifactDescriptor) :
    Except Failure DownloadResult × Cache :=
  match streamDownload lib settings net d with
  | .error failure => (.error failure.ofThread, cache)
  | .ok (content, digest) =>
    if digest ≠ d.contentSha256 then
      (.error (.distribution ("Digest mismatch expected=" ++ d.contentSha256 ++ " actual=" ++ digest)
        .artifactDigestMismatch), cache)
    else if hasOtherSize d content then
      (.error (.distribution ("Size mismatch expected=" ++ toString (d.artifactSize.getD 0) ++ " actual="
        ++ toString content.length) .artifactSizeMismatch), cache)
    else
      match promotes with
      | some text =>
        (.error (.distribution ("Failed to promote verified artifact: " ++ text) .stagingFailed), cache)
      | none =>
        (.ok { path := d.contentSha256, sha256 := digest, bytesDownloaded := content.length },
          Function.update cache d.contentSha256 (some content))

/-- `SecureArtifactDownloader.download`, with no other download under way. -/
def download (promotes : Option String) (cache : Cache) (d : ArtifactDescriptor) :
    Except Failure DownloadResult × Cache :=
  match cache d.contentSha256 with
  | some content =>
    match artifactDigest lib (cachedSuffix d.contentSha256) d.artifactUrl content with
    | .error failure => (.error failure, cache)
    | .ok actual =>
      if actual = d.contentSha256 then
        if hasOtherSize d content then
          (.error (.distribution "Cached artifact size mismatch" .artifactSizeMismatch), cache)
        else (.ok (fromCache d content actual), cache)
      else (.error cacheCorrupt, cache)
  | none => downloadMissing lib settings net promotes cache d

/-! ### What a download does -/

variable {lib settings net} {promotes : Option String} {cache cache' : Cache} {d : ArtifactDescriptor}
  {result : DownloadResult}

/-- What the server delivers, where it is accepted as the artifact of the descriptor. -/
structure Delivered (lib : ArtifactLib) (settings : DownloadSettings) (net : Network) (d : ArtifactDescriptor)
    (content : Bytes) : Prop where
  requested : requestFile settings net d.source settings.maxRedirects d.artifactUrl = .ok content
  digest : artifactDigest lib false d.artifactUrl content = .ok d.contentSha256
  size : hasOtherSize d content = false

/-- A cached file that is accepted as the artifact of the descriptor. -/
structure Accepted (lib : ArtifactLib) (d : ArtifactDescriptor) (content : Bytes) : Prop where
  digest : artifactDigest lib (cachedSuffix d.contentSha256) d.artifactUrl content = .ok d.contentSha256
  size : hasOtherSize d content = false

theorem streamDownload_ok {content : Bytes} {digest : String} :
    streamDownload lib settings net d = .ok (content, digest) ↔
      requestFile settings net d.source settings.maxRedirects d.artifactUrl = .ok content ∧
        artifactDigest lib false d.artifactUrl content = .ok digest := by
  unfold streamDownload
  cases hfile : requestFile settings net d.source settings.maxRedirects d.artifactUrl with
  | error failure => exact iff_of_false (fun h => by cases h) fun h => by cases h.1
  | ok content' =>
    cases hdigest : artifactDigest lib false d.artifactUrl content' with
    | error failure =>
      refine iff_of_false (fun h => ?_) fun ⟨heq, h⟩ => ?_
      · simp only [bind, Except.bind, hdigest] at h
        cases h
      · rw [← Except.ok.inj heq, hdigest] at h
        cases h
    | ok digest' =>
      have hrun : (Except.ok content' >>= fun content => artifactDigest lib false d.artifactUrl content >>=
          fun digest => pure (content, digest) : Except Failure (Bytes × String)) = .ok (content', digest') := by
        simp only [bind, Except.bind, hdigest, pure, Except.pure]
      rw [hrun, Except.ok.injEq, Prod.mk.injEq]
      constructor
      · rintro ⟨rfl, rfl⟩
        exact ⟨rfl, hdigest⟩
      · rintro ⟨heq, h⟩
        obtain rfl := Except.ok.inj heq
        rw [hdigest] at h
        exact ⟨rfl, Except.ok.inj h⟩

/-- **A download of a missing file** stores what is delivered, or leaves the cache as it is. -/
theorem downloadMissing_cases (lib : ArtifactLib) (settings : DownloadSettings) (net : Network)
    (promotes : Option String) (cache : Cache) (d : ArtifactDescriptor) :
    (∃ content, Delivered lib settings net d content ∧ promotes = none ∧
      downloadMissing lib settings net promotes cache d
        = (.ok { path := d.contentSha256, sha256 := d.contentSha256, bytesDownloaded := content.length },
          Function.update cache d.contentSha256 (some content))) ∨
    ((¬ ∃ content, Delivered lib settings net d content ∧ promotes = none) ∧
      ∃ failure, downloadMissing lib settings net promotes cache d = (.error failure, cache)) := by
  unfold downloadMissing
  cases hstream : streamDownload lib settings net d with
  | error failure =>
    refine .inr ⟨?_, _, rfl⟩
    rintro ⟨content, hdelivered, -⟩
    rw [streamDownload_ok.mpr ⟨hdelivered.requested, hdelivered.digest⟩] at hstream
    cases hstream
  | ok streamed =>
    obtain ⟨content, digest⟩ := streamed
    obtain ⟨hrequested, hdigest⟩ := streamDownload_ok.mp hstream
    have hunique : ∀ content', Delivered lib settings net d content' →
        content' = content ∧ digest = d.contentSha256 := by
      intro content' h
      obtain rfl := Except.ok.inj (h.requested.symm.trans hrequested)
      exact ⟨rfl, Except.ok.inj (hdigest.symm.trans h.digest)⟩
    dsimp only
    by_cases hmatch : digest = d.contentSha256
    · rw [if_neg (not_not.mpr hmatch)]
      by_cases hsize : hasOtherSize d content = true
      · rw [if_pos hsize]
        refine .inr ⟨?_, _, rfl⟩
        rintro ⟨content', h, -⟩
        rw [(hunique content' h).1.symm, h.size] at hsize
        cases hsize
      · rw [if_neg hsize]
        cases hpromotes : promotes with
        | some text =>
          refine .inr ⟨?_, _, rfl⟩
          rintro ⟨_, -, h⟩
          cases h
        | none =>
          subst hmatch
          exact .inl ⟨content, ⟨hrequested, hdigest, Bool.eq_false_iff.mpr hsize⟩, rfl, rfl⟩
    · rw [if_pos hmatch]
      refine .inr ⟨?_, _, rfl⟩
      rintro ⟨content', h, -⟩
      exact hmatch (hunique content' h).2

/-- **A download of a cached file** returns it if it is accepted, and downloads nothing. -/
theorem download_of_cached (lib : ArtifactLib) (settings : DownloadSettings) (net : Network) (promotes : Option String)
    {content : Bytes} (hcached : cache d.contentSha256 = some content) :
    (Accepted lib d content ∧ download lib settings net promotes cache d
      = (.ok (fromCache d content d.contentSha256), cache)) ∨ (¬ Accepted lib d content ∧
      ∃ failure, download lib settings net promotes cache d = (.error failure, cache)) := by
  unfold download
  rw [hcached]
  dsimp only
  cases hdigest : artifactDigest lib (cachedSuffix d.contentSha256) d.artifactUrl content with
  | error failure =>
    refine .inr ⟨fun h => ?_, _, rfl⟩
    rw [h.digest] at hdigest
    cases hdigest
  | ok actual =>
    dsimp only
    by_cases hmatch : actual = d.contentSha256
    · subst hmatch
      rw [if_pos rfl]
      by_cases hsize : hasOtherSize d content = true
      · rw [if_pos hsize]
        refine .inr ⟨fun h => ?_, _, rfl⟩
        rw [h.size] at hsize
        cases hsize
      · rw [if_neg hsize]
        exact .inl ⟨⟨hdigest, Bool.eq_false_iff.mpr hsize⟩, rfl⟩
    · rw [if_neg hmatch]
      refine .inr ⟨fun h => ?_, _, rfl⟩
      exact hmatch (Except.ok.inj (hdigest.symm.trans h.digest))

theorem download_of_missing (lib : ArtifactLib) (settings : DownloadSettings) (net : Network) (promotes : Option String)
    (hmissing : cache d.contentSha256 = none) :
    download lib settings net promotes cache d = downloadMissing lib settings net promotes cache d := by
  unfold download
  rw [hmissing]

end EnergyCore.Distribution
