import EnergyCore.PackageArchives.ContentHash

/-!
# Publisher keys and package signatures

The keys that publishers are trusted with, and the verification of the signature that a package carries: the publisher
and the key are named in `integrity/signature.json`, the key is looked up under these names, and the signature is that
of the content hash with the hash of the manifest.

* `getPublicKey_ok` — a key is found under the names that it is registered for;
* `verifySignature_valid` — what has been verified when a signature is valid.
-/

namespace EnergyCore.PackageArchives

open JsonValues KeywordFields
open Packages (Path Raised SignatureStatus utf8 signatureInvalid)

/-! ### The trust store -/

def publisherUnknown : String := "PUBLISHER_UNKNOWN"
def publisherRevoked : String := "PUBLISHER_REVOKED"

inductive PublisherKeyStatus where
  | trusted
  | revoked
  | disabled
  deriving Repr, DecidableEq

def parseKeyStatus (value : String) : Option PublisherKeyStatus :=
  if value = "trusted" then some .trusted
  else if value = "revoked" then some .revoked
  else if value = "disabled" then some .disabled
  else none

structure PublisherKeyRecord where
  publisherId : String
  keyId : String
  publicKey : Bytes
  status : PublisherKeyStatus
  deriving Repr, DecidableEq

/-- A row of the table of publisher keys. -/
structure PublisherKeyRow where
  publisherId : String
  keyId : String
  publicKeyHex : String
  status : String
  deriving Repr, DecidableEq

/-- The keys registered in memory, the latest first, and the rows of the database session, if there is one. -/
structure PublisherTrustStore where
  memory : List PublisherKeyRecord := []
  session : Option (List PublisherKeyRow) := none
  deriving Repr

variable (lib : PyLib)

def keyOfRow (row : PublisherKeyRow) : Option PublisherKeyRecord := do
  let publicKey ← lib.fromhex row.publicKeyHex
  let status ← parseKeyStatus row.status
  return { publisherId := row.publisherId, keyId := row.keyId, publicKey := publicKey, status := status }

def unknownKey (publisherId keyId : String) : Raised :=
  .packageError ("unknown publisher key " ++ publisherId ++ "/" ++ keyId) publisherUnknown

def getPublicKey (store : PublisherTrustStore) (publisherId keyId : String) : Except Raised PublisherKeyRecord :=
  match store.memory.find? fun r => decide (r.publisherId = publisherId ∧ r.keyId = keyId) with
  | some cached => .ok cached
  | none =>
    match store.session with
    | none => .error (unknownKey publisherId keyId)
    | some rows =>
      match rows.find? fun r => decide (r.publisherId = publisherId ∧ r.keyId = keyId) with
      | none => .error (unknownKey publisherId keyId)
      | some row =>
        match keyOfRow lib row with
        | none => .error (.crash .exception)
        | some record => .ok record

def assertTrusted (store : PublisherTrustStore) (publisherId keyId : String) : Except Raised Bytes :=
  match getPublicKey lib store publisherId keyId with
  | .error e => .error e
  | .ok record =>
    match record.status with
    | .revoked =>
      .error (.packageError ("revoked publisher key " ++ publisherId ++ "/" ++ keyId) publisherRevoked)
    | .disabled =>
      .error (.packageError ("disabled publisher key " ++ publisherId ++ "/" ++ keyId) publisherUnknown)
    | .trusted => .ok record.publicKey

/-- **A key is found under its own names.** -/
theorem getPublicKey_ok {store : PublisherTrustStore} {publisherId keyId : String} {record : PublisherKeyRecord}
    (h : getPublicKey lib store publisherId keyId = .ok record) :
    record.publisherId = publisherId ∧ record.keyId = keyId := by
  unfold getPublicKey at h
  cases hmemory : store.memory.find? fun r => decide (r.publisherId = publisherId ∧ r.keyId = keyId) with
  | some cached =>
    rw [hmemory] at h
    have hfound := List.find?_some hmemory
    rw [decide_eq_true_eq] at hfound
    exact Except.ok.inj h ▸ hfound
  | none =>
    rw [hmemory] at h
    cases hsession : store.session with
    | none =>
      rw [hsession] at h
      cases h
    | some rows =>
      rw [hsession] at h
      cases hrow : rows.find? fun r => decide (r.publisherId = publisherId ∧ r.keyId = keyId) with
      | none =>
        simp only [hrow] at h
        cases h
      | some row =>
        simp only [hrow] at h
        have hfound := List.find?_some hrow
        rw [decide_eq_true_eq] at hfound
        cases hkey : keyOfRow lib row with
        | none =>
          simp only [hkey] at h
          cases h
        | some found =>
          simp only [hkey, Except.ok.injEq] at h
          unfold keyOfRow at hkey
          simp only [Option.bind_eq_bind, Option.bind_eq_some_iff, Option.pure_def, Option.some.injEq] at hkey
          obtain ⟨publicKey, _, status, _, rfl⟩ := hkey
          rw [← h]
          exact hfound

theorem assertTrusted_ok {store : PublisherTrustStore} {publisherId keyId : String} {publicKey : Bytes}
    (h : assertTrusted lib store publisherId keyId = .ok publicKey) :
    ∃ record, getPublicKey lib store publisherId keyId = .ok record ∧ record.status = .trusted ∧
      record.publicKey = publicKey := by
  unfold assertTrusted at h
  cases hkey : getPublicKey lib store publisherId keyId with
  | error e =>
    rw [hkey] at h
    cases h
  | ok record =>
    rw [hkey] at h
    refine ⟨record, rfl, ?_⟩
    cases hstatus : record.status with
    | trusted =>
      simp only [hstatus, Except.ok.injEq] at h
      exact ⟨rfl, h⟩
    | revoked | disabled =>
      simp only [hstatus] at h
      cases h

/-! ### The signature file -/

structure SignaturePayload where
  algorithm : String
  publisher : String
  keyId : String
  contentSha256 : String
  manifestSha256 : String
  signature : String
  deriving Repr, DecidableEq

def signaturePath : Path := ["integrity", "signature.json"]

def missingSignatureKey (raw : Dict) : Option String :=
  ["algorithm", "publisher", "key_id", "content_sha256", "manifest_sha256", "signature"].find? fun key =>
    (findItem raw key).isNone

/-- `_load_signature`. -/
def loadSignature (data : Bytes) : Except Raised SignaturePayload :=
  match lib.loads data with
  | .error .decodeError => .error (.packageError "invalid signature.json" signatureInvalid)
  | .error .other => .error (.crash .exception)
  | .ok (.obj raw) =>
    match missingSignatureKey raw with
    | some key => .error (.packageError ("signature.json missing " ++ key) signatureInvalid)
    | none => .ok {
        algorithm := lib.str (getItem raw "algorithm")
        publisher := lib.str (getItem raw "publisher")
        keyId := lib.str (getItem raw "key_id")
        contentSha256 := lib.lower (lib.str (getItem raw "content_sha256"))
        manifestSha256 := lib.lower (lib.str (getItem raw "manifest_sha256"))
        signature := lib.str (getItem raw "signature") }
  | .ok _ => .error (.crash .exception)

def signingDigest (contentSha256 manifestSha256Hex : String) : Bytes :=
  utf8 (contentSha256 ++ "\n" ++ manifestSha256Hex)

/-- Ed25519: whether a key accepts a signature of a message. -/
abbrev Ed25519Verify := Bytes → Bytes → Bytes → Bool

variable (verify : Ed25519Verify)

/-- `verify_signature_file`, of a directory with a signature; the content hash is that of an archive. -/
def verifySignatureFile (data : Bytes) (manifestRaw : Dict) (archive : Archive) (publicKeyPem : Bytes) :
    Except Raised SignatureStatus := do
  let payload ← loadSignature lib data
  if payload.algorithm ≠ "ed25519" then
    .error (.packageError "unsupported signature algorithm" signatureInvalid)
  else
    let contentHash ← contentHash lib archive
    let manifestHash := manifestHash lib manifestRaw
    if payload.contentSha256 ≠ contentHash ∨ payload.manifestSha256 ≠ manifestHash then
      .error (.packageError "signature digest mismatch" signatureInvalid)
    else
      let digest := signingDigest contentHash manifestHash
      match lib.b64decode payload.signature with
      | none => .error (.packageError "invalid ed25519 signature" signatureInvalid)
      | some signatureBytes =>
        if verify publicKeyPem signatureBytes digest then .ok .valid
        else .error (.packageError "invalid ed25519 signature" signatureInvalid)

/-- The publisher and the key that a signature file names. -/
def signatoryOf (data : Bytes) : Option (String × String) :=
  match lib.loads data with
  | .ok (.obj raw) =>
    match findItem raw "publisher", findItem raw "key_id" with
    | some publisher, some keyId => some (lib.str publisher, lib.str keyId)
    | _, _ => none
  | _ => none

/-- `PackageIntegrityVerifier.verify_signature`; a directory at the path of the signature cannot be read. -/
def verifySignature (allowUnsigned : Bool) (trustStore : Option PublisherTrustStore) (packageDir : Tree)
    (manifestRaw : Dict) (archive : Archive) : Except Raised SignatureStatus :=
  if existsIn packageDir signaturePath = false then .ok (if allowUnsigned then .unsigned else .missing)
  else match Fields.get packageDir signaturePath with
  | none => .error (.crash .exception)
  | some data =>
    match signatoryOf lib data with
    | none => .error (.crash .exception)
    | some (publisher, keyId) =>
      match trustStore with
      | none => .error (.packageError "trust store unavailable" signatureInvalid)
      | some store => do
        let publicKey ← assertTrusted lib store publisher keyId
        verifySignatureFile lib verify data manifestRaw archive publicKey

/-! ### What a valid signature means -/

/-- The record of the key that a signature file names has signed the hashes. -/
structure SignedBy (store : PublisherTrustStore) (data : Bytes) (manifestRaw : Dict) (archive : Archive)
    (record : PublisherKeyRecord) : Prop where
  named : signatoryOf lib data = some (record.publisherId, record.keyId)
  registered : getPublicKey lib store record.publisherId record.keyId = .ok record
  trusted : record.status = .trusted
  verified : verifySignatureFile lib verify data manifestRaw archive record.publicKey = .ok .valid

/-- **A valid signature** is one by the key that the signature file names, registered and trusted. -/
theorem verifySignature_valid {allowUnsigned : Bool} {trustStore : Option PublisherTrustStore}
    {packageDir : Tree} {manifestRaw : Dict} {archive : Archive}
    (h : verifySignature lib verify allowUnsigned trustStore packageDir manifestRaw archive = .ok .valid) :
    ∃ store data record, trustStore = some store ∧ Fields.get packageDir signaturePath = some data ∧
      SignedBy lib verify store data manifestRaw archive record := by
  unfold verifySignature at h
  by_cases hexists : existsIn packageDir signaturePath = false
  · rw [if_pos hexists] at h
    cases allowUnsigned <;> cases h
  rw [if_neg hexists] at h
  cases hdata : Fields.get packageDir signaturePath with
  | none =>
    rw [hdata] at h
    cases h
  | some data =>
    rw [hdata] at h
    cases hnamed : signatoryOf lib data with
    | none =>
      simp only [hnamed] at h
      cases h
    | some names =>
      obtain ⟨publisher, keyId⟩ := names
      cases hstore : trustStore with
      | none =>
        simp only [hnamed, hstore] at h
        cases h
      | some store =>
        simp only [hnamed, hstore] at h
        cases htrusted : assertTrusted lib store publisher keyId with
        | error e =>
          rw [htrusted] at h
          cases h
        | ok publicKey =>
          rw [htrusted] at h
          obtain ⟨record, hfound, hstatus, hkey⟩ := assertTrusted_ok lib htrusted
          obtain ⟨hpublisher, hkeyId⟩ := getPublicKey_ok lib hfound
          refine ⟨store, data, record, rfl, rfl, ?_, ?_, hstatus, ?_⟩
          · rw [hnamed, hpublisher, hkeyId]
          · rw [hpublisher, hkeyId]
            exact hfound
          · rw [hkey]
            exact h

end EnergyCore.PackageArchives
