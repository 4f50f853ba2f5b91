import EnergyCore.Foundations.FramedLists
import EnergyCore.PackageArchives.ArchiveMembers

/-!
# The content hash

The hash that package signatures are about: the names of the covered members in their order, each with its bytes, and
the manifest in its canonical form.

* `contentBlocks_eq_map` — what is hashed, once everything can be read.
-/

namespace EnergyCore.PackageArchives

open JsonValues FramedLists
open Packages (Raised utf8 includeInContentHash canonicalManifestBytes signatureInvalid)

/-! ### The functions that the packages rely on -/

/-- Why `json.loads` of decoded bytes fails. -/
inductive JsonFailure where
  | decodeError
  | other
  deriving Repr, DecidableEq

/-- Functions of the standard library: the digest of bytes in hexadecimal, `json.loads` of decoded bytes, and what is
done to texts and values. -/
structure PyLib where
  sha256 : Bytes → String
  loads : Bytes → Except JsonFailure Json
  lower : String → String
  str : Json → String
  int : Json → Option ℤ
  dict : Json → Option Dict
  b64decode : String → Option Bytes
  fromhex : String → Option Bytes
  lower_sha256 : ∀ bytes, lower (sha256 bytes) = sha256 bytes
  lower_lower : ∀ text, lower (lower text) = lower text

variable (lib : PyLib)

/-! ### Hashes -/

def manifestJson : String := "manifest.json"

def manifestHash (raw : Dict) : String := lib.sha256 (canonicalManifestBytes raw)

def coveredNames (archive : Archive) : List String :=
  ((namelist archive).insertionSort (· ≤ ·)).filter fun name => !isDir name && includeInContentHash name

/-- What is hashed of a manifest. -/
def canonicalForm (data : Bytes) : Except Raised Bytes :=
  match lib.loads data with
  | .ok (.obj raw) => .ok (canonicalManifestBytes raw)
  | _ => .error (.crash .exception)

def hashedForm (name : String) (data : Bytes) : Except Raised Bytes :=
  if name = manifestJson then canonicalForm lib data else .ok data

def contentBlock (archive : Archive) (name : String) : Except Raised (String × Bytes) := do
  let data ← readOrRaise archive name
  let data ← hashedForm lib name data
  return (name, data)

def contentBlocks (archive : Archive) : Except Raised (List (String × Bytes)) :=
  (coveredNames archive).mapM (contentBlock lib archive)

def contentStream (blocks : List (String × Bytes)) : Bytes :=
  stream 0 (blocks.map fun b => (utf8 b.1, b.2))

/-- `compute_package_content_sha256`. -/
def contentHash (archive : Archive) : Except Raised String := do
  let blocks ← contentBlocks lib archive
  return lib.sha256 (contentStream blocks)

/-- `verify_content_hashes`. -/
def verifyContentHashes (archive : Archive) (manifestRaw : Dict) (expectedContentSha256 : String)
    (expectedManifestSha256 : Option String) : Except Raised Unit := do
  let actualContent ← contentHash lib archive
  if lib.lower actualContent ≠ lib.lower expectedContentSha256 then
    .error (.packageError ("archive checksum mismatch expected=" ++ expectedContentSha256 ++ " actual="
      ++ actualContent) signatureInvalid)
  else
    let actualManifest := manifestHash lib manifestRaw
    match expectedManifestSha256 with
    | none => .ok ()
    | some expected =>
      if expected ≠ "" ∧ lib.lower actualManifest ≠ lib.lower expected then
        .error (.packageError ("manifest checksum mismatch expected=" ++ expected ++ " actual="
          ++ actualManifest) signatureInvalid)
      else .ok ()

/-! ### Names as bytes -/

theorem utf8_append (s t : String) : utf8 (s ++ t) = utf8 s ++ utf8 t := by
  unfold utf8
  rw [String.toList_append, List.flatMap_append, List.map_append]

/-- The text of a dictionary starts with a brace. -/
theorem utf8_dumps_obj (members : Dict) : ∃ rest, utf8 (dumps (.obj members)) = 123 :: rest := by
  rw [dumps, utf8_append, utf8_append]
  exact ⟨_, rfl⟩

/-! ### What is hashed -/

theorem mem_coveredNames {archive : Archive} {name : String} : name ∈ coveredNames archive ↔
      name ∈ fileNames archive ∧ includeInContentHash name = true := by
  unfold coveredNames fileNames
  rw [List.mem_filter, List.mem_filter, (List.perm_insertionSort _ _).mem_iff, Bool.and_eq_true, and_assoc]

/-- The bytes that are hashed of a member, if they can be made. -/
def formOf (archive : Archive) (name : String) : Bytes :=
  match hashedForm lib name (contentsOf archive name) with
  | .ok data => data
  | .error _ => []

/-- A member that can be hashed. -/
def Hashable (archive : Archive) (name : String) : Prop :=
  read archive name = .ok (contentsOf archive name) ∧
    hashedForm lib name (contentsOf archive name) = .ok (formOf lib archive name)

theorem contentBlock_of_hashable {archive : Archive} {name : String} (h : Hashable lib archive name) :
    contentBlock lib archive name = .ok (name, formOf lib archive name) := by
  unfold contentBlock readOrRaise
  rw [h.1]
  simp only [bind, Except.bind, h.2, pure, Except.pure]

theorem hashable_of_contentBlock {archive : Archive} {name : String} {block : String × Bytes}
    (h : contentBlock lib archive name = .ok block) : Hashable lib archive name := by
  unfold Hashable formOf contentsOf
  unfold contentBlock readOrRaise at h
  cases hread : read archive name with
  | error e =>
    rw [hread] at h
    cases h
  | ok data =>
    rw [hread] at h
    cases hform : hashedForm lib name data with
    | error e =>
      simp only [bind, Except.bind, hform] at h
      cases h
    | ok form => simp only [and_self]

theorem contentBlocks_of_hashable {archive : Archive}
    (h : ∀ name ∈ coveredNames archive, Hashable lib archive name) : contentBlocks lib archive
      = .ok ((coveredNames archive).map fun name => (name, formOf lib archive name)) := by
  unfold contentBlocks
  generalize coveredNames archive = names at h ⊢
  induction names with
  | nil => rfl
  | cons name names ih =>
    rw [List.mapM_cons, contentBlock_of_hashable lib (h name List.mem_cons_self),
      ih fun name' hname' => h name' (List.mem_cons_of_mem name hname')]
    rfl

/-- **What is hashed.** If the hash can be taken, it is that of the covered members in their order. -/
theorem contentBlocks_eq_map {archive : Archive} {blocks : List (String × Bytes)}
    (h : contentBlocks lib archive = .ok blocks) :
    blocks = (coveredNames archive).map (fun name => (name, formOf lib archive name)) ∧
      ∀ name ∈ coveredNames archive, Hashable lib archive name := by
  have hall : ∀ name ∈ coveredNames archive, Hashable lib archive name := by
    unfold contentBlocks at h
    generalize coveredNames archive = names at h ⊢
    induction names generalizing blocks with
    | nil => exact fun name hname => absurd hname List.not_mem_nil
    | cons name names ih =>
      rw [List.mapM_cons] at h
      cases hfirst : contentBlock lib archive name with
      | error e =>
        rw [hfirst] at h
        cases h
      | ok block =>
        cases hrest : names.mapM (contentBlock lib archive) with
        | error e =>
          rw [hfirst, hrest] at h
          cases h
        | ok rest =>
          intro name' hname'
          rcases List.mem_cons.mp hname' with rfl | hname'
          · exact hashable_of_contentBlock lib hfirst
          · exact ih hrest name' hname'
  rw [contentBlocks_of_hashable lib hall] at h
  exact ⟨(Except.ok.inj h).symm, hall⟩

end EnergyCore.PackageArchives
