import EnergyCore.PackageArchives.SignedPackages

/-!
# What the content hash covers

Two archives with one content hash, and the files that they are extracted to. The hash leaves members out, does not say
where a member ends, and takes the members in the order of their names, not in that of the extraction.

* `get_extracted` — what is extracted at a path that different members do not share;
* `formOf_eq_of_stream` — with the names and the sizes, the hashed bytes have one reading;
* `extracted_agree` — when archives with one hash are extracted to the same files;
* `files_outside_the_hash` — two accepted packages with one hash and other files.
-/

namespace EnergyCore.PackageArchives

open FallibleSteps FramedLists JsonValues KeyedChanges
open KeywordFields PosixPaths
open Packages (Path Raised utf8 includeInContentHash canonicalManifestBytes startsWith contains)

/-! ### The extracted files -/

/-- Different names of files lead to different paths. -/
def PathsApart (archive : Archive) : Prop :=
  ∀ name ∈ fileNames archive, ∀ name' ∈ fileNames archive, parts name = parts name' → name = name'

/-- No other name leads to the path of this one. -/
def Alone (archive : Archive) (name : String) : Prop :=
  ∀ name' ∈ fileNames archive, parts name' = parts name → name' = name

theorem PathsApart.alone {archive : Archive} (h : PathsApart archive) {name : String}
    (hname : name ∈ fileNames archive) : Alone archive name :=
  fun name' hname' hparts => h name' hname' name hname hparts

theorem extracted_eq {archive : Archive} {tree : Tree} (h : extracted archive = .ok tree) :
    tree = applyAll [] (changes archive (fileNames archive)) := (putMembers_eq_applyAll h).1

/-- An archive that can be extracted over some files can be extracted into a directory of its own. -/
theorem extracted_of_over {archive : Archive} {there tree : Tree} (h : extractedOver there archive = .ok tree) :
    ∃ tree', extracted archive = .ok tree' :=
  putMembers_mono (fun _ hp => absurd hp List.not_mem_nil) h

section

variable {archive : Archive} {tree : Tree} (h : extracted archive = .ok tree)

include h

/-- **The file of a member** has its contents, if no other member has the path. -/
theorem get_extracted {name : String} (hname : name ∈ fileNames archive) (halone : Alone archive name) :
    Fields.get tree (parts name) = some (contentsOf archive name) := by
  have hagree : AgreeOn (changes archive (fileNames archive)) (parts name) := by
    intro c hc c' hc' hkey hkey'
    obtain ⟨n, hn, rfl⟩ := List.mem_map.mp hc
    obtain ⟨n', hn', rfl⟩ := List.mem_map.mp hc'
    rw [halone n hn hkey, halone n' hn' hkey']
  have hmem : Change.put (parts name) (contentsOf archive name) ∈ changes archive (fileNames archive) :=
    List.mem_map.mpr ⟨name, hname, rfl⟩
  rw [extracted_eq h]
  exact get_applyAll_of_agree hagree [] hmem rfl

/-- A path that no member leads to has no file. -/
theorem get_extracted_of_notMem {p : Path} (hp : ∀ name ∈ fileNames archive, parts name ≠ p) :
    Fields.get tree p = none := by
  rw [extracted_eq h]
  refine get_applyAll_of_unchanged (fun c hc => ?_) []
  obtain ⟨name, hname, rfl⟩ := List.mem_map.mp hc
  exact hp name hname

end

/-! ### One reading of the hashed bytes -/

variable (lib : PyLib)

theorem formOf_of_ne {archive : Archive} {name : String} (h : name ≠ manifestJson) :
    formOf lib archive name = contentsOf archive name := by
  unfold formOf hashedForm
  rw [if_neg h]

/-- The bytes that the hash of an archive is taken of. -/
def hashedBytes (archive : Archive) : Bytes :=
  contentStream ((coveredNames archive).map fun name => (name, formOf lib archive name))

/-- An archive with a hash can be hashed. -/
theorem contentHash_ok {archive : Archive} {hash : String} (h : contentHash lib archive = .ok hash) :
    hash = lib.sha256 (hashedBytes lib archive) ∧ ∀ name ∈ coveredNames archive, Hashable lib archive name := by
  unfold contentHash at h
  cases hblocks : contentBlocks lib archive with
  | error e =>
    rw [hblocks] at h
    cases h
  | ok blocks =>
    rw [hblocks] at h
    obtain ⟨rfl, hall⟩ := contentBlocks_eq_map lib hblocks
    exact ⟨(Except.ok.inj h).symm, hall⟩

theorem contentHash_of_hashable {archive : Archive} (h : ∀ name ∈ coveredNames archive, Hashable lib archive name) :
    contentHash lib archive = .ok (lib.sha256 (hashedBytes lib archive)) := by
  unfold contentHash
  rw [contentBlocks_of_hashable lib h]
  rfl

/-- The covered members have the same names, and all but the manifest have the same sizes. -/
structure FramedAlike (archive archive' : Archive) : Prop where
  names : coveredNames archive = coveredNames archive'
  sizes : ∀ name ∈ coveredNames archive, name ≠ manifestJson →
    (contentsOf archive name).length = (contentsOf archive' name).length

/-- Sums that differ in the terms of one entry at most are equal only if these terms are. -/
theorem eq_of_sum_eq {α : Type*} {items : List α} {f g : α → ℕ} {a : α} (ha : a ∈ items)
    (hother : ∀ b ∈ items, b ≠ a → f b = g b) (hsum : (items.map f).sum = (items.map g).sum) : f a = g a := by
  have hle : ∀ {f g : α → ℕ}, (∀ b ∈ items, b ≠ a → f b = g b) → f a < g a →
      (items.map f).sum < (items.map g).sum := by
    intro f g hother hlt
    refine List.sum_lt_sum _ _ (fun b hb => ?_) ⟨a, ha, hlt⟩
    by_cases hba : b = a
    · rw [hba]
      exact hlt.le
    · exact (hother b hb hba).le
  rcases lt_trichotomy (f a) (g a) with hlt | heq | hgt
  · exact absurd hsum (hle hother hlt).ne
  · exact heq
  · exact absurd hsum (hle (fun b hb hba => (hother b hb hba).symm) hgt).ne'

theorem length_stream {α : Type*} (sep : α) (blocks : List (Block α)) :
    (stream sep blocks).length = (blocks.map fun b => b.1.length + b.2.length + 1).sum := by
  unfold stream
  rw [List.length_flatMap]
  simp only [length_frame]

/-- **One reading.** The hashed bytes of archives whose members have the same names and sizes are equal only if those of
each member are. -/
theorem formOf_eq_of_stream {archive archive' : Archive} (halike : FramedAlike archive archive')
    (h : hashedBytes lib archive = hashedBytes lib archive') :
    ∀ name ∈ coveredNames archive, formOf lib archive name = formOf lib archive' name := by
  unfold hashedBytes contentStream at h
  rw [← halike.names, List.map_map, List.map_map] at h
  have hother : ∀ name ∈ coveredNames archive, name ≠ manifestJson →
      (formOf lib archive name).length = (formOf lib archive' name).length := by
    intro name hname hne
    rw [formOf_of_ne lib hne, formOf_of_ne lib hne]
    exact halike.sizes name hname hne
  have hlengths : ∀ name ∈ coveredNames archive,
      (formOf lib archive name).length = (formOf lib archive' name).length := by
    intro name hname
    by_cases hne : name = manifestJson
    · have hsum := congrArg List.length h
      rw [length_stream, length_stream, List.map_map, List.map_map] at hsum
      have hterm := eq_of_sum_eq hname (fun other hmem hdiffers => by
        simp only [Function.comp_apply]
        rw [hother other hmem fun heq => hdiffers (heq.trans hne.symm)]) hsum
      simp only [Function.comp_apply] at hterm
      omega
    · exact hother name hname hne
  have hframes : ((coveredNames archive).map fun name => (utf8 name, formOf lib archive name)).map
        (fun b => (b.1, b.2.length))
      = ((coveredNames archive).map fun name => (utf8 name, formOf lib archive' name)).map
        fun b => (b.1, b.2.length) := by
    rw [List.map_map, List.map_map]
    refine List.map_congr_left fun name hname => ?_
    simp only [Function.comp_apply]
    rw [hlengths name hname]
  have hblocks := stream_injective_of_lengths hframes h
  intro name hname
  exact congrArg Prod.snd (List.map_inj_left.mp hblocks name hname)

/-! ### The same files -/

def manifestPath : Path := [manifestJson]

theorem parts_manifestJson : parts manifestJson = manifestPath := by decide +kernel

/-- A member that the hash leaves out leads to the path. -/
def LeftOut (archive : Archive) (p : Path) : Prop :=
  ∃ name ∈ fileNames archive, parts name = p ∧ includeInContentHash name = false

/-- The files that the hash covers are the same, and the manifests are but for their integrity section and their
formatting. -/
structure SameCoveredFiles (archive archive' : Archive) (tree tree' : Tree) : Prop where
  files : ∀ p, ¬ LeftOut archive p → ¬ LeftOut archive' p → p ≠ manifestPath →
    Fields.get tree p = Fields.get tree' p
  manifest : ∃ data data' raw raw', Fields.get tree manifestPath = some data ∧
    Fields.get tree' manifestPath = some data' ∧ lib.loads data = .ok (.obj raw) ∧ lib.loads data' = .ok (.obj raw') ∧
      canonicalManifestBytes raw = canonicalManifestBytes raw'

section

variable {archive archive' : Archive} {tree tree' : Tree}

theorem covered_of_not_leftOut {p : Path} (h : ¬ LeftOut archive p) {name : String} (hname : name ∈ fileNames archive)
    (hparts : parts name = p) : name ∈ coveredNames archive := by
  refine mem_coveredNames.mpr ⟨hname, ?_⟩
  by_contra hout
  exact h ⟨name, hname, hparts, by simpa using hout⟩

/-- A covered file of one archive is one of the other. -/
theorem get_extracted_of_covered (htree : extracted archive = .ok tree) (htree' : extracted archive' = .ok tree')
    (hapart : PathsApart archive) (hapart' : PathsApart archive') (hnames : coveredNames archive = coveredNames archive')
    (hforms : ∀ name ∈ coveredNames archive, formOf lib archive name = formOf lib archive' name) {name : String}
    (hname : name ∈ coveredNames archive) (hne : name ≠ manifestJson) :
    Fields.get tree (parts name) = Fields.get tree' (parts name) := by
  have hfile := (mem_coveredNames.mp hname).1
  have hfile' := (mem_coveredNames.mp (hnames ▸ hname)).1
  have hform := hforms name hname
  rw [formOf_of_ne lib hne, formOf_of_ne lib hne] at hform
  rw [get_extracted htree hfile (hapart.alone hfile), get_extracted htree' hfile' (hapart'.alone hfile'), hform]

theorem canonicalForm_ok {data form : Bytes} (h : canonicalForm lib data = .ok form) :
    ∃ raw, lib.loads data = .ok (.obj raw) ∧ form = canonicalManifestBytes raw := by
  unfold canonicalForm at h
  split at h
  · rename_i raw hloads
    exact ⟨raw, hloads, (Except.ok.inj h).symm⟩
  · cases h

theorem loads_of_hashable (h : Hashable lib archive manifestJson) :
    ∃ raw, lib.loads (contentsOf archive manifestJson) = .ok (.obj raw) ∧
      formOf lib archive manifestJson = canonicalManifestBytes raw := by
  have hform := h.2
  unfold hashedForm at hform
  rw [if_pos rfl] at hform
  exact canonicalForm_ok lib hform

end

theorem mem_coveredNames_manifest {archive : Archive} (h : manifestJson ∈ namelist archive) :
    manifestJson ∈ coveredNames archive := by
  refine mem_coveredNames.mpr ⟨List.mem_filter.mpr ⟨h, ?_⟩, ?_⟩
  · decide +kernel
  · decide +kernel

/-- **Archives with one hash**, with members of the same names and sizes, are extracted to the same covered files. -/
theorem sameCoveredFiles {archive archive' : Archive} {tree tree' : Tree} {hash : String}
    (hinj : Function.Injective lib.sha256) (hhash : contentHash lib archive = .ok hash)
    (hhash' : contentHash lib archive' = .ok hash) (hlisted : manifestJson ∈ namelist archive)
    (halike : FramedAlike archive archive') (hapart : PathsApart archive) (hapart' : PathsApart archive')
    (htree : extracted archive = .ok tree) (htree' : extracted archive' = .ok tree') :
    SameCoveredFiles lib archive archive' tree tree' := by
  obtain ⟨hbytes, hall⟩ := contentHash_ok lib hhash
  obtain ⟨hbytes', hall'⟩ := contentHash_ok lib hhash'
  have hforms := formOf_eq_of_stream lib halike (hinj (hbytes.symm.trans hbytes'))
  constructor
  · intro p hp hp' hne
    have hnot : ∀ name, parts name = p → name ≠ manifestJson := by
      rintro name hparts rfl
      exact hne (hparts.symm.trans parts_manifestJson)
    by_cases hmember : ∃ name ∈ fileNames archive, parts name = p
    · obtain ⟨name, hname, rfl⟩ := hmember
      exact get_extracted_of_covered lib htree htree' hapart hapart' halike.names hforms
        (covered_of_not_leftOut hp hname rfl) (hnot name rfl)
    · have hmember' : ∀ name ∈ fileNames archive', parts name ≠ p := by
        intro name hname hparts
        have hcovered := covered_of_not_leftOut hp' hname hparts
        rw [← halike.names] at hcovered
        exact hmember ⟨name, (mem_coveredNames.mp hcovered).1, hparts⟩
      rw [get_extracted_of_notMem htree fun name hname hparts => hmember ⟨name, hname, hparts⟩,
        get_extracted_of_notMem htree' hmember']
  · have hcovered := mem_coveredNames_manifest hlisted
    have hcovered' : manifestJson ∈ coveredNames archive' := halike.names ▸ hcovered
    have hfile := (mem_coveredNames.mp hcovered).1
    have hfile' := (mem_coveredNames.mp hcovered').1
    obtain ⟨raw, hloads, hform⟩ := loads_of_hashable lib (hall _ hcovered)
    obtain ⟨raw', hloads', hform'⟩ := loads_of_hashable lib (hall' _ hcovered')
    refine ⟨_, _, raw, raw', ?_, ?_, hloads, hloads', ?_⟩
    · rw [← parts_manifestJson]
      exact get_extracted htree hfile (hapart.alone hfile)
    · rw [← parts_manifestJson]
      exact get_extracted htree' hfile' (hapart'.alone hfile')
    · rw [← hform, ← hform']
      exact hforms _ hcovered

/-! ### Accepted archives -/

variable (v : PackageValidator)

/-- An archive that `validate_archive` accepts has been extracted and hashed. -/
theorem accepted_of_valid {disk : Disk} {file : ArchiveFile} {archive : Archive} {installed : InstalledVersions}
    {allowReinstall : Bool} {w w' : World} {result : Validation}
    (hrun : validateArchive v disk (some file) installed allowReinstall w = .ok result w')
    (hmembers : file.members = some archive) (hvalid : result.valid = true) :
    manifestJson ∈ namelist archive ∧ ∃ tree, extracted archive = .ok tree := by
  obtain ⟨file', archive', raw, manifest, status, packageDir, hfile, hmembers', haccepted, -⟩ :=
    (ends_validateArchive v disk (some file) installed allowReinstall w).ok hrun hvalid
  obtain rfl := Option.some.inj hfile
  obtain rfl := Option.some.inj (hmembers.symm.trans hmembers')
  exact ⟨haccepted.listed, extracted_of_over haccepted.staged⟩

/-- **What the hash covers.** Two accepted archives with one content hash are extracted to the same files, but for the
members that the hash leaves out and for the integrity section and the formatting of the manifest, if their covered
members have the same names and sizes and if the names of each archive lead to different paths. -/
theorem extracted_agree {disk disk' : Disk} {file file' : ArchiveFile} {archive archive' : Archive}
    {installed installed' : InstalledVersions} {allowReinstall allowReinstall' : Bool} {w₀ w₁ w₀' w₁' : World}
    {result result' : Validation} {hash : String} (hinj : Function.Injective v.lib.sha256)
    (hrun : validateArchive v disk (some file) installed allowReinstall w₀ = .ok result w₁)
    (hrun' : validateArchive v disk' (some file') installed' allowReinstall' w₀' = .ok result' w₁')
    (hvalid : result.valid = true) (hvalid' : result'.valid = true)
    (hmembers : file.members = some archive) (hmembers' : file'.members = some archive')
    (hhash : contentHash v.lib archive = .ok hash) (hhash' : contentHash v.lib archive' = .ok hash)
    (halike : FramedAlike archive archive') (hapart : PathsApart archive) (hapart' : PathsApart archive') :
    ∃ tree tree', extracted archive = .ok tree ∧ extracted archive' = .ok tree' ∧
      SameCoveredFiles v.lib archive archive' tree tree' := by
  obtain ⟨hlisted, tree, htree⟩ := accepted_of_valid v hrun hmembers hvalid
  obtain ⟨-, tree', htree'⟩ := accepted_of_valid v hrun' hmembers' hvalid'
  exact ⟨tree, tree', htree, htree',
    sameCoveredFiles v.lib hinj hhash hhash' hlisted halike hapart hapart' htree htree'⟩

/-! ### Unsigned packages -/

namespace UnsignedDemo

/-- An injective text of bytes: each of them in strokes. -/
def strokes (bytes : Bytes) : String := String.ofList (bytes.flatMap fun b => List.replicate b 'x' ++ ['.'])

theorem strokes_injective : Function.Injective strokes := by
  have hstrokes : ∀ bytes bytes' : Bytes, (bytes.flatMap fun b => List.replicate b 'x' ++ ['.'])
      = (bytes'.flatMap fun b => List.replicate b 'x' ++ ['.']) → bytes = bytes' := by
    intro bytes
    induction bytes with
    | nil =>
      intro bytes' h
      cases bytes' with
      | nil => rfl
      | cons b' bytes' =>
        rw [List.flatMap_nil, List.flatMap_cons] at h
        exact absurd (congrArg List.length h) (by simp)
    | cons b bytes ih =>
      intro bytes' h
      cases bytes' with
      | nil =>
        rw [List.flatMap_nil, List.flatMap_cons] at h
        exact absurd (congrArg List.length h) (by simp)
      | cons b' bytes' =>
        rw [List.flatMap_cons, List.flatMap_cons, List.append_assoc, List.append_assoc] at h
        have hnot : ∀ n : ℕ, '.' ∉ List.replicate n 'x' := by
          intro n hmem
          exact absurd (List.eq_of_mem_replicate hmem) (by decide)
        obtain ⟨hfirst, hrest⟩ := append_sep_inj (hnot b) (hnot b') h
        have hb := congrArg List.length hfirst
        rw [List.length_replicate, List.length_replicate] at hb
        rw [hb, ih bytes' hrest]
  intro bytes bytes' h
  exact hstrokes bytes bytes' (String.ofList_injective h)

variable (contentSha256 : String)

/-- The manifest of a package that states its hash. -/
def raw : Dict := demoManifest "1" "acme" contentSha256

def parsed : Manifest := demoParsed "1" "acme" contentSha256

/-- A library that also reads the canonical form of the manifest. -/
def rereadingLib : PyLib :=
  { demoLib strokes (raw contentSha256) (raw contentSha256) with
    loads := fun bytes =>
      match (demoLib strokes (raw contentSha256) (raw contentSha256)).loads bytes with
      | .ok value => .ok value
      | .error e =>
        if bytes = canonicalManifestBytes (demoFields "1" "acme") then .ok (.obj (demoFields "1" "acme"))
        else .error e }

/-- A validator that accepts unsigned packages. -/
def validator : PackageValidator :=
  { demoValidator (rereadingLib contentSha256) [] (fun _ _ _ => false) with
    settings := { (demoValidator (rereadingLib contentSha256) [] fun _ _ _ => false).settings with
      allowUnsignedModules := true } }

def member (name : String) (h : nul ∉ name.toList) (data : Bytes) : ZipMember := demoMember name h data 512

theorem nul_notMem_manifest : nul ∉ "manifest.json".toList := by decide +kernel

/-- The manifest and more files. -/
def package (files : Archive) : Archive :=
  member "manifest.json" nul_notMem_manifest (manifestText (raw contentSha256)) :: files

def packageFile (files : Archive) : ArchiveFile := { size := 1200, members := some (package contentSha256 files) }

/-- The hashed bytes of the manifest, and of more blocks. -/
def hashOf (blocks : List (String × Bytes)) : String :=
  strokes (contentStream (("manifest.json", canonicalManifestBytes (demoFields "1" "acme")) :: blocks))

theorem canonical_raw :
    canonicalManifestBytes (raw contentSha256) = canonicalManifestBytes (demoFields "1" "acme") := by
  unfold canonicalManifestBytes raw demoManifest
  rw [List.filter_append]
  rfl

theorem loads_rereadingLib (bytes : Bytes) :
    (rereadingLib contentSha256).loads bytes
      = match (demoLib strokes (raw contentSha256) (raw contentSha256)).loads bytes with
        | .ok value => .ok value
        | .error e =>
          if bytes = canonicalManifestBytes (demoFields "1" "acme") then .ok (.obj (demoFields "1" "acme"))
          else .error e := rfl

theorem loads_manifest :
    (validator contentSha256).lib.loads (manifestText (raw contentSha256)) = .ok (.obj (raw contentSha256)) := by
  have hlib : (validator contentSha256).lib = rereadingLib contentSha256 := rfl
  rw [hlib, loads_rereadingLib, loads_manifestText]

theorem parse_raw : parseManifestDict (validator contentSha256).lib (.obj (raw contentSha256))
      = .ok (raw contentSha256, parsed contentSha256) := rfl

/-- A name that the limits accept. -/
def unmarked (name : String) : Bool :=
  !isDir name && !contains name ".." && !startsWith name "/" && !startsWith name "\\"

/-- Some small files beside the manifest. -/
structure SmallFiles (files : Archive) : Prop where
  names : ∀ name ∈ namelist files, unmarked name = true ∧ name ≠ "manifest.json"
  sizes : ∀ m ∈ files, m.fileSize = 512 ∧ m.compressSize = 512
  few : files.length ≤ 10

theorem inspectMembers_unmarked {files : Archive} (hnames : ∀ name ∈ namelist files, unmarked name = true)
    (hsizes : ∀ m ∈ files, m.fileSize = 512 ∧ m.compressSize = 512) (total : ℕ) :
    inspectMembers files total = .ok (total + 512 * files.length) := by
  induction files generalizing total with
  | nil => rfl
  | cons m files ih =>
    have hname := hnames m.filename List.mem_cons_self
    unfold unmarked at hname
    rw [Bool.and_eq_true, Bool.and_eq_true, Bool.and_eq_true, Bool.not_eq_true', Bool.not_eq_true',
      Bool.not_eq_true', Bool.not_eq_true'] at hname
    obtain ⟨hsize, hcompressed⟩ := hsizes m List.mem_cons_self
    have hpath : ¬ (contains m.filename ".." ∨ startsWith m.filename "/" ∨ startsWith m.filename "\\") := by
      rw [hname.1.1.2, hname.1.2, hname.2]
      simp
    unfold inspectMembers
    rw [if_neg (by rw [hname.1.1.1]; simp), if_neg (by rw [hsize, hcompressed]; simp [maxCompressionRatio]),
      if_neg hpath, hsize, ih (fun name hname => hnames name (List.mem_cons_of_mem _ hname))
        (fun m hm => hsizes m (List.mem_cons_of_mem _ hm)), List.length_cons]
    congr 1
    omega

section

variable {files : Archive} (hfiles : SmallFiles files)

include hfiles

theorem limits_package : inspectArchiveLimits (package contentSha256 files) = .ok () := by
  have hmembers : inspectMembers (package contentSha256 files) 0
      = .ok (0 + 512 * (package contentSha256 files).length) := by
    refine inspectMembers_unmarked (fun name hname => ?_) (fun m hm => ?_) 0
    · rcases List.mem_cons.mp hname with rfl | hname
      · show unmarked "manifest.json" = true
        decide +kernel
      · exact (hfiles.names name hname).1
    · rcases List.mem_cons.mp hm with rfl | hm
      · exact ⟨rfl, rfl⟩
      · exact hfiles.sizes m hm
  have hlength : (package contentSha256 files).length = files.length + 1 := rfl
  have hfew := hfiles.few
  unfold inspectArchiveLimits
  rw [hmembers, hlength, if_neg (by unfold maxEntries; omega)]
  dsimp only
  rw [if_neg (by unfold maxUncompressedBytes; omega)]

theorem read_manifest :
    read (package contentSha256 files) "manifest.json" = .ok (manifestText (raw contentSha256)) := by
  have hnone : files.reverse.find? (fun m => decide (m.filename = "manifest.json")) = none := by
    refine List.find?_eq_none.mpr fun m hm hname => ?_
    have hmem : m.filename ∈ namelist files := List.mem_map_of_mem (List.mem_reverse.mp hm)
    exact (hfiles.names m.filename hmem).2 (of_decide_eq_true hname)
  unfold read getinfo package
  rw [List.reverse_cons, List.find?_append, hnone]
  rfl

/-- The hash of a package whose other covered members can be read. -/
theorem contentHash_package {names : List String} {blocks : List (String × Bytes)}
    (hcovered : coveredNames (package contentSha256 files) = "manifest.json" :: names)
    (hread : ∀ name ∈ names, name ≠ manifestJson ∧
      read (package contentSha256 files) name = .ok (contentsOf (package contentSha256 files) name))
    (hblocks : (names.map fun name => (name, contentsOf (package contentSha256 files) name)) = blocks) :
    contentHash (validator contentSha256).lib (package contentSha256 files) = .ok (hashOf blocks) := by
  have hmanifest := read_manifest contentSha256 hfiles
  have hcontents : contentsOf (package contentSha256 files) "manifest.json" = manifestText (raw contentSha256) := by
    unfold contentsOf
    rw [hmanifest]
  have hform : hashedForm (validator contentSha256).lib "manifest.json" (manifestText (raw contentSha256))
      = .ok (canonicalManifestBytes (demoFields "1" "acme")) := by
    unfold hashedForm canonicalForm
    rw [if_pos (show "manifest.json" = manifestJson from rfl), loads_manifest]
    exact congrArg Except.ok (canonical_raw contentSha256)
  have hformOf : formOf (validator contentSha256).lib (package contentSha256 files) "manifest.json"
      = canonicalManifestBytes (demoFields "1" "acme") := by
    unfold formOf
    rw [hcontents, hform]
  have hall : ∀ name ∈ coveredNames (package contentSha256 files),
      Hashable (validator contentSha256).lib (package contentSha256 files) name := by
    intro name hname
    rw [hcovered] at hname
    rcases List.mem_cons.mp hname with rfl | hname
    · refine ⟨hmanifest.trans (congrArg Except.ok hcontents.symm), ?_⟩
      rw [hformOf, hcontents, hform]
    · obtain ⟨hne, hread⟩ := hread name hname
      refine ⟨hread, ?_⟩
      rw [formOf_of_ne _ hne, hashedForm, if_neg hne]
  have hforms : (names.map fun name => (name, formOf (validator contentSha256).lib (package contentSha256 files) name))
      = blocks := by
    rw [← hblocks]
    exact List.map_congr_left fun name hname => by rw [formOf_of_ne _ (hread name hname).1]
  rw [contentHash_of_hashable _ hall]
  unfold hashedBytes hashOf
  rw [hcovered, List.map_cons, hformOf, hforms]
  rfl

theorem fileNames_package : fileNames (package contentSha256 files) = "manifest.json" :: namelist files := by
  have hlist : namelist (package contentSha256 files) = "manifest.json" :: namelist files := rfl
  unfold fileNames
  rw [hlist]
  refine List.filter_eq_self.mpr fun name hname => ?_
  rcases List.mem_cons.mp hname with rfl | hname
  · decide +kernel
  · have hunmarked := (hfiles.names name hname).1
    unfold unmarked at hunmarked
    rw [Bool.and_eq_true, Bool.and_eq_true, Bool.and_eq_true] at hunmarked
    exact hunmarked.1.1.1

variable {contentSha256} {tree : Tree}
  (hhash : contentHash (validator contentSha256).lib (package contentSha256 files) = .ok contentSha256)
  (htree : extracted (package contentSha256 files) = .ok tree) (hunsigned : existsIn tree signaturePath = false)

include hhash htree hunsigned

/-- A package whose hash is the one that its manifest states, and that has no signature, is accepted. -/
theorem accepted : Accepted (validator contentSha256) demoDisk (package contentSha256 files) (raw contentSha256)
      (parsed contentSha256) .unsigned tree where
  limits := limits_package contentSha256 hfiles
  listed := List.mem_cons_self
  readable := ⟨_, read_manifest contentSha256 hfiles, loads_manifest contentSha256⟩
  parsed := (parseManifestDict_ok _ (parse_raw contentSha256)).2
  unprotected := by
    show isProtectedModuleId "demo.meter" = false
    decide +kernel
  hashes := by
    unfold verifyContentHashes
    rw [hhash]
    exact if_neg (not_not.mpr rfl)
  staged := by
    rw [filesThere_demoDisk]
    exact htree
  signature := by
    unfold verifySignature
    rw [if_pos hunsigned]
    rfl

/-- Such a package is validated. -/
theorem validates :
    ∃ result w', validateArchive (validator contentSha256) demoDisk (some (packageFile contentSha256 files)) [] false {}
      = .ok result w' ∧ result.valid = true := by
  have haccepted := accepted hfiles hhash htree hunsigned
  have hstatic : staticErrors (validator contentSha256) (package contentSha256 files) (raw contentSha256)
      (parsed contentSha256) [] = .ok [] := by
    unfold staticErrors
    rw [haccepted.hashes]
    rfl
  obtain ⟨result, w', hrun, hresult⟩ :=
    (returns_validateArchive (validator contentSha256) false quiet_demoDisk (show 1200 ≤ 1000000 by decide)
      (show (packageFile contentSha256 files).members = some (package contentSha256 files) from rfl) haccepted
      (parse_raw contentSha256) List.not_mem_nil hstatic).run {}
  refine ⟨result, w', hrun, ?_⟩
  rw [hresult]
  rfl

end

/-! ### Files outside the hash -/

/-- A compiled file, which the hash leaves out. -/
def compiled (b : ℕ) : Archive := [member "x.pyc" (by decide +kernel) [b]]

def compiledTree (b : ℕ) : Tree :=
  [(manifestPath, manifestText (raw (hashOf []))), (["x.pyc"], [b])]

theorem smallFiles_compiled (b : ℕ) : SmallFiles (compiled b) where
  names := by
    show ∀ name ∈ ["x.pyc"], unmarked name = true ∧ name ≠ "manifest.json"
    decide +kernel
  sizes := by
    intro m hm
    rw [List.mem_singleton.mp hm]
    exact ⟨rfl, rfl⟩
  few := Nat.le_of_ble_eq_true rfl

theorem coveredNames_compiled (b : ℕ) : coveredNames (package (hashOf []) (compiled b)) = ["manifest.json"] := by
  unfold coveredNames
  rw [show namelist (package (hashOf []) (compiled b)) = ["manifest.json", "x.pyc"] from rfl]
  decide +kernel

theorem contentHash_compiled (b : ℕ) :
    contentHash (validator (hashOf [])).lib (package (hashOf []) (compiled b)) = .ok (hashOf []) :=
  contentHash_package (hashOf []) (smallFiles_compiled b) (coveredNames_compiled b)
    (fun _ hname => absurd hname List.not_mem_nil) List.map_nil

theorem extracted_compiled (b : ℕ) : extracted (package (hashOf []) (compiled b)) = .ok (compiledTree b) := by
  have hmanifest := read_manifest (hashOf []) (smallFiles_compiled b)
  have hread : read (package (hashOf []) (compiled b)) "x.pyc" = .ok [b] := rfl
  have hparts : parts "manifest.json" = ["manifest.json"] ∧ parts "x.pyc" = ["x.pyc"] := by decide +kernel
  unfold extracted extractedOver
  rw [fileNames_package (hashOf []) (smallFiles_compiled b)]
  show putMembers (package (hashOf []) (compiled b)) ["manifest.json", "x.pyc"] [] = _
  simp only [putMembers, putMember, readOrRaise, hmanifest, hread, hparts.1, hparts.2]
  rfl

/-- One file that holds what the name and the contents of the second of two files are. -/
def oneFile : Archive := [member "x" (by decide +kernel) [121, 0, 7]]

def twoFiles : Archive := [member "x" (by decide +kernel) [], member "y" (by decide +kernel) [7]]

/-- The hash of the package with one file. -/
def framedHash : String := hashOf [("x", [121, 0, 7])]

def oneTree : Tree := [(manifestPath, manifestText (raw framedHash)), (["x"], [121, 0, 7])]

def twoTree : Tree := [(manifestPath, manifestText (raw framedHash)), (["x"], []), (["y"], [7])]

/-- The bytes of the two files are those of the one. -/
theorem hashOf_twoFiles : hashOf [("x", []), ("y", [7])] = framedHash := by
  unfold framedHash hashOf contentStream
  rw [List.map_cons, List.map_cons, stream_cons, stream_cons]
  congr 2

theorem smallFiles_oneFile : SmallFiles oneFile where
  names := by
    show ∀ name ∈ ["x"], unmarked name = true ∧ name ≠ "manifest.json"
    decide +kernel
  sizes := by
    intro m hm
    rw [List.mem_singleton.mp hm]
    exact ⟨rfl, rfl⟩
  few := Nat.le_of_ble_eq_true rfl

theorem smallFiles_twoFiles : SmallFiles twoFiles where
  names := by
    show ∀ name ∈ ["x", "y"], unmarked name = true ∧ name ≠ "manifest.json"
    decide +kernel
  sizes := by
    intro m hm
    rcases List.mem_cons.mp hm with rfl | hm
    · exact ⟨rfl, rfl⟩
    · rw [List.mem_singleton.mp hm]
      exact ⟨rfl, rfl⟩
  few := Nat.le_of_ble_eq_true rfl

theorem contentHash_oneFile :
    contentHash (validator framedHash).lib (package framedHash oneFile) = .ok framedHash := by
  have hcovered : coveredNames (package framedHash oneFile) = ["manifest.json", "x"] := by
    unfold coveredNames
    rw [show namelist (package framedHash oneFile) = ["manifest.json", "x"] from rfl]
    decide +kernel
  refine contentHash_package framedHash smallFiles_oneFile hcovered (fun name hname => ?_) rfl
  rw [List.mem_singleton.mp hname]
  exact ⟨by decide, rfl⟩

theorem contentHash_twoFiles :
    contentHash (validator framedHash).lib (package framedHash twoFiles) = .ok framedHash := by
  have hcovered : coveredNames (package framedHash twoFiles) = ["manifest.json", "x", "y"] := by
    unfold coveredNames
    rw [show namelist (package framedHash twoFiles) = ["manifest.json", "x", "y"] from rfl]
    decide +kernel
  refine (contentHash_package framedHash smallFiles_twoFiles hcovered (fun name hname => ?_) rfl).trans
    (congrArg Except.ok hashOf_twoFiles)
  rcases List.mem_cons.mp hname with rfl | hname
  · exact ⟨by decide, rfl⟩
  · rw [List.mem_singleton.mp hname]
    exact ⟨by decide, rfl⟩

theorem parts_demo : parts "manifest.json" = ["manifest.json"] ∧ parts "x" = ["x"] ∧ parts "y" = ["y"] := by
  decide +kernel

theorem extracted_oneFile : extracted (package framedHash oneFile) = .ok oneTree := by
  have hmanifest := read_manifest framedHash smallFiles_oneFile
  have hread : read (package framedHash oneFile) "x" = .ok [121, 0, 7] := rfl
  unfold extracted extractedOver
  rw [fileNames_package framedHash smallFiles_oneFile]
  show putMembers (package framedHash oneFile) ["manifest.json", "x"] [] = _
  simp only [putMembers, putMember, readOrRaise, hmanifest, hread, parts_demo.1, parts_demo.2.1]
  rfl

theorem extracted_twoFiles : extracted (package framedHash twoFiles) = .ok twoTree := by
  have hmanifest := read_manifest framedHash smallFiles_twoFiles
  have hread : read (package framedHash twoFiles) "x" = .ok [] ∧ read (package framedHash twoFiles) "y" = .ok [7] :=
    ⟨rfl, rfl⟩
  unfold extracted extractedOver
  rw [fileNames_package framedHash smallFiles_twoFiles]
  show putMembers (package framedHash twoFiles) ["manifest.json", "x", "y"] [] = _
  simp only [putMembers, putMember, readOrRaise, hmanifest, hread.1, hread.2, parts_demo.1, parts_demo.2.1,
    parts_demo.2.2]
  rfl

/-- Two packages that are accepted and have one hash, and their files. -/
structure OneHash (h : String) (files files' : Archive) (tree tree' : Tree) : Prop where
  valid : ∃ result w', validateArchive (validator h) demoDisk (some (packageFile h files)) [] false {}
    = .ok result w' ∧ result.valid = true
  valid' : ∃ result w', validateArchive (validator h) demoDisk (some (packageFile h files')) [] false {}
    = .ok result w' ∧ result.valid = true
  hash : contentHash (validator h).lib (package h files) = .ok h
  hash' : contentHash (validator h).lib (package h files') = .ok h
  tree : extracted (package h files) = .ok tree
  tree' : extracted (package h files') = .ok tree'

theorem oneHash_compiled (b b' : ℕ) :
    OneHash (hashOf []) (compiled b) (compiled b') (compiledTree b) (compiledTree b') where
  valid := validates (smallFiles_compiled b) (contentHash_compiled b) (extracted_compiled b) rfl
  valid' := validates (smallFiles_compiled b') (contentHash_compiled b') (extracted_compiled b') rfl
  hash := contentHash_compiled b
  hash' := contentHash_compiled b'
  tree := extracted_compiled b
  tree' := extracted_compiled b'

theorem oneHash_framed : OneHash framedHash oneFile twoFiles oneTree twoTree where
  valid := validates smallFiles_oneFile contentHash_oneFile extracted_oneFile rfl
  valid' := validates smallFiles_twoFiles contentHash_twoFiles extracted_twoFiles rfl
  hash := contentHash_oneFile
  hash' := contentHash_twoFiles
  tree := extracted_oneFile
  tree' := extracted_twoFiles

/-- **Files outside the hash.** Accepted packages with one hash that differ in a compiled file, and two others of which
one has a file that is part of the contents of a file of the other. -/
theorem files_outside_the_hash : Function.Injective strokes ∧
    (OneHash (hashOf []) (compiled 1) (compiled 2) (compiledTree 1) (compiledTree 2) ∧
      Fields.get (compiledTree 1) ["x.pyc"] ≠ Fields.get (compiledTree 2) ["x.pyc"]) ∧
    (OneHash framedHash oneFile twoFiles oneTree twoTree ∧ Fields.get oneTree ["y"] ≠ Fields.get twoTree ["y"]) := by
  refine ⟨strokes_injective, ⟨oneHash_compiled 1 2, ?_⟩, oneHash_framed, ?_⟩
  · intro h
    have hbytes : some [1] = some [2] := h
    exact absurd hbytes (by decide)
  · intro h
    have hbytes : none = some [7] := h
    cases hbytes

/-- The packages with a compiled file: what else they hold is the same. -/
theorem extracted_agree_compiled : ∃ tree tree', extracted (package (hashOf []) (compiled 1)) = .ok tree ∧
      extracted (package (hashOf []) (compiled 2)) = .ok tree' ∧
        SameCoveredFiles (validator (hashOf [])).lib (package (hashOf []) (compiled 1)) (package (hashOf []) (compiled 2))
          tree tree' := by
  obtain ⟨⟨result, w, hrun, hvalid⟩, ⟨result', w', hrun', hvalid'⟩, hhash, hhash', -, -⟩ := oneHash_compiled 1 2
  have hapart : ∀ b, PathsApart (package (hashOf []) (compiled b)) := by
    intro b
    unfold PathsApart
    rw [fileNames_package (hashOf []) (smallFiles_compiled b)]
    show ∀ name ∈ ["manifest.json", "x.pyc"], ∀ name' ∈ ["manifest.json", "x.pyc"], parts name = parts name' → name = name'
    decide +kernel
  have halike : FramedAlike (package (hashOf []) (compiled 1)) (package (hashOf []) (compiled 2)) := by
    constructor
    · rw [coveredNames_compiled, coveredNames_compiled]
    · intro name hname hne
      rw [coveredNames_compiled] at hname
      exact absurd (List.mem_singleton.mp hname) hne
  exact extracted_agree (validator (hashOf [])) strokes_injective hrun hrun' hvalid hvalid' rfl rfl hhash hhash' halike
    (hapart 1) (hapart 2)

end UnsignedDemo

end EnergyCore.PackageArchives
