import EnergyCore.Foundations.KeyedChanges
import EnergyCore.Foundations.PosixPaths
import EnergyCore.Packages.PackageTypes

/-!
# Archives and what they extract to

The members of a package archive as the zip library gives them, the limits that are checked before anything is read,
and the files that the extraction makes of the members in a directory.

* `safeName_of_inspect` — an archive within its limits has no name that leads out of the target;
* `safeJoin_of_safeName` — such a name is joined below the target;
* `putMembers_eq_applyAll` — the extracted files are those of the members, the last one of a path deciding.
-/

namespace EnergyCore.PackageArchives

open KeywordFields KeyedChanges PosixPaths
open Packages (Path Raised Crash startsWith endsWith contains pathTraversal)

abbrev Bytes := List ℕ

def packageTooLarge : String := "PACKAGE_TOO_LARGE"

/-! ### Members -/

/-- Why a member cannot be read. -/
inductive ReadFailure where
  | badZipFile
  | other
  deriving Repr, DecidableEq

def nul : Char := Char.ofNat 0

/-- A member; its name ends before the first zero byte. -/
structure ZipMember where
  filename : String
  contents : Except ReadFailure Bytes
  fileSize : ℕ
  compressSize : ℕ
  noNul : nul ∉ filename.toList

abbrev Archive := List ZipMember

def namelist (archive : Archive) : List String := archive.map ZipMember.filename

/-- Of several members with one name, the last one is found. -/
def getinfo (archive : Archive) (name : String) : Option ZipMember :=
  archive.reverse.find? fun m => decide (m.filename = name)

def read (archive : Archive) (name : String) : Except ReadFailure Bytes :=
  match getinfo archive name with
  | none => .error .other
  | some m => m.contents

def isDir (name : String) : Bool := endsWith name "/"

def fileNames (archive : Archive) : List String := (namelist archive).filter fun name => !isDir name

/-! ### Limits -/

def maxEntries : ℕ := 10000
def maxUncompressedBytes : ℕ := 200000000
def maxCompressionRatio : ℕ := 200

/-- The checks of the members one after another, with the total of the sizes so far. -/
def inspectMembers : List ZipMember → ℕ → Except Raised ℕ
  | [], total => .ok total
  | info :: infos, total =>
    if isDir info.filename then inspectMembers infos total
    else if info.fileSize > 0 ∧ info.compressSize > 0 ∧
        info.fileSize > maxCompressionRatio * info.compressSize then
      .error (.packageError "archive compression ratio too high" packageTooLarge)
    else if contains info.filename ".." ∨ startsWith info.filename "/" ∨ startsWith info.filename "\\" then
      .error (.packageError "unsafe archive path" pathTraversal)
    else inspectMembers infos (total + info.fileSize)

def inspectArchiveLimits (archive : Archive) : Except Raised Unit :=
  if archive.length > maxEntries then .error (.packageError "too many archive entries" packageTooLarge)
  else match inspectMembers archive 0 with
    | .error e => .error e
    | .ok total =>
      if total > maxUncompressedBytes then
        .error (.packageError "archive uncompressed size too large" packageTooLarge)
      else .ok ()

/-- A name that stays below the directory it is joined to. -/
def SafeName (name : String) : Prop := isAbsolute name = false ∧ ".." ∉ parts name

theorem safeName_of_unmarked {name : String} (hdots : contains name ".." = false)
    (hslash : startsWith name "/" = false) : SafeName name := by
  refine ⟨?_, fun hmem => ?_⟩
  · refine decide_eq_false fun hhead => ?_
    cases hname : name.toList with
    | nil =>
      rw [hname] at hhead
      cases hhead
    | cons c cs =>
      rw [hname, List.head?_cons, Option.some.injEq] at hhead
      have hstart : startsWith name "/" = true := by
        unfold startsWith
        rw [hname, hhead]
        rfl
      rw [hstart] at hslash
      cases hslash
  · have hpiece := (mem_parts hmem).2
    rw [contains, decide_eq_false_iff_not] at hdots
    exact hdots hpiece

theorem safeName_of_inspectMembers {members : List ZipMember} {total total' : ℕ}
    (h : inspectMembers members total = .ok total') :
    ∀ m ∈ members, isDir m.filename = false → SafeName m.filename := by
  induction members generalizing total with
  | nil => exact fun m hm => absurd hm List.not_mem_nil
  | cons info infos ih =>
    unfold inspectMembers at h
    intro m hm hfile
    split_ifs at h with hdir hratio hpath
    · rcases List.mem_cons.mp hm with rfl | hm
      · rw [hdir] at hfile
        cases hfile
      · exact ih h m hm hfile
    · rcases List.mem_cons.mp hm with rfl | hm
      · rw [not_or, not_or] at hpath
        exact safeName_of_unmarked (by simpa using hpath.1) (by simpa using hpath.2.1)
      · exact ih h m hm hfile

/-- **The limits keep names below the target.** -/
theorem safeName_of_inspect {archive : Archive} (h : inspectArchiveLimits archive = .ok ()) :
    ∀ name ∈ fileNames archive, SafeName name := by
  intro name hname
  obtain ⟨hlisted, hfile⟩ := List.mem_filter.mp hname
  obtain ⟨m, hm, rfl⟩ := List.mem_map.mp hlisted
  unfold inspectArchiveLimits at h
  split_ifs at h
  cases hmembers : inspectMembers archive 0 with
  | error e =>
    rw [hmembers] at h
    cases h
  | ok total => exact safeName_of_inspectMembers hmembers m hm (by simpa using hfile)

/-! ### Joining -/

/-- `safe_join`; `none` stands for the error. -/
@[irreducible] def safeJoin (base : Path) (member : String) : Option Path :=
  let target := resolve (join base member)
  if startsWith (absoluteText target) (absoluteText (resolve base)) then some target else none

theorem safeJoin_of_safeName (base : Path) {name : String} (h : SafeName name) :
    safeJoin base name = some (resolve base ++ parts name) := by
  have htarget : resolve (join base name) = resolve base ++ parts name := by
    rw [join, if_neg (by rw [h.1]; simp), resolve_append base h.2]
  unfold safeJoin
  rw [htarget]
  exact if_pos (List.isPrefixOf_iff_prefix.mpr (prefix_absoluteText _ _))

/-- The part of a path below a directory. -/
def below (base target : Path) : Option Path :=
  if base.isPrefixOf target then some (target.drop base.length) else none

theorem below_append (base p : Path) : below base (base ++ p) = some p := by
  rw [below, if_pos (List.isPrefixOf_iff_prefix.mpr (List.prefix_append base p)), List.drop_left]

/-! ### Files -/

/-- The files below a directory. -/
abbrev Tree := Fields Path Bytes

/-- `p.exists()`, of a file or of a directory that holds one. -/
def existsIn (tree : Tree) (p : Path) : Bool := tree.any fun file => p.isPrefixOf file.1

/-- A file can be written where no directory is, and where no file is in the way of its directories. -/
def Placeable (tree : Tree) (p : Path) : Prop :=
  p ≠ [] ∧ ∀ q ∈ Fields.keys tree, q <+: p ∨ p <+: q → q = p

instance (tree : Tree) (p : Path) : Decidable (Placeable tree p) :=
  inferInstanceAs (Decidable (_ ∧ _))

def writeFile (tree : Tree) (p : Path) (data : Bytes) : Except Raised Tree :=
  if Placeable tree p then .ok (Fields.assign tree p data) else .error (.crash .exception)

def readOrRaise (archive : Archive) (name : String) : Except Raised Bytes :=
  match read archive name with
  | .ok data => .ok data
  | .error _ => .error (.crash .exception)

/-- One member is written over the files so far. -/
def putMember (archive : Archive) (tree : Tree) (name : String) : Except Raised Tree :=
  match readOrRaise archive name with
  | .error e => .error e
  | .ok data => writeFile tree (parts name) data

def putMembers (archive : Archive) : List String → Tree → Except Raised Tree
  | [], tree => .ok tree
  | name :: names, tree =>
    match putMember archive tree name with
    | .error e => .error e
    | .ok tree' => putMembers archive names tree'

/-- The files after the extraction over files that are there. -/
def extractedOver (there : Tree) (archive : Archive) : Except Raised Tree :=
  putMembers archive (fileNames archive) there

/-- The files that the extraction makes in a directory of its own. -/
def extracted (archive : Archive) : Except Raised Tree := extractedOver [] archive

/-! ### What is extracted -/

/-- The bytes of a member, if it can be read. -/
def contentsOf (archive : Archive) (name : String) : Bytes :=
  match read archive name with
  | .ok data => data
  | .error _ => []

def changes (archive : Archive) (names : List String) : List (Change Path Bytes) :=
  names.map fun name => .put (parts name) (contentsOf archive name)

theorem putMember_ok {archive : Archive} {tree tree' : Tree} {name : String}
    (h : putMember archive tree name = .ok tree') :
    read archive name = .ok (contentsOf archive name) ∧ Placeable tree (parts name) ∧
      tree' = Fields.assign tree (parts name) (contentsOf archive name) := by
  unfold putMember readOrRaise at h
  unfold contentsOf
  cases hread : read archive name with
  | error e =>
    rw [hread] at h
    cases h
  | ok data =>
    rw [hread] at h
    replace h : writeFile tree (parts name) data = .ok tree' := h
    unfold writeFile at h
    split_ifs at h with hplace
    exact ⟨rfl, hplace, (Except.ok.inj h).symm⟩

/-- **What the extraction makes.** It applies the members in their order, and all of them were read. -/
theorem putMembers_eq_applyAll {archive : Archive} {names : List String} {tree tree' : Tree}
    (h : putMembers archive names tree = .ok tree') : tree' = applyAll tree (changes archive names) ∧
      ∀ name ∈ names, read archive name = .ok (contentsOf archive name) := by
  induction names generalizing tree with
  | nil => exact ⟨(Except.ok.inj h).symm, fun name hname => absurd hname List.not_mem_nil⟩
  | cons name names ih =>
    unfold putMembers at h
    cases hput : putMember archive tree name with
    | error e =>
      rw [hput] at h
      cases h
    | ok tree'' =>
      rw [hput] at h
      obtain ⟨hread, _, hassign⟩ := putMember_ok hput
      obtain ⟨htree, hrest⟩ := ih h
      refine ⟨?_, fun name' hname' => ?_⟩
      · rw [htree, hassign]
        rfl
      · rcases List.mem_cons.mp hname' with rfl | hname'
        · exact hread
        · exact hrest name' hname'

/-- Fewer files are in the way of fewer members. -/
theorem putMembers_mono {archive : Archive} {names : List String} {tree small tree' : Tree}
    (hsub : ∀ p ∈ Fields.keys small, p ∈ Fields.keys tree)
    (h : putMembers archive names tree = .ok tree') : ∃ small', putMembers archive names small = .ok small' := by
  induction names generalizing tree small with
  | nil => exact ⟨small, rfl⟩
  | cons name names ih =>
    unfold putMembers at h
    cases hput : putMember archive tree name with
    | error e =>
      rw [hput] at h
      cases h
    | ok tree'' =>
      rw [hput] at h
      obtain ⟨hread, hplace, hassign⟩ := putMember_ok hput
      have hsmall : putMember archive small name
          = .ok (Fields.assign small (parts name) (contentsOf archive name)) := by
        unfold putMember readOrRaise
        rw [hread]
        exact if_pos ⟨hplace.1, fun q hq => hplace.2 q (hsub q hq)⟩
      have hkeys : ∀ p ∈ Fields.keys (Fields.assign small (parts name) (contentsOf archive name)),
          p ∈ Fields.keys tree'' := by
        intro p hp
        rw [hassign, Fields.mem_keys_assign]
        exact (Fields.mem_keys_assign.mp hp).imp (hsub p) id
      obtain ⟨small', hsmall'⟩ := ih hkeys h
      refine ⟨small', ?_⟩
      unfold putMembers
      rw [hsmall]
      exact hsmall'

end EnergyCore.PackageArchives
