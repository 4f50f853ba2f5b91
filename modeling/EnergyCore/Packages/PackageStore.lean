import EnergyCore.Foundations.FallibleSteps
import EnergyCore.Packages.PackageTypes

/-!
# The registry and the package directories

What the package lifecycle reads and writes: the rows of the registry through one database session, and the
directories under the modules path. Every operation can fail at the step it is given a fault for, and leaves
behind what the fault says.

* `stagingDir_ne_installedDir` and its companions — the three kinds of directories are apart;
* `ends_copytree` and its companions — where each operation ends, with and without a fault.
-/

namespace EnergyCore.Packages

open FallibleSteps

/-! ### Paths -/

def stagingDir (root : Path) (moduleId version : String) : Path :=
  root ++ [".staging", moduleId, version]

def installedDir (root : Path) (moduleId version : String) : Path :=
  root ++ ["installed", moduleId, version]

def backupDir (root : Path) (moduleId version : String) : Path :=
  root ++ ["backups", moduleId, version]

section Apart

variable (root : Path) (moduleId moduleId' version version' : String)

theorem stagingDir_ne_installedDir : stagingDir root moduleId version ≠ installedDir root moduleId' version' := by
  intro h
  have h := List.append_cancel_left h
  simp at h

theorem backupDir_ne_installedDir : backupDir root moduleId version ≠ installedDir root moduleId' version' := by
  intro h
  have h := List.append_cancel_left h
  simp at h

theorem backupDir_ne_stagingDir : backupDir root moduleId version ≠ stagingDir root moduleId' version' := by
  intro h
  have h := List.append_cancel_left h
  simp at h

end Apart

/-! ### Sessions -/

abbrev Registry := String → Option InstalledPackageRecord

abbrev Directories := Path → Option PackageTree

/-- A call at work: the committed rows, the rows as its session reads them, the directories, and whether `update`
has promoted the staged files. -/
structure Session where
  committed : Registry
  rows : Registry
  files : Directories
  promoted : Bool := false

/-- The steps that can fail, in the order they are met. -/
inductive Step where
  | readCurrent
  | probe
  | dropBackup
  | copyBackup
  | extract
  | readManifest
  | dropInstalled
  | move
  | checksum
  | upsert
  | commit
  | sessionRollback
  | dropStaging
  | readBack
  | dropTarget
  | copyBack
  | restoreUpsert
  | restoreCommit
  | quarantineUpsert
  | quarantineCommit
  | dropPackage
  | release
  deriving Repr, DecidableEq

/-- How a step fails: what it raises, what is left in the directory it was changing, and whether the session still
reads the row it was writing. -/
structure Fault where
  crash : Crash
  left : Option PackageTree := none
  seen : Bool := false
  deriving Repr

abbrev Faults := Step → Option Fault

abbrev Op := EStateM Raised Session

def raise {α : Type} (c : Crash) : Op α := throw (.crash c)

/-! ### Directories -/

def pathExists (p : Path) : Op Bool := do return ((← get).files p).isSome

def setDir (p : Path) (tree : Option PackageTree) : Op Unit :=
  modify fun s => { s with files := Function.update s.files p tree }

def rmtree (p : Path) : Option Fault → Op Unit
  | none => setDir p none
  | some fault => do
    setDir p fault.left
    raise fault.crash

/-- `if p.exists(): shutil.rmtree(p)`. -/
def rmtreeIfExists (p : Path) (fault : Option Fault) : Op Unit := do
  let found ← pathExists p
  runIf (found = true) (rmtree p fault)

/-- `shutil.rmtree(p, ignore_errors=True)`. -/
def rmtreeIgnoringErrors (p : Path) (fault : Option Fault) : Op Unit :=
  setDir p (fault.bind Fault.left)

def copytree (src dst : Path) (fault : Option Fault) : Op Unit := do
  match (← get).files src with
  | none => raise .exception
  | some tree =>
    if ← pathExists dst then raise .exception
    else match fault with
      | none => setDir dst (some tree)
      | some fault =>
        setDir dst fault.left
        raise fault.crash

/-- `shutil.move`, to a place where nothing is. -/
def move (src dst : Path) (fault : Option Fault) : Op Unit := do
  match (← get).files src with
  | none => raise .exception
  | some tree =>
    match fault with
    | none =>
      setDir dst (some tree)
      setDir src none
    | some fault =>
      setDir dst fault.left
      raise fault.crash

/-- A member whose name leads out of the target: the text of the error, and what was extracted before. -/
structure Traversal where
  message : String
  extracted : Option PackageTree
  deriving Repr

def extract (archive : PackageTree) (traversal : Option Traversal) (target : Path) (fault : Option Fault) : Op Unit :=
  match fault with
  | some fault => do
    setDir target fault.left
    raise fault.crash
  | none =>
    match traversal with
    | some traversal => do
      setDir target traversal.extracted
      throw (.packageError traversal.message pathTraversal)
    | none => setDir target (some archive)

/-! ### The registry -/

def repoGet (moduleId : String) : Option Fault → Op (Option InstalledPackageRecord)
  | none => do return (← get).rows moduleId
  | some fault => raise fault.crash

def setRow (moduleId : String) (record : Option InstalledPackageRecord) : Op Unit :=
  modify fun s => { s with rows := Function.update s.rows moduleId record }

def upsert (record : InstalledPackageRecord) : Option Fault → Op Unit
  | none => setRow record.moduleId (some record)
  | some fault => do
    runIf (fault.seen = true) (setRow record.moduleId (some record))
    raise fault.crash

/-- `InstalledPackageRepository.delete` of a row that is there. -/
def delete (moduleId : String) : Option Fault → Op Unit
  | none => setRow moduleId none
  | some fault => do
    runIf (fault.seen = true) (setRow moduleId none)
    raise fault.crash

def sessionRollback : Option Fault → Op Unit
  | none => modify fun s => { s with rows := s.committed }
  | some fault => raise fault.crash

/-- What a commit that fails has written is not stored; the session may still read it. -/
def commit : Option Fault → Op Unit
  | none => modify fun s => { s with committed := s.rows }
  | some fault => do
    runIf (fault.seen = false) (modify fun s => { s with rows := s.committed })
    raise fault.crash

/-! ### What each step does -/

/-- A step that a fault strikes raises; otherwise it does its work. -/
def Struck (fault : Option Fault) (e : Raised) (after : Fault → Session) (s : Session) : Prop :=
  ∃ f, fault = some f ∧ e = .crash f.crash ∧ s = after f

theorem ends_pathExists (p : Path) (s : Session) {E : Raised → Session → Prop} :
    Ends (pathExists p) s (fun found s' => found = (s.files p).isSome ∧ s' = s) E := ⟨rfl, rfl⟩

theorem ends_rmtreeIfExists (p : Path) (fault : Option Fault) (s : Session) :
    Ends (rmtreeIfExists p fault) s
      (fun _ s' => (if (s.files p).isSome then fault else none) = none ∧
        s' = { s with files := Function.update s.files p none })
      (fun e s' => Struck (if (s.files p).isSome then fault else none) e
        (fun f => { s with files := Function.update s.files p f.left }) s') := by
  refine ends_bind (ends_pathExists p s) ?_
  rintro found s' ⟨rfl, rfl⟩
  refine ends_runIf (fun hfound => ?_) fun hfound => ?_
  · rw [if_pos hfound]
    cases fault with
    | none => exact ⟨rfl, rfl⟩
    | some f => exact ⟨f, rfl, rfl, rfl⟩
  · rw [if_neg hfound]
    refine ⟨rfl, ?_⟩
    have hnone : s'.files p = none := by simpa using hfound
    rw [← hnone, Function.update_eq_self]

theorem ends_copytree {src dst : Path} {s : Session} {tree : PackageTree} (hsrc : s.files src = some tree)
    (hdst : s.files dst = none) (fault : Option Fault) :
    Ends (copytree src dst fault) s
      (fun _ s' => fault = none ∧ s' = { s with files := Function.update s.files dst (some tree) })
      (fun e s' => Struck fault e (fun f => { s with files := Function.update s.files dst f.left }) s') := by
  refine ends_bind (ends_get (Q := fun a s' => a = s ∧ s' = s) ⟨rfl, rfl⟩) ?_
  rintro a s' ⟨rfl, rfl⟩
  rw [hsrc]
  refine ends_bind (ends_pathExists dst s') ?_
  rintro found s'' ⟨rfl, rfl⟩
  rw [hdst]
  refine ends_ite (fun hfound => absurd hfound (by simp)) fun _ => ?_
  cases fault with
  | none => exact ⟨rfl, rfl⟩
  | some f => exact ⟨f, rfl, rfl, rfl⟩

/-- Nothing is copied from a place where nothing is. -/
theorem ends_copytree_missing {src dst : Path} {s : Session} (hsrc : s.files src = none) (fault : Option Fault) :
    Ends (copytree src dst fault) s (fun _ _ => False) fun e s' => e = .crash .exception ∧ s' = s := by
  refine ends_bind (ends_get (Q := fun a s' => a = s ∧ s' = s) ⟨rfl, rfl⟩) ?_
  rintro a s' ⟨rfl, rfl⟩
  rw [hsrc]
  exact ends_throw ⟨rfl, rfl⟩

theorem ends_move {src dst : Path} {s : Session} {tree : PackageTree} (hsrc : s.files src = some tree)
    (fault : Option Fault) :
    Ends (move src dst fault) s
      (fun _ s' => fault = none ∧
        s' = { s with files := Function.update (Function.update s.files dst (some tree)) src none })
      (fun e s' => Struck fault e (fun f => { s with files := Function.update s.files dst f.left }) s') := by
  refine ends_bind (ends_get (Q := fun a s' => a = s ∧ s' = s) ⟨rfl, rfl⟩) ?_
  rintro a s' ⟨rfl, rfl⟩
  rw [hsrc]
  cases fault with
  | none => exact ⟨rfl, rfl⟩
  | some f => exact ⟨f, rfl, rfl, rfl⟩

theorem ends_extract (archive : PackageTree) (traversal : Option Traversal) (target : Path)
    (fault : Option Fault) (s : Session) :
    Ends (extract archive traversal target fault) s
      (fun _ s' => fault = none ∧ traversal = none ∧
        s' = { s with files := Function.update s.files target (some archive) })
      (fun e s' =>
        Struck fault e (fun f => { s with files := Function.update s.files target f.left }) s' ∨
        fault = none ∧ ∃ t, traversal = some t ∧ e = .packageError t.message pathTraversal ∧
          s' = { s with files := Function.update s.files target t.extracted }) := by
  cases fault with
  | some f => exact .inl ⟨f, rfl, rfl, rfl⟩
  | none =>
    cases traversal with
    | some t => exact .inr ⟨rfl, t, rfl, rfl, rfl⟩
    | none => exact ⟨rfl, rfl, rfl⟩

theorem ends_upsert (record : InstalledPackageRecord) (fault : Option Fault) (s : Session) :
    Ends (upsert record fault) s
      (fun _ s' => fault = none ∧
        s' = { s with rows := Function.update s.rows record.moduleId (some record) })
      (fun e s' => Struck fault e (fun f => { s with
        rows := if f.seen then Function.update s.rows record.moduleId (some record) else s.rows }) s') := by
  cases fault with
  | none => exact ⟨rfl, rfl⟩
  | some f =>
    refine ends_bind (ends_runIf (Q := fun _ s' => s' = { s with
      rows := if f.seen then Function.update s.rows record.moduleId (some record) else s.rows })
      (fun hseen => ?_) fun hseen => ?_) fun _ s' h => ends_throw ⟨f, rfl, rfl, h⟩
    · rw [if_pos hseen]
      exact ends_modify rfl
    · rw [if_neg hseen]

theorem ends_commit (fault : Option Fault) (s : Session) :
    Ends (commit fault) s
      (fun _ s' => fault = none ∧ s' = { s with committed := s.rows })
      (fun e s' => Struck fault e
        (fun f => { s with rows := if f.seen then s.rows else s.committed }) s') := by
  cases fault with
  | none => exact ⟨rfl, rfl⟩
  | some f =>
    refine ends_bind (ends_runIf (Q := fun _ s' => s' = { s with
      rows := if f.seen then s.rows else s.committed }) (fun hseen => ?_) fun hseen => ?_)
      fun _ s' h => ends_throw ⟨f, rfl, rfl, h⟩
    · rw [if_neg (by simp [hseen])]
      exact ends_modify rfl
    · rw [if_pos (by simpa using hseen)]

theorem ends_repoGet (moduleId : String) (fault : Option Fault) (s : Session) : Ends (repoGet moduleId fault) s
      (fun found s' => fault = none ∧ found = s.rows moduleId ∧ s' = s)
      (fun e s' => Struck fault e (fun _ => s) s') := by
  cases fault with
  | none => exact ⟨rfl, rfl, rfl⟩
  | some f => exact ⟨f, rfl, rfl, rfl⟩

end EnergyCore.Packages
