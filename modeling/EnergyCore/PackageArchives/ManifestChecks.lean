import EnergyCore.PackageArchives.ContentHash
import EnergyCore.Packages.PackageLifecycle

/-!
# Manifests

What is read of a package manifest, the module ids that are accepted, and the checks that need nothing but the manifest
and the settings.

* `plain_of_matchesModuleId` — an accepted module id is one plain part of a path.
-/

namespace EnergyCore.PackageArchives

open JsonValues PosixPaths
open Packages (Raised Crash ModuleManifest ModuleDependencySpec Versions startsWith contains)

/-! ### Module ids -/

def isLowercase (c : Char) : Bool := decide ('a' ≤ c ∧ c ≤ 'z')

def isAlphanumeric (c : Char) : Bool := isLowercase c || decide ('0' ≤ c ∧ c ≤ '9')

def isWordChar (c : Char) : Bool := isAlphanumeric c || decide (c = '_' ∨ c = '-')

/-- A letter, and characters of the kind that may follow it. -/
def matchesSegment (follow : Char → Bool) : List Char → Bool
  | [] => false
  | c :: cs => isLowercase c && cs.all follow

def matchesSegments : List (List Char) → Bool
  | [] => false
  | first :: rest =>
    matchesSegment isAlphanumeric first && !rest.isEmpty && rest.all (matchesSegment isWordChar)

def newline : Char := Char.ofNat 10

/-- `MODULE_ID_PATTERN.match`: the end of the pattern also stands before a final newline. -/
def matchesModuleId (moduleId : String) : Bool :=
  matchesSegments (moduleId.toList.splitOn '.') ||
    (decide (moduleId.toList.getLast? = some newline) && matchesSegments (moduleId.toList.dropLast.splitOn '.'))

def protectedModulePrefixes : List String := ["core.", "platform."]

def builtinModuleIds : List String :=
  ["integration.heartbeat", "integration.chargeamps", "integration.mercedes", "integration.arctic_spa",
    "integration.chargefinder", "integration.smhi", "integration.dmi", "integration.open_meteo",
    "feature.smart-charging", "feature.vehicles", "feature.spa-energy", "feature.energy-balance",
    "feature.solar-forecast", "feature.price-engine", "feature.energy-control"]

def isProtectedModuleId (moduleId : String) : Bool :=
  decide (moduleId ∈ builtinModuleIds) || protectedModulePrefixes.any (startsWith moduleId) ||
    !matchesModuleId moduleId

/-! ### Reading a manifest -/

def invalidManifest : String := "INVALID_MANIFEST"

structure Manifest extends ModuleManifest where
  moduleType : String
  archiveSha256 : String
  manifestSha256 : Option String
  deriving Repr, DecidableEq

def requiredFields : List String :=
  ["module_id", "name", "version", "module_type", "description", "publisher", "entrypoint", "module_api_version",
    "minimum_emic_version", "provided_capabilities", "required_capabilities", "optional_capabilities",
    "module_dependencies", "configuration_schema", "permissions", "supports_per_site_activation",
    "requires_restart_on_update", "integrity"]

/-- `key in raw`; `none` stands for an exception. -/
def containsKey (raw : Json) (key : String) : Option Bool :=
  match raw with
  | .obj members => some (findItem members key).isSome
  | .arr items => some (items.any fun item => same item (.str key))
  | .str text => some (contains text key)
  | _ => none

variable (lib : PyLib)

def orRaise {α : Type} : Option α → Except Raised α
  | none => .error (.crash .exception)
  | some a => .ok a

/-- `raw.get(key) or []`, as what iterating over it gives. -/
def listField (raw : Dict) (key : String) : Except Raised (List Json) :=
  orRaise (Json.orElse (getItem raw key) (.arr [])).iterate

def textsField (raw : Dict) (key : String) : Except Raised (List String) := do
  let items ← listField raw key
  return items.map lib.str

def optionalText (raw : Dict) (key : String) : Option String :=
  let value := getItem raw key
  if value.truthy then some (lib.str value) else none

def parseDependency (item : Json) : Except Raised ModuleDependencySpec :=
  let invalid : Raised := .packageError "invalid module_dependencies entry" invalidManifest
  match item with
  | .str moduleId => .ok { moduleId := moduleId }
  | .obj members =>
    match findItem members "module_id" with
    | none => .error invalid
    | some moduleId => .ok {
        moduleId := lib.str moduleId
        versionRange := lib.str (getItemOr members "version_range" (.str "*")) }
  | _ => .error invalid

/-- The fields of a manifest that are read only to be passed on must still be of a kind that can be read. -/
def readOtherFields (raw : Dict) : Except Raised Unit := do
  let _ ← orRaise (lib.dict (Json.orElse (getItem raw "configuration_schema") (.obj [])))
  let _ ← listField raw "device_categories"
  let _ ← listField raw "connection_types"
  let _ ← listField raw "features"
  let _ ← listField raw "network_hosts"
  return ()

def parseFields (raw : Dict) : Except Raised Manifest := do
  let integrity := getItem raw "integrity"
  let missing : Raised := .packageError "integrity.archive_sha256 is required" invalidManifest
  match integrity with
  | .obj integrityRaw =>
    match findItem integrityRaw "archive_sha256" with
    | none => .error missing
    | some archiveSha256 =>
      let items ← listField raw "module_dependencies"
      let dependencies ← items.mapM (parseDependency lib)
      let moduleApiVersion ← orRaise (lib.int (getItem raw "module_api_version"))
      let provided ← textsField lib raw "provided_capabilities"
      let required ← textsField lib raw "required_capabilities"
      let optional ← textsField lib raw "optional_capabilities"
      let permissions ← textsField lib raw "permissions"
      readOtherFields lib raw
      return {
        moduleId := lib.str (getItem raw "module_id")
        name := lib.str (getItem raw "name")
        version := lib.str (getItem raw "version")
        publisher := lib.str (getItem raw "publisher")
        entrypoint := lib.str (getItem raw "entrypoint")
        moduleApiVersion := moduleApiVersion
        minimumEmicVersion := lib.str (getItem raw "minimum_emic_version")
        providedCapabilities := provided
        requiredCapabilities := required
        optionalCapabilities := optional
        moduleDependencies := dependencies
        permissions := permissions
        maximumEmicVersion := optionalText lib raw "maximum_emic_version"
        moduleType := lib.str (getItem raw "module_type")
        archiveSha256 := lib.lower (lib.str archiveSha256)
        manifestSha256 := (optionalText lib integrityRaw "manifest_sha256").map lib.lower }
  | _ => .error missing

def missingFields (raw : Json) : Option (List String) :=
  requiredFields.filterMapM fun key => do
    let found ← containsKey raw key
    return if found then none else some key

/-- `parse_manifest_dict`, with the dictionary that has been read. -/
def parseManifestDict (raw : Json) : Except Raised (Dict × Manifest) := do
  let missing ← orRaise (missingFields raw)
  if missing ≠ [] then
    .error (.packageError ("manifest missing required fields: " ++ String.intercalate ", " missing) invalidManifest)
  else match raw with
    | .obj members => do
      let manifest ← parseFields lib members
      return (members, manifest)
    | _ => .error (.crash .exception)

theorem parseManifestDict_ok {raw : Json} {members : Dict} {manifest : Manifest}
    (h : parseManifestDict lib raw = .ok (members, manifest)) :
    raw = .obj members ∧ parseFields lib members = .ok manifest := by
  unfold parseManifestDict at h
  cases hmissing : orRaise (missingFields raw) with
  | error e =>
    rw [hmissing] at h
    cases h
  | ok missing =>
    rw [hmissing] at h
    replace h : (if missing ≠ [] then (_ : Except Raised (Dict × Manifest)) else _)
      = .ok (members, manifest) := h
    split_ifs at h
    cases raw with
    | obj members' =>
      cases hfields : parseFields lib members' with
      | error e =>
        simp only [bind, Except.bind, hfields] at h
        cases h
      | ok manifest' =>
        simp only [bind, Except.bind, hfields, pure, Except.pure, Except.ok.injEq, Prod.mk.injEq] at h
        rw [← h.1, ← h.2]
        exact ⟨rfl, hfields⟩
    | null | num _ | float _ | str _ | arr _ => cases h

/-! ### Module ids as parts of paths -/

theorem notMem_slash_of_segment {follow : Char → Bool} (hfollow : follow '/' = false) {segment : List Char}
    (h : matchesSegment follow segment = true) : '/' ∉ segment := by
  cases segment with
  | nil => exact List.not_mem_nil
  | cons c cs =>
    rw [matchesSegment, Bool.and_eq_true, List.all_eq_true] at h
    rw [List.mem_cons, not_or]
    refine ⟨fun hslash => ?_, fun hmem => ?_⟩
    · rw [← hslash] at h
      exact absurd h.1 (by decide)
    · rw [h.2 '/' hmem] at hfollow
      cases hfollow

theorem notMem_slash_of_segments {text : List Char} (h : matchesSegments (text.splitOn '.') = true) :
    '/' ∉ text ∧ ∃ c cs, text = c :: cs ∧ isLowercase c = true := by
  have hjoin : ['.'].intercalate (text.splitOn '.') = text := List.intercalate_splitOn '.'
  cases hsplit : text.splitOn '.' with
  | nil => exact absurd hsplit (List.splitOn_ne_nil '.' text)
  | cons first rest =>
    rw [hsplit, matchesSegments, Bool.and_eq_true, Bool.and_eq_true] at h
    rw [hsplit] at hjoin
    obtain ⟨⟨hfirst, _⟩, hrest⟩ := h
    have hpieces : ∀ piece ∈ first :: rest, '/' ∉ piece := by
      intro piece hpiece
      rcases List.mem_cons.mp hpiece with rfl | hpiece
      · exact notMem_slash_of_segment (by decide) hfirst
      · exact notMem_slash_of_segment (by decide) (List.all_eq_true.mp hrest piece hpiece)
    refine ⟨fun hmem => ?_, ?_⟩
    · rw [← hjoin] at hmem
      rcases mem_intercalate hmem with hsep | ⟨piece, hpiece, hmem⟩
      · exact absurd hsep (by decide)
      · exact hpieces piece hpiece hmem
    · cases first with
      | nil => cases hfirst
      | cons c cs =>
        rw [matchesSegment, Bool.and_eq_true] at hfirst
        cases rest with
        | nil =>
          rw [List.intercalate_singleton] at hjoin
          exact ⟨c, cs, hjoin.symm, hfirst.1⟩
        | cons next rest =>
          rw [List.intercalate_cons_cons_left] at hjoin
          exact ⟨c, _, hjoin.symm, hfirst.1⟩

/-- **An accepted module id is a plain part of a path**, and does not go back. -/
theorem plain_of_matchesModuleId {moduleId : String} (h : matchesModuleId moduleId = true) :
    Plain moduleId ∧ moduleId ≠ ".." := by
  have hparts : '/' ∉ moduleId.toList ∧ ∃ c cs, moduleId.toList = c :: cs ∧ isLowercase c = true := by
    rw [matchesModuleId, Bool.or_eq_true, Bool.and_eq_true, decide_eq_true_eq] at h
    rcases h with h | ⟨hlast, h⟩
    · exact notMem_slash_of_segments h
    · obtain ⟨hslash, c, cs, hhead, hlower⟩ := notMem_slash_of_segments h
      have hsplit : moduleId.toList = moduleId.toList.dropLast ++ [newline] := by
        obtain ⟨before, hbefore⟩ := List.getLast?_eq_some_iff.mp hlast
        rw [hbefore, List.dropLast_concat]
      refine ⟨?_, c, cs ++ [newline], ?_, hlower⟩
      · rw [hsplit, List.mem_append, List.mem_singleton, not_or]
        exact ⟨hslash, by decide⟩
      · rw [hsplit, hhead]
        rfl
  obtain ⟨hslash, c, cs, hhead, hlower⟩ := hparts
  have hne : ∀ text : String, text.toList.head?.any isLowercase = false → moduleId ≠ text := by
    rintro text htext rfl
    rw [hhead, List.head?_cons, Option.any_some, hlower] at htext
    cases htext
  exact ⟨⟨hslash, hne "" (by decide +kernel), hne "." (by decide +kernel)⟩, hne ".." (by decide +kernel)⟩

theorem matchesModuleId_of_unprotected {moduleId : String} (h : isProtectedModuleId moduleId = false) :
    matchesModuleId moduleId = true := by
  rw [isProtectedModuleId, Bool.or_eq_false_iff] at h
  simpa using h.2

end EnergyCore.PackageArchives
