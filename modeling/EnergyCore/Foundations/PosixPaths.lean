import Mathlib.Data.List.Infix
import Mathlib.Data.List.Intervals
import Mathlib.Data.String.Basic

/-!
# Paths

Paths as the lists of their parts, with what `pathlib` makes of a text with slashes: empty parts and single dots are
dropped, and a text that starts with a slash starts again at the root. Resolving a path walks its parts from the root,
where `..` goes back; symbolic links are not followed.

* `mem_parts` — what a part of a text looks like;
* `resolve_append` — parts that do not go back stay as they are.
-/

namespace EnergyCore.PosixPaths

/-! ### Parts -/

def parts (text : String) : List String :=
  ((text.toList.splitOn '/').map String.ofList).filter fun part => decide (part ≠ "" ∧ part ≠ ".")

/-- A part that stands for itself. -/
def Plain (part : String) : Prop := '/' ∉ part.toList ∧ part ≠ "" ∧ part ≠ "."

instance (part : String) : Decidable (Plain part) := inferInstanceAs (Decidable (_ ∧ _ ∧ _))

theorem splitOn_cons (sep c : Char) (cs : List Char) : (c :: cs).splitOn sep
      = if c = sep then [] :: cs.splitOn sep else (cs.splitOn sep).modifyHead (List.cons c) := by
  rw [List.splitOn_cons_eq_if_modifyHead]
  by_cases h : c = sep
  · rw [if_pos (beq_iff_eq.mpr h), if_pos h]
  · rw [if_neg (by simpa using h), if_neg h]

/-! ### Pieces -/

theorem mem_splitOn {sep : Char} {text piece : List Char} (h : piece ∈ text.splitOn sep) : sep ∉ piece := by
  induction text generalizing piece with
  | nil =>
    rw [List.splitOn_nil, List.mem_singleton] at h
    rw [h]
    exact List.not_mem_nil
  | cons c cs ih =>
    rw [splitOn_cons] at h
    split_ifs at h with hc
    · rcases List.mem_cons.mp h with rfl | h
      · exact List.not_mem_nil
      · exact ih h
    · cases hrest : cs.splitOn sep with
      | nil => exact absurd hrest (List.splitOn_ne_nil sep cs)
      | cons first rest =>
        rw [hrest] at ih
        rw [hrest, List.modifyHead_cons] at h
        rcases List.mem_cons.mp h with rfl | h
        · rw [List.mem_cons, not_or]
          exact ⟨fun hsep => hc hsep.symm, ih List.mem_cons_self⟩
        · exact ih (List.mem_cons_of_mem first h)

theorem infix_intercalate {α : Type*} (sep : List α) {piece : List α} {pieces : List (List α)}
    (h : piece ∈ pieces) : piece <:+: sep.intercalate pieces := by
  induction pieces with
  | nil => exact absurd h List.not_mem_nil
  | cons first rest ih =>
    by_cases hrest : rest = []
    · subst hrest
      rw [List.mem_singleton.mp h, List.intercalate_singleton]
    · rw [List.intercalate_cons_of_ne_nil hrest]
      rcases List.mem_cons.mp h with rfl | h
      · exact ⟨[], sep ++ sep.intercalate rest, by rw [List.nil_append, List.append_assoc]⟩
      · exact (ih h).trans (List.suffix_append _ _).isInfix

theorem mem_intercalate {α : Type*} {sep : List α} {pieces : List (List α)} {a : α}
    (h : a ∈ sep.intercalate pieces) : a ∈ sep ∨ ∃ piece ∈ pieces, a ∈ piece := by
  induction pieces with
  | nil =>
    rw [List.intercalate_nil] at h
    exact absurd h List.not_mem_nil
  | cons first rest ih =>
    by_cases hrest : rest = []
    · rw [hrest, List.intercalate_singleton] at h
      exact .inr ⟨first, List.mem_cons_self, h⟩
    · rw [List.intercalate_cons_of_ne_nil hrest, List.mem_append, List.mem_append] at h
      rcases h with (h | h) | h
      · exact .inr ⟨first, List.mem_cons_self, h⟩
      · exact .inl h
      · exact (ih h).imp id fun ⟨piece, hpiece, hmem⟩ => ⟨piece, List.mem_cons_of_mem first hpiece, hmem⟩

/-! ### Parts of a text -/

theorem mem_parts {text part : String} (h : part ∈ parts text) : Plain part ∧ part.toList <:+: text.toList := by
  obtain ⟨hpiece, hkept⟩ := List.mem_filter.mp h
  obtain ⟨piece, hmem, rfl⟩ := List.mem_map.mp hpiece
  rw [decide_eq_true_eq] at hkept
  rw [String.toList_ofList]
  refine ⟨⟨?_, hkept⟩, ?_⟩
  · rw [String.toList_ofList]
    exact mem_splitOn hmem
  · have hpiece := infix_intercalate ['/'] hmem
    rwa [List.intercalate_splitOn] at hpiece

/-- A text without a slash is at most one part. -/
theorem parts_of_notMem {text : String} (h : '/' ∉ text.toList) :
    parts text = if text = "" ∨ text = "." then [] else [text] := by
  unfold parts
  rw [List.splitOn_eq_singleton h, List.map_singleton, String.ofList_toList]
  by_cases hempty : text = "" ∨ text = "."
  · rw [if_pos hempty, List.filter_cons_of_neg]
    · rfl
    · rw [decide_eq_true_eq, not_and_or, not_not, not_not]
      exact hempty
  · rw [if_neg hempty, List.filter_cons_of_pos]
    · rfl
    · rw [decide_eq_true_eq, ← not_or]
      exact hempty

/-- What stands before the first slash of a text only lengthens its first part. -/
theorem dotdot_notMem_parts_append {start text : String} (hslash : '/' ∉ start.toList)
    (hstart : ∀ rest, String.ofList (start.toList ++ rest) ≠ "..") (h : ".." ∉ parts text) :
    ".." ∉ parts (start ++ text) := by
  have hsplit : ∀ cs : List Char, '/' ∉ cs → (cs ++ text.toList).splitOn '/'
      = (text.toList.splitOn '/').modifyHead (cs ++ ·) := by
    intro cs hcs
    induction cs with
    | nil =>
      rw [List.nil_append]
      cases text.toList.splitOn '/' with
      | nil => rfl
      | cons first rest => rfl
    | cons c cs ih =>
      rw [List.mem_cons, not_or] at hcs
      rw [List.cons_append, splitOn_cons, if_neg (Ne.symm hcs.1), ih hcs.2]
      cases text.toList.splitOn '/' with
      | nil => rfl
      | cons first rest => rfl
  intro hmem
  unfold parts at h hmem
  rw [String.toList_append, hsplit _ hslash] at hmem
  cases htext : text.toList.splitOn '/' with
  | nil => exact absurd htext (List.splitOn_ne_nil '/' _)
  | cons first rest =>
    rw [htext, List.modifyHead_cons, List.map_cons, List.mem_filter, List.mem_cons] at hmem
    rw [htext, List.map_cons] at h
    obtain ⟨hmem | hmem, hkept⟩ := hmem
    · exact hstart first hmem.symm
    · exact h (List.mem_filter.mpr ⟨List.mem_cons_of_mem _ hmem, hkept⟩)

/-! ### Texts of paths -/

/-- A path below some directory, written with slashes. -/
def asPosix (p : List String) : String := String.ofList (['/'].intercalate (p.map String.toList))

/-! ### Joining and resolving -/

def isAbsolute (text : String) : Bool := decide (text.toList.head? = some '/')

/-- `base / text`. -/
def join (base : List String) (text : String) : List String :=
  if isAbsolute text then parts text else base ++ parts text

def resolve (p : List String) : List String :=
  p.foldl (fun q part => if part = ".." then q.dropLast else q ++ [part]) []

theorem foldl_resolve {q p : List String} (h : ".." ∉ p) :
    p.foldl (fun q part => if part = ".." then q.dropLast else q ++ [part]) q = q ++ p := by
  induction p generalizing q with
  | nil => exact (List.append_nil q).symm
  | cons part p ih =>
    rw [List.mem_cons, not_or] at h
    rw [List.foldl_cons, if_neg (Ne.symm h.1), ih h.2, List.append_assoc, List.singleton_append]

/-- **Going down.** Parts other than `..` stay. -/
theorem resolve_append (base : List String) {p : List String} (h : ".." ∉ p) :
    resolve (base ++ p) = resolve base ++ p := by
  unfold resolve
  rw [List.foldl_append, foldl_resolve h]

theorem resolve_of_notMem {p : List String} (h : ".." ∉ p) : resolve p = p := foldl_resolve h

/-- A resolved path does not go back. -/
theorem notMem_resolve (p : List String) : ".." ∉ resolve p := by
  have hfold : ∀ q : List String, ".." ∉ q →
      ".." ∉ p.foldl (fun q part => if part = ".." then q.dropLast else q ++ [part]) q := by
    induction p with
    | nil => exact fun q hq => hq
    | cons part p ih =>
      intro q hq
      refine ih _ ?_
      dsimp only
      split_ifs with hpart
      · exact fun hmem => hq (List.mem_of_mem_dropLast hmem)
      · rw [List.mem_append, List.mem_singleton, not_or]
        exact ⟨hq, Ne.symm hpart⟩
  exact hfold [] List.not_mem_nil

/-- The text of a path from the root. -/
def absoluteText (p : List String) : String := String.ofList ('/' :: (asPosix p).toList)

/-- The text of a directory starts the texts of the paths below it. -/
theorem prefix_absoluteText (p q : List String) : (absoluteText p).toList <+: (absoluteText (p ++ q)).toList := by
  unfold absoluteText asPosix
  simp only [String.toList_ofList, List.map_append]
  refine List.cons_prefix_cons.mpr ⟨rfl, ?_⟩
  induction p with
  | nil => exact List.nil_prefix
  | cons part p ih =>
    rw [List.map_cons, List.cons_append]
    by_cases hrest : p.map String.toList = []
    · rw [hrest, List.intercalate_singleton, List.nil_append]
      by_cases hq : q.map String.toList = []
      · rw [hq, List.intercalate_singleton]
      · rw [List.intercalate_cons_of_ne_nil hq, List.append_assoc]
        exact List.prefix_append _ _
    · have hall : p.map String.toList ++ q.map String.toList ≠ [] := by
        simp [List.append_eq_nil_iff, hrest]
      rw [List.intercalate_cons_of_ne_nil hrest, List.intercalate_cons_of_ne_nil hall]
      exact (List.prefix_append_right_inj _).mpr ih

end EnergyCore.PosixPaths
