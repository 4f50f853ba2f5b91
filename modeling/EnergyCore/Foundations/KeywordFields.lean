import Mathlib.Data.List.Nodup
import Mathlib.Tactic.SplitIfs

/-!
# Dictionaries and keyword calls

An ordered dictionary with assignment, and calls that take explicit keywords together with an unpacked
dictionary: a keyword that both give is an error of the caller.

* `keys_assign` — assigning to keys that exist keeps the keys;
* `callKeywords_ok`, `callKeywords_error` — a call is made if no keyword comes twice, and fails otherwise.
-/

namespace EnergyCore.KeywordFields

variable {κ ν : Type*}

abbrev Fields (κ ν : Type*) := List (κ × ν)

namespace Fields

def keys (fields : Fields κ ν) : List κ := fields.map Prod.fst

@[simp] theorem keys_append (fields more : Fields κ ν) :
    Fields.keys (fields ++ more) = Fields.keys fields ++ Fields.keys more := List.map_append

variable [DecidableEq κ]

def get (fields : Fields κ ν) (k : κ) : Option ν :=
  (fields.find? fun p => decide (p.1 = k)).map Prod.snd

/-- `fields[k] = v`. -/
def assign (fields : Fields κ ν) (k : κ) (v : ν) : Fields κ ν :=
  if k ∈ keys fields then fields.map fun p => if p.1 = k then (p.1, v) else p
  else fields ++ [(k, v)]

/-- An assignment that a condition guards. -/
def assignIf (c : Prop) [Decidable c] (fields : Fields κ ν) (k : κ) (v : ν) : Fields κ ν :=
  if c then assign fields k v else fields

/-- An assignment to a key that exists keeps the keys. -/
theorem keys_assign {fields : Fields κ ν} {k : κ} (h : k ∈ keys fields) (v : ν) :
    keys (assign fields k v) = keys fields := by
  rw [assign, if_pos h, keys, keys, List.map_map]
  refine List.map_congr_left ?_
  intro p _
  show (if p.1 = k then (p.1, v) else p).1 = p.1
  split_ifs
  · rfl
  · rfl

theorem keys_assign_of_notMem {fields : Fields κ ν} {k : κ} (h : k ∉ keys fields) (v : ν) :
    keys (assign fields k v) = keys fields ++ [k] := by
  rw [assign, if_neg h, keys_append]
  rfl

theorem mem_keys_assign {fields : Fields κ ν} {k k' : κ} {v : ν} :
    k' ∈ keys (assign fields k v) ↔ k' ∈ keys fields ∨ k' = k := by
  by_cases h : k ∈ keys fields
  · rw [keys_assign h]
    exact ⟨Or.inl, fun hk => hk.elim id fun hk => hk ▸ h⟩
  · rw [keys_assign_of_notMem h, List.mem_append, List.mem_singleton]

theorem keys_assignIf {fields : Fields κ ν} {k : κ} (h : k ∈ keys fields) (c : Prop) [Decidable c]
    (v : ν) : keys (assignIf c fields k v) = keys fields := by
  unfold assignIf
  split_ifs
  · exact keys_assign h v
  · rfl

/-- The assignments whose condition holds, one after another. -/
def assignAll (fields : Fields κ ν) (updates : List (Bool × κ × ν)) : Fields κ ν :=
  updates.foldl (fun fields u => assignIf (u.1 = true) fields u.2.1 u.2.2) fields

theorem keys_assignAll {fields : Fields κ ν} {updates : List (Bool × κ × ν)}
    (h : ∀ u ∈ updates, u.2.1 ∈ keys fields) : keys (assignAll fields updates) = keys fields := by
  induction updates generalizing fields with
  | nil => rfl
  | cons u updates ih =>
    have hfirst := keys_assignIf (h u List.mem_cons_self) (u.1 = true) u.2.2
    rw [← hfirst]
    refine ih fun u' hu' => ?_
    rw [hfirst]
    exact h u' (List.mem_cons_of_mem u hu')

@[simp] theorem get_nil (k : κ) : get ([] : Fields κ ν) k = none := rfl

theorem get_of_notMem {fields : Fields κ ν} {k : κ} (h : k ∉ keys fields) : get fields k = none := by
  have hnone : fields.find? (fun p => decide (p.1 = k)) = none := by
    rw [List.find?_eq_none]
    intro p hp hkey
    exact h (of_decide_eq_true hkey ▸ List.mem_map_of_mem hp)
  rw [get, hnone, Option.map_none]

theorem mem_of_get {fields : Fields κ ν} {k : κ} {v : ν} (h : get fields k = some v) : (k, v) ∈ fields := by
  obtain ⟨p, hp, rfl⟩ := Option.map_eq_some_iff.mp h
  have hfound := List.find?_some hp
  have hkey : p.1 = k := of_decide_eq_true hfound
  rw [← hkey]
  exact List.mem_of_find?_eq_some hp

theorem get_of_mem {fields : Fields κ ν} {k : κ} (h : k ∈ keys fields) : ∃ v, get fields k = some v := by
  obtain ⟨p, hp, rfl⟩ := List.mem_map.mp h
  cases hfind : fields.find? (fun q => decide (q.1 = p.1)) with
  | none =>
    rw [List.find?_eq_none] at hfind
    exact absurd (decide_eq_true rfl) (hfind p hp)
  | some q => exact ⟨q.2, by rw [get, hfind, Option.map_some]⟩

theorem get_assign_self (fields : Fields κ ν) (k : κ) (v : ν) : get (assign fields k v) k = some v := by
  unfold assign get
  split_ifs with hmem
  · induction fields with
    | nil => exact absurd hmem List.not_mem_nil
    | cons p fields ih =>
      rw [List.map_cons, List.find?_cons]
      by_cases hp : p.1 = k
      · simp [hp]
      · have hrest : k ∈ keys fields := (List.mem_cons.mp hmem).resolve_left (Ne.symm hp)
        simp only [hp, if_false, decide_false]
        exact ih hrest
  · have hnone := get_of_notMem hmem
    rw [get, Option.map_eq_none_iff] at hnone
    rw [List.find?_append, hnone]
    simp

/-- An assignment leaves the other keys alone. -/
theorem get_assign_of_ne (fields : Fields κ ν) {k k' : κ} (hne : k' ≠ k) (v : ν) :
    get (assign fields k v) k' = get fields k' := by
  unfold assign get
  split_ifs with hmem
  · clear hmem
    induction fields with
    | nil => rfl
    | cons p fields ih =>
      rw [List.map_cons, List.find?_cons, List.find?_cons]
      by_cases hp : p.1 = k
      · have hother : ¬ p.1 = k' := fun h => hne (h.symm.trans hp)
        simp only [hp, if_true, hne.symm, decide_false]
        exact ih
      · simp only [hp, if_false]
        split
        · rfl
        · exact ih
  · rw [List.find?_append]
    simp [hne.symm]

theorem get_assign (fields : Fields κ ν) (k k' : κ) (v : ν) :
    get (assign fields k v) k' = if k = k' then some v else get fields k' := by
  split_ifs with h
  · rw [← h, get_assign_self]
  · rw [get_assign_of_ne fields (Ne.symm h)]

theorem nodup_keys_assign {fields : Fields κ ν} (h : (keys fields).Nodup) (k : κ) (v : ν) :
    (keys (assign fields k v)).Nodup := by
  by_cases hk : k ∈ keys fields
  · rw [keys_assign hk]
    exact h
  · rw [keys_assign_of_notMem hk, ← List.concat_eq_append]
    exact h.concat hk

/-- A comprehension that keeps the keys. -/
theorem get_map_entries {μ : Type*} (f : κ → ν → μ) (fields : Fields κ ν) (k : κ) :
    get (fields.map fun e => (e.1, f e.1 e.2)) k = (get fields k).map (f k) := by
  induction fields with
  | nil => rfl
  | cons e fields ih =>
    unfold get at ih ⊢
    rw [List.map_cons]
    by_cases h : e.1 = k
    · rw [List.find?_cons_of_pos (by simpa using h), List.find?_cons_of_pos (by simpa using h), ← h]
      rfl
    · rw [List.find?_cons_of_neg (by simpa using h), List.find?_cons_of_neg (by simpa using h)]
      exact ih

/-- A run of assignments leaves the keys alone that it does not assign. -/
theorem get_assignAll_of_notMem (fields : Fields κ ν) {updates : List (Bool × κ × ν)} {k : κ}
    (h : k ∉ updates.map fun u => u.2.1) : get (assignAll fields updates) k = get fields k := by
  induction updates generalizing fields with
  | nil => rfl
  | cons u updates ih =>
    rw [List.map_cons, List.mem_cons, not_or] at h
    refine (ih _ h.2).trans ?_
    show get (assignIf (u.1 = true) fields u.2.1 u.2.2) k = get fields k
    unfold assignIf
    split_ifs
    · exact get_assign_of_ne fields h.1 _
    · rfl

theorem get_assignIf (c : Prop) [Decidable c] (fields : Fields κ ν) (k k' : κ) (v : ν) :
    get (assignIf c fields k v) k' = if c ∧ k = k' then some v else get fields k' := by
  by_cases hc : c
  · rw [assignIf, if_pos hc, get_assign]
    simp only [hc, true_and]
  · rw [assignIf, if_neg hc, if_neg fun h => hc h.1]

/-- What a run of assignments writes does not depend on what stood there. -/
theorem get_assignAll (fields : Fields κ ν) (updates : List (Bool × κ × ν)) (k : κ) :
    get (assignAll fields updates) k = (get (assignAll [] updates) k).or (get fields k) := by
  induction updates generalizing fields with
  | nil => rfl
  | cons u updates ih =>
    show get (assignAll (assignIf (u.1 = true) fields u.2.1 u.2.2) updates) k =
      (get (assignAll (assignIf (u.1 = true) [] u.2.1 u.2.2) updates) k).or (get fields k)
    rw [ih (assignIf (u.1 = true) fields u.2.1 u.2.2), ih (assignIf (u.1 = true) [] u.2.1 u.2.2),
      Option.or_assoc, get_assignIf, get_assignIf]
    congr 1
    split_ifs
    · rfl
    · rfl

/-- A dictionary written over another one, where a condition on the keys lets it. -/
theorem get_assignAll_entries (fields : Fields κ ν) {more : Fields κ ν} (h : (keys more).Nodup)
    (c : κ → Bool) {k : κ} (hc : c k = true) :
    get (assignAll fields (more.map fun p => (c p.1, p))) k = (get more k).or (get fields k) := by
  induction more generalizing fields with
  | nil => rfl
  | cons p more ih =>
    obtain ⟨hfresh, hrest⟩ := List.nodup_cons.mp h
    rw [List.map_cons]
    refine (ih (assignIf (c p.1 = true) fields p.1 p.2) hrest).trans ?_
    rw [get_assignIf]
    by_cases hkey : p.1 = k
    · have hnone : get more k = none := get_of_notMem (hkey ▸ hfresh)
      have hfirst : get (p :: more) k = some p.2 := by simp [get, hkey]
      rw [hnone, hfirst, if_pos ⟨hkey ▸ hc, hkey⟩]
      rfl
    · have hskip : get (p :: more) k = get more k := by simp [get, hkey]
      rw [hskip, if_neg fun h => hkey h.2]

theorem mem_keys_assignAll {fields : Fields κ ν} {updates : List (Bool × κ × ν)} {k : κ}
    (h : k ∈ keys (assignAll fields updates)) : k ∈ keys fields ∨ k ∈ updates.map fun u => u.2.1 := by
  by_contra hnone
  rw [not_or] at hnone
  obtain ⟨v, hv⟩ := get_of_mem h
  rw [get_assignAll_of_notMem fields hnone.2, get_of_notMem hnone.1] at hv
  cases hv

theorem nodup_keys_assignIf {fields : Fields κ ν} (h : (keys fields).Nodup) (c : Prop) [Decidable c]
    (k : κ) (v : ν) : (keys (assignIf c fields k v)).Nodup := by
  unfold assignIf
  split_ifs
  · exact nodup_keys_assign h k v
  · exact h

theorem nodup_keys_assignAll {fields : Fields κ ν} (h : (keys fields).Nodup)
    (updates : List (Bool × κ × ν)) : (keys (assignAll fields updates)).Nodup := by
  induction updates generalizing fields with
  | nil => exact h
  | cons u updates ih => exact ih (nodup_keys_assignIf h _ _ _)

theorem get_of_mem_of_nodup {fields : Fields κ ν} (h : (keys fields).Nodup) {p : κ × ν}
    (hp : p ∈ fields) : get fields p.1 = some p.2 := by
  induction fields with
  | nil => cases hp
  | cons q fields ih =>
    obtain ⟨hfresh, hrest⟩ := List.nodup_cons.mp h
    rcases List.mem_cons.mp hp with rfl | hp
    · simp [get]
    · have hne : ¬ q.1 = p.1 := fun hkey => hfresh (hkey ▸ List.mem_map_of_mem hp)
      have hskip : get (q :: fields) p.1 = get fields p.1 := by simp [get, hne]
      rw [hskip, ih hrest hp]

/-- A comprehension that drops entries. -/
theorem get_filter {fields : Fields κ ν} (h : (keys fields).Nodup) (c : κ × ν → Bool) (k : κ) :
    get (fields.filter c) k = (get fields k).filter fun v => c (k, v) := by
  have hnodup : (keys (fields.filter c)).Nodup := h.sublist (List.filter_sublist.map _)
  rw [Option.ext_iff]
  intro v
  rw [Option.filter_eq_some_iff]
  constructor
  · intro hv
    obtain ⟨hmem, hc⟩ := List.mem_filter.mp (mem_of_get hv)
    exact ⟨get_of_mem_of_nodup h hmem, hc⟩
  · rintro ⟨hv, hc⟩
    have hmem : (k, v) ∈ fields.filter c := List.mem_filter.mpr ⟨mem_of_get hv, hc⟩
    exact get_of_mem_of_nodup hnodup hmem

theorem assignAll_append (fields : Fields κ ν) (updates more : List (Bool × κ × ν)) :
    assignAll fields (updates ++ more) = assignAll (assignAll fields updates) more :=
  List.foldl_append

end Fields

/-- The error of a call that is given a keyword twice. -/
structure MultipleValues (κ : Type*) where
  keyword : κ
  deriving Repr, DecidableEq

variable [DecidableEq κ]

/-- `f(**explicit, **unpacked)`: the keywords that the callee receives. -/
def callKeywords (explicit unpacked : Fields κ ν) : Except (MultipleValues κ) (Fields κ ν) :=
  match (Fields.keys unpacked).find? fun k => decide (k ∈ Fields.keys explicit) with
  | some k => .error ⟨k⟩
  | none => .ok (explicit ++ unpacked)

theorem callKeywords_ok {explicit unpacked : Fields κ ν} (h : ∀ k ∈ Fields.keys unpacked, k ∉ Fields.keys explicit) :
    callKeywords explicit unpacked = .ok (explicit ++ unpacked) := by
  have hnone : (Fields.keys unpacked).find? (fun k => decide (k ∈ Fields.keys explicit)) = none := by
    rw [List.find?_eq_none]
    intro k hk
    rw [decide_eq_true_eq]
    exact h k hk
  rw [callKeywords, hnone]

/-- A keyword that both give makes the call fail. -/
theorem callKeywords_error {explicit unpacked : Fields κ ν} {k : κ} (hk : k ∈ Fields.keys unpacked)
    (hexplicit : k ∈ Fields.keys explicit) : ∃ e, callKeywords explicit unpacked = .error e := by
  unfold callKeywords
  cases hfind : (Fields.keys unpacked).find? (fun k => decide (k ∈ Fields.keys explicit)) with
  | none =>
    rw [List.find?_eq_none] at hfind
    exact absurd (decide_eq_true hexplicit) (hfind k hk)
  | some k' => exact ⟨⟨k'⟩, rfl⟩

end EnergyCore.KeywordFields
