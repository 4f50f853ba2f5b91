import EnergyCore.Foundations.KeywordFields
import EnergyCore.Foundations.StepRun
import Mathlib.Data.List.Induction
import Mathlib.Data.List.Sort

/-!
# Changes of keyed entries

Entries under keys, and a log of changes that is applied to them one after another: a change puts a value under a
key or takes the key out.

* `get_applyAll` — the last change of a key decides about its entry, and keys without a change keep theirs;
* `get_applyAll_perm` — changes that agree on a key may come in any order;
* `byKey_congr` — the same entries are the same list in the order of the keys;
* `applyAll_puts` — entries are rebuilt from the log that puts each of them;
* `applyAll_again`, `applyAll_readBack` — applying a log once more changes nothing, also if the entries are read
  back in between.
-/

namespace EnergyCore.KeyedChanges

open KeywordFields StepRun

variable {κ ν : Type*} [DecidableEq κ]

/-! ### Taking keys out -/

/-- `d.pop(k, None)`. -/
def pop (d : Fields κ ν) (k : κ) : Fields κ ν := d.filter fun e => decide (e.1 ≠ k)

theorem get_pop (d : Fields κ ν) (k k' : κ) : Fields.get (pop d k) k' = if k = k' then none else Fields.get d k' := by
  unfold pop Fields.get
  rw [List.find?_filter]
  split_ifs with h
  · have hnone : d.find? (fun e => decide (decide (e.1 ≠ k) = true ∧ decide (e.1 = k') = true))
        = none := by
      rw [List.find?_eq_none]
      intro e _ he
      simp only [decide_eq_true_eq] at he
      exact he.1 (he.2.trans h.symm)
    rw [hnone, Option.map_none]
  · congr 2
    funext e
    rw [decide_eq_decide, decide_eq_true_eq, decide_eq_true_eq]
    exact and_iff_right_of_imp fun he hk => h (hk.symm.trans he)

theorem nodup_keys_pop {d : Fields κ ν} (hd : (Fields.keys d).Nodup) (k : κ) : (Fields.keys (pop d k)).Nodup :=
  hd.sublist (List.filter_sublist.map Prod.fst)

omit [DecidableEq κ] in
theorem nodup_keys_nil : (Fields.keys ([] : Fields κ ν)).Nodup := List.nodup_nil

theorem get_eq_some_iff {d : Fields κ ν} (hd : (Fields.keys d).Nodup) {k : κ} {v : ν} :
    Fields.get d k = some v ↔ (k, v) ∈ d := by
  refine ⟨Fields.mem_of_get, fun hmem => ?_⟩
  induction d with
  | nil => exact absurd hmem List.not_mem_nil
  | cons e d ih =>
    obtain ⟨hfresh, hd⟩ := List.nodup_cons.mp hd
    unfold Fields.get at ih ⊢
    rcases List.mem_cons.mp hmem with rfl | hmem
    · rw [List.find?_cons_of_pos (by simp), Option.map_some]
    · have hne : e.1 ≠ k := fun hkey => hfresh (hkey ▸ List.mem_map_of_mem hmem)
      rw [List.find?_cons_of_neg (by simpa using hne)]
      exact ih hd hmem

/-! ### Changes -/

/-- A change of one key. -/
inductive Change (κ ν : Type*) where
  | put (k : κ) (v : ν)
  | drop (k : κ)

namespace Change

def key : Change κ ν → κ
  | .put k _ => k
  | .drop k => k

/-- What a change leaves under its key. -/
def value : Change κ ν → Option ν
  | .put _ v => some v
  | .drop _ => none

def apply (d : Fields κ ν) : Change κ ν → Fields κ ν
  | .put k v => Fields.assign d k v
  | .drop k => pop d k

theorem get_apply (d : Fields κ ν) (c : Change κ ν) (k : κ) :
    Fields.get (apply d c) k = if c.key = k then c.value else Fields.get d k := by
  cases c with
  | put k' v => exact Fields.get_assign d k' k v
  | drop k' => exact get_pop d k' k

theorem nodup_keys_apply {d : Fields κ ν} (hd : (Fields.keys d).Nodup) (c : Change κ ν) :
    (Fields.keys (apply d c)).Nodup := by
  cases c with
  | put k v => exact Fields.nodup_keys_assign hd k v
  | drop k => exact nodup_keys_pop hd k

end Change

/-! ### Logs of changes -/

def applyAll (d : Fields κ ν) (log : List (Change κ ν)) : Fields κ ν := run Change.apply d log

/-- The last change of a key. -/
def lastChange (log : List (Change κ ν)) (k : κ) : Option (Change κ ν) :=
  (log.filter fun c => decide (c.key = k)).getLast?

theorem lastChange_concat (log : List (Change κ ν)) (c : Change κ ν) (k : κ) :
    lastChange (log ++ [c]) k = if c.key = k then some c else lastChange log k := by
  unfold lastChange
  rw [List.filter_append]
  split_ifs with h
  · rw [List.filter_cons_of_pos (by simpa using h), List.filter_nil, List.getLast?_concat]
  · rw [List.filter_cons_of_neg (by simpa using h), List.filter_nil, List.append_nil]

theorem mem_of_lastChange {log : List (Change κ ν)} {k : κ} {c : Change κ ν}
    (h : lastChange log k = some c) : c ∈ log ∧ c.key = k := by
  have hmem := List.mem_of_getLast? h
  rw [List.mem_filter, decide_eq_true_eq] at hmem
  exact hmem

/-- **The last change of a key decides.** -/
theorem get_applyAll (d : Fields κ ν) (log : List (Change κ ν)) (k : κ) : Fields.get (applyAll d log) k
      = ((lastChange log k).map Change.value).getD (Fields.get d k) := by
  induction log using List.reverseRecOn with
  | nil => rfl
  | append_singleton log c ih =>
    rw [applyAll, run_append, run_cons, run_nil, Change.get_apply, lastChange_concat]
    split_ifs
    · rfl
    · exact ih

/-- The changes of a key leave the same value. -/
def AgreeOn (log : List (Change κ ν)) (k : κ) : Prop :=
  ∀ c ∈ log, ∀ c' ∈ log, c.key = k → c'.key = k → c.value = c'.value

/-- **Changes that agree.** Where the changes of a key leave the same value, each of them decides. -/
theorem get_applyAll_of_agree {log : List (Change κ ν)} {k : κ} (h : AgreeOn log k) (d : Fields κ ν)
    {c : Change κ ν} (hc : c ∈ log) (hkey : c.key = k) : Fields.get (applyAll d log) k = c.value := by
  have hlast : lastChange log k ≠ none := by
    intro hnone
    have hempty := List.getLast?_eq_none_iff.mp hnone
    have hmem : c ∈ log.filter fun c => decide (c.key = k) :=
      List.mem_filter.mpr ⟨hc, decide_eq_true hkey⟩
    rw [hempty] at hmem
    exact absurd hmem List.not_mem_nil
  obtain ⟨c', hlast⟩ := Option.ne_none_iff_exists'.mp hlast
  obtain ⟨hc', hkey'⟩ := mem_of_lastChange hlast
  rw [get_applyAll, hlast]
  exact h c' hc' c hc hkey' hkey

theorem get_applyAll_of_unchanged {log : List (Change κ ν)} {k : κ} (h : ∀ c ∈ log, c.key ≠ k)
    (d : Fields κ ν) : Fields.get (applyAll d log) k = Fields.get d k := by
  have hnone : lastChange log k = none := by
    refine List.getLast?_eq_none_iff.mpr (List.filter_eq_nil_iff.mpr fun c hc hkey => ?_)
    exact h c hc (of_decide_eq_true hkey)
  rw [get_applyAll, hnone]
  rfl

/-- They may come in any order. -/
theorem get_applyAll_perm {log log' : List (Change κ ν)} (hperm : log.Perm log') {k : κ} (h : AgreeOn log k)
    (d : Fields κ ν) : Fields.get (applyAll d log') k = Fields.get (applyAll d log) k := by
  have h' : AgreeOn log' k := fun c hc c' hc' =>
    h c (hperm.mem_iff.mpr hc) c' (hperm.mem_iff.mpr hc')
  by_cases hchanged : ∃ c ∈ log, c.key = k
  · obtain ⟨c, hc, hkey⟩ := hchanged
    rw [get_applyAll_of_agree h d hc hkey, get_applyAll_of_agree h' d (hperm.mem_iff.mp hc) hkey]
  · have hnone : ∀ c ∈ log, c.key ≠ k := fun c hc hkey => hchanged ⟨c, hc, hkey⟩
    rw [get_applyAll_of_unchanged hnone, get_applyAll_of_unchanged fun c hc => hnone c (hperm.mem_iff.mpr hc)]

theorem applyAll_append (d : Fields κ ν) (log more : List (Change κ ν)) :
    applyAll d (log ++ more) = applyAll (applyAll d log) more := run_append _ _ _ _

/-- A loop whose steps apply changes applies their log. -/
theorem run_eq_applyAll {ι : Type*} {step : Fields κ ν → ι → Fields κ ν} {changes : ι → List (Change κ ν)}
    (h : ∀ d i, step d i = applyAll d (changes i)) (d : Fields κ ν) (items : List ι) :
    run step d items = applyAll d (items.flatMap changes) := by
  induction items generalizing d with
  | nil => rfl
  | cons i items ih => rw [run_cons, ih, h, List.flatMap_cons, applyAll_append]

theorem nodup_keys_applyAll {d : Fields κ ν} (hd : (Fields.keys d).Nodup) (log : List (Change κ ν)) :
    (Fields.keys (applyAll d log)).Nodup := by
  induction log generalizing d with
  | nil => exact hd
  | cons c log ih => exact ih (Change.nodup_keys_apply hd c)

/-- A property of the entries and of what is put is one of the entries afterwards. -/
theorem forall_mem_applyAll {P : κ → ν → Prop} {d : Fields κ ν} (hd : (Fields.keys d).Nodup)
    (h : ∀ k v, (k, v) ∈ d → P k v) {log : List (Change κ ν)}
    (hlog : ∀ k v, Change.put k v ∈ log → P k v) {k : κ} {v : ν} (hmem : (k, v) ∈ applyAll d log) : P k v := by
  have hget := (get_eq_some_iff (nodup_keys_applyAll hd log)).mpr hmem
  rw [get_applyAll] at hget
  cases hlast : lastChange log k with
  | none =>
    rw [hlast] at hget
    exact h k v (Fields.mem_of_get hget)
  | some c =>
    obtain ⟨hc, hkey⟩ := mem_of_lastChange hlast
    rw [hlast] at hget
    cases c with
    | put k' v' =>
      have hvalue : some v' = some v := hget
      have hkey' : k' = k := hkey
      rw [Option.some.injEq] at hvalue
      rw [hvalue, hkey'] at hc
      exact hlog k v hc
    | drop k' => exact absurd (show none = some v from hget) (Option.some_ne_none v).symm

/-- The log that puts every entry. -/
def puts (d : Fields κ ν) : List (Change κ ν) := d.map fun e => .put e.1 e.2

theorem applyAll_puts_append {d d' : Fields κ ν} (h : (Fields.keys (d ++ d')).Nodup) :
    applyAll d (puts d') = d ++ d' := by
  induction d' generalizing d with
  | nil => rw [List.append_nil]; rfl
  | cons e d' ih =>
    have hsplit : d ++ e :: d' = (d ++ [e]) ++ d' := by rw [List.append_assoc]; rfl
    have hfresh : e.1 ∉ Fields.keys d := by
      rw [Fields.keys_append, List.nodup_append] at h
      intro hmem
      exact h.2.2 e.1 hmem e.1 (List.mem_map_of_mem List.mem_cons_self) rfl
    have hfirst : Fields.assign d e.1 e.2 = d ++ [e] := by rw [Fields.assign, if_neg hfresh]
    rw [hsplit, ← ih (hsplit ▸ h), ← hfirst]
    rfl

/-- Entries are rebuilt from the log that puts them. -/
theorem applyAll_puts {d : Fields κ ν} (hd : (Fields.keys d).Nodup) : applyAll [] (puts d) = d :=
  applyAll_puts_append (by rwa [List.nil_append])

/-! ### The order of the keys -/

section

variable [LinearOrder κ]

def byKey (d : Fields κ ν) : Fields κ ν := d.insertionSort fun e e' => e.1 ≤ e'.1

omit [DecidableEq κ] in
theorem byKey_perm (d : Fields κ ν) : (byKey d).Perm d := List.perm_insertionSort _ d

omit [DecidableEq κ] in
theorem nodup_keys_byKey {d : Fields κ ν} (hd : (Fields.keys d).Nodup) :
    (Fields.keys (byKey d)).Nodup := ((byKey_perm d).map Prod.fst).nodup_iff.mpr hd

omit [DecidableEq κ] in
theorem pairwise_byKey (d : Fields κ ν) : (byKey d).Pairwise fun e e' => e.1 ≤ e'.1 :=
  List.pairwise_insertionSort (fun e e' : κ × ν => e.1 ≤ e'.1) d

theorem get_byKey {d : Fields κ ν} (hd : (Fields.keys d).Nodup) (k : κ) : Fields.get (byKey d) k = Fields.get d k := by
  ext v
  rw [get_eq_some_iff (nodup_keys_byKey hd), get_eq_some_iff hd, (byKey_perm d).mem_iff]

/-- **The same entries, the same list.** In the order of the keys, entries are given by what is under the keys. -/
theorem byKey_congr {d d' : Fields κ ν} (hd : (Fields.keys d).Nodup) (hd' : (Fields.keys d').Nodup)
    (h : ∀ k, Fields.get d k = Fields.get d' k) : byKey d = byKey d' := by
  have hperm : (byKey d).Perm (byKey d') := by
    rw [List.perm_ext_iff_of_nodup (nodup_keys_byKey hd).of_map (nodup_keys_byKey hd').of_map]
    intro e
    rw [← get_eq_some_iff (nodup_keys_byKey hd), ← get_eq_some_iff (nodup_keys_byKey hd'),
      get_byKey hd, get_byKey hd', h]
  refine hperm.eq_of_pairwise ?_ (pairwise_byKey d) (pairwise_byKey d')
  intro e e' he he' hle hle'
  have hkey : e.1 = e'.1 := le_antisymm hle hle'
  have hvalue := (get_eq_some_iff (nodup_keys_byKey hd)).mpr (show (e.1, e.2) ∈ byKey d from he)
  have hvalue' := (get_eq_some_iff (nodup_keys_byKey hd')).mpr (show (e'.1, e'.2) ∈ byKey d' from he')
  rw [get_byKey hd, h, hkey, ← get_byKey hd', hvalue', Option.some.injEq] at hvalue
  exact Prod.ext hkey hvalue.symm

omit [DecidableEq κ] in
/-- Rewriting the values keeps the order of the keys. -/
theorem byKey_map {μ : Type*} (f : ν → μ) (d : Fields κ ν) :
    byKey (d.map fun e => (e.1, f e.2)) = (byKey d).map fun e => (e.1, f e.2) :=
  (List.map_insertionSort (r := fun e e' : κ × ν => e.1 ≤ e'.1)
    (s := fun e e' : κ × μ => e.1 ≤ e'.1) (fun e => (e.1, f e.2)) d
    (fun _ _ _ _ => Iff.rfl)).symm

/-- **A log that is applied twice** is applied once. -/
theorem applyAll_again {d : Fields κ ν} (hd : (Fields.keys d).Nodup) (log : List (Change κ ν)) :
    byKey (applyAll (byKey (applyAll d log)) log) = byKey (applyAll d log) := by
  have hlog := nodup_keys_applyAll hd log
  refine byKey_congr (nodup_keys_applyAll (nodup_keys_byKey hlog) log) hlog fun k => ?_
  rw [get_applyAll, get_byKey hlog, get_applyAll]
  cases lastChange log k with
  | none => rfl
  | some c => rfl

/-- **A log that is applied to what is read back.** Where reading back changes no value a second time, applying a
log to the entries that were read back, and reading them back again, changes nothing. -/
theorem applyAll_readBack {f : ν → ν} {d : Fields κ ν} (hd : (Fields.keys d).Nodup)
    (log : List (Change κ ν)) (hf : ∀ k v, (k, v) ∈ applyAll d log → f (f v) = f v) :
    byKey ((applyAll (byKey ((applyAll d log).map fun e => (e.1, f e.2))) log).map fun e => (e.1, f e.2))
      = byKey ((applyAll d log).map fun e => (e.1, f e.2)) := by
  have hkeys : ∀ d' : Fields κ ν, Fields.keys (d'.map fun e => (e.1, f e.2)) = Fields.keys d' :=
    fun d' => List.map_map
  have hlog := nodup_keys_applyAll hd log
  have hread : (Fields.keys ((applyAll d log).map fun e => (e.1, f e.2))).Nodup := (hkeys _).symm ▸ hlog
  have hagain := nodup_keys_applyAll (nodup_keys_byKey hread) log
  refine byKey_congr ((hkeys _).symm ▸ hagain) hread fun k => ?_
  rw [Fields.get_map_entries fun _ => f, Fields.get_map_entries fun _ => f, get_applyAll,
    get_byKey hread, Fields.get_map_entries fun _ => f]
  cases hvalue : Fields.get (applyAll d log) k with
  | none =>
    rw [get_applyAll] at hvalue
    cases hlast : lastChange log k with
    | none => rfl
    | some c =>
      rw [hlast] at hvalue
      rw [Option.map_some, Option.getD_some, show c.value = none from hvalue]
  | some v =>
    have hidem := hf k v (Fields.mem_of_get hvalue)
    rw [get_applyAll] at hvalue
    cases hlast : lastChange log k with
    | none =>
      show some (f (f v)) = some (f v)
      rw [hidem]
    | some c =>
      rw [hlast] at hvalue
      rw [Option.map_some, Option.getD_some, show c.value = some v from hvalue]

end

end EnergyCore.KeyedChanges
