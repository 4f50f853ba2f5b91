import EnergyCore.Foundations.KeyedChanges
import Mathlib.Algebra.BigOperators.Pi

/-!
# Totals by key

Loops that add up items in dictionaries, each item under its own key.

* `total_run` — a loop that adds what each item is worth under its key ends with the totals of the keys;
* `totalAt_upsert` — entries of a dictionary can be summed by a coarser key instead;
* `sum_totalAt` — the totals of some keys are the total of the items under them;
* `sort_eq_of_mem_iff` — the sorted keys do not depend on the order in which they came;
* `mem_groups` — the items of each key, and `map_groups_eq_iff`, when two lists of summaries of groups are equal.
-/

namespace EnergyCore.KeyedTotals

open KeywordFields StepRun

variable {α κ γ ν M σ : Type*} [DecidableEq κ] [DecidableEq γ] [AddCommMonoid M]

/-! ### Totals -/

/-- What the items under a key are worth. -/
def totalAt (key : α → κ) (worth : α → M) (items : List α) (k : κ) : M :=
  ((items.filter fun a => decide (key a = k)).map worth).sum

@[simp] theorem totalAt_nil (key : α → κ) (worth : α → M) (k : κ) : totalAt key worth [] k = 0 := rfl

theorem totalAt_cons (key : α → κ) (worth : α → M) (a : α) (items : List α) (k : κ) :
    totalAt key worth (a :: items) k = (if key a = k then worth a else 0) + totalAt key worth items k := by
  unfold totalAt
  by_cases h : key a = k
  · rw [List.filter_cons_of_pos (by simpa using h), if_pos h, List.map_cons, List.sum_cons]
  · rw [List.filter_cons_of_neg (by simpa using h), if_neg h, zero_add]

theorem totalAt_map {β : Type*} (f : β → α) (key : α → κ) (worth : α → M) (items : List β) (k : κ) :
    totalAt key worth (items.map f) k = totalAt (fun b => key (f b)) (fun b => worth (f b)) items k := by
  unfold totalAt
  rw [List.filter_map, List.map_map]
  rfl

theorem totalAt_congr {key key' : α → κ} (worth : α → M) {items : List α}
    (h : ∀ a ∈ items, key a = key' a) (k : κ) : totalAt key worth items k = totalAt key' worth items k := by
  unfold totalAt
  rw [List.filter_congr fun a ha => by rw [h a ha]]

theorem totalAt_append (key : α → κ) (worth : α → M) (items more : List α) (k : κ) :
    totalAt key worth (items ++ more) k = totalAt key worth items k + totalAt key worth more k := by
  unfold totalAt
  rw [List.filter_append, List.map_append, List.sum_append]

/-- **Totals of a loop.** If each step adds what its item is worth, under the item's key, so does a run. -/
theorem total_run {step : σ → α → σ} (I : σ → Prop) (μ : σ → κ → M) {key : α → κ} {worth : α → M}
    (hstep : ∀ s a, I s → I (step s a) ∧ ∀ k, μ (step s a) k = μ s k + if key a = k then worth a else 0)
    {s : σ} (hs : I s) (items : List α) (k : κ) : μ (run step s items) k = μ s k + totalAt key worth items k := by
  induction items generalizing s with
  | nil => simp
  | cons a items ih =>
    obtain ⟨hI, hadd⟩ := hstep s a hs
    rw [run_cons, ih hI, hadd, totalAt_cons, add_assoc]

/-- A part of a total is the total of the parts. -/
theorem totalAt_apply {F : Type*} (key : α → κ) (worth : α → F → M) (items : List α) (k : κ) (f : F) :
    totalAt key worth items k f = totalAt key (fun a => worth a f) items k := by
  unfold totalAt
  rw [Pi.list_sum_apply, List.map_map]
  rfl

/-- Among distinct keys, what is worth something at one of them is worth that in all. -/
theorem sum_map_single {keys : List κ} (hkeys : keys.Nodup) (k : κ) (x : M) :
    (keys.map fun k' => if k = k' then x else 0).sum = if k ∈ keys then x else 0 := by
  induction keys with
  | nil => rfl
  | cons k' keys ih =>
    obtain ⟨hfresh, hkeys⟩ := List.nodup_cons.mp hkeys
    rw [List.map_cons, List.sum_cons, ih hkeys]
    by_cases hk : k = k'
    · rw [if_pos hk, if_neg (hk ▸ hfresh), if_pos (List.mem_cons.mpr (Or.inl hk)), add_zero]
    · have hmem : k ∈ k' :: keys ↔ k ∈ keys := List.mem_cons.trans (or_iff_right hk)
      rw [if_neg hk, zero_add, if_congr hmem rfl rfl]

/-- **The totals of some keys** are the total of the items under them. -/
theorem sum_totalAt (key : α → κ) (worth : α → M) (items : List α) {keys : List κ} (hkeys : keys.Nodup) :
    (keys.map fun k => totalAt key worth items k).sum
      = ((items.filter fun a => decide (key a ∈ keys)).map worth).sum := by
  induction items with
  | nil =>
    simp only [totalAt_nil, List.filter_nil, List.map_nil, List.sum_nil]
    exact List.sum_eq_zero fun x hx => by
      obtain ⟨_, -, rfl⟩ := List.mem_map.mp hx
      rfl
  | cons a items ih =>
    simp only [totalAt_cons]
    rw [List.sum_map_add, sum_map_single hkeys, ih]
    by_cases hmem : key a ∈ keys
    · rw [if_pos hmem, List.filter_cons_of_pos (by simpa using hmem), List.map_cons, List.sum_cons]
    · rw [if_neg hmem, List.filter_cons_of_neg (by simpa using hmem), zero_add]

/-! ### Entries that are added to -/

/-- `d[k] = f(d.get(k, init))`. -/
def upsert (d : Fields κ ν) (k : κ) (init : ν) (f : ν → ν) : Fields κ ν :=
  Fields.assign d k (f ((Fields.get d k).getD init))

theorem get_upsert (d : Fields κ ν) (k k' : κ) (init : ν) (f : ν → ν) : Fields.get (upsert d k init f) k'
      = if k = k' then some (f ((Fields.get d k').getD init)) else Fields.get d k' := by
  rw [upsert, Fields.get_assign]
  split_ifs with h
  · rw [h]
  · rfl

theorem getD_upsert (d : Fields κ ν) (k k' : κ) (init : ν) (f : ν → ν) : (Fields.get (upsert d k init f) k').getD init
      = if k = k' then f ((Fields.get d k').getD init) else (Fields.get d k').getD init := by
  rw [get_upsert]
  split_ifs
  · rfl
  · rfl

/-- **The entry of a key** after a loop is made by the items of the key alone. -/
theorem get_upsert_run (key : α → κ) (init : κ → ν) (f : α → ν → ν) (d : Fields κ ν) (items : List α) (k : κ) :
    Fields.get (run (fun d a => upsert d (key a) (init (key a)) (f a)) d items) k
      = (items.filter fun a => decide (key a = k)).foldl
        (fun entry a => some (f a (entry.getD (init k)))) (Fields.get d k) := by
  induction items generalizing d with
  | nil => rfl
  | cons a items ih =>
    rw [run_cons, ih, get_upsert]
    by_cases h : key a = k
    · rw [if_pos h, List.filter_cons_of_pos (by simpa using h), List.foldl_cons, h]
    · rw [if_neg h, List.filter_cons_of_neg (by simpa using h)]

theorem mem_keys_upsert (d : Fields κ ν) (k k' : κ) (init : ν) (f : ν → ν) :
    k' ∈ Fields.keys (upsert d k init f) ↔ k' ∈ Fields.keys d ∨ k' = k := by
  by_cases hk : k ∈ Fields.keys d
  · rw [upsert, Fields.keys_assign hk]
    refine ⟨Or.inl, ?_⟩
    rintro (h | rfl)
    · exact h
    · exact hk
  · rw [upsert, Fields.keys_assign_of_notMem hk, List.mem_append, List.mem_singleton]

/-- An entry that is touched has the key and the new value. -/
theorem mem_upsert {d : Fields κ ν} {k : κ} {init : ν} {f : ν → ν} {e : κ × ν}
    (h : e ∈ upsert d k init f) : e ∈ d ∨ e = (k, f ((Fields.get d k).getD init)) := by
  unfold upsert Fields.assign at h
  split_ifs at h
  · obtain ⟨e', he', rfl⟩ := List.mem_map.mp h
    by_cases hkey : e'.1 = k
    · rw [if_pos hkey, hkey]
      exact .inr rfl
    · rw [if_neg hkey]
      exact .inl he'
  · rcases List.mem_append.mp h with he | he
    · exact .inl he
    · exact .inr (List.mem_singleton.mp he)

theorem nodup_keys_upsert {d : Fields κ ν} (hd : (Fields.keys d).Nodup) (k : κ) (init : ν)
    (f : ν → ν) : (Fields.keys (upsert d k init f)).Nodup :=
  Fields.nodup_keys_assign hd k (f ((Fields.get d k).getD init))

omit [DecidableEq κ] in
/-- A loop that adds under the keys of its items knows these keys. -/
theorem mem_keys_run {step : σ → α → σ} (entries : σ → Fields κ ν) (key : α → κ)
    (hstep : ∀ s a k, k ∈ Fields.keys (entries (step s a)) ↔ k ∈ Fields.keys (entries s) ∨ k = key a)
    {s : σ} {items : List α} {k : κ} : k ∈ Fields.keys (entries (run step s items)) ↔
      k ∈ Fields.keys (entries s) ∨ k ∈ items.map key := by
  induction items generalizing s with
  | nil => simp
  | cons a items ih => rw [run_cons, ih, hstep, List.map_cons, List.mem_cons, or_assoc]

/-- Collecting the items of each key. -/
theorem getD_group_run (key : α → κ) (d : Fields κ (List α)) (items : List α) (k : κ) :
    (Fields.get (run (fun d a => upsert d (key a) [] fun found => found ++ [a]) d items) k).getD []
      = (Fields.get d k).getD [] ++ items.filter fun a => decide (key a = k) := by
  induction items generalizing d with
  | nil => simp
  | cons a items ih =>
    rw [run_cons, ih, getD_upsert]
    by_cases h : key a = k
    · rw [if_pos h, List.filter_cons_of_pos (by simpa using h), List.append_assoc]
      rfl
    · rw [if_neg h, List.filter_cons_of_neg (by simpa using h)]

/-- Summing the items of each key. -/
theorem getD_sum_run (key : α → κ) (worth : α → M) (d : Fields κ M) (items : List α) (k : κ) :
    (Fields.get (run (fun d a => upsert d (key a) 0 fun total => total + worth a) d items) k).getD 0
      = (Fields.get d k).getD 0 + totalAt key worth items k := by
  refine total_run (fun _ => True) (fun d k => (Fields.get d k).getD 0)
    (fun d a _ => ⟨trivial, fun k => ?_⟩) trivial items k
  rw [getD_upsert]
  split_ifs
  · rfl
  · rw [add_zero]

/-- A loop that may fail, and does not. -/
theorem mapM_eq_some {β : Type*} {f : α → Option β} {g : α → β} {items : List α}
    (h : ∀ a ∈ items, f a = some (g a)) : items.mapM f = some (items.map g) := by
  induction items with
  | nil => rfl
  | cons a items ih =>
    rw [List.mapM_cons, h a List.mem_cons_self, ih fun b hb => h b (List.mem_cons_of_mem a hb)]
    rfl

/-! ### Coarser keys -/

/-- Replacing the value of the only entry of a key changes the total of its group. -/
theorem totalAt_replace (coarse : κ → γ) (worth : ν → M) {d : Fields κ ν} (hd : (Fields.keys d).Nodup)
    {k : κ} {v v' : ν} {x : M} (hget : Fields.get d k = some v) (hv : worth v' = worth v + x) (g : γ) :
    totalAt (fun e => coarse e.1) (fun e => worth e.2) (d.map fun e => if e.1 = k then (e.1, v') else e) g
      = totalAt (fun e => coarse e.1) (fun e => worth e.2) d g + if coarse k = g then x else 0 := by
  induction d with
  | nil => exact absurd hget (by simp [Fields.get])
  | cons e d ih =>
    obtain ⟨hfresh, hd⟩ := List.nodup_cons.mp hd
    rw [List.map_cons, totalAt_cons, totalAt_cons]
    by_cases he : e.1 = k
    · have hrest : d.map (fun e => if e.1 = k then (e.1, v') else e) = d := by
        refine (List.map_congr_left fun e' he' => ?_).trans (List.map_id d)
        refine if_neg fun heq => hfresh ?_
        rw [he, ← heq]
        exact List.mem_map_of_mem he'
      have hvalue : e.2 = v := by
        rw [Fields.get, List.find?_cons_of_pos (by simpa using he)] at hget
        exact Option.some_inj.mp hget
      rw [hrest, if_pos he, he, hvalue, hv]
      split_ifs
      · exact add_right_comm _ _ _
      · rw [add_zero]
    · have hget' : Fields.get d k = some v := by
        rw [Fields.get, List.find?_cons_of_neg (by simpa using he)] at hget
        exact hget
      rw [if_neg he, ih hd hget', add_assoc]

/-- **A coarser key.** What is added to an entry is added to the total of the entry's group. -/
theorem totalAt_upsert (coarse : κ → γ) (worth : ν → M) {d : Fields κ ν}
    (hd : (Fields.keys d).Nodup) (k : κ) {init : ν} {f : ν → ν} {x : M} (hinit : worth init = 0)
    (hf : worth (f ((Fields.get d k).getD init)) = worth ((Fields.get d k).getD init) + x) (g : γ) :
    totalAt (fun e => coarse e.1) (fun e => worth e.2) (upsert d k init f) g
      = totalAt (fun e => coarse e.1) (fun e => worth e.2) d g + if coarse k = g then x else 0 := by
  by_cases hk : k ∈ Fields.keys d
  · obtain ⟨v, hget⟩ := Fields.get_of_mem hk
    rw [hget, Option.getD_some] at hf
    rw [upsert, Fields.assign, if_pos hk, hget, Option.getD_some]
    exact totalAt_replace coarse worth hd hget hf g
  · rw [Fields.get_of_notMem hk, Option.getD_none, hinit, zero_add] at hf
    rw [upsert, Fields.assign, if_neg hk, Fields.get_of_notMem hk, Option.getD_none, totalAt_append,
      totalAt_cons, totalAt_nil, add_zero, hf]

/-! ### Sorted keys -/

omit [DecidableEq κ] in
/-- The sorted keys do not depend on the order in which they came. -/
theorem sort_eq_of_mem_iff [LinearOrder κ] {ks ks' : List κ} (hks : ks.Nodup) (hks' : ks'.Nodup)
    (h : ∀ k, k ∈ ks ↔ k ∈ ks') : ks.insertionSort (· ≤ ·) = ks'.insertionSort (· ≤ ·) := by
  have hperm : ks.Perm ks' := (List.perm_ext_iff_of_nodup hks hks').mpr h
  refine List.Perm.eq_of_sortedLE List.sortedLE_insertionSort List.sortedLE_insertionSort ?_
  exact ((List.perm_insertionSort _ _).trans hperm).trans (List.perm_insertionSort _ _).symm

/-! ### Groups -/

theorem nodup_keys_group_run (key : α → κ) {d : Fields κ (List α)} (hd : (Fields.keys d).Nodup) (items : List α) :
    (Fields.keys (run (fun d a => upsert d (key a) [] fun found => found ++ [a]) d items)).Nodup := by
  induction items generalizing d with
  | nil => exact hd
  | cons a items ih => exact ih (nodup_keys_upsert hd _ _ _)

section Groups

open KeyedChanges

variable [LinearOrder κ] {key : α → κ} {items : List α}

/-- The items of each key, in the order of the keys. -/
def groups (key : α → κ) (items : List α) : List (κ × List α) :=
  byKey (run (fun d a => upsert d (key a) [] fun found => found ++ [a]) [] items)

/-- The groups, with what is in them. -/
theorem mem_groups {group : κ × List α} : group ∈ groups key items ↔
      group.1 ∈ items.map key ∧ group.2 = items.filter fun a => decide (key a = group.1) := by
  obtain ⟨k, rows⟩ := group
  have hnodup := nodup_keys_group_run key nodup_keys_nil items
  have hkeys := @mem_keys_run _ _ _ _ _ (fun d : Fields κ (List α) => d) key
    (fun d a k => mem_keys_upsert d (key a) k [] fun found => found ++ [a]) [] items k
  have hrows := getD_group_run key [] items k
  rw [Fields.get_nil, Option.getD_none, List.nil_append] at hrows
  unfold groups
  rw [(byKey_perm _).mem_iff, ← get_eq_some_iff hnodup]
  constructor
  · intro hget
    rw [hget, Option.getD_some] at hrows
    have hmem : k ∈ Fields.keys _ := List.mem_map_of_mem (Fields.mem_of_get hget)
    refine ⟨?_, hrows⟩
    rcases hkeys.mp hmem with hnil | hitems
    · cases hnil
    · exact hitems
  · rintro ⟨hitems, hfilter⟩
    obtain ⟨v, hget⟩ := Fields.get_of_mem (hkeys.mpr (.inr hitems))
    rw [hget, Option.getD_some] at hrows
    rw [hget, hrows, Option.some.injEq]
    exact hfilter.symm

theorem pairwise_groups (key : α → κ) (items : List α) : (groups key items).Pairwise fun e e' => e.1 < e'.1 := by
  have hnodup : ((groups key items).map Prod.fst).Nodup :=
    nodup_keys_byKey (nodup_keys_group_run key nodup_keys_nil items)
  rw [List.Nodup, List.pairwise_map] at hnodup
  exact ((pairwise_byKey _).and hnodup).imp fun h => lt_of_le_of_ne h.1 h.2

/-- What is made of the groups, where it says the key. -/
theorem mem_map_groups {ρ : Type*} {row : κ → List α → ρ} {x : ρ} : x ∈ (groups key items).map (fun e => row e.1 e.2) ↔
      ∃ k ∈ items.map key, row k (items.filter fun a => decide (key a = k)) = x := by
  rw [List.mem_map]
  constructor
  · rintro ⟨⟨k, rows⟩, hgroup, rfl⟩
    obtain ⟨hk, hrows⟩ := mem_groups.mp hgroup
    dsimp only at hk hrows
    exact ⟨k, hk, by rw [hrows]⟩
  · rintro ⟨k, hk, rfl⟩
    exact ⟨(k, _), mem_groups.mpr ⟨hk, rfl⟩, rfl⟩

omit [DecidableEq κ] in
/-- Lists in the order of their keys are equal if they have the same members. -/
theorem eq_of_pairwise_of_mem_iff {ρ : Type*} {start : ρ → κ} {l l' : List ρ}
    (h : l.Pairwise fun x x' => start x < start x') (h' : l'.Pairwise fun x x' => start x < start x')
    (hmem : ∀ x, x ∈ l ↔ x ∈ l') : l = l' := by
  have hnodup : ∀ {l : List ρ}, (l.Pairwise fun x x' => start x < start x') → l.Nodup := fun hl =>
    hl.imp fun hlt heq => absurd hlt (by rw [heq]; exact lt_irrefl _)
  have hperm : l.Perm l' := (List.perm_ext_iff_of_nodup (hnodup h) (hnodup h')).mpr hmem
  exact hperm.eq_of_pairwise (fun x x' _ _ hlt hlt' => absurd hlt hlt'.asymm) h h'

theorem pairwise_map_groups {ρ : Type*} {row : κ → List α → ρ} {start : ρ → κ} (hrow : ∀ k l, start (row k l) = k) :
    ((groups key items).map fun e => row e.1 e.2).Pairwise fun x x' => start x < start x' := by
  rw [List.pairwise_map]
  refine (pairwise_groups key items).imp fun h => ?_
  rw [hrow, hrow]
  exact h

/-- **Summaries of groups are equal** exactly if they have the same keys, and the same summary under each. -/
theorem map_groups_eq_iff {β ρ : Type*} {key' : β → κ} {items' : List β} {row : κ → List α → ρ}
    {row' : κ → List β → ρ} {start : ρ → κ} (hrow : ∀ k l, start (row k l) = k) (hrow' : ∀ k l, start (row' k l) = k) :
    (groups key items).map (fun e => row e.1 e.2) = (groups key' items').map (fun e => row' e.1 e.2) ↔
      (∀ k, k ∈ items.map key ↔ k ∈ items'.map key') ∧
        ∀ k ∈ items.map key, row k (items.filter fun a => decide (key a = k)) =
          row' k (items'.filter fun a => decide (key' a = k)) := by
  constructor
  · intro h
    have hmem : ∀ k, k ∈ items.map key → k ∈ items'.map key' ∧ row k (items.filter fun a => decide (key a = k)) =
          row' k (items'.filter fun a => decide (key' a = k)) := by
      intro k hk
      have hx := (@mem_map_groups _ _ _ _ key items _ row _).mpr ⟨k, hk, rfl⟩
      rw [h] at hx
      obtain ⟨k', hk', heq⟩ := mem_map_groups.mp hx
      obtain rfl : k' = k := by rw [← hrow' k', heq, hrow]
      exact ⟨hk', heq.symm⟩
    refine ⟨fun k => ⟨fun hk => (hmem k hk).1, fun hk => ?_⟩, fun k hk => (hmem k hk).2⟩
    have hx := (@mem_map_groups _ _ _ _ key' items' _ row' _).mpr ⟨k, hk, rfl⟩
    rw [← h] at hx
    obtain ⟨k', hk', heq⟩ := mem_map_groups.mp hx
    obtain rfl : k' = k := by rw [← hrow k', heq, hrow']
    exact hk'
  · rintro ⟨hkeys, hrows⟩
    refine eq_of_pairwise_of_mem_iff (pairwise_map_groups hrow) (pairwise_map_groups hrow') fun x => ?_
    rw [mem_map_groups, mem_map_groups]
    constructor
    · rintro ⟨k, hk, rfl⟩
      exact ⟨k, (hkeys k).mp hk, (hrows k hk).symm⟩
    · rintro ⟨k, hk, rfl⟩
      exact ⟨k, (hkeys k).mpr hk, hrows k ((hkeys k).mpr hk)⟩

end Groups

end EnergyCore.KeyedTotals
