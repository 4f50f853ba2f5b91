import Mathlib.Data.List.MinMax
import Mathlib.Data.List.Nodup
import Mathlib.Data.List.Range
import Mathlib.Logic.Function.Basic

/-!
# Tables with at most one open row per owner

Rows are numbered as they are inserted, belong to an owner, and are open until they are closed. A table is
well kept if its numbers are in order and no owner has two open rows.

* `WellKept.append`, `WellKept.update` — inserting and updating keep a table well kept;
* `WellKept.openRow_eq` — the open row of an owner is the one that is looked up.
-/

namespace EnergyCore.OpenRows

/-- The columns of a table that the lookups read. -/
structure Schema (ρ κ T : Type*) where
  key : ρ → ℕ
  owner : ρ → κ
  isOpen : ρ → Bool
  openedAt : ρ → T

variable {ρ κ T : Type*}

/-! ### Rows and numbers -/

namespace Schema

/-- The row of a number, rewritten. -/
def updateRow (S : Schema ρ κ T) (rows : List ρ) (i : ℕ) (f : ρ → ρ) : List ρ :=
  rows.map fun r => if S.key r = i then f r else r

/-- The numbers are in order, and no owner has two open rows. -/
structure WellKept (S : Schema ρ κ T) (rows : List ρ) : Prop where
  keys : rows.map S.key = List.range rows.length
  unique : ∀ r ∈ rows, ∀ r' ∈ rows, S.isOpen r = true → S.isOpen r' = true →
    S.owner r = S.owner r' → r = r'

end Schema

variable {S : Schema ρ κ T} {rows : List ρ}

theorem mem_updateRow {i : ℕ} {f : ρ → ρ} {r' : ρ} :
    r' ∈ S.updateRow rows i f ↔ ∃ r ∈ rows, (if S.key r = i then f r else r) = r' := by
  rw [Schema.updateRow, List.mem_map]

@[simp] theorem updateRow_id (rows : List ρ) (i : ℕ) : S.updateRow rows i (fun r => r) = rows := by
  rw [Schema.updateRow]
  simp only [ite_self, List.map_id_fun', id_eq]

@[simp] theorem length_updateRow (rows : List ρ) (i : ℕ) (f : ρ → ρ) :
    (S.updateRow rows i f).length = rows.length := by
  rw [Schema.updateRow, List.length_map]

namespace Schema.WellKept

theorem nil (S : Schema ρ κ T) : S.WellKept [] where
  keys := rfl
  unique := by simp

theorem key_lt (h : S.WellKept rows) {r : ρ} (hr : r ∈ rows) : S.key r < rows.length := by
  have hmem : S.key r ∈ rows.map S.key := List.mem_map_of_mem hr
  rw [h.keys, List.mem_range] at hmem
  exact hmem

theorem key_inj (h : S.WellKept rows) {r r' : ρ} (hr : r ∈ rows) (hr' : r' ∈ rows)
    (hkey : S.key r = S.key r') : r = r' := by
  have hnodup : (rows.map S.key).Nodup := by
    rw [h.keys]
    exact List.nodup_range
  exact List.inj_on_of_nodup_map hnodup hr hr' hkey

/-- An update keeps numbers and owners, and opens nothing. -/
theorem update (h : S.WellKept rows) (i : ℕ) {f : ρ → ρ} (hkey : ∀ r, S.key (f r) = S.key r)
    (howner : ∀ r, S.owner (f r) = S.owner r) (hopen : ∀ r, S.isOpen (f r) = true → S.isOpen r = true) :
    S.WellKept (S.updateRow rows i f) where
  keys := by
    have hkeys : (fun r => S.key (if S.key r = i then f r else r)) = S.key := by
      funext r
      split_ifs
      · exact hkey r
      · rfl
    rw [length_updateRow, ← h.keys, Schema.updateRow, List.map_map]
    exact congrArg (rows.map ·) hkeys
  unique := by
    intro a ha b hb haopen hbopen hown
    obtain ⟨r, hr, rfl⟩ := mem_updateRow.mp ha
    obtain ⟨r', hr', rfl⟩ := mem_updateRow.mp hb
    have hopen' : ∀ r, S.isOpen (if S.key r = i then f r else r) = true → S.isOpen r = true := by
      intro r h
      split_ifs at h
      · exact hopen r h
      · exact h
    have howner' : ∀ r, S.owner (if S.key r = i then f r else r) = S.owner r := by
      intro r
      split_ifs
      · exact howner r
      · rfl
    rw [howner' r, howner' r'] at hown
    rw [h.unique r hr r' hr' (hopen' r haopen) (hopen' r' hbopen) hown]

end Schema.WellKept

/-! ### The open row of an owner -/

variable [DecidableEq κ] [LinearOrder T]

/-- The open row of an owner, the latest if there are several. -/
def Schema.openRow (S : Schema ρ κ T) (rows : List ρ) (k : κ) : Option ρ :=
  (rows.filter fun r => decide (S.owner r = k) && S.isOpen r).argmax S.openedAt

theorem mem_of_openRow {k : κ} {r : ρ} (h : S.openRow rows k = some r) :
    r ∈ rows ∧ S.owner r = k ∧ S.isOpen r = true := by
  have hmem := List.argmax_mem h
  rw [List.mem_filter, Bool.and_eq_true, decide_eq_true_eq] at hmem
  exact hmem

theorem openRow_eq_none_iff {k : κ} : S.openRow rows k = none ↔ ∀ r ∈ rows, S.owner r = k → S.isOpen r = false := by
  rw [Schema.openRow, List.argmax_eq_none, List.filter_eq_nil_iff]
  constructor
  · intro h r hr howner
    have hr' := h r hr
    rw [Bool.and_eq_true, decide_eq_true_eq, not_and, Bool.not_eq_true] at hr'
    exact hr' howner
  · intro h r hr hand
    rw [Bool.and_eq_true, decide_eq_true_eq] at hand
    exact absurd hand.2 (by rw [h r hr hand.1]; exact Bool.false_ne_true)

namespace Schema.WellKept

/-- The open row of an owner is the one that is looked up. -/
theorem openRow_eq (h : S.WellKept rows) {r : ρ} (hr : r ∈ rows) (hopen : S.isOpen r = true) :
    S.openRow rows (S.owner r) = some r := by
  cases hrow : S.openRow rows (S.owner r) with
  | none =>
    have hclosed := openRow_eq_none_iff.mp hrow r hr rfl
    rw [hopen] at hclosed
    exact absurd hclosed (by simp)
  | some r' =>
    obtain ⟨hr', howner, hopen'⟩ := mem_of_openRow hrow
    rw [h.unique r' hr' r hr hopen' hopen howner]

/-- A row is inserted under the next number, for an owner that has none open. -/
theorem append (h : S.WellKept rows) {r : ρ} (hkey : S.key r = rows.length)
    (hnone : S.openRow rows (S.owner r) = none) : S.WellKept (rows ++ [r]) where
  keys := by
    rw [List.map_append, h.keys, List.length_append, List.length_singleton, List.range_succ, List.map_singleton, hkey]
  unique := by
    have hclosed := openRow_eq_none_iff.mp hnone
    intro a ha b hb haopen hbopen howner
    rw [List.mem_append, List.mem_singleton] at ha hb
    rcases ha with ha | rfl
    · rcases hb with hb | rfl
      · exact h.unique a ha b hb haopen hbopen howner
      · rw [hclosed a ha howner] at haopen
        exact absurd haopen (by simp)
    · rcases hb with hb | rfl
      · rw [hclosed b hb howner.symm] at hbopen
        exact absurd hbopen (by simp)
      · rfl

omit [LinearOrder T] in
/-- No owner has more than one open row. -/
theorem length_open_le_one (h : S.WellKept rows) (k : κ) :
    (rows.filter fun r => decide (S.owner r = k) && S.isOpen r).length ≤ 1 := by
  have hnodup : rows.Nodup := by
    refine List.Nodup.of_map S.key ?_
    rw [h.keys]
    exact List.nodup_range
  have hfilter := hnodup.filter fun r => decide (S.owner r = k) && S.isOpen r
  have hmem : ∀ r ∈ rows.filter (fun r => decide (S.owner r = k) && S.isOpen r),
      r ∈ rows ∧ S.owner r = k ∧ S.isOpen r = true := by
    intro r hr
    rwa [List.mem_filter, Bool.and_eq_true, decide_eq_true_eq] at hr
  rcases hrows : rows.filter (fun r => decide (S.owner r = k) && S.isOpen r)
    with _ | ⟨a, _ | ⟨b, rest⟩⟩
  · exact Nat.zero_le 1
  · exact Nat.le_refl 1
  · rw [hrows] at hfilter hmem
    obtain ⟨ha, haown, haopen⟩ := hmem a (by simp)
    obtain ⟨hb, hbown, hbopen⟩ := hmem b (by simp)
    have hab := h.unique a ha b hb haopen hbopen (haown.trans hbown.symm)
    exact absurd hfilter (by simp [hab])

/-- An update that opens and closes nothing keeps the open row of an owner. -/
theorem openRow_update (h : S.WellKept rows) {k : κ} {r : ρ} (hrow : S.openRow rows k = some r)
    (i : ℕ) {f : ρ → ρ} (hkey : ∀ r, S.key (f r) = S.key r)
    (howner : ∀ r, S.owner (f r) = S.owner r) (hopen : ∀ r, S.isOpen (f r) = S.isOpen r) :
    S.openRow (S.updateRow rows i f) k = some (if S.key r = i then f r else r) := by
  obtain ⟨hr, rfl, hisOpen⟩ := mem_of_openRow hrow
  have hkept := h.update i hkey howner fun r hr => (hopen r).symm.trans hr
  have hmem : (if S.key r = i then f r else r) ∈ S.updateRow rows i f := mem_updateRow.mpr ⟨r, hr, rfl⟩
  have hstill : S.isOpen (if S.key r = i then f r else r) = true := by
    split_ifs
    · exact (hopen r).trans hisOpen
    · exact hisOpen
  have hsame : S.owner (if S.key r = i then f r else r) = S.owner r := by
    split_ifs
    · exact howner r
    · rfl
  rw [← hsame]
  exact hkept.openRow_eq hmem hstill

/-- Closing the open row of an owner leaves none. -/
theorem openRow_update_of_closed (h : S.WellKept rows) {k : κ} {r : ρ}
    (hrow : S.openRow rows k = some r) {f : ρ → ρ} (hclosed : ∀ r, S.isOpen (f r) = false) :
    S.openRow (S.updateRow rows (S.key r) f) k = none := by
  obtain ⟨hr, hown, hopen⟩ := mem_of_openRow hrow
  rw [openRow_eq_none_iff]
  intro r' hr' hown'
  obtain ⟨a, ha, rfl⟩ := mem_updateRow.mp hr'
  split_ifs at hown' ⊢ with hkey
  · exact hclosed a
  · by_contra hne
    rw [Bool.not_eq_false] at hne
    exact hkey (congrArg S.key (h.unique a ha r hr hne hopen (hown'.trans hown.symm)))

end Schema.WellKept

/-! ### One entry per owner -/

omit [LinearOrder T] in
/-- A loop that writes one entry for each row leaves at a row's owner what the row wrote, if the rows of
that owner agree. -/
theorem foldl_update_of_mem {β : Type*} (owner : ρ → κ) (value : ρ → β) {r : ρ} (hr : r ∈ rows)
    (hsame : ∀ r' ∈ rows, owner r' = owner r → value r' = value r) (f : κ → β) :
    rows.foldl (fun f r => Function.update f (owner r) (value r)) f (owner r) = value r := by
  suffices h : ∀ l : List ρ, (∀ r' ∈ l, owner r' = owner r → value r' = value r) →
      ∀ f : κ → β, (r ∈ l ∨ f (owner r) = value r) →
        l.foldl (fun f r => Function.update f (owner r) (value r)) f (owner r) = value r from
    h rows hsame f (.inl hr)
  intro l hl
  induction l with
  | nil =>
    intro f hf
    exact hf.resolve_left (by simp)
  | cons a l ih =>
    intro f hf
    rw [List.foldl_cons]
    refine ih (fun r' hr' => hl r' (List.mem_cons_of_mem a hr')) _ ?_
    by_cases hown : owner a = owner r
    · refine .inr ?_
      rw [hown, Function.update_self]
      exact hl a List.mem_cons_self hown
    · rw [Function.update_of_ne (Ne.symm hown)]
      rcases hf with hf | hf
      · rcases List.mem_cons.mp hf with rfl | hf
        · exact absurd rfl hown
        · exact .inl hf
      · exact .inr hf

end EnergyCore.OpenRows
