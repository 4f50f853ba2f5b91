import EnergyCore.Foundations.KeywordFields
import EnergyCore.Foundations.StepRun
import Mathlib.Data.List.Induction
import Mathlib.Order.Lattice

/-!
# Ranked entries

Loops over items that put a value under each of their keys of a dictionary, unless the value that is there already has
a higher rank.

* `get_spread` — what one item does to a key;
* `get_run_spread_iff` — under each key stands the value of the last of the items of the highest rank.
-/

namespace EnergyCore.RankedEntries

open KeywordFields StepRun

variable {α κ ν R : Type*} [LinearOrder R] {rank : ν → R} {keys : α → List κ} {value : α → κ → ν}

/-! ### Winners -/

/-- The item is the last of those of the highest rank that have the key. -/
def Wins (rank : ν → R) (keys : α → List κ) (value : α → κ → ν) (items : List α) (k : κ) (a : α) : Prop :=
  ∃ before after, items = before ++ a :: after ∧ k ∈ keys a
    ∧ (∀ b ∈ before, k ∈ keys b → rank (value b k) ≤ rank (value a k))
    ∧ ∀ b ∈ after, k ∈ keys b → rank (value b k) < rank (value a k)

variable {items : List α} {a b : α} {k k' : κ}

theorem Wins.mem (h : Wins rank keys value items k a) : a ∈ items ∧ k ∈ keys a := by
  obtain ⟨before, after, rfl, hkey, -⟩ := h
  exact ⟨List.mem_append_right _ List.mem_cons_self, hkey⟩

/-- No item that has the key is of a higher rank. -/
theorem Wins.rank_le (h : Wins rank keys value items k a) (hb : b ∈ items) (hkey : k ∈ keys b) :
    rank (value b k) ≤ rank (value a k) := by
  obtain ⟨before, after, rfl, -, hbefore, hafter⟩ := h
  rcases List.mem_append.mp hb with hb | hb
  · exact hbefore b hb hkey
  · rcases List.mem_cons.mp hb with rfl | hb
    · exact le_rfl
    · exact (hafter b hb hkey).le

/-- A further item wins, or leaves the winner if it is of a lower rank. -/
theorem wins_concat_iff : Wins rank keys value (items ++ [b]) k a ↔
    (a = b ∧ k ∈ keys b ∧ ∀ c ∈ items, k ∈ keys c → rank (value c k) ≤ rank (value b k))
      ∨ Wins rank keys value items k a ∧ (k ∈ keys b → rank (value b k) < rank (value a k)) := by
  constructor
  · rintro ⟨before, after, heq, hkey, hbefore, hafter⟩
    rcases List.eq_nil_or_concat after with rfl | ⟨after, last, rfl⟩
    · obtain ⟨rfl, hlast⟩ := List.append_inj' heq rfl
      obtain rfl := (List.singleton_inj.mp hlast).symm
      exact .inl ⟨rfl, hkey, hbefore⟩
    · rw [List.concat_eq_append] at heq hafter
      rw [← List.cons_append, ← List.append_assoc] at heq
      obtain ⟨rfl, hlast⟩ := List.append_inj' heq rfl
      obtain rfl := List.singleton_inj.mp hlast
      refine .inr ⟨⟨before, after, rfl, hkey, hbefore, fun c hc => ?_⟩, ?_⟩
      · exact hafter c (List.mem_append_left _ hc)
      · exact hafter b (List.mem_append_right _ List.mem_cons_self)
  · rintro (⟨rfl, hkey, hle⟩ | ⟨⟨before, after, rfl, hkey, hbefore, hafter⟩, hlt⟩)
    · exact ⟨items, [], rfl, hkey, hle, fun c hc => absurd hc List.not_mem_nil⟩
    · refine ⟨before, after ++ [b], by rw [List.append_assoc, List.cons_append], hkey, hbefore, fun c hc => ?_⟩
      rcases List.mem_append.mp hc with hc | hc
      · exact hafter c hc
      · rw [List.mem_singleton.mp hc]
        exact hlt

/-- Some item wins a key that some item has. -/
theorem exists_wins (rank : ν → R) (value : α → κ → ν) (h : ∃ c ∈ items, k ∈ keys c) :
    ∃ a, Wins rank keys value items k a := by
  induction items using List.reverseRecOn with
  | nil =>
    obtain ⟨c, hc, -⟩ := h
    exact absurd hc List.not_mem_nil
  | append_singleton items b ih =>
    simp only [wins_concat_iff]
    by_cases hb : k ∈ keys b ∧ ∀ c ∈ items, k ∈ keys c → rank (value c k) ≤ rank (value b k)
    · exact ⟨b, .inl ⟨rfl, hb⟩⟩
    · have hitems : ∃ c ∈ items, k ∈ keys c := by
        by_contra hnone
        push Not at hnone
        obtain ⟨c, hc, hkey⟩ := h
        rcases List.mem_append.mp hc with hc | hc
        · exact hnone c hc hkey
        · rw [List.mem_singleton.mp hc] at hkey
          exact hb ⟨hkey, fun c hc hmem => absurd hmem (hnone c hc)⟩
      obtain ⟨a, ha⟩ := ih hitems
      refine ⟨a, .inr ⟨ha, fun hkey => ?_⟩⟩
      by_contra hlt
      exact hb ⟨hkey, fun c hc hmem => (ha.rank_le hc hmem).trans (not_lt.mp hlt)⟩

/-! ### Loops -/

variable [DecidableEq κ] {d : Fields κ ν} {v : ν}

/-- An assignment that keeps a value of a higher rank. -/
def keepBest (rank : ν → R) (d : Fields κ ν) (k : κ) (v : ν) : Fields κ ν :=
  if (d.get k).all (fun old => decide (rank old ≤ rank v)) = true then d.assign k v else d

/-- One item, which has a value for each of its keys. -/
def spread (rank : ν → R) (keys : α → List κ) (value : α → κ → ν) (d : Fields κ ν) (a : α) : Fields κ ν :=
  (keys a).foldl (fun d k => keepBest rank d k (value a k)) d

theorem get_keepBest : (keepBest rank d k' v).get k
    = if k' = k ∧ (d.get k).all (fun old => decide (rank old ≤ rank v)) = true then some v else d.get k := by
  unfold keepBest
  by_cases hkey : k' = k
  · subst hkey
    simp only [true_and]
    split_ifs
    · exact Fields.get_assign_self d k' v
    · rfl
  · simp only [hkey, false_and, if_false]
    split_ifs
    · exact Fields.get_assign_of_ne d (Ne.symm hkey) v
    · rfl

theorem nodup_keys_keepBest (h : d.keys.Nodup) : (keepBest rank d k v).keys.Nodup := by
  unfold keepBest
  split_ifs
  · exact Fields.nodup_keys_assign h k v
  · exact h

theorem nodup_keys_run_spread (items : List α) (h : d.keys.Nodup) :
    (run (spread rank keys value) d items).keys.Nodup := by
  induction items generalizing d with
  | nil => exact h
  | cons a items ih =>
    refine ih ?_
    unfold spread
    generalize keys a = those
    induction those generalizing d with
    | nil => exact h
    | cons k those ih => exact ih (nodup_keys_keepBest h)

/-- **One item** puts its value under its keys, where no value of a higher rank stands. -/
theorem get_spread (hnodup : (keys a).Nodup) : (spread rank keys value d a).get k
    = if k ∈ keys a ∧ (d.get k).all (fun old => decide (rank old ≤ rank (value a k))) = true then some (value a k)
      else d.get k := by
  unfold spread
  generalize keys a = those at hnodup
  induction those generalizing d with
  | nil => exact (if_neg fun h => absurd h.1 List.not_mem_nil).symm
  | cons k' those ih =>
    obtain ⟨hfresh, hnodup⟩ := List.nodup_cons.mp hnodup
    rw [List.foldl_cons, ih hnodup, get_keepBest]
    by_cases hkey : k' = k
    · subst hkey
      simp only [hfresh, false_and, if_false, true_and, List.mem_cons_self]
    · have hmem : k ∈ k' :: those ↔ k ∈ those := by
        rw [List.mem_cons, or_iff_right (Ne.symm hkey)]
      simp only [hkey, false_and, if_false, hmem]

/-- **Under each key** stands the value of the last of the items of the highest rank. -/
theorem get_run_spread_iff (hnodup : ∀ a ∈ items, (keys a).Nodup) :
    (run (spread rank keys value) [] items).get k = some v ↔ ∃ a, Wins rank keys value items k a ∧ v = value a k := by
  induction items using List.reverseRecOn generalizing v with
  | nil =>
    refine iff_of_false (fun h => ?_) ?_
    · cases h
    · rintro ⟨a, h, -⟩
      exact absurd h.mem.1 List.not_mem_nil
  | append_singleton items b ih =>
    have hitems : ∀ {v}, (run (spread rank keys value) [] items).get k = some v
        ↔ ∃ a, Wins rank keys value items k a ∧ v = value a k :=
      ih fun a ha => hnodup a (List.mem_append_left _ ha)
    rw [run_append, run_cons, run_nil, get_spread (hnodup b (List.mem_append_right _ List.mem_cons_self))]
    simp only [wins_concat_iff]
    by_cases hkey : k ∈ keys b
    · have hall : ((run (spread rank keys value) [] items).get k).all
          (fun old => decide (rank old ≤ rank (value b k))) = true
          ↔ ∀ c ∈ items, k ∈ keys c → rank (value c k) ≤ rank (value b k) := by
        rw [Option.all_eq_true]
        constructor
        · intro hle c hc hmem
          obtain ⟨a, ha⟩ := exists_wins rank value ⟨c, hc, hmem⟩
          exact (ha.rank_le hc hmem).trans (of_decide_eq_true (hle _ (hitems.mpr ⟨a, ha, rfl⟩)))
        · intro hle old hold
          obtain ⟨a, ha, rfl⟩ := hitems.mp hold
          exact decide_eq_true (hle a ha.mem.1 ha.mem.2)
      simp only [hkey, hall, true_and, true_imp_iff]
      split_ifs with hle
      · rw [Option.some_inj]
        constructor
        · rintro rfl
          exact ⟨b, .inl ⟨rfl, hle⟩, rfl⟩
        · rintro ⟨a, ⟨rfl, -⟩ | ⟨ha, hlt⟩, rfl⟩
          · rfl
          · exact absurd (hle a ha.mem.1 ha.mem.2) (not_le.mpr hlt)
      · rw [hitems]
        constructor
        · rintro ⟨a, ha, rfl⟩
          refine ⟨a, .inr ⟨ha, not_le.mp fun hba => hle fun c hc hmem => ?_⟩, rfl⟩
          exact (ha.rank_le hc hmem).trans hba
        · rintro ⟨a, ⟨-, hle'⟩ | ⟨ha, -⟩, rfl⟩
          · exact absurd hle' hle
          · exact ⟨a, ha, rfl⟩
    · simp only [hkey, false_and, if_false, and_false, false_or, false_imp_iff, and_true]
      exact hitems

end EnergyCore.RankedEntries
