import Mathlib.Data.List.Basic
import Mathlib.Order.Lattice
import Mathlib.Tactic.SplitIfs

/-!
# The best of a list

A loop that keeps the first item whose rank exceeds that of the best so far.

* `bestByRank_mem`, `le_rank_bestByRank` — it ends with an item of the highest rank, or with what it started from;
* `rank_bestByRank_mono` — a longer list has no lower best.
-/

namespace EnergyCore.BestByRank

variable {α R : Type*} [LinearOrder R] {rank : α → R}

/-- The first item of the highest rank that exceeds that of `start`, or `start`. -/
def bestByRank (rank : α → R) (start : α) (items : List α) : α :=
  items.foldl (fun best item => if rank item > rank best then item else best) start

theorem bestByRank_cons (start item : α) (items : List α) : bestByRank rank start (item :: items)
      = bestByRank rank (if rank item > rank start then item else start) items := rfl

variable (rank) in
theorem bestByRank_mem (start : α) (items : List α) :
    bestByRank rank start items = start ∨ bestByRank rank start items ∈ items := by
  induction items generalizing start with
  | nil => exact .inl rfl
  | cons item items ih =>
    rw [bestByRank_cons]
    rcases ih (if rank item > rank start then item else start) with h | h
    · rw [h]
      split_ifs
      · exact .inr List.mem_cons_self
      · exact .inl rfl
    · exact .inr (List.mem_cons_of_mem item h)

theorem rank_start_le (start : α) (items : List α) : rank start ≤ rank (bestByRank rank start items) := by
  induction items generalizing start with
  | nil => exact le_rfl
  | cons item items ih =>
    rw [bestByRank_cons]
    refine le_trans ?_ (ih _)
    split_ifs with h
    · exact le_of_lt h
    · exact le_rfl

theorem le_rank_bestByRank (start : α) {items : List α} {item : α} (h : item ∈ items) :
    rank item ≤ rank (bestByRank rank start items) := by
  induction items generalizing start with
  | nil => exact absurd h List.not_mem_nil
  | cons head items ih =>
    rw [bestByRank_cons]
    rcases List.mem_cons.mp h with rfl | h
    · refine le_trans ?_ (rank_start_le _ items)
      split_ifs with hbest
      · exact le_rfl
      · exact not_lt.mp hbest
    · exact ih _ h

variable (rank) in
/-- **More items, no lower best.** -/
theorem rank_bestByRank_mono (start : α) {items more : List α} (h : items ⊆ more) :
    rank (bestByRank rank start items) ≤ rank (bestByRank rank start more) := by
  rcases bestByRank_mem rank start items with hbest | hbest
  · rw [hbest]
    exact rank_start_le start more
  · exact le_rank_bestByRank start (h hbest)

end EnergyCore.BestByRank
