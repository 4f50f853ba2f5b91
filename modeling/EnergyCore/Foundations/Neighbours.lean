import Mathlib.Data.List.Basic
import Mathlib.Order.Lattice

/-!
# Neighbours in a list

The pairs of neighbours of a list, and what a window on an ordered list leaves of them.

* `neighbours_filter` — the neighbours within a window are the pairs of neighbours that lie in the window.
-/

namespace EnergyCore.Neighbours

variable {α T : Type*}

/-- `pairwise(items)`. -/
def neighbours (items : List α) : List (α × α) := items.zip items.tail

@[simp] theorem neighbours_nil : neighbours ([] : List α) = [] := rfl

@[simp] theorem neighbours_cons_cons (a b : α) (items : List α) :
    neighbours (a :: b :: items) = (a, b) :: neighbours (b :: items) := rfl

variable [LinearOrder T] {time : α → T}

theorem lt_of_mem_neighbours {items : List α} (hitems : items.Pairwise fun a b => time a < time b)
    {p : α × α} (h : p ∈ neighbours items) : time p.1 < time p.2 := by
  induction items with
  | nil => exact absurd h List.not_mem_nil
  | cons a items ih =>
    obtain ⟨hfirst, hrest⟩ := List.pairwise_cons.mp hitems
    cases items with
    | nil => exact absurd h List.not_mem_nil
    | cons b items =>
      rcases List.mem_cons.mp h with rfl | h
      · exact hfirst b List.mem_cons_self
      · exact ih hrest h

/-- **A window on an ordered list** keeps the pairs of neighbours that lie in it: the window begins where
`opened` does and ends where `lasts` does. -/
theorem neighbours_filter {items : List α} (hitems : items.Pairwise fun a b => time a < time b)
    (opened lasts : α → Bool) (hfrom : ∀ a b, time a < time b → opened a = true → opened b = true)
    (huntil : ∀ a b, time a < time b → lasts b = true → lasts a = true) :
    neighbours (items.filter fun a => opened a && lasts a)
      = (neighbours items).filter fun p => opened p.1 && lasts p.2 := by
  induction items with
  | nil => rfl
  | cons a items ih =>
    obtain ⟨hfirst, hrest⟩ := List.pairwise_cons.mp hitems
    cases items with
    | nil =>
      rw [List.filter_cons]
      split_ifs
      · rfl
      · rfl
    | cons b items =>
      have hab := hfirst b List.mem_cons_self
      rw [neighbours_cons_cons, List.filter_cons, List.filter_cons (x := (a, b)), ← ih hrest]
      by_cases hin : (opened a && lasts a) = true
      · rw [if_pos hin]
        rw [Bool.and_eq_true] at hin
        by_cases hb : lasts b = true
        · have hkeep : (opened b && lasts b) = true := by
            rw [Bool.and_eq_true]
            exact ⟨hfrom a b hab hin.1, hb⟩
          have hpair : (opened a && lasts b) = true := by
            rw [Bool.and_eq_true]
            exact ⟨hin.1, hb⟩
          rw [if_pos hpair, List.filter_cons, if_pos hkeep, neighbours_cons_cons]
        · have hrest' : (b :: items).filter (fun c => opened c && lasts c) = [] := by
            rw [List.filter_eq_nil_iff]
            intro c hc hkeep
            rw [Bool.and_eq_true] at hkeep
            rcases List.mem_cons.mp hc with rfl | hc
            · exact hb hkeep.2
            · exact hb (huntil b c ((List.pairwise_cons.mp hrest).1 c hc) hkeep.2)
          have hpair : ¬ (opened a && lasts b) = true := by
            rw [Bool.and_eq_true]
            exact fun h => hb h.2
          rw [if_neg hpair, hrest']
          rfl
      · have hpair : ¬ (opened a && lasts b) = true := by
          rw [Bool.and_eq_true] at hin ⊢
          exact fun h => hin ⟨h.1, huntil a b hab h.2⟩
        rw [if_neg hin, if_neg hpair]

end EnergyCore.Neighbours
