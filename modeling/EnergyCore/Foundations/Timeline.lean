import Mathlib.Data.Set.BooleanAlgebra
import Mathlib.Data.Set.Disjoint
import Mathlib.Order.CompletePartialOrder
import Mathlib.Order.Interval.Set.Defs

/-!
# Timelines

A list of items, each with a start and a stop, that follow one another without overlap inside a window.

* `IsTimeline.concat` — a timeline grows by an item that starts where the window ended;
* `IsTimeline.pairwise_disjoint` — the items of a timeline are disjoint in time.
-/

namespace EnergyCore.Timeline

variable {α T : Type*} [LinearOrder T]

/-- Items of positive duration within `[lo, hi]`, each starting no earlier than the ones before it
stopped. -/
structure IsTimeline (start stop : α → T) (lo hi : T) (items : List α) : Prop where
  positive : ∀ a ∈ items, start a < stop a
  ordered : items.Pairwise fun a b => stop a ≤ start b
  starts : ∀ a ∈ items, lo ≤ start a
  stops : ∀ a ∈ items, stop a ≤ hi

namespace IsTimeline

variable {start stop : α → T} {lo hi : T} {items : List α}

theorem nil (lo hi : T) : IsTimeline start stop lo hi [] where
  positive := by simp
  ordered := List.Pairwise.nil
  starts := by simp
  stops := by simp

/-- The window may end later. -/
theorem mono_right (h : IsTimeline start stop lo hi items) {hi' : T} (hhi : hi ≤ hi') :
    IsTimeline start stop lo hi' items where
  positive := h.positive
  ordered := h.ordered
  starts := h.starts
  stops := fun a ha => (h.stops a ha).trans hhi

/-- An item that starts after the window ended continues the timeline. -/
theorem concat (h : IsTimeline start stop lo hi items) {a : α} (hlo : lo ≤ start a)
    (hhi : hi ≤ start a) (hpos : start a < stop a) : IsTimeline start stop lo (stop a) (items ++ [a]) where
  positive := by
    intro b hb
    rcases List.mem_append.mp hb with hb | hb
    · exact h.positive b hb
    · rw [List.mem_singleton.mp hb]
      exact hpos
  ordered := by
    refine List.pairwise_append.mpr ⟨h.ordered, List.pairwise_singleton _ _, ?_⟩
    intro b hb c hc
    rw [List.mem_singleton.mp hc]
    exact (h.stops b hb).trans hhi
  starts := by
    intro b hb
    rcases List.mem_append.mp hb with hb | hb
    · exact h.starts b hb
    · rw [List.mem_singleton.mp hb]
      exact hlo
  stops := by
    intro b hb
    rcases List.mem_append.mp hb with hb | hb
    · exact (h.stops b hb).trans (hhi.trans hpos.le)
    · rw [List.mem_singleton.mp hb]

/-- No instant lies in two items. -/
theorem pairwise_disjoint (h : IsTimeline start stop lo hi items) :
    items.Pairwise fun a b => Disjoint (Set.Ico (start a) (stop a)) (Set.Ico (start b) (stop b)) := by
  refine h.ordered.imp ?_
  intro a b hab
  rw [Set.disjoint_left]
  intro t hta htb
  exact absurd (hta.2.trans_le hab) (not_lt.mpr htb.1)

/-- The window shrinks to the items: any bound on their stops will do. -/
theorem of_stops_le (h : IsTimeline start stop lo hi items) {hi' : T}
    (hstops : ∀ a ∈ items, stop a ≤ hi') : IsTimeline start stop lo hi' items where
  positive := h.positive
  ordered := h.ordered
  starts := h.starts
  stops := hstops

end IsTimeline

end EnergyCore.Timeline
