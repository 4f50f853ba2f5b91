import Mathlib.Algebra.Order.Ring.WithTop
import Mathlib.Data.List.MinMax
import Mathlib.Data.List.Infix

/-!
# Exhaustive search

All the ways to pick so many items from a list in their order, where each item has to fit those picked before, and the
first of the best of them.

* `mem_choices_iff` — what the ways to pick are;
* `argmax_satisfies_iff` — when the first of the best has a property;
* `foldl_keep_eq_argmax` — a loop that keeps what is better ends with the first of the best.
-/

namespace EnergyCore.ExhaustiveSearch

variable {α β : Type*}

/-! ### Choices -/

/-- The ways to go on with so many more of the items, in the order of a search that goes on with an item before it
skips it. -/
def choices (fits : List α → α → Bool) : List α → ℕ → List α → List (List α)
  | _, 0, chosen => [chosen]
  | [], _ + 1, _ => []
  | item :: rest, n + 1, chosen =>
    (if fits chosen item then choices fits rest n (chosen ++ [item]) else []) ++ choices fits rest (n + 1) chosen

@[simp] theorem choices_zero (fits : List α → α → Bool) (items chosen : List α) :
    choices fits items 0 chosen = [chosen] := by
  cases items with
  | nil => rfl
  | cons item rest => rfl

variable {fits : List α → α → Bool} {items chosen plan : List α}

/-- There are no more choices than items. -/
theorem choices_eq_nil {n : ℕ} (h : items.length < n) : choices fits items n chosen = [] := by
  induction items generalizing n chosen with
  | nil =>
    cases n with
    | zero => exact absurd h (Nat.not_lt_zero _)
    | succ n => rfl
  | cons item rest ih =>
    rw [List.length_cons] at h
    cases n with
    | zero => exact absurd h (Nat.not_lt_zero _)
    | succ n =>
      have htaken : choices fits rest n (chosen ++ [item]) = [] := ih (by omega)
      have hskipped : choices fits rest (n + 1) chosen = [] := ih (by omega)
      rw [choices, htaken, hskipped, ite_self]
      rfl

/-- **What is chosen** is a sublist of so many items, each of which fits those before. -/
theorem mem_choices_iff {Good : List α → Prop} (hgood : ∀ l item, Good (l ++ [item]) ↔ Good l ∧ fits l item = true)
    (hchosen : Good chosen) {n : ℕ} : plan ∈ choices fits items n chosen ↔
      ∃ more, plan = chosen ++ more ∧ more.Sublist items ∧ more.length = n ∧ Good plan := by
  have hfirst : ∀ l more : List α, Good (l ++ more) → Good l := by
    intro l more
    induction more using List.reverseRecOn with
    | nil => exact fun h => by rwa [List.append_nil] at h
    | append_singleton more item ih =>
      intro h
      rw [← List.append_assoc] at h
      exact ih ((hgood _ item).mp h).1
  induction items generalizing n chosen with
  | nil =>
    cases n with
    | zero =>
      rw [choices_zero, List.mem_singleton]
      constructor
      · rintro rfl
        exact ⟨[], (List.append_nil _).symm, List.nil_sublist _, rfl, hchosen⟩
      · rintro ⟨more, rfl, hsub, -, -⟩
        rw [List.sublist_nil.mp hsub, List.append_nil]
    | succ n =>
      refine iff_of_false List.not_mem_nil ?_
      rintro ⟨more, -, hsub, hlength, -⟩
      rw [List.sublist_nil.mp hsub] at hlength
      cases hlength
  | cons item rest ih =>
    cases n with
    | zero =>
      rw [choices_zero, List.mem_singleton]
      constructor
      · rintro rfl
        exact ⟨[], (List.append_nil _).symm, List.nil_sublist _, rfl, hchosen⟩
      · rintro ⟨more, rfl, -, hlength, -⟩
        rw [List.length_eq_zero_iff.mp hlength, List.append_nil]
    | succ n =>
      rw [choices, List.mem_append]
      refine (or_congr Iff.rfl (ih (n := n + 1) hchosen)).trans ?_
      constructor
      · rintro (htaken | ⟨more, rfl, hsub, hlength, hplan⟩)
        · split_ifs at htaken with hfits
          · obtain ⟨more, rfl, hsub, rfl, hplan⟩ := (ih (n := n) ((hgood chosen item).mpr ⟨hchosen, hfits⟩)).mp htaken
            exact ⟨item :: more, (List.append_cons chosen item more).symm, hsub.cons_cons item, rfl, hplan⟩
          · exact absurd htaken List.not_mem_nil
        · exact ⟨more, rfl, hsub.cons item, hlength, hplan⟩
      · rintro ⟨more, rfl, hsub, hlength, hplan⟩
        cases hsub with
        | cons _ hsub => exact .inr ⟨more, rfl, hsub, hlength, hplan⟩
        | cons_cons _ hsub =>
          rename_i more
          rw [List.append_cons] at hplan
          have hnext := hfirst _ more hplan
          left
          rw [if_pos ((hgood chosen item).mp hnext).2]
          exact (ih (n := n) hnext).mpr ⟨more, List.append_cons chosen item more, hsub, Nat.succ.inj hlength, by
            rw [List.append_cons]; exact hplan⟩

/-! ### The first of the best -/

section

variable [LinearOrder β] [DecidableEq α] {f : α → β} {l : List α}

/-- One item of a list is better than another, or as good and earlier. -/
def Beats (f : α → β) (l : List α) (a b : α) : Prop := f b < f a ∨ (f b = f a ∧ l.idxOf a < l.idxOf b)

/-- **The first of the best** has a property if one with it beats all without it. -/
theorem argmax_satisfies_iff (p : α → Prop) : (∀ m ∈ l.argmax f, p m) ↔
      (l ≠ [] → ∃ a ∈ l, p a ∧ ∀ b ∈ l, ¬ p b → Beats f l a b) := by
  constructor
  · intro hbest hne
    obtain ⟨m, hm⟩ := Option.ne_none_iff_exists'.mp (mt (List.argmax_eq_none (f := f)).mp hne)
    obtain ⟨hmem, hle, hfirst⟩ := List.argmax_eq_some_iff.mp hm
    refine ⟨m, hmem, hbest m hm, fun b hb hnot => ?_⟩
    rcases (hle b hb).lt_or_eq with hlt | heq
    · exact .inl hlt
    · refine .inr ⟨heq, (hfirst b hb heq.ge).lt_of_ne fun hidx => hnot ?_⟩
      rw [← (List.idxOf_inj hmem).mp hidx]
      exact hbest m hm
  · intro hexists m hm
    obtain ⟨hmem, hle, hfirst⟩ := List.mem_argmax_iff.mp hm
    obtain ⟨a, ha, hpa, hbeats⟩ := hexists (List.ne_nil_of_mem hmem)
    by_contra hnot
    rcases hbeats m hmem hnot with hlt | ⟨heq, hidx⟩
    · exact absurd (hle a ha) (not_le.mpr hlt)
    · exact absurd (hfirst a ha heq.le) (not_le.mpr hidx)

/-- **The first of the best, or else something else**, has a property. -/
theorem argmax_getD_satisfies_iff (p : α → Prop) (fallback : α) : p ((l.argmax f).getD fallback) ↔
      (l ≠ [] → ∃ a ∈ l, p a ∧ ∀ b ∈ l, ¬ p b → Beats f l a b) ∧ (l = [] → p fallback) := by
  have hsatisfies := argmax_satisfies_iff (f := f) (l := l) p
  cases hbest : l.argmax f with
  | none =>
    have hnil := List.argmax_eq_none.mp hbest
    exact ⟨fun hp => ⟨fun hne => absurd hnil hne, fun _ => hp⟩, fun h => h.2 hnil⟩
  | some m =>
    have hne : l ≠ [] := List.ne_nil_of_mem (List.argmax_mem hbest)
    rw [hbest] at hsatisfies
    rw [Option.getD_some]
    constructor
    · intro hp
      exact ⟨hsatisfies.mp fun m' hm' => Option.some_inj.mp hm' ▸ hp, fun hnil => absurd hnil hne⟩
    · intro h
      exact hsatisfies.mpr h.1 m rfl

omit [DecidableEq α] in
/-- The first item of a list is the first of the best if none is better. -/
theorem argmax_cons_of_le {a : α} (hbest : ∀ b ∈ l, f b ≤ f a) : (a :: l).argmax f = some a := by
  rw [List.argmax_cons]
  cases hm : l.argmax f with
  | none => rfl
  | some m => exact if_neg (not_lt.mpr (hbest m (List.argmax_mem hm)))

omit [DecidableEq α] in
/-- **A loop that keeps what is better** ends with the first of the best. -/
theorem foldl_keep_eq_argmax (start : α) (l : List α) :
    l.foldl (fun (best : α × WithBot β) a => if (f a : WithBot β) > best.2 then (a, (f a : WithBot β)) else best)
        (start, ⊥) = (l.argmax f).elim (start, ⊥) fun a => (a, (f a : WithBot β)) := by
  induction l using List.reverseRecOn with
  | nil => rfl
  | append_singleton l a ih =>
    rw [List.foldl_append, List.foldl_cons, List.foldl_nil, ih, List.argmax_concat]
    cases l.argmax f with
    | none => exact if_pos (WithBot.bot_lt_coe _)
    | some m =>
      by_cases hbetter : f m < f a
      · simp only [Option.elim_some, gt_iff_lt, WithBot.coe_lt_coe, if_pos hbetter]
      · simp only [Option.elim_some, gt_iff_lt, WithBot.coe_lt_coe, if_neg hbetter]

end

/-! ### Sorted items -/

/-- Members of a sorted list with increasing keys are a sublist of it. -/
theorem sublist_of_pairwise_lt [LinearOrder β] {key : α → β} {l sorted : List α}
    (hsorted : sorted.Pairwise fun a b => key a ≤ key b) (hkeys : l.Pairwise fun a b => key a < key b)
    (hmem : l ⊆ sorted) : l.Sublist sorted := by
  induction sorted generalizing l with
  | nil => rw [List.subset_nil.mp hmem]
  | cons first sorted ih =>
    cases l with
    | nil => exact List.nil_sublist _
    | cons a l =>
      have hrest : l ⊆ sorted := by
        intro b hb
        have hlt : key a < key b := List.rel_of_pairwise_cons hkeys hb
        rcases List.mem_cons.mp (hmem (List.mem_cons_of_mem _ hb)) with rfl | hin
        · exfalso
          rcases List.mem_cons.mp (hmem List.mem_cons_self) with rfl | hfirst
          · exact lt_irrefl _ hlt
          · exact absurd (List.rel_of_pairwise_cons hsorted hfirst) (not_le.mpr hlt)
        · exact hin
      rcases List.mem_cons.mp (hmem List.mem_cons_self) with rfl | hfirst
      · exact (ih hsorted.of_cons hkeys.of_cons hrest).cons_cons a
      · exact (ih hsorted.of_cons hkeys (List.cons_subset.mpr ⟨hfirst, hrest⟩)).cons first

end EnergyCore.ExhaustiveSearch
