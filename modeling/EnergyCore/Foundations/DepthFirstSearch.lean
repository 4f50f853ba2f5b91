import Mathlib.Data.List.Nodup
import Mathlib.Data.List.Perm.Subperm
import Mathlib.Data.List.Chain
import Mathlib.Logic.Relation

/-!
# Depth-first search with marks

A search that marks the nodes it is inside of and the nodes it is done with, stops at a node that it is inside
of already, and lists the nodes in the order in which it is done with them. Nothing but the marks bounds the
depth of the search.

* `visitEach_spec` — the list has every node once, after the nodes that it leads to;
* `visitEach_raised` — a search that stops has found a cycle, and `not_transGen_of_listed` — one that ends
  has met none;
* `visitEach_ne_tooDeep` — the depth of a search is at most the number of nodes.
-/

namespace EnergyCore.DepthFirstSearch

open Relation

/-- How a search stops: at a node that it is inside of, or where it is not followed deeper. -/
inductive Stop (ε : Type*) where
  | raised (e : ε)
  | tooDeep
  deriving Repr, DecidableEq

def Stop.map {ε ε' : Type*} (f : ε → ε') : Stop ε → Stop ε'
  | raised e => raised (f e)
  | tooDeep => tooDeep

/-- The marks of a search, and the nodes that it is done with, in order. -/
structure Marks (α : Type*) where
  visiting : List α := []
  visited : List α := []
  ordered : List α := []
  deriving Repr, DecidableEq

section

variable {α : Type*}

/-- One node after another. -/
def visitEach (visit : α → Marks α → Except (Stop α) (Marks α)) :
    List α → Marks α → Except (Stop α) (Marks α)
  | [], m => .ok m
  | x :: xs, m => (visit x m).bind (visitEach visit xs)

/-- The search from a node, followed to a given depth. -/
def visit [DecidableEq α] (next : α → List α) : ℕ → α → Marks α → Except (Stop α) (Marks α)
  | 0, _, _ => .error .tooDeep
  | depth + 1, node, m =>
    if node ∈ m.visiting then .error (.raised node)
    else if node ∈ m.visited then .ok m
    else
      (visitEach (visit next depth) (next node) { m with visiting := node :: m.visiting }).map
        fun m =>
          { visiting := m.visiting.erase node
            visited := node :: m.visited
            ordered := m.ordered ++ [node] }

/-! ### What a search that ends has done -/

/-- The nodes that a search is done with are listed once, after the nodes that they lead to, and the search is
inside of none of them. -/
structure Listed (next : α → List α) (m : Marks α) : Prop where
  visiting_nodup : m.visiting.Nodup
  apart : ∀ x ∈ m.visiting, x ∉ m.visited
  mem_ordered : ∀ x, x ∈ m.ordered ↔ x ∈ m.visited
  nodup : m.ordered.Nodup
  before : ∀ earlier x later, m.ordered = earlier ++ x :: later → ∀ y ∈ next x, y ∈ earlier

/-- A part of the search has left the marks of the nodes that it is inside of, and has kept what was done. -/
structure Extends (m m' : Marks α) : Prop where
  visiting : m'.visiting = m.visiting
  visited : ∀ x ∈ m.visited, x ∈ m'.visited

theorem Extends.refl (m : Marks α) : Extends m m := ⟨rfl, fun _ h => h⟩

theorem Extends.trans {m m' m'' : Marks α} (h : Extends m m') (h' : Extends m' m'') : Extends m m'' :=
  ⟨h'.visiting.trans h.visiting, fun x hx => h'.visited x (h.visited x hx)⟩

variable {next : α → List α} {depth : ℕ} {node : α} {nodes : List α} {m m' : Marks α}

theorem visitEach_cons {perform : α → Marks α → Except (Stop α) (Marks α)}
    (h : visitEach perform (node :: nodes) m = .ok m') :
    ∃ mid, perform node m = .ok mid ∧ visitEach perform nodes mid = .ok m' := by
  rw [visitEach] at h
  cases hfirst : perform node m with
  | error e =>
    rw [hfirst] at h
    cases h
  | ok mid =>
    rw [hfirst] at h
    exact ⟨mid, rfl, h⟩

/-- What holds of the search from each node holds of the search from one after another. -/
theorem visitEach_listed {perform : α → Marks α → Except (Stop α) (Marks α)}
    (hperform : ∀ node m m', Listed next m → perform node m = .ok m' →
      Listed next m' ∧ Extends m m' ∧ node ∈ m'.visited)
    (hm : Listed next m) (h : visitEach perform nodes m = .ok m') :
    Listed next m' ∧ Extends m m' ∧ ∀ x ∈ nodes, x ∈ m'.visited := by
  induction nodes generalizing m with
  | nil =>
    cases h
    exact ⟨hm, Extends.refl _, fun x hx => absurd hx List.not_mem_nil⟩
  | cons node nodes ih =>
    obtain ⟨mid, hfirst, hrest⟩ := visitEach_cons h
    obtain ⟨hmid, hext, hnode⟩ := hperform node m mid hm hfirst
    obtain ⟨hm', hext', hnodes⟩ := ih hmid hrest
    refine ⟨hm', hext.trans hext', fun x hx => ?_⟩
    rcases List.mem_cons.mp hx with rfl | hx
    · exact hext'.visited x hnode
    · exact hnodes x hx

theorem listed_start : Listed next {} :=
  ⟨List.nodup_nil, fun _ hx => absurd hx List.not_mem_nil, fun _ => Iff.rfl, List.nodup_nil,
    fun _ _ _ hsplit => absurd hsplit (by simp)⟩

theorem visitEach_ordered_subset {reachable : List α} {perform : α → Marks α → Except (Stop α) (Marks α)}
    (hperform : ∀ node m m', node ∈ reachable → (∀ x ∈ m.ordered, x ∈ reachable) →
      perform node m = .ok m' → ∀ x ∈ m'.ordered, x ∈ reachable)
    (hnodes : ∀ x ∈ nodes, x ∈ reachable) (hm : ∀ x ∈ m.ordered, x ∈ reachable)
    (h : visitEach perform nodes m = .ok m') : ∀ x ∈ m'.ordered, x ∈ reachable := by
  induction nodes generalizing m with
  | nil =>
    cases h
    exact hm
  | cons y nodes ih =>
    obtain ⟨mid, hfirst, hrest⟩ := visitEach_cons h
    have hmid := hperform y m mid (hnodes y List.mem_cons_self) hm hfirst
    exact ih (fun x hx => hnodes x (List.mem_cons_of_mem _ hx)) hmid hrest

/-- A search goes into a node that it has not met. -/
theorem Listed.enter (h : Listed next m) (hvisiting : node ∉ m.visiting) (hvisited : node ∉ m.visited) :
    Listed next { m with visiting := node :: m.visiting } where
  visiting_nodup := List.nodup_cons.mpr ⟨hvisiting, h.visiting_nodup⟩
  apart := by
    intro x hx
    rcases List.mem_cons.mp hx with rfl | hx
    · exact hvisited
    · exact h.apart x hx
  mem_ordered := h.mem_ordered
  nodup := h.nodup
  before := h.before

variable [DecidableEq α]

/-- What a search does with a node: it was done with it before, or it does the nodes that it leads to and then
the node itself. -/
theorem visit_cases (h : visit next (depth + 1) node m = .ok m') :
    node ∉ m.visiting ∧ ((node ∈ m.visited ∧ m' = m) ∨ (node ∉ m.visited ∧
      ∃ inner, visitEach (visit next depth) (next node) { m with visiting := node :: m.visiting } =
          .ok inner ∧
        m' = { visiting := inner.visiting.erase node
               visited := node :: inner.visited
               ordered := inner.ordered ++ [node] })) := by
  rw [visit] at h
  by_cases hvisiting : node ∈ m.visiting
  · rw [if_pos hvisiting] at h
    cases h
  rw [if_neg hvisiting] at h
  by_cases hvisited : node ∈ m.visited
  · rw [if_pos hvisited] at h
    exact ⟨hvisiting, Or.inl ⟨hvisited, (Except.ok.inj h).symm⟩⟩
  rw [if_neg hvisited] at h
  cases hinner : visitEach (visit next depth) (next node)
      { m with visiting := node :: m.visiting } with
  | error e =>
    rw [hinner] at h
    cases h
  | ok inner =>
    rw [hinner] at h
    exact ⟨hvisiting, Or.inr ⟨hvisited, inner, rfl, (Except.ok.inj h).symm⟩⟩

/-- A search leaves a node when it is done with all that it leads to. -/
theorem Listed.leave {inner : Marks α} (h : Listed next inner) (hvisiting : node ∈ inner.visiting)
    (hnext : ∀ y ∈ next node, y ∈ inner.visited) :
    Listed next { visiting := inner.visiting.erase node
                  visited := node :: inner.visited
                  ordered := inner.ordered ++ [node] } where
  visiting_nodup := h.visiting_nodup.erase node
  apart := by
    intro x hx hvisited
    rw [h.visiting_nodup.mem_erase_iff] at hx
    rcases List.mem_cons.mp hvisited with rfl | hvisited
    · exact hx.1 rfl
    · exact h.apart x hx.2 hvisited
  mem_ordered := by
    intro x
    rw [List.mem_append, List.mem_singleton, List.mem_cons, h.mem_ordered, or_comm]
  nodup := by
    have hfresh : node ∉ inner.ordered := fun hmem =>
      h.apart node hvisiting ((h.mem_ordered node).mp hmem)
    rw [← List.concat_eq_append]
    exact h.nodup.concat hfresh
  before := by
    intro earlier x later hsplit y hy
    rcases List.eq_nil_or_concat later with rfl | ⟨later, last, rfl⟩
    · obtain ⟨rfl, hlast⟩ := List.append_inj' hsplit rfl
      obtain ⟨rfl, -⟩ := List.cons.inj hlast
      exact (h.mem_ordered y).mpr (hnext y hy)
    · have hassoc : earlier ++ x :: later.concat last = (earlier ++ x :: later) ++ [last] := by
        simp
      rw [hassoc] at hsplit
      obtain ⟨hinner, -⟩ := List.append_inj' hsplit rfl
      exact h.before earlier x later hinner y hy

/-- **The search from a node.** It keeps the list in order and ends with the node done. -/
theorem visit_listed (depth : ℕ) (node : α) (m m' : Marks α) (hm : Listed next m)
    (h : visit next depth node m = .ok m') : Listed next m' ∧ Extends m m' ∧ node ∈ m'.visited := by
  induction depth generalizing node m m' with
  | zero => cases h
  | succ depth ih =>
    obtain ⟨hvisiting, ⟨hvisited, rfl⟩ | ⟨hvisited, inner, hinner, rfl⟩⟩ := visit_cases h
    · exact ⟨hm, Extends.refl _, hvisited⟩
    · obtain ⟨hlisted, hext, hnext⟩ :=
        visitEach_listed (fun node m m' hm h => ih node m m' hm h) (hm.enter hvisiting hvisited) hinner
      have hinside : inner.visiting = node :: m.visiting := hext.visiting
      have hmem : node ∈ inner.visiting := hinside ▸ List.mem_cons_self
      refine ⟨hlisted.leave hmem hnext, ⟨?_, ?_⟩, List.mem_cons_self⟩
      · show inner.visiting.erase node = m.visiting
        rw [hinside, List.erase_cons_head]
      · exact fun x hx => List.mem_cons_of_mem _ (hext.visited x hx)

/-- **The whole search.** It ends with every node done, and they are listed in order. -/
theorem visitEach_spec (h : visitEach (visit next depth) nodes {} = .ok m) :
    Listed next m ∧ m.visiting = [] ∧ ∀ x ∈ nodes, x ∈ m.ordered := by
  obtain ⟨hlisted, hext, hnodes⟩ := visitEach_listed (visit_listed depth) listed_start h
  exact ⟨hlisted, hext.visiting, fun x hx => (hlisted.mem_ordered x).mpr (hnodes x hx)⟩

/-! ### Cycles -/

/-- What is listed in order has no cycle. -/
theorem not_transGen_of_listed (h : Listed next m) {x : α} (hx : x ∈ m.ordered) :
    ¬ TransGen (fun x y => y ∈ next x) x x := by
  have hstep : ∀ x ∈ m.ordered, ∀ y ∈ next x,
      y ∈ m.ordered ∧ m.ordered.idxOf y < m.ordered.idxOf x := by
    intro x hx y hy
    obtain ⟨earlier, later, hsplit, hfresh⟩ := List.eq_append_cons_of_mem hx
    have hearlier := h.before earlier x later hsplit y hy
    rw [hsplit]
    refine ⟨List.mem_append_left _ hearlier, ?_⟩
    rw [List.idxOf_append_of_mem hearlier, List.idxOf_append_of_notMem hfresh]
    have hlt := List.idxOf_lt_length_of_mem hearlier
    omega
  have hpath : ∀ y, TransGen (fun x y => y ∈ next x) x y →
      y ∈ m.ordered ∧ m.ordered.idxOf y < m.ordered.idxOf x := by
    intro y hy
    induction hy with
    | single hxy => exact hstep x hx _ hxy
    | tail _ hyz ih =>
      obtain ⟨hmem, hlt⟩ := hstep _ ih.1 _ hyz
      exact ⟨hmem, hlt.trans ih.2⟩
  exact fun hcycle => lt_irrefl _ (hpath x hcycle).2

/-- Every node that the search is inside of leads to this one. -/
def LeadTo (next : α → List α) (m : Marks α) (node : α) : Prop :=
  ∀ x ∈ m.visiting, TransGen (fun x y => y ∈ next x) x node

/-- A search from one node after another stops in the search from one of them, inside of the same nodes. -/
theorem visitEach_error {e : Stop α} (hm : Listed next m) (h : visitEach (visit next depth) nodes m = .error e) :
    ∃ node ∈ nodes, ∃ mid, Listed next mid ∧ mid.visiting = m.visiting ∧ visit next depth node mid = .error e := by
  induction nodes generalizing m with
  | nil => cases h
  | cons node nodes ih =>
    rw [visitEach] at h
    cases hfirst : visit next depth node m with
    | error e' =>
      rw [hfirst] at h
      cases h
      exact ⟨node, List.mem_cons_self, m, hm, rfl, hfirst⟩
    | ok mid =>
      rw [hfirst] at h
      obtain ⟨hmid, hext, -⟩ := visit_listed depth node m mid hm hfirst
      obtain ⟨node', hnode', last, hlast, hvisiting, herror⟩ := ih hmid h
      exact ⟨node', List.mem_cons_of_mem _ hnode', last, hlast, hvisiting.trans hext.visiting, herror⟩

/-- How the search from a node stops. -/
theorem visit_error_cases {e : Stop α} (h : visit next (depth + 1) node m = .error e) :
    (node ∈ m.visiting ∧ e = .raised node) ∨ (node ∉ m.visiting ∧ node ∉ m.visited ∧
      visitEach (visit next depth) (next node) { m with visiting := node :: m.visiting } =
        .error e) := by
  rw [visit] at h
  by_cases hvisiting : node ∈ m.visiting
  · rw [if_pos hvisiting] at h
    exact Or.inl ⟨hvisiting, (Except.error.inj h).symm⟩
  rw [if_neg hvisiting] at h
  by_cases hvisited : node ∈ m.visited
  · rw [if_pos hvisited] at h
    cases h
  rw [if_neg hvisited] at h
  refine Or.inr ⟨hvisiting, hvisited, ?_⟩
  cases hinner : visitEach (visit next depth) (next node)
      { m with visiting := node :: m.visiting } with
  | error e' =>
    rw [hinner] at h
    cases h
    rfl
  | ok inner =>
    rw [hinner] at h
    cases h

/-- **A search that stops has found a cycle.** -/
theorem visit_raised {x : α} (depth : ℕ) (node : α) (m : Marks α) (hm : Listed next m)
    (hlead : LeadTo next m node) (h : visit next depth node m = .error (.raised x)) :
    TransGen (fun x y => y ∈ next x) x x := by
  induction depth generalizing node m with
  | zero => cases h
  | succ depth ih =>
    rcases visit_error_cases h with ⟨hvisiting, heq⟩ | ⟨hvisiting, hvisited, hinner⟩
    · cases heq
      exact hlead _ hvisiting
    · obtain ⟨y, hy, mid, hmid, hinside, herror⟩ := visitEach_error (hm.enter hvisiting hvisited) hinner
      refine ih y mid hmid ?_ herror
      intro z hz
      rw [hinside] at hz
      rcases List.mem_cons.mp hz with rfl | hz
      · exact TransGen.single hy
      · exact (hlead z hz).tail hy

theorem visitEach_raised {x : α} (h : visitEach (visit next depth) nodes {} = .error (.raised x)) :
    TransGen (fun x y => y ∈ next x) x x := by
  obtain ⟨node, -, mid, hmid, hinside, herror⟩ := visitEach_error listed_start h
  refine visit_raised depth node mid hmid ?_ herror
  intro z hz
  rw [hinside] at hz
  exact absurd hz List.not_mem_nil

/-! ### Depth -/

/-- The nodes that a search can meet. -/
structure Closed (next : α → List α) (reachable : List α) : Prop where
  next_mem : ∀ x ∈ reachable, ∀ y ∈ next x, y ∈ reachable

/-- A search does not go deeper than there are nodes. -/
theorem visit_ne_tooDeep {reachable : List α} (hclosed : Closed next reachable) (depth : ℕ) (node : α)
    (m : Marks α) (hm : Listed next m) (hinside : ∀ x ∈ m.visiting, x ∈ reachable)
    (hnode : node ∈ reachable) (hdepth : reachable.length < depth + m.visiting.length) :
    visit next depth node m ≠ .error .tooDeep := by
  intro h
  induction depth generalizing node m with
  | zero =>
    have hle := (List.subperm_of_subset hm.visiting_nodup hinside).length_le
    omega
  | succ depth ih =>
    rcases visit_error_cases h with ⟨-, heq⟩ | ⟨hvisiting, hvisited, hinner⟩
    · cases heq
    · obtain ⟨y, hy, mid, hmid, hsame, herror⟩ := visitEach_error (hm.enter hvisiting hvisited) hinner
      refine ih y mid hmid ?_ (hclosed.next_mem node hnode y hy) ?_ herror
      · intro x hx
        rw [hsame] at hx
        rcases List.mem_cons.mp hx with rfl | hx
        · exact hnode
        · exact hinside x hx
      · rw [hsame, List.length_cons]
        omega

theorem visitEach_ne_tooDeep {reachable : List α} (hclosed : Closed next reachable)
    (hnodes : ∀ x ∈ nodes, x ∈ reachable) (hdepth : reachable.length < depth) :
    visitEach (visit next depth) nodes {} ≠ .error .tooDeep := by
  intro h
  obtain ⟨node, hnode, mid, hmid, hsame, herror⟩ := visitEach_error listed_start h
  refine visit_ne_tooDeep hclosed depth node mid hmid ?_ (hnodes node hnode) (by omega) herror
  intro x hx
  rw [hsame] at hx
  exact absurd hx List.not_mem_nil

/-- Only nodes that the search can meet are listed. -/
theorem visit_ordered_subset {reachable : List α} (hclosed : Closed next reachable) (depth : ℕ)
    (node : α) (m m' : Marks α) (hnode : node ∈ reachable)
    (hm : ∀ x ∈ m.ordered, x ∈ reachable) (h : visit next depth node m = .ok m') :
    ∀ x ∈ m'.ordered, x ∈ reachable := by
  induction depth generalizing node m m' with
  | zero => cases h
  | succ depth ih =>
    obtain ⟨-, ⟨-, rfl⟩ | ⟨-, inner, hinner, rfl⟩⟩ := visit_cases h
    · exact hm
    · intro x hx
      rcases List.mem_append.mp hx with hx | hx
      · exact visitEach_ordered_subset (m := { m with visiting := node :: m.visiting })
          (fun node m m' hnode hm h => ih node m m' hnode hm h) (hclosed.next_mem node hnode) hm
          hinner x hx
      · rw [List.mem_singleton.mp hx]
        exact hnode

end

end EnergyCore.DepthFirstSearch
