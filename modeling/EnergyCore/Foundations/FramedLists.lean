import Mathlib.Data.List.Basic

/-!
# Lists of framed blocks

Blocks of a name and a body, written one after the other: the name, one separator, the body. Nothing ends a body, so
the text alone does not say where the next name starts.

* `stream_injective_of_lengths` — with the names and the lengths of the bodies, the text has one reading.
-/

namespace EnergyCore.FramedLists

variable {α : Type*} (sep : α)

/-- A name and a body. -/
abbrev Block (α : Type*) := List α × List α

def frame (b : Block α) : List α := b.1 ++ sep :: b.2

/-- The text of the blocks. -/
def stream (blocks : List (Block α)) : List α := blocks.flatMap (frame sep)

@[simp] theorem stream_nil : stream sep ([] : List (Block α)) = [] := rfl

theorem stream_cons (b : Block α) (blocks : List (Block α)) :
    stream sep (b :: blocks) = frame sep b ++ stream sep blocks := List.flatMap_cons

theorem length_frame (b : Block α) : (frame sep b).length = b.1.length + b.2.length + 1 := by
  rw [frame, List.length_append, List.length_cons, Nat.add_assoc]

variable {sep}

/-! ### One reading -/

/-- What stands before the first separator is the name. -/
theorem append_sep_inj {n m d e : List α} (hn : sep ∉ n) (hm : sep ∉ m)
    (h : n ++ sep :: d = m ++ sep :: e) : n = m ∧ d = e := by
  induction n generalizing m with
  | nil =>
    cases m with
    | nil => exact ⟨rfl, (List.cons.inj h).2⟩
    | cons a m => exact absurd ((List.cons.inj h).1 ▸ List.mem_cons_self) hm
  | cons a n ih =>
    cases m with
    | nil => exact absurd ((List.cons.inj h).1 ▸ List.mem_cons_self) hn
    | cons a' m =>
      obtain ⟨hhead, htail⟩ := List.cons.inj h
      obtain ⟨hname, hbody⟩ := ih (fun hmem => hn (List.mem_cons_of_mem a hmem))
        (fun hmem => hm (List.mem_cons_of_mem a' hmem)) htail
      exact ⟨by rw [hhead, hname], hbody⟩

/-- **Names and lengths.** They make the reading of a text the only one. -/
theorem stream_injective_of_lengths {blocks blocks' : List (Block α)}
    (hframes : blocks.map (fun b => (b.1, b.2.length)) = blocks'.map fun b => (b.1, b.2.length))
    (h : stream sep blocks = stream sep blocks') : blocks = blocks' := by
  induction blocks generalizing blocks' with
  | nil => exact (List.map_eq_nil_iff.mp hframes.symm).symm
  | cons b blocks ih =>
    cases blocks' with
    | nil => exact absurd hframes (List.cons_ne_nil _ _)
    | cons b' blocks' =>
      rw [List.map_cons, List.map_cons, List.cons.injEq, Prod.mk.injEq] at hframes
      obtain ⟨⟨hname, hlength⟩, hrest⟩ := hframes
      rw [stream_cons, stream_cons] at h
      have hlengths : (frame sep b).length = (frame sep b').length := by
        rw [length_frame, length_frame, hname, hlength]
      obtain ⟨hframe, hstream⟩ := List.append_inj h hlengths
      unfold frame at hframe
      rw [hname] at hframe
      have hbody : b.2 = b'.2 := (List.cons.inj (List.append_cancel_left hframe)).2
      rw [ih hrest hstream, Prod.ext hname hbody]

end EnergyCore.FramedLists
