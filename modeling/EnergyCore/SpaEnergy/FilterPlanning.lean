import EnergyCore.SpaEnergy.CycleSearch
import EnergyCore.SpaEnergy.FilterPolicy
import Mathlib.Data.List.Sort

/-!
# Planning the filter cycles of a day

How many cycles fit on a horizon without gaps, and when all the cycles of a policy are planned.

* `exists_isPlan_iff` — so many windows of a grid keep their distance;
* `planFixedFilterCycles_length_iff` — the planner returns all cycles exactly if so many fit.
-/

namespace EnergyCore.SpaEnergy

open FlexibleLoads TimeZones

/-! ### Windows on a grid -/

theorem interval_pos : 0 < interval := by
  unfold interval
  norm_num

/-- Windows of so many blocks, one starting at each block from an instant on. -/
structure OnGrid (candidates : List PlanWindow) (origin : Instant) (blocks : ℕ) : Prop where
  start : ∀ i (h : i < candidates.length), candidates[i].start = origin + interval * i
  stop : ∀ i (h : i < candidates.length), candidates[i].stop = origin + interval * (i + blocks : ℕ)

theorem OnGrid.sorted {candidates : List PlanWindow} {origin : Instant} {blocks : ℕ}
    (h : OnGrid candidates origin blocks) : candidates.Pairwise fun w w' => decide (w.start ≤ w'.start) = true := by
  refine List.pairwise_iff_getElem.mpr fun i j hi hj hij => ?_
  have hle : (i : ℚ) ≤ j := by exact_mod_cast hij.le
  rw [decide_eq_true_eq, h.start i hi, h.start j hj]
  linarith [mul_le_mul_of_nonneg_left hle interval_pos.le]

/-- The number of blocks from the start of one window to the start of the next. -/
def stride (blocks : ℕ) (minSeparation : Duration) : ℕ :=
  (max 1 ((blocks : ℤ) + ⌈minSeparation / interval⌉)).toNat

/-- Two windows of the grid keep their distance if they are so many blocks apart. -/
theorem stride_le_iff {blocks : ℕ} {sep : Duration} {origin : Instant} (i j : ℕ) : i + stride blocks sep ≤ j ↔
      i < j ∧ origin + interval * (i + blocks : ℕ) + sep ≤ origin + interval * j := by
  have hsep : origin + interval * (i + blocks : ℕ) + sep ≤ origin + interval * j ↔
      (blocks : ℤ) + ⌈sep / interval⌉ ≤ (j : ℤ) - i := by
    have hceil : (blocks : ℤ) + ⌈sep / interval⌉ ≤ (j : ℤ) - i ↔ ⌈sep / interval⌉ ≤ (j : ℤ) - i - blocks := by
      omega
    rw [hceil, Int.ceil_le, div_le_iff₀ interval_pos]
    push_cast
    constructor
    · intro h
      linarith
    · intro h
      linarith
  rw [hsep]
  unfold stride
  omega

/-- Indices that are so many apart reach so far. -/
theorem le_getLast_of_isChain {k : ℕ} {indices : List ℕ} (h : indices.IsChain fun i j => i + k ≤ j) :
    ∀ last ∈ indices.getLast?, (indices.length - 1) * k ≤ last := by
  suffices hfrom : ∀ (first : ℕ) (rest : List ℕ), (first :: rest).IsChain (fun i j => i + k ≤ j) →
      ∀ last ∈ (first :: rest).getLast?, first + rest.length * k ≤ last by
    cases indices with
    | nil =>
      intro last hlast
      cases hlast
    | cons first rest =>
      intro last hlast
      have hle := hfrom first rest h last hlast
      rw [List.length_cons, Nat.add_sub_cancel]
      omega
  intro first rest hchain
  induction rest generalizing first with
  | nil =>
    intro last hlast
    cases hlast
    simp
  | cons next rest ih =>
    obtain ⟨hstep, hrest⟩ := List.isChain_cons_cons.mp hchain
    intro last hlast
    rw [List.getLast?_cons_cons] at hlast
    have hle := ih next hrest last hlast
    rw [List.length_cons, Nat.add_mul, Nat.one_mul]
    omega

/-- **So many windows of a grid** keep their distance if the last of them is still on the grid. -/
theorem exists_isPlan_iff {candidates : List PlanWindow} {origin : Instant} {blocks n : ℕ} {sep : Duration}
    (hgrid : OnGrid candidates origin blocks) (hn : 0 < n) :
    (∃ plan, IsPlan candidates n sep plan) ↔ (n - 1) * stride blocks sep < candidates.length := by
  have hspaced : ∀ i j : Fin candidates.length, candidates[i].stop + sep ≤ candidates[j].start ∧ i < j ↔
      (i : ℕ) + stride blocks sep ≤ j := by
    intro i j
    rw [@stride_le_iff blocks sep origin]
    have hstop : candidates[i].stop = origin + interval * (i + blocks : ℕ) := hgrid.stop i i.isLt
    have hstart : candidates[j].start = origin + interval * (j : ℕ) := hgrid.start j j.isLt
    rw [hstop, hstart]
    exact and_comm
  constructor
  · rintro ⟨plan, hsub, hlength, hchain⟩
    obtain ⟨indices, rfl, hpairwise⟩ := List.sublist_eq_map_getElem hsub
    rw [List.length_map] at hlength
    have hapart : (indices.map Fin.val).IsChain fun i j => i + stride blocks sep ≤ j := by
      rw [List.isChain_iff_getElem]
      intro k hk
      rw [List.length_map] at hk
      have hnext := hchain.getElem k (by rw [List.length_map]; exact hk)
      rw [List.getElem_map, List.getElem_map] at hnext
      rw [List.getElem_map, List.getElem_map]
      exact (hspaced _ _).mp ⟨hnext, List.pairwise_iff_getElem.mp hpairwise k (k + 1) _ hk (Nat.lt_succ_self k)⟩
    have hne : indices ≠ [] := by
      rintro rfl
      rw [List.length_nil] at hlength
      omega
    have hlast := le_getLast_of_isChain hapart (indices.getLast hne) (by
      rw [List.getLast?_map, List.getLast?_eq_some_getLast hne]
      rfl)
    rw [List.length_map, hlength] at hlast
    exact lt_of_le_of_lt hlast (indices.getLast hne).isLt
  · intro hfits
    have hstride : 0 < stride blocks sep := by
      unfold stride
      omega
    have hlt : ∀ k : Fin n, (k : ℕ) * stride blocks sep < candidates.length := by
      intro k
      refine lt_of_le_of_lt (Nat.mul_le_mul_right _ ?_) hfits
      omega
    have hmono : ∀ k l : Fin n, k < l →
        (⟨k * stride blocks sep, hlt k⟩ : Fin candidates.length) < ⟨l * stride blocks sep, hlt l⟩ :=
      fun k l hkl => Nat.mul_lt_mul_of_pos_right hkl hstride
    let index : Fin n → Fin candidates.length := fun k => ⟨(k : ℕ) * stride blocks sep, hlt k⟩
    refine ⟨((List.finRange n).map index).map (candidates[·]), ?_, ?_, ?_⟩
    · refine List.map_getElem_sublist ?_
      rw [List.pairwise_map]
      exact (List.pairwise_lt_finRange n).imp fun h => hmono _ _ h
    · rw [List.length_map, List.length_map, List.length_finRange]
    · unfold Spaced
      rw [List.isChain_map, List.isChain_map]
      refine (List.pairwise_lt_finRange n).isChain.imp fun k l hkl => ((hspaced _ _).mpr ?_).1
      show (k : ℕ) * stride blocks sep + stride blocks sep ≤ l * stride blocks sep
      rw [← Nat.succ_mul]
      exact Nat.mul_le_mul_right _ hkl

/-! ### Blocks without gaps -/

/-- Blocks of which each begins where the one before it ends. -/
def GapFree (horizon : List HorizonBlock) : Prop :=
  horizon.IsChain fun block next => next.timestamp = block.timestamp + interval

/-- Blocks from an instant on, without gaps. -/
def Aligned (origin : Instant) (scored : List ScoredBlock) : Prop :=
  ∀ i (h : i < scored.length), scored[i].block.timestamp = origin + interval * i

theorem GapFree.lt_of_mem {block : HorizonBlock} {rest : List HorizonBlock} (h : GapFree (block :: rest)) :
    ∀ b ∈ rest, block.timestamp < b.timestamp := by
  have hincreasing : ((block :: rest).map HorizonBlock.timestamp).IsChain (· < ·) := by
    rw [List.isChain_map]
    refine List.IsChain.imp (fun b b' hnext => ?_) h
    rw [hnext]
    exact lt_add_of_pos_right _ interval_pos
  intro b hb
  exact List.rel_of_pairwise_cons hincreasing.pairwise (List.mem_map_of_mem hb)

/-- The blocks between two instants are without gaps. -/
theorem GapFree.filter {horizon : List HorizonBlock} (h : GapFree horizon) (from_ until_ : Instant) :
    GapFree (horizon.filter fun b => decide (from_ ≤ b.timestamp ∧ b.timestamp < until_)) := by
  induction horizon with
  | nil => exact h
  | cons block rest ih =>
    have hlater := h.lt_of_mem
    have hrest := ih h.tail
    rw [List.filter_cons]
    split_ifs with hin
    · refine List.isChain_cons.mpr ⟨fun next hnext => ?_, hrest⟩
      rw [decide_eq_true_eq] at hin
      cases rest with
      | nil => cases hnext
      | cons second rest =>
        have hsecond : second.timestamp = block.timestamp + interval := (List.isChain_cons_cons.mp h).1
        have hfrom : from_ ≤ second.timestamp := by
          rw [hsecond]
          linarith [interval_pos]
        rw [List.filter_cons] at hnext
        split_ifs at hnext with hsecondIn
        · cases hnext
          exact hsecond
        · exfalso
          rw [decide_eq_true_eq, not_and] at hsecondIn
          have hmem := List.mem_of_mem_head? hnext
          obtain ⟨hmem, hnextIn⟩ := List.mem_filter.mp hmem
          rw [decide_eq_true_eq] at hnextIn
          have hlt := GapFree.lt_of_mem (h.tail) next hmem
          exact hsecondIn hfrom (hlt.trans hnextIn.2)
    · exact hrest

/-- Blocks without gaps follow from the first of them. -/
theorem GapFree.exists_aligned {scored : List ScoredBlock} (h : GapFree (scored.map ScoredBlock.block)) :
    ∃ origin, Aligned origin scored := by
  cases scored with
  | nil => exact ⟨0, fun i hi => absurd hi (Nat.not_lt_zero i)⟩
  | cons first rest =>
    refine ⟨first.block.timestamp, fun i hi => ?_⟩
    induction i with
    | zero =>
      rw [Nat.cast_zero, mul_zero, add_zero]
      rfl
    | succ i ih =>
      have hprev := ih ((Nat.lt_succ_self i).trans hi)
      have hnext := List.IsChain.getElem h i (by rw [List.length_map]; exact hi)
      rw [List.getElem_map, List.getElem_map, hprev] at hnext
      rw [hnext]
      push_cast
      ring

/-! ### Windows of consecutive blocks -/

theorem blocksPerCycle_pos (durationMinutes : ℤ) : 0 < blocksPerCycle durationMinutes := by
  unfold blocksPerCycle
  dsimp only
  split_ifs
  · omega
  · omega

section

variable {order : SetOrder} {eligible : List ScoredBlock} {origin : Instant} {blocks n : ℕ} {power : ℚ}
  {sep : Duration}

/-- At the smart strategy there is a window at every block that is followed by enough of them. -/
theorem exists_findBestWindowAtIndex (haligned : Aligned origin eligible) (hblocks : 0 < blocks) {i : ℕ}
    (hi : i + blocks ≤ eligible.length) :
    ∃ window, findBestWindowAtIndex order eligible i blocks .smart power = some window ∧
      window.start = origin + interval * i ∧ window.stop = origin + interval * (i + blocks : ℕ) := by
  have hlength : ((eligible.drop i).take blocks).length = blocks := by
    rw [List.length_take, List.length_drop]
    omega
  have hsun : tooLittleSun .smart power ((eligible.drop i).take blocks) = false := rfl
  unfold findBestWindowAtIndex
  rw [if_neg (by omega)]
  dsimp only
  rw [hsun, if_neg Bool.false_ne_true]
  cases hwindow : (eligible.drop i).take blocks with
  | nil =>
    rw [hwindow, List.length_nil] at hlength
    omega
  | cons first rest =>
    rw [hwindow] at hlength
    have hstart : ∀ k (hk : k < (first :: rest).length),
        (first :: rest)[k].block.timestamp = origin + interval * (i + k : ℕ) := by
      intro k hk
      have hget := List.getElem_of_eq hwindow.symm hk
      rw [List.getElem_take, List.getElem_drop] at hget
      rw [hget]
      exact haligned (i + k) _
    refine ⟨_, rfl, hstart 0 (Nat.zero_lt_succ _), ?_⟩
    show ((first :: rest).getLast _).block.timestamp + interval = _
    rw [List.getLast_eq_getElem, hstart]
    have hlast : (i + blocks : ℕ) = (i + ((first :: rest).length - 1) : ℕ) + 1 := by omega
    rw [hlast]
    push_cast
    ring

theorem exists_windows (haligned : Aligned origin eligible) (hblocks : 0 < blocks) (hfits : blocks ≤ eligible.length) :
    ∃ window : ℕ → PlanWindow, (∀ i, i + blocks ≤ eligible.length →
        findBestWindowAtIndex order eligible i blocks .smart power = some (window i)) ∧
      (∀ i, i + blocks ≤ eligible.length → (window i).start = origin + interval * i) ∧
      ∀ i, i + blocks ≤ eligible.length → (window i).stop = origin + interval * (i + blocks : ℕ) := by
  have hchoice : ∀ i, ∃ window, i + blocks ≤ eligible.length →
      findBestWindowAtIndex order eligible i blocks .smart power = some window ∧
        window.start = origin + interval * i ∧ window.stop = origin + interval * (i + blocks : ℕ) := by
    intro i
    by_cases hi : i + blocks ≤ eligible.length
    · obtain ⟨window, hwindow⟩ := @exists_findBestWindowAtIndex order eligible origin blocks power haligned hblocks i hi
      exact ⟨window, fun _ => hwindow⟩
    · obtain ⟨window, -⟩ := @exists_findBestWindowAtIndex order eligible origin blocks power haligned hblocks 0
        (by omega)
      exact ⟨window, fun h => absurd h hi⟩
  choose window hwindow using hchoice
  exact ⟨window, fun i hi => (hwindow i hi).1, fun i hi => (hwindow i hi).2.1, fun i hi => (hwindow i hi).2.2⟩

variable {window : ℕ → PlanWindow}

theorem onGrid_map {count : ℕ} (hstart : ∀ i < count, (window i).start = origin + interval * i)
    (hstop : ∀ i < count, (window i).stop = origin + interval * (i + blocks : ℕ)) :
    OnGrid ((List.range count).map window) origin blocks := by
  constructor
  · intro i hi
    rw [List.length_map, List.length_range] at hi
    rw [List.getElem_map, List.getElem_range]
    exact hstart i hi
  · intro i hi
    rw [List.length_map, List.length_range] at hi
    rw [List.getElem_map, List.getElem_range]
    exact hstop i hi

/-- The windows that can be found are the candidates. -/
theorem candidateWindows_eq (hfind : ∀ i, i + blocks ≤ eligible.length →
      findBestWindowAtIndex order eligible i blocks .smart power = some (window i))
    (hstart : ∀ i, i + blocks ≤ eligible.length → (window i).start = origin + interval * i) :
    candidateWindows order eligible blocks .smart power = (List.range (eligible.length + 1 - blocks)).map window := by
  obtain ⟨add, hfold, hadd⟩ : ∃ add : List PlanWindow → ℕ → List PlanWindow,
      candidateWindows order eligible blocks .smart power
          = (List.range (eligible.length + 1 - blocks)).foldl add [] ∧
        ∀ candidates i w, findBestWindowAtIndex order eligible i blocks .smart power = some w →
          add candidates i
            = if candidates.any fun w' => decide (w'.start = w.start ∧ w'.stop = w.stop) then candidates
              else candidates ++ [w] := by
    refine ⟨_, rfl, fun candidates i w hw => ?_⟩
    rw [hw]
  suffices h : ∀ m ≤ eligible.length + 1 - blocks, (List.range m).foldl add [] = (List.range m).map window by
    rw [hfold]
    exact h _ le_rfl
  intro m hm
  induction m with
  | zero => rfl
  | succ m ih =>
    have hfits : m + blocks ≤ eligible.length := by omega
    rw [List.range_succ, List.foldl_append, ih (by omega), List.foldl_cons, List.foldl_nil, hadd _ _ _ (hfind m hfits)]
    rw [if_neg, List.map_append, List.map_singleton]
    intro hany
    obtain ⟨w, hw, hsame⟩ := List.any_eq_true.mp hany
    rw [decide_eq_true_eq] at hsame
    obtain ⟨k, hk, rfl⟩ := List.mem_map.mp hw
    rw [List.mem_range] at hk
    have hstarts := hsame.1
    rw [hstart k (by omega), hstart m hfits, add_right_inj, mul_right_inj' interval_pos.ne', Nat.cast_inj] at hstarts
    omega

/-- Windows are taken in the order of their indices, and keep their distance. -/
theorem spaced_foldl {indices : List ℕ} {find : ℕ → Option PlanWindow}
    (hfind : ∀ i ∈ indices, find i = some (window i)) (chosen : List PlanWindow) (hchosen : Spaced sep chosen) :
    let found := indices.foldl (fun fallback idx =>
      if fallback.length < n then
        match find idx with
        | none => fallback
        | some window => if compatible sep fallback window then fallback ++ [window] else fallback
      else fallback) chosen
    found.Sublist (chosen ++ indices.map window) ∧ Spaced sep found := by
  dsimp only
  induction indices generalizing chosen with
  | nil =>
    rw [List.map_nil, List.append_nil]
    exact ⟨List.Sublist.refl _, hchosen⟩
  | cons i indices ih =>
    have hrest : ∀ j ∈ indices, find j = some (window j) := fun j hj => hfind j (List.mem_cons_of_mem _ hj)
    have hskip : (chosen ++ indices.map window).Sublist (chosen ++ (i :: indices).map window) :=
      (List.sublist_cons_self _ _).append_left chosen
    rw [List.foldl_cons, hfind i List.mem_cons_self]
    dsimp only
    split_ifs with hfew hcompatible
    · obtain ⟨hsub, hspaced⟩ := ih hrest (chosen ++ [window i]) (spaced_concat_iff.mpr ⟨hchosen, hcompatible⟩)
      rw [← List.append_cons] at hsub
      exact ⟨hsub, hspaced⟩
    · obtain ⟨hsub, hspaced⟩ := ih hrest chosen hchosen
      exact ⟨hsub.trans hskip, hspaced⟩
    · obtain ⟨hsub, hspaced⟩ := ih hrest chosen hchosen
      exact ⟨hsub.trans hskip, hspaced⟩

/-- The windows of the fallback are candidates that keep their distance. -/
theorem spacedWindows_spec (hfind : ∀ i, i + blocks ≤ eligible.length →
      findBestWindowAtIndex order eligible i blocks .smart power = some (window i)) :
    (spacedWindows order eligible n blocks sep .smart power).Sublist
        ((List.range (eligible.length + 1 - blocks)).map window) ∧
      Spaced sep (spacedWindows order eligible n blocks sep .smart power) := by
  unfold spacedWindows
  dsimp only
  generalize hstep : max 1 ((eligible.length - blocks) / max 1 n) = step
  generalize hindices : ((List.range eligible.length).map (· * step)).filter
    (fun idx => decide (idx + blocks ≤ eligible.length)) = indices
  have hsub : indices.Sublist (List.range (eligible.length + 1 - blocks)) := by
    have hincreasing : indices.Pairwise (· < ·) := by
      rw [← hindices]
      refine List.Pairwise.filter _ ?_
      rw [List.pairwise_map]
      exact List.pairwise_lt_range.imp fun h => Nat.mul_lt_mul_of_pos_right h (by omega)
    refine List.sublist_of_subperm_of_pairwise (List.subperm_of_subset hincreasing.nodup ?_) hincreasing
      List.pairwise_lt_range
    intro i hi
    rw [← hindices, List.mem_filter, decide_eq_true_eq] at hi
    rw [List.mem_range]
    omega
  have hfits : ∀ i ∈ indices, findBestWindowAtIndex order eligible i blocks .smart power = some (window i) := by
    intro i hi
    have hmem := hsub.subset hi
    rw [List.mem_range] at hmem
    exact hfind i (by omega)
  obtain ⟨hchosen, hspaced⟩ := @spaced_foldl n sep window indices _ hfits [] List.IsChain.nil
  exact ⟨hchosen.trans (hsub.map window), hspaced⟩

/-- **All the cycles are planned** exactly if so many of them, with the blocks that part them, fit on blocks without
gaps. -/
theorem planFixedFilterCycles_length_iff {scored : List ScoredBlock} {cyclesPerDay durationMinutes : ℤ}
    {earliest latest now : Instant} (hcycles : 0 < cyclesPerDay) (hduration : 0 < durationMinutes)
    (haligned : Aligned origin (eligibleBlocks scored earliest latest now)) :
    (planFixedFilterCycles order scored cyclesPerDay durationMinutes sep earliest latest now .smart power).length =
        cyclesPerDay.toNat ↔
      (cyclesPerDay.toNat - 1) * stride (blocksPerCycle durationMinutes) sep + blocksPerCycle durationMinutes ≤
        (eligibleBlocks scored earliest latest now).length := by
  have hn : 0 < cyclesPerDay.toNat := by omega
  have hblocks := blocksPerCycle_pos durationMinutes
  unfold planFixedFilterCycles
  dsimp only
  generalize cyclesPerDay.toNat = n at *
  generalize blocksPerCycle durationMinutes = blocks at *
  by_cases hempty : scored = []
  · subst hempty
    have heligible : (eligibleBlocks [] earliest latest now).length = 0 := rfl
    rw [if_pos (.inl rfl), heligible, List.length_nil]
    omega
  rw [if_neg (by
    rintro (h | h | h)
    · exact hempty h
    · omega
    · omega)]
  generalize eligibleBlocks scored earliest latest now = eligible at *
  by_cases hfew : eligible.length < blocks
  · have hnone : candidateWindows order eligible blocks .smart power = [] := by
      unfold candidateWindows
      rw [Nat.sub_eq_zero_of_le hfew]
      rfl
    rw [hnone, List.mergeSort_nil, List.isEmpty_nil, if_pos rfl, List.length_nil]
    omega
  obtain ⟨window, hfind, hstart, hstop⟩ := @exists_windows order _ origin blocks power haligned hblocks (by omega)
  rw [candidateWindows_eq hfind hstart]
  generalize hcount : eligible.length + 1 - blocks = count
  have hgrid : OnGrid ((List.range count).map window) origin blocks :=
    onGrid_map (fun i hi => hstart i (by omega)) fun i hi => hstop i (by omega)
  have hsorted := hgrid.sorted
  rw [List.mergeSort_of_pairwise hsorted]
  have hplan : (enumerateFixedCyclePlans ((List.range count).map window) n sep).length = n ↔
      (n - 1) * stride blocks sep + blocks ≤ eligible.length := by
    rw [enumerateFixedCyclePlans_length_iff hn, exists_isPlan_iff hgrid hn, List.length_map, List.length_range]
    omega
  rw [if_neg (by
    rw [List.isEmpty_iff, ← List.length_eq_zero_iff, List.length_map, List.length_range]
    omega)]
  split_ifs with hfound hfits hfallback
  · exact hplan
  · refine iff_of_true hfallback (hplan.mp ?_)
    have hspec := @spacedWindows_spec order eligible blocks n power sep window hfind
    rw [hcount] at hspec
    exact (enumerateFixedCyclePlans_length_iff hn).mpr ⟨_, hspec.1, hfallback, hspec.2⟩
  · rw [← hplan, not_not.mp hfound]
  · rw [← hplan, not_not.mp hfound]

end

end EnergyCore.SpaEnergy
