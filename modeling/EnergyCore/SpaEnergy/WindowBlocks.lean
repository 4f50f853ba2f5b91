import EnergyCore.SpaEnergy.CycleSearch

/-!
# The blocks of planned windows

Windows are cut out of the list of the blocks that may be used, one index after another, and windows of daily cleaning
are merged across short pauses.

* `WindowOf` — a window of usable blocks, from its first to the end of its last;
* `windowOf_planFixedFilterCycles`, `windowOf_planDailyCleaningWindows` — what the planners return are such windows.
-/

namespace EnergyCore.SpaEnergy

open FlexibleLoads HalfEvenRounding

/-! ### Windows of usable blocks -/

/-- A block and the next one of a window follow each other among the usable blocks, or stand beside a pause that is
merged. -/
def Joined (usable : List ScoredBlock) (minPause : Option Duration) (b b' : ScoredBlock) : Prop :=
  [b, b'] <:+: usable ∨ ∃ pause ∈ minPause, b'.block.timestamp ≤ b.block.timestamp + interval + pause

/-- A window of usable blocks, from its first to the end of its last. -/
structure WindowOf (usable : List ScoredBlock) (minPause : Option Duration) (w : PlanWindow) : Prop where
  starts : w.blocks.head?.map (fun b => b.block.timestamp) = some w.start
  stops : w.blocks.getLast?.map (fun b => b.block.timestamp + interval) = some w.stop
  sublist : w.blocks.Sublist usable
  joined : w.blocks.IsChain (Joined usable minPause)

theorem WindowOf.blocks_ne {usable : List ScoredBlock} {minPause : Option Duration} {w : PlanWindow}
    (h : WindowOf usable minPause w) : w.blocks ≠ [] := by
  intro hempty
  have hstarts := h.starts
  rw [hempty] at hstarts
  cases hstarts

/-- A run of usable blocks makes a window of them. -/
theorem windowOf_run {usable : List ScoredBlock} {w : PlanWindow} {first : ScoredBlock} {rest : List ScoredBlock}
    (hrun : first :: rest <:+: usable) (hblocks : w.blocks = first :: rest) (hstart : w.start = first.block.timestamp)
    (hstop : w.stop = ((first :: rest).getLast (List.cons_ne_nil _ _)).block.timestamp + interval)
    (minPause : Option Duration) : WindowOf usable minPause w where
  starts := by
    rw [hblocks, hstart]
    rfl
  stops := by
    rw [hblocks, hstop, List.getLast?_eq_some_getLast (List.cons_ne_nil _ _)]
    rfl
  sublist := by
    rw [hblocks]
    exact hrun.sublist
  joined := by
    rw [hblocks]
    have hpairs : usable.IsChain (Joined usable minPause) :=
      (List.isChain_isInfix usable).imp fun b b' hpair => .inl hpair
    exact hpairs.infix hrun

theorem infix_drop_take (usable : List ScoredBlock) (i n : ℕ) : (usable.drop i).take n <:+: usable :=
  (List.take_prefix n _).isInfix.trans (List.drop_suffix i usable).isInfix

variable {order : SetOrder} {usable : List ScoredBlock} {blocks n : ℕ} {strategy : LoadStrategy} {power : ℚ}
  {sep : Duration} {w : PlanWindow}

/-- **The window at an index** is the run of the blocks from there on. -/
theorem findBestWindowAtIndex_spec {i : ℕ} {w : PlanWindow}
    (h : findBestWindowAtIndex order usable i blocks strategy power = some w) :
    i + blocks ≤ usable.length ∧ w.blocks = (usable.drop i).take blocks ∧ w.blocks ≠ []
      ∧ ∀ minPause, WindowOf usable minPause w := by
  unfold findBestWindowAtIndex at h
  split_ifs at h with hfits
  dsimp only at h
  split_ifs at h with hsun
  split at h
  · cases h
  · rename_i first rest hrun
    cases h
    refine ⟨not_lt.mp hfits, hrun.symm, List.cons_ne_nil _ _, fun minPause => ?_⟩
    exact windowOf_run (hrun ▸ infix_drop_take usable i blocks) rfl rfl rfl minPause

/-- A window at an index. -/
def FoundAt (order : SetOrder) (usable : List ScoredBlock) (blocks : ℕ) (strategy : LoadStrategy) (power : ℚ)
    (w : PlanWindow) : Prop :=
  ∃ i, findBestWindowAtIndex order usable i blocks strategy power = some w

theorem FoundAt.length_blocks (h : FoundAt order usable blocks strategy power w) : w.blocks.length = blocks := by
  obtain ⟨i, hfound⟩ := h
  obtain ⟨hfits, hblocks, -, -⟩ := findBestWindowAtIndex_spec hfound
  rw [hblocks, List.length_take, List.length_drop]
  omega

theorem FoundAt.windowOf (h : FoundAt order usable blocks strategy power w) : WindowOf usable none w := by
  obtain ⟨i, hfound⟩ := h
  exact (findBestWindowAtIndex_spec hfound).2.2.2 none

/-! ### Filter cycles -/

theorem foundAt_candidateWindows :
    ∀ w ∈ candidateWindows order usable blocks strategy power, FoundAt order usable blocks strategy power w := by
  refine List.foldlRecOn (motive := fun candidates => ∀ w ∈ candidates, FoundAt order usable blocks strategy power w)
    _ _ (fun w hw => absurd hw List.not_mem_nil) fun candidates ih i _ => ?_
  split
  · exact ih
  · rename_i window hfound
    split_ifs
    · exact ih
    · intro w hw
      rcases List.mem_append.mp hw with hbefore | hnew
      · exact ih w hbefore
      · exact ⟨i, (List.mem_singleton.mp hnew).symm ▸ hfound⟩

/-- **Every window that can be found** covers the time of a candidate. -/
theorem exists_candidateWindow (hfound : FoundAt order usable blocks strategy power w) :
    ∃ c ∈ candidateWindows order usable blocks strategy power, c.start = w.start ∧ c.stop = w.stop := by
  obtain ⟨i, hfound⟩ := hfound
  have hfits := (findBestWindowAtIndex_spec hfound).1
  obtain ⟨add, hfold, hkeep, hadd⟩ : ∃ add : List PlanWindow → ℕ → List PlanWindow,
      candidateWindows order usable blocks strategy power
          = (List.range (usable.length + 1 - blocks)).foldl add []
        ∧ (∀ candidates k, candidates ⊆ add candidates k)
        ∧ ∀ candidates, ∃ c ∈ add candidates i, c.start = w.start ∧ c.stop = w.stop := by
    refine ⟨_, rfl, fun candidates k => ?_, fun candidates => ?_⟩
    · split
      · exact List.Subset.refl _
      · split_ifs
        · exact List.Subset.refl _
        · exact List.subset_append_left _ _
    · rw [hfound]
      dsimp only
      split_ifs with hany
      · obtain ⟨c, hc, hsame⟩ := List.any_eq_true.mp hany
        exact ⟨c, hc, of_decide_eq_true hsame⟩
      · exact ⟨w, List.mem_append_right _ (List.mem_singleton_self w), rfl, rfl⟩
  rw [hfold]
  have hindex : i ∈ List.range (usable.length + 1 - blocks) := List.mem_range.mpr (by omega)
  obtain ⟨before, behind, hsplit⟩ := List.append_of_mem hindex
  rw [hsplit, List.foldl_append, List.foldl_cons]
  have hstays : ∀ (indices : List ℕ) (candidates : List PlanWindow), candidates ⊆ indices.foldl add candidates := by
    intro indices
    induction indices with
    | nil => exact fun candidates => List.Subset.refl _
    | cons k indices ih => exact fun candidates => List.Subset.trans (hkeep candidates k) (ih (add candidates k))
  obtain ⟨c, hc, hsame⟩ := hadd (before.foldl add [])
  exact ⟨c, hstays behind _ hc, hsame⟩

/-- The windows of the fallback are found, and keep their distance. -/
theorem spacedWindows_found :
    (∀ w ∈ spacedWindows order usable n blocks sep strategy power, FoundAt order usable blocks strategy power w)
      ∧ Spaced sep (spacedWindows order usable n blocks sep strategy power) := by
  refine List.foldlRecOn (motive := fun fallback =>
    (∀ w ∈ fallback, FoundAt order usable blocks strategy power w) ∧ Spaced sep fallback)
    _ _ ⟨fun w hw => absurd hw List.not_mem_nil, List.IsChain.nil⟩ fun fallback ih i _ => ?_
  split_ifs
  · split
    · exact ih
    · rename_i window hfound
      split_ifs with hcompatible
      · refine ⟨fun w hw => ?_, spaced_concat_iff.mpr ⟨ih.2, hcompatible⟩⟩
        rcases List.mem_append.mp hw with hbefore | hnew
        · exact ih.1 w hbefore
        · exact ⟨i, (List.mem_singleton.mp hnew).symm ▸ hfound⟩
      · exact ih
  · exact ih

/-- The windows of the search are among its candidates. -/
theorem mem_of_mem_enumerateFixedCyclePlans {candidates : List PlanWindow} {cyclesNeeded : ℕ}
    {minSeparation : Duration} {w : PlanWindow}
    (h : w ∈ enumerateFixedCyclePlans candidates cyclesNeeded minSeparation) : w ∈ candidates :=
  (isPlan_enumerateFixedCyclePlans (List.ne_nil_of_mem h)).1.subset h

/-- **Filter cycles** are runs of the blocks that may be used. -/
theorem windowOf_planFixedFilterCycles {scored : List ScoredBlock} {cyclesPerDay durationMinutes : ℤ}
    {minSeparation : Duration} {earliest latest now : Instant} :
    ∀ w ∈ planFixedFilterCycles order scored cyclesPerDay durationMinutes minSeparation earliest latest now strategy
      power, WindowOf (eligibleBlocks scored earliest latest now) none w := by
  intro w hw
  unfold planFixedFilterCycles at hw
  split_ifs at hw
  · exact absurd hw List.not_mem_nil
  dsimp only at hw
  split_ifs at hw
  · exact absurd hw List.not_mem_nil
  · exact (foundAt_candidateWindows w (List.mem_mergeSort.mp (mem_of_mem_enumerateFixedCyclePlans hw))).windowOf
  · exact (spacedWindows_found.1 w hw).windowOf
  · exact absurd hw List.not_mem_nil
  · exact absurd hw List.not_mem_nil

/-! ### Daily cleaning -/

theorem bestWindowAmong_spec {indices : List ℕ} {w : PlanWindow}
    (h : bestWindowAmong order usable indices blocks strategy power = some w) :
    ∃ i ∈ indices, findBestWindowAtIndex order usable i blocks strategy power = some w := by
  revert w
  refine List.foldlRecOn (motive := fun best : Option PlanWindow × WithBot ℚ => ∀ {w}, best.1 = some w →
    ∃ i ∈ indices, findBestWindowAtIndex order usable i blocks strategy power = some w) _ _
    (fun hnone => by cases hnone) fun best ih i hi => ?_
  intro w hw
  split at hw
  · exact ih hw
  · rename_i candidate hfound
    dsimp only at hw
    split_ifs at hw
    · cases hw
      exact ⟨i, hi, hfound⟩
    · exact ih hw

/-- The last block of a run is where the run ends. -/
theorem idxOf_getLast (hnodup : usable.Nodup) {i : ℕ} (hfits : i + blocks ≤ usable.length) {last : ScoredBlock}
    (hlast : ((usable.drop i).take blocks).getLast? = some last) : usable.idxOf last + 1 = i + blocks := by
  have hlength : ((usable.drop i).take blocks).length = blocks := by
    rw [List.length_take, List.length_drop]
    omega
  have hpos : 0 < blocks := by
    rw [← hlength]
    exact List.length_pos_of_mem (List.mem_of_getLast? hlast)
  rw [List.getLast?_eq_getElem?, hlength, List.getElem?_take_of_lt (by omega), List.getElem?_drop] at hlast
  obtain ⟨hlt, hget⟩ := List.getElem?_eq_some_iff.mp hlast
  rw [← hget, hnodup.idxOf_getElem]
  omega

/-- **Windows one after the other** are runs, each behind the one before. -/
theorem consecutiveWindows_spec (hnodup : usable.Nodup) {pauseBlocks starts first : ℕ} {windows : List PlanWindow}
    (h : consecutiveWindows order usable blocks pauseBlocks strategy power starts first = some windows) :
    (∀ w ∈ windows, ∀ minPause, WindowOf usable minPause w)
      ∧ (windows.flatMap PlanWindow.blocks).Sublist (usable.drop first) := by
  induction starts generalizing first windows with
  | zero =>
    obtain rfl : [] = windows := Option.some_inj.mp h
    exact ⟨fun w hw => absurd hw List.not_mem_nil, List.nil_sublist _⟩
  | succ starts ih =>
    simp only [consecutiveWindows, Option.bind_eq_bind, Option.bind_eq_some_iff] at h
    obtain ⟨best, hbest, last, hlast, rest, hrest, hwindows⟩ := h
    obtain rfl : best :: rest = windows := Option.some_inj.mp hwindows
    obtain ⟨i, hi, hfound⟩ := bestWindowAmong_spec hbest
    obtain ⟨hfits, hblocks, -, hwindow⟩ := findBestWindowAtIndex_spec hfound
    rw [hblocks] at hlast
    have hend := idxOf_getLast hnodup hfits hlast
    obtain ⟨hruns, hbehind⟩ := ih hrest
    have hfirst : first ≤ i := by
      obtain ⟨k, hk, rfl⟩ := List.mem_iff_getElem.mp hi
      rw [List.getElem_drop, List.getElem_range]
      omega
    refine ⟨fun w hw => ?_, ?_⟩
    · rcases List.mem_cons.mp hw with rfl | hmem
      · exact hwindow
      · exact hruns w hmem
    · rw [List.flatMap_cons, hblocks]
      have hskip : (rest.flatMap PlanWindow.blocks).Sublist ((usable.drop i).drop blocks) := by
        rw [List.drop_drop]
        exact hbehind.trans (List.drop_sublist_drop_left usable (by omega))
      have hrun : ((usable.drop i).take blocks ++ rest.flatMap PlanWindow.blocks).Sublist (usable.drop i) := by
        conv_rhs => rw [← List.take_append_drop blocks (usable.drop i)]
        exact hskip.append_left _
      exact hrun.trans (List.drop_sublist_drop_left usable hfirst)

/-- Two windows that are merged stand beside a pause. -/
theorem windowOf_merged {minPause : Duration} {current next : PlanWindow} {first : ScoredBlock}
    {rest : List ScoredBlock} (hcurrent : WindowOf usable (some minPause) current)
    (hnext : WindowOf usable (some minPause) next) (hgap : next.start - current.stop ≤ minPause)
    (hsub : (current.blocks ++ next.blocks).Sublist usable) (hblocks : current.blocks ++ next.blocks = first :: rest) :
    WindowOf usable (some minPause) (windowFromBlocks order power first rest) where
  starts := rfl
  stops := by
    show (first :: rest).getLast?.map _ = _
    rw [List.getLast?_eq_some_getLast (List.cons_ne_nil _ _)]
    rfl
  sublist := by
    show (first :: rest).Sublist usable
    rw [← hblocks]
    exact hsub
  joined := by
    show (first :: rest).IsChain _
    rw [← hblocks]
    refine List.isChain_append.mpr ⟨hcurrent.joined, hnext.joined, fun last hlast head hhead => .inr ?_⟩
    refine ⟨minPause, rfl, ?_⟩
    have hstops := hcurrent.stops
    have hstarts := hnext.starts
    rw [hlast, Option.map_some, Option.some_inj] at hstops
    rw [hhead, Option.map_some, Option.some_inj] at hstarts
    rw [hstarts, hstops]
    linarith

/-- **Merging** keeps windows of usable blocks. -/
theorem windowOf_mergeInto {minPause : Duration} {maxMergedHours : ℚ} {current : PlanWindow} {rest : List PlanWindow}
    (hcurrent : WindowOf usable (some minPause) current) (hrest : ∀ w ∈ rest, WindowOf usable (some minPause) w)
    (hsub : (current.blocks ++ rest.flatMap PlanWindow.blocks).Sublist usable) :
    ∀ w ∈ mergeInto order minPause maxMergedHours power current rest, WindowOf usable (some minPause) w := by
  induction rest generalizing current with
  | nil =>
    intro w hw
    obtain rfl := List.mem_singleton.mp hw
    exact hcurrent
  | cons next rest ih =>
    have hnext := hrest next List.mem_cons_self
    have hlater : ∀ w ∈ rest, WindowOf usable (some minPause) w := fun w hw => hrest w (List.mem_cons_of_mem _ hw)
    rw [List.flatMap_cons, ← List.append_assoc] at hsub
    rw [mergeInto]
    split_ifs with hmerge
    · split
      · rename_i hnone
        exact absurd (List.append_eq_nil_iff.mp hnone).1 hcurrent.blocks_ne
      · rename_i first blocks hblocks
        have hboth : (current.blocks ++ next.blocks).Sublist usable := (List.sublist_append_left _ _).trans hsub
        refine ih (windowOf_merged hcurrent hnext hmerge.1 hboth hblocks) hlater ?_
        show ((first :: blocks) ++ rest.flatMap PlanWindow.blocks).Sublist usable
        rw [← hblocks]
        exact hsub
    · intro w hw
      rcases List.mem_cons.mp hw with rfl | hmem
      · exact hcurrent
      · refine ih hnext hlater ?_ w hmem
        rw [List.append_assoc] at hsub
        exact (List.sublist_append_right _ _).trans hsub

theorem windowOf_mergeWindows (hnodup : usable.Nodup) {minPause : Duration} {maxMergedHours : ℚ}
    {pauseBlocks starts : ℕ} {windows : List PlanWindow}
    (h : consecutiveWindows order usable blocks pauseBlocks strategy power starts 0 = some windows) :
    ∀ w ∈ mergeWindows order windows minPause maxMergedHours power, WindowOf usable (some minPause) w := by
  obtain ⟨hruns, hsub⟩ := consecutiveWindows_spec hnodup h
  cases windows with
  | nil => exact fun w hw => absurd hw List.not_mem_nil
  | cons current rest =>
    exact windowOf_mergeInto (hruns current List.mem_cons_self _)
      (fun w hw => hruns w (List.mem_cons_of_mem _ hw) _) hsub

theorem windowOf_tryStarts (hnodup : usable.Nodup) {dailyHours : ℚ} {minCycle minPause : Duration}
    {minBlocks dailyBlocks starts : ℕ} {best : BestPlan} (h : ∀ w ∈ best.1, WindowOf usable (some minPause) w) :
    ∀ w ∈ (tryStarts order usable dailyHours minCycle minPause minBlocks dailyBlocks strategy power best starts).1,
      WindowOf usable (some minPause) w := by
  unfold tryStarts
  dsimp only
  split_ifs
  · exact h
  · split
    · exact h
    · rename_i windows hfound
      split_ifs
      · exact windowOf_mergeWindows hnodup hfound
      · exact h

/-- **Daily cleaning** is runs of the blocks that may be used, merged across the pause. -/
theorem windowOf_planDailyCleaningWindows {scored : List ScoredBlock} {dailyHours : ℚ} {minCycle minPause : Duration}
    {maxStarts : ℤ} {earliest latest now : Instant} (hnodup : (eligibleBlocks scored earliest latest now).Nodup) :
    ∀ w ∈ planDailyCleaningWindows order scored dailyHours minCycle minPause maxStarts earliest latest now strategy
      power, WindowOf (eligibleBlocks scored earliest latest now) (some minPause) w := by
  intro w hw
  unfold planDailyCleaningWindows at hw
  split_ifs at hw
  · exact absurd hw List.not_mem_nil
  dsimp only at hw
  split_ifs at hw
  · refine List.foldlRecOn (motive := fun best : BestPlan => ∀ w ∈ best.1,
      WindowOf (eligibleBlocks scored earliest latest now) (some minPause) w) _ _
      (fun w hw => absurd hw List.not_mem_nil) (fun best ih starts _ => windowOf_tryStarts hnodup ih) w hw
  · obtain ⟨i, -, hfound⟩ := bestWindowAmong_spec (Option.mem_toList.mp hw)
    exact (findBestWindowAtIndex_spec hfound).2.2.2 _

end EnergyCore.SpaEnergy
