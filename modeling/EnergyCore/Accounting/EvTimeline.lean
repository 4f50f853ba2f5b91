import EnergyCore.Accounting.EvSessions
import EnergyCore.Foundations.RegisterMovement
import EnergyCore.Foundations.Timeline

/-!
# The timeline of EV sessions

Over any sequence of calls and restarts, the stored intervals of a session follow one another within the
session, and their measured energy is covered by the upward movement of the register.

* `Tracked` — how the stored intervals of one session hang together with the anchors of its charger;
* `Inv.run` — every run keeps all sessions tracked;
* `evTimeline_run` — what this says about the tables.
-/

namespace EnergyCore.Accounting

open OpenRows StepRun Timeline RegisterMovement

/-! ### One session -/

/-- The energy of the measured intervals. -/
def measuredKwh (intervals : List ChargingInterval) : ℚ :=
  ((intervals.filter fun i => decide (i.dataQuality = "MEASURED")).map (·.chargedEnergyKwh)).sum

/-- The intervals of a session end by the clock anchor, and their measured energy is covered by readings of
which the meter anchor is the last. -/
structure Tracked (startedAt : Instant) (anchors : SampleAnchors)
    (intervals : List ChargingInterval) (readings : List ℚ) : Prop where
  anchored : ∃ t, anchors.lastSampleAt = some t ∧ startedAt ≤ t ∧
    IsTimeline ChargingInterval.startTime ChargingInterval.endTime startedAt t intervals
  covered : ∃ seen, (seen ++ anchors.lastMeterKwh.toList).Sublist readings ∧
    measuredKwh intervals ≤ upwardMovement (seen ++ anchors.lastMeterKwh.toList)

theorem measuredKwh_concat (intervals : List ChargingInterval) (i : ChargingInterval) : measuredKwh (intervals ++ [i])
      = measuredKwh intervals + if i.dataQuality = "MEASURED" then i.chargedEnergyKwh else 0 := by
  unfold measuredKwh
  rw [List.filter_append, List.map_append, List.sum_append]
  by_cases h : i.dataQuality = "MEASURED"
  · rw [if_pos h, List.filter_singleton, decide_eq_true h]
    simp
  · rw [if_neg h, List.filter_singleton, decide_eq_false h]
    simp

/-- An estimated interval is not taken for a measured one. -/
theorem chargingInterval_dataQuality_estimated (input : SampleInput) (sessionId : ℕ)
    (start : Instant) {chargedKwh : ℚ} (h : 0 < chargedKwh) :
    (chargingInterval input sessionId start (chargedKwh, "ESTIMATED")).dataQuality ≠ "MEASURED" :=
  attributeInterval_dataQuality_ne h _ _ _

namespace Tracked

variable {startedAt : Instant} {anchors : SampleAnchors} {intervals : List ChargingInterval}
  {readings : List ℚ}

/-- A session that has just started. -/
theorem opened (startedAt : Instant) (cumulativeKwh : Option ℚ) :
    Tracked startedAt { lastMeterKwh := cumulativeKwh, lastSampleAt := some startedAt } []
      cumulativeKwh.toList where
  anchored := ⟨startedAt, rfl, le_rfl, IsTimeline.nil _ _⟩
  covered := ⟨[], List.Sublist.refl _, upwardMovement_nonneg _⟩

/-- Readings that are not used do no harm. -/
theorem read (h : Tracked startedAt anchors intervals readings) (more : List ℚ) :
    Tracked startedAt anchors intervals (readings ++ more) where
  anchored := h.anchored
  covered := by
    obtain ⟨seen, hseen, hle⟩ := h.covered
    exact ⟨seen, hseen.trans (List.sublist_append_left _ _), hle⟩

/-- The meter anchor may be dropped, and the clock anchor moved to any time that no interval exceeds. -/
theorem reanchor (h : Tracked startedAt anchors intervals readings) {t : Instant}
    (hstart : startedAt ≤ t) (hstops : ∀ i ∈ intervals, i.endTime ≤ t) :
    Tracked startedAt { lastMeterKwh := none, lastSampleAt := some t } intervals readings where
  anchored := by
    obtain ⟨_, -, -, htimeline⟩ := h.anchored
    exact ⟨t, rfl, hstart, htimeline.of_stops_le hstops⟩
  covered := by
    obtain ⟨seen, hseen, hle⟩ := h.covered
    refine ⟨seen ++ anchors.lastMeterKwh.toList, ?_, ?_⟩
    · rw [Option.toList_none, List.append_nil]
      exact hseen
    · rw [Option.toList_none, List.append_nil]
      exact hle

/-- A recorded interval continues the timeline, and its measured energy is the step from the meter anchor
to the reading. -/
theorem record (h : Tracked startedAt anchors intervals readings) {i : ChargingInterval}
    {now : Instant} {cumulativeKwh : Option ℚ}
    (hstart : i.startTime = anchors.lastSampleAt.getD startedAt) (hend : i.endTime = now)
    (htime : anchors.lastSampleAt.getD startedAt < now)
    (hquality : i.dataQuality = "MEASURED" → ∃ last cumulative, anchors.lastMeterKwh = some last ∧
      cumulativeKwh = some cumulative ∧ i.chargedEnergyKwh = cumulative - last) :
    Tracked startedAt { lastMeterKwh := cumulativeKwh, lastSampleAt := some now }
      (intervals ++ [i]) (readings ++ cumulativeKwh.toList) where
  anchored := by
    obtain ⟨t, hanchor, hle, htimeline⟩ := h.anchored
    rw [hanchor, Option.getD_some] at hstart htime
    refine ⟨now, rfl, hle.trans htime.le, ?_⟩
    have hconcat := htimeline.concat (a := i) (by rw [hstart]; exact hle) (by rw [hstart])
      (by rw [hstart, hend]; exact htime)
    rwa [hend] at hconcat
  covered := by
    obtain ⟨seen, hseen, hle⟩ := h.covered
    refine ⟨seen ++ anchors.lastMeterKwh.toList, hseen.append (List.Sublist.refl _), ?_⟩
    rw [measuredKwh_concat]
    split_ifs with hmeasured
    · obtain ⟨last, cumulative, hlast, hcumulative, hcharged⟩ := hquality hmeasured
      rw [hlast, Option.toList_some] at hle
      rw [hlast, hcumulative, hcharged, Option.toList_some, Option.toList_some, List.append_assoc,
        List.singleton_append, upwardMovement_concat_pair]
      exact add_le_add hle (le_max_right _ _)
    · rw [add_zero]
      exact hle.trans (upwardMovement_le_of_sublist (List.sublist_append_left _ _))

/-- **A sample keeps a session tracked.** -/
theorem sample (h : Tracked startedAt anchors intervals readings) (input : SampleInput) (sessionId : ℕ) :
    Tracked startedAt ((takeSample input sessionId startedAt anchors).anchors anchors input.meter)
      (intervals ++ (takeSample input sessionId startedAt anchors).intervals)
      (readings ++ input.meter.cumulativeKwh.toList) := by
  have hstep := takeSample_step input sessionId startedAt anchors
  generalize takeSample input sessionId startedAt anchors = outcome at hstep ⊢
  cases hstep with
  | skipped hlate =>
    rw [SampleOutcome.intervals, List.append_nil]
    exact h.read _
  | advanced htime hregister hpower =>
    rw [SampleOutcome.intervals, List.append_nil]
    obtain ⟨t, hanchor, hle, htimeline⟩ := h.anchored
    rw [hanchor, Option.getD_some] at htime
    exact ⟨⟨_, rfl, hle.trans htime.le, htimeline.mono_right htime.le⟩, (h.read _).covered⟩
  | measured htime last cumulative hlast hcumulative hstep =>
    exact h.record rfl rfl htime fun _ => ⟨last, cumulative, hlast, hcumulative, rfl⟩
  | estimated htime hregister hpower =>
    exact h.record rfl rfl htime fun hmeasured =>
      absurd hmeasured (chargingInterval_dataQuality_estimated input sessionId _ hpower)

end Tracked

/-! ### The history of a session -/

namespace EvAccounting

/-- The reading that a call samples a session with. -/
def samplesOf (s : EvAccounting) (sessionId : ℕ) : EvEvent → List (ℕ × MeterSnapshot)
  | .sample chargerId input =>
    if (s.getActiveForCharger chargerId).map EvChargingSession.id = some sessionId then
      [(chargerId, input.meter)]
    else []
  | _ => []

/-- The readings that a run samples a session with. -/
def runSamples : EvAccounting → List EvEvent → ℕ → List (ℕ × MeterSnapshot)
  | _, [], _ => []
  | s, e :: es, sessionId => s.samplesOf sessionId e ++ runSamples (e.apply s) es sessionId

end EvAccounting

/-- The register as a session saw it: at its start, and at every sample. -/
def registerReadings (r : EvChargingSession) (samples : List (ℕ × MeterSnapshot)) : List ℚ :=
  r.meterStartKwh.toList ++ samples.filterMap fun m => m.2.cumulativeKwh

theorem registerReadings_concat (r : EvChargingSession) (samples : List (ℕ × MeterSnapshot))
    (chargerId : ℕ) (meter : MeterSnapshot) : registerReadings r (samples ++ [(chargerId, meter)])
      = registerReadings r samples ++ meter.cumulativeKwh.toList := by
  have hlast : [(chargerId, meter)].filterMap (fun m => m.2.cumulativeKwh)
      = meter.cumulativeKwh.toList := by
    rw [List.filterMap_cons]
    cases meter.cumulativeKwh <;> rfl
  rw [registerReadings, registerReadings, List.filterMap_append, hlast, ← List.append_assoc]

/-- Every session is tracked, an active one by the anchors of its charger; the intervals end when the
session was sampled. -/
structure Inv (s : EvAccounting) (samples : ℕ → List (ℕ × MeterSnapshot)) : Prop where
  wellKept : evSessionTable.WellKept s.sessions
  known : ∀ i ∈ s.intervals, i.sessionId < s.sessions.length
  silent : ∀ id, s.sessions.length ≤ id → samples id = []
  tracked : ∀ r ∈ s.sessions, ∃ anchors,
    Tracked r.startedAt anchors (s.intervalsOf r.id) (registerReadings r (samples r.id)) ∧
      (r.status = .active → anchors = (s.runtime r.chargerId).toSampleAnchors)
  charger : ∀ r ∈ s.sessions, ∀ m ∈ samples r.id, m.1 = r.chargerId
  sampled : ∀ i ∈ s.intervals, ∃ m ∈ samples i.sessionId, i.endTime = m.2.recordedAt

namespace Inv

variable {s : EvAccounting} {samples : ℕ → List (ℕ × MeterSnapshot)}

theorem start : Inv {} fun _ => [] where
  wellKept := Schema.WellKept.nil _
  known := by simp
  silent := fun _ _ => rfl
  tracked := by simp
  charger := by simp
  sampled := by simp

/-- Only the anchors of the chargers matter. -/
theorem of_anchors (h : Inv s samples) (runtime : ℕ → ChargerSessionState)
    (hruntime : ∀ c, (runtime c).toSampleAnchors = (s.runtime c).toSampleAnchors) :
    Inv { s with runtime := runtime } samples where
  wellKept := h.wellKept
  known := h.known
  silent := h.silent
  tracked := by
    intro r hr
    obtain ⟨anchors, htracked, hactive⟩ := h.tracked r hr
    exact ⟨anchors, htracked, fun hstatus => (hactive hstatus).trans (hruntime _).symm⟩
  charger := h.charger
  sampled := h.sampled

theorem setConnected (h : Inv s samples) (chargerId : ℕ) (connected : Bool) :
    Inv (s.setConnected chargerId connected) samples := by
  refine h.of_anchors _ fun c => ?_
  by_cases hc : c = chargerId
  · rw [hc, Function.update_self]
  · rw [Function.update_of_ne hc]

/-- Another active session has another charger. -/
theorem chargerId_ne (h : Inv s samples) {r active : EvChargingSession} (hr : r ∈ s.sessions)
    (hactive : active ∈ s.sessions) (hrstatus : r.status = .active)
    (hstatus : active.status = .active) (hid : r.id ≠ active.id) : r.chargerId ≠ active.chargerId := by
  intro hcharger
  have heq : r = active := h.wellKept.unique r hr active hactive (decide_eq_true hrstatus)
    (decide_eq_true hstatus) hcharger
  exact hid (congrArg EvChargingSession.id heq)

theorem of_getActive {c : ℕ} {active : EvChargingSession} (hactive : s.getActiveForCharger c = some active) :
    active ∈ s.sessions ∧ active.chargerId = c ∧ active.status = .active := by
  obtain ⟨hmem, howner, hopen⟩ := mem_of_openRow hactive
  exact ⟨hmem, howner, of_decide_eq_true hopen⟩

/-- A session starts. -/
theorem opened (h : Inv s samples) {r : EvChargingSession} (hid : r.id = s.sessions.length)
    (hnone : s.getActiveForCharger r.chargerId = none) (runtime : ℕ → ChargerSessionState)
    (hself : (runtime r.chargerId).toSampleAnchors
      = { lastMeterKwh := r.meterStartKwh, lastSampleAt := some r.startedAt })
    (hother : ∀ c, c ≠ r.chargerId → runtime c = s.runtime c) :
    Inv { s with sessions := s.sessions ++ [r], runtime := runtime } samples where
  wellKept := h.wellKept.append hid hnone
  known := by
    intro i hi
    have hlt := h.known i hi
    simp only [List.length_append, List.length_singleton]
    omega
  silent := by
    intro id hle
    simp only [List.length_append, List.length_singleton] at hle
    exact h.silent id (by omega)
  tracked := by
    intro a ha
    rcases List.mem_append.mp ha with ha | ha
    · obtain ⟨anchors, htracked, hactive⟩ := h.tracked a ha
      refine ⟨anchors, htracked, fun hstatus => ?_⟩
      have hne : a.chargerId ≠ r.chargerId := by
        intro hcharger
        have hclosed := openRow_eq_none_iff.mp hnone a ha hcharger
        exact of_decide_eq_false hclosed hstatus
      show anchors = (runtime a.chargerId).toSampleAnchors
      rw [hactive hstatus, hother _ hne]
    · rw [List.mem_singleton.mp ha]
      have hnew : s.intervalsOf r.id = [] := by
        rw [EvAccounting.intervalsOf, List.filter_eq_nil_iff]
        intro i hi heq
        have hlt := h.known i hi
        rw [of_decide_eq_true heq, hid] at hlt
        exact lt_irrefl _ hlt
      refine ⟨_, ?_, fun _ => hself.symm⟩
      show Tracked r.startedAt _ (s.intervalsOf r.id) _
      rw [hnew, registerReadings, h.silent r.id hid.ge, List.filterMap_nil, List.append_nil]
      exact Tracked.opened r.startedAt r.meterStartKwh
  charger := by
    intro a ha m hm
    rcases List.mem_append.mp ha with ha | ha
    · exact h.charger a ha m hm
    · rw [List.mem_singleton.mp ha, h.silent r.id hid.ge] at hm
      exact absurd hm (by simp)
  sampled := h.sampled

/-- The active session of a charger is rewritten, and gets intervals and samples. All other sessions stay
as they are. -/
theorem updated (h : Inv s samples) {active : EvChargingSession} (hmem : active ∈ s.sessions)
    (hstatus : active.status = .active) (f : EvChargingSession → EvChargingSession)
    (hid : ∀ r, (f r).id = r.id) (hcharger : ∀ r, (f r).chargerId = r.chargerId)
    (hstarted : (f active).startedAt = active.startedAt)
    (hmeter : (f active).meterStartKwh = active.meterStartKwh)
    (hopen : ∀ r, (f r).status = .active → r.status = .active)
    (runtime : ℕ → ChargerSessionState)
    (hother : ∀ c, c ≠ active.chargerId → runtime c = s.runtime c)
    (more : List ChargingInterval) (hmore : ∀ i ∈ more, i.sessionId = active.id)
    (samples' : ℕ → List (ℕ × MeterSnapshot))
    (hsamples : ∀ id, id ≠ active.id → samples' id = samples id)
    (hkeep : ∀ m ∈ samples active.id, m ∈ samples' active.id)
    (hfrom : ∀ m ∈ samples' active.id, m.1 = active.chargerId)
    (hend : ∀ i ∈ more, ∃ m ∈ samples' active.id, i.endTime = m.2.recordedAt)
    (htracked : ∃ anchors, Tracked active.startedAt anchors (s.intervalsOf active.id ++ more)
        (registerReadings active (samples' active.id)) ∧
      ((f active).status = .active → anchors = (runtime active.chargerId).toSampleAnchors)) :
    Inv { runtime := runtime, sessions := evSessionTable.updateRow s.sessions active.id f,
          intervals := s.intervals ++ more } samples' where
  wellKept := h.wellKept.update active.id hid hcharger fun r hr =>
    decide_eq_true (hopen r (of_decide_eq_true hr))
  known := by
    intro i hi
    rw [length_updateRow]
    rcases List.mem_append.mp hi with hi | hi
    · exact h.known i hi
    · rw [hmore i hi]
      exact h.wellKept.key_lt hmem
  silent := by
    intro id hle
    rw [length_updateRow] at hle
    have hne : id ≠ active.id := by
      intro heq
      have hlt := h.wellKept.key_lt hmem
      rw [heq] at hle
      exact absurd hlt (not_lt.mpr hle)
    rw [hsamples id hne]
    exact h.silent id hle
  tracked := by
    intro r' hr'
    obtain ⟨r, hr, rfl⟩ := mem_updateRow.mp hr'
    have hof : ∀ id, EvAccounting.intervalsOf
        { runtime := runtime, sessions := evSessionTable.updateRow s.sessions active.id f,
          intervals := s.intervals ++ more } id
        = s.intervalsOf id ++ more.filter fun i => decide (i.sessionId = id) :=
      fun id => List.filter_append _ _
    rw [hof]
    by_cases hsame : r.id = active.id
    · obtain rfl : r = active := h.wellKept.key_inj hr hmem hsame
      have hall : more.filter (fun i => decide (i.sessionId = r.id)) = more :=
        List.filter_eq_self.mpr fun i hi => decide_eq_true (hmore i hi)
      obtain ⟨anchors, ht, hanchors⟩ := htracked
      rw [show evSessionTable.key r = r.id from rfl, if_pos rfl, hid, hall, hstarted,
        registerReadings, hmeter, hcharger]
      exact ⟨anchors, ht, hanchors⟩
    · have hnone : more.filter (fun i => decide (i.sessionId = r.id)) = [] := by
        rw [List.filter_eq_nil_iff]
        intro i hi heq
        exact hsame ((of_decide_eq_true heq).symm.trans (hmore i hi))
      obtain ⟨anchors, ht, hanchors⟩ := h.tracked r hr
      rw [show evSessionTable.key r = r.id from rfl, if_neg hsame, hnone, List.append_nil, hsamples r.id hsame]
      refine ⟨anchors, ht, fun hactive => ?_⟩
      show anchors = (runtime r.chargerId).toSampleAnchors
      rw [hanchors hactive, hother _ (h.chargerId_ne hr hmem hactive hstatus hsame)]
  charger := by
    intro r' hr' m hm
    obtain ⟨r, hr, rfl⟩ := mem_updateRow.mp hr'
    rw [show evSessionTable.key r = r.id from rfl] at hm ⊢
    by_cases hsame : r.id = active.id
    · obtain rfl : r = active := h.wellKept.key_inj hr hmem hsame
      rw [if_pos rfl, hid] at hm
      rw [if_pos rfl, hcharger]
      exact hfrom m hm
    · rw [if_neg hsame] at hm ⊢
      rw [hsamples r.id hsame] at hm
      exact h.charger r hr m hm
  sampled := by
    intro i hi
    rcases List.mem_append.mp hi with hi | hi
    · obtain ⟨m, hm, hend'⟩ := h.sampled i hi
      by_cases hsame : i.sessionId = active.id
      · rw [hsame] at hm ⊢
        exact ⟨m, hkeep m hm, hend'⟩
      · rw [hsamples _ hsame]
        exact ⟨m, hm, hend'⟩
    · rw [hmore i hi]
      exact hend i hi

/-- The session of a charger is completed. -/
theorem completeSession (h : Inv s samples) {c : ℕ} {active : EvChargingSession}
    (hactive : s.getActiveForCharger c = some active) (meter : MeterSnapshot) :
    Inv (s.completeSession active meter) samples := by
  obtain ⟨hmem, -, hstatus⟩ := of_getActive hactive
  obtain ⟨anchors, htracked, -⟩ := h.tracked active hmem
  have hinv := h.updated hmem hstatus
    (fun r => { r with
      status := .completed
      endedAt := some meter.recordedAt
      meterStopKwh := meter.cumulativeKwh
      totals := some (sessionTotalsFromIntervals (s.listForSession active.id)
        (sessionEnergyFromMeter active.meterStartKwh meter.cumulativeKwh).1
        (sessionEnergyFromMeter active.meterStartKwh meter.cumulativeKwh).2) })
    (fun _ => rfl) (fun _ => rfl) rfl rfl (fun _ hr => by simp at hr)
    (s.completeSession active meter).runtime (fun c hc => Function.update_of_ne hc _ _)
    [] (by simp) samples (fun _ _ => rfl) (fun _ hm => hm) (h.charger active hmem) (by simp)
    ⟨anchors, by rw [List.append_nil]; exact htracked, fun hr => by simp at hr⟩
  rw [List.append_nil] at hinv
  exact hinv

/-- `process_charger` starts a session, completes one, or only notes the connection. -/
theorem processCharger (h : Inv s samples) (chargerId siteId : ℕ) (meter : MeterSnapshot) :
    Inv (s.processCharger chargerId siteId meter).1 samples := by
  unfold EvAccounting.processCharger
  cases hactive : s.getActiveForCharger chargerId with
  | none =>
    simp only
    split_ifs with hstart
    · exact h.opened rfl hactive _ (by rw [Function.update_self]) (fun c hc => Function.update_of_ne hc _ _)
    · exact h.setConnected _ _
  | some active =>
    simp only
    split_ifs with hstop
    · exact (h.completeSession hactive meter).setConnected _ _
    · exact h.setConnected _ _

end Inv

/-- What a sample of an active session changes. -/
theorem sampleActiveSession_eq {s : EvAccounting} {c : ℕ} {active : EvChargingSession}
    (hactive : s.getActiveForCharger c = some active) (input : SampleInput) :
    ∃ totals : EvChargingSession → Option SessionTotals, s.sampleActiveSession c input
      = { runtime := Function.update s.runtime c { s.runtime c with
            toSampleAnchors := (takeSample input active.id active.startedAt
              (s.runtime c).toSampleAnchors).anchors (s.runtime c).toSampleAnchors input.meter }
          sessions := evSessionTable.updateRow s.sessions active.id
            (fun r => { r with totals := totals r })
          intervals := s.intervals ++ (takeSample input active.id active.startedAt
            (s.runtime c).toSampleAnchors).intervals } := by
  unfold EvAccounting.sampleActiveSession
  rw [hactive]
  simp only
  generalize takeSample input active.id active.startedAt (s.runtime c).toSampleAnchors = outcome
  cases outcome with
  | recorded i => exact ⟨fun _ => some _, rfl⟩
  | advanced => exact ⟨EvChargingSession.totals, by simp only [updateRow_id]⟩
  | skipped => exact ⟨EvChargingSession.totals, by simp only [updateRow_id]⟩

/-- A recorded interval belongs to the session, and ends with the sample. -/
theorem takeSample_intervals (input : SampleInput) (sessionId : ℕ) (sessionStart : Instant)
    (anchors : SampleAnchors) : ∀ i ∈ (takeSample input sessionId sessionStart anchors).intervals,
      i.sessionId = sessionId ∧ i.endTime = input.meter.recordedAt := by
  have hstep := takeSample_step input sessionId sessionStart anchors
  generalize takeSample input sessionId sessionStart anchors = outcome at hstep
  intro i hi
  cases hstep with
  | skipped => exact absurd hi (by simp [SampleOutcome.intervals])
  | advanced => exact absurd hi (by simp [SampleOutcome.intervals])
  | measured =>
    rw [List.mem_singleton.mp hi]
    exact ⟨rfl, rfl⟩
  | estimated =>
    rw [List.mem_singleton.mp hi]
    exact ⟨rfl, rfl⟩

/-- A session is resumed no earlier than it started, and after all its intervals. -/
theorem le_resumeAnchor (s : EvAccounting) (r : EvChargingSession)
    (hstart : ∀ i ∈ s.intervalsOf r.id, r.startedAt ≤ i.endTime) :
    r.startedAt ≤ s.resumeAnchor r ∧ ∀ i ∈ s.intervalsOf r.id, i.endTime ≤ s.resumeAnchor r := by
  have hmem : ∀ i, i ∈ s.listForSession r.id ↔ i ∈ s.intervalsOf r.id := fun i => (List.perm_insertionSort _ _).mem_iff
  unfold EvAccounting.resumeAnchor
  cases hmax : ((s.listForSession r.id).map fun i => i.endTime).max? with
  | none =>
    rw [List.max?_eq_none_iff, List.map_eq_nil_iff] at hmax
    refine ⟨le_rfl, fun i hi => ?_⟩
    rw [← hmem, hmax] at hi
    exact absurd hi (by simp)
  | some last =>
    rw [List.max?_eq_some_iff] at hmax
    obtain ⟨hlast, hle⟩ := hmax
    obtain ⟨i, hi, rfl⟩ := List.mem_map.mp hlast
    refine ⟨hstart i ((hmem i).mp hi), fun j hj => ?_⟩
    exact hle _ (List.mem_map_of_mem ((hmem j).mpr hj))

namespace Inv

variable {s : EvAccounting} {samples : ℕ → List (ℕ × MeterSnapshot)}

/-- A session is sampled. -/
theorem sampleActiveSession (h : Inv s samples) (c : ℕ) (input : SampleInput) : Inv (s.sampleActiveSession c input)
      (fun id => samples id ++ s.samplesOf id (.sample c input)) := by
  cases hactive : s.getActiveForCharger c with
  | none =>
    have hsame : s.sampleActiveSession c input = s := by
      rw [EvAccounting.sampleActiveSession, hactive]
    have hnone : (fun id => samples id ++ s.samplesOf id (.sample c input)) = samples := by
      funext id
      simp [EvAccounting.samplesOf, hactive]
    rw [hsame, hnone]
    exact h
  | some active =>
    obtain ⟨hmem, rfl, hstatus⟩ := of_getActive hactive
    have hsample : ∀ id, s.samplesOf id (.sample active.chargerId input)
        = if active.id = id then [(active.chargerId, input.meter)] else [] := by
      intro id
      simp [EvAccounting.samplesOf, hactive]
    have hself : s.samplesOf active.id (.sample active.chargerId input)
        = [(active.chargerId, input.meter)] := by
      rw [hsample, if_pos rfl]
    obtain ⟨anchors, htracked, hanchors⟩ := h.tracked active hmem
    obtain rfl := hanchors hstatus
    obtain ⟨totals, heq⟩ := sampleActiveSession_eq hactive input
    rw [heq]
    refine h.updated hmem hstatus (fun r => { r with totals := totals r }) (fun _ => rfl)
      (fun _ => rfl) rfl rfl (fun _ hr => hr) _ ?_ _ ?_ _ ?_ ?_ ?_ ?_ ?_
    · intro c hc
      exact Function.update_of_ne hc _ _
    · intro i hi
      exact (takeSample_intervals _ _ _ _ i hi).1
    · intro id hid
      rw [hsample, if_neg (Ne.symm hid), List.append_nil]
    · intro m hm
      exact List.mem_append_left _ hm
    · intro m hm
      rw [hself] at hm
      rcases List.mem_append.mp hm with hm | hm
      · exact h.charger active hmem m hm
      · rw [List.mem_singleton.mp hm]
    · intro i hi
      refine ⟨(active.chargerId, input.meter), ?_, (takeSample_intervals _ _ _ _ i hi).2⟩
      rw [hself]
      exact List.mem_append_right _ List.mem_cons_self
    · rw [hself, registerReadings_concat]
      exact ⟨_, htracked.sample input active.id, fun _ => by rw [Function.update_self]⟩

/-- Every active session is picked up after its last interval, whatever the service remembered. -/
theorem resumeActiveSessions (h : Inv s samples) (runtime : ℕ → ChargerSessionState) :
    Inv (EvAccounting.resumeActiveSessions { s with runtime := runtime }).1 samples where
  wellKept := h.wellKept
  known := h.known
  silent := h.silent
  tracked := by
    intro r hr
    obtain ⟨anchors, htracked, hanchors⟩ := h.tracked r hr
    by_cases hstatus : r.status = .active
    · obtain ⟨t, -, -, htimeline⟩ := htracked.anchored
      obtain ⟨hle, hends⟩ := le_resumeAnchor s r fun i hi =>
        (htimeline.starts i hi).trans (htimeline.positive i hi).le
      refine ⟨_, htracked.reanchor hle hends, fun _ => ?_⟩
      have hmem : r ∈ s.listActive := List.mem_filter.mpr ⟨hr, decide_eq_true hstatus⟩
      have hsame : ∀ r' ∈ s.listActive, r'.chargerId = r.chargerId →
          s.resumedState r' = s.resumedState r := by
        intro r' hr' hcharger
        obtain ⟨hr', hstatus'⟩ := List.mem_filter.mp hr'
        rw [h.wellKept.unique r' hr' r hr hstatus' (decide_eq_true hstatus) hcharger]
      have hresumed := foldl_update_of_mem EvChargingSession.chargerId s.resumedState hmem hsame runtime
      exact (congrArg ChargerSessionState.toSampleAnchors hresumed).symm
    · exact ⟨anchors, htracked, fun hactive => absurd hactive hstatus⟩
  charger := h.charger
  sampled := h.sampled

/-- **One call keeps every session tracked.** -/
theorem step (h : Inv s samples) (e : EvEvent) : Inv (e.apply s) fun id => samples id ++ s.samplesOf id e := by
  cases e with
  | sample chargerId input => exact h.sampleActiveSession chargerId input
  | process chargerId siteId meter =>
    simp only [EvAccounting.samplesOf, List.append_nil]
    exact h.processCharger chargerId siteId meter
  | resume =>
    simp only [EvAccounting.samplesOf, List.append_nil]
    exact h.resumeActiveSessions s.runtime
  | restart =>
    simp only [EvAccounting.samplesOf, List.append_nil]
    exact h.resumeActiveSessions fun _ => {}

/-- **A run keeps every session tracked.** -/
theorem run (h : Inv s samples) (es : List EvEvent) :
    Inv (run EvEvent.apply s es) fun id => samples id ++ s.runSamples es id := by
  induction es generalizing s samples with
  | nil =>
    simp only [EvAccounting.runSamples, List.append_nil, run_nil]
    exact h
  | cons e es ih =>
    have hrest := ih (h.step e)
    simp only [List.append_assoc] at hrest
    exact hrest

end Inv

/-! ### The timeline of a run -/

/-- The readings of each charger come in the order of their time. -/
def ReadingsInOrder (es : List EvEvent) : Prop :=
  (es.filterMap EvEvent.reading).Pairwise fun a b => a.1 = b.1 → a.2.recordedAt ≤ b.2.recordedAt

/-- When a session was last sampled. -/
def lastSampledAt (s : EvAccounting) (es : List EvEvent) (sessionId : ℕ) : Option Instant :=
  (s.runSamples es sessionId).getLast?.map fun m => m.2.recordedAt

theorem runSamples_sublist (s : EvAccounting) (es : List EvEvent) (sessionId : ℕ) :
    (s.runSamples es sessionId).Sublist (es.filterMap EvEvent.reading) := by
  induction es generalizing s with
  | nil => exact List.Sublist.refl _
  | cons e es ih =>
    have hhead : (s.samplesOf sessionId e).Sublist e.reading.toList := by
      cases e with
      | sample chargerId input =>
        simp only [EvAccounting.samplesOf, EvEvent.reading, Option.toList_some]
        split_ifs
        · exact List.Sublist.refl _
        · exact List.nil_sublist _
      | process => exact List.nil_sublist _
      | resume => exact List.nil_sublist _
      | restart => exact List.nil_sublist _
    have hcons : (e :: es).filterMap EvEvent.reading
        = e.reading.toList ++ es.filterMap EvEvent.reading := by
      rw [List.filterMap_cons]
      cases e.reading <;> rfl
    rw [hcons]
    exact hhead.append (ih _)

/-- Every sample of a session is no later than the last one. -/
theorem recordedAt_le_lastSampledAt {s : EvAccounting} {es : List EvEvent}
    (horder : ReadingsInOrder es) {sessionId c : ℕ}
    (hcharger : ∀ m ∈ s.runSamples es sessionId, m.1 = c) {m : ℕ × MeterSnapshot}
    (hm : m ∈ s.runSamples es sessionId) :
    ∃ last, lastSampledAt s es sessionId = some last ∧ m.2.recordedAt ≤ last := by
  have hpairwise := horder.sublist (runSamples_sublist s es sessionId)
  unfold lastSampledAt
  rcases List.eq_nil_or_concat (s.runSamples es sessionId) with hnil | ⟨front, last, hlast⟩
  · rw [hnil] at hm
    exact absurd hm (by simp)
  · rw [hlast] at hpairwise hm hcharger ⊢
    refine ⟨last.2.recordedAt, by simp, ?_⟩
    rw [List.concat_eq_append, List.mem_append, List.mem_singleton] at hm
    rcases hm with hm | rfl
    · rw [List.concat_eq_append] at hpairwise hcharger
      refine (List.pairwise_append.mp hpairwise).2.2 m hm last List.mem_cons_self ?_
      rw [hcharger m (List.mem_append_left _ hm), hcharger last (List.mem_append_right _ List.mem_cons_self)]
    · exact le_rfl

/-- What the stored intervals of a session are after a run. -/
structure KeepsTimeline (s : EvAccounting) (es : List EvEvent) (r : EvChargingSession) : Prop where
  positive : ∀ i ∈ (run EvEvent.apply s es).intervalsOf r.id, i.startTime < i.endTime
  disjoint : ((run EvEvent.apply s es).intervalsOf r.id).Pairwise fun a b =>
    Disjoint (Set.Ico a.startTime a.endTime) (Set.Ico b.startTime b.endTime)
  starts : ∀ i ∈ (run EvEvent.apply s es).intervalsOf r.id, r.startedAt ≤ i.startTime
  ends : ∀ i ∈ (run EvEvent.apply s es).intervalsOf r.id,
    ∃ last, lastSampledAt s es r.id = some last ∧ i.endTime ≤ last
  measured : measuredKwh ((run EvEvent.apply s es).intervalsOf r.id)
    ≤ upwardMovement (registerReadings r (s.runSamples es r.id))

/-- **The timeline of every session.** After any sequence of calls and restarts in which the readings of
each charger come in order, the intervals of every session have positive duration, are disjoint, lie
between its start and its last sample, and their measured energy is at most what the register moved
upwards. -/
theorem evTimeline_run (es : List EvEvent) (horder : ReadingsInOrder es) :
    ∀ r ∈ (run EvEvent.apply {} es).sessions, KeepsTimeline {} es r := by
  intro r hr
  have hinv := Inv.start.run es
  simp only [List.nil_append] at hinv
  obtain ⟨anchors, htracked, -⟩ := hinv.tracked r hr
  obtain ⟨t, -, -, htimeline⟩ := htracked.anchored
  obtain ⟨seen, hseen, hle⟩ := htracked.covered
  refine ⟨htimeline.positive, htimeline.pairwise_disjoint, htimeline.starts, ?_,
    hle.trans (upwardMovement_le_of_sublist hseen)⟩
  intro i hi
  obtain ⟨hmem, hid⟩ := List.mem_filter.mp hi
  obtain ⟨m, hm, hend⟩ := hinv.sampled i hmem
  rw [of_decide_eq_true hid] at hm
  rw [hend]
  exact recordedAt_le_lastSampledAt horder (hinv.charger r hr) hm

/-- A session over two samples with a restart between them; the register shows 3 kWh, then 5 kWh. -/
def restartedRun : List EvEvent :=
  [.process 1 1 { recordedAt := 0, cumulativeKwh := some 0, vehicleConnected := true },
   .sample 1 { meter := { recordedAt := 1800, cumulativeKwh := some 3, powerW := some 6000 } },
   .restart,
   .sample 1 { meter := { recordedAt := 3600, cumulativeKwh := some 5, powerW := some 4000 } }]

theorem evTimeline_restartedRun :
    ∃ r ∈ (run EvEvent.apply {} restartedRun).sessions, KeepsTimeline {} restartedRun r := by
  have hstarted : (run EvEvent.apply {} restartedRun).sessions ≠ [] := by decide +kernel
  have horder : ReadingsInOrder restartedRun := by
    unfold ReadingsInOrder
    decide +kernel
  exact ⟨_, List.head_mem hstarted, evTimeline_run restartedRun horder _ (List.head_mem hstarted)⟩

end EnergyCore.Accounting
