import EnergyCore.Foundations.StepRun
import EnergyCore.Vehicles.TokenStore

/-!
# Token rotation

No bundle of a login should give way to a bundle whose refresh started earlier, and no refresh token should be
submitted again after it was accepted.

* `Orderly` — a refresh is answered and persisted over the bundles it started from, and a reload does not bring
  back an older bundle;
* `Inv` — the bundle in memory is the newest, and its refresh token was not accepted yet;
* `tokenRotation_run` — a run of orderly steps loses nothing.
-/

namespace EnergyCore.Vehicles

open StepRun

namespace TokenStore

/-! ### What must not happen -/

/-- A bundle of a login gives way to a bundle whose refresh started before the login. -/
def Replaces (issuedFor : ℕ → Issue) (before after : Option MercedesTokenBundle) : Prop :=
  ∃ stored refreshed startedAt, before = some stored ∧ after = some refreshed ∧
    issuedFor stored.refreshToken = .login ∧ issuedFor refreshed.refreshToken = .refresh startedAt ∧
    startedAt < stored.refreshToken

/-- The step replaces no login by an earlier refresh, in memory or in the row, and submits no refresh token that
was accepted. -/
structure Safe (s : TokenStore) (e : TokenEvent) : Prop where
  memory : ¬ Replaces (s.step e).issuedFor s.token (s.step e).token
  row : ¬ Replaces (s.step e).issuedFor s.persisted (s.step e).persisted
  submits : ∀ refreshToken, (s.step e).locked = some (.refresh refreshToken s.clock) → refreshToken ∉ s.accepted

/-! ### The condition -/

/-- When a refresh is answered, the bundle in memory still is the one that was submitted; when its bundle is
persisted, the row holds no bundle that was issued later; and a reload does not put an older bundle in place of the
one in memory. -/
def Orderly (s : TokenStore) : TokenEvent → Prop
  | .refreshed _ _ _ => ∀ refreshToken startedAt bundle, s.locked = some (.refresh refreshToken startedAt) →
      s.token = some bundle → bundle.refreshToken = refreshToken
  | .persisted => ∀ bundle row, s.locked = some (.persist bundle) → s.persisted = some row →
      row.refreshToken ≤ bundle.refreshToken
  | .reloaded _ _ => ∀ force bundle row, s.locked = some (.reload force) → s.token = some bundle →
      s.persisted = some row → row.expiresAt ≥ bundle.expiresAt → bundle.refreshToken ≤ row.refreshToken
  | _ => True

/-! ### The invariant -/

/-- The row, or a bundle that will be written to it. -/
def Stored (s : TokenStore) (bundle : MercedesTokenBundle) : Prop :=
  s.persisted = some bundle ∨ bundle ∈ s.storing

/-- What is known at the await of the task in the lock: a submitted bundle is older than the submission, and when a
refreshed bundle is about to be written, the stored bundles are older than its refresh or newer than the bundle. -/
def Awaits (s : TokenStore) : LockedAwait → Prop
  | .reload _ => True
  | .refresh refreshToken startedAt => refreshToken < startedAt ∧ startedAt < s.clock ∧ s.token ≠ none
  | .persist bundle => ∃ startedAt, s.issuedFor bundle.refreshToken = .refresh startedAt ∧
      (∃ current, s.token = some current ∧ bundle.refreshToken ≤ current.refreshToken) ∧
      ∀ stored, s.Stored stored → stored.refreshToken ≤ startedAt ∨ bundle.refreshToken < stored.refreshToken

structure Inv (s : TokenStore) : Prop where
  /-- The bundle in memory is the newest. -/
  newest : ∀ current, s.token = some current → ∀ stored, s.Stored stored →
    stored.refreshToken ≤ current.refreshToken
  /-- Without a bundle in memory nothing has happened yet. -/
  untouched : s.token = none → s.storing = [] ∧ s.accepted = []
  issued : ∀ current, s.token = some current → current.refreshToken < s.clock
  issuedRow : ∀ row, s.persisted = some row → row.refreshToken < s.clock
  acceptedIssued : ∀ refreshToken ∈ s.accepted, refreshToken < s.clock
  /-- The refresh token in memory was not accepted yet. -/
  unspent : ∀ current, s.token = some current → current.refreshToken ∉ s.accepted
  logins : ∀ bundle ∈ s.storing, s.issuedFor bundle.refreshToken = .login
  awaits : ∀ await, s.locked = some await → s.Awaits await

/-- A store that was just built: its bundle, if any, was loaded from the row. -/
structure Initial (s : TokenStore) : Prop where
  loaded : s.token = none ∨ s.token = s.persisted
  issued : ∀ row, s.persisted = some row → row.refreshToken < s.clock
  unlocked : s.locked = none
  idle : s.storing = []
  unaccepted : s.accepted = []

theorem Initial.inv {s : TokenStore} (h : s.Initial) : s.Inv where
  newest := by
    intro current hcurrent stored hstored
    rcases h.loaded with hnone | hloaded
    · rw [hnone] at hcurrent
      cases hcurrent
    · rcases hstored with hrow | hmem
      · rw [hloaded, hrow] at hcurrent
        rw [Option.some.inj hcurrent]
      · rw [h.idle] at hmem
        cases hmem
  untouched := fun _ => ⟨h.idle, h.unaccepted⟩
  issued := by
    intro current hcurrent
    rcases h.loaded with hnone | hloaded
    · rw [hnone] at hcurrent
      cases hcurrent
    · exact h.issued current (hloaded.symm.trans hcurrent)
  issuedRow := h.issued
  acceptedIssued := by
    intro refreshToken hmem
    rw [h.unaccepted] at hmem
    cases hmem
  unspent := by
    intro current _ hmem
    rw [h.unaccepted] at hmem
    cases hmem
  logins := by
    intro bundle hmem
    rw [h.idle] at hmem
    cases hmem
  awaits := by
    intro await hlocked
    rw [h.unlocked] at hlocked
    cases hlocked

/-! ### Steps that keep the bundles -/

theorem not_replaces_self (issuedFor : ℕ → Issue) (bundle : Option MercedesTokenBundle) :
    ¬ Replaces issuedFor bundle bundle := by
  rintro ⟨stored, refreshed, startedAt, hstored, hrefreshed, hlogin, hrefresh, -⟩
  obtain rfl := Option.some.inj (hstored.symm.trans hrefreshed)
  exact Issue.noConfusion (hlogin.symm.trans hrefresh)

/-- A step that leaves the bundles alone and submits nothing. -/
theorem Inv.safe_of_same {s : TokenStore} (h : s.Inv) {e : TokenEvent} (htoken : (s.step e).token = s.token)
    (hrow : (s.step e).persisted = s.persisted)
    (hlocked : (s.step e).locked = s.locked ∨ ∀ refreshToken, (s.step e).locked ≠ some (.refresh refreshToken s.clock)) :
    s.Safe e where
  memory := by
    rw [htoken]
    exact not_replaces_self _ _
  row := by
    rw [hrow]
    exact not_replaces_self _ _
  submits := by
    intro refreshToken hsubmits
    rcases hlocked with hsame | hnot
    · have hawaits := h.awaits _ (hsame.symm.trans hsubmits)
      exact absurd hawaits.2.1 (lt_irrefl _)
    · exact absurd hsubmits (hnot refreshToken)

/-- The task in the lock moves on, or the clock alone. -/
theorem Inv.lock {s : TokenStore} (h : s.Inv) {locked : Option LockedAwait}
    (hawaits : ∀ await, locked = some await → s.Awaits await) :
    ({ s with locked := locked, clock := s.clock + 1 } : TokenStore).Inv where
  newest := h.newest
  untouched := h.untouched
  issued := fun current hcurrent => Nat.lt_succ_of_lt (h.issued current hcurrent)
  issuedRow := fun row hrow => Nat.lt_succ_of_lt (h.issuedRow row hrow)
  acceptedIssued := fun refreshToken hmem => Nat.lt_succ_of_lt (h.acceptedIssued refreshToken hmem)
  unspent := h.unspent
  logins := h.logins
  awaits := by
    intro await hlocked
    have hbefore := hawaits await hlocked
    cases await with
    | reload force => trivial
    | refresh refreshToken startedAt => exact ⟨hbefore.1, Nat.lt_succ_of_lt hbefore.2.1, hbefore.2.2⟩
    | persist bundle => exact hbefore

/-- The task leaves the lock without a write. -/
theorem Inv.unlock {s : TokenStore} (h : s.Inv) :
    ({ s with locked := none, clock := s.clock + 1 } : TokenStore).Inv :=
  h.lock (by simp)

theorem Inv.tick {s : TokenStore} (h : s.Inv) : ({ s with clock := s.clock + 1 } : TokenStore).Inv :=
  h.lock h.awaits

/-- An event that does not apply only advances the clock. -/
theorem Inv.skip {s : TokenStore} (h : s.Inv) {e : TokenEvent} (hskip : s.act e = s) : s.Safe e ∧ (s.step e).Inv := by
  have hstep : s.step e = { s with clock := s.clock + 1 } := by
    unfold step
    rw [hskip]
  refine ⟨h.safe_of_same (by rw [hstep]) (by rw [hstep]) (Or.inl (by rw [hstep])), ?_⟩
  rw [hstep]
  exact h.tick

/-- The task leaves the lock, and nothing else changes. -/
theorem Inv.leave {s : TokenStore} (h : s.Inv) {e : TokenEvent} (hleave : s.act e = { s with locked := none }) :
    s.Safe e ∧ (s.step e).Inv := by
  have hstep : s.step e = { s with locked := none, clock := s.clock + 1 } := by
    unfold step
    rw [hleave]
  refine ⟨h.safe_of_same (by rw [hstep]) (by rw [hstep]) (Or.inr fun refreshToken => ?_), ?_⟩
  · rw [hstep]
    simp
  · rw [hstep]
    exact h.unlock

/-! ### Reloads -/

/-- An orderly reload keeps the number of the bundle in memory, or finds the first one. -/
theorem maybeReload_cases {s : TokenStore} (h : s.Inv) {now : ℤ} {newSessionId : String} {force : Bool}
    (hlocked : s.locked = some (.reload force)) (horderly : s.Orderly (.reloaded now newSessionId))
    {after : MercedesTokenBundle} (hafter : maybeReload s.token s.persisted newSessionId = some after) :
    (∃ current, s.token = some current ∧ after.refreshToken = current.refreshToken) ∨
      s.token = none ∧ ∃ row, s.persisted = some row ∧ after.refreshToken = row.refreshToken := by
  unfold maybeReload at hafter
  cases hrow : s.persisted with
  | none =>
    rw [hrow] at hafter
    exact Or.inl ⟨after, hafter, rfl⟩
  | some row =>
    rw [hrow] at hafter
    cases htoken : s.token with
    | none =>
      rw [htoken] at hafter
      refine Or.inr ⟨rfl, row, rfl, ?_⟩
      rw [← Option.some.inj hafter]
      exact MercedesTokenBundle.refreshToken_ensureSessionId row newSessionId
    | some current =>
      rw [htoken] at hafter
      simp only at hafter
      refine Or.inl ⟨current, rfl, ?_⟩
      split_ifs at hafter with hexpires
      · have hnewer : current.refreshToken ≤ row.refreshToken :=
          horderly force current row hlocked htoken hrow hexpires
        have holder : row.refreshToken ≤ current.refreshToken := h.newest current htoken row (Or.inl hrow)
        rw [← Option.some.inj hafter, MercedesTokenBundle.refreshToken_ensureSessionId]
        exact le_antisymm holder hnewer
      · rw [Option.some.inj hafter]

/-- What a reload leaves: the bundle in memory, and its refresh token submitted or the lock free. -/
theorem step_reloaded {s : TokenStore} (now : ℤ) (newSessionId : String) {force : Bool}
    (hlocked : s.locked = some (.reload force)) :
    ∃ locked, s.step (.reloaded now newSessionId)
        = { s with
            token := maybeReload s.token s.persisted newSessionId, locked := locked, clock := s.clock + 1 } ∧
      (locked = none ∨ ∃ after, maybeReload s.token s.persisted newSessionId = some after ∧
        locked = some (.refresh after.refreshToken s.clock)) := by
  unfold step act
  rw [hlocked]
  simp only [goOn]
  cases hafter : maybeReload s.token s.persisted newSessionId with
  | none => exact ⟨none, rfl, Or.inl rfl⟩
  | some after =>
    simp only
    split_ifs
    · exact ⟨none, rfl, Or.inl rfl⟩
    · exact ⟨_, rfl, Or.inr ⟨after, rfl, rfl⟩⟩

/-- **An orderly reload** replaces no login and submits no accepted refresh token. -/
theorem reloaded_orderly {s : TokenStore} (h : s.Inv) {now : ℤ} {newSessionId : String}
    (horderly : s.Orderly (.reloaded now newSessionId)) :
    s.Safe (.reloaded now newSessionId) ∧ (s.step (.reloaded now newSessionId)).Inv := by
  by_cases hreload : ∃ force, s.locked = some (.reload force)
  · obtain ⟨force, hlocked⟩ := hreload
    obtain ⟨locked, hstep, hgoes⟩ := step_reloaded now newSessionId hlocked
    have hcases := fun after (hafter : maybeReload s.token s.persisted newSessionId = some after) =>
      maybeReload_cases h hlocked horderly hafter
    have hunspent : ∀ after, maybeReload s.token s.persisted newSessionId = some after →
        after.refreshToken ∉ s.accepted ∧ after.refreshToken < s.clock := by
      intro after hafter
      rcases hcases after hafter with ⟨current, hcurrent, hsame⟩ | ⟨hnone, row, hrow, hsame⟩
      · rw [hsame]
        exact ⟨h.unspent current hcurrent, h.issued current hcurrent⟩
      · rw [hsame, (h.untouched hnone).2]
        exact ⟨List.not_mem_nil, h.issuedRow row hrow⟩
    constructor
    · constructor
      · rw [hstep]
        rintro ⟨stored, after, startedAt, hstored, hafter, hlogin, hrefresh, -⟩
        rcases hcases after hafter with ⟨current, hcurrent, hsame⟩ | ⟨hnone, -⟩
        · obtain rfl := Option.some.inj (hstored.symm.trans hcurrent)
          rw [hsame] at hrefresh
          exact Issue.noConfusion (hlogin.symm.trans hrefresh)
        · rw [hnone] at hstored
          cases hstored
      · rw [hstep]
        exact not_replaces_self _ _
      · intro refreshToken hsubmits
        rw [hstep] at hsubmits
        rcases hgoes with hnone | ⟨after, hafter, hlocked'⟩
        · exact absurd (hnone.symm.trans hsubmits) (by simp)
        · have heq := Option.some.inj (hlocked'.symm.trans hsubmits)
          rw [← (LockedAwait.refresh.inj heq).1]
          exact (hunspent after hafter).1
    · rw [hstep]
      refine
        { newest := ?_, untouched := ?_, issued := ?_, issuedRow := ?_, acceptedIssued := ?_, unspent := ?_
          logins := h.logins, awaits := ?_ }
      · intro after hafter stored hstored
        rcases hcases after hafter with ⟨current, hcurrent, hsame⟩ | ⟨hnone, row, hrow, hsame⟩
        · rw [hsame]
          exact h.newest current hcurrent stored hstored
        · rcases hstored with hstored | hmem
          · obtain rfl := Option.some.inj (hrow.symm.trans hstored)
            exact hsame.ge
          · have hmem' : stored ∈ s.storing := hmem
            rw [(h.untouched hnone).1] at hmem'
            cases hmem'
      · intro hnone
        refine h.untouched ?_
        by_contra hsome
        obtain ⟨current, hcurrent⟩ := Option.ne_none_iff_exists'.mp hsome
        have hafter : maybeReload s.token s.persisted newSessionId = none := hnone
        unfold maybeReload at hafter
        rw [hcurrent] at hafter
        split at hafter
        · cases hafter
        · simp only at hafter
          split_ifs at hafter
      · intro after hafter
        exact Nat.lt_succ_of_lt (hunspent after hafter).2
      · intro row hrow
        exact Nat.lt_succ_of_lt (h.issuedRow row hrow)
      · intro refreshToken hmem
        exact Nat.lt_succ_of_lt (h.acceptedIssued refreshToken hmem)
      · intro after hafter
        exact (hunspent after hafter).1
      · intro await hawait
        rcases hgoes with hnone | ⟨after, hafter, hlocked'⟩
        · exact absurd (hnone.symm.trans hawait) (by simp)
        · obtain rfl := Option.some.inj (hlocked'.symm.trans hawait)
          refine ⟨(hunspent after hafter).2, Nat.lt_succ_self _, ?_⟩
          show maybeReload s.token s.persisted newSessionId ≠ none
          rw [hafter]
          exact Option.some_ne_none after
  · refine h.skip ?_
    unfold act
    cases hlocked : s.locked with
    | none => rfl
    | some await =>
      cases await with
      | reload force => exact absurd ⟨force, hlocked⟩ hreload
      | refresh refreshToken startedAt => rfl
      | persist bundle => rfl

/-! ### Answers -/

/-- **An orderly answer** replaces the bundle that was submitted. -/
theorem refreshed_orderly {s : TokenStore} (h : s.Inv) {expiresAt : ℤ} {now : Instant} {newSessionId : String}
    (horderly : s.Orderly (.refreshed expiresAt now newSessionId)) :
    s.Safe (.refreshed expiresAt now newSessionId) ∧ (s.step (.refreshed expiresAt now newSessionId)).Inv := by
  cases hlocked : s.locked with
  | none => exact h.skip (by unfold act; rw [hlocked])
  | some await =>
    cases await with
    | reload force => exact h.skip (by unfold act; rw [hlocked])
    | persist bundle => exact h.skip (by unfold act; rw [hlocked])
    | refresh refreshToken startedAt =>
      obtain ⟨hsubmitted, hstarted, hsome⟩ := h.awaits _ hlocked
      obtain ⟨current, hcurrent⟩ := Option.ne_none_iff_exists'.mp hsome
      have hsame : current.refreshToken = refreshToken := horderly refreshToken startedAt current hlocked hcurrent
      have hfresh : refreshToken ∉ s.accepted := by
        rw [← hsame]
        exact h.unspent current hcurrent
      set bundle := MercedesTokenBundle.fromDict s.clock expiresAt current.deviceGuid current.sessionId
        newSessionId with hbundle
      have hstep : s.step (.refreshed expiresAt now newSessionId)
          = { s with
              token := some bundle
              lastRefreshAt := some now
              locked := some (.persist bundle)
              accepted := refreshToken :: s.accepted
              issuedFor := Function.update s.issuedFor s.clock (.refresh startedAt)
              clock := s.clock + 1 } := by
        unfold step act
        rw [hlocked]
        simp only [answer]
        rw [hcurrent]
        simp only
        rw [if_neg hfresh]
      have hnumber : bundle.refreshToken = s.clock := rfl
      have holder : ∀ stored, s.Stored stored → stored.refreshToken ≤ refreshToken := by
        intro stored hstored
        rw [← hsame]
        exact h.newest current hcurrent stored hstored
      have hkept : ∀ number < s.clock,
          Function.update s.issuedFor s.clock (.refresh startedAt) number = s.issuedFor number :=
        fun number hlt => Function.update_of_ne hlt.ne _ _
      constructor
      · constructor
        · rw [hstep]
          rintro ⟨stored, after, started, hstored, hafter, -, hrefresh, hlt⟩
          obtain rfl := Option.some.inj (hcurrent.symm.trans hstored)
          obtain rfl := Option.some.inj hafter
          simp only [hnumber, Function.update_self] at hrefresh
          obtain rfl := Issue.refresh.inj hrefresh
          omega
        · rw [hstep]
          exact not_replaces_self _ _
        · rw [hstep]
          intro other hother
          cases hother
      · rw [hstep]
        refine
          { newest := ?_, untouched := ?_, issued := ?_, issuedRow := ?_, acceptedIssued := ?_, unspent := ?_
            logins := ?_, awaits := ?_ }
        · intro after hafter stored hstored
          obtain rfl := Option.some.inj hafter
          have hle := holder stored hstored
          rw [hnumber]
          omega
        · intro hnone
          cases hnone
        · intro after hafter
          obtain rfl := Option.some.inj hafter
          exact Nat.lt_succ_self _
        · intro row hrow
          exact Nat.lt_succ_of_lt (h.issuedRow row hrow)
        · intro token hmem
          rcases List.mem_cons.mp hmem with rfl | hmem
          · show token < s.clock + 1
            omega
          · exact Nat.lt_succ_of_lt (h.acceptedIssued token hmem)
        · intro after hafter hmem
          obtain rfl := Option.some.inj hafter
          rcases List.mem_cons.mp hmem with heq | hmem
          · rw [hnumber] at heq
            omega
          · exact absurd (h.acceptedIssued _ hmem) (lt_irrefl _)
        · intro stored hmem
          have hlt : stored.refreshToken < s.clock :=
            lt_of_le_of_lt (holder stored (Or.inr hmem)) (hsubmitted.trans hstarted)
          exact (hkept _ hlt).trans (h.logins stored hmem)
        · intro await hawait
          obtain rfl := Option.some.inj hawait
          refine ⟨startedAt, Function.update_self _ _ _, ⟨bundle, rfl, le_rfl⟩, ?_⟩
          intro stored hstored
          have hle := holder stored hstored
          exact Or.inl (by omega)

/-! ### Writes -/

/-- A refreshed bundle is written over an older row. -/
theorem persisted_orderly {s : TokenStore} (h : s.Inv) (horderly : s.Orderly .persisted) :
    s.Safe .persisted ∧ (s.step .persisted).Inv := by
  cases hlocked : s.locked with
  | none => exact h.skip (by unfold act; rw [hlocked])
  | some await =>
    cases await with
    | reload force => exact h.skip (by unfold act; rw [hlocked])
    | refresh refreshToken startedAt => exact h.skip (by unfold act; rw [hlocked])
    | persist bundle =>
      obtain ⟨startedAt, hissued, ⟨current, hcurrent, hle⟩, hstored⟩ := h.awaits _ hlocked
      have hstep : s.step .persisted
          = { s with persisted := some bundle, locked := none, clock := s.clock + 1 } := by
        unfold step act
        rw [hlocked]
      constructor
      · constructor
        · rw [hstep]
          exact not_replaces_self _ _
        · rw [hstep]
          rintro ⟨row, after, started, hrow, hafter, -, hrefresh, hlt⟩
          obtain rfl := Option.some.inj hafter
          obtain rfl := Issue.refresh.inj (hissued.symm.trans hrefresh)
          have hnewer := horderly bundle row hlocked hrow
          rcases hstored row (Or.inl hrow) with hbefore | hafter'
          · omega
          · omega
        · rw [hstep]
          intro other hother
          cases hother
      · rw [hstep]
        exact
          { newest := by
              intro token htoken stored hmem
              obtain rfl := Option.some.inj (hcurrent.symm.trans htoken)
              rcases hmem with hrow | hmem
              · rw [← Option.some.inj hrow]
                exact hle
              · exact h.newest current hcurrent stored (Or.inr hmem)
            untouched := h.untouched
            issued := fun token htoken => Nat.lt_succ_of_lt (h.issued token htoken)
            issuedRow := by
              intro row hrow
              rw [← Option.some.inj hrow]
              exact Nat.lt_succ_of_lt (lt_of_le_of_lt hle (h.issued current hcurrent))
            acceptedIssued := fun token hmem => Nat.lt_succ_of_lt (h.acceptedIssued token hmem)
            unspent := h.unspent
            logins := h.logins
            awaits := by
              intro await hawait
              cases hawait }

/-- A bundle that a login stores was issued before the next step. -/
theorem Inv.stored_lt {s : TokenStore} (h : s.Inv) {stored : MercedesTokenBundle} (hstored : s.Stored stored) :
    stored.refreshToken < s.clock := by
  rcases hstored with hrow | hmem
  · exact h.issuedRow stored hrow
  · cases htoken : s.token with
    | none =>
      rw [(h.untouched htoken).1] at hmem
      cases hmem
    | some current => exact lt_of_le_of_lt (h.newest current htoken stored (Or.inr hmem)) (h.issued current htoken)

/-- A login's write, or its failure, leaves no new bundle to be written. -/
theorem Inv.loginWrite {s : TokenStore} (h : s.Inv) {persisted : Option MercedesTokenBundle}
    {storing : List MercedesTokenBundle} (hstoring : ∀ bundle ∈ storing, bundle ∈ s.storing)
    (hpersisted : ∀ row, persisted = some row → s.Stored row) :
    ({ s with persisted := persisted, storing := storing, clock := s.clock + 1 } : TokenStore).Inv := by
  have hsub : ∀ stored, ({ s with persisted := persisted, storing := storing, clock := s.clock + 1 } : TokenStore).Stored
      stored → s.Stored stored := by
    rintro stored (hrow | hmem)
    · exact hpersisted stored hrow
    · exact Or.inr (hstoring stored hmem)
  refine
    { newest := fun current hcurrent stored hstored => h.newest current hcurrent stored (hsub stored hstored)
      untouched := ?_
      issued := fun current hcurrent => Nat.lt_succ_of_lt (h.issued current hcurrent)
      issuedRow := fun row hrow => Nat.lt_succ_of_lt (h.stored_lt (hpersisted row hrow))
      acceptedIssued := fun token hmem => Nat.lt_succ_of_lt (h.acceptedIssued token hmem)
      unspent := h.unspent
      logins := fun bundle hmem => h.logins bundle (hstoring bundle hmem)
      awaits := ?_ }
  · intro hnone
    obtain ⟨hidle, haccepted⟩ := h.untouched hnone
    refine ⟨List.eq_nil_iff_forall_not_mem.mpr fun bundle hmem => ?_, haccepted⟩
    have hmem' := hstoring bundle hmem
    rw [hidle] at hmem'
    cases hmem'
  · intro await hawait
    have hbefore := h.awaits await hawait
    cases await with
    | reload force => trivial
    | refresh refreshToken startedAt => exact ⟨hbefore.1, Nat.lt_succ_of_lt hbefore.2.1, hbefore.2.2⟩
    | persist bundle =>
      obtain ⟨startedAt, hissued, hcurrent, hstored⟩ := hbefore
      exact ⟨startedAt, hissued, hcurrent, fun stored hmem => hstored stored (hsub stored hmem)⟩

theorem loginPersisted_safe {s : TokenStore} (h : s.Inv) (i : ℕ) :
    s.Safe (.loginPersisted i) ∧ (s.step (.loginPersisted i)).Inv := by
  cases hbundle : s.storing[i]? with
  | none => exact h.skip (by simp only [act]; rw [hbundle])
  | some bundle =>
    have hmem : bundle ∈ s.storing := List.mem_of_getElem? hbundle
    have hstep : s.step (.loginPersisted i)
        = { s with persisted := some bundle, storing := s.storing.eraseIdx i, clock := s.clock + 1 } := by
      simp only [step, act]
      rw [hbundle]
    constructor
    · constructor
      · rw [hstep]
        exact not_replaces_self _ _
      · rw [hstep]
        rintro ⟨row, after, startedAt, -, hafter, -, hrefresh, -⟩
        obtain rfl := Option.some.inj hafter
        exact Issue.noConfusion ((h.logins bundle hmem).symm.trans hrefresh)
      · rw [hstep]
        intro refreshToken hsubmits
        exact absurd (h.awaits _ hsubmits).2.1 (lt_irrefl _)
    · rw [hstep]
      refine h.loginWrite (fun other => List.mem_of_mem_eraseIdx) fun row hrow => Or.inr ?_
      rw [← Option.some.inj hrow]
      exact hmem

theorem loginPersistFails_safe {s : TokenStore} (h : s.Inv) (i : ℕ) :
    s.Safe (.loginPersistFails i) ∧ (s.step (.loginPersistFails i)).Inv := by
  have hstep : s.step (.loginPersistFails i)
      = { s with persisted := s.persisted, storing := s.storing.eraseIdx i, clock := s.clock + 1 } := rfl
  refine ⟨h.safe_of_same rfl rfl (Or.inl rfl), ?_⟩
  rw [hstep]
  exact h.loginWrite (fun other => List.mem_of_mem_eraseIdx) fun row hrow => Or.inl hrow

/-! ### Logins -/

theorem login_safe {s : TokenStore} (h : s.Inv) (expiresAt : ℤ) (newSessionId : String) :
    s.Safe (.login expiresAt newSessionId) ∧ (s.step (.login expiresAt newSessionId)).Inv := by
  set bundle := (MercedesTokenBundle.fromDict s.clock expiresAt s.deviceGuid "" newSessionId).ensureSessionId
    newSessionId with hbundle
  have hstep : s.step (.login expiresAt newSessionId)
      = { s with
          token := some bundle
          storing := s.storing ++ [bundle]
          issuedFor := Function.update s.issuedFor s.clock .login
          clock := s.clock + 1 } := rfl
  have hnumber : bundle.refreshToken = s.clock := by
    rw [hbundle, MercedesTokenBundle.refreshToken_ensureSessionId, MercedesTokenBundle.refreshToken_fromDict]
  have hkept : ∀ number < s.clock, Function.update s.issuedFor s.clock .login number = s.issuedFor number :=
    fun number hlt => Function.update_of_ne hlt.ne _ _
  have hstored : ∀ stored, ({ s with
      token := some bundle
      storing := s.storing ++ [bundle]
      issuedFor := Function.update s.issuedFor s.clock .login
      clock := s.clock + 1 } : TokenStore).Stored stored → s.Stored stored ∨ stored = bundle := by
    rintro stored (hrow | hmem)
    · exact Or.inl (Or.inl hrow)
    · rcases List.mem_append.mp hmem with hmem | hmem
      · exact Or.inl (Or.inr hmem)
      · exact Or.inr (List.mem_singleton.mp hmem)
  constructor
  · constructor
    · rw [hstep]
      rintro ⟨stored, after, startedAt, -, hafter, -, hrefresh, -⟩
      obtain rfl := Option.some.inj hafter
      simp only [hnumber, Function.update_self] at hrefresh
      cases hrefresh
    · rw [hstep]
      exact not_replaces_self _ _
    · rw [hstep]
      intro refreshToken hsubmits
      exact absurd (h.awaits _ hsubmits).2.1 (lt_irrefl _)
  · rw [hstep]
    refine
      { newest := ?_, untouched := ?_, issued := ?_
        issuedRow := fun row hrow => Nat.lt_succ_of_lt (h.issuedRow row hrow)
        acceptedIssued := fun token hmem => Nat.lt_succ_of_lt (h.acceptedIssued token hmem)
        unspent := ?_, logins := ?_, awaits := ?_ }
    · intro after hafter stored hmem
      obtain rfl := Option.some.inj hafter
      rcases hstored stored hmem with hbefore | rfl
      · rw [hnumber]
        exact (h.stored_lt hbefore).le
      · exact le_rfl
    · intro hnone
      cases hnone
    · intro after hafter
      obtain rfl := Option.some.inj hafter
      rw [hnumber]
      exact Nat.lt_succ_self _
    · intro after hafter hmem
      obtain rfl := Option.some.inj hafter
      rw [hnumber] at hmem
      exact absurd (h.acceptedIssued _ hmem) (lt_irrefl _)
    · intro stored hmem
      rcases List.mem_append.mp hmem with hmem | hmem
      · exact (hkept _ (h.stored_lt (Or.inr hmem))).trans (h.logins stored hmem)
      · rw [List.mem_singleton.mp hmem]
        show Function.update s.issuedFor s.clock .login bundle.refreshToken = .login
        rw [hnumber, Function.update_self]
    · intro await hawait
      have hbefore := h.awaits await hawait
      cases await with
      | reload force => trivial
      | refresh refreshToken startedAt =>
        exact ⟨hbefore.1, Nat.lt_succ_of_lt hbefore.2.1, Option.some_ne_none bundle⟩
      | persist refreshed =>
        obtain ⟨startedAt, hissued, ⟨current, hcurrent, hle⟩, hothers⟩ := hbefore
        have hlt : refreshed.refreshToken < s.clock := lt_of_le_of_lt hle (h.issued current hcurrent)
        refine ⟨startedAt, (hkept _ hlt).trans hissued, ⟨bundle, rfl, by rw [hnumber]; exact hlt.le⟩, ?_⟩
        intro stored hmem
        rcases hstored stored hmem with hbefore | rfl
        · exact hothers stored hbefore
        · rw [hnumber]
          exact Or.inr hlt

/-! ### Runs -/

/-- An orderly step is safe and keeps the invariant. -/
theorem Inv.orderly_step {s : TokenStore} (h : s.Inv) {e : TokenEvent} (horderly : s.Orderly e) :
    s.Safe e ∧ (s.step e).Inv := by
  cases e with
  | acquire force =>
    cases hlocked : s.locked with
    | some await => exact h.skip (by unfold act; rw [hlocked])
    | none =>
      have hstep : s.step (.acquire force) = { s with locked := some (.reload force), clock := s.clock + 1 } := by
        unfold step act
        rw [hlocked]
      refine ⟨h.safe_of_same (by rw [hstep]) (by rw [hstep]) (Or.inr fun refreshToken => ?_), ?_⟩
      · rw [hstep]
        simp
      · rw [hstep]
        refine h.lock fun await hawait => ?_
        obtain rfl := Option.some.inj hawait
        trivial
  | reloaded now newSessionId => exact reloaded_orderly h horderly
  | reloadFails =>
    cases hlocked : s.locked with
    | none => exact h.skip (by unfold act; rw [hlocked])
    | some await =>
      cases await with
      | reload force => exact h.leave (by unfold act; rw [hlocked])
      | refresh refreshToken startedAt => exact h.skip (by unfold act; rw [hlocked])
      | persist bundle => exact h.skip (by unfold act; rw [hlocked])
  | refreshed expiresAt now newSessionId => exact refreshed_orderly h horderly
  | refreshFails =>
    cases hlocked : s.locked with
    | none => exact h.skip (by unfold act; rw [hlocked])
    | some await =>
      cases await with
      | reload force => exact h.skip (by unfold act; rw [hlocked])
      | refresh refreshToken startedAt => exact h.leave (by unfold act; rw [hlocked])
      | persist bundle => exact h.skip (by unfold act; rw [hlocked])
  | persisted => exact persisted_orderly h horderly
  | persistFails =>
    cases hlocked : s.locked with
    | none => exact h.skip (by unfold act; rw [hlocked])
    | some await =>
      cases await with
      | reload force => exact h.skip (by unfold act; rw [hlocked])
      | refresh refreshToken startedAt => exact h.skip (by unfold act; rw [hlocked])
      | persist bundle => exact h.leave (by unfold act; rw [hlocked])
  | login expiresAt newSessionId => exact login_safe h expiresAt newSessionId
  | loginPersisted i => exact loginPersisted_safe h i
  | loginPersistFails i => exact loginPersistFails_safe h i

/-- **Token rotation loses nothing** in a run of orderly steps. -/
theorem tokenRotation_run {s : TokenStore} (hs : s.Initial) {es : List TokenEvent}
    (horderly : AllSteps step Orderly s es) : AllSteps step Safe s es :=
  AllSteps.of_invariant (fun _ _ h hstep => h.orderly_step hstep) hs.inv horderly

/-! ### A login while a refresh is in flight -/

section Demo

/-- The bundle that was loaded, ten minutes old. -/
def demoTokenBundle : MercedesTokenBundle where
  accessToken := 0
  refreshToken := 0
  expiresAt := 600
  deviceGuid := "DEVICE"
  sessionId := "SESSION"

def demoTokenStore : TokenStore where
  deviceGuid := "DEVICE"
  token := some demoTokenBundle
  persisted := some demoTokenBundle
  clock := 1

theorem demoTokenStore_initial : demoTokenStore.Initial where
  loaded := Or.inr rfl
  issued := by
    intro row hrow
    obtain rfl := Option.some.inj hrow
    exact Nat.one_pos
  unlocked := rfl
  idle := rfl
  unaccepted := rfl

/-- The expired token is refreshed and persisted, and then the user logs in. -/
theorem tokenRotation_loginAfter : AllSteps step Safe demoTokenStore
      [.acquire false, .reloaded 600 "A", .refreshed 4200 600 "B", .persisted, .login 4300 "C", .loginPersisted 0] := by
  refine tokenRotation_run demoTokenStore_initial ⟨trivial, ?_, ?_, ?_, trivial, trivial, trivial⟩
  · rintro force bundle row - htoken hrow -
    obtain rfl := Option.some.inj htoken
    obtain rfl := Option.some.inj hrow
    exact le_rfl
  · rintro refreshToken startedAt bundle hlocked htoken
    obtain rfl := Option.some.inj htoken
    obtain ⟨rfl, -⟩ := LockedAwait.refresh.inj (Option.some.inj hlocked)
    rfl
  · rintro bundle row - hrow
    obtain rfl := Option.some.inj hrow
    exact Nat.zero_le _

/-- The user logs in while the provider still answers, and the answer takes the place of the login. -/
theorem login_lost_to_refresh : ¬ ∀ (s : TokenStore) (es : List TokenEvent), s.Initial → AllSteps step Safe s es := by
  intro h
  have hsafe := h demoTokenStore [.acquire true, .reloaded 600 "A", .login 4200 "B", .refreshed 4200 600 "C"]
    demoTokenStore_initial
  exact hsafe.2.2.2.1.memory ⟨_, _, 2, rfl, rfl, rfl, rfl, by decide⟩

end Demo

end TokenStore

end EnergyCore.Vehicles
