import Mathlib.Algebra.Order.Group.Int
import Mathlib.Data.List.Nodup
import RewardSystem.Lib.Runs
import RewardSystem.PrizeEngine.RewardEnvelope

/-!
# The cap of a reward envelope over its windows

In the order in which the calls get the locks, an envelope is a counter that starts again for every
other window. Its cap holds for every window as long as no call comes for an earlier window than the
stored one.
-/

namespace RewardSystem.PrizeEngine.RewardEnvelope

open Transition Windows

def RewardEnvelopeRow.counter (row : RewardEnvelopeRow) : Counter Int where
  window := row.currentWindowStartedAt
  consumed := row.currentConsumed

/-- What has been added to an envelope, by the window of the call. -/
def historyOf (row : RewardEnvelopeRow) (consumptions : List Consumption) : List (Int × Int) :=
  (consumptions.filter fun consumption => consumption.envelopeId = row.id).map fun consumption =>
    (resolveRewardEnvelopeWindowStart row.window consumption.now, consumption.amount)

/-- What the calls whose time falls in a window have added to an envelope. -/
def windowTotal (row : RewardEnvelopeRow) (window : Int) (consumptions : List Consumption) : Int :=
  spent window (historyOf row consumptions)

/-- Envelopes as they are created; a new row starts at the time of its creation. -/
structure Created (envelopes : Envelopes) : Prop where
  ids : (envelopes.rows.map RewardEnvelopeRow.id).Nodup
  caps : ∀ row ∈ envelopes.rows, 0 ≤ row.budgetCap
  fresh : ∀ row ∈ envelopes.rows, row.currentConsumed = 0
  unused : envelopes.consumptions = []

structure Accounts (envelopes : Envelopes) : Prop where
  ids : (envelopes.rows.map RewardEnvelopeRow.id).Nodup
  caps : ∀ row ∈ envelopes.rows, 0 ≤ row.budgetCap
  accounted : ∀ row ∈ envelopes.rows,
    Accounted row.budgetCap row.counter (historyOf row envelopes.consumptions)

/-- A call that adds to its envelopes does not come for an earlier window than the stored one. -/
def InOrder (e : Event Envelopes RewardCall) : Prop :=
  match e.label.rest with
  | .settled _ =>
      ∀ row ∈ e.before.rows, locksRow e.label row = true →
        row.currentWindowStartedAt ≤ resolveRewardEnvelopeWindowStart row.window e.label.now
  | _ => True

/-- No stored window start moves back, and no window of any envelope gets more than the cap. -/
structure KeepsWindows (e : Event Envelopes RewardCall) : Prop where
  forward : ∀ row ∈ e.before.rows, ∀ row' ∈ e.after.rows, row'.id = row.id →
    row.currentWindowStartedAt ≤ row'.currentWindowStartedAt
  capped : ∀ row ∈ e.after.rows, ∀ window, windowTotal row window e.after.consumptions ≤ row.budgetCap

section Decision

variable {states : List RewardEnvelopeState} {payout : RewardEnvelopePayout}

theorem triggerReason_none {state : RewardEnvelopeState} (h : triggerReason state payout = none) :
    state.currentConsumed + resolveProjectedPayout state payout ≤ state.budgetCap := by
  unfold triggerReason at h
  by_contra hover
  simp [not_le.mp hover] at h

theorem triggered_of_allow
    (hallow : (evaluateRewardEnvelopeDecision states payout).mode = .allow) :
    ∀ state ∈ states, triggerReason state payout = none := by
  unfold evaluateRewardEnvelopeDecision at hallow
  simp only at hallow
  split_ifs at hallow with hnone
  intro state hstate
  simpa [resolveRewardEnvelopeTrigger] using List.filterMap_eq_nil_iff.mp hnone state hstate

theorem not_rejected {decision : RewardEnvelopeDecision} {u : Unit}
    (h : assertRewardEnvelopeNotRejected decision = .ok u) : decision.mode ≠ .reject := by
  intro hreject
  simp [assertRewardEnvelopeNotRejected, hreject] at h

theorem envelopeReward_fits {selectedReward reward : Int}
    (h : envelopeReward states selectedReward = .ok reward) :
    reward = 0 ∨ ∀ state ∈ states, state.currentConsumed + 100 * reward ≤ state.budgetCap := by
  unfold envelopeReward at h
  split_ifs at h with hallow
  · cases hassert : assertRewardEnvelopeNotRejected
        (evaluateRewardEnvelopeDecision states (.actual selectedReward)) with
    | error refusal =>
        simp only [hassert] at h
        cases h
    | ok u =>
        have hkept := not_rejected hassert
        simp only [hassert, bind, Except.bind] at h
        split_ifs at h with hmute
        · exact .inl (Except.ok.inj h).symm
        · obtain rfl := Except.ok.inj h
          have hfinal : (evaluateRewardEnvelopeDecision states (.actual selectedReward)).mode =
              .allow := by
            cases hmode : (evaluateRewardEnvelopeDecision states (.actual selectedReward)).mode with
            | allow => rfl
            | mute => exact absurd hmode hmute
            | reject => exact absurd hmode hkept
          exact .inr fun state hstate =>
            triggerReason_none (triggered_of_allow hfinal state hstate)
  · exact .inl (Except.ok.inj h).symm

end Decision

section Step

variable {envelopes envelopes' : Envelopes} {call : RewardCall} {row : RewardEnvelopeRow}

theorem mem_states {rows : List RewardEnvelopeRow} {state : RewardEnvelopeState} :
    state ∈ loadLockedRewardEnvelopeStates rows call ↔
      ∃ row ∈ rows, locksRow call row = true ∧ normalizeRewardEnvelopeState row call.now = state := by
  unfold loadLockedRewardEnvelopeStates
  simp only [List.mem_map, List.mem_append, List.mem_filter]
  constructor
  · rintro ⟨row, (⟨⟨hrow, hlocks⟩, _⟩ | ⟨⟨hrow, hlocks⟩, _⟩), rfl⟩ <;> exact ⟨row, hrow, hlocks, rfl⟩
  · rintro ⟨row, hrow, hlocks, rfl⟩
    by_cases htenant : row.projectId = none
    · exact ⟨row, .inl ⟨⟨hrow, hlocks⟩, by simpa using htenant⟩, rfl⟩
    · exact ⟨row, .inr ⟨⟨hrow, hlocks⟩, by simpa using htenant⟩, rfl⟩

theorem find_locked {rows : List RewardEnvelopeRow} (hids : (rows.map RewardEnvelopeRow.id).Nodup)
    (hrow : row ∈ rows) (hlocks : locksRow call row = true) :
    (loadLockedRewardEnvelopeStates rows call).find? (fun state => state.id = row.id) =
      some (normalizeRewardEnvelopeState row call.now) := by
  cases hfind : (loadLockedRewardEnvelopeStates rows call).find? fun state => state.id = row.id with
  | none =>
      have hnone := List.find?_eq_none.mp hfind _ (mem_states.mpr ⟨row, hrow, hlocks, rfl⟩)
      simp [normalizeRewardEnvelopeState] at hnone
  | some state =>
      obtain ⟨other, hother, _, rfl⟩ := mem_states.mp (List.mem_of_find?_eq_some hfind)
      have hid : other.id = row.id := by
        have := List.find?_some hfind
        simpa [normalizeRewardEnvelopeState] using this
      rw [List.inj_on_of_nodup_map hids hother hrow hid]

theorem find_unlocked {rows : List RewardEnvelopeRow}
    (hids : (rows.map RewardEnvelopeRow.id).Nodup) (hrow : row ∈ rows)
    (hlocks : locksRow call row = false) :
    (loadLockedRewardEnvelopeStates rows call).find? (fun state => state.id = row.id) = none := by
  rw [List.find?_eq_none]
  intro state hstate hid
  obtain ⟨other, hother, hlocked, rfl⟩ := mem_states.mp hstate
  have hsame : other = row :=
    List.inj_on_of_nodup_map hids hother hrow (by simpa [normalizeRewardEnvelopeState] using hid)
  rw [hsame, hlocks] at hlocked
  cases hlocked

/-- A call that is let pass adds its reward to the rows it locks. -/
structure Adds (envelopes : Envelopes) (call : RewardCall) (reward : Int)
    (envelopes' : Envelopes) : Prop where
  fits : reward = 0 ∨ ∀ row ∈ envelopes.rows, locksRow call row = true →
    (normalizeRewardEnvelopeState row call.now).currentConsumed + 100 * reward ≤ row.budgetCap
  rows : envelopes'.rows = consumeRewardEnvelopeStates envelopes.rows
    (loadLockedRewardEnvelopeStates envelopes.rows call) reward
  consumptions : envelopes'.consumptions = envelopes.consumptions ++
    (envelopes.rows.filter (locksRow call)).map fun row => ⟨row.id, call.now, 100 * reward⟩

theorem step_cases (hstep : executePrizeEngineReward envelopes call = .ok envelopes') :
    (call.rest = .replayed ∧ envelopes' = envelopes) ∨
      ∃ paid reward, call.rest = .settled paid ∧ Adds envelopes call reward envelopes' := by
  unfold executePrizeEngineReward at hstep
  cases hassert : assertRewardEnvelopeNotRejected (evaluateRewardEnvelopeDecision
      (loadLockedRewardEnvelopeStates envelopes.rows call) .expected) with
  | error refusal =>
      simp only [hassert] at hstep
      cases hstep
  | ok u =>
      simp only [hassert, bind, Except.bind] at hstep
      cases hrest : call.rest with
      | failed =>
          simp only [hrest] at hstep
          cases hstep
      | replayed =>
          simp only [hrest] at hstep
          exact .inl ⟨rfl, (Except.ok.inj hstep).symm⟩
      | settled paid =>
          simp only [hrest] at hstep
          cases hreward : envelopeReward (loadLockedRewardEnvelopeStates envelopes.rows call)
              call.selectedReward with
          | error refusal =>
              simp only [hreward] at hstep
              cases hstep
          | ok reward =>
              simp only [hreward] at hstep
              obtain rfl := (Except.ok.inj hstep).symm
              refine .inr ⟨paid, if paid then reward else 0, rfl, ?_, rfl, rfl⟩
              cases paid with
              | false => exact .inl rfl
              | true =>
                  refine (envelopeReward_fits hreward).imp_right fun hfits row hrow hlocks => ?_
                  exact hfits _ (mem_states.mpr ⟨row, hrow, hlocks, rfl⟩)

theorem normalized_consumed :
    (normalizeRewardEnvelopeState row call.now).currentConsumed =
      row.counter.at (resolveRewardEnvelopeWindowStart row.window call.now) := by
  unfold normalizeRewardEnvelopeState Counter.at RewardEnvelopeRow.counter
  by_cases hsame :
    row.currentWindowStartedAt = resolveRewardEnvelopeWindowStart row.window call.now <;> simp [hsame]

theorem Adds.mem_rows {reward : Int} (hadds : Adds envelopes call reward envelopes')
    (hids : (envelopes.rows.map RewardEnvelopeRow.id).Nodup) {row' : RewardEnvelopeRow}
    (hrow' : row' ∈ envelopes'.rows) :
    ∃ row ∈ envelopes.rows, row'.id = row.id ∧ row'.window = row.window ∧
      row'.budgetCap = row.budgetCap ∧
      if locksRow call row then
        row'.counter = row.counter.charge
          (resolveRewardEnvelopeWindowStart row.window call.now) (100 * reward)
      else row'.counter = row.counter := by
  rw [hadds.rows] at hrow'
  obtain ⟨row, hrow, rfl⟩ := List.mem_map.mp hrow'
  refine ⟨row, hrow, ?_⟩
  cases hlocks : locksRow call row with
  | false =>
      rw [find_unlocked hids hrow hlocks]
      exact ⟨rfl, rfl, rfl, rfl⟩
  | true =>
      rw [find_locked hids hrow hlocks]
      refine ⟨rfl, rfl, rfl, ?_⟩
      simp only [if_true, RewardEnvelopeRow.counter, Counter.charge, normalized_consumed]
      rfl

theorem Adds.map_id {reward : Int} (hadds : Adds envelopes call reward envelopes') :
    envelopes'.rows.map RewardEnvelopeRow.id = envelopes.rows.map RewardEnvelopeRow.id := by
  rw [hadds.rows, consumeRewardEnvelopeStates, List.map_map]
  congr 1
  funext row
  simp only [Function.comp]
  split <;> rfl

theorem filter_id {rows : List RewardEnvelopeRow} (hids : (rows.map RewardEnvelopeRow.id).Nodup)
    (hrow : row ∈ rows) : (rows.filter fun other => other.id = row.id) = [row] := by
  induction rows with
  | nil => cases hrow
  | cons first rows ih =>
      rw [List.map_cons, List.nodup_cons] at hids
      rcases List.mem_cons.mp hrow with rfl | hrow
      · have hnone : (rows.filter fun other => other.id = row.id) = [] := by
          rw [List.filter_eq_nil_iff]
          intro other hother hid
          exact hids.1 (List.mem_map.mpr ⟨other, hother, by simpa using hid⟩)
        rw [List.filter_cons_of_pos (by simp), hnone]
      · have hne : first.id ≠ row.id := fun hid =>
          hids.1 (hid ▸ List.mem_map.mpr ⟨row, hrow, rfl⟩)
        rw [List.filter_cons_of_neg (by simpa using hne), ih hids.2 hrow]

theorem Adds.history {reward : Int} (hadds : Adds envelopes call reward envelopes')
    (hids : (envelopes.rows.map RewardEnvelopeRow.id).Nodup) (hrow : row ∈ envelopes.rows) :
    historyOf row envelopes'.consumptions = historyOf row envelopes.consumptions ++
      if locksRow call row then
        [(resolveRewardEnvelopeWindowStart row.window call.now, 100 * reward)]
      else [] := by
  have hnew : ((envelopes.rows.filter (locksRow call)).filter fun other => other.id = row.id) =
      if locksRow call row then [row] else [] := by
    rw [List.filter_comm, filter_id hids hrow]
    simp [List.filter_cons]
  unfold historyOf
  rw [hadds.consumptions, List.filter_append, List.map_append, List.filter_map]
  congr 1
  have hcomp : ((fun consumption : Consumption => decide (consumption.envelopeId = row.id)) ∘
      fun other : RewardEnvelopeRow => ⟨other.id, call.now, 100 * reward⟩) =
        fun other => decide (other.id = row.id) := rfl
  rw [hcomp, hnew]
  split_ifs <;> rfl

theorem accounts_of_created (hcreated : Created envelopes) : Accounts envelopes where
  ids := hcreated.ids
  caps := hcreated.caps
  accounted row hrow := by
    rw [hcreated.unused]
    exact accounted_nil (hcreated.caps row hrow) (hcreated.fresh row hrow)

theorem Adds.charge_le {reward : Int} (hadds : Adds envelopes call reward envelopes')
    (haccounts : Accounts envelopes) (hrow : row ∈ envelopes.rows)
    (hlocks : locksRow call row = true) :
    (row.counter.charge (resolveRewardEnvelopeWindowStart row.window call.now)
      (100 * reward)).consumed ≤ row.budgetCap := by
  rcases hadds.fits with rfl | hfits
  · have hat := (haccounts.accounted row hrow).at_le (haccounts.caps row hrow)
      (resolveRewardEnvelopeWindowStart row.window call.now)
    simpa [Counter.charge] using hat
  · have hfit := hfits row hrow hlocks
    rwa [normalized_consumed] at hfit

theorem historyOf_congr {row row' : RewardEnvelopeRow} (hid : row'.id = row.id)
    (hwindow : row'.window = row.window) (consumptions : List Consumption) :
    historyOf row' consumptions = historyOf row consumptions := by
  unfold historyOf
  rw [hid, hwindow]

theorem Adds.accounts {reward : Int} (hadds : Adds envelopes call reward envelopes')
    (haccounts : Accounts envelopes)
    (horder : ∀ row ∈ envelopes.rows, locksRow call row = true →
      row.currentWindowStartedAt ≤ resolveRewardEnvelopeWindowStart row.window call.now) :
    Accounts envelopes' where
  ids := hadds.map_id ▸ haccounts.ids
  caps row' hrow' := by
    obtain ⟨row, hrow, _, _, hcap, _⟩ := hadds.mem_rows haccounts.ids hrow'
    exact hcap ▸ haccounts.caps row hrow
  accounted row' hrow' := by
    obtain ⟨row, hrow, hid, hwindow, hcap, hcounter⟩ := hadds.mem_rows haccounts.ids hrow'
    have haccounted := haccounts.accounted row hrow
    rw [historyOf_congr hid hwindow, hadds.history haccounts.ids hrow, hcap]
    split_ifs at hcounter ⊢ with hlocks
    · rw [hcounter]
      exact haccounted.charge (horder row hrow hlocks) (hadds.charge_le haccounts hrow hlocks)
    · rw [hcounter, List.append_nil]
      exact haccounted

theorem Adds.forward_iff {reward : Int} (hadds : Adds envelopes call reward envelopes')
    (hids : (envelopes.rows.map RewardEnvelopeRow.id).Nodup) :
    (∀ row ∈ envelopes.rows, ∀ row' ∈ envelopes'.rows, row'.id = row.id →
        row.currentWindowStartedAt ≤ row'.currentWindowStartedAt) ↔
      ∀ row ∈ envelopes.rows, locksRow call row = true →
        row.currentWindowStartedAt ≤ resolveRewardEnvelopeWindowStart row.window call.now := by
  constructor
  · intro hforward row hrow hlocks
    have hid : row.id ∈ envelopes'.rows.map RewardEnvelopeRow.id := by
      rw [hadds.map_id]
      exact List.mem_map_of_mem hrow
    obtain ⟨row', hrow', hid'⟩ := List.mem_map.mp hid
    obtain ⟨source, hsource, hsame, _, _, hcounter⟩ := hadds.mem_rows hids hrow'
    obtain rfl : source = row := List.inj_on_of_nodup_map hids hsource hrow (hsame.symm.trans hid')
    rw [if_pos hlocks] at hcounter
    have hstart : row'.currentWindowStartedAt = _ := congrArg Counter.window hcounter
    rw [show resolveRewardEnvelopeWindowStart source.window call.now = row'.currentWindowStartedAt
      from hstart.symm]
    exact hforward source hrow row' hrow' hid'
  · intro horder row hrow row' hrow' hid
    obtain ⟨source, hsource, hsame, _, _, hcounter⟩ := hadds.mem_rows hids hrow'
    obtain rfl : source = row := List.inj_on_of_nodup_map hids hsource hrow (hsame.symm.trans hid)
    split_ifs at hcounter with hlocks
    · have hstart : row'.currentWindowStartedAt =
          resolveRewardEnvelopeWindowStart source.window call.now :=
        congrArg Counter.window hcounter
      rw [hstart]
      exact horder source hrow hlocks
    · have hstart : row'.currentWindowStartedAt = source.currentWindowStartedAt :=
        congrArg Counter.window hcounter
      exact hstart.ge

theorem forward_refl (hids : (envelopes.rows.map RewardEnvelopeRow.id).Nodup) :
    ∀ row ∈ envelopes.rows, ∀ row' ∈ envelopes.rows, row'.id = row.id →
      row.currentWindowStartedAt ≤ row'.currentWindowStartedAt := by
  intro row hrow row' hrow' hid
  rw [List.inj_on_of_nodup_map hids hrow' hrow hid]

theorem Accounts.capped (haccounts : Accounts envelopes) :
    ∀ row ∈ envelopes.rows, ∀ window,
      windowTotal row window envelopes.consumptions ≤ row.budgetCap :=
  fun row hrow window => (haccounts.accounted row hrow).capped window

theorem accounts_step (haccounts : Accounts envelopes)
    (hstep : executePrizeEngineReward envelopes call = .ok envelopes')
    (horder : InOrder ⟨envelopes, call, envelopes'⟩) : Accounts envelopes' := by
  rcases step_cases hstep with ⟨_, rfl⟩ | ⟨paid, reward, hrest, hadds⟩
  · exact haccounts
  · simp only [InOrder, hrest] at horder
    exact hadds.accounts haccounts horder

theorem keepsWindows_iff (haccounts : Accounts envelopes)
    (hstep : executePrizeEngineReward envelopes call = .ok envelopes') :
    KeepsWindows ⟨envelopes, call, envelopes'⟩ ↔ InOrder ⟨envelopes, call, envelopes'⟩ := by
  constructor
  · intro hkeeps
    rcases step_cases hstep with ⟨hrest, _⟩ | ⟨paid, reward, hrest, hadds⟩
    · simp [InOrder, hrest]
    · simp only [InOrder, hrest]
      exact (hadds.forward_iff haccounts.ids).mp hkeeps.forward
  · intro horder
    refine ⟨?_, (accounts_step haccounts hstep horder).capped⟩
    rcases step_cases hstep with ⟨_, rfl⟩ | ⟨paid, reward, hrest, hadds⟩
    · exact forward_refl haccounts.ids
    · simp only [InOrder, hrest] at horder
      exact (hadds.forward_iff haccounts.ids).mpr horder

end Step

section Runs

variable {created envelopes : Envelopes} {events : List (Event Envelopes RewardCall)}

/-- In every run of calls, in the order in which they get the locks, the envelopes keep their window
starts and their caps exactly if no call comes for a window before the stored one. -/
theorem windows_kept_iff (hcreated : Created created)
    (hrun : Run (Accepts executePrizeEngineReward) created events envelopes) :
    (∀ e ∈ events, KeepsWindows e) ↔ ∀ e ∈ events, InOrder e :=
  Run.forall_iff_of_guard (fun _ _ _ hu hstep => keepsWindows_iff hu hstep)
    (fun _ _ _ hu hstep horder => accounts_step hu hstep horder) hrun (accounts_of_created hcreated)

def minuteEnvelopes : Envelopes where
  rows :=
    [{ id := 1, tenantId := 1, projectId := none, window := .minute, onCapHitStrategy := .mute,
       budgetCap := 100000, expectedPayoutPerCall := 0, varianceCap := 100000,
       currentConsumed := 0, currentCallCount := 0, currentWindowStartedAt := 0 }]
  consumptions := []

def payout (now : Int) : RewardCall where
  tenantId := 1
  projectId := 1
  now := now
  selectedReward := 1000
  rest := .settled true

theorem minuteEnvelopes_created : Created minuteEnvelopes := by
  constructor <;> decide

theorem windows_kept_in_order : ∃ events envelopes,
    Run (Accepts executePrizeEngineReward) minuteEnvelopes events envelopes ∧ events.length = 3 ∧
      ((∀ e ∈ events, KeepsWindows e) ↔ ∀ e ∈ events, InOrder e) := by
  obtain ⟨events, envelopes, hrun, hlength⟩ := Run.exists_of_check executePrizeEngineReward
    minuteEnvelopes [payout 1, payout 59999, payout 60000] (fun events _ => events.length = 3)
    (by decide +kernel)
  exact ⟨events, envelopes, hrun, of_decide_eq_true hlength,
    windows_kept_iff minuteEnvelopes_created hrun⟩

/-- A call that has taken its time just before a minute begins gets the lock after one of the new
minute, so that a third call finds the new minute unused. -/
theorem minute_overspent : ∃ events envelopes,
    Run (Accepts executePrizeEngineReward) minuteEnvelopes events envelopes ∧
      ∃ row ∈ envelopes.rows, row.budgetCap = 100000 ∧
        windowTotal row 60000 envelopes.consumptions = 200000 := by
  obtain ⟨events, envelopes, hrun, hcheck⟩ := Run.exists_of_check executePrizeEngineReward
    minuteEnvelopes [payout 60000, payout 59999, payout 60001]
    (fun _ envelopes => ∃ row ∈ envelopes.rows, row.budgetCap = 100000 ∧
      windowTotal row 60000 envelopes.consumptions = 200000) (by decide +kernel)
  exact ⟨events, envelopes, hrun, of_decide_eq_true hcheck⟩

end Runs

end RewardSystem.PrizeEngine.RewardEnvelope
