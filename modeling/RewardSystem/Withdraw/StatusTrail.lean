import RewardSystem.Withdraw.LockedBalance

/-!
# What an operation records about a withdrawal's status

The withdrawal lifecycle does not call `appendWithdrawalStateTransition`: a status change is
recorded in the order's semantic state only, and nothing compares it with `withdrawalTransitions`.
-/

namespace RewardSystem.Withdraw

open Payment Wallet

namespace WithdrawalOp

/-- The statuses an operation goes on from: its own check. -/
def sources : WithdrawalOp → List WithdrawalStatus
  | create _ _ _ _ => []
  | approve _ _ => [.requested]
  | markSubmitted _ _ => [.approved]
  | markProcessing _ _ => [.approved, .providerSubmitted]
  | markFailed _ _ => failureSources
  | reject _ _ => rejectSources
  | pay _ _ => [.providerProcessing]
  | reverse _ _ => reverseSources

def target : WithdrawalOp → WithdrawalStatus
  | create _ _ _ _ => .requested
  | approve _ _ => .approved
  | markSubmitted _ _ => .providerSubmitted
  | markProcessing _ _ => .providerProcessing
  | markFailed _ _ => .providerFailed
  | reject _ _ => .rejected
  | pay _ _ => .paid
  | reverse _ _ => .reversed

/-- The operations that report on a payout the provider has been given, with the reference that
their review needs. -/
def reportsOnPayout : WithdrawalOp → Prop
  | markProcessing _ review => normalizeOptionalString review.settlementReference ≠ none
  | markFailed _ review => normalizeOptionalString review.settlementReference ≠ none
  | _ => False

end WithdrawalOp

/-- A trail that starts at `requested` and follows the edges of `withdrawalTransitions`. -/
inductive RecordedTrail : List (StateTrailEntry WithdrawalStatus) → WithdrawalStatus → Prop
  | requested {p s f l : Option String} {state : LedgerState} :
      RecordedTrail [.financeState (some .requested) .requested p s f l state] .requested
  | moved {trail : List (StateTrailEntry WithdrawalStatus)} {fromStatus toStatus : WithdrawalStatus}
      {p s f l : Option String} {state : LedgerState} (htrail : RecordedTrail trail fromStatus)
      (hedge : HasTransition withdrawalTransitions fromStatus toStatus) :
      RecordedTrail (trail ++ [.financeState (some fromStatus) toStatus p s f l state]) toStatus

/-- The metadata of a row agree with its status. The trail begins with what the client sent. -/
structure TrailAgrees (row : WithdrawalRow) : Prop where
  trail : ∃ submitted recorded, row.metadata.financeStateTrail = submitted ++ recorded ∧
    RecordedTrail recorded row.status
  current : row.metadata.financeCurrentStatus = some row.status

structure SameTrail (metadata metadata' : WithdrawalMetadata) : Prop where
  trail : metadata'.financeStateTrail = metadata.financeStateTrail
  current : metadata'.financeCurrentStatus = metadata.financeCurrentStatus

/-- One entry is added to the trail, by `appendFinanceStateMetadata`. -/
def MovesTrail (metadata metadata' : WithdrawalMetadata) (toStatus : WithdrawalStatus) : Prop :=
  ∃ base params, SameTrail metadata base ∧ params.status = toStatus ∧
    metadata' = appendFinanceStateMetadata base params

section Trails

variable {row : WithdrawalRow} {metadata : WithdrawalMetadata} {toStatus : WithdrawalStatus}

theorem TrailAgrees.review (hrow : TrailAgrees row) (hsame : SameTrail row.metadata metadata) :
    TrailAgrees { row with metadata := metadata } := by
  refine ⟨?_, hsame.current.trans hrow.current⟩
  rw [hsame.trail]
  exact hrow.trail

theorem TrailAgrees.move (hrow : TrailAgrees row)
    (hmoves : MovesTrail row.metadata metadata toStatus)
    (hedge : HasTransition withdrawalTransitions row.status toStatus) :
    TrailAgrees { row with status := toStatus, metadata := metadata } := by
  obtain ⟨base, params, hsame, rfl, rfl⟩ := hmoves
  obtain ⟨submitted, recorded, htrail, hrecorded⟩ := hrow.trail
  have hentry : (appendFinanceStateMetadata base params).financeStateTrail =
      submitted ++ (recorded ++ [.financeState (some row.status) params.status
        params.providerStatus params.settlementStatus params.failureReason params.ledgerEntryType
        (appendFinanceStateMetadata base params).ledgerState]) := by
    rw [← List.append_assoc, ← htrail, ← hsame.trail, ← hrow.current, ← hsame.current]
    rfl
  exact ⟨⟨submitted, _, hentry, .moved hrecorded hedge⟩, rfl⟩

theorem trailAgrees_requestedRow {conditions : WithdrawalConditions} {id : Nat} {amount : Int}
    {submitted : WithdrawalMetadata} :
    TrailAgrees (requestedRow conditions id amount submitted) :=
  ⟨⟨submitted.financeStateTrail, _, rfl, .requested⟩, rfl⟩

end Trails

section Reviews

variable {metadata : WithdrawalMetadata}
  {params : DualReviewParams WithdrawalStatus WithdrawalAction}
  {reviewState : DualReviewResult WithdrawalStatus WithdrawalAction}

theorem sameTrail_of_gate (hgate : applyDualReviewGate metadata params = .ok reviewState) :
    SameTrail metadata reviewState.metadata := by
  unfold applyDualReviewGate at hgate
  cases hnote : normalizeOptionalString params.review.operatorNote with
  | none => simp [hnote] at hgate
  | some note =>
      simp only [hnote] at hgate
      obtain ⟨_, _, hgate⟩ := ApiError.bind_eq_ok.mp hgate
      cases hadmin : params.review.adminId with
      | none =>
          simp only [hadmin, Except.ok.injEq] at hgate
          subst hgate
          exact ⟨rfl, rfl⟩
      | some admin =>
          cases hbypass : params.bypassDualReview with
          | true =>
              simp only [hadmin, hbypass, Except.ok.injEq] at hgate
              subst hgate
              exact ⟨rfl, rfl⟩
          | false =>
              cases hpending : metadata.pendingReview with
              | none =>
                  simp only [hadmin, hbypass, hpending, Except.ok.injEq] at hgate
                  subst hgate
                  exact ⟨rfl, rfl⟩
              | some pending =>
                  simp only [hadmin, hbypass, hpending, ApiError.bind_eq_ok,
                    Except.ok.injEq] at hgate
                  obtain ⟨_, _, _, _, _, _, _, _, rfl⟩ := hgate
                  exact ⟨rfl, rfl⟩

theorem sameTrail_recordReview (action : WithdrawalAction)
    (hgate : applyDualReviewGate metadata params = .ok reviewState) :
    SameTrail metadata (recordReview reviewState action) :=
  ⟨(sameTrail_of_gate hgate).trail, (sameTrail_of_gate hgate).current⟩

theorem SameTrail.control {metadata' : WithdrawalMetadata} (hsame : SameTrail metadata metadata')
    (update : WithdrawalControl → WithdrawalControl) :
    SameTrail metadata (mergeWithdrawalControl metadata' update) :=
  ⟨hsame.trail, hsame.current⟩

end Reviews

structure SameOrders (store store' : FinanceStore) : Prop where
  withdrawals : store'.withdrawals = store.withdrawals
  deposits : store'.deposits = store.deposits

inductive StatusEffect (op : WithdrawalOp) (store store' : FinanceStore) : Prop
  | unchanged (horders : SameOrders store store')
  | created (row : WithdrawalRow) (hnew : store.selectLockedWithdrawal row.id = none)
      (hrow : TrailAgrees row)
      (horders : SameOrders { store with withdrawals := store.withdrawals ++ [row] } store')
  | reviewed (row : WithdrawalRow) (metadata : WithdrawalMetadata)
      (hrow : store.selectLockedWithdrawal op.id = some row)
      (horders : SameOrders (store.updateWithdrawal op.id row.status metadata) store')
      (hsame : SameTrail row.metadata metadata)
  | moved (row : WithdrawalRow) (metadata : WithdrawalMetadata)
      (hrow : store.selectLockedWithdrawal op.id = some row) (hsource : row.status ∈ op.sources)
      (horders : SameOrders (store.updateWithdrawal op.id op.target metadata) store')
      (hmoves : MovesTrail row.metadata metadata op.target)

section Effects

variable {strict : Bool} {op : WithdrawalOp} {store store' : FinanceStore} {row : WithdrawalRow}
  {id : Nat} {review : FinanceReviewPayload}

theorem SameOrders.refl : SameOrders store store :=
  ⟨rfl, rfl⟩

theorem sameOrders_of_booked {event : BusinessEventId} {entry : LedgerEntry}
    (h : (store.applyLedgerMutation event entry).assertInvariant strict = .ok store') :
    SameOrders store store' := by
  rw [FinanceStore.assertInvariant_eq_ok h]
  exact ⟨store.applyLedgerMutation_withdrawals event entry,
    store.applyLedgerMutation_deposits event entry⟩

theorem statusEffect_create {conditions : WithdrawalConditions} {amount : Int}
    {submitted : WithdrawalMetadata}
    (h : createWithdrawal strict conditions id amount submitted store = .ok store') :
    StatusEffect (.create conditions id amount submitted) store store' := by
  obtain ⟨_, _, h⟩ := ApiError.bind_eq_ok.mp h
  obtain ⟨_, hfresh, h⟩ := ApiError.bind_eq_ok.mp h
  have hnew : store.selectLockedWithdrawal id = none := by simpa using hfresh
  have horders := sameOrders_of_booked h
  exact .created (requestedRow conditions id amount submitted) hnew trailAgrees_requestedRow
    ⟨horders.withdrawals, horders.deposits⟩

theorem statusEffect_approve (h : approveWithdrawal id review store = .ok store') :
    StatusEffect (.approve id review) store store' := by
  obtain ⟨hstore, _⟩ | ⟨row, hrow, hstatus, hbody⟩ := onOrder_cases h
  · exact .unchanged (hstore ▸ .refl)
  · obtain ⟨_, _, hbody⟩ := ApiError.bind_eq_ok.mp hbody
    obtain ⟨reviewState, hgate, hbody⟩ := ApiError.bind_eq_ok.mp hbody
    have hsame := sameTrail_recordReview .approve hgate
    by_cases hconfirmed : reviewState.confirmed = false
    · rw [if_pos hconfirmed, Except.ok.injEq] at hbody
      subst hbody
      exact .reviewed row _ hrow .refl (hsame.control _)
    · rw [if_neg hconfirmed, Except.ok.injEq] at hbody
      subst hbody
      exact .moved row _ hrow (by simpa [WithdrawalOp.sources] using hstatus) .refl
        ⟨_, _, hsame.control _, rfl, rfl⟩

theorem statusEffect_markProviderProgress {sources : List WithdrawalStatus}
    {target : WithdrawalStatus} {action : WithdrawalAction} {fallbackNote statusText : String}
    (hsources : op.sources = sources) (htarget : op.target = target)
    (h : markProviderProgress sources target action fallbackNote statusText op.id review store =
      .ok store') :
    StatusEffect op store store' := by
  obtain ⟨hstore, _⟩ | ⟨row, hrow, hstatus, hbody⟩ := onOrder_cases h
  · exact .unchanged (hstore ▸ .refl)
  · obtain ⟨reviewState, hgate, hbody⟩ := ApiError.bind_eq_ok.mp hbody
    rw [Except.ok.injEq] at hbody
    subst hbody htarget
    exact .moved row _ hrow (by simpa [hsources] using hstatus) .refl
      ⟨_, _, sameTrail_recordReview action hgate, rfl, rfl⟩

theorem statusEffect_markFailed (h : markWithdrawalProviderFailed id review store = .ok store') :
    StatusEffect (.markFailed id review) store store' := by
  obtain ⟨hstore, _⟩ | ⟨row, hrow, hstatus, hbody⟩ := onOrder_cases h
  · exact .unchanged (hstore ▸ .refl)
  · obtain ⟨reviewState, hgate, hbody⟩ := ApiError.bind_eq_ok.mp hbody
    have hsame := sameTrail_recordReview .markProviderFailed hgate
    by_cases hconfirmed : reviewState.confirmed = false
    · rw [if_pos hconfirmed, Except.ok.injEq] at hbody
      subst hbody
      exact .reviewed row _ hrow .refl hsame
    · rw [if_neg hconfirmed, Except.ok.injEq] at hbody
      subst hbody
      exact .moved row _ hrow (by simpa [WithdrawalOp.sources] using hstatus) .refl
        ⟨_, _, hsame.control _, rfl, rfl⟩

theorem statusEffect_refund {reviewState : DualReviewResult WithdrawalStatus WithdrawalAction}
    {metadata : WithdrawalMetadata} {nextStatus : RefundStatus}
    (hrow : store.selectLockedWithdrawal op.id = some row) (hsource : row.status ∈ op.sources)
    (hsame : SameTrail row.metadata metadata) (htarget : nextStatus.status = op.target)
    (h : (refundWithdrawal store row reviewState metadata nextStatus).assertInvariant strict =
      .ok store') :
    StatusEffect op store store' := by
  have horders := sameOrders_of_booked h
  rw [Keyed.key_of_lookup hrow, htarget] at horders
  exact .moved row (refundMetadata reviewState metadata nextStatus) hrow hsource
    ⟨horders.withdrawals, horders.deposits⟩ ⟨_, _, hsame.control _, htarget, rfl⟩

theorem statusEffect_reject (h : rejectWithdrawal strict id review store = .ok store') :
    StatusEffect (.reject id review) store store' := by
  obtain ⟨hstore, _⟩ | ⟨row, hrow, hstatus, hbody⟩ := onOrder_cases h
  · exact .unchanged (hstore ▸ .refl)
  · obtain ⟨reviewState, hgate, hbody⟩ := ApiError.bind_eq_ok.mp hbody
    have hsame := sameTrail_recordReview .reject hgate
    by_cases hconfirmed : reviewState.confirmed = false
    · rw [if_pos hconfirmed, Except.ok.injEq] at hbody
      subst hbody
      exact .reviewed row _ hrow .refl hsame
    · rw [if_neg hconfirmed] at hbody
      exact statusEffect_refund hrow (by simpa [WithdrawalOp.sources] using hstatus) hsame rfl hbody

theorem statusEffect_reverse (h : reverseWithdrawal strict id review store = .ok store') :
    StatusEffect (.reverse id review) store store' := by
  obtain ⟨hstore, _⟩ | ⟨row, hrow, hstatus, hbody⟩ := onOrder_cases h
  · exact .unchanged (hstore ▸ .refl)
  · obtain ⟨reviewState, hgate, hbody⟩ := ApiError.bind_eq_ok.mp hbody
    have hsame := sameTrail_recordReview .reverse hgate
    by_cases hconfirmed : reviewState.confirmed = false
    · rw [if_pos hconfirmed, Except.ok.injEq] at hbody
      subst hbody
      exact .reviewed row _ hrow .refl hsame
    · rw [if_neg hconfirmed] at hbody
      exact statusEffect_refund hrow (by simpa [WithdrawalOp.sources] using hstatus) hsame rfl hbody

theorem statusEffect_pay (h : payWithdrawal strict id review store = .ok store') :
    StatusEffect (.pay id review) store store' := by
  obtain ⟨hstore, _⟩ | ⟨row, hrow, hstatus, hbody⟩ := onOrder_cases h
  · exact .unchanged (hstore ▸ .refl)
  · obtain ⟨reviewState, hgate, hbody⟩ := ApiError.bind_eq_ok.mp hbody
    have hsame := sameTrail_recordReview .pay hgate
    by_cases hconfirmed : reviewState.confirmed = false
    · rw [if_pos hconfirmed, Except.ok.injEq] at hbody
      subst hbody
      exact .reviewed row _ hrow .refl hsame
    · rw [if_neg hconfirmed] at hbody
      cases hchannel : normalizeOptionalString reviewState.effectiveReview.processingChannel with
      | none => simp [hchannel] at hbody
      | some channel =>
          simp only [hchannel] at hbody
          obtain ⟨_, _, hbody⟩ := ApiError.bind_eq_ok.mp hbody
          obtain ⟨_, _, hbody⟩ := ApiError.bind_eq_ok.mp hbody
          have horders := sameOrders_of_booked hbody
          exact .moved row (paidMetadata (recordReview reviewState .pay)) hrow
            (by simpa [WithdrawalOp.sources] using hstatus)
            ⟨horders.withdrawals, horders.deposits⟩ ⟨_, _, hsame.control _, rfl, rfl⟩

theorem statusEffect_run (h : op.run strict store = .ok store') : StatusEffect op store store' := by
  cases op with
  | create conditions id amount submitted => exact statusEffect_create h
  | approve id review => exact statusEffect_approve h
  | markSubmitted id review => exact statusEffect_markProviderProgress rfl rfl h
  | markProcessing id review => exact statusEffect_markProviderProgress rfl rfl h
  | markFailed id review => exact statusEffect_markFailed h
  | reject id review => exact statusEffect_reject h
  | pay id review => exact statusEffect_pay h
  | reverse id review => exact statusEffect_reverse h

theorem of_reportsOnPayout (hreports : op.reportsOnPayout) :
    .approved ∈ op.sources ∧ (op.target = .providerProcessing ∨ op.target = .providerFailed) := by
  cases op with
  | markProcessing id review => exact ⟨by simp [WithdrawalOp.sources], .inl rfl⟩
  | markFailed id review => exact ⟨by simp [WithdrawalOp.sources, failureSources], .inr rfl⟩
  | create | approve | markSubmitted | reject | pay | reverse => exact hreports.elim

theorem run_of_reportsOnPayout (hreports : op.reportsOnPayout)
    (hrow : store.selectLockedWithdrawal op.id = some row) (hstatus : row.status = .approved) :
    ∃ metadata, op.run strict store = .ok (store.updateWithdrawal op.id op.target metadata) := by
  cases op with
  | markProcessing id review =>
      obtain ⟨reviewState, hgate, _⟩ := applyDualReviewGate_ok_of_bypass row.metadata
        { action := .markProviderProcessing
          targetStatus := .providerProcessing
          review := withReviewDefaults review "withdrawal_provider_processing"
          requireSettlementReference := true
          bypassDualReview := true } rfl (normalizeOptionalString_getD (by decide))
        (fun _ => hreports)
      have hrow : store.selectLockedWithdrawal id = some row := hrow
      simp only [WithdrawalOp.run, markWithdrawalProviderProcessing, markProviderProgress]
      rw [onOrder_of_goesOn hrow (by simp [hstatus]), hgate]
      exact ⟨_, rfl⟩
  | markFailed id review =>
      obtain ⟨reviewState, hgate, hconfirmed⟩ := applyDualReviewGate_ok_of_bypass row.metadata
        { action := .markProviderFailed
          targetStatus := .providerFailed
          review := withReviewDefaults review "withdrawal_provider_failed"
          requireSettlementReference := true
          bypassDualReview := true } rfl (normalizeOptionalString_getD (by decide))
        (fun _ => hreports)
      have hrow : store.selectLockedWithdrawal id = some row := hrow
      simp only [WithdrawalOp.run, markWithdrawalProviderFailed]
      rw [onOrder_of_goesOn hrow (by simp [hstatus, failureSources]), hgate]
      simp only [bind, Except.bind, hconfirmed, Bool.true_eq_false, if_false]
      exact ⟨_, rfl⟩
  | create | approve | markSubmitted | reject | pay | reverse => exact hreports.elim

theorem reportsOnPayout_of_run (hrun : op.run strict store = .ok store')
    (hrow : store.selectLockedWithdrawal op.id = some row) (hsource : row.status ∈ op.sources)
    (htarget : op.target = .providerProcessing ∨ op.target = .providerFailed) :
    op.reportsOnPayout := by
  cases op with
  | markProcessing id review =>
      intro hreference
      have hgate := applyDualReviewGate_of_no_reference row.metadata
        { action := .markProviderProcessing
          targetStatus := .providerProcessing
          review := withReviewDefaults review "withdrawal_provider_processing"
          requireSettlementReference := true
          bypassDualReview := true } (normalizeOptionalString_getD (by decide)) rfl hreference
      have hrow : store.selectLockedWithdrawal id = some row := hrow
      simp only [WithdrawalOp.run, markWithdrawalProviderProcessing, markProviderProgress] at hrun
      rw [onOrder_of_goesOn hrow (by simpa [WithdrawalOp.sources] using hsource), hgate] at hrun
      cases hrun
  | markFailed id review =>
      intro hreference
      have hgate := applyDualReviewGate_of_no_reference row.metadata
        { action := .markProviderFailed
          targetStatus := .providerFailed
          review := withReviewDefaults review "withdrawal_provider_failed"
          requireSettlementReference := true
          bypassDualReview := true } (normalizeOptionalString_getD (by decide)) rfl hreference
      have hrow : store.selectLockedWithdrawal id = some row := hrow
      simp only [WithdrawalOp.run, markWithdrawalProviderFailed] at hrun
      rw [onOrder_of_goesOn hrow (by simpa [WithdrawalOp.sources] using hsource), hgate] at hrun
      cases hrun
  | create | approve | markSubmitted | reject | pay | reverse => simp [WithdrawalOp.target] at htarget

/-- The edges that the operations' own checks take for granted are declared, but for the two that
lead from `approved` to a report. -/
theorem hasTransition_target (hsource : row.status ∈ op.sources) :
    HasTransition withdrawalTransitions row.status op.target ∨ row.status = .approved ∧
      (op.target = .providerProcessing ∨ op.target = .providerFailed) := by
  have hall : ∀ status ∈ op.sources,
      HasTransition withdrawalTransitions status op.target ∨ status = .approved ∧
        (op.target = .providerProcessing ∨ op.target = .providerFailed) := by
    cases op <;> simp only [WithdrawalOp.sources, WithdrawalOp.target] <;> decide
  exact hall row.status hsource

end Effects

end RewardSystem.Withdraw
