import RewardSystem.TopUp.ExactlyOnce

/-!
# Deposit operations that the transition assertion refuses
-/

namespace RewardSystem.TopUp

open Payment Wallet

namespace DepositOp

/-- The statuses an operation goes on from: its own check. -/
def sources : DepositOp → List DepositStatus
  | create _ _ _ _ => []
  | markPending _ _ => [.requested]
  | markSucceeded _ _ => [.requested, .providerPending, .providerFailed]
  | credit _ _ _ => [.providerSucceeded]
  | fail _ _ => [.requested, .providerPending]
  | reverse _ _ => reverseDepositSources

def target : DepositOp → DepositStatus
  | create _ _ _ _ => .requested
  | markPending _ _ => .providerPending
  | markSucceeded _ _ => .providerSucceeded
  | credit _ _ _ => .credited
  | fail _ _ => .providerFailed
  | reverse _ _ => .reversed

/-- The provider's success is reported, with the reference that the review needs. -/
def reportsSuccess : DepositOp → Prop
  | markSucceeded _ review => normalizeOptionalString review.settlementReference ≠ none
  | _ => False

/-- The operation fails with the error of the transition assertion, which its change of status
does not pass. -/
def RefusedByAssertion (strict : Bool) (op : DepositOp) (store : FinanceStore) (row : DepositRow) :
    Prop :=
  ∃ error, assertDepositTransition (some row.status) op.target = .error error ∧
    op.run strict store = .error error

end DepositOp

section Refusals

variable {strict : Bool} {op : DepositOp} {store store' : FinanceStore} {row : DepositRow}
  {error : ApiError}

theorem not_hasTransition_of_refused
    (h : assertDepositTransition (some row.status) op.target = .error error) :
    ¬HasTransition depositTransitions row.status op.target := by
  intro hedge
  rw [assertDepositTransition_some_eq_ok (u := ()).mpr hedge] at h
  cases h

theorem refused_of_reportsSuccess (hreports : op.reportsSuccess)
    (hrow : store.lockDepositById op.id = some row)
    (hstatus : row.status = .requested ∨ row.status = .providerFailed) :
    op.RefusedByAssertion strict store row := by
  cases op with
  | markSucceeded id review =>
      obtain ⟨reviewState, hgate, hconfirmed⟩ := applyDualReviewGate_ok_of_bypass row.metadata
        { action := .markProviderSucceeded
          targetStatus := .providerSucceeded
          review := withReviewDefaults review "deposit_provider_succeeded"
          requireSettlementReference := true
          bypassDualReview := true } rfl (normalizeOptionalString_getD (by decide))
        (fun _ => hreports)
      have hrow : store.lockDepositById id = some row := hrow
      have hsource : row.status ∈
          [DepositStatus.requested, .providerPending, .providerFailed] := by
        rcases hstatus with h | h <;> simp [h]
      have hne : row.status ≠ .providerSucceeded := by
        rcases hstatus with h | h <;> simp [h]
      have hedge : ¬HasTransition depositTransitions row.status .providerSucceeded := by
        rcases hstatus with h | h <;> rw [h] <;> decide
      simp only [DepositOp.RefusedByAssertion, DepositOp.run, DepositOp.target,
        markDepositProviderSucceeded, markDeposit]
      rw [onOrder_of_goesOn hrow (by simpa using hsource), hgate]
      simp only [bind, Except.bind, hconfirmed, Bool.true_eq_false, if_false,
        transitionDepositStatus, if_neg hne, appendDepositWorkflowMetadata,
        assertDepositTransition, ApiError.throwIf, if_pos hedge]
      exact ⟨_, rfl, rfl⟩
  | create | markPending | credit | fail | reverse => exact hreports.elim

theorem mem_sources_of_reportsSuccess (hreports : op.reportsSuccess)
    (hstatus : row.status = .requested ∨ row.status = .providerFailed) :
    row.status ∈ op.sources := by
  cases op with
  | markSucceeded id review =>
      rcases hstatus with h | h <;> simp [h, DepositOp.sources]
  | create | markPending | credit | fail | reverse => exact hreports.elim

/-- Among the changes that the operations' own checks let through, only a reported success has no
edge. -/
theorem hasTransition_target (hsource : row.status ∈ op.sources) :
    HasTransition depositTransitions row.status op.target ∨
      (row.status = .requested ∨ row.status = .providerFailed) ∧
        op.target = .providerSucceeded := by
  have hall : ∀ status ∈ op.sources, HasTransition depositTransitions status op.target ∨
      (status = .requested ∨ status = .providerFailed) ∧ op.target = .providerSucceeded := by
    cases op <;> simp only [DepositOp.sources, DepositOp.target] <;> decide
  exact hall row.status hsource

theorem run_of_no_reference {id : Nat} {review : FinanceReviewPayload}
    (hreference : normalizeOptionalString review.settlementReference = none)
    (hrow : store.lockDepositById id = some row)
    (hsource : row.status ∈ (DepositOp.markSucceeded id review).sources) :
    (DepositOp.markSucceeded id review).run strict store =
      .error (.unprocessableEntity "Settlement reference is required.") := by
  have hgate := applyDualReviewGate_of_no_reference row.metadata
    { action := .markProviderSucceeded
      targetStatus := .providerSucceeded
      review := withReviewDefaults review "deposit_provider_succeeded"
      requireSettlementReference := true
      bypassDualReview := true } (normalizeOptionalString_getD (by decide)) rfl hreference
  simp only [DepositOp.run, markDepositProviderSucceeded, markDeposit]
  rw [onOrder_of_goesOn hrow (by simpa [DepositOp.sources] using hsource), hgate]
  rfl

theorem not_refused (hrow : store.lockDepositById op.id = some row)
    (hsource : row.status ∈ op.sources)
    (hmatched : row.status = .requested ∨ row.status = .providerFailed → ¬op.reportsSuccess) :
    ¬op.RefusedByAssertion strict store row := by
  rintro ⟨error, hassert, hrun⟩
  obtain hedge | ⟨hstatus, htarget⟩ := hasTransition_target hsource
  · exact not_hasTransition_of_refused hassert hedge
  · cases op with
    | markSucceeded id review =>
        have hreference : normalizeOptionalString review.settlementReference = none := by
          simpa [DepositOp.reportsSuccess] using hmatched hstatus
        have hrow : store.lockDepositById id = some row := hrow
        have hedge := not_hasTransition_of_refused hassert
        rw [run_of_no_reference hreference hrow hsource] at hrun
        rw [assertDepositTransition, ApiError.throwIf, if_pos hedge] at hassert
        cases hassert
        cases hrun
    | create | markPending | credit | fail | reverse => cases htarget

theorem Effect.exists_row (heffect : Effect op store store')
    (hrow : store.lockDepositById op.id = some row) :
    ∃ row', store'.lockDepositById op.id = some row' := by
  cases heffect with
  | unchanged hstore => exact ⟨row, hstore ▸ hrow⟩
  | created _ _ hnew => simp [hnew] at hrow
  | moved _ _ _ _ _ _ _ _ hstore =>
      rw [hstore]
      exact ⟨_, FinanceStore.lockDepositById_updateDeposit_self hrow⟩
  | credited _ _ _ _ _ hstore | refunded _ _ _ _ _ hstore =>
      rw [hstore, FinanceStore.lockDepositById, moveWithdrawable_deposits]
      exact ⟨_, FinanceStore.lockDepositById_updateDeposit_self hrow⟩

theorem Effect.status_follows (heffect : Effect op store store') {row' : DepositRow}
    (hrow : store.lockDepositById op.id = some row)
    (hrow' : store'.lockDepositById op.id = some row') :
    row'.status = row.status ∨ HasTransition depositTransitions row.status row'.status := by
  have hupdated : ∀ status metadata,
      store'.deposits = (store.updateDeposit op.id status metadata).deposits →
        row'.status = status := by
    intro status metadata hdeposits
    have hlookup : store'.lockDepositById op.id =
        some { row with status := status, metadata := metadata } := by
      rw [FinanceStore.lockDepositById, hdeposits]
      exact FinanceStore.lockDepositById_updateDeposit_self hrow
    rw [hrow', Option.some.injEq] at hlookup
    rw [hlookup]
  cases heffect with
  | unchanged hstore =>
      rw [hstore, hrow, Option.some.injEq] at hrow'
      exact .inl (by rw [hrow'])
  | created row _ hnew => simp [hnew] at hrow
  | moved old status metadata hold _ hedge _ _ hstore =>
      rw [hrow, Option.some.injEq] at hold
      rw [hupdated status metadata (by rw [hstore]), hold]
      exact .inr hedge
  | credited old metadata hold hsource _ hstore =>
      rw [hrow, Option.some.injEq] at hold
      rw [hupdated .credited metadata (by rw [hstore, moveWithdrawable_deposits]), hold,
        hsource]
      exact .inr (by decide)
  | refunded old metadata hold hsource _ hstore =>
      rw [hrow, Option.some.injEq] at hold
      rw [hupdated .reversed metadata (by rw [hstore, moveWithdrawable_deposits]), hold,
        hsource]
      exact .inr (by decide)

end Refusals

end RewardSystem.TopUp
