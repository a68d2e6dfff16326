import RewardSystem.Payment.Store

/-!
# The lifecycle of a deposit
-/

namespace RewardSystem.TopUp

open Payment Wallet

/-- What `createTopUp` reads; the screening is answered by another service. -/
structure DepositConditions where
  screening : Except ApiError Unit
  depositEnabled : Bool
  minDepositAmount : Int
  maxDepositAmount : Int

structure WorkflowParams where
  actor : TransitionActor
  event : String
  note : Option String
  providerStatus : Option String
  settlementStatus : Option String
  failureReason : Option String
  ledgerEntryType : Option String

def appendDepositWorkflowMetadata (existing : DepositMetadata) (fromStatus : Option DepositStatus)
    (toStatus : DepositStatus) (params : WorkflowParams) : Except ApiError DepositMetadata := do
  assertDepositTransition fromStatus toStatus
  .ok (appendFinanceStateMetadata
    (appendStateTransition existing fromStatus toStatus params.actor params.event params.note)
    { status := toStatus
      failureReason := params.failureReason
      providerStatus := params.providerStatus
      settlementStatus := params.settlementStatus
      ledgerEntryType := params.ledgerEntryType })

def transitionDepositStatus (store : FinanceStore) (deposit : DepositRow)
    (toStatus : DepositStatus) (metadata : DepositMetadata) (params : WorkflowParams) :
    Except ApiError FinanceStore :=
  if deposit.status = toStatus then .ok store
  else do
    let metadata ← appendDepositWorkflowMetadata metadata (some deposit.status) toStatus params
    .ok (store.updateDeposit deposit.id toStatus metadata)

def requestedParams : WorkflowParams :=
  { actor := .user
    event := "deposit_requested"
    note := none
    providerStatus := none
    settlementStatus := none
    failureReason := none
    ledgerEntryType := none }

/-- The metadata of a new deposit. What the client sent as `financeStateTrail` is kept as it is. -/
def requestedMetadata (submitted : DepositMetadata) : Except ApiError DepositMetadata := do
  let metadata ← appendDepositWorkflowMetadata
    { submitted with
      financeCurrentStatus := some .requested
      financeStateTrail := submitted.financeStateTrail.map fun _ => .submitted }
    none .requested requestedParams
  .ok (appendFinanceStateMetadata metadata
    { status := .requested
      failureReason := none
      providerStatus := none
      settlementStatus := none
      ledgerEntryType := none })

def assertDepositAllowed (conditions : DepositConditions) (amount : Int) :
    Except ApiError Unit := do
  conditions.screening
  ApiError.throwIf (conditions.depositEnabled = false)
    (.serviceUnavailable "Deposits are currently disabled.")
  ApiError.throwIf (amount ≤ 0) (.unprocessableEntity "Amount must be greater than 0.")
  ApiError.throwIf (0 < conditions.minDepositAmount ∧ amount < conditions.minDepositAmount)
    (.unprocessableEntity "Amount below minimum deposit.")
  ApiError.throwIf (0 < conditions.maxDepositAmount ∧ conditions.maxDepositAmount < amount)
    (.unprocessableEntity "Amount exceeds maximum deposit.")

theorem amount_pos_of_assertDepositAllowed {conditions : DepositConditions} {amount : Int}
    {u : Unit} (h : assertDepositAllowed conditions amount = .ok u) : 0 < amount := by
  obtain ⟨_, _, h⟩ := ApiError.bind_eq_ok.mp h
  obtain ⟨_, _, h⟩ := ApiError.bind_eq_ok.mp h
  obtain ⟨_, hamount, _⟩ := ApiError.bind_eq_ok.mp h
  simpa using hamount

/-- The new row's `id` comes from a sequence; the primary key refuses an id that is taken. -/
def createTopUp (conditions : DepositConditions) (id : Nat) (amount : Int)
    (submitted : DepositMetadata) (store : FinanceStore) : Except ApiError FinanceStore := do
  assertDepositAllowed conditions amount
  let metadata ← requestedMetadata submitted
  ApiError.throwIf ((store.lockDepositById id).isSome = true)
    (.persistence "duplicate key value violates unique constraint")
  .ok
    { store with
      deposits := store.deposits ++
        [{ id := id, amount := amount, status := .requested, metadata := metadata }] }

/-- What the lifecycle operations other than credit and reversal share: the sources, the gate and
the texts differ. -/
structure DepositMark where
  sources : List DepositStatus
  action : DepositAction
  target : DepositStatus
  fallbackNote : String
  requireSettlementReference : Bool
  params : DepositRow → EffectiveReview → WorkflowParams

def markDeposit (mark : DepositMark) (id : Nat) (review : FinanceReviewPayload)
    (store : FinanceStore) : Except ApiError FinanceStore :=
  onOrder (store.lockDepositById id) (fun deposit => deposit.status ∈ mark.sources) store
      fun deposit => do
    let reviewState ← applyDualReviewGate deposit.metadata
      { action := mark.action
        targetStatus := mark.target
        review := withReviewDefaults review mark.fallbackNote
        requireSettlementReference := mark.requireSettlementReference
        bypassDualReview := true }
    let reviewMetadata := recordReview reviewState mark.action
    if reviewState.confirmed = false then
      .ok (store.updateDeposit id deposit.status reviewMetadata)
    else
      transitionDepositStatus store deposit mark.target reviewMetadata
        (mark.params deposit reviewState.effectiveReview)

def markDepositProviderPending :
    Nat → FinanceReviewPayload → FinanceStore → Except ApiError FinanceStore :=
  markDeposit
    { sources := [.requested]
      action := .markProviderPending
      target := .providerPending
      fallbackNote := "deposit_provider_pending"
      requireSettlementReference := false
      params := fun _ review =>
        { actor := .admin
          event := "deposit_provider_pending"
          note := some review.operatorNote
          providerStatus := some "provider_pending"
          settlementStatus := none
          failureReason := none
          ledgerEntryType := none } }

def markDepositProviderSucceeded :
    Nat → FinanceReviewPayload → FinanceStore → Except ApiError FinanceStore :=
  markDeposit
    { sources := [.requested, .providerPending, .providerFailed]
      action := .markProviderSucceeded
      target := .providerSucceeded
      fallbackNote := "deposit_provider_succeeded"
      requireSettlementReference := true
      params := fun _ review =>
        { actor := .admin
          event := "deposit_provider_succeeded"
          note := some review.operatorNote
          providerStatus := some "provider_succeeded"
          settlementStatus := some "settled"
          failureReason := none
          ledgerEntryType := none } }

def failDeposit : Nat → FinanceReviewPayload → FinanceStore → Except ApiError FinanceStore :=
  markDeposit
    { sources := [.requested, .providerPending]
      action := .markProviderFailed
      target := .providerFailed
      fallbackNote := "deposit_provider_failed"
      requireSettlementReference := false
      params := fun deposit review =>
        { actor := .admin
          event := "deposit_provider_failed"
          note := some review.operatorNote
          providerStatus :=
            if deposit.status = .providerPending then some "provider_failed" else none
          settlementStatus := some "failed"
          failureReason := some review.operatorNote
          ledgerEntryType := none } }

def moveWithdrawable (store : FinanceStore) (deposit : DepositRow) (action : DepositLedgerAction)
    (entryType : LedgerEntryType) (amount : Int) : FinanceStore :=
  let before := store.wallet.withdrawableBalance
  let after := before + amount
  (store.setWallet { store.wallet with withdrawableBalance := after }).applyLedgerMutation
    (.deposit deposit.id action)
    { entryType := entryType
      amount := amount
      balanceBefore := before
      balanceAfter := after
      reference := .deposit deposit.id }

/-- `missions` is the outcome of granting the missions that the credit completes; they are paid in
economy assets, not in the wallet. -/
def creditDepositRecord (missions : Except ApiError Unit) (store : FinanceStore)
    (deposit : DepositRow) (review : FinanceReviewPayload) : Except ApiError FinanceStore :=
  if deposit.status ≠ .providerSucceeded then .ok store
  else do
    let reviewState ← applyDualReviewGate deposit.metadata
      { action := .credit
        targetStatus := .credited
        review := withReviewDefaults review "deposit_credit"
        requireSettlementReference := false
        bypassDualReview := true }
    let reviewMetadata := recordReview reviewState .credit
    if reviewState.confirmed = false then
      .ok (store.updateDeposit deposit.id deposit.status reviewMetadata)
    else do
      let updated ← transitionDepositStatus store deposit .credited reviewMetadata
        { actor := .admin
          event := "deposit_credited"
          note := some reviewState.effectiveReview.operatorNote
          providerStatus := some "provider_succeeded"
          settlementStatus := some "credited"
          failureReason := none
          ledgerEntryType := some "deposit_credit" }
      let credited := moveWithdrawable updated deposit .creditWallet .depositCredit deposit.amount
      missions
      .ok credited

/-- The wallet invariant is checked also when there was nothing to credit. -/
def creditDeposit (strict : Bool) (missions : Except ApiError Unit) (id : Nat)
    (review : FinanceReviewPayload) (store : FinanceStore) : Except ApiError FinanceStore :=
  onOrder (store.lockDepositById id) (fun _ => true) store fun deposit => do
    let credited ← creditDepositRecord missions store deposit review
    credited.assertInvariant strict

def reverseDepositSources : List DepositStatus := [.providerPending, .providerSucceeded, .credited]

def reverseParams (providerStatus : String) (ledgerEntryType : Option String)
    (review : EffectiveReview) : WorkflowParams :=
  { actor := .admin
    event := "deposit_reversed"
    note := some review.operatorNote
    providerStatus := some providerStatus
    settlementStatus := some "reversed"
    failureReason := some review.operatorNote
    ledgerEntryType := ledgerEntryType }

def reverseDeposit (strict : Bool) (id : Nat) (review : FinanceReviewPayload)
    (store : FinanceStore) : Except ApiError FinanceStore :=
  onOrder (store.lockDepositById id) (fun deposit => deposit.status ∈ reverseDepositSources) store
      fun deposit => do
    let reviewState ← applyDualReviewGate deposit.metadata
      { action := .reverse
        targetStatus := .reversed
        review := withReviewDefaults review "deposit_reversed"
        requireSettlementReference := true
        bypassDualReview := true }
    let reviewMetadata := recordReview reviewState .reverse
    if reviewState.confirmed = false then
      .ok (store.updateDeposit id deposit.status reviewMetadata)
    else if deposit.status = .credited then do
      ApiError.throwIf (store.wallet.withdrawableBalance < deposit.amount)
        (.conflict "Withdrawable balance is insufficient to reverse the deposit.")
      let updated ← transitionDepositStatus store deposit .reversed reviewMetadata
        (reverseParams "provider_succeeded" (some "deposit_reversed") reviewState.effectiveReview)
      (moveWithdrawable updated deposit .reverseWallet .depositReversed
        (-deposit.amount)).assertInvariant strict
    else
      transitionDepositStatus store deposit .reversed reviewMetadata
        (reverseParams
          (if deposit.status = .providerPending then "provider_pending" else "provider_succeeded")
          none reviewState.effectiveReview)

end RewardSystem.TopUp
