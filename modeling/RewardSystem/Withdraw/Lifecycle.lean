import RewardSystem.Payment.Store
import Mathlib.Data.List.Infix

/-!
# The lifecycle of a withdrawal
-/

namespace RewardSystem.Withdraw

open Payment Wallet

/-- What `createWithdrawal` reads besides the wallet. The screening, the KYC limit and the payout
method are answered by other services. -/
structure WithdrawalConditions where
  screening : Except ApiError Unit
  withdrawEnabled : Bool
  minWithdrawAmount : Int
  maxWithdrawAmount : Int
  kycAllowed : Except ApiError Unit
  totalToday : Int
  maxPerDay : Int
  minWagerBeforeWithdraw : Int
  payoutMethod : Except ApiError Unit
  secondApprovalThreshold : Int
  riskSignals : List String

def evaluateWithdrawalControls (conditions : WithdrawalConditions) (amount : Int) :
    WithdrawalControl :=
  let approvalsRequired :=
    if 0 < conditions.secondApprovalThreshold ∧ conditions.secondApprovalThreshold ≤ amount then 2
    else 1
  { approvalsRequired := approvalsRequired
    approvalsCollected := 0
    approvalState :=
      if 1 < approvalsRequired then "pending_first_approval" else "pending_single_approval"
    manualChannelRequired := decide (conditions.riskSignals ≠ []) }

/-- The checks of `createWithdrawal`, in order. -/
def assertWithdrawalAllowed (conditions : WithdrawalConditions) (amount : Int)
    (wallet : UserWallet) : Except ApiError Unit := do
  conditions.screening
  ApiError.throwIf (conditions.withdrawEnabled = false)
    (.serviceUnavailable "Withdrawals are currently disabled.")
  ApiError.throwIf (amount ≤ 0) (.unprocessableEntity "Amount must be greater than 0.")
  ApiError.throwIf (0 < conditions.minWithdrawAmount ∧ amount < conditions.minWithdrawAmount)
    (.unprocessableEntity "Amount below minimum withdrawal.")
  ApiError.throwIf (0 < conditions.maxWithdrawAmount ∧ conditions.maxWithdrawAmount < amount)
    (.unprocessableEntity "Amount exceeds maximum withdrawal.")
  conditions.kycAllowed
  ApiError.throwIf
    (0 < conditions.maxPerDay ∧ conditions.maxPerDay < conditions.totalToday + amount)
    (.conflict "Daily withdrawal limit exceeded.")
  ApiError.throwIf
    (0 < conditions.minWagerBeforeWithdraw ∧
      wallet.wageredAmount < conditions.minWagerBeforeWithdraw)
    (.conflict "Minimum wager requirement not met.")
  ApiError.throwIf (wallet.withdrawableBalance < amount)
    (.conflict "Insufficient withdrawable balance.")
  conditions.payoutMethod

theorem amount_pos_of_assertWithdrawalAllowed {conditions : WithdrawalConditions} {amount : Int}
    {wallet : UserWallet} {u : Unit}
    (h : assertWithdrawalAllowed conditions amount wallet = .ok u) : 0 < amount := by
  obtain ⟨_, _, h⟩ := ApiError.bind_eq_ok.mp h
  obtain ⟨_, _, h⟩ := ApiError.bind_eq_ok.mp h
  obtain ⟨_, hamount, _⟩ := ApiError.bind_eq_ok.mp h
  simpa using hamount

def requestedRow (conditions : WithdrawalConditions) (id : Nat) (amount : Int)
    (submitted : WithdrawalMetadata) : WithdrawalRow :=
  { id := id
    amount := amount
    status := .requested
    metadata :=
      appendFinanceStateMetadata
        { submitted with
          financeCurrentStatus := some .requested
          withdrawalControl := evaluateWithdrawalControls conditions amount }
        { status := .requested
          failureReason := none
          providerStatus := none
          settlementStatus := none
          ledgerEntryType := some "withdraw_request" } }

/-- The new row's `id` comes from a sequence; the primary key refuses an id that is taken. -/
def createWithdrawal (strict : Bool) (conditions : WithdrawalConditions) (id : Nat) (amount : Int)
    (submitted : WithdrawalMetadata) (store : FinanceStore) : Except ApiError FinanceStore := do
  assertWithdrawalAllowed conditions amount store.wallet
  ApiError.throwIf ((store.selectLockedWithdrawal id).isSome = true)
    (.persistence "duplicate key value violates unique constraint")
  let withdrawableBefore := store.wallet.withdrawableBalance
  let withdrawableAfter := withdrawableBefore - amount
  let created :=
    { store with
      wallet :=
        { store.wallet with
          withdrawableBalance := withdrawableAfter
          lockedBalance := store.wallet.lockedBalance + amount }
      withdrawals := store.withdrawals ++ [requestedRow conditions id amount submitted] }
  (created.applyLedgerMutation (.withdrawal id .lockFunds)
    { entryType := .withdrawRequest
      amount := -amount
      balanceBefore := withdrawableBefore
      balanceAfter := withdrawableAfter
      reference := .withdrawal id }).assertInvariant strict

def readApprovalsRequired (metadata : WithdrawalMetadata) : Nat :=
  max metadata.withdrawalControl.approvalsRequired 1

/-- `mergeWithdrawalControl` with the keys that the lifecycle updates. -/
def mergeWithdrawalControl (metadata : WithdrawalMetadata)
    (update : WithdrawalControl → WithdrawalControl) : WithdrawalMetadata :=
  { metadata with withdrawalControl := update metadata.withdrawalControl }

def approveWithdrawal (id : Nat) (review : FinanceReviewPayload) (store : FinanceStore) :
    Except ApiError FinanceStore :=
  onOrder (store.selectLockedWithdrawal id) (fun row => row.status = .requested) store fun row => do
    let approvalsRequired := readApprovalsRequired row.metadata
    ApiError.throwIf (1 < approvalsRequired ∧ review.adminId = none)
      (.conflict "A second admin approval is required for this withdrawal.")
    let reviewState ← applyDualReviewGate row.metadata
      { action := .approve
        targetStatus := .approved
        review := review
        requireSettlementReference := false
        bypassDualReview := decide (approvalsRequired ≤ 1) }
    let reviewMetadata := recordReview reviewState .approve
    if reviewState.confirmed = false then
      .ok (store.updateWithdrawal id row.status
        (mergeWithdrawalControl reviewMetadata fun control =>
          { control with
            approvalsRequired := approvalsRequired
            approvalsCollected := 1
            approvalState := "pending_second_approval" }))
    else
      .ok (store.updateWithdrawal id .approved
        (appendFinanceStateMetadata
          (mergeWithdrawalControl reviewMetadata fun control =>
            { control with
              approvalsRequired := approvalsRequired
              approvalsCollected :=
                max row.metadata.withdrawalControl.approvalsCollected approvalsRequired
              approvalState := "approved" })
          { status := .approved
            failureReason := none
            providerStatus := none
            settlementStatus := some "approved"
            ledgerEntryType := none }))

/-- Both marks of provider progress: the sources, the target and its texts differ. -/
def markProviderProgress (sources : List WithdrawalStatus) (target : WithdrawalStatus)
    (action : WithdrawalAction) (fallbackNote statusText : String) (id : Nat)
    (review : FinanceReviewPayload) (store : FinanceStore) : Except ApiError FinanceStore :=
  onOrder (store.selectLockedWithdrawal id) (fun row => row.status ∈ sources) store fun row => do
    let reviewState ← applyDualReviewGate row.metadata
      { action := action
        targetStatus := target
        review := withReviewDefaults review fallbackNote
        requireSettlementReference := true
        bypassDualReview := true }
    .ok (store.updateWithdrawal id target
      (appendFinanceStateMetadata (recordReview reviewState action)
        { status := target
          failureReason := none
          providerStatus := some statusText
          settlementStatus := some statusText
          ledgerEntryType := none }))

def markWithdrawalProviderSubmitted :
    Nat → FinanceReviewPayload → FinanceStore → Except ApiError FinanceStore :=
  markProviderProgress [.approved] .providerSubmitted .markProviderSubmitted
    "withdrawal_provider_submitted" "provider_submitted"

def markWithdrawalProviderProcessing :
    Nat → FinanceReviewPayload → FinanceStore → Except ApiError FinanceStore :=
  markProviderProgress [.approved, .providerSubmitted] .providerProcessing .markProviderProcessing
    "withdrawal_provider_processing" "provider_processing"

def failureSources : List WithdrawalStatus := [.approved, .providerSubmitted, .providerProcessing]

def markWithdrawalProviderFailed (id : Nat) (review : FinanceReviewPayload)
    (store : FinanceStore) : Except ApiError FinanceStore :=
  onOrder (store.selectLockedWithdrawal id) (fun row => row.status ∈ failureSources) store
      fun row => do
    let reviewState ← applyDualReviewGate row.metadata
      { action := .markProviderFailed
        targetStatus := .providerFailed
        review := withReviewDefaults review "withdrawal_provider_failed"
        requireSettlementReference := true
        bypassDualReview := true }
    let reviewMetadata := recordReview reviewState .markProviderFailed
    if reviewState.confirmed = false then
      .ok (store.updateWithdrawal id row.status reviewMetadata)
    else
      .ok (store.updateWithdrawal id .providerFailed
        (appendFinanceStateMetadata
          (mergeWithdrawalControl reviewMetadata fun control =>
            { control with approvalState := "provider_failed" })
          { status := .providerFailed
            failureReason := some reviewState.effectiveReview.operatorNote
            providerStatus := some "provider_failed"
            settlementStatus := some "failed"
            ledgerEntryType := none }))

inductive RefundStatus where
  | rejected
  | reversed
  deriving DecidableEq, Repr

namespace RefundStatus

def status : RefundStatus → WithdrawalStatus
  | .rejected => .rejected
  | .reversed => .reversed

def name : RefundStatus → String
  | .rejected => "rejected"
  | .reversed => "reversed"

def entryType : RefundStatus → LedgerEntryType
  | .rejected => .withdrawRejectedRefund
  | .reversed => .withdrawReversedRefund

def entryTypeText : RefundStatus → String
  | .rejected => "withdraw_rejected_refund"
  | .reversed => "withdraw_reversed_refund"

end RefundStatus

/-- The balances after a refund: the locked balance stops at zero. -/
def refundWallet (wallet : UserWallet) (amount : Int) : UserWallet :=
  { wallet with
    withdrawableBalance := wallet.withdrawableBalance + amount
    lockedBalance := max (wallet.lockedBalance - amount) 0 }

def refundMetadata (reviewState : DualReviewResult WithdrawalStatus WithdrawalAction)
    (reviewMetadata : WithdrawalMetadata) (nextStatus : RefundStatus) : WithdrawalMetadata :=
  appendFinanceStateMetadata
    (mergeWithdrawalControl reviewMetadata fun control =>
      { control with approvalState := nextStatus.name })
    { status := nextStatus.status
      failureReason := some reviewState.effectiveReview.operatorNote
      providerStatus := none
      settlementStatus := some nextStatus.name
      ledgerEntryType := some nextStatus.entryTypeText }

def refundWithdrawal (store : FinanceStore) (row : WithdrawalRow)
    (reviewState : DualReviewResult WithdrawalStatus WithdrawalAction)
    (reviewMetadata : WithdrawalMetadata) (nextStatus : RefundStatus) : FinanceStore :=
  let metadata := refundMetadata reviewState reviewMetadata nextStatus
  let wallet := refundWallet store.wallet row.amount
  ((store.setWallet wallet).updateWithdrawal row.id nextStatus.status metadata).applyLedgerMutation
    (.withdrawal row.id .releaseLockedFunds)
    { entryType := nextStatus.entryType
      amount := row.amount
      balanceBefore := store.wallet.withdrawableBalance
      balanceAfter := wallet.withdrawableBalance
      reference := .withdrawal row.id }

def rejectSources : List WithdrawalStatus := [.requested, .approved]

def rejectWithdrawal (strict : Bool) (id : Nat) (review : FinanceReviewPayload)
    (store : FinanceStore) : Except ApiError FinanceStore :=
  onOrder (store.selectLockedWithdrawal id) (fun row => row.status ∈ rejectSources) store
      fun row => do
    let reviewState ← applyDualReviewGate row.metadata
      { action := .reject
        targetStatus := .rejected
        review := withReviewDefaults review "withdrawal_rejected"
        requireSettlementReference := false
        bypassDualReview := true }
    let reviewMetadata := recordReview reviewState .reject
    if reviewState.confirmed = false then
      .ok (store.updateWithdrawal id row.status reviewMetadata)
    else
      (refundWithdrawal store row reviewState reviewMetadata .rejected).assertInvariant strict

def reverseSources : List WithdrawalStatus :=
  [.requested, .approved, .providerSubmitted, .providerProcessing, .providerFailed, .paid]

def reverseWithdrawal (strict : Bool) (id : Nat) (review : FinanceReviewPayload)
    (store : FinanceStore) : Except ApiError FinanceStore :=
  onOrder (store.selectLockedWithdrawal id) (fun row => row.status ∈ reverseSources) store
      fun row => do
    let reviewState ← applyDualReviewGate row.metadata
      { action := .reverse
        targetStatus := .reversed
        review := withReviewDefaults review "withdrawal_reversed"
        requireSettlementReference := decide (row.status ≠ .requested)
        bypassDualReview := true }
    let reviewMetadata := recordReview reviewState .reverse
    if reviewState.confirmed = false then
      .ok (store.updateWithdrawal id row.status reviewMetadata)
    else
      (refundWithdrawal store row reviewState reviewMetadata .reversed).assertInvariant strict

/-- Every run of other characters becomes one underscore. -/
def collapseSeparators : Bool → List Char → List Char
  | _, [] => []
  | inRun, c :: rest =>
      if c.isAlphanum ∧ ¬c.isUpper then c :: collapseSeparators false rest
      else if inRun then collapseSeparators true rest
      else '_' :: collapseSeparators true rest

def normalizeManualChannel (value : String) : List Char :=
  collapseSeparators false ((trim value).toList.map Char.toLower)

def isManualChannel (value : String) : Bool :=
  ["manual", "offline", "human"].any fun word =>
    decide (word.toList <:+: normalizeManualChannel value)

def paidMetadata (reviewMetadata : WithdrawalMetadata) : WithdrawalMetadata :=
  appendFinanceStateMetadata
    (mergeWithdrawalControl reviewMetadata fun control => { control with approvalState := "paid" })
    { status := .paid
      failureReason := none
      providerStatus := none
      settlementStatus := some "paid"
      ledgerEntryType := some "withdraw_paid" }

def payWithdrawal (strict : Bool) (id : Nat) (review : FinanceReviewPayload)
    (store : FinanceStore) : Except ApiError FinanceStore :=
  onOrder (store.selectLockedWithdrawal id) (fun row => row.status = .providerProcessing) store
      fun row => do
    let reviewState ← applyDualReviewGate row.metadata
      { action := .pay
        targetStatus := .paid
        review := withReviewDefaults review "withdrawal_paid"
        requireSettlementReference := true
        bypassDualReview := true }
    let reviewMetadata := recordReview reviewState .pay
    if reviewState.confirmed = false then
      .ok (store.updateWithdrawal id row.status reviewMetadata)
    else
      match normalizeOptionalString reviewState.effectiveReview.processingChannel with
      | none => .error (.unprocessableEntity "Processing channel is required.")
      | some processingChannel => do
          ApiError.throwIf
            (row.metadata.withdrawalControl.manualChannelRequired = true ∧
              isManualChannel processingChannel = false)
            (.conflict "Risk-routed withdrawals must be paid through a manual channel.")
          ApiError.throwIf (store.wallet.lockedBalance < row.amount)
            (.conflict "Locked balance is insufficient.")
          let lockedAfter := store.wallet.lockedBalance - row.amount
          let paid :=
            (store.setWallet { store.wallet with lockedBalance := lockedAfter }).updateWithdrawal
              id .paid (paidMetadata reviewMetadata)
          (paid.applyLedgerMutation (.withdrawal id .consumeLockedFunds)
            { entryType := .withdrawPaid
              amount := -row.amount
              balanceBefore := store.wallet.lockedBalance
              balanceAfter := lockedAfter
              reference := .withdrawal id
              metadata := { balanceType := some "locked" } }).assertInvariant strict

end RewardSystem.Withdraw
