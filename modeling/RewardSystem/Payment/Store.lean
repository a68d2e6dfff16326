import RewardSystem.Lib.Keyed
import RewardSystem.Payment.FinanceOrder
import RewardSystem.Wallet.Ledger

/-!
# The finance tables of one user

Every operation runs in one transaction that locks the order row and the wallet row it works on, so
operations on a user are functions from the tables before to the tables after. The row that an
operation returns is the one stored afterwards.
-/

namespace RewardSystem.Payment

open Wallet

inductive WithdrawalLedgerAction where
  | lockFunds
  | releaseLockedFunds
  | consumeLockedFunds
  deriving DecidableEq, Repr

inductive DepositLedgerAction where
  | creditWallet
  | reverseWallet
  deriving DecidableEq, Repr

/-- `withdrawal:{id}:{action}` or `deposit:{id}:{action}`. -/
inductive BusinessEventId where
  | withdrawal (id : Nat) (action : WithdrawalLedgerAction)
  | deposit (id : Nat) (action : DepositLedgerAction)
  deriving DecidableEq, Repr

abbrev WithdrawalMetadata := FinanceMetadata WithdrawalStatus WithdrawalAction

abbrev DepositMetadata := FinanceMetadata DepositStatus DepositAction

structure WithdrawalRow where
  id : Nat
  amount : Int
  status : WithdrawalStatus
  metadata : WithdrawalMetadata
  deriving DecidableEq, Repr

structure DepositRow where
  id : Nat
  amount : Int
  status : DepositStatus
  metadata : DepositMetadata
  deriving DecidableEq, Repr

structure FinanceStore where
  wallet : UserWallet
  withdrawals : List WithdrawalRow
  deposits : List DepositRow
  /-- The unique `business_event_id` column of `ledger_mutation_events`. -/
  ledgerMutationEvents : List BusinessEventId
  ledgerEntries : List LedgerEntry
  deriving DecidableEq, Repr

namespace FinanceStore

def selectLockedWithdrawal (store : FinanceStore) (id : Nat) : Option WithdrawalRow :=
  Keyed.lookup WithdrawalRow.id id store.withdrawals

def lockDepositById (store : FinanceStore) (id : Nat) : Option DepositRow :=
  Keyed.lookup DepositRow.id id store.deposits

def updateWithdrawal (store : FinanceStore) (id : Nat) (status : WithdrawalStatus)
    (metadata : WithdrawalMetadata) : FinanceStore :=
  { store with
    withdrawals := Keyed.modify WithdrawalRow.id id
      (fun row => { row with status := status, metadata := metadata }) store.withdrawals }

def updateDeposit (store : FinanceStore) (id : Nat) (status : DepositStatus)
    (metadata : DepositMetadata) : FinanceStore :=
  { store with
    deposits := Keyed.modify DepositRow.id id
      (fun row => { row with status := status, metadata := metadata }) store.deposits }

def setWallet (store : FinanceStore) (wallet : UserWallet) : FinanceStore :=
  { store with wallet := wallet }

/-- The mutation event is inserted unless its id exists already; the ledger row follows it. -/
def applyLedgerMutation (store : FinanceStore) (businessEventId : BusinessEventId)
    (entry : LedgerEntry) : FinanceStore :=
  if businessEventId ∈ store.ledgerMutationEvents then store
  else
    { store with
      ledgerMutationEvents := store.ledgerMutationEvents ++ [businessEventId]
      ledgerEntries := store.ledgerEntries ++ [entry] }

def assertInvariant (strict : Bool) (store : FinanceStore) : Except ApiError FinanceStore := do
  assertWalletLedgerInvariant strict store.wallet store.ledgerEntries
  .ok store

section Fields

variable (store : FinanceStore)

@[simp]
theorem updateWithdrawal_wallet (id : Nat) (status : WithdrawalStatus)
    (metadata : WithdrawalMetadata) :
    (store.updateWithdrawal id status metadata).wallet = store.wallet :=
  rfl

@[simp]
theorem updateDeposit_wallet (id : Nat) (status : DepositStatus) (metadata : DepositMetadata) :
    (store.updateDeposit id status metadata).wallet = store.wallet :=
  rfl

@[simp]
theorem setWallet_wallet (wallet : UserWallet) : (store.setWallet wallet).wallet = wallet :=
  rfl

@[simp]
theorem applyLedgerMutation_wallet (event : BusinessEventId) (entry : LedgerEntry) :
    (store.applyLedgerMutation event entry).wallet = store.wallet := by
  unfold applyLedgerMutation
  split <;> rfl

@[simp]
theorem applyLedgerMutation_withdrawals (event : BusinessEventId) (entry : LedgerEntry) :
    (store.applyLedgerMutation event entry).withdrawals = store.withdrawals := by
  unfold applyLedgerMutation
  split <;> rfl

@[simp]
theorem applyLedgerMutation_deposits (event : BusinessEventId) (entry : LedgerEntry) :
    (store.applyLedgerMutation event entry).deposits = store.deposits := by
  unfold applyLedgerMutation
  split <;> rfl

variable {store}

theorem lockDepositById_updateDeposit_self {id : Nat} {row : DepositRow} {status : DepositStatus}
    {metadata : DepositMetadata} (hrow : store.lockDepositById id = some row) :
    (store.updateDeposit id status metadata).lockDepositById id =
      some { row with status := status, metadata := metadata } :=
  Keyed.lookup_modify_self (fun _ h => h) hrow

theorem lockDepositById_updateDeposit_ne {id other : Nat} {status : DepositStatus}
    {metadata : DepositMetadata} (hne : id ≠ other) :
    (store.updateDeposit id status metadata).lockDepositById other =
      store.lockDepositById other :=
  Keyed.lookup_modify_ne (fun _ h => h) (Ne.symm hne)

theorem assertInvariant_eq_ok {strict : Bool} {store store' : FinanceStore}
    (h : store.assertInvariant strict = .ok store') : store' = store := by
  obtain ⟨_, _, hstore⟩ := ApiError.bind_eq_ok.mp h
  simpa using hstore.symm

end Fields

end FinanceStore

/-- The frame of a lifecycle operation: a missing order, and one whose status the operation does
not go on from, are answered without a change. -/
def onOrder {ρ : Type} (order : Option ρ) (goesOn : ρ → Bool) (store : FinanceStore)
    (body : ρ → Except ApiError FinanceStore) : Except ApiError FinanceStore :=
  match order with
  | none => .ok store
  | some row => if goesOn row then body row else .ok store

theorem onOrder_of_goesOn {ρ : Type} {order : Option ρ} {goesOn : ρ → Bool} {row : ρ}
    {store : FinanceStore} {body : ρ → Except ApiError FinanceStore} (hrow : order = some row)
    (hgoes : goesOn row = true) : onOrder order goesOn store body = body row := by
  simp [onOrder, hrow, hgoes]

theorem onOrder_cases {ρ : Type} {order : Option ρ} {goesOn : ρ → Bool}
    {store store' : FinanceStore} {body : ρ → Except ApiError FinanceStore}
    (h : onOrder order goesOn store body = .ok store') :
    (store' = store ∧ ∀ row, order = some row → goesOn row = false) ∨
      ∃ row, order = some row ∧ goesOn row = true ∧ body row = .ok store' := by
  cases order with
  | none => exact .inl ⟨by simpa [onOrder] using h.symm, by simp⟩
  | some row =>
      cases hrow : goesOn row with
      | false => exact .inl ⟨by simpa [onOrder, hrow] using h.symm, by simpa using hrow⟩
      | true => exact .inr ⟨row, rfl, hrow, by simpa [onOrder, hrow] using h⟩

def withReviewDefaults (review : FinanceReviewPayload) (fallbackNote : String) :
    FinanceReviewPayload :=
  { review with
    operatorNote := some ((normalizeOptionalString review.operatorNote).getD fallbackNote) }

/-- The metadata with the review recorded: `updateWithdrawalReviewOnly` for a withdrawal,
`updateDepositReviewOnly` for a deposit. -/
def recordReview {S A : Type} (reviewState : DualReviewResult S A) (action : A) :
    FinanceMetadata S A :=
  appendFinanceReviewMetadata reviewState.metadata
    { action := action
      reviewStage := reviewState.reviewStage
      adminId := reviewState.effectiveReview.adminId
      operatorNote := reviewState.effectiveReview.operatorNote
      settlementReference := reviewState.effectiveReview.settlementReference
      processingChannel := reviewState.effectiveReview.processingChannel }

theorem recordReview_of_bypass {S A : Type} [DecidableEq S] [DecidableEq A]
    {metadata : FinanceMetadata S A} {params : DualReviewParams S A}
    {reviewState : DualReviewResult S A} (action : A) (hbypass : params.bypassDualReview = true)
    (hgate : applyDualReviewGate metadata params = .ok reviewState) :
    (recordReview reviewState action).financeStateTrail = metadata.financeStateTrail ∧
      (recordReview reviewState action).financeCurrentStatus = metadata.financeCurrentStatus := by
  obtain ⟨_, hmetadata⟩ := applyDualReviewGate_of_bypass hbypass hgate
  simp [recordReview, hmetadata]

end RewardSystem.Payment
