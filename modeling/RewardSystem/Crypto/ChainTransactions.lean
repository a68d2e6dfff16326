import Mathlib.Algebra.Order.Round
import RewardSystem.Lib.Keyed
import RewardSystem.Shared.Money
import RewardSystem.Shared.Text

/-!
# Crypto deposits and withdrawals

What the five operations do to the table of chain transactions. Each of them is one database
transaction, in front of the status changes of the order; a deposit that was confirmed is credited in
a later one.
-/

namespace RewardSystem.Crypto

inductive ChannelType where
  | fiat
  | crypto
  deriving DecidableEq, Repr

inductive Direction where
  | deposit
  | withdrawal
  deriving DecidableEq, Repr

structure CryptoDepositChannel where
  id : Nat
  chain : String
  network : String
  token : String
  receiveAddress : String
  minConfirmations : Int
  isActive : Bool

structure CryptoWithdrawAddress where
  payoutMethodId : Nat
  chain : String
  network : String
  token : String
  address : String

/-- `channelId` is kept in the metadata. -/
structure DepositRecord where
  id : Nat
  channelType : ChannelType
  submittedTxHash : Option String
  channelId : Option Nat
  deriving DecidableEq

structure WithdrawalRecord where
  id : Nat
  channelType : ChannelType
  payoutMethodId : Option Nat
  amount : Decimal ℚ
  submittedTxHash : Option String
  deriving DecidableEq

structure ChainTransaction where
  id : Nat
  txHash : String
  direction : Direction
  chain : String
  network : String
  token : String
  fromAddress : Option String
  toAddress : Option String
  amount : ℚ
  confirmations : Int
  consumedByDepositId : Option Nat
  consumedByWithdrawalId : Option Nat
  deriving DecidableEq

inductive CryptoOrder where
  | deposit (id : Nat)
  | withdrawal (id : Nat)
  deriving DecidableEq, Repr

/-- A chain transaction has been accepted for an order, under a hash. -/
structure Acceptance where
  transactionId : Nat
  txHash : String
  order : CryptoOrder
  deriving DecidableEq, Repr

/-- `accepted` records what the operations have accepted, `confirmed` the deposits that were confirmed
on a chain transaction, and `credited` those that were then credited. -/
structure CryptoStore where
  channels : List CryptoDepositChannel
  addresses : List CryptoWithdrawAddress
  deposits : List DepositRecord
  withdrawals : List WithdrawalRecord
  transactions : List ChainTransaction
  accepted : List Acceptance
  confirmed : List (Nat × Nat)
  credited : List (Nat × Nat)

structure CryptoDepositPayload where
  channelId : Nat
  amountClaimed : Option (Decimal ℚ)
  txHash : Option String
  fromAddress : Option String
  screenshotUrl : Option String
  memo : Option String

structure CryptoReviewPayload where
  operatorNote : Option String
  processingChannel : Option String
  settlementReference : Option String
  confirmations : Option (Decimal ℚ)
  actualAmount : Option (Option (Decimal ℚ))
  fromAddress : Option String
  toAddress : Option String

/-- What `createCryptoDeposit` asks of other services. -/
structure CryptoDepositConditions where
  screening : Except ApiError Unit
  depositEnabled : Bool
  processing : Except ApiError Unit

/-- `length` of a text, in UTF-16 code units. -/
def utf16Length (value : String) : Nat :=
  (value.toList.map fun c => if c.toNat < 0x10000 then 1 else 2).sum

def requireString (value : Option String) (label : String) (maxLength : Nat) :
    Except ApiError String :=
  match normalizeOptionalString value with
  | none => .error (.unprocessableEntity (label ++ " is required."))
  | some normalized => do
      ApiError.throwIf (maxLength < utf16Length normalized)
        (.unprocessableEntity (label ++ " is too long."))
      .ok normalized

def optionalString (value : Option String) (maxLength : Nat) : Except ApiError (Option String) :=
  match normalizeOptionalString value with
  | none => .ok none
  | some normalized => do
      ApiError.throwIf (maxLength < utf16Length normalized)
        (.unprocessableEntity "Field is too long.")
      .ok (some normalized)

/-- The precise amount; `none` is what `toDecimal` refuses. -/
def parseTokenAmount (value : Option (Decimal ℚ)) (label : String) : Except ApiError ℚ :=
  match value with
  | none => .error (.unprocessableEntity (label ++ " is invalid."))
  | some (.finite amount) => do
      ApiError.throwIf (amount ≤ 0)
        (.unprocessableEntity (label ++ " must be greater than 0."))
      ApiError.throwIf ((amount * 10 ^ 18).den ≠ 1)
        (.unprocessableEntity (label ++ " supports at most 18 decimal places."))
      .ok amount
  | some _ => .error (.unprocessableEntity (label ++ " must be greater than 0."))

def parseOptionalPositiveInteger : Option (Decimal ℚ) → Except ApiError (Option Int)
  | none => .ok none
  | some (.finite value) => do
      ApiError.throwIf (value < 0)
        (.unprocessableEntity "Confirmations must be a non-negative integer.")
      .ok (some ⌊value⌋)
  | some _ => .error (.unprocessableEntity "Confirmations must be a non-negative integer.")

def readCryptoProcessingChannel (value : Option String) : Except ApiError String := do
  let channel ← optionalString value 64
  .ok (channel.getD "manual_crypto")

def readSettlementReference (review : CryptoReviewPayload) (fallbackTxHash : Option String) :
    Except ApiError (Option String) := do
  let reference ← optionalString review.settlementReference 128
  .ok (reference <|> fallbackTxHash)

def readExactAmount (review : CryptoReviewPayload) (fallbackAmount : Decimal ℚ) :
    Except ApiError ℚ :=
  match review.actualAmount with
  | none => parseTokenAmount (some fallbackAmount) "Actual amount"
  | some amount => parseTokenAmount amount "Actual amount"

/-- The hash of a review, or else the one that the order was submitted with. -/
def readTransactionHash (review : CryptoReviewPayload) (submittedTxHash : Option String) :
    Except ApiError String := do
  let txHashFallback ← optionalString submittedTxHash 191
  match ← readSettlementReference review txHashFallback with
  | none => .error (.unprocessableEntity "Transaction hash is required.")
  | some txHash => .ok txHash

def uniqueViolation : ApiError :=
  .persistence "duplicate key value violates unique constraint"

namespace CryptoStore

def depositById (store : CryptoStore) (depositId : Nat) : Option DepositRecord :=
  Keyed.lookup DepositRecord.id depositId store.deposits

def withdrawalById (store : CryptoStore) (withdrawalId : Nat) : Option WithdrawalRecord :=
  Keyed.lookup WithdrawalRecord.id withdrawalId store.withdrawals

def transactionByHash (store : CryptoStore) (txHash : String) : Option ChainTransaction :=
  Keyed.lookup ChainTransaction.txHash txHash store.transactions

def depositTransaction (store : CryptoStore) (depositId : Nat) : Option ChainTransaction :=
  store.transactions.find? fun row => row.consumedByDepositId = some depositId

def withdrawalTransaction (store : CryptoStore) (withdrawalId : Nat) : Option ChainTransaction :=
  store.transactions.find? fun row => row.consumedByWithdrawalId = some withdrawalId

def accept (store : CryptoStore) (transactionId : Nat) (txHash : String) (order : CryptoOrder) :
    CryptoStore :=
  { store with accepted := store.accepted ++ [⟨transactionId, txHash, order⟩] }

/-- The hashes are unique. -/
def insertTransaction (store : CryptoStore) (row : ChainTransaction) :
    Except ApiError CryptoStore := do
  ApiError.throwIf (∃ other ∈ store.transactions, other.txHash = row.txHash) uniqueViolation
  .ok { store with
    transactions := store.transactions ++ [{ row with id := store.transactions.length + 1 }] }

def updateTransaction (store : CryptoStore) (id : Nat) (f : ChainTransaction → ChainTransaction) :
    Except ApiError CryptoStore := do
  let transactions := Keyed.modify ChainTransaction.id id f store.transactions
  ApiError.throwIf (¬(transactions.map ChainTransaction.txHash).Nodup) uniqueViolation
  .ok { store with transactions := transactions }

def updateWithdrawalSubmittedTxHash (store : CryptoStore) (withdrawalId : Nat) (txHash : String) :
    Except ApiError CryptoStore := do
  ApiError.throwIf
    (∃ other ∈ store.withdrawals, other.id ≠ withdrawalId ∧ other.submittedTxHash = some txHash)
    uniqueViolation
  .ok { store with
    withdrawals := Keyed.modify WithdrawalRecord.id withdrawalId
      (fun row => { row with submittedTxHash := some txHash }) store.withdrawals }

end CryptoStore

/-- The `depositId` of the new row comes from a sequence. -/
def createCryptoDeposit (store : CryptoStore) (conditions : CryptoDepositConditions)
    (depositId : Nat) (payload : CryptoDepositPayload) : Except ApiError CryptoStore := do
  conditions.screening
  ApiError.throwIf (conditions.depositEnabled = false)
    (.serviceUnavailable "Deposits are currently disabled.")
  match store.channels.find? fun channel => channel.id = payload.channelId ∧ channel.isActive with
  | none => .error (.notFound "Crypto deposit channel not found.")
  | some channel => do
      let txHash ← requireString payload.txHash "Transaction hash" 191
      ApiError.throwIf (∃ deposit ∈ store.deposits, deposit.submittedTxHash = some txHash)
        (.conflict "Transaction hash has already been claimed.")
      let existingChainTx := store.transactionByHash txHash
      ApiError.throwIf
        (existingChainTx.any (fun existing =>
          existing.consumedByDepositId.isSome || existing.consumedByWithdrawalId.isSome) = true)
        (.conflict "Transaction hash has already been claimed.")
      let amount ← parseTokenAmount payload.amountClaimed "Claimed amount"
      conditions.processing
      let fromAddress ← optionalString payload.fromAddress 191
      let _ ← optionalString payload.screenshotUrl 2048
      let _ ← optionalString payload.memo 191
      ApiError.throwIf (∃ deposit ∈ store.deposits, deposit.id = depositId) uniqueViolation
      let inserted : CryptoStore :=
        { store with
          deposits := store.deposits ++
            [{ id := depositId
               channelType := .crypto
               submittedTxHash := some txHash
               channelId := some channel.id }] }
      match existingChainTx with
      | some existing => do
          let updated ← inserted.updateTransaction existing.id fun row =>
            { row with
              direction := .deposit
              chain := channel.chain
              network := channel.network
              token := channel.token
              fromAddress := fromAddress
              toAddress := some channel.receiveAddress
              amount := amount
              confirmations := existing.confirmations
              consumedByDepositId := some depositId
              consumedByWithdrawalId := none }
          .ok (updated.accept existing.id txHash (.deposit depositId))
      | none => do
          let updated ← inserted.insertTransaction
            { id := 0
              txHash := txHash
              direction := .deposit
              chain := channel.chain
              network := channel.network
              token := channel.token
              fromAddress := fromAddress
              toAddress := some channel.receiveAddress
              amount := amount
              confirmations := 0
              consumedByDepositId := some depositId
              consumedByWithdrawalId := none }
          .ok (updated.accept (store.transactions.length + 1) txHash (.deposit depositId))

/-- The channel's bound, or one confirmation. -/
def minConfirmations (store : CryptoStore) (deposit : DepositRecord) : Int :=
  ((deposit.channelId.bind fun channelId =>
    store.channels.find? fun channel => channel.id = channelId).map
      CryptoDepositChannel.minConfirmations).getD 1

def confirmCryptoDeposit (store : CryptoStore) (depositId : Nat) (review : CryptoReviewPayload) :
    Except ApiError CryptoStore :=
  match store.depositById depositId with
  | none => .ok store
  | some deposit => do
      ApiError.throwIf (deposit.channelType ≠ .crypto)
        (.conflict "Deposit is not a crypto deposit.")
      let _ ← readCryptoProcessingChannel review.processingChannel
      let settlementReference ← readTransactionHash review deposit.submittedTxHash
      match store.depositTransaction depositId <|> store.transactionByHash settlementReference with
      | none => .error (.notFound "Crypto chain transaction not found.")
      | some transaction => do
          let parsed ← parseOptionalPositiveInteger review.confirmations
          let confirmations := parsed.getD transaction.confirmations
          ApiError.throwIf (confirmations < minConfirmations store deposit)
            (.conflict ("At least " ++ toString (minConfirmations store deposit) ++
              " confirmations are required before crediting this deposit."))
          let fromAddress ← optionalString review.fromAddress 191
          let toAddress ← optionalString review.toAddress 191
          let _ ← optionalString review.operatorNote 500
          let updated ← store.updateTransaction transaction.id fun row =>
            { row with
              txHash := settlementReference
              confirmations := confirmations
              fromAddress := fromAddress <|> transaction.fromAddress
              toAddress := toAddress <|> transaction.toAddress }
          .ok
            { updated.accept transaction.id settlementReference (.deposit depositId) with
              confirmed := updated.confirmed ++ [(depositId, transaction.id)] }

/-- `creditDeposit` at the end of a confirmation. -/
def creditConfirmedDeposit (store : CryptoStore) (depositId transactionId : Nat) : CryptoStore :=
  if (depositId, transactionId) ∈ store.confirmed then
    { store with credited := store.credited ++ [(depositId, transactionId)] }
  else store

/-- The chain transaction only gets a note of the review. -/
def rejectCryptoDeposit (store : CryptoStore) (depositId : Nat) (review : CryptoReviewPayload) :
    Except ApiError CryptoStore :=
  match store.depositById depositId with
  | none => .ok store
  | some deposit => do
      ApiError.throwIf (deposit.channelType ≠ .crypto)
        (.conflict "Deposit is not a crypto deposit.")
      let _ ← readCryptoProcessingChannel review.processingChannel
      let _ ← requireString review.operatorNote "Operator note" 500
      .ok store

/-- The withdrawal has been read before the transaction; `submittedTxHash` is what it then had. -/
def submitCryptoWithdrawal (store : CryptoStore) (withdrawalId : Nat)
    (submittedTxHash : Option String) (review : CryptoReviewPayload) :
    Except ApiError CryptoStore :=
  match store.withdrawalById withdrawalId with
  | none => .ok store
  | some withdrawal => do
      ApiError.throwIf (withdrawal.channelType ≠ .crypto)
        (.conflict "Withdrawal is not a crypto withdrawal.")
      let _ ← readCryptoProcessingChannel review.processingChannel
      let txHash ← readTransactionHash review submittedTxHash
      let exactAmount ← readExactAmount review withdrawal.amount
      match store.addresses.find? fun address =>
          address.payoutMethodId = withdrawal.payoutMethodId.getD 0 with
      | none => .error (.notFound "Crypto withdrawal address not found.")
      | some address => do
          let _ ← optionalString review.operatorNote 500
          let fromAddress ← optionalString review.fromAddress 191
          let toAddress ← optionalString review.toAddress 191
          let parsed ← parseOptionalPositiveInteger review.confirmations
          match store.transactionByHash txHash with
          | some existing => do
              ApiError.throwIf
                (existing.consumedByWithdrawalId ≠ none ∧
                  existing.consumedByWithdrawalId ≠ some withdrawalId)
                (.conflict "Transaction hash has already been assigned to another withdrawal.")
              let updated ← store.updateTransaction existing.id fun row =>
                { row with
                  direction := .withdrawal
                  chain := address.chain
                  network := address.network
                  token := address.token
                  fromAddress := fromAddress <|> existing.fromAddress
                  toAddress := toAddress <|> some address.address
                  amount := exactAmount
                  confirmations := parsed.getD 0
                  consumedByWithdrawalId := some withdrawalId }
              let recorded ← updated.updateWithdrawalSubmittedTxHash withdrawalId txHash
              .ok (recorded.accept existing.id txHash (.withdrawal withdrawalId))
          | none => do
              let updated ← store.insertTransaction
                { id := 0
                  txHash := txHash
                  direction := .withdrawal
                  chain := address.chain
                  network := address.network
                  token := address.token
                  fromAddress := fromAddress
                  toAddress := toAddress <|> some address.address
                  amount := exactAmount
                  confirmations := parsed.getD 0
                  consumedByDepositId := none
                  consumedByWithdrawalId := some withdrawalId }
              let recorded ← updated.updateWithdrawalSubmittedTxHash withdrawalId txHash
              .ok (recorded.accept (store.transactions.length + 1) txHash
                (.withdrawal withdrawalId))

/-- Of this withdrawal too, `submittedTxHash` is what it had before the transaction. -/
def confirmCryptoWithdrawal (store : CryptoStore) (withdrawalId : Nat)
    (submittedTxHash : Option String) (review : CryptoReviewPayload) :
    Except ApiError CryptoStore :=
  match store.withdrawalById withdrawalId with
  | none => .ok store
  | some withdrawal => do
      ApiError.throwIf (withdrawal.channelType ≠ .crypto)
        (.conflict "Withdrawal is not a crypto withdrawal.")
      let _ ← readCryptoProcessingChannel review.processingChannel
      let txHash ← readTransactionHash review submittedTxHash
      let parsed ← parseOptionalPositiveInteger review.confirmations
      ApiError.throwIf (parsed.getD 0 < 1)
        (.unprocessableEntity "At least 1 confirmation is required.")
      match store.withdrawalTransaction withdrawalId <|> store.transactionByHash txHash with
      | none => .error (.notFound "Crypto chain transaction not found.")
      | some transaction => do
          let _ ← optionalString review.operatorNote 500
          let updated ← store.updateTransaction transaction.id fun row =>
            { row with txHash := txHash, confirmations := parsed.getD 0 }
          let recorded ← updated.updateWithdrawalSubmittedTxHash withdrawalId txHash
          .ok (recorded.accept transaction.id txHash (.withdrawal withdrawalId))

inductive CryptoOperation where
  | createDeposit (conditions : CryptoDepositConditions) (depositId : Nat)
      (payload : CryptoDepositPayload)
  | confirmDeposit (depositId : Nat) (review : CryptoReviewPayload)
  | creditDeposit (depositId transactionId : Nat)
  | rejectDeposit (depositId : Nat) (review : CryptoReviewPayload)
  | submitWithdrawal (withdrawalId : Nat) (submittedTxHash : Option String)
      (review : CryptoReviewPayload)
  | confirmWithdrawal (withdrawalId : Nat) (submittedTxHash : Option String)
      (review : CryptoReviewPayload)

def cryptoStep (store : CryptoStore) : CryptoOperation → Except ApiError CryptoStore
  | .createDeposit conditions depositId payload =>
      createCryptoDeposit store conditions depositId payload
  | .confirmDeposit depositId review => confirmCryptoDeposit store depositId review
  | .creditDeposit depositId transactionId =>
      .ok (creditConfirmedDeposit store depositId transactionId)
  | .rejectDeposit depositId review => rejectCryptoDeposit store depositId review
  | .submitWithdrawal withdrawalId submittedTxHash review =>
      submitCryptoWithdrawal store withdrawalId submittedTxHash review
  | .confirmWithdrawal withdrawalId submittedTxHash review =>
      confirmCryptoWithdrawal store withdrawalId submittedTxHash review

end RewardSystem.Crypto
