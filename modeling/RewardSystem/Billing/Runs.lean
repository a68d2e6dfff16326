import RewardSystem.Billing.UsageFees
import RewardSystem.Lib.Keyed

/-!
# Billing runs and their invoices

The rows of `saas_billing_runs` and `saas_billing_top_ups`, and what an invoice snapshot makes of a
run. Syncs compare the revision that they have read when they write; a recomputation does not.
-/

namespace RewardSystem.Billing

inductive SaasBillingRunStatus where
  | draft
  | synced
  | finalized
  | sent
  | paid
  | void
  | uncollectible
  | failed
  deriving DecidableEq, Repr

def isTerminalStatus (status : SaasBillingRunStatus) : Bool :=
  status ∈ [.paid, .void, .uncollectible]

def isDispatchedStatus (status : SaasBillingRunStatus) : Bool :=
  status ∈ [.sent, .paid, .void, .uncollectible]

inductive SaasBillingRunExternalSyncStatus where
  | idle
  | processing
  | succeeded
  | failed
  deriving DecidableEq, Repr

/-- A row of `saas_billing_runs`; amounts are in cents. -/
structure BillingRun where
  id : Nat
  tenantId : Nat
  periodStart : Int
  periodEnd : Int
  currency : String
  status : SaasBillingRunStatus
  fees : RunFees
  creditAppliedAmount : Int
  totalAmount : Int
  stripeCustomerId : Option String
  stripeInvoiceId : Option Nat
  externalSyncStatus : SaasBillingRunExternalSyncStatus
  externalSyncRevision : Nat
  externalSyncAttemptedAt : Option Int
  deriving DecidableEq

inductive SaasBillingTopUpStatus where
  | pending
  | applied
  | synced
  | failed
  deriving DecidableEq, Repr

/-- A row of `saas_billing_top_ups`. -/
structure BillingTopUp where
  id : Nat
  tenantId : Nat
  amount : Int
  status : SaasBillingTopUpStatus
  stripeCustomerId : Option String
  deriving DecidableEq, Repr

def SaasBillingTopUpStatus.successful (status : SaasBillingTopUpStatus) : Bool :=
  status ∈ [.applied, .synced]

inductive StripeInvoiceStatus where
  | draft
  | open
  | paid
  | void
  | uncollectible
  /-- No status, or one that the code does not know. -/
  | other
  deriving DecidableEq, Repr

/-- A snapshot of an invoice, as a response or a webhook carries it. Amounts are in cents;
`amountDue` is the total where the snapshot has no amount due. -/
structure StripeInvoice where
  id : Nat
  customer : Option String
  status : StripeInvoiceStatus
  startingBalance : Int
  amountDue : Int
  deriving DecidableEq, Repr

inductive InvoiceEventType where
  | paid
  | paymentFailed
  | sent
  | other
  deriving DecidableEq, Repr

section Invoice

def resolveStripeCreditAppliedAmount (invoice : StripeInvoice) : Int :=
  if 0 ≤ invoice.startingBalance then 0 else -invoice.startingBalance

def resolveBillingRunStatusFromInvoice (invoice : StripeInvoice)
    (previousStatus : SaasBillingRunStatus) (eventType : Option InvoiceEventType) :
    SaasBillingRunStatus :=
  if invoice.status = .paid then .paid
  else if invoice.status = .void then .void
  else if invoice.status = .uncollectible then .uncollectible
  else if eventType = some .paymentFailed then .failed
  else if eventType = some .sent then .sent
  else if invoice.status = .open then (if previousStatus = .sent then .sent else .finalized)
  else if invoice.status = .draft then .synced
  else previousStatus

end Invoice

section ExternalSync

def syncConflict : ApiError :=
  .conflict "Billing run sync state changed concurrently. Retry the request."

def mayTransition : SaasBillingRunExternalSyncStatus → SaasBillingRunExternalSyncStatus → Bool
  | .idle, next => next = .processing
  | .processing, next => next ∈ [.processing, .succeeded, .failed]
  | .succeeded, next => next = .processing
  | .failed, next => next = .processing

def resolveBillingRunExternalSyncTransition
    (currentStatus nextStatus : SaasBillingRunExternalSyncStatus) :
    Except ApiError SaasBillingRunExternalSyncStatus :=
  if mayTransition currentStatus nextStatus then .ok nextStatus
  else .error (.internalInvariant "Billing run external sync transition is invalid.")

/-- The UPDATE that finds the row only under the revision that `run` was read with. -/
def updateBillingRunWithCompareAndSwap (runs : List BillingRun) (run : BillingRun)
    (values : BillingRun → BillingRun) : Except ApiError (BillingRun × List BillingRun) :=
  match Keyed.lookup BillingRun.id run.id runs with
  | none => .error syncConflict
  | some row =>
      if row.externalSyncRevision = run.externalSyncRevision then
        .ok (values row, Keyed.modify BillingRun.id run.id values runs)
      else .error syncConflict

/-- `buildBillingRunExternalSyncColumns`, for a transition that is allowed. -/
def externalSyncColumns (nextStatus : SaasBillingRunExternalSyncStatus) (attemptedAt : Option Int)
    (row : BillingRun) : BillingRun :=
  { row with
    externalSyncStatus := nextStatus
    externalSyncRevision := row.externalSyncRevision + 1
    externalSyncAttemptedAt := attemptedAt }

def hasExpiredBillingRunSyncClaim (lockTimeoutMs now : Int) (run : BillingRun) : Bool :=
  match run.externalSyncAttemptedAt with
  | none => run.externalSyncStatus = .processing
  | some attemptedAt => run.externalSyncStatus = .processing ∧ attemptedAt ≤ now - lockTimeoutMs

def markBillingRunSyncProcessing (lockTimeoutMs now : Int) (runs : List BillingRun)
    (run : BillingRun) : Except ApiError (BillingRun × List BillingRun) := do
  ApiError.throwIf (run.externalSyncStatus = .processing ∧
    hasExpiredBillingRunSyncClaim lockTimeoutMs now run = false) syncConflict
  let nextStatus ← resolveBillingRunExternalSyncTransition run.externalSyncStatus .processing
  updateBillingRunWithCompareAndSwap runs run (externalSyncColumns nextStatus (some now))

def recordBillingRunSyncSuccess (now : Int) (runs : List BillingRun) (run : BillingRun) :
    Except ApiError (BillingRun × List BillingRun) := do
  let nextStatus ← resolveBillingRunExternalSyncTransition run.externalSyncStatus .succeeded
  updateBillingRunWithCompareAndSwap runs run
    (externalSyncColumns nextStatus (some (run.externalSyncAttemptedAt.getD now)))

/-- A run that is terminal or dispatched keeps its status. -/
def recordBillingRunSyncFailure (now : Int) (runs : List BillingRun) (run : BillingRun) :
    Except ApiError (BillingRun × List BillingRun) := do
  let runStatus := if isTerminalStatus run.status ∨ isDispatchedStatus run.status then run.status
    else .failed
  let nextStatus ← resolveBillingRunExternalSyncTransition run.externalSyncStatus .failed
  updateBillingRunWithCompareAndSwap runs run fun row =>
    { externalSyncColumns nextStatus (some (run.externalSyncAttemptedAt.getD now)) row with
      status := runStatus }

def syncBillingRunFromInvoice (now : Int) (runs : List BillingRun) (run : BillingRun)
    (invoice : StripeInvoice) (eventType : Option InvoiceEventType) :
    Except ApiError (BillingRun × List BillingRun) := do
  let nextStatus ← resolveBillingRunExternalSyncTransition run.externalSyncStatus .succeeded
  updateBillingRunWithCompareAndSwap runs run fun row =>
    { externalSyncColumns nextStatus (some (run.externalSyncAttemptedAt.getD now)) row with
      status := resolveBillingRunStatusFromInvoice invoice run.status eventType
      stripeCustomerId := invoice.customer.or run.stripeCustomerId
      stripeInvoiceId := some invoice.id
      creditAppliedAmount := resolveStripeCreditAppliedAmount invoice
      totalAmount := invoice.amountDue }

end ExternalSync

end RewardSystem.Billing
