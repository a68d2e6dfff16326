import RewardSystem.Billing.Runs
import RewardSystem.Lib.RunningBalance
import RewardSystem.Lib.Runs

/-!
# Reviews of billing disputes

A review reads what is left to refund in a first transaction, asks Stripe for a credit note, and
books it in a second one. Neither transaction locks what it reads. A step is one statement, and a
row that is inserted is seen by other sessions from the commit on.
-/

namespace RewardSystem.Billing.Disputes

open Transition

inductive SaasBillingDisputeStatus where
  | submitted
  | underReview
  | resolved
  | rejected
  deriving DecidableEq, Repr

def isOpenStatus (status : SaasBillingDisputeStatus) : Bool :=
  status ∈ [.submitted, .underReview]

def isFinalStatus (status : SaasBillingDisputeStatus) : Bool :=
  status ∈ [.resolved, .rejected]

inductive SaasBillingDisputeResolution where
  | fullRefund
  | partialRefund
  | reject
  deriving DecidableEq, Repr

/-- A row of `saas_billing_disputes`; amounts are in cents. -/
structure BillingDispute where
  id : Nat
  tenantId : Nat
  billingRunId : Nat
  status : SaasBillingDisputeStatus
  requestedRefundAmount : Int
  resolutionType : Option SaasBillingDisputeResolution
  approvedRefundAmount : Option Int
  stripeCreditNoteId : Option Nat
  deriving DecidableEq, Repr

inductive BillingLedgerEntryType where
  | billingRunCharge
  | billingDisputeRefund
  deriving DecidableEq, Repr

/-- A row of `saas_billing_ledger_entries`. -/
structure BillingLedgerEntry where
  id : Nat
  tenantId : Nat
  billingRunId : Nat
  disputeId : Option Nat
  entryType : BillingLedgerEntryType
  amount : Int
  balanceBefore : Int
  balanceAfter : Int
  deriving DecidableEq, Repr

structure CreditNoteKey where
  disputeId : Nat
  billingRunId : Nat
  tenantId : Nat
  approvedRefundAmount : Int
  resolutionType : SaasBillingDisputeResolution
  deriving DecidableEq, Repr

structure CreditNote where
  id : Nat
  key : CreditNoteKey
  refundAmount : Int
  deriving DecidableEq, Repr

def CreditNote.amount (note : CreditNote) : Int :=
  note.key.approvedRefundAmount

/-- The committed rows, the next id of the ledger's sequence, and Stripe's credit notes. -/
structure Tables where
  runs : List BillingRun
  disputes : List BillingDispute
  entries : List BillingLedgerEntry
  nextEntryId : Nat
  creditNotes : List CreditNote
  deriving DecidableEq

/-! ## The ledger -/

section Ledger

def latestEntry (entries : List BillingLedgerEntry) (tenantId : Nat) : Option BillingLedgerEntry :=
  RunningBalance.latest BillingLedgerEntry.tenantId BillingLedgerEntry.id entries tenantId

def balanceOf (latest : Option BillingLedgerEntry) : Int :=
  RunningBalance.balanceOf BillingLedgerEntry.balanceAfter latest

/-- A row that a transaction has inserted, with the latest row that its balance continues. -/
structure PendingEntry where
  entry : BillingLedgerEntry
  latest : Option BillingLedgerEntry
  deriving DecidableEq

/-- The row of `appendBillingLedgerEntry`. -/
def appendedEntry (id tenantId billingRunId : Nat) (disputeId : Option Nat)
    (entryType : BillingLedgerEntryType) (amount : Int) (latest : Option BillingLedgerEntry) :
    PendingEntry where
  entry :=
    { id := id
      tenantId := tenantId
      billingRunId := billingRunId
      disputeId := disputeId
      entryType := entryType
      amount := amount
      balanceBefore := balanceOf latest
      balanceAfter := balanceOf latest + amount }
  latest := latest

/-- What a statement of a transaction sees. -/
def visible (entries : List BillingLedgerEntry) (pending : List PendingEntry) :
    List BillingLedgerEntry :=
  entries ++ pending.map PendingEntry.entry

def findCharge (entries : List BillingLedgerEntry) (billingRunId : Nat) :
    Option BillingLedgerEntry :=
  entries.find? fun entry =>
    entry.billingRunId = billingRunId ∧ entry.entryType = .billingRunCharge

def readRemainingRefundableAmount (entries : List BillingLedgerEntry) (billingRunId : Nat) : Int :=
  ((entries.filter fun entry => entry.billingRunId = billingRunId).map
    BillingLedgerEntry.amount).sum

end Ledger

/-! ## Amounts -/

section Amounts

def requirePositiveMoney (value : ℚ) (message : String) : Except ApiError Int := do
  ApiError.throwIf (toCents value ≤ 0) (.badRequest message)
  return toCents value

def resolveApprovedRefundAmount (resolutionType : SaasBillingDisputeResolution)
    (approvedRefundAmount : Option ℚ) (remainingRefundableAmount : Int) : Except ApiError Int := do
  ApiError.throwIf (remainingRefundableAmount ≤ 0)
    (.conflict "No refundable balance remains for this billing run.")
  if resolutionType = .fullRefund then return remainingRefundableAmount
  let amount ← requirePositiveMoney (approvedRefundAmount.getD 0)
    "Approved refund amount must be greater than zero."
  ApiError.throwIf (remainingRefundableAmount < amount)
    (.conflict
      "Approved refund amount exceeds the remaining refundable balance for this billing run.")
  return amount

/-- The part of a credit note that is paid back. -/
def refundAmountCents (invoiceStatus : StripeInvoiceStatus) (approvedRefundAmount : Int)
    (amountRemaining : Int) : Int :=
  if invoiceStatus = .paid then approvedRefundAmount
  else if max 0 amountRemaining ≤ 0 then approvedRefundAmount
  else max (approvedRefundAmount - max 0 amountRemaining) 0

end Amounts

/-! ## createBillingDispute -/

structure DisputeRequest where
  tenantId : Nat
  billingRunId : Nat
  requestedRefundAmount : ℚ
  deriving DecidableEq

inductive CreateStage where
  | loadRun
  | findPending (run : BillingRun) (amount : Int)
  | insert (run : BillingRun) (amount : Int)
  | finished
  deriving DecidableEq

/-- The checks of `createBillingDispute`. -/
def checkDispute (request : DisputeRequest) (run : BillingRun) : Except ApiError Int := do
  ApiError.throwIf (run.tenantId ≠ request.tenantId)
    (.badRequest "Billing run does not belong to this tenant.")
  let amount ← requirePositiveMoney request.requestedRefundAmount
    "Requested refund amount must be greater than zero."
  ApiError.throwIf (run.totalAmount < amount)
    (.badRequest "Requested refund amount cannot exceed the billing run total.")
  return amount

def submittedDispute (id : Nat) (run : BillingRun) (amount : Int) : BillingDispute where
  id := id
  tenantId := run.tenantId
  billingRunId := run.id
  status := .submitted
  requestedRefundAmount := amount
  resolutionType := none
  approvedRefundAmount := none
  stripeCreditNoteId := none

def createBillingDispute (tables : Tables) (request : DisputeRequest) :
    CreateStage → Option (CreateStage × Tables)
  | .loadRun =>
      match Keyed.lookup BillingRun.id request.billingRunId tables.runs with
      | none => some (.finished, tables)
      | some run =>
          match checkDispute request run with
          | .error _ => some (.finished, tables)
          | .ok amount => some (.findPending run amount, tables)
  | .findPending run amount =>
      some (if tables.disputes.any fun dispute => dispute.billingRunId = run.id ∧
          isOpenStatus dispute.status then .finished else .insert run amount, tables)
  | .insert run amount =>
      some (.finished, { tables with
        disputes := tables.disputes ++
          [submittedDispute (tables.disputes.length + 1) run amount] })
  | .finished => none

/-! ## reviewBillingDispute -/

structure ReviewRequest where
  billingDisputeId : Nat
  resolutionType : SaasBillingDisputeResolution
  approvedRefundAmount : Option ℚ
  deriving DecidableEq

structure Answer where
  stripeEnabled : Bool
  invoiceStatus : StripeInvoiceStatus
  amountRemaining : Int
  deriving DecidableEq, Repr

structure Review where
  dispute : BillingDispute
  run : BillingRun
  deriving DecidableEq

/-- A review with the credit note that it has been granted. -/
structure Refund where
  review : Review
  approvedRefundAmount : Int
  creditNoteId : Nat
  deriving DecidableEq

/-- The statements of a review, in the order of the code. -/
inductive ReviewStage where
  | loadDispute
  | reject (dispute : BillingDispute)
  | loadRun (dispute : BillingDispute)
  -- The first transaction.
  | findCharge (review : Review)
  | latestBeforeCharge (review : Review)
  | insertCharge (review : Review) (latest : Option BillingLedgerEntry)
  | readRemaining (review : Review) (pending : List PendingEntry)
  | markUnderReview (review : Review) (pending : List PendingEntry) (remaining : Int)
  -- Between the transactions.
  | createCreditNote (review : Review) (remaining : Int)
  -- The second transaction.
  | reloadDispute (refund : Refund)
  | refindCharge (refund : Refund)
  | latestBeforeRecharge (refund : Refund)
  | reinsertCharge (refund : Refund) (latest : Option BillingLedgerEntry)
  | rereadRemaining (refund : Refund) (pending : List PendingEntry)
  | latestBeforeRefund (refund : Refund) (pending : List PendingEntry)
  | insertRefund (refund : Refund) (pending : List PendingEntry)
      (latest : Option BillingLedgerEntry)
  | resolve (refund : Refund) (pending : List PendingEntry)
  | finished
  deriving DecidableEq

/-- The charge of `ensureBillingRunChargeLedgerEntry`. -/
def chargeEntry (id : Nat) (run : BillingRun) (latest : Option BillingLedgerEntry) : PendingEntry :=
  appendedEntry id run.tenantId run.id none .billingRunCharge run.totalAmount latest

def refundEntry (id : Nat) (refund : Refund) (latest : Option BillingLedgerEntry) : PendingEntry :=
  appendedEntry id refund.review.dispute.tenantId refund.review.run.id
    (some refund.review.dispute.id) .billingDisputeRefund (-refund.approvedRefundAmount) latest

def Tables.commit (tables : Tables) (pending : List PendingEntry)
    (disputes : List BillingDispute) : Tables :=
  { tables with entries := visible tables.entries pending, disputes := disputes }

def creditNoteKey (request : ReviewRequest) (review : Review) (approvedRefundAmount : Int) :
    CreditNoteKey where
  disputeId := review.dispute.id
  billingRunId := review.run.id
  tenantId := review.dispute.tenantId
  approvedRefundAmount := approvedRefundAmount
  resolutionType := request.resolutionType

/-- Stripe answers a key that it knows with the note that it has issued under it. -/
def issueCreditNote (creditNotes : List CreditNote) (key : CreditNoteKey) (refundAmount : Int) :
    Nat × List CreditNote :=
  match creditNotes.find? fun note => note.key = key with
  | some note => (note.id, creditNotes)
  | none =>
      (creditNotes.length + 1,
        creditNotes ++ [{ id := creditNotes.length + 1, key := key, refundAmount := refundAmount }])

/-- The amount that a review asks a credit note for, once everything before has been checked. -/
def requestedCreditNote (request : ReviewRequest) (review : Review) (remaining : Int)
    (answer : Answer) : Except ApiError Int := do
  let amount ← resolveApprovedRefundAmount request.resolutionType request.approvedRefundAmount
    remaining
  ApiError.throwIf (review.run.stripeInvoiceId = none)
    (.badRequest "Stripe invoice has not been created for this billing run.")
  ApiError.throwIf (answer.stripeEnabled = false) (.badRequest "SAAS Stripe is not configured.")
  ApiError.throwIf (answer.invoiceStatus = .uncollectible ∨ answer.invoiceStatus = .void)
    (.conflict "Stripe invoice is not eligible for credit-note refunds in its current state.")
  ApiError.throwIf (answer.invoiceStatus ≠ .open ∧ answer.invoiceStatus ≠ .paid)
    (.conflict "Stripe invoice must be finalized before a dispute refund can be applied.")
  return amount

def rejectDispute (disputes : List BillingDispute) (id : Nat) : List BillingDispute :=
  Keyed.modify BillingDispute.id id
    (fun row => { row with
      status := .rejected
      resolutionType := some .reject
      approvedRefundAmount := none }) disputes

def putUnderReview (disputes : List BillingDispute) (id : Nat) : List BillingDispute :=
  Keyed.modify BillingDispute.id id
    (fun row => if isOpenStatus row.status then { row with status := .underReview } else row)
    disputes

def resolveDispute (disputes : List BillingDispute) (resolutionType : SaasBillingDisputeResolution)
    (refund : Refund) : List BillingDispute :=
  Keyed.modify BillingDispute.id refund.review.dispute.id
    (fun row => { row with
      status := .resolved
      resolutionType := some resolutionType
      approvedRefundAmount := some refund.approvedRefundAmount
      stripeCreditNoteId := some refund.creditNoteId }) disputes

/-- One statement; a review that throws is over, and what its transaction has inserted is gone. -/
def reviewBillingDispute (tables : Tables) (request : ReviewRequest) (answer : Answer) :
    ReviewStage → Option (ReviewStage × Tables)
  | .loadDispute =>
      match Keyed.lookup BillingDispute.id request.billingDisputeId tables.disputes with
      | none => some (.finished, tables)
      | some dispute =>
          some (if isFinalStatus dispute.status then .finished
            else if request.resolutionType = .reject then .reject dispute
            else .loadRun dispute, tables)
  | .reject dispute =>
      some (.finished, { tables with disputes := rejectDispute tables.disputes dispute.id })
  | .loadRun dispute =>
      match Keyed.lookup BillingRun.id dispute.billingRunId tables.runs with
      | none => some (.finished, tables)
      | some run => some (.findCharge { dispute := dispute, run := run }, tables)
  | .findCharge review =>
      some (if (Disputes.findCharge tables.entries review.run.id).isSome then .readRemaining review []
        else .latestBeforeCharge review, tables)
  | .latestBeforeCharge review =>
      some (.insertCharge review (latestEntry tables.entries review.run.tenantId), tables)
  | .insertCharge review latest =>
      some (.readRemaining review [chargeEntry tables.nextEntryId review.run latest],
        { tables with nextEntryId := tables.nextEntryId + 1 })
  | .readRemaining review pending =>
      some (.markUnderReview review pending
        (readRemainingRefundableAmount (visible tables.entries pending) review.run.id), tables)
  | .markUnderReview review pending remaining =>
      some (.createCreditNote review remaining,
        tables.commit pending (putUnderReview tables.disputes review.dispute.id))
  | .createCreditNote review remaining =>
      match requestedCreditNote request review remaining answer with
      | .error _ => some (.finished, tables)
      | .ok amount =>
          let (id, creditNotes) := issueCreditNote tables.creditNotes
            (creditNoteKey request review amount)
            (refundAmountCents answer.invoiceStatus amount answer.amountRemaining)
          some (.reloadDispute
            { review := review, approvedRefundAmount := amount, creditNoteId := id },
            { tables with creditNotes := creditNotes })
  | .reloadDispute refund =>
      match Keyed.lookup BillingDispute.id refund.review.dispute.id tables.disputes with
      | none => some (.finished, tables)
      | some dispute =>
          some (if isFinalStatus dispute.status then .finished else .refindCharge refund, tables)
  | .refindCharge refund =>
      some (if (Disputes.findCharge tables.entries refund.review.run.id).isSome then
          .rereadRemaining refund []
        else .latestBeforeRecharge refund, tables)
  | .latestBeforeRecharge refund =>
      some (.reinsertCharge refund (latestEntry tables.entries refund.review.run.tenantId), tables)
  | .reinsertCharge refund latest =>
      some (.rereadRemaining refund [chargeEntry tables.nextEntryId refund.review.run latest],
        { tables with nextEntryId := tables.nextEntryId + 1 })
  | .rereadRemaining refund pending =>
      some (if readRemainingRefundableAmount (visible tables.entries pending)
            refund.review.run.id < refund.approvedRefundAmount then .finished
        else .latestBeforeRefund refund pending, tables)
  | .latestBeforeRefund refund pending =>
      some (.insertRefund refund pending
        (latestEntry (visible tables.entries pending) refund.review.dispute.tenantId), tables)
  | .insertRefund refund pending latest =>
      some (.resolve refund (pending ++ [refundEntry tables.nextEntryId refund latest]),
        { tables with nextEntryId := tables.nextEntryId + 1 })
  | .resolve refund pending =>
      some (.finished,
        tables.commit pending (resolveDispute tables.disputes request.resolutionType refund))
  | .finished => none

/-! ## The service -/

inductive Session where
  | create (request : DisputeRequest) (stage : CreateStage)
  | review (request : ReviewRequest) (stage : ReviewStage)
  deriving DecidableEq

inductive Call where
  | createBillingDispute (request : DisputeRequest)
  | reviewBillingDispute (request : ReviewRequest)
  deriving DecidableEq

def Call.session : Call → Session
  | .createBillingDispute request => .create request .loadRun
  | .reviewBillingDispute request => .review request .loadDispute

structure Service where
  tables : Tables
  sessions : Nat → Option Session

inductive Label where
  | begin (id : Nat) (call : Call)
  | step (id : Nat) (answer : Answer)
  /-- A statement or a request to Stripe fails, and the call with it. -/
  | fail (id : Nat)
  deriving DecidableEq

def Session.step (tables : Tables) (answer : Answer) : Session → Option (Session × Tables)
  | .create request stage =>
      (createBillingDispute tables request stage).map fun next => (.create request next.1, next.2)
  | .review request stage =>
      (reviewBillingDispute tables request answer stage).map fun next =>
        (.review request next.1, next.2)

def Session.failed : Session → Session
  | .create request _ => .create request .finished
  | .review request _ => .review request .finished

def machine (service : Service) : Label → Except Unit Service
  | .begin id call =>
      match service.sessions id with
      | some _ => .error ()
      | none =>
          .ok { service with sessions := Function.update service.sessions id (some call.session) }
  | .step id answer =>
      match (service.sessions id).bind (Session.step service.tables answer) with
      | none => .error ()
      | some (session, tables) =>
          .ok { tables := tables, sessions := Function.update service.sessions id (some session) }
  | .fail id =>
      match service.sessions id with
      | none => .error ()
      | some session =>
          .ok { service with
            sessions := Function.update service.sessions id (some session.failed) }

def Steps : Service → Label → Service → Prop :=
  Accepts machine

section Steps

variable {service service' : Service}

theorem step_cases {label : Label} (hstep : Steps service label service') :
    (∃ id call, label = .begin id call ∧ service.sessions id = none ∧ service' = { service with
      sessions := Function.update service.sessions id (some call.session) }) ∨
    (∃ id answer session session' tables, label = .step id answer ∧
      service.sessions id = some session ∧
      session.step service.tables answer = some (session', tables) ∧ service' =
        { tables := tables, sessions := Function.update service.sessions id (some session') }) ∨
    ∃ id session, label = .fail id ∧ service.sessions id = some session ∧ service' = { service with
      sessions := Function.update service.sessions id (some session.failed) } := by
  cases label with
  | begin id call =>
      left
      cases hsession : service.sessions id with
      | some session => simp [Steps, Accepts, machine, hsession] at hstep
      | none =>
          refine ⟨id, call, rfl, hsession, ?_⟩
          simpa [Steps, Accepts, machine, hsession, eq_comm] using hstep
  | step id answer =>
      right; left
      cases hsession : service.sessions id with
      | none => simp [Steps, Accepts, machine, hsession] at hstep
      | some session =>
          cases hnext : session.step service.tables answer with
          | none => simp [Steps, Accepts, machine, hsession, hnext] at hstep
          | some next =>
              refine ⟨id, answer, session, next.1, next.2, rfl, hsession, hnext, ?_⟩
              simpa [Steps, Accepts, machine, hsession, hnext, eq_comm] using hstep
  | fail id =>
      right; right
      cases hsession : service.sessions id with
      | none => simp [Steps, Accepts, machine, hsession] at hstep
      | some session =>
          refine ⟨id, session, rfl, hsession, ?_⟩
          simpa [Steps, Accepts, machine, hsession, eq_comm] using hstep

end Steps

end RewardSystem.Billing.Disputes
