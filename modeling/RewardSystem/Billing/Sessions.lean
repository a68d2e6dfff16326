import RewardSystem.Billing.Runs
import RewardSystem.Lib.Runs

/-!
# Sessions of the billing service

Calls and webhooks run at the same time, one statement or one exchange with Stripe a step.
`createBillingRun` writes its run with its last statement, so that its transaction is read
statement by statement and written at once.
-/

namespace RewardSystem.Billing

open Transition

/-- What `buildBillingRunStripeFingerprint` hashes. -/
structure BillingRunFingerprint where
  id : Nat
  tenantId : Nat
  periodStart : Int
  periodEnd : Int
  currency : String
  fees : RunFees
  stripeCustomerId : Option String
  deriving DecidableEq

def buildBillingRunStripeFingerprint (run : BillingRun) : BillingRunFingerprint where
  id := run.id
  tenantId := run.tenantId
  periodStart := run.periodStart
  periodEnd := run.periodEnd
  currency := run.currency
  fees := { run.fees with drawCount := 0 }
  stripeCustomerId := run.stripeCustomerId

/-- An invoice that has been created for a run, with the fees that its items were created from. -/
structure CreatedInvoice where
  id : Nat
  saasBillingRunId : Nat
  saasBillingFingerprint : BillingRunFingerprint
  fees : RunFees
  deriving DecidableEq

/-- The tables of the service, and the invoices that Stripe has been asked to create. -/
structure Tables where
  runs : List BillingRun
  topUps : List BillingTopUp
  invoices : List CreatedInvoice
  deriving DecidableEq

/-- How the exchanges of a call with Stripe go. -/
inductive Course where
  | completes
  | failsEarly
  | failsLate
  deriving DecidableEq, Repr

/-- What a step learns from outside: the time, and what Stripe answers. -/
structure Answer where
  now : Int
  course : Course
  /-- The status of the invoice that is retrieved. -/
  retrieved : StripeInvoiceStatus
  /-- The invoice that is searched for. -/
  found : Option Nat
  customer : Option String
  status : StripeInvoiceStatus
  startingBalance : Int
  amountDue : Int
  deriving DecidableEq, Repr

def Answer.invoice (answer : Answer) (id : Nat) : StripeInvoice where
  id := id
  customer := answer.customer
  status := answer.status
  startingBalance := answer.startingBalance
  amountDue := answer.amountDue

/-! ## createBillingRun -/

/-- A call of `createBillingRun`, with what the billing account version and the usage events of the
period give. -/
structure BillingRunRequest where
  tenantId : Nat
  periodStart : Int
  periodEnd : Int
  currency : String
  stripeCustomerId : Option String
  fees : RunFees
  stripeEnabled : Bool
  deriving DecidableEq

def BillingRunRequest.grossTotalAmount (request : BillingRunRequest) : Int :=
  request.fees.baseFeeAmount + request.fees.usageFeeAmount

inductive CreateStage where
  | loadRun
  | loadTopUps (existingRun : Option BillingRun)
  | loadRuns (existingRun : Option BillingRun) (topUpTotal : Int)
  | updateRun (existingRun : Option BillingRun) (availableCreditAmount : Int)
  | finished
  deriving DecidableEq

def topUpTotal (topUps : List BillingTopUp) (tenantId : Nat) : Int :=
  ((topUps.filter fun topUp => topUp.tenantId = tenantId ∧ topUp.status.successful).map
    BillingTopUp.amount).sum

/-- What the runs of a tenant have applied, without the run of a given id. -/
def creditAppliedTotal (runs : List BillingRun) (tenantId : Nat) (excludeBillingRunId : Option Nat) :
    Int :=
  ((runs.filter fun run => run.tenantId = tenantId ∧ some run.id ≠ excludeBillingRunId).map
    BillingRun.creditAppliedAmount).sum

def availableCredit (topUpTotal creditAppliedTotal : Int) : Int :=
  max (topUpTotal - creditAppliedTotal) 0

def findRunOfPeriod (runs : List BillingRun) (request : BillingRunRequest) : Option BillingRun :=
  runs.find? fun run => run.tenantId = request.tenantId ∧
    run.periodStart = request.periodStart ∧ run.periodEnd = request.periodEnd

def keepsRun (run : BillingRun) : Bool :=
  isTerminalStatus run.status ∨ isDispatchedStatus run.status ∨
    (run.status = .finalized ∧ run.stripeInvoiceId.isSome)

/-- The columns that the UPDATE of `createBillingRun` sets. -/
def recomputedRun (request : BillingRunRequest) (creditAppliedAmount : Int) (row : BillingRun) :
    BillingRun :=
  { row with
    status := .draft
    currency := request.currency
    fees := request.fees
    creditAppliedAmount := creditAppliedAmount
    totalAmount := request.grossTotalAmount - creditAppliedAmount
    stripeCustomerId := request.stripeCustomerId }

def insertedRun (request : BillingRunRequest) (id : Nat) : BillingRun where
  id := id
  tenantId := request.tenantId
  periodStart := request.periodStart
  periodEnd := request.periodEnd
  currency := request.currency
  status := .draft
  fees := { baseFeeAmount := 0, usageFeeAmount := 0, drawCount := 0, decisionBreakdown := [] }
  creditAppliedAmount := 0
  totalAmount := 0
  stripeCustomerId := request.stripeCustomerId
  stripeInvoiceId := none
  externalSyncStatus := .idle
  externalSyncRevision := 0
  externalSyncAttemptedAt := none

def writeRun (runs : List BillingRun) (request : BillingRunRequest)
    (existingRun : Option BillingRun) (creditAppliedAmount : Int) : List BillingRun :=
  match existingRun with
  | some run => Keyed.modify BillingRun.id run.id (recomputedRun request creditAppliedAmount) runs
  | none =>
      match findRunOfPeriod runs request with
      -- The unique index on the period refuses the INSERT.
      | some _ => runs
      | none =>
          runs ++ [recomputedRun request creditAppliedAmount (insertedRun request (runs.length + 1))]

def createBillingRun (tables : Tables) (request : BillingRunRequest) :
    CreateStage → Option (CreateStage × Tables)
  | .loadRun =>
      match findRunOfPeriod tables.runs request with
      | none => some (.loadTopUps none, tables)
      | some run => some (if keepsRun run then .finished else .loadTopUps (some run), tables)
  | .loadTopUps existingRun =>
      some (if request.stripeEnabled then .updateRun existingRun 0
        else .loadRuns existingRun (topUpTotal tables.topUps request.tenantId), tables)
  | .loadRuns existingRun total =>
      some (.updateRun existingRun (availableCredit total
        (creditAppliedTotal tables.runs request.tenantId (existingRun.map BillingRun.id))), tables)
  | .updateRun existingRun availableCreditAmount =>
      some (.finished, { tables with
        runs := writeRun tables.runs request existingRun
          (min availableCreditAmount request.grossTotalAmount) })
  | .finished => none

/-! ## Top-ups -/

inductive TopUpCall where
  | createBillingTopUp (tenantId : Nat) (amount : Int) (stripeCustomerId : Option String)
  | syncBillingTopUp (topUpId : Nat)
  deriving DecidableEq

inductive TopUpStage where
  | insert (tenantId : Nat) (amount : Int) (stripeCustomerId : Option String)
  | load (topUpId : Nat)
  | exchange (topUp : BillingTopUp)
  | store (topUp : BillingTopUp) (status : SaasBillingTopUpStatus)
  | finished
  deriving DecidableEq

def storeTopUp (topUps : List BillingTopUp) (topUpId : Nat) (status : SaasBillingTopUpStatus) :
    List BillingTopUp :=
  Keyed.modify BillingTopUp.id topUpId (fun row => { row with status := status }) topUps

def runTopUp (tables : Tables) (stripeEnabled : Bool) (answer : Answer) :
    TopUpStage → Option (TopUpStage × Tables)
  | .insert tenantId amount stripeCustomerId =>
      let id := tables.topUps.length + 1
      some (if stripeEnabled then .load id else .finished,
        { tables with topUps := tables.topUps ++
          [{ id := id, tenantId := tenantId, amount := amount
             status := if stripeEnabled then .pending else .applied
             stripeCustomerId := if stripeEnabled then stripeCustomerId else none }] })
  | .load topUpId =>
      match Keyed.lookup BillingTopUp.id topUpId tables.topUps with
      | none => some (.finished, tables)
      | some topUp =>
          if topUp.status.successful then some (.finished, tables)
          else if stripeEnabled = false then
            some (if topUp.stripeCustomerId = none then .store topUp .applied else .finished, tables)
          else
            some (if topUp.stripeCustomerId = none then .finished else .exchange topUp, tables)
  | .exchange topUp =>
      some (.store topUp (if answer.course = .completes then .synced else .failed), tables)
  | .store topUp status =>
      some (.finished, { tables with topUps := storeTopUp tables.topUps topUp.id status })
  | .finished => none

/-! ## Syncs and webhooks -/

inductive SyncCall where
  | syncBillingRun (billingRunId : Nat) (sendInvoice : Bool)
  | refreshBillingRun (billingRunId : Nat)
  | settleBillingRun (billingRunId : Nat)
  | webhook (billingRunId : Option Nat) (invoice : StripeInvoice) (eventType : InvoiceEventType)
  deriving DecidableEq

inductive SyncStage where
  | load
  | claim (run : BillingRun)
  | exchange (run : BillingRun)
  | persist (run : BillingRun) (invoice : StripeInvoice)
  | recordFailure (run : BillingRun)
  | recordSuccess (run : BillingRun)
  | finished
  deriving DecidableEq

/-- The event type that a call hands on to `syncBillingRunFromInvoice`. -/
def SyncCall.eventType : SyncCall → Option InvoiceEventType
  | .syncBillingRun _ sendInvoice => if sendInvoice then some .sent else none
  | .refreshBillingRun _ => none
  | .settleBillingRun _ => some .paid
  | .webhook _ _ eventType => some eventType

/-- `resolveBillingRunForStripeInvoice`, and `loadBillingRun` for the calls. -/
def loadSyncedRun (runs : List BillingRun) : SyncCall → Option BillingRun
  | .syncBillingRun id _ | .refreshBillingRun id | .settleBillingRun id =>
      Keyed.lookup BillingRun.id id runs
  | .webhook billingRunId invoice _ =>
      (billingRunId.bind fun id => Keyed.lookup BillingRun.id id runs).or
        (runs.find? fun run => run.stripeInvoiceId = some invoice.id)

def findStripeInvoiceForBillingRun (invoices : List CreatedInvoice) (run : BillingRun)
    (answer : Answer) : Option Nat :=
  match run.stripeCustomerId, answer.found with
  | some _, some id =>
      if invoices.any fun invoice => invoice.id = id ∧ invoice.saasBillingRunId = run.id then some id
      else none
  | _, _ => none

def createStripeInvoiceForBillingRun (invoices : List CreatedInvoice) (run : BillingRun) :
    Nat × List CreatedInvoice :=
  (invoices.length + 1, invoices ++
    [{ id := invoices.length + 1
       saasBillingRunId := run.id
       saasBillingFingerprint := buildBillingRunStripeFingerprint run
       fees := run.fees }])

/-- A linked draft with other lines than the run's is deleted; it is not used any more. -/
def replacesInvoice (invoices : List CreatedInvoice) (run : BillingRun) (invoiceId : Nat)
    (answer : Answer) : Bool :=
  answer.retrieved = .draft ∧
    (Keyed.lookup CreatedInvoice.id invoiceId invoices).map CreatedInvoice.saasBillingFingerprint ≠
      some (buildBillingRunStripeFingerprint run)

def findOrCreateBillingRunInvoice (invoices : List CreatedInvoice) (run : BillingRun)
    (answer : Answer) : Nat × List CreatedInvoice :=
  match run.stripeInvoiceId.filter fun id => replacesInvoice invoices run id answer = false with
  | some id => (id, invoices)
  | none =>
      match findStripeInvoiceForBillingRun invoices run answer with
      | some id => (id, invoices)
      | none => createStripeInvoiceForBillingRun invoices run

/-- The part of a call between its claim and its last write. -/
def exchangeWithStripe (tables : Tables) (call : SyncCall) (run : BillingRun) (answer : Answer) :
    SyncStage × Tables :=
  match call with
  | .webhook _ invoice _ => (.persist run invoice, tables)
  | .syncBillingRun _ _ =>
      if run.stripeCustomerId = none ∨ answer.course = .failsEarly then (.recordFailure run, tables)
      else
        let (invoiceId, invoices) := findOrCreateBillingRunInvoice tables.invoices run answer
        (if answer.course = .completes then .persist run (answer.invoice invoiceId)
          else .recordFailure run, { tables with invoices := invoices })
  | .settleBillingRun _ =>
      match run.stripeInvoiceId with
      | none => (.recordFailure run, tables)
      | some id =>
          (if answer.course = .completes then .persist run (answer.invoice id)
            else .recordFailure run, tables)
  -- A refresh that fails leaves its claim behind.
  | .refreshBillingRun _ =>
      if answer.course ≠ .completes then (.finished, tables)
      else
        match run.stripeInvoiceId.or (findStripeInvoiceForBillingRun tables.invoices run answer) with
        | none => (.recordSuccess run, tables)
        | some id => (.persist run (answer.invoice id), tables)

/-- The runs that a statement leaves; a call whose statement throws is over. -/
def writtenRuns (runs : List BillingRun)
    (result : Except ApiError (BillingRun × List BillingRun)) : List BillingRun :=
  match result with
  | .ok (_, written) => written
  | .error _ => runs

def runSync (lockTimeoutMs : Int) (tables : Tables) (call : SyncCall) (answer : Answer) :
    SyncStage → Option (SyncStage × Tables)
  | .load =>
      match loadSyncedRun tables.runs call with
      | none => some (.finished, tables)
      | some run => some (.claim run, tables)
  | .claim run =>
      match markBillingRunSyncProcessing lockTimeoutMs answer.now tables.runs run with
      | .error _ => some (.finished, tables)
      | .ok (processingRun, runs) => some (.exchange processingRun, { tables with runs := runs })
  | .exchange run => some (exchangeWithStripe tables call run answer)
  | .persist run invoice =>
      some (.finished, { tables with
        runs := writtenRuns tables.runs
          (syncBillingRunFromInvoice answer.now tables.runs run invoice call.eventType) })
  | .recordFailure run =>
      some (.finished, { tables with
        runs := writtenRuns tables.runs
          (recordBillingRunSyncFailure answer.now tables.runs run) })
  | .recordSuccess run =>
      some (.finished, { tables with
        runs := writtenRuns tables.runs
          (recordBillingRunSyncSuccess answer.now tables.runs run) })
  | .finished => none

/-! ## The service -/

inductive Call where
  | create (request : BillingRunRequest)
  | topUp (call : TopUpCall) (stripeEnabled : Bool)
  | sync (call : SyncCall)
  deriving DecidableEq

inductive Session where
  | create (request : BillingRunRequest) (stage : CreateStage)
  | topUp (stripeEnabled : Bool) (stage : TopUpStage)
  | sync (call : SyncCall) (stage : SyncStage)
  deriving DecidableEq

def Call.session : Call → Session
  | .create request => .create request .loadRun
  | .topUp (.createBillingTopUp tenantId amount stripeCustomerId) stripeEnabled =>
      .topUp stripeEnabled (.insert tenantId amount stripeCustomerId)
  | .topUp (.syncBillingTopUp topUpId) stripeEnabled => .topUp stripeEnabled (.load topUpId)
  | .sync call => .sync call .load

structure Service where
  tables : Tables
  sessions : Nat → Option Session

inductive Label where
  | begin (id : Nat) (call : Call)
  | step (id : Nat) (answer : Answer)
  deriving DecidableEq

def Session.step (lockTimeoutMs : Int) (tables : Tables) (answer : Answer) :
    Session → Option (Session × Tables)
  | .create request stage =>
      (createBillingRun tables request stage).map fun next => (.create request next.1, next.2)
  | .topUp stripeEnabled stage =>
      (runTopUp tables stripeEnabled answer stage).map fun next =>
        (.topUp stripeEnabled next.1, next.2)
  | .sync call stage =>
      (runSync lockTimeoutMs tables call answer stage).map fun next => (.sync call next.1, next.2)

def machine (lockTimeoutMs : Int) (service : Service) : Label → Except Unit Service
  | .begin id call =>
      match service.sessions id with
      | some _ => .error ()
      | none =>
          .ok { service with sessions := Function.update service.sessions id (some call.session) }
  | .step id answer =>
      match (service.sessions id).bind (Session.step lockTimeoutMs service.tables answer) with
      | none => .error ()
      | some (session, tables) =>
          .ok { tables := tables, sessions := Function.update service.sessions id (some session) }

def Steps (lockTimeoutMs : Int) : Service → Label → Service → Prop :=
  Accepts (machine lockTimeoutMs)

section Steps

variable {lockTimeoutMs : Int} {service service' : Service}

theorem begin_cases {id : Nat} {call : Call}
    (hstep : Steps lockTimeoutMs service (.begin id call) service') :
    service.sessions id = none ∧ service' = { service with
      sessions := Function.update service.sessions id (some call.session) } := by
  unfold Steps Accepts machine at hstep
  simp only at hstep
  split at hstep
  · cases hstep
  · exact ⟨‹_›, (Except.ok.inj hstep).symm⟩

theorem step_cases {id : Nat} {answer : Answer}
    (hstep : Steps lockTimeoutMs service (.step id answer) service') :
    ∃ session session' tables, service.sessions id = some session ∧
      session.step lockTimeoutMs service.tables answer = some (session', tables) ∧
      service' =
        { tables := tables, sessions := Function.update service.sessions id (some session') } := by
  unfold Steps Accepts machine at hstep
  simp only at hstep
  cases hsession : service.sessions id with
  | none =>
      simp only [hsession, Option.bind_none] at hstep
      cases hstep
  | some session =>
      simp only [hsession, Option.bind_some] at hstep
      split at hstep
      · cases hstep
      · rename_i session' tables hnext
        exact ⟨session, session', tables, rfl, hnext, (Except.ok.inj hstep).symm⟩

end Steps

end RewardSystem.Billing
