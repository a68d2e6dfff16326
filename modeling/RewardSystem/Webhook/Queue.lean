import Mathlib.Data.List.Sort
import RewardSystem.Lib.Keyed
import RewardSystem.Webhook.Payload

/-!
# The payment webhook queue

A delivery is written by one statement if its key is new and by three otherwise, and the workers claim,
consume and finalize events between any two of them. Times are in milliseconds.
-/

namespace RewardSystem.Webhook

inductive SignatureStatus where
  | verified
  | failed
  | skipped
  deriving DecidableEq, Repr

inductive ProcessingStatus where
  | pending
  | processing
  | processed
  | ignored
  | failed
  deriving DecidableEq, Repr

inductive FinalStatus where
  | processed
  | ignored
  | failed
  deriving DecidableEq, Repr

def FinalStatus.status : FinalStatus → ProcessingStatus
  | .processed => .processed
  | .ignored => .ignored
  | .failed => .failed

/-- What the queue takes from outside; `parseJson` is `null` where `JSON.parse` throws. -/
structure WebhookRuntime where
  sha256 : String → String
  parseJson : String → JsonValue
  lockTimeoutMs : Int

structure WebhookDelivery where
  provider : String
  eventId : Option String
  signatureStatus : SignatureStatus
  payloadRaw : String
  payloadJson : JsonValue

/-- A row of `payment_webhook_events`. -/
structure WebhookEvent where
  id : Nat
  provider : String
  dedupeKey : String
  eventId : String
  signatureStatus : SignatureStatus
  payloadRaw : String
  payloadJson : JsonValue
  lastReceivedAt : Int
  receiveCount : Nat
  processingStatus : ProcessingStatus
  processingAttempts : Nat
  processingLockedAt : Option Int

/-- The columns of the unique index. -/
def WebhookEvent.key (event : WebhookEvent) : String × String :=
  (event.provider, event.dedupeKey)

/-- The order operations behind an action; what the last one answers counts. -/
inductive OrderOperation where
  | markDepositProviderPending
  | markDepositProviderSucceeded
  | markDepositProviderFailed
  | markWithdrawalProviderSubmitted
  | markWithdrawalProviderProcessing
  | payWithdrawal
  | markWithdrawalProviderFailed
  deriving DecidableEq, Repr

def WebhookAction.operations : WebhookAction → List OrderOperation
  | .depositMarkProviderPending => [.markDepositProviderPending]
  | .depositMarkProviderSucceeded => [.markDepositProviderPending, .markDepositProviderSucceeded]
  | .depositMarkProviderFailed => [.markDepositProviderFailed]
  | .withdrawalMarkProviderSubmitted => [.markWithdrawalProviderSubmitted]
  | .withdrawalMarkProviderProcessing => [.markWithdrawalProviderProcessing]
  | .withdrawalPay => [.payWithdrawal]
  | .withdrawalMarkProviderFailed => [.markWithdrawalProviderFailed]

def WebhookAction.settlementReferenceRequired : WebhookAction → Bool
  | .depositMarkProviderSucceeded | .withdrawalMarkProviderSubmitted
  | .withdrawalMarkProviderProcessing | .withdrawalPay => true
  | .depositMarkProviderPending | .depositMarkProviderFailed
  | .withdrawalMarkProviderFailed => false

inductive OrderAnswer where
  | updated
  | notFound
  | thrown
  deriving DecidableEq, Repr

structure OrderCall where
  event : WebhookEvent
  payloadJson : JsonValue
  orderId : Nat
  operations : List OrderOperation
  operatorNote : String
  settlementReference : Option String
  processingChannel : String
  sourceEventKey : String
  answer : OrderAnswer

/-- A delivery whose insertion met a row with its key, and the row once it has been selected. -/
structure DuplicateDelivery where
  delivery : WebhookDelivery
  existing : Option WebhookEvent

/-- An event in the hands of a worker, as it was claimed, and the status it is to be finalized with. -/
structure ClaimedEvent where
  worker : Nat
  event : WebhookEvent
  outcome : Option FinalStatus

/-- `received` and `calls` record the deliveries and the order calls so far. -/
structure QueueState where
  events : List WebhookEvent
  duplicates : Nat → Option DuplicateDelivery
  claimed : List ClaimedEvent
  received : List WebhookDelivery
  calls : List OrderCall

def QueueState.empty : QueueState :=
  { events := [], duplicates := fun _ => none, claimed := [], received := [], calls := [] }

section Deliveries

variable (runtime : WebhookRuntime)

def WebhookDelivery.identity (delivery : WebhookDelivery) : PaymentWebhookIdentity :=
  derivePaymentWebhookIdentity runtime.sha256 (trim delivery.provider) delivery.payloadJson
    delivery.payloadRaw delivery.eventId

def WebhookDelivery.key (delivery : WebhookDelivery) : String × String :=
  (trim delivery.provider, (delivery.identity runtime).dedupeKey)

def insertRow (delivery : WebhookDelivery) (id : Nat) (now : Int) : WebhookEvent where
  id := id
  provider := trim delivery.provider
  dedupeKey := (delivery.identity runtime).dedupeKey
  eventId := (delivery.identity runtime).eventId
  signatureStatus := delivery.signatureStatus
  payloadRaw := delivery.payloadRaw
  payloadJson := delivery.payloadJson
  lastReceivedAt := now
  receiveCount := 1
  processingStatus := .pending
  processingAttempts := 0
  processingLockedAt := none

def shouldRequeue (existing : WebhookEvent) (delivery : WebhookDelivery) : Bool :=
  existing.processingStatus = .failed ∨
    (existing.signatureStatus ≠ .verified ∧ delivery.signatureStatus = .verified)

/-- The update of a duplicate delivery; `existing` is the row as it was selected. -/
def updateRow (delivery : WebhookDelivery) (existing : WebhookEvent) (now : Int)
    (row : WebhookEvent) : WebhookEvent :=
  { row with
    dedupeKey := (delivery.identity runtime).dedupeKey
    eventId := (delivery.identity runtime).eventId
    signatureStatus := delivery.signatureStatus
    payloadRaw := delivery.payloadRaw
    payloadJson := delivery.payloadJson
    lastReceivedAt := now
    receiveCount := row.receiveCount + 1
    processingStatus :=
      if shouldRequeue existing delivery then .pending else existing.processingStatus
    processingLockedAt :=
      if shouldRequeue existing delivery then none else existing.processingLockedAt }

/-- `insert … on conflict do nothing` -/
def insertDelivery (state : QueueState) (request : Nat) (delivery : WebhookDelivery) (now : Int) :
    QueueState :=
  match Keyed.lookup WebhookEvent.key (delivery.key runtime) state.events with
  | none =>
      { state with
        events := state.events ++ [insertRow runtime delivery (state.events.length + 1) now]
        received := state.received ++ [delivery] }
  | some _ =>
      { state with
        duplicates := Function.update state.duplicates request (some ⟨delivery, none⟩)
        received := state.received ++ [delivery] }

def selectExistingEvent (state : QueueState) (request : Nat) : QueueState :=
  match state.duplicates request with
  | some ⟨delivery, none⟩ =>
      -- without a row the request fails
      { state with
        duplicates := Function.update state.duplicates request
          ((Keyed.lookup WebhookEvent.key (delivery.key runtime) state.events).map fun existing =>
            ⟨delivery, some existing⟩) }
  | _ => state

def updateExistingEvent (state : QueueState) (request : Nat) (now : Int) : QueueState :=
  match state.duplicates request with
  | some ⟨delivery, some existing⟩ =>
      { state with
        events := Keyed.modify WebhookEvent.id existing.id
          (updateRow runtime delivery existing now) state.events
        duplicates := Function.update state.duplicates request none }
  | _ => state

end Deliveries

section Workers

/-- The oldest pending events, without those that another statement has locked. -/
def dueEvents (events : List WebhookEvent) (limit : Nat) (locked : List Nat) : List WebhookEvent :=
  ((events.filter fun row => row.processingStatus = .pending ∧ row.id ∉ locked).insertionSort
    fun row row' => row.lastReceivedAt < row'.lastReceivedAt ∨
      (row.lastReceivedAt = row'.lastReceivedAt ∧ row.id ≤ row'.id)).take limit

def claimRow (now : Int) (row : WebhookEvent) : WebhookEvent :=
  { row with
    processingStatus := .processing
    processingAttempts := row.processingAttempts + 1
    processingLockedAt := some now }

def claimEvent (worker : Nat) (now : Int) (row : WebhookEvent) : ClaimedEvent where
  worker := worker
  event := claimRow now row
  outcome := none

def claimPendingPaymentWebhookEvents (state : QueueState) (worker limit : Nat) (locked : List Nat)
    (now : Int) : QueueState :=
  if state.claimed.any fun entry => entry.worker = worker then state
  else
    let due := dueEvents state.events limit locked
    { state with
      events := state.events.map fun row =>
        if row.id ∈ due.map WebhookEvent.id then claimRow now row else row
      claimed := state.claimed ++ due.map (claimEvent worker now) }

def parsedPayload (runtime : WebhookRuntime) (payloadJson : JsonValue) (payloadRaw : String) :
    JsonValue :=
  match payloadJson with
  | .string text =>
      match runtime.parseJson text with
      | .null => runtime.parseJson payloadRaw
      | value => value
  | .null => runtime.parseJson payloadRaw
  | value => value

def orderCall (event : WebhookEvent) (payloadJson : JsonValue) (orderId : Nat)
    (action : WebhookAction) (settlementReference : Option String) (processingChannel : String)
    (answer : OrderAnswer) : OrderCall where
  event := event
  payloadJson := payloadJson
  orderId := orderId
  operations := action.operations
  operatorNote := s!"payment_webhook:{event.provider}:{event.dedupeKey}"
  settlementReference :=
    settlementReference <|> (if action.settlementReferenceRequired then some event.eventId else none)
  processingChannel := processingChannel
  sourceEventKey := s!"{event.provider}:{event.dedupeKey}"
  answer := answer

def OrderAnswer.status : OrderAnswer → FinalStatus
  | .updated => .processed
  | .notFound => .ignored
  | .thrown => .failed

/-- The status that the event is finalized with, and the call of the order operations if it comes to
one. -/
def consumePaymentWebhookEvent (runtime : WebhookRuntime) (event : WebhookEvent)
    (answer : OrderAnswer) : FinalStatus × Option OrderCall :=
  if event.signatureStatus ≠ .verified then (.ignored, none)
  else
    match parsedPayload runtime event.payloadJson event.payloadRaw with
    | .null => (.failed, none)
    | payloadJson =>
        match derivePaymentWebhookTransition payloadJson event.provider with
        | .ignore _ => (.ignored, none)
        | .process orderId action settlementReference processingChannel =>
            (answer.status,
              some (orderCall event payloadJson orderId action settlementReference
                processingChannel answer))

/-- The event that a worker is at, with those before and after it. -/
def currentOf (claimed : List ClaimedEvent) (worker : Nat) :
    Option (List ClaimedEvent × ClaimedEvent × List ClaimedEvent) :=
  match claimed.span fun entry => entry.worker ≠ worker with
  | (_, []) => none
  | (before, entry :: after) => some (before, entry, after)

def consumeNext (runtime : WebhookRuntime) (state : QueueState) (worker : Nat)
    (answer : OrderAnswer) : QueueState :=
  match currentOf state.claimed worker with
  | some (before, ⟨worker, event, none⟩, after) =>
      let (status, call) := consumePaymentWebhookEvent runtime event answer
      { state with
        claimed := before ++ ⟨worker, event, some status⟩ :: after
        calls := state.calls ++ call.toList }
  | _ => state

def finalizeRow (status : FinalStatus) (row : WebhookEvent) : WebhookEvent :=
  { row with processingStatus := status.status, processingLockedAt := none }

def finalizePaymentWebhookEvent (state : QueueState) (worker : Nat) : QueueState :=
  match currentOf state.claimed worker with
  | some (before, ⟨_, event, some status⟩, after) =>
      { state with
        events := Keyed.modify WebhookEvent.id event.id (finalizeRow status) state.events
        claimed := before ++ after }
  | _ => state

/-- A worker ends without finalizing what it holds. -/
def stopWorker (state : QueueState) (worker : Nat) : QueueState :=
  { state with claimed := state.claimed.filter fun entry => entry.worker ≠ worker }

def isStuck (runtime : WebhookRuntime) (now : Int) (row : WebhookEvent) : Bool :=
  row.processingStatus = .processing ∧
    row.processingLockedAt.any (fun lockedAt => lockedAt ≤ now - runtime.lockTimeoutMs) = true

def recoverRow (row : WebhookEvent) : WebhookEvent :=
  { row with processingStatus := .pending, processingLockedAt := none }

def recoverStuckPaymentWebhookEvents (runtime : WebhookRuntime) (state : QueueState) (now : Int) :
    QueueState :=
  { state with
    events := state.events.map fun row => if isStuck runtime now row then recoverRow row else row }

end Workers

inductive QueueOperation where
  | insert (request : Nat) (delivery : WebhookDelivery) (now : Int)
  | select (request : Nat)
  | update (request : Nat) (now : Int)
  | claim (worker limit : Nat) (locked : List Nat) (now : Int)
  | consume (worker : Nat) (answer : OrderAnswer)
  | finalize (worker : Nat)
  | stop (worker : Nat)
  | recover (now : Int)

def queueStep (runtime : WebhookRuntime) (state : QueueState) : QueueOperation → QueueState
  | .insert request delivery now => insertDelivery runtime state request delivery now
  | .select request => selectExistingEvent runtime state request
  | .update request now => updateExistingEvent runtime state request now
  | .claim worker limit locked now =>
      claimPendingPaymentWebhookEvents state worker limit locked now
  | .consume worker answer => consumeNext runtime state worker answer
  | .finalize worker => finalizePaymentWebhookEvent state worker
  | .stop worker => stopWorker state worker
  | .recover now => recoverStuckPaymentWebhookEvents runtime state now

end RewardSystem.Webhook
