import RewardSystem.TopUp.Service
import RewardSystem.Withdraw.Lifecycle

/-!
# Requests to payment providers

A claimed request is handed to the adapter of its provider. What the adapter answers is booked on
the order in several transactions, each of which commits on its own; an error of any of them is
recorded on the request although the provider has been asked already.
-/

namespace RewardSystem.Payment

open TopUp Withdraw

/-- What `classifyStripeApiFailure` reads of a thrown value. `namesRateLimit` says that its `type`
or its `code` does. -/
structure Thrown where
  statusCode : Option Int
  namesRateLimit : Bool
  message : String
  deriving DecidableEq, Repr

/-- An error of the services, with the status code of its kind. -/
def Thrown.ofError : ApiError → Thrown
  | .badRequest message => ⟨some 400, false, message⟩
  | .forbidden message => ⟨some 403, false, message⟩
  | .notFound message => ⟨some 404, false, message⟩
  | .conflict message => ⟨some 409, false, message⟩
  | .unprocessableEntity message => ⟨some 422, false, message⟩
  | .serviceUnavailable message => ⟨some 503, false, message⟩
  | .internalInvariant message => ⟨some 500, false, message⟩
  | .persistence message => ⟨some 500, false, message⟩

inductive PaymentOrderStatus where
  | pending
  | processing
  | approved
  | success
  | failed
  | rejected
  | paid
  deriving DecidableEq, Repr

/-- `PaymentAdapterCreateOrderResult` -/
structure AdapterResult where
  providerOrderId : Option String
  status : PaymentOrderStatus
  deriving DecidableEq, Repr

structure PaymentAdapter where
  key : String
  supportsAutomation : Bool
  key_normalized : normalizeOptionalString (some key) = some key

structure PreparedPaymentProvider where
  name : String
  adapter : Option PaymentAdapter

inductive PaymentOrder where
  | deposit (id : Nat)
  | withdrawal (id : Nat)
  deriving DecidableEq, Repr

inductive SendStatus where
  | prepared
  | sending
  | sent
  | unknown
  | failed
  deriving DecidableEq, Repr

structure OutboundRequest where
  id : Nat
  order : PaymentOrder
  sendStatus : SendStatus
  nextRetryAt : Option Int
  responseHttpStatus : Option Nat
  providerOrderId : Option String
  lastErrorCode : Option String
  lastError : Option String
  deriving DecidableEq, Repr

/-- The orders of a user, and the references of all settlement events: the column is unique. -/
structure SettlementBooks where
  finance : FinanceStore
  settlementReferences : List String
  deriving DecidableEq, Repr

structure OutboundDesk where
  books : SettlementBooks
  requests : List OutboundRequest
  deriving DecidableEq, Repr

/-! ## What the orders are told -/

/-- Transactions one after the other: those before a failing one stay committed. -/
def commitAll : List (SettlementBooks → Except Thrown SettlementBooks) → SettlementBooks →
    SettlementBooks × Except Thrown Unit
  | [], books => (books, .ok ())
  | transaction :: rest, books =>
      match transaction books with
      | .error thrown => (books, .error thrown)
      | .ok books => commitAll rest books

def duplicateReference : Thrown :=
  ⟨none, false, "duplicate key value violates unique constraint \"" ++
    "payment_settlement_events_reference_unique\""⟩

def providerOrderIdTooLong : Thrown :=
  ⟨none, false, "value too long for type character varying(128)"⟩

/-- A lifecycle operation that writes no settlement reference. -/
def transaction (run : FinanceStore → Except ApiError FinanceStore) (books : SettlementBooks) :
    Except Thrown SettlementBooks :=
  match run books.finance with
  | .ok finance => .ok { books with finance := finance }
  | .error error => .error (.ofError error)

/-- A lifecycle operation that inserts a settlement event if it `settles` the order. The insert
stands behind all of its checks but the assertions of the transition and of the wallet. -/
def settlingTransaction (settles : Bool) (reference : Option String)
    (run : FinanceStore → Except ApiError FinanceStore) (books : SettlementBooks) :
    Except Thrown SettlementBooks :=
  let written := if settles then reference.toList else []
  let duplicate := ∃ reference ∈ written, reference ∈ books.settlementReferences
  match run books.finance with
  | .ok finance =>
      if duplicate then .error duplicateReference
      else
        .ok
          { finance := finance
            settlementReferences := books.settlementReferences ++ written }
  | .error (.internalInvariant message) =>
      .error (if duplicate then duplicateReference else Thrown.ofError (.internalInvariant message))
  | .error error => .error (.ofError error)

/-- The column write of `updateDepositProviderResponse` and `updateWithdrawalProviderResponse`. -/
def updateProviderResponse (result : AdapterResult) (books : SettlementBooks) :
    Except Thrown SettlementBooks :=
  match result.providerOrderId with
  | some providerOrderId =>
      if 128 < providerOrderId.length then .error providerOrderIdTooLong else .ok books
  | none => .ok books

def buildSystemSettlementReference (adapterKey orderType : String) (orderId : Nat)
    (providerOrderId : Option String) : String :=
  providerOrderId.getD
    ("payment-outbound:" ++ adapterKey ++ ":" ++ orderType ++ ":" ++ toString orderId)

def outboundReview (adapterKey : String) (orderId : Nat) (settlementReference : Option String) :
    FinanceReviewPayload :=
  { adminId := none
    operatorNote := some ("payment_outbound:" ++ adapterKey ++ ":" ++ toString orderId)
    settlementReference := settlementReference
    processingChannel := some adapterKey }

def SettlementBooks.depositStatus (books : SettlementBooks) (id : Nat) : Option DepositStatus :=
  (books.finance.lockDepositById id).map DepositRow.status

def SettlementBooks.withdrawalStatus (books : SettlementBooks) (id : Nat) :
    Option WithdrawalStatus :=
  (books.finance.selectLockedWithdrawal id).map WithdrawalRow.status

/-- The event that `markDepositProviderFailed` writes has the reference of its own review, which
is none here. -/
def syncDepositOrderAfterOutboundSend (adapterKey : String) (id : Nat) (result : AdapterResult)
    (books : SettlementBooks) : SettlementBooks × Except Thrown Unit :=
  let review := outboundReview adapterKey id
  match result.status with
  | .success | .paid =>
      let reference := buildSystemSettlementReference adapterKey "deposit" id result.providerOrderId
      commitAll
        [updateProviderResponse result,
          fun books =>
            settlingTransaction
              (books.depositStatus id ∈
                [some .requested, some .providerPending, some .providerFailed])
              (normalizeOptionalString (some reference))
              (markDepositProviderSucceeded id (review (some reference))) books] books
  | .failed | .rejected =>
      commitAll [updateProviderResponse result, transaction (failDeposit id (review none))] books
  | .pending | .processing | .approved =>
      commitAll
        [updateProviderResponse result, transaction (markDepositProviderPending id (review none))]
        books

def syncWithdrawalOrderAfterOutboundSend (strict : Bool) (adapterKey : String) (id : Nat)
    (result : AdapterResult) (books : SettlementBooks) : SettlementBooks × Except Thrown Unit :=
  let reference :=
    buildSystemSettlementReference adapterKey "withdrawal" id result.providerOrderId
  let review := outboundReview adapterKey id (some reference)
  match result.status with
  | .success | .paid =>
      commitAll
        [updateProviderResponse result, transaction (markWithdrawalProviderSubmitted id review),
          transaction (markWithdrawalProviderProcessing id review),
          fun books =>
            settlingTransaction (books.withdrawalStatus id = some .providerProcessing)
              (normalizeOptionalString (some reference)) (payWithdrawal strict id review) books]
        books
  | .processing =>
      commitAll
        [updateProviderResponse result, transaction (markWithdrawalProviderSubmitted id review),
          transaction (markWithdrawalProviderProcessing id review)] books
  | .failed | .rejected =>
      commitAll
        [updateProviderResponse result,
          fun books =>
            settlingTransaction
              (books.withdrawalStatus id ∈ failureSources.map some)
              (normalizeOptionalString (some reference)) (markWithdrawalProviderFailed id review)
              books] books
  | .pending | .approved =>
      commitAll
        [updateProviderResponse result, transaction (markWithdrawalProviderSubmitted id review)]
        books

/-! ## What the request records -/

def updateRequest (id : Nat) (f : OutboundRequest → OutboundRequest) (desk : OutboundDesk) :
    OutboundDesk :=
  { desk with requests := Keyed.modify OutboundRequest.id id f desk.requests }

def markOutboundRequestSent (id : Nat) (providerOrderId : Option String) :
    OutboundDesk → OutboundDesk :=
  updateRequest id fun request =>
    { request with
      sendStatus := .sent
      nextRetryAt := none
      responseHttpStatus := some 200
      providerOrderId := providerOrderId
      lastErrorCode := none
      lastError := none }

/-- `retryAt` is now plus the configured delay. -/
def markOutboundRequestUnknown (retryAt : Int) (id : Nat) (errorCode errorMessage : String) :
    OutboundDesk → OutboundDesk :=
  updateRequest id fun request =>
    { request with
      sendStatus := .unknown
      nextRetryAt := some retryAt
      lastErrorCode := some errorCode
      lastError := some errorMessage }

def markOutboundRequestFailed (retryAt : Int) (id : Nat) (errorCode errorMessage : String)
    (retryable : Bool) : OutboundDesk → OutboundDesk :=
  updateRequest id fun request =>
    { request with
      sendStatus := if retryable then .unknown else .failed
      nextRetryAt := if retryable then some retryAt else none
      lastErrorCode := some errorCode
      lastError := some errorMessage }

/-- The Kelvin sign is the one other character whose lower case is an ASCII letter. -/
def lowerCaseChar (c : Char) : Char :=
  if c.toNat = 0x212A then 'k' else c.toLower

/-- `message.toLowerCase().includes(word)` for some of the words. -/
def includesSome (message : String) (words : List String) : Bool :=
  words.any fun word => decide (word.toList <:+: message.toList.map lowerCaseChar)

inductive StripeApiFailureReason where
  | rateLimit
  | serverError
  | clientError
  | transportError
  | unknown
  deriving DecidableEq, Repr

def isUnknownDeliveryError (thrown : Thrown) : Bool :=
  includesSome thrown.message
    ["timeout", "timed out", "connection reset", "econnreset", "socket hang up"]

def classifyStripeApiFailure (thrown : Thrown) : StripeApiFailureReason :=
  if thrown.statusCode = some 429 ∨ thrown.namesRateLimit = true ∨
      includesSome thrown.message ["rate limit"] = true then .rateLimit
  else if ∃ code ∈ thrown.statusCode, 500 ≤ code then .serverError
  else if ∃ code ∈ thrown.statusCode, 400 ≤ code then .clientError
  else if isUnknownDeliveryError thrown = true ∨
      includesSome thrown.message ["econnrefused", "network"] = true then .transportError
  else .unknown

/-- The `catch` of `processPendingPaymentOutboundRequests`. -/
def recordThrown (retryAt : Int) (id : Nat) (thrown : Thrown) : OutboundDesk → OutboundDesk :=
  match classifyStripeApiFailure thrown with
  | .rateLimit =>
      markOutboundRequestFailed retryAt id "stripe_rate_limit" thrown.message true
  | .serverError =>
      markOutboundRequestFailed retryAt id "stripe_server_error" thrown.message true
  | .clientError =>
      markOutboundRequestFailed retryAt id "stripe_client_error" thrown.message false
  | .transportError | .unknown =>
      if isUnknownDeliveryError thrown then
        markOutboundRequestUnknown retryAt id "delivery_unknown" thrown.message
      else markOutboundRequestFailed retryAt id "send_failed" thrown.message false

def syncOrderAfterOutboundSend (strict : Bool) (adapterKey : String) (order : PaymentOrder)
    (result : AdapterResult) : SettlementBooks → SettlementBooks × Except Thrown Unit :=
  match order with
  | .deposit id => syncDepositOrderAfterOutboundSend adapterKey id result
  | .withdrawal id => syncWithdrawalOrderAfterOutboundSend strict adapterKey id result

/-- `answer` is what the adapter's `createDepositOrder` or `createWithdrawal` comes to; the desk is
the one at that time. -/
def dispatchOutboundRequest (strict : Bool) (retryAt : Int) (provider : PreparedPaymentProvider)
    (answer : Except Thrown AdapterResult) (row : OutboundRequest) (desk : OutboundDesk) :
    OutboundDesk × Except Thrown Unit :=
  match provider.adapter with
  | none =>
      (markOutboundRequestFailed retryAt row.id "adapter_not_configured"
        ("No adapter is configured for provider " ++ provider.name ++ ".") false desk, .ok ())
  | some adapter =>
      if adapter.supportsAutomation = false then
        (markOutboundRequestFailed retryAt row.id "adapter_automation_not_supported"
          ("Adapter " ++ adapter.key ++ " does not support outbound automated execution.") false
          desk, .ok ())
      else
        match answer with
        | .error thrown => (desk, .error thrown)
        | .ok result =>
            match syncOrderAfterOutboundSend strict adapter.key row.order result desk.books with
            | (books, .error thrown) => ({ desk with books := books }, .error thrown)
            | (books, .ok ()) =>
                (markOutboundRequestSent row.id result.providerOrderId
                  { desk with books := books }, .ok ())

def SettlementBooks.holds (books : SettlementBooks) : PaymentOrder → Bool
  | .deposit id => (books.finance.lockDepositById id).isSome
  | .withdrawal id => (books.finance.selectLockedWithdrawal id).isSome

def PaymentOrder.name : PaymentOrder → String
  | .deposit id => "deposit:" ++ toString id
  | .withdrawal id => "withdrawal:" ++ toString id

/-- One turn of the loop of `processPendingPaymentOutboundRequests`. -/
def processOutboundRequest (strict : Bool) (retryAt : Int) (providerId : Nat)
    (provider : Option PreparedPaymentProvider) (answer : Except Thrown AdapterResult)
    (row : OutboundRequest) (desk : OutboundDesk) : OutboundDesk :=
  match provider with
  | none =>
      markOutboundRequestFailed retryAt row.id "provider_not_found"
        ("Active payment provider " ++ toString providerId ++ " was not found.") false desk
  | some provider =>
      if desk.books.holds row.order = false then
        markOutboundRequestFailed retryAt row.id "order_not_found"
          ("Payment order " ++ row.order.name ++ " was not found.") false desk
      else
        match dispatchOutboundRequest strict retryAt provider answer row desk with
        | (desk, .ok ()) => desk
        | (desk, .error thrown) => recordThrown retryAt row.id thrown desk

/-- What `claimDuePaymentOutboundRequests` selects. -/
def OutboundRequest.IsDue (now : Int) (request : OutboundRequest) : Prop :=
  (request.sendStatus = .prepared ∨ request.sendStatus = .unknown) ∧
    ∀ retryAt ∈ request.nextRetryAt, retryAt ≤ now

instance (now : Int) (request : OutboundRequest) : Decidable (request.IsDue now) :=
  inferInstanceAs (Decidable (_ ∧ _))

/-- What `preparePaymentOutboundRequest` does to the request that is there already. -/
def OutboundRequest.prepareAgain (request : OutboundRequest) : OutboundRequest :=
  if request.sendStatus = .failed then
    { request with
      sendStatus := .prepared
      nextRetryAt := none
      lastErrorCode := none
      lastError := none }
  else request

end RewardSystem.Payment
