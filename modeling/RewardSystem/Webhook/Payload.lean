import Mathlib.Data.List.Infix
import Mathlib.Data.Rat.Defs
import RewardSystem.Shared.Text

/-!
# Payment webhook payloads

What a payload says about its event and about the order: the key under which deliveries of one event
are recognised, and the transition that the event asks for.
-/

namespace RewardSystem.Webhook

/-- What `JSON.parse` returns. -/
inductive JsonValue where
  | null
  | boolean (value : Bool)
  | number (value : ℚ)
  | string (value : String)
  | array (values : List JsonValue)
  | object (fields : List (String × JsonValue))

abbrev JsonRecord := List (String × JsonValue)

def toRecord : Option JsonValue → JsonRecord
  | some (.object fields) => fields
  | _ => []

/-- `Reflect.get` -/
def field (source : JsonRecord) (key : String) : Option JsonValue :=
  (source.find? fun entry => entry.1 = key).map Prod.snd

/-- `toLowerCase`, as far as ASCII letters come out of it. -/
def lowered (c : Char) : List Char :=
  if c.toNat = 0x212A then ['k']
  else if c.toNat = 0x130 then ['i', Char.ofNat 0x307]
  else [c.toLower]

def isTokenCharacter (c : Char) : Bool :=
  ('a' ≤ c ∧ c ≤ 'z') ∨ ('0' ≤ c ∧ c ≤ '9')

/-- Every run of other characters becomes one underscore. -/
def replaceOthers : Bool → List Char → List Char
  | _, [] => []
  | inRun, c :: rest =>
      if isTokenCharacter c then c :: replaceOthers false rest
      else if inRun then replaceOthers true rest
      else '_' :: replaceOthers true rest

def normalizeToken (value : String) : String :=
  let replaced := replaceOthers false ((trim value).toList.flatMap lowered)
  let isUnderscore : Char → Bool := fun c => c = '_'
  String.ofList
    (((replaced.dropWhile isUnderscore).reverse.dropWhile isUnderscore).reverse)

example : normalizeToken " Deposit--Succeeded! " = "deposit_succeeded" := by decide +kernel

def readString : Option JsonValue → Option String
  | some (.string value) => if trim value = "" then none else some (trim value)
  | _ => none

def isDigit (c : Char) : Bool :=
  '0' ≤ c ∧ c ≤ '9'

/-- `Number.parseInt` of decimal digits. -/
def parseDigits (digits : List Char) : Nat :=
  digits.foldl (fun value c => 10 * value + (c.toNat - '0'.toNat)) 0

def readPositiveInt : Option JsonValue → Option Nat
  | some (.number value) => if value.den = 1 ∧ 0 < value.num then some value.num.toNat else none
  | some (.string value) =>
      let digits := (trim value).toList
      if digits ≠ [] ∧ digits.all isDigit = true ∧ 0 < parseDigits digits then
        some (parseDigits digits)
      else none
  | _ => none

def readFirst {α : Type} (read : Option JsonValue → Option α) (sources : List JsonRecord)
    (keys : List String) : Option α :=
  sources.findSome? fun source => keys.findSome? fun key => read (field source key)

def readFirstString (sources : List JsonRecord) (keys : List String) : Option String :=
  readFirst readString sources keys

def readFirstPositiveInt (sources : List JsonRecord) (keys : List String) : Option Nat :=
  readFirst readPositiveInt sources keys

structure PayloadSources where
  root : JsonRecord
  data : JsonRecord
  rootObject : JsonRecord
  dataObject : JsonRecord
  sources : List JsonRecord

def buildPayloadSources (payloadJson : JsonValue) : PayloadSources :=
  let root := toRecord (some payloadJson)
  let data := toRecord (field root "data")
  let rootObject := toRecord (field root "object")
  let dataObject := toRecord (field data "object")
  let metadata (source : JsonRecord) := toRecord (field source "metadata")
  { root := root
    data := data
    rootObject := rootObject
    dataObject := dataObject
    sources :=
      [metadata dataObject, dataObject, metadata data, data, metadata rootObject, rootObject,
        metadata root, root] }

def readPaymentWebhookEventId (payloadJson : JsonValue) : Option String :=
  let payload := buildPayloadSources payloadJson
  readFirstString [payload.root, payload.data, payload.dataObject] ["eventId", "id"]
    <|> readFirstString payload.sources ["providerEventId"]

structure PaymentWebhookIdentity where
  eventId : String
  dedupeKey : String
  deriving DecidableEq

def derivePaymentWebhookIdentity (sha256 : String → String) (provider : String)
    (payloadJson : JsonValue) (payloadRaw : String) (inputEventId : Option String) :
    PaymentWebhookIdentity :=
  let sources := (buildPayloadSources payloadJson).sources
  let providerEventId :=
    readString (inputEventId.map .string) <|> readPaymentWebhookEventId payloadJson
  let eventType := readFirstString sources ["eventType", "type"]
  let providerTradeId := readFirstString sources
    ["providerTradeId", "tradeId", "tradeNo", "transactionId", "settlementReference"]
  let payloadHash := sha256 (provider ++ "\n" ++ payloadRaw)
  { eventId := providerEventId.getD ("payload-sha256:" ++ payloadHash)
    dedupeKey :=
      match providerEventId, providerTradeId, eventType with
      | some providerEventId, _, _ => "event:" ++ providerEventId
      | none, some providerTradeId, some eventType =>
          "trade:" ++ providerTradeId ++ ":" ++ normalizeToken eventType
      | none, some providerTradeId, none => "trade:" ++ providerTradeId
      | none, none, _ => "payload:" ++ payloadHash }

/-! ## The transition -/

inductive WebhookOrderType where
  | deposit
  | withdrawal
  deriving DecidableEq, Repr

def depositFlowAliases : List String :=
  ["deposit", "deposits", "topup", "top_up", "top-up", "cash_in", "fiat_in"]

def withdrawalFlowAliases : List String :=
  ["withdraw", "withdrawal", "withdrawals", "payout", "cash_out", "fiat_out"]

def includesText (text part : String) : Bool :=
  decide (part.toList <:+: text.toList)

def inferOrderTypeFromEventType (eventType : Option String) : Option WebhookOrderType :=
  let normalized := normalizeToken (eventType.getD "")
  if includesText normalized "deposit" then some .deposit
  else if includesText normalized "withdraw" then some .withdrawal
  else if includesText normalized "payout" then some .withdrawal
  else none

def normalizeOrderType (value eventType : Option String) : Option WebhookOrderType :=
  let normalized := normalizeToken (value.getD "")
  if normalized ∈ depositFlowAliases then some .deposit
  else if normalized ∈ withdrawalFlowAliases then some .withdrawal
  else inferOrderTypeFromEventType eventType

def inferProviderStatusFromEventType (eventType : Option String) : Option String :=
  eventType.bind fun eventType =>
    (((normalizeToken eventType).toList.splitOn '_').filter (· ≠ [])).getLast?.map String.ofList

inductive WebhookAction where
  | depositMarkProviderPending
  | depositMarkProviderSucceeded
  | depositMarkProviderFailed
  | withdrawalMarkProviderSubmitted
  | withdrawalMarkProviderProcessing
  | withdrawalPay
  | withdrawalMarkProviderFailed
  deriving DecidableEq, Repr

/-- The first list with the status decides. -/
def depositActions : List (List String × WebhookAction) :=
  [(["pending", "processing", "authorized", "submitted"], .depositMarkProviderPending),
    (["success", "succeeded", "paid", "completed", "settled", "credited"],
      .depositMarkProviderSucceeded),
    (["failed", "fail", "rejected", "declined", "cancelled", "canceled", "expired", "reversed"],
      .depositMarkProviderFailed)]

def withdrawalActions : List (List String × WebhookAction) :=
  [(["approved", "authorized", "accepted"], .withdrawalMarkProviderSubmitted),
    (["processing", "submitted", "in_progress"], .withdrawalMarkProviderProcessing),
    (["paid", "success", "succeeded", "completed", "settled"], .withdrawalPay),
    (["failed", "fail", "rejected", "declined", "cancelled", "canceled", "reversed"],
      .withdrawalMarkProviderFailed)]

def WebhookOrderType.actions : WebhookOrderType → List (List String × WebhookAction)
  | .deposit => depositActions
  | .withdrawal => withdrawalActions

inductive WebhookTransition where
  | process (orderId : Nat) (action : WebhookAction) (settlementReference : Option String)
      (processingChannel : String)
  | ignore (reason : String)
  deriving DecidableEq, Repr

def derivePaymentWebhookTransition (payloadJson : JsonValue) (provider : String) :
    WebhookTransition :=
  let sources := (buildPayloadSources payloadJson).sources
  let eventType := readFirstString sources ["eventType", "type"]
  let orderType :=
    normalizeOrderType (readFirstString sources ["referenceType", "orderType", "flow", "kind"])
      eventType
  let providerStatus := normalizeToken
    ((readFirstString sources
          ["targetStatus", "paymentStatus", "payment_status", "status", "orderStatus"]
        <|> inferProviderStatusFromEventType eventType).getD "")
  let orderId := readFirstPositiveInt sources ["referenceId", "orderId", "paymentId"]
  let settlementReference := readFirstString sources
    ["settlementReference", "providerReference", "transactionId", "tradeNo"]
  let processingChannel :=
    (readFirstString sources ["processingChannel", "channel"]).getD provider
  match orderType, orderId with
  | some orderType, some orderId =>
      if providerStatus = "" then .ignore "missing_provider_status"
      else
        match orderType.actions.find? fun entry => providerStatus ∈ entry.1 with
        | some (_, action) => .process orderId action settlementReference processingChannel
        | none => .ignore "status_not_actionable"
  | _, _ => .ignore "missing_order_reference"

def depositSucceededPayload : JsonValue :=
  .object
    [("id", .string "evt_dep_1"), ("type", .string "deposit.succeeded"),
      ("data", .object
        [("referenceType", .string "deposit"), ("referenceId", .number 18),
          ("status", .string "succeeded"), ("settlementReference", .string "gw-dep-1")])]

example :
    derivePaymentWebhookTransition depositSucceededPayload "stripe" =
      .process 18 .depositMarkProviderSucceeded (some "gw-dep-1") "stripe" := by
  decide +kernel

end RewardSystem.Webhook
