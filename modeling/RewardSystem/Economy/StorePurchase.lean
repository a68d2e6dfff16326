import RewardSystem.Economy.Service
import RewardSystem.Lib.Keyed

/-!
# Store purchases

Orders for vouchers and gift packs that are paid in an app store. A purchase is verified by the user,
reported by the store, replayed or reversed by an administrator. What the stores and the other
services answer is an input.
-/

namespace RewardSystem.Economy

inductive StoreChannel where
  | ios
  | android
  deriving DecidableEq, Repr

inductive IapDeliveryType where
  | voucher
  | giftPack
  deriving DecidableEq, Repr

inductive StorePurchaseStatus where
  | created
  | verified
  | fulfilled
  | reversed
  | refunded
  | revoked
  deriving DecidableEq, Repr

/-- `storeState` of a verified receipt. -/
inductive StoreState where
  | purchased
  | pending
  | cancelled
  | refunded
  | revoked
  deriving DecidableEq, Repr

inductive ReversalStatus where
  | refunded
  | revoked
  deriving DecidableEq, Repr

inductive RecoveryAction where
  | none
  | debited
  | freeze
  deriving DecidableEq, Repr

def ReversalStatus.status : ReversalStatus → StorePurchaseStatus
  | .refunded => .refunded
  | .revoked => .revoked

def ReversalStatus.name : ReversalStatus → String
  | .refunded => "refunded"
  | .revoked => "revoked"

/-- A row of `iap_products`; amounts are counted in cents. -/
structure IapProduct where
  id : Nat
  sku : String
  storeChannel : StoreChannel
  deliveryType : IapDeliveryType
  assetCode : Option AssetCode
  assetAmount : Option Int
  isActive : Bool
  deriving DecidableEq, Repr

/-- A row of `gift_pack_catalog`. -/
structure GiftPack where
  iapProductId : Nat
  rewardAssetCode : AssetCode
  rewardAmount : Int
  isActive : Bool
  deriving DecidableEq, Repr

/-- What `buildRequestFingerprint` hashes. -/
structure RequestFingerprint where
  userId : Nat
  recipientUserId : Option Nat
  sku : String
  storeChannel : StoreChannel
  externalTransactionId : Option String
  purchaseToken : Option String
  externalOrderId : Option String
  deriving DecidableEq, Repr

structure OrderMetadata where
  requestFingerprint : RequestFingerprint
  verificationMode : Option String
  manualApprovalRequired : Bool
  /-- `reversal.recovery.action` -/
  recovery : Option RecoveryAction
  deriving DecidableEq, Repr

structure StorePurchaseOrder where
  id : Nat
  userId : Nat
  recipientUserId : Option Nat
  iapProductId : Nat
  storeChannel : StoreChannel
  status : StorePurchaseStatus
  idempotencyKey : String
  externalOrderId : Option String
  metadata : OrderMetadata
  deriving DecidableEq, Repr

structure VerificationMetadata where
  verificationMode : Option String
  manualApprovalRequired : Option Bool
  deriving DecidableEq, Repr

/-- The service inserts one receipt for an order, together with the order. -/
structure StorePurchaseReceipt where
  orderId : Nat
  storeChannel : StoreChannel
  externalTransactionId : Option String
  purchaseToken : Option String
  metadata : VerificationMetadata
  deriving DecidableEq, Repr

structure VerifiedReceiptSnapshot where
  externalOrderId : Option String
  externalTransactionId : Option String
  purchaseToken : Option String
  metadata : VerificationMetadata
  needsAcknowledgement : Bool
  storeState : StoreState
  deriving DecidableEq, Repr

/-- The answers of the risk service and of Google Play. -/
structure StoreAnswers where
  giftPackRecipientEligible : Except ApiError Unit
  acknowledgement : Except ApiError Unit

/-- Products and gift packs, which stay as they are. -/
structure StoreCatalog where
  products : List IapProduct
  productIds : Keyed.HasKeys IapProduct.id products
  giftPacks : List GiftPack
  isGooglePlayVerificationConfigured : Bool

structure StoreTables where
  economy : EconomyStore
  orders : List StorePurchaseOrder
  receipts : List StorePurchaseReceipt

/-! ## Lookups -/

def finalStatuses : List StorePurchaseStatus := [.refunded, .revoked, .reversed]

def localStubVerificationMode : String := "local_stub"

def isManualApprovalRequiredMetadata (manualApprovalRequired : Bool)
    (verificationMode : Option String) : Bool :=
  manualApprovalRequired ||
    decide (normalizeOptionalString verificationMode = some localStubVerificationMode)

def OrderMetadata.isManualApprovalRequired (metadata : OrderMetadata) : Bool :=
  isManualApprovalRequiredMetadata metadata.manualApprovalRequired metadata.verificationMode

def VerificationMetadata.isManualApprovalRequired (metadata : VerificationMetadata) : Bool :=
  isManualApprovalRequiredMetadata (metadata.manualApprovalRequired = some true)
    metadata.verificationMode

/-- `mergeRecords` -/
def VerificationMetadata.merge (base extra : VerificationMetadata) : VerificationMetadata where
  verificationMode := extra.verificationMode.or base.verificationMode
  manualApprovalRequired := extra.manualApprovalRequired.or base.manualApprovalRequired

namespace StoreCatalog

variable (catalog : StoreCatalog)

def findProduct (id : Nat) : Option IapProduct :=
  Keyed.lookup IapProduct.id id catalog.products

def findSku (storeChannel : StoreChannel) (sku : String) : Option IapProduct :=
  catalog.products.find? fun product => product.storeChannel = storeChannel ∧ product.sku = sku

def getActiveGiftPackForProduct (iapProductId : Nat) : Option GiftPack :=
  catalog.giftPacks.find? fun giftPack =>
    giftPack.iapProductId = iapProductId ∧ giftPack.isActive = true

end StoreCatalog

/-- A column that a set, non-empty value is looked up in. -/
def matchesReference (column value : Option String) : Bool :=
  decide (value ≠ none ∧ value ≠ some "" ∧ column = value)

namespace StoreTables

variable (tables : StoreTables)

def selectOrder (id : Nat) : Option StorePurchaseOrder :=
  Keyed.lookup StorePurchaseOrder.id id tables.orders

def getLatestReceiptForOrder (orderId : Nat) : Option StorePurchaseReceipt :=
  Keyed.lookup StorePurchaseReceipt.orderId orderId tables.receipts

def findExistingReceipt (storeChannel : StoreChannel)
    (externalTransactionId purchaseToken : Option String) : Option StorePurchaseReceipt :=
  tables.receipts.find? fun receipt =>
    decide (receipt.storeChannel = storeChannel) &&
      (matchesReference receipt.externalTransactionId externalTransactionId ||
        matchesReference receipt.purchaseToken purchaseToken)

def findOrderByStoreReference (storeChannel : StoreChannel) (verified : VerifiedReceiptSnapshot) :
    Option StorePurchaseOrder :=
  match tables.findExistingReceipt storeChannel verified.externalTransactionId
      verified.purchaseToken with
  | some receipt => tables.selectOrder receipt.orderId
  | none =>
      tables.orders.find? fun order =>
        decide (order.storeChannel = storeChannel) &&
          matchesReference order.externalOrderId verified.externalOrderId

def updateLatestReceiptForOrder (orderId : Nat) (metadata : VerificationMetadata) :
    Except ApiError StoreTables :=
  match tables.getLatestReceiptForOrder orderId with
  | none => .error (.persistence "Store purchase receipt not found.")
  | some _ =>
      .ok
        { tables with
          receipts := Keyed.modify StorePurchaseReceipt.orderId orderId
            (fun receipt => { receipt with metadata := receipt.metadata.merge metadata })
            tables.receipts }

def updateStorePurchaseOrder (updated : StorePurchaseOrder) :
    Except ApiError (StoreTables × StorePurchaseOrder) :=
  match tables.selectOrder updated.id with
  | none => .error (.persistence "Store purchase order update failed.")
  | some _ =>
      .ok
        ({ tables with
            orders := Keyed.modify StorePurchaseOrder.id updated.id (fun _ => updated)
              tables.orders }, updated)

/-- What `loadPurchaseSnapshot` throws on. -/
def loadPurchaseSnapshot (catalog : StoreCatalog) (order : StorePurchaseOrder) :
    Except ApiError Unit :=
  ApiError.throwIf ((catalog.findProduct order.iapProductId).isNone = true ∨
      (tables.getLatestReceiptForOrder order.id).isNone = true)
    (.persistence "Store purchase snapshot is incomplete.")

end StoreTables

/-! ## Moving the asset -/

/-- What an order delivers, and to whom. -/
structure Delivery where
  userId : Nat
  assetCode : AssetCode
  amount : Int
  deriving DecidableEq, Repr

def voucherDelivery (order : StorePurchaseOrder) (product : IapProduct) : Option Delivery :=
  match product.assetCode, product.assetAmount with
  | some .iapVoucher, some amount => some ⟨order.userId, .iapVoucher, amount⟩
  | _, _ => none

def GiftPack.delivery (giftPack : GiftPack) (recipientUserId : Nat) : Delivery where
  userId := recipientUserId
  assetCode := giftPack.rewardAssetCode
  amount := giftPack.rewardAmount

/-- `store_purchase_order:{id}:{action}` -/
def orderKey (orderId : Nat) (action : String) : String :=
  "store_purchase_order:" ++ toString orderId ++ ":" ++ action

def Delivery.mutation (delivery : Delivery) (entryType key : String) : AssetMutationPayload where
  userId := delivery.userId
  assetCode := delivery.assetCode
  amount := .finite ((delivery.amount : ℚ) / 100)
  entryType := entryType
  idempotencyKey := some key

def StoreTables.credit (tables : StoreTables) (delivery : Delivery) (entryType key : String) :
    Except ApiError StoreTables := do
  let (economy, _) ← creditAsset tables.economy (delivery.mutation entryType key)
  .ok { tables with economy := economy }

/-- The delivered amount is debited, or its owner is locked out of gameplay. -/
def StoreTables.takeBack (tables : StoreTables) (delivery : Delivery) (entryType key : String) :
    Except ApiError (StoreTables × RecoveryAction) :=
  match debitAsset tables.economy (delivery.mutation entryType key) with
  | .ok (economy, _) => .ok ({ tables with economy := economy }, .debited)
  | .error error =>
      if error = .conflict "Insufficient asset balance." then .ok (tables, .freeze)
      else .error error

section Operations

variable (catalog : StoreCatalog) (answers : StoreAnswers)

def acknowledgePurchase (product : IapProduct) (verified : VerifiedReceiptSnapshot) :
    Except ApiError Unit :=
  if product.storeChannel = .android ∧ verified.purchaseToken ≠ none ∧
      verified.purchaseToken ≠ some "" ∧ verified.needsAcknowledgement = true ∧
      catalog.isGooglePlayVerificationConfigured = true then
    answers.acknowledgement
  else .ok ()

def verifiedOrder (order : StorePurchaseOrder) (verified : VerifiedReceiptSnapshot) :
    StorePurchaseOrder :=
  { order with
    externalOrderId := verified.externalOrderId.or order.externalOrderId
    status := .verified
    metadata :=
      { order.metadata with
        verificationMode := normalizeOptionalString verified.metadata.verificationMode } }

def fulfillStorePurchaseOrder (tables : StoreTables) (order : StorePurchaseOrder)
    (product : IapProduct) (verified : VerifiedReceiptSnapshot) :
    Except ApiError (StoreTables × StorePurchaseOrder) := do
  let (tables, verifiedOrder) ← tables.updateStorePurchaseOrder (verifiedOrder order verified)
  let tables ← tables.updateLatestReceiptForOrder order.id verified.metadata
  match product.deliveryType with
  | .giftPack =>
      match order.recipientUserId with
      | none => .error (.unprocessableEntity "Gift pack purchases require a recipient user.")
      | some recipientUserId =>
          match catalog.getActiveGiftPackForProduct product.id with
          | none => .error (.persistence "Gift pack catalog item not found.")
          | some giftPack => do
              answers.giftPackRecipientEligible
              let tables ← tables.credit (giftPack.delivery recipientUserId) "gift_pack_receive"
                (orderKey order.id "gift_pack_fulfill")
              acknowledgePurchase catalog answers product verified
              tables.updateStorePurchaseOrder { verifiedOrder with status := .fulfilled }
  | .voucher =>
      match voucherDelivery order product with
      | none =>
          .error (.persistence "Voucher IAP products must deliver a positive IAP_VOUCHER amount.")
      | some delivery => do
          let tables ← tables.credit delivery "iap_purchase_fulfill" (orderKey order.id "fulfill")
          acknowledgePurchase catalog answers product verified
          tables.updateStorePurchaseOrder { verifiedOrder with status := .fulfilled }

def restoreStorePurchaseOrder (tables : StoreTables) (order : StorePurchaseOrder)
    (product : IapProduct) (verified : VerifiedReceiptSnapshot) :
    Except ApiError (StoreTables × StorePurchaseOrder) :=
  let restored := { order with status := .fulfilled }
  if order.status = .fulfilled then .ok (tables, order)
  else
    match product.deliveryType with
    | .giftPack =>
        match order.recipientUserId, catalog.getActiveGiftPackForProduct product.id with
        | some recipientUserId, some giftPack => do
            let tables ← tables.credit (giftPack.delivery recipientUserId) "gift_pack_restore"
              (orderKey order.id "gift_pack_restore")
            acknowledgePurchase catalog answers product verified
            tables.updateStorePurchaseOrder restored
        | _, _ => tables.updateStorePurchaseOrder restored
    | .voucher =>
        match voucherDelivery order product with
        | none => tables.updateStorePurchaseOrder restored
        | some delivery => do
            let tables ← tables.credit delivery "iap_purchase_restore"
              (orderKey order.id "restore")
            acknowledgePurchase catalog answers product verified
            tables.updateStorePurchaseOrder restored

/-- The recovery of a fulfilled order; a missing gift pack leaves nothing to take back. -/
def recoverDelivery (tables : StoreTables) (order : StorePurchaseOrder) (product : IapProduct)
    (targetStatus : ReversalStatus) : Except ApiError (StoreTables × RecoveryAction) :=
  if order.status ≠ .fulfilled then .ok (tables, .none)
  else
    match product.deliveryType, order.recipientUserId with
    | .giftPack, some recipientUserId =>
        match catalog.getActiveGiftPackForProduct product.id with
        | none => .ok (tables, .none)
        | some giftPack =>
            tables.takeBack (giftPack.delivery recipientUserId)
              (match targetStatus with
              | .refunded => "gift_pack_refund_reversal"
              | .revoked => "gift_pack_revoke_reversal")
              (orderKey order.id ("gift_pack:" ++ targetStatus.name))
    | _, _ =>
        match voucherDelivery order product with
        | none => .ok (tables, .none)
        | some delivery =>
            tables.takeBack delivery
              (match targetStatus with
              | .refunded => "iap_purchase_refund_reversal"
              | .revoked => "iap_purchase_revoke_reversal")
              (orderKey order.id targetStatus.name)

def reverseStorePurchaseOrder (tables : StoreTables) (order : StorePurchaseOrder)
    (product : IapProduct) (targetStatus : ReversalStatus) :
    Except ApiError (StoreTables × StorePurchaseOrder) :=
  if order.status ∈ finalStatuses ∧ order.status = targetStatus.status then .ok (tables, order)
  else do
    let (tables, recovery) ← recoverDelivery catalog tables order product targetStatus
    tables.updateStorePurchaseOrder
      { order with
        status := targetStatus.status
        metadata := { order.metadata with recovery := some recovery } }

def getStateConflictMessage : StoreState → String
  | .pending => "Store purchase is still pending."
  | .cancelled => "Store purchase was cancelled."
  | .refunded => "Store purchase has already been refunded."
  | .revoked => "Store purchase has already been revoked."
  | .purchased => "Store purchase is not fulfillable."

def awaitingOrder (order : StorePurchaseOrder) (verified : VerifiedReceiptSnapshot) :
    StorePurchaseOrder :=
  { order with
    externalOrderId := verified.externalOrderId.or order.externalOrderId
    status := .verified
    metadata :=
      { order.metadata with
        verificationMode := normalizeOptionalString verified.metadata.verificationMode
        manualApprovalRequired := true } }

def syncOrderWithVerifiedReceipt (tables : StoreTables) (order : StorePurchaseOrder)
    (product : IapProduct) (verified : VerifiedReceiptSnapshot) :
    Except ApiError (StoreTables × StorePurchaseOrder) := do
  let requiresManualApproval :=
    order.metadata.isManualApprovalRequired || verified.metadata.isManualApprovalRequired
  let tables ← tables.updateLatestReceiptForOrder order.id verified.metadata
  match verified.storeState with
  | .purchased =>
      if order.status = .fulfilled then
        tables.updateStorePurchaseOrder
          { order with externalOrderId := verified.externalOrderId.or order.externalOrderId }
      else if requiresManualApproval = true ∧ order.status ∉ finalStatuses then
        tables.updateStorePurchaseOrder (awaitingOrder order verified)
      else if order.status ∈ finalStatuses then
        restoreStorePurchaseOrder catalog answers tables order product verified
      else fulfillStorePurchaseOrder catalog answers tables order product verified
  | .pending => .error (.conflict (getStateConflictMessage .pending))
  | .refunded => reverseStorePurchaseOrder catalog tables order product .refunded
  | .cancelled | .revoked => reverseStorePurchaseOrder catalog tables order product .revoked

end Operations

/-! ## The service -/

/-- A request to verify a purchase, with the receipt as the store or the local stub has verified it.
`orderId` is the next value of the sequence of order ids. -/
structure VerifyRequest where
  orderId : Nat
  userId : Nat
  idempotencyKey : String
  sku : String
  storeChannel : StoreChannel
  recipientUserId : Option Nat
  verified : VerifiedReceiptSnapshot

def buildRequestFingerprint (request : VerifyRequest) : RequestFingerprint where
  userId := request.userId
  recipientUserId := request.recipientUserId
  sku := trim request.sku
  storeChannel := request.storeChannel
  externalTransactionId := request.verified.externalTransactionId
  purchaseToken := request.verified.purchaseToken
  externalOrderId := request.verified.externalOrderId

def createdOrder (request : VerifyRequest) (product : IapProduct) : StorePurchaseOrder :=
  let requiresManualApproval := request.verified.metadata.isManualApprovalRequired
  { id := request.orderId
    userId := request.userId
    recipientUserId := request.recipientUserId
    iapProductId := product.id
    storeChannel := request.storeChannel
    status := if requiresManualApproval then .verified else .created
    idempotencyKey := trim request.idempotencyKey
    externalOrderId := request.verified.externalOrderId
    metadata :=
      { requestFingerprint := buildRequestFingerprint request
        verificationMode := request.verified.metadata.verificationMode
        manualApprovalRequired := requiresManualApproval
        recovery := none } }

def createdReceipt (request : VerifyRequest) : StorePurchaseReceipt :=
  let metadata := request.verified.metadata
  { orderId := request.orderId
    storeChannel := request.storeChannel
    externalTransactionId := request.verified.externalTransactionId
    purchaseToken := request.verified.purchaseToken
    metadata :=
      if metadata.isManualApprovalRequired then
        { metadata with manualApprovalRequired := some true }
      else metadata }

namespace StoreTables

/-- The primary key and the unique columns refuse a row that repeats a value. -/
def insertPurchase (tables : StoreTables) (order : StorePurchaseOrder)
    (receipt : StorePurchaseReceipt) : Except ApiError StoreTables := do
  ApiError.throwIf ((tables.selectOrder order.id).isSome = true ∨
      (∃ other ∈ tables.orders, other.idempotencyKey = order.idempotencyKey) ∨
      ∃ other ∈ tables.receipts, other.storeChannel = receipt.storeChannel ∧
        ((receipt.externalTransactionId ≠ none ∧
            other.externalTransactionId = receipt.externalTransactionId) ∨
          (receipt.purchaseToken ≠ none ∧ other.purchaseToken = receipt.purchaseToken)))
    (.persistence "duplicate key value violates unique constraint")
  .ok
    { tables with
      orders := tables.orders ++ [order]
      receipts := tables.receipts ++ [receipt] }

variable (catalog : StoreCatalog) (answers : StoreAnswers) (tables : StoreTables)

def assertRequestMatchesProduct (request : VerifyRequest) (product : IapProduct) :
    Except ApiError Unit := do
  ApiError.throwIf (product.isActive = false) (.conflict "IAP product is not active.")
  ApiError.throwIf (product.deliveryType = .voucher ∧ request.recipientUserId ≠ none)
    (.unprocessableEntity "Voucher purchases cannot specify a recipient user.")
  ApiError.throwIf (product.deliveryType = .giftPack ∧ request.recipientUserId = none)
    (.unprocessableEntity "Gift pack purchases require a recipient user.")
  ApiError.throwIf
    (product.deliveryType = .giftPack ∧ request.recipientUserId = some request.userId)
    (.conflict "Gift pack recipient must be a different user.")

def syncExistingOrder (order : StorePurchaseOrder) (product : IapProduct)
    (verified : VerifiedReceiptSnapshot) : Except ApiError StoreTables := do
  let (tables, syncedOrder) ←
    syncOrderWithVerifiedReceipt catalog answers tables order product verified
  tables.loadPurchaseSnapshot catalog syncedOrder
  .ok tables

def createPurchase (request : VerifyRequest) (product : IapProduct) :
    Except ApiError StoreTables := do
  ApiError.throwIf (request.verified.storeState ≠ .purchased)
    (.conflict (getStateConflictMessage request.verified.storeState))
  let order := createdOrder request product
  let tables ← tables.insertPurchase order (createdReceipt request)
  if request.verified.metadata.isManualApprovalRequired = true then
    tables.loadPurchaseSnapshot catalog order
    .ok tables
  else
    let (tables, _) ←
      fulfillStorePurchaseOrder catalog answers tables order product request.verified
    .ok tables

def verifyIapPurchase (request : VerifyRequest) : Except ApiError StoreTables := do
  ApiError.throwIf (trim request.idempotencyKey = "")
    (.unprocessableEntity "Idempotency key is required.")
  match catalog.findSku request.storeChannel (trim request.sku) with
  | none => .error (.notFound "IAP product not found.")
  | some product => do
      assertRequestMatchesProduct request product
      match tables.orders.find? fun order =>
          order.idempotencyKey = trim request.idempotencyKey with
      | some order => do
          ApiError.throwIf
            (order.metadata.requestFingerprint ≠ buildRequestFingerprint request)
            (.conflict "Idempotency key was reused with a different request.")
          tables.syncExistingOrder catalog answers order product request.verified
      | none =>
          match tables.findExistingReceipt request.storeChannel
              request.verified.externalTransactionId request.verified.purchaseToken with
          | some receipt =>
              match tables.selectOrder receipt.orderId with
              | none => .error (.persistence "Store purchase order not found for receipt.")
              | some order => do
                  ApiError.throwIf
                    (order.userId ≠ request.userId ∨ order.iapProductId ≠ product.id ∨
                      order.recipientUserId ≠ request.recipientUserId)
                    (.conflict "Store purchase receipt already processed.")
                  tables.syncExistingOrder catalog answers order product request.verified
          | none => tables.createPurchase catalog answers request product

def syncNotificationSnapshot (storeChannel : StoreChannel) (snapshot : VerifiedReceiptSnapshot) :
    Except ApiError StoreTables :=
  match tables.findOrderByStoreReference storeChannel snapshot with
  | none => .ok tables
  | some order =>
      match catalog.findProduct order.iapProductId with
      | none => .error (.persistence "IAP product not found for store purchase order.")
      | some product => do
          let (tables, _) ←
            syncOrderWithVerifiedReceipt catalog answers tables order product snapshot
          .ok tables

def getOrderAndProductForAdminAction (orderId : Nat) :
    Except ApiError (StorePurchaseOrder × IapProduct) :=
  match tables.selectOrder orderId with
  | none => .error (.notFound "Store purchase order not found.")
  | some order =>
      match catalog.findProduct order.iapProductId with
      | none => .error (.notFound "IAP product not found.")
      | some product => .ok (order, product)

def replayedReceipt (order : StorePurchaseOrder) (receipt : StorePurchaseReceipt) :
    VerifiedReceiptSnapshot where
  externalOrderId := order.externalOrderId
  externalTransactionId := receipt.externalTransactionId
  purchaseToken := receipt.purchaseToken
  metadata := receipt.metadata
  needsAcknowledgement := false
  storeState := .purchased

def replayStorePurchaseOrderFulfillment (orderId : Nat) : Except ApiError StoreTables := do
  let (order, product) ← tables.getOrderAndProductForAdminAction catalog orderId
  match tables.getLatestReceiptForOrder order.id with
  | none => .error (.persistence "Store purchase receipt not found.")
  | some receipt =>
      let verified := replayedReceipt order receipt
      if order.metadata.isManualApprovalRequired = true ∧ order.status ≠ .fulfilled ∧
          order.status ∉ finalStatuses then do
        let (tables, fulfilledOrder) ←
          fulfillStorePurchaseOrder catalog answers tables order product verified
        let (tables, approvedOrder) ← tables.updateStorePurchaseOrder
          { fulfilledOrder with
            metadata := { fulfilledOrder.metadata with manualApprovalRequired := true } }
        tables.loadPurchaseSnapshot catalog approvedOrder
        .ok tables
      else do
        let (tables, restoredOrder) ←
          restoreStorePurchaseOrder catalog answers tables order product verified
        tables.loadPurchaseSnapshot catalog restoredOrder
        .ok tables

def reverseStorePurchaseOrderByAdmin (orderId : Nat) (targetStatus : ReversalStatus) :
    Except ApiError StoreTables := do
  let (order, product) ← tables.getOrderAndProductForAdminAction catalog orderId
  let (tables, reversedOrder) ←
    reverseStorePurchaseOrder catalog tables order product targetStatus
  tables.loadPurchaseSnapshot catalog reversedOrder
  .ok tables

end StoreTables

/-- What the other features do to the assets. They write no row under a key of a store order. -/
structure AssetActivity where
  balances : Nat → AssetCode → AssetBalance
  entries : List EconomyLedgerEntry
  foreign : ∀ entry ∈ entries, ∀ orderId action,
    entry.idempotencyKey ≠ some (orderKey orderId action)

inductive StoreOperation where
  | verify (answers : StoreAnswers) (request : VerifyRequest)
  | notify (answers : StoreAnswers) (storeChannel : StoreChannel)
      (snapshot : VerifiedReceiptSnapshot)
  | replay (answers : StoreAnswers) (orderId : Nat)
  | reverse (orderId : Nat) (targetStatus : ReversalStatus)
  | otherFeature (activity : AssetActivity)

def storeStep (catalog : StoreCatalog) (tables : StoreTables) :
    StoreOperation → Except ApiError StoreTables
  | .verify answers request => tables.verifyIapPurchase catalog answers request
  | .notify answers storeChannel snapshot =>
      tables.syncNotificationSnapshot catalog answers storeChannel snapshot
  | .replay answers orderId => tables.replayStorePurchaseOrderFulfillment catalog answers orderId
  | .reverse orderId targetStatus =>
      tables.reverseStorePurchaseOrderByAdmin catalog orderId targetStatus
  | .otherFeature activity =>
      .ok
        { tables with
          economy :=
            { tables.economy with
              balances := activity.balances
              entries := tables.economy.entries ++ activity.entries } }

end RewardSystem.Economy
