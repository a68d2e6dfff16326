import RewardSystem.Economy.StorePurchase
import RewardSystem.Shared.Segments

/-!
# What an operation on a store purchase does

Every accepted operation changes one order in one of a few ways, and books at most one ledger row,
under a key of that order.
-/

namespace RewardSystem.Economy

/-! ## The keys of an order -/

theorem toList_numbered (stem action : String) (n : Nat) :
    (stem ++ toString n ++ ":" ++ action).toList =
      stem.toList ++ (Nat.toDigits 10 n ++ ':' :: action.toList) := by
  have hcolon : ":".toList = [':'] := rfl
  simp only [String.toList_append, Nat.toString_eq_repr, Nat.toList_repr,
    List.append_assoc, hcolon, List.singleton_append]

theorem eq_of_orderKey_eq {i j : Nat} {action action' : String}
    (h : orderKey i action = orderKey j action') : i = j ∧ action = action' := by
  have hlist : (orderKey i action).toList = (orderKey j action').toList := by rw [h]
  unfold orderKey at hlist
  rw [toList_numbered, toList_numbered] at hlist
  generalize "store_purchase_order:".toList = stem at hlist
  obtain ⟨hid, haction⟩ := append_colon_inj (colon_notMem_toDigits i) (colon_notMem_toDigits j)
    (List.append_cancel_left hlist)
  exact ⟨toDigits_injective hid, String.toList_inj.mp haction⟩

theorem orderKey_ne_empty (orderId : Nat) (action : String) : orderKey orderId action ≠ "" := by
  intro h
  have hlist : (orderKey orderId action).toList = "".toList := by rw [h]
  have hempty : "".toList = [] := rfl
  unfold orderKey at hlist
  rw [toList_numbered, hempty] at hlist
  generalize "store_purchase_order:".toList = stem at hlist
  simp at hlist

namespace IapDeliveryType

def fulfillAction : IapDeliveryType → String
  | voucher => "fulfill"
  | giftPack => "gift_pack_fulfill"

def restoreAction : IapDeliveryType → String
  | voucher => "restore"
  | giftPack => "gift_pack_restore"

def reversalAction (targetStatus : ReversalStatus) : IapDeliveryType → String
  | voucher => targetStatus.name
  | giftPack => "gift_pack:" ++ targetStatus.name

end IapDeliveryType

def bookedActions : List String :=
  ["fulfill", "gift_pack_fulfill", "restore", "gift_pack_restore", "refunded", "revoked",
    "gift_pack:refunded", "gift_pack:revoked"]

/-! ## Bookings -/

/-- The ledger after a mutation of `change` under a key: it finds a row of the key, or books one. -/
inductive Booked (economy : EconomyStore) (delivery : Delivery) (key : String) (change : Int)
    (economy' : EconomyStore) : Prop
  | replayed (hkey : economy.HasKey delivery.userId delivery.assetCode key)
      (hsame : economy' = economy)
  | booked (entry : EconomyLedgerEntry)
      (hfree : ¬economy.HasKey delivery.userId delivery.assetCode key)
      (hpos : 0 < delivery.amount) (huser : entry.userId = delivery.userId)
      (hasset : entry.assetCode = delivery.assetCode) (hkey : entry.idempotencyKey = some key)
      (hamount : entry.amount = change) (hentries : economy'.entries = economy.entries ++ [entry])

section Bookings

variable {economy economy' : EconomyStore} {delivery : Delivery} {entryType key : String}

theorem normalizePositiveAmount_cents (amount : Int) :
    normalizePositiveAmount (.finite ((amount : ℚ) / 100)) =
      if amount ≤ 0 then .error (.unprocessableEntity "Amount must be greater than 0.")
      else .ok amount := by
  have hcents : toCents ((amount : ℚ) / 100) = amount := by
    unfold toCents
    rw [mul_div_cancel₀ _ (by norm_num), Rounding.roundHalfUp_intCast]
  simp [normalizePositiveAmount, toDecimalPlaces, hcents]

theorem booked_of_mutation {compute : Int → AssetBalance → Except ApiError BalanceUpdate}
    {result : AssetMutationResult} {change : Int} (hkey : key ≠ "")
    (hcompute : ∀ before update, compute delivery.amount before = .ok update →
      update.ledgerAmount = change)
    (h : applyLedgerMutation economy (delivery.mutation entryType key) compute =
      .ok (economy', result)) :
    Booked economy delivery key change economy' := by
  unfold applyLedgerMutation at h
  cases hfind : economy.findIdempotentLedgerEntry (delivery.mutation entryType key).userId
      (delivery.mutation entryType key).assetCode
      (delivery.mutation entryType key).idempotencyKey with
  | some existing =>
      simp only [hfind] at h
      obtain ⟨rfl, -⟩ := Prod.mk.inj (Except.ok.inj h)
      refine .replayed ?_ rfl
      by_contra hmissing
      have hnone := (EconomyStore.findIdempotentLedgerEntry_eq_none hkey).mpr hmissing
      rw [show (delivery.mutation entryType key).idempotencyKey = some key from rfl] at hfind
      rw [show economy.findIdempotentLedgerEntry (delivery.mutation entryType key).userId
        (delivery.mutation entryType key).assetCode (some key) = none from hnone] at hfind
      cases hfind
  | none =>
      simp only [hfind] at h
      obtain ⟨amount, hamount, h⟩ := ApiError.bind_eq_ok.mp h
      obtain ⟨update, hupdate, h⟩ := ApiError.bind_eq_ok.mp h
      obtain ⟨updated, hrecord, h⟩ := ApiError.bind_eq_ok.mp h
      obtain ⟨rfl, -⟩ := Prod.mk.inj (Except.ok.inj h)
      change normalizePositiveAmount (.finite ((delivery.amount : ℚ) / 100)) = _ at hamount
      rw [normalizePositiveAmount_cents] at hamount
      split at hamount
      case isTrue => cases hamount
      case isFalse hpos =>
        obtain rfl := Except.ok.inj hamount
        obtain ⟨hfree, rfl⟩ := EconomyStore.record_eq_ok hrecord
        exact .booked _ (hfree key rfl) (not_le.mp hpos) rfl rfl rfl (hcompute _ _ hupdate) rfl

theorem credit_booked {tables tables' : StoreTables} (hkey : key ≠ "")
    (h : tables.credit delivery entryType key = .ok tables') :
    Booked tables.economy delivery key delivery.amount tables'.economy ∧
      tables' = { tables with economy := tables'.economy } := by
  obtain ⟨⟨economy, result⟩, hcredit, h⟩ := ApiError.bind_eq_ok.mp h
  obtain rfl := Except.ok.inj h
  refine ⟨booked_of_mutation hkey (fun before update hupdate => ?_) hcredit, rfl⟩
  obtain rfl := Except.ok.inj hupdate
  rfl

theorem takeBack_booked {tables tables' : StoreTables} {recovery : RecoveryAction} (hkey : key ≠ "")
    (h : tables.takeBack delivery entryType key = .ok (tables', recovery)) :
    (recovery = .debited ∧ Booked tables.economy delivery key (-delivery.amount) tables'.economy ∧
        tables' = { tables with economy := tables'.economy }) ∨
      (recovery = .freeze ∧ tables' = tables ∧
        ¬tables.economy.HasKey delivery.userId delivery.assetCode key) := by
  unfold StoreTables.takeBack at h
  split at h
  case h_1 economy result hdebit =>
    obtain ⟨rfl, rfl⟩ := Prod.mk.inj (Except.ok.inj h)
    refine .inl ⟨rfl, booked_of_mutation hkey (fun before update hupdate => ?_) hdebit, rfl⟩
    obtain ⟨_, -, hupdate⟩ := ApiError.bind_eq_ok.mp hupdate
    obtain rfl := Except.ok.inj hupdate
    rfl
  case h_2 error hdebit =>
    split at h
    case isTrue =>
      obtain ⟨rfl, rfl⟩ := Prod.mk.inj (Except.ok.inj h)
      refine .inr ⟨rfl, rfl, fun hhas => ?_⟩
      unfold debitAsset applyLedgerMutation at hdebit
      cases hfind : tables.economy.findIdempotentLedgerEntry delivery.userId delivery.assetCode
          (some key) with
      | none => exact (EconomyStore.findIdempotentLedgerEntry_eq_none hkey).mp hfind hhas
      | some existing => simp [Delivery.mutation, hfind] at hdebit
    case isFalse => cases h

end Bookings

/-! ## Order rows -/

/-- The columns of an order that no operation changes. -/
structure SamePurchase (order order' : StorePurchaseOrder) : Prop where
  id : order'.id = order.id
  userId : order'.userId = order.userId
  recipientUserId : order'.recipientUserId = order.recipientUserId
  iapProductId : order'.iapProductId = order.iapProductId
  fingerprint : order'.metadata.requestFingerprint = order.metadata.requestFingerprint

theorem SamePurchase.rfl {order : StorePurchaseOrder} : SamePurchase order order :=
  ⟨Eq.refl _, Eq.refl _, Eq.refl _, Eq.refl _, Eq.refl _⟩

structure RowReplaced (tables : StoreTables) (order' : StorePurchaseOrder)
    (tables' : StoreTables) : Prop where
  selected : tables'.selectOrder order'.id = some order'
  others : ∀ id, id ≠ order'.id → tables'.selectOrder id = tables.selectOrder id
  ids : tables'.orders.map StorePurchaseOrder.id = tables.orders.map StorePurchaseOrder.id

section Rows

variable {tables tables' tables'' : StoreTables} {order updated : StorePurchaseOrder}

theorem RowReplaced.congr {start : StoreTables} (h : RowReplaced tables order tables')
    (horders : start.orders = tables.orders) : RowReplaced start order tables' where
  selected := h.selected
  others id hid := by
    rw [h.others id hid]
    unfold StoreTables.selectOrder
    rw [horders]
  ids := by rw [h.ids, horders]

theorem RowReplaced.trans (h : RowReplaced tables order tables')
    (h' : RowReplaced tables' updated tables'') (hid : updated.id = order.id) :
    RowReplaced tables updated tables'' where
  selected := h'.selected
  others id hne := (h'.others id hne).trans (h.others id (hid ▸ hne))
  ids := h'.ids.trans h.ids

theorem rowReplaced_rfl (h : tables.selectOrder order.id = some order) :
    RowReplaced tables order tables :=
  ⟨h, fun _ _ => rfl, rfl⟩

theorem updateStorePurchaseOrder_ok
    (h : tables.updateStorePurchaseOrder updated = .ok (tables', order)) :
    order = updated ∧ tables'.economy = tables.economy ∧ RowReplaced tables updated tables' := by
  unfold StoreTables.updateStorePurchaseOrder at h
  split at h
  case h_1 => cases h
  case h_2 row hrow =>
    obtain ⟨rfl, rfl⟩ := Prod.mk.inj (Except.ok.inj h)
    refine ⟨rfl, rfl, ?_, ?_, ?_⟩
    · exact Keyed.lookup_modify_self (fun _ _ => rfl) hrow
    · intro id hid
      exact Keyed.lookup_modify_ne (fun _ _ => rfl) hid
    · exact Keyed.map_key_modify fun _ _ => rfl

theorem updateLatestReceiptForOrder_ok {orderId : Nat} {metadata : VerificationMetadata}
    (h : tables.updateLatestReceiptForOrder orderId metadata = .ok tables') :
    tables'.economy = tables.economy ∧ tables'.orders = tables.orders := by
  unfold StoreTables.updateLatestReceiptForOrder at h
  split at h
  case h_1 => cases h
  case h_2 =>
    obtain rfl := Except.ok.inj h
    exact ⟨rfl, rfl⟩

end Rows

/-! ## What happens to an order -/

/-- What an operation wants of an order: the grant of a purchase, its replay, or a reversal. -/
inductive OrderAction where
  | purchase
  | replay
  | reverse (targetStatus : ReversalStatus)
  deriving DecidableEq, Repr

/-- The delivery of an order, if its product has one. -/
def StoreCatalog.deliveryOf (catalog : StoreCatalog) (order : StorePurchaseOrder)
    (product : IapProduct) : Option Delivery :=
  match product.deliveryType with
  | .giftPack =>
      match order.recipientUserId, catalog.getActiveGiftPackForProduct product.id with
      | some recipientUserId, some giftPack => some (giftPack.delivery recipientUserId)
      | _, _ => none
  | .voucher => voucherDelivery order product

/-- The order has been neither fulfilled nor reversed. -/
def StorePurchaseOrder.Open (order : StorePurchaseOrder) : Prop :=
  order.status ≠ .fulfilled ∧ order.status ∉ finalStatuses

inductive OrderChange (order : StorePurchaseOrder) (product : IapProduct)
    (delivery : Option Delivery) (economy : EconomyStore) :
    OrderAction → StorePurchaseOrder → EconomyStore → Prop
  | known {action : OrderAction} {order' : StorePurchaseOrder}
      (hgrants : ∀ targetStatus, action ≠ .reverse targetStatus)
      (hstatus : order.status = .fulfilled) (hstatus' : order'.status = .fulfilled)
      (hmetadata : order'.metadata = order.metadata) :
      OrderChange order product delivery economy action order' economy
  | reversedAlready {targetStatus : ReversalStatus}
      (hstatus : order.status = targetStatus.status) :
      OrderChange order product delivery economy (.reverse targetStatus) order economy
  | awaits {order' : StorePurchaseOrder} (hopen : order.Open) (hstatus' : order'.status = .verified)
      (hmanual : order'.metadata.manualApprovalRequired = true)
      (hrecovery : order'.metadata.recovery = order.metadata.recovery) :
      OrderChange order product delivery economy .purchase order' economy
  | fulfils {action : OrderAction} {order' : StorePurchaseOrder} {economy' : EconomyStore}
      (granted : Delivery) (hopen : order.Open)
      (happroved : action = .replay ∨
        action = .purchase ∧ order.metadata.isManualApprovalRequired = false)
      (hdelivery : delivery = some granted)
      (hbooked : Booked economy granted (orderKey order.id product.deliveryType.fulfillAction)
        granted.amount economy')
      (hstatus' : order'.status = .fulfilled)
      (hmanual : order.metadata.manualApprovalRequired = true →
        order'.metadata.manualApprovalRequired = true)
      (hrecovery : order'.metadata.recovery = order.metadata.recovery) :
      OrderChange order product delivery economy action order' economy'
  | restores {action : OrderAction} {order' : StorePurchaseOrder} {economy' : EconomyStore}
      (hgrants : action = .replay ∨ action = .purchase ∧ order.status ∈ finalStatuses)
      (hrestorable : order.status ∈ finalStatuses ∨
        order.Open ∧ order.metadata.isManualApprovalRequired = false)
      (hbooked : ∀ granted, delivery = some granted →
        Booked economy granted (orderKey order.id product.deliveryType.restoreAction)
          granted.amount economy')
      (hnothing : delivery = none → economy' = economy)
      (hstatus' : order'.status = .fulfilled) (hmetadata : order'.metadata = order.metadata) :
      OrderChange order product delivery economy action order' economy'
  | takesBack {targetStatus : ReversalStatus} {order' : StorePurchaseOrder}
      {economy' : EconomyStore} (granted : Delivery) (hstatus : order.status = .fulfilled)
      (hdelivery : delivery = some granted)
      (hrecovery : order'.metadata.recovery = some .debited ∧
          Booked economy granted
            (orderKey order.id (product.deliveryType.reversalAction targetStatus))
            (-granted.amount) economy' ∨
        order'.metadata.recovery = some .freeze ∧ economy' = economy ∧
          ¬economy.HasKey granted.userId granted.assetCode
            (orderKey order.id (product.deliveryType.reversalAction targetStatus)))
      (hstatus' : order'.status = targetStatus.status)
      (hmanual : order'.metadata.manualApprovalRequired = order.metadata.manualApprovalRequired) :
      OrderChange order product delivery economy (.reverse targetStatus) order' economy'
  | closes {targetStatus : ReversalStatus} {order' : StorePurchaseOrder}
      (hstatus : order.status ≠ .fulfilled ∨ delivery = none)
      (hother : order.status ≠ targetStatus.status)
      (hrecovery : order'.metadata.recovery = some .none)
      (hstatus' : order'.status = targetStatus.status)
      (hmanual : order'.metadata.manualApprovalRequired = order.metadata.manualApprovalRequired) :
      OrderChange order product delivery economy (.reverse targetStatus) order' economy

/-- An operation changes the row of one order, and the ledger with it. -/
structure Changed (catalog : StoreCatalog) (tables : StoreTables) (order : StorePurchaseOrder)
    (product : IapProduct) (action : OrderAction) (tables' : StoreTables)
    (order' : StorePurchaseOrder) : Prop where
  same : SamePurchase order order'
  row : RowReplaced tables order' tables'
  change : OrderChange order product (catalog.deliveryOf order product) tables.economy action
    order' tables'.economy

section Changes

variable {catalog : StoreCatalog} {answers : StoreAnswers} {tables tables' : StoreTables}
  {order order' : StorePurchaseOrder} {product : IapProduct} {verified : VerifiedReceiptSnapshot}

theorem credit_then_update {granted : Delivery} {entryType key : String} {row : StorePurchaseOrder}
    {acknowledged : Except ApiError Unit} (hkey : key ≠ "")
    (h : (do
      let tables ← tables.credit granted entryType key
      acknowledged
      tables.updateStorePurchaseOrder row) = .ok (tables', order')) :
    order' = row ∧ Booked tables.economy granted key granted.amount tables'.economy ∧
      RowReplaced tables row tables' := by
  obtain ⟨credited, hcredit, h⟩ := ApiError.bind_eq_ok.mp h
  obtain ⟨_, -, h⟩ := ApiError.bind_eq_ok.mp h
  obtain ⟨hbooked, hcredited⟩ := credit_booked hkey hcredit
  obtain ⟨hrow, heconomy, hreplaced⟩ := updateStorePurchaseOrder_ok h
  rw [heconomy]
  exact ⟨hrow, hbooked, hreplaced.congr (by rw [hcredited])⟩

theorem fulfill_ok
    (h : fulfillStorePurchaseOrder catalog answers tables order product verified =
      .ok (tables', order')) :
    order' = { verifiedOrder order verified with status := .fulfilled } ∧
      RowReplaced tables order' tables' ∧
      ∃ granted, catalog.deliveryOf order product = some granted ∧
        Booked tables.economy granted (orderKey order.id product.deliveryType.fulfillAction)
          granted.amount tables'.economy := by
  obtain ⟨⟨seen, seenOrder⟩, hseen, h⟩ := ApiError.bind_eq_ok.mp h
  obtain ⟨noted, hnoted, h⟩ := ApiError.bind_eq_ok.mp h
  obtain ⟨rfl, hseenEconomy, hseenRow⟩ := updateStorePurchaseOrder_ok hseen
  obtain ⟨hnotedEconomy, hnotedOrders⟩ := updateLatestReceiptForOrder_ok hnoted
  have hnotedRow : RowReplaced tables (verifiedOrder order verified) noted :=
    ⟨by simpa only [StoreTables.selectOrder, hnotedOrders] using hseenRow.selected,
      fun id hid => by
        simpa only [StoreTables.selectOrder, hnotedOrders] using hseenRow.others id hid,
      by rw [hnotedOrders, hseenRow.ids]⟩
  have heconomy : noted.economy = tables.economy := hnotedEconomy.trans hseenEconomy
  cases htype : product.deliveryType with
  | giftPack =>
      simp only [htype] at h
      cases hrecipient : order.recipientUserId with
      | none => simp [hrecipient] at h
      | some recipientUserId =>
          simp only [hrecipient] at h
          cases hpack : catalog.getActiveGiftPackForProduct product.id with
          | none => simp [hpack] at h
          | some giftPack =>
              simp only [hpack] at h
              obtain ⟨_, -, h⟩ := ApiError.bind_eq_ok.mp h
              obtain ⟨rfl, hbooked, hrow⟩ := credit_then_update (orderKey_ne_empty _ _) h
              rw [heconomy] at hbooked
              exact ⟨rfl, hnotedRow.trans hrow rfl, giftPack.delivery recipientUserId,
                by simp [StoreCatalog.deliveryOf, htype, hrecipient, hpack], hbooked⟩
  | voucher =>
      simp only [htype] at h
      cases hdelivery : voucherDelivery order product with
      | none => simp [hdelivery] at h
      | some delivery =>
          simp only [hdelivery] at h
          obtain ⟨rfl, hbooked, hrow⟩ := credit_then_update (orderKey_ne_empty _ _) h
          rw [heconomy] at hbooked
          exact ⟨rfl, hnotedRow.trans hrow rfl, delivery,
            by simp [StoreCatalog.deliveryOf, htype, hdelivery], hbooked⟩

theorem fulfill_changed {action : OrderAction} (hopen : order.Open)
    (happroved : action = .replay ∨
      action = .purchase ∧ order.metadata.isManualApprovalRequired = false)
    (h : fulfillStorePurchaseOrder catalog answers tables order product verified =
      .ok (tables', order')) :
    Changed catalog tables order product action tables' order' := by
  obtain ⟨horder', hrow, granted, hdelivery, hbooked⟩ := fulfill_ok h
  have hsame : SamePurchase order order' := by
    constructor <;> simp only [horder', verifiedOrder]
  refine ⟨hsame, hrow, .fulfils granted hopen happroved hdelivery hbooked ?_ ?_ ?_⟩
  · simp only [horder']
  · intro hmanual
    simpa only [horder', verifiedOrder] using hmanual
  · simp only [horder', verifiedOrder]

theorem restore_changed {action : OrderAction}
    (hselected : tables.selectOrder order.id = some order)
    (hgrants : action = .replay ∨ action = .purchase ∧ order.status ∈ finalStatuses)
    (hrestorable : order.status = .fulfilled ∨ order.status ∈ finalStatuses ∨
      order.Open ∧ order.metadata.isManualApprovalRequired = false)
    (h : restoreStorePurchaseOrder catalog answers tables order product verified =
      .ok (tables', order')) :
    Changed catalog tables order product action tables' order' := by
  have hnotReverse : ∀ targetStatus, action ≠ .reverse targetStatus := by
    rintro targetStatus rfl
    simp at hgrants
  unfold restoreStorePurchaseOrder at h
  by_cases hfulfilled : order.status = .fulfilled
  · simp only [hfulfilled, if_true] at h
    obtain ⟨rfl, rfl⟩ := Prod.mk.inj (Except.ok.inj h)
    exact ⟨.rfl, rowReplaced_rfl hselected, .known hnotReverse hfulfilled hfulfilled rfl⟩
  have hrestorable := hrestorable.resolve_left hfulfilled
  simp only [hfulfilled, if_false] at h
  have hskip (hnone : catalog.deliveryOf order product = none)
      (h : tables.updateStorePurchaseOrder { order with status := .fulfilled } =
        .ok (tables', order')) : Changed catalog tables order product action tables' order' := by
    obtain ⟨rfl, heconomy, hrow⟩ := updateStorePurchaseOrder_ok h
    refine ⟨⟨rfl, rfl, rfl, rfl, rfl⟩, hrow, .restores hgrants hrestorable ?_
      (fun _ => heconomy) rfl rfl⟩
    intro granted hgranted
    rw [hnone] at hgranted
    cases hgranted
  have hcredit {granted : Delivery} {entryType : String}
      (hsome : catalog.deliveryOf order product = some granted)
      (h : (do
        let tables ← tables.credit granted entryType
          (orderKey order.id product.deliveryType.restoreAction)
        acknowledgePurchase catalog answers product verified
        tables.updateStorePurchaseOrder { order with status := .fulfilled }) =
          .ok (tables', order')) : Changed catalog tables order product action tables' order' := by
    obtain ⟨rfl, hbooked, hrow⟩ := credit_then_update (orderKey_ne_empty _ _) h
    refine ⟨⟨rfl, rfl, rfl, rfl, rfl⟩, hrow, .restores hgrants hrestorable ?_ ?_ rfl rfl⟩
    · intro granted' hgranted'
      obtain rfl := Option.some.inj (hsome.symm.trans hgranted')
      exact hbooked
    · intro hnone
      rw [hsome] at hnone
      cases hnone
  cases htype : product.deliveryType with
  | giftPack =>
      simp only [htype] at h
      rw [htype] at hcredit
      cases hrecipient : order.recipientUserId with
      | none =>
          refine hskip (by simp [StoreCatalog.deliveryOf, htype, hrecipient]) ?_
          simpa only [hrecipient] using h
      | some recipientUserId =>
          cases hpack : catalog.getActiveGiftPackForProduct product.id with
          | none =>
              refine hskip (by simp [StoreCatalog.deliveryOf, htype, hrecipient, hpack]) ?_
              simpa only [hrecipient, hpack] using h
          | some giftPack =>
              have hsome : catalog.deliveryOf order product =
                  some (giftPack.delivery recipientUserId) := by
                simp [StoreCatalog.deliveryOf, htype, hrecipient, hpack]
              simp only [hrecipient, hpack] at h
              rw [← hrecipient] at h
              exact hcredit hsome h
  | voucher =>
      simp only [htype] at h
      rw [htype] at hcredit
      cases hdelivery : voucherDelivery order product with
      | none =>
          refine hskip (by simp [StoreCatalog.deliveryOf, htype, hdelivery]) ?_
          simpa only [hdelivery] using h
      | some delivery =>
          have hsome : catalog.deliveryOf order product = some delivery := by
            simp [StoreCatalog.deliveryOf, htype, hdelivery]
          simp only [hdelivery] at h
          exact hcredit hsome h

/-- What the recovery of an order finds: nothing to take back, or its delivery. -/
inductive Recovery (tables : StoreTables) (order : StorePurchaseOrder)
    (delivery : Option Delivery) (key : String) : StoreTables → RecoveryAction → Prop
  | nothing (hwhy : order.status ≠ .fulfilled ∨ delivery = none) :
      Recovery tables order delivery key tables .none
  | taken {tables' : StoreTables} {recovery : RecoveryAction} (granted : Delivery)
      (entryType : String) (hstatus : order.status = .fulfilled) (hdelivery : delivery = some granted)
      (htaken : tables.takeBack granted entryType key = .ok (tables', recovery)) :
      Recovery tables order delivery key tables' recovery

theorem recoverDelivery_ok {targetStatus : ReversalStatus} {recovery : RecoveryAction}
    (hrecipient : product.deliveryType = .giftPack → order.recipientUserId ≠ none)
    (h : recoverDelivery catalog tables order product targetStatus = .ok (tables', recovery)) :
    Recovery tables order (catalog.deliveryOf order product)
      (orderKey order.id (product.deliveryType.reversalAction targetStatus)) tables' recovery := by
  unfold recoverDelivery at h
  by_cases hfulfilled : order.status = .fulfilled
  case neg =>
    simp only [ne_eq, hfulfilled, not_false_eq_true, if_true] at h
    obtain ⟨rfl, rfl⟩ := Prod.mk.inj (Except.ok.inj h)
    exact .nothing (.inl hfulfilled)
  simp only [hfulfilled, ne_eq, not_true, if_false] at h
  cases htype : product.deliveryType with
  | giftPack =>
      obtain ⟨recipientUserId, hrecipient⟩ := Option.ne_none_iff_exists'.mp (hrecipient htype)
      simp only [htype, hrecipient] at h
      cases hpack : catalog.getActiveGiftPackForProduct product.id with
      | none =>
          rw [hpack] at h
          obtain ⟨rfl, rfl⟩ := Prod.mk.inj (Except.ok.inj h)
          exact .nothing (.inr (by simp [StoreCatalog.deliveryOf, htype, hrecipient, hpack]))
      | some giftPack =>
          rw [hpack] at h
          have hsome : catalog.deliveryOf order product =
              some (giftPack.delivery recipientUserId) := by
            simp [StoreCatalog.deliveryOf, htype, hrecipient, hpack]
          exact .taken _ _ hfulfilled hsome h
  | voucher =>
      simp only [htype] at h
      cases hdelivery : voucherDelivery order product with
      | none =>
          rw [hdelivery] at h
          obtain ⟨rfl, rfl⟩ := Prod.mk.inj (Except.ok.inj h)
          exact .nothing (.inr (by simp [StoreCatalog.deliveryOf, htype, hdelivery]))
      | some delivery =>
          rw [hdelivery] at h
          have hsome : catalog.deliveryOf order product = some delivery := by
            simp [StoreCatalog.deliveryOf, htype, hdelivery]
          exact .taken _ _ hfulfilled hsome h

theorem reverse_changed {targetStatus : ReversalStatus}
    (hselected : tables.selectOrder order.id = some order)
    (hrecipient : product.deliveryType = .giftPack → order.recipientUserId ≠ none)
    (h : reverseStorePurchaseOrder catalog tables order product targetStatus =
      .ok (tables', order')) :
    Changed catalog tables order product (.reverse targetStatus) tables' order' := by
  unfold reverseStorePurchaseOrder at h
  split at h
  case isTrue hdone =>
    obtain ⟨rfl, rfl⟩ := Prod.mk.inj (Except.ok.inj h)
    exact ⟨.rfl, rowReplaced_rfl hselected, .reversedAlready hdone.2⟩
  case isFalse hdone =>
    have hother : order.status ≠ targetStatus.status := by
      intro hstatus
      refine hdone ⟨?_, hstatus⟩
      rw [hstatus]
      cases targetStatus <;> simp [finalStatuses, ReversalStatus.status]
    obtain ⟨⟨recovered, recovery⟩, hrecover, h⟩ := ApiError.bind_eq_ok.mp h
    obtain ⟨rfl, heconomy, hrow⟩ := updateStorePurchaseOrder_ok h
    refine ⟨⟨rfl, rfl, rfl, rfl, rfl⟩, ?_, ?_⟩
    · cases recoverDelivery_ok hrecipient hrecover with
      | nothing hwhy => exact hrow
      | taken granted entryType hstatus hdelivery htaken =>
          refine hrow.congr ?_
          rcases takeBack_booked (orderKey_ne_empty _ _) htaken with
            ⟨-, -, hsame⟩ | ⟨-, hsame, -⟩ <;> rw [hsame]
    · cases recoverDelivery_ok hrecipient hrecover with
      | nothing hwhy =>
          rw [heconomy]
          exact .closes hwhy hother rfl rfl rfl
      | taken granted entryType hstatus hdelivery htaken =>
          refine .takesBack granted hstatus hdelivery ?_ rfl rfl
          rw [heconomy]
          rcases takeBack_booked (orderKey_ne_empty _ _) htaken with
            ⟨rfl, hbooked, -⟩ | ⟨rfl, rfl, hfree⟩
          · exact .inl ⟨rfl, hbooked⟩
          · exact .inr ⟨rfl, rfl, hfree⟩

theorem SamePurchase.deliveryOf (h : SamePurchase order order') :
    catalog.deliveryOf order' product = catalog.deliveryOf order product := by
  unfold StoreCatalog.deliveryOf voucherDelivery
  rw [h.recipientUserId, h.userId]

theorem approve_changed {fulfilled : StoreTables} {fulfilledOrder : StorePurchaseOrder}
    (hopen : order.Open)
    (hfulfill : fulfillStorePurchaseOrder catalog answers tables order product verified =
      .ok (fulfilled, fulfilledOrder))
    (happrove : fulfilled.updateStorePurchaseOrder
      { fulfilledOrder with
        metadata := { fulfilledOrder.metadata with manualApprovalRequired := true } } =
      .ok (tables', order')) :
    Changed catalog tables order product .replay tables' order' := by
  obtain ⟨hfulfilled, hrow, granted, hdelivery, hbooked⟩ := fulfill_ok hfulfill
  obtain ⟨horder', heconomy, hrow'⟩ := updateStorePurchaseOrder_ok happrove
  rw [← horder'] at hrow'
  refine ⟨?_, hrow.trans hrow' (by simp only [horder']), ?_⟩
  · constructor <;> simp only [horder', hfulfilled, verifiedOrder]
  · rw [heconomy]
    refine .fulfils granted hopen (.inl rfl) hdelivery hbooked ?_ ?_ ?_
    · simp only [horder', hfulfilled]
    · exact fun _ => by simp only [horder']
    · simp only [horder', hfulfilled, verifiedOrder]

/-- What a store state asks for; a pending purchase is refused. -/
def StoreState.action : StoreState → Option OrderAction
  | .purchased => some .purchase
  | .pending => none
  | .refunded => some (.reverse .refunded)
  | .cancelled | .revoked => some (.reverse .revoked)

theorem Changed.congr {start : StoreTables} {action : OrderAction}
    (h : Changed catalog tables order product action tables' order')
    (horders : start.orders = tables.orders) (heconomy : start.economy = tables.economy) :
    Changed catalog start order product action tables' order' :=
  ⟨h.same, h.row.congr horders, heconomy ▸ h.change⟩

theorem sync_changed (hselected : tables.selectOrder order.id = some order)
    (hrecipient : product.deliveryType = .giftPack → order.recipientUserId ≠ none)
    (h : syncOrderWithVerifiedReceipt catalog answers tables order product verified =
      .ok (tables', order')) :
    ∃ action, verified.storeState.action = some action ∧
      Changed catalog tables order product action tables' order' := by
  obtain ⟨noted, hnoted, h⟩ := ApiError.bind_eq_ok.mp h
  obtain ⟨hnotedEconomy, hnotedOrders⟩ := updateLatestReceiptForOrder_ok hnoted
  have hselected : noted.selectOrder order.id = some order := by
    simpa only [StoreTables.selectOrder, hnotedOrders] using hselected
  suffices hchanged : ∃ action, verified.storeState.action = some action ∧
      Changed catalog noted order product action tables' order' by
    obtain ⟨action, haction, hchanged⟩ := hchanged
    exact ⟨action, haction, hchanged.congr hnotedOrders.symm hnotedEconomy.symm⟩
  cases hstate : verified.storeState with
  | pending => simp [hstate] at h
  | refunded =>
      simp only [hstate] at h
      exact ⟨_, rfl, reverse_changed hselected hrecipient h⟩
  | cancelled =>
      simp only [hstate] at h
      exact ⟨_, rfl, reverse_changed hselected hrecipient h⟩
  | revoked =>
      simp only [hstate] at h
      exact ⟨_, rfl, reverse_changed hselected hrecipient h⟩
  | purchased =>
      refine ⟨_, rfl, ?_⟩
      simp only [hstate] at h
      split at h
      case isTrue hfulfilled =>
        obtain ⟨rfl, heconomy, hrow⟩ := updateStorePurchaseOrder_ok h
        refine ⟨⟨rfl, rfl, rfl, rfl, rfl⟩, hrow, ?_⟩
        rw [heconomy]
        exact .known (by simp) hfulfilled hfulfilled rfl
      case isFalse hfulfilled =>
      split at h
      case isTrue hmanual =>
        obtain ⟨horder', heconomy, hrow⟩ := updateStorePurchaseOrder_ok h
        have hsame : SamePurchase order order' := by
          constructor <;> simp only [horder', awaitingOrder]
        rw [← horder'] at hrow
        refine ⟨hsame, hrow, ?_⟩
        rw [heconomy]
        refine .awaits ⟨hfulfilled, hmanual.2⟩ ?_ ?_ ?_ <;> simp only [horder', awaitingOrder]
      case isFalse hmanual =>
      split at h
      case isTrue hfinal =>
        exact restore_changed hselected (.inr ⟨rfl, hfinal⟩) (.inr (.inl hfinal)) h
      case isFalse hfinal =>
        have hauto : order.metadata.isManualApprovalRequired = false := by
          simp only [hfinal, not_false_eq_true, and_true, Bool.or_eq_true, not_or] at hmanual
          simpa using hmanual.1
        exact fulfill_changed ⟨hfulfilled, hfinal⟩ (.inr ⟨rfl, hauto⟩) h

end Changes

end RewardSystem.Economy
