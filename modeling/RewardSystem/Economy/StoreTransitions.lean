import RewardSystem.Economy.StoreEffects
import RewardSystem.Lib.Runs

/-!
# The steps of the store purchase service

An accepted operation leaves the orders alone, creates one, or changes the one it concerns.
-/

namespace RewardSystem.Economy

/-- The product of an order, as the order was requested and as it is looked up. -/
structure Linked (catalog : StoreCatalog) (order : StorePurchaseOrder) (product : IapProduct) :
    Prop where
  found : catalog.findProduct order.iapProductId = some product
  requested : catalog.findSku order.metadata.requestFingerprint.storeChannel
    order.metadata.requestFingerprint.sku = some product
  recipient : product.deliveryType = .giftPack → order.recipientUserId ≠ none

structure StoreTables.WellFormed (catalog : StoreCatalog) (tables : StoreTables) : Prop where
  keys : Keyed.HasKeys StorePurchaseOrder.id tables.orders
  linked : ∀ id order, tables.selectOrder id = some order → ∃ product, Linked catalog order product

def VerifyRequest.knownOrder (tables : StoreTables) (request : VerifyRequest) :
    Option StorePurchaseOrder :=
  match tables.orders.find? fun order => order.idempotencyKey = trim request.idempotencyKey with
  | some order => some order
  | none =>
      match tables.findExistingReceipt request.storeChannel
          request.verified.externalTransactionId request.verified.purchaseToken with
      | some receipt => tables.selectOrder receipt.orderId
      | none => none

/-- The existing order an operation is about, and what is asked of it. -/
def StoreOperation.concerns (tables : StoreTables) :
    StoreOperation → Option (StorePurchaseOrder × OrderAction)
  | .verify _ request =>
      (request.knownOrder tables).bind fun order =>
        request.verified.storeState.action.map fun action => (order, action)
  | .notify _ storeChannel snapshot =>
      (tables.findOrderByStoreReference storeChannel snapshot).bind fun order =>
        snapshot.storeState.action.map fun action => (order, action)
  | .replay _ orderId => (tables.selectOrder orderId).map fun order => (order, .replay)
  | .reverse orderId targetStatus =>
      (tables.selectOrder orderId).map fun order => (order, .reverse targetStatus)
  | .otherFeature _ => none

/-- A row under a key of no store order. -/
def EconomyLedgerEntry.Foreign (entry : EconomyLedgerEntry) : Prop :=
  ∀ orderId action, entry.idempotencyKey ≠ some (orderKey orderId action)

/-- An order that has just been created: it waits for approval, or was fulfilled at once. -/
structure Created (catalog : StoreCatalog) (tables : StoreTables) (product : IapProduct)
    (tables' : StoreTables) (order : StorePurchaseOrder) : Prop where
  fresh : tables.selectOrder order.id = none
  selected : tables'.selectOrder order.id = some order
  others : ∀ id, id ≠ order.id → tables'.selectOrder id = tables.selectOrder id
  ids : tables'.orders.map StorePurchaseOrder.id =
    tables.orders.map StorePurchaseOrder.id ++ [order.id]
  linked : Linked catalog order product
  recovery : order.metadata.recovery = none
  grant : (order.status = .verified ∧ order.metadata.manualApprovalRequired = true ∧
      tables'.economy = tables.economy) ∨
    (order.status = .fulfilled ∧ order.metadata.manualApprovalRequired = false ∧
      ∃ granted, catalog.deliveryOf order product = some granted ∧
        Booked tables.economy granted (orderKey order.id product.deliveryType.fulfillAction)
          granted.amount tables'.economy)

inductive StoreEffect (catalog : StoreCatalog) (tables : StoreTables) (operation : StoreOperation)
    (tables' : StoreTables) : Prop
  | apart (more : List EconomyLedgerEntry) (hconcerns : operation.concerns tables = none)
      (horders : tables'.orders = tables.orders)
      (hentries : tables'.economy.entries = tables.economy.entries ++ more)
      (hforeign : ∀ entry ∈ more, entry.Foreign)
  | creates (order : StorePurchaseOrder) (product : IapProduct)
      (hconcerns : operation.concerns tables = none)
      (hcreated : Created catalog tables product tables' order)
  | changes (order order' : StorePurchaseOrder) (product : IapProduct) (action : OrderAction)
      (hconcerns : operation.concerns tables = some (order, action))
      (hreplay : action = .replay ↔ ∃ answers, operation = .replay answers order.id)
      (hselected : tables.selectOrder order.id = some order)
      (hlinked : Linked catalog order product)
      (hchanged : Changed catalog tables order product action tables' order')

section Effects

variable {catalog : StoreCatalog} {answers : StoreAnswers} {tables tables' : StoreTables}
  {order order' : StorePurchaseOrder} {product : IapProduct} {verified : VerifiedReceiptSnapshot}
  {request : VerifyRequest}

theorem id_of_selectOrder {id : Nat} (h : tables.selectOrder id = some order) : order.id = id :=
  Keyed.key_of_lookup h

theorem selectOrder_self {id : Nat} (h : tables.selectOrder id = some order) :
    tables.selectOrder order.id = some order := by
  rwa [id_of_selectOrder h]

theorem Linked.eq {product' : IapProduct} (h : Linked catalog order product)
    (hfound : catalog.findProduct order.iapProductId = some product') : product' = product :=
  Option.some.inj (hfound.symm.trans h.found)

theorem findProduct_of_findSku {storeChannel : StoreChannel} {sku : String}
    (h : catalog.findSku storeChannel sku = some product) :
    catalog.findProduct product.id = some product :=
  Keyed.lookup_of_mem catalog.productIds (List.mem_of_find?_eq_some h)

theorem SamePurchase.linked (h : SamePurchase order order') (hlinked : Linked catalog order product) :
    Linked catalog order' product where
  found := by rw [h.iapProductId]; exact hlinked.found
  requested := by rw [h.fingerprint]; exact hlinked.requested
  recipient := by rw [h.recipientUserId]; exact hlinked.recipient

theorem selected_of_findOrderByStoreReference {storeChannel : StoreChannel}
    (hkeys : Keyed.HasKeys StorePurchaseOrder.id tables.orders)
    (h : tables.findOrderByStoreReference storeChannel verified = some order) :
    tables.selectOrder order.id = some order := by
  unfold StoreTables.findOrderByStoreReference at h
  split at h
  case h_1 => exact selectOrder_self h
  case h_2 => exact Keyed.lookup_of_mem hkeys (List.mem_of_find?_eq_some h)

/-! ## Verification -/

theorem syncExistingOrder_changed (hselected : tables.selectOrder order.id = some order)
    (hlinked : Linked catalog order product)
    (h : tables.syncExistingOrder catalog answers order product verified = .ok tables') :
    ∃ action order', verified.storeState.action = some action ∧
      Changed catalog tables order product action tables' order' := by
  obtain ⟨⟨synced, order'⟩, hsync, h⟩ := ApiError.bind_eq_ok.mp h
  obtain ⟨_, -, h⟩ := ApiError.bind_eq_ok.mp h
  obtain rfl := Except.ok.inj h
  obtain ⟨action, haction, hchanged⟩ := sync_changed hselected hlinked.recipient hsync
  exact ⟨action, order', haction, hchanged⟩

theorem StoreState.action_ne_replay {state : StoreState} : state.action ≠ some .replay := by
  cases state <;> simp [StoreState.action]

theorem insertPurchase_ok {receipt : StorePurchaseReceipt}
    (h : tables.insertPurchase order receipt = .ok tables') :
    tables.selectOrder order.id = none ∧ tables'.orders = tables.orders ++ [order] ∧
      tables'.economy = tables.economy := by
  obtain ⟨_, hfree, h⟩ := ApiError.bind_eq_ok.mp h
  obtain rfl := Except.ok.inj h
  rw [ApiError.throwIf_eq_ok] at hfree
  simp only [not_or] at hfree
  exact ⟨by simpa using hfree.1, rfl, rfl⟩

theorem createPurchase_created
    (hsku : catalog.findSku request.storeChannel (trim request.sku) = some product)
    (hrecipient : product.deliveryType = .giftPack → request.recipientUserId ≠ none)
    (h : tables.createPurchase catalog answers request product = .ok tables') :
    ∃ order, Created catalog tables product tables' order := by
  obtain ⟨_, -, h⟩ := ApiError.bind_eq_ok.mp h
  obtain ⟨inserted, hinsert, h⟩ := ApiError.bind_eq_ok.mp h
  obtain ⟨hfresh, horders, heconomy⟩ := insertPurchase_ok hinsert
  have hlinked : Linked catalog (createdOrder request product) product :=
    ⟨findProduct_of_findSku hsku, hsku, hrecipient⟩
  have hselected : inserted.selectOrder request.orderId = some (createdOrder request product) := by
    unfold StoreTables.selectOrder
    rw [horders]
    exact Keyed.lookup_append_self hfresh
  have hothers : ∀ id, id ≠ request.orderId →
      inserted.selectOrder id = tables.selectOrder id := by
    intro id hid
    unfold StoreTables.selectOrder
    rw [horders]
    exact Keyed.lookup_append_of_ne fun heq => hid heq.symm
  have hids : inserted.orders.map StorePurchaseOrder.id =
      tables.orders.map StorePurchaseOrder.id ++ [request.orderId] := by
    rw [horders, List.map_append]
    rfl
  split at h
  case isTrue hmanual =>
    obtain ⟨_, -, h⟩ := ApiError.bind_eq_ok.mp h
    obtain rfl := Except.ok.inj h
    exact ⟨createdOrder request product, hfresh, hselected, hothers, hids, hlinked, rfl,
      .inl ⟨by simp [createdOrder, hmanual], by simp [createdOrder, hmanual], heconomy⟩⟩
  case isFalse hmanual =>
    obtain ⟨⟨fulfilled, order'⟩, hfulfill, h⟩ := ApiError.bind_eq_ok.mp h
    obtain rfl := Except.ok.inj h
    obtain ⟨horder', hrow, granted, hdelivery, hbooked⟩ := fulfill_ok hfulfill
    have hsame : SamePurchase (createdOrder request product) order' := by
      rw [horder']
      exact ⟨rfl, rfl, rfl, rfl, rfl⟩
    have hid : order'.id = request.orderId := hsame.id
    refine ⟨order', ?_, hrow.selected, ?_, ?_, hsame.linked hlinked, ?_, .inr ⟨?_, ?_, granted, ?_⟩⟩
    · rw [hid]
      exact hfresh
    · intro id hne
      exact (hrow.others id hne).trans (hothers id (hid ▸ hne))
    · rw [hrow.ids, hids, hid]
    · simp only [horder', verifiedOrder, createdOrder]
    · simp only [horder']
    · simpa [horder', verifiedOrder, createdOrder] using hmanual
    · rw [hid, ← heconomy, ← hdelivery]
      exact ⟨hsame.deliveryOf, hbooked⟩

/-! ## Every operation -/

theorem changes_of_sync {operation : StoreOperation} {action : OrderAction}
    (hconcerns : operation.concerns tables = some (order, action))
    (hreplay : ∀ answers orderId, operation ≠ .replay answers orderId)
    (haction : verified.storeState.action = some action)
    (hselected : tables.selectOrder order.id = some order) (hlinked : Linked catalog order product)
    (hchanged : Changed catalog tables order product action tables' order') :
    StoreEffect catalog tables operation tables' := by
  refine .changes order order' product action hconcerns ?_ hselected hlinked hchanged
  constructor
  · rintro rfl
    exact absurd haction StoreState.action_ne_replay
  · rintro ⟨answers, hoperation⟩
    exact absurd hoperation (hreplay answers order.id)

theorem verify_effect (hwell : tables.WellFormed catalog)
    (h : tables.verifyIapPurchase catalog answers request = .ok tables') :
    StoreEffect catalog tables (.verify answers request) tables' := by
  obtain ⟨_, -, h⟩ := ApiError.bind_eq_ok.mp h
  split at h
  case h_1 => cases h
  case h_2 product hsku =>
  obtain ⟨_, hmatches, h⟩ := ApiError.bind_eq_ok.mp h
  have hknown (order : StorePurchaseOrder) (hknown : request.knownOrder tables = some order)
      (hselected : tables.selectOrder order.id = some order)
      (hlinked : Linked catalog order product)
      (h : tables.syncExistingOrder catalog answers order product request.verified =
        .ok tables') : StoreEffect catalog tables (.verify answers request) tables' := by
    obtain ⟨action, order', haction, hchanged⟩ := syncExistingOrder_changed hselected hlinked h
    have hconcerns : (StoreOperation.verify answers request).concerns tables =
        some (order, action) := by simp [StoreOperation.concerns, hknown, haction]
    exact changes_of_sync hconcerns (by simp) haction hselected hlinked hchanged
  split at h
  case h_1 order hfind =>
    obtain ⟨_, hfingerprint, h⟩ := ApiError.bind_eq_ok.mp h
    rw [ApiError.throwIf_eq_ok, not_not] at hfingerprint
    have hselected : tables.selectOrder order.id = some order :=
      Keyed.lookup_of_mem hwell.keys (List.mem_of_find?_eq_some hfind)
    obtain ⟨product', hlinked⟩ := hwell.linked order.id order hselected
    have hproduct : product' = product := by
      have hrequested := hlinked.requested
      rw [hfingerprint] at hrequested
      exact Option.some.inj (hrequested.symm.trans hsku)
    rw [hproduct] at hlinked
    exact hknown order (by simp [VerifyRequest.knownOrder, hfind]) hselected hlinked h
  case h_2 hfind =>
  split at h
  case h_1 receipt hreceipt =>
    split at h
    case h_1 => cases h
    case h_2 order horder =>
      obtain ⟨_, hsamePurchase, h⟩ := ApiError.bind_eq_ok.mp h
      rw [ApiError.throwIf_eq_ok] at hsamePurchase
      simp only [ne_eq, not_or, not_not] at hsamePurchase
      obtain ⟨product', hlinked⟩ := hwell.linked _ order horder
      have hproduct : product = product' := by
        refine hlinked.eq ?_
        rw [hsamePurchase.2.1]
        exact findProduct_of_findSku hsku
      rw [← hproduct] at hlinked
      have hknownOrder : request.knownOrder tables = some order := by
        simp [VerifyRequest.knownOrder, hfind, hreceipt, horder]
      exact hknown order hknownOrder (selectOrder_self horder) hlinked h
  case h_2 hreceipt =>
    have hrecipient : product.deliveryType = .giftPack → request.recipientUserId ≠ none := by
      intro htype hnone
      obtain ⟨_, -, hmatches⟩ := ApiError.bind_eq_ok.mp hmatches
      obtain ⟨_, -, hmatches⟩ := ApiError.bind_eq_ok.mp hmatches
      obtain ⟨_, hgift, -⟩ := ApiError.bind_eq_ok.mp hmatches
      rw [ApiError.throwIf_eq_ok] at hgift
      exact hgift ⟨htype, hnone⟩
    obtain ⟨order, hcreated⟩ := createPurchase_created hsku hrecipient h
    refine .creates order product ?_ hcreated
    simp [StoreOperation.concerns, VerifyRequest.knownOrder, hfind, hreceipt]

theorem notify_effect {storeChannel : StoreChannel} (hwell : tables.WellFormed catalog)
    (h : tables.syncNotificationSnapshot catalog answers storeChannel verified = .ok tables') :
    StoreEffect catalog tables (.notify answers storeChannel verified) tables' := by
  unfold StoreTables.syncNotificationSnapshot at h
  split at h
  case h_1 hfind =>
    obtain rfl := Except.ok.inj h
    exact .apart [] (by simp [StoreOperation.concerns, hfind]) rfl (by simp) (by simp)
  case h_2 order hfind =>
  split at h
  case h_1 => cases h
  case h_2 product hfound =>
    obtain ⟨⟨synced, order'⟩, hsync, h⟩ := ApiError.bind_eq_ok.mp h
    obtain rfl := Except.ok.inj h
    have hselected := selected_of_findOrderByStoreReference hwell.keys hfind
    obtain ⟨product', hlinked⟩ := hwell.linked _ order hselected
    rw [← hlinked.eq hfound] at hlinked
    obtain ⟨action, haction, hchanged⟩ := sync_changed hselected hlinked.recipient hsync
    have hconcerns : (StoreOperation.notify answers storeChannel verified).concerns tables =
        some (order, action) := by simp [StoreOperation.concerns, hfind, haction]
    exact changes_of_sync hconcerns (by simp) haction hselected hlinked hchanged

theorem getOrderAndProductForAdminAction_ok {orderId : Nat} (hwell : tables.WellFormed catalog)
    (h : tables.getOrderAndProductForAdminAction catalog orderId = .ok (order, product)) :
    tables.selectOrder orderId = some order ∧ Linked catalog order product := by
  unfold StoreTables.getOrderAndProductForAdminAction at h
  split at h
  case h_1 => cases h
  case h_2 found horder =>
  split at h
  case h_1 => cases h
  case h_2 product' hfound =>
    obtain ⟨rfl, rfl⟩ := Prod.mk.inj (Except.ok.inj h)
    obtain ⟨linked, hlinked⟩ := hwell.linked _ found horder
    rw [← hlinked.eq hfound] at hlinked
    exact ⟨horder, hlinked⟩

theorem replay_changed {orderId : Nat} (hwell : tables.WellFormed catalog)
    (h : tables.replayStorePurchaseOrderFulfillment catalog answers orderId = .ok tables') :
    ∃ order order' product, tables.selectOrder orderId = some order ∧
      Linked catalog order product ∧ Changed catalog tables order product .replay tables' order' := by
  obtain ⟨⟨order, product⟩, hfound, h⟩ := ApiError.bind_eq_ok.mp h
  obtain ⟨horder, hlinked⟩ := getOrderAndProductForAdminAction_ok hwell hfound
  dsimp only at h
  split at h
  case h_1 => cases h
  case h_2 receipt hreceipt =>
  split at h
  case isTrue hmanual =>
    obtain ⟨⟨fulfilled, fulfilledOrder⟩, hfulfill, h⟩ := ApiError.bind_eq_ok.mp h
    obtain ⟨⟨approved, approvedOrder⟩, happrove, h⟩ := ApiError.bind_eq_ok.mp h
    obtain ⟨_, -, h⟩ := ApiError.bind_eq_ok.mp h
    obtain rfl := Except.ok.inj h
    exact ⟨order, approvedOrder, product, horder, hlinked,
      approve_changed ⟨hmanual.2.1, hmanual.2.2⟩ hfulfill happrove⟩
  case isFalse hmanual =>
    obtain ⟨⟨restored, order'⟩, hrestore, h⟩ := ApiError.bind_eq_ok.mp h
    obtain ⟨_, -, h⟩ := ApiError.bind_eq_ok.mp h
    obtain rfl := Except.ok.inj h
    refine ⟨order, order', product, horder, hlinked,
      restore_changed (selectOrder_self horder) (.inl rfl) ?_ hrestore⟩
    by_cases hfulfilled : order.status = .fulfilled
    · exact .inl hfulfilled
    by_cases hfinal : order.status ∈ finalStatuses
    · exact .inr (.inl hfinal)
    · refine .inr (.inr ⟨⟨hfulfilled, hfinal⟩, ?_⟩)
      simpa [hfulfilled, hfinal] using hmanual

/-- **What one accepted operation does.** -/
theorem storeStep_effect {operation : StoreOperation} (hwell : tables.WellFormed catalog)
    (h : storeStep catalog tables operation = .ok tables') :
    StoreEffect catalog tables operation tables' := by
  cases operation with
  | verify answers request => exact verify_effect hwell h
  | notify answers storeChannel snapshot => exact notify_effect hwell h
  | replay answers orderId =>
      obtain ⟨order, order', product, horder, hlinked, hchanged⟩ := replay_changed hwell h
      obtain rfl := id_of_selectOrder horder
      refine .changes order order' product .replay ?_ (iff_of_true rfl ⟨answers, rfl⟩) horder
        hlinked hchanged
      simp [StoreOperation.concerns, horder]
  | reverse orderId targetStatus =>
      obtain ⟨⟨order, product⟩, hfound, h⟩ := ApiError.bind_eq_ok.mp h
      obtain ⟨horder, hlinked⟩ := getOrderAndProductForAdminAction_ok hwell hfound
      obtain ⟨⟨reversed, order'⟩, hreverse, h⟩ := ApiError.bind_eq_ok.mp h
      obtain ⟨_, -, h⟩ := ApiError.bind_eq_ok.mp h
      obtain rfl := Except.ok.inj h
      obtain rfl := id_of_selectOrder horder
      have hconcerns : (StoreOperation.reverse order.id targetStatus).concerns tables =
          some (order, .reverse targetStatus) := by simp [StoreOperation.concerns, horder]
      exact .changes order order' product _ hconcerns (by simp) horder hlinked
        (reverse_changed horder hlinked.recipient hreverse)
  | otherFeature activity =>
      obtain rfl := Except.ok.inj h
      exact .apart activity.entries rfl rfl rfl activity.foreign

/-! ## What every operation keeps -/

theorem wellFormed_step {operation : StoreOperation} (hwell : tables.WellFormed catalog)
    (h : storeStep catalog tables operation = .ok tables') : tables'.WellFormed catalog := by
  cases storeStep_effect hwell h with
  | apart more hconcerns horders hentries hforeign =>
      refine ⟨by rw [horders]; exact hwell.keys, fun id order hselected => ?_⟩
      unfold StoreTables.selectOrder at hselected
      rw [horders] at hselected
      exact hwell.linked id order hselected
  | creates order product hconcerns hcreated =>
      refine ⟨?_, fun id row hselected => ?_⟩
      · unfold Keyed.HasKeys
        rw [hcreated.ids, List.nodup_append]
        refine ⟨hwell.keys, by simp, ?_⟩
        have hfresh := Keyed.lookup_eq_none.mp hcreated.fresh
        simpa using hfresh
      · by_cases hid : id = order.id
        · rw [hid, hcreated.selected] at hselected
          obtain rfl := Option.some.inj hselected
          exact ⟨product, hcreated.linked⟩
        · rw [hcreated.others id hid] at hselected
          exact hwell.linked id row hselected
  | changes order order' product action hconcerns hreplay horder hlinked hchanged =>
      refine ⟨?_, fun id row hselected => ?_⟩
      · unfold Keyed.HasKeys
        rw [hchanged.row.ids]
        exact hwell.keys
      · by_cases hid : id = order'.id
        · rw [hid, hchanged.row.selected] at hselected
          obtain rfl := Option.some.inj hselected
          exact ⟨product, hchanged.same.linked hlinked⟩
        · rw [hchanged.row.others id hid] at hselected
          exact hwell.linked id row hselected

theorem wellFormed_of_noOrders (hnone : tables.orders = []) : tables.WellFormed catalog where
  keys := by simp [hnone, Keyed.HasKeys]
  linked := by simp [StoreTables.selectOrder, hnone, Keyed.lookup]

end Effects

/-! ## The ledger rows of an order -/

def EconomyLedgerEntry.OfOrder (orderId : Nat) (entry : EconomyLedgerEntry) : Prop :=
  ∃ action ∈ bookedActions, entry.idempotencyKey = some (orderKey orderId action)

instance (orderId : Nat) : DecidablePred (EconomyLedgerEntry.OfOrder orderId) := fun entry =>
  inferInstanceAs (Decidable (∃ action ∈ bookedActions,
    entry.idempotencyKey = some (orderKey orderId action)))

def EconomyStore.orderRows (store : EconomyStore) (orderId : Nat) : List EconomyLedgerEntry :=
  store.entries.filter fun entry => entry.OfOrder orderId

namespace IapDeliveryType

variable (deliveryType : IapDeliveryType)

theorem fulfillAction_mem : deliveryType.fulfillAction ∈ bookedActions := by
  cases deliveryType <;> decide

theorem restoreAction_mem : deliveryType.restoreAction ∈ bookedActions := by
  cases deliveryType <;> decide

theorem reversalAction_mem (targetStatus : ReversalStatus) :
    deliveryType.reversalAction targetStatus ∈ bookedActions := by
  cases deliveryType <;> cases targetStatus <;> decide

end IapDeliveryType

section Rows

variable {economy economy' : EconomyStore} {delivery : Delivery} {action : String} {change : Int}
  {orderId : Nat}

theorem mem_orderRows {entry : EconomyLedgerEntry} :
    entry ∈ economy.orderRows orderId ↔ entry ∈ economy.entries ∧ entry.OfOrder orderId := by
  simp [EconomyStore.orderRows]

theorem orderRows_append_foreign {more : List EconomyLedgerEntry}
    (hentries : economy'.entries = economy.entries ++ more)
    (hforeign : ∀ entry ∈ more, entry.Foreign) :
    economy'.orderRows orderId = economy.orderRows orderId := by
  have hnone : more.filter (fun entry => decide (entry.OfOrder orderId)) = [] := by
    rw [List.filter_eq_nil_iff]
    intro entry hentry hof
    obtain ⟨action, -, hkey⟩ := of_decide_eq_true hof
    exact hforeign entry hentry orderId action hkey
  unfold EconomyStore.orderRows
  rw [hentries, List.filter_append, hnone, List.append_nil]

theorem ofOrder_iff {entry : EconomyLedgerEntry} {id : Nat} (hmem : action ∈ bookedActions)
    (hkey : entry.idempotencyKey = some (orderKey orderId action)) :
    entry.OfOrder id ↔ id = orderId := by
  constructor
  · rintro ⟨action', -, hkey'⟩
    exact (eq_of_orderKey_eq (Option.some.inj (hkey'.symm.trans hkey))).1
  · rintro rfl
    exact ⟨action, hmem, hkey⟩

theorem Booked.orderRows (hmem : action ∈ bookedActions)
    (h : Booked economy delivery (orderKey orderId action) change economy') :
    (economy.HasKey delivery.userId delivery.assetCode (orderKey orderId action) ∧
        economy'.orderRows orderId = economy.orderRows orderId) ∨
      (¬economy.HasKey delivery.userId delivery.assetCode (orderKey orderId action) ∧
        0 < delivery.amount ∧ ∃ entry : EconomyLedgerEntry, entry.userId = delivery.userId ∧
          entry.assetCode = delivery.assetCode ∧ entry.amount = change ∧
          entry.idempotencyKey = some (orderKey orderId action) ∧
          economy'.orderRows orderId = economy.orderRows orderId ++ [entry]) := by
  cases h with
  | replayed hkey hsame => exact .inl ⟨hkey, by rw [hsame]⟩
  | booked entry hfree hpos huser hasset hkey hamount hentries =>
      refine .inr ⟨hfree, hpos, entry, huser, hasset, hamount, hkey, ?_⟩
      unfold EconomyStore.orderRows
      rw [hentries, List.filter_append]
      simp [(ofOrder_iff hmem hkey).mpr rfl]

theorem Booked.orderRows_ne {id : Nat} (hmem : action ∈ bookedActions) (hne : id ≠ orderId)
    (h : Booked economy delivery (orderKey orderId action) change economy') :
    economy'.orderRows id = economy.orderRows id := by
  cases h with
  | replayed hkey hsame => rw [hsame]
  | booked entry hfree hpos huser hasset hkey hamount hentries =>
      unfold EconomyStore.orderRows
      rw [hentries, List.filter_append]
      simp [(ofOrder_iff hmem hkey).not.mpr hne]

theorem OrderChange.orderRows_ne {order order' : StorePurchaseOrder} {product : IapProduct}
    {delivered : Option Delivery} {orderAction : OrderAction} {id : Nat} (hne : id ≠ order.id)
    (h : OrderChange order product delivered economy orderAction order' economy') :
    economy'.orderRows id = economy.orderRows id := by
  cases h with
  | known | reversedAlready | awaits | closes => rfl
  | fulfils granted hopen happroved hdelivery hbooked =>
      exact hbooked.orderRows_ne product.deliveryType.fulfillAction_mem hne
  | restores hgrants hrestorable hbooked hnothing =>
      cases hdelivery : delivered with
      | none => rw [hnothing hdelivery]
      | some granted =>
          exact (hbooked granted hdelivery).orderRows_ne product.deliveryType.restoreAction_mem hne
  | @takesBack targetStatus _ _ granted hstatus hdelivery hrecovery =>
      rcases hrecovery with ⟨-, hbooked⟩ | ⟨-, hsame, -⟩
      · exact hbooked.orderRows_ne (product.deliveryType.reversalAction_mem targetStatus) hne
      · rw [hsame]

end Rows

theorem Changed.selected {catalog : StoreCatalog} {tables tables' : StoreTables}
    {order order' : StorePurchaseOrder} {product : IapProduct} {action : OrderAction}
    {orderId : Nat} (h : Changed catalog tables order product action tables' order')
    (hid : order.id = orderId) : tables'.selectOrder orderId = some order' := by
  rw [← hid, ← h.same.id]
  exact h.row.selected

inductive RowEffect (catalog : StoreCatalog) (orderId : Nat) (tables : StoreTables)
    (operation : StoreOperation) (tables' : StoreTables) : Prop
  | untouched (hother : ∀ order action, operation.concerns tables = some (order, action) →
        order.id ≠ orderId)
      (hselected : tables'.selectOrder orderId = tables.selectOrder orderId)
      (hrows : tables'.economy.orderRows orderId = tables.economy.orderRows orderId)
  | creates (order : StorePurchaseOrder) (product : IapProduct)
      (hconcerns : operation.concerns tables = none) (hid : order.id = orderId)
      (hcreated : Created catalog tables product tables' order)
  | changes (order order' : StorePurchaseOrder) (product : IapProduct) (action : OrderAction)
      (hconcerns : operation.concerns tables = some (order, action))
      (hreplay : action = .replay → ∃ answers, operation = .replay answers orderId)
      (hid : order.id = orderId) (hselected : tables.selectOrder orderId = some order)
      (hlinked : Linked catalog order product)
      (hchanged : Changed catalog tables order product action tables' order')

theorem storeStep_rowEffect {catalog : StoreCatalog} {tables tables' : StoreTables}
    {operation : StoreOperation} (orderId : Nat) (hwell : tables.WellFormed catalog)
    (h : storeStep catalog tables operation = .ok tables') :
    RowEffect catalog orderId tables operation tables' := by
  cases storeStep_effect hwell h with
  | apart more hconcerns horders hentries hforeign =>
      refine .untouched (by simp [hconcerns]) ?_ (orderRows_append_foreign hentries hforeign)
      unfold StoreTables.selectOrder
      rw [horders]
  | creates order product hconcerns hcreated =>
      by_cases hid : order.id = orderId
      · exact .creates order product hconcerns hid hcreated
      · refine .untouched (by simp [hconcerns]) (hcreated.others orderId (Ne.symm hid)) ?_
        rcases hcreated.grant with ⟨-, -, hsame⟩ | ⟨-, -, granted, -, hbooked⟩
        · rw [hsame]
        · exact hbooked.orderRows_ne product.deliveryType.fulfillAction_mem (Ne.symm hid)
  | changes order order' product action hconcerns hreplay horder hlinked hchanged =>
      by_cases hid : order.id = orderId
      · rw [hid] at hreplay horder
        exact .changes order order' product action hconcerns hreplay.mp hid horder hlinked hchanged
      · refine .untouched ?_ ?_ (hchanged.change.orderRows_ne (Ne.symm hid))
        · rintro order action hsome
          obtain ⟨rfl, rfl⟩ := Prod.mk.inj (Option.some.inj (hconcerns.symm.trans hsome))
          exact hid
        · refine hchanged.row.others orderId ?_
          rw [hchanged.same.id]
          exact Ne.symm hid

end RewardSystem.Economy
