import RewardSystem.Economy.ManualApproval

/-!
# The net grant of a store purchase

What the ledger holds for an order should be its delivery while the order is fulfilled, and nothing
while it is not, except after a reversal that froze its owner. Each kind of booking has one key for
an order, so a second one of its kind moves nothing; and a restore does not ask whether the delivery
was taken back.
-/

namespace RewardSystem.Economy

open Transition

/-- Credits minus debits booked for the order, on the asset that it delivers. -/
def EconomyStore.netGrant (store : EconomyStore) (orderId : Nat) (delivery : Delivery) : Int :=
  (((store.orderRows orderId).filter fun entry =>
    entry.userId = delivery.userId ∧ entry.assetCode = delivery.assetCode).map
      EconomyLedgerEntry.amount).sum

/-- The order was reversed, and the delivery could not be taken back. -/
def StorePurchaseOrder.Frozen (order : StorePurchaseOrder) : Prop :=
  order.status ∈ finalStatuses ∧ order.metadata.recovery = some .freeze

instance (order : StorePurchaseOrder) : Decidable order.Frozen :=
  inferInstanceAs (Decidable (_ ∧ _))

def StorePurchaseOrder.outstanding (order : StorePurchaseOrder) (delivery : Delivery) : Int :=
  if order.status = .fulfilled ∨ order.Frozen then delivery.amount else 0

def NetGrantAgrees (catalog : StoreCatalog) (orderId : Nat) (tables : StoreTables) : Prop :=
  ∀ order product delivery, tables.selectOrder orderId = some order →
    catalog.findProduct order.iapProductId = some product →
    catalog.deliveryOf order product = some delivery →
    tables.economy.netGrant orderId delivery = order.outstanding delivery

/-- A reversal finds its key used, or a frozen order reversed the other way; a grant restores an
order whose delivery was not taken back, or finds the key of the restore used. -/
def BreaksBy (economy : EconomyStore) (order : StorePurchaseOrder) (product : IapProduct)
    (delivery : Delivery) : OrderAction → Prop
  | .reverse targetStatus =>
      (order.status = .fulfilled ∧ economy.HasKey delivery.userId delivery.assetCode
        (orderKey order.id (product.deliveryType.reversalAction targetStatus))) ∨
      (order.Frozen ∧ order.status ≠ targetStatus.status)
  | .purchase | .replay =>
      order.status ∈ finalStatuses ∧
        (order.metadata.recovery = some .freeze ↔
          ¬economy.HasKey delivery.userId delivery.assetCode
            (orderKey order.id product.deliveryType.restoreAction))

def BreaksGrant (catalog : StoreCatalog) (orderId : Nat) (e : Event StoreTables StoreOperation) :
    Prop :=
  ∃ order product delivery action, e.label.concerns e.before = some (order, action) ∧
    order.id = orderId ∧ catalog.findProduct order.iapProductId = some product ∧
    catalog.deliveryOf order product = some delivery ∧
    BreaksBy e.before.economy order product delivery action

/-! ## Bookings and the net grant -/

section NetGrant

variable {economy economy' : EconomyStore} {delivery : Delivery} {orderId : Nat} {action : String}
  {change : Int}

theorem netGrant_of_orderRows (hrows : economy'.orderRows orderId = economy.orderRows orderId) :
    economy'.netGrant orderId delivery = economy.netGrant orderId delivery := by
  unfold EconomyStore.netGrant
  rw [hrows]

theorem netGrant_of_unbooked (hnone : economy.orderRows orderId = []) :
    economy.netGrant orderId delivery = 0 := by
  simp [EconomyStore.netGrant, hnone]

theorem not_hasKey_of_unbooked (hmem : action ∈ bookedActions)
    (hnone : economy.orderRows orderId = []) :
    ¬economy.HasKey delivery.userId delivery.assetCode (orderKey orderId action) := by
  rintro ⟨entry, hentry, -, -, hkey⟩
  have hrow : entry ∈ economy.orderRows orderId := mem_orderRows.mpr ⟨hentry, action, hmem, hkey⟩
  simp [hnone] at hrow

theorem Booked.netGrant (hmem : action ∈ bookedActions)
    (h : Booked economy delivery (orderKey orderId action) change economy') :
    (economy.HasKey delivery.userId delivery.assetCode (orderKey orderId action) ∧
        economy'.netGrant orderId delivery = economy.netGrant orderId delivery) ∨
      (¬economy.HasKey delivery.userId delivery.assetCode (orderKey orderId action) ∧
        0 < delivery.amount ∧
        economy'.netGrant orderId delivery = economy.netGrant orderId delivery + change) := by
  rcases h.orderRows hmem with ⟨hkey, hrows⟩ |
    ⟨hfree, hpos, entry, huser, hasset, hamount, -, hrows⟩
  · exact .inl ⟨hkey, netGrant_of_orderRows hrows⟩
  · refine .inr ⟨hfree, hpos, ?_⟩
    unfold EconomyStore.netGrant
    rw [hrows, List.filter_append, List.map_append, List.sum_append]
    simp [huser, hasset, hamount]

end NetGrant

/-! ## One step -/

theorem ReversalStatus.status_mem (targetStatus : ReversalStatus) :
    targetStatus.status ∈ finalStatuses := by
  cases targetStatus <;> simp [ReversalStatus.status, finalStatuses]

theorem fulfilled_notMem : StorePurchaseStatus.fulfilled ∉ finalStatuses := by
  simp [finalStatuses]

section Outstanding

variable {order : StorePurchaseOrder} {delivery : Delivery}

theorem outstanding_of_fulfilled (h : order.status = .fulfilled) :
    order.outstanding delivery = delivery.amount := by
  simp [StorePurchaseOrder.outstanding, h]

theorem outstanding_of_final (h : order.status ∈ finalStatuses) :
    order.outstanding delivery =
      if order.metadata.recovery = some .freeze then delivery.amount else 0 := by
  have hnot : order.status ≠ .fulfilled := by
    intro hstatus
    exact fulfilled_notMem (hstatus ▸ h)
  simp [StorePurchaseOrder.outstanding, StorePurchaseOrder.Frozen, hnot, h]

theorem outstanding_of_open (h : order.Open) : order.outstanding delivery = 0 := by
  simp [StorePurchaseOrder.outstanding, StorePurchaseOrder.Frozen, h.1, h.2]

end Outstanding

/-- Nothing was booked for an open order, and only a positive delivery was ever booked. -/
structure GrantsBooked (catalog : StoreCatalog) (orderId : Nat) (tables : StoreTables) : Prop where
  wellFormed : tables.WellFormed catalog
  absent : tables.selectOrder orderId = none → tables.economy.orderRows orderId = []
  opened : ∀ order, tables.selectOrder orderId = some order → order.Open →
    tables.economy.orderRows orderId = [] ∧ order.metadata.manualApprovalRequired = true
  positive : ∀ order product delivery, tables.selectOrder orderId = some order →
    Linked catalog order product → catalog.deliveryOf order product = some delivery →
    order.status = .fulfilled ∨ order.metadata.recovery = some .freeze ∨
      tables.economy.orderRows orderId ≠ [] → 0 < delivery.amount

section Change

variable {catalog : StoreCatalog} {orderId : Nat} {tables tables' : StoreTables}
  {order order' : StorePurchaseOrder} {product : IapProduct} {delivery : Delivery}
  {action : OrderAction}

/-- **One change of an order.** It leaves the net grant right exactly if it does not break it. -/
theorem netGrant_iff_of_change (hbooked : GrantsBooked catalog orderId tables)
    (hagrees : tables.economy.netGrant orderId delivery = order.outstanding delivery)
    (hid : order.id = orderId) (hselected : tables.selectOrder orderId = some order)
    (hlinked : Linked catalog order product)
    (hdelivery : catalog.deliveryOf order product = some delivery)
    (hchanged : Changed catalog tables order product action tables' order') :
    tables'.economy.netGrant orderId delivery = order'.outstanding delivery ↔
      ¬BreaksBy tables.economy order product delivery action := by
  have hopened := hbooked.opened order hselected
  have hpositive := hbooked.positive order product delivery hselected hlinked hdelivery
  have hchange := hchanged.change
  generalize hafter : tables'.economy = economy' at hchange ⊢
  rw [hdelivery] at hchange
  cases hchange with
  | known hgrants hstatus hstatus' hmetadata =>
      rw [outstanding_of_fulfilled hstatus] at hagrees
      rw [outstanding_of_fulfilled hstatus']
      refine iff_of_true hagrees ?_
      cases action with
      | purchase | replay => exact fun hbreaks => fulfilled_notMem (hstatus ▸ hbreaks.1)
      | reverse targetStatus => exact absurd rfl (hgrants targetStatus)
  | @reversedAlready targetStatus hstatus =>
      refine iff_of_true hagrees ?_
      rintro (⟨hfulfilled, -⟩ | ⟨-, hother⟩)
      · exact fulfilled_notMem (hfulfilled ▸ hstatus ▸ targetStatus.status_mem)
      · exact hother hstatus
  | awaits hopen hstatus' hmanual hrecovery =>
      rw [outstanding_of_open hopen] at hagrees
      rw [outstanding_of_open (by simp [StorePurchaseOrder.Open, hstatus', finalStatuses])]
      exact iff_of_true hagrees fun hbreaks => hopen.2 hbreaks.1
  | fulfils granted hopen happroved hsome hcredit hstatus' =>
      obtain rfl := Option.some.inj hsome
      rw [hid] at hcredit
      rw [outstanding_of_open hopen] at hagrees
      rw [outstanding_of_fulfilled hstatus']
      have hmem := product.deliveryType.fulfillAction_mem
      refine iff_of_true ?_ ?_
      · rcases hcredit.netGrant hmem with ⟨hkey, -⟩ | ⟨-, -, hnet⟩
        · exact absurd hkey (not_hasKey_of_unbooked hmem (hopened hopen).1)
        · rw [hnet, hagrees, zero_add]
      · rcases happroved with rfl | ⟨rfl, -⟩ <;> exact fun hbreaks => hopen.2 hbreaks.1
  | restores hgrants hrestorable hcredit hnothing hstatus' hmetadata =>
      have hcredit := hcredit delivery rfl
      rw [hid] at hcredit
      have hfinal : order.status ∈ finalStatuses := by
        rcases hrestorable with hfinal | ⟨hopen, hauto⟩
        · exact hfinal
        · simp [OrderMetadata.isManualApprovalRequired, isManualApprovalRequiredMetadata,
            (hopened hopen).2] at hauto
      have hbreaks : BreaksBy tables.economy order product delivery action ↔
          (order.metadata.recovery = some .freeze ↔
            ¬tables.economy.HasKey delivery.userId delivery.assetCode
              (orderKey orderId product.deliveryType.restoreAction)) := by
        rcases hgrants with rfl | ⟨rfl, -⟩ <;> simp [BreaksBy, hfinal, hid]
      rw [outstanding_of_final hfinal] at hagrees
      rw [outstanding_of_fulfilled hstatus', hbreaks]
      rcases hcredit.netGrant product.deliveryType.restoreAction_mem with
        ⟨hkey, hnet⟩ | ⟨hfree, hpos, hnet⟩
      · have hpos := hpositive (.inr (.inr fun hnone =>
          not_hasKey_of_unbooked product.deliveryType.restoreAction_mem hnone hkey))
        rw [hnet, hagrees]
        by_cases hfreeze : order.metadata.recovery = some .freeze
        · simp [hfreeze, hkey]
        · simp [hfreeze, hkey]
          omega
      · rw [hnet, hagrees]
        by_cases hfreeze : order.metadata.recovery = some .freeze
        · simp [hfreeze, hfree]
          omega
        · simp [hfreeze, hfree]
  | @takesBack targetStatus _ _ granted hstatus hsome hrecovery hstatus' hmanual =>
      obtain rfl := Option.some.inj hsome
      rw [hid] at hrecovery
      have hpos := hpositive (.inl hstatus)
      have hfinal' : order'.status ∈ finalStatuses := hstatus' ▸ targetStatus.status_mem
      have hbreaks : BreaksBy tables.economy order product delivery (.reverse targetStatus) ↔
          tables.economy.HasKey delivery.userId delivery.assetCode
            (orderKey orderId (product.deliveryType.reversalAction targetStatus)) := by
        simp [BreaksBy, StorePurchaseOrder.Frozen, hstatus, hid, fulfilled_notMem]
      rw [outstanding_of_fulfilled hstatus] at hagrees
      rw [outstanding_of_final hfinal', hbreaks]
      rcases hrecovery with ⟨hdebited, hdebit⟩ | ⟨hfreeze, hsame, hfree⟩
      · rw [hdebited]
        rcases hdebit.netGrant (product.deliveryType.reversalAction_mem targetStatus) with
          ⟨hkey, hnet⟩ | ⟨hfree, -, hnet⟩
        · rw [hnet, hagrees]
          simp [hkey]
          omega
        · rw [hnet, hagrees]
          simp [hfree]
      · rw [hfreeze, hsame, hagrees]
        simp [hfree]
  | @closes targetStatus _ hstatus hother hrecovery hstatus' hmanual =>
      have hnotFulfilled : order.status ≠ .fulfilled := by simpa using hstatus
      have hfinal' : order'.status ∈ finalStatuses := hstatus' ▸ targetStatus.status_mem
      have hbreaks : BreaksBy tables.economy order product delivery (.reverse targetStatus) ↔
          order.Frozen := by
        simp [BreaksBy, hnotFulfilled, hother]
      rw [outstanding_of_final hfinal', hrecovery, hbreaks, hagrees]
      by_cases hfrozen : order.Frozen
      · have hpos := hpositive (.inr (.inl hfrozen.2))
        simp [StorePurchaseOrder.outstanding, hfrozen]
        omega
      · simp [StorePurchaseOrder.outstanding, hfrozen, hnotFulfilled]

theorem positive_of_change (hbooked : GrantsBooked catalog orderId tables)
    (hid : order.id = orderId) (hselected : tables.selectOrder orderId = some order)
    (hlinked : Linked catalog order product)
    (hdelivery : catalog.deliveryOf order product = some delivery)
    (hchanged : Changed catalog tables order product action tables' order')
    (hgranted : order'.status = .fulfilled ∨ order'.metadata.recovery = some .freeze ∨
      tables'.economy.orderRows orderId ≠ []) : 0 < delivery.amount := by
  have hpositive := hbooked.positive order product delivery hselected hlinked hdelivery
  have hcredited {granted : Delivery} {key : String} (hmem : key ∈ bookedActions)
      (hcredit : Booked tables.economy granted (orderKey orderId key) granted.amount
        tables'.economy) (hsame : granted = delivery) : 0 < delivery.amount := by
    rw [hsame] at hcredit
    rcases hcredit.netGrant hmem with ⟨hkey, -⟩ | ⟨-, hpos, -⟩
    · exact hpositive (.inr (.inr fun hnone => not_hasKey_of_unbooked hmem hnone hkey))
    · exact hpos
  have hchange := hchanged.change
  generalize hafter : tables'.economy = economy' at hchange hgranted hcredited
  rw [hdelivery] at hchange
  cases hchange with
  | known hgrants hstatus => exact hpositive (.inl hstatus)
  | reversedAlready hstatus => exact hpositive hgranted
  | awaits hopen hstatus' hmanual hrecovery =>
      rw [hstatus', hrecovery] at hgranted
      exact hpositive (.inr (hgranted.resolve_left (by simp)))
  | fulfils granted hopen happroved hsome hcredit =>
      rw [hid] at hcredit
      exact hcredited product.deliveryType.fulfillAction_mem hcredit (Option.some.inj hsome).symm
  | restores hgrants hrestorable hcredit =>
      have hcredit := hcredit delivery rfl
      rw [hid] at hcredit
      exact hcredited product.deliveryType.restoreAction_mem hcredit rfl
  | takesBack granted hstatus => exact hpositive (.inl hstatus)
  | @closes targetStatus _ hstatus hother hrecovery hstatus' =>
      rw [hrecovery] at hgranted
      rcases hgranted with hfulfilled | hfreeze | hrows
      · exact absurd (hstatus' ▸ targetStatus.status_mem)
          (show order'.status ∉ finalStatuses from hfulfilled ▸ fulfilled_notMem)
      · cases hfreeze
      · exact hpositive (.inr (.inr hrows))

theorem opened_of_change (hbooked : GrantsBooked catalog orderId tables)
    (hselected : tables.selectOrder orderId = some order)
    (hchanged : Changed catalog tables order product action tables' order')
    (hopen' : order'.Open) :
    tables'.economy.orderRows orderId = [] ∧ order'.metadata.manualApprovalRequired = true := by
  have hopened := hbooked.opened order hselected
  have hchange := hchanged.change
  generalize hafter : tables'.economy = economy' at hchange ⊢
  cases hchange with
  | known hgrants hstatus hstatus' => exact absurd hstatus' hopen'.1
  | reversedAlready hstatus => exact hopened hopen'
  | awaits hopen hstatus' hmanual => exact ⟨(hopened hopen).1, hmanual⟩
  | fulfils granted hopen happroved hsome hcredit hstatus' => exact absurd hstatus' hopen'.1
  | restores hgrants hrestorable hcredit hnothing hstatus' => exact absurd hstatus' hopen'.1
  | @takesBack targetStatus _ _ granted hstatus hsome hrecovery hstatus' =>
      exact absurd (hstatus' ▸ targetStatus.status_mem) hopen'.2
  | @closes targetStatus _ hstatus hother hrecovery hstatus' =>
      exact absurd (hstatus' ▸ targetStatus.status_mem) hopen'.2

end Change

section Steps

variable {catalog : StoreCatalog} {orderId : Nat} {tables tables' : StoreTables}
  {operation : StoreOperation}

theorem grantsBooked_step (hbooked : GrantsBooked catalog orderId tables)
    (hstep : storeStep catalog tables operation = .ok tables') :
    GrantsBooked catalog orderId tables' := by
  have hwell := wellFormed_step hbooked.wellFormed hstep
  cases storeStep_rowEffect orderId hbooked.wellFormed hstep with
  | untouched hother hselected hrows =>
      constructor
      · exact hwell
      · rw [hselected, hrows]
        exact hbooked.absent
      · rw [hselected, hrows]
        exact hbooked.opened
      · rw [hselected, hrows]
        exact hbooked.positive
  | creates order product hconcerns hid hnew =>
      have hselected : tables'.selectOrder orderId = some order := hid ▸ hnew.selected
      have hnone : tables.economy.orderRows orderId = [] := hbooked.absent (hid ▸ hnew.fresh)
      refine ⟨hwell, by simp [hselected], ?_, ?_⟩
      · intro row hrow hopen
        obtain rfl := Option.some.inj (hselected.symm.trans hrow)
        rcases hnew.grant with ⟨-, hmanual, hsame⟩ | ⟨hstatus, -⟩
        · exact ⟨hsame ▸ hnone, hmanual⟩
        · exact absurd hstatus hopen.1
      · intro row product' delivery hrow hlinked hdelivery hgranted
        obtain rfl := Option.some.inj (hselected.symm.trans hrow)
        rw [hnew.linked.eq hlinked.found] at hdelivery
        rcases hnew.grant with ⟨hstatus, -, hsame⟩ | ⟨-, -, granted, hsome, hcredit⟩
        · simp [hstatus, hnew.recovery, hsame, hnone] at hgranted
        · obtain rfl := Option.some.inj (hsome.symm.trans hdelivery)
          rw [hid] at hcredit
          have hmem := product.deliveryType.fulfillAction_mem
          rcases hcredit.netGrant hmem with ⟨hkey, -⟩ | ⟨-, hpos, -⟩
          · exact absurd hkey (not_hasKey_of_unbooked hmem hnone)
          · exact hpos
  | changes order order' product action hconcerns hreplay hid hselected hlinked hchanged =>
      have hselected' := hchanged.selected hid
      refine ⟨hwell, by simp [hselected'], ?_, ?_⟩
      · intro row hrow
        obtain rfl := Option.some.inj (hselected'.symm.trans hrow)
        exact opened_of_change hbooked hselected hchanged
      · intro row product' delivery hrow hlinked' hdelivery
        obtain rfl := Option.some.inj (hselected'.symm.trans hrow)
        rw [(hchanged.same.linked hlinked).eq hlinked'.found, hchanged.same.deliveryOf] at hdelivery
        exact positive_of_change hbooked hid hselected hlinked hdelivery hchanged

theorem netGrantAgrees_step_iff (hbooked : GrantsBooked catalog orderId tables)
    (hagrees : NetGrantAgrees catalog orderId tables)
    (hstep : storeStep catalog tables operation = .ok tables') :
    NetGrantAgrees catalog orderId tables' ↔
      ¬BreaksGrant catalog orderId ⟨tables, operation, tables'⟩ := by
  cases storeStep_rowEffect orderId hbooked.wellFormed hstep with
  | untouched hother hselected hrows =>
      refine iff_of_true ?_ ?_
      · intro order product delivery horder hfound hdelivery
        rw [hselected] at horder
        rw [netGrant_of_orderRows hrows]
        exact hagrees order product delivery horder hfound hdelivery
      · rintro ⟨order, product, delivery, action, hconcerns, hid, -⟩
        exact hother order action hconcerns hid
  | creates order product hconcerns hid hnew =>
      have hselected : tables'.selectOrder orderId = some order := hid ▸ hnew.selected
      have hnone : tables.economy.orderRows orderId = [] := hbooked.absent (hid ▸ hnew.fresh)
      refine iff_of_true ?_ ?_
      · intro row product' delivery hrow hfound hdelivery
        obtain rfl := Option.some.inj (hselected.symm.trans hrow)
        rw [hnew.linked.eq hfound] at hdelivery
        rcases hnew.grant with ⟨hstatus, -, hsame⟩ | ⟨hstatus, -, granted, hsome, hcredit⟩
        · rw [hsame, netGrant_of_unbooked hnone,
            outstanding_of_open (by simp [StorePurchaseOrder.Open, hstatus, finalStatuses])]
        · obtain rfl := Option.some.inj (hsome.symm.trans hdelivery)
          rw [hid] at hcredit
          have hmem := product.deliveryType.fulfillAction_mem
          rcases hcredit.netGrant hmem with ⟨hkey, -⟩ | ⟨-, -, hnet⟩
          · exact absurd hkey (not_hasKey_of_unbooked hmem hnone)
          · rw [hnet, netGrant_of_unbooked hnone, outstanding_of_fulfilled hstatus, zero_add]
      · rintro ⟨_, _, _, _, hsome, -⟩
        rw [hconcerns] at hsome
        cases hsome
  | changes order order' product action hconcerns hreplay hid hselected hlinked hchanged =>
      have hselected' := hchanged.selected hid
      have hiff (delivery : Delivery) (hdelivery : catalog.deliveryOf order product = some delivery) :=
        netGrant_iff_of_change hbooked (hagrees order product delivery hselected hlinked.found
          hdelivery) hid hselected hlinked hdelivery hchanged
      constructor
      · rintro hagrees' ⟨row, product', delivery, action', hsome, hid', hfound, hdelivery, hbreaks⟩
        obtain ⟨rfl, rfl⟩ := Prod.mk.inj (Option.some.inj (hconcerns.symm.trans hsome))
        rw [hlinked.eq hfound] at hdelivery hbreaks
        refine (hiff delivery hdelivery).mp ?_ hbreaks
        exact hagrees' order' product delivery hselected' (hchanged.same.linked hlinked).found
          (hchanged.same.deliveryOf.trans hdelivery)
      · intro hno row product' delivery hrow hfound hdelivery
        obtain rfl := Option.some.inj (hselected'.symm.trans hrow)
        rw [(hchanged.same.linked hlinked).eq hfound, hchanged.same.deliveryOf] at hdelivery
        refine (hiff delivery hdelivery).mpr fun hbreaks => hno ?_
        exact ⟨order, product, delivery, action, hconcerns, hid, hlinked.found, hdelivery, hbreaks⟩

end Steps

/-- **The net grant over a run.** It agrees with the order throughout a run exactly if no step
breaks it. -/
theorem netGrantAgrees_iff {catalog : StoreCatalog} {tables t : StoreTables}
    {events : List (Event StoreTables StoreOperation)} (orderId : Nat)
    (hrun : Run (Accepts (storeStep catalog)) tables events t) (hnoOrders : tables.orders = [])
    (hunbooked : tables.economy.orderRows orderId = []) :
    (∀ e ∈ events, NetGrantAgrees catalog orderId e.after) ↔
      ∀ e ∈ events, ¬BreaksGrant catalog orderId e := by
  have hnone : tables.selectOrder orderId = none := by
    simp [StoreTables.selectOrder, hnoOrders, Keyed.lookup]
  have hbooked : GrantsBooked catalog orderId tables :=
    ⟨wellFormed_of_noOrders hnoOrders, fun _ => hunbooked, by simp [hnone], by simp [hnone]⟩
  have hagrees : NetGrantAgrees catalog orderId tables := by
    intro order product delivery horder
    simp [hnone] at horder
  exact Run.forall_after_iff_of_guard
    (I := fun tables => GrantsBooked catalog orderId tables ∧ NetGrantAgrees catalog orderId tables)
    (fun _ _ _ hu hstep => netGrantAgrees_step_iff hu.1 hu.2 hstep)
    (fun _ _ _ hu hstep hv => ⟨grantsBooked_step hu.1 hstep, hv⟩) hrun ⟨hbooked, hagrees⟩

section Example

def voucherDelivered : Delivery := ⟨7, .iapVoucher, 500⟩

/-- A verified purchase is refunded, reported as purchased again, and refunded again. -/
def refundTwice : List StoreOperation :=
  [.verify willingStores (voucherRequest "purchase-1" "app_store"),
    .notify willingStores .ios (transactionSnapshot "app_store" .refunded),
    .notify willingStores .ios (transactionSnapshot "app_store" .purchased),
    .notify willingStores .ios (transactionSnapshot "app_store" .refunded)]

/-- The second refund is recorded as debited, and 5.00 stay with the user. -/
theorem not_netGrantAgrees_of_refundTwice :
    ∃ events t, Run (Accepts (storeStep voucherCatalog)) noPurchases events t ∧
      (∃ order, t.selectOrder 1 = some order ∧ order.status = .refunded ∧
        order.metadata.recovery = some .debited) ∧
      t.economy.netGrant 1 voucherDelivered = 500 ∧ ¬NetGrantAgrees voucherCatalog 1 t := by
  obtain ⟨events, t, hrun, hcheck⟩ := Run.exists_of_check (storeStep voucherCatalog) noPurchases
    refundTwice
    (fun _ t => ((t.selectOrder 1).any fun (order : StorePurchaseOrder) =>
        decide (order.status = .refunded ∧ order.metadata.recovery = some .debited ∧
          voucherCatalog.findProduct order.iapProductId = some voucherProduct ∧
          voucherCatalog.deliveryOf order voucherProduct = some voucherDelivered)) &&
      decide (t.economy.netGrant 1 voucherDelivered = 500))
    (by decide +kernel)
  obtain ⟨horder, hnet⟩ := Bool.and_eq_true_iff.mp hcheck
  obtain ⟨order, hselected, hchecked⟩ := (Option.any_eq_true _ _).mp horder
  obtain ⟨hstatus, hrecovery, hfound, hdelivery⟩ := of_decide_eq_true hchecked
  have hnet := of_decide_eq_true hnet
  refine ⟨events, t, hrun, ⟨order, hselected, hstatus, hrecovery⟩, hnet, fun hagrees => ?_⟩
  have hfinal : order.status ∈ finalStatuses := by simp [hstatus, finalStatuses]
  have hlaw := hagrees order voucherProduct voucherDelivered hselected hfound hdelivery
  rw [hnet, outstanding_of_final hfinal, hrecovery] at hlaw
  simp at hlaw

theorem netGrantAgrees_iff_refundTwice :
    ∃ events t, Run (Accepts (storeStep voucherCatalog)) noPurchases events t ∧
      events.length = 4 ∧
      ((∀ e ∈ events, NetGrantAgrees voucherCatalog 1 e.after) ↔
        ∀ e ∈ events, ¬BreaksGrant voucherCatalog 1 e) := by
  obtain ⟨events, t, hrun, hcheck⟩ := Run.exists_of_check (storeStep voucherCatalog) noPurchases
    refundTwice (fun events _ => decide (events.length = 4)) (by decide +kernel)
  exact ⟨events, t, hrun, of_decide_eq_true hcheck, netGrantAgrees_iff 1 hrun rfl rfl⟩

end Example

end RewardSystem.Economy
