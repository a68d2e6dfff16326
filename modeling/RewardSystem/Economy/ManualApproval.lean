import RewardSystem.Economy.StoreTransitions

/-!
# The manual approval gate

The receipt of an order was verified by the local stub only, and no administrator replays the order.
While the order is open the gate holds. It is not asked for an order that was refunded or revoked:
the next purchase that is reported for it credits the asset.
-/

namespace RewardSystem.Economy

open Transition

/-- No asset was credited for the order. -/
def Uncredited (orderId : Nat) (tables : StoreTables) : Prop :=
  ∀ entry ∈ tables.economy.orderRows orderId, entry.amount ≤ 0

/-- If the step creates the order, then as one that an administrator has to approve. -/
def CreatedForApproval (orderId : Nat) (e : Event StoreTables StoreOperation) : Prop :=
  e.before.selectOrder orderId = none → ∀ order, e.after.selectOrder orderId = some order →
    order.metadata.manualApprovalRequired = true

def ReplaysOrder (orderId : Nat) (operation : StoreOperation) : Prop :=
  ∃ answers, operation = .replay answers orderId

/-- A purchase is reported for the order after it was refunded or revoked, and its product delivers
something. -/
def RegrantsAfterReversal (catalog : StoreCatalog) (orderId : Nat)
    (e : Event StoreTables StoreOperation) : Prop :=
  ∃ order product delivery, e.label.concerns e.before = some (order, .purchase) ∧
    order.id = orderId ∧ order.status ∈ finalStatuses ∧
    catalog.findProduct order.iapProductId = some product ∧
    catalog.deliveryOf order product = some delivery

/-- Nothing was booked for the order, which is not fulfilled unless it delivers nothing. -/
structure Gated (catalog : StoreCatalog) (orderId : Nat) (tables : StoreTables) : Prop where
  wellFormed : tables.WellFormed catalog
  unbooked : tables.economy.orderRows orderId = []
  manual : ∀ order, tables.selectOrder orderId = some order →
    order.metadata.manualApprovalRequired = true
  unfulfilled : ∀ order product, tables.selectOrder orderId = some order →
    Linked catalog order product → order.status = .fulfilled →
    catalog.deliveryOf order product = none

section Gate

variable {catalog : StoreCatalog} {orderId : Nat} {tables tables' : StoreTables}
  {operation : StoreOperation}

theorem uncredited_of_gated (h : Gated catalog orderId tables) : Uncredited orderId tables := by
  simp [Uncredited, h.unbooked]

theorem gated_of_row {order' : StorePurchaseOrder} {product : IapProduct}
    (hwell : tables'.WellFormed catalog) (hselected : tables'.selectOrder orderId = some order')
    (hlinked : Linked catalog order' product) (hrows : tables'.economy.orderRows orderId = [])
    (hmanual : order'.metadata.manualApprovalRequired = true)
    (hunfulfilled : order'.status = .fulfilled → catalog.deliveryOf order' product = none) :
    Gated catalog orderId tables' where
  wellFormed := hwell
  unbooked := hrows
  manual row hrow := by
    obtain rfl := Option.some.inj (hselected.symm.trans hrow)
    exact hmanual
  unfulfilled row product' hrow hproduct := by
    obtain rfl := Option.some.inj (hselected.symm.trans hrow)
    rw [hlinked.eq hproduct.found]
    exact hunfulfilled

theorem credited_of_booked {delivery : Delivery} {action : String} (hmem : action ∈ bookedActions)
    (hnone : tables.economy.orderRows orderId = [])
    (h : Booked tables.economy delivery (orderKey orderId action) delivery.amount
      tables'.economy) : ¬Uncredited orderId tables' := by
  intro huncredited
  rcases h.orderRows hmem with ⟨⟨entry, hentry, -, -, hkey⟩, -⟩ |
    ⟨-, hpos, entry, -, -, hamount, -, hrows⟩
  · have hrow : entry ∈ tables.economy.orderRows orderId :=
      mem_orderRows.mpr ⟨hentry, action, hmem, hkey⟩
    simp [hnone] at hrow
  · have hle := huncredited entry (by simp [hrows])
    omega

section Change

variable {order order' : StorePurchaseOrder} {product : IapProduct} {action : OrderAction}

theorem credited_of_regrant {delivery : Delivery} (hgated : Gated catalog orderId tables)
    (hid : order.id = orderId)
    (hchanged : Changed catalog tables order product .purchase tables' order')
    (hfinal : order.status ∈ finalStatuses)
    (hdelivery : catalog.deliveryOf order product = some delivery) :
    ¬Uncredited orderId tables' := by
  have hnotFulfilled : order.status ≠ .fulfilled := by
    intro hstatus
    simp [hstatus, finalStatuses] at hfinal
  have hchange := hchanged.change
  generalize hafter : tables'.economy = economy' at hchange
  cases hchange with
  | known hgrants hstatus => exact absurd hstatus hnotFulfilled
  | awaits hopen => exact absurd hfinal hopen.2
  | fulfils granted hopen => exact absurd hfinal hopen.2
  | restores hgrants hrestorable hbooked =>
      have hbooked := hbooked delivery hdelivery
      rw [hid, ← hafter] at hbooked
      exact credited_of_booked product.deliveryType.restoreAction_mem hgated.unbooked hbooked

theorem gated_of_change (hgated : Gated catalog orderId tables) (hid : order.id = orderId)
    (hselected : tables.selectOrder orderId = some order) (hlinked : Linked catalog order product)
    (hchanged : Changed catalog tables order product action tables' order')
    (hwell : tables'.WellFormed catalog) (hreplay : action ≠ .replay)
    (hgrant : action = .purchase → order.status ∈ finalStatuses →
      catalog.deliveryOf order product = none) :
    Gated catalog orderId tables' := by
  have hmanual := hgated.manual order hselected
  have hunfulfilled := hgated.unfulfilled order product hselected hlinked
  have hselected' := hchanged.selected hid
  have hgatedAfter (hrows : tables'.economy = tables.economy)
      (hmanual' : order'.metadata.manualApprovalRequired = true)
      (hunfulfilled' : order'.status = .fulfilled → catalog.deliveryOf order product = none) :
      Gated catalog orderId tables' := by
    refine gated_of_row hwell hselected' (hchanged.same.linked hlinked) ?_ hmanual' ?_
    · rw [hrows]
      exact hgated.unbooked
    · rw [hchanged.same.deliveryOf]
      exact hunfulfilled'
  have hchange := hchanged.change
  generalize hafter : tables'.economy = economy' at hchange
  cases hchange with
  | known hgrants hstatus hstatus' hmetadata =>
      exact hgatedAfter hafter (by rw [hmetadata]; exact hmanual) fun _ => hunfulfilled hstatus
  | reversedAlready hstatus => exact hgatedAfter hafter hmanual hunfulfilled
  | awaits hopen hstatus' hmanual' hrecovery =>
      exact hgatedAfter hafter hmanual' (by simp [hstatus'])
  | fulfils granted hopen happroved =>
      rcases happroved with rfl | ⟨-, hauto⟩
      · exact absurd rfl hreplay
      · simp [OrderMetadata.isManualApprovalRequired, isManualApprovalRequiredMetadata,
          hmanual] at hauto
  | restores hgrants hrestorable hbooked hnothing hstatus' hmetadata =>
      rcases hgrants with rfl | ⟨rfl, hfinal⟩
      · exact absurd rfl hreplay
      · have hnone := hgrant rfl hfinal
        rw [hnothing hnone] at hafter
        exact hgatedAfter hafter (by rw [hmetadata]; exact hmanual) fun _ => hnone
  | takesBack granted hstatus hdelivery =>
      rw [hunfulfilled hstatus] at hdelivery
      cases hdelivery
  | @closes targetStatus _ hstatus hother hrecovery hstatus' hmanual' =>
      refine hgatedAfter hafter (by rw [hmanual']; exact hmanual) ?_
      rw [hstatus']
      cases targetStatus <;> simp [ReversalStatus.status]

end Change

section Step

variable {operation : StoreOperation}

theorem credited_of_regrants (hgated : Gated catalog orderId tables)
    (hstep : storeStep catalog tables operation = .ok tables')
    (hregrants : RegrantsAfterReversal catalog orderId ⟨tables, operation, tables'⟩) :
    ¬Uncredited orderId tables' := by
  obtain ⟨order, product, delivery, hconcerns, hid, hfinal, hfound, hdelivery⟩ := hregrants
  cases storeStep_rowEffect orderId hgated.wellFormed hstep with
  | untouched hother => exact absurd hid (hother order _ hconcerns)
  | creates _ _ hnone =>
      rw [hnone] at hconcerns
      cases hconcerns
  | changes _ order' _ _ hsome _ _ _ hlinked hchanged =>
      obtain ⟨rfl, rfl⟩ := Prod.mk.inj (Option.some.inj (hsome.symm.trans hconcerns))
      rw [hlinked.eq hfound] at hdelivery
      exact credited_of_regrant hgated hid hchanged hfinal hdelivery

theorem gated_of_not_regrants (hgated : Gated catalog orderId tables)
    (hstep : storeStep catalog tables operation = .ok tables')
    (hcreated : CreatedForApproval orderId ⟨tables, operation, tables'⟩)
    (hreplay : ¬ReplaysOrder orderId operation)
    (hno : ¬RegrantsAfterReversal catalog orderId ⟨tables, operation, tables'⟩) :
    Gated catalog orderId tables' := by
  have hwell : tables'.WellFormed catalog := wellFormed_step hgated.wellFormed hstep
  cases storeStep_rowEffect orderId hgated.wellFormed hstep with
  | untouched hother hselected hrows =>
      refine ⟨hwell, hrows.trans hgated.unbooked, ?_, ?_⟩
      · rw [hselected]
        exact hgated.manual
      · rw [hselected]
        exact hgated.unfulfilled
  | creates order product hconcerns hid hnew =>
      have hselected : tables'.selectOrder orderId = some order := hid ▸ hnew.selected
      have hmanual := hcreated (hid ▸ hnew.fresh) order hselected
      rcases hnew.grant with ⟨hstatus, -, hsame⟩ | ⟨-, hauto, -⟩
      · refine gated_of_row hwell hselected hnew.linked ?_ hmanual (by simp [hstatus])
        rw [hsame]
        exact hgated.unbooked
      · rw [hmanual] at hauto
        cases hauto
  | changes order order' product action hconcerns hreplays hid hselected hlinked hchanged =>
      refine gated_of_change hgated hid hselected hlinked hchanged hwell ?_ ?_
      · exact fun h => hreplay (hreplays h)
      · rintro rfl hfinal
        by_contra hdelivers
        obtain ⟨delivery, hdelivery⟩ := Option.ne_none_iff_exists'.mp hdelivers
        exact hno ⟨order, product, delivery, hconcerns, hid, hfinal, hlinked.found, hdelivery⟩

end Step

end Gate

/-- **The gate over a run.** An order created for approval, in a run without a replay of it, is never
credited exactly if no purchase is reported for it after a reversal. -/
theorem uncredited_iff_of_stub {catalog : StoreCatalog} {tables t : StoreTables}
    {events : List (Event StoreTables StoreOperation)} (orderId : Nat)
    (hrun : Run (Accepts (storeStep catalog)) tables events t) (hnoOrders : tables.orders = [])
    (hunbooked : tables.economy.orderRows orderId = [])
    (hcreated : ∀ e ∈ events, CreatedForApproval orderId e)
    (hreplay : ∀ e ∈ events, ¬ReplaysOrder orderId e.label) :
    (∀ e ∈ events, Uncredited orderId e.after) ↔
      ∀ e ∈ events, ¬RegrantsAfterReversal catalog orderId e := by
  have hgated : Gated catalog orderId tables := by
    refine ⟨wellFormed_of_noOrders hnoOrders, hunbooked, ?_, ?_⟩ <;>
      simp [StoreTables.selectOrder, hnoOrders, Keyed.lookup]
  have hrestricted := hrun.restrict (C := fun e =>
    CreatedForApproval orderId e ∧ ¬ReplaysOrder orderId e.label)
    fun e he => ⟨hcreated e he, hreplay e he⟩
  refine Run.forall_after_iff_of_guard (I := Gated catalog orderId) ?_ ?_ hrestricted hgated
  · rintro u operation v hu ⟨hstep, hcreatedHere, hreplayHere⟩
    constructor
    · exact fun huncredited hregrants => credited_of_regrants hu hstep hregrants huncredited
    · exact fun hno => uncredited_of_gated (gated_of_not_regrants hu hstep hcreatedHere
        hreplayHere hno)
  · rintro u operation v hu ⟨hstep, hcreatedHere, hreplayHere⟩ huncredited
    exact gated_of_not_regrants hu hstep hcreatedHere hreplayHere fun hregrants =>
      credited_of_regrants hu hstep hregrants huncredited

section Example

def voucherProduct : IapProduct :=
  { id := 1
    sku := "voucher-5"
    storeChannel := .ios
    deliveryType := .voucher
    assetCode := some .iapVoucher
    assetAmount := some 500
    isActive := true }

def voucherCatalog : StoreCatalog :=
  { products := [voucherProduct]
    productIds := by simp [Keyed.HasKeys]
    giftPacks := []
    isGooglePlayVerificationConfigured := false }

def noPurchases : StoreTables :=
  { economy :=
      { balances := fun _ _ => ⟨0, 0, 0, 0⟩
        entries := []
        giftTransfers := []
        giftEnergy := fun _ => none }
    orders := []
    receipts := [] }

def willingStores : StoreAnswers :=
  { giftPackRecipientEligible := .ok ()
    acknowledgement := .ok () }

def transactionSnapshot (verificationMode : String) (storeState : StoreState) :
    VerifiedReceiptSnapshot :=
  { externalOrderId := none
    externalTransactionId := some "transaction-1"
    purchaseToken := none
    metadata := ⟨some verificationMode, none⟩
    needsAcknowledgement := false
    storeState := storeState }

def voucherRequest (idempotencyKey verificationMode : String) : VerifyRequest :=
  { orderId := 1
    userId := 7
    idempotencyKey := idempotencyKey
    sku := "voucher-5"
    storeChannel := .ios
    recipientUserId := none
    verified := transactionSnapshot verificationMode .purchased }

/-- The user verifies a purchase, an administrator refunds it, and the user verifies it again. -/
def reverifyAfterRefund : List StoreOperation :=
  [.verify willingStores (voucherRequest "purchase-1" localStubVerificationMode),
    .reverse 1 .refunded,
    .verify willingStores (voucherRequest "purchase-1" localStubVerificationMode)]

/-- An executable form of the conditions on the steps of a run. -/
def checkStubStep (orderId : Nat) (e : Event StoreTables StoreOperation) : Bool :=
  ((e.before.selectOrder orderId).isSome ||
    (e.after.selectOrder orderId).all fun order => order.metadata.manualApprovalRequired) &&
  (match e.label with
    | .replay _ id => decide (id ≠ orderId)
    | _ => true)

theorem of_checkStubStep {orderId : Nat} {e : Event StoreTables StoreOperation}
    (h : checkStubStep orderId e = true) :
    CreatedForApproval orderId e ∧ ¬ReplaysOrder orderId e.label := by
  obtain ⟨hcreated, hreplay⟩ := Bool.and_eq_true_iff.mp h
  constructor
  · intro hnone order horder
    simpa [hnone, horder] using hcreated
  · rintro ⟨answers, hlabel⟩
    simp [hlabel] at hreplay

theorem not_uncredited_of_reverifyAfterRefund :
    ∃ events t, Run (Accepts (storeStep voucherCatalog)) noPurchases events t ∧
      (∀ e ∈ events, CreatedForApproval 1 e ∧ ¬ReplaysOrder 1 e.label) ∧
      (∃ entry ∈ t.economy.orderRows 1, entry.userId = 7 ∧ entry.assetCode = .iapVoucher ∧
        entry.amount = 500) ∧ ¬Uncredited 1 t := by
  obtain ⟨events, t, hrun, hcheck⟩ := Run.exists_of_check (storeStep voucherCatalog) noPurchases
    reverifyAfterRefund
    (fun events t => events.all (checkStubStep 1) && decide (∃ entry ∈ t.economy.orderRows 1,
      entry.userId = 7 ∧ entry.assetCode = .iapVoucher ∧ entry.amount = 500))
    (by decide +kernel)
  obtain ⟨hsteps, hcredit⟩ := Bool.and_eq_true_iff.mp hcheck
  have hcredit := of_decide_eq_true hcredit
  refine ⟨events, t, hrun, ?_, hcredit, ?_⟩
  · exact fun e he => of_checkStubStep (List.all_eq_true.mp hsteps e he)
  · obtain ⟨entry, hentry, -, -, hamount⟩ := hcredit
    intro huncredited
    have hle := huncredited entry hentry
    omega

theorem uncredited_iff_reverifyAfterRefund :
    ∃ events t, Run (Accepts (storeStep voucherCatalog)) noPurchases events t ∧
      events.length = 3 ∧
      ((∀ e ∈ events, Uncredited 1 e.after) ↔
        ∀ e ∈ events, ¬RegrantsAfterReversal voucherCatalog 1 e) := by
  obtain ⟨events, t, hrun, hcheck⟩ := Run.exists_of_check (storeStep voucherCatalog) noPurchases
    reverifyAfterRefund
    (fun events _ => decide (events.length = 3) && events.all (checkStubStep 1))
    (by decide +kernel)
  obtain ⟨hlength, hsteps⟩ := Bool.and_eq_true_iff.mp hcheck
  have hstub := fun e he => of_checkStubStep (List.all_eq_true.mp hsteps e he)
  exact ⟨events, t, hrun, of_decide_eq_true hlength,
    uncredited_iff_of_stub 1 hrun rfl rfl (fun e he => (hstub e he).1) fun e he => (hstub e he).2⟩

end Example

end RewardSystem.Economy
