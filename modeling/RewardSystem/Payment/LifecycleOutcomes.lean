import RewardSystem.TopUp.Service
import RewardSystem.Withdraw.Lifecycle

/-!
# What the lifecycle makes of an order

For each operation that a provider's report leads to: when it is accepted, and where the order is
afterwards. An order at another status than the sources of an operation stays where it is.
-/

namespace RewardSystem.Payment

open TopUp Withdraw Wallet

theorem onOrder_of_stays {ρ : Type} {order : Option ρ} {goesOn : ρ → Bool} {row : ρ}
    {store : FinanceStore} {body : ρ → Except ApiError FinanceStore} (hrow : order = some row)
    (hstays : goesOn row = false) : onOrder order goesOn store body = .ok store := by
  simp [onOrder, hrow, hstays]

theorem reference_of_gate {S A : Type} [DecidableEq S] [DecidableEq A]
    {metadata : FinanceMetadata S A} {params : DualReviewParams S A}
    {result : DualReviewResult S A} (hgate : applyDualReviewGate metadata params = .ok result)
    (hnote : normalizeOptionalString params.review.operatorNote ≠ none)
    (hrequired : params.requireSettlementReference = true) :
    normalizeOptionalString params.review.settlementReference ≠ none := by
  intro hreference
  rw [applyDualReviewGate_of_no_reference metadata params hnote hrequired hreference] at hgate
  cases hgate

theorem processingChannel_of_gate {S A : Type} [DecidableEq S] [DecidableEq A]
    {metadata : FinanceMetadata S A} {params : DualReviewParams S A}
    {result : DualReviewResult S A} (hgate : applyDualReviewGate metadata params = .ok result)
    (hbypass : params.bypassDualReview = true) :
    result.effectiveReview.processingChannel =
      normalizeOptionalString params.review.processingChannel := by
  unfold applyDualReviewGate at hgate
  cases hnote : normalizeOptionalString params.review.operatorNote with
  | none => simp [hnote] at hgate
  | some note =>
      cases hadmin : params.review.adminId <;>
        simp only [hnote, hadmin, hbypass, ApiError.bind_eq_ok, Except.ok.injEq] at hgate <;>
        obtain ⟨_, _, rfl⟩ := hgate <;> rfl

section Deposits

variable {mark : DepositMark} {id : Nat} {review : FinanceReviewPayload}
  {store store' : FinanceStore} {row : DepositRow}

theorem transitionDepositStatus_of_ne {toStatus : DepositStatus} {metadata : DepositMetadata}
    {params : WorkflowParams} (hne : row.status ≠ toStatus)
    (hok : transitionDepositStatus store row toStatus metadata params = .ok store') :
    HasTransition depositTransitions row.status toStatus ∧
      ∃ metadata, store' = store.updateDeposit row.id toStatus metadata := by
  rw [transitionDepositStatus, if_neg hne] at hok
  obtain ⟨written, hwritten, hok⟩ := ApiError.bind_eq_ok.mp hok
  obtain ⟨_, hassert, _⟩ := ApiError.bind_eq_ok.mp hwritten
  exact ⟨assertDepositTransition_some_eq_ok.mp hassert, written, (Except.ok.inj hok).symm⟩

theorem transitionDepositStatus_of_edge {toStatus : DepositStatus} (metadata : DepositMetadata)
    (params : WorkflowParams) (hne : row.status ≠ toStatus)
    (hedge : HasTransition depositTransitions row.status toStatus) :
    ∃ store', transitionDepositStatus store row toStatus metadata params = .ok store' := by
  have hassert : assertDepositTransition (some row.status) toStatus = .ok () :=
    assertDepositTransition_some_eq_ok.mpr hedge
  rw [transitionDepositStatus, if_neg hne, appendDepositWorkflowMetadata, hassert]
  exact ⟨_, rfl⟩

/-- A mark takes an order at one of its sources along an edge to its target, and leaves any other
order where it is. -/
theorem exists_markDeposit_iff (hrow : store.lockDepositById id = some row)
    (hnote : normalizeOptionalString (some mark.fallbackNote) ≠ none)
    (htarget : mark.target ∉ mark.sources) {P : DepositStatus → Prop} :
    (∃ store', markDeposit mark id review store = .ok store' ∧
        ∃ status ∈ (store'.lockDepositById id).map DepositRow.status, P status) ↔
      if row.status ∈ mark.sources then
        HasTransition depositTransitions row.status mark.target ∧
          (mark.requireSettlementReference = true →
            normalizeOptionalString review.settlementReference ≠ none) ∧ P mark.target
      else P row.status := by
  by_cases hsource : row.status ∈ mark.sources
  · have hne : row.status ≠ mark.target := fun h => htarget (h ▸ hsource)
    have hgoes : decide (row.status ∈ mark.sources) = true := by simpa using hsource
    have hid : row.id = id := Keyed.key_of_lookup hrow
    rw [if_pos hsource, markDeposit, onOrder_of_goesOn hrow hgoes]
    constructor
    · rintro ⟨store', hok, status, hstatus, hP⟩
      obtain ⟨reviewState, hgate, hok⟩ := ApiError.bind_eq_ok.mp hok
      obtain ⟨hconfirmed, _⟩ := applyDualReviewGate_of_bypass rfl hgate
      rw [if_neg (by simp [hconfirmed])] at hok
      obtain ⟨hedge, metadata, rfl⟩ := transitionDepositStatus_of_ne hne hok
      rw [hid, FinanceStore.lockDepositById_updateDeposit_self hrow] at hstatus
      obtain rfl : mark.target = status := by simpa using hstatus
      have hnote' := @normalizeOptionalString_getD review.operatorNote _ hnote
      exact ⟨hedge, reference_of_gate hgate hnote', hP⟩
    · rintro ⟨hedge, hreference, hP⟩
      obtain ⟨reviewState, hgate, hconfirmed⟩ := applyDualReviewGate_ok_of_bypass row.metadata
        { action := mark.action
          targetStatus := mark.target
          review := withReviewDefaults review mark.fallbackNote
          requireSettlementReference := mark.requireSettlementReference
          bypassDualReview := true } rfl (normalizeOptionalString_getD hnote) hreference
      obtain ⟨store', hok⟩ := @transitionDepositStatus_of_edge store row _
        (recordReview reviewState mark.action) (mark.params row reviewState.effectiveReview) hne
        hedge
      obtain ⟨_, metadata, rfl⟩ := transitionDepositStatus_of_ne hne hok
      refine ⟨store.updateDeposit row.id mark.target metadata, ?_, mark.target, ?_, hP⟩
      · rw [hgate]
        simpa only [bind, Except.bind, hconfirmed, Bool.true_eq_false, if_false] using hok
      · rw [hid, FinanceStore.lockDepositById_updateDeposit_self hrow]
        simp
  · have hstays : decide (row.status ∈ mark.sources) = false := by simpa using hsource
    rw [if_neg hsource, markDeposit, onOrder_of_stays hrow hstays]
    simp [hrow]

end Deposits

section Withdrawals

variable {strict : Bool} {adapterKey reference : String} {id : Nat} {review : FinanceReviewPayload}
  {store store' : FinanceStore} {row : WithdrawalRow}

/-- The withdrawal is at `status`; nothing that its payment depends on has changed. -/
structure Advanced (id : Nat) (store store' : FinanceStore) (row : WithdrawalRow)
    (status : WithdrawalStatus) : Prop where
  stored : ∃ row', store'.selectLockedWithdrawal id = some row' ∧ row'.status = status ∧
    row'.id = row.id ∧ row'.amount = row.amount ∧
    row'.metadata.withdrawalControl = row.metadata.withdrawalControl
  wallet : store'.wallet = store.wallet
  events : store'.ledgerMutationEvents = store.ledgerMutationEvents
  entries : store'.ledgerEntries = store.ledgerEntries

theorem Advanced.refl (hrow : store.selectLockedWithdrawal id = some row) :
    Advanced id store store row row.status :=
  ⟨⟨row, hrow, rfl, rfl, rfl, rfl⟩, rfl, rfl, rfl⟩

theorem selectLockedWithdrawal_updateWithdrawal_self
    (hrow : store.selectLockedWithdrawal id = some row) {status : WithdrawalStatus}
    {metadata : WithdrawalMetadata} :
    (store.updateWithdrawal id status metadata).selectLockedWithdrawal id =
      some { row with status := status, metadata := metadata } :=
  Keyed.lookup_modify_self (fun _ h => h) hrow

theorem advanced_updateWithdrawal (hrow : store.selectLockedWithdrawal id = some row)
    {status : WithdrawalStatus} {metadata : WithdrawalMetadata}
    (hcontrol : metadata.withdrawalControl = row.metadata.withdrawalControl) :
    Advanced id store (store.updateWithdrawal id status metadata) row status :=
  ⟨⟨_, selectLockedWithdrawal_updateWithdrawal_self hrow, rfl, rfl, rfl, hcontrol⟩, rfl, rfl, rfl⟩

/-- A mark of progress takes an order at one of its sources to its target, if the reference is
given, and leaves any other order where it is. -/
theorem markProviderProgress_eq_ok {sources : List WithdrawalStatus} {target : WithdrawalStatus}
    {action : WithdrawalAction} {fallbackNote statusText : String}
    (hrow : store.selectLockedWithdrawal id = some row)
    (hnote : normalizeOptionalString (some fallbackNote) ≠ none) :
    (∃ store', markProviderProgress sources target action fallbackNote statusText id review store =
        .ok store') ↔
      (row.status ∈ sources → normalizeOptionalString review.settlementReference ≠ none) := by
  by_cases hsource : row.status ∈ sources
  · have hgoes : decide (row.status ∈ sources) = true := by simpa using hsource
    rw [markProviderProgress, onOrder_of_goesOn hrow hgoes]
    constructor
    · rintro ⟨store', hok⟩ _
      obtain ⟨reviewState, hgate, _⟩ := ApiError.bind_eq_ok.mp hok
      have hnote' := @normalizeOptionalString_getD review.operatorNote _ hnote
      have hreference := reference_of_gate hgate hnote' rfl
      exact hreference
    · intro hreference
      obtain ⟨reviewState, hgate, _⟩ := applyDualReviewGate_ok_of_bypass row.metadata
        { action := action
          targetStatus := target
          review := withReviewDefaults review fallbackNote
          requireSettlementReference := true
          bypassDualReview := true } rfl (@normalizeOptionalString_getD review.operatorNote _ hnote)
        fun _ => hreference hsource
      rw [hgate]
      exact ⟨_, rfl⟩
  · have hstays : decide (row.status ∈ sources) = false := by simpa using hsource
    rw [markProviderProgress, onOrder_of_stays hrow hstays]
    simp [hsource]

theorem advanced_markProviderProgress {sources : List WithdrawalStatus} {target : WithdrawalStatus}
    {action : WithdrawalAction} {fallbackNote statusText : String}
    (hrow : store.selectLockedWithdrawal id = some row)
    (hok : markProviderProgress sources target action fallbackNote statusText id review store =
      .ok store') :
    Advanced id store store' row (if row.status ∈ sources then target else row.status) := by
  obtain ⟨rfl, hstays⟩ | ⟨found, hfound, hsource, hbody⟩ := onOrder_cases hok
  · have hsource : row.status ∉ sources := by simpa using hstays row hrow
    rw [if_neg hsource]
    exact .refl hrow
  · obtain rfl : row = found := Option.some.inj (hrow.symm.trans hfound)
    obtain ⟨reviewState, hgate, hbody⟩ := ApiError.bind_eq_ok.mp hbody
    obtain ⟨_, hmetadata⟩ := applyDualReviewGate_of_bypass rfl hgate
    obtain rfl := Except.ok.inj hbody
    rw [if_pos (by simpa using hsource)]
    apply advanced_updateWithdrawal hrow
    simp [appendFinanceStateMetadata, recordReview, appendFinanceReviewMetadata, hmetadata]

theorem markWithdrawalProviderFailed_eq_ok (hrow : store.selectLockedWithdrawal id = some row) :
    (∃ store', markWithdrawalProviderFailed id review store = .ok store') ↔
      (row.status ∈ failureSources → normalizeOptionalString review.settlementReference ≠ none) := by
  have hnote := @normalizeOptionalString_getD review.operatorNote
    "withdrawal_provider_failed" (by decide)
  by_cases hsource : row.status ∈ failureSources
  · have hgoes : decide (row.status ∈ failureSources) = true := by simpa using hsource
    rw [markWithdrawalProviderFailed, onOrder_of_goesOn hrow hgoes]
    constructor
    · rintro ⟨store', hok⟩ _
      obtain ⟨reviewState, hgate, _⟩ := ApiError.bind_eq_ok.mp hok
      have hreference := reference_of_gate hgate hnote rfl
      exact hreference
    · intro hreference
      obtain ⟨reviewState, hgate, hconfirmed⟩ := applyDualReviewGate_ok_of_bypass row.metadata
        { action := .markProviderFailed
          targetStatus := .providerFailed
          review := withReviewDefaults review "withdrawal_provider_failed"
          requireSettlementReference := true
          bypassDualReview := true } rfl hnote fun _ => hreference hsource
      rw [hgate]
      simp only [bind, Except.bind, hconfirmed, Bool.true_eq_false, if_false]
      exact ⟨_, rfl⟩
  · have hstays : decide (row.status ∈ failureSources) = false := by simpa using hsource
    rw [markWithdrawalProviderFailed, onOrder_of_stays hrow hstays]
    simp [hsource]

theorem status_of_markWithdrawalProviderFailed (hrow : store.selectLockedWithdrawal id = some row)
    (hok : markWithdrawalProviderFailed id review store = .ok store') :
    (store'.selectLockedWithdrawal id).map WithdrawalRow.status =
      some (if row.status ∈ failureSources then .providerFailed else row.status) := by
  obtain ⟨rfl, hstays⟩ | ⟨found, hfound, hsource, hbody⟩ := onOrder_cases hok
  · have hsource : row.status ∉ failureSources := by simpa using hstays row hrow
    rw [if_neg hsource, hrow, Option.map_some]
  · obtain rfl : row = found := Option.some.inj (hrow.symm.trans hfound)
    obtain ⟨reviewState, hgate, hbody⟩ := ApiError.bind_eq_ok.mp hbody
    obtain ⟨hconfirmed, _⟩ := applyDualReviewGate_of_bypass rfl hgate
    rw [if_neg (by simp [hconfirmed])] at hbody
    obtain rfl := Except.ok.inj hbody
    rw [if_pos (by simpa using hsource)]
    rw [selectLockedWithdrawal_updateWithdrawal_self hrow, Option.map_some]

theorem ledgerAgrees_paid {wallet : UserWallet} {entries : List LedgerEntry} {entry : LedgerEntry}
    (htype : entry.entryType = .withdrawPaid) :
    LedgerAgrees { wallet with lockedBalance := wallet.lockedBalance + entry.amount }
        (entries ++ [entry]) ↔
      LedgerAgrees wallet entries := by
  have hexpected : expectedWallet (entries ++ [entry]) =
      { expectedWallet entries with
        lockedBalance := (expectedWallet entries).lockedBalance + entry.amount } := by
    have hwithdrawable : entry.withdrawableContribution = 0 := by
      simp [LedgerEntry.withdrawableContribution, htype, withdrawableDirectEntryTypes,
        playModeDeferredEntryTypes, releaseEntryTypes]
    have hbonus : entry.bonusContribution = 0 := by
      simp [LedgerEntry.bonusContribution, htype, bonusCreditEntryTypes,
        playModeDeferredEntryTypes, releaseEntryTypes]
    have hwagered : entry.wageredContribution = 0 := by
      simp [LedgerEntry.wageredContribution, htype, stakeEntryTypes]
    have hlocked : entry.lockedContribution = entry.amount := by
      simp [LedgerEntry.lockedContribution, htype, refundEntryTypes]
    simp [expectedWallet, hwithdrawable, hbonus, hwagered, hlocked]
  have hknown : entry.entryType.isKnown = true := by rw [htype]; rfl
  have hwallet : { wallet with lockedBalance := wallet.lockedBalance + entry.amount } =
      expectedWallet (entries ++ [entry]) ↔ wallet = expectedWallet entries := by
    rw [hexpected]
    obtain ⟨withdrawable, bonus, locked, wagered⟩ := wallet
    simp [UserWallet.mk.injEq, expectedWallet]
  have hentries : (∀ other ∈ entries ++ [entry], other.entryType.isKnown = true) ↔
      ∀ other ∈ entries, other.entryType.isKnown = true := by
    rw [List.forall_mem_append]
    simp [hknown]
  exact and_congr hwallet hentries

theorem assertInvariant_iff :
    (∃ store', store.assertInvariant strict = .ok store') ↔
      (strict = true → LedgerAgrees store.wallet store.ledgerEntries) := by
  constructor
  · rintro ⟨_, hok⟩ hstrict
    obtain ⟨_, hassert, _⟩ := ApiError.bind_eq_ok.mp hok
    by_contra hmismatch
    exact (ApiError.throwIf_eq_ok ..).mp hassert ⟨hstrict, hmismatch⟩
  · intro hagrees
    have hassert : assertWalletLedgerInvariant strict store.wallet store.ledgerEntries = .ok () :=
      (ApiError.throwIf_eq_ok ..).mpr fun h => h.2 (hagrees h.1)
    exact ⟨store, ApiError.bind_eq_ok.mpr ⟨(), hassert, rfl⟩⟩

/-- The store as a payment leaves it passes the wallet's check exactly if the ledger agreed with
the wallet before, provided that the payment is booked for the first time. -/
theorem assertInvariant_paid_iff (metadata : WithdrawalMetadata) :
    (∃ store',
        (((store.setWallet
            { store.wallet with lockedBalance := store.wallet.lockedBalance - row.amount }
              ).updateWithdrawal row.id .paid metadata).applyLedgerMutation
          (.withdrawal row.id .consumeLockedFunds)
          { entryType := .withdrawPaid
            amount := -row.amount
            balanceBefore := store.wallet.lockedBalance
            balanceAfter := store.wallet.lockedBalance - row.amount
            reference := .withdrawal row.id
            metadata := { balanceType := some "locked" } }).assertInvariant strict =
          .ok store') ↔
      (strict = true →
        LedgerAgrees
          (if .withdrawal row.id .consumeLockedFunds ∈ store.ledgerMutationEvents then
            { store.wallet with lockedBalance := store.wallet.lockedBalance - row.amount }
          else store.wallet) store.ledgerEntries) := by
  rw [assertInvariant_iff, FinanceStore.applyLedgerMutation_wallet,
    FinanceStore.updateWithdrawal_wallet, FinanceStore.setWallet_wallet]
  unfold FinanceStore.applyLedgerMutation
  by_cases hbooked : BusinessEventId.withdrawal row.id .consumeLockedFunds ∈
      store.ledgerMutationEvents
  · simp [FinanceStore.setWallet, FinanceStore.updateWithdrawal, hbooked]
  · have hwallet := @ledgerAgrees_paid store.wallet store.ledgerEntries
      { entryType := .withdrawPaid
        amount := -row.amount
        balanceBefore := store.wallet.lockedBalance
        balanceAfter := store.wallet.lockedBalance - row.amount
        reference := .withdrawal row.id
        metadata := { balanceType := some "locked" } } rfl
    rw [← sub_eq_add_neg] at hwallet
    simpa [FinanceStore.setWallet, FinanceStore.updateWithdrawal, hbooked] using
      imp_congr_right fun _ => hwallet

/-- What stands in the way of paying a withdrawal out of the locked balance. -/
structure Payable (strict : Bool) (adapterKey : String) (finance : FinanceStore)
    (row : WithdrawalRow) : Prop where
  channel : row.metadata.withdrawalControl.manualChannelRequired = true →
    isManualChannel adapterKey = true
  covered : row.amount ≤ finance.wallet.lockedBalance
  ledger : strict = true →
    LedgerAgrees
      (if .withdrawal row.id .consumeLockedFunds ∈ finance.ledgerMutationEvents then
        { finance.wallet with lockedBalance := finance.wallet.lockedBalance - row.amount }
      else finance.wallet) finance.ledgerEntries

/-- A withdrawal in processing is paid exactly if the reference is there and nothing of `Payable`
stands in the way. -/
theorem payWithdrawal_eq_ok (hrow : store.selectLockedWithdrawal id = some row)
    (hprocessing : row.status = .providerProcessing)
    (hchannel : review.processingChannel = some adapterKey)
    (hkey : normalizeOptionalString (some adapterKey) = some adapterKey) :
    (∃ store', payWithdrawal strict id review store = .ok store') ↔
      normalizeOptionalString review.settlementReference ≠ none ∧
        Payable strict adapterKey store row := by
  have hnote := @normalizeOptionalString_getD review.operatorNote "withdrawal_paid" (by decide)
  have hgoes : decide (row.status = .providerProcessing) = true := by simpa using hprocessing
  have hid : row.id = id := Keyed.key_of_lookup hrow
  rw [payWithdrawal, onOrder_of_goesOn hrow hgoes]
  by_cases hreference : normalizeOptionalString review.settlementReference = none
  · have hgate := applyDualReviewGate_of_no_reference row.metadata
      { action := .pay
        targetStatus := .paid
        review := withReviewDefaults review "withdrawal_paid"
        requireSettlementReference := true
        bypassDualReview := true } hnote rfl hreference
    rw [hgate]
    simp [hreference, bind, Except.bind]
  · obtain ⟨reviewState, hgate, hconfirmed⟩ := applyDualReviewGate_ok_of_bypass row.metadata
      { action := .pay
        targetStatus := .paid
        review := withReviewDefaults review "withdrawal_paid"
        requireSettlementReference := true
        bypassDualReview := true } rfl hnote fun _ => hreference
    have heffective : reviewState.effectiveReview.processingChannel = some adapterKey := by
      rw [processingChannel_of_gate hgate rfl]
      simp [withReviewDefaults, hchannel, hkey]
    have hconfirms : ¬reviewState.confirmed = false := by simp [hconfirmed]
    subst hid
    constructor
    · rintro ⟨store', hok⟩
      obtain ⟨other, hother, hok⟩ := ApiError.bind_eq_ok.mp hok
      obtain rfl : reviewState = other := Except.ok.inj (hgate.symm.trans hother)
      rw [if_neg hconfirms, heffective, hkey] at hok
      obtain ⟨_, hmanual, hok⟩ := ApiError.bind_eq_ok.mp hok
      obtain ⟨_, hcovered, hok⟩ := ApiError.bind_eq_ok.mp hok
      refine ⟨hreference, ?_, ?_, (assertInvariant_paid_iff _).mp ⟨store', hok⟩⟩
      · simpa using hmanual
      · simpa using hcovered
    · rintro ⟨_, hmanual, hcovered, hledger⟩
      obtain ⟨store', hok⟩ := (assertInvariant_paid_iff
        (paidMetadata (recordReview reviewState .pay))).mpr hledger
      refine ⟨store', ApiError.bind_eq_ok.mpr ⟨reviewState, hgate, ?_⟩⟩
      rw [if_neg hconfirms, heffective, hkey]
      refine ApiError.bind_eq_ok.mpr ⟨(), by simpa using hmanual, ?_⟩
      exact ApiError.bind_eq_ok.mpr ⟨(), by simpa using hcovered, hok⟩

theorem status_of_payWithdrawal (hrow : store.selectLockedWithdrawal id = some row)
    (hok : payWithdrawal strict id review store = .ok store') :
    (store'.selectLockedWithdrawal id).map WithdrawalRow.status =
      some (if row.status = .providerProcessing then .paid else row.status) := by
  obtain ⟨rfl, hstays⟩ | ⟨found, hfound, hprocessing, hbody⟩ := onOrder_cases hok
  · have hprocessing : row.status ≠ .providerProcessing := by simpa using hstays row hrow
    rw [if_neg hprocessing, hrow, Option.map_some]
  · obtain rfl : row = found := Option.some.inj (hrow.symm.trans hfound)
    have hprocessing : row.status = .providerProcessing := by simpa using hprocessing
    rw [if_pos hprocessing]
    obtain ⟨reviewState, hgate, hbody⟩ := ApiError.bind_eq_ok.mp hbody
    obtain ⟨hconfirmed, _⟩ := applyDualReviewGate_of_bypass rfl hgate
    rw [if_neg (by simp [hconfirmed])] at hbody
    cases hchannel : normalizeOptionalString reviewState.effectiveReview.processingChannel with
    | none => simp [hchannel] at hbody
    | some channel =>
        rw [hchannel] at hbody
        obtain ⟨_, _, hbody⟩ := ApiError.bind_eq_ok.mp hbody
        obtain ⟨_, _, hbody⟩ := ApiError.bind_eq_ok.mp hbody
        rw [FinanceStore.assertInvariant_eq_ok hbody, FinanceStore.selectLockedWithdrawal,
          FinanceStore.applyLedgerMutation_withdrawals]
        exact congrArg (Option.map WithdrawalRow.status)
          (@selectLockedWithdrawal_updateWithdrawal_self id (store.setWallet _) row hrow .paid _)

theorem Advanced.payable_iff {status : WithdrawalStatus} {row' : WithdrawalRow}
    (hadvanced : Advanced id store store' row status)
    (hrow' : store'.selectLockedWithdrawal id = some row') :
    Payable strict adapterKey store' row' ↔ Payable strict adapterKey store row := by
  obtain ⟨⟨found, hfound, _, hid, hamount, hcontrol⟩, hwallet, hevents, hentries⟩ := hadvanced
  obtain rfl : row' = found := Option.some.inj (hrow'.symm.trans hfound)
  constructor
  · rintro ⟨hchannel, hcovered, hledger⟩
    rw [hcontrol] at hchannel
    rw [hamount, hwallet] at hcovered
    rw [hid, hamount, hwallet, hevents, hentries] at hledger
    exact ⟨hchannel, hcovered, hledger⟩
  · rintro ⟨hchannel, hcovered, hledger⟩
    constructor
    · rwa [hcontrol]
    · rwa [hamount, hwallet]
    · rwa [hid, hamount, hwallet, hevents, hentries]

theorem Advanced.trans {store'' : FinanceStore} {row' : WithdrawalRow}
    {status status' : WithdrawalStatus} (hfirst : Advanced id store store' row status)
    (hrow' : store'.selectLockedWithdrawal id = some row')
    (hsecond : Advanced id store' store'' row' status') :
    Advanced id store store'' row status' := by
  obtain ⟨⟨found, hfound, _, hid, hamount, hcontrol⟩, hwallet, hevents, hentries⟩ := hfirst
  obtain rfl : row' = found := Option.some.inj (hrow'.symm.trans hfound)
  obtain ⟨⟨last, hlast, hstatus, hid', hamount', hcontrol'⟩, hwallet', hevents', hentries'⟩ :=
    hsecond
  exact ⟨⟨last, hlast, hstatus, hid'.trans hid, hamount'.trans hamount, hcontrol'.trans hcontrol⟩,
    hwallet'.trans hwallet, hevents'.trans hevents, hentries'.trans hentries⟩

theorem Advanced.map_status {status : WithdrawalStatus}
    (hadvanced : Advanced id store store' row status) :
    (store'.selectLockedWithdrawal id).map WithdrawalRow.status = some status := by
  obtain ⟨found, hfound, hstatus, _⟩ := hadvanced.stored
  rw [hfound, Option.map_some, hstatus]

/-- Where the marks of submission and of processing bring an order together. -/
def progressed (status : WithdrawalStatus) : WithdrawalStatus :=
  if status = .approved ∨ status = .providerSubmitted then .providerProcessing else status

def Progresses (id : Nat) (review : FinanceReviewPayload) (store last : FinanceStore) : Prop :=
  ∃ next, markWithdrawalProviderSubmitted id review store = .ok next ∧
    markWithdrawalProviderProcessing id review next = .ok last

theorem Progresses.advanced {last : FinanceStore} (hprogress : Progresses id review store last)
    (hrow : store.selectLockedWithdrawal id = some row) :
    Advanced id store last row (progressed row.status) := by
  obtain ⟨next, hsubmitted, hprocessing⟩ := hprogress
  have hfirst := advanced_markProviderProgress hrow hsubmitted
  obtain ⟨row', hrow', hstatus', _⟩ := hfirst.stored
  have hsecond := advanced_markProviderProgress hrow' hprocessing
  have hboth := hfirst.trans hrow' hsecond
  rw [hstatus'] at hboth
  cases hstatus : row.status <;> simpa [hstatus, progressed] using hboth

theorem progressed_of_mem {status : WithdrawalStatus} (hsource : status ∈ failureSources) :
    progressed status = .providerProcessing := by
  simp only [failureSources, List.mem_cons, List.not_mem_nil, or_false] at hsource
  rcases hsource with rfl | rfl | rfl <;> rfl

theorem progressed_of_not_mem {status : WithdrawalStatus} (hsource : status ∉ failureSources) :
    progressed status = status := by
  cases status <;> simp_all [failureSources, progressed]

theorem exists_progresses_iff (hrow : store.selectLockedWithdrawal id = some row) :
    (∃ last, Progresses id review store last) ↔
      (row.status = .approved ∨ row.status = .providerSubmitted →
        normalizeOptionalString review.settlementReference ≠ none) := by
  constructor
  · rintro ⟨last, next, hsubmitted, hprocessing⟩ hsource
    have hadvanced := advanced_markProviderProgress hrow hsubmitted
    obtain ⟨row', hrow', hstatus', _⟩ := hadvanced.stored
    have hreference := (markProviderProgress_eq_ok hrow' (by decide)).mp ⟨last, hprocessing⟩
    apply hreference
    rcases hsource with hsource | hsource <;> simp [hstatus', hsource]
  · intro hreference
    obtain ⟨next, hsubmitted⟩ := (@markProviderProgress_eq_ok id review store row [.approved]
      .providerSubmitted .markProviderSubmitted "withdrawal_provider_submitted"
      "provider_submitted" hrow (by decide)).mpr fun h => hreference (.inl (by simpa using h))
    have hadvanced := advanced_markProviderProgress hrow hsubmitted
    obtain ⟨row', hrow', hstatus', _⟩ := hadvanced.stored
    obtain ⟨last, hprocessing⟩ := (@markProviderProgress_eq_ok id review next row'
      [.approved, .providerSubmitted] .providerProcessing .markProviderProcessing
      "withdrawal_provider_processing" "provider_processing" hrow' (by decide)).mpr fun h => by
        apply hreference
        cases hstatus : row.status <;> simp [hstatus, hstatus'] at h ⊢
    exact ⟨last, next, hsubmitted, hprocessing⟩

end Withdrawals

end RewardSystem.Payment
