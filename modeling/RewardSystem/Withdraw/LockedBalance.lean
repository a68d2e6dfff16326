import RewardSystem.Lib.Runs
import RewardSystem.Withdraw.Lifecycle

/-!
# Locked-balance accounting of withdrawals

The wallet's locked balance is shared by the open withdrawals of the user and by other features.
`otherLocked` is what the latter hold; no operation on a withdrawal reads it.
-/

namespace RewardSystem.Withdraw

open Payment Wallet Transition

inductive WithdrawalOp where
  | create (conditions : WithdrawalConditions) (id : Nat) (amount : Int)
      (submitted : WithdrawalMetadata)
  | approve (id : Nat) (review : FinanceReviewPayload)
  | markSubmitted (id : Nat) (review : FinanceReviewPayload)
  | markProcessing (id : Nat) (review : FinanceReviewPayload)
  | markFailed (id : Nat) (review : FinanceReviewPayload)
  | reject (id : Nat) (review : FinanceReviewPayload)
  | pay (id : Nat) (review : FinanceReviewPayload)
  | reverse (id : Nat) (review : FinanceReviewPayload)

namespace WithdrawalOp

def id : WithdrawalOp → Nat
  | create _ id _ _ => id
  | approve id _ => id
  | markSubmitted id _ => id
  | markProcessing id _ => id
  | markFailed id _ => id
  | reject id _ => id
  | pay id _ => id
  | reverse id _ => id

def isReverse : WithdrawalOp → Bool
  | reverse _ _ => true
  | _ => false

def run (strict : Bool) (store : FinanceStore) : WithdrawalOp → Except ApiError FinanceStore
  | create conditions id amount submitted =>
      createWithdrawal strict conditions id amount submitted store
  | approve id review => approveWithdrawal id review store
  | markSubmitted id review => markWithdrawalProviderSubmitted id review store
  | markProcessing id review => markWithdrawalProviderProcessing id review store
  | markFailed id review => markWithdrawalProviderFailed id review store
  | reject id review => rejectWithdrawal strict id review store
  | pay id review => payWithdrawal strict id review store
  | reverse id review => reverseWithdrawal strict id review store

end WithdrawalOp

/-- Another feature, done, holds `held` and has moved the other balances by the given amounts. -/
structure FeatureChange where
  held : Nat
  withdrawable : Int
  bonus : Int
  wagered : Int
  entries : List LedgerEntry

inductive Operation where
  | withdrawal (op : WithdrawalOp)
  | otherFeature (change : FeatureChange)

structure State where
  store : FinanceStore
  otherLocked : Nat

def otherFeature (s : State) (change : FeatureChange) : State :=
  { store :=
      { s.store with
        wallet :=
          { withdrawableBalance := s.store.wallet.withdrawableBalance + change.withdrawable
            bonusBalance := s.store.wallet.bonusBalance + change.bonus
            lockedBalance := s.store.wallet.lockedBalance + (change.held - s.otherLocked)
            wageredAmount := s.store.wallet.wageredAmount + change.wagered }
        ledgerEntries := s.store.ledgerEntries ++ change.entries }
    otherLocked := change.held }

def step (strict : Bool) (s : State) : Operation → Except ApiError State
  | .withdrawal op => (op.run strict s.store).map fun store => { s with store := store }
  | .otherFeature change => .ok (otherFeature s change)

def isOpen (status : WithdrawalStatus) : Bool :=
  status ∉ [.paid, .rejected, .reversed]

def openAmount (row : WithdrawalRow) : Int :=
  if isOpen row.status then row.amount else 0

def openTotal (store : FinanceStore) : Int :=
  (store.withdrawals.map openAmount).sum

/-- What one accepted operation does to the withdrawals and the locked balance. -/
inductive Effect (op : WithdrawalOp) (store store' : FinanceStore) : Prop
  | unchanged (hstore : store' = store)
      (hop : ∀ row, store.selectLockedWithdrawal op.id = some row → op.isReverse = true →
        row.status ≠ .paid)
  | created (row : WithdrawalRow) (hid : row.id = op.id)
      (hnew : store.selectLockedWithdrawal op.id = none) (hamount : 0 < row.amount)
      (hstatus : isOpen row.status = true)
      (hrows : store'.withdrawals = store.withdrawals ++ [row])
      (hlocked : store'.wallet.lockedBalance = store.wallet.lockedBalance + row.amount)
  | moved (row : WithdrawalRow) (status : WithdrawalStatus) (metadata : WithdrawalMetadata)
      (hop : op.isReverse = false)
      (hrow : store.selectLockedWithdrawal op.id = some row)
      (hstatus : isOpen status = isOpen row.status)
      (hrows : store'.withdrawals = (store.updateWithdrawal op.id status metadata).withdrawals)
      (hlocked : store'.wallet.lockedBalance = store.wallet.lockedBalance)
  | closed (row : WithdrawalRow) (status : WithdrawalStatus) (metadata : WithdrawalMetadata)
      (hrow : store.selectLockedWithdrawal op.id = some row)
      (hsource : isOpen row.status = true ∨ row.status = .paid ∧ op.isReverse = true)
      (hstatus : isOpen status = false)
      (hrows : store'.withdrawals = (store.updateWithdrawal op.id status metadata).withdrawals)
      (hlocked : store'.wallet.lockedBalance = max (store.wallet.lockedBalance - row.amount) 0)
      (hrefund : op.isReverse = true → store'.wallet.withdrawableBalance =
        store.wallet.withdrawableBalance + row.amount)

section Effects

variable {strict : Bool} {store store' : FinanceStore} {id : Nat} {review : FinanceReviewPayload}

theorem effect_update {op : WithdrawalOp} {row : WithdrawalRow} {status : WithdrawalStatus}
    {metadata : WithdrawalMetadata} (hop : op.isReverse = false)
    (hrow : store.selectLockedWithdrawal op.id = some row)
    (hstatus : isOpen status = isOpen row.status)
    (h : Except.ok (store.updateWithdrawal op.id status metadata) =
      (Except.ok store' : Except ApiError FinanceStore)) :
    Effect op store store' := by
  obtain rfl : store.updateWithdrawal op.id status metadata = store' := by simpa using h
  exact .moved row status metadata hop hrow hstatus rfl rfl

theorem effect_approve (h : approveWithdrawal id review store = .ok store') :
    Effect (.approve id review) store store' := by
  obtain ⟨hsame, _⟩ | ⟨row, hrow, hstatus, hbody⟩ := onOrder_cases h
  · exact .unchanged hsame (by simp [WithdrawalOp.isReverse])
  · have hstatus : row.status = .requested := by simpa using hstatus
    obtain ⟨_, _, hbody⟩ := ApiError.bind_eq_ok.mp hbody
    obtain ⟨reviewState, _, hbody⟩ := ApiError.bind_eq_ok.mp hbody
    by_cases hconfirmed : reviewState.confirmed = false
    · rw [if_pos hconfirmed] at hbody
      exact effect_update rfl hrow rfl hbody
    · rw [if_neg hconfirmed] at hbody
      exact effect_update rfl hrow (by rw [hstatus]; rfl) hbody

theorem effect_markProviderProgress {op : WithdrawalOp} {sources : List WithdrawalStatus}
    {target : WithdrawalStatus} {action : WithdrawalAction} {fallbackNote statusText : String}
    (hop : op.isReverse = false)
    (hsources : ∀ status ∈ sources, isOpen target = isOpen status)
    (h : markProviderProgress sources target action fallbackNote statusText op.id review store =
      .ok store') :
    Effect op store store' := by
  obtain ⟨hsame, _⟩ | ⟨row, hrow, hstatus, hbody⟩ := onOrder_cases h
  · exact .unchanged hsame (by simp [hop])
  · have hstatus : row.status ∈ sources := by simpa using hstatus
    obtain ⟨reviewState, _, hbody⟩ := ApiError.bind_eq_ok.mp hbody
    exact effect_update hop hrow (hsources _ hstatus) hbody

theorem effect_markFailed (h : markWithdrawalProviderFailed id review store = .ok store') :
    Effect (.markFailed id review) store store' := by
  obtain ⟨hsame, _⟩ | ⟨row, hrow, hstatus, hbody⟩ := onOrder_cases h
  · exact .unchanged hsame (by simp [WithdrawalOp.isReverse])
  · have hsources : ∀ status ∈ failureSources, isOpen .providerFailed = isOpen status := by
      decide
    have hopen := hsources row.status (by simpa using hstatus)
    obtain ⟨reviewState, _, hbody⟩ := ApiError.bind_eq_ok.mp hbody
    by_cases hconfirmed : reviewState.confirmed = false
    · rw [if_pos hconfirmed] at hbody
      exact effect_update rfl hrow rfl hbody
    · rw [if_neg hconfirmed] at hbody
      exact effect_update rfl hrow hopen hbody

theorem effect_refund {op : WithdrawalOp} {row : WithdrawalRow}
    {reviewState : DualReviewResult WithdrawalStatus WithdrawalAction}
    {metadata : WithdrawalMetadata} {nextStatus : RefundStatus}
    (hrow : store.selectLockedWithdrawal op.id = some row)
    (hsource : isOpen row.status = true ∨ row.status = .paid ∧ op.isReverse = true)
    (h : (refundWithdrawal store row reviewState metadata nextStatus).assertInvariant strict =
      .ok store') :
    Effect op store store' := by
  have hstore := FinanceStore.assertInvariant_eq_ok h
  have hid : row.id = op.id := Keyed.key_of_lookup hrow
  refine .closed row nextStatus.status (refundMetadata reviewState metadata nextStatus) hrow hsource
    (by cases nextStatus <;> rfl) ?_ ?_ ?_
  · rw [hstore, refundWithdrawal, FinanceStore.applyLedgerMutation_withdrawals, hid]
    rfl
  · rw [hstore, refundWithdrawal]
    simp [refundWallet]
  · intro _
    rw [hstore, refundWithdrawal]
    simp [refundWallet]

theorem effect_reject (h : rejectWithdrawal strict id review store = .ok store') :
    Effect (.reject id review) store store' := by
  obtain ⟨hsame, _⟩ | ⟨row, hrow, hstatus, hbody⟩ := onOrder_cases h
  · exact .unchanged hsame (by simp [WithdrawalOp.isReverse])
  · have hopen : isOpen row.status = true := by
      have hsources : ∀ status ∈ rejectSources, isOpen status = true := by decide
      exact hsources _ (by simpa using hstatus)
    obtain ⟨reviewState, _, hbody⟩ := ApiError.bind_eq_ok.mp hbody
    by_cases hconfirmed : reviewState.confirmed = false
    · rw [if_pos hconfirmed] at hbody
      exact effect_update rfl hrow rfl hbody
    · rw [if_neg hconfirmed] at hbody
      exact effect_refund hrow (.inl hopen) hbody

theorem effect_reverse (h : reverseWithdrawal strict id review store = .ok store') :
    Effect (.reverse id review) store store' := by
  obtain ⟨hsame, hrefused⟩ | ⟨row, hrow, hstatus, hbody⟩ := onOrder_cases h
  · refine .unchanged hsame ?_
    intro row hrow _ hpaid
    simpa [hpaid, reverseSources] using hrefused row hrow
  · have hsources : ∀ status ∈ reverseSources, isOpen status = true ∨ status = .paid := by
      decide
    have hsource := hsources row.status (by simpa using hstatus)
    obtain ⟨reviewState, hgate, hbody⟩ := ApiError.bind_eq_ok.mp hbody
    have hconfirmed := (applyDualReviewGate_of_bypass rfl hgate).1
    simp only [hconfirmed, Bool.true_eq_false, if_false] at hbody
    exact effect_refund hrow (hsource.imp_right fun hpaid => ⟨hpaid, rfl⟩) hbody

theorem effect_pay (h : payWithdrawal strict id review store = .ok store') :
    Effect (.pay id review) store store' := by
  obtain ⟨hsame, _⟩ | ⟨row, hrow, hstatus, hbody⟩ := onOrder_cases h
  · exact .unchanged hsame (by simp [WithdrawalOp.isReverse])
  · have hstatus : row.status = .providerProcessing := by simpa using hstatus
    have hopen : isOpen row.status = true := by rw [hstatus]; rfl
    obtain ⟨reviewState, _, hbody⟩ := ApiError.bind_eq_ok.mp hbody
    by_cases hconfirmed : reviewState.confirmed = false
    · rw [if_pos hconfirmed] at hbody
      exact effect_update rfl hrow rfl hbody
    · rw [if_neg hconfirmed] at hbody
      cases hchannel : normalizeOptionalString reviewState.effectiveReview.processingChannel with
      | none => simp [hchannel] at hbody
      | some channel =>
          simp only [hchannel] at hbody
          obtain ⟨_, _, hbody⟩ := ApiError.bind_eq_ok.mp hbody
          obtain ⟨_, hcovered, hbody⟩ := ApiError.bind_eq_ok.mp hbody
          have hcovered : row.amount ≤ store.wallet.lockedBalance := by simpa using hcovered
          have hstore := FinanceStore.assertInvariant_eq_ok hbody
          refine .closed row .paid (paidMetadata (recordReview reviewState .pay)) hrow (.inl hopen) rfl
            ?_ ?_ (by simp [WithdrawalOp.isReverse])
          · rw [hstore, FinanceStore.applyLedgerMutation_withdrawals]
            rfl
          · rw [hstore]
            simp only [FinanceStore.applyLedgerMutation_wallet,
              FinanceStore.updateWithdrawal_wallet, FinanceStore.setWallet_wallet]
            omega

theorem effect_create {conditions : WithdrawalConditions} {amount : Int}
    {submitted : WithdrawalMetadata}
    (h : createWithdrawal strict conditions id amount submitted store = .ok store') :
    Effect (.create conditions id amount submitted) store store' := by
  obtain ⟨_, hallowed, h⟩ := ApiError.bind_eq_ok.mp h
  obtain ⟨_, hfresh, h⟩ := ApiError.bind_eq_ok.mp h
  have hstore := FinanceStore.assertInvariant_eq_ok h
  have hnew : store.selectLockedWithdrawal id = none := by simpa using hfresh
  refine .created (requestedRow conditions id amount submitted) rfl hnew
    (amount_pos_of_assertWithdrawalAllowed hallowed) rfl ?_ ?_
  · rw [hstore, FinanceStore.applyLedgerMutation_withdrawals]
  · rw [hstore, FinanceStore.applyLedgerMutation_wallet]
    rfl

theorem effect_run {op : WithdrawalOp} (h : op.run strict store = .ok store') :
    Effect op store store' := by
  cases op with
  | create conditions id amount submitted => exact effect_create h
  | approve id review => exact effect_approve h
  | markSubmitted id review => exact effect_markProviderProgress rfl (by decide) h
  | markProcessing id review => exact effect_markProviderProgress rfl (by decide) h
  | markFailed id review => exact effect_markFailed h
  | reject id review => exact effect_reject h
  | pay id review => exact effect_pay h
  | reverse id review => exact effect_reverse h

end Effects

/-- The primary key holds and every amount is positive. -/
structure WellFormed (store : FinanceStore) : Prop where
  keys : Keyed.HasKeys WithdrawalRow.id store.withdrawals
  amount_pos : ∀ row ∈ store.withdrawals, 0 < row.amount

section Tables

variable {op : WithdrawalOp} {store store' : FinanceStore} {id : Nat} {row : WithdrawalRow}
  {status : WithdrawalStatus} {metadata : WithdrawalMetadata}

theorem openTotal_congr (h : store'.withdrawals = store.withdrawals) :
    openTotal store' = openTotal store := by
  rw [openTotal, h, openTotal]

theorem openTotal_updateWithdrawal (hwf : WellFormed store)
    (hrow : store.selectLockedWithdrawal id = some row) :
    openTotal (store.updateWithdrawal id status metadata) =
      openTotal store - openAmount row + (if isOpen status then row.amount else 0) :=
  Keyed.sum_modify openAmount hwf.keys hrow

theorem openAmount_le_openTotal (hwf : WellFormed store)
    (hrow : store.selectLockedWithdrawal id = some row) : openAmount row ≤ openTotal store := by
  refine Keyed.le_sum_of_mem openAmount ?_ (Keyed.mem_of_lookup hrow)
  intro other hother
  have := hwf.amount_pos other hother
  unfold openAmount
  split <;> omega

theorem wellFormed_updateWithdrawal (hwf : WellFormed store)
    (hrows : store'.withdrawals = (store.updateWithdrawal id status metadata).withdrawals) :
    WellFormed store' := by
  constructor
  · rw [hrows]
    exact Keyed.hasKeys_modify (fun _ h => h) hwf.keys
  · intro row hrow
    rw [hrows] at hrow
    obtain ⟨hrow, _⟩ | ⟨old, hold, _, rfl⟩ := Keyed.mem_modify.mp hrow
    · exact hwf.amount_pos row hrow
    · exact hwf.amount_pos old hold

theorem Effect.wellFormed (heffect : Effect op store store') (hwf : WellFormed store) :
    WellFormed store' := by
  cases heffect with
  | unchanged hstore => exact hstore ▸ hwf
  | created row hid hnew hamount _ hrows =>
      constructor
      · rw [hrows]
        exact Keyed.hasKeys_append hwf.keys (hid ▸ hnew)
      · intro other hother
        rw [hrows] at hother
        rcases List.mem_append.mp hother with hother | hother
        · exact hwf.amount_pos other hother
        · rwa [List.mem_singleton.mp hother]
  | moved row status metadata _ _ _ hrows => exact wellFormed_updateWithdrawal hwf hrows
  | closed row status metadata _ _ _ hrows => exact wellFormed_updateWithdrawal hwf hrows

end Tables

/-- **The accounting law.** -/
def LockedAccounted (s : State) : Prop :=
  s.store.wallet.lockedBalance = openTotal s.store + s.otherLocked

instance (s : State) : Decidable (LockedAccounted s) :=
  inferInstanceAs (Decidable (_ = _))

def ReversesPaid (e : Event State Operation) : Prop :=
  ∃ op row, e.label = .withdrawal op ∧ op.isReverse = true ∧
    e.before.store.selectLockedWithdrawal op.id = some row ∧ row.status = .paid

/-- The steps on which the law survives: a paid withdrawal is reversed only while nothing is
locked. -/
def KeepsLocks (e : Event State Operation) : Prop :=
  ReversesPaid e → e.before.store.wallet.lockedBalance = 0

section Steps

variable {strict : Bool} {s t : State} {op : WithdrawalOp}

theorem step_cases {operation : Operation} (h : step strict s operation = .ok t) :
    (∃ op, operation = .withdrawal op ∧ Effect op s.store t.store ∧
        t.otherLocked = s.otherLocked) ∨
      ∃ change, operation = .otherFeature change ∧ t = otherFeature s change := by
  cases operation with
  | withdrawal op =>
      obtain ⟨store, hrun, rfl⟩ := ApiError.map_eq_ok.mp h
      exact .inl ⟨op, rfl, effect_run hrun, rfl⟩
  | otherFeature change => exact .inr ⟨change, rfl, by simpa [step] using h.symm⟩

theorem wellFormed_step {operation : Operation} (hwf : WellFormed s.store)
    (h : step strict s operation = .ok t) : WellFormed t.store := by
  obtain ⟨op, rfl, heffect, _⟩ | ⟨change, rfl, rfl⟩ := step_cases h
  · exact heffect.wellFormed hwf
  · exact ⟨hwf.keys, hwf.amount_pos⟩

theorem reversesPaid_iff {op : WithdrawalOp} {row : WithdrawalRow}
    (hrow : s.store.selectLockedWithdrawal op.id = some row) :
    ReversesPaid ⟨s, .withdrawal op, t⟩ ↔ op.isReverse = true ∧ row.status = .paid := by
  constructor
  · rintro ⟨op', row', hlabel, hreverse, hrow', hpaid⟩
    obtain rfl : op = op' := by simpa using hlabel
    obtain rfl : row = row' := by simpa [hrow] using hrow'
    exact ⟨hreverse, hpaid⟩
  · rintro ⟨hreverse, hpaid⟩
    exact ⟨op, row, rfl, hreverse, hrow, hpaid⟩

/-- One step keeps the law exactly if it does not reverse a paid withdrawal against locked
funds. -/
theorem lockedAccounted_step_iff {operation : Operation} (hwf : WellFormed s.store)
    (hlaw : LockedAccounted s) (h : step strict s operation = .ok t) :
    LockedAccounted t ↔ KeepsLocks ⟨s, operation, t⟩ := by
  unfold LockedAccounted at hlaw ⊢
  obtain ⟨op, rfl, heffect, hother⟩ | ⟨change, rfl, rfl⟩ := step_cases h
  · cases heffect with
    | unchanged hstore hop =>
        refine iff_of_true (by rw [hstore, hother, hlaw]) ?_
        rintro ⟨op', row, hlabel, hreverse, hrow, hpaid⟩
        obtain rfl : op = op' := by simpa using hlabel
        exact absurd hpaid (hop row hrow hreverse)
    | created row hid hnew _ hstatus hrows hlocked =>
        have htotal : openTotal t.store = openTotal s.store + row.amount := by
          simp [openTotal, hrows, openAmount, hstatus]
        refine iff_of_true (by omega) ?_
        rintro ⟨op', row', hlabel, _, hrow, _⟩
        obtain rfl : op = op' := by simpa using hlabel
        simp [hnew] at hrow
    | moved row status metadata hop hrow hstatus hrows hlocked =>
        have htotal : openTotal t.store = openTotal s.store := by
          rw [openTotal_congr hrows, openTotal_updateWithdrawal hwf hrow, openAmount, hstatus]
          omega
        refine iff_of_true (by omega) ?_
        intro hreverses
        simp [((reversesPaid_iff hrow).mp hreverses).1] at hop
    | closed row status metadata hrow hsource hstatus hrows hlocked =>
        have htotal : openTotal t.store = openTotal s.store - openAmount row := by
          rw [openTotal_congr hrows, openTotal_updateWithdrawal hwf hrow, hstatus]
          simp
        have hle := openAmount_le_openTotal hwf hrow
        have hpos := hwf.amount_pos row (Keyed.mem_of_lookup hrow)
        unfold KeepsLocks
        rw [reversesPaid_iff hrow]
        rcases hsource with hopen | ⟨hpaid, hreverse⟩
        · have hamount : openAmount row = row.amount := by simp [openAmount, hopen]
          have hnot : row.status ≠ .paid := by
            rintro hpaid
            simp [hpaid, isOpen] at hopen
          refine iff_of_true (by omega) (fun h => absurd h.2 hnot)
        · have hamount : openAmount row = 0 := by simp [openAmount, hpaid, isOpen]
          simp only [hpaid, hreverse, and_self, true_imp_iff]
          constructor <;> intro h <;> omega
  · refine iff_of_true ?_ ?_
    · have htotal : openTotal (otherFeature s change).store = openTotal s.store :=
        openTotal_congr rfl
      rw [htotal]
      simp only [otherFeature]
      omega
    · rintro ⟨_, _, hlabel, _⟩
      simp at hlabel

end Steps

end RewardSystem.Withdraw
