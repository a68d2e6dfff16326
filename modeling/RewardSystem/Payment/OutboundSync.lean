import RewardSystem.Payment.LifecycleOutcomes
import RewardSystem.Payment.Outbound
import RewardSystem.Payment.StatusPaths

/-!
# Orders and accepted requests

When the adapter has answered, the request is recorded as sent and the order stands as the answer
says exactly if the lifecycle admits the answer at the order's status, whatever has been written
before.
-/

namespace RewardSystem.Payment

open TopUp Withdraw Wallet Transition

/-- The statuses of a deposit that agree with what the provider reports. A credited one has
succeeded before. -/
def depositMeaning : PaymentOrderStatus → List DepositStatus
  | .success | .paid => [.providerSucceeded, .credited]
  | .failed | .rejected => [.providerFailed]
  | .pending | .processing | .approved => [.providerPending]

def withdrawalMeaning : PaymentOrderStatus → List WithdrawalStatus
  | .success | .paid => [.paid]
  | .processing => [.providerProcessing]
  | .failed | .rejected => [.providerFailed]
  | .pending | .approved => [.providerSubmitted]

def SettlementBooks.Stands (books : SettlementBooks) (order : PaymentOrder)
    (reported : PaymentOrderStatus) : Prop :=
  match order with
  | .deposit id => ∃ status ∈ books.depositStatus id, status ∈ depositMeaning reported
  | .withdrawal id => ∃ status ∈ books.withdrawalStatus id, status ∈ withdrawalMeaning reported

/-- The request is recorded as sent and its order stands as the provider reports. -/
def InStep (desk : OutboundDesk) (request : OutboundRequest) (reported : PaymentOrderStatus) :
    Prop :=
  (∃ recorded, Keyed.lookup OutboundRequest.id request.id desk.requests = some recorded ∧
      recorded.sendStatus = .sent) ∧
    desk.books.Stands request.order reported

/-- The provider's id fits its column. -/
def AdapterResult.Fits (result : AdapterResult) : Prop :=
  ∀ providerOrderId ∈ result.providerOrderId, providerOrderId.length ≤ 128

/-- The reference is not blank, and no settlement has it. -/
def SettlementBooks.Settles (books : SettlementBooks) (reference : String) : Prop :=
  ∃ trimmed ∈ normalizeOptionalString (some reference), trimmed ∉ books.settlementReferences

def DepositAdmits (books : SettlementBooks) (reference : String) (status : DepositStatus) :
    PaymentOrderStatus → Prop
  | .success | .paid =>
      status = .providerPending ∧ books.Settles reference ∨ status = .providerSucceeded ∨
        status = .credited
  | .failed | .rejected =>
      status = .requested ∨ status = .providerPending ∨ status = .providerFailed
  | .pending | .processing | .approved => status = .requested ∨ status = .providerPending

def WithdrawalAdmits (strict : Bool) (adapterKey : String) (books : SettlementBooks)
    (reference : String) (row : WithdrawalRow) : PaymentOrderStatus → Prop
  | .success | .paid =>
      row.status ∈ failureSources ∧ books.Settles reference ∧
          Payable strict adapterKey books.finance row ∨
        row.status = .paid
  | .processing =>
      (row.status = .approved ∨ row.status = .providerSubmitted) ∧
          normalizeOptionalString (some reference) ≠ none ∨
        row.status = .providerProcessing
  | .failed | .rejected =>
      row.status ∈ failureSources ∧ books.Settles reference ∨ row.status = .providerFailed
  | .pending | .approved =>
      row.status = .approved ∧ normalizeOptionalString (some reference) ≠ none ∨
        row.status = .providerSubmitted

/-- The lifecycle admits the answer where the order stands. -/
def Admits (strict : Bool) (adapterKey : String) (books : SettlementBooks) (order : PaymentOrder)
    (result : AdapterResult) : Prop :=
  result.Fits ∧
    match order with
    | .deposit id =>
        ∃ row ∈ books.finance.lockDepositById id,
          DepositAdmits books
            (buildSystemSettlementReference adapterKey "deposit" id result.providerOrderId)
            row.status result.status
    | .withdrawal id =>
        ∃ row ∈ books.finance.selectLockedWithdrawal id,
          WithdrawalAdmits strict adapterKey books
            (buildSystemSettlementReference adapterKey "withdrawal" id result.providerOrderId)
            row result.status

section Transactions

variable {t : SettlementBooks → Except Thrown SettlementBooks}
  {rest : List (SettlementBooks → Except Thrown SettlementBooks)}
  {books books' : SettlementBooks} {run : FinanceStore → Except ApiError FinanceStore}
  {settles : Bool} {reference : Option String}

theorem commitAll_cons_eq_ok :
    commitAll (t :: rest) books = (books', .ok ()) ↔
      ∃ next, t books = .ok next ∧ commitAll rest next = (books', .ok ()) := by
  rw [commitAll]
  cases t books <;> simp

theorem commitAll_nil_eq_ok : commitAll [] books = (books', .ok ()) ↔ books = books' := by
  simp [commitAll]

theorem transaction_eq_ok :
    transaction run books = .ok books' ↔
      ∃ finance, run books.finance = .ok finance ∧ books' = { books with finance := finance } := by
  unfold transaction
  cases run books.finance with
  | ok finance => rw [Except.ok.injEq, eq_comm]; simp
  | error error => simp

theorem settlingTransaction_eq_ok :
    settlingTransaction settles reference run books = .ok books' ↔
      ∃ finance, run books.finance = .ok finance ∧
        (∀ written ∈ if settles then reference.toList else [],
          written ∉ books.settlementReferences) ∧
        books' =
          { finance := finance
            settlementReferences := books.settlementReferences ++
              if settles then reference.toList else [] } := by
  unfold settlingTransaction
  cases run books.finance with
  | ok finance =>
      by_cases hduplicate : ∃ written ∈ if settles then reference.toList else [],
          written ∈ books.settlementReferences
      · simp only [hduplicate, if_true]
        simpa using fun h => absurd hduplicate (by simpa using h)
      · simp only [hduplicate, if_false, Except.ok.injEq]
        constructor
        · rintro rfl
          exact ⟨finance, rfl, by simpa using hduplicate, rfl⟩
        · rintro ⟨_, rfl, _, rfl⟩
          rfl
  | error error => cases error <;> simp

theorem updateProviderResponse_eq_ok {result : AdapterResult} :
    updateProviderResponse result books = .ok books' ↔ result.Fits ∧ books = books' := by
  unfold updateProviderResponse AdapterResult.Fits
  cases result.providerOrderId with
  | none => simp
  | some providerOrderId =>
      by_cases hlong : 128 < providerOrderId.length
      · simp [hlong]
      · simp [hlong, Nat.not_lt.mp hlong]

end Transactions

section Sync

variable {strict : Bool} {adapterKey : String} {id : Nat} {result : AdapterResult}
  {books : SettlementBooks} {run : FinanceStore → Except ApiError FinanceStore}
  {settles : SettlementBooks → Bool} {reference : Option String} {P : FinanceStore → Prop}

theorem commitAll_transaction_iff :
    (∃ books', commitAll [updateProviderResponse result, transaction run] books =
          (books', .ok ()) ∧ P books'.finance) ↔
      result.Fits ∧ ∃ finance, run books.finance = .ok finance ∧ P finance := by
  simp only [commitAll_cons_eq_ok, commitAll_nil_eq_ok, updateProviderResponse_eq_ok,
    transaction_eq_ok]
  constructor
  · rintro ⟨_, ⟨_, ⟨hfits, rfl⟩, _, ⟨finance, hrun, rfl⟩, rfl⟩, hP⟩
    exact ⟨hfits, finance, hrun, hP⟩
  · rintro ⟨hfits, finance, hrun, hP⟩
    exact ⟨_, ⟨_, ⟨hfits, rfl⟩, _, ⟨finance, hrun, rfl⟩, rfl⟩, hP⟩

theorem commitAll_settlingTransaction_iff :
    (∃ books', commitAll [updateProviderResponse result,
            fun books => settlingTransaction (settles books) reference run books] books =
          (books', .ok ()) ∧ P books'.finance) ↔
      result.Fits ∧ (∀ written ∈ if settles books then reference.toList else [],
          written ∉ books.settlementReferences) ∧
        ∃ finance, run books.finance = .ok finance ∧ P finance := by
  simp only [commitAll_cons_eq_ok, commitAll_nil_eq_ok, updateProviderResponse_eq_ok,
    settlingTransaction_eq_ok]
  constructor
  · rintro ⟨_, ⟨_, ⟨hfits, rfl⟩, _, ⟨finance, hrun, hfresh, rfl⟩, rfl⟩, hP⟩
    exact ⟨hfits, hfresh, finance, hrun, hP⟩
  · rintro ⟨hfits, hfresh, finance, hrun, hP⟩
    exact ⟨_, ⟨_, ⟨hfits, rfl⟩, _, ⟨finance, hrun, hfresh, rfl⟩, rfl⟩, hP⟩

theorem settles_iff {books : SettlementBooks} {reference : String} :
    books.Settles reference ↔
      (∀ written ∈ (normalizeOptionalString (some reference)).toList,
          written ∉ books.settlementReferences) ∧
        normalizeOptionalString (some reference) ≠ none := by
  unfold SettlementBooks.Settles
  cases normalizeOptionalString (some reference) <;> simp

section Deposits

variable {row : DepositRow} {mark : DepositMark} {review : FinanceReviewPayload}

/-- Where a mark leaves the deposit, once the answer is written down. -/
def MarkAdmits (mark : DepositMark) (review : FinanceReviewPayload) (row : DepositRow)
    (P : DepositStatus → Prop) : Prop :=
  if row.status ∈ mark.sources then
    HasTransition depositTransitions row.status mark.target ∧
      (mark.requireSettlementReference = true →
        normalizeOptionalString review.settlementReference ≠ none) ∧ P mark.target
  else P row.status

theorem commitAll_markDeposit_iff (hrow : books.finance.lockDepositById id = some row)
    (hnote : normalizeOptionalString (some mark.fallbackNote) ≠ none)
    (htarget : mark.target ∉ mark.sources) {P : DepositStatus → Prop} :
    (∃ books', commitAll [updateProviderResponse result,
            transaction (markDeposit mark id review)] books = (books', .ok ()) ∧
          ∃ status ∈ books'.depositStatus id, P status) ↔
      result.Fits ∧ MarkAdmits mark review row P := by
  apply (commitAll_transaction_iff (P := fun finance =>
    ∃ status ∈ (finance.lockDepositById id).map DepositRow.status, P status)).trans
  rw [exists_markDeposit_iff hrow hnote htarget, MarkAdmits]

theorem commitAll_settlingMark_iff (hrow : books.finance.lockDepositById id = some row)
    (hnote : normalizeOptionalString (some mark.fallbackNote) ≠ none)
    (htarget : mark.target ∉ mark.sources) {P : DepositStatus → Prop} :
    (∃ books', commitAll [updateProviderResponse result, fun books =>
            settlingTransaction (settles books) reference (markDeposit mark id review) books]
            books = (books', .ok ()) ∧
          ∃ status ∈ books'.depositStatus id, P status) ↔
      result.Fits ∧ (∀ written ∈ if settles books then reference.toList else [],
          written ∉ books.settlementReferences) ∧ MarkAdmits mark review row P := by
  apply (commitAll_settlingTransaction_iff (P := fun finance =>
    ∃ status ∈ (finance.lockDepositById id).map DepositRow.status, P status)).trans
  rw [exists_markDeposit_iff hrow hnote htarget, MarkAdmits]

/-- A deposit is brought to where the provider reports it exactly from the statuses that admit the
report. -/
theorem syncDeposit_iff (hrow : books.finance.lockDepositById id = some row) :
    (∃ books', syncDepositOrderAfterOutboundSend adapterKey id result books = (books', .ok ()) ∧
        books'.Stands (.deposit id) result.status) ↔
      result.Fits ∧ DepositAdmits books
        (buildSystemSettlementReference adapterKey "deposit" id result.providerOrderId)
        row.status result.status := by
  have hstatus : books.depositStatus id = some row.status := by
    rw [SettlementBooks.depositStatus, hrow, Option.map_some]
  cases hreported : result.status with
  | success | paid =>
      simp only [syncDepositOrderAfterOutboundSend, hreported, SettlementBooks.Stands,
        markDepositProviderSucceeded, DepositAdmits]
      rw [commitAll_settlingMark_iff hrow (by decide) (by decide), MarkAdmits, hstatus,
        settles_iff]
      cases row.status <;>
        simp [HasTransition, depositTransitions, depositMeaning, outboundReview]
  | failed | rejected =>
      simp only [syncDepositOrderAfterOutboundSend, hreported, SettlementBooks.Stands,
        failDeposit, DepositAdmits]
      rw [commitAll_markDeposit_iff hrow (by decide) (by decide), MarkAdmits]
      cases row.status <;> simp [HasTransition, depositTransitions, depositMeaning]
  | pending | processing | approved =>
      simp only [syncDepositOrderAfterOutboundSend, hreported, SettlementBooks.Stands,
        markDepositProviderPending, DepositAdmits]
      rw [commitAll_markDeposit_iff hrow (by decide) (by decide), MarkAdmits]
      cases row.status <;> simp [HasTransition, depositTransitions, depositMeaning]

end Deposits

section Withdrawals

variable {row : WithdrawalRow} {review : FinanceReviewPayload}

theorem commitAll_progress_iff {P : FinanceStore → Prop} :
    (∃ books', commitAll
            [updateProviderResponse result,
              transaction (markWithdrawalProviderSubmitted id review),
              transaction (markWithdrawalProviderProcessing id review)] books =
          (books', .ok ()) ∧ P books'.finance) ↔
      result.Fits ∧ ∃ last, Progresses id review books.finance last ∧ P last := by
  simp only [commitAll_cons_eq_ok, commitAll_nil_eq_ok, updateProviderResponse_eq_ok,
    transaction_eq_ok]
  constructor
  · rintro ⟨_, ⟨_, ⟨hfits, rfl⟩, _, ⟨next, hfirst, rfl⟩, _, ⟨last, hsecond, rfl⟩, rfl⟩, hP⟩
    exact ⟨hfits, last, ⟨next, hfirst, hsecond⟩, hP⟩
  · rintro ⟨hfits, last, ⟨next, hfirst, hsecond⟩, hP⟩
    exact ⟨_, ⟨_, ⟨hfits, rfl⟩, _, ⟨next, hfirst, rfl⟩, _, ⟨last, hsecond, rfl⟩, rfl⟩, hP⟩

theorem commitAll_payment_iff {P : FinanceStore → Prop} :
    (∃ books', commitAll
            [updateProviderResponse result,
              transaction (markWithdrawalProviderSubmitted id review),
              transaction (markWithdrawalProviderProcessing id review),
              fun books => settlingTransaction (settles books) reference run books] books =
          (books', .ok ()) ∧ P books'.finance) ↔
      result.Fits ∧ ∃ last, Progresses id review books.finance last ∧
        (∀ written ∈ if settles { books with finance := last } then reference.toList else [],
          written ∉ books.settlementReferences) ∧
        ∃ finance, run last = .ok finance ∧ P finance := by
  simp only [commitAll_cons_eq_ok, commitAll_nil_eq_ok, updateProviderResponse_eq_ok,
    transaction_eq_ok, settlingTransaction_eq_ok]
  constructor
  · rintro ⟨_, ⟨_, ⟨hfits, rfl⟩, _, ⟨next, hfirst, rfl⟩, _, ⟨last, hsecond, rfl⟩, _,
      ⟨finance, hrun, hfresh, rfl⟩, rfl⟩, hP⟩
    exact ⟨hfits, last, ⟨next, hfirst, hsecond⟩, hfresh, finance, hrun, hP⟩
  · rintro ⟨hfits, last, ⟨next, hfirst, hsecond⟩, hfresh, finance, hrun, hP⟩
    exact ⟨_, ⟨_, ⟨hfits, rfl⟩, _, ⟨next, hfirst, rfl⟩, _, ⟨last, hsecond, rfl⟩, _,
      ⟨finance, hrun, hfresh, rfl⟩, rfl⟩, hP⟩

theorem exists_markSubmitted_iff {store : FinanceStore}
    (hrow : store.selectLockedWithdrawal id = some row) {P : WithdrawalStatus → Prop} :
    (∃ store', markWithdrawalProviderSubmitted id review store = .ok store' ∧
        ∃ status ∈ (store'.selectLockedWithdrawal id).map WithdrawalRow.status, P status) ↔
      (row.status = .approved → normalizeOptionalString review.settlementReference ≠ none) ∧
        P (if row.status = .approved then .providerSubmitted else row.status) := by
  have hok := @markProviderProgress_eq_ok id review store row [.approved] .providerSubmitted
    .markProviderSubmitted "withdrawal_provider_submitted" "provider_submitted" hrow (by decide)
  rw [List.mem_singleton] at hok
  rw [← hok]
  constructor
  · rintro ⟨store', hsubmitted, status, hstatus, hP⟩
    have hadvanced := (advanced_markProviderProgress hrow hsubmitted).map_status
    simp only [List.mem_singleton] at hadvanced
    obtain rfl := Option.some.inj (hadvanced.symm.trans hstatus)
    exact ⟨⟨store', hsubmitted⟩, hP⟩
  · rintro ⟨⟨store', hsubmitted⟩, hP⟩
    have hadvanced := (advanced_markProviderProgress hrow hsubmitted).map_status
    simp only [List.mem_singleton] at hadvanced
    exact ⟨store', hsubmitted, _, hadvanced, hP⟩

theorem exists_markFailed_iff {store : FinanceStore}
    (hrow : store.selectLockedWithdrawal id = some row) {P : WithdrawalStatus → Prop} :
    (∃ store', markWithdrawalProviderFailed id review store = .ok store' ∧
        ∃ status ∈ (store'.selectLockedWithdrawal id).map WithdrawalRow.status, P status) ↔
      (row.status ∈ failureSources →
          normalizeOptionalString review.settlementReference ≠ none) ∧
        P (if row.status ∈ failureSources then .providerFailed else row.status) := by
  rw [← markWithdrawalProviderFailed_eq_ok hrow]
  constructor
  · rintro ⟨store', hfailed, status, hstatus, hP⟩
    have hnew := status_of_markWithdrawalProviderFailed hrow hfailed
    obtain rfl := Option.some.inj (hnew.symm.trans hstatus)
    exact ⟨⟨store', hfailed⟩, hP⟩
  · rintro ⟨⟨store', hfailed⟩, hP⟩
    exact ⟨store', hfailed, _, status_of_markWithdrawalProviderFailed hrow hfailed, hP⟩

theorem exists_payWithdrawal_iff {store : FinanceStore}
    (hrow : store.selectLockedWithdrawal id = some row)
    (hchannel : review.processingChannel = some adapterKey)
    (hkey : normalizeOptionalString (some adapterKey) = some adapterKey)
    {P : WithdrawalStatus → Prop} :
    (∃ store', payWithdrawal strict id review store = .ok store' ∧
        ∃ status ∈ (store'.selectLockedWithdrawal id).map WithdrawalRow.status, P status) ↔
      (row.status = .providerProcessing →
          normalizeOptionalString review.settlementReference ≠ none ∧
            Payable strict adapterKey store row) ∧
        P (if row.status = .providerProcessing then .paid else row.status) := by
  have hok : (∃ store', payWithdrawal strict id review store = .ok store') ↔
      (row.status = .providerProcessing →
        normalizeOptionalString review.settlementReference ≠ none ∧
          Payable strict adapterKey store row) := by
    by_cases hprocessing : row.status = .providerProcessing
    · rw [payWithdrawal_eq_ok hrow hprocessing hchannel hkey]
      simp [hprocessing]
    · have hstays : decide (row.status = .providerProcessing) = false := by simpa using hprocessing
      rw [payWithdrawal, onOrder_of_stays hrow hstays]
      simp [hprocessing]
  rw [← hok]
  constructor
  · rintro ⟨store', hpaid, status, hstatus, hP⟩
    obtain rfl := Option.some.inj ((status_of_payWithdrawal hrow hpaid).symm.trans hstatus)
    exact ⟨⟨store', hpaid⟩, hP⟩
  · rintro ⟨⟨store', hpaid⟩, hP⟩
    exact ⟨store', hpaid, _, status_of_payWithdrawal hrow hpaid, hP⟩

theorem exists_progresses_status_iff {store : FinanceStore}
    (hrow : store.selectLockedWithdrawal id = some row) {P : WithdrawalStatus → Prop} :
    (∃ last, Progresses id review store last ∧
        ∃ status ∈ (last.selectLockedWithdrawal id).map WithdrawalRow.status, P status) ↔
      (row.status = .approved ∨ row.status = .providerSubmitted →
          normalizeOptionalString review.settlementReference ≠ none) ∧
        P (progressed row.status) := by
  rw [← exists_progresses_iff hrow]
  constructor
  · rintro ⟨last, hprogress, status, hstatus, hP⟩
    obtain rfl := Option.some.inj ((hprogress.advanced hrow).map_status.symm.trans hstatus)
    exact ⟨⟨last, hprogress⟩, hP⟩
  · rintro ⟨⟨last, hprogress⟩, hP⟩
    exact ⟨last, hprogress, _, (hprogress.advanced hrow).map_status, hP⟩

/-- The three transactions of a payment together: the order is in processing when it comes to the
payment itself, unless it is past it already. -/
theorem exists_payment_iff {reference : String}
    (hrow : books.finance.selectLockedWithdrawal id = some row)
    (hreference : review.settlementReference = some reference)
    (hchannel : review.processingChannel = some adapterKey)
    (hkey : normalizeOptionalString (some adapterKey) = some adapterKey) :
    (∃ last, Progresses id review books.finance last ∧
        (∀ written ∈
          if ({ books with finance := last } : SettlementBooks).withdrawalStatus id =
              some .providerProcessing then
            (normalizeOptionalString (some reference)).toList else [],
          written ∉ books.settlementReferences) ∧
        ∃ finance, payWithdrawal strict id review last = .ok finance ∧
          ∃ status ∈ (finance.selectLockedWithdrawal id).map WithdrawalRow.status,
            status ∈ [WithdrawalStatus.paid]) ↔
      row.status ∈ failureSources ∧ books.Settles reference ∧
          Payable strict adapterKey books.finance row ∨
        row.status = .paid := by
  rw [settles_iff]
  constructor
  · rintro ⟨last, hprogress, hfresh, hpaid⟩
    have hadvanced := hprogress.advanced hrow
    obtain ⟨row', hrow', hstatus', _⟩ := hadvanced.stored
    obtain ⟨hpay, hmeans⟩ := (exists_payWithdrawal_iff hrow' hchannel hkey).mp hpaid
    rw [hstatus'] at hpay hmeans
    rw [SettlementBooks.withdrawalStatus, hadvanced.map_status] at hfresh
    by_cases hsource : row.status ∈ failureSources
    · rw [progressed_of_mem hsource] at hpay hfresh
      obtain ⟨hnonblank, hpayable⟩ := hpay rfl
      rw [if_pos rfl] at hfresh
      rw [hreference] at hnonblank
      exact .inl ⟨hsource, ⟨hfresh, hnonblank⟩, (hadvanced.payable_iff hrow').mp hpayable⟩
    · have hprocessing : row.status ≠ .providerProcessing := fun h =>
        hsource (by simp [h, failureSources])
      rw [progressed_of_not_mem hsource, if_neg hprocessing] at hmeans
      exact .inr (by simpa using hmeans)
  · rintro (⟨hsource, ⟨hfresh, hnonblank⟩, hpayable⟩ | hpaid)
    · have hprogresses : row.status = .approved ∨ row.status = .providerSubmitted →
          normalizeOptionalString review.settlementReference ≠ none := fun _ => by
        rwa [hreference]
      obtain ⟨last, hprogress⟩ := (exists_progresses_iff hrow).mpr hprogresses
      have hadvanced := hprogress.advanced hrow
      obtain ⟨row', hrow', hstatus', _⟩ := hadvanced.stored
      rw [progressed_of_mem hsource] at hstatus'
      refine ⟨last, hprogress, ?_, (exists_payWithdrawal_iff hrow' hchannel hkey).mpr ⟨?_, ?_⟩⟩
      · rw [SettlementBooks.withdrawalStatus, hadvanced.map_status, progressed_of_mem hsource,
          if_pos rfl]
        exact hfresh
      · exact fun _ => ⟨by rwa [hreference], (hadvanced.payable_iff hrow').mpr hpayable⟩
      · simp [hstatus']
    · have hprogresses : row.status = .approved ∨ row.status = .providerSubmitted →
          normalizeOptionalString review.settlementReference ≠ none := by simp [hpaid]
      obtain ⟨last, hprogress⟩ := (exists_progresses_iff hrow).mpr hprogresses
      have hadvanced := hprogress.advanced hrow
      obtain ⟨row', hrow', hstatus', _⟩ := hadvanced.stored
      have hpassed : progressed row.status = .paid := by rw [hpaid]; rfl
      rw [hpassed] at hstatus'
      refine ⟨last, hprogress, ?_, (exists_payWithdrawal_iff hrow' hchannel hkey).mpr ⟨?_, ?_⟩⟩
      · rw [SettlementBooks.withdrawalStatus, hadvanced.map_status, hpassed]
        simp
      · simp [hstatus']
      · simp [hstatus']

/-- A withdrawal is brought to where the provider reports it exactly from the statuses that admit
the report; a payment must also be payable. -/
theorem syncWithdrawal_iff (hrow : books.finance.selectLockedWithdrawal id = some row)
    (hkey : normalizeOptionalString (some adapterKey) = some adapterKey) :
    (∃ books', syncWithdrawalOrderAfterOutboundSend strict adapterKey id result books =
          (books', .ok ()) ∧ books'.Stands (.withdrawal id) result.status) ↔
      result.Fits ∧ WithdrawalAdmits strict adapterKey books
        (buildSystemSettlementReference adapterKey "withdrawal" id result.providerOrderId)
        row result.status := by
  have hstatus : books.withdrawalStatus id = some row.status := by
    rw [SettlementBooks.withdrawalStatus, hrow, Option.map_some]
  cases hreported : result.status with
  | success | paid =>
      simp only [syncWithdrawalOrderAfterOutboundSend, hreported, SettlementBooks.Stands,
        WithdrawalAdmits]
      apply (commitAll_payment_iff (P := fun finance =>
        ∃ status ∈ (finance.selectLockedWithdrawal id).map WithdrawalRow.status,
          status ∈ withdrawalMeaning .paid)).trans
      simp only [decide_eq_true_eq, withdrawalMeaning]
      rw [exists_payment_iff hrow rfl rfl hkey]
  | processing =>
      simp only [syncWithdrawalOrderAfterOutboundSend, hreported, SettlementBooks.Stands,
        WithdrawalAdmits]
      apply (commitAll_progress_iff (P := fun finance =>
        ∃ status ∈ (finance.selectLockedWithdrawal id).map WithdrawalRow.status,
          status ∈ withdrawalMeaning .processing)).trans
      rw [exists_progresses_status_iff hrow]
      cases row.status <;> simp [withdrawalMeaning, outboundReview, progressed]
  | failed | rejected =>
      simp only [syncWithdrawalOrderAfterOutboundSend, hreported, SettlementBooks.Stands,
        WithdrawalAdmits]
      apply (commitAll_settlingTransaction_iff (P := fun finance =>
        ∃ status ∈ (finance.selectLockedWithdrawal id).map WithdrawalRow.status,
          status ∈ withdrawalMeaning .failed)).trans
      rw [exists_markFailed_iff hrow, hstatus, settles_iff]
      cases row.status <;> simp [failureSources, withdrawalMeaning, outboundReview]
  | pending | approved =>
      simp only [syncWithdrawalOrderAfterOutboundSend, hreported, SettlementBooks.Stands,
        WithdrawalAdmits]
      apply (commitAll_transaction_iff (P := fun finance =>
        ∃ status ∈ (finance.selectLockedWithdrawal id).map WithdrawalRow.status,
          status ∈ withdrawalMeaning .pending)).trans
      rw [exists_markSubmitted_iff hrow]
      cases row.status <;> simp [withdrawalMeaning, outboundReview]

end Withdrawals

end Sync

section Requests

variable {strict : Bool} {retryAt : Int} {providerId : Nat} {provider : PreparedPaymentProvider}
  {adapter : PaymentAdapter} {result : AdapterResult} {row : OutboundRequest} {desk : OutboundDesk}
  {thrown : Thrown}

/-- Where the request and its order are found. -/
structure Claimed (row : OutboundRequest) (desk : OutboundDesk) : Prop where
  stored : Keyed.lookup OutboundRequest.id row.id desk.requests = some row
  order : desk.books.holds row.order = true

theorem lookup_updateRequest {f : OutboundRequest → OutboundRequest}
    (hf : ∀ request, (f request).id = request.id)
    (hstored : Keyed.lookup OutboundRequest.id row.id desk.requests = some row) :
    Keyed.lookup OutboundRequest.id row.id (updateRequest row.id f desk).requests =
      some (f row) :=
  Keyed.lookup_modify_self (fun request h => (hf request).trans h) hstored

/-- Whatever was thrown, the request is not sent: it falls due again, by itself or once it is
prepared again. -/
theorem exists_recordThrown
    (hstored : Keyed.lookup OutboundRequest.id row.id desk.requests = some row) :
    ∃ recorded, Keyed.lookup OutboundRequest.id row.id
        (recordThrown retryAt row.id thrown desk).requests = some recorded ∧
      recorded.sendStatus ≠ .sent ∧ recorded.prepareAgain.IsDue retryAt := by
  have hfailed : ∀ errorCode retryable, ∃ recorded, Keyed.lookup OutboundRequest.id row.id
      (markOutboundRequestFailed retryAt row.id errorCode thrown.message retryable desk).requests =
        some recorded ∧ recorded.sendStatus ≠ .sent ∧ recorded.prepareAgain.IsDue retryAt := by
    intro errorCode retryable
    refine ⟨_, lookup_updateRequest (fun _ => rfl) hstored, ?_, ?_⟩ <;>
      cases retryable <;> simp [OutboundRequest.prepareAgain, OutboundRequest.IsDue]
  unfold recordThrown
  cases classifyStripeApiFailure thrown with
  | rateLimit => exact hfailed "stripe_rate_limit" true
  | serverError => exact hfailed "stripe_server_error" true
  | clientError => exact hfailed "stripe_client_error" false
  | transportError | unknown =>
      cases isUnknownDeliveryError thrown with
      | true =>
          refine ⟨_, lookup_updateRequest (fun _ => rfl) hstored, ?_, ?_⟩
          · simp
          · simp [OutboundRequest.prepareAgain, OutboundRequest.IsDue]
      | false => exact hfailed "send_failed" false

theorem syncOrder_iff {books : SettlementBooks} {order : PaymentOrder}
    (horder : books.holds order = true) :
    (∃ books', syncOrderAfterOutboundSend strict adapter.key order result books =
        (books', .ok ()) ∧ books'.Stands order result.status) ↔
      Admits strict adapter.key books order result := by
  cases order with
  | deposit id =>
      obtain ⟨row, hrow⟩ := Option.isSome_iff_exists.mp horder
      simp only [syncOrderAfterOutboundSend, Admits]
      rw [syncDeposit_iff hrow]
      simp [hrow]
  | withdrawal id =>
      obtain ⟨row, hrow⟩ := Option.isSome_iff_exists.mp horder
      simp only [syncOrderAfterOutboundSend, Admits]
      rw [syncWithdrawal_iff hrow adapter.key_normalized]
      simp [hrow]

/-- When the adapter has answered, the request is recorded as sent and the order stands as the
answer says exactly if the lifecycle admits the answer. -/
theorem inStep_iff_admits (hadapter : provider.adapter = some adapter)
    (hautomated : adapter.supportsAutomation = true) (hclaimed : Claimed row desk) :
    InStep (processOutboundRequest strict retryAt providerId (some provider) (.ok result) row desk)
        row result.status ↔
      Admits strict adapter.key desk.books row.order result := by
  obtain ⟨hstored, horder⟩ := hclaimed
  rw [← syncOrder_iff horder]
  simp only [processOutboundRequest, dispatchOutboundRequest, horder, hadapter, hautomated,
    Bool.true_eq_false, if_false]
  cases hsync : syncOrderAfterOutboundSend strict adapter.key row.order result desk.books with
  | mk books outcome =>
      cases outcome with
      | error thrown =>
          have hdesk : Keyed.lookup OutboundRequest.id row.id
              ({ desk with books := books } : OutboundDesk).requests = some row := hstored
          obtain ⟨recorded, hrecorded, hsent, _⟩ :=
            @exists_recordThrown retryAt row { desk with books := books } thrown hdesk
          constructor
          · rintro ⟨⟨other, hother, hothersent⟩, _⟩
            obtain rfl := Option.some.inj (hrecorded.symm.trans hother)
            exact absurd hothersent hsent
          · rintro ⟨_, hok, _⟩
            cases hok
      | ok =>
          have hsent := @lookup_updateRequest row { desk with books := books }
            (fun request =>
              { request with
                sendStatus := .sent
                nextRetryAt := none
                responseHttpStatus := some 200
                providerOrderId := result.providerOrderId
                lastErrorCode := none
                lastError := none }) (fun _ => rfl) hstored
          constructor
          · rintro ⟨_, hstands⟩
            exact ⟨books, rfl, hstands⟩
          · rintro ⟨books', hbooks, hstands⟩
            obtain rfl : books = books' := (Prod.mk.inj hbooks).1
            exact ⟨⟨_, hsent, rfl⟩, hstands⟩

end Requests

section Example

def stripePaymentAdapter : PaymentAdapter :=
  { key := "stripe"
    supportsAutomation := true
    key_normalized := by decide }

def stripeProvider : PreparedPaymentProvider :=
  { name := "Stripe"
    adapter := some stripePaymentAdapter }

def claimedRequest (order : PaymentOrder) : OutboundRequest :=
  { id := 1
    order := order
    sendStatus := .sending
    nextRetryAt := none
    responseHttpStatus := none
    providerOrderId := none
    lastErrorCode := none
    lastError := none }

def deskAfter (ops : List OrderOp) (order : PaymentOrder) : OutboundDesk :=
  { books := { finance := ops.foldl (attempt true) fundedStore, settlementReferences := [] }
    requests := [claimedRequest order] }

/-- A withdrawal that is to be paid through a manual channel. -/
def riskyWithdrawal : List OrderOp :=
  [.withdrawal (.create ⟨.ok (), true, 0, 0, .ok (), 0, 0, 0, .ok (), 0, ["new_device"]⟩ 1 4000
      (emptyMetadata _ _)),
    .withdrawal (.approve 1 payoutReview)]

/-- The desk after the adapter has answered the request for `order`. -/
def answered (ops : List OrderOp) (order : PaymentOrder) (result : AdapterResult) : OutboundDesk :=
  processOutboundRequest true 60 1 (some stripeProvider) (.ok result) (claimedRequest order)
    (deskAfter ops order)

/-- A new deposit is accepted as paid and stays requested, its request falls due again; an accepted
payout whose order is risk-routed is recorded as failed. -/
theorem not_inStep_of_accepted :
    (∃ events t, Run (OrderStep true) fundedStore events t ∧
      t = (deskAfter requestedDeposit (.deposit 1)).books.finance ∧
      t.deposits.map DepositRow.status = [.requested]) ∧
    ¬InStep (answered requestedDeposit (.deposit 1) ⟨some "p-1", .success⟩)
      (claimedRequest (.deposit 1)) .success ∧
    ((answered requestedDeposit (.deposit 1) ⟨some "p-1", .success⟩).requests.map
        fun request => (request.sendStatus, request.lastErrorCode)) =
      [(.unknown, some "stripe_server_error")] ∧
    ¬InStep (answered riskyWithdrawal (.withdrawal 1) ⟨some "p-2", .paid⟩)
      (claimedRequest (.withdrawal 1)) .paid ∧
    ((answered riskyWithdrawal (.withdrawal 1) ⟨some "p-2", .paid⟩).requests.map
        fun request => (request.sendStatus, request.lastErrorCode)) =
      [(.failed, some "stripe_client_error")] ∧
    (answered riskyWithdrawal (.withdrawal 1) ⟨some "p-2", .paid⟩).books.withdrawalStatus 1 =
      some .providerProcessing := by
  have hnever : ∀ {desk : OutboundDesk} {request : OutboundRequest} {reported},
      desk.requests.map OutboundRequest.sendStatus ≠ [.sent] → desk.requests.length = 1 →
        ¬InStep desk request reported := by
    rintro desk request reported hstatuses hlength ⟨⟨recorded, hrecorded, hsent⟩, _⟩
    obtain ⟨only, honly⟩ := List.length_eq_one_iff.mp hlength
    have hmem := Keyed.mem_of_lookup hrecorded
    rw [honly, List.mem_singleton] at hmem
    exact hstatuses (by rw [honly, ← hmem, List.map_singleton, hsent])
  refine ⟨⟨_, _, run_attempts true fundedStore requestedDeposit, rfl, by decide +kernel⟩,
    hnever (by decide +kernel) (by decide +kernel), by decide +kernel,
    hnever (by decide +kernel) (by decide +kernel), by decide +kernel, by decide +kernel⟩

theorem inStep_pending_deposit :
    InStep (answered requestedDeposit (.deposit 1) ⟨some "p-1", .pending⟩)
      (claimedRequest (.deposit 1)) .pending := by
  have hrow : ((deskAfter requestedDeposit (.deposit 1)).books.finance.lockDepositById 1).map
      DepositRow.status = some .requested := by decide +kernel
  obtain ⟨row, hrow, hstatus⟩ := Option.map_eq_some_iff.mp hrow
  apply (inStep_iff_admits rfl rfl ⟨by decide +kernel, by decide +kernel⟩).mpr
  exact ⟨by simp only [AdapterResult.Fits]; decide +kernel, row, hrow, .inl hstatus⟩

end Example

end RewardSystem.Payment
