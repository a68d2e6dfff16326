import RewardSystem.TopUp.StatusTrail
import RewardSystem.Withdraw.StatusTrail

/-!
# Finance-order operations and the declared graphs

The operations on the withdrawals and deposits of one user are attempted in any order. An attempt
that fails rolls its transaction back.
-/

namespace RewardSystem.Payment

open Transition

inductive OrderOp where
  | withdrawal (op : Withdraw.WithdrawalOp)
  | deposit (op : TopUp.DepositOp)

def OrderOp.run (strict : Bool) (store : FinanceStore) : OrderOp → Except ApiError FinanceStore
  | withdrawal op => op.run strict store
  | deposit op => op.run strict store

inductive OrderActivity where
  | attempt (op : OrderOp)
  | otherFeature

/-- An attempted operation, or any other activity: it leaves the orders alone. -/
inductive OrderStep (strict : Bool) : FinanceStore → OrderActivity → FinanceStore → Prop
  | accepted {store store' : FinanceStore} {op : OrderOp}
      (hrun : op.run strict store = .ok store') : OrderStep strict store (.attempt op) store'
  | refused {store : FinanceStore} {op : OrderOp} {error : ApiError}
      (hrun : op.run strict store = .error error) : OrderStep strict store (.attempt op) store
  | otherFeature {store store' : FinanceStore}
      (hwithdrawals : store'.withdrawals = store.withdrawals)
      (hdeposits : store'.deposits = store.deposits) :
      OrderStep strict store .otherFeature store'

/-- The status stays, or changes along an edge of the graph. -/
def Follows {S : Type} (graph : S → List S) (fromStatus toStatus : S) : Prop :=
  toStatus = fromStatus ∨ HasTransition graph fromStatus toStatus

/-- An operation whose own check admits the order's status changes it along an edge only, and is
not refused by the transition assertion. The withdrawal lifecycle makes no such assertion. -/
def AgreesWithGraphs (strict : Bool) (e : Event FinanceStore OrderActivity) : Prop :=
  match e.label with
  | .attempt (.withdrawal op) =>
      ∀ row row', e.before.selectLockedWithdrawal op.id = some row → row.status ∈ op.sources →
        e.after.selectLockedWithdrawal op.id = some row' →
          Follows withdrawalTransitions row.status row'.status
  | .attempt (.deposit op) =>
      ∀ row row', e.before.lockDepositById op.id = some row → row.status ∈ op.sources →
        e.after.lockDepositById op.id = some row' →
          Follows depositTransitions row.status row'.status ∧
            ¬op.RefusedByAssertion strict e.before row
  | .otherFeature => True

/-- No report on a payout reaches a withdrawal that is only approved, and no reported success a
deposit that is not pending. -/
def ReportsInTurn (e : Event FinanceStore OrderActivity) : Prop :=
  match e.label with
  | .attempt (.withdrawal op) =>
      op.reportsOnPayout → ∀ row, e.before.selectLockedWithdrawal op.id = some row →
        row.status ≠ .approved
  | .attempt (.deposit op) =>
      op.reportsSuccess → ∀ row, e.before.lockDepositById op.id = some row →
        row.status ≠ .requested ∧ row.status ≠ .providerFailed
  | .otherFeature => True

structure TrailsArePaths (store : FinanceStore) : Prop where
  withdrawalKeys : Keyed.HasKeys WithdrawalRow.id store.withdrawals
  depositKeys : Keyed.HasKeys DepositRow.id store.deposits
  withdrawals : ∀ row ∈ store.withdrawals, Withdraw.TrailAgrees row
  deposits : ∀ row ∈ store.deposits, TopUp.TrailAgrees row

section Withdrawals

variable {strict : Bool} {op : Withdraw.WithdrawalOp} {store store' : FinanceStore}
  {row : WithdrawalRow} {status : WithdrawalStatus} {metadata : WithdrawalMetadata}

theorem TrailsArePaths.congr (hpaths : TrailsArePaths store)
    (horders : Withdraw.SameOrders store store') : TrailsArePaths store' := by
  obtain ⟨hwithdrawals, hdeposits⟩ := horders
  constructor
  · exact hwithdrawals ▸ hpaths.withdrawalKeys
  · exact hdeposits ▸ hpaths.depositKeys
  · exact hwithdrawals ▸ hpaths.withdrawals
  · exact hdeposits ▸ hpaths.deposits

theorem TrailsArePaths.updateWithdrawal (hpaths : TrailsArePaths store) {id : Nat}
    (hrow : store.selectLockedWithdrawal id = some row)
    (hnew : Withdraw.TrailAgrees { row with status := status, metadata := metadata }) :
    TrailsArePaths (store.updateWithdrawal id status metadata) :=
  { hpaths with
    withdrawalKeys := Keyed.hasKeys_modify (fun _ h => h) hpaths.withdrawalKeys
    withdrawals := Keyed.forall_modify hpaths.withdrawalKeys hrow hnew hpaths.withdrawals }

theorem TrailsArePaths.appendWithdrawal (hpaths : TrailsArePaths store)
    (hnew : store.selectLockedWithdrawal row.id = none) (hrow : Withdraw.TrailAgrees row) :
    TrailsArePaths { store with withdrawals := store.withdrawals ++ [row] } :=
  { hpaths with
    withdrawalKeys := Keyed.hasKeys_append hpaths.withdrawalKeys hnew
    withdrawals := by
      intro other hother
      rcases List.mem_append.mp hother with hother | hother
      · exact hpaths.withdrawals other hother
      · obtain rfl : other = row := by simpa using hother
        exact hrow }

theorem status_of_updated {id : Nat} {row' : WithdrawalRow}
    (hrow : store.selectLockedWithdrawal id = some row)
    (horders : Withdraw.SameOrders (store.updateWithdrawal id status metadata) store')
    (hrow' : store'.selectLockedWithdrawal id = some row') : row'.status = status := by
  have hlookup : store'.selectLockedWithdrawal id =
      some { row with status := status, metadata := metadata } := by
    rw [FinanceStore.selectLockedWithdrawal, horders.withdrawals]
    exact Keyed.lookup_modify_self (fun _ h => h) hrow
  rw [hrow', Option.some.injEq] at hlookup
  rw [hlookup]

/-- An accepted operation on a withdrawal follows an edge and extends the trail by it, if it does
not report on a payout before its turn. -/
theorem withdrawal_follows (hpaths : TrailsArePaths store) (hrun : op.run strict store = .ok store')
    (hinTurn : ReportsInTurn ⟨store, .attempt (.withdrawal op), store'⟩) :
    AgreesWithGraphs strict ⟨store, .attempt (.withdrawal op), store'⟩ ∧
      TrailsArePaths store' := by
  cases Withdraw.statusEffect_run hrun with
  | unchanged horders =>
      refine ⟨fun row row' hrow _ hrow' => ?_, hpaths.congr horders⟩
      have hsame : store'.selectLockedWithdrawal op.id = some row := by
        rw [FinanceStore.selectLockedWithdrawal, horders.withdrawals]
        exact hrow
      rw [hsame, Option.some.injEq] at hrow'
      exact .inl (by rw [hrow'])
  | created row hnew htrail horders =>
      refine ⟨fun old row' hold _ hrow' => ?_, (hpaths.appendWithdrawal hnew htrail).congr horders⟩
      have hold : Keyed.lookup WithdrawalRow.id op.id store.withdrawals = some old := hold
      have hsame : store'.selectLockedWithdrawal op.id = some old := by
        rw [FinanceStore.selectLockedWithdrawal, horders.withdrawals, Keyed.lookup,
          List.find?_append, ← Keyed.lookup, hold]
        rfl
      rw [hsame, Option.some.injEq] at hrow'
      exact .inl (by rw [hrow'])
  | reviewed row metadata hrow horders hsame =>
      refine ⟨fun old row' hold _ hrow' => ?_, ?_⟩
      · rw [hrow, Option.some.injEq] at hold
        exact .inl ((status_of_updated hrow horders hrow').trans (by rw [hold]))
      · have htrail := (hpaths.withdrawals row (Keyed.mem_of_lookup hrow)).review hsame
        exact (hpaths.updateWithdrawal hrow htrail).congr horders
  | moved row metadata hrow hsource horders hmoves =>
      have hedge : HasTransition withdrawalTransitions row.status op.target := by
        obtain hedge | ⟨happroved, htarget⟩ := Withdraw.hasTransition_target hsource
        · exact hedge
        · have hreports := Withdraw.reportsOnPayout_of_run hrun hrow hsource htarget
          exact absurd happroved (hinTurn hreports row hrow)
      refine ⟨fun old row' hold _ hrow' => ?_, ?_⟩
      · rw [hrow, Option.some.injEq] at hold
        rw [Follows, status_of_updated hrow horders hrow', ← hold]
        exact .inr hedge
      · have htrail := (hpaths.withdrawals row (Keyed.mem_of_lookup hrow)).move hmoves hedge
        exact (hpaths.updateWithdrawal hrow htrail).congr horders

theorem reportsInTurn_of_follows
    (hrun : op.run strict store = .ok store')
    (hfollows : AgreesWithGraphs strict ⟨store, .attempt (.withdrawal op), store'⟩) :
    ReportsInTurn ⟨store, .attempt (.withdrawal op), store'⟩ := by
  intro hreports row hrow happroved
  obtain ⟨metadata, hok⟩ :=
    Withdraw.run_of_reportsOnPayout hreports hrow happroved
  obtain rfl : store.updateWithdrawal op.id op.target metadata = store' := by
    rw [hok, Except.ok.injEq] at hrun
    exact hrun
  obtain ⟨hsource, htarget⟩ := Withdraw.of_reportsOnPayout hreports
  have hupdated : (store.updateWithdrawal op.id op.target metadata).selectLockedWithdrawal op.id =
      some { row with status := op.target, metadata := metadata } :=
    Keyed.lookup_modify_self (fun _ h => h) hrow
  have hstep := hfollows row _ hrow (happroved ▸ hsource) hupdated
  rw [happroved] at hstep
  have hoff : ∀ status, status = .providerProcessing ∨ status = .providerFailed →
      ¬Follows withdrawalTransitions .approved status := by
    unfold Follows
    rintro status (rfl | rfl) <;> decide
  exact hoff op.target htarget hstep

end Withdrawals

section Deposits

variable {strict : Bool} {op : TopUp.DepositOp} {store store' : FinanceStore} {row : DepositRow}
  {status : DepositStatus} {metadata : DepositMetadata}

theorem TrailsArePaths.updateDeposit (hpaths : TrailsArePaths store) {id : Nat}
    (hrow : store.lockDepositById id = some row)
    (htrail : TopUp.TrailAgrees row →
      TopUp.TrailAgrees { row with status := status, metadata := metadata }) :
    TrailsArePaths (store.updateDeposit id status metadata) :=
  { hpaths with
    depositKeys := Keyed.hasKeys_modify (fun _ h => h) hpaths.depositKeys
    deposits :=
      Keyed.forall_modify hpaths.depositKeys hrow
        (htrail (hpaths.deposits row (Keyed.mem_of_lookup hrow))) hpaths.deposits }

theorem sameOrders_moveWithdrawable {action : DepositLedgerAction}
    {entryType : Wallet.LedgerEntryType} {amount : Int} :
    Withdraw.SameOrders store (TopUp.moveWithdrawable store row action entryType amount) :=
  ⟨by simp [TopUp.moveWithdrawable, FinanceStore.setWallet], by simp⟩

theorem trailsArePaths_of_deposit (hpaths : TrailsArePaths store)
    (hrun : op.run strict store = .ok store') : TrailsArePaths store' := by
  cases TopUp.effect_run hrun with
  | unchanged hstore => exact hstore ▸ hpaths
  | created row hid hnew _ _ htrail hstore =>
      rw [hstore]
      refine { hpaths with
        depositKeys := Keyed.hasKeys_append hpaths.depositKeys (hid ▸ hnew)
        deposits := ?_ }
      intro other hother
      rcases List.mem_append.mp hother with hother | hother
      · exact hpaths.deposits other hother
      · obtain rfl : other = row := by simpa using hother
        exact htrail
  | moved row toStatus metadata hrow _ _ _ htrail hstore =>
      rw [hstore]
      exact hpaths.updateDeposit hrow htrail
  | credited row metadata hrow _ htrail hstore =>
      rw [hstore]
      exact (hpaths.updateDeposit hrow htrail).congr sameOrders_moveWithdrawable
  | refunded row metadata hrow _ htrail hstore =>
      rw [hstore]
      exact (hpaths.updateDeposit hrow htrail).congr sameOrders_moveWithdrawable

theorem deposit_agrees_iff (hstep : OrderStep strict store (.attempt (.deposit op)) store') :
    AgreesWithGraphs strict ⟨store, .attempt (.deposit op), store'⟩ ↔
      ReportsInTurn ⟨store, .attempt (.deposit op), store'⟩ := by
  have hkept : ∀ row, store.lockDepositById op.id = some row →
      ∃ row', store'.lockDepositById op.id = some row' ∧
        Follows depositTransitions row.status row'.status := by
    intro row hrow
    cases hstep with
    | refused => exact ⟨row, hrow, .inl rfl⟩
    | accepted hrun =>
        obtain ⟨row', hrow'⟩ := (TopUp.effect_run hrun).exists_row hrow
        exact ⟨row', hrow', (TopUp.effect_run hrun).status_follows hrow hrow'⟩
  constructor
  · intro hagrees hreports row hrow
    by_contra hearly
    have hstatus : row.status = .requested ∨ row.status = .providerFailed := by
      by_contra hneither
      exact hearly ⟨fun h => hneither (.inl h), fun h => hneither (.inr h)⟩
    obtain ⟨row', hrow', _⟩ := hkept row hrow
    have hsource := TopUp.mem_sources_of_reportsSuccess hreports hstatus
    exact (hagrees row row' hrow hsource hrow').2
      (TopUp.refused_of_reportsSuccess hreports hrow hstatus)
  · intro hinTurn row row' hrow hsource hrow'
    obtain ⟨kept, hkept, hfollows⟩ := hkept row hrow
    obtain rfl : kept = row' := Option.some.inj (hkept.symm.trans hrow')
    refine ⟨hfollows, TopUp.not_refused hrow hsource fun hstatus hreports => ?_⟩
    obtain ⟨hrequested, hfailed⟩ := hinTurn hreports row hrow
    exact hstatus.elim hrequested hfailed

end Deposits

section Runs

variable {strict : Bool} {s t : FinanceStore} {events : List (Event FinanceStore OrderActivity)}

/-- A step agrees with the graphs, and leaves trails that are paths, exactly if its report comes in
turn. -/
theorem agrees_iff {activity : OrderActivity} (hpaths : TrailsArePaths s)
    (hstep : OrderStep strict s activity t) :
    (AgreesWithGraphs strict ⟨s, activity, t⟩ ∧ TrailsArePaths t) ↔
      ReportsInTurn ⟨s, activity, t⟩ := by
  match activity with
  | .otherFeature =>
      cases hstep with
      | otherFeature hwithdrawals hdeposits =>
          exact iff_of_true ⟨trivial, hpaths.congr ⟨hwithdrawals, hdeposits⟩⟩ trivial
  | .attempt (.deposit op) =>
      have ht : TrailsArePaths t := by
        cases hstep with
        | accepted hrun => exact trailsArePaths_of_deposit hpaths hrun
        | refused => exact hpaths
      rw [and_iff_left ht]
      exact deposit_agrees_iff hstep
  | .attempt (.withdrawal op) =>
      cases hstep with
      | accepted hrun =>
          exact ⟨fun h => reportsInTurn_of_follows hrun h.1, withdrawal_follows hpaths hrun⟩
      | refused hrun =>
          refine iff_of_true ⟨fun row row' hrow _ hrow' => ?_, hpaths⟩ ?_
          · exact .inl (congrArg _ (Option.some.inj (hrow'.symm.trans hrow)))
          · intro hreports row hrow happroved
            obtain ⟨metadata, hok⟩ :=
              Withdraw.run_of_reportsOnPayout hreports hrow happroved
            exact absurd (hok.symm.trans hrun) (by simp)

structure NoOrders (store : FinanceStore) : Prop where
  withdrawals : store.withdrawals = []
  deposits : store.deposits = []

theorem NoOrders.trailsArePaths (hs : NoOrders s) : TrailsArePaths s := by
  constructor <;> simp [Keyed.HasKeys, hs.withdrawals, hs.deposits]

end Runs

section Example

/-- An operation attempted: a failure leaves the store as it was. -/
def attempt (strict : Bool) (store : FinanceStore) (op : OrderOp) : FinanceStore :=
  match op.run strict store with
  | .ok store' => store'
  | .error _ => store

theorem orderStep_attempt {strict : Bool} {store : FinanceStore} {op : OrderOp} :
    OrderStep strict store (.attempt op) (attempt strict store op) := by
  unfold attempt
  cases hrun : op.run strict store with
  | ok store' => exact .accepted hrun
  | error error => exact .refused hrun

theorem run_attempts (strict : Bool) (s : FinanceStore) (ops : List OrderOp) :
    Run (OrderStep strict) s
      ((visits (attempt strict) s ops).map fun e => ⟨e.before, .attempt e.label, e.after⟩)
      (ops.foldl (attempt strict) s) :=
  (Run.of_visits (attempt strict) s ops).map OrderActivity.attempt
    fun _ _ _ h => by
      obtain rfl := h
      exact orderStep_attempt

def fundedStore : FinanceStore :=
  { wallet := ⟨10000, 0, 0, 0⟩
    withdrawals := []
    deposits := []
    ledgerMutationEvents := []
    ledgerEntries := [⟨.depositCredit, 10000, 0, 10000, .deposit 9, {}⟩] }

def payoutReview : FinanceReviewPayload :=
  { adminId := none
    operatorNote := some "confirmed"
    settlementReference := some "ref-1"
    processingChannel := none }

def emptyMetadata (S A : Type) : FinanceMetadata S A :=
  { financeCurrentStatus := none
    providerStatus := none
    settlementStatus := none
    failureReason := none
    ledgerEntryTypes := []
    ledgerState := .notWritten
    pendingReview := none
    financeReviewTrail := []
    financeReviewerAdminIds := []
    financeStateTrail := []
    withdrawalControl := ⟨1, 0, "", false⟩ }

def approvedWithdrawal : List OrderOp :=
  [.withdrawal (.create ⟨.ok (), true, 0, 0, .ok (), 0, 0, 0, .ok (), 0, []⟩ 1 4000
      (emptyMetadata _ _)),
    .withdrawal (.approve 1 payoutReview)]

def requestedDeposit : List OrderOp :=
  [.deposit (.create ⟨.ok (), true, 0, 0⟩ 1 2500 (emptyMetadata _ _))]

/-- The payout of an approved withdrawal is reported to be processing; then a deposit is reported
a success straight after its request. -/
def earlyReports : List OrderOp :=
  approvedWithdrawal ++ .withdrawal (.markProcessing 1 payoutReview) ::
    requestedDeposit ++ [.deposit (.markSucceeded 1 payoutReview)]

def reportsInTurn : List OrderOp :=
  approvedWithdrawal ++ .withdrawal (.markSubmitted 1 payoutReview) ::
    .withdrawal (.markProcessing 1 payoutReview) ::
    requestedDeposit ++ [.deposit (.markPending 1 payoutReview),
      .deposit (.markSucceeded 1 payoutReview)]

end Example

end RewardSystem.Payment
