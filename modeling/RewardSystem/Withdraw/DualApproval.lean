import RewardSystem.Withdraw.LockLife

/-!
# Dual approval of withdrawals

A withdrawal that needs two approvals leaves `requested` towards its payment by the second of two
approve operations. The first one stored its reviewer in the order's metadata, and the order stayed
as it was until the second.
-/

namespace RewardSystem.Withdraw

open Payment Wallet Transition

def approvedStatuses : List WithdrawalStatus :=
  [.approved, .providerSubmitted, .providerProcessing, .providerFailed, .paid]

def closedStatuses : List WithdrawalStatus := [.rejected, .reversed]

section Gate

variable {metadata : WithdrawalMetadata}
  {params : DualReviewParams WithdrawalStatus WithdrawalAction}
  {result : DualReviewResult WithdrawalStatus WithdrawalAction}

/-- What the gate lets through when it does not bypass dual review. -/
inductive GatePasses (metadata : WithdrawalMetadata)
    (params : DualReviewParams WithdrawalStatus WithdrawalAction)
    (result : DualReviewResult WithdrawalStatus WithdrawalAction) : Prop
  | system (hadmin : params.review.adminId = none)
  | maker (adminId : Int) (pending : PendingReviewState WithdrawalStatus WithdrawalAction)
      (hadmin : params.review.adminId = some adminId) (hpending : metadata.pendingReview = none)
      (hconfirmed : result.confirmed = false) (hreviewers : pending.reviewerAdminIds = [adminId])
      (hmetadata : result.metadata = { metadata with pendingReview := some pending })
  | checker (adminId : Int) (pending : PendingReviewState WithdrawalStatus WithdrawalAction)
      (hadmin : params.review.adminId = some adminId)
      (hpending : metadata.pendingReview = some pending)
      (hother : adminId ∉ pending.reviewerAdminIds) (hconfirmed : result.confirmed = true)
      (hmetadata : result.metadata = { metadata with pendingReview := none })

theorem gatePasses (hbypass : params.bypassDualReview = false)
    (hgate : applyDualReviewGate metadata params = .ok result) :
    GatePasses metadata params result := by
  unfold applyDualReviewGate at hgate
  cases hnote : normalizeOptionalString params.review.operatorNote with
  | none => simp [hnote] at hgate
  | some note =>
      cases hadmin : params.review.adminId with
      | none => exact .system hadmin
      | some adminId =>
          cases hpending : metadata.pendingReview with
          | none =>
              simp only [hnote, hadmin, hbypass, hpending, ApiError.bind_eq_ok,
                Except.ok.injEq] at hgate
              obtain ⟨_, _, rfl⟩ := hgate
              exact .maker adminId _ hadmin hpending rfl rfl rfl
          | some pending =>
              simp only [hnote, hadmin, hbypass, hpending, ApiError.bind_eq_ok,
                Except.ok.injEq] at hgate
              obtain ⟨_, _, _, _, _, hother, _, _, _, _, rfl⟩ := hgate
              have hother : adminId ∉ pending.reviewerAdminIds := by simpa using hother
              exact .checker adminId pending hadmin hpending hother rfl rfl

theorem max_readApprovalsRequired (metadata : WithdrawalMetadata) :
    max (readApprovalsRequired metadata) 1 = readApprovalsRequired metadata := by
  unfold readApprovalsRequired
  omega

theorem readApprovalsRequired_of_bypass (hbypass : params.bypassDualReview = true)
    (hgate : applyDualReviewGate metadata params = .ok result) (action : WithdrawalAction) :
    readApprovalsRequired (recordReview result action) = readApprovalsRequired metadata := by
  obtain ⟨-, hmetadata⟩ := applyDualReviewGate_of_bypass hbypass hgate
  change max result.metadata.withdrawalControl.approvalsRequired 1 = _
  rw [hmetadata]
  rfl

end Gate

/-! ## What an operation does to one withdrawal -/

/-- The ways an accepted operation changes the row of a withdrawal. -/
inductive Moves (id : Nat) (op : WithdrawalOp) :
    Option WithdrawalRow → Option WithdrawalRow → Prop
  | same (row : Option WithdrawalRow) : Moves id op row row
  | created {row' : WithdrawalRow} (hstatus : row'.status = .requested)
      (hpending : row'.metadata.pendingReview = none) : Moves id op none (some row')
  | firstApproval {row row' : WithdrawalRow} (review : FinanceReviewPayload) (adminId : Int)
      (pending : PendingReviewState WithdrawalStatus WithdrawalAction)
      (hop : op = .approve id review) (hadmin : review.adminId = some adminId)
      (hnone : row.metadata.pendingReview = none) (hstatus : row'.status = .requested)
      (hpending : row'.metadata.pendingReview = some pending)
      (hreviewers : pending.reviewerAdminIds = [adminId])
      (happrovals : readApprovalsRequired row'.metadata = readApprovalsRequired row.metadata) :
      Moves id op (some row) (some row')
  | secondApproval {row row' : WithdrawalRow} (review : FinanceReviewPayload) (adminId : Int)
      (pending : PendingReviewState WithdrawalStatus WithdrawalAction)
      (hop : op = .approve id review) (hadmin : review.adminId = some adminId)
      (hstatus : row.status = .requested)
      (hpending : row.metadata.pendingReview = some pending)
      (hother : adminId ∉ pending.reviewerAdminIds) (hstatus' : row'.status = .approved)
      (happrovals : readApprovalsRequired row'.metadata = readApprovalsRequired row.metadata) :
      Moves id op (some row) (some row')
  | singleApproval {row row' : WithdrawalRow} (hsingle : readApprovalsRequired row.metadata ≤ 1)
      (hstatus' : row'.status = .approved)
      (happrovals : readApprovalsRequired row'.metadata = readApprovalsRequired row.metadata) :
      Moves id op (some row) (some row')
  | progressed {row row' : WithdrawalRow} (hstatus : row.status ∈ approvedStatuses)
      (hstatus' : row'.status ∈ approvedStatuses)
      (happrovals : readApprovalsRequired row'.metadata = readApprovalsRequired row.metadata) :
      Moves id op (some row) (some row')
  | closed {row row' : WithdrawalRow} (hstatus' : row'.status ∈ closedStatuses) :
      Moves id op (some row) (some row')

section Rows

variable {strict : Bool} {store store' : FinanceStore} {id : Nat} {op : WithdrawalOp}
  {row : WithdrawalRow} {review : FinanceReviewPayload}

theorem select_congr (h : store'.withdrawals = store.withdrawals) :
    store'.selectLockedWithdrawal id = store.selectLockedWithdrawal id := by
  unfold FinanceStore.selectLockedWithdrawal
  rw [h]

theorem select_updateWithdrawal (hrow : store.selectLockedWithdrawal id = some row)
    (status : WithdrawalStatus) (metadata : WithdrawalMetadata) :
    (store.updateWithdrawal id status metadata).selectLockedWithdrawal id =
      some { row with status := status, metadata := metadata } :=
  Keyed.lookup_modify_self (fun _ h => h) hrow

theorem Effect.select_of_ne (heffect : Effect op store store') (hne : op.id ≠ id) :
    store'.selectLockedWithdrawal id = store.selectLockedWithdrawal id := by
  have hupdate : ∀ status metadata,
      store'.withdrawals = (store.updateWithdrawal op.id status metadata).withdrawals →
        store'.selectLockedWithdrawal id = store.selectLockedWithdrawal id := by
    intro status metadata hrows
    rw [select_congr hrows]
    exact Keyed.lookup_modify_ne (fun _ h => h) (Ne.symm hne)
  cases heffect with
  | unchanged hstore => rw [hstore]
  | created row hid _ _ _ hrows =>
      unfold FinanceStore.selectLockedWithdrawal
      rw [hrows]
      exact Keyed.lookup_append_of_ne (hid ▸ hne)
  | moved row status metadata _ _ _ hrows => exact hupdate status metadata hrows
  | closed row status metadata _ _ _ hrows => exact hupdate status metadata hrows

theorem moves_of_update (status : WithdrawalStatus) (metadata : WithdrawalMetadata)
    (hrow : store.selectLockedWithdrawal id = some row)
    (hrows : store'.withdrawals = (store.updateWithdrawal id status metadata).withdrawals)
    (hmoves : Moves id op (some row) (some { row with status := status, metadata := metadata })) :
    Moves id op (store.selectLockedWithdrawal id) (store'.selectLockedWithdrawal id) := by
  rw [select_congr hrows, select_updateWithdrawal hrow, hrow]
  exact hmoves

theorem moves_approve (h : approveWithdrawal id review store = .ok store') :
    Moves id (.approve id review) (store.selectLockedWithdrawal id)
      (store'.selectLockedWithdrawal id) := by
  obtain ⟨rfl, -⟩ | ⟨row, hrow, hstatus, hbody⟩ := onOrder_cases h
  · exact .same _
  · have hstatus : row.status = .requested := by simpa using hstatus
    obtain ⟨_, hadmin, hbody⟩ := ApiError.bind_eq_ok.mp hbody
    obtain ⟨reviewState, hgate, hbody⟩ := ApiError.bind_eq_ok.mp hbody
    by_cases hsingle : readApprovalsRequired row.metadata ≤ 1
    · obtain ⟨hconfirmed, -⟩ := applyDualReviewGate_of_bypass (by simpa) hgate
      rw [if_neg (by simp [hconfirmed])] at hbody
      obtain rfl := Except.ok.inj hbody
      exact moves_of_update _ _ hrow rfl
        (.singleApproval hsingle rfl (max_readApprovalsRequired row.metadata))
    · have hmany : 1 < readApprovalsRequired row.metadata := by omega
      cases gatePasses (by simpa using hmany) hgate with
      | system hnone =>
          have hnone : review.adminId = none := hnone
          simp [hmany, hnone] at hadmin
      | maker adminId pending hadminId hnone hconfirmed hreviewers hmetadata =>
          rw [if_pos hconfirmed] at hbody
          obtain rfl := Except.ok.inj hbody
          have hpending : (recordReview reviewState .approve).pendingReview = some pending := by
            change reviewState.metadata.pendingReview = some pending
            rw [hmetadata]
          exact moves_of_update _ _ hrow rfl (.firstApproval review adminId pending rfl hadminId hnone
            hstatus hpending hreviewers (max_readApprovalsRequired row.metadata))
      | checker adminId pending hadminId hpending hother hconfirmed hmetadata =>
          rw [if_neg (by simp [hconfirmed])] at hbody
          obtain rfl := Except.ok.inj hbody
          exact moves_of_update _ _ hrow rfl (.secondApproval review adminId pending rfl hadminId
            hstatus hpending hother rfl (max_readApprovalsRequired row.metadata))

theorem moves_markProviderProgress {sources : List WithdrawalStatus} {target : WithdrawalStatus}
    {action : WithdrawalAction} {fallbackNote statusText : String}
    (hsources : ∀ status ∈ sources, status ∈ approvedStatuses)
    (htarget : target ∈ approvedStatuses)
    (h : markProviderProgress sources target action fallbackNote statusText id review store =
      .ok store') :
    Moves id op (store.selectLockedWithdrawal id) (store'.selectLockedWithdrawal id) := by
  obtain ⟨rfl, -⟩ | ⟨row, hrow, hstatus, hbody⟩ := onOrder_cases h
  · exact .same _
  · have hstatus : row.status ∈ sources := by simpa using hstatus
    obtain ⟨reviewState, hgate, hbody⟩ := ApiError.bind_eq_ok.mp hbody
    obtain rfl := Except.ok.inj hbody
    exact moves_of_update _ _ hrow rfl (.progressed (hsources _ hstatus) htarget
      (readApprovalsRequired_of_bypass rfl hgate action))

theorem moves_markFailed (h : markWithdrawalProviderFailed id review store = .ok store') :
    Moves id op (store.selectLockedWithdrawal id) (store'.selectLockedWithdrawal id) := by
  obtain ⟨rfl, -⟩ | ⟨row, hrow, hstatus, hbody⟩ := onOrder_cases h
  · exact .same _
  · have hsources : ∀ status ∈ failureSources, status ∈ approvedStatuses := by decide
    have hsource := hsources row.status (by simpa using hstatus)
    obtain ⟨reviewState, hgate, hbody⟩ := ApiError.bind_eq_ok.mp hbody
    obtain ⟨hconfirmed, -⟩ := applyDualReviewGate_of_bypass rfl hgate
    rw [if_neg (by simp [hconfirmed])] at hbody
    obtain rfl := Except.ok.inj hbody
    have htarget : WithdrawalStatus.providerFailed ∈ approvedStatuses := by decide
    exact moves_of_update _ _ hrow rfl (.progressed hsource htarget
      (readApprovalsRequired_of_bypass rfl hgate .markProviderFailed))

theorem moves_refund {reviewState : DualReviewResult WithdrawalStatus WithdrawalAction}
    {metadata : WithdrawalMetadata} {nextStatus : RefundStatus}
    (hrow : store.selectLockedWithdrawal id = some row)
    (h : (refundWithdrawal store row reviewState metadata nextStatus).assertInvariant strict =
      .ok store') :
    Moves id op (store.selectLockedWithdrawal id) (store'.selectLockedWithdrawal id) := by
  obtain rfl := FinanceStore.assertInvariant_eq_ok h
  obtain rfl : row.id = id := Keyed.key_of_lookup hrow
  refine moves_of_update nextStatus.status (refundMetadata reviewState metadata nextStatus) hrow ?_ (.closed ?_)
  · rw [refundWithdrawal, FinanceStore.applyLedgerMutation_withdrawals]
    rfl
  · change nextStatus.status ∈ closedStatuses
    cases nextStatus <;> decide

theorem moves_reject (h : rejectWithdrawal strict id review store = .ok store') :
    Moves id op (store.selectLockedWithdrawal id) (store'.selectLockedWithdrawal id) := by
  obtain ⟨rfl, -⟩ | ⟨row, hrow, -, hbody⟩ := onOrder_cases h
  · exact .same _
  · obtain ⟨reviewState, hgate, hbody⟩ := ApiError.bind_eq_ok.mp hbody
    obtain ⟨hconfirmed, -⟩ := applyDualReviewGate_of_bypass rfl hgate
    rw [if_neg (by simp [hconfirmed])] at hbody
    exact moves_refund hrow hbody

theorem moves_reverse (h : reverseWithdrawal strict id review store = .ok store') :
    Moves id op (store.selectLockedWithdrawal id) (store'.selectLockedWithdrawal id) := by
  obtain ⟨rfl, -⟩ | ⟨row, hrow, -, hbody⟩ := onOrder_cases h
  · exact .same _
  · obtain ⟨reviewState, hgate, hbody⟩ := ApiError.bind_eq_ok.mp hbody
    obtain ⟨hconfirmed, -⟩ := applyDualReviewGate_of_bypass rfl hgate
    rw [if_neg (by simp [hconfirmed])] at hbody
    exact moves_refund hrow hbody

theorem moves_pay (h : payWithdrawal strict id review store = .ok store') :
    Moves id op (store.selectLockedWithdrawal id) (store'.selectLockedWithdrawal id) := by
  obtain ⟨rfl, -⟩ | ⟨row, hrow, hstatus, hbody⟩ := onOrder_cases h
  · exact .same _
  · have hstatus : row.status = .providerProcessing := by simpa using hstatus
    obtain ⟨reviewState, hgate, hbody⟩ := ApiError.bind_eq_ok.mp hbody
    obtain ⟨hconfirmed, -⟩ := applyDualReviewGate_of_bypass rfl hgate
    rw [if_neg (by simp [hconfirmed])] at hbody
    cases hchannel : normalizeOptionalString reviewState.effectiveReview.processingChannel with
    | none => simp [hchannel] at hbody
    | some channel =>
        simp only [hchannel] at hbody
        obtain ⟨_, _, hbody⟩ := ApiError.bind_eq_ok.mp hbody
        obtain ⟨_, _, hbody⟩ := ApiError.bind_eq_ok.mp hbody
        obtain rfl := FinanceStore.assertInvariant_eq_ok hbody
        have htarget : WithdrawalStatus.paid ∈ approvedStatuses := by decide
        refine moves_of_update .paid (paidMetadata (recordReview reviewState .pay)) hrow ?_
          (.progressed (by simp [hstatus, approvedStatuses]) htarget
            (readApprovalsRequired_of_bypass rfl hgate .pay))
        rw [FinanceStore.applyLedgerMutation_withdrawals]
        rfl

theorem moves_create {conditions : WithdrawalConditions} {amount : Int}
    {submitted : WithdrawalMetadata}
    (h : createWithdrawal strict conditions id amount submitted store = .ok store') :
    Moves id op (store.selectLockedWithdrawal id) (store'.selectLockedWithdrawal id) := by
  obtain ⟨_, -, h⟩ := ApiError.bind_eq_ok.mp h
  obtain ⟨_, hfresh, h⟩ := ApiError.bind_eq_ok.mp h
  obtain rfl := FinanceStore.assertInvariant_eq_ok h
  have hnew : store.selectLockedWithdrawal id = none := by simpa using hfresh
  have hlookup : Keyed.lookup WithdrawalRow.id (requestedRow conditions id amount submitted).id
      store.withdrawals = none := hnew
  have hselect : Keyed.lookup WithdrawalRow.id id
      (store.withdrawals ++ [requestedRow conditions id amount submitted]) =
        some (requestedRow conditions id amount submitted) := Keyed.lookup_append_self hlookup
  rw [hnew]
  unfold FinanceStore.selectLockedWithdrawal
  rw [FinanceStore.applyLedgerMutation_withdrawals, hselect]
  exact .created rfl rfl

/-- **One operation.** Every accepted operation changes a withdrawal in one of these ways. -/
theorem moves_run (h : op.run strict store = .ok store') :
    Moves id op (store.selectLockedWithdrawal id) (store'.selectLockedWithdrawal id) := by
  by_cases hid : op.id = id
  · subst hid
    cases op with
    | create conditions id amount submitted => exact moves_create h
    | approve id review => exact moves_approve h
    | markSubmitted id review => exact moves_markProviderProgress (by decide) (by decide) h
    | markProcessing id review => exact moves_markProviderProgress (by decide) (by decide) h
    | markFailed id review => exact moves_markFailed h
    | reject id review => exact moves_reject h
    | pay id review => exact moves_pay h
    | reverse id review => exact moves_reverse h
  · rw [(effect_run h).select_of_ne hid]
    exact .same _

end Rows

/-! ## The review round of an approval -/

/-- The step is an approve operation of the administrator `adminId`. -/
def ApprovedBy (id : Nat) (e : Event State Operation) (adminId : Int) : Prop :=
  ∃ review : FinanceReviewPayload, e.label = .withdrawal (.approve id review) ∧
    review.adminId = some adminId

/-- The step `maker` stores the review of `a` in an order that has none pending, the order stays as
it is in the steps `between`, and the step `checker` counts this review and that of `b`. -/
structure ReviewRound (id : Nat) (maker : Event State Operation)
    (between : List (Event State Operation)) (checker : Event State Operation) (a b : Int) :
    Prop where
  first : ApprovedBy id maker a
  second : ApprovedBy id checker b
  distinct : a ≠ b
  opens : ∃ row, maker.before.store.selectLockedWithdrawal id = some row ∧
    row.metadata.pendingReview = none
  stays : ∃ row, maker.after.store.selectLockedWithdrawal id = some row ∧
    row.status = .requested ∧
    (∀ e ∈ between, e.before.store.selectLockedWithdrawal id = some row ∧
      e.after.store.selectLockedWithdrawal id = some row) ∧
    checker.before.store.selectLockedWithdrawal id = some row
  approves : ∃ row, checker.after.store.selectLockedWithdrawal id = some row ∧
    row.status = .approved

section Runs

variable {strict : Bool} {s t : State} {id : Nat} {row : WithdrawalRow}
  {events : List (Event State Operation)}

theorem moves_step {operation : Operation} (h : step strict s operation = .ok t) (id : Nat) :
    t.store.selectLockedWithdrawal id = s.store.selectLockedWithdrawal id ∨
      ∃ op, operation = .withdrawal op ∧
        Moves id op (s.store.selectLockedWithdrawal id) (t.store.selectLockedWithdrawal id) := by
  cases operation with
  | withdrawal op =>
      obtain ⟨store, hrun, rfl⟩ := ApiError.map_eq_ok.mp h
      exact .inr ⟨op, rfl, moves_run hrun⟩
  | otherFeature change =>
      obtain rfl : otherFeature s change = t := by simpa [step] using h
      exact .inl (select_congr rfl)

theorem firstApproval_of_step {operation : Operation} (h : step strict s operation = .ok t)
    (hafter : t.store.selectLockedWithdrawal id = some row)
    (hbefore : s.store.selectLockedWithdrawal id ≠ some row)
    (hstatus : row.status = .requested)
    {pending : PendingReviewState WithdrawalStatus WithdrawalAction}
    (hpending : row.metadata.pendingReview = some pending) :
    ∃ a, ApprovedBy id ⟨s, operation, t⟩ a ∧ pending.reviewerAdminIds = [a] ∧
      ∃ old, s.store.selectLockedWithdrawal id = some old ∧
        old.metadata.pendingReview = none := by
  have hclosed : WithdrawalStatus.requested ∉ closedStatuses := by decide
  have happroved : WithdrawalStatus.requested ∉ approvedStatuses := by decide
  rcases moves_step h id with hsame | ⟨op, rfl, hmoves⟩
  · exact absurd (hsame.symm.trans hafter) hbefore
  · rw [hafter] at hmoves
    generalize hold : s.store.selectLockedWithdrawal id = old at hmoves hbefore
    cases hmoves with
    | same => exact absurd rfl hbefore
    | created hstatus' hpending' =>
        rw [hpending] at hpending'
        cases hpending'
    | @firstApproval old _ review a pending' hop hadmin hnone _ hpending' hreviewers =>
        obtain rfl := Option.some.inj (hpending.symm.trans hpending')
        exact ⟨a, ⟨review, by rw [hop], hadmin⟩, hreviewers, old, rfl, hnone⟩
    | secondApproval _ _ _ _ _ _ _ _ hstatus' =>
        rw [hstatus] at hstatus'
        cases hstatus'
    | singleApproval _ hstatus' =>
        rw [hstatus] at hstatus'
        cases hstatus'
    | progressed _ hstatus' => exact absurd (hstatus ▸ hstatus') happroved
    | closed hstatus' => exact absurd (hstatus ▸ hstatus') hclosed

/-- The withdrawal is behind its approval and needs `required` approvals. -/
def Approved (id required : Nat) (s : State) : Prop :=
  ∃ row, s.store.selectLockedWithdrawal id = some row ∧ row.status ∈ approvedStatuses ∧
    readApprovalsRequired row.metadata = required

theorem secondApproval_of_step {operation : Operation} {required : Nat}
    (h : step strict s operation = .ok t) (hafter : Approved id required t)
    (hbefore : ¬Approved id required s) (hrequired : 1 < required) :
    ∃ b pending row, ApprovedBy id ⟨s, operation, t⟩ b ∧
      s.store.selectLockedWithdrawal id = some row ∧ row.status = .requested ∧
      row.metadata.pendingReview = some pending ∧ b ∉ pending.reviewerAdminIds ∧
      ∃ row', t.store.selectLockedWithdrawal id = some row' ∧ row'.status = .approved := by
  have hrequested : WithdrawalStatus.requested ∉ approvedStatuses := by decide
  have hclosed : ∀ status ∈ closedStatuses, status ∉ approvedStatuses := by decide
  obtain ⟨row', hrow', hstatus, hneeds⟩ := hafter
  rcases moves_step h id with hsame | ⟨op, rfl, hmoves⟩
  · exact absurd ⟨row', hsame.symm.trans hrow', hstatus, hneeds⟩ hbefore
  · rw [hrow'] at hmoves
    generalize hold : s.store.selectLockedWithdrawal id = old at hmoves
    cases hmoves with
    | same => exact absurd ⟨row', hold, hstatus, hneeds⟩ hbefore
    | created hstatus' => exact absurd (hstatus' ▸ hstatus) hrequested
    | firstApproval _ _ _ _ _ _ hstatus' => exact absurd (hstatus' ▸ hstatus) hrequested
    | @secondApproval row _ review b pending hop hadmin hstatus₀ hpending hother hstatus' =>
        exact ⟨b, pending, row, ⟨review, by rw [hop], hadmin⟩, rfl, hstatus₀, hpending, hother,
          row', hrow', hstatus'⟩
    | singleApproval hsingle _ happrovals => omega
    | @progressed row _ hstatus₀ _ happrovals =>
        exact absurd ⟨row, hold, hstatus₀, happrovals.symm.trans hneeds⟩ hbefore
    | closed hstatus' => exact absurd hstatus (hclosed _ hstatus')

/-- **Dual approval.** A withdrawal that needs two approvals and got behind them was approved by two
administrators in one review round. -/
theorem dual_approval (hfresh : Fresh s) (hrun : Run (Accepts (step strict)) s events t)
    (hrow : t.store.selectLockedWithdrawal id = some row)
    (hrequired : 1 < readApprovalsRequired row.metadata)
    (hstatus : row.status ∈ approvedStatuses) :
    ∃ earlier maker between checker later a b,
      events = earlier ++ maker :: (between ++ checker :: later) ∧
        ReviewRound id maker between checker a b := by
  have hnone : s.store.selectLockedWithdrawal id = none := by
    simp [FinanceStore.selectLockedWithdrawal, hfresh.withdrawals, Keyed.lookup]
  obtain ⟨before, checker, later, rfl, hchecked⟩ :=
    hrun.exists_entrance (P := Approved id (readApprovalsRequired row.metadata))
      (by rintro ⟨row, hrow, -⟩; simp [hnone] at hrow) ⟨row, hrow, hstatus, rfl⟩
  obtain ⟨b, pending, order, hsecond, horder, hrequested, hpending, hother, happroves⟩ :=
    secondApproval_of_step hchecked.enters hchecked.inside hchecked.outside hrequired
  -- the last step that left the order as the second approval found it
  obtain ⟨earlier, maker, between, rfl, hmade⟩ :=
    hchecked.leads.exists_entrance
      (P := fun u => u.store.selectLockedWithdrawal id = some order) (by simp [hnone]) horder
  obtain ⟨a, hfirst, hreviewers, hopens⟩ :=
    firstApproval_of_step hmade.enters hmade.inside hmade.outside hrequested hpending
  refine ⟨earlier, maker, between, checker, later, a, b, by simp, ?_⟩
  exact
    { first := hfirst
      second := hsecond
      distinct := by
        rw [hreviewers, List.mem_singleton] at hother
        exact Ne.symm hother
      opens := hopens
      stays := ⟨order, hmade.inside, hrequested, hmade.stays, horder⟩
      approves := happroves }

end Runs

section Example

def thresholdConditions : WithdrawalConditions :=
  { openConditions with secondApprovalThreshold := 1000 }

/-- Two administrators approve a withdrawal of 40.00, and it is submitted to the provider. -/
def approveTwice : List Operation :=
  [.withdrawal (.create thresholdConditions 1 4000 emptyMetadata),
    .withdrawal (.approve 1 manualReview),
    .withdrawal (.approve 1 { manualReview with adminId := some 8 }),
    .withdrawal (.markSubmitted 1 manualReview)]

theorem dual_approval_approveTwice :
    ∃ events t, Run (Accepts (step true)) fundedState events t ∧
      ∃ earlier maker between checker later a b,
        events = earlier ++ maker :: (between ++ checker :: later) ∧
          ReviewRound 1 maker between checker a b := by
  obtain ⟨events, t, hrun, hcheck⟩ := Run.exists_of_check (step true) fundedState approveTwice
    (fun _ t => (t.store.selectLockedWithdrawal 1).any fun row =>
      decide (1 < readApprovalsRequired row.metadata ∧ row.status ∈ approvedStatuses))
    (by decide +kernel)
  obtain ⟨row, hrow, hchecked⟩ := (Option.any_eq_true _ _).mp hcheck
  obtain ⟨hrequired, hstatus⟩ := of_decide_eq_true hchecked
  exact ⟨events, t, hrun, dual_approval fundedState_fresh hrun hrow hrequired hstatus⟩

end Example

end RewardSystem.Withdraw
