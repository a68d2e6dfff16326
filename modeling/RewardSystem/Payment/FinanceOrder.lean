import RewardSystem.Payment.StateMachine
import RewardSystem.Shared.Text

/-!
# Finance order metadata

Reviews and status changes of deposits and withdrawals are recorded in the order's metadata. The
status type `S` and the action type `A` are those of either flow.
-/

namespace RewardSystem.Payment

inductive DepositAction where
  | markProviderPending
  | markProviderSucceeded
  | credit
  | markProviderFailed
  | reverse
  deriving DecidableEq, Repr

inductive WithdrawalAction where
  | approve
  | markProviderSubmitted
  | markProviderProcessing
  | pay
  | markProviderFailed
  | reject
  | reverse
  deriving DecidableEq, Repr

inductive FinanceReviewStage where
  | maker
  | checker
  | system
  deriving DecidableEq, Repr

inductive LedgerState where
  | notWritten
  | written
  deriving DecidableEq, Repr

structure FinanceReviewPayload where
  adminId : Option Int
  operatorNote : Option String
  settlementReference : Option String
  processingChannel : Option String
  deriving DecidableEq, Repr

/-- The review as the gate passes it on: the note is present, the texts are trimmed. -/
structure EffectiveReview where
  adminId : Option Int
  operatorNote : String
  settlementReference : Option String
  processingChannel : Option String
  deriving DecidableEq, Repr

structure PendingReviewState (S A : Type) where
  action : A
  targetStatus : S
  reviewerAdminIds : List Int
  settlementReference : Option String
  processingChannel : Option String
  deriving DecidableEq, Repr

structure ReviewEntry (A : Type) where
  action : A
  reviewStage : FinanceReviewStage
  adminId : Option Int
  operatorNote : String
  settlementReference : Option String
  processingChannel : Option String
  deriving DecidableEq, Repr

/-- An entry of `financeStateTrail`: one of the state machine, one of the order's semantic state,
or an object that the client sent along with the order. -/
inductive StateTrailEntry (S : Type) where
  | transition (fromStatus : Option S) (toStatus : S) (actor : TransitionActor) (event : String)
      (note : Option String)
  | financeState (fromStatus : Option S) (toStatus : S)
      (providerStatus settlementStatus failureReason ledgerEntryType : Option String)
      (ledgerState : LedgerState)
  | submitted
  deriving DecidableEq, Repr

structure WithdrawalControl where
  approvalsRequired : Nat
  approvalsCollected : Nat
  approvalState : String
  manualChannelRequired : Bool
  deriving DecidableEq, Repr

structure FinanceMetadata (S A : Type) where
  financeCurrentStatus : Option S
  providerStatus : Option String
  settlementStatus : Option String
  failureReason : Option String
  ledgerEntryTypes : List String
  ledgerState : LedgerState
  pendingReview : Option (PendingReviewState S A)
  financeReviewTrail : List (ReviewEntry A)
  financeReviewerAdminIds : List Int
  financeStateTrail : List (StateTrailEntry S)
  withdrawalControl : WithdrawalControl
  deriving DecidableEq, Repr

structure DualReviewParams (S A : Type) where
  action : A
  targetStatus : S
  review : FinanceReviewPayload
  requireSettlementReference : Bool
  bypassDualReview : Bool

structure DualReviewResult (S A : Type) where
  confirmed : Bool
  reviewStage : FinanceReviewStage
  metadata : FinanceMetadata S A
  effectiveReview : EffectiveReview

section Gate

variable {S A : Type} [DecidableEq S] [DecidableEq A]

def confirmReview (metadata : FinanceMetadata S A) (stage : FinanceReviewStage)
    (effective : EffectiveReview) : DualReviewResult S A :=
  { confirmed := true
    reviewStage := stage
    metadata := { metadata with pendingReview := none }
    effectiveReview := effective }

/-- `if (left && right && left !== right) throw …` on two optional texts. -/
def throwIfDifferent (left right : Option String) (error : ApiError) : Except ApiError Unit :=
  ApiError.throwIf (left.isSome ∧ right.isSome ∧ left ≠ right) error

def applyDualReviewGate (metadata : FinanceMetadata S A) (params : DualReviewParams S A) :
    Except ApiError (DualReviewResult S A) :=
  let adminId := params.review.adminId
  let settlementReference := normalizeOptionalString params.review.settlementReference
  let processingChannel := normalizeOptionalString params.review.processingChannel
  match normalizeOptionalString params.review.operatorNote with
  | none => .error (.unprocessableEntity "Operator note is required.")
  | some operatorNote => do
      ApiError.throwIf (params.requireSettlementReference ∧ settlementReference = none)
        (.unprocessableEntity "Settlement reference is required.")
      match params.bypassDualReview, adminId with
      | _, none =>
          .ok (confirmReview metadata .system
            ⟨none, operatorNote, settlementReference, processingChannel⟩)
      | true, some adminId =>
          .ok (confirmReview metadata .checker
            ⟨some adminId, operatorNote, settlementReference, processingChannel⟩)
      | false, some adminId =>
          match metadata.pendingReview with
          | some pending => do
              ApiError.throwIf
                (pending.action ≠ params.action ∨ pending.targetStatus ≠ params.targetStatus)
                (.conflict "Another review is already pending for this order.")
              ApiError.throwIf (adminId ∈ pending.reviewerAdminIds)
                (.conflict "A different reviewer must confirm this action.")
              throwIfDifferent pending.settlementReference settlementReference
                (.conflict "Settlement reference must match the pending review.")
              throwIfDifferent pending.processingChannel processingChannel
                (.conflict "Processing channel must match the pending review.")
              .ok (confirmReview metadata .checker
                ⟨some adminId, operatorNote, settlementReference.or pending.settlementReference,
                  processingChannel.or pending.processingChannel⟩)
          | none =>
              .ok
                { confirmed := false
                  reviewStage := .maker
                  metadata :=
                    { metadata with
                      pendingReview := some
                        { action := params.action
                          targetStatus := params.targetStatus
                          reviewerAdminIds := [adminId]
                          settlementReference := settlementReference
                          processingChannel := processingChannel } }
                  effectiveReview :=
                    ⟨some adminId, operatorNote, settlementReference, processingChannel⟩ }

omit [DecidableEq S] [DecidableEq A] in
@[simp]
theorem confirmReview_confirmed (metadata : FinanceMetadata S A) (stage : FinanceReviewStage)
    (effective : EffectiveReview) : (confirmReview metadata stage effective).confirmed = true :=
  rfl

/-- A gate that bypasses dual review confirms whatever it lets through, and leaves the trails of
the order alone. -/
theorem applyDualReviewGate_of_bypass {metadata : FinanceMetadata S A}
    {params : DualReviewParams S A} {result : DualReviewResult S A}
    (hbypass : params.bypassDualReview = true)
    (hgate : applyDualReviewGate metadata params = .ok result) :
    result.confirmed = true ∧ result.metadata = { metadata with pendingReview := none } := by
  unfold applyDualReviewGate at hgate
  cases hnote : normalizeOptionalString params.review.operatorNote with
  | none => simp [hnote] at hgate
  | some note =>
      cases hadmin : params.review.adminId <;>
        simp only [hnote, hadmin, hbypass, ApiError.bind_eq_ok, Except.ok.injEq] at hgate <;>
        obtain ⟨_, _, rfl⟩ := hgate <;> exact ⟨rfl, rfl⟩

/-- A gate that bypasses dual review lets a review with a note, and with the reference where one is
required, through. -/
theorem applyDualReviewGate_ok_of_bypass (metadata : FinanceMetadata S A)
    (params : DualReviewParams S A) (hbypass : params.bypassDualReview = true)
    (hnote : normalizeOptionalString params.review.operatorNote ≠ none)
    (hreference : params.requireSettlementReference = true →
      normalizeOptionalString params.review.settlementReference ≠ none) :
    ∃ result, applyDualReviewGate metadata params = .ok result ∧ result.confirmed = true := by
  obtain ⟨note, hnote⟩ := Option.ne_none_iff_exists'.mp hnote
  have hthrow : ApiError.throwIf (params.requireSettlementReference = true ∧
      normalizeOptionalString params.review.settlementReference = none)
      (.unprocessableEntity "Settlement reference is required.") = .ok () := by
    simpa using hreference
  unfold applyDualReviewGate
  cases hadmin : params.review.adminId with
  | none => exact ⟨_, by simp only [hnote, hthrow]; rfl, rfl⟩
  | some admin => exact ⟨_, by simp only [hnote, hthrow, hbypass]; rfl, rfl⟩

theorem applyDualReviewGate_of_no_reference (metadata : FinanceMetadata S A)
    (params : DualReviewParams S A)
    (hnote : normalizeOptionalString params.review.operatorNote ≠ none)
    (hrequired : params.requireSettlementReference = true)
    (hreference : normalizeOptionalString params.review.settlementReference = none) :
    applyDualReviewGate metadata params =
      .error (.unprocessableEntity "Settlement reference is required.") := by
  obtain ⟨note, hnote⟩ := Option.ne_none_iff_exists'.mp hnote
  unfold applyDualReviewGate
  simp only [hnote, hrequired, hreference, ApiError.throwIf]
  rfl

end Gate

section Metadata

variable {S A : Type}

/-- `uniqNumbers`: the first occurrence of every number, in order. -/
def uniqNumbers (items : List Int) : List Int :=
  items.foldl (fun seen item => if item ∈ seen then seen else seen ++ [item]) []

def appendFinanceReviewMetadata (metadata : FinanceMetadata S A) (entry : ReviewEntry A) :
    FinanceMetadata S A :=
  { metadata with
    financeReviewTrail := metadata.financeReviewTrail ++ [entry]
    financeReviewerAdminIds :=
      uniqNumbers (metadata.financeReviewerAdminIds ++
        (match entry.adminId with
        | some adminId => if adminId ≠ 0 then [adminId] else []
        | none => [])) }

structure FinanceStateParams (S : Type) where
  status : S
  failureReason : Option String
  providerStatus : Option String
  settlementStatus : Option String
  ledgerEntryType : Option String

/-- The form with a bare `status`: the source status is the one last recorded. -/
def appendFinanceStateMetadata (metadata : FinanceMetadata S A) (params : FinanceStateParams S) :
    FinanceMetadata S A :=
  let ledgerEntryTypes :=
    match params.ledgerEntryType with
    | some entryType =>
        if entryType ∈ metadata.ledgerEntryTypes then metadata.ledgerEntryTypes
        else metadata.ledgerEntryTypes ++ [entryType]
    | none => metadata.ledgerEntryTypes
  let ledgerState := if ledgerEntryTypes ≠ [] then .written else .notWritten
  { metadata with
    financeCurrentStatus := some params.status
    providerStatus := params.providerStatus.or metadata.providerStatus
    settlementStatus := params.settlementStatus.or metadata.settlementStatus
    failureReason := params.failureReason
    ledgerEntryTypes := ledgerEntryTypes
    ledgerState := ledgerState
    financeStateTrail := metadata.financeStateTrail ++
      [.financeState metadata.financeCurrentStatus params.status params.providerStatus
        params.settlementStatus params.failureReason params.ledgerEntryType ledgerState]
    pendingReview := none }

/-- `appendFinanceStateTransitionMetadata`, after the transition has been asserted. -/
def appendStateTransition (metadata : FinanceMetadata S A) (fromStatus : Option S) (toStatus : S)
    (actor : TransitionActor) (event : String) (note : Option String) : FinanceMetadata S A :=
  { metadata with
    financeStateTrail := metadata.financeStateTrail ++
      [.transition fromStatus toStatus actor event (normalizeOptionalString note)] }

@[simp]
theorem appendFinanceReviewMetadata_financeStateTrail (metadata : FinanceMetadata S A)
    (entry : ReviewEntry A) :
    (appendFinanceReviewMetadata metadata entry).financeStateTrail = metadata.financeStateTrail :=
  rfl

@[simp]
theorem appendFinanceReviewMetadata_financeCurrentStatus (metadata : FinanceMetadata S A)
    (entry : ReviewEntry A) :
    (appendFinanceReviewMetadata metadata entry).financeCurrentStatus =
      metadata.financeCurrentStatus :=
  rfl

@[simp]
theorem appendFinanceStateMetadata_financeCurrentStatus (metadata : FinanceMetadata S A)
    (params : FinanceStateParams S) :
    (appendFinanceStateMetadata metadata params).financeCurrentStatus = some params.status :=
  rfl

end Metadata

end RewardSystem.Payment
