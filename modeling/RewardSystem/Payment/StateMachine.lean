import RewardSystem.Shared.Errors

/-!
# Statuses of finance orders

The two declared transition graphs and the assertions made against them.
-/

namespace RewardSystem.Payment

inductive DepositStatus where
  | requested
  | providerPending
  | providerSucceeded
  | providerFailed
  | credited
  | reversed
  deriving DecidableEq, Repr

inductive WithdrawalStatus where
  | requested
  | approved
  | providerSubmitted
  | providerProcessing
  | providerFailed
  | paid
  | rejected
  | reversed
  deriving DecidableEq, Repr

inductive TransitionActor where
  | user
  | admin
  | provider
  | system
  deriving DecidableEq, Repr

def depositTransitions : DepositStatus → List DepositStatus
  | .requested => [.providerPending, .providerFailed, .reversed]
  | .providerPending => [.providerSucceeded, .providerFailed, .reversed]
  | .providerSucceeded => [.credited, .reversed]
  | .providerFailed => []
  | .credited => [.reversed]
  | .reversed => []

def withdrawalTransitions : WithdrawalStatus → List WithdrawalStatus
  | .requested => [.approved, .rejected, .reversed]
  | .approved => [.providerSubmitted, .rejected, .reversed]
  | .providerSubmitted => [.providerProcessing, .providerFailed, .reversed]
  | .providerProcessing => [.providerFailed, .paid, .reversed]
  | .providerFailed => [.reversed]
  | .paid => [.reversed]
  | .rejected => []
  | .reversed => []

def DepositStatus.name : DepositStatus → String
  | .requested => "requested"
  | .providerPending => "provider_pending"
  | .providerSucceeded => "provider_succeeded"
  | .providerFailed => "provider_failed"
  | .credited => "credited"
  | .reversed => "reversed"

def depositLedgerStatuses : List DepositStatus := [.credited, .reversed]

def withdrawalLedgerStatuses : List WithdrawalStatus := [.requested, .paid, .rejected, .reversed]

/-- `hasTransition` over either graph. -/
def HasTransition {S : Type} (graph : S → List S) (fromStatus toStatus : S) : Prop :=
  toStatus ∈ graph fromStatus

instance {S : Type} [DecidableEq S] (graph : S → List S) (fromStatus toStatus : S) :
    Decidable (HasTransition graph fromStatus toStatus) :=
  inferInstanceAs (Decidable (toStatus ∈ graph fromStatus))

/-- The check of `appendDepositStateTransition`: an initial status must be `requested`, any other
one must follow an edge of the graph. -/
def assertDepositTransition (fromStatus : Option DepositStatus) (toStatus : DepositStatus) :
    Except ApiError Unit :=
  match fromStatus with
  | none =>
      ApiError.throwIf (toStatus ≠ .requested)
        (.internalInvariant ("Invalid initial deposit status: " ++ toStatus.name ++ "."))
  | some fromStatus =>
      ApiError.throwIf (¬HasTransition depositTransitions fromStatus toStatus)
        (.internalInvariant ("Invalid deposit status transition: " ++ fromStatus.name ++ " -> " ++
          toStatus.name ++ "."))

theorem assertDepositTransition_some_eq_ok {fromStatus toStatus : DepositStatus} {u : Unit} :
    assertDepositTransition (some fromStatus) toStatus = .ok u ↔
      HasTransition depositTransitions fromStatus toStatus := by
  simp [assertDepositTransition]

end RewardSystem.Payment
