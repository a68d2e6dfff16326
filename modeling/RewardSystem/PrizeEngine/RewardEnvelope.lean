import Mathlib.Data.List.Basic
import Mathlib.Data.Nat.Basic
import RewardSystem.Lib.Windows

/-!
# Reward envelopes

A call locks the envelopes of its tenant and its project for its whole transaction, looks at them
for the window that its own time falls in, and adds its reward to each of them. The time is taken
before the call waits for the locks. So one call is one step, in the order in which the locks are
obtained, with any time.
-/

namespace RewardSystem.PrizeEngine.RewardEnvelope

inductive SaasRewardEnvelopeWindow where
  | minute
  | hour
  | day
  deriving DecidableEq, Repr

inductive SaasRewardEnvelopeCapHitStrategy where
  | reject
  | mute
  deriving DecidableEq, Repr

inductive RewardEnvelopeScope where
  | tenant
  | project
  deriving DecidableEq, Repr

inductive SaasRewardEnvelopeTriggerReason where
  | budgetCap
  | varianceCap
  deriving DecidableEq, Repr

/-- A row of `saas_reward_envelopes`. Amounts are counted in ten-thousandths, times in
milliseconds. -/
structure RewardEnvelopeRow where
  id : Nat
  tenantId : Nat
  projectId : Option Nat
  window : SaasRewardEnvelopeWindow
  onCapHitStrategy : SaasRewardEnvelopeCapHitStrategy
  budgetCap : Int
  expectedPayoutPerCall : Int
  varianceCap : Int
  currentConsumed : Int
  currentCallCount : Int
  currentWindowStartedAt : Int
  deriving DecidableEq, Repr

/-- A row as a call sees it for its own window. -/
abbrev RewardEnvelopeState := RewardEnvelopeRow

structure PrizeEngineRewardEnvelopeTrigger where
  scope : RewardEnvelopeScope
  window : SaasRewardEnvelopeWindow
  reason : SaasRewardEnvelopeTriggerReason
  strategy : SaasRewardEnvelopeCapHitStrategy
  deriving DecidableEq, Repr

inductive RewardEnvelopeDecisionMode where
  | allow
  | mute
  | reject
  deriving DecidableEq, Repr

structure RewardEnvelopeDecision where
  mode : RewardEnvelopeDecisionMode
  triggered : List PrizeEngineRewardEnvelopeTrigger
  deriving DecidableEq, Repr

inductive RewardEnvelopePayout where
  | expected
  | actual (rewardAmount : Int)

inductive EnvelopeRefusal where
  /-- "Reward envelope limit exceeded." -/
  | limitExceeded (details : List String)
  /-- The transaction fails for another reason. -/
  | aborted
  deriving DecidableEq, Repr

def windowMs : SaasRewardEnvelopeWindow → Int
  | .minute => 60000
  | .hour => 3600000
  | .day => 86400000

def resolveRewardEnvelopeWindowStart (window : SaasRewardEnvelopeWindow) (now : Int) : Int :=
  now - now % windowMs window

def resolveRewardEnvelopeScope : Option Nat → RewardEnvelopeScope
  | none => .tenant
  | some _ => .project

def normalizeRewardEnvelopeState (row : RewardEnvelopeRow) (now : Int) : RewardEnvelopeState :=
  let currentWindowStartedAt := resolveRewardEnvelopeWindowStart row.window now
  let shouldReset : Bool := row.currentWindowStartedAt ≠ currentWindowStartedAt
  { row with
    currentConsumed := if shouldReset then 0 else row.currentConsumed
    currentCallCount := if shouldReset then 0 else max 0 row.currentCallCount
    currentWindowStartedAt := currentWindowStartedAt }

section Decision

def resolveProjectedPayout (state : RewardEnvelopeState) : RewardEnvelopePayout → Int
  | .expected => state.expectedPayoutPerCall
  -- A reward is counted in cents.
  | .actual rewardAmount => 100 * rewardAmount

def triggerReason (state : RewardEnvelopeState) (payout : RewardEnvelopePayout) :
    Option SaasRewardEnvelopeTriggerReason :=
  let projectedConsumed := state.currentConsumed + resolveProjectedPayout state payout
  let projectedCallCount := state.currentCallCount + 1
  let projectedPositiveDrift :=
    max (projectedConsumed - state.expectedPayoutPerCall * projectedCallCount) 0
  if state.budgetCap < projectedConsumed then some .budgetCap
  else if state.varianceCap < projectedPositiveDrift then some .varianceCap
  else none

def resolveRewardEnvelopeTrigger (state : RewardEnvelopeState) (payout : RewardEnvelopePayout) :
    Option PrizeEngineRewardEnvelopeTrigger :=
  (triggerReason state payout).map fun reason =>
    { scope := resolveRewardEnvelopeScope state.projectId
      window := state.window
      reason := reason
      strategy := state.onCapHitStrategy }

def evaluateRewardEnvelopeDecision (states : List RewardEnvelopeState)
    (payout : RewardEnvelopePayout) : RewardEnvelopeDecision :=
  let triggered := states.filterMap (resolveRewardEnvelopeTrigger · payout)
  if triggered = [] then { mode := .allow, triggered := [] }
  else
    { mode := if triggered.any fun trigger => trigger.strategy = .reject then .reject else .mute
      triggered := triggered }

def RewardEnvelopeScope.text : RewardEnvelopeScope → String
  | .tenant => "tenant"
  | .project => "project"

def SaasRewardEnvelopeWindow.text : SaasRewardEnvelopeWindow → String
  | .minute => "minute"
  | .hour => "hour"
  | .day => "day"

def SaasRewardEnvelopeTriggerReason.text : SaasRewardEnvelopeTriggerReason → String
  | .budgetCap => "budget_cap"
  | .varianceCap => "variance_cap"

def SaasRewardEnvelopeCapHitStrategy.text : SaasRewardEnvelopeCapHitStrategy → String
  | .reject => "reject"
  | .mute => "mute"

def buildRewardEnvelopeRejectionDetails (triggered : List PrizeEngineRewardEnvelopeTrigger) :
    List String :=
  triggered.map fun trigger =>
    trigger.scope.text ++ ":" ++ trigger.window.text ++ " " ++ trigger.reason.text ++
      " triggered (" ++ trigger.strategy.text ++ ")"

def assertRewardEnvelopeNotRejected (decision : RewardEnvelopeDecision) :
    Except EnvelopeRefusal Unit :=
  if decision.mode = .reject then
    .error (.limitExceeded (buildRewardEnvelopeRejectionDetails decision.triggered))
  else .ok ()

end Decision

/-- A reward that a call has added to an envelope, in ten-thousandths. -/
structure Consumption where
  envelopeId : Nat
  now : Int
  amount : Int
  deriving DecidableEq, Repr

/-- The envelopes, and for reference what has been added to them. -/
structure Envelopes where
  rows : List RewardEnvelopeRow
  consumptions : List Consumption
  deriving DecidableEq

/-- What the rest of the transaction makes of a call that the envelopes let pass. -/
inductive Rest where
  /-- The reward is paid, unless the billing cap or the settlement takes it back. -/
  | settled (paid : Bool)
  /-- The answer of an earlier call is given again. -/
  | replayed
  | failed
  deriving DecidableEq, Repr

structure RewardCall where
  tenantId : Nat
  projectId : Nat
  now : Int
  /-- The reward of the selected prize in cents, zero for none. -/
  selectedReward : Int
  rest : Rest
  deriving DecidableEq, Repr

section Calls

def locksRow (call : RewardCall) (row : RewardEnvelopeRow) : Bool :=
  row.tenantId = call.tenantId ∧ (row.projectId = none ∨ row.projectId = some call.projectId)

/-- The rows are in the order of their ids; those of the tenant are locked first. -/
def loadLockedRewardEnvelopeStates (rows : List RewardEnvelopeRow) (call : RewardCall) :
    List RewardEnvelopeState :=
  let locked := rows.filter (locksRow call)
  ((locked.filter fun row => row.projectId = none) ++
    (locked.filter fun row => row.projectId ≠ none)).map (normalizeRewardEnvelopeState · call.now)

def envelopeReward (states : List RewardEnvelopeState) (selectedReward : Int) :
    Except EnvelopeRefusal Int :=
  if (evaluateRewardEnvelopeDecision states .expected).mode = .allow then do
    let finalRewardEnvelopeDecision :=
      evaluateRewardEnvelopeDecision states (.actual selectedReward)
    assertRewardEnvelopeNotRejected finalRewardEnvelopeDecision
    if finalRewardEnvelopeDecision.mode = .mute then .ok 0 else .ok selectedReward
  else .ok 0

def consumeRewardEnvelopeStates (rows : List RewardEnvelopeRow) (states : List RewardEnvelopeState)
    (rewardAmount : Int) : List RewardEnvelopeRow :=
  rows.map fun row =>
    match states.find? fun state => state.id = row.id with
    | none => row
    | some state =>
        { row with
          currentConsumed := state.currentConsumed + 100 * rewardAmount
          currentCallCount := state.currentCallCount + 1
          currentWindowStartedAt := state.currentWindowStartedAt }

def executePrizeEngineReward (envelopes : Envelopes) (call : RewardCall) :
    Except EnvelopeRefusal Envelopes := do
  let states := loadLockedRewardEnvelopeStates envelopes.rows call
  assertRewardEnvelopeNotRejected (evaluateRewardEnvelopeDecision states .expected)
  match call.rest with
  | .failed => .error .aborted
  | .replayed => .ok envelopes
  | .settled paid =>
      let allowedReward ← envelopeReward states call.selectedReward
      let rewardAmount := if paid then allowedReward else 0
      .ok
        { rows := consumeRewardEnvelopeStates envelopes.rows states rewardAmount
          consumptions := envelopes.consumptions ++
            (envelopes.rows.filter (locksRow call)).map fun row =>
              ⟨row.id, call.now, 100 * rewardAmount⟩ }

end Calls

end RewardSystem.PrizeEngine.RewardEnvelope
