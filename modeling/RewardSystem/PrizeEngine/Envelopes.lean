import RewardSystem.PrizeEngine.Gates
import RewardSystem.Webhook.Payload

/-!
# Reading the caps of a draw

The limits of `Gates` as they are read from the project's metadata and from the request, and the
prizes that the filters leave. Amounts are counted in cents.
-/

namespace RewardSystem.PrizeEngine.Envelopes

open Gates
open Webhook (JsonValue JsonRecord toRecord field)

/-! ## The readers -/

structure NumberReaders where
  /-- `Number(value)`, where it is finite. -/
  number : String → Option ℚ
  /-- `new Decimal(value)` in cents, where it does not throw. -/
  decimal : String → Option (Decimal ℚ)

variable (readers : NumberReaders)

def readValue (node : JsonRecord) (keys : List String) : Option JsonValue :=
  keys.findSome? (field node)

def positiveFloor (value : ℚ) : Option Nat :=
  if 0 < ⌊value⌋ then some ⌊value⌋.toNat else none

def readPositiveInt : Option JsonValue → Option Nat
  | some (.number value) => positiveFloor value
  | some (.string value) =>
      if trim value = "" then none else (readers.number value).bind positiveFloor
  | _ => none

/-- `new Decimal(value)` -/
def toDecimal : JsonValue → Option (Decimal ℚ)
  | .number value => some (.finite (100 * value))
  | .string value => readers.decimal value
  | _ => none

/-- A cap of `Infinity` limits nothing, like `null`. -/
def positiveDecimal : Decimal ℚ → Option ℚ
  | .finite value => if 0 < value then some value else none
  | _ => none

def readPositiveDecimal : Option JsonValue → Option ℚ
  | some (.string value) =>
      if trim value = "" then none else (readers.decimal value).bind positiveDecimal
  | some value => (toDecimal readers value).bind positiveDecimal
  | none => none

/-! ## The limits of a group and of an agent -/

inductive ConstraintScope where
  | group
  | agent
  deriving DecidableEq, Repr

def ConstraintScope.key : ConstraintScope → String
  | .group => "group"
  | .agent => "agent"

inductive ConstraintKind where
  | draw
  | budget
  | variance
  deriving DecidableEq, Repr

def limitKeys : ConstraintKind → List String
  | .draw => ["maxDrawCount", "max_draw_count"]
  | .budget => ["maxRewardBudget", "max_reward_budget"]
  | .variance => ["maxPositiveVariance", "max_positive_variance"]

def scopedRiskEnvelopeKeys : ConstraintKind → List String
  | .draw => ["maxDrawCount", "max_draw_count"]
  | .budget => ["dailyBudgetCap", "daily_budget_cap", "maxRewardBudget", "max_reward_budget"]
  | .variance =>
      ["varianceCap", "variance_cap", "maxPositiveVariance", "max_positive_variance"]

def limitOf (cap : ConstraintKind → Option JsonValue) : PrizeEngineConstraintLimit where
  maxDrawCount := readPositiveInt readers (cap .draw)
  maxRewardBudget := readPositiveDecimal readers (cap .budget)
  maxPositiveVariance := readPositiveDecimal readers (cap .variance)

/-- The caps of a scope in the project's metadata, unread. -/
def projectCap (metadata : JsonValue) (scope : ConstraintScope) (kind : ConstraintKind) :
    Option JsonValue :=
  let configNode := toRecord
    (readValue (toRecord (some metadata)) ["prizeEngineConstraints", "prize_engine_constraints"])
  readValue (toRecord (readValue configNode [scope.key])) (limitKeys kind)

def requestedCap (riskEnvelope : Option JsonValue) (scope : ConstraintScope)
    (kind : ConstraintKind) : Option JsonValue :=
  readValue (toRecord (readValue (toRecord riskEnvelope) [scope.key])) (scopedRiskEnvelopeKeys kind)

def resolveLimit (metadata : JsonValue) (scope : ConstraintScope) : PrizeEngineConstraintLimit :=
  limitOf readers (projectCap metadata scope)

def resolveScopedRiskEnvelopeLimit (riskEnvelope : Option JsonValue) (scope : ConstraintScope) :
    PrizeEngineConstraintLimit :=
  limitOf readers (requestedCap riskEnvelope scope)

/-- One hour. -/
def defaultConstraintWindowSeconds : Nat := 60 * 60

def resolvePrizeEngineConstraintConfig (metadata : JsonValue) : PrizeEngineConstraintConfig :=
  let configNode := toRecord
    (readValue (toRecord (some metadata)) ["prizeEngineConstraints", "prize_engine_constraints"])
  { evaluationWindowSeconds :=
      (readPositiveInt readers
        (readValue configNode ["evaluationWindowSeconds", "evaluation_window_seconds"])).getD
        defaultConstraintWindowSeconds
    group := resolveLimit readers metadata .group
    agent := resolveLimit readers metadata .agent }

def applyPrizeEngineRiskEnvelope (config : PrizeEngineConstraintConfig)
    (riskEnvelope : Option JsonValue) : PrizeEngineConstraintConfig :=
  let groupLimit := resolveScopedRiskEnvelopeLimit readers riskEnvelope .group
  let agentLimit := resolveScopedRiskEnvelopeLimit readers riskEnvelope .agent
  if hasPrizeEngineConstraintLimit groupLimit = false ∧
      hasPrizeEngineConstraintLimit agentLimit = false then config
  else
    { config with
      group := mergeLimit config.group groupLimit
      agent := mergeLimit config.agent agentLimit }

/-! ## The risk envelope -/

inductive RiskCap where
  | dailyBudgetCap
  | maxSinglePayout
  | varianceCap
  deriving DecidableEq, Repr

namespace RiskCap

def key : RiskCap → String
  | .dailyBudgetCap => "dailyBudgetCap"
  | .maxSinglePayout => "maxSinglePayout"
  | .varianceCap => "varianceCap"

def ofTenant (tenant : Tenant) : RiskCap → Option ℚ
  | .dailyBudgetCap => tenant.riskEnvelopeDailyBudgetCap.map (↑)
  | .maxSinglePayout => tenant.riskEnvelopeMaxSinglePayout.map (↑)
  | .varianceCap => tenant.riskEnvelopeVarianceCap.map (↑)

def requested (riskEnvelope : Option JsonValue) (cap : RiskCap) : Option JsonValue :=
  field (toRecord riskEnvelope) cap.key

end RiskCap

/-- `lt(0)` -/
def isNegative : Decimal ℚ → Bool
  | .finite value => value < 0
  | .negInfinity => true
  | _ => false

/-- `Decimal.min`: with a `NaN` among them there is no least. -/
def decimalMin : Decimal ℚ → Decimal ℚ → Decimal ℚ
  | .nan, _ | _, .nan => .nan
  | .negInfinity, _ | _, .negInfinity => .negInfinity
  | .infinity, other | other, .infinity => other
  | .finite left, .finite right => .finite (min left right)

/-- What `new Decimal` throws. -/
def invalidArgument : ApiError := .internalInvariant "[DecimalError] Invalid argument"

def normalizeRequestedRiskEnvelopeCap (value : Option JsonValue) (fieldLabel : String) :
    Except ApiError (Option (Decimal ℚ)) :=
  match value with
  | none | some .null => .ok none
  | some value =>
      match toDecimal readers value with
      | none => .error invalidArgument
      | some parsed =>
          if isNegative parsed then .error (.badRequest (fieldLabel ++ " must be >= 0."))
          else .ok (some parsed)

def resolveCap : Option (Decimal ℚ) → Option (Decimal ℚ) → Option (Decimal ℚ)
  | none, requestedCap => requestedCap
  | some tenantCap, none => some tenantCap
  | some tenantCap, some requestedCap => some (decimalMin tenantCap requestedCap)

/-- The amount that `gt(cap)` is about: no amount is above `Infinity`, and none above `NaN`. -/
def comparedAmount : Decimal ℚ → Option ℚ
  | .finite value => some value
  | _ => none

/-- A cap of the effective envelope, from the tenant's and the requested one. -/
def effectiveCap (tenantCap : Option ℚ) (requestedCap : Option (Decimal ℚ)) : Option ℚ :=
  (resolveCap (tenantCap.map .finite) requestedCap).bind comparedAmount

def resolveEffectiveRiskEnvelope (tenant : Tenant) (riskEnvelope : Option JsonValue) :
    Except ApiError EffectiveRiskEnvelope := do
  let requestedDailyBudgetCap ← normalizeRequestedRiskEnvelopeCap readers
    (RiskCap.requested riskEnvelope .dailyBudgetCap) "Risk envelope dailyBudgetCap"
  let requestedMaxSinglePayout ← normalizeRequestedRiskEnvelopeCap readers
    (RiskCap.requested riskEnvelope .maxSinglePayout) "Risk envelope maxSinglePayout"
  let requestedVarianceCap ← normalizeRequestedRiskEnvelopeCap readers
    (RiskCap.requested riskEnvelope .varianceCap) "Risk envelope varianceCap"
  return {
    dailyBudgetCap :=
      effectiveCap (RiskCap.ofTenant tenant .dailyBudgetCap) requestedDailyBudgetCap
    maxSinglePayout :=
      effectiveCap (RiskCap.ofTenant tenant .maxSinglePayout) requestedMaxSinglePayout
    varianceCap := effectiveCap (RiskCap.ofTenant tenant .varianceCap) requestedVarianceCap
    emergencyStop := tenant.riskEnvelopeEmergencyStop }

/-! ## The filters -/

/-- Where caps come from: the tenant, the project's metadata, and the request. -/
structure Settings where
  tenant : Tenant
  metadata : JsonValue
  riskEnvelope : Option JsonValue

/-- What a draw finds beside its caps. Nothing that was or can be won is negative. -/
structure Situation where
  prizeRows : List PrizeEngineConstraintPrizeRow
  drawCost : Int
  missWeight : Int
  rewardMultiplier : ℚ
  tenantDailyRewardPayout : Int
  constraintStats : ConstraintScope → PrizeEngineConstraintStats
  reward_nonneg : ∀ row ∈ prizeRows, 0 ≤ row.prize.rewardAmount
  drawCost_nonneg : 0 ≤ drawCost
  payout_nonneg : 0 ≤ tenantDailyRewardPayout
  won_nonneg : ∀ scope, 0 ≤ (constraintStats scope).rewardAmount
  expected_nonneg : ∀ scope, 0 ≤ (constraintStats scope).expectedRewardAmount

structure FilteredPrizes where
  riskEligiblePrizeRows : List PrizeEngineConstraintPrizeRow
  groupScopedPrizeRows : List PrizeEngineConstraintPrizeRow
  agentScopedPrizeRows : List PrizeEngineConstraintPrizeRow
  deriving DecidableEq

namespace Situation

variable (situation : Situation)

def scaledRewardAmount (row : PrizeEngineConstraintPrizeRow) : Int :=
  scaleRewardAmount row.prize.rewardAmount situation.rewardMultiplier

def riskEligible (riskEnvelope : EffectiveRiskEnvelope) : List PrizeEngineConstraintPrizeRow :=
  situation.prizeRows.filter fun row =>
    riskEnvelope.passes situation.drawCost situation.tenantDailyRewardPayout
      (situation.scaledRewardAmount row)

def withinScope (scope : ConstraintScope) (limit : PrizeEngineConstraintLimit)
    (prizeRows : List PrizeEngineConstraintPrizeRow) : List PrizeEngineConstraintPrizeRow :=
  (applyScopeConstraintEnvelope limit prizeRows (situation.constraintStats scope)
    situation.missWeight situation.rewardMultiplier).prizeRows

def filtered (groupId : Option String) (riskEnvelope : EffectiveRiskEnvelope)
    (constraintConfig : PrizeEngineConstraintConfig) : FilteredPrizes :=
  let riskEligiblePrizeRows := situation.riskEligible riskEnvelope
  let availablePrizes :=
    riskEligiblePrizeRows.filter fun row => 0 < row.prize.stock ∧ 0 < row.weight
  let groupScopedPrizeRows :=
    match groupId with
    | some _ => situation.withinScope .group constraintConfig.group availablePrizes
    | none => availablePrizes
  { riskEligiblePrizeRows := riskEligiblePrizeRows
    groupScopedPrizeRows := groupScopedPrizeRows
    agentScopedPrizeRows := situation.withinScope .agent constraintConfig.agent groupScopedPrizeRows }

end Situation

def resolvePrizeEngineGroupId (value : Option String) : Option String :=
  value.bind fun text => if trim text = "" then none else some (trim text)

/-- The part of `executePrizeEngineReward` that decides which prizes may be drawn. -/
def filterPrizes (settings : Settings) (groupId : Option String) (situation : Situation) :
    Except ApiError FilteredPrizes := do
  let effectiveRiskEnvelope ←
    resolveEffectiveRiskEnvelope readers settings.tenant settings.riskEnvelope
  let constraintConfig := applyPrizeEngineRiskEnvelope readers
    (resolvePrizeEngineConstraintConfig readers settings.metadata) settings.riskEnvelope
  return situation.filtered (resolvePrizeEngineGroupId groupId) effectiveRiskEnvelope
    constraintConfig

end RewardSystem.PrizeEngine.Envelopes
