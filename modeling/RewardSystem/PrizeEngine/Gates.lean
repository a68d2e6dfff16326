import RewardSystem.PrizeEngine.Reward
import RewardSystem.PrizeEngine.RewardEnvelope

/-!
# The gates of the reward transaction

The risk envelope of the tenant, the limits of the group and of the agent, and the hard cap of the
billing account. Rewards and their limits are counted in cents, fees in ten-thousandths, times in
milliseconds.
-/

namespace RewardSystem.PrizeEngine.Gates

open ReadCommitted

/-! ## Times -/

def dayMs : Nat := 24 * 60 * 60 * 1000

def startOfUtcDay (now : Nat) : Nat :=
  now - now % dayMs

structure UtcDate where
  year : Nat
  month : Nat
  day : Nat
  deriving DecidableEq, Repr

def utcDate (now : Nat) : UtcDate :=
  -- days are counted from the first of March of the year 0, so that a leap day ends a year
  let days := now / dayMs + 719468
  let era := days / 146097
  let dayOfEra := days % 146097
  let yearOfEra :=
    (dayOfEra - dayOfEra / 1460 + dayOfEra / 36524 - dayOfEra / 146096) / 365
  let dayOfYear := dayOfEra - (365 * yearOfEra + yearOfEra / 4 - yearOfEra / 100)
  let monthFromMarch := (5 * dayOfYear + 2) / 153
  let month := if monthFromMarch < 10 then monthFromMarch + 3 else monthFromMarch - 9
  { year := yearOfEra + era * 400 + (if month ≤ 2 then 1 else 0)
    month := month
    day := dayOfYear - (153 * monthFromMarch + 2) / 5 + 1 }

def startOfCurrentUtcMonth (value : Nat) : Nat :=
  startOfUtcDay value - ((utcDate value).day - 1) * dayMs

def resolveBillingBudgetMonthKey (now : Nat) : Nat × Nat :=
  ((utcDate now).year, (utcDate now).month)

/-! ## Limits of a group and of an agent -/

/-- A limit is positive or absent, as `readPositiveInt` and `readPositiveDecimal` leave it. -/
structure PrizeEngineConstraintLimit where
  maxDrawCount : Option Nat
  maxRewardBudget : Option ℚ
  maxPositiveVariance : Option ℚ
  deriving DecidableEq

structure PrizeEngineConstraintConfig where
  evaluationWindowSeconds : Nat
  group : PrizeEngineConstraintLimit
  agent : PrizeEngineConstraintLimit
  deriving DecidableEq

def hasPrizeEngineConstraintLimit (limit : PrizeEngineConstraintLimit) : Bool :=
  limit.maxDrawCount ≠ none ∨ limit.maxRewardBudget ≠ none ∨ limit.maxPositiveVariance ≠ none

def mergeLimitValue {α : Type} (resolve : α → α → α) : Option α → Option α → Option α
  | none, overlay => overlay
  | some base, none => some base
  | some base, some overlay => some (resolve base overlay)

def mergeLimit (base overlay : PrizeEngineConstraintLimit) : PrizeEngineConstraintLimit where
  maxDrawCount := mergeLimitValue min base.maxDrawCount overlay.maxDrawCount
  maxRewardBudget := mergeLimitValue min base.maxRewardBudget overlay.maxRewardBudget
  maxPositiveVariance := mergeLimitValue min base.maxPositiveVariance overlay.maxPositiveVariance

/-- The `riskEnvelope` of a request. `null` does the same as an absent cap. -/
structure RequestedRiskEnvelope where
  dailyBudgetCap : Option ℚ
  maxSinglePayout : Option ℚ
  varianceCap : Option ℚ
  group : PrizeEngineConstraintLimit
  agent : PrizeEngineConstraintLimit
  deriving DecidableEq

def applyPrizeEngineRiskEnvelope (config : PrizeEngineConstraintConfig)
    (riskEnvelope : RequestedRiskEnvelope) : PrizeEngineConstraintConfig :=
  if hasPrizeEngineConstraintLimit riskEnvelope.group = false ∧
      hasPrizeEngineConstraintLimit riskEnvelope.agent = false then config
  else
    { config with
      group := mergeLimit config.group riskEnvelope.group
      agent := mergeLimit config.agent riskEnvelope.agent }

/-! ## The risk envelope -/

/-- The risk columns of `saas_tenants`. -/
structure Tenant where
  riskEnvelopeDailyBudgetCap : Option Int
  riskEnvelopeMaxSinglePayout : Option Int
  riskEnvelopeVarianceCap : Option Int
  riskEnvelopeEmergencyStop : Bool
  deriving DecidableEq, Repr

structure EffectiveRiskEnvelope where
  dailyBudgetCap : Option ℚ
  maxSinglePayout : Option ℚ
  varianceCap : Option ℚ
  emergencyStop : Bool
  deriving DecidableEq

def normalizeRequestedRiskEnvelopeCap (value : Option ℚ) (fieldLabel : String) :
    Except ApiError (Option ℚ) :=
  match value with
  | none => .ok none
  | some parsed =>
      if parsed < 0 then .error (.badRequest (fieldLabel ++ " must be >= 0."))
      else .ok (some parsed)

def resolveCap : Option ℚ → Option ℚ → Option ℚ
  | none, requestedCap => requestedCap
  | some tenantCap, none => some tenantCap
  | some tenantCap, some requestedCap => some (min tenantCap requestedCap)

def resolveEffectiveRiskEnvelope (tenantEnvelope : Tenant)
    (requestedEnvelope : RequestedRiskEnvelope) : Except ApiError EffectiveRiskEnvelope := do
  let requestedDailyBudgetCap ← normalizeRequestedRiskEnvelopeCap
    requestedEnvelope.dailyBudgetCap "Risk envelope dailyBudgetCap"
  let requestedMaxSinglePayout ← normalizeRequestedRiskEnvelopeCap
    requestedEnvelope.maxSinglePayout "Risk envelope maxSinglePayout"
  let requestedVarianceCap ← normalizeRequestedRiskEnvelopeCap
    requestedEnvelope.varianceCap "Risk envelope varianceCap"
  return {
    dailyBudgetCap :=
      resolveCap (tenantEnvelope.riskEnvelopeDailyBudgetCap.map (↑)) requestedDailyBudgetCap
    maxSinglePayout :=
      resolveCap (tenantEnvelope.riskEnvelopeMaxSinglePayout.map (↑)) requestedMaxSinglePayout
    varianceCap :=
      resolveCap (tenantEnvelope.riskEnvelopeVarianceCap.map (↑)) requestedVarianceCap
    emergencyStop := tenantEnvelope.riskEnvelopeEmergencyStop }

/-- What the envelope says to a reward. It is asked before the selection and after it. -/
def EffectiveRiskEnvelope.passes (riskEnvelope : EffectiveRiskEnvelope) (drawCost : Int)
    (tenantDailyRewardPayout scaledRewardAmount : Int) : Bool :=
  riskEnvelope.emergencyStop = false ∧
    (∀ cap ∈ riskEnvelope.maxSinglePayout, (scaledRewardAmount : ℚ) ≤ cap) ∧
    (∀ cap ∈ riskEnvelope.varianceCap, max ((scaledRewardAmount : ℚ) - drawCost) 0 ≤ cap) ∧
    ∀ cap ∈ riskEnvelope.dailyBudgetCap,
      ((tenantDailyRewardPayout + scaledRewardAmount : Int) : ℚ) ≤ cap

/-! ## The billing account -/

inductive SaasDecisionType where
  | reject
  | mute
  | payout
  deriving DecidableEq, Repr

structure SaasBillingDecisionPricing where
  reject : Int
  mute : Int
  payout : Int
  deriving DecidableEq, Repr

def SaasBillingDecisionPricing.of (pricing : SaasBillingDecisionPricing) : SaasDecisionType → Int
  | .reject => pricing.reject
  | .mute => pricing.mute
  | .payout => pricing.payout

def decisionTypeOf (rewardAmount : Int) : SaasDecisionType :=
  if 0 < rewardAmount then .payout else .mute

structure SaasBillingBudgetPolicy where
  hardCap : Option Int
  /-- `state.month` -/
  stateMonth : Option (Nat × Nat)
  /-- `state.hardCapReachedAt` -/
  hardCapReachedAt : Option Nat
  deriving DecidableEq, Repr

/-- A row of `saas_billing_accounts`; the policy and the pricing are in its metadata. -/
structure BillingAccount where
  baseMonthlyFee : Int
  decisionPricing : SaasBillingDecisionPricing
  budgetPolicy : SaasBillingBudgetPolicy
  deriving DecidableEq, Repr

def SaasBillingBudgetPolicy.reachedIn (policy : SaasBillingBudgetPolicy) (month : Nat × Nat) :
    Bool :=
  policy.stateMonth = some month ∧ policy.hardCapReachedAt ≠ none

def isSaasBillingHardCapActive (account : BillingAccount) (now : Nat) : Bool :=
  account.budgetPolicy.hardCap ≠ none ∧
    account.budgetPolicy.reachedIn (resolveBillingBudgetMonthKey now)

def markSaasBillingHardCapReached (account : BillingAccount) (now : Nat) : BillingAccount :=
  { account with
    budgetPolicy :=
      { account.budgetPolicy with
        stateMonth := some (resolveBillingBudgetMonthKey now)
        hardCapReachedAt := some now } }

/-- What `executePrizeEngineReward` uses of its `auth`. -/
structure ProjectApiAuth where
  tenantId : Nat
  baseMonthlyFee : Int
  decisionPricing : SaasBillingDecisionPricing
  billingBudgetPolicy : SaasBillingBudgetPolicy
  deriving DecidableEq, Repr

/-- The `auth` of a tenant with this billing account. -/
def authOf (environment : SaaSEnvironment) (tenantId : Nat) (account : Option BillingAccount) :
    ProjectApiAuth where
  tenantId := tenantId
  baseMonthlyFee :=
    match environment, account with
    | .live, some account => account.baseMonthlyFee
    | _, _ => 0
  decisionPricing :=
    match environment, account with
    | .live, some account => account.decisionPricing
    | _, _ => ⟨0, 0, 0⟩
  billingBudgetPolicy :=
    match account with
    | some account => account.budgetPolicy
    | none => ⟨none, none, none⟩

/-- A row of `saas_usage_events`. -/
structure UsageEvent where
  tenantId : Nat
  projectId : Nat
  environment : SaaSEnvironment
  decisionType : SaasDecisionType
  referenceId : Nat
  amount : Int
  billable : Bool
  createdAt : Nat
  deriving DecidableEq, Repr

/-! ## The tables -/

/-- The columns of a project and of its prizes that `Project` and `Prize` do not have. -/
structure ProjectSettings where
  constraints : PrizeEngineConstraintConfig
  missWeight : Int
  /-- The ids of the project's prizes with their weights. -/
  prizes : List (Nat × Int)
  deriving DecidableEq

/-- An advisory lock is a row that is only ever locked. -/
inductive GateKey where
  | engine (key : Key)
  | tenant (tenantId : Nat)
  | settings (projectId : Nat)
  | billingAccount (tenantId : Nat)
  | advisory (projectId : Nat) (lock : Int)
  deriving DecidableEq, Repr

abbrev GateRow : GateKey → Type
  | .engine key => Row key
  | .tenant _ => Tenant
  | .settings _ => ProjectSettings
  | .billingAccount _ => BillingAccount
  | .advisory _ _ => Unit

/-- A draw record with the columns that `DrawRecord` does not have. `createdAt` is the time at which
the transaction began. -/
structure SettledRecord where
  record : DrawRecord
  expectedRewardAmount : ℚ
  createdAt : Nat
  deriving DecidableEq

inductive GateEntry where
  | drawRecord (settled : SettledRecord)
  | responseSnapshot (drawRecordId : Nat) (response : RewardResponse)
  | usageEvent (event : UsageEvent)
  deriving DecidableEq

abbrev GateTables := Database GateRow GateEntry

def GateEntry.toEngine : GateEntry → Option Entry
  | .drawRecord settled => some (.drawRecord settled.record)
  | .responseSnapshot drawRecordId response => some (.responseSnapshot drawRecordId response)
  | .usageEvent _ => none

/-- The tables as the statements of `rewardEngine` see them. -/
def engineTables (db : GateTables) : Tables where
  rows := fun key => db.rows (.engine key)
  log := db.log.filterMap GateEntry.toEngine

def drawRecords (log : List GateEntry) : List SettledRecord :=
  log.filterMap fun
    | .drawRecord settled => some settled
    | _ => none

def usageEvents (log : List GateEntry) : List UsageEvent :=
  log.filterMap fun
    | .usageEvent event => some event
    | _ => none

def tenantOf (db : GateTables) (projectId : Nat) : Option Nat :=
  (db.rows (.engine (.project projectId))).map fun project => project.tenantId

def loadTenantDailyRewardPayout (db : GateTables) (tenantId now : Nat) : Int :=
  (((drawRecords db.log).filter fun settled =>
    tenantOf db settled.record.projectId = some tenantId ∧
      startOfUtcDay now ≤ settled.createdAt).map fun settled => settled.record.rewardAmount).sum

def loadTenantCurrentMonthBillableUsageAmount (db : GateTables) (tenantId now : Nat) : Int :=
  (((usageEvents db.log).filter fun event =>
    event.tenantId = tenantId ∧ event.environment = .live ∧
      startOfCurrentUtcMonth now ≤ event.createdAt ∧ event.billable = true).map (·.amount)).sum

/-! ## Groups and agents -/

/-- The draws that a limit is about. -/
inductive Scope where
  | group (projectId : Nat) (environment : SaaSEnvironment) (groupId : String)
  | agent (projectId : Nat) (environment : SaaSEnvironment) (agentId : String)
  deriving DecidableEq, Repr

def SaaSEnvironment.text : SaaSEnvironment → String
  | .sandbox => "sandbox"
  | .live => "live"

namespace Scope

def projectId : Scope → Nat
  | .group projectId _ _ | .agent projectId _ _ => projectId

def scopeKey : Scope → String
  | .group _ environment groupId =>
      "reward-group:" ++ SaaSEnvironment.text environment ++ ":" ++ groupId
  | .agent _ environment agentId =>
      "reward-agent:" ++ SaaSEnvironment.text environment ++ ":" ++ agentId

def covers (record : DrawRecord) : Scope → Bool
  | .group projectId environment groupId =>
      record.projectId = projectId ∧ record.environment = environment ∧
        record.groupId = some groupId
  | .agent projectId environment agentId =>
      record.projectId = projectId ∧ record.environment = environment ∧ record.agentId = agentId

/-- The lock that `lockPrizeEngineScope` takes. -/
abbrev lockKey (hashtext : String → Int) (scope : Scope) : GateKey :=
  .advisory scope.projectId (hashtext scope.scopeKey)

/-- The records of the scope that are at most a window old at the time `now`. -/
def windowRecords (scope : Scope) (windowSeconds now : Nat) (log : List GateEntry) :
    List SettledRecord :=
  (drawRecords log).filter fun settled =>
    scope.covers settled.record = true ∧ now ≤ settled.createdAt + 1000 * windowSeconds

end Scope

structure PrizeEngineConstraintStats where
  drawCount : Nat
  rewardAmount : Int
  expectedRewardAmount : ℚ
  deriving DecidableEq

def emptyConstraintStats : PrizeEngineConstraintStats := ⟨0, 0, 0⟩

/-- `loadGroupConstraintStats` and `loadAgentConstraintStats` -/
def loadConstraintStats (scope : Scope) (windowSeconds now : Nat) (log : List GateEntry) :
    PrizeEngineConstraintStats :=
  let records := scope.windowRecords windowSeconds now log
  { drawCount := records.length
    rewardAmount := (records.map fun settled => settled.record.rewardAmount).sum
    expectedRewardAmount := (records.map (·.expectedRewardAmount)).sum }

def computePositiveVariance (rewardAmount expectedRewardAmount : ℚ) : ℚ :=
  max (rewardAmount - expectedRewardAmount) 0

structure PrizeEngineConstraintPrizeRow where
  id : Nat
  prize : Prize
  weight : Int
  deriving DecidableEq

def computeExpectedRewardAmount (prizeRows : List PrizeEngineConstraintPrizeRow) (missWeight : Int)
    (rewardMultiplier : ℚ) : ℚ :=
  let rows := prizeRows.filter fun row => 0 < row.weight ∧ 0 < row.prize.stock
  let totalWeight := max missWeight 0 + (rows.map (·.weight)).sum
  let weightedReward :=
    (rows.map fun row => scaleRewardAmount row.prize.rewardAmount rewardMultiplier * row.weight).sum
  if totalWeight ≤ 0 then 0 else (weightedReward : ℚ) / totalWeight

inductive ScopeTriggerReason where
  | antiExploit
  | budgetCap
  | varianceCap
  deriving DecidableEq, Repr

structure PrizeEngineScopeConstraintResult where
  prizeRows : List PrizeEngineConstraintPrizeRow
  triggered : List ScopeTriggerReason
  mute : Bool

/-- Adding this reward exceeds the budget of the scope. -/
def PrizeEngineConstraintLimit.overBudget (limit : PrizeEngineConstraintLimit)
    (stats : PrizeEngineConstraintStats) (scaledRewardAmount : Int) : Bool :=
  ∃ budget ∈ limit.maxRewardBudget, budget < ((stats.rewardAmount + scaledRewardAmount : Int) : ℚ)

/-- Adding this reward exceeds the variance of the scope. -/
def PrizeEngineConstraintLimit.overVariance (limit : PrizeEngineConstraintLimit)
    (stats : PrizeEngineConstraintStats) (expectedRewardAmount : ℚ) (scaledRewardAmount : Int) :
    Bool :=
  ∃ variance ∈ limit.maxPositiveVariance,
    variance < computePositiveVariance ((stats.rewardAmount + scaledRewardAmount : Int) : ℚ)
      (stats.expectedRewardAmount + expectedRewardAmount)

def applyScopeConstraintEnvelope (limit : PrizeEngineConstraintLimit)
    (prizeRows : List PrizeEngineConstraintPrizeRow) (stats : PrizeEngineConstraintStats)
    (missWeight : Int) (rewardMultiplier : ℚ) : PrizeEngineScopeConstraintResult :=
  if hasPrizeEngineConstraintLimit limit = false then ⟨prizeRows, [], false⟩
  else if ∃ maxDrawCount ∈ limit.maxDrawCount, maxDrawCount < stats.drawCount + 1 then
    ⟨[], [.antiExploit], true⟩
  else
    let expectedRewardAmount := computeExpectedRewardAmount prizeRows missWeight rewardMultiplier
    let scaled := fun row : PrizeEngineConstraintPrizeRow =>
      scaleRewardAmount row.prize.rewardAmount rewardMultiplier
    let withinBudget := prizeRows.filter fun row => limit.overBudget stats (scaled row) = false
    let filteredPrizeRows := withinBudget.filter fun row =>
      limit.overVariance stats expectedRewardAmount (scaled row) = false
    let triggered :=
      (if withinBudget.length < prizeRows.length then [ScopeTriggerReason.budgetCap] else []) ++
        (if filteredPrizeRows.length < withinBudget.length then [.varianceCap] else [])
    ⟨filteredPrizeRows, triggered, triggered ≠ [] ∧ filteredPrizeRows = []⟩

end RewardSystem.PrizeEngine.Gates
