import RewardSystem.PrizeEngine.Gates

/-!
# The reward transaction with its gates

`executePrizeEngineReward` with the gates that `rewardEngine` takes as given. What lies between the
gates are the statements of `rewardEngine`. The decisions of the reward envelopes are inputs, and so
are the times at which the call reads a clock.
-/

namespace RewardSystem.PrizeEngine.Gates

open ReadCommitted

/-! ## A call and its local variables -/

/-- A request, with the answers and the clock readings that its call gets. -/
structure GateInput where
  request : RewardInput
  riskEnvelope : RequestedRiskEnvelope
  /-- The decision of the reward envelopes on the expected payout. -/
  preflightDecision : RewardEnvelope.RewardEnvelopeDecisionMode
  /-- Their decision on the selected reward. -/
  finalDecision : RewardEnvelope.RewardEnvelopeDecisionMode
  /-- `now()` of the transaction. -/
  startedAt : Nat
  /-- The time of `startOfCurrentUtcDay`. -/
  dayObservedAt : Nat
  billingObservedAt : Nat
  /-- `now()` of the insert of the usage event. -/
  recordedAt : Nat
  deriving DecidableEq

namespace GateInput

variable (input : GateInput)

def groupScope : Option Scope :=
  input.request.groupId.map (.group input.request.projectId input.request.environment)

def agentScope : Scope :=
  .agent input.request.projectId input.request.environment input.request.agentScopeId

end GateInput

structure Locals where
  auth : ProjectApiAuth
  effectiveRiskEnvelope : EffectiveRiskEnvelope
  constraintConfig : PrizeEngineConstraintConfig
  tenantDailyRewardPayout : Int
  billingBudgetAccount : Option BillingAccount
  currentMonthBillableUsageAmount : Int
  groupConstraintStats : PrizeEngineConstraintStats
  agentConstraintStats : PrizeEngineConstraintStats
  expectedRewardAmount : ℚ
  /-- The decision whose fee is compared with the hard cap. -/
  preThrottleDecisionType : SaasDecisionType
  /-- `billingThrottleReason` is set. -/
  billingThrottled : Bool
  deriving DecidableEq

namespace Locals

def initial : Locals where
  auth := authOf .sandbox 0 none
  effectiveRiskEnvelope := ⟨none, none, none, false⟩
  constraintConfig := ⟨3600, ⟨none, none, none⟩, ⟨none, none, none⟩⟩
  tenantDailyRewardPayout := 0
  billingBudgetAccount := none
  currentMonthBillableUsageAmount := 0
  groupConstraintStats := emptyConstraintStats
  agentConstraintStats := emptyConstraintStats
  expectedRewardAmount := 0
  preThrottleDecisionType := .mute
  billingThrottled := false

variable (x : Locals)

def liveBillingBudgetPolicy : SaasBillingBudgetPolicy :=
  match x.billingBudgetAccount with
  | some account => account.budgetPolicy
  | none => x.auth.billingBudgetPolicy

def liveBillingHardCapActive (billingObservedAt : Nat) : Bool :=
  match x.billingBudgetAccount with
  | some account => isSaasBillingHardCapActive account billingObservedAt
  | none =>
      x.auth.billingBudgetPolicy.reachedIn (resolveBillingBudgetMonthKey billingObservedAt)

def currentMonthBillableTotalAmount : Int :=
  (match x.billingBudgetAccount with
    | some account => account.baseMonthlyFee
    | none => x.auth.baseMonthlyFee) + x.currentMonthBillableUsageAmount

end Locals

/-- The statement a call is at. -/
inductive GateStage where
  | authenticate
  /-- A statement of `rewardEngine`. -/
  | engine (stage : Stage)
  | loadTenant (project : Project)
  | loadDailyPayout (project : Project)
  | lockBillingAccount (project : Project)
  | loadMonthlyUsage (project : Project)
  | lockGroupScope (project : Project)
  | lockAgentScope (project : Project)
  | loadGroupStats (project : Project)
  | loadAgentStats (project : Project)
  | selectReward (project : Project)
  | markHardCap (project : Project)
  | recordUsage (response : RewardResponse)
  | commitUsage (response : RewardResponse)
  /-- "Reward envelope limit exceeded." -/
  | rejected

/-- The next statement. A call leaves the statements of `rewardEngine` once its project is loaded,
where a prize is selected, and after its commit. -/
def GateStage.after : Stage → GateStage
  | .loadAgent project => .loadTenant project
  | .selectPrize project => .loadGroupStats project
  | .storeSnapshot response => .recordUsage response
  | stage => .engine stage

structure GateExecution where
  input : GateInput
  locals : Locals
  stage : GateStage

abbrev GateStatement := Action GateRow GateEntry GateExecution

def GateExecution.at (x : GateExecution) (stage : GateStage) : GateExecution :=
  { x with stage := stage }

namespace GateExecution

variable (x : GateExecution)

def set (locals : Locals) (stage : GateStage) : GateExecution :=
  { x with locals := locals, stage := stage }

def throw (error : ApiError) : Option GateStatement :=
  some (.rollback (x.at (.engine (.answered (.error error)))))

/-- A statement of `rewardEngine` on the tables of the engine. -/
def lift : Statement → GateStatement
  | .goto next => .goto (x.at (.after next.stage))
  | .write key row next => .write (.engine key) row (x.at (.after next.stage))
  | .insert (.drawRecord record) next =>
      .insert (.drawRecord ⟨record, x.locals.expectedRewardAmount, x.input.startedAt⟩)
        (x.at (.after next.stage))
  | .insert (.responseSnapshot drawRecordId response) next =>
      .insert (.responseSnapshot drawRecordId response) (x.at (.after next.stage))
  | .commit next => .commit (x.at (.after next.stage))
  | .rollback next => .rollback (x.at (.after next.stage))

def shouldCheckBillingHardCap : Bool :=
  x.input.request.environment = .live ∧
    (x.locals.auth.billingBudgetPolicy.hardCap ≠ none ∨
      x.locals.auth.billingBudgetPolicy.reachedIn
        (resolveBillingBudgetMonthKey x.input.billingObservedAt) = true)

end GateExecution

/-! ## The statements -/

def settingsOf (db : GateTables) (projectId : Nat) : ProjectSettings :=
  (db.rows (.settings projectId)).getD ⟨⟨3600, ⟨none, none, none⟩, ⟨none, none, none⟩⟩, 0, []⟩

/-- The prizes of the project that are active and not deleted. -/
def prizeRows (db : GateTables) (projectId : Nat) : List PrizeEngineConstraintPrizeRow :=
  (settingsOf db projectId).prizes.filterMap fun (id, weight) =>
    (db.rows (.engine (.prize id))).bind fun prize =>
      if prize.projectId = projectId ∧ prize.isActive = true ∧ prize.deletedAt = none then
        some ⟨id, prize, weight⟩
      else none

namespace GateExecution

variable (x : GateExecution) (db : GateTables) (project : Project)

def availablePrizes : List PrizeEngineConstraintPrizeRow :=
  let riskEligiblePrizeRows := (prizeRows db x.input.request.projectId).filter fun row =>
    x.locals.effectiveRiskEnvelope.passes project.drawCost x.locals.tenantDailyRewardPayout
      (scaleRewardAmount row.prize.rewardAmount x.input.request.rewardMultiplier)
  riskEligiblePrizeRows.filter fun row => 0 < row.prize.stock ∧ 0 < row.weight

def groupScopedPrizeRows : List PrizeEngineConstraintPrizeRow :=
  if x.input.groupScope ≠ none then
    (applyScopeConstraintEnvelope x.locals.constraintConfig.group (x.availablePrizes db project)
      x.locals.groupConstraintStats (settingsOf db x.input.request.projectId).missWeight
      x.input.request.rewardMultiplier).prizeRows
  else x.availablePrizes db project

def agentScopedPrizeRows : List PrizeEngineConstraintPrizeRow :=
  (applyScopeConstraintEnvelope x.locals.constraintConfig.agent (x.groupScopedPrizeRows db project)
    x.locals.agentConstraintStats (settingsOf db x.input.request.projectId).missWeight
    x.input.request.rewardMultiplier).prizeRows

/-- What `selectReward` picks from the rows that are left, unless a second look drops it. -/
def scopedCandidate : Option (Nat × Int) :=
  let selection := x.input.request.selection.filter fun prizeId =>
    (x.agentScopedPrizeRows db project).any fun row => row.id = prizeId
  let request := { x.input.request with selection := selection }
  (selectedPrizeCandidate (engineTables db) request project).filter fun candidate =>
    x.locals.effectiveRiskEnvelope.passes project.drawCost x.locals.tenantDailyRewardPayout
      candidate.2

def envelopedCandidate : Option (Nat × Int) :=
  if x.input.preflightDecision = .allow ∧ x.input.finalDecision = .allow then
    x.scopedCandidate db project
  else none

/-- The hard cap refuses the fee of the decision. -/
def throttles (decisionType : SaasDecisionType) : Bool :=
  x.input.request.environment = .live ∧
    ∃ hardCap ∈ x.locals.liveBillingBudgetPolicy.hardCap,
      x.locals.liveBillingHardCapActive x.input.billingObservedAt = true ∨
        hardCap < x.locals.currentMonthBillableTotalAmount +
          x.locals.auth.decisionPricing.of decisionType

def selected : Locals :=
  let rewardAmount := ((x.envelopedCandidate db project).map (·.2)).getD 0
  let expectedRewardAmount := computeExpectedRewardAmount (x.agentScopedPrizeRows db project)
    (settingsOf db x.input.request.projectId).missWeight x.input.request.rewardMultiplier
  { x.locals with
    -- `toFixed(4)`
    expectedRewardAmount := (Rounding.roundHalfUp (100 * expectedRewardAmount) : ℚ) / 100
    preThrottleDecisionType := decisionTypeOf rewardAmount
    billingThrottled := x.throttles (decisionTypeOf rewardAmount) }

def settlementStage : GateStage :=
  if (x.selected db project).billingThrottled = true then
    if x.locals.billingBudgetAccount ≠ none ∧
        x.locals.liveBillingHardCapActive x.input.billingObservedAt = false then
      .markHardCap project
    else .engine (.settleProject project 0)
  else
    match x.envelopedCandidate db project with
    | some (prizeId, rewardAmount) => .engine (.decrementStock project prizeId rewardAmount)
    | none => .engine (.settleProject project 0)

/-- The row of `recordPrizeEngineUsageEvent`. -/
def usageEventOf (response : RewardResponse) : UsageEvent :=
  let decisionType := decisionTypeOf response.rewardAmount
  let billable : Bool :=
    x.input.request.environment = .live ∧ x.locals.billingThrottled = false
  { tenantId := x.locals.auth.tenantId
    projectId := x.input.request.projectId
    environment := x.input.request.environment
    decisionType := decisionType
    referenceId := response.drawRecordId
    amount := if billable then x.locals.auth.decisionPricing.of decisionType else 0
    billable := billable
    createdAt := x.input.recordedAt }

/-- The statements before the agent is tracked: the row reads, and the locks. -/
def enter (hashtext : String → Int) (db : GateTables) : GateStage → Option GateStatement
  | .authenticate =>
      match db.rows (.engine x.input.request.projectKey) with
      | none => x.throw projectNotFound
      | some project =>
          some (.goto (x.set
            { x.locals with
              auth := authOf x.input.request.environment project.tenantId
                (db.rows (.billingAccount project.tenantId)) }
            (.engine .loadProject)))
  | .loadTenant project =>
      if x.input.preflightDecision = .reject then some (.rollback (x.at .rejected))
      else
        match db.rows (.tenant project.tenantId) with
        | none => x.throw (.notFound "Tenant not found.")
        | some tenant =>
            match resolveEffectiveRiskEnvelope tenant x.input.riskEnvelope with
            | .error error => x.throw error
            | .ok effectiveRiskEnvelope =>
                some (.goto (x.set
                  { x.locals with
                    effectiveRiskEnvelope := effectiveRiskEnvelope
                    constraintConfig := applyPrizeEngineRiskEnvelope
                      (settingsOf db x.input.request.projectId).constraints x.input.riskEnvelope }
                  (.loadDailyPayout project)))
  | .loadDailyPayout project =>
      some (.goto (x.set
        { x.locals with
          tenantDailyRewardPayout :=
            loadTenantDailyRewardPayout db project.tenantId x.input.dayObservedAt }
        (if x.shouldCheckBillingHardCap then .lockBillingAccount project
          else .lockGroupScope project)))
  | .lockBillingAccount project =>
      match db.rows (.billingAccount project.tenantId) with
      | none => some (.goto (x.at (.lockGroupScope project)))
      | some account =>
          -- FOR UPDATE
          some (.write (.billingAccount project.tenantId) account (x.set
            { x.locals with billingBudgetAccount := some account } (.loadMonthlyUsage project)))
  | .loadMonthlyUsage project =>
      some (.goto (x.set
        { x.locals with
          currentMonthBillableUsageAmount := loadTenantCurrentMonthBillableUsageAmount db
            project.tenantId x.input.billingObservedAt }
        (.lockGroupScope project)))
  | .lockGroupScope project =>
      match x.input.groupScope with
      | none => some (.goto (x.at (.lockAgentScope project)))
      | some scope =>
          if hasPrizeEngineConstraintLimit x.locals.constraintConfig.group then
            some (.write (scope.lockKey hashtext) () (x.at (.lockAgentScope project)))
          else some (.goto (x.at (.lockAgentScope project)))
  | .lockAgentScope project =>
      if hasPrizeEngineConstraintLimit x.locals.constraintConfig.agent then
        some (.write (x.input.agentScope.lockKey hashtext) () (x.at (.engine (.loadAgent project))))
      else some (.goto (x.at (.engine (.loadAgent project))))
  | _ => none

/-- The statements around the selection. -/
def choose (db : GateTables) : GateStage → Option GateStatement
  | .loadGroupStats project =>
      some (.goto (x.set
        { x.locals with
          groupConstraintStats :=
            match x.input.groupScope with
            | none => emptyConstraintStats
            | some scope => loadConstraintStats scope
                x.locals.constraintConfig.evaluationWindowSeconds x.input.startedAt db.log }
        (.loadAgentStats project)))
  | .loadAgentStats project =>
      some (.goto (x.set
        { x.locals with
          agentConstraintStats :=
            if x.input.groupScope ≠ none ∨
                hasPrizeEngineConstraintLimit x.locals.constraintConfig.agent then
              loadConstraintStats x.input.agentScope
                x.locals.constraintConfig.evaluationWindowSeconds x.input.startedAt db.log
            else emptyConstraintStats }
        (.selectReward project)))
  | .selectReward project =>
      if x.input.preflightDecision = .allow ∧ x.input.finalDecision = .reject then
        some (.rollback (x.at .rejected))
      else some (.goto (x.set (x.selected db project) (x.settlementStage db project)))
  | .markHardCap project =>
      match x.locals.billingBudgetAccount with
      | none => some (.goto (x.at (.engine (.settleProject project 0))))
      | some account =>
          some (.write (.billingAccount project.tenantId)
            (markSaasBillingHardCapReached account x.input.billingObservedAt)
            (x.at (.engine (.settleProject project 0))))
  | _ => none

/-- One statement of a call. -/
def exec (hashtext : String → Int) (t : Nat) (x : GateExecution) (db : GateTables) :
    Option GateStatement :=
  match x.stage with
  | .engine stage =>
      (Execution.exec t ⟨x.input.request, stage⟩ (engineTables db)).map x.lift
  -- `runPrizeEngineRewardPostCommitWork`
  | .recordUsage response =>
      some (.insert (.usageEvent (x.usageEventOf response)) (x.at (.commitUsage response)))
  | .commitUsage response => some (.commit (x.at (.engine (.storeSnapshot response))))
  | .rejected => none
  | .authenticate | .loadTenant _ | .loadDailyPayout _ | .lockBillingAccount _
  | .loadMonthlyUsage _ | .lockGroupScope _ | .lockAgentScope _ => x.enter hashtext db x.stage
  | .loadGroupStats _ | .loadAgentStats _ | .selectReward _ | .markHardCap _ => x.choose db x.stage

end GateExecution

/-- Every session executes one reward request through the gates. -/
def gatedEngine (hashtext : String → Int) :
    Program Nat GateRow GateEntry GateExecution GateInput where
  start := fun input => ⟨input, .initial, .authenticate⟩
  exec := GateExecution.exec hashtext

end RewardSystem.PrizeEngine.Gates
