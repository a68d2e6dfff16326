import RewardSystem.PrizeEngine.GatedReward
import RewardSystem.PrizeEngine.Transitions

namespace RewardSystem.PrizeEngine.Gates

open ReadCommitted

/-- What the statement at a stage can do, with what it has found in the tables. -/
inductive GateDoes (hashtext : String → Int) (t : Nat) (x : GateExecution) (db : GateTables) :
    GateStage → GateStatement → Prop
  | throws (stage : GateStage) (error : ApiError) :
      GateDoes hashtext t x db stage (.rollback (x.at (.engine (.answered (.error error)))))
  | rejects (stage : GateStage) : GateDoes hashtext t x db stage (.rollback (x.at .rejected))
  | engine {stage : Stage} {action : Statement}
      (hdoes : Does t x.input.request (engineTables db) stage action) :
      GateDoes hashtext t x db (.engine stage) (x.lift action)
  | authenticated {project : Project}
      (hproject : db.rows (.engine x.input.request.projectKey) = some project) :
      GateDoes hashtext t x db .authenticate
        (.goto (x.set
          { x.locals with
            auth := authOf x.input.request.environment project.tenantId
              (db.rows (.billingAccount project.tenantId)) }
          (.engine .loadProject)))
  | tenantLoaded (project : Project) {tenant : Tenant} {riskEnvelope : EffectiveRiskEnvelope}
      (htenant : db.rows (.tenant project.tenantId) = some tenant)
      (hriskEnvelope :
        resolveEffectiveRiskEnvelope tenant x.input.riskEnvelope = .ok riskEnvelope) :
      GateDoes hashtext t x db (.loadTenant project)
        (.goto (x.set
          { x.locals with
            effectiveRiskEnvelope := riskEnvelope
            constraintConfig := applyPrizeEngineRiskEnvelope
              (settingsOf db x.input.request.projectId).constraints x.input.riskEnvelope }
          (.loadDailyPayout project)))
  | dailyPayoutLoaded (project : Project) :
      GateDoes hashtext t x db (.loadDailyPayout project)
        (.goto (x.set
          { x.locals with
            tenantDailyRewardPayout :=
              loadTenantDailyRewardPayout db project.tenantId x.input.dayObservedAt }
          (if x.shouldCheckBillingHardCap then .lockBillingAccount project
            else .lockGroupScope project)))
  | accountMissing (project : Project)
      (hmissing : db.rows (.billingAccount project.tenantId) = none) :
      GateDoes hashtext t x db (.lockBillingAccount project)
        (.goto (x.at (.lockGroupScope project)))
  | accountLocked (project : Project) {account : BillingAccount}
      (haccount : db.rows (.billingAccount project.tenantId) = some account) :
      GateDoes hashtext t x db (.lockBillingAccount project)
        (.write (.billingAccount project.tenantId) account (x.set
          { x.locals with billingBudgetAccount := some account } (.loadMonthlyUsage project)))
  | monthlyUsageLoaded (project : Project) :
      GateDoes hashtext t x db (.loadMonthlyUsage project)
        (.goto (x.set
          { x.locals with
            currentMonthBillableUsageAmount := loadTenantCurrentMonthBillableUsageAmount db
              project.tenantId x.input.billingObservedAt }
          (.lockGroupScope project)))
  | groupLocked (project : Project) {scope : Scope} (hscope : x.input.groupScope = some scope) :
      GateDoes hashtext t x db (.lockGroupScope project)
        (.write (scope.lockKey hashtext) () (x.at (.lockAgentScope project)))
  | groupUnlimited (project : Project)
      (hfree : x.input.groupScope = none ∨
        hasPrizeEngineConstraintLimit x.locals.constraintConfig.group = false) :
      GateDoes hashtext t x db (.lockGroupScope project) (.goto (x.at (.lockAgentScope project)))
  | agentLocked (project : Project) :
      GateDoes hashtext t x db (.lockAgentScope project)
        (.write (x.input.agentScope.lockKey hashtext) () (x.at (.engine (.loadAgent project))))
  | agentUnlimited (project : Project)
      (hfree : hasPrizeEngineConstraintLimit x.locals.constraintConfig.agent = false) :
      GateDoes hashtext t x db (.lockAgentScope project)
        (.goto (x.at (.engine (.loadAgent project))))
  | groupStatsLoaded (project : Project) :
      GateDoes hashtext t x db (.loadGroupStats project)
        (.goto (x.set
          { x.locals with
            groupConstraintStats :=
              match x.input.groupScope with
              | none => emptyConstraintStats
              | some scope => loadConstraintStats scope
                  x.locals.constraintConfig.evaluationWindowSeconds x.input.startedAt db.log }
          (.loadAgentStats project)))
  | agentStatsLoaded (project : Project) :
      GateDoes hashtext t x db (.loadAgentStats project)
        (.goto (x.set
          { x.locals with
            agentConstraintStats :=
              if x.input.groupScope ≠ none ∨
                  hasPrizeEngineConstraintLimit x.locals.constraintConfig.agent then
                loadConstraintStats x.input.agentScope
                  x.locals.constraintConfig.evaluationWindowSeconds x.input.startedAt db.log
              else emptyConstraintStats }
          (.selectReward project)))
  | rewardSelected (project : Project) :
      GateDoes hashtext t x db (.selectReward project)
        (.goto (x.set (x.selected db project) (x.settlementStage db project)))
  | hardCapMarked (project : Project) {account : BillingAccount}
      (haccount : x.locals.billingBudgetAccount = some account) :
      GateDoes hashtext t x db (.markHardCap project)
        (.write (.billingAccount project.tenantId)
          (markSaasBillingHardCapReached account x.input.billingObservedAt)
          (x.at (.engine (.settleProject project 0))))
  | hardCapUnmarked (project : Project) :
      GateDoes hashtext t x db (.markHardCap project)
        (.goto (x.at (.engine (.settleProject project 0))))
  | usageRecorded (response : RewardResponse) :
      GateDoes hashtext t x db (.recordUsage response)
        (.insert (.usageEvent (x.usageEventOf response)) (x.at (.commitUsage response)))
  | usageCommitted (response : RewardResponse) :
      GateDoes hashtext t x db (.commitUsage response)
        (.commit (x.at (.engine (.storeSnapshot response))))

namespace GateExecution

variable {hashtext : String → Int} {t : Nat} {x : GateExecution} {db : GateTables}
  {action : GateStatement} {stage : GateStage}

theorem throw_eq_some {error : ApiError} :
    x.throw error = some action ↔
      .rollback (x.at (.engine (.answered (.error error)))) = action := by
  simp [GateExecution.throw]

theorem enter_does (h : x.enter hashtext db stage = some action) :
    GateDoes hashtext t x db stage action := by
  unfold enter at h
  split at h
  case h_1 =>
    split at h
    case h_1 => exact throw_eq_some.mp h ▸ .throws _ _
    case h_2 project hproject => exact Option.some.inj h ▸ .authenticated hproject
  case h_2 project =>
    split at h
    case isTrue => exact Option.some.inj h ▸ .rejects _
    case isFalse =>
      split at h
      case h_1 => exact throw_eq_some.mp h ▸ .throws _ _
      case h_2 tenant htenant =>
        split at h
        case h_1 => exact throw_eq_some.mp h ▸ .throws _ _
        case h_2 riskEnvelope hriskEnvelope =>
          exact Option.some.inj h ▸ .tenantLoaded project htenant hriskEnvelope
  case h_3 project => exact Option.some.inj h ▸ .dailyPayoutLoaded project
  case h_4 project =>
    split at h
    case h_1 hmissing => exact Option.some.inj h ▸ .accountMissing project hmissing
    case h_2 account haccount => exact Option.some.inj h ▸ .accountLocked project haccount
  case h_5 project => exact Option.some.inj h ▸ .monthlyUsageLoaded project
  case h_6 project =>
    split at h
    case h_1 hnone => exact Option.some.inj h ▸ .groupUnlimited project (.inl hnone)
    case h_2 scope hscope =>
      split at h
      case isTrue => exact Option.some.inj h ▸ .groupLocked project hscope
      case isFalse hfree =>
        exact Option.some.inj h ▸ .groupUnlimited project (.inr (by simpa using hfree))
  case h_7 project =>
    split at h
    case isTrue => exact Option.some.inj h ▸ .agentLocked project
    case isFalse hfree =>
      exact Option.some.inj h ▸ .agentUnlimited project (by simpa using hfree)
  case h_8 => cases h

theorem choose_does (h : x.choose db stage = some action) :
    GateDoes hashtext t x db stage action := by
  unfold choose at h
  split at h
  case h_1 project => exact Option.some.inj h ▸ .groupStatsLoaded project
  case h_2 project => exact Option.some.inj h ▸ .agentStatsLoaded project
  case h_3 project =>
    split at h
    case isTrue => exact Option.some.inj h ▸ .rejects _
    case isFalse => exact Option.some.inj h ▸ .rewardSelected project
  case h_4 project =>
    split at h
    case h_1 => exact Option.some.inj h ▸ .hardCapUnmarked project
    case h_2 account haccount => exact Option.some.inj h ▸ .hardCapMarked project haccount
  case h_5 => cases h

theorem exec_does (h : exec hashtext t x db = some action) :
    GateDoes hashtext t x db x.stage action := by
  obtain ⟨input, locals, stage⟩ := x
  cases stage with
  | engine stage =>
      obtain ⟨statement, hstatement, rfl⟩ := Option.map_eq_some_iff.mp h
      exact .engine (Execution.exec_does hstatement)
  | recordUsage response => exact Option.some.inj h ▸ .usageRecorded response
  | commitUsage response => exact Option.some.inj h ▸ .usageCommitted response
  | rejected => cases h
  | authenticate | loadTenant | loadDailyPayout | lockBillingAccount | loadMonthlyUsage
  | lockGroupScope | lockAgentScope => exact enter_does h
  | loadGroupStats | loadAgentStats | selectReward | markHardCap => exact choose_does h

theorem lift_next (statement : Statement) :
    (x.lift statement).next = x.at (.after statement.next.stage) := by
  cases statement with
  | insert entry next => cases entry <;> rfl
  | _ => rfl

end GateExecution

theorem GateDoes.input {hashtext : String → Int} {t : Nat} {x : GateExecution} {db : GateTables}
    {stage : GateStage} {action : GateStatement} (h : GateDoes hashtext t x db stage action) :
    action.next.input = x.input := by
  cases h
  case engine statement hdoes => rw [GateExecution.lift_next]; rfl
  all_goals rfl

end RewardSystem.PrizeEngine.Gates
