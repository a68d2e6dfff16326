import RewardSystem.PrizeEngine.Conservation
import RewardSystem.PrizeEngine.GateTransitions

/-!
# What a call knows behind its gates
-/

namespace RewardSystem.PrizeEngine.Gates

open ReadCommitted

/-! ## Columns that no call changes -/

inductive FixedColumns where
  | none
  | project (tenantId : Option Nat)
  | tenant (row : Option Tenant)
  | settings (row : Option ProjectSettings)
  | billingAccount (baseMonthlyFeeAndHardCap : Option (Int × Option Int))

def fixedColumns : (key : GateKey) → Option (GateRow key) → FixedColumns
  | .engine (.project _), row => .project (row.map fun project => project.tenantId)
  | .engine (.agent _ _), _ | .engine (.player _ _), _ | .engine (.prize _), _ => .none
  | .tenant _, row => .tenant row
  | .settings _, row => .settings row
  | .billingAccount _, row =>
      .billingAccount (row.map fun account => (account.baseMonthlyFee, account.budgetPolicy.hardCap))
  | .advisory _ _, _ => .none

/-- The tables have the fixed columns of the tables that the calls began with. -/
def Fixed (opening db : GateTables) : Prop :=
  ∀ key, fixedColumns key (db.rows key) = fixedColumns key (opening.rows key)

section Fixed

variable {opening db : GateTables}

theorem Fixed.tenantOf (h : Fixed opening db) (projectId : Nat) :
    tenantOf db projectId = tenantOf opening projectId :=
  FixedColumns.project.inj (h (.engine (.project projectId)))

theorem Fixed.tenant (h : Fixed opening db) (tenantId : Nat) :
    db.rows (.tenant tenantId) = opening.rows (.tenant tenantId) :=
  FixedColumns.tenant.inj (h (.tenant tenantId))

theorem Fixed.settingsOf (h : Fixed opening db) (projectId : Nat) :
    settingsOf db projectId = settingsOf opening projectId :=
  congrArg (fun row : Option ProjectSettings => row.getD _)
    (FixedColumns.settings.inj (h (.settings projectId)))

theorem Fixed.view (h : Fixed opening db) {s : Session GateRow GateEntry GateExecution}
    (hwrites : ∀ key row, s.writes key = some row →
      fixedColumns key (some row) = fixedColumns key (opening.rows key)) :
    Fixed opening (s.view db) := by
  intro key
  cases hwritten : s.writes key with
  | none => simpa [Session.view, hwritten] using h key
  | some row => simpa [Session.view, hwritten] using hwrites key row hwritten

end Fixed

/-! ## Stages -/

/-- The reward that a call is about to settle, or has settled. -/
def engineReward : Stage → Option Int
  | .decrementStock _ _ rewardAmount | .settleWin _ _ rewardAmount | .settleProject _ rewardAmount
  | .updateBalance _ _ rewardAmount | .insertRecord _ _ rewardAmount _ => some rewardAmount
  | .restoreStock _ _ | .reloadProject _ => some 0
  | .commitRecord response | .storeSnapshot response => some response.rewardAmount
  | _ => none

/-- The number of gates that a call has passed at a statement of `rewardEngine`. -/
@[simp]
def enginePassed : Stage → Nat
  | .loadProject => 1
  | .loadAgent _ | .loadLegacyPlayer _ _ | .insertAgent _ _ | .reloadAgent _ | .updateAgent _ _ _
  | .loadPlayer _ | .insertPlayer _ | .reloadPlayer _ | .updatePlayer _ | .loadReplay _
  | .selectPrize _ => 5
  | .decrementStock _ _ _ | .settleWin _ _ _ | .restoreStock _ _ | .reloadProject _
  | .settleProject _ _ | .updateBalance _ _ _ | .insertRecord _ _ _ _ | .commitRecord _
  | .storeSnapshot _ => 8
  | .commitReplay _ | .commitSnapshot _ | .answered _ => 0

namespace GateStage

def reward : GateStage → Option Int
  | .engine stage => engineReward stage
  | .markHardCap _ => some 0
  | .recordUsage response | .commitUsage response => some response.rewardAmount
  | _ => none

/-- The number of gates passed: the authentication, the risk envelope, the billing account, the lock
of the group, that of the agent, the draws of the group, those of the agent, and the selection. -/
@[simp]
def passed : GateStage → Nat
  | .authenticate | .rejected => 0
  | .engine stage => enginePassed stage
  | .loadTenant _ => 1
  | .loadDailyPayout _ | .lockBillingAccount _ => 2
  | .loadMonthlyUsage _ | .lockGroupScope _ => 3
  | .lockAgentScope _ => 4
  | .loadGroupStats _ => 5
  | .loadAgentStats _ => 6
  | .selectReward _ => 7
  | .markHardCap _ | .recordUsage _ | .commitUsage _ => 8

def project : GateStage → Option Project
  | .engine stage => stage.project
  | .loadTenant project | .loadDailyPayout project | .lockBillingAccount project
  | .loadMonthlyUsage project | .lockGroupScope project | .lockAgentScope project
  | .loadGroupStats project | .loadAgentStats project | .selectReward project
  | .markHardCap project => some project
  | _ => none

/-- A prize is selected behind the gates. -/
def Proper (stage : GateStage) : Prop :=
  ∀ project, stage ≠ .engine (.selectPrize project)

theorem reward_after (stage : Stage) : (GateStage.after stage).reward = engineReward stage := by
  cases stage <;> rfl

theorem project_after (stage : Stage) : (GateStage.after stage).project = stage.project := by
  cases stage <;> rfl

theorem proper_after (stage : Stage) : (GateStage.after stage).Proper := by
  intro project h
  cases stage <;> cases h

end GateStage

section Engine

variable {t : Nat} {input : RewardInput} {db : Tables} {stage : Stage} {action : Statement}

theorem engineReward_next (h : Does t input db stage action) {rewardAmount : Int}
    (hnext : engineReward action.next.stage = some rewardAmount) :
    rewardAmount = 0 ∨ engineReward stage = some rewardAmount ∨
      ∃ project, stage = .selectPrize project := by
  cases h
  case prizeSelected project prizeId selected => exact .inr (.inr ⟨project, rfl⟩)
  case missSelected project => exact .inr (.inr ⟨project, rfl⟩)
  case recordInserted => exact .inr (.inl hnext)
  all_goals first
    | exact .inr (.inl hnext)
    | exact .inl (Option.some.inj hnext).symm
    | cases hnext

theorem passed_after (h : Does t input db stage action)
    (hproper : (GateStage.engine stage).Proper) :
    (GateStage.after action.next.stage).passed ≤ enginePassed stage := by
  cases h
  case prizeSelected project _ _ => exact absurd rfl (hproper project)
  case missSelected project => exact absurd rfl (hproper project)
  all_goals first
    | exact Nat.le_refl _
    | exact Nat.zero_le _

end Engine

/-! ## Selected rewards -/

/-- The scope takes a reward of this amount. -/
def PrizeEngineConstraintLimit.Admits (limit : PrizeEngineConstraintLimit)
    (stats : PrizeEngineConstraintStats) (rewardAmount : Int) : Prop :=
  (∀ maxDrawCount ∈ limit.maxDrawCount, stats.drawCount < maxDrawCount) ∧
    ∀ budget ∈ limit.maxRewardBudget, ((stats.rewardAmount + rewardAmount : Int) : ℚ) ≤ budget

/-- What the gates say of a reward that they let pass. -/
structure Passes (input : GateInput) (locals : Locals) (rewardAmount : Int) : Prop where
  dailyBudget : ∀ cap ∈ locals.effectiveRiskEnvelope.dailyBudgetCap,
    ((locals.tenantDailyRewardPayout + rewardAmount : Int) : ℚ) ≤ cap
  group : input.groupScope ≠ none →
    locals.constraintConfig.group.Admits locals.groupConstraintStats rewardAmount
  agent : locals.constraintConfig.agent.Admits locals.agentConstraintStats rewardAmount

section Selection

variable {limit : PrizeEngineConstraintLimit} {rows : List PrizeEngineConstraintPrizeRow}
  {stats : PrizeEngineConstraintStats} {missWeight : Int} {multiplier : ℚ}
  {row : PrizeEngineConstraintPrizeRow}

theorem admits_of_unlimited (hlimit : hasPrizeEngineConstraintLimit limit = false)
    (rewardAmount : Int) : limit.Admits stats rewardAmount := by
  simp only [hasPrizeEngineConstraintLimit, decide_eq_false_iff_not, not_or, not_not] at hlimit
  constructor
  · intro maxDrawCount hmax
    rw [hlimit.1] at hmax
    cases hmax
  · intro budget hbudget
    rw [hlimit.2.1] at hbudget
    cases hbudget

theorem admits_of_mem_scoped
    (h : row ∈ (applyScopeConstraintEnvelope limit rows stats missWeight multiplier).prizeRows) :
    row ∈ rows ∧ limit.Admits stats (scaleRewardAmount row.prize.rewardAmount multiplier) := by
  unfold applyScopeConstraintEnvelope at h
  split at h
  case isTrue hlimit => exact ⟨h, admits_of_unlimited hlimit _⟩
  case isFalse =>
    split at h
    case isTrue => cases h
    case isFalse hdraws =>
      obtain ⟨hwithin, -⟩ := List.mem_filter.mp h
      obtain ⟨hrow, hbudget⟩ := List.mem_filter.mp hwithin
      refine ⟨hrow, ?_, ?_⟩
      · intro maxDrawCount hmax
        by_contra hfull
        exact hdraws ⟨maxDrawCount, hmax, by omega⟩
      · intro budget hmax
        have hunder : ¬limit.overBudget stats
            (scaleRewardAmount row.prize.rewardAmount multiplier) = true := by
          simpa using hbudget
        rw [PrizeEngineConstraintLimit.overBudget, decide_eq_true_iff] at hunder
        by_contra hover
        exact hunder ⟨budget, hmax, not_le.mp hover⟩

theorem prize_of_mem_prizeRows {db : GateTables} {projectId : Nat}
    (h : row ∈ prizeRows db projectId) : db.rows (.engine (.prize row.id)) = some row.prize := by
  obtain ⟨⟨id, weight⟩, -, hrow⟩ := List.mem_filterMap.mp h
  obtain ⟨prize, hprize, hrow⟩ := Option.bind_eq_some_iff.mp hrow
  split at hrow
  · obtain rfl := Option.some.inj hrow
    exact hprize
  · cases hrow

variable {x : GateExecution} {db : GateTables} {project : Project}

theorem mem_of_mem_agentScoped (h : row ∈ x.agentScopedPrizeRows db project) :
    row ∈ prizeRows db x.input.request.projectId ∧
      (x.input.groupScope ≠ none → x.locals.constraintConfig.group.Admits
        x.locals.groupConstraintStats
        (scaleRewardAmount row.prize.rewardAmount x.input.request.rewardMultiplier)) ∧
      x.locals.constraintConfig.agent.Admits x.locals.agentConstraintStats
        (scaleRewardAmount row.prize.rewardAmount x.input.request.rewardMultiplier) := by
  obtain ⟨hgrouped, hagent⟩ := admits_of_mem_scoped h
  have havailable : ∀ row, row ∈ x.availablePrizes db project →
      row ∈ prizeRows db x.input.request.projectId := fun row hrow =>
    (List.mem_filter.mp (List.mem_filter.mp hrow).1).1
  unfold GateExecution.groupScopedPrizeRows at hgrouped
  split at hgrouped
  case isTrue =>
    obtain ⟨hrow, hgroup⟩ := admits_of_mem_scoped hgrouped
    exact ⟨havailable row hrow, fun _ => hgroup, hagent⟩
  case isFalse hnone => exact ⟨havailable row hgrouped, fun hsome => absurd hsome hnone, hagent⟩

theorem passes_of_candidate {prizeId : Nat} {rewardAmount : Int}
    (h : x.envelopedCandidate db project = some (prizeId, rewardAmount)) :
    Passes x.input x.locals rewardAmount := by
  unfold GateExecution.envelopedCandidate at h
  split at h
  case isFalse => cases h
  case isTrue =>
    obtain ⟨hcandidate, hpasses⟩ := Option.filter_eq_some_iff.mp h
    unfold selectedPrizeCandidate at hcandidate
    split at hcandidate
    case h_1 => cases hcandidate
    case h_2 selected hselected =>
      split at hcandidate
      case h_1 => cases hcandidate
      case h_2 prize hprize =>
        split at hcandidate
        case isTrue => cases hcandidate
        case isFalse =>
          obtain ⟨rfl, rfl⟩ := Prod.mk.inj (Option.some.inj hcandidate)
          obtain ⟨-, hany⟩ := Option.filter_eq_some_iff.mp hselected
          obtain ⟨row, hrow, hid⟩ := List.any_eq_true.mp hany
          obtain rfl := of_decide_eq_true hid
          obtain ⟨hmem, hgroup, hagent⟩ := mem_of_mem_agentScoped hrow
          obtain rfl : row.prize = prize :=
            Option.some.inj ((prize_of_mem_prizeRows hmem).symm.trans hprize)
          exact ⟨(of_decide_eq_true hpasses).2.2.2, hgroup, hagent⟩

end Selection

/-! ## What a call knows -/

/-- The limits of a call's scopes. -/
def constraintConfigOf (opening : GateTables) (input : GateInput) : PrizeEngineConstraintConfig :=
  applyPrizeEngineRiskEnvelope (settingsOf opening input.request.projectId).constraints
    input.riskEnvelope

/-- The local variables are those of the tables that the calls began with. -/
structure Known (opening : GateTables) (x : GateExecution) : Prop where
  proper : x.stage.Proper
  project : ∀ project, x.stage.project = some project →
    tenantOf opening x.input.request.projectId = some project.tenantId
  auth : 1 ≤ x.stage.passed → ∃ tenantId account,
    tenantOf opening x.input.request.projectId = some tenantId ∧
      fixedColumns (.billingAccount tenantId) account =
        fixedColumns (.billingAccount tenantId) (opening.rows (.billingAccount tenantId)) ∧
      x.locals.auth = authOf x.input.request.environment tenantId account
  riskEnvelope : 2 ≤ x.stage.passed → ∃ tenantId tenant,
    tenantOf opening x.input.request.projectId = some tenantId ∧
      opening.rows (.tenant tenantId) = some tenant ∧
      resolveEffectiveRiskEnvelope tenant x.input.riskEnvelope =
        .ok x.locals.effectiveRiskEnvelope
  constraintConfig : 2 ≤ x.stage.passed →
    x.locals.constraintConfig = constraintConfigOf opening x.input
  locked : ∀ account, x.locals.billingBudgetAccount = some account → ∃ tenantId,
    tenantOf opening x.input.request.projectId = some tenantId ∧
      fixedColumns (.billingAccount tenantId) (some account) =
        fixedColumns (.billingAccount tenantId) (opening.rows (.billingAccount tenantId))
  checked : 3 ≤ x.stage.passed → x.shouldCheckBillingHardCap = true → ∀ tenantId,
    tenantOf opening x.input.request.projectId = some tenantId →
      opening.rows (.billingAccount tenantId) ≠ none → x.locals.billingBudgetAccount ≠ none
  reward : ∀ rewardAmount, x.stage.reward = some rewardAmount →
    rewardAmount = 0 ∨ Passes x.input x.locals rewardAmount
  throttled : 8 ≤ x.stage.passed →
    x.locals.billingThrottled = x.throttles x.locals.preThrottleDecisionType

section Known

variable {opening db : GateTables} {hashtext : String → Int} {t : Nat} {x : GateExecution}
  {action : GateStatement}

theorem Known.outside (h : Known opening x) {stage : GateStage} (hproper : stage.Proper)
    (hpassed : stage.passed = 0) (hproject : stage.project = none) (hreward : stage.reward = none) :
    Known opening (x.at stage) where
  proper := hproper
  project project hnext := by cases hproject.symm.trans hnext
  auth hgate := absurd hgate (by rw [GateExecution.at, hpassed]; decide)
  riskEnvelope hgate := absurd hgate (by rw [GateExecution.at, hpassed]; decide)
  constraintConfig hgate := absurd hgate (by rw [GateExecution.at, hpassed]; decide)
  locked := h.locked
  checked hgate := absurd hgate (by rw [GateExecution.at, hpassed]; decide)
  reward rewardAmount hnext := by cases hreward.symm.trans hnext
  throttled hgate := absurd hgate (by rw [GateExecution.at, hpassed]; decide)

theorem Known.at (h : Known opening x) {stage : GateStage} (hproper : stage.Proper)
    (hpassed : stage.passed ≤ x.stage.passed)
    (hproject : ∀ project, stage.project = some project →
      tenantOf opening x.input.request.projectId = some project.tenantId)
    (hreward : ∀ rewardAmount, stage.reward = some rewardAmount →
      rewardAmount = 0 ∨ x.stage.reward = some rewardAmount) :
    Known opening (x.at stage) where
  proper := hproper
  project := hproject
  auth hgate := h.auth (hgate.trans hpassed)
  riskEnvelope hgate := h.riskEnvelope (hgate.trans hpassed)
  constraintConfig hgate := h.constraintConfig (hgate.trans hpassed)
  locked := h.locked
  checked hgate := h.checked (hgate.trans hpassed)
  reward rewardAmount hnext := (hreward rewardAmount hnext).elim .inl (h.reward rewardAmount)
  throttled hgate := h.throttled (hgate.trans hpassed)

theorem Known.engine (h : Known opening x) (hfixed : Fixed opening db) {stage : Stage}
    {statement : Statement} (hstage : x.stage = .engine stage)
    (hdoes : Does t x.input.request (engineTables db) stage statement) :
    Known opening (x.lift statement).next := by
  have hproper : (GateStage.engine stage).Proper := hstage ▸ h.proper
  rw [GateExecution.lift_next]
  refine h.at (GateStage.proper_after _) ?_ ?_ ?_
  · rw [hstage]
    exact passed_after hdoes hproper
  · intro project hproject
    rw [GateStage.project_after] at hproject
    rcases hdoes.project hproject with hsame | hloaded
    · exact h.project project (by rw [hstage]; exact hsame)
    · rw [← hfixed.tenantOf]
      exact congrArg (Option.map fun project : Project => project.tenantId)
        (loadProjectState_eq_some hloaded)
  · intro rewardAmount hreward
    rw [GateStage.reward_after] at hreward
    rcases engineReward_next hdoes hreward with hzero | hsame | ⟨project, hselect⟩
    · exact .inl hzero
    · exact .inr (by rw [hstage]; exact hsame)
    · exact absurd (congrArg GateStage.engine hselect) (hproper project)

theorem Known.selected (h : Known opening x) {project : Project}
    (hstage : x.stage = .selectReward project) :
    Known opening (x.set (x.selected db project) (x.settlementStage db project)) := by
  have hproject : tenantOf opening x.input.request.projectId = some project.tenantId :=
    h.project project (by rw [hstage]; rfl)
  have hgate : ∀ n, n ≤ 7 → n ≤ x.stage.passed := fun n hn => by rw [hstage]; exact hn
  have hcases : x.settlementStage db project = .markHardCap project ∨
      x.settlementStage db project = .engine (.settleProject project 0) ∨
      ∃ prizeId rewardAmount, x.envelopedCandidate db project = some (prizeId, rewardAmount) ∧
        x.settlementStage db project =
          .engine (.decrementStock project prizeId rewardAmount) := by
    unfold GateExecution.settlementStage
    split
    · split
      · exact .inl rfl
      · exact .inr (.inl rfl)
    · split
      case h_1 prizeId rewardAmount hcandidate =>
        exact .inr (.inr ⟨prizeId, rewardAmount, hcandidate, rfl⟩)
      case h_2 => exact .inr (.inl rfl)
  refine
    { proper := ?proper, project := ?project, reward := ?reward
      auth := fun _ => h.auth (hgate 1 (by decide))
      riskEnvelope := fun _ => h.riskEnvelope (hgate 2 (by decide))
      constraintConfig := fun _ => h.constraintConfig (hgate 2 (by decide))
      locked := h.locked
      checked := fun _ => h.checked (hgate 3 (by decide))
      throttled := fun _ => rfl }
  case proper =>
    intro other heq
    rcases hcases with hnext | hnext | ⟨prizeId, rewardAmount, -, hnext⟩ <;>
      cases hnext.symm.trans heq
  case project =>
    intro other hother
    have hsame : (x.settlementStage db project).project = some project := by
      rcases hcases with hnext | hnext | ⟨prizeId, rewardAmount, -, hnext⟩ <;> rw [hnext] <;> rfl
    obtain rfl := Option.some.inj (hsame.symm.trans hother)
    exact hproject
  case reward =>
    intro rewardAmount hreward
    rcases hcases with hnext | hnext | ⟨prizeId, selected, hcandidate, hnext⟩
    · exact .inl (Option.some.inj ((congrArg GateStage.reward hnext).symm.trans hreward)).symm
    · exact .inl (Option.some.inj ((congrArg GateStage.reward hnext).symm.trans hreward)).symm
    · obtain rfl : selected = rewardAmount :=
        Option.some.inj ((congrArg GateStage.reward hnext).symm.trans hreward)
      have hpasses := passes_of_candidate hcandidate
      exact .inr ⟨hpasses.dailyBudget, hpasses.group, hpasses.agent⟩

theorem Known.load (h : Known opening x) {locals : Locals} {stage : GateStage} {project : Project}
    (hgate : 2 ≤ x.stage.passed) (hproject : x.stage.project = some project)
    (hauth : locals.auth = x.locals.auth)
    (hriskEnvelope : locals.effectiveRiskEnvelope = x.locals.effectiveRiskEnvelope)
    (hconfig : locals.constraintConfig = x.locals.constraintConfig)
    (haccount : locals.billingBudgetAccount = x.locals.billingBudgetAccount)
    (hproper : stage.Proper) (hsame : stage.project = some project) (hreward : stage.reward = none)
    (hbound : stage.passed < 8)
    (hchecked : 3 ≤ stage.passed → x.shouldCheckBillingHardCap = true → 3 ≤ x.stage.passed ∨
      opening.rows (.billingAccount project.tenantId) = none) :
    Known opening (x.set locals stage) where
  proper := hproper
  project other hother := by
    obtain rfl := Option.some.inj (hsame.symm.trans hother)
    exact h.project project hproject
  auth _ := by
    obtain ⟨tenantId, account, htenant, hfixed, heq⟩ := h.auth (by omega)
    exact ⟨tenantId, account, htenant, hfixed, hauth.trans heq⟩
  riskEnvelope _ := by
    obtain ⟨tenantId, tenant, htenant, hrow, heq⟩ := h.riskEnvelope hgate
    exact ⟨tenantId, tenant, htenant, hrow, heq.trans (congrArg _ hriskEnvelope.symm)⟩
  constraintConfig _ := hconfig.trans (h.constraintConfig hgate)
  locked account hlocked := h.locked account (haccount.symm.trans hlocked)
  checked hnext hcheck tenantId htenant hrow := by
    have hcheck' : x.shouldCheckBillingHardCap = true := by
      simpa [GateExecution.shouldCheckBillingHardCap, GateExecution.set, hauth] using hcheck
    have hbefore : 3 ≤ x.stage.passed := by
      refine (hchecked hnext hcheck').resolve_right fun hnone => hrow ?_
      obtain rfl := Option.some.inj (htenant.symm.trans (h.project project hproject))
      exact hnone
    exact haccount.symm ▸ h.checked hbefore hcheck' tenantId htenant hrow
  reward rewardAmount hnext := by cases hreward.symm.trans hnext
  throttled hnext := absurd hnext (not_le.mpr hbound)

theorem Known.next (h : Known opening x) (hfixed : Fixed opening db)
    (hdoes : GateDoes hashtext t x db x.stage action) : Known opening action.next := by
  generalize hstage : x.stage = stage at hdoes
  have hpassed : x.stage.passed = stage.passed := by rw [hstage]
  have hproject : ∀ project, stage.project = some project →
      tenantOf opening x.input.request.projectId = some project.tenantId :=
    fun project hstage' => h.project project (by rw [hstage]; exact hstage')
  have hreward : ∀ rewardAmount, stage.reward = some rewardAmount →
      x.stage.reward = some rewardAmount := fun _ hstage' => by rw [hstage]; exact hstage'
  cases hdoes with
  | throws | rejects => exact h.outside (fun _ h => by cases h) rfl rfl rfl
  | engine hengine => exact h.engine hfixed hstage hengine
  | @authenticated project hrow =>
      have htenant : tenantOf opening x.input.request.projectId = some project.tenantId := by
        rw [← hfixed.tenantOf]
        exact congrArg (Option.map fun project : Project => project.tenantId) hrow
      exact
        { proper := fun _ h => by cases h
          project := fun _ h => by cases h
          auth := fun _ => ⟨project.tenantId, _, htenant, hfixed _, rfl⟩
          riskEnvelope := fun h => absurd h (by decide : ¬2 ≤ 1)
          constraintConfig := fun h => absurd h (by decide : ¬2 ≤ 1)
          locked := h.locked
          checked := fun h => absurd h (by decide : ¬3 ≤ 1)
          reward := fun _ h => by cases h
          throttled := fun h => absurd h (by decide : ¬8 ≤ 1) }
  | @tenantLoaded project tenant riskEnvelope htenant hriskEnvelope =>
      have hauth := h.auth (hpassed.ge.trans' (by decide : 1 ≤ 1))
      exact
        { proper := fun _ h => by cases h
          project := hproject
          auth := fun _ => hauth
          riskEnvelope := fun _ => ⟨project.tenantId, tenant, hproject project rfl,
            (hfixed.tenant _).symm.trans htenant, hriskEnvelope⟩
          constraintConfig := fun _ => by
            simp only [GateExecution.set, constraintConfigOf, hfixed.settingsOf, Action.next]
          locked := h.locked
          checked := fun h => absurd h (by decide : ¬3 ≤ 2)
          reward := fun _ h => by cases h
          throttled := fun h => absurd h (by decide : ¬8 ≤ 2) }
  | dailyPayoutLoaded project =>
      show Known opening (x.set _ _)
      split
      case isTrue =>
        exact h.load hpassed.ge (by rw [hstage]; rfl) rfl rfl rfl rfl (fun _ h => by cases h) rfl
          rfl (by simp) fun h _ => absurd h (by simp)
      case isFalse hcheck =>
        exact h.load hpassed.ge (by rw [hstage]; rfl) rfl rfl rfl rfl (fun _ h => by cases h) rfl
          rfl (by simp) fun _ h => absurd h hcheck
  | accountMissing project hmissing =>
      refine h.load hpassed.ge (by rw [hstage]; rfl) rfl rfl rfl rfl (fun _ h => by cases h) rfl
        rfl (by simp) fun _ _ => .inr ?_
      have hcolumns := hfixed (.billingAccount project.tenantId)
      rw [hmissing] at hcolumns
      exact Option.map_eq_none_iff.mp (FixedColumns.billingAccount.inj hcolumns).symm
  | @accountLocked project account haccount =>
      have hauth := h.auth (hpassed.ge.trans' (by decide : 1 ≤ 2))
      have hcolumns := hfixed (.billingAccount project.tenantId)
      rw [haccount] at hcolumns
      exact
        { proper := fun _ h => by cases h
          project := hproject
          auth := fun _ => hauth
          riskEnvelope := fun _ => h.riskEnvelope hpassed.ge
          constraintConfig := fun _ => h.constraintConfig hpassed.ge
          locked := fun other hother =>
            ⟨project.tenantId, hproject project rfl, Option.some.inj hother ▸ hcolumns⟩
          checked := fun _ _ _ _ _ h => by cases h
          reward := fun _ h => by cases h
          throttled := fun h => absurd h (by decide : ¬8 ≤ 3) }
  | monthlyUsageLoaded project | groupLocked project | groupUnlimited project
  | agentLocked project | agentUnlimited project | groupStatsLoaded project
  | agentStatsLoaded project =>
      exact h.load (hpassed.ge.trans' (by simp)) (by rw [hstage]; rfl) rfl rfl rfl rfl
        (fun _ h => by cases h) rfl rfl (by simp) fun _ _ => .inl (hpassed.ge.trans' (by simp))
  | rewardSelected project => exact h.selected hstage
  | hardCapMarked project | hardCapUnmarked project =>
      exact h.at (fun _ h => by cases h) hpassed.ge hproject fun _ h => .inl (Option.some.inj h).symm
  | usageRecorded response | usageCommitted response =>
      exact h.at (fun _ h => by cases h) hpassed.ge hproject fun _ h => .inr (hreward _ h)

end Known

end RewardSystem.PrizeEngine.Gates
