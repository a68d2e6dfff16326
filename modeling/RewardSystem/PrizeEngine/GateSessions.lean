import RewardSystem.PrizeEngine.GateFacts

/-!
# The sessions of the gated engine
-/

namespace RewardSystem.PrizeEngine.Gates

open ReadCommitted

/-! ## What a session has written and inserted -/

/-- The record that a response reports. -/
@[simps]
def recordOf (input : RewardInput) (response : RewardResponse) : DrawRecord where
  id := response.drawRecordId
  projectId := input.projectId
  externalPlayerId := input.externalPlayerId
  environment := input.environment
  agentId := input.agentScopeId
  groupId := input.groupId
  prizeId := response.prizeId
  drawCost := response.drawCost
  rewardAmount := response.rewardAmount
  status := response.status
  idempotencyKey := response.idempotencyKey
  requestFingerprint := input.requestFingerprint

def GateExecution.settledRecord (x : GateExecution) (response : RewardResponse) : SettledRecord where
  record := recordOf x.input.request response
  expectedRewardAmount := x.locals.expectedRewardAmount
  createdAt := x.input.startedAt

/-- What a call has inserted and not committed. -/
def GateExecution.inserts (x : GateExecution) : List GateEntry :=
  match x.stage with
  | .engine (.commitRecord response) => [.drawRecord (x.settledRecord response)]
  | .engine (.commitSnapshot response) =>
      [.responseSnapshot response.drawRecordId response]
  | .commitUsage response => [.usageEvent (x.usageEventOf response)]
  | _ => []

section Statements

variable {opening db : GateTables} {hashtext : String → Int} {t : Nat} {x : GateExecution}
  {action : GateStatement}

theorem engine_write_columns {input : RewardInput} {tables : Tables} {stage : Stage} {key : Key}
    {row : Row key} {next : Execution} (h : Does t input tables stage (.write key row next)) :
    fixedColumns (.engine key) (some row) = fixedColumns (.engine key) (tables.rows key) := by
  cases h
  case winSettled hpool | missSettled hpool =>
    obtain ⟨before, hbefore, -, rfl⟩ := updateProjectState_eq_some hpool
    rw [hbefore]
    rfl
  all_goals rfl

theorem Known.write_columns (h : Known opening x) (hfixed : Fixed opening db)
    (hdoes : GateDoes hashtext t x db x.stage action) {key : GateKey} {row : GateRow key}
    {next : GateExecution} (haction : action = .write key row next) :
    fixedColumns key (some row) = fixedColumns key (opening.rows key) := by
  generalize hstage : x.stage = stage at hdoes
  cases hdoes with
  | @engine stage statement hengine =>
      cases statement with
      | write engineKey engineRow engineNext =>
          cases haction
          exact (engine_write_columns hengine).trans (hfixed (.engine engineKey))
      | insert entry => cases entry <;> cases haction
      | _ => cases haction
  | @accountLocked project account haccount =>
      cases haction
      rw [← haccount]
      exact hfixed _
  | groupLocked | agentLocked =>
      cases haction
      rfl
  | @hardCapMarked project account haccount =>
      cases haction
      obtain ⟨tenantId, htenant, hcolumns⟩ := h.locked account haccount
      obtain rfl := Option.some.inj
        ((h.project project (by rw [hstage]; rfl)).symm.trans htenant)
      exact hcolumns
  | _ => cases haction

theorem inserts_next {s : Session GateRow GateEntry GateExecution}
    (hdoes : GateDoes hashtext t s.state db s.state.stage action)
    (hinserts : s.inserts = s.state.inserts) :
    (s.after action).inserts = action.next.inserts := by
  generalize hstage : s.state.stage = stage at hdoes
  simp only [GateExecution.inserts, hstage] at hinserts
  cases hdoes with
  | engine hengine =>
      cases hengine with
      | recordInserted project prizeId rewardAmount player =>
          simp only [Session.after, hinserts]
          rfl
      | snapshotStored response =>
          simp only [Session.after, hinserts]
          rfl
      | _ => first | exact hinserts | rfl
  | usageRecorded response =>
      simp only [Session.after, hinserts]
      rfl
  | rewardSelected project =>
      have hnext : (GateExecution.set s.state (s.state.selected db project)
          (s.state.settlementStage db project)).inserts = [] := by
        unfold GateExecution.inserts GateExecution.set GateExecution.settlementStage
        dsimp only
        split_ifs
        · rfl
        · rfl
        · cases s.state.envelopedCandidate db project <;> rfl
      exact hinserts.trans hnext.symm
  | dailyPayoutLoaded project =>
      have hnext : ∀ locals, (GateExecution.set s.state locals
          (if s.state.shouldCheckBillingHardCap then GateStage.lockBillingAccount project
            else .lockGroupScope project)).inserts = [] := by
        intro locals
        split_ifs <;> rfl
      exact hinserts.trans (hnext _).symm
  | _ => first | exact hinserts | rfl

end Statements

/-! ## The assertions -/

/-- What is known of a session of the gated engine. -/
structure Informed (opening : GateTables) (s : Session GateRow GateEntry GateExecution) : Prop where
  known : Known opening s.state
  writes : ∀ key row, s.writes key = some row →
    fixedColumns key (some row) = fixedColumns key (opening.rows key)
  inserts : s.inserts = s.state.inserts

section Assertions

variable {opening db : GateTables} {hashtext : String → Int} {t : Nat}
  {s : Session GateRow GateEntry GateExecution} {action : GateStatement}

theorem informed_start (opening : GateTables) (input : GateInput) :
    Informed opening (.fresh ((gatedEngine hashtext).start input)) where
  known :=
    { proper := fun _ h => by cases h
      project := fun _ h => by cases h
      auth := fun h => absurd h (by decide : ¬1 ≤ 0)
      riskEnvelope := fun h => absurd h (by decide : ¬2 ≤ 0)
      constraintConfig := fun h => absurd h (by decide : ¬2 ≤ 0)
      locked := fun _ h => by cases h
      checked := fun h => absurd h (by decide : ¬3 ≤ 0)
      reward := fun _ h => by cases h
      throttled := fun h => absurd h (by decide : ¬8 ≤ 0) }
  writes _ _ h := by cases h
  inserts := rfl

theorem Informed.next (h : Informed opening s) (hfixed : Fixed opening db)
    (hexec : (gatedEngine hashtext).exec t s.state (s.view db) = some action) :
    Informed opening (s.after action) where
  known := by
    rw [Session.after_state]
    exact h.known.next (hfixed.view h.writes) (GateExecution.exec_does hexec)
  writes key row hwritten := by
    cases action with
    | write key' row' next =>
        by_cases hkey : key = key'
        · subst hkey
          obtain rfl : row' = row :=
            Option.some.inj (by simpa [Session.after] using hwritten)
          exact h.known.write_columns (hfixed.view h.writes) (GateExecution.exec_does hexec) rfl
        · exact h.writes key row (by simpa [Session.after, hkey] using hwritten)
    | commit next | rollback next => cases hwritten
    | goto next | insert entry next => exact h.writes key row hwritten
  inserts := by
    rw [Session.after_state]
    exact inserts_next (GateExecution.exec_does hexec) h.inserts

def informedAssertions (opening : GateTables) :
    Assertions Nat GateRow GateEntry GateExecution where
  shared := Fixed opening
  unused _ _ := True
  own _ _ s := Informed opening s

theorem informed_kept (hashtext : String → Int) (opening : GateTables) :
    Kept (gatedEngine hashtext) (fun _ => True) (informedAssertions opening) where
  begins _ _ input _ _ _ := informed_start opening input
  steps db t s action hfixed h hexec := by
    refine ⟨?_, h.next hfixed hexec⟩
    cases action with
    | commit next => exact hfixed.view h.writes
    | _ => exact hfixed
  others _ _ _ _ _ _ _ _ h _ _ _ := h
  waiting _ _ _ _ _ _ _ _ _ _ := trivial

theorem informed_run {opening : GateTables} {sys : System Nat GateRow GateEntry GateExecution}
    {events : List (Transition.Event (System Nat GateRow GateEntry GateExecution)
      (Label Nat GateInput))}
    (hrun : Transition.Run (Steps (gatedEngine hashtext)) (System.idle opening) events sys) :
    (∀ e ∈ events, Holds (informedAssertions opening) e.before ∧
        Holds (informedAssertions opening) e.after) ∧ Holds (informedAssertions opening) sys :=
  (informed_kept hashtext opening).holds_run hrun
    (holds_idle (fun _ => rfl) fun _ => trivial) fun _ _ _ _ _ => trivial

end Assertions

/-! A tenant with two projects, each with a prize of 10.00. -/

def unlimited : PrizeEngineConstraintLimit := ⟨none, none, none⟩

def twoProjects (environment : SaaSEnvironment) (tenant : Tenant) (account : Option BillingAccount)
    (constraints : PrizeEngineConstraintConfig) : GateTables where
  rows
    | .engine (.project 1) | .engine (.project 2) =>
        some ⟨1, environment, .active, 0, 5000⟩
    | .engine (.agent _ _) => some ⟨none, none, none, .active⟩
    | .engine (.player _ _) => some ⟨none, 0, 0, none⟩
    | .engine (.prize 1) => some ⟨1, 5, 1000, true, none⟩
    | .engine (.prize 2) => some ⟨2, 5, 1000, true, none⟩
    | .tenant 1 => some tenant
    | .settings 1 => some ⟨constraints, 0, [(1, 1)]⟩
    | .settings 2 => some ⟨constraints, 0, [(2, 1)]⟩
    | .billingAccount 1 => account
    | _ => none
  log := []

def prizeCall (projectId : Nat) (environment : SaaSEnvironment) (groupId : Option String)
    (now : Nat) : GateInput where
  request :=
    { projectId := projectId
      authAgentId := none
      environment := environment
      externalPlayerId := "player"
      displayName := none
      playerMetadata := none
      agentId := "agent"
      agentGroupId := groupId
      ownerMetadata := none
      fingerprint := none
      rewardMultiplier := 1
      idempotencyKey := ""
      requestFingerprint := ""
      enforceIdempotency := false
      selection := some projectId }
  riskEnvelope := ⟨none, none, none, unlimited, unlimited⟩
  preflightDecision := .allow
  finalDecision := .allow
  startedAt := now
  dayObservedAt := now
  billingObservedAt := now
  recordedAt := now

end RewardSystem.PrizeEngine.Gates
