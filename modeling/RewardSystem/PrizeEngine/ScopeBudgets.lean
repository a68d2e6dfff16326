import RewardSystem.PrizeEngine.GateSessions

/-!
# The limits of a group and of an agent

A call holds the advisory lock of its scope from before it reads the draws of the scope until its own
draw is committed. So the draws it has read are the draws there are.
-/

namespace RewardSystem.PrizeEngine.Gates

open ReadCommitted

/-! ## Scopes of a call -/

def PrizeEngineConstraintConfig.limitOf (config : PrizeEngineConstraintConfig) :
    Scope → PrizeEngineConstraintLimit
  | .group _ _ _ => config.group
  | .agent _ _ _ => config.agent

def Locals.statsOf (locals : Locals) : Scope → PrizeEngineConstraintStats
  | .group _ _ _ => locals.groupConstraintStats
  | .agent _ _ _ => locals.agentConstraintStats

def GateInput.InScope (input : GateInput) (scope : Scope) : Prop :=
  input.groupScope = some scope ∨ input.agentScope = scope

instance (input : GateInput) (scope : Scope) : Decidable (input.InScope scope) :=
  inferInstanceAs (Decidable (_ ∨ _))

def LocksScope (opening : GateTables) (scope : Scope) (input : GateInput) : Prop :=
  input.InScope scope →
    hasPrizeEngineConstraintLimit ((constraintConfigOf opening input).limitOf scope) = true

instance (opening : GateTables) (scope : Scope) (input : GateInput) :
    Decidable (LocksScope opening scope input) :=
  inferInstanceAs (Decidable (_ → _))

namespace Scope

/-- The number of gates that a call has passed with the lock of the scope. -/
@[simp]
def gate : Scope → Nat
  | .group _ _ _ => 4
  | .agent _ _ _ => 5

theorem three_lt_gate (scope : Scope) : 3 < scope.gate := by
  cases scope <;> simp

theorem covers_recordOf {scope : Scope} {input : GateInput} {response : RewardResponse} :
    scope.covers (recordOf input.request response) = true ↔ input.InScope scope := by
  cases scope with
  | group projectId environment groupId =>
      cases hgroup : input.request.groupId with
      | none => simp [covers, recordOf, GateInput.InScope, GateInput.groupScope,
          GateInput.agentScope, hgroup]
      | some own => simp [covers, recordOf, GateInput.InScope, GateInput.groupScope,
          GateInput.agentScope, hgroup]
  | agent projectId environment agentId =>
      have hscope : input.InScope (.agent projectId environment agentId) ↔
          input.request.projectId = projectId ∧ input.request.environment = environment ∧
            input.request.agentScopeId = agentId := by
        simp [GateInput.InScope, GateInput.groupScope, GateInput.agentScope]
      rw [hscope, covers, decide_eq_true_iff, recordOf_projectId, recordOf_environment,
        recordOf_agentId]

end Scope

/-- The reward is not committed yet, or there is none. -/
def GateStage.isOpen : GateStage → Bool
  | .engine (.storeSnapshot _) | .recordUsage _ | .commitUsage _ => false
  | _ => true

/-! ## What a session knows of a scope -/

/-- A session that has locked the scope, and read its draws, has the draws there are. -/
structure Guards (hashtext : String → Int) (opening : GateTables) (scope : Scope) (db : GateTables)
    (s : Session GateRow GateEntry GateExecution) : Prop where
  informed : Informed opening s
  locksScope : LocksScope opening scope s.state.input
  locked : s.state.stage.isOpen = true → scope.gate ≤ s.state.stage.passed →
    s.state.input.InScope scope → s.writes (scope.lockKey hashtext) ≠ none
  stats : s.state.stage.isOpen = true → scope.gate + 2 ≤ s.state.stage.passed →
    s.state.input.InScope scope →
    s.state.locals.statsOf scope = loadConstraintStats scope
      s.state.locals.constraintConfig.evaluationWindowSeconds s.state.input.startedAt db.log

section Steps

variable {hashtext : String → Int} {opening db : GateTables} {scope : Scope} {t : Nat}
  {s : Session GateRow GateEntry GateExecution} {action : GateStatement}

theorem engine_open {input : RewardInput} {tables : Tables} {stage : Stage} {statement : Statement}
    (h : Does t input tables stage statement) (hcommit : ∀ next, statement ≠ .commit next)
    (hpassed : 0 < (GateStage.after statement.next.stage).passed) :
    (GateStage.engine stage).isOpen = true := by
  cases h
  case recordCommitted => exact absurd rfl (hcommit _)
  case snapshotStored => exact absurd hpassed (Nat.lt_irrefl 0)
  case throws => exact absurd hpassed (Nat.lt_irrefl 0)
  all_goals rfl

theorem lift_ends {x : GateExecution} {tables : Tables} {stage : Stage} {statement : Statement}
    {next : GateExecution} (h : Does t x.input.request tables stage statement)
    (hends : x.lift statement = .commit next ∨ x.lift statement = .rollback next) :
    next.stage.isOpen = false ∨ next.stage.passed = 0 := by
  cases h
  case recordCommitted | replayCommitted | snapshotCommitted | throws =>
    rcases hends with hends | hends <;> cases hends
    all_goals first
      | exact .inl rfl
      | exact .inr rfl
  all_goals rcases hends with hends | hends <;> cases hends

theorem writes_after {key : GateKey} (h : s.writes key ≠ none)
    (hcommit : ∀ next, action ≠ .commit next) (hrollback : ∀ next, action ≠ .rollback next) :
    (s.after action).writes key ≠ none := by
  cases action with
  | commit next => exact absurd rfl (hcommit next)
  | rollback next => exact absurd rfl (hrollback next)
  | goto next | insert entry next => exact h
  | write key' row next =>
      by_cases hkey : key = key'
      · subst hkey
        simp [Session.after]
      · simpa [Session.after, hkey] using h

theorem Guards.step_locked (h : Guards hashtext opening scope db s)
    (hdoes : GateDoes hashtext t s.state (s.view db) s.state.stage action)
    (hopen : action.next.stage.isOpen = true) (hgate : scope.gate ≤ action.next.stage.passed)
    (hscope : action.next.input.InScope scope) :
    (s.after action).writes (scope.lockKey hashtext) ≠ none := by
  have hscope' : s.state.input.InScope scope := hdoes.input ▸ hscope
  have hlimit := h.locksScope hscope'
  generalize hstage : s.state.stage = stage at hdoes
  -- Past the two locks a session keeps what it has locked.
  have hkeep : scope.gate ≤ s.state.stage.passed → s.state.stage.isOpen = true →
      (∀ next, action ≠ .commit next) → (∀ next, action ≠ .rollback next) →
      (s.after action).writes (scope.lockKey hashtext) ≠ none :=
    fun hbefore hopenBefore => writes_after (h.locked hopenBefore hbefore hscope')
  have hconfig : 2 ≤ s.state.stage.passed →
      s.state.locals.constraintConfig = constraintConfigOf opening s.state.input :=
    h.informed.known.constraintConfig
  have hlow : ¬scope.gate ≤ 3 := not_le.mpr scope.three_lt_gate
  cases hdoes with
  | throws | rejects => exact absurd (hgate.trans (Nat.zero_le 3)) hlow
  | @engine stage statement hengine =>
      have hproper : (GateStage.engine stage).Proper := hstage ▸ h.informed.known.proper
      have hpositive : 0 < (s.state.lift statement).next.stage.passed :=
        lt_of_lt_of_le (by cases scope <;> simp) hgate
      have hends : ∀ next, (s.state.lift statement = .commit next ∨
          s.state.lift statement = .rollback next) → False := by
        intro next hends
        have hnext : (s.state.lift statement).next = next := by
          rcases hends with hends | hends <;> rw [hends] <;> rfl
        rw [hnext] at hopen hpositive
        rcases lift_ends hengine hends with hclosed | hzero
        · simp [hclosed] at hopen
        · omega
      refine hkeep ?_ ?_ (fun next heq => hends next (.inl heq))
        fun next heq => hends next (.inr heq)
      · rw [GateExecution.lift_next] at hgate
        exact hstage ▸ hgate.trans (passed_after hengine hproper)
      · rw [hstage]
        rw [GateExecution.lift_next] at hpositive
        refine engine_open hengine (fun next heq => ?_) hpositive
        exact hends (s.state.at (.after next.stage)) (.inl (by rw [heq]; rfl))
  | authenticated | tenantLoaded | accountMissing | accountLocked | monthlyUsageLoaded =>
      exact absurd (hgate.trans (by simp [Action.next, GateExecution.set, GateExecution.at])) hlow
  | dailyPayoutLoaded =>
      simp only [Action.next, GateExecution.set] at hgate
      split at hgate
      · exact absurd (hgate.trans (by simp)) hlow
      · exact absurd hgate hlow
  | @groupLocked project group hgroup =>
      cases scope with
      | group projectId environment groupId =>
          obtain rfl := Option.some.inj (hgroup.symm.trans (hscope'.resolve_right fun h => by cases h))
          simp [Session.after]
      | agent projectId environment agentId => exact absurd hgate (by decide : ¬5 ≤ 4)
  | groupUnlimited project hfree =>
      cases scope with
      | group projectId environment groupId =>
          rcases hfree with hnone | hfree
          · exact absurd (hscope'.resolve_right fun h => by cases h) (by simp [hnone])
          · rw [hconfig (by rw [hstage]; simp)] at hfree
            exact absurd (hlimit.symm.trans hfree) (by decide)
      | agent projectId environment agentId => exact absurd hgate (by decide : ¬5 ≤ 4)
  | agentLocked project =>
      cases scope with
      | group projectId environment groupId =>
          exact hkeep (by rw [hstage]; simp) (by rw [hstage]; rfl) (fun _ h => by cases h)
            fun _ h => by cases h
      | agent projectId environment agentId =>
          have hagent := hscope'.resolve_left (by
            cases hgroup : s.state.input.request.groupId <;> simp [GateInput.groupScope, hgroup])
          rw [hagent]
          simp [Session.after]
  | agentUnlimited project hfree =>
      cases scope with
      | group projectId environment groupId =>
          exact hkeep (by rw [hstage]; simp) (by rw [hstage]; rfl) (fun _ h => by cases h)
            fun _ h => by cases h
      | agent projectId environment agentId =>
          rw [hconfig (by rw [hstage]; simp)] at hfree
          exact absurd (hlimit.symm.trans hfree) (by decide)
  | groupStatsLoaded | agentStatsLoaded | rewardSelected | hardCapMarked | hardCapUnmarked =>
      refine hkeep ?_ (by rw [hstage]; rfl) (fun _ h => by cases h) fun _ h => by cases h
      rw [hstage]
      cases scope <;> simp
  | usageRecorded | usageCommitted => cases hopen

theorem Guards.step_stats (h : Guards hashtext opening scope db s)
    (hdoes : GateDoes hashtext t s.state (s.view db) s.state.stage action)
    (hopen : action.next.stage.isOpen = true) (hgate : scope.gate + 2 ≤ action.next.stage.passed)
    (hscope : action.next.input.InScope scope) :
    action.next.locals.statsOf scope = loadConstraintStats scope
      action.next.locals.constraintConfig.evaluationWindowSeconds action.next.input.startedAt
      (action.database db s).log := by
  have hscope' : s.state.input.InScope scope := hdoes.input ▸ hscope
  have hlimit := h.locksScope hscope'
  have hlog : s.inserts = s.state.inserts := h.informed.inserts
  generalize hstage : s.state.stage = stage at hdoes
  have hkept : scope.gate + 2 ≤ s.state.stage.passed → s.state.stage.isOpen = true →
      s.state.locals.statsOf scope = loadConstraintStats scope
        s.state.locals.constraintConfig.evaluationWindowSeconds s.state.input.startedAt db.log :=
    fun hbefore hopenBefore => h.stats hopenBefore hbefore hscope'
  have hlow : ¬scope.gate + 2 ≤ 5 := by
    have hgates := scope.three_lt_gate
    omega
  cases hdoes with
  | throws | rejects => exact absurd (hgate.trans (Nat.zero_le 5)) hlow
  | @engine stage statement hengine =>
      have hproper : (GateStage.engine stage).Proper := hstage ▸ h.informed.known.proper
      have hpositive : 0 < (s.state.lift statement).next.stage.passed :=
        lt_of_lt_of_le (by omega) hgate
      have hcommit : ∀ next, s.state.lift statement ≠ .commit next := by
        intro next heq
        have hnext : (s.state.lift statement).next = next := by rw [heq]; rfl
        rw [hnext] at hopen hpositive
        rcases lift_ends hengine (.inl heq) with hclosed | hzero
        · simp [hclosed] at hopen
        · omega
      have hdb : (s.state.lift statement).database db s = db := by
        cases hlift : s.state.lift statement with
        | commit next => exact absurd hlift (hcommit next)
        | _ => rfl
      rw [hdb, GateExecution.lift_next]
      rw [GateExecution.lift_next] at hgate hpositive
      refine hkept ?_ ?_
      · exact hstage ▸ hgate.trans (passed_after hengine hproper)
      · rw [hstage]
        refine engine_open hengine (fun next heq => ?_) hpositive
        exact hcommit (s.state.at (.after next.stage)) (by rw [heq]; rfl)
  | authenticated | tenantLoaded | accountMissing | accountLocked | monthlyUsageLoaded
  | groupLocked | groupUnlimited | agentLocked | agentUnlimited =>
      exact absurd (hgate.trans (by simp [Action.next, GateExecution.set, GateExecution.at])) hlow
  | dailyPayoutLoaded =>
      simp only [Action.next, GateExecution.set] at hgate
      split at hgate
      · exact absurd (hgate.trans (by simp)) hlow
      · exact absurd (hgate.trans (by simp)) hlow
  | groupStatsLoaded project =>
      have hnone : s.inserts = [] := by
        rw [hlog, GateExecution.inserts, hstage]
      cases scope with
      | group projectId environment groupId =>
          have hgroup := hscope'.resolve_right fun h => by cases h
          simp [GateExecution.set, Locals.statsOf, hgroup, Session.view, hnone, Action.database,
            Action.next]
      | agent projectId environment agentId => exact absurd hgate (by decide : ¬7 ≤ 6)
  | agentStatsLoaded project =>
      have hnone : s.inserts = [] := by
        rw [hlog, GateExecution.inserts, hstage]
      cases scope with
      | group projectId environment groupId =>
          simpa only [Action.next, GateExecution.set, Locals.statsOf, Action.database] using
            hkept (by rw [hstage]; simp) (by rw [hstage]; rfl)
      | agent projectId environment agentId =>
          have hagent := hscope'.resolve_left (by
            cases hgroup : s.state.input.request.groupId <;> simp [GateInput.groupScope, hgroup])
          have hlimited : hasPrizeEngineConstraintLimit
              s.state.locals.constraintConfig.agent = true := by
            rw [h.informed.known.constraintConfig (by rw [hstage]; simp)]
            exact hlimit
          simp [GateExecution.set, Locals.statsOf, hagent, hlimited, Session.view, hnone,
            Action.database, Action.next]
  | rewardSelected | hardCapMarked | hardCapUnmarked =>
      refine hkept ?_ (by rw [hstage]; rfl)
      rw [hstage]
      cases scope <;> simp
  | usageRecorded | usageCommitted => cases hopen

end Steps

/-! ## The draws of a scope -/

section Draws

variable {hashtext : String → Int} {opening db : GateTables} {scope : Scope}
  {s s' : Session GateRow GateEntry GateExecution} {windowSeconds now : Nat}
  {log entries : List GateEntry}

theorem windowRecords_append :
    scope.windowRecords windowSeconds now (log ++ entries) =
      scope.windowRecords windowSeconds now log ++
        scope.windowRecords windowSeconds now entries := by
  simp only [Scope.windowRecords, drawRecords, List.filterMap_append, List.filter_append]

theorem windowRecords_inserts (x : GateExecution) :
    scope.windowRecords windowSeconds now x.inserts = [] ∨
      ∃ response, x.stage = .engine (.commitRecord response) ∧ x.input.InScope scope := by
  unfold GateExecution.inserts
  split
  case h_1 response hstage =>
    by_cases hscope : x.input.InScope scope
    · exact .inr ⟨response, hstage, hscope⟩
    · left
      apply List.filter_eq_nil_iff.mpr
      intro settled hsettled
      obtain rfl := List.mem_singleton.mp hsettled
      simp only [decide_eq_true_eq, not_and]
      intro hcovers
      exact absurd (Scope.covers_recordOf.mp hcovers) hscope
  all_goals exact .inl rfl

theorem Guards.others (h : Guards hashtext opening scope db s)
    (h' : Guards hashtext opening scope db s') (hapart : s.Apart s')
    (hopen : s.state.stage.isOpen = true) (hgate : scope.gate ≤ s.state.stage.passed)
    (hscope : s.state.input.InScope scope) :
    scope.windowRecords windowSeconds now (s'.publish db).log =
      scope.windowRecords windowSeconds now db.log := by
  have hnone : scope.windowRecords windowSeconds now s'.state.inserts = [] := by
    rcases windowRecords_inserts s'.state with hnone | ⟨response, hstage, hscope'⟩
    · exact hnone
    · have hlocked := h.locked hopen hgate hscope
      have hlocked' : s'.writes (scope.lockKey hashtext) ≠ none := by
        refine h'.locked (by rw [hstage]; rfl) ?_ hscope'
        rw [hstage]
        cases scope <;> simp
      rcases hapart (scope.lockKey hashtext) with hfree | hfree
      · exact absurd hfree hlocked
      · exact absurd hfree hlocked'
  calc
    scope.windowRecords windowSeconds now (s'.publish db).log =
        scope.windowRecords windowSeconds now (db.log ++ s'.state.inserts) := by
      rw [Session.publish, Session.view, h'.informed.inserts]
    _ = scope.windowRecords windowSeconds now db.log := by
      rw [windowRecords_append, hnone, List.append_nil]

end Draws

def scopeAssertions (hashtext : String → Int) (opening : GateTables) (scope : Scope) :
    Assertions Nat GateRow GateEntry GateExecution where
  shared := Fixed opening
  unused _ _ := True
  own db _ s := Guards hashtext opening scope db s

theorem scope_kept (hashtext : String → Int) (opening : GateTables) (scope : Scope) :
    Kept (gatedEngine hashtext) (LocksScope opening scope)
      (scopeAssertions hashtext opening scope) where
  begins db t input hlocks _ _ :=
    { informed := informed_start opening input
      locksScope := hlocks
      locked := fun _ (hgate : scope.gate ≤ 0) =>
        absurd hgate (by have := scope.three_lt_gate; omega)
      stats := fun _ (hgate : scope.gate + 2 ≤ 0) => absurd hgate (by omega) }
  steps db t s action hfixed h hexec := by
    have hdoes := GateExecution.exec_does hexec
    refine ⟨?_, h.informed.next hfixed hexec, ?_, ?_, ?_⟩
    · cases action with
      | commit next => exact hfixed.view h.informed.writes
      | _ => exact hfixed
    · rw [Session.after_state]
      exact hdoes.input ▸ h.locksScope
    · rw [Session.after_state]
      exact h.step_locked hdoes
    · rw [Session.after_state]
      exact h.step_stats hdoes
  others db t t' s s' next hne hfixed h h' hapart hexec :=
    { informed := h.informed
      locksScope := h.locksScope
      locked := h.locked
      stats := by
        intro hopen hgate hscope
        rw [h.stats hopen hgate hscope]
        unfold loadConstraintStats
        rw [h.others h' hapart hopen (by omega) hscope] }
  waiting _ _ _ _ _ _ _ _ _ _ := trivial

/-! ## Limits of a scope -/

def windowRewards (scope : Scope) (windowSeconds now : Nat) (log : List GateEntry) : Int :=
  ((scope.windowRecords windowSeconds now log).map fun settled => settled.record.rewardAmount).sum

/-- A draw keeps the limit over the window that ends with it: it pays nothing once the window has
`maxDrawCount` draws, and it leaves rewards within the budget, if it pays or they have been. -/
structure KeepsLimit (scope : Scope) (limit : PrizeEngineConstraintLimit) (windowSeconds : Nat)
    (settled : SettledRecord) (before after : List GateEntry) : Prop where
  drawCount : ∀ maxDrawCount ∈ limit.maxDrawCount, 0 < settled.record.rewardAmount →
    (scope.windowRecords windowSeconds settled.createdAt before).length < maxDrawCount
  budget : ∀ budget ∈ limit.maxRewardBudget,
    0 < settled.record.rewardAmount ∨
        (windowRewards scope windowSeconds settled.createdAt before : ℚ) ≤ budget →
      (windowRewards scope windowSeconds settled.createdAt after : ℚ) ≤ budget

def newRecords (before after : GateTables) : List SettledRecord :=
  drawRecords (after.log.drop before.log.length)

def KeepsScopeLimits (opening : GateTables) (scope : Scope)
    (e : Transition.Event (System Nat GateRow GateEntry GateExecution) (Label Nat GateInput)) :
    Prop :=
  ∀ settled ∈ newRecords e.before.committed e.after.committed,
    scope.covers settled.record = true → ∃ t s,
      e.label = .statement t ∧ e.before.slots t = .running s ∧ s.state.input.InScope scope ∧
      KeepsLimit scope ((constraintConfigOf opening s.state.input).limitOf scope)
        (constraintConfigOf opening s.state.input).evaluationWindowSeconds settled
        e.before.committed.log e.after.committed.log

section Limits

variable {hashtext : String → Int} {opening db : GateTables} {scope : Scope}
  {s : Session GateRow GateEntry GateExecution} {response : RewardResponse}

theorem admits_of_scope {input : GateInput} {locals : Locals} {rewardAmount : Int}
    (h : Passes input locals rewardAmount) (hscope : input.InScope scope) :
    (locals.constraintConfig.limitOf scope).Admits (locals.statsOf scope) rewardAmount := by
  cases scope with
  | group projectId environment groupId =>
      have hgroup := hscope.resolve_right fun h => by cases h
      exact h.group (by simp [hgroup])
  | agent projectId environment agentId => exact h.agent

theorem Guards.keepsLimit (h : Guards hashtext opening scope db s)
    (hstage : s.state.stage = .engine (.commitRecord response))
    (hscope : s.state.input.InScope scope) :
    KeepsLimit scope ((constraintConfigOf opening s.state.input).limitOf scope)
      (constraintConfigOf opening s.state.input).evaluationWindowSeconds
      (s.state.settledRecord response) db.log (s.publish db).log := by
  have hconfig := h.informed.known.constraintConfig (by rw [hstage]; simp)
  have hstats := h.stats (by rw [hstage]; rfl) (by rw [hstage]; cases scope <;> simp) hscope
  rw [← hconfig]
  set windowSeconds := s.state.locals.constraintConfig.evaluationWindowSeconds
  set limit := s.state.locals.constraintConfig.limitOf scope
  have hadmits : 0 < response.rewardAmount →
      limit.Admits (s.state.locals.statsOf scope) response.rewardAmount := by
    intro hpositive
    have hpasses := h.informed.known.reward response.rewardAmount (by rw [hstage]; rfl)
    exact admits_of_scope (hpasses.resolve_left (by omega)) hscope
  have hadded : windowRewards scope windowSeconds s.state.input.startedAt (s.publish db).log =
      windowRewards scope windowSeconds s.state.input.startedAt db.log +
        response.rewardAmount := by
    have hown : scope.windowRecords windowSeconds s.state.input.startedAt s.state.inserts =
        [s.state.settledRecord response] := by
      simp only [GateExecution.inserts, hstage]
      refine List.filter_eq_self.mpr fun settled hsettled => ?_
      obtain rfl := List.mem_singleton.mp hsettled
      exact decide_eq_true ⟨Scope.covers_recordOf.mpr hscope, Nat.le_add_right _ _⟩
    unfold windowRewards
    rw [Session.publish, Session.view, h.informed.inserts, windowRecords_append, hown]
    simp [GateExecution.settledRecord, recordOf]
  rw [hstats] at hadmits
  constructor
  case drawCount =>
    intro maxDrawCount hmax hpositive
    exact (hadmits hpositive).1 maxDrawCount hmax
  case budget =>
    intro budget hbudget hbefore
    show (windowRewards scope windowSeconds s.state.input.startedAt (s.publish db).log : ℚ) ≤ budget
    rw [hadded]
    by_cases hpositive : 0 < response.rewardAmount
    · exact (hadmits hpositive).2 budget hbudget
    · have hunpaid : (response.rewardAmount : ℚ) ≤ 0 := by exact_mod_cast not_lt.mp hpositive
      have hwithin := hbefore.resolve_left hpositive
      push_cast
      exact (add_le_of_nonpos_right hunpaid).trans hwithin

end Limits

/-- Every draw of a scope whose calls all take its lock keeps the limits of its call. -/
theorem scope_limits_kept {hashtext : String → Int} {opening : GateTables} {scope : Scope}
    {sys : System Nat GateRow GateEntry GateExecution}
    {events : List (Transition.Event (System Nat GateRow GateEntry GateExecution)
      (Label Nat GateInput))}
    (hrun : Transition.Run (Steps (gatedEngine hashtext)) (System.idle opening) events sys)
    (hlocks : ∀ e ∈ events, ∀ t input, e.label = .begin t input →
      LocksScope opening scope input) :
    ∀ e ∈ events, KeepsScopeLimits opening scope e := by
  intro e he settled hsettled hcovers
  have hholds := (((scope_kept hashtext opening scope).holds_run hrun
    (holds_idle (fun _ => rfl) fun _ => trivial) hlocks).1 e he).1
  rcases committed_cases (Transition.Run.step_of_mem hrun he) with
    hsame | ⟨t, s, next, hlabel, hslot, -, hcommitted⟩
  · rw [newRecords, hsame, List.drop_length] at hsettled
    cases hsettled
  · have hguards : Guards hashtext opening scope e.before.committed s := hholds.own t s hslot
    have hnew : newRecords e.before.committed e.after.committed =
        drawRecords s.state.inserts := by
      rw [newRecords, hcommitted, Session.publish, Session.view, hguards.informed.inserts]
      simp
    rw [hnew] at hsettled
    unfold GateExecution.inserts at hsettled
    split at hsettled
    case h_1 response hstage =>
      obtain rfl := List.mem_singleton.mp hsettled
      have hscope : s.state.input.InScope scope := Scope.covers_recordOf.mp hcovers
      rw [hcommitted]
      exact ⟨t, s, hlabel, hslot, hscope, hguards.keepsLimit hstage hscope⟩
    all_goals cases hsettled

def groupBudget : GateTables :=
  twoProjects .sandbox ⟨none, none, none, false⟩ none ⟨3600, ⟨some 5, some 1500, none⟩, unlimited⟩

def locksGroup : Label Nat GateInput → Bool
  | .begin _ input => decide (LocksScope groupBudget (.group 1 .sandbox "group") input)
  | _ => true

/-- Two calls of a group: the second waits for the lock of the first, and settles no reward. -/
theorem scope_limits_kept_group : ∃ events sys,
    Transition.Run (Steps (gatedEngine fun _ => 0)) (System.idle groupBudget) events sys ∧
      (drawRecords sys.committed.log).map (·.record.rewardAmount) = [1000, 0] ∧
      ∀ e ∈ events, KeepsScopeLimits groupBudget (.group 1 .sandbox "group") e := by
  obtain ⟨events, sys, hrun, hcheck⟩ := Transition.Run.exists_of_check
    (machine (gatedEngine fun _ => 0)) (System.idle groupBudget)
    (.begin 1 (prizeCall 1 .sandbox (some "group") 1) ::
      .begin 2 (prizeCall 1 .sandbox (some "group") 2) ::
      (List.replicate 4 (.statement 1) ++ List.replicate 4 (.statement 2) ++
        List.replicate 15 (.statement 1) ++ List.replicate 14 (.statement 2)))
    (fun events sys => (drawRecords sys.committed.log).map (·.record.rewardAmount) = [1000, 0] ∧
      ∀ e ∈ events, locksGroup e.label = true) (by decide +kernel)
  obtain ⟨hrewards, hlocks⟩ := of_decide_eq_true hcheck
  refine ⟨events, sys, hrun, hrewards, scope_limits_kept hrun ?_⟩
  intro e he t input hlabel
  have hlock := hlocks e he
  rw [hlabel] at hlock
  exact of_decide_eq_true hlock

end RewardSystem.PrizeEngine.Gates
