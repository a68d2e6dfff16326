import RewardSystem.PrizeEngine.GateSessions

/-!
# The hard cap of a billing account

A call compares its fee with the hard cap while it has locked the billing account. The fee is
recorded after the commit that gives the lock back.
-/

namespace RewardSystem.PrizeEngine.Gates

open ReadCommitted

/-- The billable usage of a tenant in the month that begins at `monthStart`. -/
def usageIn (tenantId monthStart : Nat) (events : List UsageEvent) : Int :=
  ((events.filter fun event =>
    event.tenantId = tenantId ∧ event.environment = .live ∧ event.billable = true ∧
      startOfCurrentUtcMonth event.createdAt = monthStart).map (·.amount)).sum

def monthlyUsage (db : GateTables) (tenantId monthStart : Nat) : Int :=
  usageIn tenantId monthStart (usageEvents db.log)

def WithinHardCaps (db : GateTables) : Prop :=
  ∀ tenantId account hardCap, db.rows (.billingAccount tenantId) = some account →
    account.budgetPolicy.hardCap = some hardCap → ∀ monthStart,
      account.baseMonthlyFee + monthlyUsage db tenantId monthStart ≤ hardCap

/-- A fee is recorded while the usage that its call has compared with the hard cap is the usage of the
month it is recorded in, and it is not above the fee that was compared. -/
def UsageSumCurrent (x : GateExecution) (db : GateTables) : Prop :=
  match x.stage with
  | .commitUsage response =>
      (x.usageEventOf response).billable = true →
        monthlyUsage db x.locals.auth.tenantId (startOfCurrentUtcMonth x.input.recordedAt) ≤
            x.locals.currentMonthBillableUsageAmount + (x.usageEventOf response).amount ∧
          (x.usageEventOf response).amount ≤
            x.locals.auth.decisionPricing.of x.locals.preThrottleDecisionType
  | _ => True

instance (x : GateExecution) (db : GateTables) : Decidable (UsageSumCurrent x db) := by
  obtain ⟨_, _, stage⟩ := x
  unfold UsageSumCurrent
  cases stage <;> infer_instance

section Sums

variable {tenantId monthStart : Nat} {events : List UsageEvent} {log entries : List GateEntry}

theorem usageEvents_append :
    usageEvents (log ++ entries) = usageEvents log ++ usageEvents entries :=
  List.filterMap_append

theorem usageEvents_inserts (x : GateExecution) :
    usageEvents x.inserts = [] ∨ ∃ response, x.stage = .commitUsage response ∧
      usageEvents x.inserts = [x.usageEventOf response] := by
  unfold GateExecution.inserts
  split
  case h_3 response hstage => exact .inr ⟨response, hstage, rfl⟩
  all_goals exact .inl rfl

theorem usageIn_append (more : List UsageEvent) :
    usageIn tenantId monthStart (events ++ more) =
      usageIn tenantId monthStart events + usageIn tenantId monthStart more := by
  simp only [usageIn, List.filter_append, List.map_append, List.sum_append]

theorem usageIn_singleton (event : UsageEvent) :
    usageIn tenantId monthStart [event] =
      if event.tenantId = tenantId ∧ event.environment = .live ∧ event.billable = true ∧
          startOfCurrentUtcMonth event.createdAt = monthStart then event.amount
      else 0 := by
  unfold usageIn
  split_ifs with hmonth
  · simp [hmonth]
  · simp [hmonth]

end Sums

section Accounts

variable {opening db : GateTables} {tenantId : Nat} {account : BillingAccount}

theorem account_of_columns (hfixed : Fixed opening db)
    (haccount : db.rows (.billingAccount tenantId) = some account) {row : Option BillingAccount}
    (hcolumns : fixedColumns (.billingAccount tenantId) row =
      fixedColumns (.billingAccount tenantId) (opening.rows (.billingAccount tenantId))) :
    ∃ other, row = some other ∧ other.baseMonthlyFee = account.baseMonthlyFee ∧
      other.budgetPolicy.hardCap = account.budgetPolicy.hardCap := by
  have hsame := hcolumns.trans (hfixed (.billingAccount tenantId)).symm
  rw [haccount] at hsame
  obtain ⟨other, rfl, hpair⟩ :=
    Option.map_eq_some_iff.mp (FixedColumns.billingAccount.inj hsame)
  exact ⟨other, rfl, (Prod.mk.inj hpair).1, (Prod.mk.inj hpair).2⟩

theorem fee_le_hardCap (hfixed : Fixed opening db) {x : GateExecution} (h : Known opening x)
    (hpassed : 8 ≤ x.stage.passed) (hlive : x.input.request.environment = .live)
    (hbilled : x.locals.billingThrottled = false) (htenant : x.locals.auth.tenantId = tenantId)
    (haccount : db.rows (.billingAccount tenantId) = some account) {hardCap : Int}
    (hcap : account.budgetPolicy.hardCap = some hardCap) :
    account.baseMonthlyFee + x.locals.currentMonthBillableUsageAmount +
      x.locals.auth.decisionPricing.of x.locals.preThrottleDecisionType ≤ hardCap := by
  obtain ⟨authTenant, authRow, hproject, hauthColumns, hauth⟩ := h.auth (by omega)
  obtain rfl : authTenant = tenantId := by
    rw [hauth] at htenant
    exact htenant
  -- The tenant had its cap when the call was authenticated, so that the account was locked.
  obtain ⟨authAccount, rfl, -, hauthCap⟩ := account_of_columns hfixed haccount hauthColumns
  have hcheck : x.shouldCheckBillingHardCap = true := by
    simp [GateExecution.shouldCheckBillingHardCap, hlive, hauth, authOf, hauthCap, hcap]
  have hopening : opening.rows (.billingAccount authTenant) ≠ none := by
    intro hnone
    rw [hnone] at hauthColumns
    cases FixedColumns.billingAccount.inj hauthColumns
  obtain ⟨locked, hlocked⟩ := Option.ne_none_iff_exists'.mp
    (h.checked (by omega) hcheck authTenant hproject hopening)
  obtain ⟨lockedTenant, hlockedProject, hcolumns⟩ := h.locked locked hlocked
  obtain rfl := Option.some.inj (hlockedProject.symm.trans hproject)
  obtain ⟨other, hother, hfee, hlockedCap⟩ := account_of_columns hfixed haccount hcolumns
  obtain rfl := Option.some.inj hother
  have hpolicy : x.locals.liveBillingBudgetPolicy.hardCap = some hardCap := by
    simp [Locals.liveBillingBudgetPolicy, hlocked, hlockedCap, hcap]
  have htotal : x.locals.currentMonthBillableTotalAmount =
      account.baseMonthlyFee + x.locals.currentMonthBillableUsageAmount := by
    simp [Locals.currentMonthBillableTotalAmount, hlocked, hfee]
  have hpasses : ¬x.throttles x.locals.preThrottleDecisionType = true := by
    rw [← h.throttled hpassed, hbilled]
    decide
  rw [GateExecution.throttles, decide_eq_true_iff, htotal] at hpasses
  by_contra hover
  exact hpasses ⟨hlive, hardCap, hpolicy, .inr (not_le.mp hover)⟩

end Accounts

section Commit

variable {opening db : GateTables} {s : Session GateRow GateEntry GateExecution}

theorem account_of_view (hfixed : Fixed opening db) (h : Informed opening s) {tenantId : Nat}
    {account : BillingAccount} (hrow : (s.view db).rows (.billingAccount tenantId) = some account) :
    ∃ committed, db.rows (.billingAccount tenantId) = some committed ∧
      committed.baseMonthlyFee = account.baseMonthlyFee ∧
      committed.budgetPolicy.hardCap = account.budgetPolicy.hardCap :=
  account_of_columns (hfixed.view h.writes) hrow (hfixed (.billingAccount tenantId))

theorem withinHardCaps_of_commit (hfixed : Fixed opening db) (h : Informed opening s)
    (hwithin : WithinHardCaps db) (hcurrent : UsageSumCurrent s.state (s.view db)) :
    WithinHardCaps (s.view db) := by
  intro tenantId account hardCap hrow hcap monthStart
  obtain ⟨committed, hcommitted, hfee, hcommittedCap⟩ := account_of_view hfixed h hrow
  have hbefore : account.baseMonthlyFee + monthlyUsage db tenantId monthStart ≤ hardCap := by
    rw [← hfee]
    exact hwithin tenantId committed hardCap hcommitted (hcommittedCap.trans hcap) monthStart
  have hadded : monthlyUsage (s.view db) tenantId monthStart =
      monthlyUsage db tenantId monthStart +
        usageIn tenantId monthStart (usageEvents s.state.inserts) := by
    simp only [monthlyUsage, Session.view, h.inserts, usageEvents_append, usageIn_append]
  rcases usageEvents_inserts s.state with hnone | ⟨response, hstage, hevents⟩
  · have hsame : monthlyUsage (s.view db) tenantId monthStart =
        monthlyUsage db tenantId monthStart := by
      rw [hadded, hnone]
      exact add_zero _
    rwa [hsame]
  · rw [hevents, usageIn_singleton] at hadded
    split_ifs at hadded with hmonth
    case neg => omega
    case pos =>
      obtain ⟨htenant, hlive, hbillable, rfl⟩ := hmonth
      simp only [UsageSumCurrent, hstage] at hcurrent
      obtain ⟨hsum, hprice⟩ := hcurrent hbillable
      have hbilled : s.state.locals.billingThrottled = false := by
        simp only [GateExecution.usageEventOf, decide_eq_true_iff] at hbillable
        exact hbillable.2
      have hchecked := fee_le_hardCap (hfixed.view h.writes) h.known (by rw [hstage]; simp) hlive
        hbilled htenant hrow hcap
      rw [show s.state.locals.auth.tenantId = tenantId from htenant] at hsum
      calc
        account.baseMonthlyFee + monthlyUsage (s.view db) tenantId
            (startOfCurrentUtcMonth (s.state.usageEventOf response).createdAt) ≤
          account.baseMonthlyFee + (s.state.locals.currentMonthBillableUsageAmount +
            (s.state.usageEventOf response).amount) := by
            exact Int.add_le_add_left hsum _
        _ ≤ account.baseMonthlyFee + s.state.locals.currentMonthBillableUsageAmount +
            s.state.locals.auth.decisionPricing.of s.state.locals.preThrottleDecisionType := by
          omega
        _ ≤ hardCap := hchecked

end Commit

/-- A hard cap of 10.00, and 6.00 for a decision that pays. -/
def tenUnits : GateTables :=
  twoProjects .live ⟨none, none, none, false⟩
    (some ⟨0, ⟨0, 10000, 60000⟩, ⟨some 100000, none, none⟩⟩) ⟨3600, unlimited, unlimited⟩

theorem tenUnits_within : WithinHardCaps tenUnits := by
  intro tenantId account hardCap hrow hcap monthStart
  have hzero : monthlyUsage tenUnits tenantId monthStart = 0 := rfl
  by_cases htenant : tenantId = 1
  · subst htenant
    obtain rfl := Option.some.inj hrow
    obtain rfl := Option.some.inj hcap
    rw [hzero]
    decide
  · simp [tenUnits, twoProjects, htenant] at hrow

end RewardSystem.PrizeEngine.Gates
