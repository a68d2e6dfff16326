import RewardSystem.PrizeEngine.GateSessions

/-!
# The daily budget of a tenant
-/

namespace RewardSystem.PrizeEngine.Gates

open ReadCommitted

/-- The rewards of a tenant's records that were created on this day. -/
def rewardsOn (tenantOf : Nat → Option Nat) (tenantId day : Nat) (records : List SettledRecord) :
    Int :=
  ((records.filter fun settled =>
    tenantOf settled.record.projectId = some tenantId ∧
      startOfUtcDay settled.createdAt = day).map fun settled => settled.record.rewardAmount).sum

def dailyRewards (db : GateTables) (tenantId day : Nat) : Int :=
  rewardsOn (tenantOf db) tenantId day (drawRecords db.log)

/-- No tenant has settled more than its cap on any day. -/
def WithinDailyBudgets (db : GateTables) : Prop :=
  ∀ tenantId tenant cap, db.rows (.tenant tenantId) = some tenant →
    tenant.riskEnvelopeDailyBudgetCap = some cap → ∀ day, dailyRewards db tenantId day ≤ cap

/-- A reward is committed while the sum that its call has compared with the cap is the sum of the day
that its record belongs to. -/
def DailySumCurrent (x : GateExecution) (db : GateTables) : Prop :=
  match x.stage with
  | .engine (.commitRecord response) =>
      0 < response.rewardAmount → ∀ tenantId ∈ tenantOf db x.input.request.projectId,
        dailyRewards db tenantId (startOfUtcDay x.input.startedAt) ≤
          x.locals.tenantDailyRewardPayout + response.rewardAmount
  | _ => True

instance (x : GateExecution) (db : GateTables) : Decidable (DailySumCurrent x db) := by
  unfold DailySumCurrent
  split <;> infer_instance

section Sums

variable {tenantOf : Nat → Option Nat} {tenantId day : Nat} {records : List SettledRecord}
  {log entries : List GateEntry}

theorem drawRecords_append :
    drawRecords (log ++ entries) = drawRecords log ++ drawRecords entries :=
  List.filterMap_append

theorem drawRecords_inserts (x : GateExecution) :
    drawRecords x.inserts = [] ∨ ∃ response, x.stage = .engine (.commitRecord response) ∧
      drawRecords x.inserts = [x.settledRecord response] := by
  unfold GateExecution.inserts
  split
  case h_1 response hstage => exact .inr ⟨response, hstage, rfl⟩
  all_goals exact .inl rfl

theorem rewardsOn_append (more : List SettledRecord) :
    rewardsOn tenantOf tenantId day (records ++ more) =
      rewardsOn tenantOf tenantId day records + rewardsOn tenantOf tenantId day more := by
  simp only [rewardsOn, List.filter_append, List.map_append, List.sum_append]

theorem rewardsOn_singleton (settled : SettledRecord) :
    rewardsOn tenantOf tenantId day [settled] =
      if tenantOf settled.record.projectId = some tenantId ∧
          startOfUtcDay settled.createdAt = day then settled.record.rewardAmount
      else 0 := by
  unfold rewardsOn
  split_ifs with hday
  · simp [hday]
  · simp [hday]

end Sums

theorem dailyBudgetCap_le {tenant : Tenant} {requested : RequestedRiskEnvelope}
    {riskEnvelope : EffectiveRiskEnvelope} {cap : Int}
    (h : resolveEffectiveRiskEnvelope tenant requested = .ok riskEnvelope)
    (hcap : tenant.riskEnvelopeDailyBudgetCap = some cap) :
    ∃ effective ∈ riskEnvelope.dailyBudgetCap, effective ≤ (cap : ℚ) := by
  obtain ⟨daily, -, h⟩ := ApiError.bind_eq_ok.mp h
  obtain ⟨single, -, h⟩ := ApiError.bind_eq_ok.mp h
  obtain ⟨variance, -, h⟩ := ApiError.bind_eq_ok.mp h
  obtain rfl := Except.ok.inj h
  rw [hcap]
  cases daily with
  | none => exact ⟨cap, rfl, le_refl _⟩
  | some requestedCap => exact ⟨min cap requestedCap, rfl, min_le_left _ _⟩

section Commit

variable {opening db : GateTables} {s : Session GateRow GateEntry GateExecution}

theorem view_tenantOf (hfixed : Fixed opening db) (h : Informed opening s) :
    tenantOf (s.view db) = tenantOf db := by
  funext projectId
  rw [(hfixed.view h.writes).tenantOf, hfixed.tenantOf]

theorem within_of_settled (hfixed : Fixed opening db) (h : Informed opening s)
    (hwithin : WithinDailyBudgets db) {response : RewardResponse}
    (hstage : s.state.stage = .engine (.commitRecord response))
    (hcurrent : DailySumCurrent s.state (s.view db)) : WithinDailyBudgets (s.view db) := by
  have hfixed' := hfixed.view h.writes
  have hadded : ∀ tenantId day, dailyRewards (s.view db) tenantId day =
      dailyRewards db tenantId day +
        rewardsOn (tenantOf db) tenantId day [s.state.settledRecord response] := by
    intro tenantId day
    unfold dailyRewards
    rw [view_tenantOf hfixed h, ← rewardsOn_append]
    simp [Session.view, h.inserts, GateExecution.inserts, hstage, drawRecords]
  intro tenantId tenant cap hrow hcap day
  have hbefore : dailyRewards db tenantId day ≤ cap :=
    hwithin tenantId tenant cap
      ((hfixed.tenant tenantId).trans ((hfixed'.tenant tenantId).symm.trans hrow)) hcap day
  rw [hadded, rewardsOn_singleton]
  split_ifs with hday
  case neg => omega
  case pos =>
    obtain ⟨htenant, rfl⟩ := hday
    by_cases hpositive : 0 < response.rewardAmount
    case neg =>
      have hsettled : (s.state.settledRecord response).record.rewardAmount =
          response.rewardAmount := rfl
      omega
    case pos =>
      simp only [DailySumCurrent, hstage] at hcurrent
      have hsum := hcurrent hpositive tenantId (by rw [view_tenantOf hfixed h]; exact htenant)
      rw [hadded, rewardsOn_singleton, if_pos ⟨htenant, rfl⟩] at hsum
      have hpasses : Passes s.state.input s.state.locals response.rewardAmount :=
        (h.known.reward response.rewardAmount (by rw [hstage]; rfl)).resolve_left (by omega)
      obtain ⟨tenantId', tenant', htenant', hrow', henvelope⟩ :=
        h.known.riskEnvelope (by rw [hstage]; simp)
      obtain rfl : tenantId' = tenantId := by
        rw [hfixed.tenantOf] at htenant
        exact Option.some.inj (htenant'.symm.trans htenant)
      obtain rfl : tenant' = tenant :=
        Option.some.inj (hrow'.symm.trans ((hfixed'.tenant tenantId').symm.trans hrow))
      obtain ⟨effective, heffective, hle⟩ := dailyBudgetCap_le henvelope hcap
      have hchecked := (hpasses.dailyBudget effective heffective).trans hle
      have hpayout : s.state.locals.tenantDailyRewardPayout + response.rewardAmount ≤ cap := by
        exact_mod_cast hchecked
      exact hsum.trans hpayout

theorem within_of_unsettled (hfixed : Fixed opening db) (h : Informed opening s)
    (hwithin : WithinDailyBudgets db) (hnone : drawRecords s.state.inserts = []) :
    WithinDailyBudgets (s.view db) := by
  intro tenantId tenant cap hrow hcap day
  have hsame : dailyRewards (s.view db) tenantId day = dailyRewards db tenantId day := by
    unfold dailyRewards
    rw [view_tenantOf hfixed h]
    simp [Session.view, h.inserts, drawRecords_append, hnone]
  rw [hsame]
  exact hwithin tenantId tenant cap ((hfixed.tenant tenantId).trans
    (((hfixed.view h.writes).tenant tenantId).symm.trans hrow)) hcap day

end Commit

/-- The projects share a daily budget of 10.00, one prize. -/
def onePrizeADay : GateTables :=
  twoProjects .sandbox ⟨some 1000, none, none, false⟩ none ⟨3600, unlimited, unlimited⟩

theorem onePrizeADay_within : WithinDailyBudgets onePrizeADay := by
  intro tenantId tenant cap hrow hcap day
  have hzero : dailyRewards onePrizeADay tenantId day = 0 := rfl
  by_cases htenant : tenantId = 1
  · subst htenant
    obtain rfl := Option.some.inj hrow
    obtain rfl := Option.some.inj hcap
    rw [hzero]
    decide
  · simp [onePrizeADay, twoProjects, htenant] at hrow

end RewardSystem.PrizeEngine.Gates
