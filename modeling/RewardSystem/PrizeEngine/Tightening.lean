import Mathlib
import RewardSystem.Lib.WeightedMeans
import RewardSystem.PrizeEngine.Envelopes

/-!
# Tightening the caps of a draw

A filter leaves the rewards below a threshold, so that stricter filters lower the expected reward
that the variance caps are measured by. What is asked of a change of caps is that every cap in force
before is covered by one in force after.
-/

namespace RewardSystem.PrizeEngine.Envelopes

open Gates WeightedMeans
open Webhook (JsonValue JsonRecord toRecord field)

/-! ## The expected reward -/

theorem scaleRewardAmount_nonneg {base : Int} (hbase : 0 ≤ base) (multiplier : ℚ) :
    0 ≤ scaleRewardAmount base multiplier := by
  unfold scaleRewardAmount
  split
  · exact hbase
  · dsimp only
    split <;> omega

/-- A row that can be drawn at all. -/
def isAvailable (row : PrizeEngineConstraintPrizeRow) : Bool :=
  0 < row.prize.stock ∧ 0 < row.weight

theorem intCast_sum_map {ι : Type} (f : ι → Int) (items : List ι) :
    ((items.map f).sum : ℚ) = (items.map fun i => (f i : ℚ)).sum := by
  induction items with
  | nil => simp
  | cons i rest ih => simp [ih]

theorem computeExpectedRewardAmount_eq_mean (rows : List PrizeEngineConstraintPrizeRow)
    (missWeight : Int) (rewardMultiplier : ℚ) :
    computeExpectedRewardAmount rows missWeight rewardMultiplier =
      mean ((max missWeight 0 : Int) : ℚ) (fun row => (row.weight : ℚ))
        (fun row => (scaleRewardAmount row.prize.rewardAmount rewardMultiplier : ℚ))
        (rows.filter isAvailable) := by
  have hfilter : (rows.filter fun row => 0 < row.weight ∧ 0 < row.prize.stock) =
      rows.filter isAvailable := by
    apply List.filter_congr
    intro row _
    simp [isAvailable, and_comm]
  have hweight : ∀ row ∈ rows.filter isAvailable, (0 : Int) ≤ row.weight := by
    intro row hrow
    have havailable := (List.mem_filter.mp hrow).2
    simp only [isAvailable, decide_eq_true_eq] at havailable
    omega
  unfold computeExpectedRewardAmount mean
  rw [hfilter]
  dsimp only
  have hsum : 0 ≤ ((rows.filter isAvailable).map (·.weight)).sum :=
    List.sum_nonneg fun weight hmem => by
      obtain ⟨row, hrow, rfl⟩ := List.mem_map.mp hmem
      exact hweight row hrow
  have htotal : ((max missWeight 0 + ((rows.filter isAvailable).map (·.weight)).sum : Int) : ℚ) =
      ((max missWeight 0 : Int) : ℚ) +
        ((rows.filter isAvailable).map fun row => (row.weight : ℚ)).sum := by
    rw [Int.cast_add, intCast_sum_map]
  split
  · next hle =>
    rw [← htotal, le_antisymm hle (add_nonneg (le_max_right _ _) hsum), Int.cast_zero, div_zero]
  · rw [htotal, intCast_sum_map]
    simp only [Int.cast_mul]

/-! ## The filter of a scope -/

/-- What a limit says to a reward, given the expected reward of the draw. -/
def keeps (limit : PrizeEngineConstraintLimit) (stats : PrizeEngineConstraintStats)
    (expectedRewardAmount : ℚ) (scaledRewardAmount : Int) : Bool :=
  (∀ maxDrawCount ∈ limit.maxDrawCount, stats.drawCount + 1 ≤ maxDrawCount) ∧
    (∀ budget ∈ limit.maxRewardBudget,
      ((stats.rewardAmount + scaledRewardAmount : Int) : ℚ) ≤ budget) ∧
    ∀ variance ∈ limit.maxPositiveVariance,
      computePositiveVariance ((stats.rewardAmount + scaledRewardAmount : Int) : ℚ)
        (stats.expectedRewardAmount + expectedRewardAmount) ≤ variance

theorem prizeRows_applyScopeConstraintEnvelope (limit : PrizeEngineConstraintLimit)
    (rows : List PrizeEngineConstraintPrizeRow) (stats : PrizeEngineConstraintStats)
    (missWeight : Int) (rewardMultiplier : ℚ) :
    (applyScopeConstraintEnvelope limit rows stats missWeight rewardMultiplier).prizeRows =
      rows.filter fun row =>
        keeps limit stats (computeExpectedRewardAmount rows missWeight rewardMultiplier)
          (scaleRewardAmount row.prize.rewardAmount rewardMultiplier) := by
  obtain ⟨maxDrawCount, maxRewardBudget, maxPositiveVariance⟩ := limit
  unfold applyScopeConstraintEnvelope
  split
  · next hnone =>
    simp only [hasPrizeEngineConstraintLimit, decide_eq_false_iff_not, not_or, not_not] at hnone
    obtain ⟨rfl, rfl, rfl⟩ := hnone
    simp [keeps]
  · split
    · next hdraws =>
      obtain ⟨count, hcount, hless⟩ := hdraws
      symm
      rw [List.filter_eq_nil_iff]
      intro row _ hkeeps
      simp only [keeps, decide_eq_true_eq] at hkeeps
      have hle := hkeeps.1 count hcount
      omega
    · next hdraws =>
      dsimp only
      rw [List.filter_filter]
      apply List.filter_congr
      intro row _
      rw [Bool.eq_iff_iff]
      simp only [keeps, PrizeEngineConstraintLimit.overBudget,
        PrizeEngineConstraintLimit.overVariance, Bool.and_eq_true, decide_eq_true_eq,
        decide_eq_false_iff_not, not_exists, not_and, not_lt] at hdraws ⊢
      constructor
      · rintro ⟨hvariance, hbudget⟩
        exact ⟨hdraws, hbudget, hvariance⟩
      · rintro ⟨-, hbudget, hvariance⟩
        exact ⟨hvariance, hbudget⟩

/-! ## Thresholds -/

namespace Situation

variable (situation : Situation)

theorem scaledRewardAmount_nonneg {row : PrizeEngineConstraintPrizeRow}
    (hrow : row ∈ situation.prizeRows) : 0 ≤ situation.scaledRewardAmount row :=
  scaleRewardAmount_nonneg (situation.reward_nonneg row hrow) _

/-- A filter that leaves the rewards below a threshold. -/
def IsThreshold (p : PrizeEngineConstraintPrizeRow → Bool) : Prop :=
  ∀ row row', situation.scaledRewardAmount row ≤ situation.scaledRewardAmount row' →
    p row' = true → p row = true

def expectedReward (p : PrizeEngineConstraintPrizeRow → Bool) : ℚ :=
  computeExpectedRewardAmount ((situation.prizeRows.filter isAvailable).filter p)
    situation.missWeight situation.rewardMultiplier

theorem expectedReward_eq (p : PrizeEngineConstraintPrizeRow → Bool) :
    situation.expectedReward p =
      mean ((max situation.missWeight 0 : Int) : ℚ) (fun row => (row.weight : ℚ))
        (fun row => (situation.scaledRewardAmount row : ℚ))
        ((situation.prizeRows.filter isAvailable).filter p) := by
  have hself : ((situation.prizeRows.filter isAvailable).filter p).filter isAvailable =
      (situation.prizeRows.filter isAvailable).filter p := by
    rw [List.filter_eq_self]
    intro row hrow
    exact (List.mem_filter.mp (List.mem_of_mem_filter hrow)).2
  rw [expectedReward, computeExpectedRewardAmount_eq_mean, hself]
  rfl

theorem weight_nonneg {row : PrizeEngineConstraintPrizeRow}
    (hrow : row ∈ situation.prizeRows.filter isAvailable) : (0 : ℚ) ≤ row.weight := by
  have havailable := (List.mem_filter.mp hrow).2
  simp only [isAvailable, decide_eq_true_eq] at havailable
  exact_mod_cast havailable.2.le

theorem value_nonneg {row : PrizeEngineConstraintPrizeRow}
    (hrow : row ∈ situation.prizeRows.filter isAvailable) :
    (0 : ℚ) ≤ situation.scaledRewardAmount row := by
  exact_mod_cast situation.scaledRewardAmount_nonneg (List.mem_of_mem_filter hrow)

theorem mass_nonneg : (0 : ℚ) ≤ ((max situation.missWeight 0 : Int) : ℚ) := by
  exact_mod_cast le_max_right _ _

theorem expectedReward_nonneg (p : PrizeEngineConstraintPrizeRow → Bool) :
    0 ≤ situation.expectedReward p := by
  rw [expectedReward_eq]
  exact mean_nonneg situation.mass_nonneg
    (fun row hrow => situation.weight_nonneg (List.mem_of_mem_filter hrow))
    fun row hrow => situation.value_nonneg (List.mem_of_mem_filter hrow)

theorem expectedReward_le {p q : PrizeEngineConstraintPrizeRow → Bool}
    (hp : situation.IsThreshold p) (himp : ∀ row ∈ situation.prizeRows, p row = true → q row = true) :
    situation.expectedReward p ≤ situation.expectedReward q := by
  rw [expectedReward_eq, expectedReward_eq]
  have hsplit : (situation.prizeRows.filter isAvailable).filter p =
      ((situation.prizeRows.filter isAvailable).filter q).filter p := by
    conv_rhs => rw [List.filter_filter]
    refine List.filter_congr fun row hrow => ?_
    cases hkept : p row with
    | false => rfl
    | true => simp [himp row (List.mem_of_mem_filter hrow) hkept]
  rw [hsplit]
  refine mean_filter_le situation.mass_nonneg
    (fun row hrow => situation.weight_nonneg (List.mem_of_mem_filter hrow))
    (fun row hrow => situation.value_nonneg (List.mem_of_mem_filter hrow)) ?_
  intro row _ row' _ hle
  exact hp row row' (by exact_mod_cast hle)

/-! ## The filters as functions of a row -/

def riskFilter (riskEnvelope : EffectiveRiskEnvelope) (row : PrizeEngineConstraintPrizeRow) : Bool :=
  riskEnvelope.passes situation.drawCost situation.tenantDailyRewardPayout
    (situation.scaledRewardAmount row)

/-- The filter of a scope behind the filter `p`. -/
def scopeFilter (scope : ConstraintScope) (limit : PrizeEngineConstraintLimit)
    (p : PrizeEngineConstraintPrizeRow → Bool) (row : PrizeEngineConstraintPrizeRow) : Bool :=
  p row && keeps limit (situation.constraintStats scope) (situation.expectedReward p)
    (situation.scaledRewardAmount row)

def groupFilter (groupId : Option String) (limit : PrizeEngineConstraintLimit)
    (p : PrizeEngineConstraintPrizeRow → Bool) : PrizeEngineConstraintPrizeRow → Bool :=
  match groupId with
  | some _ => situation.scopeFilter .group limit p
  | none => p

theorem withinScope_filter (scope : ConstraintScope) (limit : PrizeEngineConstraintLimit)
    (p : PrizeEngineConstraintPrizeRow → Bool) :
    situation.withinScope scope limit ((situation.prizeRows.filter isAvailable).filter p) =
      (situation.prizeRows.filter isAvailable).filter (situation.scopeFilter scope limit p) := by
  rw [withinScope, prizeRows_applyScopeConstraintEnvelope, List.filter_filter]
  refine List.filter_congr fun row _ => ?_
  rw [scopeFilter, Bool.and_comm]
  rfl

theorem filtered_eq (groupId : Option String) (riskEnvelope : EffectiveRiskEnvelope)
    (config : PrizeEngineConstraintConfig) :
    situation.filtered groupId riskEnvelope config =
      { riskEligiblePrizeRows := situation.prizeRows.filter (situation.riskFilter riskEnvelope)
        groupScopedPrizeRows := (situation.prizeRows.filter isAvailable).filter
          (situation.groupFilter groupId config.group (situation.riskFilter riskEnvelope))
        agentScopedPrizeRows := (situation.prizeRows.filter isAvailable).filter
          (situation.scopeFilter .agent config.agent
            (situation.groupFilter groupId config.group (situation.riskFilter riskEnvelope))) } := by
  have havailable : ((situation.riskEligible riskEnvelope).filter fun row =>
      0 < row.prize.stock ∧ 0 < row.weight) =
        (situation.prizeRows.filter isAvailable).filter (situation.riskFilter riskEnvelope) := by
    rw [riskEligible, List.filter_filter, List.filter_filter]
    refine List.filter_congr fun row _ => ?_
    rw [Bool.and_comm]
    rfl
  unfold filtered
  dsimp only
  rw [havailable]
  cases groupId with
  | none =>
      dsimp only [groupFilter]
      rw [withinScope_filter]
      rfl
  | some group =>
      dsimp only [groupFilter]
      rw [withinScope_filter, withinScope_filter]
      rfl

end Situation

/-! ## The caps of the risk envelope -/

namespace RiskCap

/-- What a cap bounds. -/
def measured (drawCost payout scaledRewardAmount : Int) : RiskCap → Int
  | .dailyBudgetCap => payout + scaledRewardAmount
  | .maxSinglePayout => scaledRewardAmount
  | .varianceCap => max (scaledRewardAmount - drawCost) 0

/-- The caps that bound at least as much as this one. -/
def covering : RiskCap → List RiskCap
  | .dailyBudgetCap => [.dailyBudgetCap]
  | .maxSinglePayout => [.maxSinglePayout, .dailyBudgetCap]
  | .varianceCap => [.varianceCap, .maxSinglePayout, .dailyBudgetCap]

def effective (riskEnvelope : EffectiveRiskEnvelope) : RiskCap → Option ℚ
  | .dailyBudgetCap => riskEnvelope.dailyBudgetCap
  | .maxSinglePayout => riskEnvelope.maxSinglePayout
  | .varianceCap => riskEnvelope.varianceCap

theorem measured_le_of_covering {cap cap' : RiskCap} (hcovering : cap' ∈ cap.covering)
    {drawCost payout scaledRewardAmount : Int} (hcost : 0 ≤ drawCost) (hpayout : 0 ≤ payout)
    (hscaled : 0 ≤ scaledRewardAmount) :
    cap.measured drawCost payout scaledRewardAmount ≤
      cap'.measured drawCost payout scaledRewardAmount := by
  cases cap <;> simp only [covering, List.mem_cons, List.not_mem_nil, or_false] at hcovering
  · rw [hcovering]
  · rcases hcovering with rfl | rfl <;> simp only [measured] <;> omega
  · rcases hcovering with rfl | rfl | rfl <;> simp only [measured] <;> omega

end RiskCap

theorem passes_iff {riskEnvelope : EffectiveRiskEnvelope}
    {drawCost payout scaledRewardAmount : Int} :
    riskEnvelope.passes drawCost payout scaledRewardAmount = true ↔
      riskEnvelope.emergencyStop = false ∧
        ∀ cap : RiskCap, ∀ amount ∈ cap.effective riskEnvelope,
          (cap.measured drawCost payout scaledRewardAmount : ℚ) ≤ amount := by
  simp only [EffectiveRiskEnvelope.passes, decide_eq_true_eq]
  refine and_congr_right fun _ => ⟨?_, ?_⟩
  · rintro ⟨hsingle, hvariance, hdaily⟩ cap amount hamount
    cases cap with
    | dailyBudgetCap => exact hdaily amount hamount
    | maxSinglePayout => exact hsingle amount hamount
    | varianceCap =>
        have hle := hvariance amount hamount
        simp only [RiskCap.measured]
        push_cast
        exact hle
  · intro hcaps
    refine ⟨hcaps .maxSinglePayout, fun amount hamount => ?_, hcaps .dailyBudgetCap⟩
    have hle := hcaps .varianceCap amount hamount
    simp only [RiskCap.measured] at hle
    push_cast at hle
    exact hle

/-- Every cap of the one envelope is covered by a cap of the other, in whole cents. -/
def EnvelopeCovers (after before : EffectiveRiskEnvelope) : Prop :=
  before.emergencyStop = false ∧
    ∀ cap : RiskCap, ∀ amount ∈ cap.effective before,
      ∃ cap' ∈ cap.covering, ∃ amount' ∈ cap'.effective after, (⌊amount'⌋ : ℚ) ≤ amount

section Envelope

variable {after before : EffectiveRiskEnvelope}

theorem EnvelopeCovers.passes (hcovers : EnvelopeCovers after before)
    {drawCost payout scaledRewardAmount : Int} (hcost : 0 ≤ drawCost) (hpayout : 0 ≤ payout)
    (hscaled : 0 ≤ scaledRewardAmount)
    (hpasses : after.passes drawCost payout scaledRewardAmount = true) :
    before.passes drawCost payout scaledRewardAmount = true := by
  rw [passes_iff] at hpasses ⊢
  refine ⟨hcovers.1, fun cap amount hamount => ?_⟩
  obtain ⟨cap', hcovering, amount', hamount', hle⟩ := hcovers.2 cap amount hamount
  calc (cap.measured drawCost payout scaledRewardAmount : ℚ)
      ≤ (cap'.measured drawCost payout scaledRewardAmount : ℚ) := by
        exact_mod_cast RiskCap.measured_le_of_covering hcovering hcost hpayout hscaled
    _ ≤ (⌊amount'⌋ : ℚ) := by
        exact_mod_cast Int.le_floor.mpr (hpasses.2 cap' amount' hamount')
    _ ≤ amount := hle

theorem envelopeCovers_of_passes
    (hstricter : ∀ drawCost payout scaledRewardAmount : Int, 0 ≤ drawCost → 0 ≤ payout →
      0 ≤ scaledRewardAmount → after.passes drawCost payout scaledRewardAmount = true →
        before.passes drawCost payout scaledRewardAmount = true)
    (hopen : after.passes 0 0 0 = true) : EnvelopeCovers after before := by
  have hbefore := hstricter 0 0 0 le_rfl le_rfl le_rfl hopen
  rw [passes_iff] at hopen hbefore
  refine ⟨hbefore.1, fun cap amount hamount => ?_⟩
  by_contra huncovered
  push Not at huncovered
  -- the least number of cents that the cap refuses
  have hleast : amount < (max (⌊amount⌋ + 1) 0 : Int) :=
    lt_of_lt_of_le (by exact_mod_cast Int.lt_floor_add_one amount)
      (by exact_mod_cast le_max_left (⌊amount⌋ + 1) 0)
  have hwithin : ∀ cap' ∈ cap.covering, ∀ amount' ∈ cap'.effective after,
      ((max (⌊amount⌋ + 1) 0 : Int) : ℚ) ≤ amount' := by
    intro cap' hcap' amount' hamount'
    have hzero : (0 : ℚ) ≤ amount' := by
      have hle := hopen.2 cap' amount' hamount'
      cases cap' <;> simpa [RiskCap.measured] using hle
    have hless := huncovered cap' hcap' amount' hamount'
    have hfloor : ⌊amount⌋ < ⌊amount'⌋ := Int.floor_lt.mpr hless
    rw [← Int.le_floor]
    exact max_le hfloor (Int.floor_nonneg.mpr hzero)
  have hnonneg : (0 : Int) ≤ max (⌊amount⌋ + 1) 0 := le_max_right _ _
  generalize max (⌊amount⌋ + 1) 0 = least at hleast hwithin hnonneg
  -- a reward that this cap just refuses, and that is nothing to the caps that do not cover it
  have hrefused : ∃ drawCost payout scaledRewardAmount : Int, 0 ≤ drawCost ∧ 0 ≤ payout ∧
      0 ≤ scaledRewardAmount ∧ cap.measured drawCost payout scaledRewardAmount = least ∧
      ∀ cap' : RiskCap, cap'.measured drawCost payout scaledRewardAmount = 0 ∨
        cap' ∈ cap.covering ∧ cap'.measured drawCost payout scaledRewardAmount = least := by
    cases cap with
    | dailyBudgetCap =>
        refine ⟨0, least, 0, le_rfl, hnonneg, le_rfl, by simp [RiskCap.measured], ?_⟩
        intro cap'
        cases cap' <;> simp [RiskCap.measured, RiskCap.covering]
    | maxSinglePayout =>
        refine ⟨least, 0, least, hnonneg, le_rfl, hnonneg, rfl, ?_⟩
        intro cap'
        cases cap' <;> simp [RiskCap.measured, RiskCap.covering]
    | varianceCap =>
        refine ⟨0, 0, least, le_rfl, le_rfl, hnonneg, by simpa [RiskCap.measured] using hnonneg, ?_⟩
        intro cap'
        cases cap' <;> simp [RiskCap.measured, RiskCap.covering, hnonneg]
  obtain ⟨drawCost, payout, scaled, hcost, hpayout, hscaled, hmeasured, hothers⟩ := hrefused
  have hpasses : after.passes drawCost payout scaled = true := by
    rw [passes_iff]
    refine ⟨hopen.1, fun cap' amount' hamount' => ?_⟩
    rcases hothers cap' with hzero | ⟨hcovering, hequal⟩
    · have hle := hopen.2 cap' amount' hamount'
      rw [hzero]
      cases cap' <;> simpa [RiskCap.measured] using hle
    · rw [hequal]
      exact hwithin cap' hcovering amount' hamount'
  have hpassed := (passes_iff.mp (hstricter _ _ _ hcost hpayout hscaled hpasses)).2 cap amount hamount
  rw [hmeasured] at hpassed
  exact absurd hpassed (not_le.mpr hleast)

end Envelope

/-! ## The limits of a scope -/

/-- Every cap of the limits is covered by a cap of the other ones, budgets in whole cents. A budget
covers a variance, since nothing expected is negative. -/
def LimitsCover (after before : List PrizeEngineConstraintLimit) : Prop :=
  ∀ limit ∈ before,
    (∀ count ∈ limit.maxDrawCount, ∃ limit' ∈ after, ∃ count' ∈ limit'.maxDrawCount,
      count' ≤ count) ∧
    (∀ budget ∈ limit.maxRewardBudget, ∃ limit' ∈ after, ∃ budget' ∈ limit'.maxRewardBudget,
      (⌊budget'⌋ : ℚ) ≤ budget) ∧
    ∀ variance ∈ limit.maxPositiveVariance, ∃ limit' ∈ after,
      (∃ variance' ∈ limit'.maxPositiveVariance, variance' ≤ variance) ∨
        ∃ budget' ∈ limit'.maxRewardBudget, (⌊budget'⌋ : ℚ) ≤ variance

/-- A limit as the readers leave it. -/
structure IsPositive (limit : PrizeEngineConstraintLimit) : Prop where
  draws : ∀ count ∈ limit.maxDrawCount, 0 < count
  budget : ∀ budget ∈ limit.maxRewardBudget, 0 < budget
  variance : ∀ variance ∈ limit.maxPositiveVariance, 0 < variance

section Limit

variable {after before : PrizeEngineConstraintLimit} {stats : PrizeEngineConstraintStats}

theorem keeps_iff {limit : PrizeEngineConstraintLimit} {expectedRewardAmount : ℚ}
    {scaledRewardAmount : Int} :
    keeps limit stats expectedRewardAmount scaledRewardAmount = true ↔
      (∀ count ∈ limit.maxDrawCount, stats.drawCount + 1 ≤ count) ∧
        (∀ budget ∈ limit.maxRewardBudget,
          ((stats.rewardAmount + scaledRewardAmount : Int) : ℚ) ≤ budget) ∧
        ∀ variance ∈ limit.maxPositiveVariance,
          computePositiveVariance ((stats.rewardAmount + scaledRewardAmount : Int) : ℚ)
            (stats.expectedRewardAmount + expectedRewardAmount) ≤ variance := by
  simp only [keeps, decide_eq_true_eq]

theorem keeps_of_le {limit : PrizeEngineConstraintLimit} {expectedRewardAmount : ℚ}
    {scaledRewardAmount lower : Int} (hle : lower ≤ scaledRewardAmount)
    (hkeeps : keeps limit stats expectedRewardAmount scaledRewardAmount = true) :
    keeps limit stats expectedRewardAmount lower = true := by
  rw [keeps_iff] at hkeeps ⊢
  obtain ⟨hdraws, hbudget, hvariance⟩ := hkeeps
  have hsum : ((stats.rewardAmount + lower : Int) : ℚ) ≤
      ((stats.rewardAmount + scaledRewardAmount : Int) : ℚ) := by
    exact_mod_cast Int.add_le_add_left hle stats.rewardAmount
  refine ⟨hdraws, fun budget hmem => hsum.trans (hbudget budget hmem), fun variance hmem => ?_⟩
  exact (max_le_max (sub_le_sub_right hsum _) le_rfl).trans (hvariance variance hmem)

theorem keeps_of_covers (hcovers : LimitsCover [after] [before]) (hpositive : IsPositive before)
    {expected expected' : ℚ} (hexpected : expected' ≤ expected) (hnonneg : 0 ≤ expected')
    (hstats : 0 ≤ stats.expectedRewardAmount) {scaledRewardAmount : Int}
    (hkeeps : keeps after stats expected' scaledRewardAmount = true) :
    keeps before stats expected scaledRewardAmount = true := by
  simp only [LimitsCover, List.mem_singleton, forall_eq, exists_eq_left] at hcovers
  obtain ⟨hdraws, hbudgets, hvariances⟩ := hcovers
  rw [keeps_iff] at hkeeps ⊢
  have hfloor : ∀ budget' ∈ after.maxRewardBudget,
      ((stats.rewardAmount + scaledRewardAmount : Int) : ℚ) ≤ (⌊budget'⌋ : ℚ) := by
    intro budget' hmem
    exact_mod_cast Int.le_floor.mpr (hkeeps.2.1 budget' hmem)
  refine ⟨fun count hmem => ?_, fun budget hmem => ?_, fun variance hmem => ?_⟩
  · obtain ⟨count', hmem', hle⟩ := hdraws count hmem
    exact (hkeeps.1 count' hmem').trans hle
  · obtain ⟨budget', hmem', hle⟩ := hbudgets budget hmem
    exact (hfloor budget' hmem').trans hle
  · refine max_le ?_ (hpositive.variance variance hmem).le
    rcases hvariances variance hmem with ⟨variance', hmem', hle⟩ | ⟨budget', hmem', hle⟩
    · have hmax := (le_max_left _ _).trans (hkeeps.2.2 variance' hmem')
      linarith
    · have hbudget := (hfloor budget' hmem').trans hle
      linarith

theorem limitsCover_of_keeps (hafter : IsPositive after) (hbefore : IsPositive before)
    (hstricter : ∀ stats : PrizeEngineConstraintStats, 0 ≤ stats.rewardAmount →
      0 ≤ stats.expectedRewardAmount → keeps after stats 0 0 = true →
        keeps before stats 0 0 = true) : LimitsCover [after] [before] := by
  simp only [LimitsCover, List.mem_singleton, forall_eq, exists_eq_left]
  refine ⟨fun count hmem => ?_, fun budget hmem => ?_, fun variance hmem => ?_⟩
  · by_contra huncovered
    push Not at huncovered
    have hkeeps : keeps after ⟨count, 0, 0⟩ 0 0 = true := by
      rw [keeps_iff]
      refine ⟨fun count' hmem' => huncovered count' hmem', fun budget' hmem' => ?_,
        fun variance' hmem' => ?_⟩
      · simpa using (hafter.budget budget' hmem').le
      · simpa [computePositiveVariance] using (hafter.variance variance' hmem').le
    have hkept := (keeps_iff.mp (hstricter _ le_rfl le_rfl hkeeps)).1 count hmem
    exact absurd hkept (Nat.not_succ_le_self count)
  · by_contra huncovered
    push Not at huncovered
    have hfloor := Int.floor_nonneg.mpr (hbefore.budget budget hmem).le
    have hkeeps : keeps after ⟨0, ⌊budget⌋ + 1, (⌊budget⌋ + 1 : Int)⟩ 0 0 = true := by
      rw [keeps_iff]
      refine ⟨fun count' hmem' => hafter.draws count' hmem', fun budget' hmem' => ?_,
        fun variance' hmem' => ?_⟩
      · rw [add_zero, ← Int.le_floor]
        exact Int.floor_lt.mpr (huncovered budget' hmem')
      · simpa [computePositiveVariance] using (hafter.variance variance' hmem').le
    have hkept := (keeps_iff.mp (hstricter _ (by dsimp only; omega)
      (by dsimp only; exact_mod_cast (by omega : (0 : Int) ≤ ⌊budget⌋ + 1)) hkeeps)).2.1 budget hmem
    rw [add_zero] at hkept
    push_cast at hkept
    exact absurd hkept (not_le.mpr (Int.lt_floor_add_one budget))
  · by_contra huncovered
    push Not at huncovered
    obtain ⟨huncovered, hbudgets⟩ := huncovered
    have hfloor := Int.floor_nonneg.mpr (hbefore.variance variance hmem).le
    -- so much is expected that the variance is just what the other limit allows
    obtain ⟨expected, hexpected, hless, hallowed⟩ : ∃ expected : ℚ, 0 ≤ expected ∧
        variance < ((⌊variance⌋ + 1 : Int) : ℚ) - expected ∧
        ∀ variance' ∈ after.maxPositiveVariance,
          ((⌊variance⌋ + 1 : Int) : ℚ) - expected ≤ variance' := by
      have hnext : variance < ((⌊variance⌋ + 1 : Int) : ℚ) := by
        push_cast
        exact Int.lt_floor_add_one variance
      cases hcap : after.maxPositiveVariance with
      | none => exact ⟨0, le_rfl, by linarith, by simp⟩
      | some variance' =>
          have hgreater := huncovered variance' hcap
          refine ⟨max (((⌊variance⌋ + 1 : Int) : ℚ) - variance') 0, le_max_right _ _, ?_, ?_⟩
          · rw [lt_sub_comm, max_lt_iff]
            constructor <;> linarith
          · intro other hother
            obtain rfl : variance' = other := by simpa using hother
            linarith [le_max_left (((⌊variance⌋ + 1 : Int) : ℚ) - variance') 0]
    have hkeeps : keeps after ⟨0, ⌊variance⌋ + 1, expected⟩ 0 0 = true := by
      rw [keeps_iff]
      refine ⟨fun count' hmem' => hafter.draws count' hmem', fun budget' hmem' => ?_,
        fun variance' hmem' => ?_⟩
      · rw [add_zero, ← Int.le_floor]
        exact Int.floor_lt.mpr (hbudgets budget' hmem')
      · refine max_le ?_ (hafter.variance variance' hmem').le
        rw [add_zero, add_zero]
        exact hallowed variance' hmem'
    have hkept := (keeps_iff.mp (hstricter _ (by dsimp only; omega) hexpected hkeeps)).2.2
      variance hmem
    have hle := (le_max_left _ _).trans hkept
    rw [add_zero, add_zero] at hle
    exact absurd hle (not_le.mpr hless)

end Limit

/-! ## The filters of two configurations -/

structure FilteredPrizes.Within (left right : FilteredPrizes) : Prop where
  risk : left.riskEligiblePrizeRows.Sublist right.riskEligiblePrizeRows
  group : left.groupScopedPrizeRows.Sublist right.groupScopedPrizeRows
  agent : left.agentScopedPrizeRows.Sublist right.agentScopedPrizeRows

theorem filter_sublist_filter {α : Type} {p q : α → Bool} {items : List α}
    (himp : ∀ i ∈ items, p i = true → q i = true) : (items.filter p).Sublist (items.filter q) := by
  have hsplit : items.filter p = (items.filter q).filter p := by
    rw [List.filter_filter]
    refine List.filter_congr fun i hi => ?_
    cases hp : p i with
    | false => rfl
    | true => simp [himp i hi hp]
  rw [hsplit]
  exact List.filter_sublist

theorem measured_mono (cap : RiskCap) (drawCost payout : Int) {scaledRewardAmount lower : Int}
    (hle : lower ≤ scaledRewardAmount) :
    cap.measured drawCost payout lower ≤ cap.measured drawCost payout scaledRewardAmount := by
  cases cap <;> simp only [RiskCap.measured] <;> omega

namespace Situation

variable (situation : Situation)

theorem isThreshold_riskFilter (riskEnvelope : EffectiveRiskEnvelope) :
    situation.IsThreshold (situation.riskFilter riskEnvelope) := by
  intro row row' hle hpasses
  simp only [riskFilter] at hpasses ⊢
  rw [passes_iff] at hpasses ⊢
  refine ⟨hpasses.1, fun cap amount hamount => ?_⟩
  have hmeasured := measured_mono cap situation.drawCost situation.tenantDailyRewardPayout hle
  exact (by exact_mod_cast hmeasured : (_ : ℚ) ≤ _).trans (hpasses.2 cap amount hamount)

theorem isThreshold_scopeFilter {p : PrizeEngineConstraintPrizeRow → Bool}
    (hp : situation.IsThreshold p) (scope : ConstraintScope) (limit : PrizeEngineConstraintLimit) :
    situation.IsThreshold (situation.scopeFilter scope limit p) := by
  intro row row' hle hkept
  simp only [scopeFilter, Bool.and_eq_true] at hkept ⊢
  exact ⟨hp row row' hle hkept.1, keeps_of_le hle hkept.2⟩

variable {p q : PrizeEngineConstraintPrizeRow → Bool}
  {riskEnvelope riskEnvelope' : EffectiveRiskEnvelope}
  {config config' : PrizeEngineConstraintConfig} {groupId : Option String}

theorem riskFilter_of_covers (hcovers : EnvelopeCovers riskEnvelope' riskEnvelope) :
    ∀ row ∈ situation.prizeRows, situation.riskFilter riskEnvelope' row = true →
      situation.riskFilter riskEnvelope row = true := fun _ hrow hpasses =>
  hcovers.passes situation.drawCost_nonneg situation.payout_nonneg
    (situation.scaledRewardAmount_nonneg hrow) hpasses

theorem scopeFilter_of_covers (scope : ConstraintScope) {limit limit' : PrizeEngineConstraintLimit}
    (hp : situation.IsThreshold p)
    (himp : ∀ row ∈ situation.prizeRows, p row = true → q row = true)
    (hcovers : LimitsCover [limit'] [limit]) (hpositive : IsPositive limit) :
    ∀ row ∈ situation.prizeRows, situation.scopeFilter scope limit' p row = true →
      situation.scopeFilter scope limit q row = true := by
  intro row hrow hkept
  simp only [scopeFilter, Bool.and_eq_true] at hkept ⊢
  exact ⟨himp row hrow hkept.1, keeps_of_covers hcovers hpositive
    (situation.expectedReward_le hp himp) (situation.expectedReward_nonneg p)
    (situation.expected_nonneg scope) hkept.2⟩

theorem within_of_covers (hrisk : EnvelopeCovers riskEnvelope' riskEnvelope)
    (hgroup : groupId ≠ none → LimitsCover [config'.group] [config.group])
    (hagent : LimitsCover [config'.agent] [config.agent])
    (hpositiveGroup : IsPositive config.group) (hpositiveAgent : IsPositive config.agent) :
    (situation.filtered groupId riskEnvelope' config').Within
      (situation.filtered groupId riskEnvelope config) := by
  have hfirst := situation.riskFilter_of_covers hrisk
  have hthreshold := situation.isThreshold_riskFilter riskEnvelope'
  have hsecond : situation.IsThreshold
      (situation.groupFilter groupId config'.group (situation.riskFilter riskEnvelope')) ∧
      ∀ row ∈ situation.prizeRows,
        situation.groupFilter groupId config'.group (situation.riskFilter riskEnvelope') row = true →
          situation.groupFilter groupId config.group (situation.riskFilter riskEnvelope) row =
            true := by
    cases groupId with
    | none => exact ⟨hthreshold, hfirst⟩
    | some group =>
        exact ⟨situation.isThreshold_scopeFilter hthreshold _ _,
          situation.scopeFilter_of_covers .group hthreshold hfirst (hgroup (by simp))
            hpositiveGroup⟩
  have hthird :=
    situation.scopeFilter_of_covers .agent hsecond.1 hsecond.2 hagent hpositiveAgent
  rw [filtered_eq, filtered_eq]
  exact ⟨filter_sublist_filter hfirst,
    filter_sublist_filter fun row hrow => hsecond.2 row (List.mem_of_mem_filter hrow),
    filter_sublist_filter fun row hrow => hthird row (List.mem_of_mem_filter hrow)⟩

theorem within_of_shut (hshut : riskEnvelope'.passes 0 0 0 = false) :
    (situation.filtered groupId riskEnvelope' config').Within
      (situation.filtered groupId riskEnvelope config) := by
  have hnone : ∀ row ∈ situation.prizeRows, situation.riskFilter riskEnvelope' row = false := by
    intro row hrow
    rw [← Bool.not_eq_true]
    intro hpasses
    have hzero : riskEnvelope'.passes 0 0 0 = true := by
      rw [riskFilter, passes_iff] at hpasses
      rw [passes_iff]
      refine ⟨hpasses.1, fun cap amount hamount => le_trans ?_ (hpasses.2 cap amount hamount)⟩
      have hscaled := situation.scaledRewardAmount_nonneg hrow
      have hpayout := situation.payout_nonneg
      have hmeasured : cap.measured 0 0 0 ≤ cap.measured situation.drawCost
          situation.tenantDailyRewardPayout (situation.scaledRewardAmount row) := by
        cases cap <;> simp only [RiskCap.measured] <;> omega
      exact_mod_cast hmeasured
    rw [hshut] at hzero
    exact absurd hzero (by decide)
  have hgroup : ∀ row ∈ situation.prizeRows,
      situation.groupFilter groupId config'.group (situation.riskFilter riskEnvelope') row = true →
        False := by
    intro row hrow hkept
    cases groupId with
    | none => simp [groupFilter, hnone row hrow] at hkept
    | some group => simp [groupFilter, scopeFilter, hnone row hrow] at hkept
  rw [filtered_eq, filtered_eq]
  refine ⟨filter_sublist_filter fun row hrow hkept => ?_,
    filter_sublist_filter fun row hrow hkept => ?_,
    filter_sublist_filter fun row hrow hkept => ?_⟩
  · simp [hnone row hrow] at hkept
  · exact (hgroup row (List.mem_of_mem_filter hrow) hkept).elim
  · rw [scopeFilter, Bool.and_eq_true] at hkept
    exact (hgroup row (List.mem_of_mem_filter hrow) hkept.1).elim

end Situation

/-! ## One prize -/

/-- A project with one prize, which is drawn unless a filter drops it. -/
def onePrizeRow (rewardAmount : Int) : PrizeEngineConstraintPrizeRow where
  id := 1
  prize :=
    { projectId := 1, stock := 1, rewardAmount := rewardAmount, isActive := true, deletedAt := none }
  weight := 1

def onePrize {drawCost payout rewardAmount : Int} (hcost : 0 ≤ drawCost) (hpayout : 0 ≤ payout)
    (hreward : 0 ≤ rewardAmount) (stats : ConstraintScope → PrizeEngineConstraintStats)
    (hwon : ∀ scope, 0 ≤ (stats scope).rewardAmount)
    (hexpected : ∀ scope, 0 ≤ (stats scope).expectedRewardAmount) : Situation where
  prizeRows := [onePrizeRow rewardAmount]
  drawCost := drawCost
  missWeight := 0
  rewardMultiplier := 1
  tenantDailyRewardPayout := payout
  constraintStats := stats
  reward_nonneg := by simpa [onePrizeRow] using hreward
  drawCost_nonneg := hcost
  payout_nonneg := hpayout
  won_nonneg := hwon
  expected_nonneg := hexpected

section OnePrize

variable {riskEnvelope riskEnvelope' : EffectiveRiskEnvelope}
  {config config' : PrizeEngineConstraintConfig} {groupId : Option String}

theorem scaledRewardAmount_onePrize {drawCost payout rewardAmount : Int} (hcost : 0 ≤ drawCost)
    (hpayout : 0 ≤ payout) (hreward : 0 ≤ rewardAmount)
    {stats : ConstraintScope → PrizeEngineConstraintStats} (hwon hexpected) :
    (onePrize hcost hpayout hreward stats hwon hexpected).scaledRewardAmount
      (onePrizeRow rewardAmount) = rewardAmount := by
  simp [Situation.scaledRewardAmount, onePrize, onePrizeRow, scaleRewardAmount]

theorem riskFilter_onePrize {drawCost payout rewardAmount : Int} (hcost : 0 ≤ drawCost)
    (hpayout : 0 ≤ payout) (hreward : 0 ≤ rewardAmount)
    {stats : ConstraintScope → PrizeEngineConstraintStats} (hwon hexpected) :
    (onePrize hcost hpayout hreward stats hwon hexpected).riskFilter riskEnvelope
      (onePrizeRow rewardAmount) = riskEnvelope.passes drawCost payout rewardAmount := by
  rw [Situation.riskFilter, scaledRewardAmount_onePrize]
  rfl

theorem scopeFilter_onePrize {stats : ConstraintScope → PrizeEngineConstraintStats} (hwon hexpected)
    (scope : ConstraintScope) (limit : PrizeEngineConstraintLimit)
    (p : PrizeEngineConstraintPrizeRow → Bool) :
    (onePrize le_rfl le_rfl le_rfl stats hwon hexpected).scopeFilter scope limit p (onePrizeRow 0) =
      (p (onePrizeRow 0) && keeps limit (stats scope) 0 0) := by
  have hnothing : (onePrize le_rfl le_rfl le_rfl stats hwon hexpected).expectedReward p = 0 := by
    have hrows : ((onePrize le_rfl le_rfl le_rfl stats hwon hexpected).prizeRows.filter
        isAvailable) = [onePrizeRow 0] := rfl
    rw [Situation.expectedReward_eq, hrows, mean]
    cases hp : p (onePrizeRow 0) <;> simp [hp, scaledRewardAmount_onePrize]
  rw [Situation.scopeFilter, hnothing, scaledRewardAmount_onePrize]
  rfl

theorem sublist_filter_singleton {α : Type} {p q : α → Bool} {i : α}
    (h : ([i].filter p).Sublist ([i].filter q)) (hp : p i = true) : q i = true := by
  rw [List.filter_cons_of_pos hp] at h
  have hmem := h.subset (List.mem_cons_self)
  exact (List.mem_filter.mp hmem).2

section Within

variable (hwithin : ∀ situation : Situation, (situation.filtered groupId riskEnvelope' config').Within
  (situation.filtered groupId riskEnvelope config))

include hwithin

theorem passes_of_within {drawCost payout rewardAmount : Int} (hcost : 0 ≤ drawCost)
    (hpayout : 0 ≤ payout) (hreward : 0 ≤ rewardAmount)
    (hpasses : riskEnvelope'.passes drawCost payout rewardAmount = true) :
    riskEnvelope.passes drawCost payout rewardAmount = true := by
  have hrisk := (hwithin (onePrize hcost hpayout hreward (fun _ => emptyConstraintStats)
    (fun _ => le_rfl) fun _ => le_rfl)).risk
  rw [Situation.filtered_eq, Situation.filtered_eq] at hrisk
  have hfilter := fun riskEnvelope => @riskFilter_onePrize riskEnvelope _ _ _ hcost hpayout hreward
    (fun _ => emptyConstraintStats) (fun _ => le_rfl) fun _ => le_rfl
  exact (hfilter _).symm.trans (sublist_filter_singleton hrisk ((hfilter _).trans hpasses))

theorem keeps_of_within (hopen : riskEnvelope'.passes 0 0 0 = true)
    (stats : ConstraintScope → PrizeEngineConstraintStats)
    (hwon : ∀ scope, 0 ≤ (stats scope).rewardAmount)
    (hexpected : ∀ scope, 0 ≤ (stats scope).expectedRewardAmount) :
    (groupId ≠ none → keeps config'.group (stats .group) 0 0 = true →
      keeps config.group (stats .group) 0 0 = true) ∧
    ((groupId = none ∨ keeps config'.group (stats .group) 0 0 = true) →
      keeps config'.agent (stats .agent) 0 0 = true →
        keeps config.agent (stats .agent) 0 0 = true) := by
  obtain ⟨-, hgroup, hagent⟩ :=
    hwithin (onePrize le_rfl le_rfl le_rfl stats hwon hexpected)
  rw [Situation.filtered_eq, Situation.filtered_eq] at hgroup hagent
  have hpassed : (onePrize le_rfl le_rfl le_rfl stats hwon hexpected).riskFilter riskEnvelope'
      (onePrizeRow 0) = true := by rw [riskFilter_onePrize, hopen]
  constructor
  · intro hsome hkeeps
    obtain ⟨group, rfl⟩ := Option.ne_none_iff_exists'.mp hsome
    have hkept := sublist_filter_singleton hgroup (by
      simp [Situation.groupFilter, scopeFilter_onePrize, hpassed, hkeeps])
    simp only [Situation.groupFilter, scopeFilter_onePrize, Bool.and_eq_true] at hkept
    exact hkept.2
  · intro hpasses hkeeps
    have hkept := sublist_filter_singleton hagent (by
      cases groupId with
      | none => simp [Situation.groupFilter, scopeFilter_onePrize, hpassed, hkeeps]
      | some group =>
          have hgroupKeeps := hpasses.resolve_left (by simp)
          simp [Situation.groupFilter, scopeFilter_onePrize, hpassed, hkeeps, hgroupKeeps])
    rw [scopeFilter_onePrize, Bool.and_eq_true] at hkept
    exact hkept.2

end Within

theorem keeps_empty {limit : PrizeEngineConstraintLimit} (hpositive : IsPositive limit) :
    keeps limit emptyConstraintStats 0 0 = true := by
  rw [keeps_iff]
  refine ⟨hpositive.draws, fun budget hmem => ?_, fun variance hmem => ?_⟩
  · simpa [emptyConstraintStats] using (hpositive.budget budget hmem).le
  · simpa [computePositiveVariance, emptyConstraintStats] using
      (hpositive.variance variance hmem).le

def ofAgent (stats : PrizeEngineConstraintStats) : ConstraintScope → PrizeEngineConstraintStats
  | .group => emptyConstraintStats
  | .agent => stats

/-- The filters of one configuration leave no more than those of another, whatever a draw finds, if
and only if every cap of the other one is covered, or nothing at all is let through. -/
theorem within_iff_covers (hgroup : IsPositive config.group) (hgroup' : IsPositive config'.group)
    (hagent : IsPositive config.agent) (hagent' : IsPositive config'.agent) :
    (∀ situation : Situation, (situation.filtered groupId riskEnvelope' config').Within
        (situation.filtered groupId riskEnvelope config)) ↔
      (riskEnvelope'.passes 0 0 0 = true → EnvelopeCovers riskEnvelope' riskEnvelope ∧
        (groupId ≠ none → LimitsCover [config'.group] [config.group]) ∧
        LimitsCover [config'.agent] [config.agent]) := by
  constructor
  · intro hwithin hopen
    refine ⟨envelopeCovers_of_passes (fun _ _ _ => passes_of_within hwithin) hopen, ?_, ?_⟩
    · intro hsome
      refine limitsCover_of_keeps hgroup' hgroup fun stats hwon hexpected hkeeps => ?_
      exact (keeps_of_within hwithin hopen (fun _ => stats) (fun _ => hwon) fun _ => hexpected).1
        hsome hkeeps
    · refine limitsCover_of_keeps hagent' hagent fun stats hwon hexpected hkeeps => ?_
      have hfound := keeps_of_within hwithin hopen (ofAgent stats)
        (by rintro (_ | _); exacts [le_rfl, hwon]) (by rintro (_ | _); exacts [le_rfl, hexpected])
      exact hfound.2 (Or.inr (keeps_empty hgroup')) hkeeps
  · intro hcovers situation
    cases hopen : riskEnvelope'.passes 0 0 0 with
    | false => exact situation.within_of_shut hopen
    | true =>
        obtain ⟨hrisk, hgroups, hagents⟩ := hcovers hopen
        exact situation.within_of_covers hrisk hgroups hagents hgroup hagent

end OnePrize

end RewardSystem.PrizeEngine.Envelopes
