import Mathlib.Algebra.BigOperators.Group.List.Basic
import Mathlib.Algebra.Order.BigOperators.Group.List
import Mathlib.Algebra.Order.Floor.Ring
import Mathlib.Data.List.Sort
import Mathlib.Data.Rat.Floor
import Mathlib.Tactic.Linarith

/-!
# What a draw is made to expect

`prepareDrawSelection` adds a miss to the prizes that weighs as much as it takes for the expected
reward not to exceed a ratio of the draw's cost. After a streak of misses the miss gets lighter.
Numbers are exact; the random numbers of the jitter are an input.
-/

namespace RewardSystem.Draw

structure PrizeCandidate where
  id : Nat
  weight : Nat
  rewardAmount : ℚ
  deriving DecidableEq, Repr

structure ProbabilityControl where
  weightJitterEnabled : Bool
  weightJitterMin : ℚ
  weightJitterMax : ℚ
  probabilityScale : ℚ
  jackpotProbabilityBoost : ℚ
  pityEnabled : Bool
  pityThreshold : ℚ
  pityBoostPct : ℚ
  pityMaxBoostPct : ℚ
  deriving DecidableEq, Repr

structure Randomization where
  weightJitterEnabled : Bool
  weightJitterPct : ℚ
  deriving DecidableEq, Repr

/-- What the selection reads, with the random number that the jitter draws for a prize. -/
structure SelectionInput where
  poolCandidates : List PrizeCandidate
  drawCost : ℚ
  pityStreakBefore : Nat
  maxPayoutRatio : ℚ
  probabilityControl : ProbabilityControl
  randomization : Randomization
  seededFloat : Nat → ℚ → ℚ → ℚ

/-- `Math.round`: halves go up. -/
def mathRound (x : ℚ) : ℤ :=
  ⌊x + 1 / 2⌋

/-- More than one is a percentage. -/
def normalizePct (value : ℚ) : ℚ :=
  if 1 < value then value / 100 else value

def normalizeRangeValue (value : ℚ) : ℚ :=
  if 1 < |value| then value / 100 else value

def scaledWeight (weight : Nat) (factor : ℚ) : Nat :=
  (max 1 (mathRound (weight * factor))).toNat

def applyWeightJitter (items : List PrizeCandidate) (enabled : Bool) (lowest highest : ℚ)
    (seededFloat : Nat → ℚ → ℚ → ℚ) : List PrizeCandidate :=
  if enabled = false ∨ lowest = 0 ∧ highest = 0 then
    items
  else
    items.map fun item =>
      { item with weight := scaledWeight item.weight (1 + seededFloat item.id lowest highest) }

namespace SelectionInput

variable (input : SelectionInput)

def eligibleSorted : List PrizeCandidate :=
  input.poolCandidates.insertionSort fun a b => a.id ≤ b.id

def normalizedScale : ℚ :=
  if 0 < input.probabilityControl.probabilityScale then input.probabilityControl.probabilityScale
  else 1

def maxReward : ℚ :=
  (input.eligibleSorted.map PrizeCandidate.rewardAmount).foldl max 0

/-- The prizes with the greatest reward are boosted. -/
def scaledEligible : List PrizeCandidate :=
  let jackpotBoostPct := normalizePct input.probabilityControl.jackpotProbabilityBoost
  input.eligibleSorted.map fun item =>
    let baseWeight := scaledWeight item.weight input.normalizedScale
    { item with
      weight :=
        if 0 < jackpotBoostPct ∧ 0 < item.rewardAmount ∧ item.rewardAmount = input.maxReward then
          scaledWeight baseWeight (1 + jackpotBoostPct)
        else baseWeight }

def jitteredEligible : List PrizeCandidate :=
  let fallbackPct := input.randomization.weightJitterPct
  let jitterEnabled := input.probabilityControl.weightJitterEnabled ||
    (input.randomization.weightJitterEnabled && decide (0 < fallbackPct))
  let jitterMin :=
    if input.probabilityControl.weightJitterEnabled then
      normalizeRangeValue input.probabilityControl.weightJitterMin
    else normalizeRangeValue (-fallbackPct)
  let jitterMax :=
    if input.probabilityControl.weightJitterEnabled then
      normalizeRangeValue input.probabilityControl.weightJitterMax
    else normalizeRangeValue fallbackPct
  applyWeightJitter input.scaledEligible jitterEnabled jitterMin jitterMax input.seededFloat

def expectedPayout : ℚ :=
  (input.jitteredEligible.map fun item => item.rewardAmount * (item.weight : ℚ)).sum

def totalWeightBase : Nat :=
  (input.jitteredEligible.map PrizeCandidate.weight).sum

def targetExpectedValue : ℚ :=
  if 0 < input.maxPayoutRatio then input.drawCost * input.maxPayoutRatio else 0

def missWeightBase : Nat :=
  if 0 < input.targetExpectedValue ∧ 0 < input.expectedPayout then
    (max 0 (⌈input.expectedPayout / input.targetExpectedValue⌉ - input.totalWeightBase)).toNat
  else 0

/-- The streak has reached the threshold. -/
def pityApplies : Prop :=
  input.probabilityControl.pityEnabled ∧ 0 < input.probabilityControl.pityThreshold ∧
    0 < normalizePct input.probabilityControl.pityBoostPct ∧
    input.probabilityControl.pityThreshold ≤ input.pityStreakBefore

instance : Decidable input.pityApplies :=
  inferInstanceAs (Decidable (_ ∧ _))

def capBoost (boost : ℚ) : ℚ :=
  let pityMaxBoostPct := normalizePct input.probabilityControl.pityMaxBoostPct
  if 0 < pityMaxBoostPct then min boost pityMaxBoostPct else boost

def pityBoostApplied : ℚ :=
  if input.pityApplies then
    let steps := input.pityStreakBefore - input.probabilityControl.pityThreshold + 1
    input.capBoost (normalizePct input.probabilityControl.pityBoostPct * steps)
  else 0

def missWeight : Nat :=
  if 0 < input.missWeightBase ∧ 0 < input.pityBoostApplied then
    (max 0 (mathRound (input.missWeightBase * (1 - input.pityBoostApplied)))).toNat
  else input.missWeightBase

def totalWeightWithMiss : Nat :=
  input.totalWeightBase + input.missWeight

def expectedValueWithMiss : ℚ :=
  if 0 < input.totalWeightWithMiss then input.expectedPayout / input.totalWeightWithMiss else 0

def winProbability : ℚ :=
  input.totalWeightBase / input.totalWeightWithMiss

def afterStreak (streak : Nat) : SelectionInput :=
  { input with pityStreakBefore := streak }

end SelectionInput

variable {input : SelectionInput} {streak streak' : Nat}

/-! ## The weight of the miss -/

theorem one_le_scaledWeight (weight : Nat) (factor : ℚ) : 1 ≤ scaledWeight weight factor := by
  unfold scaledWeight
  omega

theorem exists_of_mem_jittered {items : List PrizeCandidate} {enabled : Bool} {lowest highest : ℚ}
    {seededFloat : Nat → ℚ → ℚ → ℚ} {item : PrizeCandidate}
    (hitem : item ∈ applyWeightJitter items enabled lowest highest seededFloat) :
    ∃ old ∈ items, item.rewardAmount = old.rewardAmount ∧ (1 ≤ old.weight → 1 ≤ item.weight) := by
  unfold applyWeightJitter at hitem
  split at hitem
  · exact ⟨item, hitem, rfl, fun h => h⟩
  · obtain ⟨old, hold, rfl⟩ := List.mem_map.mp hitem
    exact ⟨old, hold, rfl, fun _ => one_le_scaledWeight _ _⟩

theorem one_le_weight {item : PrizeCandidate} (hitem : item ∈ input.jitteredEligible) :
    1 ≤ item.weight := by
  have hscaled : ∀ item ∈ input.scaledEligible, 1 ≤ item.weight := by
    intro item hitem
    obtain ⟨old, -, rfl⟩ := List.mem_map.mp hitem
    dsimp only
    split
    · exact one_le_scaledWeight _ _
    · exact one_le_scaledWeight _ _
  obtain ⟨old, hold, -, hweight⟩ := exists_of_mem_jittered hitem
  exact hweight (hscaled old hold)

theorem rewardAmount_nonneg (hreward : ∀ item ∈ input.poolCandidates, 0 ≤ item.rewardAmount)
    {item : PrizeCandidate} (hitem : item ∈ input.jitteredEligible) : 0 ≤ item.rewardAmount := by
  have hscaled : ∀ item ∈ input.scaledEligible, 0 ≤ item.rewardAmount := by
    intro item hitem
    obtain ⟨old, hold, rfl⟩ := List.mem_map.mp hitem
    exact hreward old ((List.mem_insertionSort _).mp hold)
  obtain ⟨old, hold, heq, -⟩ := exists_of_mem_jittered hitem
  exact heq ▸ hscaled old hold

theorem expectedPayout_nonneg (hreward : ∀ item ∈ input.poolCandidates, 0 ≤ item.rewardAmount) :
    0 ≤ input.expectedPayout := by
  refine List.sum_nonneg fun value hvalue => ?_
  obtain ⟨item, hitem, rfl⟩ := List.mem_map.mp hvalue
  exact mul_nonneg (rewardAmount_nonneg hreward hitem) (Nat.cast_nonneg _)

theorem expectedPayout_of_weightless (h : input.totalWeightBase = 0) : input.expectedPayout = 0 := by
  have hnil : input.jitteredEligible = [] := by
    by_contra hne
    obtain ⟨item, hitem⟩ := List.exists_mem_of_ne_nil _ hne
    have hmem : item.weight ∈ input.jitteredEligible.map PrizeCandidate.weight :=
      List.mem_map_of_mem hitem
    have hle := List.single_le_sum (fun _ _ => Nat.zero_le _) _ hmem
    have hone := one_le_weight hitem
    unfold SelectionInput.totalWeightBase at h
    omega
  unfold SelectionInput.expectedPayout
  rw [hnil]
  rfl

theorem expected_le_target_iff {target : ℚ} (htarget : 0 < target) (m : Nat) :
    input.expectedPayout / (input.totalWeightBase + m) ≤ target ↔
      ⌈input.expectedPayout / target⌉ ≤ input.totalWeightBase + m := by
  rw [Int.ceil_le]
  push_cast
  by_cases hzero : input.totalWeightBase + m = 0
  · have hpayout : input.expectedPayout = 0 := expectedPayout_of_weightless (by omega)
    have hcast : (input.totalWeightBase : ℚ) + m = 0 := by exact_mod_cast hzero
    rw [hpayout, hcast]
    simp [htarget.le]
  · have hpos : (0 : ℚ) < input.totalWeightBase + m := by
      exact_mod_cast Nat.pos_of_ne_zero hzero
    rw [div_le_iff₀ hpos, div_le_iff₀ htarget, mul_comm]

theorem isLeast_missWeightBase (hcost : 0 < input.drawCost) (hratio : 0 < input.maxPayoutRatio)
    (hreward : ∀ item ∈ input.poolCandidates, 0 ≤ item.rewardAmount) :
    IsLeast {m : Nat | input.expectedPayout / (input.totalWeightBase + m) ≤
      input.drawCost * input.maxPayoutRatio} input.missWeightBase := by
  have htarget : 0 < input.drawCost * input.maxPayoutRatio := mul_pos hcost hratio
  have heq : input.targetExpectedValue = input.drawCost * input.maxPayoutRatio := if_pos hratio
  have hbase : (input.missWeightBase : ℤ) = max 0
      (⌈input.expectedPayout / (input.drawCost * input.maxPayoutRatio)⌉ - input.totalWeightBase) := by
    unfold SelectionInput.missWeightBase
    rw [heq]
    split
    case isTrue => omega
    case isFalse hnot =>
      have hpayout : input.expectedPayout = 0 :=
        le_antisymm (not_lt.mp fun h => hnot ⟨htarget, h⟩) (expectedPayout_nonneg hreward)
      rw [hpayout, zero_div, Int.ceil_zero]
      omega
  constructor
  · change input.expectedPayout / (input.totalWeightBase + input.missWeightBase) ≤ _
    rw [expected_le_target_iff htarget]
    omega
  · intro m hm
    have hle := (expected_le_target_iff htarget m).mp hm
    omega

/-! ## Pity -/

theorem mathRound_mono {x y : ℚ} (h : x ≤ y) : mathRound x ≤ mathRound y :=
  Int.floor_le_floor (by linarith)

theorem mathRound_natCast (n : Nat) : mathRound n = n := by
  unfold mathRound
  rw [Int.floor_eq_iff]
  push_cast
  constructor <;> linarith

theorem missWeight_le_base : input.missWeight ≤ input.missWeightBase := by
  unfold SelectionInput.missWeight
  split
  case isTrue h =>
    have hle : (input.missWeightBase : ℚ) * (1 - input.pityBoostApplied) ≤ input.missWeightBase := by
      have hprod := mul_pos (Nat.cast_pos.mpr h.1 : (0 : ℚ) < input.missWeightBase) h.2
      linarith
    have hround := mathRound_mono hle
    rw [mathRound_natCast] at hround
    omega
  case isFalse => exact le_rfl

theorem capBoost_mono {boost boost' : ℚ} (h : boost ≤ boost') :
    input.capBoost boost ≤ input.capBoost boost' := by
  unfold SelectionInput.capBoost
  dsimp only
  split
  · exact min_le_min_right _ h
  · exact h

theorem capBoost_nonneg {boost : ℚ} (h : 0 ≤ boost) : 0 ≤ input.capBoost boost := by
  unfold SelectionInput.capBoost
  dsimp only
  split
  case isTrue hmax => exact le_min h hmax.le
  case isFalse => exact h

theorem pityBoostApplied_nonneg : 0 ≤ input.pityBoostApplied := by
  unfold SelectionInput.pityBoostApplied
  split
  case isTrue h =>
    obtain ⟨-, -, hboost, hstreak⟩ := h
    exact capBoost_nonneg (mul_nonneg hboost.le (by linarith))
  case isFalse => exact le_rfl

theorem pityBoostApplied_mono (h : streak ≤ streak') :
    (input.afterStreak streak).pityBoostApplied ≤ (input.afterStreak streak').pityBoostApplied := by
  have hcast : (streak : ℚ) ≤ streak' := by exact_mod_cast h
  by_cases hpity : (input.afterStreak streak).pityApplies
  · obtain ⟨henabled, hthreshold, hboost, hstreak⟩ := hpity
    have hpity' : (input.afterStreak streak').pityApplies :=
      ⟨henabled, hthreshold, hboost, hstreak.trans hcast⟩
    calc (input.afterStreak streak).pityBoostApplied
        = input.capBoost (normalizePct input.probabilityControl.pityBoostPct *
            (streak - input.probabilityControl.pityThreshold + 1)) :=
          if_pos ⟨henabled, hthreshold, hboost, hstreak⟩
      _ ≤ input.capBoost (normalizePct input.probabilityControl.pityBoostPct *
            (streak' - input.probabilityControl.pityThreshold + 1)) :=
          capBoost_mono (mul_le_mul_of_nonneg_left (by linarith) hboost.le)
      _ = (input.afterStreak streak').pityBoostApplied := (if_pos hpity').symm
  · have hnone : (input.afterStreak streak).pityBoostApplied = 0 := if_neg hpity
    rw [hnone]
    exact pityBoostApplied_nonneg

theorem missWeight_antitone (h : streak ≤ streak') :
    (input.afterStreak streak').missWeight ≤ (input.afterStreak streak).missWeight := by
  have hboost := @pityBoostApplied_mono input _ _ h
  have hbase : (input.afterStreak streak').missWeightBase = (input.afterStreak streak).missWeightBase :=
    rfl
  by_cases hpity : 0 < (input.afterStreak streak).missWeightBase ∧
      0 < (input.afterStreak streak).pityBoostApplied
  · have hround : mathRound ((input.afterStreak streak').missWeightBase *
        (1 - (input.afterStreak streak').pityBoostApplied)) ≤
        mathRound ((input.afterStreak streak).missWeightBase *
          (1 - (input.afterStreak streak).pityBoostApplied)) := by
      rw [hbase]
      exact mathRound_mono (mul_le_mul_of_nonneg_left (by linarith) (Nat.cast_nonneg _))
    unfold SelectionInput.missWeight
    rw [if_pos hpity, if_pos ⟨hbase ▸ hpity.1, hpity.2.trans_le hboost⟩]
    omega
  · have hfull : (input.afterStreak streak).missWeight = (input.afterStreak streak).missWeightBase :=
      if_neg hpity
    rw [hfull, ← hbase]
    exact missWeight_le_base

theorem missWeight_of_not_boosted (h : ¬0 < input.pityBoostApplied) :
    input.missWeight = input.missWeightBase :=
  if_neg fun hpity => h hpity.2

theorem missWeight_below_threshold
    (h : (input.pityStreakBefore : ℚ) < input.probabilityControl.pityThreshold) :
    input.missWeight = input.missWeightBase := by
  have hnone : input.pityBoostApplied = 0 := if_neg fun hpity => not_lt.mpr hpity.2.2.2 h
  exact missWeight_of_not_boosted (by rw [hnone]; exact lt_irrefl 0)

theorem missWeight_without_pity (h : input.probabilityControl.pityEnabled = false) :
    input.missWeight = input.missWeightBase := by
  have hnone : input.pityBoostApplied = 0 := if_neg fun hpity => by
    simp [SelectionInput.pityApplies, h] at hpity
  exact missWeight_of_not_boosted (by rw [hnone]; exact lt_irrefl 0)

theorem winProbability_mono (h : streak ≤ streak') :
    (input.afterStreak streak).winProbability ≤ (input.afterStreak streak').winProbability := by
  have hbase : (input.afterStreak streak').totalWeightBase =
      (input.afterStreak streak).totalWeightBase := rfl
  have hmiss := @missWeight_antitone input _ _ h
  unfold SelectionInput.winProbability SelectionInput.totalWeightWithMiss
  rw [hbase]
  by_cases hzero : (input.afterStreak streak).totalWeightBase = 0
  · rw [hzero]
    simp
  · refine div_le_div_of_nonneg_left (Nat.cast_nonneg _) ?_ ?_
    · exact_mod_cast Nat.add_pos_left (Nat.pos_of_ne_zero hzero) _
    · exact_mod_cast Nat.add_le_add_left hmiss _

/-! ## The guard -/

structure ExpectedValueGuard (input : SelectionInput) : Prop where
  least : IsLeast {m : Nat |
    (input.jitteredEligible.map fun item : PrizeCandidate => item.rewardAmount * (item.weight : ℚ)).sum /
        ((input.jitteredEligible.map PrizeCandidate.weight).sum + m) ≤
      input.drawCost * input.maxPayoutRatio} input.missWeightBase
  bounded : 0 ≤ input.missWeight ∧ input.missWeight ≤ input.missWeightBase
  antitone : ∀ streak streak', streak ≤ streak' →
    (input.afterStreak streak').missWeight ≤ (input.afterStreak streak).missWeight
  belowThreshold : (input.pityStreakBefore : ℚ) < input.probabilityControl.pityThreshold →
    input.missWeight = input.missWeightBase
  withoutPity : input.probabilityControl.pityEnabled = false →
    input.expectedValueWithMiss ≤ input.drawCost * input.maxPayoutRatio
  winning : ∀ streak streak', streak ≤ streak' →
    (input.afterStreak streak).winProbability ≤ (input.afterStreak streak').winProbability

/-- **Without pity a draw never expects more than its target, and pity only helps.** -/
theorem expectedValueGuard (hcost : 0 < input.drawCost) (hratio : 0 < input.maxPayoutRatio)
    (hreward : ∀ item ∈ input.poolCandidates, 0 ≤ item.rewardAmount) :
    ExpectedValueGuard input := by
  have hleast := isLeast_missWeightBase hcost hratio hreward
  refine ⟨?_, ⟨Nat.zero_le _, missWeight_le_base⟩, fun _ _ => missWeight_antitone,
    missWeight_below_threshold, fun hpity => ?_, fun _ _ => winProbability_mono⟩
  · exact hleast
  · unfold SelectionInput.expectedValueWithMiss SelectionInput.totalWeightWithMiss
    rw [missWeight_without_pity hpity]
    split
    · push_cast
      exact hleast.1
    · exact (mul_pos hcost hratio).le

/-- Two prizes, with pity after three misses. -/
def sampleInput : SelectionInput :=
  { poolCandidates := [⟨1, 10, 1⟩, ⟨2, 10, 10⟩]
    drawCost := 10
    pityStreakBefore := 4
    maxPayoutRatio := 1 / 4
    probabilityControl :=
      { weightJitterEnabled := false
        weightJitterMin := 0
        weightJitterMax := 0
        probabilityScale := 1
        jackpotProbabilityBoost := 0
        pityEnabled := true
        pityThreshold := 3
        pityBoostPct := 20
        pityMaxBoostPct := 0 }
    randomization := { weightJitterEnabled := false, weightJitterPct := 0 }
    seededFloat := fun _ lowest _ => lowest }

/-- The miss weighs 24, and after four misses 14. -/
theorem expectedValueGuard_sample :
    sampleInput.missWeightBase = 24 ∧ sampleInput.missWeight = 14 ∧ ExpectedValueGuard sampleInput :=
  ⟨by decide +kernel, by decide +kernel,
    expectedValueGuard (by decide +kernel) (by decide +kernel) (by decide +kernel)⟩

end RewardSystem.Draw
