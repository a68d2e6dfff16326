import Mathlib.Data.Rat.Floor
import RewardSystem.Lib.Sorting
import RewardSystem.PredictionMarket.Settlement

/-!
# Every cent of a settlement

What each position is paid, and that the order in which the positions are listed does not matter.
-/

namespace RewardSystem.PredictionMarket

variable {positions shuffled : List SettlementPosition} {winningOutcomeKey : String} {vigBps : Int}
  {payoutPool winningPool centsRemaining : Int} {position other : SettlementPosition}

/-! ## What a settlement says about a position -/

/-- What the settlement pays the position of the given id. -/
def PariMutuelSettlementResult.payoutOf (result : PariMutuelSettlementResult) (id : Nat) :
    Option Int :=
  (Keyed.lookup SettlementPositionResult.id id result.positionResults).map
    SettlementPositionResult.payoutAmount

/-- The part of the payout pool that is due to a stake, in cents. -/
def exactShare (payoutPool winningPool : Int) (position : SettlementPosition) : ℚ :=
  (position.stakeAmount * payoutPool : Int) / (winningPool : ℚ)

/-- What the settlement owes a winning stake exactly. -/
def PariMutuelSettlementResult.due (result : PariMutuelSettlementResult)
    (positions : List SettlementPosition) (winningOutcomeKey : String)
    (position : SettlementPosition) : ℚ :=
  exactShare result.payoutPoolAmount (stakeTotal (winningPositions positions winningOutcomeKey))
    position

/-- A pool that some position has won is shared out in whole cents. -/
structure SharedExactly (positions : List SettlementPosition) (winningOutcomeKey : String)
    (vigBps : Int) (result : PariMutuelSettlementResult) : Prop where
  fee : result.feeAmount = ⌊(stakeTotal positions * vigBps : Int) / (10000 : ℚ)⌋
  pool : result.payoutPoolAmount = stakeTotal positions - result.feeAmount
  payouts : (result.positionResults.map SettlementPositionResult.payoutAmount).sum
    = stakeTotal positions - result.feeAmount
  losers : ∀ position ∈ positions, position.outcomeKey ≠ winningOutcomeKey →
    result.payoutOf position.id = some 0
  winners : ∀ position ∈ winningPositions positions winningOutcomeKey,
    result.payoutOf position.id = some ⌊result.due positions winningOutcomeKey position⌋ ∨
      result.payoutOf position.id = some (⌊result.due positions winningOutcomeKey position⌋ + 1)
  largest : ∀ position ∈ winningPositions positions winningOutcomeKey,
    ∀ other ∈ winningPositions positions winningOutcomeKey,
    result.payoutOf position.id = some (⌊result.due positions winningOutcomeKey position⌋ + 1) →
    result.payoutOf other.id = some ⌊result.due positions winningOutcomeKey other⌋ →
    Int.fract (result.due positions winningOutcomeKey other)
      ≤ Int.fract (result.due positions winningOutcomeKey position)

/-- A pool that no position has won goes back. -/
structure StakesReturned (positions : List SettlementPosition)
    (result : PariMutuelSettlementResult) : Prop where
  fee : result.feeAmount = 0
  stakes : ∀ position ∈ positions, result.payoutOf position.id = some position.stakeAmount

/-! ## The result of each position -/

def settledResult (winningOutcomeKey : String) (payoutPool winningPool : Int)
    (extraCents : Nat → Nat) (position : SettlementPosition) : SettlementPositionResult :=
  { id := position.id
    userId := position.userId
    payoutAmount :=
      if position.outcomeKey = winningOutcomeKey then
        (exactPayout payoutPool winningPool position).roundedDown + extraCents position.id
      else 0
    status := if position.outcomeKey = winningOutcomeKey then .won else .lost }

theorem positionResult_eq (hkeys : Keyed.HasKeys SettlementPosition.id positions)
    (hmem : position ∈ positions) (extraCents : Nat → Nat) :
    positionResult winningOutcomeKey
      ((winningPositions positions winningOutcomeKey).map (exactPayout payoutPool winningPool))
      extraCents position
      = .ok (settledResult winningOutcomeKey payoutPool winningPool extraCents position) := by
  unfold positionResult settledResult
  by_cases hwins : position.outcomeKey = winningOutcomeKey
  · have hwinner : position ∈ winningPositions positions winningOutcomeKey := by
      simp [winningPositions, hmem, hwins]
    simp [hwins, lookup_exactPayout _ _ (hasKeys_winningPositions hkeys) hwinner]
  · simp [hwins]

theorem mapM_positionResult (hkeys : Keyed.HasKeys SettlementPosition.id positions)
    (extraCents : Nat → Nat) :
    positions.mapM (positionResult winningOutcomeKey
      ((winningPositions positions winningOutcomeKey).map (exactPayout payoutPool winningPool))
      extraCents)
      = .ok (positions.map (settledResult winningOutcomeKey payoutPool winningPool extraCents)) :=
  ApiError.mapM_eq_ok fun _ hmem => positionResult_eq hkeys hmem extraCents

theorem payoutOf_map {result : PariMutuelSettlementResult}
    {resultOf : SettlementPosition → SettlementPositionResult}
    (hkeys : Keyed.HasKeys SettlementPosition.id positions)
    (hids : ∀ position, (resultOf position).id = position.id)
    (hresults : result.positionResults = positions.map resultOf) (hmem : position ∈ positions) :
    result.payoutOf position.id = some (resultOf position).payoutAmount := by
  have hrows : Keyed.HasKeys SettlementPositionResult.id (positions.map resultOf) := by
    simpa [Keyed.HasKeys, Function.comp_def, hids] using hkeys
  unfold PariMutuelSettlementResult.payoutOf
  rw [hresults, ← hids position, Keyed.lookup_of_mem hrows (List.mem_map_of_mem hmem)]
  rfl

/-! ## The cents that are left over -/

theorem rankedRemainders_total (left right : ExactPayout) :
    (right.remainder < left.remainder ∨ (left.remainder = right.remainder ∧ left.id ≤ right.id)) ∨
      (left.remainder < right.remainder ∨
        (right.remainder = left.remainder ∧ right.id ≤ left.id)) := by
  omega

theorem rankedRemainders_pairwise (exactPayouts : List ExactPayout) :
    (rankedRemainders exactPayouts).Pairwise fun left right =>
      right.remainder < left.remainder ∨ (left.remainder = right.remainder ∧ left.id ≤ right.id) :=
  Sorting.pairwise_insertionSort rankedRemainders_total (fun _ _ _ _ _ => by omega) _

theorem rankedRemainders_eq_of_perm {exactPayouts listed : List ExactPayout}
    (hkeys : Keyed.HasKeys ExactPayout.id exactPayouts) (hperm : exactPayouts.Perm listed) :
    rankedRemainders exactPayouts = rankedRemainders listed := by
  refine Sorting.insertionSort_eq_of_perm rankedRemainders_total (fun _ _ _ _ _ => by omega)
    (fun left hleft right hright hle hge => ?_) hperm
  have hid : left.id = right.id := by omega
  exact List.inj_on_of_nodup_map hkeys hleft hright hid

/-- The ids of those who get one of the cents that are left over. -/
def luckyIds (exactPayouts : List ExactPayout) (centsRemaining : Int) : List Nat :=
  ((rankedRemainders exactPayouts).take centsRemaining.toNat).map ExactPayout.id

theorem extraCents_eq {exactPayouts : List ExactPayout}
    (hkeys : Keyed.HasKeys ExactPayout.id exactPayouts)
    (hlt : centsRemaining < exactPayouts.length) (id : Nat) :
    extraCentsByPositionId exactPayouts centsRemaining id =
      if id ∈ luckyIds exactPayouts centsRemaining then 1 else 0 := by
  have hperm := rankedRemainders_perm exactPayouts
  unfold extraCentsByPositionId luckyIds
  rw [List.map_take]
  refine Apportion.goRound_of_le ((hperm.map ExactPayout.id).nodup_iff.mpr hkeys) ?_
  rw [List.length_map, hperm.length_eq]
  omega

theorem remainder_le_of_lucky {exactPayouts : List ExactPayout} {lucky unlucky : ExactPayout}
    (hkeys : Keyed.HasKeys ExactPayout.id exactPayouts) (hlucky : lucky ∈ exactPayouts)
    (hunlucky : unlucky ∈ exactPayouts) (hgets : lucky.id ∈ luckyIds exactPayouts centsRemaining)
    (hnone : unlucky.id ∉ luckyIds exactPayouts centsRemaining) :
    unlucky.remainder ≤ lucky.remainder := by
  have hperm := rankedRemainders_perm exactPayouts
  obtain ⟨row, hrow, hid⟩ := List.mem_map.mp hgets
  have hsame : row = lucky :=
    List.inj_on_of_nodup_map hkeys (hperm.subset (List.mem_of_mem_take hrow)) hlucky hid
  have hrel := Sorting.rel_of_mem_take_of_notMem (rankedRemainders_pairwise exactPayouts)
    (hsame ▸ hrow) (hperm.symm.subset hunlucky) fun h => hnone (List.mem_map_of_mem h)
  omega

/-! ## Whole cents and fractions -/

theorem floor_exactShare (hpool : 0 ≤ payoutPool) (hwinning : 0 < winningPool)
    (hstake : 0 ≤ position.stakeAmount) :
    ⌊exactShare payoutPool winningPool position⌋
      = (exactPayout payoutPool winningPool position).roundedDown := by
  lift winningPool to Nat using hwinning.le
  have hdue : 0 ≤ position.stakeAmount * payoutPool := mul_nonneg hstake hpool
  simp only [exactShare, exactPayout, Int.tdiv_eq_ediv_of_nonneg hdue, Int.cast_natCast]
  exact Rat.floor_intCast_div_natCast _ _

theorem fract_exactShare (hpool : 0 ≤ payoutPool) (hwinning : 0 < winningPool)
    (hstake : 0 ≤ position.stakeAmount) :
    Int.fract (exactShare payoutPool winningPool position)
      = (exactPayout payoutPool winningPool position).remainder / (winningPool : ℚ) := by
  lift winningPool to Nat using hwinning.le
  have hdue : 0 ≤ position.stakeAmount * payoutPool := mul_nonneg hstake hpool
  simp only [exactShare, exactPayout, Int.tmod_eq_emod_of_nonneg hdue, Int.cast_natCast]
  exact Int.fract_div_intCast_eq_div_intCast_mod

/-! ## A pool that has been won -/

section Won

variable (positions shuffled winningOutcomeKey vigBps)

def payoutPoolOf : Int :=
  stakeTotal positions - (stakeTotal positions * vigBps).tdiv 10000

def wonPayouts : List ExactPayout :=
  (winningPositions positions winningOutcomeKey).map (exactPayout (payoutPoolOf positions vigBps)
    (stakeTotal (winningPositions positions winningOutcomeKey)))

def centsLeftOver : Int :=
  payoutPoolOf positions vigBps
    - ((wonPayouts positions winningOutcomeKey vigBps).map ExactPayout.roundedDown).sum

def payoutSettlement : PariMutuelSettlementResult :=
  { mode := .payout
    vigBps := vigBps
    totalPoolAmount := stakeTotal positions
    winningPoolAmount := stakeTotal (winningPositions positions winningOutcomeKey)
    feeAmount := (stakeTotal positions * vigBps).tdiv 10000
    payoutPoolAmount := payoutPoolOf positions vigBps
    positionResults := positions.map (settledResult winningOutcomeKey
      (payoutPoolOf positions vigBps) (stakeTotal (winningPositions positions winningOutcomeKey))
      (extraCentsByPositionId (wonPayouts positions winningOutcomeKey vigBps)
        (centsLeftOver positions winningOutcomeKey vigBps))) }

end Won

theorem stakeTotal_pos (hstakes : ∀ position ∈ positions, 0 < position.stakeAmount)
    (hne : positions ≠ []) : 0 < stakeTotal positions :=
  List.sum_pos _ (by simpa using hstakes) (by simpa using hne)

theorem payoutPoolOf_nonneg (hstakes : ∀ position ∈ positions, 0 < position.stakeAmount)
    (hvig : 0 ≤ vigBps ∧ vigBps ≤ 10000) : 0 ≤ payoutPoolOf positions vigBps := by
  have htotal : 0 ≤ stakeTotal positions :=
    List.sum_nonneg (by simpa using fun position hp => (hstakes position hp).le)
  have hmul : 0 ≤ stakeTotal positions * vigBps := mul_nonneg htotal hvig.1
  have hfee : (stakeTotal positions * vigBps).tdiv 10000 ≤ stakeTotal positions := by
    calc (stakeTotal positions * vigBps).tdiv 10000
        = stakeTotal positions * vigBps / 10000 := Int.tdiv_eq_ediv_of_nonneg hmul
      _ ≤ stakeTotal positions * 10000 / 10000 :=
          Int.ediv_le_ediv (by decide) (mul_le_mul_of_nonneg_left hvig.2 htotal)
      _ = stakeTotal positions := Int.mul_ediv_cancel _ (by decide)
  exact sub_nonneg.mpr hfee

theorem mem_winningPositions :
    position ∈ winningPositions positions winningOutcomeKey ↔
      position ∈ positions ∧ position.outcomeKey = winningOutcomeKey := by
  simp [winningPositions]

theorem hasKeys_wonPayouts (hkeys : Keyed.HasKeys SettlementPosition.id positions) :
    Keyed.HasKeys ExactPayout.id (wonPayouts positions winningOutcomeKey vigBps) := by
  have hwinners : Keyed.HasKeys SettlementPosition.id
      (winningPositions positions winningOutcomeKey) := hasKeys_winningPositions hkeys
  simpa [Keyed.HasKeys, Function.comp_def, exactPayout, wonPayouts] using hwinners

structure Won (positions : List SettlementPosition) (winningOutcomeKey : String) (vigBps : Int) :
    Prop where
  keys : Keyed.HasKeys SettlementPosition.id positions
  stakes : ∀ position ∈ positions, 0 < position.stakeAmount
  vig : 0 ≤ vigBps ∧ vigBps ≤ 10000
  winners : winningPositions positions winningOutcomeKey ≠ []

namespace Won

theorem winner_stakes (h : Won positions winningOutcomeKey vigBps) :
    ∀ position ∈ winningPositions positions winningOutcomeKey, 0 < position.stakeAmount :=
  fun position hposition => h.stakes position (mem_winningPositions.mp hposition).1

theorem winningPool_pos (h : Won positions winningOutcomeKey vigBps) :
    0 < stakeTotal (winningPositions positions winningOutcomeKey) :=
  stakeTotal_pos h.winner_stakes h.winners

theorem payoutPool_nonneg (h : Won positions winningOutcomeKey vigBps) :
    0 ≤ payoutPoolOf positions vigBps :=
  payoutPoolOf_nonneg h.stakes h.vig

theorem centsLeftOver_bounds (h : Won positions winningOutcomeKey vigBps) :
    0 ≤ centsLeftOver positions winningOutcomeKey vigBps ∧
      centsLeftOver positions winningOutcomeKey vigBps
        < (wonPayouts positions winningOutcomeKey vigBps).length := by
  set winners := winningPositions positions winningOutcomeKey with hwinners
  have hdown : (wonPayouts positions winningOutcomeKey vigBps).map ExactPayout.roundedDown
      = winners.map fun position =>
          position.stakeAmount * payoutPoolOf positions vigBps / stakeTotal winners := by
    rw [wonPayouts, List.map_map]
    refine List.map_congr_left fun position hposition => ?_
    exact Int.tdiv_eq_ediv_of_nonneg
      (mul_nonneg (h.winner_stakes position hposition).le h.payoutPool_nonneg)
  have htotal : 0 < (winners.map SettlementPosition.stakeAmount).sum := h.winningPool_pos
  have hle := Apportion.sum_share_le SettlementPosition.stakeAmount
    (payoutPoolOf positions vigBps) htotal
  have hlt := Apportion.lt_sum_share_add SettlementPosition.stakeAmount
    (payoutPoolOf positions vigBps) htotal
  rw [centsLeftOver, hdown, wonPayouts, List.length_map, ← hwinners]
  unfold stakeTotal
  omega

theorem resolve_eq (h : Won positions winningOutcomeKey vigBps) :
    resolvePariMutuelSettlement positions winningOutcomeKey vigBps
      = .ok (payoutSettlement positions winningOutcomeKey vigBps) := by
  have hpool := h.winningPool_pos
  have hvig := h.vig
  have hleft := h.centsLeftOver_bounds.1
  unfold centsLeftOver wonPayouts payoutPoolOf at hleft
  unfold resolvePariMutuelSettlement
  rw [ApiError.throwIf, if_neg (by omega)]
  simp only [bind, Except.bind]
  rw [if_neg (by simp [h.winners, hpool]), ApiError.throwIf, if_neg (not_lt.mpr hleft)]
  simp only [mapM_positionResult h.keys]
  rfl

theorem payoutOf_eq (h : Won positions winningOutcomeKey vigBps) (hmem : position ∈ positions) :
    (payoutSettlement positions winningOutcomeKey vigBps).payoutOf position.id =
      some (if position.outcomeKey = winningOutcomeKey then
        (exactPayout (payoutPoolOf positions vigBps)
            (stakeTotal (winningPositions positions winningOutcomeKey)) position).roundedDown
          + if position.id ∈ luckyIds (wonPayouts positions winningOutcomeKey vigBps)
              (centsLeftOver positions winningOutcomeKey vigBps) then 1 else 0
      else 0) := by
  have hresults : (payoutSettlement positions winningOutcomeKey vigBps).positionResults =
      positions.map _ := rfl
  rw [payoutOf_map h.keys (fun _ => rfl) hresults hmem, settledResult, extraCents_eq (hasKeys_wonPayouts h.keys) h.centsLeftOver_bounds.2]
  push_cast
  rfl

theorem floor_due (h : Won positions winningOutcomeKey vigBps) (hmem : position ∈ positions) :
    ⌊(payoutSettlement positions winningOutcomeKey vigBps).due positions winningOutcomeKey position⌋
      = (exactPayout (payoutPoolOf positions vigBps)
          (stakeTotal (winningPositions positions winningOutcomeKey)) position).roundedDown :=
  floor_exactShare h.payoutPool_nonneg h.winningPool_pos (h.stakes position hmem).le

theorem fract_due (h : Won positions winningOutcomeKey vigBps) (hmem : position ∈ positions) :
    Int.fract ((payoutSettlement positions winningOutcomeKey vigBps).due positions
        winningOutcomeKey position)
      = (exactPayout (payoutPoolOf positions vigBps)
          (stakeTotal (winningPositions positions winningOutcomeKey)) position).remainder
        / (stakeTotal (winningPositions positions winningOutcomeKey) : ℚ) :=
  fract_exactShare h.payoutPool_nonneg h.winningPool_pos (h.stakes position hmem).le

theorem payoutOf_winner (h : Won positions winningOutcomeKey vigBps)
    (hposition : position ∈ winningPositions positions winningOutcomeKey) :
    (payoutSettlement positions winningOutcomeKey vigBps).payoutOf position.id =
      some (⌊(payoutSettlement positions winningOutcomeKey vigBps).due positions
          winningOutcomeKey position⌋
        + if position.id ∈ luckyIds (wonPayouts positions winningOutcomeKey vigBps)
            (centsLeftOver positions winningOutcomeKey vigBps) then 1 else 0) := by
  obtain ⟨hmem, hwins⟩ := mem_winningPositions.mp hposition
  rw [h.payoutOf_eq hmem, if_pos hwins, h.floor_due hmem]

theorem sharedExactly (h : Won positions winningOutcomeKey vigBps) :
    SharedExactly positions winningOutcomeKey vigBps
      (payoutSettlement positions winningOutcomeKey vigBps) where
  fee := by
    have hmul : 0 ≤ stakeTotal positions * vigBps :=
      mul_nonneg (List.sum_nonneg (by simpa using fun p hp => (h.stakes p hp).le)) h.vig.1
    have hfloor := Rat.floor_intCast_div_natCast (stakeTotal positions * vigBps) 10000
    rw [Nat.cast_ofNat, Nat.cast_ofNat] at hfloor
    rw [hfloor]
    exact Int.tdiv_eq_ediv_of_nonneg hmul
  pool := rfl
  payouts := by
    have hpool := (resolvePariMutuelSettlement_conserves h.keys
      (fun position hposition => (h.stakes position hposition).le) h.resolve_eq).pool
    omega
  losers := fun position hposition hloses => by rw [h.payoutOf_eq hposition, if_neg hloses]
  winners := fun position hposition => by
    rw [h.payoutOf_winner hposition]
    split
    · exact .inr rfl
    · exact .inl (by rw [add_zero])
  largest := fun position hposition other hother hgets hnone => by
    have hlucky : position.id ∈ luckyIds (wonPayouts positions winningOutcomeKey vigBps)
        (centsLeftOver positions winningOutcomeKey vigBps) := by
      by_contra hnot
      rw [h.payoutOf_winner hposition, if_neg hnot] at hgets
      simp at hgets
    have hunlucky : other.id ∉ luckyIds (wonPayouts positions winningOutcomeKey vigBps)
        (centsLeftOver positions winningOutcomeKey vigBps) := by
      intro hin
      rw [h.payoutOf_winner hother, if_pos hin] at hnone
      simp at hnone
    have hle := remainder_le_of_lucky (hasKeys_wonPayouts h.keys)
      (List.mem_map_of_mem hposition) (List.mem_map_of_mem hother) hlucky hunlucky
    have hwinning := h.winningPool_pos
    rw [h.fract_due (mem_winningPositions.mp hposition).1,
      h.fract_due (mem_winningPositions.mp hother).1]
    gcongr

theorem of_perm (h : Won positions winningOutcomeKey vigBps) (hperm : shuffled.Perm positions) :
    Won shuffled winningOutcomeKey vigBps where
  keys := (hperm.map SettlementPosition.id).nodup_iff.mpr h.keys
  stakes := fun p hp => h.stakes p (hperm.mem_iff.mp hp)
  vig := h.vig
  winners := fun hnil => h.winners (List.perm_nil.mp (hnil ▸ (hperm.filter _).symm))

theorem payoutOf_eq_of_perm (h : Won positions winningOutcomeKey vigBps)
    (hperm : shuffled.Perm positions) (hmem : position ∈ positions) :
    (payoutSettlement shuffled winningOutcomeKey vigBps).payoutOf position.id
      = (payoutSettlement positions winningOutcomeKey vigBps).payoutOf position.id := by
  have hwinners : (winningPositions shuffled winningOutcomeKey).Perm
      (winningPositions positions winningOutcomeKey) := hperm.filter _
  have hshuffled := h.of_perm hperm
  have htotal : stakeTotal shuffled = stakeTotal positions :=
    (hperm.map SettlementPosition.stakeAmount).sum_eq
  have hwinning : stakeTotal (winningPositions shuffled winningOutcomeKey)
      = stakeTotal (winningPositions positions winningOutcomeKey) :=
    (hwinners.map SettlementPosition.stakeAmount).sum_eq
  have hpool : payoutPoolOf shuffled vigBps = payoutPoolOf positions vigBps := by
    rw [payoutPoolOf, payoutPoolOf, htotal]
  have hexact : (wonPayouts shuffled winningOutcomeKey vigBps).Perm
      (wonPayouts positions winningOutcomeKey vigBps) := by
    rw [wonPayouts, wonPayouts, hpool, hwinning]
    exact hwinners.map _
  have hleft : centsLeftOver shuffled winningOutcomeKey vigBps
      = centsLeftOver positions winningOutcomeKey vigBps := by
    rw [centsLeftOver, centsLeftOver, hpool, (hexact.map ExactPayout.roundedDown).sum_eq]
  have hlucky : luckyIds (wonPayouts shuffled winningOutcomeKey vigBps)
        (centsLeftOver shuffled winningOutcomeKey vigBps)
      = luckyIds (wonPayouts positions winningOutcomeKey vigBps)
        (centsLeftOver positions winningOutcomeKey vigBps) := by
    rw [luckyIds, luckyIds, hleft, rankedRemainders_eq_of_perm (hasKeys_wonPayouts hshuffled.keys)
      hexact]
  rw [hshuffled.payoutOf_eq (hperm.mem_iff.mpr hmem), h.payoutOf_eq hmem, hlucky, hpool, hwinning]

end Won

/-! ## The settlement -/

theorem refundNoWinners_stakesReturned (hkeys : Keyed.HasKeys SettlementPosition.id positions) :
    StakesReturned positions (refundNoWinners positions vigBps) where
  fee := rfl
  stakes := fun position hposition => by
    have hresults : (refundNoWinners positions vigBps).positionResults = positions.map _ := rfl
    rw [payoutOf_map hkeys (fun _ => rfl) hresults hposition]

theorem resolve_of_none (hvig : 0 ≤ vigBps ∧ vigBps ≤ 10000)
    (hnone : winningPositions positions winningOutcomeKey = []) :
    resolvePariMutuelSettlement positions winningOutcomeKey vigBps
      = .ok (refundNoWinners positions vigBps) := by
  unfold resolvePariMutuelSettlement
  rw [ApiError.throwIf, if_neg (by omega)]
  simp only [bind, Except.bind]
  rw [if_pos (.inl hnone)]

/-- **Pari-mutuel settlement is exact.** It never fails. If some position won, the fee is the vig in
whole cents, the payouts are the rest of the pool, and the cents that rounding leaves over go to the
largest remainders. If none won there is no fee and every stake goes back. The order of the list
does not matter. -/
theorem resolvePariMutuelSettlement_exact
    (hkeys : Keyed.HasKeys SettlementPosition.id positions)
    (hstakes : ∀ position ∈ positions, 0 < position.stakeAmount)
    (hvig : 0 ≤ vigBps ∧ vigBps ≤ 10000) :
    ∃ result, resolvePariMutuelSettlement positions winningOutcomeKey vigBps = .ok result ∧
      ((∃ position ∈ positions, position.outcomeKey = winningOutcomeKey) →
        SharedExactly positions winningOutcomeKey vigBps result) ∧
      ((∀ position ∈ positions, position.outcomeKey ≠ winningOutcomeKey) →
        StakesReturned positions result) ∧
      ∀ shuffled : List SettlementPosition, shuffled.Perm positions →
        ∃ result', resolvePariMutuelSettlement shuffled winningOutcomeKey vigBps = .ok result' ∧
          ∀ position ∈ positions, result'.payoutOf position.id = result.payoutOf position.id := by
  by_cases hnone : winningPositions positions winningOutcomeKey = []
  · have hlost : ∀ position ∈ positions, position.outcomeKey ≠ winningOutcomeKey := by
      intro position hposition hwins
      have hmem := mem_winningPositions.mpr ⟨hposition, hwins⟩
      rw [hnone] at hmem
      cases hmem
    refine ⟨_, resolve_of_none hvig hnone, ?_, fun _ => refundNoWinners_stakesReturned hkeys, ?_⟩
    · rintro ⟨position, hposition, hwins⟩
      exact absurd hwins (hlost position hposition)
    · intro shuffled hperm
      have hnone' : winningPositions shuffled winningOutcomeKey = [] :=
        List.perm_nil.mp (hnone ▸ hperm.filter _)
      have hkeys' : Keyed.HasKeys SettlementPosition.id shuffled :=
        (hperm.map SettlementPosition.id).nodup_iff.mpr hkeys
      refine ⟨_, resolve_of_none hvig hnone', fun position hposition => ?_⟩
      rw [(refundNoWinners_stakesReturned hkeys).stakes position hposition,
        (refundNoWinners_stakesReturned hkeys').stakes position (hperm.mem_iff.mpr hposition)]
  · have hwon : Won positions winningOutcomeKey vigBps := ⟨hkeys, hstakes, hvig, hnone⟩
    refine ⟨_, hwon.resolve_eq, fun _ => hwon.sharedExactly, fun hlost => ?_, ?_⟩
    · refine absurd (List.eq_nil_iff_forall_not_mem.mpr fun position hposition => ?_) hnone
      obtain ⟨hmem, hwins⟩ := mem_winningPositions.mp hposition
      exact hlost position hmem hwins
    · intro shuffled hperm
      exact ⟨_, (hwon.of_perm hperm).resolve_eq, fun position hposition =>
        hwon.payoutOf_eq_of_perm hperm hposition⟩

/-- Three stakes, two of them on the outcome `yes`. -/
def samplePositions : List SettlementPosition :=
  [⟨1, 11, "yes", 100⟩, ⟨2, 12, "yes", 100⟩, ⟨3, 13, "no", 101⟩]

theorem resolvePariMutuelSettlement_exact_sample :
    ∃ result, resolvePariMutuelSettlement samplePositions "yes" 100 = .ok result ∧
      ((∃ position ∈ samplePositions, position.outcomeKey = "yes") →
        SharedExactly samplePositions "yes" 100 result) ∧
      ((∀ position ∈ samplePositions, position.outcomeKey ≠ "yes") →
        StakesReturned samplePositions result) ∧
      ∀ shuffled : List SettlementPosition, shuffled.Perm samplePositions →
        ∃ result', resolvePariMutuelSettlement shuffled "yes" 100 = .ok result' ∧
          ∀ position ∈ samplePositions,
            result'.payoutOf position.id = result.payoutOf position.id :=
  resolvePariMutuelSettlement_exact (by simp [Keyed.HasKeys, samplePositions]) (by decide)
    (by decide)

/-- A pool that goes back is not charged the vig. -/
theorem refund_charges_no_fee :
    ∃ result, resolvePariMutuelSettlement samplePositions "maybe" 100 = .ok result ∧
      result.feeAmount ≠ stakeTotal samplePositions * 100 / 10000 :=
  ⟨_, rfl, by decide⟩

end RewardSystem.PredictionMarket
