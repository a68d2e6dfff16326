import Mathlib.Algebra.BigOperators.Ring.Finset
import Mathlib.Data.List.Sort
import RewardSystem.Lib.Apportion
import RewardSystem.Lib.Keyed
import RewardSystem.Shared.Errors

/-!
# Pari-mutuel settlement

The pool of a market, less the fee, is divided among the positions on the winning outcome in
proportion to their stakes. Amounts are counted in cents.
-/

namespace RewardSystem.PredictionMarket

structure SettlementPosition where
  id : Nat
  userId : Nat
  outcomeKey : String
  stakeAmount : Int
  deriving DecidableEq, Repr

inductive SettlementStatus where
  | won
  | lost
  | refunded
  deriving DecidableEq, Repr

structure SettlementPositionResult where
  id : Nat
  userId : Nat
  payoutAmount : Int
  status : SettlementStatus
  deriving DecidableEq, Repr

inductive SettlementMode where
  | payout
  | refundNoWinners
  deriving DecidableEq, Repr

structure PariMutuelSettlementResult where
  mode : SettlementMode
  vigBps : Int
  totalPoolAmount : Int
  winningPoolAmount : Int
  feeAmount : Int
  payoutPoolAmount : Int
  positionResults : List SettlementPositionResult
  deriving DecidableEq, Repr

def stakeTotal (positions : List SettlementPosition) : Int :=
  (positions.map SettlementPosition.stakeAmount).sum

def winningPositions (positions : List SettlementPosition) (winningOutcomeKey : String) :
    List SettlementPosition :=
  positions.filter fun position => position.outcomeKey = winningOutcomeKey

/-- The exact payout of a winning position, as its whole cents and a remainder that is counted in
fractions of the winning pool. -/
structure ExactPayout where
  id : Nat
  userId : Nat
  roundedDown : Int
  remainder : Int
  deriving DecidableEq, Repr

def exactPayout (payoutPool winningPool : Int) (position : SettlementPosition) : ExactPayout :=
  { id := position.id
    userId := position.userId
    roundedDown := (position.stakeAmount * payoutPool).tdiv winningPool
    remainder := (position.stakeAmount * payoutPool).tmod winningPool }

/-- The larger remainder first, then the older position. -/
def rankedRemainders (exactPayouts : List ExactPayout) : List ExactPayout :=
  exactPayouts.insertionSort fun left right =>
    right.remainder < left.remainder ∨
      (left.remainder = right.remainder ∧ left.id ≤ right.id)

/-- The cents that rounding has left go to the positions one at a time, in the order of their
remainders. -/
def extraCentsByPositionId (exactPayouts : List ExactPayout) (centsRemaining : Int) : Nat → Nat :=
  let ranked := (rankedRemainders exactPayouts).map ExactPayout.id
  Apportion.goRound ranked ranked centsRemaining.toNat

def positionResult (winningOutcomeKey : String) (exactPayouts : List ExactPayout)
    (extraCents : Nat → Nat) (position : SettlementPosition) :
    Except ApiError SettlementPositionResult :=
  if position.outcomeKey ≠ winningOutcomeKey then
    .ok
      { id := position.id
        userId := position.userId
        payoutAmount := 0
        status := .lost }
  else
    match Keyed.lookup ExactPayout.id position.id exactPayouts with
    | none => .error (.internalInvariant "Winning prediction market position missing.")
    | some winningPosition =>
        .ok
          { id := position.id
            userId := position.userId
            payoutAmount := winningPosition.roundedDown + extraCents position.id
            status := .won }

def refundNoWinners (positions : List SettlementPosition) (vigBps : Int) :
    PariMutuelSettlementResult :=
  { mode := .refundNoWinners
    vigBps := vigBps
    totalPoolAmount := stakeTotal positions
    winningPoolAmount := 0
    feeAmount := 0
    payoutPoolAmount := stakeTotal positions
    positionResults := positions.map fun position =>
      { id := position.id
        userId := position.userId
        payoutAmount := position.stakeAmount
        status := .refunded } }

def resolvePariMutuelSettlement (positions : List SettlementPosition) (winningOutcomeKey : String)
    (vigBps : Int) : Except ApiError PariMutuelSettlementResult := do
  ApiError.throwIf (vigBps < 0 ∨ 10000 < vigBps)
    (.internalInvariant "Prediction market vig is invalid.")
  let totalPool := stakeTotal positions
  let winners := winningPositions positions winningOutcomeKey
  let winningPool := stakeTotal winners
  if winners = [] ∨ winningPool ≤ 0 then .ok (refundNoWinners positions vigBps)
  else do
    let feeAmount := (totalPool * vigBps).tdiv 10000
    let payoutPool := totalPool - feeAmount
    let exactPayouts := winners.map (exactPayout payoutPool winningPool)
    let settledWinningPool := (exactPayouts.map ExactPayout.roundedDown).sum
    let centsRemaining := payoutPool - settledWinningPool
    ApiError.throwIf (centsRemaining < 0)
      (.internalInvariant "Prediction market payout rounding failed.")
    let extraCents := extraCentsByPositionId exactPayouts centsRemaining
    let positionResults ← positions.mapM (positionResult winningOutcomeKey exactPayouts extraCents)
    .ok
      { mode := .payout
        vigBps := vigBps
        totalPoolAmount := totalPool
        winningPoolAmount := winningPool
        feeAmount := feeAmount
        payoutPoolAmount := payoutPool
        positionResults := positionResults }

section Conservation

variable {positions : List SettlementPosition} {winningOutcomeKey : String} {vigBps : Int}
  {result : PariMutuelSettlementResult}

theorem rankedRemainders_perm (exactPayouts : List ExactPayout) :
    (rankedRemainders exactPayouts).Perm exactPayouts :=
  List.perm_insertionSort _ _

theorem sum_extraCents {exactPayouts : List ExactPayout} {centsRemaining : Int}
    (hkeys : Keyed.HasKeys ExactPayout.id exactPayouts) (hne : exactPayouts ≠ [])
    (hremaining : 0 ≤ centsRemaining) :
    (exactPayouts.map fun payout =>
      (extraCentsByPositionId exactPayouts centsRemaining payout.id : Int)).sum = centsRemaining := by
  have hranked : (rankedRemainders exactPayouts).map ExactPayout.id ≠ [] := by
    intro h
    have hperm := rankedRemainders_perm exactPayouts
    rw [List.map_eq_nil_iff.mp h] at hperm
    exact hne hperm.symm.eq_nil
  have hsub : (rankedRemainders exactPayouts).map ExactPayout.id
      ⊆ exactPayouts.map ExactPayout.id :=
    List.map_subset _ (rankedRemainders_perm exactPayouts).subset
  have hsum := Apportion.sum_goRound centsRemaining.toNat hkeys hranked hsub hsub
  have hcast := congrArg (fun n : Nat => (n : Int)) hsum
  rw [List.map_map, Nat.cast_list_sum, List.map_map, Int.toNat_of_nonneg hremaining] at hcast
  exact hcast

theorem lookup_exactPayout (payoutPool winningPool : Int) {winners : List SettlementPosition}
    (hkeys : Keyed.HasKeys SettlementPosition.id winners) {position : SettlementPosition}
    (hmem : position ∈ winners) :
    Keyed.lookup ExactPayout.id position.id (winners.map (exactPayout payoutPool winningPool)) =
      some (exactPayout payoutPool winningPool position) := by
  have hids : Keyed.HasKeys ExactPayout.id (winners.map (exactPayout payoutPool winningPool)) := by
    simpa [Keyed.HasKeys, Function.comp_def, exactPayout] using hkeys
  exact Keyed.lookup_of_mem hids (List.mem_map_of_mem hmem)

/-- What a settlement keeps: a result for every position, and nothing of the pool is lost. -/
structure Conserves (positions : List SettlementPosition) (result : PariMutuelSettlementResult) :
    Prop where
  ids : result.positionResults.map SettlementPositionResult.id =
    positions.map SettlementPosition.id
  pool : (result.positionResults.map SettlementPositionResult.payoutAmount).sum
    + result.feeAmount = stakeTotal positions
  fee_nonneg : 0 ≤ result.feeAmount
  fee_refund : result.mode = .refundNoWinners → result.feeAmount = 0

theorem refundNoWinners_conserves (positions : List SettlementPosition) (vigBps : Int) :
    Conserves positions (refundNoWinners positions vigBps) where
  ids := by simp [refundNoWinners, Function.comp_def]
  pool := by simp [refundNoWinners, Function.comp_def, stakeTotal]
  fee_nonneg := le_rfl
  fee_refund _ := rfl

theorem hasKeys_winningPositions (hkeys : Keyed.HasKeys SettlementPosition.id positions) :
    Keyed.HasKeys SettlementPosition.id (winningPositions positions winningOutcomeKey) :=
  hkeys.sublist (List.filter_sublist.map SettlementPosition.id)

theorem positionResult_eq_ok {payoutPool winningPool : Int} {extraCents : Nat → Nat}
    {position : SettlementPosition} {r : SettlementPositionResult}
    (hkeys : Keyed.HasKeys SettlementPosition.id positions) (hmem : position ∈ positions)
    (h : positionResult winningOutcomeKey
      ((winningPositions positions winningOutcomeKey).map (exactPayout payoutPool winningPool))
      extraCents position = .ok r) :
    r.id = position.id ∧ r.payoutAmount =
      if position.outcomeKey = winningOutcomeKey then
        (exactPayout payoutPool winningPool position).roundedDown + extraCents position.id
      else 0 := by
  unfold positionResult at h
  by_cases hwins : position.outcomeKey = winningOutcomeKey
  · have hwinner : position ∈ winningPositions positions winningOutcomeKey := by
      simp [winningPositions, hmem, hwins]
    rw [if_neg (not_not_intro hwins),
      lookup_exactPayout _ _ (hasKeys_winningPositions hkeys) hwinner] at h
    obtain rfl := Except.ok.inj h
    exact ⟨rfl, by rw [if_pos hwins]⟩
  · rw [if_pos hwins] at h
    obtain rfl := Except.ok.inj h
    exact ⟨rfl, by rw [if_neg hwins]⟩

theorem sum_payouts {payoutPool winningPool : Int} {extraCents : Nat → Nat}
    {results : List SettlementPositionResult}
    (hkeys : Keyed.HasKeys SettlementPosition.id positions)
    (h : positions.mapM (positionResult winningOutcomeKey
      ((winningPositions positions winningOutcomeKey).map (exactPayout payoutPool winningPool))
      extraCents) = .ok results) :
    results.map SettlementPositionResult.id = positions.map SettlementPosition.id ∧
      (results.map SettlementPositionResult.payoutAmount).sum =
        ((winningPositions positions winningOutcomeKey).map fun position =>
          (exactPayout payoutPool winningPool position).roundedDown
            + (extraCents position.id : Int)).sum := by
  have hall := ApiError.forall₂_of_mapM h
  have hpairs : List.Forall₂ (fun position r => r.id = position.id ∧ r.payoutAmount =
      if position.outcomeKey = winningOutcomeKey then
        (exactPayout payoutPool winningPool position).roundedDown + (extraCents position.id : Int)
      else 0) positions results :=
    List.forall₂_iff_zip.mpr ⟨hall.length_eq, fun {position r} hzip =>
      positionResult_eq_ok hkeys (List.of_mem_zip hzip).1
        ((List.forall₂_iff_zip.mp hall).2 hzip)⟩
  clear hall h hkeys
  unfold winningPositions
  induction hpairs with
  | nil => simp
  | @cons position r rest results hhead _ ih =>
      obtain ⟨hids, hsum⟩ := ih
      refine ⟨by simp [hhead.1, hids], ?_⟩
      by_cases hwins : position.outcomeKey = winningOutcomeKey
      · simp [hhead.2, hwins, hsum]
      · simp [hhead.2, hwins, hsum]

theorem sum_shares {payoutPool winningPool : Int} {winners : List SettlementPosition}
    (hkeys : Keyed.HasKeys SettlementPosition.id winners) (hne : winners ≠ [])
    (hremaining : 0 ≤ payoutPool -
      ((winners.map (exactPayout payoutPool winningPool)).map ExactPayout.roundedDown).sum) :
    (winners.map fun position =>
      (exactPayout payoutPool winningPool position).roundedDown
        + (extraCentsByPositionId (winners.map (exactPayout payoutPool winningPool))
            (payoutPool -
              ((winners.map (exactPayout payoutPool winningPool)).map ExactPayout.roundedDown).sum)
            position.id : Int)).sum = payoutPool := by
  have hids : Keyed.HasKeys ExactPayout.id (winners.map (exactPayout payoutPool winningPool)) := by
    simpa [Keyed.HasKeys, Function.comp_def, exactPayout] using hkeys
  have hextra := sum_extraCents hids (by simpa using hne) hremaining
  rw [List.map_map] at hextra
  calc
    _ = (winners.map (ExactPayout.roundedDown ∘ exactPayout payoutPool winningPool)).sum
          + (winners.map _).sum := List.sum_map_add
    _ = (winners.map (ExactPayout.roundedDown ∘ exactPayout payoutPool winningPool)).sum
          + (payoutPool - ((winners.map (exactPayout payoutPool winningPool)).map
              ExactPayout.roundedDown).sum) := congrArg _ hextra
    _ = payoutPool := by rw [List.map_map, add_sub_cancel]

/-- **The pool is divided without loss.** The payouts and the fee of every settlement come to the
stakes, however the shares round. -/
theorem resolvePariMutuelSettlement_conserves
    (hkeys : Keyed.HasKeys SettlementPosition.id positions)
    (hstakes : ∀ position ∈ positions, 0 ≤ position.stakeAmount)
    (h : resolvePariMutuelSettlement positions winningOutcomeKey vigBps = .ok result) :
    Conserves positions result := by
  unfold resolvePariMutuelSettlement at h
  obtain ⟨_, hvig, h⟩ := ApiError.bind_eq_ok.mp h
  rw [ApiError.throwIf_eq_ok, not_or, not_lt, not_lt] at hvig
  by_cases hnone : winningPositions positions winningOutcomeKey = [] ∨
      stakeTotal (winningPositions positions winningOutcomeKey) ≤ 0
  · rw [if_pos hnone] at h
    obtain rfl := Except.ok.inj h
    exact refundNoWinners_conserves positions vigBps
  · rw [if_neg hnone] at h
    obtain ⟨_, hremaining, h⟩ := ApiError.bind_eq_ok.mp h
    rw [ApiError.throwIf_eq_ok, not_lt] at hremaining
    obtain ⟨results, hresults, h⟩ := ApiError.bind_eq_ok.mp h
    obtain rfl := Except.ok.inj h
    obtain ⟨hids, hsum⟩ := sum_payouts hkeys hresults
    have hshares := sum_shares (hasKeys_winningPositions hkeys)
      (fun hempty => hnone (.inl hempty)) hremaining
    have htotal : 0 ≤ stakeTotal positions := List.sum_nonneg (by simpa using hstakes)
    exact
      { ids := hids
        pool := by rw [hsum, hshares, sub_add_cancel]
        fee_nonneg := Int.tdiv_nonneg (mul_nonneg htotal hvig.1) (by decide)
        fee_refund := by simp }

end Conservation

end RewardSystem.PredictionMarket
