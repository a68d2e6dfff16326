import Mathlib
import RewardSystem.Blackjack.HandRuns

/-!
# The results of a finished game

What is shown of a hand is computed again from the stored game, apart from the payment. A game is
settled by its hands or, when the first cards end it, by its status.
-/

namespace RewardSystem.Blackjack

open Transition Rounding

section Shown

inductive SerializedHandState where
  | active
  | waiting
  | stood
  | bust
  | win
  | lose
  | push
  deriving DecidableEq, Repr

def HandProgress.serialize : HandProgress → SerializedHandState
  | .active => .active
  | .waiting => .waiting
  | .stood => .stood
  | .bust => .bust

def HandOutcomeState.serialize : HandOutcomeState → SerializedHandState
  | .win => .win
  | .lose => .lose
  | .push => .push
  | .bust => .bust

def resolveSerializedPlayerHandState (game : BlackjackGame) (hand : PlayerHand) :
    SerializedHandState :=
  if game.status = .active then hand.state.serialize
  else
    let playerScore := scoreBlackjackCards hand.cards
    let dealerScore := scoreBlackjackCards game.dealerCards
    if hand.state = .bust ∨ playerScore.bust = true then .bust
    else if game.playerHands.length = 1 ∧ game.status = .playerBlackjack then .win
    else if game.playerHands.length = 1 ∧ game.status = .dealerBlackjack then .lose
    else if dealerScore.bust then .win
    else if dealerScore.total < playerScore.total then .win
    else if playerScore.total < dealerScore.total then .lose
    else .push

theorem shown_eq_outcome {game : BlackjackGame} (hclosed : game.status ≠ .active)
    (hplayer : game.status ≠ .playerBlackjack) (hdealer : game.status ≠ .dealerBlackjack)
    (hand : PlayerHand) :
    resolveSerializedPlayerHandState game hand = (settledHandState game hand).serialize := by
  unfold resolveSerializedPlayerHandState settledHandState
  simp only [hclosed, hplayer, hdealer, and_false, if_false]
  by_cases hbust : hand.state = .bust ∨ (scoreBlackjackCards hand.cards).bust = true
  · rw [if_pos hbust, if_pos hbust]
    rfl
  · rw [if_neg hbust, if_neg hbust, ← ite_or]
    split_ifs <;> rfl

end Shown

section Verdicts

def BlackjackGameStatus.outcome : BlackjackGameStatus → Option HandOutcomeState
  | .active => none
  | .playerBlackjack | .dealerBust | .playerWin => some .win
  | .push => some .push
  | .playerBust => some .bust
  | .dealerBlackjack | .dealerWin => some .lose

/-- How the payout compares with the stake. -/
def HandOutcomeState.verdict : HandOutcomeState → Ordering
  | .win => .gt
  | .push => .eq
  | .lose | .bust => .lt

def BlackjackGameStatus.verdict (status : BlackjackGameStatus) : Option Ordering :=
  status.outcome.map HandOutcomeState.verdict

/-- What a finished game is paid, before it is rounded to cents. -/
def BlackjackGame.settledPayout (game : BlackjackGame) : ℚ :=
  if game.status = .playerBlackjack then game.stakeAmount * game.config.naturalPayoutMultiplier
  else totalPayout (resolveSettledHandOutcomes game)

/-- A win pays more than the stake and a push the stake. -/
structure BlackjackConfig.Usual (config : BlackjackConfig) : Prop where
  win : 1 < config.winPayoutMultiplier
  natural : config.winPayoutMultiplier ≤ config.naturalPayoutMultiplier
  push : config.pushPayoutMultiplier = 1

variable {game : BlackjackGame} {config : BlackjackConfig}

theorem resolveRegularHandPayoutAmount_sum (outcome : HandOutcomeState) (config : BlackjackConfig)
    (stakes : List Int) :
    (stakes.map fun stake => resolveRegularHandPayoutAmount stake outcome config).sum =
      resolveRegularHandPayoutAmount stakes.sum outcome config := by
  induction stakes with
  | nil => cases outcome <;> simp [resolveRegularHandPayoutAmount]
  | cons stake stakes ih =>
      rw [List.map_cons, List.sum_cons, ih]
      cases outcome <;> simp [resolveRegularHandPayoutAmount, add_mul]

theorem totalPayout_of_alike {outcome : HandOutcomeState} (hgame : game.terms.Consistent)
    (halike : ∀ hand ∈ game.playerHands, settledHandState game hand = outcome) :
    totalPayout (resolveSettledHandOutcomes game) =
      resolveRegularHandPayoutAmount game.totalStake outcome game.config := by
  have htotal : (game.playerHands.map PlayerHand.stakeAmount).sum = game.totalStake := hgame.total
  rw [← htotal, ← resolveRegularHandPayoutAmount_sum, totalPayout, resolveSettledHandOutcomes,
    List.map_map, List.map_map]
  apply congrArg List.sum
  apply List.map_congr_left
  intro hand hhand
  simp only [Function.comp_apply, halike hand hhand]

theorem cmp_payout_of_usual {stake : Int} (hconfig : config.Usual) (hstake : 0 < stake)
    (outcome : HandOutcomeState) :
    cmp (resolveRegularHandPayoutAmount stake outcome config) (stake : ℚ) = outcome.verdict := by
  have hstake : (0 : ℚ) < stake := by exact_mod_cast hstake
  cases outcome with
  | win => exact (cmp_eq_gt_iff _ _).mpr (lt_mul_of_one_lt_right hstake hconfig.win)
  | push => simp [resolveRegularHandPayoutAmount, hconfig.push, HandOutcomeState.verdict]
  | lose => exact (cmp_eq_lt_iff _ _).mpr hstake
  | bust => exact (cmp_eq_lt_iff _ _).mpr hstake

end Verdicts

section Settled

/-- The row that `settleResolvedHands` stores. -/
structure SettledByHands (game : BlackjackGame) : Prop where
  status : game.status = resolveAggregateSettledStatus game (resolveSettledHandOutcomes game)
  payout : game.payoutAmount = roundHalfUp (totalPayout (resolveSettledHandOutcomes game))

/-- The row of a game that its first cards have ended. -/
structure SettledAtDeal (game : BlackjackGame) : Prop where
  dealt : ∃ p1 p2 d1 d2, game.playerHands = [⟨[p1, p2], game.stakeAmount, .active, false⟩] ∧
    game.dealerCards = [d1, d2]
  stake : game.totalStake = game.stakeAmount
  status : resolveInitialOutcome game = .ok game.status
  payout : game.payoutAmount = roundHalfUp
    (resolveStatusPayoutAmount game.status game.stakeAmount game.totalStake game.config)

def Concluded (game : BlackjackGame) : Prop :=
  game.status = .active ∨ SettledByHands game ∨ SettledAtDeal game

theorem concluded_closeGame (played : BlackjackGame) :
    Concluded (closeGame played
      (resolveAggregateSettledStatus played (resolveSettledHandOutcomes played))
      (totalPayout (resolveSettledHandOutcomes played))) :=
  .inr (.inl ⟨rfl, rfl⟩)

def AllConcluded (store : BlackjackStore) : Prop :=
  ∀ game ∈ store.games, Concluded game

variable {config : PoolSystemConfig} {store store' : BlackjackStore} {game : BlackjackGame}
  {wallet : Wallet} {now : Int} {checks : SurroundingChecks}

theorem allConcluded_persist {next : BlackjackGame} (hall : AllConcluded store)
    (hnext : Concluded next) : AllConcluded (store.persistGameState next) := by
  intro row hrow
  obtain ⟨hrow, _⟩ | ⟨_, _, _, rfl⟩ := Keyed.mem_modify.mp hrow
  · exact hall row hrow
  · exact hnext

theorem allConcluded_credit (hall : AllConcluded store) (userId : Nat) (payoutAmount : ℚ) :
    AllConcluded (applyPayoutCredit store userId wallet payoutAmount) := by
  unfold AllConcluded
  rw [applyPayoutCredit_games]
  exact hall

theorem allConcluded_debit {debited : BlackjackStore} {userId : Nat} {stakeAmount : Int}
    (hall : AllConcluded store)
    (h : applyStakeDebit store userId wallet stakeAmount = .ok debited) : AllConcluded debited := by
  unfold AllConcluded
  rw [(applyStakeDebit_eq_ok h).1]
  exact hall

theorem allConcluded_settleResolvedHands (hall : AllConcluded store)
    (h : settleResolvedHands store game wallet = .ok store') : AllConcluded store' := by
  obtain ⟨played, _, h⟩ := ApiError.bind_eq_ok.mp h
  rw [← Except.ok.inj h]
  apply allConcluded_credit
  exact allConcluded_persist hall (concluded_closeGame played)

theorem allConcluded_finalize (hall : AllConcluded store) (hactive : game.status = .active)
    (h : finalizeBlackjackProgress config store game wallet now = .ok store') :
    AllConcluded store' := by
  obtain ⟨⟨advanced, done⟩, hresolve, h⟩ := ApiError.bind_eq_ok.mp h
  obtain ⟨_, _, rfl⟩ := sameButHands_resolve hresolve
  cases done with
  | true => exact allConcluded_settleResolvedHands hall h
  | false =>
      rw [← Except.ok.inj h]
      exact allConcluded_persist hall (.inl hactive)

theorem allConcluded_advance {state : HandProgress} (hall : AllConcluded store)
    (hactive : game.status = .active)
    (h : (do
      let (advanced, allHandsComplete) ← advancePlayerHand game state
      if allHandsComplete then settleResolvedHands store advanced wallet
      else finalizeBlackjackProgress config store advanced wallet now) = .ok store') :
    AllConcluded store' := by
  obtain ⟨⟨advanced, done⟩, hadvance, h⟩ := ApiError.bind_eq_ok.mp h
  obtain ⟨_, _, rfl⟩ := sameButHands_advance hadvance
  cases done with
  | true => exact allConcluded_settleResolvedHands hall h
  | false => exact allConcluded_finalize hall (by exact hactive) h

theorem allConcluded_hit {index : Nat} {hand : PlayerHand} (hall : AllConcluded store)
    (hactive : game.status = .active)
    (h : applyHitAction config store game wallet index hand now = .ok store') :
    AllConcluded store' := by
  obtain ⟨⟨card, drawn⟩, hdraw, h⟩ := ApiError.bind_eq_ok.mp h
  obtain rfl := takeNextCard_eq_ok hdraw
  dsimp only at h
  split_ifs at h
  · exact allConcluded_finalize hall (by exact hactive) h
  · rw [← Except.ok.inj h]
    exact allConcluded_persist hall (.inl hactive)

theorem allConcluded_double {index : Nat} {hand : PlayerHand} (hall : AllConcluded store)
    (hactive : game.status = .active)
    (h : applyDoubleAction config checks store game wallet index hand now = .ok store') :
    AllConcluded store' := by
  obtain ⟨_, _, h⟩ := ApiError.bind_eq_ok.mp h
  obtain ⟨_, _, h⟩ := ApiError.bind_eq_ok.mp h
  obtain ⟨_, _, h⟩ := ApiError.bind_eq_ok.mp h
  obtain ⟨debited, hdebit, h⟩ := ApiError.bind_eq_ok.mp h
  obtain ⟨⟨card, drawn⟩, hdraw, h⟩ := ApiError.bind_eq_ok.mp h
  obtain rfl := takeNextCard_eq_ok hdraw
  exact allConcluded_advance (allConcluded_debit hall hdebit) (by exact hactive) h

theorem allConcluded_split {index : Nat} {hand : PlayerHand} (hall : AllConcluded store)
    (hactive : game.status = .active)
    (h : applySplitAction config checks store game wallet index hand now = .ok store') :
    AllConcluded store' := by
  obtain ⟨_, _, h⟩ := ApiError.bind_eq_ok.mp h
  obtain ⟨_, _, h⟩ := ApiError.bind_eq_ok.mp h
  obtain ⟨debited, hdebit, h⟩ := ApiError.bind_eq_ok.mp h
  split at h
  · obtain ⟨⟨leftDraw, drawn⟩, hdraw, h⟩ := ApiError.bind_eq_ok.mp h
    obtain ⟨⟨rightDraw, drawn'⟩, hdraw', h⟩ := ApiError.bind_eq_ok.mp h
    obtain rfl := takeNextCard_eq_ok hdraw'
    obtain rfl := takeNextCard_eq_ok hdraw
    exact allConcluded_finalize (allConcluded_debit hall hdebit) (by exact hactive) h
  · cases h

theorem allConcluded_start {request : StartRequest} (hall : AllConcluded store)
    (h : startResolvedBlackjack config checks store request now = .ok store') :
    AllConcluded store' := by
  unfold startResolvedBlackjack at h
  split at h
  · cases h
  · obtain ⟨_, _, h⟩ := ApiError.bind_eq_ok.mp h
    obtain ⟨baseStakeAmount, _, h⟩ := ApiError.bind_eq_ok.mp h
    obtain ⟨_, _, h⟩ := ApiError.bind_eq_ok.mp h
    obtain ⟨_, _, h⟩ := ApiError.bind_eq_ok.mp h
    obtain ⟨_, _, h⟩ := ApiError.bind_eq_ok.mp h
    obtain ⟨_, _, h⟩ := ApiError.bind_eq_ok.mp h
    split at h
    · rename_i p1 d1 p2 d2 rest _
      obtain ⟨debited, hdebit, h⟩ := ApiError.bind_eq_ok.mp h
      obtain ⟨initialStatus, hinitial, h⟩ := ApiError.bind_eq_ok.mp h
      obtain ⟨_, _, h⟩ := ApiError.bind_eq_ok.mp h
      have hdebited : AllConcluded debited := by
        refine allConcluded_debit ?_ hdebit
        intro row hrow
        obtain hrow | hrow := List.mem_append.mp hrow
        · exact hall row hrow
        · exact .inl (congrArg BlackjackGame.status (List.mem_singleton.mp hrow))
      split_ifs at h
      · rwa [← Except.ok.inj h]
      · rw [← Except.ok.inj h]
        apply allConcluded_credit
        refine allConcluded_persist hdebited (.inr (.inr ⟨⟨p1, p2, d1, d2, rfl, rfl⟩, rfl, ?_, rfl⟩))
        exact hinitial
    · cases h

theorem allConcluded_act {userId gameId : Nat} {action : BlackjackAction}
    (hall : AllConcluded store)
    (h : actOnBlackjack config checks store userId gameId action now = .ok store') :
    AllConcluded store' := by
  unfold actOnBlackjack at h
  split at h
  · cases h
  · obtain ⟨_, _, h⟩ := ApiError.bind_eq_ok.mp h
    split at h
    · cases h
    · rename_i row hfind
      have hactive := (mem_activeGames (List.mem_of_find?_eq_some hfind)).2.2
      obtain ⟨_, _, h⟩ := ApiError.bind_eq_ok.mp h
      split_ifs at h
      · exact allConcluded_advance hall (by exact hactive) h
      · obtain ⟨_, _, h⟩ := ApiError.bind_eq_ok.mp h
        split at h
        · obtain ⟨acted, hacted, h⟩ := ApiError.bind_eq_ok.mp h
          obtain ⟨_, _, h⟩ := ApiError.bind_eq_ok.mp h
          obtain rfl := Except.ok.inj h
          cases action with
          | hit => exact allConcluded_hit hall (by exact hactive) hacted
          | stand => exact allConcluded_advance hall (by exact hactive) hacted
          | double => exact allConcluded_double hall (by exact hactive) hacted
          | split => exact allConcluded_split hall (by exact hactive) hacted
        · cases h

theorem allConcluded_timeout {userId : Nat} (hall : AllConcluded store)
    (h : processExpiredBlackjackTurnForUser config store userId now = .ok store') :
    AllConcluded store' := by
  unfold processExpiredBlackjackTurnForUser at h
  split at h
  · rwa [← Except.ok.inj h]
  · dsimp only at h
    split at h
    · rwa [← Except.ok.inj h]
    · rename_i game hfind
      rw [List.find?_map] at hfind
      obtain ⟨row, hrow, rfl⟩ := Option.map_eq_some_iff.mp hfind
      have hactive := (mem_activeGames (List.mem_of_find?_eq_some hrow)).2.2
      exact allConcluded_advance hall (by exact hactive) h

theorem allConcluded_step {op : Operation} (hall : AllConcluded store)
    (h : step config store op = .ok store') : AllConcluded store' := by
  cases op with
  | start checks request now => exact allConcluded_start hall h
  | act checks userId gameId action now => exact allConcluded_act hall h
  | timeout userId now => exact allConcluded_timeout hall h
  | changeWallet userId wallet =>
      rw [← Except.ok.inj h]
      exact hall

end Settled

section Deal

theorem lowerAces_le {total aces : Nat} (h : total ≤ 21 + 10 * aces) :
    (lowerAces total aces).1 ≤ 21 := by
  induction aces generalizing total with
  | zero => exact h
  | succ aces ih =>
      unfold lowerAces
      split_ifs with hhigh
      · exact ih (by omega)
      · exact not_lt.mp hhigh

theorem score_two_le (first second : BlackjackCard) :
    (scoreBlackjackCards [first, second]).total ≤ 21 := by
  have haces := hardTotal_aces [first, second]
  have hfirst := hardValue_le first
  have hsecond := hardValue_le second
  rw [hardTotal_cons, hardTotal_cons, hardTotal_nil] at haces
  exact lowerAces_le (by omega)

theorem score_two_bust (first second : BlackjackCard) :
    (scoreBlackjackCards [first, second]).bust = false :=
  decide_eq_false (not_lt.mpr (score_two_le first second))

theorem score_two_blackjack (first second : BlackjackCard) :
    (scoreBlackjackCards [first, second]).blackjack = true ↔
      (scoreBlackjackCards [first, second]).total = 21 := by
  simp [scoreBlackjackCards]

variable {game : BlackjackGame}

theorem SettledAtDeal.outcome (h : SettledAtDeal game) (hclosed : game.status ≠ .active) :
    ∃ hand, game.playerHands = [hand] ∧ hand.stakeAmount = game.totalStake ∧
      game.status.outcome = some (settledHandState game hand) ∧
      resolveSerializedPlayerHandState game hand = (settledHandState game hand).serialize := by
  obtain ⟨p1, p2, d1, d2, hhands, hdealer⟩ := h.dealt
  have hplayed := score_two_le p1 p2
  have hshown := score_two_le d1 d2
  have hstatus := h.status
  refine ⟨_, hhands, h.stake.symm, ?_⟩
  simp only [resolveInitialOutcome, hhands, hdealer, List.head?_cons, score_two_blackjack] at hstatus
  simp only [resolveSerializedPlayerHandState, settledHandState, hhands, hdealer, score_two_bust,
    hclosed]
  split_ifs at hstatus with hboth hplayer hdealt
  · rw [← Except.ok.inj hstatus]
    simp [hboth, BlackjackGameStatus.outcome, HandOutcomeState.serialize]
  · have hlt : (scoreBlackjackCards [d1, d2]).total < (scoreBlackjackCards [p1, p2]).total := by omega
    rw [← Except.ok.inj hstatus]
    simp [hlt, BlackjackGameStatus.outcome, HandOutcomeState.serialize]
  · have hlt : (scoreBlackjackCards [p1, p2]).total < (scoreBlackjackCards [d1, d2]).total := by omega
    have hle := hlt.not_gt
    rw [← Except.ok.inj hstatus]
    simp [hlt, hle, BlackjackGameStatus.outcome, HandOutcomeState.serialize]
  · exact absurd (Except.ok.inj hstatus).symm hclosed

end Deal

/-- What is shown, paid and recorded of a finished game. -/
structure ResultsAgree (game : BlackjackGame) : Prop where
  shown : game.playerHands.map (resolveSerializedPlayerHandState game) =
    (resolveSettledHandOutcomes game).map fun outcome => outcome.state.serialize
  paid : game.payoutAmount = roundHalfUp game.settledPayout
  single : ∀ hand, game.playerHands = [hand] →
    game.status.outcome = some (settledHandState game hand)
  several : game.playerHands.length ≠ 1 →
    (game.status = .dealerBust ∧ (scoreBlackjackCards game.dealerCards).bust = true ∧
      ∀ hand ∈ game.playerHands, settledHandState game hand = .win) ∨
    game.status.verdict = some (cmp game.settledPayout game.totalStake)
  usual : game.config.Usual → game.status.verdict = some (cmp game.settledPayout game.totalStake)

section Agreement

variable {game : BlackjackGame}

theorem shown_of_forall (h : ∀ hand ∈ game.playerHands,
    resolveSerializedPlayerHandState game hand = (settledHandState game hand).serialize) :
    game.playerHands.map (resolveSerializedPlayerHandState game) =
      (resolveSettledHandOutcomes game).map fun outcome => outcome.state.serialize := by
  rw [resolveSettledHandOutcomes, List.map_map]
  exact List.map_congr_left h

theorem SettledByHands.not_natural (h : SettledByHands game) :
    game.status ≠ .active ∧ game.status ≠ .playerBlackjack ∧ game.status ≠ .dealerBlackjack := by
  rw [h.status]
  unfold resolveAggregateSettledStatus
  dsimp only
  split_ifs <;> simp

theorem SettledByHands.settledPayout (h : SettledByHands game) :
    game.settledPayout = totalPayout (resolveSettledHandOutcomes game) :=
  if_neg h.not_natural.2.1

theorem SettledByHands.single {hand : PlayerHand} (h : SettledByHands game)
    (hhands : game.playerHands = [hand]) :
    game.status.outcome = some (settledHandState game hand) := by
  have hstatus := h.status
  simp only [resolveAggregateSettledStatus, resolveSettledHandOutcomes, hhands, List.length_singleton,
    List.map_cons, List.head?_cons, Option.map_some, Option.some.injEq, if_true] at hstatus
  rw [hstatus]
  by_cases hdealer : (scoreBlackjackCards game.dealerCards).bust = true
  · by_cases hbust : hand.state = .bust ∨ (scoreBlackjackCards hand.cards).bust = true
    · simp [settledHandState, hbust, BlackjackGameStatus.outcome]
    · simp [settledHandState, hbust, hdealer, BlackjackGameStatus.outcome]
  · cases houtcome : settledHandState game hand <;> simp [hdealer, BlackjackGameStatus.outcome]

theorem SettledByHands.several (h : SettledByHands game) (hgame : game.terms.Consistent)
    (hstake : 0 < game.totalStake) (hhands : game.playerHands.length ≠ 1) :
    (game.status = .dealerBust ∧ (scoreBlackjackCards game.dealerCards).bust = true ∧
      ∀ hand ∈ game.playerHands, settledHandState game hand = .win) ∨
    game.status.verdict = some (cmp game.settledPayout game.totalStake) := by
  have hstake : (0 : ℚ) < game.totalStake := by exact_mod_cast hstake
  have hstatus := h.status
  rw [h.settledPayout]
  simp only [resolveAggregateSettledStatus, hhands, if_false] at hstatus
  split_ifs at hstatus with hbust hwon hzero heven hover
  · have hall : ∀ hand ∈ game.playerHands, settledHandState game hand = .bust := by
      simpa [resolveSettledHandOutcomes] using hbust
    right
    rw [hstatus, totalPayout_of_alike hgame hall]
    exact congrArg some ((cmp_eq_lt_iff _ _).mpr hstake).symm
  · left
    simpa [hstatus, resolveSettledHandOutcomes] using hwon
  · right
    rw [hstatus, hzero]
    exact congrArg some ((cmp_eq_lt_iff _ _).mpr hstake).symm
  · right
    rw [hstatus, heven]
    exact congrArg some (cmp_self_eq_eq _).symm
  · right
    rw [hstatus]
    exact congrArg some ((cmp_eq_gt_iff _ _).mpr hover).symm
  · have hunder : totalPayout (resolveSettledHandOutcomes game) < game.totalStake :=
      lt_of_le_of_ne (not_lt.mp hover) heven
    right
    rw [hstatus]
    exact congrArg some ((cmp_eq_lt_iff _ _).mpr hunder).symm

theorem resultsAgree_of_hands (h : SettledByHands game) (hgame : game.terms.Consistent)
    (hstake : 0 < game.totalStake) : ResultsAgree game where
  shown := by
    obtain ⟨hclosed, hplayer, hdealer⟩ := h.not_natural
    exact shown_of_forall fun hand _ => shown_eq_outcome hclosed hplayer hdealer hand
  paid := h.settledPayout ▸ h.payout
  single _ hhands := h.single hhands
  several hhands := h.several hgame hstake hhands
  usual hconfig := by
    -- hands that end alike compare as one of them
    have halike : ∀ outcome, (∀ hand ∈ game.playerHands, settledHandState game hand = outcome) →
        game.status.outcome = some outcome →
        game.status.verdict = some (cmp game.settledPayout game.totalStake) := by
      intro outcome hall houtcome
      rw [BlackjackGameStatus.verdict, houtcome, h.settledPayout, totalPayout_of_alike hgame hall,
        cmp_payout_of_usual hconfig hstake]
      rfl
    by_cases hcount : game.playerHands.length = 1
    · obtain ⟨hand, hhands⟩ := List.length_eq_one_iff.mp hcount
      exact halike _ (by simp [hhands]) (h.single hhands)
    · obtain ⟨hstatus, _, hall⟩ | hverdict := h.several hgame hstake hcount
      · exact halike .win hall (by rw [hstatus]; rfl)
      · exact hverdict

theorem resolveStatusPayoutAmount_eq {hand : PlayerHand} (hgame : game.terms.Consistent)
    (hhands : game.playerHands = [hand])
    (houtcome : game.status.outcome = some (settledHandState game hand)) :
    resolveStatusPayoutAmount game.status game.stakeAmount game.totalStake game.config =
      game.settledPayout := by
  have hall : ∀ other ∈ game.playerHands, settledHandState game other = settledHandState game hand := by
    simp [hhands]
  rw [BlackjackGame.settledPayout, totalPayout_of_alike hgame hall]
  cases hstatus : game.status <;> rw [hstatus] at houtcome
  case active => cases houtcome
  all_goals
    simp [resolveStatusPayoutAmount, resolveRegularHandPayoutAmount, ← Option.some.inj houtcome]

theorem resultsAgree_of_deal (h : SettledAtDeal game) (hclosed : game.status ≠ .active)
    (hgame : game.terms.Consistent) (hstake : 0 < game.totalStake) : ResultsAgree game := by
  obtain ⟨hand, hhands, _, houtcome, hshown⟩ := h.outcome hclosed
  have hpayout := resolveStatusPayoutAmount_eq hgame hhands houtcome
  have hcount : game.playerHands.length = 1 := by rw [hhands, List.length_singleton]
  constructor
  · exact shown_of_forall (by simpa [hhands] using hshown)
  · rw [h.payout, hpayout]
  · intro other hother
    rw [hhands] at hother
    rwa [← (List.cons.inj hother).1]
  · exact fun hcount' => absurd hcount hcount'
  · intro hconfig
    rw [BlackjackGameStatus.verdict, houtcome, Option.map_some, BlackjackGame.settledPayout]
    split_ifs with hnatural
    · have hwins : settledHandState game hand = .win := by
        rw [hnatural] at houtcome
        exact (Option.some.inj houtcome).symm
      have hstake' : (0 : ℚ) < game.totalStake := by exact_mod_cast hstake
      have hmore := lt_mul_of_one_lt_right hstake' (hconfig.win.trans_le hconfig.natural)
      rw [hwins, ← h.stake]
      exact congrArg some ((cmp_eq_gt_iff _ _).mpr hmore).symm
    · have hall : ∀ other ∈ game.playerHands,
          settledHandState game other = settledHandState game hand := by
        simp [hhands]
      rw [totalPayout_of_alike hgame hall, cmp_payout_of_usual hconfig hstake]

end Agreement

section Stakes

structure Staked (game : BlackjackGame) : Prop where
  total : 0 < game.totalStake
  hands : ∀ hand ∈ game.playerHands, 0 < hand.stakeAmount

/-- A play mode multiplies the stake by one at least. -/
def Operation.Multiplies : Operation → Prop
  | .start _ request _ => 0 < request.stakeMultiplier
  | _ => True

variable {game next : BlackjackGame}

theorem Staked.of_modify {change : PlayerHand → PlayerHand} {index : Nat} (h : Staked game)
    (hchange : ∀ hand, 0 < hand.stakeAmount → 0 < (change hand).stakeAmount) :
    ∀ hand ∈ game.playerHands.modify index change, 0 < hand.stakeAmount := by
  intro hand hhand
  obtain hhand | ⟨earlier, hearlier, rfl⟩ := mem_modify_hands hhand
  · exact h.hands hand hhand
  · exact hchange earlier (h.hands earlier hearlier)

theorem Staked.advance {state : HandProgress} {done : Bool} (h : Staked game)
    (hadvance : advancePlayerHand game state = .ok (next, done)) : Staked next := by
  have hended : ∀ (game : BlackjackGame) (index : Nat) (state : HandProgress), Staked game →
      ∀ hand ∈ game.playerHands.modify index (endHand state), 0 < hand.stakeAmount :=
    fun _ _ _ hgame => hgame.of_modify fun _ hstake => hstake
  obtain ⟨index, _, _, _, ⟨_, _, rfl⟩ | ⟨later, _, _, rfl⟩⟩ := advancePlayerHand_cases hadvance
  · exact ⟨h.total, hended game index state h⟩
  · exact ⟨h.total, hended
      { game with playerHands := game.playerHands.modify index (endHand state) } later .active
      ⟨h.total, hended game index state h⟩⟩

theorem Staked.resolve {balance : Int} {hands : Nat} {done : Bool} (h : Staked game)
    (hresolve : advanceResolvableHandsIn balance hands game = .ok (next, done)) : Staked next := by
  induction hands generalizing game with
  | zero =>
      obtain ⟨rfl, _⟩ := Prod.mk.inj (Except.ok.inj hresolve)
      exact h
  | succ hands ih =>
      unfold advanceResolvableHandsIn at hresolve
      split at hresolve
      · obtain ⟨rfl, _⟩ := Prod.mk.inj (Except.ok.inj hresolve)
        exact h
      · split at hresolve
        · obtain ⟨rfl, _⟩ := Prod.mk.inj (Except.ok.inj hresolve)
          exact h
        · obtain ⟨⟨advanced, complete⟩, hadvance, hresolve⟩ := ApiError.bind_eq_ok.mp hresolve
          have hadvanced := h.advance hadvance
          cases complete with
          | true =>
              obtain ⟨rfl, _⟩ := Prod.mk.inj (Except.ok.inj hresolve)
              exact hadvanced
          | false => exact ih hadvanced hresolve

theorem Staked.split {index : Nat} {hand : PlayerHand} {left right leftDraw rightDraw : BlackjackCard}
    (h : Staked game) (hhand : game.playerHands[index]? = some hand) :
    Staked (splitGame { game with totalStake := game.totalStake + hand.stakeAmount } index
      hand.stakeAmount left right leftDraw rightDraw) := by
  have hstake := h.hands hand (List.mem_of_getElem? hhand)
  have htotal := h.total
  constructor
  · simp only [splitGame]
    omega
  · intro other hother
    have hlength : index + 1 ≤ (game.playerHands.modify index fun _ =>
        (⟨[left, leftDraw], hand.stakeAmount, .active, left.rank = .ace && right.rank = .ace⟩ :
          PlayerHand)).length := by
      rw [List.length_modify]
      exact (List.getElem?_eq_some_iff.mp hhand).1
    obtain rfl | hother := (List.mem_insertIdx hlength).mp hother
    · exact hstake
    · obtain hother | ⟨_, _, rfl⟩ := mem_modify_hands hother
      · exact h.hands other hother
      · exact hstake

theorem stakeRules :
    GameRules (fun request => 0 < request.stakeMultiplier) Staked Staked Staked where
  deal store request baseStakeAmount p1 d1 p2 d2 rest hlegal hdeck hbase := by
    have hpos : 0 < baseStakeAmount * (request.stakeMultiplier : ℤ) :=
      Int.mul_pos (resolveStakeAmount_pos hbase) (by exact_mod_cast hlegal)
    exact ⟨hpos, by simpa [initialGame] using hpos⟩
  wait _ _ hgame := ⟨hgame.total, hgame.hands⟩
  natural _ _ hgame _ := ⟨hgame.total, hgame.hands⟩
  read hrow _ := ⟨hrow.total, hrow.hands⟩
  hit hgame _ _ _ hdraw := by
    obtain rfl := takeNextCard_eq_ok hdraw
    exact ⟨hgame.total, hgame.of_modify fun _ hstake => hstake⟩
  double {game drawn index hand balance card} hgame hindex hhand havailable hdraw := by
    obtain rfl := takeNextCard_eq_ok hdraw
    have hstake := hgame.hands hand (List.mem_of_getElem? hhand)
    exact ⟨Int.add_pos hgame.total hstake, hgame.of_modify fun _ hold => Int.add_pos hold hstake⟩
  split hgame _ hhand _ _ hdraw hdraw' := by
    obtain rfl := takeNextCard_eq_ok hdraw'
    obtain rfl := takeNextCard_eq_ok hdraw
    obtain ⟨htotal, hhands⟩ := hgame.split hhand
    exact ⟨htotal, hhands⟩
  advance hgame _ hadvance := by
    have hnext := hgame.advance hadvance
    split <;> exact hnext
  resolve hgame hresolve := by
    have hnext := hgame.resolve hresolve
    split <;> exact hnext
  settle hgame hplayed _ := by
    obtain ⟨⟨_, _⟩, _, rfl⟩ := ApiError.map_eq_ok.mp hplayed
    exact ⟨hgame.total, hgame.hands⟩

end Stakes

section Runs

variable {config : PoolSystemConfig} {store t : BlackjackStore}
  {events : List (Event BlackjackStore Operation)}

/-- The invariant of a run: every game has its stake and is open or settled. -/
structure Recorded (store : BlackjackStore) : Prop where
  wellFormed : WellFormed store
  staked : ∀ game ∈ store.games, Staked game
  concluded : AllConcluded store

theorem recorded_step {op : Operation} {store' : BlackjackStore} (hrecorded : Recorded store)
    (hlegal : op.Multiplies) (h : step config store op = .ok store') : Recorded store' := by
  have hturn : Turn Staked store op store' := by
    refine turn_of_step stakeRules hrecorded.wellFormed hrecorded.staked ?_ h
    rintro checks request now rfl
    exact hlegal
  exact ⟨wellFormed_of_step hrecorded.wellFormed h,
    stored_of_turn hrecorded.wellFormed hrecorded.staked hturn,
    allConcluded_step hrecorded.concluded h⟩

/-- **Results of a game.** In every run, what is shown of the hands of a finished game are their
outcomes; the game is paid their payouts, or a natural, and its status compares the two. -/
theorem results_agree (hempty : store.games = []) (hrun : Run (Accepts (step config)) store events t)
    (hlegal : ∀ e ∈ events, e.label.Multiplies) :
    ∀ game ∈ t.games, game.status ≠ .active → ResultsAgree game := by
  have hrecorded : Recorded t := (hrun.invariant_of_forall
    (fun _ _ _ hu hstep hok => recorded_step hu hok hstep)
    ⟨wellFormed_of_empty hempty, by simp [hempty], by simp [AllConcluded, hempty]⟩ hlegal).2
  intro game hgame hclosed
  have hconsistent := hrecorded.wellFormed.consistent game hgame
  have hstake := (hrecorded.staked game hgame).total
  obtain hactive | hhands | hdeal := hrecorded.concluded game hgame
  · exact absurd hactive hclosed
  · exact resultsAgree_of_hands hhands hconsistent hstake
  · exact resultsAgree_of_deal hdeal hclosed hconsistent hstake

end Runs

section Example

/-- A natural is paid 25.00 where its hand would be paid 20.00; where a win pays the stake only, the
player wins without getting more than the stake. -/
theorem not_comparesPayouts :
    (¬∀ config store events t, store.games = [] → Run (Accepts (step config)) store events t →
      ∀ game ∈ t.games, game.status ≠ .active →
        game.payoutAmount = roundHalfUp (totalPayout (resolveSettledHandOutcomes game))) ∧
    ¬∀ config store events t, store.games = [] → Run (Accepts (step config)) store events t →
      ∀ game ∈ t.games, game.status ≠ .active → game.status.verdict =
        some (cmp (totalPayout (resolveSettledHandOutcomes game)) (game.totalStake : ℚ)) := by
  constructor
  · intro hclaim
    obtain ⟨events, t, hrun, hbroken⟩ := Run.exists_of_check (step noReserve) (poolOf 4000)
      [.start openChecks ⟨1, .finite 10, 1, none, blackjackConfig, naturalDeck⟩ 0]
      (fun _ t => decide (∃ game ∈ t.games, game.status ≠ .active ∧
        game.payoutAmount ≠ roundHalfUp (totalPayout (resolveSettledHandOutcomes game))))
      (by decide +kernel)
    obtain ⟨game, hgame, hclosed, hpaid⟩ := of_decide_eq_true hbroken
    exact hpaid (hclaim noReserve (poolOf 4000) events t rfl hrun game hgame hclosed)
  · intro hclaim
    obtain ⟨events, t, hrun, hbroken⟩ := Run.exists_of_check (step noReserve) (poolOf 4000)
      [.start openChecks ⟨1, .finite 10, 1, none, { blackjackConfig with winPayoutMultiplier := 1 },
        winningDeck⟩ 0, stand 1 1]
      (fun _ t => decide (∃ game ∈ t.games, game.status ≠ .active ∧ game.status.verdict ≠
        some (cmp (totalPayout (resolveSettledHandOutcomes game)) (game.totalStake : ℚ))))
      (by decide +kernel)
    obtain ⟨game, hgame, hclosed, hverdict⟩ := of_decide_eq_true hbroken
    exact hverdict (hclaim noReserve (poolOf 4000) events t rfl hrun game hgame hclosed)

/-- The left hand of the split wins with 21, the right one loses with 12 against 20. -/
theorem results_agree_split :
    ∃ events t, Run (Accepts (step noReserve)) richPlayers events t ∧
      (∃ game ∈ t.games, game.playerHands.length = 2 ∧ game.status ≠ .active) ∧
      ∀ game ∈ t.games, game.status ≠ .active → ResultsAgree game := by
  obtain ⟨events, t, hrun, hcheck⟩ := Run.exists_of_check (step noReserve) richPlayers
    [startTens, .act openChecks 1 1 .split 1, .act openChecks 1 1 .stand 2]
    (fun events t => decide ((∃ game ∈ t.games, game.playerHands.length = 2 ∧
        game.status ≠ .active) ∧
      events.all fun e => match e.label with
        | .start _ request _ => decide (0 < request.stakeMultiplier)
        | _ => true))
    (by decide +kernel)
  obtain ⟨hgame, hlegal⟩ := of_decide_eq_true hcheck
  refine ⟨events, t, hrun, hgame, results_agree rfl hrun ?_⟩
  intro e he
  have hstart := List.all_eq_true.mp hlegal e he
  cases hlabel : e.label with
  | start checks request now =>
      rw [hlabel] at hstart
      have hpos : 0 < request.stakeMultiplier := of_decide_eq_true hstart
      exact hpos
  | act => trivial
  | timeout => trivial
  | changeWallet => trivial

end Example

end RewardSystem.Blackjack
