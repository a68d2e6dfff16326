import RewardSystem.Blackjack.Service

/-!
# What an open game may still be paid

The highest payout of a game depends on its stake and its multipliers only. Whatever is done with
the cards, a step of a game takes at most that much out of the prize pool.
-/

namespace RewardSystem.Blackjack

open Rounding

/-- The best outcome of a hand; a losing hand is paid nothing. -/
def BlackjackConfig.highestMultiplier (config : BlackjackConfig) : ℚ :=
  max 0 (max config.winPayoutMultiplier config.pushPayoutMultiplier)

/-- The part of a game that its payouts depend on. -/
structure StakeTerms where
  id : Nat
  config : BlackjackConfig
  totalStake : Int
  handStakes : List Int

def BlackjackGame.terms (game : BlackjackGame) : StakeTerms :=
  { id := game.id
    config := game.config
    totalStake := game.totalStake
    handStakes := game.playerHands.map PlayerHand.stakeAmount }

namespace StakeTerms

/-- The hands share the stake of the game. -/
structure Consistent (terms : StakeTerms) : Prop where
  nonneg : ∀ stake ∈ terms.handStakes, 0 ≤ stake
  total : terms.handStakes.sum = terms.totalStake

/-- In cents, as a payout is recorded. -/
def highestPayout (terms : StakeTerms) : Int :=
  roundHalfUp (terms.totalStake * terms.config.highestMultiplier)

theorem Consistent.totalStake_nonneg {terms : StakeTerms} (h : terms.Consistent) :
    0 ≤ terms.totalStake := by
  rw [← h.total]
  exact List.sum_nonneg h.nonneg

end StakeTerms

/-- What the pool still owes for a game. -/
def openExposure (game : BlackjackGame) : Int :=
  if game.status = .active then game.terms.highestPayout else 0

def BlackjackStore.exposure (store : BlackjackStore) : Int :=
  (store.games.map openExposure).sum

theorem highestMultiplier_nonneg (config : BlackjackConfig) : 0 ≤ config.highestMultiplier :=
  le_max_left _ _

theorem highestPayout_nonneg {terms : StakeTerms} (h : terms.Consistent) :
    0 ≤ terms.highestPayout := by
  apply roundHalfUp_nonneg
  have hstake : (0 : ℚ) ≤ terms.totalStake := by exact_mod_cast h.totalStake_nonneg
  exact mul_nonneg hstake (highestMultiplier_nonneg _)

theorem openExposure_le {game : BlackjackGame} (h : game.terms.Consistent) :
    openExposure game ≤ game.terms.highestPayout := by
  unfold openExposure
  split_ifs
  · exact le_rfl
  · exact highestPayout_nonneg h

theorem openExposure_nonneg {game : BlackjackGame} (h : game.terms.Consistent) :
    0 ≤ openExposure game := by
  unfold openExposure
  split_ifs
  · exact highestPayout_nonneg h
  · exact le_rfl

section Terms

variable {game next : BlackjackGame}

theorem map_modify_eq {α β : Type} (g : α → β) (change : α → α) (items : List α) (index : Nat)
    (hchange : ∀ item, g (change item) = g item) :
    (items.modify index change).map g = items.map g := by
  induction items generalizing index with
  | nil => simp
  | cons head rest ih =>
      cases index with
      | zero => simp [hchange]
      | succ index => simp [ih]

theorem BlackjackGame.toGameState_terms (game : BlackjackGame) :
    game.toGameState.terms = game.terms :=
  rfl

theorem modifyHand_terms (game : BlackjackGame) (index : Nat) (change : PlayerHand → PlayerHand)
    (hchange : ∀ hand, (change hand).stakeAmount = hand.stakeAmount) :
    (modifyHand game index change).terms = game.terms := by
  simp only [BlackjackGame.terms, modifyHand, map_modify_eq _ _ _ _ hchange]

theorem takeNextCard_eq_ok {card : BlackjackCard} (h : takeNextCard game = .ok (card, next)) :
    next = { game with nextCardIndex := game.nextCardIndex + 1 } := by
  unfold takeNextCard at h
  split at h
  · cases h
  · obtain ⟨_, rfl⟩ := Prod.mk.inj (Except.ok.inj h)
    rfl

theorem advancePlayerHand_terms {state : HandProgress} {done : Bool}
    (h : advancePlayerHand game state = .ok (next, done)) : next.terms = game.terms := by
  unfold advancePlayerHand at h
  split at h
  · rename_i activeHandIndex _ _ _
    have hended := modifyHand_terms game activeHandIndex (fun hand => { hand with state := state })
      fun _ => rfl
    dsimp only at h
    split at h
    · rename_i index _
      obtain ⟨rfl, _⟩ := Prod.mk.inj (Except.ok.inj h)
      exact (modifyHand_terms _ index (fun hand => { hand with state := .active })
        fun _ => rfl).trans hended
    · obtain ⟨rfl, _⟩ := Prod.mk.inj (Except.ok.inj h)
      exact hended
  · cases h

theorem advanceResolvableHandsIn_terms {walletBalance : Int} {hands : Nat} {done : Bool}
    (h : advanceResolvableHandsIn walletBalance hands game = .ok (next, done)) :
    next.terms = game.terms := by
  induction hands generalizing game with
  | zero =>
      obtain ⟨rfl, _⟩ := Prod.mk.inj (Except.ok.inj h)
      rfl
  | succ hands ih =>
      unfold advanceResolvableHandsIn at h
      split at h
      · obtain ⟨rfl, _⟩ := Prod.mk.inj (Except.ok.inj h)
        rfl
      · split at h
        · obtain ⟨rfl, _⟩ := Prod.mk.inj (Except.ok.inj h)
          rfl
        · obtain ⟨⟨advanced, complete⟩, hadvance, h⟩ := ApiError.bind_eq_ok.mp h
          have hterms := advancePlayerHand_terms hadvance
          dsimp only at h
          split_ifs at h
          · obtain ⟨rfl, _⟩ := Prod.mk.inj (Except.ok.inj h)
            exact hterms
          · exact (ih h).trans hterms

theorem playDealerHand_terms (h : playDealerHand game = .ok next) : next.terms = game.terms := by
  obtain ⟨⟨_, _⟩, _, rfl⟩ := ApiError.map_eq_ok.mp h
  rfl

end Terms

section Payouts

variable {game : BlackjackGame}

theorem resolveRegularHandPayoutAmount_le {stake : Int} (hstake : 0 ≤ stake)
    (outcome : HandOutcomeState) (config : BlackjackConfig) :
    resolveRegularHandPayoutAmount stake outcome config ≤ stake * config.highestMultiplier := by
  have hstake' : (0 : ℚ) ≤ stake := by exact_mod_cast hstake
  have hwin : config.winPayoutMultiplier ≤ config.highestMultiplier :=
    (le_max_left _ _).trans (le_max_right _ _)
  have hpush : config.pushPayoutMultiplier ≤ config.highestMultiplier :=
    (le_max_right _ _).trans (le_max_right _ _)
  cases outcome with
  | win => exact mul_le_mul_of_nonneg_left hwin hstake'
  | push => exact mul_le_mul_of_nonneg_left hpush hstake'
  | lose | bust => exact mul_nonneg hstake' (highestMultiplier_nonneg config)

theorem totalPayout_le (h : game.terms.Consistent) :
    totalPayout (resolveSettledHandOutcomes game) ≤
      game.totalStake * game.config.highestMultiplier := by
  have hhands : ∀ hands : List PlayerHand, (∀ hand ∈ hands, 0 ≤ hand.stakeAmount) →
      (hands.map fun hand => resolveRegularHandPayoutAmount hand.stakeAmount
        (settledHandState game hand) game.config).sum ≤
        ((hands.map PlayerHand.stakeAmount).sum : ℤ) * game.config.highestMultiplier := by
    intro hands hnonneg
    induction hands with
    | nil => simp
    | cons hand rest ih =>
        have hrest := ih fun hand hmem => hnonneg hand (List.mem_cons_of_mem _ hmem)
        have hhead := resolveRegularHandPayoutAmount_le (hnonneg hand List.mem_cons_self)
          (settledHandState game hand) game.config
        simp only [List.map_cons, List.sum_cons, Int.cast_add, add_mul]
        exact add_le_add hhead hrest
  have hnonneg : ∀ hand ∈ game.playerHands, 0 ≤ hand.stakeAmount := fun hand hmem =>
    h.nonneg _ (List.mem_map_of_mem hmem)
  have htotal := h.total
  simp only [BlackjackGame.terms] at htotal
  have hsum := hhands game.playerHands hnonneg
  rw [htotal] at hsum
  simpa [totalPayout, resolveSettledHandOutcomes, Function.comp_def] using hsum

end Payouts

/-- A game with these terms is stored again, open or closed, and the pool pays `paid` for it: what
is paid and what remains open is no more than the highest payout of the terms. -/
def Progress (store store' : BlackjackStore) (terms : StakeTerms) : Prop :=
  ∃ (next : BlackjackGame) (paid : Int), next.id = terms.id ∧ next.terms.Consistent ∧
    store'.games = Keyed.modify BlackjackGame.id terms.id (fun _ => next) store.games ∧
    paid + openExposure next ≤ terms.highestPayout ∧
    store.prizePoolBalance - paid ≤ store'.prizePoolBalance

section Progress

variable {config : PoolSystemConfig} {store store' : BlackjackStore} {game : BlackjackGame}
  {wallet : Wallet} {now : Int}

theorem progress_persist (h : game.terms.Consistent) :
    Progress store (store.persistGameState game) game.terms := by
  refine ⟨game, 0, rfl, h, rfl, ?_, ?_⟩
  · have hle := openExposure_le h
    omega
  · simp [BlackjackStore.persistGameState]

theorem applyPayoutCredit_games (store : BlackjackStore) (userId : Nat) (wallet : Wallet)
    (payoutAmount : ℚ) : (applyPayoutCredit store userId wallet payoutAmount).games = store.games := by
  unfold applyPayoutCredit
  split_ifs <;> rfl

theorem applyPayoutCredit_pool {payoutAmount highest : ℚ} (userId : Nat) (hnonneg : 0 ≤ highest)
    (hle : payoutAmount ≤ highest) :
    store.prizePoolBalance - roundHalfUp highest ≤
      (applyPayoutCredit store userId wallet payoutAmount).prizePoolBalance := by
  unfold applyPayoutCredit
  split_ifs with hzero
  · have hround := roundHalfUp_nonneg hnonneg
    omega
  · have hpaid : store.prizePoolBalance - roundHalfUp payoutAmount ≤
        roundHalfUp (store.prizePoolBalance - payoutAmount) :=
      sub_roundHalfUp_le _ (le_of_not_ge hzero)
    have hmono := roundHalfUp_mono hle
    simp only [BlackjackStore.applyPrizePoolDelta, BlackjackStore.setWallet, ← sub_eq_add_neg]
    omega

theorem progress_close {status : BlackjackGameStatus} {payoutAmount : ℚ} (userId : Nat)
    (h : game.terms.Consistent) (hstatus : status ≠ .active)
    (hle : payoutAmount ≤ game.terms.totalStake * game.terms.config.highestMultiplier) :
    Progress store
      (applyPayoutCredit (store.persistGameState (closeGame game status payoutAmount)) userId wallet
        payoutAmount) game.terms := by
  have hnonneg : (0 : ℚ) ≤ game.terms.totalStake * game.terms.config.highestMultiplier := by
    have hstake : (0 : ℚ) ≤ game.terms.totalStake := by exact_mod_cast h.totalStake_nonneg
    exact mul_nonneg hstake (highestMultiplier_nonneg _)
  refine ⟨closeGame game status payoutAmount, game.terms.highestPayout, rfl, h, ?_, ?_, ?_⟩
  · rw [applyPayoutCredit_games]
    rfl
  · simp [openExposure, closeGame, hstatus]
  · exact applyPayoutCredit_pool userId hnonneg hle

theorem settleGameByStatus_closes {status : BlackjackGameStatus} {highest : ℚ}
    (store : BlackjackStore) (wallet : Wallet) (hstatus : status ≠ .active) (hnonneg : 0 ≤ highest)
    (hle : resolveStatusPayoutAmount status game.stakeAmount game.totalStake game.config ≤
      highest) :
    ∃ closed : BlackjackGame, closed.id = game.id ∧ closed.terms = game.terms ∧
      closed.status ≠ .active ∧
      (settleGameByStatus store game wallet status).games =
        Keyed.modify BlackjackGame.id game.id (fun _ => closed) store.games ∧
      store.prizePoolBalance - roundHalfUp highest ≤
        (settleGameByStatus store game wallet status).prizePoolBalance := by
  let payoutAmount :=
    resolveStatusPayoutAmount status game.stakeAmount game.totalStake game.config
  refine ⟨closeGame game status payoutAmount, rfl, rfl, hstatus, ?_,
    applyPayoutCredit_pool game.userId hnonneg hle⟩
  unfold settleGameByStatus
  rw [applyPayoutCredit_games]
  rfl

theorem resolveAggregateSettledStatus_ne (game : BlackjackGame) (outcomes : List HandOutcome) :
    resolveAggregateSettledStatus game outcomes ≠ .active := by
  unfold resolveAggregateSettledStatus
  dsimp only
  split_ifs <;> simp

theorem progress_settleResolvedHands (h : game.terms.Consistent)
    (hrun : settleResolvedHands store game wallet = .ok store') :
    Progress store store' game.terms := by
  obtain ⟨played, hplayed, hrun⟩ := ApiError.bind_eq_ok.mp hrun
  have hterms := playDealerHand_terms hplayed
  rw [← hterms] at h ⊢
  rw [← Except.ok.inj hrun]
  exact progress_close game.userId h (resolveAggregateSettledStatus_ne _ _) (totalPayout_le h)

theorem progress_finalize (h : game.terms.Consistent)
    (hrun : finalizeBlackjackProgress config store game wallet now = .ok store') :
    Progress store store' game.terms := by
  obtain ⟨⟨advanced, complete⟩, hadvance, hrun⟩ := ApiError.bind_eq_ok.mp hrun
  have hterms : advanced.terms = game.terms := advanceResolvableHandsIn_terms hadvance
  rw [← hterms] at h ⊢
  dsimp only at hrun
  split_ifs at hrun
  · exact progress_settleResolvedHands h hrun
  · rw [← Except.ok.inj hrun]
    exact progress_persist h

theorem progress_advance {state : HandProgress} (h : game.terms.Consistent)
    (hrun : (do
      let (advanced, allHandsComplete) ← advancePlayerHand game state
      if allHandsComplete then settleResolvedHands store advanced wallet
      else finalizeBlackjackProgress config store advanced wallet now) = .ok store') :
    Progress store store' game.terms := by
  obtain ⟨⟨advanced, complete⟩, hadvance, hrun⟩ := ApiError.bind_eq_ok.mp hrun
  have hterms := advancePlayerHand_terms hadvance
  rw [← hterms] at h ⊢
  dsimp only at hrun
  split_ifs at hrun
  · exact progress_settleResolvedHands h hrun
  · exact progress_finalize h hrun

theorem progress_stand (h : game.terms.Consistent)
    (hrun : applyBlackjackStandAction config store game wallet now = .ok store') :
    Progress store store' game.terms :=
  progress_advance h hrun

theorem progress_hit {activeHandIndex : Nat} {activeHand : PlayerHand} (h : game.terms.Consistent)
    (hrun : applyHitAction config store game wallet activeHandIndex activeHand now = .ok store') :
    Progress store store' game.terms := by
  obtain ⟨⟨card, drawn⟩, hdraw, hrun⟩ := ApiError.bind_eq_ok.mp hrun
  obtain rfl := takeNextCard_eq_ok hdraw
  have hterms := modifyHand_terms { game with nextCardIndex := game.nextCardIndex + 1 }
    activeHandIndex (fun hand => { hand with cards := activeHand.cards ++ [card] }) fun _ => rfl
  have h : (BlackjackGame.terms { game with nextCardIndex := game.nextCardIndex + 1 }).Consistent :=
    h
  change Progress store store'
    (BlackjackGame.terms { game with nextCardIndex := game.nextCardIndex + 1 })
  rw [← hterms] at h ⊢
  dsimp only at hrun
  split_ifs at hrun
  · exact progress_finalize h hrun
  · rw [← Except.ok.inj hrun]
    exact progress_persist h

end Progress

end RewardSystem.Blackjack
