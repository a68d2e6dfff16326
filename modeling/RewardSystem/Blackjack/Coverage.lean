import RewardSystem.Blackjack.Exposure
import RewardSystem.Lib.Runs

/-!
# The prize pool over a run of many games

Each stake is checked against the pool by itself. The pool keeps its reserve through a run whose
checks also cover what the other open games may still be paid.
-/

namespace RewardSystem.Blackjack

open Rounding Transition

inductive Operation where
  | start (checks : SurroundingChecks) (request : StartRequest) (now : Int)
  | act (checks : SurroundingChecks) (userId gameId : Nat) (action : BlackjackAction) (now : Int)
  | timeout (userId : Nat) (now : Int)
  /-- Any other change of a user's wallet. -/
  | changeWallet (userId : Nat) (wallet : Wallet)

def step (config : PoolSystemConfig) (store : BlackjackStore) :
    Operation → Except ApiError BlackjackStore
  | .start checks request now => startResolvedBlackjack config checks store request now
  | .act checks userId gameId action now =>
      actOnBlackjack config checks store userId gameId action now
  | .timeout userId now => processExpiredBlackjackTurnForUser config store userId now
  | .changeWallet userId wallet => .ok (store.setWallet userId wallet)

/-- A stake that goes into the pool: `replaced` is what the pool already owed for the game and
`highest` the most the game can be paid with the new stake. -/
structure StakeTaken where
  stakeAmount : Int
  replaced : Int
  highest : Int
  deriving DecidableEq

/-- The best outcome of a fresh game, a natural included. -/
def initialHighestPayout (config : BlackjackConfig) (stakeAmount : Int) : Int :=
  roundHalfUp (stakeAmount * max config.highestMultiplier config.naturalPayoutMultiplier)

def raisedHighestPayout (game : BlackjackGame) (stakeAmount : Int) : Int :=
  roundHalfUp ((game.totalStake + stakeAmount : ℤ) * game.config.highestMultiplier)

/-- The stake an operation asks for: a start, a double or a split. -/
def Operation.stakeTaken (store : BlackjackStore) : Operation → Option StakeTaken
  | .start _ request _ =>
      match resolveStakeAmount request.stakeAmount with
      | .error _ => none
      | .ok baseStakeAmount =>
          let stakeAmount := baseStakeAmount * request.stakeMultiplier
          some ⟨stakeAmount, 0, initialHighestPayout request.config stakeAmount⟩
  | .act _ _ gameId action now =>
      (store.selectGame gameId).bind fun row =>
        let game := row.toGameState
        if isBlackjackTurnExpired game now then none
        else
          match action, game.getActivePlayerHand with
          | .double, some hand | .split, some hand =>
              some ⟨hand.stakeAmount, openExposure row, raisedHighestPayout game hand.stakeAmount⟩
          | _, _ => none
  | _ => none

def reserveFloor (config : PoolSystemConfig) : ℚ :=
  max 0 config.minReserve

/-- A stake is taken only while the pool covers the game and all other open games. -/
def CoversOpenGames (config : PoolSystemConfig) (e : Event BlackjackStore Operation) : Prop :=
  ∀ taken, e.label.stakeTaken e.before = some taken →
    (e.before.exposure - taken.replaced + taken.highest : ℚ) ≤
      e.before.prizePoolBalance + taken.stakeAmount - reserveFloor config

/-- The step closes a game that was open or new. -/
def Settles (e : Event BlackjackStore Operation) : Prop :=
  ∃ game ∈ e.after.games, game.status ≠ .active ∧
    ∀ earlier ∈ e.before.games, earlier.id = game.id → earlier.status = .active

structure WellFormed (store : BlackjackStore) : Prop where
  ids : Keyed.HasKeys BlackjackGame.id store.games
  fresh : ∀ game ∈ store.games, game.id ≤ store.games.length
  consistent : ∀ game ∈ store.games, game.terms.Consistent

def Covered (config : PoolSystemConfig) (store : BlackjackStore) : Prop :=
  (store.exposure : ℚ) ≤ store.prizePoolBalance - reserveFloor config

/-- What an accepted operation does. -/
inductive Effect (store store' : BlackjackStore) (op : Operation) : Prop
  | idle (hgames : store'.games = store.games)
      (hpool : store'.prizePoolBalance = store.prizePoolBalance)
  /-- An open game goes on or is closed, without a new stake. -/
  | played (game next : BlackjackGame) (paid : Int) (hgame : store.selectGame game.id = some game)
      (hactive : game.status = .active) (hid : next.id = game.id)
      (hnext : next.terms.Consistent)
      (hgames : store'.games = Keyed.modify BlackjackGame.id game.id (fun _ => next) store.games)
      (hpaid : paid + openExposure next ≤ openExposure game)
      (hpool : store.prizePoolBalance - paid ≤ store'.prizePoolBalance)
  | raised (game next : BlackjackGame) (paid : Int) (taken : StakeTaken)
      (hgame : store.selectGame game.id = some game)
      (hactive : game.status = .active) (hid : next.id = game.id)
      (hnext : next.terms.Consistent)
      (hgames : store'.games = Keyed.modify BlackjackGame.id game.id (fun _ => next) store.games)
      (htaken : op.stakeTaken store = some taken) (hreplaced : taken.replaced = openExposure game)
      (hpaid : paid + openExposure next ≤ taken.highest)
      (hpool : store.prizePoolBalance + taken.stakeAmount - paid ≤ store'.prizePoolBalance)
  | started (next : BlackjackGame) (paid : Int) (taken : StakeTaken)
      (hid : next.id = store.nextGameId) (hnext : next.terms.Consistent)
      (hgames : store'.games = store.games ++ [next])
      (htaken : op.stakeTaken store = some taken) (hreplaced : taken.replaced = 0)
      (hpaid : paid + openExposure next ≤ taken.highest)
      (hpool : store.prizePoolBalance + taken.stakeAmount - paid ≤ store'.prizePoolBalance)

section Raise

variable {config : PoolSystemConfig} {store store' debited : BlackjackStore} {game : BlackjackGame}
  {wallet : Wallet} {now : Int} {activeHandIndex : Nat} {activeHand : PlayerHand}

theorem applyStakeDebit_eq_ok {userId : Nat} {stakeAmount : Int}
    (h : applyStakeDebit store userId wallet stakeAmount = .ok debited) :
    debited.games = store.games ∧
      debited.prizePoolBalance = store.prizePoolBalance + stakeAmount := by
  obtain ⟨_, _, h⟩ := ApiError.bind_eq_ok.mp h
  rw [← Except.ok.inj h]
  refine ⟨rfl, ?_⟩
  simp only [BlackjackStore.applyPrizePoolDelta, BlackjackStore.setWallet]
  exact_mod_cast roundHalfUp_intCast (store.prizePoolBalance + stakeAmount)

theorem sum_modify_stakes {change : PlayerHand → PlayerHand} {hands : List PlayerHand} {index : Nat}
    {hand : PlayerHand} (hhand : hands[index]? = some hand) :
    ((hands.modify index change).map PlayerHand.stakeAmount).sum =
      (hands.map PlayerHand.stakeAmount).sum - hand.stakeAmount + (change hand).stakeAmount := by
  induction hands generalizing index with
  | nil => simp at hhand
  | cons head rest ih =>
      cases index with
      | zero =>
          obtain rfl : head = hand := by simpa using hhand
          simp
          omega
      | succ index =>
          have hrest := ih (by simpa using hhand)
          simp only [List.modify_succ_cons, List.map_cons, List.sum_cons, hrest]
          omega

theorem mem_modify_hands {change : PlayerHand → PlayerHand} {hands : List PlayerHand} {index : Nat}
    {hand : PlayerHand} (hmem : hand ∈ hands.modify index change) :
    hand ∈ hands ∨ ∃ earlier ∈ hands, change earlier = hand := by
  induction hands generalizing index with
  | nil => simp at hmem
  | cons head rest ih =>
      cases index with
      | zero =>
          rcases List.mem_cons.mp (by simpa using hmem) with rfl | hmem
          · exact .inr ⟨head, List.mem_cons_self, rfl⟩
          · exact .inl (List.mem_cons_of_mem _ hmem)
      | succ index =>
          rcases List.mem_cons.mp (by simpa using hmem) with rfl | hmem
          · exact .inl List.mem_cons_self
          · rcases ih hmem with hmem | ⟨earlier, hearlier, rfl⟩
            · exact .inl (List.mem_cons_of_mem _ hmem)
            · exact .inr ⟨earlier, List.mem_cons_of_mem _ hearlier, rfl⟩

/-- What a double or a split does: the stake goes into the pool, and the game goes on or is closed
with the raised stake. -/
def RaisedProgress (store store' : BlackjackStore) (game : BlackjackGame) (stakeAmount : Int) :
    Prop :=
  ∃ (debited : BlackjackStore) (terms : StakeTerms), debited.games = store.games ∧
    debited.prizePoolBalance = store.prizePoolBalance + stakeAmount ∧ terms.id = game.id ∧
    terms.highestPayout = raisedHighestPayout game stakeAmount ∧ Progress debited store' terms

/-- The terms of a game with a raised stake, shared by `hands`. -/
def raisedTerms (game : BlackjackGame) (stakeAmount : Int) (hands : List PlayerHand) :
    StakeTerms :=
  { id := game.id
    config := game.config
    totalStake := game.totalStake + stakeAmount
    handStakes := hands.map PlayerHand.stakeAmount }

theorem raisedTerms_highestPayout (game : BlackjackGame) (stakeAmount : Int)
    (hands : List PlayerHand) :
    (raisedTerms game stakeAmount hands).highestPayout = raisedHighestPayout game stakeAmount :=
  rfl

theorem doubledGame_consistent (hconsistent : game.terms.Consistent)
    (hhand : game.playerHands[activeHandIndex]? = some activeHand) (cards : List BlackjackCard) :
    (raisedTerms game activeHand.stakeAmount
      (doubledGame game activeHandIndex activeHand.stakeAmount cards).playerHands).Consistent := by
  have hnonneg : ∀ hand ∈ game.playerHands, 0 ≤ hand.stakeAmount := fun hand hmem =>
    hconsistent.nonneg _ (List.mem_map_of_mem hmem)
  constructor
  · intro stake hstakes
    obtain ⟨hand, hmem, rfl⟩ := List.mem_map.mp hstakes
    rcases mem_modify_hands hmem with hmem | ⟨earlier, hearlier, rfl⟩
    · exact hnonneg hand hmem
    · exact add_nonneg (hnonneg earlier hearlier) (hnonneg _ (List.mem_of_getElem? hhand))
  · have htotal : (game.playerHands.map PlayerHand.stakeAmount).sum = game.totalStake :=
      hconsistent.total
    simp only [raisedTerms, doubledGame, modifyHand]
    rw [sum_modify_stakes hhand, htotal]
    dsimp only
    omega

theorem splitGame_consistent (hconsistent : game.terms.Consistent)
    (hhand : game.playerHands[activeHandIndex]? = some activeHand)
    (leftCard rightCard leftDraw rightDraw : BlackjackCard) :
    (raisedTerms game activeHand.stakeAmount
      (splitGame game activeHandIndex activeHand.stakeAmount leftCard rightCard leftDraw
        rightDraw).playerHands).Consistent := by
  have hnonneg : ∀ hand ∈ game.playerHands, 0 ≤ hand.stakeAmount := fun hand hmem =>
    hconsistent.nonneg _ (List.mem_map_of_mem hmem)
  have hstake := hnonneg _ (List.mem_of_getElem? hhand)
  have hlength : activeHandIndex + 1 ≤ game.playerHands.length :=
    (List.getElem?_eq_some_iff.mp hhand).1
  constructor
  · intro stake hstakes
    obtain ⟨hand, hmem, rfl⟩ := List.mem_map.mp hstakes
    rcases List.eq_or_mem_of_mem_insertIdx hmem with rfl | hmem
    · exact hstake
    · rcases mem_modify_hands hmem with hmem | ⟨earlier, _, rfl⟩
      · exact hnonneg hand hmem
      · exact hstake
  · have htotal : (game.playerHands.map PlayerHand.stakeAmount).sum = game.totalStake :=
      hconsistent.total
    simp only [raisedTerms, splitGame]
    rw [((List.perm_insertIdx _ _ (by simpa using hlength)).map _).sum_eq, List.map_cons,
      List.sum_cons, sum_modify_stakes hhand, htotal]
    dsimp only
    omega

theorem raisedProgress_double {checks : SurroundingChecks} (hconsistent : game.terms.Consistent)
    (hhand : game.playerHands[activeHandIndex]? = some activeHand)
    (h : applyDoubleAction config checks store game wallet activeHandIndex activeHand now =
      .ok store') :
    RaisedProgress store store' game activeHand.stakeAmount := by
  obtain ⟨_, _, h⟩ := ApiError.bind_eq_ok.mp h
  obtain ⟨_, _, h⟩ := ApiError.bind_eq_ok.mp h
  obtain ⟨_, _, h⟩ := ApiError.bind_eq_ok.mp h
  obtain ⟨debited, hdebit, h⟩ := ApiError.bind_eq_ok.mp h
  obtain ⟨⟨card, drawn⟩, hdraw, h⟩ := ApiError.bind_eq_ok.mp h
  obtain ⟨hgames, hpool⟩ := applyStakeDebit_eq_ok hdebit
  have hterms : (doubledGame drawn activeHandIndex activeHand.stakeAmount
      (activeHand.cards ++ [card])).terms = raisedTerms game activeHand.stakeAmount
        (doubledGame game activeHandIndex activeHand.stakeAmount
          (activeHand.cards ++ [card])).playerHands := by
    rw [takeNextCard_eq_ok hdraw]
    rfl
  have hdoubled := doubledGame_consistent hconsistent hhand (activeHand.cards ++ [card])
  rw [← hterms] at hdoubled
  have hprogress := progress_advance hdoubled h
  rw [hterms] at hprogress
  exact ⟨debited, _, hgames, hpool, rfl, raisedTerms_highestPayout _ _ _, hprogress⟩

theorem raisedProgress_split {checks : SurroundingChecks} (hconsistent : game.terms.Consistent)
    (hhand : game.playerHands[activeHandIndex]? = some activeHand)
    (h : applySplitAction config checks store game wallet activeHandIndex activeHand now =
      .ok store') :
    RaisedProgress store store' game activeHand.stakeAmount := by
  obtain ⟨_, _, h⟩ := ApiError.bind_eq_ok.mp h
  obtain ⟨_, _, h⟩ := ApiError.bind_eq_ok.mp h
  obtain ⟨debited, hdebit, h⟩ := ApiError.bind_eq_ok.mp h
  obtain ⟨hgames, hpool⟩ := applyStakeDebit_eq_ok hdebit
  split at h
  · rename_i leftCard rightCard _ _
    obtain ⟨⟨leftDraw, drawn⟩, hdraw, h⟩ := ApiError.bind_eq_ok.mp h
    obtain ⟨⟨rightDraw, drawn'⟩, hdraw', h⟩ := ApiError.bind_eq_ok.mp h
    have hterms : (splitGame drawn' activeHandIndex activeHand.stakeAmount leftCard rightCard
        leftDraw rightDraw).terms = raisedTerms game activeHand.stakeAmount
          (splitGame game activeHandIndex activeHand.stakeAmount leftCard rightCard leftDraw
            rightDraw).playerHands := by
      rw [takeNextCard_eq_ok hdraw', takeNextCard_eq_ok hdraw]
      rfl
    have hsplit := splitGame_consistent hconsistent hhand leftCard rightCard leftDraw rightDraw
    rw [← hterms] at hsplit
    have hprogress := progress_finalize hsplit h
    rw [hterms] at hprogress
    exact ⟨debited, _, hgames, hpool, rfl, raisedTerms_highestPayout _ _ _, hprogress⟩
  · cases h

end Raise

section Effects

variable {config : PoolSystemConfig} {store store' : BlackjackStore} {op : Operation}
  {row : BlackjackGame} {wallet : Wallet}

theorem effect_of_progress (hrow : store.selectGame row.id = some row)
    (hactive : row.status = .active) (h : Progress store store' row.terms) :
    Effect store store' op := by
  obtain ⟨next, paid, hid, hnext, hgames, hpaid, hpool⟩ := h
  have hexposure : openExposure row = row.terms.highestPayout := if_pos hactive
  exact .played row next paid hrow hactive hid hnext hgames (hexposure ▸ hpaid) hpool

theorem effect_of_raisedProgress {stakeAmount : Int} (hrow : store.selectGame row.id = some row)
    (hactive : row.status = .active)
    (htaken : op.stakeTaken store =
      some ⟨stakeAmount, openExposure row, raisedHighestPayout row stakeAmount⟩)
    (h : RaisedProgress store store' row stakeAmount) : Effect store store' op := by
  obtain ⟨debited, terms, hsame, hdebited, hterms, hhighest, next, paid, hid, hnext, hgames, hpaid,
    hpool⟩ := h
  rw [hsame, hterms] at hgames
  refine .raised row next paid _ hrow hactive (hid.trans hterms) hnext hgames htaken rfl ?_ ?_
  · rw [← hhighest]
    exact hpaid
  · dsimp only
    omega

theorem resolveStakeAmount_pos {value : Decimal ℚ} {stakeAmount : Int}
    (h : resolveStakeAmount value = .ok stakeAmount) : 0 < stakeAmount := by
  unfold resolveStakeAmount at h
  split at h
  · split_ifs at h with hinvalid
    have hpos := not_le.mp (not_or.mp hinvalid).1
    rw [← Except.ok.inj h, Rat.num_pos]
    positivity
  · cases h

theorem resolveStatusPayoutAmount_le {stakeAmount : Int} (hstake : 0 ≤ stakeAmount)
    (status : BlackjackGameStatus) (config : BlackjackConfig) :
    resolveStatusPayoutAmount status stakeAmount stakeAmount config ≤
      stakeAmount * max config.highestMultiplier config.naturalPayoutMultiplier := by
  have hstake' : (0 : ℚ) ≤ stakeAmount := by exact_mod_cast hstake
  have hregular : ∀ outcome, resolveRegularHandPayoutAmount stakeAmount outcome config ≤
      stakeAmount * max config.highestMultiplier config.naturalPayoutMultiplier := fun outcome =>
    (resolveRegularHandPayoutAmount_le hstake outcome config).trans
      (mul_le_mul_of_nonneg_left (le_max_left _ _) hstake')
  cases status with
  | playerBlackjack => exact mul_le_mul_of_nonneg_left (le_max_right _ _) hstake'
  | dealerBust | playerWin => exact hregular .win
  | push => exact hregular .push
  | active | dealerBlackjack | playerBust | dealerWin => exact hregular .lose

theorem modify_append_new {next : BlackjackGame} {games : List BlackjackGame} {game : BlackjackGame}
    (hnew : ∀ earlier ∈ games, earlier.id ≠ game.id) :
    Keyed.modify BlackjackGame.id game.id (fun _ => next) (games ++ [game]) = games ++ [next] := by
  have hsame := Keyed.modify_of_forall_ne (f := fun _ => next) hnew
  simp only [Keyed.modify] at hsame ⊢
  simp [hsame]

theorem effect_of_opened {debited : BlackjackStore} {game : BlackjackGame} {stakeAmount : Int}
    {initialStatus : BlackjackGameStatus} (hwf : WellFormed store) (hstake : 0 ≤ stakeAmount)
    (htaken : op.stakeTaken store =
      some ⟨stakeAmount, 0, initialHighestPayout game.config stakeAmount⟩)
    (hid : game.id = store.nextGameId) (hstakeAmount : game.stakeAmount = stakeAmount)
    (htotal : game.totalStake = stakeAmount)
    (hhands : game.terms.handStakes = [stakeAmount])
    (hgames : debited.games = store.games ++ [game])
    (hpool : debited.prizePoolBalance = store.prizePoolBalance + stakeAmount)
    (h : (if initialStatus = .active then Except.ok debited
      else .ok (settleGameByStatus debited game wallet initialStatus)) =
        (.ok store' : Except ApiError BlackjackStore)) : Effect store store' op := by
  have hconsistent : game.terms.Consistent := by
    constructor
    · simpa [hhands] using hstake
    · rw [hhands, List.sum_singleton]
      exact htotal.symm
  have hstake' : (0 : ℚ) ≤ stakeAmount := by exact_mod_cast hstake
  have hhighest : game.terms.highestPayout ≤ initialHighestPayout game.config stakeAmount := by
    have htotal : game.terms.totalStake = stakeAmount := htotal
    unfold StakeTerms.highestPayout initialHighestPayout
    rw [htotal]
    exact roundHalfUp_mono (mul_le_mul_of_nonneg_left (le_max_left _ _) hstake')
  split_ifs at h with hactive
  · obtain rfl := Except.ok.inj h
    refine .started game 0 _ hid hconsistent hgames htaken rfl ?_ ?_
    · have hle := openExposure_le hconsistent
      dsimp only
      omega
    · dsimp only
      omega
  · obtain rfl := Except.ok.inj h
    have hnew : ∀ earlier ∈ store.games, earlier.id ≠ game.id := by
      intro earlier hmem
      have hfresh := hwf.fresh earlier hmem
      rw [hid, BlackjackStore.nextGameId]
      omega
    have hpayout : resolveStatusPayoutAmount initialStatus game.stakeAmount game.totalStake
        game.config = resolveStatusPayoutAmount initialStatus stakeAmount stakeAmount game.config := by
      rw [hstakeAmount, htotal]
    have hle := resolveStatusPayoutAmount_le hstake initialStatus game.config
    rw [← hpayout] at hle
    have hnonneg : (0 : ℚ) ≤
        stakeAmount * max game.config.highestMultiplier game.config.naturalPayoutMultiplier :=
      mul_nonneg hstake' (le_max_of_le_left (highestMultiplier_nonneg game.config))
    obtain ⟨closed, hclosed, hterms, hstatus, hmodified, hpaid⟩ :=
      settleGameByStatus_closes debited wallet hactive hnonneg hle
    refine .started closed (initialHighestPayout game.config stakeAmount) _ (hclosed.trans hid)
      (hterms ▸ hconsistent) ?_ htaken rfl ?_ ?_
    · rw [hmodified, hgames]
      exact modify_append_new hnew
    · simp [openExposure, hstatus]
    · unfold initialHighestPayout
      dsimp only
      omega

theorem effect_start {checks : SurroundingChecks} {request : StartRequest} {now : Int}
    (hwf : WellFormed store)
    (h : startResolvedBlackjack config checks store request now = .ok store') :
    Effect store store' (.start checks request now) := by
  unfold startResolvedBlackjack at h
  split at h
  · cases h
  · rename_i wallet _
    obtain ⟨_, _, h⟩ := ApiError.bind_eq_ok.mp h
    obtain ⟨baseStakeAmount, hbase, h⟩ := ApiError.bind_eq_ok.mp h
    obtain ⟨_, _, h⟩ := ApiError.bind_eq_ok.mp h
    obtain ⟨_, _, h⟩ := ApiError.bind_eq_ok.mp h
    obtain ⟨_, _, h⟩ := ApiError.bind_eq_ok.mp h
    obtain ⟨_, _, h⟩ := ApiError.bind_eq_ok.mp h
    split at h
    · rename_i p1 d1 p2 d2 _ _
      obtain ⟨debited, hdebit, h⟩ := ApiError.bind_eq_ok.mp h
      obtain ⟨initialStatus, _, h⟩ := ApiError.bind_eq_ok.mp h
      obtain ⟨_, _, h⟩ := ApiError.bind_eq_ok.mp h
      obtain ⟨hgames, hpool⟩ := applyStakeDebit_eq_ok hdebit
      have hstake : 0 ≤ baseStakeAmount * (request.stakeMultiplier : Int) :=
        mul_nonneg (resolveStakeAmount_pos hbase).le (Int.natCast_nonneg _)
      refine effect_of_opened hwf hstake ?_ rfl rfl rfl rfl hgames hpool h
      simp only [Operation.stakeTaken, hbase]
      rfl
    · cases h

theorem activeRow_spec {userId : Nat} {keeps : BlackjackGame → Bool} (hwf : WellFormed store)
    (h : (store.activeGames userId).find? keeps = some row) :
    store.selectGame row.id = some row ∧ row.status = .active ∧ row.terms.Consistent ∧
      keeps row = true := by
  have hmem := List.mem_of_find?_eq_some h
  obtain ⟨hrow, hactive⟩ : row ∈ store.games ∧ row.userId = userId ∧ row.status = .active := by
    simpa [BlackjackStore.activeGames] using hmem
  exact ⟨Keyed.lookup_of_mem hwf.ids hrow, hactive.2, hwf.consistent row hrow,
    List.find?_some h⟩

theorem getElem?_of_active {game : BlackjackGame} {index : Nat} {hand : PlayerHand}
    (hindex : game.activeHandIndex = some index) (hhand : game.getActivePlayerHand = some hand) :
    game.playerHands[index]? = some hand := by
  simpa [BlackjackGame.getActivePlayerHand, hindex] using hhand

theorem effect_act {checks : SurroundingChecks} {userId gameId : Nat} {action : BlackjackAction}
    {now : Int} (hwf : WellFormed store)
    (h : actOnBlackjack config checks store userId gameId action now = .ok store') :
    Effect store store' (.act checks userId gameId action now) := by
  unfold actOnBlackjack at h
  split at h
  · cases h
  · rename_i wallet _
    obtain ⟨_, _, h⟩ := ApiError.bind_eq_ok.mp h
    split at h
    · cases h
    · rename_i row hfind
      obtain ⟨hrow, hactive, hconsistent, hid⟩ := activeRow_spec hwf hfind
      have hid : row.id = gameId := by simpa using hid
      obtain ⟨_, _, h⟩ := ApiError.bind_eq_ok.mp h
      split_ifs at h with hexpired
      · have hprogress := progress_stand (row.toGameState_terms ▸ hconsistent) h
        exact effect_of_progress hrow hactive hprogress
      · obtain ⟨_, _, h⟩ := ApiError.bind_eq_ok.mp h
        split at h
        · rename_i activeHandIndex activeHand hindex hhand
          have hget := getElem?_of_active hindex hhand
          obtain ⟨acted, hacted, h⟩ := ApiError.bind_eq_ok.mp h
          obtain ⟨_, _, h⟩ := ApiError.bind_eq_ok.mp h
          obtain rfl := Except.ok.inj h
          cases action with
          | hit =>
              have hprogress := progress_hit (row.toGameState_terms ▸ hconsistent) hacted
              exact effect_of_progress hrow hactive hprogress
          | stand =>
              have hprogress := progress_stand (row.toGameState_terms ▸ hconsistent) hacted
              exact effect_of_progress hrow hactive hprogress
          | double =>
              have hraised :=
                raisedProgress_double (row.toGameState_terms ▸ hconsistent) hget hacted
              refine effect_of_raisedProgress hrow hactive ?_ hraised
              simp only [Operation.stakeTaken, ← hid, hrow, Option.bind_some, hexpired, hhand]
              rfl
          | split =>
              have hraised :=
                raisedProgress_split (row.toGameState_terms ▸ hconsistent) hget hacted
              refine effect_of_raisedProgress hrow hactive ?_ hraised
              simp only [Operation.stakeTaken, ← hid, hrow, Option.bind_some, hexpired, hhand]
              rfl
        · cases h

theorem effect_timeout {userId : Nat} {now : Int} (hwf : WellFormed store)
    (h : processExpiredBlackjackTurnForUser config store userId now = .ok store') :
    Effect store store' (.timeout userId now) := by
  unfold processExpiredBlackjackTurnForUser at h
  split at h
  · obtain rfl := Except.ok.inj h
    exact .idle rfl rfl
  · dsimp only at h
    split at h
    · obtain rfl := Except.ok.inj h
      exact .idle rfl rfl
    · rename_i game hfind
      rw [List.find?_map] at hfind
      obtain ⟨row, hrow, rfl⟩ := Option.map_eq_some_iff.mp hfind
      obtain ⟨hrow, hactive, hconsistent, _⟩ := activeRow_spec hwf hrow
      have hprogress := progress_stand (row.toGameState_terms ▸ hconsistent) h
      exact effect_of_progress hrow hactive hprogress

/-- **What a step does.** -/
theorem step_effect (hwf : WellFormed store) (h : step config store op = .ok store') :
    Effect store store' op := by
  cases op with
  | start checks request now => exact effect_start hwf h
  | act checks userId gameId action now => exact effect_act hwf h
  | timeout userId now => exact effect_timeout hwf h
  | changeWallet userId wallet =>
      obtain rfl := Except.ok.inj h
      exact .idle rfl rfl

end Effects

section Invariant

variable {config : PoolSystemConfig} {store store' : BlackjackStore} {op : Operation}

theorem wellFormed_of_modify {game next : BlackjackGame} (hwf : WellFormed store)
    (hid : next.id = game.id)
    (hnext : next.terms.Consistent)
    (hgames : store'.games = Keyed.modify BlackjackGame.id game.id (fun _ => next) store.games) :
    WellFormed store' := by
  constructor
  · rw [hgames]
    exact Keyed.hasKeys_modify (fun _ _ => hid) hwf.ids
  · intro row hrow
    rw [hgames, Keyed.mem_modify] at hrow
    have hlength : store'.games.length = store.games.length := by simp [hgames, Keyed.modify]
    rw [hlength]
    rcases hrow with ⟨hrow, _⟩ | ⟨earlier, hearlier, hsame, rfl⟩
    · exact hwf.fresh row hrow
    · rw [hid, ← hsame]
      exact hwf.fresh earlier hearlier
  · intro row hrow
    rw [hgames, Keyed.mem_modify] at hrow
    rcases hrow with ⟨hrow, _⟩ | ⟨_, _, _, rfl⟩
    · exact hwf.consistent row hrow
    · exact hnext

theorem not_mem_of_nextGameId (hwf : WellFormed store) :
    ∀ game ∈ store.games, game.id ≠ store.nextGameId := by
  intro game hgame
  have hfresh := hwf.fresh game hgame
  unfold BlackjackStore.nextGameId
  omega

theorem wellFormed_step (hwf : WellFormed store) (heffect : Effect store store' op) :
    WellFormed store' := by
  cases heffect with
  | idle hgames _ =>
      constructor
      · rw [hgames]
        exact hwf.ids
      · rw [hgames]
        exact hwf.fresh
      · rw [hgames]
        exact hwf.consistent
  | played game next _ _ _ hid hnext hgames => exact wellFormed_of_modify hwf hid hnext hgames
  | raised game next _ _ _ _ hid hnext hgames => exact wellFormed_of_modify hwf hid hnext hgames
  | started next _ _ hid hnext hgames =>
      constructor
      · rw [hgames]
        refine Keyed.hasKeys_append hwf.ids (Keyed.lookup_eq_none.mpr ?_)
        rw [hid]
        exact not_mem_of_nextGameId hwf
      · intro game hgame
        rw [hgames] at hgame ⊢
        rw [List.length_append, List.length_singleton]
        rcases List.mem_append.mp hgame with hgame | hgame
        · have hfresh := hwf.fresh game hgame
          omega
        · obtain rfl := List.mem_singleton.mp hgame
          exact hid.le
      · intro game hgame
        rw [hgames] at hgame
        rcases List.mem_append.mp hgame with hgame | hgame
        · exact hwf.consistent game hgame
        · obtain rfl := List.mem_singleton.mp hgame
          exact hnext

theorem exposure_nonneg (hwf : WellFormed store) : 0 ≤ store.exposure := by
  apply List.sum_nonneg
  intro exposure hmem
  obtain ⟨game, hgame, rfl⟩ := List.mem_map.mp hmem
  exact openExposure_nonneg (hwf.consistent game hgame)

/-- While games are open the pool covers them. -/
def Safe (config : PoolSystemConfig) (store : BlackjackStore) : Prop :=
  (∀ game ∈ store.games, game.status ≠ .active) ∨ Covered config store

theorem exposure_of_modify {game next : BlackjackGame} (hwf : WellFormed store)
    (hgame : store.selectGame game.id = some game)
    (hgames : store'.games = Keyed.modify BlackjackGame.id game.id (fun _ => next) store.games) :
    store'.exposure = store.exposure - openExposure game + openExposure next := by
  unfold BlackjackStore.exposure
  rw [hgames]
  exact Keyed.sum_modify openExposure hwf.ids hgame

theorem covered_step (hwf : WellFormed store) (hsafe : Safe config store)
    (heffect : Effect store store' op) (hcovers : CoversOpenGames config ⟨store, op, store'⟩) :
    (store'.games = store.games ∧ store'.prizePoolBalance = store.prizePoolBalance) ∨
      Covered config store' := by
  cases heffect with
  | idle hgames hpool => exact .inl ⟨hgames, hpool⟩
  | played game next paid hgame hactive hid hnext hgames hpaid hpool =>
      refine .inr ?_
      rcases hsafe with hclosed | hcovered
      · exact absurd hactive (hclosed game (Keyed.mem_of_lookup hgame))
      · have hle : store'.exposure - store'.prizePoolBalance ≤
            store.exposure - store.prizePoolBalance := by
          rw [exposure_of_modify hwf hgame hgames]
          omega
        unfold Covered at hcovered ⊢
        have hle : (store'.exposure - store'.prizePoolBalance : ℚ) ≤
            store.exposure - store.prizePoolBalance := by exact_mod_cast hle
        linarith
  | raised game next paid taken hgame hactive hid hnext hgames htaken hreplaced hpaid hpool =>
      refine .inr ?_
      have hstake := hcovers taken htaken
      have hle : store'.exposure - store'.prizePoolBalance ≤
          store.exposure - taken.replaced + taken.highest -
            (store.prizePoolBalance + taken.stakeAmount) := by
        rw [exposure_of_modify hwf hgame hgames, hreplaced]
        omega
      have hle : (store'.exposure - store'.prizePoolBalance : ℚ) ≤
          store.exposure - taken.replaced + taken.highest -
            (store.prizePoolBalance + taken.stakeAmount) := by exact_mod_cast hle
      unfold Covered
      linarith
  | started next paid taken hid hnext hgames htaken hreplaced hpaid hpool =>
      refine .inr ?_
      have hstake := hcovers taken htaken
      have hexposure : store'.exposure = store.exposure + openExposure next := by
        simp [BlackjackStore.exposure, hgames]
      have hle : store'.exposure - store'.prizePoolBalance ≤
          store.exposure - taken.replaced + taken.highest -
            (store.prizePoolBalance + taken.stakeAmount) := by
        rw [hexposure, hreplaced]
        omega
      have hle : (store'.exposure - store'.prizePoolBalance : ℚ) ≤
          store.exposure - taken.replaced + taken.highest -
            (store.prizePoolBalance + taken.stakeAmount) := by exact_mod_cast hle
      unfold Covered
      linarith

theorem safe_step (hwf : WellFormed store) (hsafe : Safe config store)
    (heffect : Effect store store' op) (hcovers : CoversOpenGames config ⟨store, op, store'⟩) :
    Safe config store' := by
  rcases covered_step hwf hsafe heffect hcovers with ⟨hgames, hpool⟩ | hcovered
  · unfold Safe Covered BlackjackStore.exposure at hsafe ⊢
    rw [hgames, hpool]
    exact hsafe
  · exact .inr hcovered

theorem reserve_le_of_covered (hwf : WellFormed store) (hcovered : Covered config store) :
    0 ≤ store.prizePoolBalance ∧ config.minReserve ≤ store.prizePoolBalance := by
  have hexposure : (0 : ℚ) ≤ store.exposure := by exact_mod_cast exposure_nonneg hwf
  have hzero : (0 : ℚ) ≤ reserveFloor config := le_max_left _ _
  have hreserve : config.minReserve ≤ reserveFloor config := le_max_right _ _
  unfold Covered at hcovered
  constructor
  · have hpool : (0 : ℚ) ≤ store.prizePoolBalance := by linarith
    exact_mod_cast hpool
  · linarith

end Invariant

section Runs

variable {config : PoolSystemConfig} {store t : BlackjackStore}
  {events : List (Event BlackjackStore Operation)}

end Runs

section Example

instance (config : PoolSystemConfig) (e : Event BlackjackStore Operation) :
    Decidable (CoversOpenGames config e) :=
  inferInstanceAs (Decidable (∀ taken ∈ e.label.stakeTaken e.before, _))

instance (e : Event BlackjackStore Operation) : Decidable (Settles e) :=
  inferInstanceAs (Decidable (∃ game ∈ e.after.games, _ ∧ ∀ earlier ∈ e.before.games, _))

def blackjackConfig : BlackjackConfig :=
  { minStake := 100
    maxStake := 10000
    winPayoutMultiplier := 2
    pushPayoutMultiplier := 1
    naturalPayoutMultiplier := 5 / 2
    dealerHitsSoft17 := false
    doubleDownAllowed := true
    splitAcesAllowed := true
    hitSplitAcesAllowed := true
    resplitAllowed := false
    maxSplitHands := 4
    splitTenValueCardsAllowed := false }

def openChecks : SurroundingChecks :=
  { kycStakeAllowed := .ok ()
    walletLedgerInvariant := .ok () }

/-- The player is dealt 20 and the dealer 17. -/
def winningDeck : List BlackjackCard :=
  [⟨.ten, .spades⟩, ⟨.ten, .hearts⟩, ⟨.king, .spades⟩, ⟨.seven, .clubs⟩]

def startTen (userId : Nat) : Operation :=
  .start openChecks ⟨userId, .finite 10, 1, none, blackjackConfig, winningDeck⟩ 0

def stand (userId gameId : Nat) : Operation :=
  .act openChecks userId gameId .stand 1

def noReserve : PoolSystemConfig :=
  { minReserve := 0
    turnTimeoutMs := 30000 }

def poolOf (prizePoolBalance : Int) : BlackjackStore :=
  { prizePoolBalance := prizePoolBalance
    wallets := fun _ => some ⟨1000, 0⟩
    games := [] }

end Example

end RewardSystem.Blackjack
