import RewardSystem.Blackjack.Coverage

/-!
# How a step changes a game

Every step that touches a game stakes, plays, and stores the game once; a game that is closed is
paid what its hands are owed. What the stored games satisfy is a parameter: `GameRules` lists what
has to be shown of it for each move.
-/

namespace RewardSystem.Blackjack

/-- What the hands of a game are paid once it is closed. -/
def BlackjackGame.owed (game : BlackjackGame) : ℚ :=
  if game.status = .active then 0 else totalPayout (resolveSettledHandOutcomes game)

section Moves

variable {game next : BlackjackGame} {state : HandProgress} {done : Bool}

def endHand (state : HandProgress) (hand : PlayerHand) : PlayerHand :=
  { hand with state := state }

theorem advancePlayerHand_cases (h : advancePlayerHand game state = .ok (next, done)) :
    ∃ index hand, game.activeHandIndex = some index ∧ game.playerHands[index]? = some hand ∧
      ((done = true ∧
          nextWaitingHand (game.playerHands.modify index (endHand state)) index = none ∧
          next = { game with
            playerHands := game.playerHands.modify index (endHand state)
            activeHandIndex := none }) ∨
        ∃ later, done = false ∧
          nextWaitingHand (game.playerHands.modify index (endHand state)) index = some later ∧
          next = { game with
            playerHands :=
              (game.playerHands.modify index (endHand state)).modify later (endHand .active)
            activeHandIndex := some later }) := by
  unfold advancePlayerHand at h
  split at h
  · rename_i index hand hindex hhand
    refine ⟨index, hand, hindex, getElem?_of_active hindex hhand, ?_⟩
    dsimp only at h
    split at h
    · rename_i later hlater
      obtain ⟨rfl, rfl⟩ := Prod.mk.inj (Except.ok.inj h)
      exact .inr ⟨later, rfl, hlater, rfl⟩
    · rename_i hlater
      obtain ⟨rfl, rfl⟩ := Prod.mk.inj (Except.ok.inj h)
      exact .inl ⟨rfl, hlater, rfl⟩
  · cases h

def SameButHands (game next : BlackjackGame) : Prop :=
  ∃ hands index, next = { game with playerHands := hands, activeHandIndex := index }

theorem SameButHands.refl (game : BlackjackGame) : SameButHands game game :=
  ⟨game.playerHands, game.activeHandIndex, rfl⟩

theorem SameButHands.trans {last : BlackjackGame} (h : SameButHands game next)
    (h' : SameButHands next last) : SameButHands game last := by
  obtain ⟨_, _, rfl⟩ := h
  obtain ⟨hands, index, rfl⟩ := h'
  exact ⟨hands, index, rfl⟩

theorem sameButHands_advance (h : advancePlayerHand game state = .ok (next, done)) :
    SameButHands game next := by
  obtain ⟨_, _, _, _, ⟨_, _, rfl⟩ | ⟨_, _, _, rfl⟩⟩ := advancePlayerHand_cases h
  · exact ⟨_, _, rfl⟩
  · exact ⟨_, _, rfl⟩

theorem sameButHands_resolve {balance : Int} {hands : Nat}
    (h : advanceResolvableHandsIn balance hands game = .ok (next, done)) :
    SameButHands game next := by
  induction hands generalizing game with
  | zero =>
      obtain ⟨rfl, _⟩ := Prod.mk.inj (Except.ok.inj h)
      exact .refl game
  | succ hands ih =>
      unfold advanceResolvableHandsIn at h
      split at h
      · obtain ⟨rfl, _⟩ := Prod.mk.inj (Except.ok.inj h)
        exact .refl game
      · split at h
        · obtain ⟨rfl, _⟩ := Prod.mk.inj (Except.ok.inj h)
          exact .refl game
        · obtain ⟨⟨advanced, complete⟩, hadvance, h⟩ := ApiError.bind_eq_ok.mp h
          have hsame := sameButHands_advance hadvance
          dsimp only at h
          split_ifs at h
          · obtain ⟨rfl, _⟩ := Prod.mk.inj (Except.ok.inj h)
            exact hsame
          · exact hsame.trans (ih h)

/-- The same game, of the same user, with the same stake. -/
structure Continues (game next : BlackjackGame) : Prop where
  id : next.id = game.id
  userId : next.userId = game.userId
  totalStake : next.totalStake = game.totalStake

theorem SameButHands.continues (h : SameButHands game next) : Continues game next := by
  obtain ⟨_, _, rfl⟩ := h
  exact ⟨rfl, rfl, rfl⟩

theorem Continues.trans {last : BlackjackGame} (h : Continues game next)
    (h' : Continues next last) : Continues game last :=
  ⟨h'.id.trans h.id, h'.userId.trans h.userId, h'.totalStake.trans h.totalStake⟩

end Moves

/-- What has to be shown so that every stored game satisfies `Stored`: `InPlay` of a game whose
active hand is played, `Over` of one whose hands have all ended. -/
structure GameRules (Legal : StartRequest → Prop) (InPlay Over Stored : BlackjackGame → Prop) :
    Prop where
  deal (store : BlackjackStore) {request : StartRequest} {baseStakeAmount : Int}
    {p1 d1 p2 d2 : BlackjackCard} {rest : List BlackjackCard} (hlegal : Legal request)
    (hdeck : request.deck = p1 :: d1 :: p2 :: d2 :: rest)
    (hbase : resolveStakeAmount request.stakeAmount = .ok baseStakeAmount) :
    InPlay (initialGame store request (baseStakeAmount * request.stakeMultiplier) [p1, p2] [d1, d2])
  wait {game : BlackjackGame} (config : PoolSystemConfig) (now : Int) (hgame : InPlay game) :
    Stored (syncBlackjackTurnDeadline config game now)
  natural {game : BlackjackGame} {status : BlackjackGameStatus} {payoutAmount : ℚ}
    (config : PoolSystemConfig) (now : Int) (hgame : InPlay game) (hstatus : status ≠ .active) :
    Stored (closeGame (syncBlackjackTurnDeadline config game now) status payoutAmount)
  read {row : BlackjackGame} (hrow : Stored row) (hactive : row.status = .active) :
    InPlay row.toGameState
  hit {game drawn : BlackjackGame} {index : Nat} {hand : PlayerHand} {balance : Int}
    {card : BlackjackCard} (hgame : InPlay game) (hindex : game.activeHandIndex = some index)
    (hhand : game.playerHands[index]? = some hand)
    (havailable : .hit ∈ getAvailableActions game balance)
    (hdraw : takeNextCard game = .ok (card, drawn)) :
    InPlay (modifyHand drawn index fun old => { old with cards := hand.cards ++ [card] })
  double {game drawn : BlackjackGame} {index : Nat} {hand : PlayerHand} {balance : Int}
    {card : BlackjackCard} (hgame : InPlay game) (hindex : game.activeHandIndex = some index)
    (hhand : game.playerHands[index]? = some hand)
    (havailable : .double ∈ getAvailableActions game balance)
    (hdraw : takeNextCard { game with totalStake := game.totalStake + hand.stakeAmount } =
      .ok (card, drawn)) :
    InPlay (doubledGame drawn index hand.stakeAmount (hand.cards ++ [card]))
  split {game drawn drawn' : BlackjackGame} {index : Nat} {hand : PlayerHand} {balance : Int}
    {left right leftDraw rightDraw : BlackjackCard} {more : List BlackjackCard}
    (hgame : InPlay game) (hindex : game.activeHandIndex = some index)
    (hhand : game.playerHands[index]? = some hand)
    (havailable : .split ∈ getAvailableActions game balance)
    (hcards : hand.cards = left :: right :: more)
    (hdraw : takeNextCard { game with totalStake := game.totalStake + hand.stakeAmount } =
      .ok (leftDraw, drawn))
    (hdraw' : takeNextCard drawn = .ok (rightDraw, drawn')) :
    InPlay (splitGame drawn' index hand.stakeAmount left right leftDraw rightDraw)
  advance {game next : BlackjackGame} {state : HandProgress} {done : Bool} (hgame : InPlay game)
    (hstate : state = .stood ∨ state = .bust)
    (hadvance : advancePlayerHand game state = .ok (next, done)) :
    if done then Over next else InPlay next
  resolve {game next : BlackjackGame} {balance : Int} {done : Bool} (hgame : InPlay game)
    (hresolve : advanceResolvableHands game balance = .ok (next, done)) :
    if done then Over next else InPlay next
  settle {game next : BlackjackGame} {status : BlackjackGameStatus} {payoutAmount : ℚ}
    (hgame : Over game) (hplayed : playDealerHand game = .ok next) (hstatus : status ≠ .active) :
    Stored (closeGame next status payoutAmount)

def StoresGame (Stored : BlackjackGame → Prop) (store : BlackjackStore) (game : BlackjackGame)
    (wallet : Wallet) (store' : BlackjackStore) : Prop :=
  ∃ next, Stored next ∧ Continues game next ∧
    store' = applyPayoutCredit (store.persistGameState next) game.userId wallet next.owed

section Endings

variable {Legal : StartRequest → Prop} {InPlay Over Stored : BlackjackGame → Prop}
  {config : PoolSystemConfig} {store store' : BlackjackStore} {game : BlackjackGame}
  {wallet : Wallet} {now : Int}

theorem StoresGame.of_continues {earlier : BlackjackGame}
    (h : StoresGame Stored store game wallet store') (hcontinues : Continues earlier game) :
    StoresGame Stored store earlier wallet store' := by
  obtain ⟨next, hstored, hnext, hstore⟩ := h
  rw [hcontinues.userId] at hstore
  exact ⟨next, hstored, hcontinues.trans hnext, hstore⟩

theorem owed_closeGame {status : BlackjackGameStatus} {payoutAmount : ℚ}
    (hstatus : status ≠ .active) :
    (closeGame game status payoutAmount).owed = totalPayout (resolveSettledHandOutcomes game) :=
  if_neg hstatus

theorem stores_wait (rules : GameRules Legal InPlay Over Stored) (hgame : InPlay game)
    (hactive : game.status = .active) :
    StoresGame Stored store game wallet
      (store.persistGameState (syncBlackjackTurnDeadline config game now)) := by
  refine ⟨_, rules.wait config now hgame, ⟨rfl, rfl, rfl⟩, ?_⟩
  have howed : (syncBlackjackTurnDeadline config game now).owed = 0 := if_pos hactive
  rw [howed, applyPayoutCredit, if_pos le_rfl]

theorem stores_settleResolvedHands (rules : GameRules Legal InPlay Over Stored)
    (hgame : Over game) (h : settleResolvedHands store game wallet = .ok store') :
    StoresGame Stored store game wallet store' := by
  obtain ⟨played, hplayed, h⟩ := ApiError.bind_eq_ok.mp h
  have hstatus := resolveAggregateSettledStatus_ne played
    (resolveSettledHandOutcomes played)
  have hcontinues : Continues game played := by
    obtain ⟨⟨_, _⟩, _, rfl⟩ := ApiError.map_eq_ok.mp hplayed
    exact ⟨rfl, rfl, rfl⟩
  have hstored : Stored (closeGame played _ (totalPayout (resolveSettledHandOutcomes played))) :=
    rules.settle hgame hplayed hstatus
  refine ⟨_, hstored, hcontinues.trans ⟨rfl, rfl, rfl⟩, ?_⟩
  rw [← Except.ok.inj h, owed_closeGame hstatus]

theorem stores_finalize (rules : GameRules Legal InPlay Over Stored) (hgame : InPlay game)
    (hactive : game.status = .active)
    (h : finalizeBlackjackProgress config store game wallet now = .ok store') :
    StoresGame Stored store game wallet store' := by
  obtain ⟨⟨advanced, done⟩, hresolve, h⟩ := ApiError.bind_eq_ok.mp h
  have hsame := sameButHands_resolve hresolve
  have hstatus : advanced.status = .active := by
    obtain ⟨_, _, rfl⟩ := hsame
    exact hactive
  have hadvanced := rules.resolve hgame hresolve
  refine StoresGame.of_continues ?_ hsame.continues
  cases done with
  | true => exact stores_settleResolvedHands rules hadvanced h
  | false =>
      rw [← Except.ok.inj h]
      exact stores_wait rules hadvanced hstatus

theorem stores_advance (rules : GameRules Legal InPlay Over Stored) {state : HandProgress}
    (hgame : InPlay game) (hactive : game.status = .active)
    (hstate : state = .stood ∨ state = .bust)
    (h : (do
      let (advanced, allHandsComplete) ← advancePlayerHand game state
      if allHandsComplete then settleResolvedHands store advanced wallet
      else finalizeBlackjackProgress config store advanced wallet now) = .ok store') :
    StoresGame Stored store game wallet store' := by
  obtain ⟨⟨advanced, done⟩, hadvance, h⟩ := ApiError.bind_eq_ok.mp h
  have hsame := sameButHands_advance hadvance
  have hstatus : advanced.status = .active := by
    obtain ⟨_, _, rfl⟩ := hsame
    exact hactive
  have hadvanced := rules.advance hgame hstate hadvance
  refine StoresGame.of_continues ?_ hsame.continues
  cases done with
  | true => exact stores_settleResolvedHands rules hadvanced h
  | false => exact stores_finalize rules hadvanced hstatus h

theorem stores_stand (rules : GameRules Legal InPlay Over Stored) (hgame : InPlay game)
    (hactive : game.status = .active)
    (h : applyBlackjackStandAction config store game wallet now = .ok store') :
    StoresGame Stored store game wallet store' :=
  stores_advance rules hgame hactive (.inl rfl) h

theorem stores_hit (rules : GameRules Legal InPlay Over Stored) {index : Nat} {hand : PlayerHand}
    {balance : Int} (hgame : InPlay game) (hactive : game.status = .active)
    (hindex : game.activeHandIndex = some index) (hhand : game.playerHands[index]? = some hand)
    (havailable : .hit ∈ getAvailableActions game balance)
    (h : applyHitAction config store game wallet index hand now = .ok store') :
    StoresGame Stored store game wallet store' := by
  obtain ⟨⟨card, drawn⟩, hdraw, h⟩ := ApiError.bind_eq_ok.mp h
  have hhit := rules.hit hgame hindex hhand havailable hdraw
  obtain rfl := takeNextCard_eq_ok hdraw
  dsimp only at h
  split_ifs at h
  · exact (stores_finalize rules hhit (by exact hactive) h).of_continues ⟨rfl, rfl, rfl⟩
  · rw [← Except.ok.inj h]
    exact (stores_wait rules hhit (by exact hactive)).of_continues ⟨rfl, rfl, rfl⟩

end Endings

section Raises

variable {Legal : StartRequest → Prop} {InPlay Over Stored : BlackjackGame → Prop}
  {config : PoolSystemConfig} {store store' : BlackjackStore} {game : BlackjackGame}
  {wallet : Wallet} {now : Int} {checks : SurroundingChecks} {index : Nat} {hand : PlayerHand}
  {balance : Int}

/-- A further stake is taken before the game is stored with it. -/
def RaisesGame (Stored : BlackjackGame → Prop) (store : BlackjackStore) (game : BlackjackGame)
    (wallet : Wallet) (stakeAmount : Int) (store' : BlackjackStore) : Prop :=
  ∃ debited, applyStakeDebit store game.userId wallet stakeAmount = .ok debited ∧
    StoresGame Stored debited { game with totalStake := game.totalStake + stakeAmount }
      (debitedWallet wallet stakeAmount) store'

theorem raises_double (rules : GameRules Legal InPlay Over Stored) (hgame : InPlay game)
    (hactive : game.status = .active) (hindex : game.activeHandIndex = some index)
    (hhand : game.playerHands[index]? = some hand)
    (havailable : .double ∈ getAvailableActions game balance)
    (h : applyDoubleAction config checks store game wallet index hand now = .ok store') :
    RaisesGame Stored store game wallet hand.stakeAmount store' := by
  obtain ⟨_, _, h⟩ := ApiError.bind_eq_ok.mp h
  obtain ⟨_, _, h⟩ := ApiError.bind_eq_ok.mp h
  obtain ⟨_, _, h⟩ := ApiError.bind_eq_ok.mp h
  obtain ⟨debited, hdebit, h⟩ := ApiError.bind_eq_ok.mp h
  obtain ⟨⟨card, drawn⟩, hdraw, h⟩ := ApiError.bind_eq_ok.mp h
  have hdoubled := rules.double hgame hindex hhand havailable hdraw
  have hstate : ∀ bust : Bool, (if bust then HandProgress.bust else .stood) = .stood ∨
      (if bust then HandProgress.bust else .stood) = .bust := by decide
  obtain rfl := takeNextCard_eq_ok hdraw
  have hstores := stores_advance rules hdoubled (by exact hactive) (hstate _) h
  exact ⟨debited, hdebit, hstores.of_continues ⟨rfl, rfl, rfl⟩⟩

theorem raises_split (rules : GameRules Legal InPlay Over Stored) (hgame : InPlay game)
    (hactive : game.status = .active) (hindex : game.activeHandIndex = some index)
    (hhand : game.playerHands[index]? = some hand)
    (havailable : .split ∈ getAvailableActions game balance)
    (h : applySplitAction config checks store game wallet index hand now = .ok store') :
    RaisesGame Stored store game wallet hand.stakeAmount store' := by
  obtain ⟨_, _, h⟩ := ApiError.bind_eq_ok.mp h
  obtain ⟨_, _, h⟩ := ApiError.bind_eq_ok.mp h
  obtain ⟨debited, hdebit, h⟩ := ApiError.bind_eq_ok.mp h
  split at h
  · rename_i left right more hcards
    obtain ⟨⟨leftDraw, drawn⟩, hdraw, h⟩ := ApiError.bind_eq_ok.mp h
    obtain ⟨⟨rightDraw, drawn'⟩, hdraw', h⟩ := ApiError.bind_eq_ok.mp h
    have hsplit := rules.split hgame hindex hhand havailable hcards hdraw hdraw'
    obtain rfl := takeNextCard_eq_ok hdraw'
    obtain rfl := takeNextCard_eq_ok hdraw
    have hstores := stores_finalize rules hsplit (by exact hactive) h
    exact ⟨debited, hdebit, hstores.of_continues ⟨rfl, rfl, rfl⟩⟩
  · cases h

end Raises

def Operation.gameTouched (store : BlackjackStore) : Operation → Option Nat
  | .start _ _ _ => some store.nextGameId
  | .act _ _ gameId _ _ => some gameId
  | .timeout userId now =>
      (((store.activeGames userId).map BlackjackGame.toGameState).find? fun game =>
        isBlackjackTurnExpired game now).map BlackjackGame.id
  | .changeWallet _ _ => none

/-- The user whose game it is. -/
def Operation.player : Operation → Option Nat
  | .start _ request _ => some request.userId
  | .act _ userId _ _ _ => some userId
  | .timeout userId _ => some userId
  | .changeWallet _ _ => none

def Operation.stakeDebited (store : BlackjackStore) (op : Operation) : Int :=
  ((op.stakeTaken store).map StakeTaken.stakeAmount).getD 0

/-- What a fresh game is paid if its first cards close it. -/
def BlackjackGame.owedAtOnce (game : BlackjackGame) : ℚ :=
  if game.status = .active then 0
  else resolveStatusPayoutAmount game.status game.stakeAmount game.totalStake game.config

/-- What an accepted step does. -/
inductive Turn (Stored : BlackjackGame → Prop) (store : BlackjackStore) (op : Operation)
    (store' : BlackjackStore) : Prop
  | idle (hstore : store' = store) (hstake : op.stakeDebited store = 0)
      (hstart : ∀ checks request now, op ≠ .start checks request now)
      (hactive : ∀ id, op.gameTouched store = some id →
        ∃ row, store.selectGame id = some row ∧ row.status = .active)
  | otherFeature (userId : Nat) (wallet : Wallet) (hop : op = .changeWallet userId wallet)
      (hstore : store' = store.setWallet userId wallet)
  | played (row : BlackjackGame) (wallet : Wallet) (hrow : store.selectGame row.id = some row)
      (hactive : row.status = .active) (hwallet : store.wallets row.userId = some wallet)
      (hplayer : op.player = some row.userId) (htouched : op.gameTouched store = some row.id)
      (hstake : op.stakeDebited store = 0)
      (hstart : ∀ checks request now, op ≠ .start checks request now)
      (hstores : StoresGame Stored store row wallet store')
  | raised (row : BlackjackGame) (wallet : Wallet) (hrow : store.selectGame row.id = some row)
      (hactive : row.status = .active) (hwallet : store.wallets row.userId = some wallet)
      (hplayer : op.player = some row.userId) (htouched : op.gameTouched store = some row.id)
      (hstart : ∀ checks request now, op ≠ .start checks request now)
      (hraises : RaisesGame Stored store row wallet (op.stakeDebited store) store')
  | started (checks : SurroundingChecks) (request : StartRequest) (now : Int)
      (game next : BlackjackGame) (wallet : Wallet) (debited : BlackjackStore)
      (hop : op = .start checks request now) (hplayer : op.player = some game.userId)
      (hid : game.id = store.nextGameId)
      (hwallet : store.wallets game.userId = some wallet)
      (hstake : op.stakeDebited store = game.totalStake)
      (hdebit : applyStakeDebit { store with games := store.games ++ [game] } game.userId wallet
        game.totalStake = .ok debited)
      (hstored : Stored next) (hcontinues : Continues game next)
      (hstore : store' = applyPayoutCredit (debited.persistGameState next) game.userId
        (debitedWallet wallet game.totalStake) next.owedAtOnce)

section Steps

variable {Legal : StartRequest → Prop} {InPlay Over Stored : BlackjackGame → Prop}
  {config : PoolSystemConfig} {store store' : BlackjackStore} {row : BlackjackGame}
  {wallet : Wallet} {now : Int} {checks : SurroundingChecks} {userId : Nat}

theorem toGameState_continues : Continues row row.toGameState :=
  ⟨rfl, rfl, rfl⟩

theorem mem_activeGames (h : row ∈ store.activeGames userId) :
    row ∈ store.games ∧ row.userId = userId ∧ row.status = .active := by
  simpa [BlackjackStore.activeGames] using h

theorem persistGameState_inserted {debited : BlackjackStore} {game : BlackjackGame}
    (hnew : ∀ earlier ∈ store.games, earlier.id ≠ game.id)
    (hgames : debited.games = store.games ++ [game]) : debited.persistGameState game = debited := by
  have hsame : Keyed.modify BlackjackGame.id game.id (fun _ => game) debited.games =
      debited.games := by
    rw [hgames]
    exact modify_append_new hnew
  unfold BlackjackStore.persistGameState
  rw [hsame]

theorem turn_of_start {request : StartRequest} (rules : GameRules Legal InPlay Over Stored)
    (hwf : WellFormed store) (hlegal : Legal request)
    (h : startResolvedBlackjack config checks store request now = .ok store') :
    Turn Stored store (.start checks request now) store' := by
  unfold startResolvedBlackjack at h
  split at h
  · cases h
  · rename_i wallet hwallet
    obtain ⟨_, _, h⟩ := ApiError.bind_eq_ok.mp h
    obtain ⟨baseStakeAmount, hbase, h⟩ := ApiError.bind_eq_ok.mp h
    obtain ⟨_, _, h⟩ := ApiError.bind_eq_ok.mp h
    obtain ⟨_, _, h⟩ := ApiError.bind_eq_ok.mp h
    obtain ⟨_, _, h⟩ := ApiError.bind_eq_ok.mp h
    obtain ⟨_, _, h⟩ := ApiError.bind_eq_ok.mp h
    split at h
    · rename_i p1 d1 p2 d2 rest hdeck
      obtain ⟨debited, hdebit, h⟩ := ApiError.bind_eq_ok.mp h
      obtain ⟨initialStatus, _, h⟩ := ApiError.bind_eq_ok.mp h
      obtain ⟨_, _, h⟩ := ApiError.bind_eq_ok.mp h
      have hdealt := rules.deal store hlegal hdeck hbase
      set opened := initialGame store request (baseStakeAmount * request.stakeMultiplier) [p1, p2]
        [d1, d2] with hopened
      have hstake : (Operation.start checks request now).stakeDebited store = opened.totalStake := by
        simp only [Operation.stakeDebited, Operation.stakeTaken, hbase]
        rfl
      have hnew := not_mem_of_nextGameId hwf
      split_ifs at h with hactive
      · refine .started checks request now (syncBlackjackTurnDeadline config opened now)
          (syncBlackjackTurnDeadline config opened now) wallet debited rfl rfl rfl hwallet hstake hdebit
          (rules.wait config now hdealt) ⟨rfl, rfl, rfl⟩ ?_
        have howed : (syncBlackjackTurnDeadline config opened now).owedAtOnce = 0 := if_pos rfl
        have hgames := (applyStakeDebit_eq_ok hdebit).1
        rw [howed, applyPayoutCredit, if_pos le_rfl, ← Except.ok.inj h,
          persistGameState_inserted hnew hgames]
      · set payoutAmount := resolveStatusPayoutAmount initialStatus opened.stakeAmount
          opened.totalStake opened.config with hpayout
        refine .started checks request now (syncBlackjackTurnDeadline config opened now)
          (closeGame (syncBlackjackTurnDeadline config opened now) initialStatus payoutAmount) wallet
          debited rfl rfl rfl hwallet hstake hdebit (rules.natural config now hdealt hactive)
          ⟨rfl, rfl, rfl⟩ ?_
        rw [← Except.ok.inj h, BlackjackGame.owedAtOnce, if_neg (by exact hactive)]
        rfl
    · cases h

theorem turn_of_act {gameId : Nat} {action : BlackjackAction}
    (rules : GameRules Legal InPlay Over Stored) (hwf : WellFormed store)
    (hstored : ∀ game ∈ store.games, Stored game)
    (h : actOnBlackjack config checks store userId gameId action now = .ok store') :
    Turn Stored store (.act checks userId gameId action now) store' := by
  unfold actOnBlackjack at h
  split at h
  · cases h
  · rename_i wallet hwallet
    obtain ⟨_, _, h⟩ := ApiError.bind_eq_ok.mp h
    split at h
    · cases h
    · rename_i row hfind
      obtain ⟨hmem, huser, hactive⟩ := mem_activeGames (List.mem_of_find?_eq_some hfind)
      obtain ⟨hrow, _, _, hid⟩ := activeRow_spec hwf hfind
      have hid : row.id = gameId := by simpa using hid
      have hwallet : store.wallets row.userId = some wallet := huser ▸ hwallet
      have hplay := rules.read (hstored row hmem) hactive
      have htouched : (Operation.act checks userId gameId action now).gameTouched store =
          some row.id := by rw [hid]; rfl
      have hplayer : (Operation.act checks userId gameId action now).player = some row.userId := by
        rw [huser]; rfl
      have hstart : ∀ checks' request now',
          Operation.act checks userId gameId action now ≠ .start checks' request now' := by
        simp
      obtain ⟨_, _, h⟩ := ApiError.bind_eq_ok.mp h
      have hselect : store.selectGame gameId = some row := hid ▸ hrow
      by_cases hexpired : isBlackjackTurnExpired row.toGameState now = true
      · rw [if_pos hexpired] at h
        have hstake : (Operation.act checks userId gameId action now).stakeDebited store = 0 := by
          simp [Operation.stakeDebited, Operation.stakeTaken, hselect, hexpired]
        exact .played row wallet hrow hactive hwallet hplayer htouched hstake hstart
          ((stores_stand rules hplay hactive h).of_continues toGameState_continues)
      · rw [if_neg hexpired] at h
        obtain ⟨_, havailable, h⟩ := ApiError.bind_eq_ok.mp h
        have havailable : action ∈ getAvailableActions row.toGameState wallet.withdrawableBalance := by
          simpa using havailable
        split at h
        · rename_i index hand hindex hhand
          have hget := getElem?_of_active hindex hhand
          obtain ⟨acted, hacted, h⟩ := ApiError.bind_eq_ok.mp h
          obtain ⟨_, _, h⟩ := ApiError.bind_eq_ok.mp h
          obtain rfl := Except.ok.inj h
          cases action with
          | hit =>
              have hstake : (Operation.act checks userId gameId .hit now).stakeDebited store = 0 := by
                simp [Operation.stakeDebited, Operation.stakeTaken, hselect]
              exact .played row wallet hrow hactive hwallet hplayer htouched hstake hstart
                ((stores_hit rules hplay hactive hindex hget havailable hacted).of_continues
                  toGameState_continues)
          | stand =>
              have hstake : (Operation.act checks userId gameId .stand now).stakeDebited store = 0 := by
                simp [Operation.stakeDebited, Operation.stakeTaken, hselect]
              exact .played row wallet hrow hactive hwallet hplayer htouched hstake hstart
                ((stores_stand rules hplay hactive hacted).of_continues toGameState_continues)
          | double =>
              have hstake : (Operation.act checks userId gameId .double now).stakeDebited store =
                  hand.stakeAmount := by
                simp [Operation.stakeDebited, Operation.stakeTaken, hselect, hexpired, hhand]
              refine .raised row wallet hrow hactive hwallet hplayer htouched hstart ?_
              rw [hstake]
              obtain ⟨debited, hdebit, hstores⟩ :=
                raises_double rules hplay hactive hindex hget havailable hacted
              exact ⟨debited, hdebit, hstores.of_continues ⟨rfl, rfl, rfl⟩⟩
          | split =>
              have hstake : (Operation.act checks userId gameId .split now).stakeDebited store =
                  hand.stakeAmount := by
                simp [Operation.stakeDebited, Operation.stakeTaken, hselect, hexpired, hhand]
              refine .raised row wallet hrow hactive hwallet hplayer htouched hstart ?_
              rw [hstake]
              obtain ⟨debited, hdebit, hstores⟩ :=
                raises_split rules hplay hactive hindex hget havailable hacted
              exact ⟨debited, hdebit, hstores.of_continues ⟨rfl, rfl, rfl⟩⟩
        · cases h

theorem expiredRow_spec (hwf : WellFormed store) {game : BlackjackGame}
    (hfind : ((store.activeGames userId).map BlackjackGame.toGameState).find?
      (fun game => isBlackjackTurnExpired game now) = some game) :
    ∃ row, row ∈ store.games ∧ store.selectGame row.id = some row ∧ row.status = .active ∧
      row.userId = userId ∧ game = row.toGameState := by
  rw [List.find?_map] at hfind
  obtain ⟨row, hrowfind, rfl⟩ := Option.map_eq_some_iff.mp hfind
  obtain ⟨hmem, huser, hactive⟩ := mem_activeGames (List.mem_of_find?_eq_some hrowfind)
  obtain ⟨hrow, _, _, _⟩ := activeRow_spec hwf hrowfind
  exact ⟨row, hmem, hrow, hactive, huser, rfl⟩

theorem touched_active_of_timeout (hwf : WellFormed store) {id : Nat}
    (h : (Operation.timeout userId now).gameTouched store = some id) :
    ∃ row, store.selectGame id = some row ∧ row.status = .active := by
  obtain ⟨game, hfind, rfl⟩ := Option.map_eq_some_iff.mp h
  obtain ⟨row, _, hrow, hactive, _, rfl⟩ := expiredRow_spec hwf hfind
  exact ⟨row, hrow, hactive⟩

theorem turn_of_timeout (rules : GameRules Legal InPlay Over Stored) (hwf : WellFormed store)
    (hstored : ∀ game ∈ store.games, Stored game)
    (h : processExpiredBlackjackTurnForUser config store userId now = .ok store') :
    Turn Stored store (.timeout userId now) store' := by
  have hidle := fun id : Nat => @touched_active_of_timeout store now userId hwf id
  have hstart : ∀ checks request now', Operation.timeout userId now ≠ .start checks request now' := by
    simp
  unfold processExpiredBlackjackTurnForUser at h
  split at h
  · exact .idle (Except.ok.inj h).symm rfl hstart hidle
  · rename_i wallet hwallet
    dsimp only at h
    split at h
    · exact .idle (Except.ok.inj h).symm rfl hstart hidle
    · rename_i game hfind
      have htouched : (Operation.timeout userId now).gameTouched store = some game.id := by
        simp only [Operation.gameTouched, hfind, Option.map_some]
      obtain ⟨row, hmem, hrow, hactive, rfl, rfl⟩ := expiredRow_spec hwf hfind
      exact .played row wallet hrow hactive hwallet rfl htouched rfl hstart
        ((stores_stand rules (rules.read (hstored row hmem) hactive) hactive h).of_continues
          toGameState_continues)

/-- **What a step does.** -/
theorem turn_of_step {op : Operation} (rules : GameRules Legal InPlay Over Stored)
    (hwf : WellFormed store) (hstored : ∀ game ∈ store.games, Stored game)
    (hlegal : ∀ checks request now, op = .start checks request now → Legal request)
    (h : step config store op = .ok store') : Turn Stored store op store' := by
  cases op with
  | start checks request now =>
      exact turn_of_start rules hwf (hlegal checks request now rfl) h
  | act checks userId gameId action now => exact turn_of_act rules hwf hstored h
  | timeout userId now => exact turn_of_timeout rules hwf hstored h
  | changeWallet userId wallet => exact .otherFeature userId wallet rfl (Except.ok.inj h).symm

end Steps

end RewardSystem.Blackjack
