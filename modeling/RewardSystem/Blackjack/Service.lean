import Mathlib.Logic.Function.Basic
import RewardSystem.Blackjack.Game
import RewardSystem.Lib.Keyed

/-!
# Blackjack and the prize pool

Every operation is one transaction: it locks the user's wallet, the user's open games and, where it
reads or changes it, the house account.
-/

namespace RewardSystem.Blackjack

open Rounding

structure Wallet where
  withdrawableBalance : Int
  wageredAmount : Int
  deriving DecidableEq, Repr

/-- What the operations read and write; amounts are in cents. -/
structure BlackjackStore where
  prizePoolBalance : Int
  wallets : Nat → Option Wallet
  games : List BlackjackGame

/-- The configured values that do not belong to a game. -/
structure PoolSystemConfig where
  minReserve : ℚ
  turnTimeoutMs : Int

structure SurroundingChecks where
  kycStakeAllowed : Except ApiError Unit
  walletLedgerInvariant : Except ApiError Unit

structure StartRequest where
  userId : Nat
  stakeAmount : Decimal ℚ
  stakeMultiplier : Nat
  linkedGroup : Option String
  config : BlackjackConfig
  deck : List BlackjackCard

namespace BlackjackStore

def selectGame (store : BlackjackStore) (id : Nat) : Option BlackjackGame :=
  Keyed.lookup BlackjackGame.id id store.games

def activeGames (store : BlackjackStore) (userId : Nat) : List BlackjackGame :=
  store.games.filter fun game => game.userId = userId ∧ game.status = .active

def persistGameState (store : BlackjackStore) (game : BlackjackGame) : BlackjackStore :=
  { store with games := Keyed.modify BlackjackGame.id game.id (fun _ => game) store.games }

def applyPrizePoolDelta (store : BlackjackStore) (delta : ℚ) : BlackjackStore :=
  { store with prizePoolBalance := roundHalfUp (store.prizePoolBalance + delta) }

def setWallet (store : BlackjackStore) (userId : Nat) (wallet : Wallet) : BlackjackStore :=
  { store with wallets := Function.update store.wallets userId (some wallet) }

def nextGameId (store : BlackjackStore) : Nat :=
  store.games.length + 1

end BlackjackStore

section Pool

/-- The check sees the pool balance and the reserve, not what other open games may still win. -/
def assertTransactionalGamePoolCoverage (poolBalance : Int) (minimumReserve : ℚ)
    (additionalStake : Int) (maximumPayout : ℚ) : Except ApiError Unit :=
  ApiError.throwIf ((poolBalance + additionalStake : ℚ) - minimumReserve < maximumPayout)
    (.conflict "Prize pool reserve is too low for this stake.")

def ensurePoolCanCover (config : PoolSystemConfig) (store : BlackjackStore) (additionalStake : Int)
    (maximumPayout : ℚ) : Except ApiError Unit :=
  assertTransactionalGamePoolCoverage store.prizePoolBalance config.minReserve additionalStake
    maximumPayout

def debitedWallet (wallet : Wallet) (stakeAmount : Int) : Wallet :=
  { withdrawableBalance := wallet.withdrawableBalance - stakeAmount
    wageredAmount := wallet.wageredAmount + stakeAmount }

def applyStakeDebit (store : BlackjackStore) (userId : Nat) (wallet : Wallet) (stakeAmount : Int) :
    Except ApiError BlackjackStore := do
  ApiError.throwIf (wallet.withdrawableBalance - stakeAmount < 0) (.conflict "Insufficient balance.")
  .ok ((store.setWallet userId (debitedWallet wallet stakeAmount)).applyPrizePoolDelta stakeAmount)

def applyPayoutCredit (store : BlackjackStore) (userId : Nat) (wallet : Wallet)
    (payoutAmount : ℚ) : BlackjackStore :=
  if payoutAmount ≤ 0 then store
  else
    (store.setWallet userId
      { wallet with
        withdrawableBalance := roundHalfUp (wallet.withdrawableBalance + payoutAmount) }
      ).applyPrizePoolDelta (-payoutAmount)

def settleGameByStatus (store : BlackjackStore) (game : BlackjackGame) (wallet : Wallet)
    (status : BlackjackGameStatus) : BlackjackStore :=
  let payoutAmount :=
    resolveStatusPayoutAmount status game.stakeAmount game.totalStake game.config
  applyPayoutCredit (store.persistGameState (closeGame game status payoutAmount)) game.userId wallet
    payoutAmount

def settleResolvedHands (store : BlackjackStore) (game : BlackjackGame) (wallet : Wallet) :
    Except ApiError BlackjackStore := do
  let played ← playDealerHand game
  let outcomes := resolveSettledHandOutcomes played
  let status := resolveAggregateSettledStatus played outcomes
  .ok (applyPayoutCredit (store.persistGameState (closeGame played status (totalPayout outcomes)))
    game.userId wallet (totalPayout outcomes))

end Pool

section Turns

def syncBlackjackTurnDeadline (config : PoolSystemConfig) (game : BlackjackGame) (now : Int) :
    BlackjackGame :=
  { game with
    turnDeadlineAt := if game.hasPendingPlayerTurn then some (now + config.turnTimeoutMs) else none }

def isBlackjackTurnExpired (game : BlackjackGame) (now : Int) : Bool :=
  match game.turnDeadlineAt with
  | none => false
  | some deadline => deadline ≤ now

def assertCurrentTurnSeat (game : BlackjackGame) : Except ApiError Unit :=
  ApiError.throwIf (game.hasPendingPlayerTurn = false)
    (.conflict "Blackjack turn is no longer available.")

def finalizeBlackjackProgress (config : PoolSystemConfig) (store : BlackjackStore)
    (game : BlackjackGame) (wallet : Wallet) (now : Int) : Except ApiError BlackjackStore := do
  let (advanced, allHandsComplete) ← advanceResolvableHands game wallet.withdrawableBalance
  if allHandsComplete then settleResolvedHands store advanced wallet
  else .ok (store.persistGameState (syncBlackjackTurnDeadline config advanced now))

def applyBlackjackStandAction (config : PoolSystemConfig) (store : BlackjackStore)
    (game : BlackjackGame) (wallet : Wallet) (now : Int) : Except ApiError BlackjackStore := do
  let (advanced, allHandsComplete) ← advancePlayerHand game .stood
  if allHandsComplete then settleResolvedHands store advanced wallet
  else finalizeBlackjackProgress config store advanced wallet now

def applyHitAction (config : PoolSystemConfig) (store : BlackjackStore) (game : BlackjackGame)
    (wallet : Wallet) (activeHandIndex : Nat) (activeHand : PlayerHand) (now : Int) :
    Except ApiError BlackjackStore := do
  let (card, drawn) ← takeNextCard game
  let cards := activeHand.cards ++ [card]
  let hit := modifyHand drawn activeHandIndex fun hand => { hand with cards := cards }
  let playerScore := scoreBlackjackCards cards
  if playerScore.bust ∨ playerScore.total = 21 then
    finalizeBlackjackProgress config store hit wallet now
  else .ok (store.persistGameState (syncBlackjackTurnDeadline config hit now))

/-- The highest payout the check asks the pool to cover after a stake is added to a game. -/
def raisedMaximumPayout (game : BlackjackGame) (stakeAmount : Int) : ℚ :=
  (game.totalStake + stakeAmount : ℚ) * game.config.winPayoutMultiplier

def doubledGame (game : BlackjackGame) (index : Nat) (stakeAmount : Int)
    (cards : List BlackjackCard) : BlackjackGame :=
  modifyHand game index fun hand =>
    { hand with stakeAmount := hand.stakeAmount + stakeAmount, cards := cards }

def applyDoubleAction (config : PoolSystemConfig) (checks : SurroundingChecks)
    (store : BlackjackStore) (game : BlackjackGame) (wallet : Wallet) (activeHandIndex : Nat)
    (activeHand : PlayerHand) (now : Int) : Except ApiError BlackjackStore := do
  let stakeAmount := activeHand.stakeAmount
  checks.kycStakeAllowed
  ApiError.throwIf (wallet.withdrawableBalance < stakeAmount)
    (.conflict "Insufficient balance for double down.")
  ensurePoolCanCover config store stakeAmount (raisedMaximumPayout game stakeAmount)
  let debited ← applyStakeDebit store game.userId wallet stakeAmount
  let (card, drawn) ← takeNextCard { game with totalStake := game.totalStake + stakeAmount }
  let cards := activeHand.cards ++ [card]
  let doubled := doubledGame drawn activeHandIndex stakeAmount cards
  let playerScore := scoreBlackjackCards cards
  let (advanced, allHandsComplete) ←
    advancePlayerHand doubled (if playerScore.bust then .bust else .stood)
  if allHandsComplete then
    settleResolvedHands debited advanced (debitedWallet wallet stakeAmount)
  else finalizeBlackjackProgress config debited advanced (debitedWallet wallet stakeAmount) now

/-- The hand at `index` keeps the left card, a new hand after it gets the right one. -/
def splitGame (game : BlackjackGame) (index : Nat) (stakeAmount : Int)
    (leftCard rightCard leftDraw rightDraw : BlackjackCard) : BlackjackGame :=
  let splitFromAces : Bool := leftCard.rank = .ace && rightCard.rank = .ace
  { game with
    playerHands :=
      (game.playerHands.modify index fun _ =>
          { cards := [leftCard, leftDraw]
            stakeAmount := stakeAmount
            state := .active
            splitFromAces := splitFromAces }).insertIdx (index + 1)
        { cards := [rightCard, rightDraw]
          stakeAmount := stakeAmount
          state := .waiting
          splitFromAces := splitFromAces } }

def applySplitAction (config : PoolSystemConfig) (checks : SurroundingChecks)
    (store : BlackjackStore) (game : BlackjackGame) (wallet : Wallet) (activeHandIndex : Nat)
    (activeHand : PlayerHand) (now : Int) : Except ApiError BlackjackStore := do
  let stakeAmount := activeHand.stakeAmount
  checks.kycStakeAllowed
  ensurePoolCanCover config store stakeAmount (raisedMaximumPayout game stakeAmount)
  let debited ← applyStakeDebit store game.userId wallet stakeAmount
  match activeHand.cards with
  | leftCard :: rightCard :: _ => do
      let (leftDraw, drawn) ← takeNextCard { game with totalStake := game.totalStake + stakeAmount }
      let (rightDraw, drawn) ← takeNextCard drawn
      let split :=
        splitGame drawn activeHandIndex stakeAmount leftCard rightCard leftDraw rightDraw
      finalizeBlackjackProgress config debited split (debitedWallet wallet stakeAmount) now
  | _ => .error (.internalInvariant "Blackjack split hand is missing cards.")

def applyBlackjackAction (config : PoolSystemConfig) (checks : SurroundingChecks)
    (store : BlackjackStore) (game : BlackjackGame) (wallet : Wallet) (activeHandIndex : Nat)
    (activeHand : PlayerHand) (action : BlackjackAction) (now : Int) :
    Except ApiError BlackjackStore :=
  match action with
  | .hit => applyHitAction config store game wallet activeHandIndex activeHand now
  | .double => applyDoubleAction config checks store game wallet activeHandIndex activeHand now
  | .split => applySplitAction config checks store game wallet activeHandIndex activeHand now
  | .stand => applyBlackjackStandAction config store game wallet now

end Turns

section Operations

def resolveStakeAmount (value : Decimal ℚ) : Except ApiError Int :=
  match value with
  | .finite amount =>
      if amount ≤ 0 ∨ (100 * amount).den ≠ 1 then .error (.badRequest "Invalid stake amount.")
      else .ok (100 * amount).num
  | _ => .error (.badRequest "Invalid stake amount.")

def initialGame (store : BlackjackStore) (request : StartRequest) (stakeAmount : Int)
    (playerCards dealerCards : List BlackjackCard) : BlackjackGame :=
  { id := store.nextGameId
    userId := request.userId
    stakeAmount := stakeAmount
    totalStake := stakeAmount
    payoutAmount := 0
    dealerCards := dealerCards
    deck := request.deck
    nextCardIndex := 4
    status := .active
    turnDeadlineAt := none
    config := request.config
    linkedGroup := request.linkedGroup
    playerHands := [⟨playerCards, stakeAmount, .active, false⟩]
    activeHandIndex := some 0 }

/-- `request.deck` is the shuffled deck; its first four cards are dealt. -/
def startResolvedBlackjack (config : PoolSystemConfig) (checks : SurroundingChecks)
    (store : BlackjackStore) (request : StartRequest) (now : Int) :
    Except ApiError BlackjackStore := do
  match store.wallets request.userId with
  | none => .error (.notFound "User not found.")
  | some wallet =>
      let existingActiveGames := store.activeGames request.userId
      ApiError.throwIf
        (existingActiveGames.any (fun game =>
          request.linkedGroup.isNone || game.linkedGroup ≠ request.linkedGroup) = true)
        (.conflict "Finish the active blackjack game before starting a new one.")
      let baseStakeAmount ← resolveStakeAmount request.stakeAmount
      let stakeAmount := baseStakeAmount * request.stakeMultiplier
      ApiError.throwIf (stakeAmount < request.config.minStake ∨ request.config.maxStake < stakeAmount)
        (.conflict "Stake amount is outside the allowed range.")
      checks.kycStakeAllowed
      ApiError.throwIf (wallet.withdrawableBalance < stakeAmount) (.conflict "Insufficient balance.")
      ensurePoolCanCover config store stakeAmount
        (stakeAmount * request.config.naturalPayoutMultiplier)
      match request.deck with
      | p1 :: d1 :: p2 :: d2 :: _ => do
          let game := syncBlackjackTurnDeadline config
            (initialGame store request stakeAmount [p1, p2] [d1, d2]) now
          let debited ← applyStakeDebit { store with games := store.games ++ [game] }
            request.userId wallet stakeAmount
          let initialStatus ← resolveInitialOutcome game
          checks.walletLedgerInvariant
          if initialStatus = .active then .ok debited
          else .ok (settleGameByStatus debited game (debitedWallet wallet stakeAmount) initialStatus)
      | _ => .error deckExhausted

/-- An expired turn is stood first: that is kept, and only then the caller is told so. -/
def actOnBlackjack (config : PoolSystemConfig) (checks : SurroundingChecks)
    (store : BlackjackStore) (userId gameId : Nat) (action : BlackjackAction) (now : Int) :
    Except ApiError BlackjackStore := do
  match store.wallets userId with
  | none => .error (.notFound "User not found.")
  | some wallet =>
      let activeRows := store.activeGames userId
      ApiError.throwIf (activeRows = []) (.notFound "No active blackjack game found.")
      match activeRows.find? fun row => row.id = gameId with
      | none => .error (.conflict "Blackjack game is no longer active.")
      | some activeRow =>
          let game := activeRow.toGameState
          assertCurrentTurnSeat game
          if isBlackjackTurnExpired game now then
            applyBlackjackStandAction config store game wallet now
          else do
            ApiError.throwIf (action ∉ getAvailableActions game wallet.withdrawableBalance)
              (.conflict "That action is not available for the current hand.")
            match game.activeHandIndex, game.getActivePlayerHand with
            | some activeHandIndex, some activeHand => do
                let acted ← applyBlackjackAction config checks store game wallet activeHandIndex
                  activeHand action now
                checks.walletLedgerInvariant
                .ok acted
            | _, _ => .error handMissing

def processExpiredBlackjackTurnForUser (config : PoolSystemConfig) (store : BlackjackStore)
    (userId : Nat) (now : Int) : Except ApiError BlackjackStore :=
  match store.wallets userId with
  | none => .ok store
  | some wallet =>
      let activeGames := (store.activeGames userId).map BlackjackGame.toGameState
      match activeGames.find? fun game => isBlackjackTurnExpired game now with
      | none => .ok store
      | some targetGame => applyBlackjackStandAction config store targetGame wallet now

end Operations

end RewardSystem.Blackjack
