import RewardSystem.Shared.Money

/-!
# A blackjack game

Cards, hands and the functions on a stored game. Stakes are in cents; a payout is a stake times a
multiplier and is rounded only when it is stored.
-/

namespace RewardSystem.Blackjack

inductive Suit where
  | spades
  | hearts
  | diamonds
  | clubs
  deriving DecidableEq, Repr

inductive Rank where
  | ace
  | two
  | three
  | four
  | five
  | six
  | seven
  | eight
  | nine
  | ten
  | jack
  | queen
  | king
  deriving DecidableEq, Repr

structure BlackjackCard where
  rank : Rank
  suit : Suit
  deriving DecidableEq, Repr

structure BlackjackConfig where
  minStake : Int
  maxStake : Int
  winPayoutMultiplier : ℚ
  pushPayoutMultiplier : ℚ
  naturalPayoutMultiplier : ℚ
  dealerHitsSoft17 : Bool
  doubleDownAllowed : Bool
  splitAcesAllowed : Bool
  hitSplitAcesAllowed : Bool
  resplitAllowed : Bool
  maxSplitHands : Nat
  splitTenValueCardsAllowed : Bool
  deriving DecidableEq

inductive BlackjackAction where
  | hit
  | stand
  | double
  | split
  deriving DecidableEq, Repr

inductive BlackjackGameStatus where
  | active
  | playerBlackjack
  | dealerBlackjack
  | playerBust
  | dealerBust
  | playerWin
  | dealerWin
  | push
  deriving DecidableEq, Repr

inductive HandProgress where
  | active
  | waiting
  | stood
  | bust
  deriving DecidableEq, Repr

structure PlayerHand where
  cards : List BlackjackCard
  stakeAmount : Int
  state : HandProgress
  splitFromAces : Bool
  deriving DecidableEq, Repr

/-- A row of `blackjack_games` with its metadata; `turnDeadlineAt` is in milliseconds. -/
structure BlackjackGame where
  id : Nat
  userId : Nat
  stakeAmount : Int
  totalStake : Int
  payoutAmount : Int
  dealerCards : List BlackjackCard
  deck : List BlackjackCard
  nextCardIndex : Nat
  status : BlackjackGameStatus
  turnDeadlineAt : Option Int
  config : BlackjackConfig
  linkedGroup : Option String
  playerHands : List PlayerHand
  activeHandIndex : Option Nat
  deriving DecidableEq

section Cards

def rankValue : Rank → Nat
  | .ace => 11
  | .two => 2
  | .three => 3
  | .four => 4
  | .five => 5
  | .six => 6
  | .seven => 7
  | .eight => 8
  | .nine => 9
  | .ten | .jack | .queen | .king => 10

def isTenValueRank (rank : Rank) : Bool :=
  rankValue rank = 10

structure BlackjackScore where
  total : Nat
  soft : Bool
  blackjack : Bool
  bust : Bool
  deriving DecidableEq, Repr

def lowerAces : Nat → Nat → Nat × Nat
  | total, 0 => (total, 0)
  | total, softAceCount + 1 =>
      if 21 < total then lowerAces (total - 10) softAceCount else (total, softAceCount + 1)

def scoreBlackjackCards (cards : List BlackjackCard) : BlackjackScore :=
  let aces := (cards.filter fun card => card.rank = .ace).length
  let (total, softAceCount) := lowerAces (cards.map fun card => rankValue card.rank).sum aces
  { total := total
    soft := 0 < softAceCount
    blackjack := cards.length = 2 ∧ total = 21
    bust := 21 < total }

end Cards

namespace BlackjackGame

def getActivePlayerHand (game : BlackjackGame) : Option PlayerHand :=
  game.activeHandIndex.bind fun index => game.playerHands[index]?

/-- The stored index is brought into range when an active row is read. -/
def toGameState (game : BlackjackGame) : BlackjackGame :=
  { game with
    activeHandIndex :=
      if game.status = .active then
        some (min (game.activeHandIndex.getD 0) (game.playerHands.length - 1))
      else none }

def hasPendingPlayerTurn (game : BlackjackGame) : Bool :=
  game.status = .active &&
    match game.getActivePlayerHand with
    | none => false
    | some hand =>
        let playerScore := scoreBlackjackCards hand.cards
        hand.state = .active && !playerScore.bust && playerScore.total < 21

end BlackjackGame

section Actions

def canSplitCards (cards : List BlackjackCard) (config : BlackjackConfig) : Bool :=
  match cards with
  | [first, second] =>
      if first.rank = second.rank then first.rank ≠ .ace || config.splitAcesAllowed
      else config.splitTenValueCardsAllowed && isTenValueRank first.rank &&
        isTenValueRank second.rank
  | _ => false

def isRestrictedSplitAceHand (hand : PlayerHand) (config : BlackjackConfig) : Bool :=
  hand.splitFromAces && !config.hitSplitAcesAllowed

def canSplitHand (game : BlackjackGame) (hand : PlayerHand) (walletBalance : Int) : Bool :=
  let playerScore := scoreBlackjackCards hand.cards
  !playerScore.blackjack && !playerScore.bust && canSplitCards hand.cards game.config &&
    hand.stakeAmount ≤ walletBalance && game.playerHands.length < game.config.maxSplitHands &&
    (game.playerHands.length ≤ 1 || game.config.resplitAllowed)

def getAvailableActions (game : BlackjackGame) (walletBalance : Int) : List BlackjackAction :=
  match game.getActivePlayerHand with
  | none => []
  | some activeHand =>
      let playerScore := scoreBlackjackCards activeHand.cards
      if game.status ≠ .active ∨ activeHand.state ≠ .active ∨ playerScore.bust = true ∨
          21 ≤ playerScore.total then []
      else
        let restrictedSplitAceHand := isRestrictedSplitAceHand activeHand game.config
        let canDouble := !restrictedSplitAceHand && game.config.doubleDownAllowed &&
          activeHand.cards.length = 2 && !playerScore.blackjack && !playerScore.bust &&
          activeHand.stakeAmount ≤ walletBalance
        (if restrictedSplitAceHand then [.stand] else [.hit, .stand]) ++
          (if canDouble then [.double] else []) ++
          (if canSplitHand game activeHand walletBalance then [.split] else [])

end Actions

section Play

def handMissing : ApiError :=
  .internalInvariant "Blackjack active hand is missing."

def deckExhausted : ApiError :=
  .internalInvariant "Blackjack deck exhausted."

def takeNextCard (game : BlackjackGame) : Except ApiError (BlackjackCard × BlackjackGame) :=
  match game.deck[game.nextCardIndex]? with
  | none => .error deckExhausted
  | some nextCard => .ok (nextCard, { game with nextCardIndex := game.nextCardIndex + 1 })

def resolveInitialOutcome (game : BlackjackGame) : Except ApiError BlackjackGameStatus :=
  match game.playerHands.head? with
  | none => .error (.internalInvariant "Blackjack player hand is missing.")
  | some primaryHand =>
      let playerScore := scoreBlackjackCards primaryHand.cards
      let dealerScore := scoreBlackjackCards game.dealerCards
      if playerScore.blackjack ∧ dealerScore.blackjack then .ok .push
      else if playerScore.blackjack then .ok .playerBlackjack
      else if dealerScore.blackjack then .ok .dealerBlackjack
      else .ok .active

def modifyHand (game : BlackjackGame) (index : Nat) (change : PlayerHand → PlayerHand) :
    BlackjackGame :=
  { game with playerHands := game.playerHands.modify index change }

/-- The first waiting hand after `index`. -/
def nextWaitingHand (hands : List PlayerHand) (index : Nat) : Option Nat :=
  (List.range hands.length).find? fun candidate =>
    index < candidate && (hands[candidate]?.map PlayerHand.state) = some .waiting

/-- The active hand ends in `nextState` and the next waiting one becomes active. The flag says that
no hand is left. -/
def advancePlayerHand (game : BlackjackGame) (nextState : HandProgress) :
    Except ApiError (BlackjackGame × Bool) :=
  match game.activeHandIndex, game.getActivePlayerHand with
  | some activeHandIndex, some _ =>
      let ended := modifyHand game activeHandIndex fun hand => { hand with state := nextState }
      match nextWaitingHand ended.playerHands activeHandIndex with
      | some index =>
          .ok ({ modifyHand ended index fun hand => { hand with state := .active } with
            activeHandIndex := some index }, false)
      | none => .ok ({ ended with activeHandIndex := none }, true)
  | _, _ => .error handMissing

/-- How the active hand ends without an action of the player, if it does. -/
def resolvableState (game : BlackjackGame) (activeHand : PlayerHand) (walletBalance : Int) :
    Option HandProgress :=
  let playerScore := scoreBlackjackCards activeHand.cards
  if playerScore.bust then some .bust
  else if playerScore.total = 21 then some .stood
  else if isRestrictedSplitAceHand activeHand game.config &&
      !canSplitHand game activeHand walletBalance then some .stood
  else none

/-- Every round moves to a later hand, so `hands` rounds are enough for that many hands. -/
def advanceResolvableHandsIn (walletBalance : Int) :
    Nat → BlackjackGame → Except ApiError (BlackjackGame × Bool)
  | 0, game => .ok (game, true)
  | hands + 1, game =>
      match game.getActivePlayerHand with
      | none => .ok (game, true)
      | some activeHand =>
          match resolvableState game activeHand walletBalance with
          | none => .ok (game, false)
          | some nextState => do
              let (next, allHandsComplete) ← advancePlayerHand game nextState
              if allHandsComplete then .ok (next, true)
              else advanceResolvableHandsIn walletBalance hands next

def advanceResolvableHands (game : BlackjackGame) (walletBalance : Int) :
    Except ApiError (BlackjackGame × Bool) :=
  advanceResolvableHandsIn walletBalance game.playerHands.length game

end Play

section Settlement

def shouldDealerHit (cards : List BlackjackCard) (config : BlackjackConfig) : Bool :=
  let score := scoreBlackjackCards cards
  score.total < 17 || (score.total = 17 && score.soft && config.dealerHitsSoft17)

/-- The dealer's cards after drawing from the rest of the deck, and how many were drawn. -/
def drawDealerCards (config : BlackjackConfig) (dealerCards : List BlackjackCard) :
    List BlackjackCard → Except ApiError (List BlackjackCard × Nat)
  | [] => if shouldDealerHit dealerCards config then .error deckExhausted else .ok (dealerCards, 0)
  | card :: rest =>
      if shouldDealerHit dealerCards config then
        (drawDealerCards config (dealerCards ++ [card]) rest).map fun (cards, drawn) =>
          (cards, drawn + 1)
      else .ok (dealerCards, 0)

def playDealerHand (game : BlackjackGame) : Except ApiError BlackjackGame :=
  (drawDealerCards game.config game.dealerCards (game.deck.drop game.nextCardIndex)).map
    fun (cards, drawn) =>
      { game with dealerCards := cards, nextCardIndex := game.nextCardIndex + drawn }

inductive HandOutcomeState where
  | win
  | lose
  | push
  | bust
  deriving DecidableEq, Repr

def resolveRegularHandPayoutAmount (handStakeAmount : Int) (outcome : HandOutcomeState)
    (config : BlackjackConfig) : ℚ :=
  match outcome with
  | .win => handStakeAmount * config.winPayoutMultiplier
  | .push => handStakeAmount * config.pushPayoutMultiplier
  | .lose | .bust => 0

def settledHandState (game : BlackjackGame) (hand : PlayerHand) : HandOutcomeState :=
  let dealerScore := scoreBlackjackCards game.dealerCards
  let playerScore := scoreBlackjackCards hand.cards
  if hand.state = .bust ∨ playerScore.bust = true then .bust
  else if dealerScore.bust = true ∨ dealerScore.total < playerScore.total then .win
  else if playerScore.total < dealerScore.total then .lose
  else .push

structure HandOutcome where
  state : HandOutcomeState
  payoutAmount : ℚ
  deriving DecidableEq

def resolveSettledHandOutcomes (game : BlackjackGame) : List HandOutcome :=
  game.playerHands.map fun hand =>
    let state := settledHandState game hand
    { state := state
      payoutAmount := resolveRegularHandPayoutAmount hand.stakeAmount state game.config }

def totalPayout (outcomes : List HandOutcome) : ℚ :=
  (outcomes.map HandOutcome.payoutAmount).sum

def resolveAggregateSettledStatus (game : BlackjackGame) (outcomes : List HandOutcome) :
    BlackjackGameStatus :=
  let dealerScore := scoreBlackjackCards game.dealerCards
  if game.playerHands.length = 1 then
    let primaryOutcome := outcomes.head?.map HandOutcome.state
    if primaryOutcome = some .bust then .playerBust
    else if dealerScore.bust then .dealerBust
    else if primaryOutcome = some .win then .playerWin
    else if primaryOutcome = some .lose then .dealerWin
    else .push
  else if outcomes.all fun outcome => outcome.state = .bust then .playerBust
  else if dealerScore.bust && outcomes.all fun outcome => outcome.state = .win then .dealerBust
  else if totalPayout outcomes = 0 then .dealerWin
  else if totalPayout outcomes = game.totalStake then .push
  else if (game.totalStake : ℚ) < totalPayout outcomes then .playerWin
  else .dealerWin

def resolveStatusPayoutAmount (status : BlackjackGameStatus) (stakeAmount totalStake : Int)
    (config : BlackjackConfig) : ℚ :=
  match status with
  | .playerBlackjack => stakeAmount * config.naturalPayoutMultiplier
  | .dealerBust | .playerWin => totalStake * config.winPayoutMultiplier
  | .push => totalStake * config.pushPayoutMultiplier
  | _ => 0

/-- What `settleGameByStatus` and `settleResolvedHands` store in the row. -/
def closeGame (game : BlackjackGame) (status : BlackjackGameStatus) (payoutAmount : ℚ) :
    BlackjackGame :=
  { game with
    status := status
    payoutAmount := Rounding.roundHalfUp payoutAmount
    turnDeadlineAt := none
    activeHandIndex := none }

end Settlement

end RewardSystem.Blackjack
