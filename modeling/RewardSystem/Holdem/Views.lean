import RewardSystem.Holdem.Actions

/-!
# What a table shows

`serializeHoldemTable` shows the table to one viewer, `serializeHoldemRealtimeTable` to everybody.
Times stay in milliseconds and amounts in cents.
-/

namespace RewardSystem.Holdem

structure CardView where
  rank : Option Rank
  suit : Option Suit
  hidden : Bool
  deriving DecidableEq, Repr

inductive SeatPresenceState where
  | connected
  | grace
  | disconnected
  deriving DecidableEq, Repr

/-- A place of the table, empty or taken, as one viewer sees it. -/
structure SeatView where
  seatIndex : Nat
  userId : Option Nat
  displayName : Option String
  isBot : Bool
  connectionState : Option SeatPresenceState
  disconnectGraceExpiresAt : Option Int
  seatLeaseExpiresAt : Option Int
  autoCashOutPending : Bool
  turnDeadlineAt : Option Int
  timeBankRemainingMs : Nat
  stackAmount : Int
  committedAmount : Int
  totalCommittedAmount : Int
  status : Option SeatStatus
  cards : List CardView
  inHand : Bool
  sittingOut : Bool
  isDealer : Bool
  isSmallBlind : Bool
  isBigBlind : Bool
  isCurrentTurn : Bool
  winner : Bool
  bestHand : Option BestHand
  lastAction : Option String
  deriving DecidableEq, Repr

structure RealtimePublicSeat where
  seatIndex : Nat
  userId : Nat
  displayName : String
  isBot : Bool
  connectionState : Option SeatPresenceState
  disconnectGraceExpiresAt : Option Int
  seatLeaseExpiresAt : Option Int
  autoCashOutPending : Bool
  turnDeadlineAt : Option Int
  timeBankRemainingMs : Nat
  stackAmount : Int
  committedAmount : Int
  totalCommittedAmount : Int
  status : SeatStatus
  inHand : Bool
  sittingOut : Bool
  isDealer : Bool
  isSmallBlind : Bool
  isBigBlind : Bool
  isCurrentTurn : Bool
  winner : Bool
  bestHand : Option BestHand
  lastAction : Option String
  revealedCards : List Card
  deriving DecidableEq, Repr

structure TableView where
  id : Nat
  name : String
  linkedGroup : Option LinkedGroup
  tableType : TableType
  status : TableStatus
  rakePolicy : Option RakePolicy
  tournament : Option Tournament
  handNumber : Nat
  stage : Option Street
  smallBlind : Int
  bigBlind : Int
  minimumBuyIn : Int
  maximumBuyIn : Int
  maxSeats : Nat
  communityCards : List CardView
  pots : List Pot
  seats : List SeatView
  heroSeatIndex : Option Nat
  pendingActorSeatIndex : Option Nat
  pendingActorDeadlineAt : Option Int
  pendingActorTimeBankStartsAt : Option Int
  pendingActorTimeoutAction : Option Action
  availableActions : Option ActionAvailability
  fairness : Option HandFairness
  recentHands : List RecentHand
  dealerEvents : List DealerEvent
  createdAt : Int
  updatedAt : Int
  deriving DecidableEq, Repr

structure RealtimePublicTable where
  id : Nat
  name : String
  linkedGroup : Option LinkedGroup
  tableType : TableType
  status : TableStatus
  rakePolicy : Option RakePolicy
  tournament : Option Tournament
  handNumber : Nat
  stage : Option Street
  smallBlind : Int
  bigBlind : Int
  minimumBuyIn : Int
  maximumBuyIn : Int
  maxSeats : Nat
  occupiedSeats : Nat
  canStart : Bool
  communityCards : List Card
  pots : List Pot
  seats : List RealtimePublicSeat
  dealerSeatIndex : Option Nat
  smallBlindSeatIndex : Option Nat
  bigBlindSeatIndex : Option Nat
  pendingActorSeatIndex : Option Nat
  pendingActorDeadlineAt : Option Int
  pendingActorTimeBankStartsAt : Option Int
  pendingActorTimeoutAction : Option Action
  fairness : Option HandFairness
  revealedSeatIndexes : List Nat
  winnerSeatIndexes : List Nat
  recentHands : List RecentHand
  updatedAt : Int
  deriving DecidableEq, Repr

/-! ## Parts -/

def toCardView (card : Card) (hidden : Bool) : CardView :=
  { rank := if hidden then none else some card.rank
    suit := if hidden then none else some card.suit
    hidden := hidden }

/-- `2 * 10_000 + 2_000` milliseconds. -/
def heartbeatToleranceMs : Int := 22000

def resolveSeatPresenceState (now : Int) (seat : Seat) : Option SeatPresenceState :=
  if seat.disconnectGraceExpiresAt.any (now < ·) then
    if seat.presenceHeartbeatAt.any (now - · ≤ heartbeatToleranceMs) then some .connected
    else some .grace
  else if seat.seatLeaseExpiresAt.any (now < ·) then
    some .disconnected
  else
    none

def connectionState (now : Int) (seat : Seat) : Option SeatPresenceState :=
  if isBotSeat seat then some .connected else resolveSeatPresenceState now seat

def serializeHoldemTournamentState (tournament : Option Tournament) : Option Tournament :=
  tournament.map fun tournament =>
    { tournament with payoutPlaces := some (max (tournament.payoutPlaces.getD 1) 1) }

def serializeHoldemFairness (fairness : Option HandFairness) : Option HandFairness :=
  fairness

def inHandOrDealt (seat : Seat) : Bool :=
  isSeatInHand seat ∨ 0 < seat.holeCards.length

namespace Table

def buildSeatViewCards (state : Table) (viewerUserId : Nat) (seat : Seat) : List CardView :=
  let revealCards := seat.userId = viewerUserId ∨ seat.seatIndex ∈ state.revealedSeatIndexes
  seat.holeCards.map fun card => toCardView card (¬revealCards)

def buildCommunityCardViews (state : Table) : List CardView :=
  state.communityCards.map fun card => toCardView card false

def shownPots (state : Table) : List Pot :=
  match state.status with
  | .active => state.buildPendingPotViews
  | .waiting => state.resolvedPots

def pendingActorDeadlineAt (state : Table) : Option Int :=
  (state.pendingActorSeatIndex.bind state.findSeatByIndex).bind Seat.turnDeadlineAt

def pendingActorTimeoutAction (state : Table) : Option Action :=
  state.pendingActorSeatIndex.bind state.resolveHoldemTimeoutAction

def canStartHoldemTable (state : Table) : Bool :=
  if state.tableType = .tournament ∧
      state.tournament.any fun tournament => tournament.status = .completed then
    false
  else
    state.status = .waiting ∧
      state.resolveMinimumRequiredPlayers ≤ state.listEligibleSeats.length ∧
      0 < state.listEligibleHumanSeats.length

section Serializers

variable (now : Int)

def buildRealtimeSeatSnapshot (state : Table) (seat : Seat) : RealtimePublicSeat :=
  let revealed := seat.seatIndex ∈ state.revealedSeatIndexes
  { seatIndex := seat.seatIndex
    userId := seat.userId
    displayName := resolveSeatDisplayName seat
    isBot := isBotSeat seat
    connectionState := connectionState now seat
    disconnectGraceExpiresAt := seat.disconnectGraceExpiresAt
    seatLeaseExpiresAt := seat.seatLeaseExpiresAt
    autoCashOutPending := seat.autoCashOutPending
    turnDeadlineAt := seat.turnDeadlineAt
    timeBankRemainingMs := seat.timeBankRemainingMs
    stackAmount := seat.stackAmount
    committedAmount := seat.committedAmount
    totalCommittedAmount := seat.totalCommittedAmount
    status := seat.status
    inHand := inHandOrDealt seat
    sittingOut := seat.sittingOut
    isDealer := state.dealerSeatIndex = some seat.seatIndex
    isSmallBlind := state.smallBlindSeatIndex = some seat.seatIndex
    isBigBlind := state.bigBlindSeatIndex = some seat.seatIndex
    isCurrentTurn := state.pendingActorSeatIndex = some seat.seatIndex
    winner := seat.winner
    bestHand := if revealed then seat.bestHand else none
    lastAction := seat.lastAction
    revealedCards := if revealed then seat.holeCards else [] }

def serializeHoldemRealtimeTable (state : Table) : RealtimePublicTable :=
  { id := state.id
    name := state.name
    linkedGroup := state.linkedGroup
    tableType := state.tableType
    status := state.status
    rakePolicy := state.rakePolicy
    tournament := serializeHoldemTournamentState state.tournament
    handNumber := state.handNumber
    stage := state.stage
    smallBlind := state.smallBlind
    bigBlind := state.bigBlind
    minimumBuyIn := state.minimumBuyIn
    maximumBuyIn := state.maximumBuyIn
    maxSeats := state.maxSeats
    occupiedSeats := state.seats.length
    canStart := state.canStartHoldemTable
    communityCards := state.communityCards
    pots := state.shownPots
    seats := (sortSeatsByIndex state.seats).map (state.buildRealtimeSeatSnapshot now)
    dealerSeatIndex := state.dealerSeatIndex
    smallBlindSeatIndex := state.smallBlindSeatIndex
    bigBlindSeatIndex := state.bigBlindSeatIndex
    pendingActorSeatIndex := state.pendingActorSeatIndex
    pendingActorDeadlineAt := state.pendingActorDeadlineAt
    pendingActorTimeBankStartsAt := state.turnTimeBankStartsAt
    pendingActorTimeoutAction := state.pendingActorTimeoutAction
    fairness := serializeHoldemFairness state.fairness
    revealedSeatIndexes := state.revealedSeatIndexes
    winnerSeatIndexes := state.winnerSeatIndexes
    recentHands := state.recentHands
    updatedAt := state.updatedAt }

def emptySeatView (state : Table) (seatIndex : Nat) : SeatView :=
  { seatIndex := seatIndex
    userId := none
    displayName := none
    isBot := false
    connectionState := none
    disconnectGraceExpiresAt := none
    seatLeaseExpiresAt := none
    autoCashOutPending := false
    turnDeadlineAt := none
    timeBankRemainingMs := 0
    stackAmount := 0
    committedAmount := 0
    totalCommittedAmount := 0
    status := none
    cards := []
    inHand := false
    sittingOut := false
    isDealer := state.dealerSeatIndex = some seatIndex
    isSmallBlind := state.smallBlindSeatIndex = some seatIndex
    isBigBlind := state.bigBlindSeatIndex = some seatIndex
    isCurrentTurn := state.pendingActorSeatIndex = some seatIndex
    winner := false
    bestHand := none
    lastAction := none }

/-- A taken place; the best hand is shown as it is. -/
def takenSeatView (state : Table) (viewerUserId : Nat) (seatIndex : Nat) (seat : Seat) : SeatView :=
  { seatIndex := seatIndex
    userId := some seat.userId
    displayName := some (resolveSeatDisplayName seat)
    isBot := isBotSeat seat
    connectionState := connectionState now seat
    disconnectGraceExpiresAt := seat.disconnectGraceExpiresAt
    seatLeaseExpiresAt := seat.seatLeaseExpiresAt
    autoCashOutPending := seat.autoCashOutPending
    turnDeadlineAt := seat.turnDeadlineAt
    timeBankRemainingMs := seat.timeBankRemainingMs
    stackAmount := seat.stackAmount
    committedAmount := seat.committedAmount
    totalCommittedAmount := seat.totalCommittedAmount
    status := some seat.status
    cards := state.buildSeatViewCards viewerUserId seat
    inHand := inHandOrDealt seat
    sittingOut := seat.sittingOut
    isDealer := state.dealerSeatIndex = some seatIndex
    isSmallBlind := state.smallBlindSeatIndex = some seatIndex
    isBigBlind := state.bigBlindSeatIndex = some seatIndex
    isCurrentTurn := state.pendingActorSeatIndex = some seatIndex
    winner := seat.winner
    bestHand := seat.bestHand
    lastAction := seat.lastAction }

def heroSeatIndex (state : Table) (viewerUserId : Nat) : Option Nat :=
  (state.seats.find? fun seat => seat.userId = viewerUserId).map Seat.seatIndex

def serializeHoldemTable (state : Table) (viewerUserId : Nat) : TableView :=
  { id := state.id
    name := state.name
    linkedGroup := state.linkedGroup
    tableType := state.tableType
    status := state.status
    rakePolicy := state.rakePolicy
    tournament := serializeHoldemTournamentState state.tournament
    handNumber := state.handNumber
    stage := state.stage
    smallBlind := state.smallBlind
    bigBlind := state.bigBlind
    minimumBuyIn := state.minimumBuyIn
    maximumBuyIn := state.maximumBuyIn
    maxSeats := state.maxSeats
    communityCards := state.buildCommunityCardViews
    pots := state.shownPots
    seats := (List.range state.maxSeats).map fun seatIndex =>
      match state.findSeatByIndex seatIndex with
      | none => state.emptySeatView seatIndex
      | some seat => state.takenSeatView now viewerUserId seatIndex seat
    heroSeatIndex := state.heroSeatIndex viewerUserId
    pendingActorSeatIndex := state.pendingActorSeatIndex
    pendingActorDeadlineAt := state.pendingActorDeadlineAt
    pendingActorTimeBankStartsAt := state.turnTimeBankStartsAt
    pendingActorTimeoutAction := state.pendingActorTimeoutAction
    availableActions :=
      (state.heroSeatIndex viewerUserId).bind state.resolveHoldemActionAvailability
    fairness := serializeHoldemFairness state.fairness
    recentHands := state.recentHands
    dealerEvents := state.dealerEvents
    createdAt := state.createdAt
    updatedAt := state.updatedAt }

end Serializers

end Table

end RewardSystem.Holdem
