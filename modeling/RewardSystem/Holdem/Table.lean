import RewardSystem.Holdem.Evaluator
import RewardSystem.Lib.Keyed

/-!
# Hold'em tables

Amounts are counted in cents, times in milliseconds.
-/

namespace RewardSystem.Holdem

inductive SeatStatus where
  | waiting
  | active
  | folded
  | allIn
  | out
  deriving DecidableEq, Repr

inductive TableStatus where
  | waiting
  | active
  deriving DecidableEq, Repr

inductive TableType where
  | cash
  | casual
  | tournament
  deriving DecidableEq, Repr

inductive Street where
  | preflop
  | flop
  | turn
  | river
  | showdown
  deriving DecidableEq, Repr

inductive Action where
  | fold
  | check
  | call
  | bet
  | raise
  | allIn
  deriving DecidableEq, Repr

structure Bot where
  enabled : Bool
  displayName : String
  deriving DecidableEq, Repr

structure SeatTournament where
  entryBuyInAmount : Int
  eliminatedAt : Option Int
  finishingPlace : Option Nat
  prizeAmount : Option Int
  deriving DecidableEq, Repr

structure Seat where
  seatIndex : Nat
  userId : Nat
  userEmail : Option String
  stackAmount : Int
  committedAmount : Int
  totalCommittedAmount : Int
  status : SeatStatus
  presenceHeartbeatAt : Option Int
  disconnectGraceExpiresAt : Option Int
  seatLeaseExpiresAt : Option Int
  autoCashOutPending : Bool
  turnDeadlineAt : Option Int
  holeCards : List Card
  lastAction : Option String
  sittingOut : Bool
  timeBankRemainingMs : Nat
  winner : Bool
  bestHand : Option BestHand
  bot : Option Bot
  tournament : Option SeatTournament
  deriving DecidableEq, Repr

inductive PotKind where
  | main
  | side
  deriving DecidableEq, Repr

structure Pot where
  potIndex : Nat
  kind : PotKind
  amount : Int
  rakeAmount : Int
  eligibleSeatIndexes : List Nat
  winnerSeatIndexes : List Nat
  deriving DecidableEq, Repr

structure RakePolicy where
  rakeBps : Nat
  capAmount : Int
  noFlopNoDrop : Bool
  deriving DecidableEq, Repr

structure HandFairness where
  epoch : Int
  epochSeconds : Int
  commitHash : String
  sourceCommitHash : Option String
  deckDigest : String
  rngDigest : String
  revealSeed : Option String
  revealedAt : Option Int
  algorithm : String
  deriving DecidableEq, Repr

structure RecentHand where
  roundId : Option String
  handNumber : Nat
  stage : Street
  boardCards : List Card
  potAmount : Int
  rakeAmount : Int
  winnerSeatIndexes : List Nat
  winnerLabels : List String
  settledAt : Int
  deriving DecidableEq, Repr

structure LinkedGroup where
  groupId : String
  primaryTableId : Option Nat
  tableIds : List Nat
  executionIndex : Nat
  executionCount : Nat
  deriving DecidableEq, Repr

inductive TournamentStatus where
  | registering
  | running
  | completed
  deriving DecidableEq, Repr

structure Standing where
  userId : Option Nat
  displayName : Option String
  seatIndex : Option Nat
  stackAmount : Int
  active : Bool
  finishingPlace : Option Nat
  eliminatedAt : Option Int
  prizeAmount : Option Int
  deriving DecidableEq, Repr

structure Payout where
  place : Nat
  userId : Option Nat
  displayName : Option String
  amount : Int
  awardedAt : Option Int
  deriving DecidableEq, Repr

structure Tournament where
  status : TournamentStatus
  buyInAmount : Int
  startingStackAmount : Int
  prizePoolAmount : Int
  registeredCount : Nat
  payoutPlaces : Option Nat
  allowRebuy : Bool
  allowCashOut : Bool
  completedAt : Option Int
  standings : List Standing
  payouts : List Payout
  deriving DecidableEq, Repr

structure DealerEvent where
  id : String
  kind : String
  source : String
  phase : Option String
  seatIndex : Option Nat
  actionCode : Option String
  pace : Option String
  text : Option String
  createdAt : Int
  deriving DecidableEq, Repr

/-- A row of `holdem_tables` with its seats. The fields of `metadata` stand beside the others. -/
structure Table where
  id : Nat
  name : String
  status : TableStatus
  smallBlind : Int
  bigBlind : Int
  minimumBuyIn : Int
  maximumBuyIn : Int
  maxSeats : Nat
  createdAt : Int
  updatedAt : Int
  tableType : TableType
  linkedGroup : Option LinkedGroup
  rakePolicy : Option RakePolicy
  tournament : Option Tournament
  handNumber : Nat
  stage : Option Street
  dealerSeatIndex : Option Nat
  smallBlindSeatIndex : Option Nat
  bigBlindSeatIndex : Option Nat
  pendingActorSeatIndex : Option Nat
  turnTimeBankStartsAt : Option Int
  currentBet : Int
  lastFullRaiseSize : Int
  actedSeatIndexes : List Nat
  communityCards : List Card
  deck : List Card
  nextCardIndex : Nat
  fairnessSeed : Option String
  fairness : Option HandFairness
  revealedSeatIndexes : List Nat
  winnerSeatIndexes : List Nat
  resolvedPots : List Pot
  recentHands : List RecentHand
  dealerEvents : List DealerEvent
  seats : List Seat
  deriving DecidableEq, Repr

/-! ## Seats -/

def isBotSeat (seat : Seat) : Bool :=
  match seat.bot with
  | some bot => bot.enabled
  | none => false

def isSeatInHand (seat : Seat) : Prop :=
  seat.status = .active ∨ seat.status = .allIn ∨ seat.status = .folded

def isSeatActionable (seat : Seat) : Prop :=
  seat.status = .active ∧ 0 < seat.stackAmount

def isSeatEligibleForHand (seat : Seat) : Prop :=
  seat.sittingOut = false ∧ 0 < seat.stackAmount

/-- Dealt in, and still contesting the pot. -/
def isSeatNonFolded (seat : Seat) : Prop :=
  seat.status ≠ .folded ∧ isSeatInHand seat

instance (seat : Seat) : Decidable (isSeatInHand seat) :=
  inferInstanceAs (Decidable (_ ∨ _ ∨ _))

instance (seat : Seat) : Decidable (isSeatActionable seat) :=
  inferInstanceAs (Decidable (_ ∧ _))

instance (seat : Seat) : Decidable (isSeatEligibleForHand seat) :=
  inferInstanceAs (Decidable (_ ∧ _))

instance (seat : Seat) : Decidable (isSeatNonFolded seat) :=
  inferInstanceAs (Decidable (_ ∧ _))

theorem isSeatNonFolded_iff (seat : Seat) :
    isSeatNonFolded seat ↔ seat.status = .active ∨ seat.status = .allIn := by
  cases h : seat.status <;> simp [isSeatNonFolded, isSeatInHand, h]

def sortSeatsByIndex (seats : List Seat) : List Seat :=
  seats.insertionSort fun left right => left.seatIndex ≤ right.seatIndex

@[simp]
theorem mem_sortSeatsByIndex {seats : List Seat} {seat : Seat} :
    seat ∈ sortSeatsByIndex seats ↔ seat ∈ seats :=
  List.mem_insertionSort _

theorem sortSeatsByIndex_perm (seats : List Seat) : (sortSeatsByIndex seats).Perm seats :=
  List.perm_insertionSort _ seats

namespace Table

def findSeatByIndex (state : Table) (seatIndex : Nat) : Option Seat :=
  Keyed.lookup Seat.seatIndex seatIndex state.seats

def updateSeat (state : Table) (seatIndex : Nat) (f : Seat → Seat) : Table :=
  { state with seats := Keyed.modify Seat.seatIndex seatIndex f state.seats }

def listEligibleSeats (state : Table) : List Seat :=
  (sortSeatsByIndex state.seats).filter (isSeatEligibleForHand ·)

def listEligibleHumanSeats (state : Table) : List Seat :=
  state.listEligibleSeats.filter fun seat => !isBotSeat seat

def resolveMinimumRequiredPlayers (state : Table) : Nat :=
  if state.tableType = .casual then 1 else 2

def isSoloHoldemState (state : Table) : Prop :=
  state.tableType = .casual ∧ state.listEligibleSeats.length = 1

instance (state : Table) : Decidable state.isSoloHoldemState :=
  inferInstanceAs (Decidable (_ ∧ _))

def listNonFoldedSeats (state : Table) : List Seat :=
  (sortSeatsByIndex state.seats).filter (isSeatNonFolded ·)

def listActionableSeats (state : Table) : List Seat :=
  (sortSeatsByIndex state.seats).filter (isSeatActionable ·)

def actionableSeatIndexes (state : Table) : List Nat :=
  state.listActionableSeats.map Seat.seatIndex

@[simp]
theorem mem_listNonFoldedSeats {state : Table} {seat : Seat} :
    seat ∈ state.listNonFoldedSeats ↔ seat ∈ state.seats ∧ isSeatNonFolded seat := by
  simp [listNonFoldedSeats]

@[simp]
theorem mem_listActionableSeats {state : Table} {seat : Seat} :
    seat ∈ state.listActionableSeats ↔ seat ∈ state.seats ∧ isSeatActionable seat := by
  simp [listActionableSeats]

@[simp]
theorem mem_listEligibleSeats {state : Table} {seat : Seat} :
    seat ∈ state.listEligibleSeats ↔ seat ∈ state.seats ∧ isSeatEligibleForHand seat := by
  simp [listEligibleSeats]

end Table

end RewardSystem.Holdem
