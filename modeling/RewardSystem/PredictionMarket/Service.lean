import RewardSystem.Economy.Service
import RewardSystem.PredictionMarket.Settlement

/-!
# Prediction markets

Positions on the outcomes of a market. The stake of an open position is locked in the asset balance
of its user. Every operation locks the row of its market, and a thrown error rolls it back. Amounts
are counted in cents, times are in milliseconds.
-/

namespace RewardSystem.PredictionMarket

open Economy

/-- `opened` is the status `open`. -/
inductive MarketStatus where
  | draft
  | opened
  | locked
  | resolved
  | cancelled
  deriving DecidableEq, Repr

inductive PositionStatus where
  | opened
  | sold
  | won
  | lost
  | refunded
  deriving DecidableEq, Repr

inductive OracleProvider where
  | umaOracle
  | chainlink
  | manualAdmin
  | apiPull
  deriving DecidableEq, Repr

/-- A row of `prediction_markets` with the provider its oracle binding names. -/
structure StoredMarket where
  id : Nat
  slug : String
  vigBps : Int
  status : MarketStatus
  outcomes : List String
  totalPoolAmount : Int
  winningOutcomeKey : Option String
  winningPoolAmount : Option Int
  oracleProvider : Option OracleProvider
  opensAt : Int
  locksAt : Int
  resolvedAt : Option Int
  deriving DecidableEq, Repr

/-- A row of `prediction_positions`. -/
structure StoredPosition where
  id : Nat
  marketId : Nat
  userId : Nat
  outcomeKey : String
  stakeAmount : Int
  payoutAmount : Int
  status : PositionStatus
  settledAt : Option Int
  deriving DecidableEq, Repr

/-- A row of `house_transactions`. -/
structure HouseTransaction where
  entryType : String
  amount : Int
  balanceBefore : Int
  balanceAfter : Int
  referenceId : Nat
  deriving DecidableEq, Repr

/-- How far an operation on a market has moved the balances of a user. -/
structure AssetMove where
  marketId : Nat
  userId : Nat
  available : Int
  locked : Int
  deriving DecidableEq, Repr

/-- The tables, and the moves the markets have made in the asset balances. -/
structure MarketStore where
  economy : EconomyStore
  houseBankroll : Int
  houseTransactions : List HouseTransaction
  markets : List StoredMarket
  positions : List StoredPosition
  moves : List AssetMove

def stakeEntryType : String := "prediction_market_stake"
def sellEntryType : String := "prediction_market_sell"
def payoutEntryType : String := "prediction_market_payout"
def refundEntryType : String := "prediction_market_refund"
def vigEntryType : String := "prediction_market_vig"

/-- A stored amount as the asset functions take it. -/
def moneyValue (cents : Int) : Decimal ℚ :=
  .finite ((cents : ℚ) / 100)

def StoredMarket.finalized (market : StoredMarket) : Prop :=
  market.status = .resolved ∨ market.status = .cancelled

instance (market : StoredMarket) : Decidable market.finalized :=
  inferInstanceAs (Decidable (_ ∨ _))

def getEffectivePredictionMarketStatus (market : StoredMarket) (now : Int) : MarketStatus :=
  if market.finalized then market.status
  else if now < market.opensAt then .draft
  else if market.locksAt ≤ now then .locked
  else .opened

def parseMarketOutcomes (market : StoredMarket) : Except ApiError (List String) := do
  ApiError.throwIf (market.outcomes.length < 2)
    (.internalInvariant "Prediction market outcomes are invalid.")
  .ok market.outcomes

/-- The stake in cents; `none` is a text that is no number. -/
def resolveStakeAmount : Option (Decimal ℚ) → Except ApiError Int
  | some (.finite amount) =>
      -- more than two decimal places
      if amount ≤ 0 ∨ (100 * amount).den ≠ 1 then .error (.badRequest "Invalid stake amount.")
      else .ok (100 * amount).num
  | _ => .error (.badRequest "Invalid stake amount.")

namespace MarketStore

def lockPredictionMarket (store : MarketStore) (marketId : Nat) : Except ApiError StoredMarket :=
  match Keyed.lookup StoredMarket.id marketId store.markets with
  | none => .error (.notFound "Prediction market not found.")
  | some market => .ok market

def lockPredictionPosition (store : MarketStore) (marketId positionId userId : Nat) :
    Except ApiError StoredPosition :=
  match store.positions.find? fun position =>
      position.id = positionId ∧ position.marketId = marketId ∧ position.userId = userId with
  | none => .error (.notFound "Prediction market position not found.")
  | some position => .ok position

/-- The positions of a market, in the order of their ids. -/
def openPositions (store : MarketStore) (marketId : Nat) : List StoredPosition :=
  store.positions.filter fun position => position.marketId = marketId ∧ position.status = .opened

def setMarket (store : MarketStore) (marketId : Nat) (update : StoredMarket → StoredMarket) :
    MarketStore :=
  { store with markets := Keyed.modify StoredMarket.id marketId update store.markets }

def setPosition (store : MarketStore) (positionId : Nat)
    (update : StoredPosition → StoredPosition) : MarketStore :=
  { store with positions := Keyed.modify StoredPosition.id positionId update store.positions }

/-- Change the asset balance of a user for a market. -/
def moveAsset (store : MarketStore) (marketId userId : Nat)
    (change : EconomyStore → Except ApiError (EconomyStore × AssetMutationResult)) :
    Except ApiError MarketStore := do
  let (economy, _) ← change store.economy
  let before := store.economy.balances userId .bLuck
  let after := economy.balances userId .bLuck
  let move : AssetMove :=
    { marketId := marketId
      userId := userId
      available := after.availableBalance - before.availableBalance
      locked := after.lockedBalance - before.lockedBalance }
  .ok { store with economy := economy, moves := store.moves ++ [move] }

def applyHouseBankrollDelta (store : MarketStore) (delta : Int) (entryType : String)
    (referenceId : Nat) : MarketStore :=
  { store with
    houseBankroll := store.houseBankroll + delta
    houseTransactions := store.houseTransactions ++
      [{ entryType := entryType
         amount := delta
         balanceBefore := store.houseBankroll
         balanceAfter := store.houseBankroll + delta
         referenceId := referenceId }] }

end MarketStore

structure CreateInput where
  slug : String
  vigBps : Int
  outcomes : List String
  opensAt : Option Int
  locksAt : Int
  oracleProvider : Option OracleProvider

def createPredictionMarket (input : CreateInput) (now : Int) (store : MarketStore) :
    Except ApiError MarketStore := do
  ApiError.throwIf (∃ market ∈ store.markets, market.slug = input.slug)
    (.conflict "Prediction market slug already exists.")
  let opensAt := input.opensAt.getD now
  let market : StoredMarket :=
    { id := store.markets.length + 1
      slug := input.slug
      vigBps := input.vigBps
      status := if now < opensAt then .draft else .opened
      outcomes := input.outcomes
      totalPoolAmount := 0
      winningOutcomeKey := none
      winningPoolAmount := none
      oracleProvider := input.oracleProvider
      opensAt := opensAt
      locksAt := input.locksAt
      resolvedAt := none }
  .ok { store with markets := store.markets ++ [market] }

structure PlaceInput where
  userId : Nat
  marketId : Nat
  outcomeKey : String
  stakeAmount : Option (Decimal ℚ)
  /-- The answer of `assertKycStakeAllowed`. -/
  kycStakeAllowed : Except ApiError Unit

def placePredictionPosition (input : PlaceInput) (now : Int) (store : MarketStore) :
    Except ApiError MarketStore := do
  let market ← store.lockPredictionMarket input.marketId
  ApiError.throwIf (getEffectivePredictionMarketStatus market now ≠ .opened)
    (.conflict "Prediction market is not accepting positions.")
  let outcomes ← parseMarketOutcomes market
  ApiError.throwIf (input.outcomeKey ∉ outcomes)
    (.badRequest "Prediction market outcome is invalid.")
  let stakeAmount ← resolveStakeAmount input.stakeAmount
  input.kycStakeAllowed
  let store ← store.moveAsset input.marketId input.userId fun economy =>
    lockAsset economy
      { userId := input.userId
        assetCode := .bLuck
        amount := moneyValue stakeAmount
        entryType := stakeEntryType
        idempotencyKey := none }
  let position : StoredPosition :=
    { id := store.positions.length + 1
      marketId := input.marketId
      userId := input.userId
      outcomeKey := input.outcomeKey
      stakeAmount := stakeAmount
      payoutAmount := 0
      status := .opened
      settledAt := none }
  .ok
    ({ store with positions := store.positions ++ [position] }.setMarket input.marketId fun row =>
      { row with totalPoolAmount := market.totalPoolAmount + stakeAmount })

def sellPredictionPosition (userId marketId positionId : Nat) (now : Int) (store : MarketStore) :
    Except ApiError MarketStore := do
  let market ← store.lockPredictionMarket marketId
  ApiError.throwIf (getEffectivePredictionMarketStatus market now ≠ .opened)
    (.conflict "Prediction market is not allowing exits.")
  let position ← store.lockPredictionPosition marketId positionId userId
  ApiError.throwIf (position.status ≠ .opened)
    (.conflict "Prediction market position is not open.")
  let totalPoolAfter := market.totalPoolAmount - position.stakeAmount
  ApiError.throwIf (totalPoolAfter < 0)
    (.internalInvariant "Prediction market pool cannot become negative.")
  let store ← store.moveAsset marketId userId fun economy =>
    unlockAsset economy
      { userId := userId
        assetCode := .bLuck
        amount := moneyValue position.stakeAmount
        entryType := sellEntryType
        idempotencyKey := none }
  .ok
    ((store.setPosition positionId fun row =>
      { row with
        payoutAmount := position.stakeAmount
        status := .sold
        settledAt := some now }).setMarket marketId fun row =>
          { row with totalPoolAmount := totalPoolAfter })

structure UserAggregate where
  userId : Nat
  lockedRelease : Int
  credit : Int
  entryType : Option String
  positionIds : List Nat
  deriving DecidableEq, Repr

def emptyAggregate (userId : Nat) : UserAggregate :=
  { userId := userId
    lockedRelease := 0
    credit := 0
    entryType := none
    positionIds := [] }

def aggregateEntryType (entryType : Option String) : SettlementStatus → Option String
  | .refunded => some refundEntryType
  | .won => if entryType ≠ some refundEntryType then some payoutEntryType else entryType
  | .lost => entryType

/-- The positions are collected by user, the users in the order in which they come up. -/
def addToAggregate (aggregates : List UserAggregate) (position : StoredPosition)
    (credit : Int) (entryType : Option String → Option String) : List UserAggregate :=
  Keyed.upsert UserAggregate.userId position.userId (emptyAggregate position.userId)
    (fun aggregate =>
      { aggregate with
        lockedRelease := aggregate.lockedRelease + position.stakeAmount
        credit := aggregate.credit + credit
        entryType := entryType aggregate.entryType
        positionIds := aggregate.positionIds ++ [position.id] })
    aggregates

def aggregateResult (results : List SettlementPositionResult) (aggregates : List UserAggregate)
    (position : StoredPosition) : Except ApiError (List UserAggregate) :=
  match Keyed.lookup SettlementPositionResult.id position.id results with
  | none => .error (.internalInvariant "Prediction market position settlement missing.")
  | some result =>
      .ok (addToAggregate aggregates position result.payoutAmount fun entryType =>
        aggregateEntryType entryType result.status)

def orderByUserId (aggregates : List UserAggregate) : List UserAggregate :=
  aggregates.insertionSort fun left right => left.userId ≤ right.userId

def settleUser (marketId : Nat) (store : MarketStore) (aggregate : UserAggregate) :
    Except ApiError MarketStore :=
  store.moveAsset marketId aggregate.userId fun economy =>
    settleLockedAsset economy
      { userId := aggregate.userId
        assetCode := .bLuck
        lockedAmount := moneyValue aggregate.lockedRelease
        payoutAmount := moneyValue aggregate.credit
        entryType := aggregate.entryType.getD payoutEntryType
        idempotencyKey := none }

def SettlementStatus.toPositionStatus : SettlementStatus → PositionStatus
  | .won => .won
  | .lost => .lost
  | .refunded => .refunded

def recordResult (results : List SettlementPositionResult) (settledAt : Int) (store : MarketStore)
    (position : StoredPosition) : Except ApiError MarketStore :=
  match Keyed.lookup SettlementPositionResult.id position.id results with
  | none => .error (.internalInvariant "Prediction market position result missing.")
  | some result =>
      .ok (store.setPosition position.id fun row =>
        { row with
          payoutAmount := result.payoutAmount
          status := result.status.toPositionStatus
          settledAt := some settledAt })

inductive SettlementSource where
  | admin
  | oracleWorker
  deriving DecidableEq, Repr

structure SettleInput where
  marketId : Nat
  winningOutcomeKey : String
  source : SettlementSource
  /-- The answer of `hasOpenPredictionMarketAppeal`. -/
  appealOpen : Bool

/-- The admin settles a market with an oracle only while an appeal is open. -/
def mustSettleFromOracle (input : SettleInput) (market : StoredMarket) : Prop :=
  input.source = .admin ∧ market.oracleProvider ≠ none ∧
    market.oracleProvider ≠ some .manualAdmin ∧ input.appealOpen = false

instance (input : SettleInput) (market : StoredMarket) :
    Decidable (mustSettleFromOracle input market) :=
  inferInstanceAs (Decidable (_ ∧ _))

def StoredPosition.toSettlement (position : StoredPosition) : SettlementPosition :=
  { id := position.id
    userId := position.userId
    outcomeKey := position.outcomeKey
    stakeAmount := position.stakeAmount }

def settlePredictionMarket (input : SettleInput) (now : Int) (store : MarketStore) :
    Except ApiError MarketStore := do
  let market ← store.lockPredictionMarket input.marketId
  let effectiveStatus := getEffectivePredictionMarketStatus market now
  ApiError.throwIf (effectiveStatus = .resolved ∨ effectiveStatus = .cancelled)
    (.conflict "Prediction market is already finalized.")
  ApiError.throwIf (effectiveStatus = .draft ∨ effectiveStatus = .opened)
    (.conflict "Prediction market is still open.")
  let outcomes ← parseMarketOutcomes market
  ApiError.throwIf (input.winningOutcomeKey ∉ outcomes)
    (.badRequest "Prediction market outcome is invalid.")
  ApiError.throwIf (mustSettleFromOracle input market)
    (.conflict
      "This market must settle from its configured oracle unless an appeal is open.")
  let openPositions := store.openPositions input.marketId
  let settlement ← resolvePariMutuelSettlement (openPositions.map StoredPosition.toSettlement)
    input.winningOutcomeKey market.vigBps
  let userAggregates ← openPositions.foldlM (aggregateResult settlement.positionResults) []
  let store ← (orderByUserId userAggregates).foldlM (settleUser input.marketId) store
  let store :=
    if settlement.mode = .payout ∧ 0 < settlement.feeAmount then
      store.applyHouseBankrollDelta settlement.feeAmount vigEntryType input.marketId
    else store
  let store ← openPositions.foldlM (recordResult settlement.positionResults now) store
  .ok
    (store.setMarket input.marketId fun row =>
      { row with
        status := .resolved
        winningOutcomeKey := some input.winningOutcomeKey
        winningPoolAmount := some settlement.winningPoolAmount
        resolvedAt := some now })

def aggregateRefund (aggregates : List UserAggregate) (position : StoredPosition) :
    List UserAggregate :=
  addToAggregate aggregates position position.stakeAmount id

def refundUser (marketId : Nat) (store : MarketStore) (aggregate : UserAggregate) :
    Except ApiError MarketStore :=
  store.moveAsset marketId aggregate.userId fun economy =>
    unlockAsset economy
      { userId := aggregate.userId
        assetCode := .bLuck
        amount := moneyValue aggregate.credit
        entryType := refundEntryType
        idempotencyKey := none }

def recordRefund (settledAt : Int) (store : MarketStore) (position : StoredPosition) :
    MarketStore :=
  store.setPosition position.id fun row =>
    { row with
      payoutAmount := position.stakeAmount
      status := .refunded
      settledAt := some settledAt }

def cancelPredictionMarket (marketId : Nat) (now : Int) (store : MarketStore) :
    Except ApiError MarketStore := do
  let market ← store.lockPredictionMarket marketId
  let effectiveStatus := getEffectivePredictionMarketStatus market now
  ApiError.throwIf (effectiveStatus = .resolved ∨ effectiveStatus = .cancelled)
    (.conflict "Prediction market is already finalized.")
  let openPositions := store.openPositions marketId
  let userAggregates := openPositions.foldl aggregateRefund []
  let store ← (orderByUserId userAggregates).foldlM (refundUser marketId) store
  let store := openPositions.foldl (recordRefund now) store
  .ok
    (store.setMarket marketId fun row =>
      { row with
        status := .cancelled
        winningOutcomeKey := none
        winningPoolAmount := none
        resolvedAt := some now })

/-- The operations of the service; `elsewhere` is what other modules do to the asset balances and
the house account between them. -/
inductive Operation where
  | create (input : CreateInput) (now : Int)
  | place (input : PlaceInput) (now : Int)
  | sell (userId marketId positionId : Nat) (now : Int)
  | settle (input : SettleInput) (now : Int)
  | cancel (marketId : Nat) (now : Int)
  | elsewhere (economy : EconomyStore) (houseBankroll : Int)

def step (store : MarketStore) : Operation → Except ApiError MarketStore
  | .create input now => createPredictionMarket input now store
  | .place input now => placePredictionPosition input now store
  | .sell userId marketId positionId now =>
      sellPredictionPosition userId marketId positionId now store
  | .settle input now => settlePredictionMarket input now store
  | .cancel marketId now => cancelPredictionMarket marketId now store
  | .elsewhere economy houseBankroll =>
      .ok { store with economy := economy, houseBankroll := houseBankroll }

def MarketStore.Fresh (store : MarketStore) : Prop :=
  store.markets = [] ∧ store.positions = [] ∧ store.moves = [] ∧ store.houseTransactions = []

end RewardSystem.PredictionMarket
