import RewardSystem.Holdem.Table
import RewardSystem.Lib.Rotation
import RewardSystem.Lib.Shares
import RewardSystem.Shared.Text

/-!
# Pots and the settlement of a hand
-/

namespace RewardSystem.Holdem

open ApiError

/-! ## Amounts in front of a seat -/

def awardToSeatStack (amount : Int) (seat : Seat) : Seat :=
  { seat with stackAmount := seat.stackAmount + amount }

def subtractFromSeatStack (amount : Int) (seat : Seat) : Seat :=
  if amount ≤ 0 then seat else { seat with stackAmount := seat.stackAmount - amount }

def postFromStack (amount : Int) (seat : Seat) : Seat :=
  if amount ≤ 0 then
    seat
  else
    let transfer := min seat.stackAmount amount
    let stackAfter := seat.stackAmount - transfer
    { seat with
      stackAmount := stackAfter
      committedAmount := seat.committedAmount + transfer
      totalCommittedAmount := seat.totalCommittedAmount + transfer
      status := if stackAfter = 0 then .allIn else seat.status }

/-! ## Pots -/

/-- The loop over the contribution levels; `index` pots are there already. -/
def potViews (contributingSeats : List Seat) : Int → Nat → List Int → List Pot
  | _, _, [] => []
  | previousLevel, index, level :: levels =>
      let involvedSeats := contributingSeats.filter fun seat => level ≤ seat.totalCommittedAmount
      let potAmount := (level - previousLevel) * involvedSeats.length
      if 0 < potAmount then
        { potIndex := index
          kind := if index = 0 then .main else .side
          amount := potAmount
          rakeAmount := 0
          eligibleSeatIndexes :=
            (involvedSeats.filter fun seat => seat.status ≠ .folded).map Seat.seatIndex
          winnerSeatIndexes := [] } :: potViews contributingSeats level (index + 1) levels
      else
        potViews contributingSeats level index levels

namespace Table

def contributingSeats (state : Table) : List Seat :=
  (sortSeatsByIndex state.seats).filter fun seat => 0 < seat.totalCommittedAmount

def contributionLevels (state : Table) : List Int :=
  ((state.contributingSeats.map Seat.totalCommittedAmount).dedup).insertionSort (· ≤ ·)

def buildPendingPotViews (state : Table) : List Pot :=
  potViews state.contributingSeats 0 0 state.contributionLevels

end Table

/-! ## Labels -/

def resolveSeatDisplayName (seat : Seat) : String :=
  let botDisplayName := trim ((seat.bot.map Bot.displayName).getD "")
  let email := trim (seat.userEmail.getD "")
  let localPart := email.toList.takeWhile (· ≠ '@')
  if botDisplayName ≠ "" then
    botDisplayName
  else if localPart = [] then
    "User " ++ toString seat.userId
  else if localPart.length > 18 then
    String.ofList (localPart.take 18) ++ "…"
  else
    String.ofList localPart

namespace Table

def distanceFromDealer (state : Table) (seatIndex : Nat) : Int :=
  ((seatIndex : Int) - state.dealerSeatIndex.getD 0 + state.maxSeats).tmod state.maxSeats

def sortSeatIndexesLeftOfDealer (state : Table) (seatIndexes : List Nat) : List Nat :=
  seatIndexes.insertionSort fun left right =>
    state.distanceFromDealer left ≤ state.distanceFromDealer right

def formatPotWinners (state : Table) (seatIndexes : List Nat) : List String :=
  (state.sortSeatIndexesLeftOfDealer seatIndexes).map fun seatIndex =>
    match state.findSeatByIndex seatIndex with
    | none => "Seat " ++ toString (seatIndex + 1)
    | some seat => resolveSeatDisplayName seat

end Table

/-! ## Settlement -/

def buildHoldemFairness (epoch epochSeconds : Int) (commitHash : String)
    (sourceCommitHash : Option String) (deckDigest rngDigest : String)
    (revealSeed : Option String) (revealedAt : Option Int) : HandFairness :=
  { epoch := epoch
    epochSeconds := epochSeconds
    commitHash := commitHash
    sourceCommitHash := sourceCommitHash
    deckDigest := deckDigest
    rngDigest := rngDigest
    revealSeed := revealSeed
    revealedAt := revealedAt
    algorithm :=
      "handSeed=sha256(epochSeed:tableId:handNumber:seatUserIds); Fisher-Yates shuffle with " ++
        "sha256(handSeed:swap:index); no-limit hold'em button rotation and street deal order" }

def recentHandLimit : Nat := 6

namespace Table

variable (now : Int)

/-- The hand seed moves from its hiding place into the published fairness data. -/
def revealSeed : Option HandFairness → Option String → Option HandFairness × Option String
  | some fairness, some handSeed =>
      if handSeed = "" then
        (some fairness, some handSeed)
      else
        (some (buildHoldemFairness fairness.epoch fairness.epochSeconds fairness.commitHash
          fairness.sourceCommitHash fairness.deckDigest fairness.rngDigest (some handSeed)
          (some now)), none)
  | fairness, handSeed => (fairness, handSeed)

def revealHoldemFairness (state : Table) : Table :=
  { state with
    fairness := (revealSeed now state.fairness state.fairnessSeed).1
    fairnessSeed := (revealSeed now state.fairness state.fairnessSeed).2 }

/-- The end of both settlements: the hand goes to the recent hands and the table to rest. -/
def closeHand (stage : Street) (potAmount : Int) (revealed winners : List Nat) (pots : List Pot)
    (state : Table) : Table :=
  let settled := revealHoldemFairness now
    { state with
      stage := some .showdown
      pendingActorSeatIndex := none
      revealedSeatIndexes := revealed
      winnerSeatIndexes := winners
      resolvedPots := pots }
  let recentHand : RecentHand :=
    { roundId := none
      handNumber := settled.handNumber
      stage := stage
      boardCards := settled.communityCards
      potAmount := potAmount
      rakeAmount := 0
      winnerSeatIndexes := winners
      winnerLabels := settled.formatPotWinners winners
      settledAt := now }
  { settled with
    recentHands := (recentHand :: settled.recentHands).take recentHandLimit
    seats := settled.seats.map fun seat =>
      { seat with committedAmount := 0, totalCommittedAmount := 0, status := .waiting }
    status := .waiting
    pendingActorSeatIndex := none
    currentBet := 0
    actedSeatIndexes := [] }

def potTotal (pots : List Pot) : Int :=
  (pots.map Pot.amount).sum

def settleByFold (state : Table) (terminalStage : Street) : Except ApiError Table :=
  match state.listNonFoldedSeats with
  | [] => .error (.internalInvariant "Unable to resolve folded holdem winner.")
  | winnerSeat :: _ =>
      let pots := state.buildPendingPotViews.map fun pot =>
        { pot with rakeAmount := 0, winnerSeatIndexes := [winnerSeat.seatIndex] }
      let paid := state.updateSeat winnerSeat.seatIndex fun seat =>
        { awardToSeatStack (potTotal pots) seat with
          winner := true
          lastAction := some (seat.lastAction.getD "Win") }
      .ok (closeHand now terminalStage (potTotal pots) [winnerSeat.seatIndex]
        [winnerSeat.seatIndex] pots paid)

/-- The best hands of the seats at a showdown, under their seat indexes. -/
abbrev BestHands := List (Nat × BestHandEvaluation)

def bestHandOf (bestHands : BestHands) (seatIndex : Nat) : Option BestHandEvaluation :=
  (Keyed.lookup Prod.fst seatIndex bestHands).map Prod.snd

/-- The loop that shows the hands of `showdownSeats`. -/
def showHands : List Seat → Table → Except ApiError (Table × BestHands)
  | [], state => .ok (state, [])
  | seat :: rest, state => do
      let bestHand ← evaluateBestHoldemHand (seat.holeCards ++ state.communityCards)
      let shown := state.updateSeat seat.seatIndex fun seat =>
        { seat with bestHand := some bestHand.hand }
      let (state, bestHands) ← showHands rest shown
      .ok (state, (seat.seatIndex, bestHand) :: bestHands)

/-- One contender against the winners found so far. -/
def contend (bestHands : BestHands) (best : List Nat × BestHandEvaluation) (contender : Seat) :
    Except ApiError (List Nat × BestHandEvaluation) :=
  match bestHandOf bestHands contender.seatIndex with
  | none => .error (.internalInvariant "Missing holdem contender hand.")
  | some contenderHand =>
      .ok (match compareHoldemBestHands contenderHand best.2 with
        | .gt => ([contender.seatIndex], contenderHand)
        | .eq => (best.1 ++ [contender.seatIndex], best.2)
        | .lt => best)

def payWinner (share : Int) (seat : Seat) : Seat :=
  { awardToSeatStack share seat with winner := true }

def payWinners (parts : List (Nat × Int)) (state : Table) : Table :=
  parts.foldl (fun state part => state.updateSeat part.1 (payWinner part.2)) state

def eligibleSeats (state : Table) (pot : Pot) : List Seat :=
  (pot.eligibleSeatIndexes.filterMap state.findSeatByIndex).filter fun seat =>
    seat.status ≠ .folded

def resolvePot (bestHands : BestHands) (state : Table) (pot : Pot) :
    Except ApiError (Table × Pot) :=
  match state.eligibleSeats pot with
  | [] => .ok (state, pot)
  | first :: contenders =>
      match bestHandOf bestHands first.seatIndex with
      | none => .error (.internalInvariant "Missing holdem best hand.")
      | some firstHand => do
          let best ← contenders.foldlM (contend bestHands) ([first.seatIndex], firstHand)
          let winners := state.sortSeatIndexesLeftOfDealer best.1
          .ok (payWinners (Shares.split pot.amount winners) state,
            { pot with rakeAmount := 0, winnerSeatIndexes := winners })

def resolvePots (bestHands : BestHands) : List Pot → Table → Except ApiError (Table × List Pot)
  | [], state => .ok (state, [])
  | pot :: pots, state => do
      let (state, resolved) ← resolvePot bestHands state pot
      let (state, rest) ← resolvePots bestHands pots state
      .ok (state, resolved :: rest)

def settleShowdown (state : Table) : Except ApiError Table :=
  let showdownSeats := state.listNonFoldedSeats
  let revealed := showdownSeats.map Seat.seatIndex
  if showdownSeats = [] then
    .error (.internalInvariant "Unable to resolve holdem showdown.")
  else do
    let (shown, bestHands) ← showHands showdownSeats state
    let (paid, resolvedPots) ← resolvePots bestHands state.buildPendingPotViews shown
    -- a hand without chips in the middle: a lone player wins it
    let soloWinners :=
      if resolvedPots = [] ∧ showdownSeats.length = 1 then revealed else []
    let winners :=
      if resolvedPots = [] then soloWinners else (resolvedPots.flatMap Pot.winnerSeatIndexes).eraseDups
    let marked := soloWinners.foldl
      (fun state seatIndex => state.updateSeat seatIndex fun seat => { seat with winner := true })
      paid
    .ok (closeHand now .showdown (potTotal resolvedPots) revealed winners resolvedPots marked)

end Table

end RewardSystem.Holdem
