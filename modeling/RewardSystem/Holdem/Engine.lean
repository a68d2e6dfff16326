import RewardSystem.Fairness.Service
import RewardSystem.Holdem.Pots
import RewardSystem.Lib.Loops

/-!
# The hold'em engine
-/

namespace RewardSystem.Holdem

open ApiError Fairness

/-- The hash function. The hexadecimal form of a digest is never empty. -/
structure HashFunction where
  digest : String → Digest
  hex_ne_empty : ∀ text, (digest text).hex ≠ ""

/-! ## Taking turns -/

def nextSeatIndex (orderedSeatIndexes : List Nat) (fromSeatIndex : Nat) : Option Nat :=
  match orderedSeatIndexes.findIdx? (· = fromSeatIndex) with
  | some exactIndex => orderedSeatIndexes[(exactIndex + 1) % orderedSeatIndexes.length]?
  | none => (orderedSeatIndexes.find? (fromSeatIndex < ·)).or orderedSeatIndexes.head?

namespace Table

def eligibleSeatIndexes (state : Table) : List Nat :=
  state.listEligibleSeats.map Seat.seatIndex

def resolveNextDealerSeatIndex (state : Table) : Option Nat :=
  if state.eligibleSeatIndexes.length < state.resolveMinimumRequiredPlayers then
    none
  else
    match state.dealerSeatIndex with
    | none => state.eligibleSeatIndexes.head?
    | some previousDealer => nextSeatIndex state.eligibleSeatIndexes previousDealer

def notEnoughPlayers : ApiError :=
  .conflict "At least two funded seats are required to start a hand."

/-- The small and the big blind; a lone player posts none. -/
def resolveBlindSeats (state : Table) (dealerSeatIndex : Nat) :
    Except ApiError (Option Nat × Option Nat) :=
  let eligible := state.eligibleSeatIndexes
  if eligible.length < state.resolveMinimumRequiredPlayers then
    .error notEnoughPlayers
  else if eligible.length = 1 then
    .ok (none, none)
  else if eligible.length = 2 then
    match eligible.find? (· ≠ dealerSeatIndex) with
    | none => .error (.internalInvariant "Big blind seat is missing.")
    | some bigBlind => .ok (some dealerSeatIndex, some bigBlind)
  else
    match nextSeatIndex eligible dealerSeatIndex with
    | none => .error (.internalInvariant "Blind seats are missing.")
    | some smallBlind =>
        match nextSeatIndex eligible smallBlind with
        | none => .error (.internalInvariant "Blind seats are missing.")
        | some bigBlind => .ok (some smallBlind, some bigBlind)

def resolveNextActionableSeatIndex (state : Table) (fromSeatIndex : Nat) : Option Nat :=
  nextSeatIndex state.actionableSeatIndexes fromSeatIndex

def resolveFirstPostflopSeatIndex (state : Table) : Option Nat :=
  match state.dealerSeatIndex with
  | none => state.actionableSeatIndexes.head?
  | some dealer => nextSeatIndex state.actionableSeatIndexes dealer

def markSeatActed (state : Table) (seatIndex : Nat) : Table :=
  { state with
    actedSeatIndexes := (state.actedSeatIndexes.insert seatIndex).dedup.insertionSort (· ≤ ·) }

def resetActedSeatsForNextResponse (state : Table) (actorSeatIndex : Nat) : Table :=
  { state with
    actedSeatIndexes :=
      ((sortSeatsByIndex state.seats).filter fun seat =>
        seat.seatIndex = actorSeatIndex ∧ seat.status = .active).map Seat.seatIndex }

def hasRoundCompleted (state : Table) : Prop :=
  ∀ seat ∈ state.listActionableSeats,
    seat.seatIndex ∈ state.actedSeatIndexes ∧ seat.committedAmount = state.currentBet

instance (state : Table) : Decidable state.hasRoundCompleted :=
  inferInstanceAs (Decidable (∀ _ ∈ _, _))

end Table

/-! ## Cards -/

def deckTemplate : List Card :=
  [Suit.spades, .hearts, .diamonds, .clubs].flatMap fun suit =>
    [Rank.two, .three, .four, .five, .six, .seven, .eight, .nine, .ten, .jack, .queen, .king,
      .ace].map fun rank => { rank := rank, suit := suit }

structure ShuffledDeck where
  deck : List Card
  deckDigest : String
  rngDigest : String

section Shuffle

variable (sha256 : HashFunction)

def deriveHoldemHandSeed (seed : String) (tableId handNumber : Nat) (seatUserIds : List Nat) :
    String :=
  (sha256.digest (String.intercalate ":"
    ["holdem-hand-seed-v1", seed, toString tableId, toString handNumber,
      String.intercalate "," (seatUserIds.map toString)])).hex

def swapDigest (handSeed : String) (cursor : Nat) : Digest :=
  sha256.digest (handSeed ++ ":swap:" ++ toString cursor)

/-- The loop of the shuffle from `cursor` down to `1`, with the digests it used. -/
def shuffleFrom (handSeed : String) : Nat → List Card → Except ApiError (List Card × List String)
  | 0, deck => .ok (deck, [])
  | cursor + 1, deck =>
      let digest := swapDigest sha256 handSeed (cursor + 1)
      let swapIndex := digest.readUInt32BE % (cursor + 2)
      match deck[cursor + 1]?, deck[swapIndex]? with
      | some currentCard, some swapCard => do
          let swapped := (deck.set (cursor + 1) swapCard).set swapIndex currentCard
          let (shuffled, digests) ← shuffleFrom handSeed cursor swapped
          .ok (shuffled, digest.hex :: digests)
      | _, _ => .error (.internalInvariant "Failed to shuffle holdem deck.")

def deckDigestOf (deck : List Card) : String :=
  (sha256.digest (String.intercalate ":"
    (deck.map fun card => card.rank.text ++ "-" ++ card.suit.text))).hex

def shuffleHoldemDeck (handSeed : String) : Except ApiError ShuffledDeck := do
  let (deck, digests) ← shuffleFrom sha256 handSeed (deckTemplate.length - 1) deckTemplate
  .ok
    { deck := deck
      deckDigest := deckDigestOf sha256 deck
      rngDigest := (sha256.digest (String.intercalate ":" digests)).hex }

end Shuffle

namespace Table

def takeNextCard (state : Table) : Except ApiError (Card × Table) :=
  match state.deck[state.nextCardIndex]? with
  | none => .error (.internalInvariant "Holdem deck exhausted.")
  | some nextCard => .ok (nextCard, { state with nextCardIndex := state.nextCardIndex + 1 })

def dealOrderFrom (eligible : List Nat) : Nat → Nat → List Nat
  | 0, _ => []
  | count + 1, current =>
      current :: dealOrderFrom eligible count ((nextSeatIndex eligible current).getD current)

def resolveDealOrder (state : Table) (firstSeatIndexForDeal : Nat) : List Nat :=
  (dealOrderFrom state.eligibleSeatIndexes state.eligibleSeatIndexes.length
    firstSeatIndexForDeal).filter fun seatIndex => (state.findSeatByIndex seatIndex).isSome

def dealHoleCard (state : Table) (seatIndex : Nat) : Except ApiError Table := do
  let (card, state) ← state.takeNextCard
  .ok (state.updateSeat seatIndex fun seat => { seat with holeCards := seat.holeCards ++ [card] })

def dealHoleCards (state : Table) (dealOrder : List Nat) : Except ApiError Table := do
  let state ← dealOrder.foldlM dealHoleCard state
  dealOrder.foldlM dealHoleCard state

/-- `communityCards.push(takeNextCard(state))`, `count` times. -/
def dealCommunityCards : Nat → Table → Except ApiError Table
  | 0, state => .ok state
  | count + 1, state => do
      let (card, state) ← state.takeNextCard
      dealCommunityCards count { state with communityCards := state.communityCards ++ [card] }

/-! ## Streets -/

def resetStreetCommitments (state : Table) : Table :=
  { state with
    seats := state.seats.map fun seat =>
      { seat with
        committedAmount := 0
        status := if seat.status = .active ∧ seat.stackAmount = 0 then .allIn else seat.status }
    currentBet := 0
    lastFullRaiseSize := state.bigBlind
    actedSeatIndexes := [] }

/-- The end of `dealNextStreet` on every street but the last. -/
def openStreet (state : Table) (stage : Street) : Table :=
  let reset := { state with stage := some stage }.resetStreetCommitments
  { reset with pendingActorSeatIndex := reset.resolveFirstPostflopSeatIndex }

/-- The cards dealt on leaving a street, and the street they open. -/
def nextStreet : Street → Option (Nat × Street)
  | .preflop => some (3, .flop)
  | .flop => some (1, .turn)
  | .turn => some (1, .river)
  | .river => none
  | .showdown => none

section Streets

variable (now : Int)

def dealNextStreet (state : Table) : Except ApiError Table :=
  match state.stage with
  | none => .error (.internalInvariant "Cannot advance holdem street without a stage.")
  | some currentStage =>
      match nextStreet currentStage with
      | some (count, stage) => do
          let dealt ← state.dealCommunityCards count
          .ok (dealt.openStreet stage)
      | none => state.settleShowdown now

/-- One turn of the loop of `resolveTerminalAndStreetProgression`. -/
def progressionTurn : Table × Street → Loop.Turn (Table × Street) (Except ApiError Table)
  | (state, currentStage) =>
      if state.status ≠ .active then
        .done (.ok state)
      else if ¬state.isSoloHoldemState ∧ state.listNonFoldedSeats.length ≤ 1 then
        .done (state.settleByFold now currentStage)
      else if ¬state.hasRoundCompleted then
        .done (.ok state)
      else if state.stage = some .river then
        .done (state.settleShowdown now)
      else
        match state.dealNextStreet now with
        | .error e => .done (.error e)
        | .ok next => .again (next, next.stage.getD currentStage)

end Streets

end Table

end RewardSystem.Holdem
