import RewardSystem.Holdem.Actions

/-!
# Hands and what happens around them

A table takes part in a run: hands are started and played, and players come, go, sit out and come
back meanwhile.
-/

namespace RewardSystem.Holdem

open ApiError Transition

structure FairnessSeedInput where
  seed : String
  epoch : Int
  epochSeconds : Int
  commitHash : String
  deriving DecidableEq, Repr

namespace Table

section Start

variable (sha256 : HashFunction) (now : Int)

def clearSeat (seat : Seat) : Seat :=
  { seat with
    committedAmount := 0
    totalCommittedAmount := 0
    holeCards := []
    lastAction := none
    winner := false
    bestHand := none
    status := if isSeatEligibleForHand seat then .active else .waiting }

/-- The table with a fresh deck, before cards and blinds. -/
def openHand (state : Table) (fairnessSeed : FairnessSeedInput) (handSeed : String)
    (shuffled : ShuffledDeck) (dealer : Nat) (smallBlind bigBlind : Option Nat) : Table :=
  { state with
    seats := state.seats.map clearSeat
    status := .active
    handNumber := state.handNumber + 1
    stage := some .preflop
    dealerSeatIndex := some dealer
    smallBlindSeatIndex := smallBlind
    bigBlindSeatIndex := bigBlind
    communityCards := []
    deck := shuffled.deck
    nextCardIndex := 0
    fairnessSeed := some handSeed
    currentBet := 0
    lastFullRaiseSize := state.bigBlind
    fairness :=
      some (buildHoldemFairness fairnessSeed.epoch fairnessSeed.epochSeconds
        (sha256.digest handSeed).hex (some fairnessSeed.commitHash) shuffled.deckDigest
        shuffled.rngDigest none none)
    revealedSeatIndexes := []
    winnerSeatIndexes := []
    resolvedPots := [] }

def postBlind (amount : Int) (label : String) (seat : Seat) : Seat :=
  { postFromStack amount seat with lastAction := some label }

def committedBy (state : Table) (seatIndex : Nat) : Int :=
  ((state.findSeatByIndex seatIndex).map Seat.committedAmount).getD 0

def postBlinds (state : Table) : Table :=
  match state.smallBlindSeatIndex, state.bigBlindSeatIndex with
  | some small, some big =>
      if (state.findSeatByIndex small).isSome ∧ (state.findSeatByIndex big).isSome then
        let posted := (state.updateSeat small (postBlind state.smallBlind "Small blind")).updateSeat
          big (postBlind state.bigBlind "Big blind")
        { posted with currentBet := max (posted.committedBy big) (posted.committedBy small) }
      else
        state
  | _, _ => state

/-- The first turn of a hand: nobody has acted, and the seat behind the big blind begins. -/
def firstTurn (state : Table) (dealer : Nat) : Table :=
  ({ state with actedSeatIndexes := [] }).passTurn (state.bigBlindSeatIndex.getD dealer)

/-- A hand with cards and blinds, before it moves on. -/
def dealHand (state : Table) (fairnessSeed : FairnessSeedInput) : Except ApiError Table := do
  throwIf (state.status = .active)
    (.conflict "Finish the active hand before starting another one.")
  throwIf (state.listEligibleSeats.length < state.resolveMinimumRequiredPlayers) notEnoughPlayers
  throwIf (state.listEligibleHumanSeats = [])
    (.conflict "At least one human seat is required to start a hand.")
  match state.resolveNextDealerSeatIndex with
  | none => .error (.internalInvariant "Dealer seat is missing.")
  | some dealer => do
      let (smallBlind, bigBlind) ← state.resolveBlindSeats dealer
      let dealOrder := state.resolveDealOrder (smallBlind.getD dealer)
      let handSeed := deriveHoldemHandSeed sha256 fairnessSeed.seed state.id (state.handNumber + 1)
        (state.listEligibleSeats.map Seat.userId)
      let shuffled ← shuffleHoldemDeck sha256 handSeed
      let opened := state.openHand sha256 fairnessSeed handSeed shuffled dealer smallBlind bigBlind
      let dealt ← opened.dealHoleCards dealOrder
      .ok (dealt.postBlinds.firstTurn dealer)

def startHoldemHand (state : Table) (fairnessSeed : FairnessSeedInput) : Except ApiError Table := do
  let dealt ← state.dealHand sha256 fairnessSeed
  dealt.resolveTerminalAndStreetProgression now .preflop

end Start

/-! ## Around the hands -/

/-- The clocks of a seat. -/
structure Presence where
  presenceHeartbeatAt : Option Int
  disconnectGraceExpiresAt : Option Int
  seatLeaseExpiresAt : Option Int
  autoCashOutPending : Bool
  turnDeadlineAt : Option Int
  timeBankRemainingMs : Nat

def touchSeat (presence : Presence) (seat : Seat) : Seat :=
  { seat with
    presenceHeartbeatAt := presence.presenceHeartbeatAt
    disconnectGraceExpiresAt := presence.disconnectGraceExpiresAt
    seatLeaseExpiresAt := presence.seatLeaseExpiresAt
    autoCashOutPending := presence.autoCashOutPending
    turnDeadlineAt := presence.turnDeadlineAt
    timeBankRemainingMs := presence.timeBankRemainingMs }

def setHoldemSeatMode (state : Table) (seatIndex : Nat) (sittingOut : Bool) :
    Except ApiError Table :=
  match state.findSeatByIndex seatIndex with
  | none => .error (.conflict "You are not seated at this holdem table.")
  | some seat => do
      throwIf (sittingOut = false ∧ seat.stackAmount ≤ 0)
        (.conflict "Buy in again before sitting back in.")
      .ok (state.updateSeat seatIndex fun seat => { seat with sittingOut := sittingOut })

/-- A player or a bot that takes a seat. -/
structure Newcomer where
  userId : Nat
  userEmail : Option String
  bot : Option Bot
  tournament : Option SeatTournament
  stackAmount : Int
  presence : Presence

def seatOf (newcomer : Newcomer) (seatIndex : Nat) : Seat :=
  { seatIndex := seatIndex
    userId := newcomer.userId
    userEmail := newcomer.userEmail
    stackAmount := newcomer.stackAmount
    committedAmount := 0
    totalCommittedAmount := 0
    status := .waiting
    presenceHeartbeatAt := newcomer.presence.presenceHeartbeatAt
    disconnectGraceExpiresAt := newcomer.presence.disconnectGraceExpiresAt
    seatLeaseExpiresAt := newcomer.presence.seatLeaseExpiresAt
    autoCashOutPending := newcomer.presence.autoCashOutPending
    turnDeadlineAt := newcomer.presence.turnDeadlineAt
    holeCards := []
    lastAction := none
    sittingOut := false
    timeBankRemainingMs := newcomer.presence.timeBankRemainingMs
    winner := false
    bestHand := none
    bot := newcomer.bot
    tournament := newcomer.tournament }

/-- The newcomer takes the first open seat; a buy-in is never negative. -/
def takeSeat (state : Table) (newcomer : Newcomer) : Except ApiError Table := do
  throwIf (state.maxSeats ≤ state.seats.length) (.conflict "This holdem table is already full.")
  throwIf (newcomer.stackAmount < 0) (.badRequest "Invalid buy-in amount.")
  match (List.range state.maxSeats).find? fun seatIndex =>
      (state.findSeatByIndex seatIndex).isNone with
  | none => .error (.conflict "No open seats remain at this holdem table.")
  | some seatIndex =>
      .ok { state with seats := sortSeatsByIndex (state.seats ++ [seatOf newcomer seatIndex]) }

def canUserLeaveTable (state : Table) (seat : Seat) : Prop :=
  ¬(state.status = .active ∧ isSeatInHand seat)

instance (state : Table) (seat : Seat) : Decidable (state.canUserLeaveTable seat) :=
  inferInstanceAs (Decidable ¬_)

def resetSettledBoardState (state : Table) : Table :=
  { state with
    stage := none
    communityCards := []
    deck := []
    nextCardIndex := 0
    fairnessSeed := none
    pendingActorSeatIndex := none
    currentBet := 0
    lastFullRaiseSize := 0
    actedSeatIndexes := []
    fairness := none
    revealedSeatIndexes := []
    winnerSeatIndexes := []
    resolvedPots := [] }

def clearTableAfterCashout (state : Table) : Table :=
  if state.seats = [] then { state with status := .waiting }.resetSettledBoardState else state

def leaveSeat (state : Table) (seatIndex : Nat) : Except ApiError Table :=
  match state.findSeatByIndex seatIndex with
  | none => .error (.conflict "You are not seated at this holdem table.")
  | some seat => do
      throwIf (¬state.canUserLeaveTable seat)
        (.conflict "Finish the active hand before leaving this holdem table.")
      .ok ({ state with
        seats := state.seats.filter fun row => row.seatIndex ≠ seatIndex }.clearTableAfterCashout)

/-! ## Rake -/

/-- What the loop over the resolved pots has done so far. -/
structure RakeProgress where
  remaining : Int
  table : Table
  seatRakes : List (Nat × Int)

def takeRakeFromSeats (parts : List (Nat × Int)) (state : Table) : Table :=
  parts.foldl
    (fun state part => state.updateSeat part.1 (subtractFromSeatStack part.2)) state

def rakePot (progress : RakeProgress) (pot : Pot) : RakeProgress × Pot :=
  let potRakeAmount := min progress.remaining pot.amount
  if potRakeAmount ≤ 0 ∨ pot.winnerSeatIndexes = [] then
    (progress, { pot with rakeAmount := 0 })
  else
    let parts := Shares.split potRakeAmount pot.winnerSeatIndexes
    ({ remaining := progress.remaining - potRakeAmount
       table := takeRakeFromSeats parts progress.table
       seatRakes := progress.seatRakes ++ parts.filter fun part =>
         (progress.table.findSeatByIndex part.1).isSome },
      { pot with rakeAmount := potRakeAmount })

def rakePots : RakeProgress → List Pot → RakeProgress × List Pot
  | progress, [] => (progress, [])
  | progress, pot :: pots =>
      let (next, raked) := rakePot progress pot
      let (last, rest) := rakePots next pots
      (last, raked :: rest)

def rakeDue (state : Table) (policy : RakePolicy) : Int :=
  if state.status ≠ .waiting ∨ state.stage ≠ some .showdown ∨ state.resolvedPots = [] then 0
  else if policy.noFlopNoDrop ∧ state.communityCards.length < 3 then 0
  else max 0 (min (potTotal state.resolvedPots * policy.rakeBps / 10000) policy.capAmount)

/-- What the seats paid, by seat index. -/
structure AppliedRake where
  totalRakeAmount : Int
  seatRakeAmounts : List (Nat × Int)
  deriving DecidableEq, Repr

def addSeatRake (totals : List (Nat × Int)) (part : Nat × Int) : List (Nat × Int) :=
  match Keyed.lookup Prod.fst part.1 totals with
  | none => totals ++ [part]
  | some _ => Keyed.modify Prod.fst part.1 (fun row => (row.1, row.2 + part.2)) totals

def applyRakeToSettledState (state : Table) (policy : RakePolicy) : Table × AppliedRake :=
  let due := state.rakeDue policy
  if due = 0 then
    (state, { totalRakeAmount := 0, seatRakeAmounts := [] })
  else
    let (last, pots) := rakePots { remaining := due, table := state, seatRakes := [] }
      state.resolvedPots
    ({ last.table with
       resolvedPots := pots
       recentHands :=
         match state.recentHands with
         | [] => []
         | hand :: hands => { hand with rakeAmount := due } :: hands },
      { totalRakeAmount := due
        seatRakeAmounts :=
          (last.seatRakes.foldl addSeatRake []).insertionSort fun left right =>
            left.1 ≤ right.1 })

def resolveHoldemRakePolicySnapshot (state : Table) (configured : RakePolicy) : Option RakePolicy :=
  if state.tableType ≠ .cash then none else some (state.rakePolicy.getD configured)

def isSettledHoldemState (state : Table) : Prop :=
  state.status = .waiting ∧ state.stage = some .showdown

instance (state : Table) : Decidable state.isSettledHoldemState :=
  inferInstanceAs (Decidable (_ ∧ _))

def takeRake (state : Table) (configured : RakePolicy) : Table × Option AppliedRake :=
  if state.isSettledHoldemState then
    match state.resolveHoldemRakePolicySnapshot configured with
    | none => (state, none)
    | some policy =>
        let (raked, applied) := state.applyRakeToSettledState policy
        (raked, some applied)
  else
    (state, none)

end Table

/-! ## Runs of a table -/

inductive Operation where
  | start (fairnessSeed : FairnessSeedInput) (now : Int)
  | act (seatIndex : Nat) (action : Action) (amount : AmountInput) (configured : RakePolicy)
      (now : Int)
  | timeout (configured : RakePolicy) (now : Int)
  | setSeatMode (seatIndex : Nat) (sittingOut : Bool)
  | touch (seatIndex : Nat) (presence : Table.Presence)
  | join (newcomer : Table.Newcomer)
  | leave (seatIndex : Nat)

namespace Table

def getPendingActorSeat (state : Table) : Option Seat :=
  state.pendingActorSeatIndex.bind state.findSeatByIndex

/-- The expired turn of a seat: it checks if it may and folds otherwise. -/
def processExpiredHoldemTurn (now : Int) (state : Table) : Except ApiError (Option Table) :=
  match state.getPendingActorSeat with
  | none => .ok none
  | some seat =>
      match seat.turnDeadlineAt with
      | none => .ok none
      | some deadline =>
          if now < deadline then
            .ok none
          else
            match state.resolveHoldemTimeoutAction seat.seatIndex with
            | none => .ok none
            | some action => do
                let after ← state.actOnHoldemSeat now seat.seatIndex action .missing
                .ok (some after)

def step (sha256 : HashFunction) (state : Table) : Operation → Except ApiError Table
  | .start fairnessSeed now => state.startHoldemHand sha256 now fairnessSeed
  | .act seatIndex action amount configured now => do
      let after ← state.actOnHoldemSeat now seatIndex action amount
      .ok (after.takeRake configured).1
  | .timeout configured now => do
      match ← state.processExpiredHoldemTurn now with
      | none => .ok state
      | some after => .ok (after.takeRake configured).1
  | .setSeatMode seatIndex sittingOut => state.setHoldemSeatMode seatIndex sittingOut
  | .touch seatIndex presence => .ok (state.updateSeat seatIndex (touchSeat presence))
  | .join newcomer => state.takeSeat newcomer
  | .leave seatIndex => state.leaveSeat seatIndex

/-- A table on which no hand has been played yet. -/
structure Fresh (state : Table) : Prop where
  waiting : state.status = .waiting
  stage : state.stage = none
  fairness : state.fairness = none
  fairnessSeed : state.fairnessSeed = none
  maxSeats_le : state.maxSeats ≤ 9
  bigBlind_pos : 0 < state.bigBlind
  keys : Keyed.HasKeys Seat.seatIndex state.seats
  seats : ∀ seat ∈ state.seats, ∃ newcomer, 0 ≤ newcomer.stackAmount ∧
    seat.seatIndex < state.maxSeats ∧ seat = seatOf newcomer seat.seatIndex

/-- A state that a fresh table comes to. -/
def Reachable (sha256 : HashFunction) (state : Table) : Prop :=
  ∃ fresh events, Fresh fresh ∧ Run (Accepts (step sha256)) fresh events state

/-- A new table with its first players, under `HOLDEM_CONFIG`. -/
def createdTable (tableType : TableType) (players : List Newcomer) : Table :=
  { id := 1
    name := "Table"
    status := .waiting
    smallBlind := 100
    bigBlind := 200
    minimumBuyIn := 4000
    maximumBuyIn := 20000
    maxSeats := 6
    createdAt := 0
    updatedAt := 0
    tableType := tableType
    linkedGroup := none
    rakePolicy := none
    tournament := none
    handNumber := 0
    stage := none
    dealerSeatIndex := none
    smallBlindSeatIndex := none
    bigBlindSeatIndex := none
    pendingActorSeatIndex := none
    turnTimeBankStartsAt := none
    currentBet := 0
    lastFullRaiseSize := 0
    actedSeatIndexes := []
    communityCards := []
    deck := []
    nextCardIndex := 0
    fairnessSeed := none
    fairness := none
    revealedSeatIndexes := []
    winnerSeatIndexes := []
    resolvedPots := []
    recentHands := []
    dealerEvents := []
    seats := players.zipIdx.map fun player => seatOf player.1 player.2 }

theorem createdTable_fresh (tableType : TableType) {players : List Newcomer}
    (hlen : players.length ≤ 6) (hstack : ∀ player ∈ players, 0 ≤ player.stackAmount) :
    Fresh (createdTable tableType players) where
  waiting := rfl
  stage := rfl
  fairness := rfl
  fairnessSeed := rfl
  maxSeats_le := by simp [createdTable]
  bigBlind_pos := by simp [createdTable]
  keys := by
    have hindex : (players.zipIdx.map fun player => seatOf player.1 player.2).map Seat.seatIndex =
        List.range players.length := by
      rw [List.map_map, List.range_eq_range']
      exact List.zipIdx_map_snd 0 players
    unfold Keyed.HasKeys createdTable
    rw [hindex]
    exact List.nodup_range
  seats := by
    intro seat hseat
    obtain ⟨⟨player, i⟩, hplayer, rfl⟩ := List.mem_map.mp hseat
    obtain ⟨hi, hget⟩ := List.mem_zipIdx' hplayer
    refine ⟨player, hstack player (hget ▸ List.getElem_mem hi), ?_, rfl⟩
    simp only [createdTable, seatOf]
    omega

/-- A player with a stack, for runs on fixed inputs. -/
def samplePlayer (userId : Nat) (stackAmount : Int) : Newcomer :=
  { userId := userId
    userEmail := none
    bot := none
    tournament := none
    stackAmount := stackAmount
    presence :=
      { presenceHeartbeatAt := none
        disconnectGraceExpiresAt := none
        seatLeaseExpiresAt := none
        autoCashOutPending := false
        turnDeadlineAt := none
        timeBankRemainingMs := 0 } }

def sampleSeed : FairnessSeedInput :=
  { seed := "seed", epoch := 0, epochSeconds := 60, commitHash := "commit" }

def sampleRake : RakePolicy :=
  { rakeBps := 500, capAmount := 800, noFlopNoDrop := true }

end Table

/-- A hash function under which the shuffle always swaps with the first card. -/
def zeroHash : HashFunction where
  digest := fun _ => { hex := "00", readUInt32BE := 0 }
  hex_ne_empty := fun _ => by decide

end RewardSystem.Holdem
