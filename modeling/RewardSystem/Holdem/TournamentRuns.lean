import RewardSystem.Holdem.HandHistory
import RewardSystem.Holdem.Tournament

/-!
# Runs of a tournament

Players register and withdraw while a tournament is open, hands are played until one player has all
the chips, and the end of a hand hands out the places.
-/

namespace RewardSystem.Holdem

open ApiError Transition

namespace Table

/-! ## Registration -/

/-- A player who wants to register. -/
structure Entrant where
  userId : Nat
  userEmail : Option String
  presence : Presence

/-- Everybody starts with the same stack, which is not the buy-in. -/
def newcomerOf (tournament : Tournament) (entrant : Entrant) : Newcomer :=
  { userId := entrant.userId
    userEmail := entrant.userEmail
    bot := none
    tournament := some
      { entryBuyInAmount := tournament.buyInAmount
        eliminatedAt := none
        finishingPlace := none
        prizeAmount := none }
    stackAmount := tournament.startingStackAmount
    presence := entrant.presence }

def findUserSeat (state : Table) (userId : Nat) : Option Seat :=
  Keyed.lookup Seat.userId userId state.seats

/-- `joinHoldemTable` at a tournament table. -/
def joinTournament (state : Table) (entrant : Entrant) (buyInAmount : Int) :
    Except ApiError Table := do
  throwIf (state.findUserSeat entrant.userId).isSome
    (.conflict "Leave your current holdem table before joining another.")
  let tournament ← state.ensureTournamentMetadata
  throwIf (tournament.status ≠ .registering)
    (.conflict "Registration for this holdem tournament is closed.")
  let seated ← state.takeSeat (newcomerOf tournament entrant)
  throwIf (buyInAmount ≠ tournament.buyInAmount)
    (.conflict "Tournament buy-in must match the table buy-in.")
  seated.syncTournamentStandings

/-- `leaveHoldemTable` at a tournament table. -/
def leaveTournament (state : Table) (userId : Nat) : Except ApiError Table :=
  match state.findUserSeat userId with
  | none => .error (.conflict "You are not seated at this holdem table.")
  | some seat => do
      let tournament ← state.ensureTournamentMetadata
      throwIf (tournament.status ≠ .registering)
        (.conflict "You cannot leave a running holdem tournament.")
      let _ ← ensureSeatTournamentMetadata seat
      ({ state with
        seats := state.seats.filter fun row =>
          row.seatIndex ≠ seat.seatIndex }).removeTournamentStanding userId

/-! ## Hands -/

/-- `startHoldemTableHand` at a tournament table: the first hand closes the registration. -/
def startTournamentHand (sha256 : HashFunction) (now : Int) (state : Table) (userId : Nat)
    (fairnessSeed : FairnessSeedInput) : Except ApiError Table := do
  throwIf (state.findUserSeat userId).isNone
    (.conflict "You must be seated to start a holdem hand.")
  let tournament ← state.ensureTournamentMetadata
  throwIf (tournament.status = .completed) (.conflict "This holdem tournament is already complete.")
  let running ←
    if tournament.status = .registering then
      ({ state with
        tournament := some { tournament with status := .running } }).syncTournamentStandings
    else
      .ok state
  running.startHoldemHand sha256 now fairnessSeed

/-- What `persistHoldemTransition` does to a tournament table that an action has led from `before`
to `after`: the table, and who is paid. -/
def persistTournamentTransition (awardedAt : Int) (configured : RakePolicy) (before after : Table) :
    Except ApiError (Table × List PayoutRecipient) :=
  let raked := (after.takeRake configured).1
  if raked.isSettledHoldemState then
    raked.settleTournament awardedAt (amountFor before.previousStacks)
  else
    .ok (raked, [])

end Table

/-! ## The room -/

/-- A tournament table, and who was paid. -/
structure Room where
  table : Table
  paid : List Table.PayoutRecipient

inductive RoomOperation where
  | join (entrant : Table.Entrant) (buyInAmount : Int)
  | leave (userId : Nat)
  | start (userId : Nat) (fairnessSeed : FairnessSeedInput) (now : Int)
  | act (seatIndex : Nat) (action : Action) (amount : AmountInput) (configured : RakePolicy)
      (now : Int)
  | timeout (configured : RakePolicy) (now : Int)
  | setSeatMode (seatIndex : Nat) (sittingOut : Bool)
  | touch (seatIndex : Nat) (presence : Table.Presence)

namespace Room

/-- The room after an action that has led its table to `after`. -/
def moveOn (room : Room) (awardedAt : Int) (configured : RakePolicy) (after : Table) :
    Except ApiError Room := do
  let (closed, recipients) ← room.table.persistTournamentTransition awardedAt configured after
  .ok { table := closed, paid := room.paid ++ recipients }

def step (sha256 : HashFunction) (room : Room) : RoomOperation → Except ApiError Room
  | .join entrant buyInAmount => do
      let table ← room.table.joinTournament entrant buyInAmount
      .ok { room with table := table }
  | .leave userId => do
      let table ← room.table.leaveTournament userId
      .ok { room with table := table }
  | .start userId fairnessSeed now => do
      let table ← room.table.startTournamentHand sha256 now userId fairnessSeed
      .ok { room with table := table }
  | .act seatIndex action amount configured now => do
      let after ← room.table.actOnHoldemSeat now seatIndex action amount
      room.moveOn now configured after
  | .timeout configured now => do
      match ← room.table.processExpiredHoldemTurn now with
      | none => .ok room
      | some after => room.moveOn now configured after
  | .setSeatMode seatIndex sittingOut => do
      let table ← room.table.setHoldemSeatMode seatIndex sittingOut
      .ok { room with table := table }
  | .touch seatIndex presence =>
      .ok { room with table := room.table.updateSeat seatIndex (Table.touchSeat presence) }

/-- A tournament that has just been created. -/
structure Opened (room : Room) : Prop where
  type : room.table.isTournamentTable
  waiting : room.table.status = .waiting
  seats : room.table.seats = []
  tournament : ∃ tournament, room.table.tournament = some tournament ∧
    tournament.status = .registering ∧ 0 ≤ tournament.buyInAmount ∧
    0 < tournament.startingStackAmount ∧ tournament.prizePoolAmount = 0 ∧
    tournament.registeredCount = 0 ∧ tournament.standings = [] ∧ tournament.payouts = []
  paid : room.paid = []

/-- A state that a tournament comes to. -/
def Reachable (sha256 : HashFunction) (room : Room) : Prop :=
  ∃ opened events, Opened opened ∧ Run (Accepts (step sha256)) opened events room

end Room

end RewardSystem.Holdem
