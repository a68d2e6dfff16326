import RewardSystem.Holdem.Hands

/-!
# Tournaments

The standings of a tournament have one row for each player who registered, and the places that are
paid share the prize pool.
-/

namespace RewardSystem.Holdem

open ApiError

/-! ## Payouts -/

def resolveTournamentPayoutPlaces (registeredCount : Nat) (requestedPayoutPlaces : Option Nat) :
    Nat :=
  if registeredCount ≤ 1 then
    1
  else
    let defaultPlaces := if registeredCount ≤ 2 then 1 else if registeredCount ≤ 5 then 2 else 3
    max 1 (min (min registeredCount 3) (requestedPayoutPlaces.getD defaultPlaces))

/-- In basis points, from the first place on. -/
def getTournamentPayoutRatios (payoutPlaces : Nat) : List Nat :=
  match max 1 (min 3 payoutPlaces) with
  | 1 => [10000]
  | 2 => [6500, 3500]
  | _ => [5000, 3000, 2000]

/-- Every place gets its share rounded down, and the last place what remains. -/
def distributeFrom (total : Int) : Int → List Nat → List Int
  | _, [] => []
  | remaining, [_] => [remaining]
  | remaining, ratio :: ratios =>
      let amount := (total * ratio).tdiv 10000
      amount :: distributeFrom total (remaining - amount) ratios

def distributeTournamentPayouts (prizePoolAmount : Int) (payoutPlaces : Nat) : List Int :=
  distributeFrom prizePoolAmount prizePoolAmount (getTournamentPayoutRatios payoutPlaces)

theorem distributeFrom_sum (total remaining : Int) {ratios : List Nat} (hne : ratios ≠ []) :
    (distributeFrom total remaining ratios).sum = remaining := by
  induction ratios generalizing remaining with
  | nil => contradiction
  | cons ratio ratios ih =>
      cases ratios with
      | nil => simp [distributeFrom]
      | cons next rest =>
          simp only [distributeFrom, List.sum_cons, ih _ (by simp)]
          omega

theorem distributeFrom_length (total remaining : Int) (ratios : List Nat) :
    (distributeFrom total remaining ratios).length = ratios.length := by
  induction ratios generalizing remaining with
  | nil => rfl
  | cons ratio ratios ih =>
      cases ratios with
      | nil => rfl
      | cons next rest => simp [distributeFrom, ih]

theorem getTournamentPayoutRatios_length (payoutPlaces : Nat) :
    (getTournamentPayoutRatios payoutPlaces).length = max 1 (min 3 payoutPlaces) := by
  have hcases : max 1 (min 3 payoutPlaces) = 1 ∨ max 1 (min 3 payoutPlaces) = 2 ∨
      max 1 (min 3 payoutPlaces) = 3 := by omega
  unfold getTournamentPayoutRatios
  rcases hcases with h | h | h <;> rw [h] <;> rfl

theorem distributeTournamentPayouts_sum (prizePoolAmount : Int) (payoutPlaces : Nat) :
    (distributeTournamentPayouts prizePoolAmount payoutPlaces).sum = prizePoolAmount := by
  refine distributeFrom_sum _ _ fun hnil => ?_
  have hlength := getTournamentPayoutRatios_length payoutPlaces
  rw [hnil, List.length_nil] at hlength
  omega

theorem resolveTournamentPayoutPlaces_bounds (registeredCount : Nat) (requested : Option Nat) :
    1 ≤ resolveTournamentPayoutPlaces registeredCount requested ∧
      resolveTournamentPayoutPlaces registeredCount requested ≤ max 1 registeredCount ∧
      resolveTournamentPayoutPlaces registeredCount requested ≤ 3 := by
  unfold resolveTournamentPayoutPlaces
  split
  case isTrue => omega
  case isFalse =>
    exact ⟨le_max_left _ _, max_le_max le_rfl ((min_le_left _ _).trans (min_le_left _ _)),
      max_le (by omega) ((min_le_left _ _).trans (min_le_right _ _))⟩

/-! ## Standings -/

def ensureSeatTournamentMetadata (seat : Seat) : Except ApiError SeatTournament :=
  match seat.tournament with
  | none => .error (.conflict "Tournament seat metadata is missing.")
  | some tournament => .ok tournament

def buildTournamentStandingForSeat (seat : Seat) : Except ApiError Standing := do
  let tournamentSeat ← ensureSeatTournamentMetadata seat
  .ok
    { userId := some seat.userId
      displayName := some (resolveSeatDisplayName seat)
      seatIndex := some seat.seatIndex
      stackAmount := seat.stackAmount
      active := 0 < seat.stackAmount ∧ tournamentSeat.finishingPlace = none
      finishingPlace := tournamentSeat.finishingPlace
      eliminatedAt := tournamentSeat.eliminatedAt
      prizeAmount := tournamentSeat.prizeAmount }

/-- The row of the user is replaced, or added at the end. -/
def upsertTournamentStanding (standings : List Standing) (standing : Standing) : List Standing :=
  match Keyed.lookup Standing.userId standing.userId standings with
  | some _ => Keyed.modify Standing.userId standing.userId (fun _ => standing) standings
  | none => standings ++ [standing]

def compareSeatIndexes (left right : Standing) : Int :=
  (left.seatIndex.getD 0 : Int) - right.seatIndex.getD 0

/-- Players before those who are out: by their stacks, and then by the places they finished at. -/
def compareStandings (left right : Standing) : Int :=
  if left.active ≠ right.active then
    if left.active then -1 else 1
  else if left.active then
    if left.stackAmount ≠ right.stackAmount then right.stackAmount - left.stackAmount
    else compareSeatIndexes left right
  else
    match left.finishingPlace, right.finishingPlace with
    | some leftPlace, some rightPlace =>
        if leftPlace ≠ rightPlace then leftPlace - rightPlace else compareSeatIndexes left right
    | _, _ => compareSeatIndexes left right

def sortTournamentStandings (standings : List Standing) : List Standing :=
  standings.insertionSort fun left right => compareStandings left right ≤ 0

theorem sortTournamentStandings_perm (standings : List Standing) :
    (sortTournamentStandings standings).Perm standings :=
  List.perm_insertionSort _ standings

/-- The figures that depend on the number of players. -/
def Tournament.withStandings (tournament : Tournament) (standings : List Standing) : Tournament :=
  { tournament with
    standings := standings
    registeredCount := standings.length
    prizePoolAmount := tournament.buyInAmount * standings.length
    payoutPlaces :=
      some (resolveTournamentPayoutPlaces standings.length tournament.payoutPlaces) }

namespace Table

def isTournamentTable (state : Table) : Prop :=
  state.tableType = .tournament

instance (state : Table) : Decidable state.isTournamentTable :=
  inferInstanceAs (Decidable (_ = _))

def ensureTournamentMetadata (state : Table) : Except ApiError Tournament :=
  match state.tableType, state.tournament with
  | .tournament, some tournament => .ok tournament
  | _, _ => .error (.conflict "This holdem table is not a tournament.")

def syncTournamentStandings (state : Table) : Except ApiError Table :=
  if ¬state.isTournamentTable then
    .ok state
  else do
    let tournament ← state.ensureTournamentMetadata
    let rows ← state.seats.mapM buildTournamentStandingForSeat
    let standings := sortTournamentStandings (rows.foldl upsertTournamentStanding
      tournament.standings)
    .ok { state with tournament := some (tournament.withStandings standings) }

def removeTournamentStanding (state : Table) (userId : Nat) : Except ApiError Table :=
  if ¬state.isTournamentTable then
    .ok state
  else do
    let tournament ← state.ensureTournamentMetadata
    let standings := tournament.standings.filter fun entry => entry.userId ≠ some userId
    let counted := tournament.withStandings standings
    .ok { state with
      tournament := some
        { counted with payoutPlaces := if standings = [] then none else counted.payoutPlaces } }

/-! ## The end of a hand -/

def finishSeat (place : Nat) (eliminatedAt : Option Int) (seat : Seat) : Seat :=
  { seat with
    tournament := seat.tournament.map fun tournament =>
      { tournament with
        finishingPlace := some place
        eliminatedAt := eliminatedAt.or tournament.eliminatedAt
        prizeAmount := none } }

/-- Still without a place, and without chips. -/
def busted (seat : Seat) (tournament : SeatTournament) : Bool :=
  seat.stackAmount ≤ 0 ∧ tournament.finishingPlace = none

/-- Still without a place, and with chips. -/
def contending (seat : Seat) (tournament : SeatTournament) : Bool :=
  0 < seat.stackAmount ∧ tournament.finishingPlace = none

/-- The seats whose tournament data pass a check; each seat must have such data. -/
def seatsInTournament (check : Seat → SeatTournament → Bool) (state : Table) :
    Except ApiError (List Seat) := do
  let rows ← state.seats.mapM fun seat => do
    let tournament ← ensureSeatTournamentMetadata seat
    .ok (seat, check seat tournament)
  .ok ((rows.filter Prod.snd).map Prod.fst)

/-- The shorter stack before the hand goes out first. -/
def sortBustedSeats (previousStacks : Nat → Option Int) (seats : List Seat) : List Seat :=
  seats.insertionSort fun left right =>
    let leftStack := (previousStacks left.userId).getD 0
    let rightStack := (previousStacks right.userId).getD 0
    leftStack < rightStack ∨ leftStack = rightStack ∧ left.seatIndex ≤ right.seatIndex

/-- The seats go out one after another, the first at `place`. -/
def eliminateSeats (awardedAt : Int) : List Seat → Nat → Table → Except ApiError Table
  | [], _, state => .ok state
  | seat :: rest, place, state => do
      let marked := state.updateSeat seat.seatIndex (finishSeat place (some awardedAt))
      let synced ← marked.syncTournamentStandings
      eliminateSeats awardedAt rest (place - 1) synced

/-- A place that is paid, with the player who finished at it. -/
structure PayoutRecipient where
  standing : Standing
  place : Nat
  amount : Int
  deriving DecidableEq, Repr

def payoutRecipients (tournament : Tournament) : List PayoutRecipient :=
  let places := resolveTournamentPayoutPlaces tournament.registeredCount tournament.payoutPlaces
  (distributeTournamentPayouts tournament.prizePoolAmount places).zipIdx.filterMap fun entry =>
    (tournament.standings.find? fun row => row.finishingPlace = some (entry.2 + 1)).map fun row =>
      { standing := row, place := entry.2 + 1, amount := entry.1 }

def awardPrizes (awardedAt : Int) (tournament : Tournament) : Tournament :=
  let recipients := payoutRecipients tournament
  { tournament with
    payoutPlaces :=
      some (resolveTournamentPayoutPlaces tournament.registeredCount tournament.payoutPlaces)
    standings := recipients.foldl
      (fun standings recipient => Keyed.modify Standing.userId recipient.standing.userId
        (fun row => { row with prizeAmount := some recipient.amount }) standings)
      tournament.standings
    payouts := recipients.map fun recipient =>
      { place := recipient.place
        userId := recipient.standing.userId
        displayName := recipient.standing.displayName
        amount := recipient.amount
        awardedAt := some awardedAt } }

/-- What the end of a hand does to a tournament: the table, and who is paid. -/
def settleTournament (awardedAt : Int) (previousStacks : Nat → Option Int) (state : Table) :
    Except ApiError (Table × List PayoutRecipient) := do
  let _ ← state.ensureTournamentMetadata
  let bustedSeats ← state.seatsInTournament busted
  let activeSeats ← state.seatsInTournament contending
  if bustedSeats = [] then
    let synced ← state.syncTournamentStandings
    .ok (synced, [])
  else
    let eliminated ← eliminateSeats awardedAt (sortBustedSeats previousStacks bustedSeats)
      (activeSeats.length + bustedSeats.length) state
    match activeSeats with
    | [] =>
        .error (.internalInvariant "Holdem tournament settled without an active champion seat.")
    | [champion] => do
        let crowned ← (eliminated.updateSeat champion.seatIndex (finishSeat 1 none)).syncTournamentStandings
        let tournament ← crowned.ensureTournamentMetadata
        let completed :=
          { awardPrizes awardedAt tournament with
            status := .completed
            completedAt := some awardedAt }
        let cleared := { crowned with
          seats := [], tournament := some completed }.clearTableAfterCashout
        let closed ← cleared.syncTournamentStandings
        .ok (closed, payoutRecipients tournament)
    | _ => do
        let bustedIndexes := bustedSeats.map Seat.seatIndex
        let tournament ← eliminated.ensureTournamentMetadata
        let remaining := { eliminated with
          seats := eliminated.seats.filter fun seat => seat.seatIndex ∉ bustedIndexes
          tournament := some { tournament with completedAt := none } }
        let closed ← remaining.syncTournamentStandings
        .ok (closed, [])

end Table

end RewardSystem.Holdem
