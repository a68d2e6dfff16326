import RewardSystem.Holdem.Players

/-!
# The history of a hand

A transition that settles a hand writes down twice what every seat had before it, put in and got: in
the summary of the hand and in the event of its settlement. Both are taken from the table before the
last action and from the table after the rake.
-/

namespace RewardSystem.Holdem

open ApiError

/-- A participant of a hand, as it is written down. -/
structure ParticipantSummary where
  seatIndex : Nat
  userId : Nat
  displayName : String
  contributionAmount : Int
  payoutAmount : Int
  stackBefore : Int
  stackAfter : Int
  winner : Bool
  status : SeatStatus
  holeCards : List Card
  bestHand : Option BestHand
  lastAction : Option String
  deriving DecidableEq, Repr

inductive HandStatus where
  | settled
  | unsettled (status : TableStatus)
  deriving DecidableEq, Repr

structure HandSummary where
  tableId : Nat
  tableName : String
  handNumber : Nat
  status : HandStatus
  stage : Option Street
  smallBlind : Int
  bigBlind : Int
  dealerSeatIndex : Option Nat
  smallBlindSeatIndex : Option Nat
  bigBlindSeatIndex : Option Nat
  pendingActorSeatIndex : Option Nat
  boardCards : List Card
  revealedSeatIndexes : List Nat
  winnerSeatIndexes : List Nat
  totalRakeAmount : Int
  pots : Option (List Pot)
  participants : List ParticipantSummary
  deriving DecidableEq, Repr

inductive SettledEventType where
  | showdownResolved
  | handWonByFold
  deriving DecidableEq, Repr

structure SettlementEvent where
  type : SettledEventType
  handNumber : Nat
  stage : Option Street
  boardCards : List Card
  winnerSeatIndexes : List Nat
  revealedSeatIndexes : List Nat
  pots : List Pot
  totalRakeAmount : Int
  participants : List ParticipantSummary
  deriving DecidableEq, Repr

structure HandRecords where
  summary : HandSummary
  settlement : Option SettlementEvent
  deriving DecidableEq, Repr

/-- The amount of a key in a `Map`; of two entries of one key the later counts. -/
def amountFor (amounts : List (Nat × Int)) (key : Nat) : Option Int :=
  (Keyed.lookup Prod.fst key amounts.reverse).map Prod.snd

def buildParticipantSummary (stackBeforeByUserId : List (Nat × Int))
    (contributionBySeatIndex : Option (List (Nat × Int))) (seat : Seat) : ParticipantSummary :=
  let stackBefore := (amountFor stackBeforeByUserId seat.userId).getD seat.stackAmount
  let contributionAmount := (contributionBySeatIndex.bind fun amounts =>
    amountFor amounts seat.seatIndex).getD seat.totalCommittedAmount
  let payoutFloor := stackBefore - contributionAmount
  { seatIndex := seat.seatIndex
    userId := seat.userId
    displayName := resolveSeatDisplayName seat
    contributionAmount := contributionAmount
    payoutAmount := if payoutFloor < seat.stackAmount then seat.stackAmount - payoutFloor else 0
    stackBefore := stackBefore
    stackAfter := seat.stackAmount
    winner := seat.winner
    status := seat.status
    holeCards := seat.holeCards
    bestHand := seat.bestHand
    lastAction := seat.lastAction }

namespace Table

variable {sha256 : HashFunction} {now prior : Int} {before last settled raked : Table}
  {seat : Seat} {pots : List Pot} {i : Nat}

def buildContributionMap (state : Table) : List (Nat × Int) :=
  state.seats.map fun seat => (seat.seatIndex, seat.totalCommittedAmount)

def previousStacks (state : Table) : List (Nat × Int) :=
  state.seats.map fun seat => (seat.userId, seat.stackAmount)

def buildParticipantSummaries (state : Table) (stackBeforeByUserId : List (Nat × Int))
    (contributionBySeatIndex : Option (List (Nat × Int))) : List ParticipantSummary :=
  (sortSeatsByIndex state.seats).map
    (buildParticipantSummary stackBeforeByUserId contributionBySeatIndex)

def resolveTotalRakeAmount (state : Table) : Int :=
  rakeTotal state.resolvedPots

def buildHoldemHandSummary (state : Table) (stackBeforeByUserId : List (Nat × Int))
    (contributionBySeatIndex : Option (List (Nat × Int))) : HandSummary :=
  { tableId := state.id
    tableName := state.name
    handNumber := state.handNumber
    status := if state.isSettledHoldemState then .settled else .unsettled state.status
    stage := state.stage
    smallBlind := state.smallBlind
    bigBlind := state.bigBlind
    dealerSeatIndex := state.dealerSeatIndex
    smallBlindSeatIndex := state.smallBlindSeatIndex
    bigBlindSeatIndex := state.bigBlindSeatIndex
    pendingActorSeatIndex := state.pendingActorSeatIndex
    boardCards := state.communityCards
    revealedSeatIndexes := state.revealedSeatIndexes
    winnerSeatIndexes := state.winnerSeatIndexes
    totalRakeAmount := state.resolveTotalRakeAmount
    pots := if state.resolvedPots = [] then none else some state.resolvedPots
    participants := state.buildParticipantSummaries stackBeforeByUserId contributionBySeatIndex }

def resolveSettledHoldemEventType (state : Table) : SettledEventType :=
  if 1 < state.revealedSeatIndexes.length ∨
      state.revealedSeatIndexes.length = 1 ∧ state.resolvedPots = [] then
    .showdownResolved
  else
    .handWonByFold

/-- The event of a settlement, which `recordHandTransitionEvents` appends. -/
def settlementEvent (before after : Table) : SettlementEvent :=
  { type := after.resolveSettledHoldemEventType
    handNumber := after.handNumber
    stage := after.stage
    boardCards := after.communityCards
    winnerSeatIndexes := after.winnerSeatIndexes
    revealedSeatIndexes := after.revealedSeatIndexes
    pots := after.resolvedPots
    totalRakeAmount := after.resolveTotalRakeAmount
    participants := after.buildParticipantSummaries
      (before.seats.map fun seat => (seat.userId, seat.stackAmount + seat.totalCommittedAmount))
      (some before.buildContributionMap) }

/-- The records of a transition from `before`; the rake is taken first. -/
def persistHoldemTransition (configured : RakePolicy) (before after : Table) :
    Table × HandRecords :=
  let raked := (after.takeRake configured).1
  (raked,
    { summary := raked.buildHoldemHandSummary before.previousStacks
        (some before.buildContributionMap)
      settlement := if raked.isSettledHoldemState then some (settlementEvent before raked)
        else none })

/-- The record that the start of a hand writes, even if it settles the hand. -/
def createHoldemHandHistory (before state : Table) : HandRecords :=
  { summary := state.buildHoldemHandSummary before.previousStacks none
    settlement := none }

/-! ## Recorded hands -/

inductive HandEnd where
  | start
  | action (taken : Action)
  | timeout
  deriving DecidableEq, Repr

/-- The hand at `before` is settled, and these are the table after the rake and the records. -/
inductive Recorded (sha256 : HashFunction) (before : Table) : HandEnd → Table → HandRecords → Prop
  | atStart {now : Int} {fairnessSeed : FairnessSeedInput} {settled : Table} :
      before.startHoldemHand sha256 now fairnessSeed = .ok settled →
      settled.isSettledHoldemState →
      Recorded sha256 before .start settled (createHoldemHandHistory before settled)
  | byAction {now : Int} {seatIndex : Nat} {action : Action} {amount : AmountInput}
      {settled : Table} (configured : RakePolicy) :
      before.actOnHoldemSeat now seatIndex action amount = .ok settled →
      settled.isSettledHoldemState →
      Recorded sha256 before (.action action) (persistHoldemTransition configured before settled).1
        (persistHoldemTransition configured before settled).2
  | byTimeout {now : Int} {settled : Table} (configured : RakePolicy) :
      before.processExpiredHoldemTurn now = .ok (some settled) →
      settled.isSettledHoldemState →
      Recorded sha256 before .timeout (persistHoldemTransition configured before settled).1
        (persistHoldemTransition configured before settled).2

/-- The participants of a hand as they should be written down: each is paid its shares of the pots
less its own rake, all together the pots less the rake, and the stacks change accordingly. -/
structure TellsTheMoney (raked : Table) (participants : List ParticipantSummary) : Prop where
  payouts : ∀ participant ∈ participants, participant.payoutAmount =
    shareOf raked.resolvedPots participant.seatIndex - rakeOf raked.resolvedPots participant.seatIndex
  total : (participants.map ParticipantSummary.payoutAmount).sum =
    potTotal raked.resolvedPots - rakeTotal raked.resolvedPots
  changes : ∀ participant ∈ participants, participant.stackAfter - participant.stackBefore =
    participant.payoutAmount - participant.contributionAmount

/-- Both records tell the money, and the same payouts. -/
structure RecordsAgree (raked : Table) (records : HandRecords) : Prop where
  summary : TellsTheMoney raked records.summary.participants
  settlement : ∃ event, records.settlement = some event ∧ TellsTheMoney raked event.participants ∧
    event.participants.map ParticipantSummary.payoutAmount =
      records.summary.participants.map ParticipantSummary.payoutAmount

def HandEnd.PutsNoChip : HandEnd → Prop
  | .start => False
  | .action taken => taken = .fold ∨ taken = .check
  | .timeout => True

/-! ## The amounts of a participant -/

theorem amountFor_map {α : Type} {key : α → Nat} (amount : α → Int) {rows : List α} {row : α}
    (hkeys : Keyed.HasKeys key rows) (hrow : row ∈ rows) :
    amountFor (rows.map fun row => (key row, amount row)) (key row) = some (amount row) := by
  let entries := rows.map fun row => (key row, amount row)
  have hentries : Keyed.HasKeys Prod.fst entries.reverse := by
    unfold Keyed.HasKeys
    rw [List.map_reverse, List.nodup_reverse, List.map_map]
    exact hkeys
  have hmem : (key row, amount row) ∈ entries.reverse :=
    List.mem_reverse.mpr (List.mem_map_of_mem hrow)
  unfold amountFor
  rw [Keyed.lookup_of_mem hentries hmem]
  rfl

/-! ## What the rake leaves -/

theorem RakeTaken.shareOf_eq {applied : AppliedRake} (h : RakeTaken settled raked applied) (i : Nat) :
    shareOf raked.resolvedPots i = shareOf settled.resolvedPots i := by
  have hpots := h.pots
  generalize settled.resolvedPots = pots at hpots
  generalize raked.resolvedPots = rakedPots at hpots
  induction hpots with
  | nil => rfl
  | cons hfirst _ ih =>
      rw [shareOf_cons, shareOf_cons, ih, hfirst.1]

/-- On top of what a seat had in `last` it has its shares less its rake in `raked`. -/
structure NetPaid (last raked : Table) : Prop where
  pays : Pays (fun i => shareOf raked.resolvedPots i - rakeOf raked.resolvedPots i) last raked
  net_nonneg : ∀ i, 0 ≤ shareOf raked.resolvedPots i - rakeOf raked.resolvedPots i
  won : ∀ pot ∈ raked.resolvedPots, pot.winnerSeatIndexes ≠ [] ∧ Seated raked pot.winnerSeatIndexes

theorem SettledHand.takeRake_taken (h : SettledHand last settled) (configured : RakePolicy) :
    ∃ applied, RakeTaken settled (settled.takeRake configured).1 applied := by
  unfold takeRake
  split
  · split
    · exact ⟨_, .refl h.won⟩
    · exact ⟨_, h.raked _⟩
  · exact ⟨_, .refl h.won⟩

theorem SettledHand.netPaid (h : SettledHand last settled) (configured : RakePolicy) :
    NetPaid last (settled.takeRake configured).1 := by
  obtain ⟨applied, htaken⟩ := h.takeRake_taken configured
  refine ⟨(h.pays.trans htaken.pays).congr fun i => ?_, fun i => ?_, fun pot hpot => ?_⟩
  · rw [htaken.shareOf_eq, Int.sub_eq_add_neg]
  · have hle := rakeOf_le_shareOf (fun pot hpot => (h.won pot hpot).1) htaken.pots i
    rw [htaken.shareOf_eq]
    omega
  · obtain ⟨old, hold, heq, -, -⟩ := exists_of_mem_right htaken.pots hpot
    rw [heq]
    exact ⟨(h.won old hold).1.ne_nil, htaken.pays.seated (h.seated old hold)⟩

theorem NetPaid.sum_net (h : NetPaid last raked) (hkeys : raked.HasSeatKeys) :
    (raked.seats.map fun seat => shareOf raked.resolvedPots seat.seatIndex -
      rakeOf raked.resolvedPots seat.seatIndex).sum =
      potTotal raked.resolvedPots - rakeTotal raked.resolvedPots := by
  have hshares : (raked.seats.map fun seat => shareOf raked.resolvedPots seat.seatIndex).sum =
      potTotal raked.resolvedPots := sum_amountOf_pots hkeys Pot.amount h.won
  have hadded := List.sum_map_add (l := raked.seats)
    (f := fun seat => shareOf raked.resolvedPots seat.seatIndex -
      rakeOf raked.resolvedPots seat.seatIndex)
    (g := fun seat => rakeOf raked.resolvedPots seat.seatIndex)
  simp only [sub_add_cancel] at hadded
  rw [hshares, sum_rakeOf hkeys h.won] at hadded
  omega

/-! ## The participants -/

theorem exists_seat_before {due : Nat → Int} (hpays : Pays due before raked)
    (hplayers : raked.players = before.players) :
    ∃ g : Seat → Seat, raked.seats = before.seats.map g ∧ ∀ seat ∈ before.seats,
      (g seat).seatIndex = seat.seatIndex ∧ (g seat).userId = seat.userId ∧
        (g seat).stackAmount = seat.stackAmount + due seat.seatIndex := by
  obtain ⟨g, hg, hseats⟩ := hpays
  refine ⟨g, hseats, fun seat hseat => ⟨(hg seat).seatIndex, ?_, (hg seat).stack⟩⟩
  unfold players at hplayers
  rw [hseats, List.map_map] at hplayers
  exact congrArg Player.userId (List.map_inj_left.mp hplayers seat hseat)

theorem participant_amounts {amount : Seat → Int} {row : Seat} (hkeys : before.HasSeatKeys)
    (husers : Keyed.HasKeys Seat.userId before.seats) (hseat : seat ∈ before.seats)
    (hindex : row.seatIndex = seat.seatIndex) (huser : row.userId = seat.userId) :
    ∃ participant, buildParticipantSummary
        (before.seats.map fun seat => (seat.userId, amount seat)) (some before.buildContributionMap)
        row = participant ∧ participant.seatIndex = seat.seatIndex ∧
      participant.stackBefore = amount seat ∧ participant.stackAfter = row.stackAmount ∧
      participant.contributionAmount = seat.totalCommittedAmount ∧
      participant.payoutAmount =
        max 0 (row.stackAmount - (amount seat - seat.totalCommittedAmount)) := by
  have hbefore := amountFor_map amount husers hseat
  have hcontribution : amountFor before.buildContributionMap seat.seatIndex =
      some seat.totalCommittedAmount := amountFor_map Seat.totalCommittedAmount hkeys hseat
  refine ⟨_, rfl, hindex, ?_, rfl, ?_, ?_⟩
  all_goals simp only [buildParticipantSummary, hindex, huser, hbefore, hcontribution,
    Option.bind_some, Option.getD_some]
  split <;> omega

/-- The participants of `raked` tell the money if and only if what they had before the hand, less
what they put in, is what they had when the pots were paid. -/
theorem tellsTheMoney_iff {amount : Seat → Int} {put : Nat → Int} (hkeys : before.HasSeatKeys)
    (husers : Keyed.HasKeys Seat.userId before.seats)
    (hput : Pays (fun i => -put i) before last) (hnet : NetPaid last raked)
    (hplayers : raked.players = before.players) :
    TellsTheMoney raked (raked.buildParticipantSummaries
        (before.seats.map fun seat => (seat.userId, amount seat)) (some before.buildContributionMap)) ↔
      ∀ seat ∈ before.seats,
        amount seat - seat.totalCommittedAmount = seat.stackAmount - put seat.seatIndex := by
  obtain ⟨g, hseats, hg⟩ := exists_seat_before (hput.trans hnet.pays) hplayers
  have hrakedKeys : raked.HasSeatKeys := by
    unfold HasSeatKeys Keyed.HasKeys
    rw [hseats, List.map_map]
    exact (List.map_congr_left fun seat hseat => (hg seat hseat).1) ▸ hkeys
  constructor
  · intro htells seat hseat
    obtain ⟨hindex, huser, hstack⟩ := hg seat hseat
    obtain ⟨participant, hrow, hpindex, hbefore, hafter, hcontribution, hpayout⟩ :=
      @participant_amounts before seat amount _ hkeys husers hseat hindex huser
    have hmem : participant ∈ raked.buildParticipantSummaries
        (before.seats.map fun seat => (seat.userId, amount seat))
        (some before.buildContributionMap) := by
      rw [← hrow]
      exact List.mem_map_of_mem (mem_sortSeatsByIndex.mpr (hseats ▸ List.mem_map_of_mem hseat))
    have hpaid := htells.payouts participant hmem
    have hchange := htells.changes participant hmem
    rw [hpindex] at hpaid
    omega
  · intro hall
    have hpaid : ∀ row ∈ raked.seats, ∃ participant, buildParticipantSummary
        (before.seats.map fun seat => (seat.userId, amount seat))
        (some before.buildContributionMap) row = participant ∧
        participant.seatIndex = row.seatIndex ∧
        participant.payoutAmount = shareOf raked.resolvedPots row.seatIndex -
          rakeOf raked.resolvedPots row.seatIndex ∧
        participant.stackAfter - participant.stackBefore =
          participant.payoutAmount - participant.contributionAmount := by
      intro row hrow
      rw [hseats] at hrow
      obtain ⟨seat, hseat, rfl⟩ := List.mem_map.mp hrow
      obtain ⟨hindex, huser, hstack⟩ := hg seat hseat
      obtain ⟨participant, hrow, hpindex, hbefore, hafter, hcontribution, hpayout⟩ :=
        @participant_amounts before seat amount _ hkeys husers hseat hindex huser
      have hlevel := hall seat hseat
      have hnonneg := hnet.net_nonneg seat.seatIndex
      rw [hindex]
      refine ⟨participant, hrow, hpindex, ?_, ?_⟩
      all_goals omega
    refine ⟨fun participant hmem => ?_, ?_, fun participant hmem => ?_⟩
    · obtain ⟨row, hrow, rfl⟩ := List.mem_map.mp hmem
      obtain ⟨participant, hsame, hindex, hpayout, -⟩ := hpaid row (mem_sortSeatsByIndex.mp hrow)
      rw [hsame, hindex]
      exact hpayout
    · rw [← hnet.sum_net hrakedKeys, buildParticipantSummaries, List.map_map]
      refine ((sortSeatsByIndex_perm raked.seats).map _).sum_eq.trans ?_
      congr 1
      refine List.map_congr_left fun row hrow => ?_
      obtain ⟨participant, hsame, -, hpayout, -⟩ := hpaid row hrow
      rw [Function.comp_apply, hsame]
      exact hpayout
    · obtain ⟨row, hrow, rfl⟩ := List.mem_map.mp hmem
      obtain ⟨participant, hsame, -, -, hchange⟩ := hpaid row (mem_sortSeatsByIndex.mp hrow)
      rw [hsame]
      exact hchange

/-! ## The records and the money -/

theorem takeRake_isSettled (h : settled.isSettledHoldemState) (configured : RakePolicy) :
    (settled.takeRake configured).1.isSettledHoldemState := by
  obtain ⟨restacked, pots, hands, ⟨g, -, rfl⟩, heq, -⟩ := takeRake_restacked settled configured
  rw [heq]
  exact h

theorem persisted_agree_iff {action : Action} {put : Int} (hkeys : before.HasSeatKeys)
    (husers : Keyed.HasKeys Seat.userId before.seats)
    (hacted : ActedOut before action seat put last settled)
    (hsettled : settled.isSettledHoldemState) (configured : RakePolicy) :
    RecordsAgree (persistHoldemTransition configured before settled).1
        (persistHoldemTransition configured before settled).2 ↔
      (∀ row ∈ before.seats, row.totalCommittedAmount = 0) ∧
        (action = .fold ∨ action = .check) := by
  have hnet := hacted.settledHand.netPaid configured
  have hplayers := (takeRake_players settled configured).trans hacted.players
  have hput : Pays (fun i => -if seat.seatIndex = i then put else 0) before last :=
    hacted.pays.congr fun i => by unfold paysIn; split <;> simp
  have hsummary := @tellsTheMoney_iff _ _ _ Seat.stackAmount _ hkeys husers hput hnet hplayers
  have hevent := @tellsTheMoney_iff _ _ _
    (fun row => row.stackAmount + row.totalCommittedAmount) _ hkeys husers hput hnet hplayers
  have hrecord : (persistHoldemTransition configured before settled).2.settlement =
      some (settlementEvent before (settled.takeRake configured).1) :=
    if_pos (takeRake_isSettled hsettled configured)
  rw [← hacted.put_eq_zero]
  constructor
  · rintro ⟨hsummaryTells, event, hsettlement, heventTells, -⟩
    obtain rfl := Option.some.inj (hsettlement.symm.trans hrecord)
    have hnone := hevent.mp heventTells
    have hzero : put = 0 := by
      have hseat := hnone seat hacted.mem
      rw [if_pos rfl] at hseat
      omega
    refine ⟨fun row hrow => ?_, hzero⟩
    have hlevel := hsummary.mp hsummaryTells row hrow
    rw [hzero, ite_self] at hlevel
    omega
  · rintro ⟨htotals, rfl⟩
    have hsummaryTells := hsummary.mpr fun row hrow => by rw [htotals row hrow, ite_self]
    have heventTells := hevent.mpr fun row hrow => by rw [htotals row hrow, ite_self, add_zero]
    refine ⟨hsummaryTells, _, hrecord, heventTells, ?_⟩
    simp only [settlementEvent, persistHoldemTransition, buildHoldemHandSummary,
      buildParticipantSummaries, List.map_map]
    refine List.map_congr_left fun row hrow => ?_
    exact (heventTells.payouts _ (List.mem_map_of_mem hrow)).trans
      (hsummaryTells.payouts _ (List.mem_map_of_mem hrow)).symm

/-- **The history of a hand agrees with the money** exactly if the last action puts no chip in and
no seat had one in before. -/
theorem records_agree_iff {ending : HandEnd} {records : HandRecords}
    (hreach : Reachable sha256 before) (husers : Keyed.HasKeys Seat.userId before.seats)
    (hrecorded : Recorded sha256 before ending raked records) :
    RecordsAgree raked records ↔
      (∀ seat ∈ before.seats, seat.totalCommittedAmount = 0) ∧ ending.PutsNoChip := by
  have hsound := hreach.sound
  have hactedOut : ∀ {now seatIndex action amount settled},
      before.actOnHoldemSeat now seatIndex action amount = .ok settled →
      settled.isSettledHoldemState →
      ∃ seat put last, ActedOut before action seat put last settled := by
    intro now seatIndex action amount settled hact hsettled
    obtain ⟨seat, stage, acted, haccepted, -, -⟩ := actOnHoldemSeat_eq_ok.mp hact
    obtain ⟨prior, hbetting⟩ := hsound.hand haccepted.status
    exact exists_actedOut hbetting hact hsettled.1
  cases hrecorded with
  | atStart _ _ =>
      refine ⟨fun hagree => ?_, fun hend => hend.2.elim⟩
      obtain ⟨event, hnone, -⟩ := hagree.settlement
      cases hnone
  | byAction configured hact hsettled =>
      obtain ⟨seat, put, last, hacted⟩ := hactedOut hact hsettled
      exact persisted_agree_iff hsound.keys husers hacted hsettled configured
  | byTimeout configured hexpired hsettled =>
      rcases processExpiredHoldemTurn_cases hexpired with
        hnone | ⟨seatIndex, action, acted, hsome, hpassive, hact⟩
      · cases hnone
      obtain rfl := Option.some.inj hsome
      obtain ⟨seat, put, last, hacted⟩ := hactedOut hact hsettled
      rw [persisted_agree_iff hsound.keys husers hacted hsettled configured]
      exact and_congr_right fun _ => ⟨fun _ => trivial, fun _ => hpassive⟩

/-- After `operations` an action of the seat whose turn it is settles the hand. -/
def settlesAfter (table : Table) (operations : List Operation) (seatIndex : Nat) (action : Action)
    (check : Table → Table → Bool) : Bool :=
  match Transition.trace (step zeroHash) table operations with
  | .error _ => false
  | .ok (_, before) =>
      match before.actOnHoldemSeat 0 seatIndex action .missing with
      | .error _ => false
      | .ok settled => decide settled.isSettledHoldemState && check before settled

theorem exists_recorded {table : Table} {operations : List Operation} {seatIndex : Nat}
    {action : Action} {check : Table → Table → Bool} (hfresh : Fresh table)
    (h : settlesAfter table operations seatIndex action check = true) (configured : RakePolicy) :
    ∃ before settled, Reachable zeroHash before ∧
      Recorded zeroHash before (.action action) (persistHoldemTransition configured before settled).1
        (persistHoldemTransition configured before settled).2 ∧
      check before settled = true := by
  unfold settlesAfter at h
  split at h
  · cases h
  case h_2 events before htrace =>
    split at h
    · cases h
    case h_2 settled hact =>
      obtain ⟨hsettled, hcheck⟩ := (Bool.and_eq_true ..).mp h
      exact ⟨before, settled, ⟨table, events, hfresh, .of_trace htrace⟩,
        .byAction configured hact (of_decide_eq_true hsettled), hcheck⟩

/-- A hand that is played alone and checked down. -/
theorem records_agree_alone :
    ∃ before raked records, Reachable zeroHash before ∧
      Recorded zeroHash before (.action .check) raked records ∧ RecordsAgree raked records := by
  have hcheck : settlesAfter (createdTable .casual [samplePlayer 7 5000])
      (.start sampleSeed 0 :: List.replicate 3 (.act 0 .check .missing sampleRake 0)) 0 .check
      (fun before _ => decide (before.seats.map Seat.userId).Nodup &&
        before.seats.all fun seat => seat.totalCommittedAmount = 0) = true := by
    decide +kernel
  obtain ⟨before, settled, hreach, hrecorded, hplayed⟩ :=
    exists_recorded (createdTable_fresh .casual (by decide) (by decide)) hcheck sampleRake
  obtain ⟨hnodup, htotals⟩ := (Bool.and_eq_true ..).mp hplayed
  have husers : (before.seats.map Seat.userId).Nodup := of_decide_eq_true hnodup
  refine ⟨before, _, _, hreach, hrecorded,
    (records_agree_iff hreach husers hrecorded).mpr ⟨fun seat hseat => ?_,
      .inr rfl⟩⟩
  exact of_decide_eq_true (List.all_eq_true.mp htotals seat hseat)

/-- Heads-up the button folds its small blind: the summary pays out more than the pots hold. -/
theorem blinds_paid_twice :
    ∃ before raked records, Reachable zeroHash before ∧ Keyed.HasKeys Seat.userId before.seats ∧
      Recorded zeroHash before (.action .fold) raked records ∧ ¬RecordsAgree raked records := by
  have hcheck : settlesAfter (createdTable .cash [samplePlayer 7 5000, samplePlayer 8 5000])
      [.start sampleSeed 0] 0 .fold
      (fun before settled => decide (before.seats.map Seat.userId).Nodup &&
        decide (((persistHoldemTransition sampleRake before settled).2.summary.participants.map
            ParticipantSummary.payoutAmount).sum ≠
          potTotal (persistHoldemTransition sampleRake before settled).1.resolvedPots -
            rakeTotal (persistHoldemTransition sampleRake before settled).1.resolvedPots)) = true := by
    decide +kernel
  obtain ⟨before, settled, hreach, hrecorded, hplayed⟩ :=
    exists_recorded (createdTable_fresh .cash (by decide) (by decide)) hcheck sampleRake
  obtain ⟨hnodup, hmore⟩ := (Bool.and_eq_true ..).mp hplayed
  have husers : (before.seats.map Seat.userId).Nodup := of_decide_eq_true hnodup
  exact ⟨before, _, _, hreach, husers, hrecorded, fun hagree =>
    of_decide_eq_true hmore hagree.summary.total⟩

end Table

end RewardSystem.Holdem
