import RewardSystem.Holdem.Engine

/-!
# Playing a hand
-/

namespace RewardSystem.Holdem

open ApiError Loop

def Street.turnsLeft : Street → Nat
  | .preflop => 4
  | .flop => 3
  | .turn => 2
  | .river => 1
  | .showdown => 1

theorem Street.turnsLeft_pos (stage : Street) : 0 < stage.turnsLeft := by
  cases stage <;> simp [Street.turnsLeft]

namespace Table

variable {now : Int}

/-! ## The progression loop -/

@[simp]
theorem closeHand_status (now : Int) (stage : Street) (potAmount : Int) (revealed winners : List Nat)
    (pots : List Pot) (state : Table) :
    (closeHand now stage potAmount revealed winners pots state).status = .waiting :=
  rfl

theorem settleShowdown_status {state settled : Table} (h : state.settleShowdown now = .ok settled) :
    settled.status = .waiting := by
  unfold settleShowdown at h
  simp only at h
  split at h
  · cases h
  · obtain ⟨shown, -, h⟩ := bind_eq_ok.mp h
    obtain ⟨paid, -, h⟩ := bind_eq_ok.mp h
    injection h with h
    rw [← h, closeHand_status]

structure StreetDealt (state next : Table) : Prop where
  exists_deal : ∃ currentStage count stage dealt, state.stage = some currentStage ∧
    nextStreet currentStage = some (count, stage) ∧
    state.dealCommunityCards count = .ok dealt ∧ next = dealt.openStreet stage

theorem dealNextStreet_cases {state next : Table} (h : state.dealNextStreet now = .ok next) :
    StreetDealt state next ∨ state.settleShowdown now = .ok next := by
  unfold dealNextStreet at h
  cases hstage : state.stage with
  | none => simp [hstage] at h
  | some currentStage =>
      simp only [hstage] at h
      cases hnext : nextStreet currentStage with
      | none => exact .inr (by simpa [hnext] using h)
      | some street =>
          simp only [hnext] at h
          obtain ⟨dealt, hdealt, h⟩ := bind_eq_ok.mp h
          injection h with h
          exact .inl ⟨currentStage, street.1, street.2, dealt, hstage, hnext, hdealt, h.symm⟩

/-- How often the loop can go round at most. -/
def turnsLeft (state : Table) : Nat :=
  match state.status with
  | .waiting => 0
  | .active => (state.stage.map Street.turnsLeft).getD 1

theorem turnsLeft_le (state : Table) : state.turnsLeft ≤ 4 := by
  unfold turnsLeft
  split
  · omega
  · rcases state.stage with - | stage
    · simp
    · cases stage <;> simp [Street.turnsLeft]

theorem turnsLeft_openStreet_le (state : Table) (stage : Street) :
    (state.openStreet stage).turnsLeft ≤ stage.turnsLeft := by
  unfold turnsLeft
  split
  · exact Nat.zero_le _
  · simp [openStreet, resetStreetCommitments]

theorem StreetDealt.turnsLeft_lt {state next : Table} (h : StreetDealt state next)
    (hactive : state.status = .active) : next.turnsLeft < state.turnsLeft := by
  obtain ⟨currentStage, count, stage, dealt, hstage, hnext, -, rfl⟩ := h.exists_deal
  have hle := turnsLeft_openStreet_le dealt stage
  have hstate : state.turnsLeft = currentStage.turnsLeft := by simp [turnsLeft, hactive, hstage]
  have hlt : stage.turnsLeft < currentStage.turnsLeft := by
    cases currentStage <;> simp [nextStreet] at hnext <;> obtain ⟨-, rfl⟩ := hnext <;>
      simp [Street.turnsLeft]
  omega

theorem progressionTurn_again {state next : Table} {currentStage nextStage : Street}
    (h : progressionTurn now (state, currentStage) = .again (next, nextStage)) :
    state.status = .active ∧ state.hasRoundCompleted ∧ state.dealNextStreet now = .ok next := by
  unfold progressionTurn at h
  simp only at h
  split_ifs at h with hstatus hfold hround hriver
  · exact ⟨by simpa using hstatus, by simpa using hround, by
      cases hdeal : state.dealNextStreet now with
      | error e => simp [hdeal] at h
      | ok dealt => simp_all⟩

theorem progressionTurn_falls (s s' : Table × Street) (h : progressionTurn now s = .again s') :
    s'.1.turnsLeft < s.1.turnsLeft := by
  obtain ⟨state, currentStage⟩ := s
  obtain ⟨next, nextStage⟩ := s'
  obtain ⟨hactive, -, hdeal⟩ := progressionTurn_again h
  rcases dealNextStreet_cases hdeal with hdealt | hsettled
  · exact hdealt.turnsLeft_lt hactive
  · have hnext : next.turnsLeft = 0 := by simp [turnsLeft, settleShowdown_status hsettled]
    have hstate : 0 < state.turnsLeft := by
      unfold turnsLeft
      simp only [hactive]
      rcases state.stage with - | stage
      · simp
      · exact stage.turnsLeft_pos
    simp only [hnext]
    exact hstate

theorem progression_ends (state : Table) (currentStage : Street) :
    ∃ result, Loop.run (progressionTurn now) 5 (state, currentStage) = some result :=
  exists_run_of_measure (fun s => s.1.turnsLeft) progressionTurn_falls
    (by have := state.turnsLeft_le; simp only; omega)

/-- The loop of `resolveTerminalAndStreetProgression`, which goes round at most five times. -/
def resolveTerminalAndStreetProgression (now : Int) (state : Table) (currentStage : Street) :
    Except ApiError Table :=
  (Loop.run (progressionTurn now) 5 (state, currentStage)).get
    (Option.isSome_iff_exists.mpr (progression_ends state currentStage))

end Table

/-! ## What a seat may do -/

/-- The amount in a request: absent or empty, not a number, or read by `toDecimal`. -/
inductive AmountInput where
  | missing
  | unreadable
  | value (amount : Decimal ℚ)

/-- A positive amount with at most two decimal places. -/
def parseTargetAmount (amount : AmountInput) (label : String) : Except ApiError Int :=
  let invalid : Except ApiError Int := .error (.badRequest ("Invalid " ++ label ++ " amount."))
  match amount with
  | .missing => .error (.badRequest (label ++ " amount is required."))
  | .value (.finite target) =>
      if target ≤ 0 ∨ (100 * target).den ≠ 1 then invalid else .ok (100 * target).num
  | _ => invalid

structure ActionAvailability where
  actions : List Action
  toCall : Int
  currentBet : Int
  minimumRaiseTo : Option Int
  maximumRaiseTo : Option Int
  minimumBetTo : Int
  deriving DecidableEq, Repr

namespace Table

def toCall (state : Table) (seat : Seat) : Int :=
  max (state.currentBet - seat.committedAmount) 0

def minimumRaiseTo (state : Table) : Int :=
  if 0 < state.currentBet then state.currentBet + state.lastFullRaiseSize else state.bigBlind

def maximumRaiseTo (seat : Seat) : Int :=
  seat.committedAmount + seat.stackAmount

def availableActions (state : Table) (seat : Seat) : List Action :=
  let staked := ¬state.isSoloHoldemState ∧ 0 < seat.stackAmount
  (if 0 < state.toCall seat then [.fold, .call] else [.check]) ++
    (if staked ∧ state.currentBet = 0 ∧ state.bigBlind ≤ maximumRaiseTo seat then [.bet] else []) ++
    (if staked ∧ 0 < state.currentBet ∧ state.minimumRaiseTo ≤ maximumRaiseTo seat then [.raise]
      else []) ++
    (if staked then [.allIn] else [])

def resolveHoldemActionAvailability (state : Table) (seatIndex : Nat) :
    Option ActionAvailability :=
  if state.status ≠ .active ∨ state.pendingActorSeatIndex ≠ some seatIndex then
    none
  else
    match state.findSeatByIndex seatIndex with
    | none => none
    | some seat =>
        if seat.status ≠ .active then
          none
        else
          some
            { actions := state.availableActions seat
              toCall := state.toCall seat
              currentBet := state.currentBet
              minimumRaiseTo :=
                if 0 < state.currentBet ∧ state.minimumRaiseTo ≤ maximumRaiseTo seat then
                  some state.minimumRaiseTo
                else
                  none
              maximumRaiseTo :=
                if 0 < seat.stackAmount then some (maximumRaiseTo seat) else none
              minimumBetTo := state.bigBlind }

def resolveHoldemTimeoutAction (state : Table) (seatIndex : Nat) : Option Action :=
  match state.resolveHoldemActionAvailability seatIndex with
  | none => none
  | some availability =>
      if .check ∈ availability.actions then some .check
      else if .fold ∈ availability.actions then some .fold
      else none

/-! ## The actions -/

/-- The turn goes on to the next seat that can act. -/
def passTurn (state : Table) (seatIndex : Nat) : Table :=
  { state with pendingActorSeatIndex := state.resolveNextActionableSeatIndex seatIndex }

def applyFold (state : Table) (seat : Seat) : Table :=
  (state.updateSeat seat.seatIndex fun seat =>
    { seat with status := .folded, lastAction := some "Fold" }).passTurn seat.seatIndex

def applyCheck (state : Table) (seat : Seat) : Except ApiError Table :=
  if seat.committedAmount < state.currentBet then
    .error (.conflict "You cannot check while facing a bet.")
  else
    .ok (((state.updateSeat seat.seatIndex fun seat =>
      { seat with lastAction := some "Check" }).markSeatActed seat.seatIndex).passTurn seat.seatIndex)

def applyCall (state : Table) (seat : Seat) : Except ApiError Table :=
  if state.toCall seat ≤ 0 then
    .error (.conflict "There is nothing to call.")
  else
    .ok (((state.updateSeat seat.seatIndex fun row =>
      { postFromStack (state.toCall seat) row with
        lastAction := some "Call" }).markSeatActed seat.seatIndex).passTurn seat.seatIndex)

/-- The total that a bet, a raise or an all-in brings the seat to. -/
def targetTotal (state : Table) (seat : Seat) (action : Action) (amount : AmountInput) :
    Except ApiError Int :=
  match action with
  | .allIn => .ok (maximumRaiseTo seat)
  | .bet =>
      if 0 < state.currentBet then
        .error (.conflict "Use raise when betting is already open.")
      else do
        let target ← parseTargetAmount amount "Bet"
        if target < state.bigBlind then
          .error (.conflict "Bet amount is below the big blind.")
        else
          .ok target
  | _ =>
      if state.currentBet ≤ 0 then
        .error (.conflict "Use bet when no one has opened the action.")
      else do
        let target ← parseTargetAmount amount "Raise"
        if target < state.currentBet + state.lastFullRaiseSize then
          .error (.conflict "Raise amount is below the minimum raise.")
        else
          .ok target

/-- The size of the last full raise after a bet, a raise or an all-in to `target`. -/
def nextFullRaiseSize (state : Table) (action : Action) (target : Int) : Int :=
  let raiseSize := target - state.currentBet
  match action with
  | .bet => target
  | .raise => raiseSize
  | _ =>
      if state.currentBet = 0 ∧ state.bigBlind ≤ target then target
      else if 0 < state.currentBet ∧ state.lastFullRaiseSize ≤ raiseSize then raiseSize
      else state.lastFullRaiseSize

def wagerLabel : Action → String
  | .bet => "Bet"
  | .raise => "Raise"
  | _ => "All-in"

def applyBetOrRaise (state : Table) (seat : Seat) (action : Action) (amount : AmountInput) :
    Except ApiError Table := do
  let target ← state.targetTotal seat action amount
  throwIf (maximumRaiseTo seat < target)
    (.conflict "Action exceeds the chips available in front of you.")
  throwIf (target ≤ seat.committedAmount)
    (.conflict "Action amount must move the current bet forward.")
  let posted := state.updateSeat seat.seatIndex fun row =>
    { postFromStack (target - seat.committedAmount) row with
      lastAction := some (wagerLabel action) }
  let raised :=
    { posted with
      currentBet := if state.currentBet < target then target else state.currentBet
      lastFullRaiseSize := state.nextFullRaiseSize action target }
  .ok ((raised.resetActedSeatsForNextResponse seat.seatIndex).passTurn seat.seatIndex)

/-- The action itself, before the hand moves on. -/
def applySeatAction (state : Table) (seat : Seat) (action : Action) (amount : AmountInput) :
    Except ApiError Table :=
  match action with
  | .fold => .ok (state.applyFold seat)
  | .check => state.applyCheck seat
  | .call => state.applyCall seat
  | _ => state.applyBetOrRaise seat action amount

/-- The seat whose turn it is, on the street that is played. -/
def actingSeat (state : Table) (seatIndex : Nat) (action : Action) :
    Except ApiError (Seat × Street) :=
  match state.status, state.stage with
  | .active, some stage =>
      match state.findSeatByIndex seatIndex with
      | none => .error (.conflict "It is not your turn to act.")
      | some seat => do
          throwIf (state.pendingActorSeatIndex ≠ some seat.seatIndex)
            (.conflict "It is not your turn to act.")
          throwIf (seat.status ≠ .active) (.conflict "This seat cannot act right now.")
          match state.resolveHoldemActionAvailability seat.seatIndex with
          | none => .error (.conflict "That holdem action is not available right now.")
          | some availability => do
              throwIf (action ∉ availability.actions)
                (.conflict "That holdem action is not available right now.")
              .ok (seat, stage)
  | _, _ => .error (.conflict "There is no active holdem hand at this table.")

def actOnHoldemSeat (now : Int) (state : Table) (seatIndex : Nat) (action : Action)
    (amount : AmountInput) : Except ApiError Table := do
  let (seat, stage) ← state.actingSeat seatIndex action
  let acted ← state.applySeatAction seat action amount
  acted.resolveTerminalAndStreetProgression now stage

end Table

end RewardSystem.Holdem
