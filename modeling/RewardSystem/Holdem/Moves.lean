import Mathlib.Data.List.Dedup
import RewardSystem.Holdem.Hands

/-!
# What an accepted action does

An action folds, checks, or posts chips; then the hand moves on until somebody has to act or it is
settled.
-/

namespace RewardSystem.Holdem

open ApiError Loop

namespace Table

variable {now : Int} {state acted next : Table} {seat row : Seat} {seatIndex : Nat}
  {action : Action} {amount : AmountInput}

/-! ## Seats -/

/-- The unique key of `holdem_table_seats`. -/
def HasSeatKeys (state : Table) : Prop :=
  Keyed.HasKeys Seat.seatIndex state.seats

theorem mem_seats_of_find (h : state.findSeatByIndex seatIndex = some seat) : seat ∈ state.seats :=
  Keyed.mem_of_lookup h

theorem seatIndex_of_find (h : state.findSeatByIndex seatIndex = some seat) :
    seat.seatIndex = seatIndex :=
  Keyed.key_of_lookup h

theorem find_of_mem (hkeys : state.HasSeatKeys) (h : seat ∈ state.seats) :
    state.findSeatByIndex seat.seatIndex = some seat :=
  Keyed.lookup_of_mem hkeys h

theorem eq_of_seatIndex_eq (hkeys : state.HasSeatKeys) (hseat : seat ∈ state.seats)
    (hrow : row ∈ state.seats) (h : row.seatIndex = seat.seatIndex) : row = seat :=
  List.inj_on_of_nodup_map hkeys hrow hseat h

theorem mem_updateSeat {f : Seat → Seat} (hkeys : state.HasSeatKeys) (hseat : seat ∈ state.seats) :
    row ∈ (state.updateSeat seat.seatIndex f).seats ↔
      row = f seat ∨ (row ∈ state.seats ∧ row.seatIndex ≠ seat.seatIndex) := by
  unfold updateSeat
  simp only [Keyed.mem_modify]
  constructor
  · rintro (h | ⟨old, hold, hindex, rfl⟩)
    · exact .inr h
    · exact .inl (by rw [eq_of_seatIndex_eq hkeys hseat hold hindex])
  · rintro (rfl | h)
    · exact .inr ⟨seat, hseat, rfl, rfl⟩
    · exact .inl h

theorem forall_updateSeat {f : Seat → Seat} {P : Seat → Prop} (hkeys : state.HasSeatKeys)
    (hseat : seat ∈ state.seats) (hchanged : P (f seat))
    (hothers : ∀ row ∈ state.seats, row.seatIndex ≠ seat.seatIndex → P row) :
    ∀ row ∈ (state.updateSeat seat.seatIndex f).seats, P row := by
  intro row hrow
  rcases (mem_updateSeat hkeys hseat).mp hrow with rfl | ⟨hrow, hne⟩
  · exact hchanged
  · exact hothers row hrow hne

theorem HasSeatKeys.updateSeat {f : Seat → Seat} (hkeys : state.HasSeatKeys)
    (hf : ∀ row : Seat, (f row).seatIndex = row.seatIndex) :
    (state.updateSeat seatIndex f).HasSeatKeys :=
  Keyed.hasKeys_modify (fun row h => (hf row).trans h) hkeys

theorem updateSeat_congr {f g : Seat → Seat} (hkeys : state.HasSeatKeys)
    (hseat : seat ∈ state.seats) (h : f seat = g seat) :
    state.updateSeat seat.seatIndex f = state.updateSeat seat.seatIndex g := by
  unfold Table.updateSeat Keyed.modify
  congr 1
  refine List.map_congr_left fun row hrow => ?_
  by_cases hindex : row.seatIndex = seat.seatIndex
  · rw [if_pos hindex, if_pos hindex, eq_of_seatIndex_eq hkeys hseat hrow hindex, h]
  · rw [if_neg hindex, if_neg hindex]

theorem hasSeatKeys_map {f : Seat → Seat} (hkeys : state.HasSeatKeys)
    (hf : ∀ row : Seat, (f row).seatIndex = row.seatIndex) :
    Keyed.HasKeys Seat.seatIndex (state.seats.map f) := by
  have hmap : (state.seats.map f).map Seat.seatIndex = state.seats.map Seat.seatIndex := by
    rw [List.map_map]
    exact List.map_congr_left fun row _ => hf row
  unfold Keyed.HasKeys
  rw [hmap]
  exact hkeys

@[simp]
theorem postFromStack_seatIndex (transfer : Int) (seat : Seat) :
    (postFromStack transfer seat).seatIndex = seat.seatIndex := by
  unfold postFromStack
  split <;> rfl

/-! ## Moves -/

/-- What a call, a bet, a raise and an all-in have in common. -/
structure Posting where
  transfer : Int
  bet : Int
  raiseSize : Int
  acted : List Nat
  label : String

def postSeat (posting : Posting) (seat : Seat) : Seat :=
  { postFromStack posting.transfer seat with lastAction := some posting.label }

def post (state : Table) (seat : Seat) (posting : Posting) : Table :=
  { state.updateSeat seat.seatIndex (postSeat posting) with
    currentBet := posting.bet
    lastFullRaiseSize := posting.raiseSize
    actedSeatIndexes := posting.acted }.passTurn seat.seatIndex

/-- A posting that the rules allow. Who calls joins those who have acted; after any other posting
nobody but the poster has. -/
structure Posting.Legal (posting : Posting) (state : Table) (seat : Seat) : Prop where
  transfer_pos : 0 < posting.transfer
  transfer_le : posting.transfer ≤ seat.stackAmount
  bet_eq : posting.bet = max state.currentBet (seat.committedAmount + posting.transfer)
  matched : posting.transfer < seat.stackAmount →
    seat.committedAmount + posting.transfer = posting.bet
  raiseSize_ge : min state.lastFullRaiseSize state.bigBlind ≤ posting.raiseSize
  acted_called_or_reset :
    (posting.bet = state.currentBet ∧
      ∀ i, i ∈ posting.acted ↔ i ∈ state.actedSeatIndexes ∨ i = seat.seatIndex) ∨
    ∀ i, i ∈ posting.acted ↔ i = seat.seatIndex ∧ posting.transfer < seat.stackAmount

/-- What an accepted action of `seat` makes of the table before the hand moves on. -/
inductive Move (state : Table) (seat : Seat) : Table → Prop
  | fold : seat.committedAmount < state.currentBet → Move state seat (state.applyFold seat)
  | check {next : Table} : state.currentBet ≤ seat.committedAmount →
      state.applyCheck seat = .ok next → Move state seat next
  | post (posting : Posting) : posting.Legal state seat → Move state seat (state.post seat posting)

theorem fold_mem_availableActions (h : .fold ∈ state.availableActions seat) :
    seat.committedAmount < state.currentBet := by
  unfold availableActions toCall at h
  by_contra hle
  have hzero : ¬0 < max (state.currentBet - seat.committedAmount) 0 := by omega
  simp only [hzero, if_false, List.append_assoc, List.mem_append] at h
  rcases h with h | h | h | h
  · simp at h
  all_goals split at h <;> simp at h

theorem mem_resetActed (state : Table) (seatIndex i : Nat) :
    i ∈ (state.resetActedSeatsForNextResponse seatIndex).actedSeatIndexes ↔
      i = seatIndex ∧ ∃ row ∈ state.seats, row.seatIndex = i ∧ row.status = .active := by
  simp only [resetActedSeatsForNextResponse, List.mem_map, List.mem_filter, decide_eq_true_eq,
    mem_sortSeatsByIndex]
  constructor
  · rintro ⟨row, ⟨hrow, rfl, hstatus⟩, rfl⟩
    exact ⟨rfl, row, hrow, rfl, hstatus⟩
  · rintro ⟨rfl, row, hrow, hindex, hstatus⟩
    exact ⟨row, ⟨hrow, hindex, hstatus⟩, hindex⟩

theorem mem_markSeatActed (state : Table) (seatIndex i : Nat) :
    i ∈ (state.markSeatActed seatIndex).actedSeatIndexes ↔
      i ∈ state.actedSeatIndexes ∨ i = seatIndex := by
  simp only [markSeatActed, List.mem_insertionSort, List.mem_dedup, List.mem_insert_iff]
  exact or_comm

theorem postFromStack_of_pos {transfer : Int} (hpos : 0 < transfer) (hle : transfer ≤ seat.stackAmount) :
    postFromStack transfer seat =
      { seat with
        stackAmount := seat.stackAmount - transfer
        committedAmount := seat.committedAmount + transfer
        totalCommittedAmount := seat.totalCommittedAmount + transfer
        status := if seat.stackAmount - transfer = 0 then .allIn else seat.status } := by
  unfold postFromStack
  rw [if_neg (by omega), min_eq_right hle]

/-- The actions that the seat can take find it as the rules need it. -/
structure Facing (state : Table) (seat : Seat) : Prop where
  keys : state.HasSeatKeys
  mem : seat ∈ state.seats
  active : seat.status = .active
  stack_pos : 0 < seat.stackAmount
  committed_nonneg : 0 ≤ seat.committedAmount
  committed_le : seat.committedAmount ≤ state.currentBet
  raiseSize_nonneg : 0 ≤ state.lastFullRaiseSize

theorem applyCall_posts (hfacing : Facing state seat) (h : state.applyCall seat = .ok next) :
    ∃ posting : Posting, posting.Legal state seat ∧ next = state.post seat posting := by
  unfold applyCall toCall at h
  split at h
  · cases h
  case isFalse hcall =>
    injection h with h
    let transfer := min seat.stackAmount (state.currentBet - seat.committedAmount)
    let posting : Posting :=
      { transfer := transfer
        bet := state.currentBet
        raiseSize := state.lastFullRaiseSize
        acted := (state.markSeatActed seat.seatIndex).actedSeatIndexes
        label := "Call" }
    have hpos : 0 < transfer := by have := hfacing.stack_pos; omega
    have hsame : state.updateSeat seat.seatIndex
        (fun row => { postFromStack (max (state.currentBet - seat.committedAmount) 0) row with
          lastAction := some "Call" }) =
        state.updateSeat seat.seatIndex (postSeat posting) := by
      refine updateSeat_congr hfacing.keys hfacing.mem ?_
      have hmax : max (state.currentBet - seat.committedAmount) 0 =
          state.currentBet - seat.committedAmount := by omega
      have hmin : min seat.stackAmount transfer = transfer := by omega
      have hmin' : min seat.stackAmount (state.currentBet - seat.committedAmount) = transfer := rfl
      unfold postSeat postFromStack
      rw [hmax, if_neg (by omega), if_neg (by omega : ¬transfer ≤ 0), hmin, hmin']
    rw [hsame] at h
    refine ⟨posting, ?_, h.symm⟩
    exact
      { transfer_pos := hpos
        transfer_le := by simp only [posting, transfer]; omega
        bet_eq := by simp only [posting, transfer]; omega
        matched := by simp only [posting, transfer]; omega
        raiseSize_ge := by simp only [posting]; omega
        acted_called_or_reset := .inl ⟨rfl, fun i => mem_markSeatActed _ _ _⟩ }

theorem targetTotal_spec {target : Int} (hfacing : Facing state seat)
    (htarget : state.targetTotal seat action amount = .ok target)
    (hforward : seat.committedAmount < target) :
    (target < maximumRaiseTo seat → state.currentBet ≤ target) ∧
      min state.lastFullRaiseSize state.bigBlind ≤ state.nextFullRaiseSize action target := by
  have hnonneg := hfacing.committed_nonneg
  have hraise := hfacing.raiseSize_nonneg
  unfold targetTotal at htarget
  split at htarget
  case h_1 =>
      injection htarget with htarget
      refine ⟨fun h => absurd h (by omega), ?_⟩
      unfold nextFullRaiseSize
      simp only
      split_ifs <;> omega
  case h_2 =>
      split at htarget
      · cases htarget
      · obtain ⟨parsed, -, htarget⟩ := bind_eq_ok.mp htarget
        split at htarget
        · cases htarget
        · injection htarget with htarget
          refine ⟨fun _ => by omega, ?_⟩
          simp only [nextFullRaiseSize]
          omega
  case h_3 hallIn hbet =>
      split at htarget
      · cases htarget
      · obtain ⟨parsed, -, htarget⟩ := bind_eq_ok.mp htarget
        split at htarget
        · cases htarget
        · injection htarget with htarget
          refine ⟨fun _ => by omega, ?_⟩
          unfold nextFullRaiseSize
          split
          · contradiction
          · simp only
            omega
          · simp only
            split_ifs <;> omega

theorem applyBetOrRaise_posts (hfacing : Facing state seat)
    (h : state.applyBetOrRaise seat action amount = .ok next) :
    ∃ posting : Posting, posting.Legal state seat ∧ next = state.post seat posting := by
  unfold applyBetOrRaise at h
  obtain ⟨target, htarget, h⟩ := bind_eq_ok.mp h
  obtain ⟨_, hmax, h⟩ := bind_eq_ok.mp h
  obtain ⟨_, hforward, h⟩ := bind_eq_ok.mp h
  rw [throwIf_eq_ok, not_lt] at hmax
  rw [throwIf_eq_ok, not_le] at hforward
  injection h with h
  obtain ⟨hmatched, hraise⟩ := targetTotal_spec hfacing htarget hforward
  unfold maximumRaiseTo at hmax hmatched
  let posting : Posting :=
    { transfer := target - seat.committedAmount
      bet := max state.currentBet target
      raiseSize := state.nextFullRaiseSize action target
      acted := ({ state.updateSeat seat.seatIndex (fun row =>
          { postFromStack (target - seat.committedAmount) row with
            lastAction := some (wagerLabel action) }) with
          currentBet := if state.currentBet < target then target else state.currentBet
          lastFullRaiseSize := state.nextFullRaiseSize action target
        }.resetActedSeatsForNextResponse seat.seatIndex).actedSeatIndexes
      label := wagerLabel action }
  have hbet : (if state.currentBet < target then target else state.currentBet) =
      max state.currentBet target := by
    split <;> omega
  have hnext : next = state.post seat posting := by
    rw [← h]
    simp only [Table.post, posting, hbet]
    rfl
  have hposted : (postSeat posting seat).status = .active ↔
      posting.transfer < seat.stackAmount := by
    unfold postSeat
    rw [postFromStack_of_pos (by simp only [posting]; omega) (by simp only [posting]; omega)]
    simp only [hfacing.active, posting]
    split <;> simp <;> omega
  refine ⟨posting, ?_, hnext⟩
  refine
    { transfer_pos := by simp only [posting]; omega
      transfer_le := by simp only [posting]; omega
      bet_eq := by simp only [posting]; omega
      matched := fun hlt => by simp only [posting] at hlt ⊢; have := hmatched (by omega); omega
      raiseSize_ge := hraise
      acted_called_or_reset := .inr fun i => ?_ }
  rw [← hposted]
  simp only [posting, mem_resetActed]
  constructor
  · rintro ⟨rfl, row, hrow, hindex, hstatus⟩
    refine ⟨rfl, ?_⟩
    rcases (mem_updateSeat hfacing.keys hfacing.mem).mp hrow with rfl | ⟨-, hne⟩
    · exact hstatus
    · exact absurd hindex hne
  · rintro ⟨rfl, hstatus⟩
    exact ⟨rfl, _, (mem_updateSeat hfacing.keys hfacing.mem).mpr (.inl rfl), by simp, hstatus⟩

/-- **What an action does.** -/
theorem applySeatAction_move (hfacing : Facing state seat)
    (havailable : action ∈ state.availableActions seat)
    (h : state.applySeatAction seat action amount = .ok next) : Move state seat next := by
  unfold applySeatAction at h
  split at h
  case h_1 =>
      injection h with h
      exact h ▸ .fold (fold_mem_availableActions havailable)
  case h_2 =>
      refine .check ?_ h
      unfold applyCheck at h
      split at h
      · cases h
      · omega
  case h_3 =>
      obtain ⟨posting, hlegal, rfl⟩ := applyCall_posts hfacing h
      exact .post posting hlegal
  case h_4 =>
      obtain ⟨posting, hlegal, rfl⟩ := applyBetOrRaise_posts hfacing h
      exact .post posting hlegal

theorem applySeatAction_posts (hfacing : Facing state seat) (hfold : action ≠ .fold)
    (hcheck : action ≠ .check) (h : state.applySeatAction seat action amount = .ok next) :
    ∃ posting : Posting, posting.Legal state seat ∧ next = state.post seat posting := by
  unfold applySeatAction at h
  split at h
  case h_1 => exact absurd rfl hfold
  case h_2 => exact absurd rfl hcheck
  case h_3 => exact applyCall_posts hfacing h
  case h_4 => exact applyBetOrRaise_posts hfacing h

theorem applyCheck_eq_ok : state.applyCheck seat = .ok next ↔
    state.currentBet ≤ seat.committedAmount ∧
      next = ((state.updateSeat seat.seatIndex fun row =>
        { row with lastAction := some "Check" }).markSeatActed seat.seatIndex).passTurn
          seat.seatIndex := by
  unfold applyCheck
  split
  · simp only [reduceCtorEq, false_iff, not_and]
    omega
  · simp only [Except.ok.injEq, eq_comm, iff_and_self]
    omega

theorem Move.status (h : Move state seat next) : next.status = state.status := by
  cases h with
  | fold _ => rfl
  | check _ hcheck =>
      obtain ⟨-, rfl⟩ := applyCheck_eq_ok.mp hcheck
      rfl
  | post _ _ => rfl

/-! ## Cards -/

theorem takeNextCard_eq_ok {card : Card} : state.takeNextCard = .ok (card, next) ↔
    state.deck[state.nextCardIndex]? = some card ∧
      next = { state with nextCardIndex := state.nextCardIndex + 1 } := by
  unfold takeNextCard
  split
  case h_1 hnone => simp [hnone]
  case h_2 found hfound => simp [hfound, eq_comm]

theorem dealCommunityCards_eq_ok {count : Nat} : state.dealCommunityCards count = .ok next ↔
    (count = 0 ∨ state.nextCardIndex + count ≤ state.deck.length) ∧
      next = { state with
        communityCards :=
          state.communityCards ++ (state.deck.drop state.nextCardIndex).take count
        nextCardIndex := state.nextCardIndex + count } := by
  induction count generalizing state with
  | zero => simp [dealCommunityCards, eq_comm]
  | succ count ih =>
      simp only [dealCommunityCards, bind_eq_ok, Prod.exists, takeNextCard_eq_ok]
      constructor
      · rintro ⟨card, _, ⟨hcard, rfl⟩, h⟩
        obtain ⟨hcount, rfl⟩ := ih.mp h
        obtain ⟨hlt, hget⟩ := List.getElem?_eq_some_iff.mp hcard
        refine ⟨.inr (by rcases hcount with rfl | h <;> simp only at * <;> omega), ?_⟩
        rw [List.drop_eq_getElem_cons hlt, hget]
        simp [Nat.add_assoc, Nat.add_comm 1]
      · rintro ⟨hcount, rfl⟩
        have hlt : state.nextCardIndex < state.deck.length := by omega
        refine ⟨state.deck[state.nextCardIndex], _, ⟨List.getElem?_eq_getElem hlt, rfl⟩, ?_⟩
        refine ih.mpr ⟨.inr (by simp only; omega), ?_⟩
        have hdrop : (state.deck.drop state.nextCardIndex).take (count + 1) =
            state.deck[state.nextCardIndex] ::
              (state.deck.drop (state.nextCardIndex + 1)).take count := by
          rw [List.drop_eq_getElem_cons hlt, List.take_succ_cons]
        simp [hdrop, Nat.add_assoc, Nat.add_comm 1]

/-! ## How the hand moves on -/

theorem StreetDealt.status (h : StreetDealt state next) : next.status = state.status := by
  obtain ⟨_, _, _, _, -, -, hdealt, rfl⟩ := h.exists_deal
  obtain ⟨-, rfl⟩ := dealCommunityCards_eq_ok.mp hdealt
  rfl

/-- Somebody has to act in `state`, or the hand is settled from there. -/
inductive Ending (now : Int) (state : Table) : Table → Prop
  | playing : ¬state.hasRoundCompleted →
      state.isSoloHoldemState ∨ 2 ≤ state.listNonFoldedSeats.length → Ending now state state
  | byFold {settled : Table} (stage : Street) : ¬state.isSoloHoldemState →
      state.listNonFoldedSeats.length ≤ 1 → state.settleByFold now stage = .ok settled →
      Ending now state settled
  | showdown {settled : Table} : state.hasRoundCompleted →
      state.isSoloHoldemState ∨ 2 ≤ state.listNonFoldedSeats.length →
      state.settleShowdown now = .ok settled → Ending now state settled

theorem notFoldedOut_iff (state : Table) :
    ¬(¬state.isSoloHoldemState ∧ state.listNonFoldedSeats.length ≤ 1) ↔
      state.isSoloHoldemState ∨ 2 ≤ state.listNonFoldedSeats.length := by
  rw [not_and_or, not_not, not_le]
  rfl

/-- The state in which the last turn of the loop begins: `I` holds there, or the hand was settled by
the turn before. -/
def Reaches (now : Int) (I : Table → Prop) (state : Table) : Prop :=
  (state.status = .active ∧ I state) ∨
    ∃ before, before.status = .active ∧ I before ∧ before.hasRoundCompleted ∧
      (before.isSoloHoldemState ∨ 2 ≤ before.listNonFoldedSeats.length) ∧
      before.settleShowdown now = .ok state

theorem reaches_again {I : Table → Prop}
    (hstreet : ∀ s t, I s → s.status = .active → s.hasRoundCompleted → StreetDealt s t →
      t.status = .active ∧ I t)
    (s s' : Table × Street) (hs : Reaches now I s.1) (h : progressionTurn now s = .again s') :
    Reaches now I s'.1 := by
  obtain ⟨state, stage⟩ := s
  obtain ⟨next, nextStage⟩ := s'
  obtain ⟨hactive, hround, hdeal⟩ := progressionTurn_again h
  have hfold : state.isSoloHoldemState ∨ 2 ≤ state.listNonFoldedSeats.length := by
    rw [← notFoldedOut_iff]
    intro hfold
    simp [progressionTurn, hactive, hfold] at h
  rcases hs with ⟨-, hI⟩ | ⟨before, -, -, -, -, hsettled⟩
  · rcases dealNextStreet_cases hdeal with hdealt | hsettled
    · exact .inl (hstreet state next hI hactive hround hdealt)
    · exact .inr ⟨state, hactive, hI, hround, hfold, hsettled⟩
  · have hwaiting : state.status = .waiting := settleShowdown_status hsettled
    rw [hwaiting] at hactive
    cases hactive

theorem progression_cases {I : Table → Prop} {stage : Street}
    (hstreet : ∀ s t, I s → s.status = .active → s.hasRoundCompleted → StreetDealt s t →
      t.status = .active ∧ I t)
    (hs : I state) (hactive : state.status = .active)
    (h : state.resolveTerminalAndStreetProgression now stage = .ok next) :
    ∃ last, I last ∧ last.status = .active ∧ Ending now last next := by
  have hrun : Loop.run (progressionTurn now) 5 (state, stage) = some (.ok next) := by
    rw [← h]
    exact (Option.some_get _).symm
  obtain ⟨⟨last, lastStage⟩, hlast, hdone⟩ :=
    exists_last_turn (I := fun s => Reaches now I s.1) (reaches_again hstreet)
      (.inl ⟨hactive, hs⟩) hrun
  rcases hlast with ⟨hstatus, hI⟩ | ⟨before, hstatus, hI, hround, hfold, hsettled⟩
  · refine ⟨last, hI, hstatus, ?_⟩
    change last.status = .active at hstatus
    unfold progressionTurn at hdone
    simp only at hdone
    split_ifs at hdone with hwaiting hfold hround hriver
    · exact absurd hstatus hwaiting
    · injection hdone with hdone
      exact .byFold lastStage hfold.1 hfold.2 hdone
    · injection hdone with hdone
      exact .showdown hround ((notFoldedOut_iff last).mp hfold) hdone
    · cases hdeal : last.dealNextStreet now with
      | error e => simp [hdeal] at hdone
      | ok dealt => simp [hdeal] at hdone
    · injection hdone with hdone
      injection hdone with hdone
      exact hdone ▸ .playing hround ((notFoldedOut_iff last).mp hfold)
  · have hwaiting : last.status = .waiting := settleShowdown_status hsettled
    have hdone' : last = next := by
      simpa [progressionTurn, hwaiting] using hdone
    exact ⟨before, hI, hstatus, .showdown hround hfold (hdone' ▸ hsettled)⟩

structure Accepted (state : Table) (seatIndex : Nat) (action : Action) (seat : Seat)
    (stage : Street) : Prop where
  status : state.status = .active
  stage : state.stage = some stage
  find : state.findSeatByIndex seatIndex = some seat
  pending : state.pendingActorSeatIndex = some seatIndex
  active : seat.status = .active
  available : action ∈ state.availableActions seat

theorem actingSeat_eq_ok {stage : Street} :
    state.actingSeat seatIndex action = .ok (seat, stage) ↔
      Accepted state seatIndex action seat stage := by
  constructor
  · intro h
    unfold actingSeat at h
    split at h
    case h_1 found hstatus hstage =>
        split at h
        · cases h
        case h_2 row hrow =>
            obtain ⟨_, hpending, h⟩ := bind_eq_ok.mp h
            obtain ⟨_, hactive, h⟩ := bind_eq_ok.mp h
            rw [throwIf_eq_ok, not_not] at hpending hactive
            have hindex := seatIndex_of_find hrow
            split at h
            · cases h
            case h_2 availability havailability =>
                obtain ⟨_, havailable, h⟩ := bind_eq_ok.mp h
                rw [throwIf_eq_ok, not_not] at havailable
                injection h with h
                obtain ⟨rfl, rfl⟩ := Prod.mk.inj h
                have hactions : availability.actions = state.availableActions row := by
                  unfold resolveHoldemActionAvailability at havailability
                  simp only [hstatus, hpending, ne_eq, not_true_eq_false, or_self, if_false,
                    hindex, hrow, hactive] at havailability
                  injection havailability with havailability
                  rw [← havailability]
                exact ⟨hstatus, hstage, hrow, hindex ▸ hpending, hactive, hactions ▸ havailable⟩
    · cases h
  · intro h
    have hindex := seatIndex_of_find h.find
    simp [actingSeat, h.status, h.stage, h.find, hindex, h.pending, h.active,
      resolveHoldemActionAvailability, h.available, throwIf, bind, Except.bind]

theorem actOnHoldemSeat_eq_ok :
    state.actOnHoldemSeat now seatIndex action amount = .ok next ↔
      ∃ seat stage acted, Accepted state seatIndex action seat stage ∧
        state.applySeatAction seat action amount = .ok acted ∧
        acted.resolveTerminalAndStreetProgression now stage = .ok next := by
  unfold actOnHoldemSeat
  simp only [bind_eq_ok, Prod.exists, actingSeat_eq_ok]
  constructor
  · rintro ⟨seat, stage, haccepted, acted, hacted, h⟩
    exact ⟨seat, stage, acted, haccepted, hacted, h⟩
  · rintro ⟨seat, stage, acted, haccepted, hacted, h⟩
    exact ⟨seat, stage, haccepted, acted, hacted, h⟩

end Table

end RewardSystem.Holdem
