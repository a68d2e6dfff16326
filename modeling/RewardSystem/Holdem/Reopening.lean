import RewardSystem.Holdem.HandEnds

/-!
# Reopening the betting

Every bet, raise and all-in asks the other seats to act again, whether or not it raises the bet in
full. Only an all-in can fall short of a full raise, so without such an all-in a seat that has acted
is asked again after a raise, and may itself raise only after a full one.
-/

namespace RewardSystem.Holdem

open ApiError Transition

namespace Table

variable {sha256 : HashFunction} {now prior : Int} {state next acted : Table} {seat : Seat}
  {action : Action} {amount : AmountInput} {b : Nat} {bet size : Int}

/-! ## Asked again -/

structure SameRound (first state : Table) : Prop where
  active : first.status = .active
  status : state.status = .active
  handNumber : state.handNumber = first.handNumber
  stage : state.stage = first.stage

/-- The seat at `b` acts, or its turn has expired. -/
def ActsBy (b : Nat) (event : Event Table Operation) : Prop :=
  match event.label with
  | .act seatIndex _ _ _ _ => seatIndex = b
  | .timeout _ now => event.before.pendingActorSeatIndex = some b ∧
      event.before.processExpiredHoldemTurn now ≠ .ok none
  | _ => False

/-- Since `acted`, where the seat at `b` has acted, the betting has been reopened for it by a raise
only: it is asked to act if the bet has increased, and offered a raise if the bet has increased by a
full raise. -/
structure ReopenedByRaise (b : Nat) (acted state : Table) : Prop where
  asked : ∀ availability, state.resolveHoldemActionAvailability b = some availability →
    acted.currentBet < state.currentBet
  offered : ∀ availability, state.resolveHoldemActionAvailability b = some availability →
    .raise ∈ availability.actions →
      acted.currentBet + acted.lastFullRaiseSize ≤ state.currentBet

/-- A seat goes all-in for less than a full raise, and another seat that has acted and can act again
is asked to: though the bet has not increased, or with the chips for a raise. -/
def ReopensShort (event : Event Table Operation) : Prop :=
  match event.label with
  | .act seatIndex .allIn _ _ _ => ∃ seat, event.before.findSeatByIndex seatIndex = some seat ∧
      maximumRaiseTo seat < event.before.currentBet + event.before.lastFullRaiseSize ∧
      ∃ row ∈ event.before.seats, row.seatIndex ≠ seatIndex ∧ isSeatActionable row ∧
        row.seatIndex ∈ event.before.actedSeatIndexes ∧
        (maximumRaiseTo seat ≤ event.before.currentBet ∨
          maximumRaiseTo seat + event.before.lastFullRaiseSize ≤ maximumRaiseTo row)
  | _ => False

/-! ## What a wager raises the bet to -/

structure OpensAtBigBlind (state : Table) : Prop where
  bigBlind_pos : 0 < state.bigBlind
  opens : state.status = .active → state.currentBet = 0 → state.lastFullRaiseSize = state.bigBlind

theorem dealHand_bigBlind {fairnessSeed : FairnessSeedInput}
    (h : state.dealHand sha256 fairnessSeed = .ok next) :
    next.bigBlind = state.bigBlind ∧ next.lastFullRaiseSize = next.bigBlind := by
  obtain ⟨dealer, smallBlind, bigBlind, shuffled, withCards, hopens, rfl⟩ := dealHand_eq_ok.mp h
  have hcards : withCards.bigBlind = state.bigBlind ∧
      withCards.lastFullRaiseSize = withCards.bigBlind := by
    obtain ⟨cards, n, hwith⟩ := hopens.seats
    rw [hwith]
    exact ⟨rfl, rfl⟩
  change withCards.postBlinds.bigBlind = state.bigBlind ∧
    withCards.postBlinds.lastFullRaiseSize = withCards.postBlinds.bigBlind
  unfold postBlinds
  split
  · split
    · exact hcards
    · exact hcards
  · exact hcards

theorem opensAtBigBlind_kept : Kept sha256 OpensAtBigBlind where
  move := by
    intro prior state next seat h hturn hmove
    cases hmove with
    | fold _ => exact ⟨h.bigBlind_pos, h.opens⟩
    | check _ hcheck =>
        obtain ⟨-, rfl⟩ := applyCheck_eq_ok.mp hcheck
        exact ⟨h.bigBlind_pos, h.opens⟩
    | post posting hlegal =>
        refine ⟨h.bigBlind_pos, fun _ hbet => ?_⟩
        have hnonneg := (hturn.betting.level seat hturn.mem).committed_nonneg
        have hpos := hlegal.transfer_pos
        have heq := hlegal.bet_eq
        change posting.bet = 0 at hbet
        omega
  street := by
    intro prior state next h _ _ _ hstreet
    obtain ⟨_, _, _, _, -, -, hdealt, rfl⟩ := hstreet.exists_deal
    obtain ⟨-, rfl⟩ := dealCommunityCards_eq_ok.mp hdealt
    exact ⟨h.bigBlind_pos, fun _ _ => rfl⟩
  opens := by
    intro rest dealt fairnessSeed h _ _ hdeal
    obtain ⟨hbigBlind, hsize⟩ := dealHand_bigBlind hdeal
    exact ⟨hbigBlind ▸ h.bigBlind_pos, fun _ _ => hsize⟩
  settled := by
    intro prior now state next h _ _ hending hwaiting
    refine ⟨?_, fun hactive => absurd (hwaiting.symm.trans hactive) (by simp)⟩
    rcases hending.settles with ⟨rfl, -⟩ | hsettles
    · exact h.bigBlind_pos
    · exact hsettles.bigBlind ▸ h.bigBlind_pos
  raked := by
    intro state restacked pots hands h hwaiting hraked
    obtain ⟨g, -, rfl⟩ := hraked
    exact ⟨h.bigBlind_pos, fun hactive => absurd (hwaiting.symm.trans hactive) (by simp)⟩
  touched := by
    intro state next h htouched
    obtain ⟨g, -, rfl⟩ := htouched
    exact ⟨h.bigBlind_pos, h.opens⟩
  joined := fun h _ _ _ _ => ⟨h.bigBlind_pos, h.opens⟩
  left := fun h _ _ _ => ⟨h.bigBlind_pos, h.opens⟩
  cleared := fun h _ => ⟨h.bigBlind_pos, fun hactive => absurd hactive (by simp [resetSettledBoardState])⟩

theorem Fresh.opensAtBigBlind (h : Fresh state) : OpensAtBigBlind state :=
  ⟨h.bigBlind_pos, fun hactive => absurd (h.waiting.symm.trans hactive) (by simp)⟩

theorem Reachable.opensAtBigBlind (h : Reachable sha256 state) : OpensAtBigBlind state :=
  (h.holds (fun _ hs => hs.opensAtBigBlind) opensAtBigBlind_kept).inv

/-- A bet, a raise or an all-in to `target`. -/
structure Wagers (state : Table) (seat : Seat) (action : Action) (next : Table) (target : Int) :
    Prop where
  currentBet : next.currentBet = max state.currentBet target
  raiseSize_le : state.lastFullRaiseSize ≤ next.lastFullRaiseSize
  full : action ≠ .allIn → state.currentBet + state.lastFullRaiseSize ≤ target
  allIn : action = .allIn → target = maximumRaiseTo seat

theorem targetTotal_full {target : Int}
    (hopens : state.currentBet = 0 → state.lastFullRaiseSize = state.bigBlind)
    (hnonneg : 0 ≤ state.currentBet) (h : state.targetTotal seat action amount = .ok target) :
    state.lastFullRaiseSize ≤ state.nextFullRaiseSize action target ∧
      (action ≠ .allIn → state.currentBet + state.lastFullRaiseSize ≤ target) ∧
      (action = .allIn → target = maximumRaiseTo seat) := by
  unfold targetTotal at h
  split at h
  case h_1 =>
      injection h with h
      refine ⟨?_, fun hne => absurd rfl hne, fun _ => h.symm⟩
      simp only [nextFullRaiseSize]
      split_ifs <;> omega
  case h_2 =>
      split at h
      · cases h
      · obtain ⟨parsed, -, h⟩ := bind_eq_ok.mp h
        split at h
        · cases h
        · injection h with h
          simp only [nextFullRaiseSize]
          exact ⟨by omega, fun _ => by omega, fun hall => absurd hall (by decide)⟩
  case h_3 hallIn hbet =>
      split at h
      · cases h
      · obtain ⟨parsed, -, h⟩ := bind_eq_ok.mp h
        split at h
        · cases h
        · injection h with h
          refine ⟨?_, fun _ => by omega, fun hall => absurd hall hallIn⟩
          unfold nextFullRaiseSize
          split
          · contradiction
          · simp only
            omega
          · simp only
            split_ifs <;> omega

theorem applyBetOrRaise_wagers
    (hopens : state.currentBet = 0 → state.lastFullRaiseSize = state.bigBlind)
    (hnonneg : 0 ≤ state.currentBet) (h : state.applyBetOrRaise seat action amount = .ok next) :
    ∃ target, Wagers state seat action next target := by
  unfold applyBetOrRaise at h
  obtain ⟨target, htarget, h⟩ := bind_eq_ok.mp h
  obtain ⟨_, -, h⟩ := bind_eq_ok.mp h
  obtain ⟨_, -, h⟩ := bind_eq_ok.mp h
  injection h with h
  obtain ⟨hsize, hfull, hallIn⟩ := targetTotal_full hopens hnonneg htarget
  refine ⟨target, ?_, ?_, hfull, hallIn⟩
  · rw [← h]
    change (if state.currentBet < target then target else state.currentBet) = _
    split <;> omega
  · rw [← h]
    exact hsize

/-! ## A seat that has acted -/

/-- The seat at `b` has acted when the bet was `bet` and a full raise `size`. It is out of the
betting, or stands at that bet, or the bet was raised: in full, or by too little for its chips to
raise again. -/
structure Answered (b : Nat) (bet size : Int) (state : Table) : Prop where
  size_le : size ≤ state.lastFullRaiseSize
  cases : (∀ seat ∈ state.seats, seat.seatIndex = b → seat.status ≠ .active) ∨
    (state.currentBet = bet ∧ b ∈ state.actedSeatIndexes) ∨
    (bet < state.currentBet ∧ (bet + size ≤ state.currentBet ∨
      ∀ seat ∈ state.seats, seat.seatIndex = b → seat.status = .active →
        maximumRaiseTo seat < state.currentBet + state.lastFullRaiseSize))

theorem mem_of_offered {availability : ActionAvailability}
    (h : state.resolveHoldemActionAvailability b = some availability) :
    state.status = .active ∧ state.pendingActorSeatIndex = some b ∧
      ∃ seat, state.findSeatByIndex b = some seat ∧ seat.status = .active ∧
        availability.actions = state.availableActions seat := by
  unfold resolveHoldemActionAvailability at h
  split at h
  · cases h
  case isFalse hstatus =>
    rw [not_or, not_not, not_not] at hstatus
    split at h
    · cases h
    case h_2 seat hseat =>
      split at h
      · cases h
      case isFalse hactive =>
        injection h with h
        exact ⟨hstatus.1, hstatus.2, seat, hseat, not_not.mp hactive, by rw [← h]⟩

theorem raise_le_of_offered (h : .raise ∈ state.availableActions seat) :
    state.currentBet + state.lastFullRaiseSize ≤ maximumRaiseTo seat := by
  have hbet := (mem_availableActions_raise h).2
  have hle : state.minimumRaiseTo ≤ maximumRaiseTo seat := by
    unfold availableActions at h
    by_cases hcall : 0 < state.toCall seat <;> simp [hcall] at h <;> exact h.2.2
  rwa [minimumRaiseTo, if_pos hbet] at hle

theorem Answered.reopenedByRaise (hreach : Reachable sha256 state)
    (h : Answered b acted.currentBet acted.lastFullRaiseSize state) :
    ReopenedByRaise b acted state := by
  have hraised : ∀ availability, state.resolveHoldemActionAvailability b = some availability →
      ∃ seat ∈ state.seats, seat.seatIndex = b ∧ seat.status = .active ∧
        availability.actions = state.availableActions seat ∧
        acted.currentBet < state.currentBet ∧
        (acted.currentBet + acted.lastFullRaiseSize ≤ state.currentBet ∨
          maximumRaiseTo seat < state.currentBet + state.lastFullRaiseSize) := by
    intro availability havailable
    obtain ⟨hactive, hpending, seat, hseat, hstatus, hactions⟩ := mem_of_offered havailable
    have hmem := mem_seats_of_find hseat
    have hindex := seatIndex_of_find hseat
    refine ⟨seat, hmem, hindex, hstatus, hactions, ?_⟩
    rcases h.cases with hout | ⟨-, hstands⟩ | ⟨hlt, hfull | hshort⟩
    · exact absurd hstatus (hout seat hmem hindex)
    · obtain ⟨actor, -, hactor, -, hnot⟩ := hreach.exists_actor hactive
      rw [hpending] at hactor
      exact absurd (Option.some.inj hactor ▸ hstands) hnot
    · exact ⟨hlt, .inl hfull⟩
    · exact ⟨hlt, .inr (hshort seat hmem hindex hstatus)⟩
  constructor
  · intro availability havailable
    obtain ⟨_, _, _, _, _, hlt, _⟩ := hraised availability havailable
    exact hlt
  · intro availability havailable hraise
    obtain ⟨seat, -, -, -, hactions, -, hfull⟩ := hraised availability havailable
    rw [hactions] at hraise
    have hle := raise_le_of_offered hraise
    omega

/-! ## What an action does to a seat that has acted -/

theorem Answered.congr (h : Answered b bet size state)
    (hbet : next.currentBet = state.currentBet)
    (hsize : next.lastFullRaiseSize = state.lastFullRaiseSize)
    (hacted : ∀ i ∈ state.actedSeatIndexes, i ∈ next.actedSeatIndexes)
    (hseats : ∀ row ∈ next.seats, row.seatIndex = b → row.status = .active →
      ∃ old ∈ state.seats, old.seatIndex = b ∧ old.status = .active ∧
        maximumRaiseTo old = maximumRaiseTo row) : Answered b bet size next := by
  refine ⟨hsize ▸ h.size_le, ?_⟩
  rcases h.cases with hout | ⟨hstands, hmem⟩ | ⟨hlt, hraised⟩
  · refine .inl fun row hrow hindex hactive => ?_
    obtain ⟨old, hold, holdIndex, holdActive, -⟩ := hseats row hrow hindex hactive
    exact hout old hold holdIndex holdActive
  · exact .inr (.inl ⟨hbet.trans hstands, hacted b hmem⟩)
  · refine .inr (.inr ⟨hbet ▸ hlt, hraised.imp (fun hfull => hbet ▸ hfull) fun hshort => ?_⟩)
    intro row hrow hindex hactive
    obtain ⟨old, hold, holdIndex, holdActive, hmax⟩ := hseats row hrow hindex hactive
    rw [← hmax, hbet, hsize]
    exact hshort old hold holdIndex holdActive

theorem applySeatAction_wagers
    (hopens : state.currentBet = 0 → state.lastFullRaiseSize = state.bigBlind)
    (hnonneg : 0 ≤ state.currentBet) (h : state.applySeatAction seat action amount = .ok next) :
    (next.currentBet = state.currentBet ∧ next.lastFullRaiseSize = state.lastFullRaiseSize ∧
      ∀ i ∈ state.actedSeatIndexes, i ∈ next.actedSeatIndexes) ∨
      ∃ target, Wagers state seat action next target := by
  unfold applySeatAction at h
  split at h
  case h_1 =>
      injection h with h
      exact .inl (h ▸ ⟨rfl, rfl, fun _ hi => hi⟩)
  case h_2 =>
      obtain ⟨-, rfl⟩ := applyCheck_eq_ok.mp h
      exact .inl ⟨rfl, rfl, fun i hi => (mem_markSeatActed _ _ _).mpr (.inl hi)⟩
  case h_3 =>
      unfold applyCall at h
      split at h
      · cases h
      · injection h with h
        exact .inl (h ▸ ⟨rfl, rfl, fun i hi => (mem_markSeatActed _ _ _).mpr (.inl hi)⟩)
  case h_4 => exact .inr (applyBetOrRaise_wagers hopens hnonneg h)

theorem Answered.act (h : Answered b bet size state) (hturn : Turn prior state seat)
    (hopens : OpensAtBigBlind state) (hne : seat.seatIndex ≠ b)
    (havailable : action ∈ state.availableActions seat)
    (hacted : state.applySeatAction seat action amount = .ok next)
    (hshort : action = .allIn →
      maximumRaiseTo seat < state.currentBet + state.lastFullRaiseSize →
      ∀ row ∈ state.seats, row.seatIndex = b → isSeatActionable row →
        b ∈ state.actedSeatIndexes → state.currentBet < maximumRaiseTo seat ∧
          maximumRaiseTo row < maximumRaiseTo seat + state.lastFullRaiseSize) :
    Answered b bet size next := by
  have hbetting := hturn.betting
  have hfacing := hbetting.facing hturn.mem hturn.active
  have hnonneg : 0 ≤ state.currentBet := hfacing.committed_nonneg.trans hfacing.committed_le
  obtain ⟨f, hpasses⟩ := (applySeatAction_move hfacing havailable hacted).passes hturn
  have hseats : ∀ row ∈ next.seats, row.seatIndex = b → row ∈ state.seats := by
    intro row hrow hindex
    rw [hpasses.seats] at hrow
    rcases (mem_updateSeat hbetting.keys hturn.mem).mp hrow with rfl | ⟨hrow, -⟩
    · exact absurd ((hpasses.keeps seat).symm.trans hindex) hne
    · exact hrow
  rcases applySeatAction_wagers (hopens.opens hturn.status) hnonneg hacted with
    ⟨hbet, hsize, hmore⟩ | ⟨target, hwagers⟩
  · exact h.congr hbet hsize hmore fun row hrow hindex hactive =>
      ⟨row, hseats row hrow hindex, hindex, hactive, rfl⟩
  have hbet := hwagers.currentBet
  have hsize := hwagers.raiseSize_le
  have hraise : 0 < state.lastFullRaiseSize := hopens.bigBlind_pos.trans_le hbetting.raiseSize_ge
  refine ⟨h.size_le.trans hsize, ?_⟩
  rcases h.cases with hout | ⟨hstands, hmem⟩ | ⟨hlt, hraised⟩
  · exact .inl fun row hrow hindex => hout row (hseats row hrow hindex) hindex
  · by_cases hin : ∃ row ∈ state.seats, row.seatIndex = b ∧ row.status = .active
    · obtain ⟨row, hrow, hindex, hactive⟩ := hin
      have hactionable : isSeatActionable row :=
        ⟨hactive, (hbetting.level row hrow).active_stack hactive⟩
      have hle := h.size_le
      right; right
      by_cases hfull : state.currentBet + state.lastFullRaiseSize ≤ target
      · exact ⟨by omega, .inl (by omega)⟩
      · have hall : action = .allIn := by
          by_contra hother
          exact hfull (hwagers.full hother)
        have htarget := hwagers.allIn hall
        obtain ⟨hmoves, hchips⟩ := hshort hall (by omega) row hrow hindex hactionable hmem
        refine ⟨by omega, .inr fun other hother hotherIndex _ => ?_⟩
        obtain rfl := eq_of_seatIndex_eq hbetting.keys hrow (hseats other hother hotherIndex)
          (hotherIndex.trans hindex.symm)
        omega
    · exact .inl fun row hrow hindex hactive => hin ⟨row, hseats row hrow hindex, hindex, hactive⟩
  · refine .inr (.inr ⟨by omega, hraised.imp (fun hfull => by omega) fun hcant => ?_⟩)
    intro row hrow hindex hactive
    have hless := hcant row (hseats row hrow hindex) hindex hactive
    omega

theorem answered_of_act (hturn : Turn prior state seat)
    (havailable : action ∈ state.availableActions seat)
    (hacted : state.applySeatAction seat action amount = .ok next) :
    Answered seat.seatIndex next.currentBet next.lastFullRaiseSize next := by
  have hbetting := hturn.betting
  have hmove := applySeatAction_move (hbetting.facing hturn.mem hturn.active) havailable hacted
  refine ⟨le_rfl, ?_⟩
  cases hmove with
  | fold _ =>
      refine .inl fun row hrow hindex => ?_
      rcases (mem_updateSeat hbetting.keys hturn.mem).mp hrow with rfl | ⟨-, hne⟩
      · simp
      · exact absurd hindex hne
  | check _ hcheck =>
      obtain ⟨-, rfl⟩ := applyCheck_eq_ok.mp hcheck
      exact .inr (.inl ⟨rfl, (mem_markSeatActed _ _ _).mpr (.inr rfl)⟩)
  | post posting hlegal =>
      by_cases hstays : posting.transfer < seat.stackAmount
      · refine .inr (.inl ⟨rfl, ?_⟩)
        rcases hlegal.acted_called_or_reset with ⟨-, hcalled⟩ | hreset
        · exact (hcalled _).mpr (.inr rfl)
        · exact (hreset _).mpr ⟨rfl, hstays⟩
      · refine .inl fun row hrow hindex => ?_
        rcases (mem_updateSeat hbetting.keys hturn.mem).mp hrow with rfl | ⟨-, hne⟩
        · have hle := hlegal.transfer_le
          have hzero : seat.stackAmount - posting.transfer = 0 := by omega
          simp [postSeat, postFromStack_of_pos hlegal.transfer_pos hlegal.transfer_le, hzero]
        · exact absurd hindex hne

/-! ## Steps within a round -/

theorem act_sameRound {seatIndex : Nat} (hbetting : Betting prior state)
    (h : state.actOnHoldemSeat now seatIndex action amount = .ok next)
    (hround : SameRound state next) :
    ∃ seat stage, Accepted state seatIndex action seat stage ∧
      state.applySeatAction seat action amount = .ok next := by
  obtain ⟨seat, stage, acted, haccepted, hacted, hprogress⟩ := actOnHoldemSeat_eq_ok.mp h
  have hseat := mem_seats_of_find haccepted.find
  have hmove := applySeatAction_move (hbetting.facing hseat haccepted.active)
    haccepted.available hacted
  have hactive := hmove.status.trans haccepted.status
  obtain ⟨last, hlast, hlastActive, hending⟩ :=
    progression_cases (I := fun s => s = acted ∨ s.turnsLeft < acted.turnsLeft)
      (fun s t hs hstatus _ hstreet => by
        have hfalls := hstreet.turnsLeft_lt hstatus
        refine ⟨hstreet.status.trans hstatus, .inr ?_⟩
        rcases hs with rfl | hs <;> omega)
      (.inl rfl) hactive hprogress
  have hsame : next = last := by
    rcases hending.settles with ⟨heq, -⟩ | hsettles
    · exact heq
    · exact absurd (hsettles.idle.1.symm.trans hround.status) (by simp)
  have hturns : next.turnsLeft = state.turnsLeft := by
    simp only [turnsLeft, hround.status, haccepted.status, hround.stage]
  refine ⟨seat, stage, haccepted, hacted.trans (congrArg _ ?_)⟩
  rcases hlast with rfl | hlater
  · exact hsame.symm
  · rw [← hsame, hturns, hmove.turnsLeft] at hlater
    omega

theorem takeRake_eq_of_active {configured : RakePolicy}
    (h : (state.takeRake configured).1.status = .active) : (state.takeRake configured).1 = state := by
  by_cases hsettled : state.isSettledHoldemState
  · obtain ⟨restacked, pots, hands, ⟨g, -, rfl⟩, heq, -⟩ := takeRake_restacked state configured
    rw [heq] at h
    exact absurd (hsettled.1.symm.trans h) (by simp)
  · unfold takeRake
    rw [if_neg hsettled]

/-- The seats of the next state that are active were, with the same chips. -/
def KeepsActive (state next : Table) : Prop :=
  ∀ row ∈ next.seats, row.status = .active → ∃ old ∈ state.seats,
    old.seatIndex = row.seatIndex ∧ old.status = .active ∧ maximumRaiseTo old = maximumRaiseTo row

theorem KeepsActive.of_touched (h : Reseated Touched state next) : KeepsActive state next := by
  obtain ⟨g, hg, rfl⟩ := h
  intro row hrow hactive
  obtain ⟨old, hold, rfl⟩ := List.mem_map.mp hrow
  obtain ⟨_, _, heq⟩ := hg old
  rw [heq] at hactive ⊢
  exact ⟨old, hold, rfl, hactive, rfl⟩

inductive RoundStep (event : Event Table Operation) : Prop
  | moved {seatIndex : Nat} {action : Action} {amount : AmountInput} {seat : Seat} {stage : Street} :
      Accepted event.before seatIndex action seat stage →
      event.before.applySeatAction seat action amount = .ok event.after →
      (∀ b, ActsBy b event ↔ b = seatIndex) →
      (action = .allIn → ∃ amount configured now,
        event.label = .act seatIndex .allIn amount configured now) → RoundStep event
  | reseated : event.after.currentBet = event.before.currentBet →
      event.after.lastFullRaiseSize = event.before.lastFullRaiseSize →
      event.after.actedSeatIndexes = event.before.actedSeatIndexes →
      KeepsActive event.before event.after →
      (∀ b, ¬ActsBy b event) → RoundStep event

theorem roundStep {before after : Table} {operation : Operation} (hreach : Reachable sha256 before)
    (hstep : before.step sha256 operation = .ok after) (hround : SameRound before after) :
    RoundStep ⟨before, operation, after⟩ := by
  obtain ⟨prior, hbetting⟩ := hreach.sound.hand hround.active
  cases operation with
  | start fairnessSeed now =>
      obtain ⟨dealt, hdealt, -⟩ := startHoldemHand_eq_ok.mp hstep
      obtain ⟨_, _, _, _, _, hopens, -⟩ := dealHand_eq_ok.mp hdealt
      exact absurd hround.active hopens.waiting
  | act seatIndex action amount configured now =>
      obtain ⟨acted, hacted, heq⟩ := bind_eq_ok.mp hstep
      injection heq with heq
      have hsame : acted = after := by
        rw [← heq, takeRake_eq_of_active (heq ▸ hround.status)]
      subst hsame
      obtain ⟨seat, stage, haccepted, hmoved⟩ := act_sameRound hbetting hacted hround
      exact .moved haccepted hmoved (fun b => eq_comm) fun hall => hall ▸ ⟨_, _, _, rfl⟩
  | timeout configured now =>
      obtain ⟨expired, hexpired, heq⟩ := bind_eq_ok.mp hstep
      rcases processExpiredHoldemTurn_cases hexpired with
        rfl | ⟨seatIndex, action, acted, rfl, hpassive, hacted⟩
      · injection heq with heq
        subst heq
        exact .reseated rfl rfl rfl (fun row hrow hstays => ⟨row, hrow, rfl, hstays, rfl⟩)
          fun b hacts => hacts.2 hexpired
      · injection heq with heq
        have hsame : acted = after := by
          rw [← heq, takeRake_eq_of_active (heq ▸ hround.status)]
        subst hsame
        obtain ⟨seat, stage, haccepted, hmoved⟩ := act_sameRound hbetting hacted hround
        refine .moved haccepted hmoved (fun b => ?_) fun hall => ?_
        · refine ⟨fun hacts => ?_, fun hindex => ⟨hindex ▸ haccepted.pending, ?_⟩⟩
          · exact Option.some.inj (hacts.1.symm.trans haccepted.pending)
          · rw [hexpired]
            nofun
        · rcases hpassive with rfl | rfl <;> cases hall
  | setSeatMode seatIndex sittingOut =>
      have htouched := setHoldemSeatMode_touched hstep
      have hkeeps := KeepsActive.of_touched htouched
      obtain ⟨g, -, rfl⟩ := htouched
      exact .reseated rfl rfl rfl hkeeps fun _ hacts => hacts
  | touch seatIndex presence =>
      injection hstep with hstep
      subst hstep
      have htouched : Reseated Touched before (before.updateSeat seatIndex (touchSeat presence)) :=
        .updateSeat Touched.refl (fun seat => ⟨seat.sittingOut, presence, rfl⟩) before seatIndex
      exact .reseated rfl rfl rfl (.of_touched htouched) fun _ hacts => hacts
  | join newcomer =>
      obtain ⟨seatIndex, -, -, -, rfl⟩ := takeSeat_cases hstep
      refine .reseated rfl rfl rfl (fun row hrow hstays => ?_) fun _ hacts => hacts
      rcases mem_joined.mp hrow with hrow | rfl
      · exact ⟨row, hrow, rfl, hstays, rfl⟩
      · cases hstays
  | leave seatIndex =>
      obtain ⟨seat, -, -, rfl⟩ := leaveSeat_cases hstep
      rcases clearTableAfterCashout_cases { before with
        seats := before.seats.filter fun row => row.seatIndex ≠ seatIndex } with
        ⟨-, hsame⟩ | ⟨-, -, hwaiting⟩
      · refine .reseated (by rw [hsame]) (by rw [hsame]) (by rw [hsame]) (fun row hrow hstays => ?_)
          fun _ hacts => hacts
        rw [hsame] at hrow
        exact ⟨row, List.mem_of_mem_filter hrow, rfl, hstays, rfl⟩
      · exact absurd (hwaiting.symm.trans hround.status) (by simp)

theorem Accepted.turn {before : Table} {seatIndex : Nat} {stage : Street}
    (h : Accepted before seatIndex action seat stage) (hbetting : Betting prior before) :
    Turn prior before seat :=
  ⟨hbetting, h.status, seatIndex_of_find h.find ▸ h.pending, mem_seats_of_find h.find, h.active⟩

/-- **A step of the round by anybody else.** Unless it is an all-in that reopens the betting too
early, who has answered still has. -/
theorem Answered.step {before after : Table} {operation : Operation}
    (h : Answered b bet size before) (hreach : Reachable sha256 before)
    (hstep : before.step sha256 operation = .ok after) (hround : SameRound before after)
    (hother : ¬ActsBy b ⟨before, operation, after⟩)
    (hlong : ¬ReopensShort ⟨before, operation, after⟩) : Answered b bet size after := by
  obtain ⟨prior, hbetting⟩ := hreach.sound.hand hround.active
  cases roundStep hreach hstep hround with
  | @moved seatIndex action amount seat stage haccepted hmoved hacts hall =>
      have hindex := seatIndex_of_find haccepted.find
      refine h.act (haccepted.turn hbetting) hreach.opensAtBigBlind (fun heq => ?_)
        haccepted.available hmoved fun hallIn hless row hrow hrowIndex hactionable hmem => ?_
      · exact hother ((hacts b).mpr (heq.symm.trans hindex))
      · obtain ⟨amount, configured, now, hlabel⟩ := hall hallIn
        obtain rfl : operation = .act seatIndex .allIn amount configured now := hlabel
        by_contra hreopens
        refine hlong ⟨seat, haccepted.find, hless, row, hrow, fun heq => ?_, hactionable,
          hrowIndex ▸ hmem, ?_⟩
        · exact hother ((hacts b).mpr (hrowIndex.symm.trans heq))
        · simp only
          omega
  | reseated hbet hsize hacted hkeeps _ =>
      refine h.congr hbet hsize (fun i hi => hacted ▸ hi) fun row hrow hindex hstays => ?_
      obtain ⟨old, hold, holdIndex, holdActive, hmax⟩ := hkeeps row hrow hstays
      exact ⟨old, hold, holdIndex.trans hindex, holdActive, hmax⟩

theorem Reachable.extend {operation : Operation} (h : Reachable sha256 state)
    (hstep : state.step sha256 operation = .ok next) : Reachable sha256 next := by
  obtain ⟨fresh, events, hfresh, hrun⟩ := h
  exact ⟨fresh, _, hfresh, hrun.append (.cons hstep (.nil next))⟩

/-- **Betting is reopened by a raise.** Since a seat has acted, it is asked to act again in that
round after a raise only, and offered a raise after a full raise only, as long as no all-in reopens
the betting too early. -/
theorem reopened_by_raise {fresh : Table} {earlier later : List (Event Table Operation)}
    {e : Event Table Operation} (hfresh : Fresh fresh)
    (hrun : Run (Accepts (step sha256)) fresh (earlier ++ e :: later) state) (hacts : ActsBy b e)
    (hround : SameRound e.before e.after)
    (hlater : ∀ e' ∈ later, SameRound e.after e'.after ∧ ¬ActsBy b e' ∧ ¬ReopensShort e') :
    ReopenedByRaise b e.after state := by
  obtain ⟨hearlier, hstep, hrest⟩ := hrun.split
  have hbefore : Reachable sha256 e.before := ⟨fresh, earlier, hfresh, hearlier⟩
  have hafter := hbefore.extend hstep
  have hanswered : Answered b e.after.currentBet e.after.lastFullRaiseSize e.after := by
    obtain ⟨prior, hbetting⟩ := hbefore.sound.hand hround.active
    cases roundStep hbefore hstep hround with
    | moved haccepted hmoved hactor _ =>
        have hindex := (seatIndex_of_find haccepted.find).trans ((hactor b).mp hacts).symm
        exact hindex ▸ answered_of_act (haccepted.turn hbetting) haccepted.available hmoved
    | reseated _ _ _ _ hnobody => exact absurd hacts (hnobody b)
  have hinvariant := hrest.invariant_of_forall
    (I := fun s => Reachable sha256 s ∧ SameRound e.after s ∧
      Answered b e.after.currentBet e.after.lastFullRaiseSize s)
    (C := fun e' => SameRound e.after e'.after ∧ ¬ActsBy b e' ∧ ¬ReopensShort e')
    (fun u i v ⟨hu, hsame, hanswers⟩ hnext ⟨hsame', hother, hlong⟩ =>
      ⟨hu.extend hnext, hsame', hanswers.step hu hnext
        ⟨hsame.status, hsame'.status, hsame'.handNumber.trans hsame.handNumber.symm,
          hsame'.stage.trans hsame.stage.symm⟩ hother hlong⟩)
    ⟨hafter, ⟨hround.status, hround.status, rfl, rfl⟩, hanswered⟩ hlater
  obtain ⟨-, hreach, -, hanswers⟩ := hinvariant
  exact hanswers.reopenedByRaise hreach

/-! ## Runs of four operations -/

def playedTables (table : Table) (first second third fourth : Operation) :
    Except ApiError (Table × Table × Table × Table) := do
  let one ← table.step zeroHash first
  let two ← one.step zeroHash second
  let three ← two.step zeroHash third
  let four ← three.step zeroHash fourth
  .ok (one, two, three, four)

theorem exists_played (table : Table) (first second third fourth : Operation)
    (check : Table × Table × Table × Table → Bool)
    (h : (match playedTables table first second third fourth with
      | .ok tables => check tables
      | .error _ => false) = true) :
    ∃ one two three four, table.step zeroHash first = .ok one ∧ one.step zeroHash second = .ok two ∧
      two.step zeroHash third = .ok three ∧ three.step zeroHash fourth = .ok four ∧
      check (one, two, three, four) = true := by
  split at h
  case h_2 => cases h
  case h_1 tables hplayed =>
    obtain ⟨one, hone, hplayed⟩ := bind_eq_ok.mp hplayed
    obtain ⟨two, htwo, hplayed⟩ := bind_eq_ok.mp hplayed
    obtain ⟨three, hthree, hplayed⟩ := bind_eq_ok.mp hplayed
    obtain ⟨four, hfour, hplayed⟩ := bind_eq_ok.mp hplayed
    obtain rfl := Except.ok.inj hplayed
    exact ⟨one, two, three, four, hone, htwo, hthree, hfour, h⟩

instance (first state : Table) : Decidable (SameRound first state) :=
  decidable_of_iff (first.status = .active ∧ state.status = .active ∧
    state.handNumber = first.handNumber ∧ state.stage = first.stage)
    ⟨fun h => ⟨h.1, h.2.1, h.2.2.1, h.2.2.2⟩,
      fun h => ⟨h.active, h.status, h.handNumber, h.stage⟩⟩

/-- Three players: the first raises, the second raises again in full, and the third folds. -/
theorem reopened_by_full_raise :
    ∃ (e : Event Table Operation) (state : Table), ActsBy 0 e ∧ SameRound e.before e.after ∧
      state.pendingActorSeatIndex = some 0 ∧ ReopenedByRaise 0 e.after state := by
  obtain ⟨one, two, three, four, hone, htwo, hthree, hfour, hcheck⟩ := exists_played
    (createdTable .cash [samplePlayer 7 5000, samplePlayer 8 5000, samplePlayer 9 5000])
    (.start sampleSeed 0) (.act 0 .raise (.value (.finite 4)) sampleRake 0)
    (.act 1 .raise (.value (.finite 8)) sampleRake 0) (.act 2 .fold .missing sampleRake 0)
    (fun (one, two, three, four) => decide (SameRound one two ∧ SameRound two three ∧
      SameRound two four ∧ four.pendingActorSeatIndex = some 0)) (by decide +kernel)
  obtain ⟨hround, hthird, hfourth, hpending⟩ := of_decide_eq_true hcheck
  let raise : Event Table Operation := ⟨one, .act 0 .raise (.value (.finite 4)) sampleRake 0, two⟩
  have hrun : Run (Accepts (step zeroHash)) _ ([⟨_, .start sampleSeed 0, one⟩] ++ raise ::
      [⟨two, .act 1 .raise (.value (.finite 8)) sampleRake 0, three⟩,
        ⟨three, .act 2 .fold .missing sampleRake 0, four⟩]) four :=
    .cons hone (.cons htwo (.cons hthree (.cons hfour (.nil four))))
  refine ⟨raise, four, rfl, hround, hpending, reopened_by_raise
    (createdTable_fresh .cash (by decide) (by decide)) hrun rfl hround fun e he => ?_⟩
  rcases List.mem_cons.mp he with rfl | he
  · exact ⟨hthird, nofun, fun hshort => hshort⟩
  · obtain rfl := List.mem_singleton.mp he
    exact ⟨hfourth, nofun, fun hshort => hshort⟩

/-- The first player has called the big blind; the small blind goes all-in for less than that, the
big blind checks, and the first player is asked to act again. -/
theorem reopened_without_raise :
    ∃ (fresh state : Table) (earlier later : List (Event Table Operation))
      (e : Event Table Operation) (caller : Seat), Fresh fresh ∧
      Run (Accepts (step zeroHash)) fresh (earlier ++ e :: later) state ∧ ActsBy 0 e ∧
      SameRound e.before e.after ∧ e.after.findSeatByIndex 0 = some caller ∧
      caller.committedAmount = e.after.currentBet ∧
      (∀ e' ∈ later, SameRound e.after e'.after ∧ ¬ActsBy 0 e') ∧
      ¬ReopenedByRaise 0 e.after state := by
  obtain ⟨one, two, three, four, hone, htwo, hthree, hfour, hcheck⟩ := exists_played
    (createdTable .cash [samplePlayer 7 5000, samplePlayer 8 150, samplePlayer 9 5000])
    (.start sampleSeed 0) (.act 0 .call .missing sampleRake 0)
    (.act 1 .allIn .missing sampleRake 0) (.act 2 .check .missing sampleRake 0)
    (fun (one, two, three, four) => decide (SameRound one two ∧ SameRound two three ∧
      SameRound two four ∧ two.currentBet = four.currentBet ∧
      ((two.findSeatByIndex 0).any fun caller => caller.committedAmount = two.currentBet) ∧
      (four.resolveHoldemActionAvailability 0).isSome)) (by decide +kernel)
  obtain ⟨hround, hthird, hfourth, hsame, hcaller, hasked⟩ := of_decide_eq_true hcheck
  obtain ⟨caller, hfind, hcommitted⟩ := (Option.any_eq_true ..).mp hcaller
  obtain ⟨availability, havailable⟩ := Option.isSome_iff_exists.mp hasked
  refine ⟨_, four, [⟨_, .start sampleSeed 0, one⟩],
    [⟨two, .act 1 .allIn .missing sampleRake 0, three⟩,
      ⟨three, .act 2 .check .missing sampleRake 0, four⟩],
    ⟨one, .act 0 .call .missing sampleRake 0, two⟩, caller,
    createdTable_fresh .cash (by decide) (by decide),
    .cons hone (.cons htwo (.cons hthree (.cons hfour (.nil four)))), rfl, hround, hfind,
    of_decide_eq_true hcommitted, fun e he => ?_, fun hreopened => ?_⟩
  · rcases List.mem_cons.mp he with rfl | he
    · exact ⟨hthird, nofun⟩
    · obtain rfl := List.mem_singleton.mp he
      exact ⟨hfourth, nofun⟩
  · have hlt : two.currentBet < four.currentBet := hreopened.asked availability havailable
    omega

end Table

end RewardSystem.Holdem
