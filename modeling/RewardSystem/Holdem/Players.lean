import RewardSystem.Holdem.SettledHands

/-!
# Who plays a hand

Through a hand the seats keep their players, and what a seat puts in it leaves its stack with.
-/

namespace RewardSystem.Holdem

open ApiError

/-- Who sits at a seat, and what the tournament knows of the player. -/
structure Player where
  seatIndex : Nat
  userId : Nat
  tournament : Option SeatTournament

def playerOf (seat : Seat) : Player :=
  ⟨seat.seatIndex, seat.userId, seat.tournament⟩

namespace Table

variable {now prior : Int} {state next acted last settled : Table} {seat : Seat}
  {seatIndex : Nat} {action : Action} {amount : AmountInput}

def players (state : Table) : List Player :=
  state.seats.map playerOf

/-! ## The players stay -/

theorem players_map {g : Seat → Seat} (hg : ∀ seat, playerOf (g seat) = playerOf seat)
    (hseats : next.seats = state.seats.map g) : next.players = state.players := by
  unfold players
  rw [hseats, List.map_map]
  exact List.map_congr_left fun seat _ => hg seat

theorem Reseated.players {R : Seat → Seat → Prop}
    (hR : ∀ before after, R before after → playerOf after = playerOf before)
    (h : Reseated R state next) : next.players = state.players := by
  obtain ⟨g, hg, rfl⟩ := h
  exact players_map (fun seat => hR _ _ (hg seat)) rfl

theorem players_updateSeat {f : Seat → Seat} (hf : ∀ seat, playerOf (f seat) = playerOf seat) :
    (state.updateSeat seatIndex f).players = state.players := by
  refine players_map (g := fun seat => if seat.seatIndex = seatIndex then f seat else seat)
    (fun seat => ?_) rfl
  split
  · exact hf seat
  · rfl

theorem playerOf_postFromStack (transfer : Int) (seat : Seat) :
    playerOf (postFromStack transfer seat) = playerOf seat := by
  unfold postFromStack
  split <;> rfl

theorem Move.players (h : Move state seat next) : next.players = state.players := by
  cases h with
  | fold _ => exact players_updateSeat fun _ => rfl
  | check _ hcheck =>
      obtain ⟨-, rfl⟩ := applyCheck_eq_ok.mp hcheck
      exact players_updateSeat fun _ => rfl
  | post posting _ => exact players_updateSeat fun row => playerOf_postFromStack posting.transfer row

theorem StreetDealt.players (h : StreetDealt state next) : next.players = state.players := by
  obtain ⟨_, _, _, _, -, -, hdealt, rfl⟩ := h.exists_deal
  obtain ⟨-, rfl⟩ := dealCommunityCards_eq_ok.mp hdealt
  simp only [players, openStreet, resetStreetCommitments, List.map_map]
  exact List.map_congr_left fun _ _ => rfl

theorem Settles.players (h : Settles now state settled) : settled.players = state.players := by
  obtain ⟨paid, stage, potAmount, revealed, winners, pots, hpaid, rfl⟩ := h.exists_paid
  have hclosed : (closeHand now stage potAmount revealed winners pots paid).players = paid.players := by
    simp only [players, closeHand, revealHoldemFairness, List.map_map]
    exact List.map_congr_left fun _ _ => rfl
  refine hclosed.trans (hpaid.players fun before after h => ?_)
  obtain ⟨_, _, _, _, rfl⟩ := h
  rfl

theorem takeRake_players (state : Table) (configured : RakePolicy) :
    (state.takeRake configured).1.players = state.players := by
  obtain ⟨restacked, pots, hands, hrestacked, heq, -⟩ := takeRake_restacked state configured
  rw [heq]
  change restacked.players = state.players
  refine hrestacked.players fun before after h => ?_
  obtain ⟨_, rfl⟩ := h
  rfl

/-! ## The chips of an action -/

theorem StreetDealt.pays (h : StreetDealt state next) : Pays (fun _ => 0) state next := by
  obtain ⟨_, _, _, _, -, -, hdealt, rfl⟩ := h.exists_deal
  obtain ⟨-, rfl⟩ := dealCommunityCards_eq_ok.mp hdealt
  exact ⟨fun seat =>
    { seat with
      committedAmount := 0
      status := if seat.status = .active ∧ seat.stackAmount = 0 then .allIn else seat.status },
    fun _ => ⟨rfl, (add_zero _).symm⟩, rfl⟩

/-- What `seat` has less when it has put `put` in. -/
def paysIn (seat : Seat) (put : Int) (i : Nat) : Int :=
  if seat.seatIndex = i then -put else 0

theorem applySeatAction_pays (hfacing : Facing state seat)
    (h : state.applySeatAction seat action amount = .ok next) :
    ∃ put, 0 ≤ put ∧ (put = 0 ↔ action = .fold ∨ action = .check) ∧
      Pays (paysIn seat put) state next := by
  have hkept : ∀ {f : Seat → Seat}, (∀ row, (f row).seatIndex = row.seatIndex ∧
      (f row).stackAmount = row.stackAmount) →
      Pays (paysIn seat 0) state (state.updateSeat seat.seatIndex f) := fun hf =>
    (updateSeat_pays (fun row _ => by rw [neg_zero, add_zero]; exact hf row) state)
  by_cases hfold : action = .fold
  · subst hfold
    obtain rfl : state.applyFold seat = next := Except.ok.inj h
    exact ⟨0, le_rfl, by simp, hkept fun _ => ⟨rfl, rfl⟩⟩
  by_cases hcheck : action = .check
  · subst hcheck
    obtain ⟨-, rfl⟩ := applyCheck_eq_ok.mp h
    exact ⟨0, le_rfl, by simp, hkept fun _ => ⟨rfl, rfl⟩⟩
  obtain ⟨posting, hlegal, rfl⟩ := applySeatAction_posts hfacing hfold hcheck h
  refine ⟨posting.transfer, hlegal.transfer_pos.le, ?_, ?_⟩
  · simp [hfold, hcheck, hlegal.transfer_pos.ne']
  · have hposted := postFromStack_of_pos hlegal.transfer_pos hlegal.transfer_le
    have hsame : state.updateSeat seat.seatIndex (postSeat posting) =
        state.updateSeat seat.seatIndex fun row =>
          { postSeat posting row with stackAmount := row.stackAmount - posting.transfer } :=
      updateSeat_congr hfacing.keys hfacing.mem (by simp [postSeat, hposted])
    change Pays _ state (state.updateSeat seat.seatIndex (postSeat posting))
    rw [hsame]
    exact updateSeat_pays (fun row _ => ⟨by simp [postSeat], Int.sub_eq_add_neg⟩) state

/-- A hand that an action settles: the seat puts its chips in, and the hand is paid out. -/
structure ActedOut (before : Table) (action : Action) (seat : Seat) (put : Int)
    (last settled : Table) : Prop where
  mem : seat ∈ before.seats
  put_nonneg : 0 ≤ put
  put_eq_zero : put = 0 ↔ action = .fold ∨ action = .check
  pays : Pays (paysIn seat put) before last
  betting : ∃ prior, Betting prior last
  settledHand : SettledHand last settled
  players : settled.players = before.players

theorem exists_actedOut (hbetting : Betting prior state)
    (h : state.actOnHoldemSeat now seatIndex action amount = .ok settled)
    (hwaiting : settled.status = .waiting) :
    ∃ seat put last, ActedOut state action seat put last settled := by
  obtain ⟨seat, stage, acted, haccepted, hacted, hprogress⟩ := actOnHoldemSeat_eq_ok.mp h
  have hseat := mem_seats_of_find haccepted.find
  have hfacing := hbetting.facing hseat haccepted.active
  have hmove := applySeatAction_move hfacing haccepted.available hacted
  obtain ⟨put, hnonneg, hzero, hpays⟩ := applySeatAction_pays hfacing hacted
  obtain ⟨last, ⟨⟨prior', hbetting'⟩, hplayers, hsame⟩, hactive, hending⟩ :=
    progression_cases (I := fun s => (∃ prior, Betting prior s) ∧ s.players = state.players ∧
        Pays (fun _ => 0) acted s)
      (fun s t ⟨⟨p, hp⟩, hplayers, hsame⟩ hstatus hround hstreet =>
        ⟨hstreet.status.trans hstatus, ⟨_, hp.street hround hstreet⟩,
          hstreet.players.trans hplayers, hsame.zero_trans hstreet.pays⟩)
      ⟨⟨prior, hbetting.move hseat haccepted.active hmove⟩, hmove.players, .of_seats_eq rfl⟩
      (hmove.status.trans haccepted.status) hprogress
  have hsettled := hending.settledHand hbetting' hactive hwaiting
  refine ⟨seat, put, last, hseat, hnonneg, hzero, hpays.trans_zero hsame, ⟨prior', hbetting'⟩,
    hsettled, ?_⟩
  rcases hending.settles with ⟨rfl, -⟩ | hsettles
  · rw [hwaiting] at hactive
    cases hactive
  · exact hsettles.players.trans hplayers

end Table

end RewardSystem.Holdem
