import RewardSystem.Holdem.Eliminations
import RewardSystem.Holdem.TournamentRuns

/-!
# Places and prizes over a tournament

While a hand is played the players and the rows stay as they are. The end of a hand is where players
leave with their places, and the last of these hands pays the prizes.
-/

namespace RewardSystem.Holdem

open ApiError Transition

namespace Table

variable {sha256 : HashFunction} {now : Int} {state next last settled : Table} {seat : Seat}
  {out : List Entry} {action : Action} {amount : AmountInput}

/-! ## Play leaves the field alone -/

/-- The same players sit at the table, and the rows of the tournament are the same. -/
structure SameField (state next : Table) : Prop where
  tableType : next.tableType = state.tableType
  tournament : next.tournament = state.tournament
  players : next.players = state.players

namespace SameField

theorem refl (state : Table) : SameField state state :=
  ⟨rfl, rfl, rfl⟩

theorem trans (h : SameField state next) (h' : SameField next last) : SameField state last :=
  ⟨h'.tableType.trans h.tableType, h'.tournament.trans h.tournament, h'.players.trans h.players⟩

theorem updateSeat {f : Seat → Seat} (hf : ∀ seat, playerOf (f seat) = playerOf seat)
    (state : Table) (seatIndex : Nat) : SameField state (state.updateSeat seatIndex f) :=
  ⟨rfl, rfl, players_updateSeat hf⟩

theorem reseated {R : Seat → Seat → Prop}
    (hR : ∀ before after, R before after → playerOf after = playerOf before)
    (h : Reseated R state next) : SameField state next := by
  have hplayers := h.players hR
  obtain ⟨g, -, rfl⟩ := h
  exact ⟨rfl, rfl, hplayers⟩

theorem entries (h : SameField state next) : next.entries = state.entries := by
  unfold Table.entries standings
  rw [h.tournament]

theorem standings (h : SameField state next) : next.standings = state.standings := by
  unfold Table.standings
  rw [h.tournament]

theorem boarded (h : SameField state next) (hboard : Boarded state out) : Boarded next out where
  type := h.tableType.trans hboard.type
  rows := by rw [h.standings]; exact hboard.rows
  users := by rw [h.players]; exact hboard.users
  absent := by rw [h.players, h.entries]; exact hboard.absent

theorem listed (h : SameField state next) (hlisted : Listed state out) : Listed next out := by
  unfold Listed
  rw [h.players, h.entries]
  exact hlisted

theorem contested (h : SameField state next) (hcontested : Contested state) : Contested next where
  seatIndexes := by rw [h.players]; exact hcontested.seatIndexes
  placeless := by rw [h.players]; exact hcontested.placeless

end SameField

theorem applySeatAction_sameField (h : state.applySeatAction seat action amount = .ok next) :
    SameField state next ∧ next.status = state.status := by
  have hbet : ∀ {next}, state.applyBetOrRaise seat action amount = .ok next →
      SameField state next ∧ next.status = state.status := by
    intro next h
    obtain ⟨target, -, h⟩ := bind_eq_ok.mp h
    obtain ⟨_, -, h⟩ := bind_eq_ok.mp h
    obtain ⟨_, -, h⟩ := bind_eq_ok.mp h
    obtain rfl := Except.ok.inj h
    exact ⟨⟨rfl, rfl, players_updateSeat fun row => playerOf_postFromStack _ row⟩, rfl⟩
  cases action with
  | fold =>
      obtain rfl : state.applyFold seat = next := Except.ok.inj h
      exact ⟨⟨rfl, rfl, players_updateSeat fun _ => rfl⟩, rfl⟩
  | check =>
      obtain ⟨-, rfl⟩ := applyCheck_eq_ok.mp h
      exact ⟨⟨rfl, rfl, players_updateSeat fun _ => rfl⟩, rfl⟩
  | call =>
      change state.applyCall seat = .ok next at h
      unfold applyCall at h
      split at h
      · cases h
      · obtain rfl := Except.ok.inj h
        exact ⟨⟨rfl, rfl, players_updateSeat fun row => playerOf_postFromStack _ row⟩, rfl⟩
  | bet => exact hbet h
  | raise => exact hbet h
  | allIn => exact hbet h

theorem StreetDealt.sameField (h : StreetDealt state next) : SameField state next := by
  have hplayers := h.players
  obtain ⟨_, _, _, _, -, -, hdealt, rfl⟩ := h.exists_deal
  obtain ⟨-, rfl⟩ := dealCommunityCards_eq_ok.mp hdealt
  exact ⟨rfl, rfl, hplayers⟩

theorem Settles.sameField (h : Settles now state settled) : SameField state settled := by
  have hplayers := h.players
  obtain ⟨paid, _, _, _, _, _, ⟨g, -, rfl⟩, rfl⟩ := h.exists_paid
  exact ⟨rfl, rfl, hplayers⟩

theorem Ending.sameField (h : Ending now state next) : SameField state next := by
  rcases h.settles with ⟨rfl, -⟩ | hsettles
  · exact .refl _
  · exact hsettles.sameField

theorem progression_sameField {stage : Street} (hactive : state.status = .active)
    (h : state.resolveTerminalAndStreetProgression now stage = .ok next) :
    SameField state next := by
  obtain ⟨last, hlast, -, hending⟩ := progression_cases (I := SameField state)
    (fun s t hs hstatus _ hstreet => ⟨hstreet.status.trans hstatus, hs.trans hstreet.sameField⟩)
    (.refl state) hactive h
  exact hlast.trans hending.sameField

theorem actOnHoldemSeat_sameField {seatIndex : Nat}
    (h : state.actOnHoldemSeat now seatIndex action amount = .ok next) :
    state.status = .active ∧ state.seats ≠ [] ∧ SameField state next := by
  obtain ⟨seat, stage, acted, haccepted, hacted, hprogress⟩ := actOnHoldemSeat_eq_ok.mp h
  obtain ⟨hfield, hstatus⟩ := applySeatAction_sameField hacted
  exact ⟨haccepted.status, List.ne_nil_of_mem (mem_seats_of_find haccepted.find),
    hfield.trans (progression_sameField (hstatus.trans haccepted.status) hprogress)⟩

theorem postBlinds_sameField (state : Table) :
    SameField state state.postBlinds ∧ state.postBlinds.status = state.status := by
  have hblind : ∀ (amount : Int) (label : String) (row : Seat),
      playerOf (postBlind amount label row) = playerOf row := fun amount _ row =>
    playerOf_postFromStack amount row
  unfold postBlinds
  split
  · split
    · refine ⟨⟨rfl, rfl, ?_⟩, rfl⟩
      exact (players_updateSeat (hblind _ _)).trans (players_updateSeat (hblind _ _))
    · exact ⟨.refl state, rfl⟩
  · exact ⟨.refl state, rfl⟩

theorem firstTurn_sameField (state : Table) (dealer : Nat) :
    SameField state (state.firstTurn dealer) :=
  ⟨rfl, rfl, rfl⟩

theorem startHoldemHand_sameField {fairnessSeed : FairnessSeedInput}
    (h : state.startHoldemHand sha256 now fairnessSeed = .ok next) : SameField state next := by
  obtain ⟨dealt, hdealt, hprogress⟩ := startHoldemHand_eq_ok.mp h
  obtain ⟨dealer, smallBlind, bigBlind, shuffled, withCards, hopens, rfl⟩ := dealHand_eq_ok.mp hdealt
  have hopened : SameField state withCards ∧ withCards.status = .active := by
    obtain ⟨cards, nextCardIndex, rfl⟩ := hopens.seats
    refine ⟨⟨rfl, rfl, ?_⟩, rfl⟩
    exact players_map (g := fun seat => { clearSeat seat with holeCards := cards seat })
      (fun _ => rfl) rfl
  obtain ⟨hblinds, hstatus⟩ := postBlinds_sameField withCards
  exact hopened.1.trans (hblinds.trans ((firstTurn_sameField _ dealer).trans
    (progression_sameField (hstatus.trans hopened.2) hprogress)))

theorem takeRake_sameField (state : Table) (configured : RakePolicy) :
    SameField state (state.takeRake configured).1 := by
  have hplayers := takeRake_players state configured
  obtain ⟨restacked, pots, hands, ⟨g, -, rfl⟩, heq, -⟩ := takeRake_restacked state configured
  rw [heq] at hplayers ⊢
  exact ⟨rfl, rfl, hplayers⟩

/-! ## The end of a hand -/

section Leavers

variable {leavers : List Player}

theorem HandClosed.length_add (h : HandClosed state out next leavers)
    (hcontested : Contested state) :
    leavers.length + next.players.length = state.players.length := by
  have hperm := (Keyed.perm_append_filter hcontested.seatIndexes h.keys h.mem).length_eq
  rw [List.length_append] at hperm
  rw [h.players]
  exact hperm.symm

theorem HandClosed.contested (h : HandClosed state out next leavers)
    (hcontested : Contested state) : Contested next where
  seatIndexes := by
    rw [h.players]
    exact Keyed.hasKeys_filter _ hcontested.seatIndexes
  placeless := fun player hplayer => by
    rw [h.players] at hplayer
    exact hcontested.placeless player (List.mem_filter.mp hplayer).1

/-- The places go on where those of `out` end. -/
theorem HandClosed.places (h : HandClosed state out next leavers) (hcontested : Contested state)
    (hplaces : (out.map Entry.place).Perm
      ((List.range' (state.players.length + 1) out.length).map some)) :
    ((out ++ (placesFrom leavers state.players.length).map entryOfPlaced).map Entry.place).Perm
      ((List.range' (next.players.length + 1)
        (out ++ (placesFrom leavers state.players.length).map entryOfPlaced).length).map some) := by
  have hlength := h.length_add hcontested
  have hnew : (((placesFrom leavers state.players.length).map entryOfPlaced).map Entry.place).Perm
      ((List.range' (next.players.length + 1) leavers.length).map some) := by
    have hsnd := (map_snd_placesFrom (show leavers.length ≤ state.players.length by omega)).map some
    rw [List.map_map] at hsnd ⊢
    have hstart : state.players.length - leavers.length = next.players.length := by omega
    rwa [hstart] at hsnd
  have hcount : (out ++ (placesFrom leavers state.players.length).map entryOfPlaced).length =
      leavers.length + out.length := by
    rw [List.length_append, List.length_map, length_placesFrom, Nat.add_comm]
  have hrange : List.range' (next.players.length + 1) (leavers.length + out.length) =
      List.range' (next.players.length + 1) leavers.length ++
        List.range' (state.players.length + 1) out.length := by
    have hnext : next.players.length + 1 + leavers.length = state.players.length + 1 := by omega
    rw [← List.range'_append_1, hnext]
  rw [hcount, hrange, List.map_append, List.map_append]
  exact List.perm_append_comm.trans (hnew.append hplaces)

end Leavers

end Table

/-! ## Where a tournament stands -/

namespace Room

open Table

variable {sha256 : HashFunction} {room next later : Room} {out : List Entry}
  {operation : RoomOperation}

/-- Nothing is paid before the tournament is over, and its prizes when it is. -/
inductive Prizes (room : Room) (out : List Entry) : Prop
  | pending (hstatus : room.table.tournament.map Tournament.status ≠ some .completed)
      (hpaid : room.paid = [])
  | awarded {awardedAt : Int} {crowned : Tournament} (hseats : room.table.seats = [])
      (hout : out ≠ []) (hcrowned : Crowned awardedAt crowned out room.table room.paid)

/-- The players of `out` have left, the first of them with the greatest place. -/
structure Ranked (room : Room) (out : List Entry) : Prop where
  boarded : Boarded room.table out
  listed : Listed room.table out
  contested : Contested room.table
  counted : ∀ tournament, room.table.tournament = some tournament → Counted tournament
  buyIn : ∀ amount, room.table.tournament.map Tournament.buyInAmount = some amount → 0 ≤ amount
  places : (out.map Entry.place).Perm
    ((List.range' (room.table.players.length + 1) out.length).map some)
  registering : room.table.tournament.map Tournament.status = some .registering →
    out = [] ∧ room.table.status = .waiting
  prizes : Prizes room out

theorem Opened.ranked (h : Opened room) : Ranked room [] := by
  obtain ⟨tournament, htournament, hstatus, hbuyIn, -, hpool, hcount, hrows, -⟩ := h.tournament
  have hplayers : room.table.players = [] := by rw [players, h.seats]; rfl
  have hstandings : room.table.standings = [] := by rw [standings, htournament]; exact hrows
  have hlisted : Listed room.table [] := by
    unfold Listed entries
    rw [hstandings, hplayers]
    exact .refl _
  refine ⟨hlisted.boarded h.type (by rw [hstandings]; exact List.nodup_nil), hlisted,
    ⟨by rw [hplayers]; exact List.nodup_nil, by simp [hplayers]⟩, fun counted hcounted => ?_,
    fun amount hamount => ?_, .refl _, fun _ => ⟨rfl, h.waiting⟩, .pending ?_ h.paid⟩
  · obtain rfl := Option.some.inj (htournament.symm.trans hcounted)
    exact ⟨by rw [hcount, hrows]; rfl, by rw [hpool, hrows]; simp⟩
  · rw [htournament] at hamount
    exact Option.some.inj hamount ▸ hbuyIn
  · rw [htournament, Option.map_some, hstatus]
    simp

namespace Ranked

/-- Play leaves the places and the prizes alone. -/
theorem field (h : Ranked room out) (hfield : SameField room.table next.table)
    (hpaid : next.paid = room.paid)
    (hwaiting : room.table.tournament.map Tournament.status = some .registering →
      next.table.status = .waiting) : Ranked next out where
  boarded := hfield.boarded h.boarded
  listed := hfield.listed h.listed
  contested := hfield.contested h.contested
  counted := by rw [hfield.tournament]; exact h.counted
  buyIn := by rw [hfield.tournament]; exact h.buyIn
  places := by rw [hfield.players]; exact h.places
  registering := fun hstatus => by
    rw [hfield.tournament] at hstatus
    exact ⟨(h.registering hstatus).1, hwaiting hstatus⟩
  prizes := by
    cases h.prizes with
    | pending hstatus hnone =>
        exact .pending (by rw [hfield.tournament]; exact hstatus) (hpaid.trans hnone)
    | @awarded awardedAt crowned hseats hout hcrowned =>
        have hplayers : next.table.players = [] := by
          rw [hfield.players, players, hseats]
          rfl
        have hsame : Crowned awardedAt crowned out next.table room.paid :=
          { hcrowned with closed := by rw [hfield.tournament]; exact hcrowned.closed }
        exact .awarded (List.map_eq_nil_iff.mp hplayers) hout (hpaid ▸ hsame)

/-- A tournament with players in it has not been paid yet. -/
theorem pending (h : Ranked room out) (hseats : room.table.seats ≠ []) :
    room.table.tournament.map Tournament.status ≠ some .completed ∧ room.paid = [] := by
  cases h.prizes with
  | pending hstatus hpaid => exact ⟨hstatus, hpaid⟩
  | awarded hnone _ _ => exact absurd hnone hseats

theorem unpaid (h : Ranked room out)
    (hopen : room.table.tournament.map Tournament.status ≠ some .completed) : room.paid = [] := by
  cases h.prizes with
  | pending _ hpaid => exact hpaid
  | awarded _ _ hcrowned =>
      obtain ⟨rows, -, hcompleted⟩ := hcrowned.closed
      exact absurd (by rw [hcompleted]; rfl) hopen

theorem userKeys (h : Ranked room out) : Keyed.HasKeys Seat.userId room.table.seats := by
  have husers := h.boarded.users
  unfold Keyed.HasKeys players at husers
  rwa [List.map_map] at husers

end Ranked

/-! ### A hand ends -/

/-- Who leaves with which place in a step. The stacks are those before the last action. -/
inductive Exits (room : Room) : List (Player × Nat) → Prop
  | nobody : Exits room []
  | busted {raked : Table} (hfield : SameField room.table raked) :
      Exits room (placesFrom (outgoing (amountFor room.table.previousStacks) raked)
        room.table.players.length)
  | crowned {raked : Table} {champion : Seat} (hfield : SameField room.table raked)
      (hchampion : champion ∈ raked.seats) (hchips : hasNoChips champion = false)
      (hlength : (outgoing (amountFor room.table.previousStacks) raked).length + 1 =
        room.table.players.length) :
      Exits room (placesFrom (outgoing (amountFor room.table.previousStacks) raked ++
        [playerOf champion]) room.table.players.length)

theorem Ranked.persist {awardedAt : Int} {configured : RakePolicy} {after closed : Table}
    {recipients : List PayoutRecipient} (h : Ranked room out) (hactive : room.table.status = .active)
    (hseats : room.table.seats ≠ []) (hfield : SameField room.table after)
    (hpersist : room.table.persistTournamentTransition awardedAt configured after =
      .ok (closed, recipients)) :
    ∃ placed, Exits room placed ∧
      Ranked ⟨closed, room.paid ++ recipients⟩ (out ++ placed.map entryOfPlaced) ∧
      placed.length + closed.players.length = room.table.players.length := by
  obtain ⟨hstatus, hnone⟩ := h.pending hseats
  have hopen : room.table.tournament.map Tournament.status ≠ some .registering := fun hopen => by
    rw [(h.registering hopen).2] at hactive
    cases hactive
  have hraked := hfield.trans (takeRake_sameField after configured)
  unfold persistTournamentTransition at hpersist
  simp only at hpersist
  split at hpersist
  case isFalse =>
    rw [Except.ok.injEq, Prod.mk.injEq] at hpersist
    obtain ⟨rfl, rfl⟩ := hpersist
    refine ⟨[], .nobody, ?_, by rw [hraked.players]; exact Nat.zero_add _⟩
    rw [List.map_nil, List.append_nil, List.append_nil]
    exact h.field hraked rfl fun hstatus => absurd hstatus hopen
  case isTrue hsettled =>
    generalize (after.takeRake configured).1 = raked at hraked hsettled hpersist
    have hcontested := hraked.contested h.contested
    obtain ⟨leavers, hclosed, hverdict⟩ := settleTournament_closed (hraked.boarded h.boarded)
      (hraked.listed h.listed) hcontested hpersist
    have hplayers := hraked.players
    have hplaces := hclosed.places hcontested (by rw [hplayers]; exact h.places)
    have hlength := hclosed.length_add hcontested
    have hkept : raked.tournament = room.table.tournament := hraked.tournament
    refine ⟨placesFrom leavers raked.players.length, ?_, ⟨hclosed.boarded, hclosed.listed,
      hclosed.contested hcontested, hclosed.counted,
      by rw [hclosed.buyIn, hkept]; exact h.buyIn, hplaces, fun hregistering => ?_, ?_⟩,
      by rw [length_placesFrom, hlength, hplayers]⟩
    · rw [hplayers]
      cases hverdict with
      | plays _ => exact .busted hraked
      | crowns hchampion hchips hempty _ =>
          refine .crowned hraked hchampion hchips ?_
          have hnobody : closed.players = [] := by rw [players, hempty]; rfl
          rw [hnobody, List.length_append] at hlength
          rw [← hplayers]
          exact hlength
    · cases hverdict with
      | plays hsame => exact absurd (by rw [← hkept, ← hsame]; exact hregistering) hopen
      | crowns _ _ _ hcrowned =>
          obtain ⟨rows, -, hcompleted⟩ := hcrowned.closed
          rw [hcompleted] at hregistering
          cases hregistering
    · cases hverdict with
      | plays hsame => exact .pending (by rw [hsame, hkept]; exact hstatus) (by rw [hnone]; rfl)
      | crowns _ _ hempty hcrowned =>
          rw [hnone]
          refine .awarded hempty (List.append_ne_nil_of_right_ne_nil out ?_) hcrowned
          rw [← List.length_pos_iff, List.length_map, length_placesFrom, List.length_append]
          exact Nat.succ_pos _

/-! ### Registration -/

/-- The table with one more player. -/
def seated (state : Table) (newcomer : Newcomer) (seatIndex : Nat) : Table :=
  { state with seats := sortSeatsByIndex (state.seats ++ [seatOf newcomer seatIndex]) }

theorem joinTournament_cases {table : Table} {entrant : Entrant} {buyInAmount : Int}
    (h : room.table.joinTournament entrant buyInAmount = .ok table) :
    room.table.findUserSeat entrant.userId = none ∧
      room.table.tournament.map Tournament.status = some .registering ∧
      ∃ tournament seatIndex, room.table.findSeatByIndex seatIndex = none ∧
        (seated room.table (newcomerOf tournament entrant) seatIndex).syncTournamentStandings =
          .ok table := by
  obtain ⟨_, huser, h⟩ := bind_eq_ok.mp h
  obtain ⟨tournament, htournament, h⟩ := bind_eq_ok.mp h
  obtain ⟨_, hopen, h⟩ := bind_eq_ok.mp h
  obtain ⟨table', hseated, h⟩ := bind_eq_ok.mp h
  obtain ⟨_, -, h⟩ := bind_eq_ok.mp h
  rw [throwIf_eq_ok, Bool.not_eq_true, Option.isSome_eq_false_iff, Option.isNone_iff_eq_none]
    at huser
  rw [throwIf_eq_ok, not_not] at hopen
  obtain ⟨seatIndex, -, -, hfree, rfl⟩ := takeSeat_cases hseated
  refine ⟨huser, ?_, tournament, seatIndex, hfree, h⟩
  rw [(ensureTournamentMetadata_eq_ok.mp htournament).2, Option.map_some, hopen]

theorem players_seated (state : Table) (newcomer : Newcomer) (seatIndex : Nat) :
    (seated state newcomer seatIndex).players.Perm
      (playerOf (seatOf newcomer seatIndex) :: state.players) := by
  have hsorted := (sortSeatsByIndex_perm (state.seats ++ [seatOf newcomer seatIndex])).map playerOf
  rw [List.map_append] at hsorted
  exact hsorted.trans (List.perm_append_singleton _ _)

/-- What is left to show of a room whose registration goes on. -/
theorem Ranked.of_synced {seated : Table} (hsynced : Synced seated next.table [])
    (hcontested : Contested seated) (hopen : seated.tournament.map Tournament.status =
      some .registering) (hwaiting : seated.status = .waiting)
    (hbuyIn : ∀ amount, seated.tournament.map Tournament.buyInAmount = some amount → 0 ≤ amount)
    (hpaid : next.paid = []) : Ranked next [] where
  boarded := hsynced.boarded
  listed := hsynced.isListed
  contested :=
    ⟨by rw [hsynced.players]; exact hcontested.seatIndexes,
      by rw [hsynced.players]; exact hcontested.placeless⟩
  counted := hsynced.counted
  buyIn := by rw [hsynced.buyIn]; exact hbuyIn
  places := .refl _
  registering := fun _ => ⟨rfl, by rw [hsynced.table]; exact hwaiting⟩
  prizes := .pending (by rw [hsynced.status, hopen]; simp) hpaid

theorem Ranked.join {table : Table} {entrant : Entrant} {buyInAmount : Int} (h : Ranked room out)
    (hjoin : room.table.joinTournament entrant buyInAmount = .ok table) :
    out = [] ∧ Ranked { room with table := table } [] := by
  obtain ⟨huser, hopen, tournament, seatIndex, hfree, hsync⟩ := joinTournament_cases hjoin
  obtain ⟨rfl, hwaiting⟩ := h.registering hopen
  have hnone := h.unpaid (by rw [hopen]; simp)
  have hplayers := players_seated room.table (newcomerOf tournament entrant) seatIndex
  have hlisted : room.table.entries.Perm (room.table.players.map entryOfPlayer) := by
    simpa [Listed] using h.listed
  have hcontested : Contested (seated room.table (newcomerOf tournament entrant) seatIndex) := by
    refine ⟨?_, fun player hplayer => ?_⟩
    · unfold Keyed.HasKeys players
      rw [List.map_map]
      exact hasKeys_joined h.contested.seatKeys hfree
    · rcases List.mem_cons.mp (hplayers.mem_iff.mp hplayer) with rfl | hplayer
      · exact ⟨_, rfl, rfl⟩
      · exact h.contested.placeless player hplayer
  have hboard : Boarded (seated room.table (newcomerOf tournament entrant) seatIndex) [] := by
    refine ⟨h.boarded.type, h.boarded.rows, ?_, .of_eq (departed_eq_nil fun entry hentry => ?_)⟩
    · refine (hplayers.map Player.userId).nodup_iff.mpr (List.nodup_cons.mpr ⟨?_, h.boarded.users⟩)
      rw [players, List.map_map]
      intro hmem
      obtain ⟨seat, hseat, huserId⟩ := List.mem_map.mp hmem
      exact Keyed.lookup_eq_none.mp huser seat hseat huserId
    · obtain ⟨player, hplayer, rfl⟩ := List.mem_map.mp (hlisted.mem_iff.mp hentry)
      exact ⟨player, hplayers.mem_iff.mpr (List.mem_cons_of_mem _ hplayer), rfl⟩
  have hsynced : Synced (seated room.table (newcomerOf tournament entrant) seatIndex) table [] :=
    hboard.sync hsync
  exact ⟨rfl, .of_synced hsynced hcontested hopen hwaiting h.buyIn hnone⟩

theorem removeTournamentStanding_cases {state table : Table} {userId : Nat}
    (h : state.removeTournamentStanding userId = .ok table) (htype : state.isTournamentTable) :
    ∃ tournament tournament', state.tournament = some tournament ∧
      table = { state with tournament := some tournament' } ∧ Counted tournament' ∧
      tournament'.status = tournament.status ∧ tournament'.buyInAmount = tournament.buyInAmount ∧
      tournament'.standings = tournament.standings.filter fun row => row.userId ≠ some userId := by
  unfold removeTournamentStanding at h
  rw [if_neg (not_not.mpr htype)] at h
  obtain ⟨tournament, htournament, h⟩ := bind_eq_ok.mp h
  exact ⟨tournament, _, (ensureTournamentMetadata_eq_ok.mp htournament).2, (Except.ok.inj h).symm,
    ⟨rfl, rfl⟩, rfl, rfl, rfl⟩

theorem leaveTournament_cases {table : Table} {userId : Nat}
    (h : room.table.leaveTournament userId = .ok table) :
    ∃ seat ∈ room.table.seats, seat.userId = userId ∧
      room.table.tournament.map Tournament.status = some .registering ∧
        ({ room.table with seats := room.table.seats.filter fun row =>
          row.seatIndex ≠ seat.seatIndex }).removeTournamentStanding userId = .ok table := by
  unfold leaveTournament at h
  cases hseat : room.table.findUserSeat userId with
  | none =>
      rw [hseat] at h
      cases h
  | some seat =>
      rw [hseat] at h
      obtain ⟨tournament, htournament, h⟩ := bind_eq_ok.mp h
      obtain ⟨_, hopen, h⟩ := bind_eq_ok.mp h
      obtain ⟨_, -, h⟩ := bind_eq_ok.mp h
      rw [throwIf_eq_ok, not_not] at hopen
      refine ⟨seat, Keyed.mem_of_lookup hseat, Keyed.key_of_lookup hseat, ?_, h⟩
      rw [(ensureTournamentMetadata_eq_ok.mp htournament).2, Option.map_some, hopen]

theorem Ranked.leave {table : Table} {userId : Nat} (h : Ranked room out)
    (hleave : room.table.leaveTournament userId = .ok table) :
    out = [] ∧ Ranked { room with table := table } [] := by
  obtain ⟨seat, hseat, rfl, hopen, hremove⟩ := leaveTournament_cases hleave
  obtain ⟨rfl, hwaiting⟩ := h.registering hopen
  obtain ⟨hstatus, hnone⟩ := h.pending (List.ne_nil_of_mem hseat)
  obtain ⟨tournament, tournament', htournament, rfl, hcounted, hsame, hbuyIn, hrows⟩ :=
    removeTournamentStanding_cases hremove h.boarded.type
  have htable : room.table.tournament = some tournament := htournament
  -- seats and users answer to each other, so the seat that goes is that of the row that goes
  have hseats : (room.table.seats.filter fun row => row.seatIndex ≠ seat.seatIndex) =
      room.table.seats.filter fun row => row.userId ≠ seat.userId := by
    refine List.filter_congr fun row hrow => decide_eq_decide.mpr (not_congr ⟨fun heq => ?_,
      fun heq => ?_⟩)
    · rw [Keyed.eq_of_key_eq h.contested.seatKeys hrow hseat heq]
    · rw [Keyed.eq_of_key_eq h.userKeys hrow hseat heq]
  have hlisted : room.table.entries.Perm (room.table.players.map entryOfPlayer) := by
    simpa [Listed] using h.listed
  have hnext : Listed { room.table with
      seats := room.table.seats.filter fun row => row.seatIndex ≠ seat.seatIndex
      tournament := some tournament' } [] := by
    have hfiltered := hlisted.filter fun entry => entry.userId ≠ some seat.userId
    unfold Listed
    rw [entries, standings, htable, players, List.map_map, List.filter_map, List.filter_map]
      at hfiltered
    rw [List.append_nil, entries, standings, Option.elim_some, hrows, players, hseats, List.map_map]
    refine hfiltered.trans (.of_eq (congrArg _ (List.filter_congr fun row _ => ?_)))
    exact decide_eq_decide.mpr (not_congr Option.some_inj)
  have hrowKeys : Keyed.HasKeys Standing.userId tournament'.standings := by
    have hkeys := h.boarded.rows
    rw [standings, htable] at hkeys
    rw [hrows]
    exact Keyed.hasKeys_filter _ hkeys
  refine ⟨rfl, hnext.boarded h.boarded.type hrowKeys, hnext, ⟨?_, fun player hplayer => ?_⟩,
    fun counted heq => Option.some.inj heq ▸ hcounted, fun amount heq => ?_, .refl _,
    fun _ => ⟨rfl, hwaiting⟩, .pending ?_ hnone⟩
  · have hkeys := Keyed.hasKeys_filter (fun row => row.seatIndex ≠ seat.seatIndex)
      h.contested.seatKeys
    unfold Keyed.HasKeys players
    rwa [List.map_map]
  · exact h.contested.placeless player
      (List.Sublist.subset (List.filter_sublist.map playerOf) hplayer)
  · refine h.buyIn amount ?_
    rw [htable, ← heq, Option.map_some, Option.map_some, hbuyIn]
  · rw [htable, Option.map_some] at hstatus
    rw [Option.map_some, hsame]
    exact hstatus

/-- The table when its registration is closed. -/
def registered (state : Table) (tournament : Tournament) : Table :=
  { state with tournament := some { tournament with status := .running } }

theorem startTournamentHand_cases {table : Table} {userId : Nat} {now : Int}
    {fairnessSeed : FairnessSeedInput}
    (h : room.table.startTournamentHand sha256 now userId fairnessSeed = .ok table) :
    ∃ tournament running, room.table.tournament = some tournament ∧
      tournament.status ≠ .completed ∧
      (tournament.status ≠ .registering ∧ running = room.table ∨
        (registered room.table tournament).syncTournamentStandings = .ok running) ∧
      SameField running table := by
  obtain ⟨_, -, h⟩ := bind_eq_ok.mp h
  obtain ⟨tournament, htournament, h⟩ := bind_eq_ok.mp h
  obtain ⟨_, hopen, h⟩ := bind_eq_ok.mp h
  rw [throwIf_eq_ok] at hopen
  have htable := (ensureTournamentMetadata_eq_ok.mp htournament).2
  dsimp only at h
  split at h
  case isTrue =>
    obtain ⟨running, hrunning, h⟩ := bind_eq_ok.mp h
    exact ⟨tournament, running, htable, hopen, .inr hrunning, startHoldemHand_sameField h⟩
  case isFalse hstatus =>
    exact ⟨tournament, _, htable, hopen, .inl ⟨hstatus, rfl⟩, startHoldemHand_sameField h⟩

/-- The first hand closes the registration. -/
theorem Ranked.closeRegistration {tournament : Tournament} {running : Table}
    (h : Ranked room out) (htournament : room.table.tournament = some tournament)
    (hpaid : room.paid = [])
    (hsync : (registered room.table tournament).syncTournamentStandings = .ok running) :
    running.tournament.map Tournament.status = some .running ∧
      running.players = room.table.players ∧ Ranked { room with table := running } out := by
  have hstandings : room.table.standings = tournament.standings := by
    rw [standings, htournament]
    rfl
  have hrows := h.boarded.rows
  have habsent := h.boarded.absent
  rw [entries] at habsent
  rw [hstandings] at hrows habsent
  have hboard : Boarded (registered room.table tournament) out :=
    ⟨h.boarded.type, hrows, h.boarded.users, habsent⟩
  have hsynced := hboard.sync hsync
  refine ⟨hsynced.status, hsynced.players, hsynced.boarded, hsynced.isListed, ⟨?_, ?_⟩,
    hsynced.counted, ?_, ?_, ?_, ?_⟩
  · rw [hsynced.players]
    exact h.contested.seatIndexes
  · rw [hsynced.players]
    exact h.contested.placeless
  · intro amount hamount
    refine h.buyIn amount ?_
    rw [hsynced.buyIn] at hamount
    rw [htournament]
    exact hamount
  · rw [hsynced.players]
    exact h.places
  · intro hstatus
    rw [hsynced.status] at hstatus
    cases hstatus
  · exact .pending (by rw [hsynced.status]; simp [registered]) hpaid

/-- Players leave for good once the registration is closed. -/
def Goes (room : Room) (out : List Entry) (next : Room) (placed : List (Player × Nat)) : Prop :=
  Exits room placed ∧ Ranked next (out ++ placed.map entryOfPlaced) ∧
    (out ≠ [] → placed.length + next.table.players.length = room.table.players.length)

theorem Ranked.goes (h : Ranked next out)
    (hplayers : out ≠ [] → next.table.players = room.table.players) :
    ∃ placed, Goes room out next placed :=
  ⟨[], .nobody, by rwa [List.map_nil, List.append_nil], fun hout => by
    rw [hplayers hout]
    exact Nat.zero_add _⟩

theorem Ranked.step (h : Ranked room out) (hstep : Room.step sha256 room operation = .ok next) :
    ∃ placed, Goes room out next placed := by
  have hmoves : ∀ {now seatIndex action amount configured after next},
      room.table.actOnHoldemSeat now seatIndex action amount = .ok after →
      room.moveOn now configured after = .ok next → ∃ placed, Goes room out next placed := by
    intro now seatIndex action amount configured after next hact hmove
    obtain ⟨hactive, hseats, hfield⟩ := actOnHoldemSeat_sameField hact
    obtain ⟨⟨closed, recipients⟩, hpersist, hmove⟩ := bind_eq_ok.mp hmove
    obtain rfl := Except.ok.inj hmove
    obtain ⟨placed, hexits, hranked, hlength⟩ := h.persist hactive hseats hfield hpersist
    exact ⟨placed, hexits, hranked, fun _ => hlength⟩
  cases operation with
  | join entrant buyInAmount =>
      obtain ⟨table, hjoin, hstep⟩ := bind_eq_ok.mp hstep
      obtain rfl := Except.ok.inj hstep
      obtain ⟨rfl, hnext⟩ := h.join hjoin
      exact hnext.goes fun hout => absurd rfl hout
  | leave userId =>
      obtain ⟨table, hleave, hstep⟩ := bind_eq_ok.mp hstep
      obtain rfl := Except.ok.inj hstep
      obtain ⟨rfl, hnext⟩ := h.leave hleave
      exact hnext.goes fun hout => absurd rfl hout
  | start userId fairnessSeed now =>
      obtain ⟨table, hstart, hstep⟩ := bind_eq_ok.mp hstep
      obtain rfl := Except.ok.inj hstep
      obtain ⟨tournament, running, htournament, hopen, hrunning, hfield⟩ :=
        startTournamentHand_cases hstart
      have hstatus : room.table.tournament.map Tournament.status = some tournament.status := by
        rw [htournament, Option.map_some]
      have hpaid := h.unpaid (by rw [hstatus]; simpa using hopen)
      rcases hrunning with ⟨hclosed, rfl⟩ | hsync
      · have hnext : Ranked { room with table := table } out :=
          h.field hfield rfl fun hregistering =>
            absurd (Option.some.inj (hstatus.symm.trans hregistering)) hclosed
        exact hnext.goes fun _ => hfield.players
      · obtain ⟨hclosed, hplayers, hranked⟩ := h.closeRegistration htournament hpaid hsync
        have hnext : Ranked { room with table := table } out := by
          refine hranked.field hfield rfl fun hregistering => ?_
          cases hclosed.symm.trans hregistering
        exact hnext.goes fun _ => hfield.players.trans hplayers
  | act seatIndex action amount configured now =>
      obtain ⟨after, hact, hstep⟩ := bind_eq_ok.mp hstep
      exact hmoves hact hstep
  | timeout configured now =>
      obtain ⟨after, hact, hstep⟩ := bind_eq_ok.mp hstep
      rcases processExpiredHoldemTurn_cases hact with
        rfl | ⟨seatIndex, action, acted, rfl, -, hact⟩
      · obtain rfl := Except.ok.inj hstep
        exact h.goes fun _ => rfl
      · exact hmoves hact hstep
  | setSeatMode seatIndex sittingOut =>
      obtain ⟨table, hmode, hstep⟩ := bind_eq_ok.mp hstep
      obtain rfl := Except.ok.inj hstep
      have htouched := setHoldemSeatMode_touched hmode
      have hstatus : table.status = room.table.status := by
        obtain ⟨g, -, rfl⟩ := htouched
        rfl
      have hfield := SameField.reseated (fun before after h => by
        obtain ⟨_, _, rfl⟩ := h
        rfl) htouched
      have hnext : Ranked { room with table := table } out :=
        h.field hfield rfl fun hopen => hstatus.trans (h.registering hopen).2
      exact hnext.goes fun _ => hfield.players
  | touch seatIndex presence =>
      obtain rfl := Except.ok.inj hstep
      have hfield := SameField.updateSeat (f := touchSeat presence) (fun _ => rfl) room.table
        seatIndex
      have hnext : Ranked ⟨room.table.updateSeat seatIndex (touchSeat presence), room.paid⟩ out :=
        h.field hfield rfl fun hopen => (h.registering hopen).2
      exact hnext.goes fun _ => hfield.players

/-! ### Whole tournaments -/

theorem Reachable.ranked (h : Reachable sha256 room) : ∃ out, Ranked room out := by
  obtain ⟨opened, events, hopened, hrun⟩ := h
  refine hrun.invariant (I := fun room => ∃ out, Ranked room out) ?_ ⟨[], hopened.ranked⟩
  rintro room operation next ⟨out, hranked⟩ hstep
  obtain ⟨placed, -, hnext, -⟩ := hranked.step hstep
  exact ⟨_, hnext⟩

/-- What a run adds to those who have left. -/
theorem Ranked.run {events : List (Event Room RoomOperation)} (h : Ranked room out)
    (hrun : Run (Accepts (Room.step sha256)) room events later) :
    ∃ more, Ranked later (out ++ more) ∧
      (out ≠ [] → more.length + later.table.players.length = room.table.players.length) := by
  induction hrun generalizing out with
  | nil => exact ⟨[], by rwa [List.append_nil], fun _ => Nat.zero_add _⟩
  | cons hstep _ ih =>
      obtain ⟨placed, -, hnext, hlength⟩ := h.step hstep
      obtain ⟨more, hmore, hrest⟩ := ih hnext
      refine ⟨placed.map entryOfPlaced ++ more, by rwa [← List.append_assoc], fun hout => ?_⟩
      have hfirst := hlength hout
      have hlast := hrest (List.append_ne_nil_of_left_ne_nil hout _)
      rw [List.length_append, List.length_map]
      omega

theorem Ranked.placeless (h : Ranked room out) {player : Player}
    (hplayer : player ∈ room.table.players) : (entryOfPlayer player).place = none := by
  obtain ⟨data, hdata, hnone⟩ := h.contested.placeless player hplayer
  rw [entryOfPlayer, hdata]
  exact hnone

theorem Ranked.mem_out (h : Ranked room out) {entry : Entry} {place : Nat}
    (hentry : entry ∈ room.table.entries) (hplace : entry.place = some place) : entry ∈ out := by
  rcases List.mem_append.mp (h.listed.mem_iff.mp hentry) with hmem | hmem
  · obtain ⟨player, hplayer, rfl⟩ := List.mem_map.mp hmem
    rw [h.placeless hplayer] at hplace
    cases hplace
  · exact hmem

/-- **The places.** Every player at the table is without a place, and the others have, each their
own, all those from the last one up to the number of players left. -/
theorem places_used (h : Reachable sha256 room) {tournament : Tournament}
    (htournament : room.table.tournament = some tournament) :
    tournament.registeredCount = tournament.standings.length ∧
      (tournament.standings.filterMap Standing.finishingPlace).Perm
        (List.range' (room.table.seats.length + 1)
          (tournament.registeredCount - room.table.seats.length)) ∧
      (tournament.status = .completed → room.table.seats = []) := by
  obtain ⟨out, hranked⟩ := h.ranked
  have hcounted := hranked.counted tournament htournament
  have hentries : room.table.entries = tournament.standings.map entryOf := by
    rw [entries, standings, htournament]
    rfl
  have hseats : room.table.players.length = room.table.seats.length := List.length_map _
  have hlisted : (tournament.standings.map entryOf).Perm
      (room.table.players.map entryOfPlayer ++ out) := hentries ▸ hranked.listed
  have hlength := hlisted.length_eq
  rw [List.length_map, List.length_append, List.length_map] at hlength
  refine ⟨hcounted.registeredCount, ?_, fun hcompleted => ?_⟩
  · have hplaced := hlisted.filterMap Entry.place
    have hseated : (room.table.players.map entryOfPlayer).filterMap Entry.place = [] := by
      refine List.filterMap_eq_nil_iff.mpr fun entry hentry => ?_
      obtain ⟨player, hplayer, rfl⟩ := List.mem_map.mp hentry
      exact hranked.placeless hplayer
    have hout : (out.filterMap Entry.place).Perm
        (List.range' (room.table.players.length + 1) out.length) := by
      have hplaces := hranked.places.filterMap id
      rwa [List.filterMap_map, List.filterMap_map, Function.id_comp, Function.id_comp,
        List.filterMap_some] at hplaces
    rw [List.filterMap_map, List.filterMap_append, hseated, List.nil_append] at hplaced
    have hcount : tournament.registeredCount - room.table.seats.length = out.length := by
      rw [hcounted.registeredCount]
      omega
    rw [hcount, ← hseats]
    exact hplaced.trans hout
  · cases hranked.prizes with
    | pending hstatus _ =>
        rw [htournament, Option.map_some, hcompleted] at hstatus
        exact absurd rfl hstatus
    | awarded hnone _ _ => exact hnone

theorem Ranked.mem_rows (h : Ranked room out) {entry : Entry} (hentry : entry ∈ out) :
    ∃ row ∈ room.table.standings, entryOf row = entry :=
  List.mem_map.mp (h.listed.mem_iff.mpr (List.mem_append_right _ hentry))

/-- Whoever has a place is not one of the players. -/
theorem Ranked.user_ne (h : Ranked room out) {entry : Entry} {seat : Seat} (hentry : entry ∈ out)
    (hseat : seat ∈ room.table.seats) : entry.userId ≠ some seat.userId := by
  intro heq
  have hnodup := List.nodup_append.mp (h.listed.nodup h.boarded.rows)
  exact hnodup.2.2 _ (List.mem_map_of_mem (List.mem_map_of_mem hseat)) _
    (List.mem_map_of_mem hentry) heq.symm

/-- **A place is final**, and whoever is still playing when it is given finishes before it. -/
theorem place_final {events : List (Event Room RoomOperation)} (h : Reachable sha256 room)
    (hrun : Run (Accepts (Room.step sha256)) room events later) {row : Standing} {place : Nat}
    (hrow : row ∈ room.table.standings) (hplace : row.finishingPlace = some place) :
    (∃ row' ∈ later.table.standings, entryOf row' = entryOf row) ∧
      ∀ seat ∈ room.table.seats, ∀ row' ∈ later.table.standings, row'.userId = some seat.userId →
        ∀ place' ∈ row'.finishingPlace, place' < place := by
  obtain ⟨out, hranked⟩ := h.ranked
  obtain ⟨more, hlater, hlength⟩ := hranked.run hrun
  have hout : entryOf row ∈ out := hranked.mem_out (List.mem_map_of_mem hrow) hplace
  refine ⟨hlater.mem_rows (List.mem_append_left _ hout), fun seat hseat row' hrow' huser place'
    hplace' => ?_⟩
  have hmore : entryOf row' ∈ more := by
    rcases List.mem_append.mp (hlater.mem_out (List.mem_map_of_mem hrow') hplace') with hmem | hmem
    · exact absurd huser (hranked.user_ne hmem hseat)
    · exact hmem
  have hcount := hlength (List.ne_nil_of_mem hout)
  -- the places of those who left later are the ones below those of `out`
  have hlast : (more.map Entry.place).Perm
      ((List.range' (later.table.players.length + 1) more.length).map some) := by
    have hplaces := hlater.places
    have hnext : later.table.players.length + 1 + more.length = room.table.players.length + 1 := by
      omega
    rw [List.map_append, List.length_append, Nat.add_comm out.length, ← List.range'_append_1, hnext,
      List.map_append] at hplaces
    exact (List.perm_append_right_iff _).mp (List.perm_append_comm.trans (hplaces.trans
      (hranked.places.symm.append_left _)))
  have hbefore := hlast.mem_iff.mp (List.mem_map_of_mem (f := Entry.place) hmore)
  have hafter := hranked.places.mem_iff.mp (List.mem_map_of_mem (f := Entry.place) hout)
  rw [show (entryOf row').place = some place' from hplace'] at hbefore
  rw [show (entryOf row).place = some place from hplace] at hafter
  simp only [List.mem_map, List.mem_range'_1, Option.some.injEq, exists_eq_right] at hbefore hafter
  omega

/-! ### The order in a hand -/

/-- The shorter stack goes first, and of two equal ones the lower seat. -/
def GoesBefore (stackOf : Nat → Option Int) (first second : Player) : Prop :=
  (stackOf first.userId).getD 0 < (stackOf second.userId).getD 0 ∨
    (stackOf first.userId).getD 0 = (stackOf second.userId).getD 0 ∧
      first.seatIndex ≤ second.seatIndex

instance (stackOf : Nat → Option Int) : DecidableRel (GoesBefore stackOf) :=
  fun _ _ => inferInstanceAs (Decidable (_ ∨ _ ∧ _))

theorem pairwise_outgoing (stackOf : Nat → Option Int) (state : Table) :
    (outgoing stackOf state).Pairwise (GoesBefore stackOf) := by
  have htotal : Std.Total fun left right => GoesBefore stackOf (playerOf left) (playerOf right) :=
    ⟨fun left right => by simp only [GoesBefore]; omega⟩
  have htrans : IsTrans Seat fun left right =>
      GoesBefore stackOf (playerOf left) (playerOf right) :=
    ⟨fun a b c => by simp only [GoesBefore]; omega⟩
  unfold outgoing sortBustedSeats
  rw [List.pairwise_map]
  exact List.pairwise_insertionSort
    (fun left right => GoesBefore stackOf (playerOf left) (playerOf right)) _

theorem goesBefore_of_place_lt {stackOf : Nat → Option Int} {state : Table} {place : Nat}
    (hlength : (outgoing stackOf state).length ≤ place) {q q' : Player × Nat}
    (hq : q ∈ placesFrom (outgoing stackOf state) place)
    (hq' : q' ∈ placesFrom (outgoing stackOf state) place) (hlt : q.2 < q'.2) :
    GoesBefore stackOf q'.1 q.1 := by
  have hordered := pairwise_placesFrom (pairwise_outgoing stackOf state) hlength
  let S := fun a b : Player × Nat => a.2 < b.2 → GoesBefore stackOf b.1 a.1
  have hforth : (placesFrom (outgoing stackOf state) place).Pairwise S :=
    hordered.imp fun h hab => absurd (h.2.trans hab) (lt_irrefl _)
  have hback : (placesFrom (outgoing stackOf state) place).Pairwise (flip S) :=
    hordered.imp fun h _ => h.1
  exact List.Pairwise.forall_of_forall_of_flip (R := S) (fun a _ h => absurd h (lt_irrefl _))
    hforth hback hq hq' hlt

theorem length_outgoing_le (stackOf : Nat → Option Int) (state : Table) :
    (outgoing stackOf state).length ≤ state.players.length := by
  rw [outgoing, players, List.length_map, List.length_map, (sortBustedSeats_perm _).length_eq]
  exact List.length_filter_le _ _

theorem Exits.mem {placed : List (Player × Nat)} (h : Exits room placed) {q : Player × Nat}
    (hq : q ∈ placed) : q.1 ∈ room.table.players := by
  have hleaver : ∀ {leavers place}, q ∈ placesFrom leavers place → q.1 ∈ leavers := by
    intro leavers place hq
    rw [← map_fst_placesFrom leavers place]
    exact List.mem_map_of_mem hq
  have hout : ∀ {raked}, SameField room.table raked →
      q.1 ∈ outgoing (amountFor room.table.previousStacks) raked → q.1 ∈ room.table.players := by
    intro raked hfield hmem
    obtain ⟨seat, hseat, -, heq⟩ := mem_outgoing hmem
    rw [← heq, ← hfield.players]
    exact List.mem_map_of_mem hseat
  cases h with
  | nobody => cases hq
  | busted hfield => exact hout hfield (hleaver hq)
  | crowned hfield hchampion _ _ =>
      rcases List.mem_append.mp (hleaver hq) with hmem | hmem
      · exact hout hfield hmem
      · rw [List.mem_singleton.mp hmem, ← hfield.players]
        exact List.mem_map_of_mem hchampion

/-- Among those of a step, a smaller place than another is the first, or goes with the longer stack
before the last action. -/
theorem Exits.order {placed : List (Player × Nat)} (h : Exits room placed) {q q' : Player × Nat}
    (hq : q ∈ placed) (hq' : q' ∈ placed) (hlt : q.2 < q'.2) :
    q.2 = 1 ∨ GoesBefore (amountFor room.table.previousStacks) q'.1 q.1 := by
  cases h with
  | nobody => cases hq
  | @busted raked hfield =>
      have hlength := length_outgoing_le (amountFor room.table.previousStacks) raked
      rw [hfield.players] at hlength
      exact .inr (goesBefore_of_place_lt hlength hq hq' hlt)
  | @crowned raked champion hfield hchampion hchips hcount =>
      have hplaces : placesFrom (outgoing (amountFor room.table.previousStacks) raked ++
          [playerOf champion]) room.table.players.length =
          placesFrom (outgoing (amountFor room.table.previousStacks) raked)
            room.table.players.length ++ [(playerOf champion, 1)] := by
        rw [placesFrom_append, ← hcount, Nat.add_sub_cancel_left]
        rfl
      rw [hplaces] at hq hq'
      rcases List.mem_append.mp hq with hq | hq
      · rcases List.mem_append.mp hq' with hq' | hq'
        · exact .inr (goesBefore_of_place_lt (by omega) hq hq' hlt)
        · rw [List.mem_singleton.mp hq'] at hlt
          have hpositive := (map_snd_placesFrom (show (outgoing (amountFor
            room.table.previousStacks) raked).length ≤ room.table.players.length by omega)).mem_iff.mp
            (List.mem_map_of_mem (f := Prod.snd) hq)
          rw [List.mem_range'_1] at hpositive
          omega
      · exact .inl (by rw [List.mem_singleton.mp hq])

/-- **Who goes out in one hand.** Of two players who leave in the same step, the one with the longer
stack before the last action finishes before the other, unless it is the champion. -/
theorem elimination_order (h : Reachable sha256 room)
    (hstep : Room.step sha256 room operation = .ok next) {seat seat' : Seat}
    (hseat : seat ∈ room.table.seats) (hseat' : seat' ∈ room.table.seats) {row row' : Standing}
    (hrow : row ∈ next.table.standings) (hrow' : row' ∈ next.table.standings)
    (huser : row.userId = some seat.userId) (huser' : row'.userId = some seat'.userId)
    {place place' : Nat} (hplace : row.finishingPlace = some place)
    (hplace' : row'.finishingPlace = some place') (hlt : place < place') :
    place = 1 ∨ seat'.stackAmount < seat.stackAmount ∨
      seat'.stackAmount = seat.stackAmount ∧ seat'.seatIndex < seat.seatIndex := by
  obtain ⟨out, hranked⟩ := h.ranked
  obtain ⟨placed, hexits, hnext, hlength⟩ := hranked.step hstep
  have husers := hranked.userKeys
  have hplaced : ∀ {seat row place}, seat ∈ room.table.seats → row ∈ next.table.standings →
      row.userId = some seat.userId → row.finishingPlace = some place →
        (playerOf seat, place) ∈ placed := by
    intro seat row place hseat hrow huser hplace
    have hmem := hnext.mem_out (List.mem_map_of_mem hrow) hplace
    rcases List.mem_append.mp hmem with hout | hnew
    · exact absurd huser (hranked.user_ne hout hseat)
    · obtain ⟨⟨player, place'⟩, hq, heq⟩ := List.mem_map.mp hnew
      obtain ⟨other, hother, rfl⟩ := List.mem_map.mp (hexits.mem hq)
      have huserId : other.userId = seat.userId :=
        Option.some.inj ((congrArg Entry.userId heq).trans huser)
      have hplaceId : place' = place :=
        Option.some.inj ((congrArg Entry.place heq).trans hplace)
      rw [Keyed.eq_of_key_eq husers hother hseat huserId, hplaceId] at hq
      exact hq
  have hstack : ∀ {seat}, seat ∈ room.table.seats →
      amountFor room.table.previousStacks seat.userId = some seat.stackAmount := fun hseat =>
    amountFor_map Seat.stackAmount husers hseat
  rcases hexits.order (hplaced hseat hrow huser hplace)
    (hplaced hseat' hrow' huser' hplace') hlt with hfirst | hbefore
  · exact .inl hfirst
  · simp only [GoesBefore, playerOf, hstack hseat, hstack hseat', Option.getD_some] at hbefore
    rcases hbefore with hlonger | ⟨hsame, hle⟩
    · exact .inr (.inl hlonger)
    · refine .inr (.inr ⟨hsame, lt_of_le_of_ne hle fun heq => ?_⟩)
      obtain rfl := Keyed.eq_of_key_eq hranked.contested.seatKeys hseat' hseat heq
      have hrows := hnext.boarded.rows
      rw [Keyed.eq_of_key_eq hrows hrow hrow' (huser.trans huser'.symm), hplace'] at hplace
      exact hlt.ne (Option.some.inj hplace).symm

/-! ### The prizes -/

theorem distributeTournamentPayouts_nonneg {pool : Int} (hpool : 0 ≤ pool) (places : Nat) :
    ∀ amount ∈ distributeTournamentPayouts pool places, 0 ≤ amount := by
  have hratio : ∀ ratio : Int, 0 ≤ ratio → (pool * ratio).tdiv 10000 = pool * ratio / 10000 :=
    fun ratio hratio => Int.tdiv_eq_ediv_of_nonneg (Int.mul_nonneg hpool hratio)
  have hcases : max 1 (min 3 places) = 1 ∨ max 1 (min 3 places) = 2 ∨ max 1 (min 3 places) = 3 := by
    omega
  unfold distributeTournamentPayouts getTournamentPayoutRatios
  rcases hcases with h | h | h <;> rw [h] <;>
    simp only [distributeFrom, List.mem_cons, List.not_mem_nil, or_false, Nat.cast_ofNat] <;>
    intro amount hamount
  · omega
  · rw [hratio 6500 (by decide)] at hamount
    omega
  · rw [hratio 5000 (by decide), hratio 3000 (by decide)] at hamount
    omega

theorem resolveTournamentPayoutPlaces_idem (count : Nat) (requested : Option Nat) :
    resolveTournamentPayoutPlaces count
        (some (resolveTournamentPayoutPlaces count requested)) =
      resolveTournamentPayoutPlaces count requested := by
  have hbounds := resolveTournamentPayoutPlaces_bounds count requested
  generalize resolveTournamentPayoutPlaces count requested = places at hbounds
  unfold resolveTournamentPayoutPlaces
  split
  · omega
  · simp only [Option.getD_some]
    omega

/-- Where each place is taken, each share has its recipient. -/
theorem recipients_of_shares (standings : List Standing) (shares : List Int) (first : Nat)
    (htaken : ∀ place ∈ List.range' (first + 1) shares.length,
      ∃ row ∈ standings, row.finishingPlace = some place) :
    ∃ recipients : List PayoutRecipient,
      ((shares.zipIdx first).filterMap fun entry =>
        (standings.find? fun row => row.finishingPlace = some (entry.2 + 1)).map fun row =>
          { standing := row, place := entry.2 + 1, amount := entry.1 }) = recipients ∧
        recipients.map PayoutRecipient.amount = shares ∧
        recipients.map PayoutRecipient.place = List.range' (first + 1) shares.length ∧
        ∀ recipient ∈ recipients, recipient.standing ∈ standings ∧
          recipient.standing.finishingPlace = some recipient.place := by
  induction shares generalizing first with
  | nil => exact ⟨[], rfl, rfl, rfl, by simp⟩
  | cons share rest ih =>
      rw [List.length_cons, List.range'_succ] at htaken
      obtain ⟨recipients, hrest, hamounts, hplaces, hrecipients⟩ :=
        ih (first + 1) fun place hplace => htaken place (List.mem_cons_of_mem _ hplace)
      obtain ⟨taken, htaken, hplace⟩ := htaken (first + 1) List.mem_cons_self
      have hfound : (standings.find? fun row => row.finishingPlace = some (first + 1)).isSome :=
        List.find?_isSome.mpr ⟨taken, htaken, decide_eq_true hplace⟩
      obtain ⟨row, hrow⟩ := Option.isSome_iff_exists.mp hfound
      refine ⟨⟨row, first + 1, share⟩ :: recipients, ?_, ?_, ?_, ?_⟩
      · rw [List.zipIdx_cons, List.filterMap_cons, hrow, hrest]
        rfl
      · rw [List.map_cons, hamounts]
      · rw [List.map_cons, hplaces, List.length_cons, List.range'_succ]
      · intro recipient hrecipient
        rcases List.mem_cons.mp hrecipient with rfl | hrecipient
        · exact ⟨List.mem_of_find?_eq_some hrow, by simpa using List.find?_some hrow⟩
        · exact hrecipients recipient hrecipient

/-- **The prizes.** Nothing is paid before the tournament is over. Then the players at the first
places get the buy-ins of all, each place once and none of them less than nothing. -/
theorem prizes_paid (h : Reachable sha256 room) {tournament : Tournament}
    (htournament : room.table.tournament = some tournament) :
    (tournament.status ≠ .completed → room.paid = []) ∧
      (tournament.status = .completed →
        (room.paid.map PayoutRecipient.amount).sum =
            tournament.buyInAmount * tournament.registeredCount ∧
          (∀ recipient ∈ room.paid, 0 ≤ recipient.amount ∧
            ∃ row ∈ tournament.standings, entryOf row =
              ⟨recipient.standing.userId, some recipient.place⟩) ∧
          room.paid.map PayoutRecipient.place = List.range' 1 (tournament.payoutPlaces.getD 0)) := by
  obtain ⟨out, hranked⟩ := h.ranked
  cases hranked.prizes with
  | pending hstatus hpaid =>
      rw [htournament, Option.map_some] at hstatus
      exact ⟨fun _ => hpaid, fun hcompleted => absurd (congrArg some hcompleted) hstatus⟩
  | @awarded awardedAt crowned hseats hout hcrowned =>
      obtain ⟨rows, hrows, hclosed⟩ := hcrowned.closed
      obtain rfl := Option.some.inj (htournament.symm.trans hclosed)
      refine ⟨fun hopen => absurd rfl hopen, fun _ => ?_⟩
      have hcount : rows.length = crowned.standings.length := by
        have hkept := congrArg List.length
          (awardPrizes_standings (f := entryOf) (fun _ _ => rfl) awardedAt crowned)
        rwa [List.length_map, List.length_map, ← hrows.length_eq] at hkept
      have hplaces := hranked.places
      rw [players, hseats, List.map_nil, List.length_nil] at hplaces
      have htaken : ∀ place, 1 ≤ place → place ≤ crowned.standings.length →
          ∃ row ∈ crowned.standings, row.finishingPlace = some place := by
        intro place hone hle
        have hlength := hcrowned.entries.length_eq
        rw [List.length_map] at hlength
        have hmem : some place ∈ out.map Entry.place := hplaces.mem_iff.mpr
          (List.mem_map_of_mem (List.mem_range'_1.mpr ⟨by omega, by omega⟩))
        obtain ⟨entry, hentry, hplace⟩ := List.mem_map.mp hmem
        obtain ⟨row, hrow, rfl⟩ := List.mem_map.mp (hcrowned.entries.mem_iff.mpr hentry)
        exact ⟨row, hrow, hplace⟩
      have hbounds := resolveTournamentPayoutPlaces_bounds crowned.registeredCount
        crowned.payoutPlaces
      have hshares : (distributeTournamentPayouts crowned.prizePoolAmount
          (resolveTournamentPayoutPlaces crowned.registeredCount crowned.payoutPlaces)).length =
          resolveTournamentPayoutPlaces crowned.registeredCount crowned.payoutPlaces := by
        rw [distributeTournamentPayouts, distributeFrom_length, getTournamentPayoutRatios_length]
        omega
      have hregistered : 1 ≤ crowned.standings.length := by
        have hlength := hcrowned.entries.length_eq
        rw [List.length_map] at hlength
        rw [hlength]
        exact List.length_pos_iff.mpr hout
      obtain ⟨recipients, hpaid, hamounts, hpaidPlaces, hrecipients⟩ := recipients_of_shares
        crowned.standings (distributeTournamentPayouts crowned.prizePoolAmount
          (resolveTournamentPayoutPlaces crowned.registeredCount crowned.payoutPlaces)) 0
        fun place hplace => by
          rw [List.mem_range'_1] at hplace
          have hcounted := hcrowned.counted.registeredCount
          exact htaken place hplace.1 (by omega)
      have hroom : room.paid = recipients := hcrowned.recipients.trans hpaid
      rw [hroom]
      refine ⟨?_, fun recipient hrecipient => ⟨?_, ?_⟩, ?_⟩
      · rw [hamounts, distributeTournamentPayouts_sum, hcrowned.counted.prizePool, ← hcount]
        rfl
      · refine distributeTournamentPayouts_nonneg ?_ _ recipient.amount
          (hamounts ▸ List.mem_map_of_mem hrecipient)
        rw [hcrowned.counted.prizePool]
        exact Int.mul_nonneg (hranked.buyIn _ (by rw [hclosed]; rfl)) (Int.natCast_nonneg _)
      · obtain ⟨hmem, hplace⟩ := hrecipients recipient hrecipient
        have hentry : entryOf recipient.standing ∈ rows.map entryOf := by
          refine (hrows.map entryOf).mem_iff.mpr ?_
          rw [awardPrizes_standings (fun _ _ => rfl)]
          exact List.mem_map_of_mem hmem
        obtain ⟨row, hrow, heq⟩ := List.mem_map.mp hentry
        exact ⟨row, hrow, by rw [heq, entryOf, hplace]⟩
      · rw [hpaidPlaces, hshares]
        change _ = List.range' 1 (resolveTournamentPayoutPlaces rows.length
          (some (resolveTournamentPayoutPlaces crowned.registeredCount crowned.payoutPlaces)))
        rw [hcount, ← hcrowned.counted.registeredCount, resolveTournamentPayoutPlaces_idem]

/-! ### A tournament of one hand -/

/-- A hash function under which the button wins the first hand of two players. -/
def fiveHash : HashFunction where
  digest := fun _ => { hex := "00", readUInt32BE := 5 }
  hex_ne_empty := fun _ => by decide

def sampleRoom : Room where
  table :=
    { createdTable .tournament [] with
      tournament := some
        { status := .registering
          buyInAmount := 5000
          startingStackAmount := 5000
          prizePoolAmount := 0
          registeredCount := 0
          payoutPlaces := none
          allowRebuy := false
          allowCashOut := false
          completedAt := none
          standings := []
          payouts := [] } }
  paid := []

def sampleEntrant (userId : Nat) : Entrant :=
  ⟨userId, none, (samplePlayer userId 0).presence⟩

/-- Two players go all in. -/
def sampleRun : List RoomOperation :=
  [.join (sampleEntrant 7) 5000, .join (sampleEntrant 8) 5000, .start 7 sampleSeed 0,
    .act 0 .allIn .missing sampleRake 0]

def lastCall : RoomOperation :=
  .act 1 .call .missing sampleRake 0

theorem opened_sampleRoom : Opened sampleRoom :=
  ⟨rfl, rfl, rfl, ⟨_, rfl, rfl, by decide, by decide, rfl, rfl, rfl, rfl⟩, rfl⟩

/-- The room after `operations`, and after one more. -/
def sampleStep (operations : List RoomOperation) (last : RoomOperation) :
    Except ApiError (Room × Room) := do
  let (_, room) ← trace (Room.step fiveHash) sampleRoom operations
  let next ← Room.step fiveHash room last
  .ok (room, next)

theorem exists_sample (operations : List RoomOperation) (last : RoomOperation)
    (check : Room × Room → Bool)
    (h : (sampleStep operations last).toOption.any check = true) :
    ∃ room next, Reachable fiveHash room ∧ Room.step fiveHash room last = .ok next ∧
      Reachable fiveHash next ∧ check (room, next) = true := by
  cases hsample : sampleStep operations last with
  | error e =>
      rw [hsample] at h
      cases h
  | ok rooms =>
      rw [hsample] at h
      obtain ⟨⟨events, room⟩, htrace, hstep⟩ := bind_eq_ok.mp hsample
      obtain ⟨next, hnext, hrooms⟩ := bind_eq_ok.mp hstep
      obtain rfl : (room, next) = rooms := Except.ok.inj hrooms
      have hrun := Run.of_trace htrace
      exact ⟨room, next, ⟨_, _, opened_sampleRoom, hrun⟩, hnext,
        ⟨_, _, opened_sampleRoom, hrun.append (.cons hnext (.nil next))⟩, h⟩

theorem places_used_sample : ∃ room tournament, Reachable fiveHash room ∧
    room.table.tournament = some tournament ∧ tournament.registeredCount = 2 ∧
      (tournament.standings.filterMap Standing.finishingPlace).Perm
        (List.range' (room.table.seats.length + 1) (2 - room.table.seats.length)) := by
  obtain ⟨_, room, _, _, hreach, hcheck⟩ := exists_sample sampleRun lastCall
    (fun rooms => rooms.2.table.tournament.any fun tournament => tournament.registeredCount = 2)
    (by decide +kernel)
  obtain ⟨tournament, htournament, hcount⟩ := (Option.any_eq_true _ _).mp hcheck
  have hcount := of_decide_eq_true hcount
  have hplaces := (places_used hreach htournament).2.1
  rw [hcount] at hplaces
  exact ⟨room, tournament, hreach, htournament, hcount, hplaces⟩

theorem place_final_sample : ∃ room later : Room, ∃ row ∈ room.table.standings,
    Reachable fiveHash room ∧ row.finishingPlace = some 2 ∧
      ∃ row' ∈ later.table.standings, entryOf row' = entryOf row := by
  obtain ⟨room, next, hreach, hstep, -, hcheck⟩ := exists_sample (sampleRun ++ [lastCall])
    (.touch 0 (sampleEntrant 7).presence)
    (fun rooms => rooms.1.table.standings.any fun row => row.finishingPlace = some 2)
    (by decide +kernel)
  obtain ⟨row, hrow, hplace⟩ := List.any_eq_true.mp hcheck
  have hplace := of_decide_eq_true hplace
  exact ⟨room, next, row, hrow, hreach, hplace,
    (place_final hreach (.cons hstep (.nil next)) hrow hplace).1⟩

theorem elimination_order_sample : ∃ room next, ∃ seat ∈ room.table.seats,
    ∃ seat' ∈ room.table.seats, Reachable fiveHash room ∧
      Room.step fiveHash room lastCall = .ok next ∧
      ((1 : Nat) = 1 ∨ seat'.stackAmount < seat.stackAmount ∨
        seat'.stackAmount = seat.stackAmount ∧ seat'.seatIndex < seat.seatIndex) := by
  obtain ⟨room, next, hreach, hstep, -, hcheck⟩ := exists_sample sampleRun lastCall
    (fun rooms => decide (∃ seat ∈ rooms.1.table.seats, ∃ seat' ∈ rooms.1.table.seats,
      ∃ row ∈ rooms.2.table.standings, ∃ row' ∈ rooms.2.table.standings,
        row.userId = some seat.userId ∧ row'.userId = some seat'.userId ∧
          row.finishingPlace = some 1 ∧ row'.finishingPlace = some 2))
    (by decide +kernel)
  obtain ⟨seat, hseat, seat', hseat', row, hrow, row', hrow', huser, huser', hplace, hplace'⟩ :=
    of_decide_eq_true hcheck
  exact ⟨room, next, seat, hseat, seat', hseat', hreach, hstep,
    elimination_order hreach hstep hseat hseat' hrow hrow' huser huser' hplace hplace' (by decide)⟩

theorem prizes_paid_sample : ∃ room tournament, Reachable fiveHash room ∧
    room.table.tournament = some tournament ∧ tournament.status = .completed ∧
      (room.paid.map PayoutRecipient.amount).sum =
        tournament.buyInAmount * tournament.registeredCount := by
  obtain ⟨_, room, _, _, hreach, hcheck⟩ := exists_sample sampleRun lastCall
    (fun rooms => rooms.2.table.tournament.any fun tournament => tournament.status = .completed)
    (by decide +kernel)
  obtain ⟨tournament, htournament, hstatus⟩ := (Option.any_eq_true _ _).mp hcheck
  have hstatus := of_decide_eq_true hstatus
  exact ⟨room, tournament, hreach, htournament, hstatus,
    ((prizes_paid hreach htournament).2 hstatus).1⟩

end Room

end RewardSystem.Holdem
