import RewardSystem.Holdem.Standings

/-!
# The places of a hand

When a hand has ended, the players without chips finish one after another. If one player is left
then, that player finishes first, and the tournament is over.
-/

namespace RewardSystem.Holdem

open ApiError

/-- The entries of players other than `players` are not affected by their departure. -/
theorem departed_eq_self {players : List Player} {entries : List Entry}
    (h : ∀ entry ∈ entries, ∀ player ∈ players, entry.userId ≠ some player.userId) :
    departed players entries = entries := by
  refine List.filter_eq_self.mpr fun entry hentry => decide_eq_true fun hmem => ?_
  obtain ⟨player, hplayer, heq⟩ := List.mem_map.mp hmem
  exact h entry hentry player hplayer heq.symm

namespace Table

variable {state next : Table} {out : List Entry} {awardedAt : Int} {seat : Seat} {place : Nat}
  {eliminatedAt : Option Int}

/-- Every row is that of a player at the table, or of one of those who are out. -/
def Listed (state : Table) (out : List Entry) : Prop :=
  state.entries.Perm (state.players.map entryOfPlayer ++ out)

/-- The users of the rows are those of the players and of `out`. -/
theorem Listed.nodup (h : Listed state out)
    (hrows : Keyed.HasKeys Standing.userId state.standings) :
    ((state.players.map fun player => some player.userId) ++ out.map Entry.userId).Nodup := by
  have hperm := (h.map Entry.userId).nodup_iff.mp (by rw [entries, List.map_map]; exact hrows)
  rwa [List.map_append, List.map_map] at hperm

theorem Listed.boarded (h : Listed state out) (htype : state.isTournamentTable)
    (hrows : Keyed.HasKeys Standing.userId state.standings) : Boarded state out := by
  have hnodup := List.nodup_append.mp (h.nodup hrows)
  refine ⟨htype, hrows, ?_, ?_⟩
  · have husers := hnodup.1
    rw [← Function.comp_def some Player.userId, ← List.map_map] at husers
    exact husers.of_map some
  · refine (h.filter _).trans ?_
    change (departed state.players (state.players.map entryOfPlayer ++ out)).Perm out
    rw [departed_append, departed_self, List.nil_append]
    refine .of_eq (departed_eq_self fun entry hentry player hplayer heq => ?_)
    exact hnodup.2.2 _ (List.mem_map_of_mem hplayer) _ (List.mem_map_of_mem hentry) heq.symm

theorem Synced.isListed (h : Synced state next out) : Listed next out :=
  h.listed

/-! ## One player finishes -/

theorem ensureSeatTournamentMetadata_eq_ok {data : SeatTournament} :
    ensureSeatTournamentMetadata seat = .ok data ↔ seat.tournament = some data := by
  unfold ensureSeatTournamentMetadata
  split
  case h_1 hnone => simp [hnone]
  case h_2 hsome => simp [hsome]

/-- What finishing does to a player. -/
def finishPlayer (place : Nat) (eliminatedAt : Option Int) (player : Player) : Player :=
  { player with
    tournament := player.tournament.map fun tournament =>
      { tournament with
        finishingPlace := some place
        eliminatedAt := eliminatedAt.or tournament.eliminatedAt
        prizeAmount := none } }

theorem finishes_updateSeat : Finishes [(playerOf seat, place)] state
    (state.updateSeat seat.seatIndex (finishSeat place eliminatedAt)) := by
  refine ⟨fun player => if player.seatIndex = seat.seatIndex then
    finishPlayer place eliminatedAt player else player, ?_, fun player => ?_⟩
  · simp only [players, updateSeat, Keyed.modify, List.map_map]
    refine List.map_congr_left fun row _ => ?_
    by_cases hrow : row.seatIndex = seat.seatIndex
    · simp [hrow, playerOf, finishPlayer, finishSeat]
    · simp [hrow, playerOf]
  · by_cases hindex : player.seatIndex = seat.seatIndex
    · refine ⟨by simp [hindex, finishPlayer], by simp [hindex, finishPlayer], fun hnot => ?_,
        fun q hq _ hsome => ?_⟩
      · simp [hindex, playerOf] at hnot
      · obtain ⟨data, hdata⟩ := Option.isSome_iff_exists.mp hsome
        rw [List.mem_singleton.mp hq]
        simp [entryOfPlayer, finishPlayer, hdata, hindex]
    · refine ⟨by simp [hindex], by simp [hindex], fun _ => if_neg hindex, fun q hq heq _ => ?_⟩
      rw [List.mem_singleton.mp hq] at heq
      exact absurd heq hindex

/-- What it brings about that players finish. -/
structure Eliminated (placed : List (Player × Nat)) (state next : Table) (out : List Entry) : Prop
    extends Amended state next where
  boarded : Boarded next out
  listed : Listed next out
  finishes : Finishes placed state next

theorem Finishes.nil (state : Table) : Finishes [] state state :=
  ⟨fun player => player, (List.map_id _).symm, fun _ => ⟨rfl, rfl, fun _ => rfl, fun _ hq => by cases hq⟩⟩

theorem Boarded.finishSeat (hboard : Boarded state out) :
    Boarded (state.updateSeat seat.seatIndex (finishSeat place eliminatedAt)) out := by
  have husers := (@finishes_updateSeat state seat place eliminatedAt).users
  refine ⟨hboard.type, hboard.rows, ?_, ?_⟩
  · unfold Keyed.HasKeys
    rw [husers]
    exact hboard.users
  · rw [departed_congr husers]
    exact hboard.absent

/-- A player finishes, and the rows are rewritten. -/
theorem eliminated_one (hboard : Boarded state out)
    (h : (state.updateSeat seat.seatIndex
      (Table.finishSeat place eliminatedAt)).syncTournamentStandings = .ok next) :
    Eliminated [(playerOf seat, place)] state next out ∧
      ∀ tournament, next.tournament = some tournament → Counted tournament := by
  have hsynced := hboard.finishSeat.sync h
  obtain ⟨g, hg, hmarks⟩ := @finishes_updateSeat state seat place eliminatedAt
  exact ⟨⟨(Amended.of_seats _).trans hsynced.toAmended, hsynced.boarded, hsynced.listed,
    g, hsynced.players.trans hg, hmarks⟩, hsynced.counted⟩

theorem Eliminated.append {placed placed' : List (Player × Nat)} {last : Table}
    (h : Eliminated placed state next out) (h' : Eliminated placed' next last out)
    (hdisjoint : ∀ q ∈ placed, ∀ q' ∈ placed', q.1.seatIndex ≠ q'.1.seatIndex) :
    Eliminated (placed ++ placed') state last out :=
  ⟨h.toAmended.trans h'.toAmended, h'.boarded, h'.listed, h.finishes.append h'.finishes hdisjoint⟩

/-- The loop over the players without chips. -/
theorem eliminateSeats_eliminated {seats : List Seat} (hboard : Boarded state out)
    (hlisted : Listed state out) (hkeys : Keyed.HasKeys Seat.seatIndex seats)
    (h : eliminateSeats awardedAt seats place state = .ok next) :
    Eliminated (placesFrom (seats.map playerOf) place) state next out := by
  induction seats generalizing state place with
  | nil =>
      obtain rfl : state = next := Except.ok.inj h
      exact ⟨⟨rfl, rfl, rfl⟩, hboard, hlisted, .nil state⟩
  | cons seat rest ih =>
      obtain ⟨synced, hsynced, h⟩ := bind_eq_ok.mp h
      obtain ⟨hfirst, -⟩ := eliminated_one hboard hsynced
      have hnodup : seat.seatIndex ∉ rest.map Seat.seatIndex ∧ Keyed.HasKeys Seat.seatIndex rest :=
        List.nodup_cons.mp hkeys
      refine hfirst.append (ih hfirst.boarded hfirst.listed hnodup.2 h) fun q hq q' hq' heq => ?_
      rw [List.mem_singleton.mp hq] at heq
      have hplayer : q'.1 ∈ rest.map playerOf := by
        rw [← map_fst_placesFrom (rest.map playerOf) (place - 1)]
        exact List.mem_map_of_mem hq'
      obtain ⟨row, hrow, hrowq⟩ := List.mem_map.mp hplayer
      exact hnodup.1 (List.mem_map.mpr ⟨row, hrow, by rw [← hrowq] at heq; exact heq.symm⟩)

/-! ## The end of a hand -/

/-- Every player has a seat, and nobody at the table has finished. -/
structure Contested (state : Table) : Prop where
  seatIndexes : Keyed.HasKeys Player.seatIndex state.players
  placeless : ∀ player ∈ state.players,
    ∃ data, player.tournament = some data ∧ data.finishingPlace = none

theorem Contested.of_mem (h : Contested state) (hseat : seat ∈ state.seats) :
    ∃ data, seat.tournament = some data ∧ data.finishingPlace = none :=
  h.placeless (playerOf seat) (List.mem_map_of_mem hseat)

theorem Contested.seatKeys (h : Contested state) : Keyed.HasKeys Seat.seatIndex state.seats := by
  have hkeys := h.seatIndexes
  unfold Keyed.HasKeys players at hkeys
  rwa [List.map_map] at hkeys

theorem seatsInTournament_eq_filter {check : Seat → SeatTournament → Bool} {keep : Seat → Bool}
    {found : List Seat}
    (hkeep : ∀ seat ∈ state.seats, ∀ data, seat.tournament = some data →
      check seat data = keep seat)
    (h : state.seatsInTournament check = .ok found) : found = state.seats.filter keep := by
  unfold seatsInTournament at h
  generalize state.seats = seats at hkeep h
  obtain ⟨rows, hrows, hfound⟩ := bind_eq_ok.mp h
  obtain rfl := Except.ok.inj hfound
  clear h hfound
  induction seats generalizing rows with
  | nil =>
      obtain rfl : [] = rows := Except.ok.inj hrows
      rfl
  | cons seat rest ih =>
      rw [List.mapM_cons] at hrows
      obtain ⟨row, hrow, hrows⟩ := bind_eq_ok.mp hrows
      obtain ⟨others, hothers, hrows⟩ := bind_eq_ok.mp hrows
      obtain rfl : row :: others = rows := Except.ok.inj hrows
      obtain ⟨data, hdata, hrow⟩ := bind_eq_ok.mp hrow
      obtain rfl := Except.ok.inj hrow
      have hrest := ih (fun other hother => hkeep other (List.mem_cons_of_mem _ hother)) others
        hothers
      have hseat := hkeep seat List.mem_cons_self data (ensureSeatTournamentMetadata_eq_ok.mp hdata)
      rw [List.filter_cons, List.filter_cons, hseat]
      cases keep seat
      · exact hrest
      · exact congrArg (List.cons seat) hrest

def hasNoChips (seat : Seat) : Bool :=
  seat.stackAmount ≤ 0

theorem Contested.busted (h : Contested state) {found : List Seat}
    (hfound : state.seatsInTournament busted = .ok found) :
    found = state.seats.filter hasNoChips := by
  refine seatsInTournament_eq_filter (fun seat hseat data hdata => ?_) hfound
  obtain ⟨data', hdata', hnone⟩ := h.of_mem hseat
  obtain rfl := Option.some.inj (hdata.symm.trans hdata')
  simp [Table.busted, hasNoChips, hnone]

theorem Contested.contending (h : Contested state) {found : List Seat}
    (hfound : state.seatsInTournament contending = .ok found) :
    found = state.seats.filter fun seat => !hasNoChips seat := by
  refine seatsInTournament_eq_filter (fun seat hseat data hdata => ?_) hfound
  obtain ⟨data', hdata', hnone⟩ := h.of_mem hseat
  obtain rfl := Option.some.inj (hdata.symm.trans hdata')
  have hchips : decide (0 < seat.stackAmount) = !decide (seat.stackAmount ≤ 0) := by
    rw [← decide_not, decide_eq_decide, not_le]
  simp [Table.contending, hasNoChips, hnone, hchips]

theorem placesFrom_append (players rest : List Player) (place : Nat) :
    placesFrom (players ++ rest) place =
      placesFrom players place ++ placesFrom rest (place - players.length) := by
  induction players generalizing place with
  | nil => rfl
  | cons player players ih =>
      rw [List.cons_append, placesFrom, ih, placesFrom, List.length_cons, Nat.add_comm,
        Nat.sub_add_eq]
      rfl

theorem map_seatIndex_placesFrom (leavers : List Player) (place : Nat) :
    ((placesFrom leavers place).map fun q => q.1.seatIndex) = leavers.map Player.seatIndex := by
  rw [← map_fst_placesFrom leavers place, List.map_map, map_fst_placesFrom]
  rfl

/-- The players who are still in when `leavers` have gone. -/
def playersWithout (leavers : List Player) (state : Table) : List Player :=
  state.players.filter fun player => player.seatIndex ∉ leavers.map Player.seatIndex

/-- The rows once `leavers` have finished. -/
theorem Eliminated.entries {leavers : List Player}
    (h : Eliminated (placesFrom leavers place) state next out) (hcontested : Contested state)
    (hleavers : Keyed.HasKeys Player.seatIndex leavers)
    (hmem : ∀ player ∈ leavers, player ∈ state.players) :
    next.entries.Perm ((playersWithout leavers state).map entryOfPlayer ++
      (out ++ (placesFrom leavers place).map entryOfPlaced)) := by
  have hplaced : ∀ q ∈ placesFrom leavers place, q.1 ∈ leavers := fun q hq => by
    rw [← map_fst_placesFrom leavers place]
    exact List.mem_map_of_mem hq
  have hfinished := h.finishes.entries hcontested.seatIndexes
    (by rw [map_seatIndex_placesFrom]; exact hleavers) fun q hq => by
      obtain ⟨data, hdata, -⟩ := hcontested.placeless q.1 (hmem q.1 (hplaced q hq))
      exact ⟨hmem q.1 (hplaced q hq), by rw [hdata]; rfl⟩
  rw [map_seatIndex_placesFrom] at hfinished
  refine h.listed.trans ((hfinished.append_right out).trans ?_)
  rw [List.append_assoc]
  exact List.perm_append_comm.append_left _

theorem Eliminated.stay {leavers : List Player}
    (h : Eliminated (placesFrom leavers place) state next out) :
    playersWithout leavers next = playersWithout leavers state := by
  have hremaining := h.finishes.remaining
  simp only [map_seatIndex_placesFrom] at hremaining
  exact hremaining

/-! ### The prizes -/

theorem awardPrizes_standings {β : Type*} {f : Standing → β}
    (hf : ∀ row amount, f { row with prizeAmount := amount } = f row) (awardedAt : Int)
    (tournament : Tournament) :
    (awardPrizes awardedAt tournament).standings.map f = tournament.standings.map f := by
  unfold awardPrizes
  generalize payoutRecipients tournament = recipients
  generalize tournament.standings = standings
  induction recipients generalizing standings with
  | nil => rfl
  | cons recipient rest ih =>
      have hone : (Keyed.modify Standing.userId recipient.standing.userId
          (fun row => { row with prizeAmount := some recipient.amount }) standings).map f =
          standings.map f := by
        rw [Keyed.modify, List.map_map]
        refine List.map_congr_left fun row _ => ?_
        rw [Function.comp_apply]
        split
        · exact hf row _
        · rfl
      exact (ih _).trans hone

/-- The tournament when it is over. -/
def completed (awardedAt : Int) (tournament : Tournament) : Tournament :=
  { awardPrizes awardedAt tournament with
    status := .completed
    completedAt := some awardedAt }

/-- The tournament `crowned`, in which everybody has finished, is closed. -/
structure Crowned (awardedAt : Int) (crowned : Tournament) (out : List Entry) (next : Table)
    (recipients : List PayoutRecipient) : Prop where
  counted : Counted crowned
  keys : Keyed.HasKeys Standing.userId crowned.standings
  entries : (crowned.standings.map entryOf).Perm out
  recipients : recipients = payoutRecipients crowned
  closed : ∃ rows, rows.Perm (awardPrizes awardedAt crowned).standings ∧
    next.tournament = some ((completed awardedAt crowned).withStandings rows)

/-- Who goes out, in this order, when a hand has ended. -/
def outgoing (previousStacks : Nat → Option Int) (state : Table) : List Player :=
  (sortBustedSeats previousStacks (state.seats.filter hasNoChips)).map playerOf

/-- Either nobody else leaves, or the one player with chips is the champion. -/
inductive Verdict (awardedAt : Int) (previousStacks : Nat → Option Int) (state : Table)
    (out : List Entry) (next : Table) : List PayoutRecipient → List Player → Prop
  | plays (hstatus : next.tournament.map Tournament.status =
      state.tournament.map Tournament.status) :
      Verdict awardedAt previousStacks state out next [] (outgoing previousStacks state)
  | crowns {champion : Seat} {crowned : Tournament} {recipients : List PayoutRecipient}
      (hchampion : champion ∈ state.seats) (hchips : hasNoChips champion = false)
      (hseats : next.seats = [])
      (hcrowned : Crowned awardedAt crowned
        (out ++ (placesFrom (outgoing previousStacks state ++ [playerOf champion])
          state.players.length).map entryOfPlaced) next recipients) :
      Verdict awardedAt previousStacks state out next recipients
        (outgoing previousStacks state ++ [playerOf champion])

/-- What the end of a hand comes to when `leavers` leave. -/
structure HandClosed (state : Table) (out : List Entry) (next : Table) (leavers : List Player) :
    Prop where
  keys : Keyed.HasKeys Player.seatIndex leavers
  mem : ∀ player ∈ leavers, player ∈ state.players
  players : next.players = playersWithout leavers state
  boarded : Boarded next
    (out ++ (placesFrom leavers state.players.length).map entryOfPlaced)
  listed : Listed next (out ++ (placesFrom leavers state.players.length).map entryOfPlaced)
  counted : ∀ tournament, next.tournament = some tournament → Counted tournament
  buyIn : next.tournament.map Tournament.buyInAmount =
    state.tournament.map Tournament.buyInAmount

section Outgoing

variable {previousStacks : Nat → Option Int}

theorem sortBustedSeats_perm (seats : List Seat) :
    (sortBustedSeats previousStacks seats).Perm seats :=
  List.perm_insertionSort _ seats

theorem mem_outgoing {player : Player} (hplayer : player ∈ outgoing previousStacks state) :
    ∃ seat ∈ state.seats, hasNoChips seat = true ∧ playerOf seat = player := by
  obtain ⟨seat, hseat, rfl⟩ := List.mem_map.mp hplayer
  obtain ⟨hmem, hchips⟩ := List.mem_filter.mp ((sortBustedSeats_perm _).subset hseat)
  exact ⟨seat, hmem, hchips, rfl⟩

theorem outgoing_seatIndexes : ((outgoing previousStacks state).map Player.seatIndex).Perm
    ((state.seats.filter hasNoChips).map Seat.seatIndex) := by
  rw [outgoing, List.map_map]
  exact (sortBustedSeats_perm _).map _

theorem Contested.outgoing_keys (h : Contested state) :
    Keyed.HasKeys Player.seatIndex (outgoing previousStacks state) :=
  outgoing_seatIndexes.nodup_iff.mpr (Keyed.hasKeys_filter hasNoChips h.seatKeys)

end Outgoing

section Settle

variable {previousStacks : Nat → Option Int} {recipients : List PayoutRecipient}
  {leavers : List Player} {remaining eliminated : Table}

/-- The rows are rewritten for the table that `leavers` have left. -/
theorem Eliminated.close
    (h : Eliminated (placesFrom leavers place) state eliminated out)
    (hsync : remaining.syncTournamentStandings = .ok next)
    (hcontested : Contested state) (hkeys : Keyed.HasKeys Player.seatIndex leavers)
    (hmem : ∀ player ∈ leavers, player ∈ state.players)
    (htype : remaining.isTournamentTable)
    (hrows : remaining.standings.map Standing.userId = eliminated.standings.map Standing.userId)
    (hentries : remaining.entries = eliminated.entries)
    (hplayers : remaining.players = playersWithout leavers state) :
    Synced remaining next (out ++ (placesFrom leavers place).map entryOfPlaced) := by
  have hlisted : Listed remaining (out ++ (placesFrom leavers place).map entryOfPlaced) := by
    unfold Listed
    rw [hentries, hplayers]
    exact h.entries hcontested hkeys hmem
  have hrowKeys : Keyed.HasKeys Standing.userId remaining.standings := by
    unfold Keyed.HasKeys
    rw [hrows]
    exact h.boarded.rows
  exact (hlisted.boarded htype hrowKeys).sync hsync

theorem Synced.handClosed
    (h : Synced remaining next
      (out ++ (placesFrom leavers state.players.length).map entryOfPlaced))
    (hkeys : Keyed.HasKeys Player.seatIndex leavers)
    (hmem : ∀ player ∈ leavers, player ∈ state.players)
    (hplayers : remaining.players = playersWithout leavers state)
    (hbuyIn : remaining.tournament.map Tournament.buyInAmount =
      state.tournament.map Tournament.buyInAmount) :
    HandClosed state out next leavers where
  keys := hkeys
  mem := hmem
  players := h.players.trans hplayers
  boarded := h.boarded
  listed := h.isListed
  counted := h.counted
  buyIn := h.toAmended.buyIn.trans hbuyIn

/-- The table without the seats that are out. -/
def remainingTable (state : Table) (tournament : Tournament) (bustedIndexes : List Nat) : Table :=
  { state with
    seats := state.seats.filter fun seat => seat.seatIndex ∉ bustedIndexes
    tournament := some { tournament with completedAt := none } }

/-- Who has no chips leaves, and whoever has some stays. -/
theorem closed_of_remaining {tournament : Tournament} {bustedIndexes : List Nat}
    (helim : Eliminated (placesFrom (outgoing previousStacks state) state.players.length) state
      eliminated out)
    (hcontested : Contested state)
    (hindexes : bustedIndexes = (state.seats.filter hasNoChips).map Seat.seatIndex)
    (htournament : eliminated.tournament = some tournament)
    (hsync : (remainingTable eliminated tournament bustedIndexes).syncTournamentStandings =
      .ok next) :
    HandClosed state out next (outgoing previousStacks state) ∧
      next.tournament.map Tournament.status = state.tournament.map Tournament.status := by
  have hmem : ∀ player ∈ outgoing previousStacks state, player ∈ state.players := by
    intro player hplayer
    obtain ⟨seat, hseat, -, rfl⟩ := mem_outgoing hplayer
    exact List.mem_map_of_mem hseat
  have hplayers : (remainingTable eliminated tournament bustedIndexes).players =
      playersWithout (outgoing previousStacks state) state := by
    rw [← helim.stay]
    simp only [remainingTable, players, playersWithout, List.filter_map, hindexes]
    refine congrArg _ (List.filter_congr fun seat _ => ?_)
    simp only [Function.comp_apply, outgoing_seatIndexes.mem_iff]
    rfl
  have hstandings : eliminated.standings = tournament.standings := by
    rw [standings, htournament]
    rfl
  have hsynced := helim.close hsync hcontested hcontested.outgoing_keys hmem helim.boarded.type
    (by rw [hstandings]; rfl) (by unfold Table.entries; rw [hstandings]; rfl) hplayers
  refine ⟨hsynced.handClosed hcontested.outgoing_keys hmem hplayers
    (by rw [← helim.buyIn, htournament]; rfl), ?_⟩
  rw [hsynced.status, ← helim.status, htournament]
  rfl

/-- What is left of a table that nobody sits at any more. -/
structure Cleared (state next : Table) : Prop where
  seats : next.seats = []
  tournament : next.tournament = state.tournament
  tableType : next.tableType = state.tableType

theorem clearTableAfterCashout_cleared (h : state.seats = []) :
    Cleared state state.clearTableAfterCashout := by
  unfold clearTableAfterCashout
  rw [if_pos h]
  exact ⟨h, rfl, rfl⟩

/-- The champion finishes too, and the table is cleared. -/
theorem closed_of_champion {champion : Seat} {crowned : Table} {tournament : Tournament}
    (helim : Eliminated (placesFrom (outgoing previousStacks state) state.players.length) state
      eliminated out)
    (hcontested : Contested state)
    (hactive : (state.seats.filter fun seat => !hasNoChips seat) = [champion])
    (hcrowned : (eliminated.updateSeat champion.seatIndex
      (Table.finishSeat 1 none)).syncTournamentStandings = .ok crowned)
    (htournament : crowned.tournament = some tournament)
    (hsync : ({ crowned with
      seats := []
      tournament := some (completed awardedAt tournament)
      } : Table).clearTableAfterCashout.syncTournamentStandings = .ok next) :
    HandClosed state out next (outgoing previousStacks state ++ [playerOf champion]) ∧
      Verdict awardedAt previousStacks state out next (payoutRecipients tournament)
        (outgoing previousStacks state ++ [playerOf champion]) := by
  have hchampion : champion ∈ state.seats ∧ hasNoChips champion = false := by
    have hmem : champion ∈ state.seats.filter fun seat => !hasNoChips seat := by
      rw [hactive]
      exact List.mem_singleton_self champion
    have hfilter := List.mem_filter.mp hmem
    exact ⟨hfilter.1, by simpa using hfilter.2⟩
  have hfresh : ∀ player ∈ outgoing previousStacks state, player.seatIndex ≠ champion.seatIndex := by
    intro player hplayer heq
    obtain ⟨seat, hseat, hchips, rfl⟩ := mem_outgoing hplayer
    have hsame := Keyed.eq_of_key_eq hcontested.seatKeys hseat hchampion.1 heq
    rw [hsame, hchampion.2] at hchips
    cases hchips
  have hkeys : Keyed.HasKeys Player.seatIndex
      (outgoing previousStacks state ++ [playerOf champion]) := by
    unfold Keyed.HasKeys
    rw [List.map_append, List.nodup_append]
    refine ⟨hcontested.outgoing_keys, List.nodup_singleton _, fun index hindex other hother => ?_⟩
    obtain ⟨player, hplayer, rfl⟩ := List.mem_map.mp hindex
    rw [List.mem_singleton.mp hother]
    exact hfresh player hplayer
  have hmem : ∀ player ∈ outgoing previousStacks state ++ [playerOf champion],
      player ∈ state.players := by
    intro player hplayer
    rcases List.mem_append.mp hplayer with hplayer | hplayer
    · obtain ⟨seat, hseat, -, rfl⟩ := mem_outgoing hplayer
      exact List.mem_map_of_mem hseat
    · rw [List.mem_singleton.mp hplayer]
      exact List.mem_map_of_mem hchampion.1
  have hlength : state.players.length = (outgoing previousStacks state).length + 1 := by
    have hsplit := @List.length_eq_length_filter_add _ state.seats hasNoChips
    rw [hactive] at hsplit
    have hout : (outgoing previousStacks state).length =
        (state.seats.filter hasNoChips).length := by
      rw [outgoing, List.length_map]
      exact (sortBustedSeats_perm _).length_eq
    rw [players, List.length_map, hsplit, hout]
    rfl
  have hplaces : placesFrom (outgoing previousStacks state ++ [playerOf champion])
      state.players.length =
      placesFrom (outgoing previousStacks state) state.players.length ++
        [(playerOf champion, 1)] := by
    rw [placesFrom_append, hlength, Nat.add_sub_cancel_left]
    rfl
  obtain ⟨hlast, hcounted⟩ := eliminated_one helim.boarded hcrowned
  have hall := helim.append hlast fun q hq q' hq' => by
    rw [List.mem_singleton.mp hq']
    refine hfresh q.1 ?_
    rw [← map_fst_placesFrom (outgoing previousStacks state) state.players.length]
    exact List.mem_map_of_mem hq
  rw [← hplaces] at hall
  have hnobody : playersWithout (outgoing previousStacks state ++ [playerOf champion]) state =
      [] := by
    refine List.filter_eq_nil_iff.mpr fun player hplayer => ?_
    obtain ⟨seat, hseat, rfl⟩ := List.mem_map.mp hplayer
    rw [decide_eq_true_eq, not_not, List.map_append, List.mem_append]
    by_cases hchips : hasNoChips seat = true
    · refine .inl (outgoing_seatIndexes.mem_iff.mpr ?_)
      exact List.mem_map_of_mem (List.mem_filter.mpr ⟨hseat, hchips⟩)
    · have hseat' : seat ∈ state.seats.filter fun seat => !hasNoChips seat :=
        List.mem_filter.mpr ⟨hseat, by simpa using hchips⟩
      rw [hactive] at hseat'
      rw [List.mem_singleton.mp hseat']
      exact .inr (List.mem_singleton_self _)
  have hstandings : crowned.standings = tournament.standings := by
    rw [standings, htournament]
    rfl
  have hentries := hall.entries hcontested hkeys hmem
  rw [hnobody, List.map_nil, List.nil_append, Table.entries, hstandings] at hentries
  have hcleared := @clearTableAfterCashout_cleared { crowned with
    seats := []
    tournament := some (completed awardedAt tournament) } rfl
  generalize clearTableAfterCashout _ = cleared at hsync hcleared
  have hawarded : cleared.standings = (awardPrizes awardedAt tournament).standings := by
    rw [standings, hcleared.tournament]
    rfl
  have htype : cleared.isTournamentTable := hcleared.tableType.trans hall.boarded.type
  have hempty : cleared.players = [] := by rw [players, hcleared.seats]; rfl
  have hsynced := hall.close hsync hcontested hkeys hmem htype
    (by rw [hawarded, hstandings]; exact awardPrizes_standings (fun _ _ => rfl) awardedAt tournament)
    (by
      unfold Table.entries
      rw [hawarded, hstandings]
      exact awardPrizes_standings (fun _ _ => rfl) awardedAt tournament)
    (hempty.trans hnobody.symm)
  refine ⟨hsynced.handClosed hkeys hmem (hempty.trans hnobody.symm)
    (by rw [← hall.buyIn, hcleared.tournament, htournament]; rfl),
    .crowns hchampion.1 hchampion.2 (hsynced.seats.trans hcleared.seats)
    ⟨hcounted tournament htournament, ?_, hentries, rfl, ?_⟩⟩
  · have hrows := hlast.boarded.rows
    rwa [hstandings] at hrows
  · obtain ⟨_, rows, hcompleted, hrows, rfl⟩ := syncTournamentStandings_cases htype hsync
    obtain rfl := Option.some.inj (hcleared.tournament.symm.trans hcompleted)
    rw [hempty] at hrows
    obtain rfl : rows = [] := List.map_eq_nil_iff.mp hrows
    exact ⟨_, sortTournamentStandings_perm _, rfl⟩

/-- **The end of a hand.** The players without chips get the next places, from the shortest stack
before the last action on, and the champion the first place. -/
theorem settleTournament_closed (hboard : Boarded state out) (hlisted : Listed state out)
    (hcontested : Contested state)
    (h : state.settleTournament awardedAt previousStacks = .ok (next, recipients)) :
    ∃ leavers, HandClosed state out next leavers ∧
      Verdict awardedAt previousStacks state out next recipients leavers := by
  unfold settleTournament at h
  obtain ⟨_, -, h⟩ := bind_eq_ok.mp h
  obtain ⟨bustedSeats, hbusted, h⟩ := bind_eq_ok.mp h
  obtain ⟨activeSeats, hactive, h⟩ := bind_eq_ok.mp h
  obtain rfl := hcontested.busted hbusted
  obtain rfl := hcontested.contending hactive
  by_cases hnone : state.seats.filter hasNoChips = []
  · rw [if_pos hnone] at h
    obtain ⟨synced, hsynced, h⟩ := bind_eq_ok.mp h
    rw [Except.ok.injEq, Prod.mk.injEq] at h
    obtain ⟨rfl, rfl⟩ := h
    have hnobody : outgoing previousStacks state = [] := by
      rw [outgoing, hnone]
      rfl
    have hsync := hboard.sync hsynced
    refine ⟨outgoing previousStacks state, ?_, .plays hsync.status⟩
    rw [hnobody]
    have hclosed : Synced state synced
        (out ++ (placesFrom [] state.players.length).map entryOfPlaced) := by
      simpa [placesFrom] using hsync
    exact hclosed.handClosed List.nodup_nil (by simp)
      (List.filter_eq_self.mpr fun _ _ => by simp).symm rfl
  · rw [if_neg hnone] at h
    obtain ⟨eliminated, heliminated, h⟩ := bind_eq_ok.mp h
    have hlength : (state.seats.filter fun seat => !hasNoChips seat).length +
        (state.seats.filter hasNoChips).length = state.players.length := by
      rw [players, List.length_map, Nat.add_comm]
      exact (List.length_eq_length_filter_add hasNoChips).symm
    have hsorted : Keyed.HasKeys Seat.seatIndex
        (sortBustedSeats previousStacks (state.seats.filter hasNoChips)) :=
      ((sortBustedSeats_perm _).map Seat.seatIndex).nodup_iff.mpr
        (Keyed.hasKeys_filter hasNoChips hcontested.seatKeys)
    have helim := eliminateSeats_eliminated hboard hlisted hsorted heliminated
    rw [hlength] at helim
    cases hactiveSeats : state.seats.filter fun seat => !hasNoChips seat with
    | nil =>
        rw [hactiveSeats] at h
        cases h
    | cons champion others =>
        rw [hactiveSeats] at h
        cases others with
        | nil =>
            obtain ⟨crowned, hcrowned, h⟩ := bind_eq_ok.mp h
            obtain ⟨tournament, htournament, h⟩ := bind_eq_ok.mp h
            obtain ⟨closed, hclosed, h⟩ := bind_eq_ok.mp h
            rw [Except.ok.injEq, Prod.mk.injEq] at h
            obtain ⟨rfl, rfl⟩ := h
            have hall := closed_of_champion helim hcontested hactiveSeats hcrowned
              (ensureTournamentMetadata_eq_ok.mp htournament).2 hclosed
            exact ⟨_, hall⟩
        | cons other rest =>
            obtain ⟨tournament, htournament, h⟩ := bind_eq_ok.mp h
            obtain ⟨closed, hclosed, h⟩ := bind_eq_ok.mp h
            rw [Except.ok.injEq, Prod.mk.injEq] at h
            obtain ⟨rfl, rfl⟩ := h
            have hremaining := closed_of_remaining helim hcontested rfl
              (ensureTournamentMetadata_eq_ok.mp htournament).2 hclosed
            exact ⟨_, hremaining.1, .plays hremaining.2⟩

end Settle

end Table

end RewardSystem.Holdem
