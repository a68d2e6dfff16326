import RewardSystem.Holdem.Players
import RewardSystem.Holdem.Tournament
import RewardSystem.Lib.Upserts

/-!
# The board of a tournament

Who sits at the table has a row without a place, and who has left it a row with the place. A row is
rewritten from the seat as long as there is one.
-/

namespace RewardSystem.Holdem

open ApiError

/-- What a row of the standings says. -/
structure Entry where
  userId : Option Nat
  place : Option Nat

def entryOf (standing : Standing) : Entry :=
  ⟨standing.userId, standing.finishingPlace⟩

def entryOfPlayer (player : Player) : Entry :=
  ⟨some player.userId, player.tournament.bind SeatTournament.finishingPlace⟩

/-- The entries of those who are not among `players`. -/
def departed (players : List Player) (entries : List Entry) : List Entry :=
  entries.filter fun entry => entry.userId ∉ players.map fun player => some player.userId

theorem departed_congr {players players' : List Player} {entries : List Entry}
    (h : players.map Player.userId = players'.map Player.userId) :
    departed players entries = departed players' entries := by
  have hsome : (players.map fun player => some player.userId) =
      players'.map fun player => some player.userId := by
    have hmap := congrArg (List.map some) h
    rwa [List.map_map, List.map_map] at hmap
  unfold departed
  rw [hsome]

theorem departed_eq_nil {players : List Player} {entries : List Entry}
    (h : ∀ entry ∈ entries, ∃ player ∈ players, entry.userId = some player.userId) :
    departed players entries = [] := by
  refine List.filter_eq_nil_iff.mpr fun entry hentry => ?_
  obtain ⟨player, hplayer, heq⟩ := h entry hentry
  simp only [heq, decide_not, Bool.not_eq_true', decide_eq_false_iff_not, not_not]
  exact List.mem_map_of_mem hplayer

theorem departed_self (players : List Player) : departed players (players.map entryOfPlayer) = [] :=
  departed_eq_nil fun entry hentry => by
    obtain ⟨player, hplayer, rfl⟩ := List.mem_map.mp hentry
    exact ⟨player, hplayer, rfl⟩

theorem departed_append (players : List Player) (entries rest : List Entry) :
    departed players (entries ++ rest) = departed players entries ++ departed players rest :=
  List.filter_append ..

theorem departed_idem (players : List Player) (entries : List Entry) :
    departed players (departed players entries) = departed players entries := by
  unfold departed
  rw [List.filter_filter]
  exact List.filter_congr fun _ _ => Bool.and_self _

/-- The figures of a tournament follow from its rows. -/
structure Counted (tournament : Tournament) : Prop where
  registeredCount : tournament.registeredCount = tournament.standings.length
  prizePool : tournament.prizePoolAmount = tournament.buyInAmount * tournament.standings.length

theorem upsertTournamentStanding_eq : upsertTournamentStanding = Keyed.put Standing.userId := by
  funext standings standing
  unfold upsertTournamentStanding Keyed.put Keyed.upsert
  cases Keyed.lookup Standing.userId standing.userId standings <;> rfl

namespace Table

variable {state next : Table} {out : List Entry} {tournament : Tournament}

def standings (state : Table) : List Standing :=
  state.tournament.elim [] Tournament.standings

def entries (state : Table) : List Entry :=
  state.standings.map entryOf

/-- The players who are not at the table any more are those of `out`. -/
structure Boarded (state : Table) (out : List Entry) : Prop where
  type : state.isTournamentTable
  rows : Keyed.HasKeys Standing.userId state.standings
  users : Keyed.HasKeys Player.userId state.players
  absent : (departed state.players state.entries).Perm out

/-- What a change of the rows leaves alone. -/
structure Amended (state next : Table) : Prop where
  table : next = { state with seats := next.seats, tournament := next.tournament }
  status : next.tournament.map Tournament.status = state.tournament.map Tournament.status
  buyIn : next.tournament.map Tournament.buyInAmount = state.tournament.map Tournament.buyInAmount

theorem Amended.trans {last : Table} (h : Amended state next) (h' : Amended next last) :
    Amended state last where
  table := by rw [h'.table, h.table]
  status := h'.status.trans h.status
  buyIn := h'.buyIn.trans h.buyIn

theorem Amended.of_seats (seats : List Seat) : Amended state { state with seats := seats } :=
  ⟨rfl, rfl, rfl⟩

theorem ensureTournamentMetadata_eq_ok :
    state.ensureTournamentMetadata = .ok tournament ↔
      state.isTournamentTable ∧ state.tournament = some tournament := by
  unfold ensureTournamentMetadata isTournamentTable
  constructor
  · intro h
    split at h
    · rename_i htype hsome
      injection h with h
      exact ⟨htype, hsome.trans (congrArg some h)⟩
    · cases h
  · rintro ⟨htype, hsome⟩
    rw [htype, hsome]

theorem buildTournamentStandingForSeat_entry {seat : Seat} {standing : Standing}
    (h : buildTournamentStandingForSeat seat = .ok standing) :
    entryOf standing = entryOfPlayer (playerOf seat) := by
  unfold buildTournamentStandingForSeat ensureSeatTournamentMetadata at h
  obtain ⟨data, hdata, h⟩ := bind_eq_ok.mp h
  split at hdata
  · cases hdata
  case h_2 seated hsome =>
    injection hdata with hdata
    injection h with h
    subst h hdata
    simp [entryOf, entryOfPlayer, playerOf, hsome]

theorem mapM_buildTournamentStandingForSeat {seats : List Seat} {rows : List Standing}
    (h : seats.mapM buildTournamentStandingForSeat = .ok rows) :
    rows.map entryOf = (seats.map playerOf).map entryOfPlayer := by
  induction seats generalizing rows with
  | nil =>
      obtain rfl : [] = rows := Except.ok.inj h
      rfl
  | cons seat seats ih =>
      rw [List.mapM_cons] at h
      obtain ⟨row, hrow, h⟩ := bind_eq_ok.mp h
      obtain ⟨rest, hrest, h⟩ := bind_eq_ok.mp h
      obtain rfl : row :: rest = rows := Except.ok.inj h
      simp only [List.map_cons, ih hrest, buildTournamentStandingForSeat_entry hrow]

theorem syncTournamentStandings_cases (htype : state.isTournamentTable)
    (h : state.syncTournamentStandings = .ok next) :
    ∃ (tournament : Tournament) (rows : List Standing), state.tournament = some tournament ∧
      rows.map entryOf = state.players.map entryOfPlayer ∧
      next = { state with
        tournament := some (tournament.withStandings (sortTournamentStandings
          (rows.foldl (Keyed.put Standing.userId) tournament.standings))) } := by
  unfold syncTournamentStandings at h
  rw [if_neg (not_not.mpr htype)] at h
  obtain ⟨tournament, htournament, h⟩ := bind_eq_ok.mp h
  obtain ⟨rows, hrows, h⟩ := bind_eq_ok.mp h
  injection h with h
  rw [upsertTournamentStanding_eq] at h
  exact ⟨tournament, rows, (ensureTournamentMetadata_eq_ok.mp htournament).2,
    mapM_buildTournamentStandingForSeat hrows, h.symm⟩

structure Synced (state next : Table) (out : List Entry) : Prop extends Amended state next where
  seats : next.seats = state.seats
  boarded : Boarded next out
  listed : next.entries.Perm (next.players.map entryOfPlayer ++ out)
  counted : ∀ tournament, next.tournament = some tournament → Counted tournament

/-- The rows of the players at the table are rewritten, and the others stay. -/
theorem Boarded.sync (hboard : Boarded state out) (h : state.syncTournamentStandings = .ok next) :
    Synced state next out := by
  obtain ⟨tournament, rows, hsome, hrows, rfl⟩ := syncTournamentStandings_cases hboard.type h
  have hstandings : state.standings = tournament.standings := by rw [standings, hsome]; rfl
  have husers : rows.map Standing.userId = state.players.map fun player => some player.userId := by
    have hmap := congrArg (List.map Entry.userId) hrows
    rwa [List.map_map, List.map_map] at hmap
  have hkeys : Keyed.HasKeys Standing.userId tournament.standings := hstandings ▸ hboard.rows
  have hnews : Keyed.HasKeys Standing.userId rows := by
    have hinjective := hboard.users.map (Option.some_injective Nat)
    rw [List.map_map] at hinjective
    unfold Keyed.HasKeys
    rwa [husers]
  have hsort := sortTournamentStandings_perm (rows.foldl (Keyed.put Standing.userId)
    tournament.standings)
  have hnext : (sortTournamentStandings (rows.foldl (Keyed.put Standing.userId)
      tournament.standings)).map entryOf |>.Perm
      (state.players.map entryOfPlayer ++ departed state.players state.entries) := by
    refine ((hsort.trans (Keyed.foldl_put_perm hkeys hnews)).map entryOf).trans ?_
    rw [List.map_append, hrows, husers, entries, hstandings, departed, List.filter_map]
    refine List.Perm.of_eq (congrArg _ (congrArg _ (List.filter_congr fun row _ => ?_)))
    exact decide_eq_decide.mpr Iff.rfl
  have hlisted := hnext.trans (hboard.absent.append_left (state.players.map entryOfPlayer))
  have hout : (departed state.players out).Perm out := by
    refine (hboard.absent.symm.filter _).trans ?_
    change (departed state.players (departed state.players state.entries)).Perm out
    rw [departed_idem]
    exact hboard.absent
  refine ⟨⟨rfl, by rw [hsome]; rfl, by rw [hsome]; rfl⟩, rfl, ⟨hboard.type, ?_, hboard.users, ?_⟩,
    hlisted, ?_⟩
  · exact (hsort.map Standing.userId).nodup_iff.mpr (Keyed.hasKeys_foldl_put hkeys)
  · refine (hlisted.filter _).trans ?_
    change (departed state.players (state.players.map entryOfPlayer ++ out)).Perm out
    rw [departed_append, departed_self, List.nil_append]
    exact hout
  · intro counted hcounted
    obtain rfl := Option.some.inj hcounted
    exact ⟨rfl, rfl⟩

theorem Synced.players (h : Synced state next out) : next.players = state.players :=
  congrArg (List.map playerOf) h.seats

/-! ## Places are handed out -/

/-- The places of `players`, who go out in this order, from `place` down. -/
def placesFrom : List Player → Nat → List (Player × Nat)
  | [], _ => []
  | player :: rest, place => (player, place) :: placesFrom rest (place - 1)

def entryOfPlaced (placed : Player × Nat) : Entry :=
  ⟨some placed.1.userId, some placed.2⟩

theorem map_fst_placesFrom (players : List Player) (place : Nat) :
    (placesFrom players place).map Prod.fst = players := by
  induction players generalizing place with
  | nil => rfl
  | cons player rest ih => rw [placesFrom, List.map_cons, ih]

theorem length_placesFrom (players : List Player) (place : Nat) :
    (placesFrom players place).length = players.length := by
  rw [← List.length_map, map_fst_placesFrom]

theorem map_snd_placesFrom {players : List Player} {place : Nat} (h : players.length ≤ place) :
    ((placesFrom players place).map Prod.snd).Perm
      (List.range' (place - players.length + 1) players.length) := by
  induction players generalizing place with
  | nil => exact .refl _
  | cons player rest ih =>
      rw [List.length_cons] at h ⊢
      have hrest : rest.length ≤ place - 1 := by omega
      have hstart : place - 1 - rest.length = place - (rest.length + 1) := by omega
      have hlast : place - (rest.length + 1) + 1 + 1 * rest.length = place := by omega
      rw [placesFrom, List.map_cons, List.range'_concat, hlast]
      refine ((ih hrest).cons place).trans ?_
      rw [hstart]
      exact (List.perm_append_singleton _ _).symm

/-- Who goes out earlier gets the greater place. -/
theorem pairwise_placesFrom {r : Player → Player → Prop} {players : List Player} {place : Nat}
    (hplayers : players.Pairwise r) (h : players.length ≤ place) :
    (placesFrom players place).Pairwise fun q q' => r q.1 q'.1 ∧ q'.2 < q.2 := by
  induction players generalizing place with
  | nil => exact .nil
  | cons player rest ih =>
      obtain ⟨hfirst, hrest⟩ := List.pairwise_cons.mp hplayers
      rw [List.length_cons] at h
      refine List.pairwise_cons.mpr ⟨fun q hq => ⟨hfirst q.1 ?_, ?_⟩, ih hrest (by omega)⟩
      · rw [← map_fst_placesFrom rest (place - 1)]
        exact List.mem_map_of_mem hq
      · have hmem := (map_snd_placesFrom (show rest.length ≤ place - 1 by omega)).mem_iff.mp
          (List.mem_map_of_mem (f := Prod.snd) hq)
        rw [List.mem_range'_1] at hmem
        change q.2 < place
        omega

/-- The player at a seat after `placed` has been handed out. -/
structure Marks (placed : List (Player × Nat)) (before after : Player) : Prop where
  seatIndex : after.seatIndex = before.seatIndex
  userId : after.userId = before.userId
  kept : before.seatIndex ∉ placed.map (fun q => q.1.seatIndex) → after = before
  place : ∀ q ∈ placed, before.seatIndex = q.1.seatIndex → before.tournament.isSome →
    (entryOfPlayer after).place = some q.2

/-- The places of `placed` are written to the seats. -/
def Finishes (placed : List (Player × Nat)) (state next : Table) : Prop :=
  ∃ g : Player → Player, next.players = state.players.map g ∧ ∀ player, Marks placed player (g player)

theorem Finishes.append {placed placed' : List (Player × Nat)} {last : Table}
    (h : Finishes placed state next) (h' : Finishes placed' next last)
    (hdisjoint : ∀ q ∈ placed, ∀ q' ∈ placed', q.1.seatIndex ≠ q'.1.seatIndex) :
    Finishes (placed ++ placed') state last := by
  obtain ⟨g, hg, hmarks⟩ := h
  obtain ⟨g', hg', hmarks'⟩ := h'
  refine ⟨g' ∘ g, by rw [hg', hg, List.map_map], fun player => ?_⟩
  have hfirst := hmarks player
  have hsecond := hmarks' (g player)
  refine ⟨hsecond.seatIndex.trans hfirst.seatIndex, hsecond.userId.trans hfirst.userId,
    fun hnot => ?_, fun q hq hindex hsome => ?_⟩
  · rw [List.map_append, List.mem_append, not_or] at hnot
    have heq := hfirst.kept hnot.1
    exact (hsecond.kept (by rw [heq]; exact hnot.2)).trans heq
  · rcases List.mem_append.mp hq with hq | hq
    · have hnot : (g player).seatIndex ∉ placed'.map (fun q => q.1.seatIndex) := fun hmem => by
        obtain ⟨q', hq', heq⟩ := List.mem_map.mp hmem
        exact hdisjoint q hq q' hq' (hindex.symm.trans (hfirst.seatIndex.symm.trans heq.symm))
      rw [Function.comp_apply, hsecond.kept hnot]
      exact hfirst.place q hq hindex hsome
    · have hnot : player.seatIndex ∉ placed.map (fun q => q.1.seatIndex) := fun hmem => by
        obtain ⟨q', hq', heq⟩ := List.mem_map.mp hmem
        exact hdisjoint q' hq' q hq (heq.trans hindex)
      have heq := hfirst.kept hnot
      exact hsecond.place q hq (by rw [heq]; exact hindex) (by rw [heq]; exact hsome)

theorem Finishes.users {placed : List (Player × Nat)} (h : Finishes placed state next) :
    next.players.map Player.userId = state.players.map Player.userId := by
  obtain ⟨g, hg, hmarks⟩ := h
  rw [hg, List.map_map]
  exact List.map_congr_left fun player _ => (hmarks player).userId

/-- Who is still without a place is where the player was. -/
theorem Finishes.remaining {placed : List (Player × Nat)} (h : Finishes placed state next) :
    next.players.filter (fun player => player.seatIndex ∉ placed.map fun q => q.1.seatIndex) =
      state.players.filter fun player => player.seatIndex ∉ placed.map fun q => q.1.seatIndex := by
  obtain ⟨g, hg, hmarks⟩ := h
  rw [hg, List.filter_map]
  have hsame : state.players.filter ((fun player =>
      decide (player.seatIndex ∉ placed.map fun q => q.1.seatIndex)) ∘ g) =
      state.players.filter fun player => player.seatIndex ∉ placed.map fun q => q.1.seatIndex :=
    List.filter_congr fun player _ => by rw [Function.comp_apply, (hmarks player).seatIndex]
  rw [hsame]
  conv_rhs => rw [← List.map_id (state.players.filter _)]
  refine List.map_congr_left fun player hplayer => ?_
  exact (hmarks player).kept (of_decide_eq_true (List.mem_filter.mp hplayer).2)

theorem Finishes.entries {placed : List (Player × Nat)} (h : Finishes placed state next)
    (hkeys : Keyed.HasKeys Player.seatIndex state.players)
    (hplaced : (placed.map fun q => q.1.seatIndex).Nodup)
    (hmem : ∀ q ∈ placed, q.1 ∈ state.players ∧ q.1.tournament.isSome) :
    (next.players.map entryOfPlayer).Perm
      ((state.players.filter fun player =>
          player.seatIndex ∉ placed.map fun q => q.1.seatIndex).map entryOfPlayer ++
        placed.map entryOfPlaced) := by
  obtain ⟨g, hg, hmarks⟩ := h
  have hindexes : (placed.map Prod.fst).map Player.seatIndex = placed.map fun q => q.1.seatIndex :=
    List.map_map
  have hsplit : state.players.Perm (placed.map Prod.fst ++ state.players.filter fun player =>
      player.seatIndex ∉ placed.map fun q => q.1.seatIndex) := by
    have hperm := Keyed.perm_append_filter hkeys
      (show Keyed.HasKeys Player.seatIndex (placed.map Prod.fst) by
        unfold Keyed.HasKeys; rwa [hindexes]) fun player hplayer => by
        obtain ⟨q, hq, rfl⟩ := List.mem_map.mp hplayer
        exact (hmem q hq).1
    rwa [hindexes] at hperm
  rw [hg, List.map_map]
  refine (hsplit.map _).trans ?_
  rw [List.map_append, List.map_map]
  refine List.perm_append_comm.trans (List.Perm.of_eq (congrArg₂ _ ?_ ?_))
  · refine List.map_congr_left fun player hplayer => ?_
    have hkept := (hmarks player).kept (of_decide_eq_true (List.mem_filter.mp hplayer).2)
    exact congrArg entryOfPlayer hkept
  · refine List.map_congr_left fun q hq => ?_
    have hplace := (hmarks q.1).place q hq rfl (hmem q hq).2
    have huser : (entryOfPlayer (g q.1)).userId = some q.1.userId :=
      congrArg some (hmarks q.1).userId
    calc entryOfPlayer (g q.1)
        = ⟨(entryOfPlayer (g q.1)).userId, (entryOfPlayer (g q.1)).place⟩ := rfl
      _ = entryOfPlaced q := by rw [huser, hplace]; rfl

end Table

end RewardSystem.Holdem
