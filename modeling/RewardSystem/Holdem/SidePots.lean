import RewardSystem.Holdem.Betting
import RewardSystem.Holdem.Steps

/-!
# Every pot has somebody to win it
-/

namespace RewardSystem.Holdem

open ApiError

namespace Table

variable {sha256 : HashFunction} {now : Int} {state next : Table} {seat : Seat} {prior : Int}

/-! ## The betting invariant over runs -/

/-- In a hand the betting invariant holds, and between hands nothing is committed. -/
structure Sound (state : Table) : Prop where
  keys : state.HasSeatKeys
  bigBlind_nonneg : 0 ≤ state.bigBlind
  hand : state.status = .active → ∃ prior, Betting prior state
  rest : state.status = .waiting → ∀ seat ∈ state.seats, Idle seat

theorem Fresh.sound (h : Fresh state) : Sound state where
  keys := h.keys
  bigBlind_nonneg := h.bigBlind_pos.le
  hand := fun hactive => by rw [h.waiting] at hactive; cases hactive
  rest := fun _ seat hseat => by
    obtain ⟨newcomer, -, -, heq⟩ := h.seats seat hseat
    rw [heq]
    exact ⟨rfl, rfl, rfl⟩

theorem Settles.hasSeatKeys {settled : Table} (h : Settles now state settled)
    (hkeys : state.HasSeatKeys) : settled.HasSeatKeys := by
  unfold HasSeatKeys Keyed.HasKeys
  rw [h.seatIndexes]
  exact hkeys

theorem Betting.sound (h : Betting prior state) (hactive : state.status = .active) :
    Sound state where
  keys := h.keys
  bigBlind_nonneg := h.bigBlind_nonneg
  hand := fun _ => ⟨prior, h⟩
  rest := fun hwaiting => by rw [hactive] at hwaiting; cases hwaiting

theorem Betting.ending (h : Betting prior state) (hactive : state.status = .active)
    (hending : Ending now state next) : Sound next := by
  rcases hending.settles with ⟨rfl, -⟩ | hsettles
  · exact h.sound hactive
  · obtain ⟨hwaiting, hidle⟩ := hsettles.idle
    exact ⟨hsettles.hasSeatKeys h.keys, hsettles.bigBlind ▸ h.bigBlind_nonneg,
      fun hstill => absurd (hwaiting.symm.trans hstill) (by simp), fun _ => hidle⟩

theorem Betting.progression {stage : Street} (h : Betting prior state)
    (hactive : state.status = .active)
    (hnext : state.resolveTerminalAndStreetProgression now stage = .ok next) :
    ∃ last prior, Betting prior last ∧ last.status = .active ∧ Ending now last next := by
  obtain ⟨last, ⟨prior', hlast⟩, hlastActive, hending⟩ :=
    progression_cases (I := fun s => ∃ prior, Betting prior s)
      (fun s t ⟨p, hs⟩ hstatus hround hstreet =>
        ⟨hstreet.status.trans hstatus, p + s.currentBet, hs.street hround hstreet⟩)
      ⟨prior, h⟩ hactive hnext
  exact ⟨last, prior', hlast, hlastActive, hending⟩

theorem Betting.act {seatIndex : Nat} {action : Action} {amount : AmountInput}
    (h : Betting prior state)
    (hnext : state.actOnHoldemSeat now seatIndex action amount = .ok next) :
    ∃ last prior, Betting prior last ∧ last.status = .active ∧ Ending now last next := by
  obtain ⟨seat, stage, acted, haccepted, hacted, hprogress⟩ := actOnHoldemSeat_eq_ok.mp hnext
  have hseat := mem_seats_of_find haccepted.find
  have hmove := applySeatAction_move (h.facing hseat haccepted.active) haccepted.available hacted
  exact (h.move hseat haccepted.active hmove).progression (hmove.status.trans haccepted.status)
    hprogress

theorem dealHand_status {fairnessSeed : FairnessSeedInput}
    (h : state.dealHand sha256 fairnessSeed = .ok next) : next.status = .active := by
  obtain ⟨dealer, smallBlind, bigBlind, shuffled, withCards, hopens, rfl⟩ := dealHand_eq_ok.mp h
  obtain ⟨cards, n, hwith⟩ := hopens.seats
  have hposted : withCards.postBlinds.status = withCards.status := by
    unfold postBlinds
    split
    · split <;> rfl
    · rfl
  change withCards.postBlinds.status = .active
  rw [hposted, hwith]
  rfl

theorem start_betting {fairnessSeed : FairnessSeedInput} (hkeys : state.HasSeatKeys)
    (hbigBlind : 0 ≤ state.bigBlind)
    (hnext : state.startHoldemHand sha256 now fairnessSeed = .ok next) :
    ∃ last prior, Betting prior last ∧ last.status = .active ∧ Ending now last next := by
  obtain ⟨dealt, hdealt, hprogress⟩ := startHoldemHand_eq_ok.mp hnext
  exact (dealHand_betting hkeys hbigBlind hdealt).progression (dealHand_status hdealt) hprogress

/-! ## The steps around the hands -/

theorem Betting.nonneg (h : Betting prior state) : 0 ≤ state.currentBet ∧ 0 ≤ prior := by
  obtain ⟨leader, hleader, hleads⟩ := h.leader
  have := (h.level leader hleader).committed_nonneg
  have := (h.level leader hleader).total_ge
  have := hleads.committed
  have := hleads.total
  omega

theorem Betting.reseated {R : Seat → Seat → Prop} (h : Betting prior state)
    (hindex : ∀ a b, R a b → b.seatIndex = a.seatIndex)
    (hstack : ∀ a b, R a b → b.stackAmount = a.stackAmount)
    (hcommitted : ∀ a b, R a b → b.committedAmount = a.committedAmount)
    (htotal : ∀ a b, R a b → b.totalCommittedAmount = a.totalCommittedAmount)
    (hstatus : ∀ a b, R a b → b.status = a.status) (hnext : Reseated R state next) :
    Betting prior next := by
  obtain ⟨g, hg, rfl⟩ := hnext
  refine ⟨hasSeatKeys_map h.keys fun row => hindex _ _ (hg row), fun row hrow => ?_, ?_,
    h.bigBlind_nonneg, h.raiseSize_ge⟩
  · obtain ⟨old, hold, rfl⟩ := List.mem_map.mp hrow
    exact (h.level old hold).congr (hstack _ _ (hg old)) (hcommitted _ _ (hg old))
      (htotal _ _ (hg old)) (hstatus _ _ (hg old))
  · obtain ⟨leader, hleader, hleads⟩ := h.leader
    exact ⟨g leader, List.mem_map_of_mem hleader, hleads.congr (hcommitted _ _ (hg leader))
      (htotal _ _ (hg leader)) (hstatus _ _ (hg leader))⟩

theorem Betting.touched (h : Betting prior state) (hnext : Reseated Touched state next) :
    Betting prior next := by
  refine h.reseated ?_ ?_ ?_ ?_ ?_ hnext
  all_goals
    rintro a _ ⟨sittingOut, presence, rfl⟩
    rfl

theorem Betting.join {newcomer : Newcomer} {seatIndex : Nat} (h : Betting prior state)
    (hfree : state.findSeatByIndex seatIndex = none) :
    Betting prior
      { state with seats := sortSeatsByIndex (state.seats ++ [seatOf newcomer seatIndex]) } := by
  obtain ⟨hbet, hprior⟩ := h.nonneg
  have hout : ¬isSeatInHand (seatOf newcomer seatIndex) := by simp [isSeatInHand, seatOf]
  refine ⟨hasKeys_joined h.keys hfree, fun row hrow => ?_, ?_, h.bigBlind_nonneg, h.raiseSize_ge⟩
  · rcases mem_joined.mp hrow with hrow | rfl
    · exact h.level row hrow
    · exact ⟨fun hin => absurd hin hout, le_rfl, hbet, le_rfl, by simpa [seatOf] using hprior,
        fun _ => rfl, fun hactive => absurd (.inl hactive) hout, fun hactive =>
          absurd (.inl hactive) hout⟩
  · obtain ⟨leader, hleader, hleads⟩ := h.leader
    exact ⟨leader, mem_joined.mpr (.inl hleader), hleads⟩

theorem Betting.leave {seatIndex : Nat} (h : Betting prior state)
    (hfind : state.findSeatByIndex seatIndex = some seat) (hout : ¬isSeatInHand seat) :
    Betting prior { state with
      seats := state.seats.filter fun row => row.seatIndex ≠ seatIndex } := by
  refine ⟨hasKeys_filter _ h.keys, fun row hrow => h.level row (List.mem_of_mem_filter hrow), ?_,
    h.bigBlind_nonneg, h.raiseSize_ge⟩
  obtain ⟨leader, hleader, hleads⟩ := h.leader
  refine ⟨leader, List.mem_filter.mpr ⟨hleader, ?_⟩, hleads⟩
  have hne : leader.seatIndex ≠ seatIndex := fun heq => by
    have hsame : leader = seat := eq_of_seatIndex_eq h.keys (mem_seats_of_find hfind) hleader
      (heq.trans (seatIndex_of_find hfind).symm)
    exact hout (hsame ▸ hleads.nonFolded.2)
  simpa using hne

theorem Sound.step (h : Sound state) (hnext : Stepped sha256 state next) : Sound next := by
  cases hnext with
  | stays => exact h
  | started hstart =>
      obtain ⟨last, prior, hlast, hactive, hending⟩ := start_betting h.keys h.bigBlind_nonneg hstart
      exact hlast.ending hactive hending
  | @acted _ _ _ _ configured after hact =>
      obtain ⟨seat, stage, acted, haccepted, -, -⟩ := actOnHoldemSeat_eq_ok.mp hact
      obtain ⟨prior, hbetting⟩ := h.hand haccepted.status
      obtain ⟨last, prior', hlast, hactive, hending⟩ := hbetting.act hact
      have hafter := hlast.ending hactive hending
      obtain ⟨restacked, pots, hands, ⟨g, hg, rfl⟩, hraked, hsame⟩ := takeRake_restacked after configured
      cases hstatus : after.status with
      | active =>
          rw [hsame fun hsettled => by rw [hsettled.1] at hstatus; cases hstatus]
          exact hafter
      | waiting =>
          rw [hraked]
          refine ⟨hasSeatKeys_map hafter.keys fun row => ?_, hafter.bigBlind_nonneg,
            fun hstill => absurd (hstatus.symm.trans hstill) (by simp), fun _ row hrow => ?_⟩
          · obtain ⟨_, hrow⟩ := hg row
            rw [hrow]
          · obtain ⟨old, hold, rfl⟩ := List.mem_map.mp hrow
            obtain ⟨_, heq⟩ := hg old
            have hidle := hafter.rest hstatus old hold
            rw [heq]
            exact ⟨hidle.status, hidle.committed, hidle.total⟩
  | touched htouched =>
      have hkeys : next.HasSeatKeys := by
        obtain ⟨g, hg, rfl⟩ := htouched
        refine hasSeatKeys_map h.keys fun row => ?_
        obtain ⟨_, _, hrow⟩ := hg row
        rw [hrow]
        rfl
      refine ⟨hkeys, ?_, fun hactive => ?_, fun hwaiting row hrow => ?_⟩
      · obtain ⟨g, -, rfl⟩ := htouched
        exact h.bigBlind_nonneg
      · have hstatus : state.status = .active := by
          obtain ⟨g, -, rfl⟩ := htouched
          exact hactive
        obtain ⟨prior, hbetting⟩ := h.hand hstatus
        exact ⟨prior, hbetting.touched htouched⟩
      · obtain ⟨g, hg, rfl⟩ := htouched
        obtain ⟨old, hold, rfl⟩ := List.mem_map.mp hrow
        obtain ⟨_, _, heq⟩ := hg old
        have hidle := h.rest hwaiting old hold
        rw [heq]
        exact ⟨hidle.status, hidle.committed, hidle.total⟩
  | joined newcomer seatIndex _ _ hfree =>
      refine ⟨hasKeys_joined h.keys hfree, h.bigBlind_nonneg, fun hactive => ?_,
        fun hwaiting row hrow => ?_⟩
      · obtain ⟨prior, hbetting⟩ := h.hand hactive
        exact ⟨prior, hbetting.join hfree⟩
      · rcases mem_joined.mp hrow with hrow | rfl
        · exact h.rest hwaiting row hrow
        · exact ⟨rfl, rfl, rfl⟩
  | @left seat seatIndex hfind hleave =>
      rcases clearTableAfterCashout_cases { state with
        seats := state.seats.filter fun row => row.seatIndex ≠ seatIndex } with
        ⟨-, hsame⟩ | ⟨-, hempty, hwaiting⟩
      · rw [hsame]
        refine ⟨hasKeys_filter _ h.keys, h.bigBlind_nonneg, fun hactive => ?_, fun hwaiting row hrow =>
          h.rest hwaiting row (List.mem_of_mem_filter hrow)⟩
        obtain ⟨prior, hbetting⟩ := h.hand hactive
        exact ⟨prior, hbetting.leave hfind fun hin => hleave ⟨hactive, hin⟩⟩
      · refine ⟨?_, ?_, fun hactive => ?_, fun _ row hrow => ?_⟩
        · unfold HasSeatKeys
          rw [hempty]
          exact List.nodup_nil
        · unfold clearTableAfterCashout
          split <;> exact h.bigBlind_nonneg
        · rw [hwaiting] at hactive
          cases hactive
        · rw [hempty] at hrow
          cases hrow

theorem Reachable.sound (h : Reachable sha256 state) : Sound state :=
  h.invariant (fun _ hs => hs.sound) fun _ _ hs ht => hs.step ht

/-! ## The pots -/

def potSeats (seats : List Seat) (level : Int) : List Seat :=
  (seats.filter fun seat => level ≤ seat.totalCommittedAmount).filter fun seat =>
    seat.status ≠ .folded

theorem exists_level_of_mem_potViews {seats : List Seat} {levels : List Int} {low : Int}
    {index : Nat} {pot : Pot} (h : pot ∈ potViews seats low index levels) :
    ∃ level ∈ levels, pot.eligibleSeatIndexes = (potSeats seats level).map Seat.seatIndex := by
  induction levels generalizing low index with
  | nil => cases h
  | cons level levels ih =>
      simp only [potViews] at h
      split at h
      · rcases List.mem_cons.mp h with rfl | h
        · exact ⟨level, by simp, rfl⟩
        · obtain ⟨level', hlevel', heq⟩ := ih h
          exact ⟨level', by simp [hlevel'], heq⟩
      · obtain ⟨level', hlevel', heq⟩ := ih h
        exact ⟨level', by simp [hlevel'], heq⟩

theorem mem_contributingSeats :
    seat ∈ state.contributingSeats ↔ seat ∈ state.seats ∧ 0 < seat.totalCommittedAmount := by
  simp [contributingSeats]

theorem mem_contributionLevels {level : Int} : level ∈ state.contributionLevels ↔
    ∃ seat ∈ state.seats, 0 < seat.totalCommittedAmount ∧ seat.totalCommittedAmount = level := by
  simp [contributionLevels, mem_contributingSeats, and_assoc]

theorem Betting.leader_eligible (h : Betting prior state) :
    ∃ leader ∈ state.seats, Leads state.currentBet prior leader ∧
      (∀ row ∈ state.seats, row.totalCommittedAmount ≤ leader.totalCommittedAmount) ∧
      ∀ pot ∈ state.buildPendingPotViews, leader.seatIndex ∈ pot.eligibleSeatIndexes := by
  obtain ⟨leader, hleader, hleads⟩ := h.leader
  have hmax : ∀ row ∈ state.seats, row.totalCommittedAmount ≤ leader.totalCommittedAmount := by
    intro row hrow
    have hlevel := h.level row hrow
    calc row.totalCommittedAmount
        ≤ row.committedAmount + prior := hlevel.total_le
      _ ≤ state.currentBet + prior := by gcongr; exact hlevel.committed_le
      _ = leader.totalCommittedAmount := hleads.total.symm
  refine ⟨leader, hleader, hleads, hmax, fun pot hpot => ?_⟩
  obtain ⟨level, hlevel, heq⟩ := exists_level_of_mem_potViews hpot
  obtain ⟨row, hrow, hpos, rfl⟩ := mem_contributionLevels.mp hlevel
  have hle := hmax row hrow
  rw [heq]
  refine List.mem_map_of_mem ?_
  simp only [potSeats, List.mem_filter, decide_eq_true_eq, mem_contributingSeats]
  exact ⟨⟨⟨hleader, by omega⟩, hle⟩, hleads.nonFolded.1⟩

theorem buildPendingPotViews_of_idle (h : ∀ seat ∈ state.seats, Idle seat) :
    state.buildPendingPotViews = [] := by
  have hlevels : state.contributionLevels = [] := by
    refine List.eq_nil_iff_forall_not_mem.mpr fun level hlevel => ?_
    obtain ⟨seat, hseat, hpos, -⟩ := mem_contributionLevels.mp hlevel
    rw [(h seat hseat).total] at hpos
    omega
  simp [buildPendingPotViews, hlevels, potViews]

/-- **The leader never folds.** In a hand the current bet is the most that a seat has committed, a
seat that contests the pot has paid the most of all, and every pot has a seat that can win it. -/
theorem leader_never_folds (h : Reachable sha256 state) :
    (state.status = .active →
      (∀ seat ∈ state.seats, seat.committedAmount ≤ state.currentBet) ∧
      (∃ seat ∈ state.seats, seat.committedAmount = state.currentBet) ∧
      ∃ seat ∈ state.seats, isSeatNonFolded seat ∧
        ∀ row ∈ state.seats, row.totalCommittedAmount ≤ seat.totalCommittedAmount) ∧
    ∀ pot ∈ state.buildPendingPotViews, ∃ seat ∈ state.seats, isSeatNonFolded seat ∧
      seat.seatIndex ∈ pot.eligibleSeatIndexes := by
  have hsound := h.sound
  constructor
  · intro hactive
    obtain ⟨prior, hbetting⟩ := hsound.hand hactive
    obtain ⟨leader, hleader, hleads, hmax, -⟩ := hbetting.leader_eligible
    exact ⟨fun seat hseat => (hbetting.level seat hseat).committed_le,
      ⟨leader, hleader, hleads.committed⟩, leader, hleader, hleads.nonFolded, hmax⟩
  · intro pot hpot
    cases hstatus : state.status with
    | active =>
        obtain ⟨prior, hbetting⟩ := hsound.hand hstatus
        obtain ⟨leader, hleader, hleads, -, hpots⟩ := hbetting.leader_eligible
        exact ⟨leader, hleader, hleads.nonFolded, hpots pot hpot⟩
    | waiting =>
        rw [buildPendingPotViews_of_idle (hsound.rest hstatus)] at hpot
        cases hpot

theorem leader_never_folds_blinds :
    ∃ state, Reachable zeroHash state ∧ state.status = .active ∧
      (∃ seat ∈ state.seats, isSeatNonFolded seat ∧
        ∀ row ∈ state.seats, row.totalCommittedAmount ≤ seat.totalCommittedAmount) ∧
      ∀ pot ∈ state.buildPendingPotViews, ∃ seat ∈ state.seats, isSeatNonFolded seat ∧
        seat.seatIndex ∈ pot.eligibleSeatIndexes := by
  let table := createdTable .cash [samplePlayer 7 5000, samplePlayer 8 5000, samplePlayer 9 150]
  have hfresh : Fresh table := createdTable_fresh .cash (by decide) (by decide)
  obtain ⟨events, state, hrun, hcheck⟩ :=
    Transition.Run.exists_of_check (step zeroHash) table
      [.start sampleSeed 0, .act 0 .raise (.value (.finite 6)) sampleRake 0,
        .act 1 .fold .missing sampleRake 0]
      (fun _ t => t.status = .active) (by decide +kernel)
  have hactive : state.status = .active := by simpa using hcheck
  have hreach : Reachable zeroHash state := ⟨table, events, hfresh, hrun⟩
  exact ⟨state, hreach, hactive, ((leader_never_folds hreach).1 hactive).2.2,
    (leader_never_folds hreach).2⟩

end Table

end RewardSystem.Holdem
