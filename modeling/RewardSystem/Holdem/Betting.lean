import RewardSystem.Holdem.Opening
import RewardSystem.Lib.Layers

/-!
# The level of the betting

All seats that are still in have paid the same in earlier streets, and one of them leads the betting
of this street. The leader has paid the most, and nobody folds while leading.
-/

namespace RewardSystem.Holdem

open ApiError

namespace Table

variable {sha256 : HashFunction} {now : Int} {state next : Table} {seat row : Seat}
  {bet prior : Int} {fairnessSeed : FairnessSeedInput} {dealer : Nat}
  {smallBlind bigBlind : Option Nat} {shuffled : ShuffledDeck} {withCards : Table}

/-- The amounts of a seat, when `bet` is to be matched on this street and `prior` was on the earlier
ones. -/
structure SeatLevel (bet prior : Int) (seat : Seat) : Prop where
  stack_nonneg : isSeatInHand seat → 0 ≤ seat.stackAmount
  committed_nonneg : 0 ≤ seat.committedAmount
  committed_le : seat.committedAmount ≤ bet
  total_ge : seat.committedAmount ≤ seat.totalCommittedAmount
  total_le : seat.totalCommittedAmount ≤ seat.committedAmount + prior
  outside : ¬isSeatInHand seat → seat.totalCommittedAmount = 0
  active_stack : seat.status = .active → 0 < seat.stackAmount
  active_total : seat.status = .active →
    seat.totalCommittedAmount = seat.committedAmount + prior

/-- A seat that contests the pot and has paid as much as anyone. -/
structure Leads (bet prior : Int) (seat : Seat) : Prop where
  nonFolded : isSeatNonFolded seat
  committed : seat.committedAmount = bet
  total : seat.totalCommittedAmount = bet + prior

structure Betting (prior : Int) (state : Table) : Prop where
  keys : state.HasSeatKeys
  level : ∀ seat ∈ state.seats, SeatLevel state.currentBet prior seat
  leader : ∃ seat ∈ state.seats, Leads state.currentBet prior seat
  bigBlind_nonneg : 0 ≤ state.bigBlind
  raiseSize_ge : state.bigBlind ≤ state.lastFullRaiseSize

theorem SeatLevel.congr (h : SeatLevel bet prior seat) (hstack : row.stackAmount = seat.stackAmount)
    (hcommitted : row.committedAmount = seat.committedAmount)
    (htotal : row.totalCommittedAmount = seat.totalCommittedAmount)
    (hstatus : row.status = seat.status) : SeatLevel bet prior row := by
  have hin : isSeatInHand row ↔ isSeatInHand seat := by unfold isSeatInHand; rw [hstatus]
  constructor
  · exact fun hrow => hstack ▸ h.stack_nonneg (hin.mp hrow)
  · exact hcommitted ▸ h.committed_nonneg
  · exact hcommitted ▸ h.committed_le
  · exact hcommitted ▸ htotal ▸ h.total_ge
  · exact hcommitted ▸ htotal ▸ h.total_le
  · exact fun hout => htotal ▸ h.outside (hin.not.mp hout)
  · exact fun hactive => hstack ▸ h.active_stack (hstatus ▸ hactive)
  · exact fun hactive => hcommitted ▸ htotal ▸ h.active_total (hstatus ▸ hactive)

theorem Leads.congr (h : Leads bet prior seat)
    (hcommitted : row.committedAmount = seat.committedAmount)
    (htotal : row.totalCommittedAmount = seat.totalCommittedAmount)
    (hstatus : row.status = seat.status) : Leads bet prior row := by
  have hin : isSeatNonFolded row ↔ isSeatNonFolded seat := by
    rw [isSeatNonFolded_iff, isSeatNonFolded_iff, hstatus]
  exact ⟨hin.mpr h.nonFolded, hcommitted ▸ h.committed, htotal ▸ h.total⟩

theorem Betting.facing (h : Betting prior state) (hseat : seat ∈ state.seats)
    (hactive : seat.status = .active) : Facing state seat where
  keys := h.keys
  mem := hseat
  active := hactive
  stack_pos := (h.level seat hseat).active_stack hactive
  committed_nonneg := (h.level seat hseat).committed_nonneg
  committed_le := (h.level seat hseat).committed_le
  raiseSize_nonneg := h.bigBlind_nonneg.trans h.raiseSize_ge

/-! ## Actions -/

theorem isSeatInHand_of_active (hactive : seat.status = .active) : isSeatInHand seat :=
  .inl hactive

theorem Betting.fold (h : Betting prior state) (hseat : seat ∈ state.seats)
    (hactive : seat.status = .active)
    (hbehind : seat.committedAmount < state.currentBet) : Betting prior (state.applyFold seat) where
  keys := h.keys.updateSeat fun _ => rfl
  level := forall_updateSeat h.keys hseat
    { stack_nonneg := fun _ => (h.level seat hseat).stack_nonneg (isSeatInHand_of_active hactive)
      committed_nonneg := (h.level seat hseat).committed_nonneg
      committed_le := (h.level seat hseat).committed_le
      total_ge := (h.level seat hseat).total_ge
      total_le := (h.level seat hseat).total_le
      outside := fun hout => absurd (.inr (.inr rfl)) hout
      active_stack := fun hactive => by cases hactive
      active_total := fun hactive => by cases hactive }
    fun row hrow _ => h.level row hrow
  leader := by
    obtain ⟨leader, hleader, hleads⟩ := h.leader
    have hne : leader.seatIndex ≠ seat.seatIndex := fun heq => by
      have heq := eq_of_seatIndex_eq h.keys hseat hleader heq
      have := hleads.committed
      rw [heq] at this
      omega
    exact ⟨leader, (mem_updateSeat h.keys hseat).mpr (.inr ⟨hleader, hne⟩), hleads⟩
  bigBlind_nonneg := h.bigBlind_nonneg
  raiseSize_ge := h.raiseSize_ge

theorem Betting.relabel {f : Seat → Seat} (h : Betting prior state) (hseat : seat ∈ state.seats)
    (hindex : ∀ row : Seat, (f row).seatIndex = row.seatIndex)
    (hstack : (f seat).stackAmount = seat.stackAmount)
    (hcommitted : (f seat).committedAmount = seat.committedAmount)
    (htotal : (f seat).totalCommittedAmount = seat.totalCommittedAmount)
    (hstatus : (f seat).status = seat.status) :
    Betting prior (state.updateSeat seat.seatIndex f) where
  keys := h.keys.updateSeat hindex
  level := forall_updateSeat h.keys hseat
    ((h.level seat hseat).congr hstack hcommitted htotal hstatus) fun row hrow _ => h.level row hrow
  leader := by
    obtain ⟨leader, hleader, hleads⟩ := h.leader
    by_cases heq : leader.seatIndex = seat.seatIndex
    · have heq := eq_of_seatIndex_eq h.keys hseat hleader heq
      exact ⟨f seat, (mem_updateSeat h.keys hseat).mpr (.inl rfl),
        (heq ▸ hleads).congr hcommitted htotal hstatus⟩
    · exact ⟨leader, (mem_updateSeat h.keys hseat).mpr (.inr ⟨hleader, heq⟩), hleads⟩
  bigBlind_nonneg := h.bigBlind_nonneg
  raiseSize_ge := h.raiseSize_ge

theorem Betting.check (h : Betting prior state) (hseat : seat ∈ state.seats)
    (hcheck : state.applyCheck seat = .ok next) : Betting prior next := by
  obtain ⟨-, rfl⟩ := applyCheck_eq_ok.mp hcheck
  have hrelabel : Betting prior (state.updateSeat seat.seatIndex fun row =>
      { row with lastAction := some "Check" }) :=
    h.relabel hseat (fun _ => rfl) rfl rfl rfl rfl
  exact ⟨hrelabel.keys, hrelabel.level, hrelabel.leader, h.bigBlind_nonneg, h.raiseSize_ge⟩

theorem Betting.post {posting : Posting} (h : Betting prior state) (hseat : seat ∈ state.seats)
    (hactive : seat.status = .active) (hlegal : posting.Legal state seat) :
    Betting prior (state.post seat posting) := by
  have hlevel := h.level seat hseat
  have hpos := hlegal.transfer_pos
  have hle := hlegal.transfer_le
  have hbet := hlegal.bet_eq
  have hposted := postFromStack_of_pos hpos hle
  have htotal := hlevel.active_total hactive
  have hstatus : (postSeat posting seat).status =
      if seat.stackAmount - posting.transfer = 0 then .allIn else .active := by
    simp only [postSeat, hposted, hactive]
  have hnew : SeatLevel posting.bet prior (postSeat posting seat) := by
    have := hlevel.committed_nonneg
    have := hlevel.total_ge
    refine ⟨fun _ => ?_, ?_, ?_, ?_, ?_, fun hout => ?_, fun hstays => ?_, fun hstays => ?_⟩
    case refine_6 =>
      refine absurd ?_ hout
      unfold isSeatInHand
      rw [hstatus]
      split <;> simp
    case refine_7 =>
      rw [hstatus] at hstays
      split at hstays
      · cases hstays
      · simp only [postSeat, hposted]
        omega
    all_goals
      simp only [postSeat, hposted]
      omega
  refine ⟨h.keys.updateSeat fun row => by simp [postSeat], ?_, ?_, h.bigBlind_nonneg, ?_⟩
  · refine forall_updateSeat h.keys hseat hnew fun row hrow _ => ?_
    have hrow := h.level row hrow
    exact { hrow with committed_le := by have := hrow.committed_le; simp only [Table.post, passTurn]; omega }
  · by_cases hraises : posting.bet = state.currentBet ∧
        ∃ leader ∈ state.seats, Leads state.currentBet prior leader ∧
          leader.seatIndex ≠ seat.seatIndex
    · obtain ⟨heq, leader, hleader, hleads, hne⟩ := hraises
      exact ⟨leader, (mem_updateSeat h.keys hseat).mpr (.inr ⟨hleader, hne⟩),
        by simpa only [Table.post, passTurn, heq] using hleads⟩
    · have hleads : posting.bet = seat.committedAmount + posting.transfer := by
        -- only a posting that leads the betting goes beyond the bet of another leader
        obtain ⟨leader, hleader, hleads⟩ := h.leader
        by_cases hsame : leader.seatIndex = seat.seatIndex
        · have heq := eq_of_seatIndex_eq h.keys hseat hleader hsame
          have := hleads.committed
          rw [heq] at this
          omega
        · have hne : posting.bet ≠ state.currentBet := fun heq =>
            hraises ⟨heq, leader, hleader, hleads, hsame⟩
          omega
      refine ⟨_, (mem_updateSeat h.keys hseat).mpr (.inl rfl), ?_, ?_, ?_⟩
      · rw [isSeatNonFolded_iff, hstatus]
        split <;> simp
      · simp only [postSeat, hposted, Table.post, passTurn]
        omega
      · simp only [postSeat, hposted, Table.post, passTurn]
        omega
  · have := hlegal.raiseSize_ge
    have := h.raiseSize_ge
    simp only [Table.post, passTurn, Table.updateSeat]
    omega

/-- **No action breaks the betting invariant.** -/
theorem Betting.move (h : Betting prior state) (hseat : seat ∈ state.seats)
    (hactive : seat.status = .active) (hmove : Move state seat next) : Betting prior next := by
  cases hmove with
  | fold hbehind => exact h.fold hseat hactive hbehind
  | check _ hcheck => exact h.check hseat hcheck
  | post posting hlegal => exact h.post hseat hactive hlegal

/-! ## Streets -/

theorem Betting.street (h : Betting prior state) (hround : state.hasRoundCompleted)
    (hstreet : StreetDealt state next) : Betting (prior + state.currentBet) next := by
  obtain ⟨currentStage, count, stage, dealt, -, -, hdealt, rfl⟩ := hstreet.exists_deal
  obtain ⟨-, rfl⟩ := dealCommunityCards_eq_ok.mp hdealt
  have hnonneg : 0 ≤ state.currentBet := by
    obtain ⟨leader, hleader, hleads⟩ := h.leader
    have := (h.level leader hleader).committed_nonneg
    have := hleads.committed
    omega
  refine ⟨hasSeatKeys_map h.keys fun _ => rfl, ?_, ?_, h.bigBlind_nonneg, le_rfl⟩
  · intro seat hseat
    obtain ⟨old, hold, rfl⟩ := List.mem_map.mp hseat
    have hlevel := h.level old hold
    have hin : isSeatInHand old ↔ isSeatInHand
        { old with
          committedAmount := 0
          status := if old.status = .active ∧ old.stackAmount = 0 then .allIn else old.status } := by
      unfold isSeatInHand
      by_cases hstatus : old.status = .active ∧ old.stackAmount = 0
      · simp [hstatus]
      · simp [hstatus]
    have hactive : (if old.status = .active ∧ old.stackAmount = 0 then SeatStatus.allIn
        else old.status) = .active → old.status = .active := by
      split <;> simp
    refine ⟨fun hrow => hlevel.stack_nonneg (hin.mpr hrow), le_rfl, le_rfl, ?_, ?_,
      fun hout => hlevel.outside (hin.not.mpr hout),
      fun hrow => hlevel.active_stack (hactive hrow), fun hrow => ?_⟩
    · exact hlevel.committed_nonneg.trans hlevel.total_ge
    · have := hlevel.total_le
      have := hlevel.committed_le
      simp only
      omega
    · -- an active seat has matched the bet of the street that is over
      have hactionable : old ∈ state.listActionableSeats := by
        rw [mem_listActionableSeats]
        exact ⟨hold, hactive hrow, hlevel.active_stack (hactive hrow)⟩
      have := (hround old hactionable).2
      have := hlevel.active_total (hactive hrow)
      simp only
      omega
  · obtain ⟨leader, hleader, hleads⟩ := h.leader
    refine ⟨_, List.mem_map_of_mem hleader, ?_, rfl, ?_⟩
    · have := (isSeatNonFolded_iff leader).mp hleads.nonFolded
      rw [isSeatNonFolded_iff]
      simp only
      split <;> simp_all
    · have := hleads.total
      simp only [openStreet, resetStreetCommitments]
      omega

/-! ## The opening of a hand -/

theorem SeatLevel.postBlind (h : SeatLevel 0 0 seat) (hactive : seat.status = .active)
    (amount : Int) (label : String) (hbet : (postBlind amount label seat).committedAmount ≤ bet) :
    SeatLevel bet 0 (postBlind amount label seat) ∧
      isSeatNonFolded (postBlind amount label seat) ∧
      (postBlind amount label seat).totalCommittedAmount =
        (postBlind amount label seat).committedAmount := by
  have hstack := h.active_stack hactive
  have hcommitted := h.committed_nonneg
  have hcommitted_le := h.committed_le
  have htotal := h.active_total hactive
  by_cases hpos : amount ≤ 0
  · have hblind : Table.postBlind amount label seat = { seat with lastAction := some label } := by
      unfold Table.postBlind postFromStack
      rw [if_pos hpos]
    rw [hblind] at hbet ⊢
    refine ⟨⟨fun _ => hstack.le, hcommitted, hbet, h.total_ge, h.total_le, fun hout => ?_,
      fun _ => hstack, fun _ => htotal⟩, ?_, by simp only; omega⟩
    · exact absurd (isSeatInHand_of_active hactive) hout
    · exact (isSeatNonFolded_iff _).mpr (.inl hactive)
  · have hblind : Table.postBlind amount label seat =
        { seat with
          stackAmount := seat.stackAmount - min seat.stackAmount amount
          committedAmount := seat.committedAmount + min seat.stackAmount amount
          totalCommittedAmount := seat.totalCommittedAmount + min seat.stackAmount amount
          status := if seat.stackAmount - min seat.stackAmount amount = 0 then .allIn
            else seat.status
          lastAction := some label } := by
      unfold Table.postBlind postFromStack
      rw [if_neg hpos]
    rw [hblind] at hbet ⊢
    simp only at hbet
    have hnonFolded : isSeatNonFolded
        { seat with
          stackAmount := seat.stackAmount - min seat.stackAmount amount
          committedAmount := seat.committedAmount + min seat.stackAmount amount
          totalCommittedAmount := seat.totalCommittedAmount + min seat.stackAmount amount
          status := if seat.stackAmount - min seat.stackAmount amount = 0 then .allIn
            else seat.status
          lastAction := some label } := by
      rw [isSeatNonFolded_iff]
      simp only [hactive]
      split <;> simp
    have hstays : (if seat.stackAmount - min seat.stackAmount amount = 0 then SeatStatus.allIn
        else seat.status) = .active → 0 < seat.stackAmount - min seat.stackAmount amount := by
      intro h
      split at h
      · cases h
      · omega
    refine ⟨⟨fun _ => ?_, ?_, ?_, ?_, ?_, fun hout => absurd hnonFolded.2 hout, hstays,
      fun _ => ?_⟩, hnonFolded, ?_⟩
    all_goals
      simp only
      omega

theorem SeatLevel.mono {bet' : Int} (h : SeatLevel bet prior seat) (hle : bet ≤ bet') :
    SeatLevel bet' prior seat :=
  { h with committed_le := h.committed_le.trans hle }

@[simp]
theorem postBlind_seatIndex (amount : Int) (label : String) (seat : Seat) :
    (postBlind amount label seat).seatIndex = seat.seatIndex :=
  postFromStack_seatIndex amount seat

/-- The table with both blinds posted, by `small` and then by `big`. -/
def withBlinds (state : Table) (small big : Seat) : Table :=
  (state.updateSeat small.seatIndex (postBlind state.smallBlind "Small blind")).updateSeat
    big.seatIndex (postBlind state.bigBlind "Big blind")

theorem mem_withBlinds {small big : Seat} (hkeys : state.HasSeatKeys) (hsmall : small ∈ state.seats)
    (hbig : big ∈ state.seats) (hne : small.seatIndex ≠ big.seatIndex) :
    row ∈ (state.withBlinds small big).seats ↔
      row = postBlind state.bigBlind "Big blind" big ∨
        row = postBlind state.smallBlind "Small blind" small ∨
          (row ∈ state.seats ∧ row.seatIndex ≠ small.seatIndex ∧ row.seatIndex ≠ big.seatIndex) := by
  have hkeys' : (state.updateSeat small.seatIndex
      (postBlind state.smallBlind "Small blind")).HasSeatKeys :=
    hkeys.updateSeat fun _ => postBlind_seatIndex _ _ _
  have hbig' : big ∈ (state.updateSeat small.seatIndex
      (postBlind state.smallBlind "Small blind")).seats :=
    (mem_updateSeat hkeys hsmall).mpr (.inr ⟨hbig, hne.symm⟩)
  unfold withBlinds
  rw [mem_updateSeat hkeys' hbig', mem_updateSeat hkeys hsmall]
  constructor
  · rintro (h | ⟨rfl | ⟨hrow, hsmall⟩, hbig⟩)
    · exact .inl h
    · exact .inr (.inl rfl)
    · exact .inr (.inr ⟨hrow, hsmall, hbig⟩)
  · rintro (h | rfl | ⟨hrow, hsmall, hbig⟩)
    · exact .inl h
    · exact .inr ⟨.inl rfl, by simpa using hne⟩
    · exact .inr ⟨.inr ⟨hrow, hsmall⟩, hbig⟩

theorem postBlinds_eq {small big : Seat} (hkeys : state.HasSeatKeys) (hsmall : small ∈ state.seats)
    (hbig : big ∈ state.seats) (hne : small.seatIndex ≠ big.seatIndex)
    (hsmallIndex : state.smallBlindSeatIndex = some small.seatIndex)
    (hbigIndex : state.bigBlindSeatIndex = some big.seatIndex) :
    state.postBlinds =
      { state.withBlinds small big with
        currentBet := max (postBlind state.bigBlind "Big blind" big).committedAmount
          (postBlind state.smallBlind "Small blind" small).committedAmount } := by
  have hfindSmall := find_of_mem hkeys hsmall
  have hfindBig := find_of_mem hkeys hbig
  have hkeep : ∀ (amount : Int) (label : String) (i : Nat) (row : Seat), row.seatIndex = i →
      (postBlind amount label row).seatIndex = i := fun amount label i row h => by simpa using h
  have hbigFirst : Keyed.lookup Seat.seatIndex big.seatIndex
      (Keyed.modify Seat.seatIndex small.seatIndex (postBlind state.smallBlind "Small blind")
        state.seats) = some big := by
    rw [Keyed.lookup_modify_ne (hkeep _ _ _) hne.symm]
    exact hfindBig
  have hsmallFirst : Keyed.lookup Seat.seatIndex small.seatIndex
      (Keyed.modify Seat.seatIndex small.seatIndex (postBlind state.smallBlind "Small blind")
        state.seats) = some (postBlind state.smallBlind "Small blind" small) :=
    Keyed.lookup_modify_self (hkeep _ _ _) hfindSmall
  have hcommittedBig : (state.withBlinds small big).committedBy big.seatIndex =
      (postBlind state.bigBlind "Big blind" big).committedAmount := by
    simp [committedBy, withBlinds, findSeatByIndex, Table.updateSeat,
      Keyed.lookup_modify_self (hkeep _ _ _) hbigFirst]
  have hcommittedSmall : (state.withBlinds small big).committedBy small.seatIndex =
      (postBlind state.smallBlind "Small blind" small).committedAmount := by
    simp [committedBy, withBlinds, findSeatByIndex, Table.updateSeat,
      Keyed.lookup_modify_ne (hkeep _ _ _) hne, hsmallFirst]
  unfold postBlinds
  simp only [hsmallIndex, hbigIndex, hfindSmall, hfindBig, Option.isSome_some, and_self, if_true]
  rw [← hcommittedBig, ← hcommittedSmall]
  rfl

/-- Who posts the blinds: nobody, or two different seats that are dealt in. -/
def BlindsReady (state : Table) : Prop :=
  state.smallBlindSeatIndex = none ∨
    ∃ small ∈ state.seats, ∃ big ∈ state.seats, small.status = .active ∧ big.status = .active ∧
      small.seatIndex ≠ big.seatIndex ∧ state.smallBlindSeatIndex = some small.seatIndex ∧
      state.bigBlindSeatIndex = some big.seatIndex

theorem Betting.postBlinds (h : Betting 0 state) (hbet : state.currentBet = 0)
    (hready : state.BlindsReady) : Betting 0 state.postBlinds := by
  rcases hready with hnone | ⟨small, hsmall, big, hbig, hsmallActive, hbigActive, hne, hsmallIndex,
    hbigIndex⟩
  · have hsame : state.postBlinds = state := by simp [Table.postBlinds, hnone]
    rwa [hsame]
  · rw [postBlinds_eq h.keys hsmall hbig hne hsmallIndex hbigIndex]
    have hlevel := fun row hrow => hbet ▸ h.level row hrow
    set bet := max (postBlind state.bigBlind "Big blind" big).committedAmount
      (postBlind state.smallBlind "Small blind" small).committedAmount with hbetEq
    have hbigLe : (postBlind state.bigBlind "Big blind" big).committedAmount ≤ bet :=
      le_max_left _ _
    have hsmallLe : (postBlind state.smallBlind "Small blind" small).committedAmount ≤ bet :=
      le_max_right _ _
    obtain ⟨hbigLevel, hbigIn, hbigTotal⟩ :=
      (hlevel big hbig).postBlind hbigActive state.bigBlind "Big blind" hbigLe
    obtain ⟨hsmallLevel, hsmallIn, hsmallTotal⟩ :=
      (hlevel small hsmall).postBlind hsmallActive state.smallBlind "Small blind" hsmallLe
    have hbet_nonneg : 0 ≤ bet := hbigLevel.committed_nonneg.trans hbigLevel.committed_le
    refine ⟨(h.keys.updateSeat fun _ => postBlind_seatIndex _ _ _).updateSeat fun _ =>
      postBlind_seatIndex _ _ _, fun row hrow => ?_, ?_, h.bigBlind_nonneg, h.raiseSize_ge⟩
    · rcases (mem_withBlinds h.keys hsmall hbig hne).mp hrow with rfl | rfl | ⟨hrow, -, -⟩
      · exact hbigLevel
      · exact hsmallLevel
      · exact (hlevel row hrow).mono hbet_nonneg
    · by_cases hle : (postBlind state.smallBlind "Small blind" small).committedAmount ≤
          (postBlind state.bigBlind "Big blind" big).committedAmount
      · refine ⟨_, (mem_withBlinds h.keys hsmall hbig hne).mpr (.inl rfl), hbigIn, ?_, ?_⟩
        · exact (max_eq_left hle).symm
        · simp only [hbigTotal]
          omega
      · refine ⟨_, (mem_withBlinds h.keys hsmall hbig hne).mpr (.inr (.inl rfl)), hsmallIn, ?_, ?_⟩
        · exact (max_eq_right (by omega)).symm
        · simp only [hsmallTotal]
          omega

theorem seatLevel_clearSeat (cards : List Card) (seat : Seat) :
    SeatLevel 0 0 { clearSeat seat with holeCards := cards } := by
  unfold clearSeat
  refine ⟨fun hin => ?_, le_rfl, le_rfl, le_rfl, le_rfl, fun _ => rfl, fun hactive => ?_,
    fun _ => rfl⟩
  · unfold isSeatInHand at hin
    simp only at hin ⊢
    split at hin
    · next heligible => exact heligible.2.le
    · simp at hin
  · simp only at hactive ⊢
    split at hactive
    · next heligible => exact heligible.2
    · cases hactive

theorem Opens.betting (hkeys : state.HasSeatKeys) (hbigBlind : 0 ≤ state.bigBlind)
    (h : Opens sha256 state fairnessSeed dealer smallBlind bigBlind shuffled withCards) :
    Betting 0 withCards ∧ withCards.currentBet = 0 ∧ withCards.BlindsReady := by
  have hdealt : ∀ i ∈ state.eligibleSeatIndexes, ∃ seat ∈ withCards.seats,
      seat.seatIndex = i ∧ seat.status = .active := by
    intro i hi
    obtain ⟨old, hold, heligible, hindex⟩ := mem_eligibleSeatIndexes.mp hi
    obtain ⟨cards, n, hwith⟩ := h.seats
    rw [hwith]
    exact ⟨_, List.mem_map_of_mem hold, hindex, if_pos heligible⟩
  have hdealer := dealer_mem hkeys h.nextDealer
  have hblinds := blinds_cases hkeys hdealer h.blindSeats
  obtain ⟨leader, hleader, -, hactive⟩ := hdealt dealer hdealer
  obtain ⟨cards, n, hwith⟩ := h.seats
  have hlevel : ∀ seat ∈ withCards.seats, SeatLevel 0 0 seat := by
    rw [hwith]
    intro seat hseat
    obtain ⟨old, -, rfl⟩ := List.mem_map.mp hseat
    exact seatLevel_clearSeat _ old
  have hbet : withCards.currentBet = 0 := by rw [hwith]; rfl
  refine ⟨⟨?_, ?_, ⟨leader, hleader, (isSeatNonFolded_iff leader).mpr (.inl hactive), ?_, ?_⟩, ?_, ?_⟩,
    hbet, ?_⟩
  · rw [hwith]
    exact hasSeatKeys_map hkeys fun _ => rfl
  · rw [hbet]
    exact hlevel
  · have := (hlevel leader hleader).committed_nonneg
    have := (hlevel leader hleader).committed_le
    omega
  · have := (hlevel leader hleader).total_ge
    have := (hlevel leader hleader).committed_nonneg
    have := (hlevel leader hleader).total_le
    have := (hlevel leader hleader).committed_le
    omega
  · rw [hwith]
    exact hbigBlind
  · rw [hwith]
    exact le_rfl
  · rcases hblinds with ⟨-, rfl, rfl⟩ | ⟨small, big, rfl, rfl, hne, hsmall, hbig⟩
    · left
      rw [hwith]
      rfl
    · right
      obtain ⟨smallSeat, hsmallSeat, hsmallIndex, hsmallActive⟩ := hdealt small hsmall
      obtain ⟨bigSeat, hbigSeat, hbigIndex, hbigActive⟩ := hdealt big hbig
      refine ⟨smallSeat, hsmallSeat, bigSeat, hbigSeat, hsmallActive, hbigActive, ?_, ?_, ?_⟩
      · rw [hsmallIndex, hbigIndex]
        exact hne
      · rw [hsmallIndex, hwith]
        rfl
      · rw [hbigIndex, hwith]
        rfl

theorem dealHand_betting (hkeys : state.HasSeatKeys) (hbigBlind : 0 ≤ state.bigBlind)
    (h : state.dealHand sha256 fairnessSeed = .ok next) : Betting 0 next := by
  obtain ⟨dealer, smallBlind, bigBlind, shuffled, withCards, hopens, rfl⟩ := dealHand_eq_ok.mp h
  obtain ⟨hbetting, hbet, hready⟩ := hopens.betting hkeys hbigBlind
  have hposted := hbetting.postBlinds hbet hready
  exact ⟨hposted.keys, hposted.level, hposted.leader, hposted.bigBlind_nonneg, hposted.raiseSize_ge⟩

end Table

end RewardSystem.Holdem
