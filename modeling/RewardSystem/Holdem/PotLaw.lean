import RewardSystem.Holdem.PotShares

/-!
# The law of the side pots

The pots are the layers of what the seats paid in. A seat is eligible for the layers up to its own
payment, so it never wins more of another seat's chips than it put in itself.
-/

namespace RewardSystem.Holdem

open ApiError

namespace Table

variable {now : Int} {state settled : Table} {seat : Seat} {pot resolved : Pot} {i : Nat}

/-! ## What the pots are for -/

/-- The best hand at the place `i`. -/
def seatHand (state : Table) (i : Nat) : Option BestHandEvaluation :=
  (state.findSeatByIndex i).bind state.handOf

/-- The seat `i` may win the pot, and no other seat that may has a better hand. -/
def IsBestFor (state : Table) (pot : Pot) (i : Nat) : Prop :=
  i ∈ pot.eligibleSeatIndexes ∧ ∃ hand, state.seatHand i = some hand ∧
    ∀ other ∈ pot.eligibleSeatIndexes, ∀ rival, state.seatHand other = some rival →
      compareHoldemBestHands rival hand ≠ .gt

/-- The shares of a pot: one for each of its best hands, all equal up to a cent, and together the
whole pot unless nobody may win it. -/
structure Divides (state : Table) (pot : Pot) (shares : List (Nat × Int)) : Prop where
  nodup : (shares.map Prod.fst).Nodup
  winners : ∀ i, i ∈ shares.map Prod.fst ↔ state.IsBestFor pot i
  even : ∀ left ∈ shares, ∀ right ∈ shares, left.2 ≤ right.2 + 1
  total : pot.eligibleSeatIndexes ≠ [] → (shares.map Prod.snd).sum = pot.amount

/-- The chips a seat played for: of every seat as much as it paid in itself. -/
def playedFor (state : Table) (seat : Seat) : Int :=
  (state.seats.map fun other => min seat.totalCommittedAmount other.totalCommittedAmount).sum

/-- Seats that paid in took part in the hand, and no payment is negative. -/
structure Contributions (state : Table) : Prop where
  keys : state.HasSeatKeys
  nonneg : ∀ seat ∈ state.seats, 0 ≤ seat.totalCommittedAmount
  inHand : ∀ seat ∈ state.seats, 0 < seat.totalCommittedAmount → isSeatInHand seat

/-! ## The eligible seats -/

theorem mem_potSeats {level : Int} : seat ∈ potSeats state.contributingSeats level ↔
    seat ∈ state.seats ∧ 0 < seat.totalCommittedAmount ∧ level ≤ seat.totalCommittedAmount ∧
      seat.status ≠ .folded := by
  simp only [potSeats, List.mem_filter, decide_eq_true_eq, mem_contributingSeats, and_assoc]

theorem mem_eligible (hpot : pot ∈ state.buildPendingPotViews) (hi : i ∈ pot.eligibleSeatIndexes) :
    ∃ seat ∈ state.seats, seat.seatIndex = i ∧ 0 < seat.totalCommittedAmount ∧
      seat.status ≠ .folded := by
  obtain ⟨level, -, heq⟩ := exists_level_of_mem_potViews hpot
  rw [heq] at hi
  obtain ⟨seat, hseat, hindex⟩ := List.mem_map.mp hi
  obtain ⟨hmem, hpos, -, hstatus⟩ := mem_potSeats.mp hseat
  exact ⟨seat, hmem, hindex, hpos, hstatus⟩

theorem contenders_pending (hkeys : state.HasSeatKeys) (hpot : pot ∈ state.buildPendingPotViews) :
    state.contenders pot = pot.eligibleSeatIndexes := by
  rw [contenders_eq_filter, List.filter_eq_self]
  intro i hi
  obtain ⟨seat, hseat, rfl, -, hstatus⟩ := mem_eligible hpot hi
  simpa [find_of_mem hkeys hseat] using hstatus

theorem bestHandOf_eligible {shown : Table} {bestHands : BestHands} (h : Contributions state)
    (hshow : showHands state.listNonFoldedSeats state = .ok (shown, bestHands))
    (hpot : pot ∈ state.buildPendingPotViews) (hi : i ∈ pot.eligibleSeatIndexes) :
    bestHandOf bestHands i = state.seatHand i := by
  obtain ⟨seat, hseat, rfl, hpos, hstatus⟩ := mem_eligible hpot hi
  have hmem : seat ∈ state.listNonFoldedSeats :=
    mem_listNonFoldedSeats.mpr ⟨hseat, hstatus, h.inHand seat hseat hpos⟩
  have hkeys : Keyed.HasKeys Seat.seatIndex state.listNonFoldedSeats :=
    (((sortSeatsByIndex_perm state.seats).map _).nodup_iff.mpr h.keys).sublist
      (List.filter_sublist.map _)
  rw [bestHandOf_showHands hshow, Keyed.lookup_of_mem hkeys hmem, seatHand,
    find_of_mem h.keys hseat]

theorem tops_iff {shown : Table} {bestHands : BestHands} (h : Contributions state)
    (hshow : showHands state.listNonFoldedSeats state = .ok (shown, bestHands))
    (hpot : pot ∈ state.buildPendingPotViews) :
    Tops bestHands (state.contenders pot) i ↔ state.IsBestFor pot i := by
  rw [contenders_pending h.keys hpot]
  unfold Tops IsBestFor
  refine and_congr_right fun hi => ?_
  rw [bestHandOf_eligible h hshow hpot hi]
  refine exists_congr fun hand => and_congr_right fun _ => ?_
  refine forall₂_congr fun other hother => ?_
  rw [bestHandOf_eligible h hshow hpot hother]

/-! ## Nested pots -/

theorem potViews_nested {seats : List Seat} {levels : List Int} {low : Int} {index : Nat}
    (hsorted : levels.Pairwise (· < ·)) :
    (potViews seats low index levels).Pairwise fun lower upper =>
      upper.eligibleSeatIndexes ⊆ lower.eligibleSeatIndexes := by
  induction levels generalizing low index with
  | nil => exact List.Pairwise.nil
  | cons level levels ih =>
      obtain ⟨hlevel, hrest⟩ := List.pairwise_cons.mp hsorted
      simp only [potViews]
      split
      · refine List.pairwise_cons.mpr ⟨fun upper hupper i hi => ?_, ih hrest⟩
        obtain ⟨above, habove, heq⟩ := exists_level_of_mem_potViews hupper
        have hlt := hlevel above habove
        rw [heq] at hi
        obtain ⟨seat, hseat, rfl⟩ := List.mem_map.mp hi
        simp only [potSeats, List.mem_filter, decide_eq_true_eq] at hseat
        refine List.mem_map_of_mem (List.mem_filter.mpr ⟨List.mem_filter.mpr ⟨hseat.1.1, ?_⟩, ?_⟩)
        · exact decide_eq_true (hlt.le.trans hseat.1.2)
        · exact decide_eq_true hseat.2
      · exact ih hrest

/-! ## What a seat can win -/

/-- What is in the pots that the seat `i` may win. -/
def winnable (pots : List Pot) (i : Nat) : Int :=
  (pots.map fun pot => if i ∈ pot.eligibleSeatIndexes then pot.amount else 0).sum

theorem winnable_potViews {seats : List Seat} {levels : List Int} {low own : Int} {index : Nat}
    (hsorted : (low :: levels).Pairwise (· < ·))
    (hown : ∀ row ∈ seats, row.seatIndex = i → row.totalCommittedAmount = own) :
    winnable (potViews seats low index levels) i ≤
      (Layers.layers (fun row : Seat => min own row.totalCommittedAmount) seats low levels).sum := by
  induction levels generalizing low index with
  | nil => exact le_rfl
  | cons level levels ih =>
      obtain ⟨hlow, hrest⟩ := List.pairwise_cons.mp hsorted
      have hlevel := hlow level List.mem_cons_self
      have hlayer : 0 ≤ (level - low) *
          ((seats.filter fun row => level ≤ min own row.totalCommittedAmount).length : Int) :=
        mul_nonneg (by omega) (Int.natCast_nonneg _)
      simp only [potViews, Layers.layers, List.sum_cons]
      split
      · simp only [winnable, List.map_cons, List.sum_cons]
        refine add_le_add ?_ (ih hrest)
        split
        case isTrue hi =>
          obtain ⟨seat, hseat, hindex⟩ := List.mem_map.mp hi
          simp only [List.mem_filter, decide_eq_true_eq] at hseat
          have hreach : level ≤ own := hown seat hseat.1.1 hindex ▸ hseat.1.2
          simp only [le_min_iff, hreach, true_and]
          exact le_rfl
        case isFalse => exact hlayer
      · exact (ih hrest).trans (le_add_of_nonneg_left hlayer)

theorem winnable_le_playedFor (h : Contributions state) (hseat : seat ∈ state.seats) :
    winnable state.buildPendingPotViews seat.seatIndex ≤ state.playedFor seat := by
  have hown : ∀ row ∈ state.contributingSeats, row.seatIndex = seat.seatIndex →
      row.totalCommittedAmount = seat.totalCommittedAmount := fun row hrow hindex => by
    rw [eq_of_seatIndex_eq h.keys (mem_contributingSeats.mp hrow).1 hseat hindex.symm]
  have hseatNonneg := h.nonneg seat hseat
  have hsorted := state.contributionLevels_pairwise
  have hcover : ∀ row ∈ state.contributingSeats,
      min seat.totalCommittedAmount row.totalCommittedAmount ≤ 0 ∨
        min seat.totalCommittedAmount row.totalCommittedAmount ∈ state.contributionLevels := by
    intro row hrow
    obtain ⟨hmem, hpos⟩ := mem_contributingSeats.mp hrow
    rcases le_total seat.totalCommittedAmount row.totalCommittedAmount with hle | hle
    · rw [min_eq_left hle]
      rcases hseatNonneg.eq_or_lt with hzero | hseatPos
      · exact .inl hzero.ge
      · exact .inr (mem_contributionLevels.mpr ⟨seat, hseat, hseatPos, rfl⟩)
    · rw [min_eq_right hle]
      exact .inr (mem_contributionLevels.mpr ⟨row, hmem, hpos, rfl⟩)
  have hnonneg : ∀ row ∈ state.seats,
      0 ≤ min seat.totalCommittedAmount row.totalCommittedAmount :=
    fun row hrow => le_min hseatNonneg (h.nonneg row hrow)
  calc winnable state.buildPendingPotViews seat.seatIndex
      ≤ (Layers.layers (fun row : Seat => min seat.totalCommittedAmount row.totalCommittedAmount)
          state.contributingSeats 0 state.contributionLevels).sum :=
        winnable_potViews hsorted hown
    _ = (state.contributingSeats.map fun row =>
          max (min seat.totalCommittedAmount row.totalCommittedAmount - 0) 0).sum :=
        Layers.sum_layers _ _ _ _ hsorted hcover
    _ = (state.contributingSeats.map fun row =>
          min seat.totalCommittedAmount row.totalCommittedAmount).sum := by
        congr 1
        refine List.map_congr_left fun row hrow => ?_
        have := hnonneg row (mem_contributingSeats.mp hrow).1
        rw [sub_zero, max_eq_left this]
    _ ≤ ((sortSeatsByIndex state.seats).map fun row =>
          min seat.totalCommittedAmount row.totalCommittedAmount).sum := by
        refine (List.filter_sublist.map _).sum_le_sum fun amount hamount => ?_
        obtain ⟨row, hrow, rfl⟩ := List.mem_map.mp hamount
        exact hnonneg row (mem_sortSeatsByIndex.mp hrow)
    _ = state.playedFor seat := ((sortSeatsByIndex_perm state.seats).map _).sum_eq

/-! ## The shares -/

theorem ResolvedAs.amount {bestHands : BestHands} (h : ResolvedAs bestHands state pot resolved) :
    resolved.amount = pot.amount := by
  rw [h.eq]

theorem ResolvedAs.share_le {bestHands : BestHands} (h : ResolvedAs bestHands state pot resolved)
    (hamount : 0 ≤ pot.amount) (heligible : ∀ i ∈ state.contenders pot, i ∈ pot.eligibleSeatIndexes) :
    Shares.amountOf (Shares.split pot.amount resolved.winnerSeatIndexes) i ≤
      if i ∈ pot.eligibleSeatIndexes then pot.amount else 0 := by
  by_cases hi : i ∈ resolved.winnerSeatIndexes
  · rw [if_pos (heligible i ((h.mem_winners i).mp hi).1)]
    calc Shares.amountOf (Shares.split pot.amount resolved.winnerSeatIndexes) i
        ≤ ((Shares.split pot.amount resolved.winnerSeatIndexes).map Prod.snd).sum :=
          Shares.amountOf_le_sum (Shares.split_nonneg hamount)
      _ = pot.amount := Shares.split_sum _ _ (List.ne_nil_of_mem hi)
  · rw [Shares.amountOf_split_of_notMem _ hi]
    split
    · exact hamount
    · exact le_rfl

theorem shareOf_le_winnable {pots resolvedPots : List Pot} {bestHands : BestHands}
    (hpots : ∀ pot ∈ pots, 0 ≤ pot.amount ∧ ∀ i ∈ state.contenders pot, i ∈ pot.eligibleSeatIndexes)
    (h : List.Forall₂ (ResolvedAs bestHands state) pots resolvedPots) :
    shareOf resolvedPots i ≤ winnable pots i := by
  induction h with
  | nil => exact le_rfl
  | cons hfirst hrest ih =>
      obtain ⟨⟨hamount, heligible⟩, hothers⟩ := List.forall_mem_cons.mp hpots
      simp only [winnable, List.map_cons, List.sum_cons]
      rw [shareOf_cons, hfirst.amount]
      refine add_le_add ?_ (ih hothers)
      exact hfirst.share_le hamount heligible

theorem eligible_nodup (hkeys : state.HasSeatKeys) (hpot : pot ∈ state.buildPendingPotViews) :
    pot.eligibleSeatIndexes.Nodup := by
  obtain ⟨level, -, heq⟩ := exists_level_of_mem_potViews hpot
  have hsorted : ((sortSeatsByIndex state.seats).map Seat.seatIndex).Nodup :=
    ((sortSeatsByIndex_perm state.seats).map _).nodup_iff.mpr hkeys
  have hsub : (potSeats state.contributingSeats level).Sublist (sortSeatsByIndex state.seats) :=
    (List.filter_sublist.trans List.filter_sublist).trans List.filter_sublist
  rw [heq]
  exact hsorted.sublist (hsub.map _)

theorem ResolvedAs.divides {shown : Table} {bestHands : BestHands} (h : Contributions state)
    (hshow : showHands state.listNonFoldedSeats state = .ok (shown, bestHands))
    (hpot : pot ∈ state.buildPendingPotViews) (hresolved : ResolvedAs bestHands state pot resolved) :
    Divides state pot (Shares.split resolved.amount resolved.winnerSeatIndexes) := by
  have hcontenders := contenders_pending h.keys hpot
  refine ⟨?_, fun i => ?_, fun left hleft right hright => Shares.split_even hleft hright,
    fun hne => ?_⟩
  · rw [Shares.split_fst]
    exact hresolved.nodup (hcontenders ▸ eligible_nodup h.keys hpot)
  · rw [Shares.split_fst, hresolved.mem_winners, tops_iff h hshow hpot]
  · rw [Shares.split_sum _ _ (hresolved.ne_nil (hcontenders ▸ hne)), hresolved.amount]

theorem exists_settleShowdown (h : Contributions state) (hcontested : state.listNonFoldedSeats ≠ [])
    (hcards : ∀ seat ∈ state.listNonFoldedSeats,
      5 ≤ (seat.holeCards ++ state.communityCards).length) :
    ∃ settled, state.settleShowdown now = .ok settled := by
  obtain ⟨shown, bestHands, hshow⟩ := exists_showHands hcards
  have hsame := ((showHands_marked hshow).mono fun _ _ => Marked.paid).contenders_eq
  obtain ⟨paid, pots, hpaid⟩ : ∃ paid pots,
      resolvePots bestHands state.buildPendingPotViews shown = .ok (paid, pots) := by
    refine exists_resolvePots fun pot hpot i hi => ?_
    rw [hsame pot, contenders_pending h.keys hpot] at hi
    obtain ⟨seat, hseat, rfl, hpos, hstatus⟩ := mem_eligible hpot hi
    have hmem : seat ∈ state.listNonFoldedSeats :=
      mem_listNonFoldedSeats.mpr ⟨hseat, hstatus, h.inHand seat hseat hpos⟩
    obtain ⟨best, hbest⟩ := evaluateBestHoldemHand_isOk _ (hcards seat hmem)
    rw [bestHandOf_eligible h hshow hpot hi, seatHand, find_of_mem h.keys hseat]
    simp [handOf, hbest, Except.toOption]
  unfold settleShowdown
  simp only [if_neg hcontested]
  exact ⟨_, bind_eq_ok.mpr ⟨_, hshow, bind_eq_ok.mpr ⟨_, hpaid, rfl⟩⟩⟩

/-- The settlement pays the shares of the pots, and no seat gets more than it played for. -/
structure SettledFairly (state settled : Table) : Prop where
  divided : ∃ division : List (List (Nat × Int)),
    List.Forall₂ (Divides state) state.buildPendingPotViews division ∧
      ∀ i, settled.stackOf i = (state.stackOf i).map (· + Shares.amountOf division.flatten i)
  bounded : ∀ seat ∈ state.seats, ∃ gain, gain ≤ state.playedFor seat ∧
    settled.stackOf seat.seatIndex = some (seat.stackAmount + gain)

/-- The law of the side pots: together the pots are what was paid in, fewer and fewer seats are
eligible, and the settlement divides each pot among its best hands. -/
theorem side_pot_law (h : Contributions state) :
    potTotal state.buildPendingPotViews = state.committedTotal ∧
    state.buildPendingPotViews.Pairwise (fun lower upper =>
      upper.eligibleSeatIndexes ⊆ lower.eligibleSeatIndexes) ∧
    (state.listNonFoldedSeats ≠ [] → (∀ seat ∈ state.listNonFoldedSeats,
      5 ≤ (seat.holeCards ++ state.communityCards).length) →
        ∃ settled, state.settleShowdown now = .ok settled) ∧
    ∀ settled, state.settleShowdown now = .ok settled → SettledFairly state settled := by
  refine ⟨potTotal_buildPendingPotViews h.nonneg, ?_, exists_settleShowdown h, fun settled hok => ?_⟩
  · exact potViews_nested (List.pairwise_cons.mp state.contributionLevels_pairwise).2
  · obtain ⟨shown, bestHands, hshow, hpots, hpays⟩ := settleShowdown_spec hok
    refine ⟨⟨settled.resolvedPots.map fun pot => Shares.split pot.amount pot.winnerSeatIndexes,
      ?_, fun i => ?_⟩, fun seat hseat => ?_⟩
    · refine List.forall₂_map_right_iff.mpr ?_
      exact ((List.forall₂_and_left _ _).mpr ⟨fun _ h => h, hpots⟩).imp fun pot resolved hboth =>
        hboth.2.divides h hshow hboth.1
    · rw [hpays.stackOf_eq, List.flatten_eq_flatMap, List.flatMap_map]
      rfl
    · refine ⟨shareOf settled.resolvedPots seat.seatIndex, ?_, ?_⟩
      · refine (shareOf_le_winnable (fun pot hpot => ⟨(amount_pos_of_mem_potViews hpot).le, ?_⟩)
          hpots).trans (winnable_le_playedFor h hseat)
        exact fun i hi => contenders_pending h.keys hpot ▸ hi
      · rw [hpays.stackOf_eq, stackOf, find_of_mem h.keys hseat]
        rfl

/-- Three seats on the river. The first paid in more than the others, who are all in. -/
def sampleShowdown (firstStatus : SeatStatus) : Table :=
  let table := createdTable .cash
    [samplePlayer 7 5000, samplePlayer 8 5000, samplePlayer 9 5000]
  { table with
    communityCards := [⟨.two, .clubs⟩, ⟨.seven, .hearts⟩, ⟨.nine, .spades⟩, ⟨.jack, .diamonds⟩,
      ⟨.king, .clubs⟩]
    seats := table.seats.map fun seat =>
      { seat with
        stackAmount := 0
        totalCommittedAmount := if seat.seatIndex = 0 then 10000 else 5001
        status := if seat.seatIndex = 0 then firstStatus else .allIn
        holeCards := if seat.seatIndex = 2 then [⟨.ace, .spades⟩, ⟨.ace, .hearts⟩]
          else [⟨.three, .spades⟩, ⟨.four, .hearts⟩] } }

theorem sampleShowdown_contributions : Contributions (sampleShowdown .allIn) :=
  ⟨by unfold HasSeatKeys Keyed.HasKeys; decide, by decide, by decide⟩

theorem side_pot_law_sample :
    ∃ settled, (sampleShowdown .allIn).settleShowdown 0 = .ok settled ∧
      SettledFairly (sampleShowdown .allIn) settled := by
  have hlaw := @side_pot_law 0 _ sampleShowdown_contributions
  obtain ⟨settled, hok⟩ := hlaw.2.2.1 (by decide +kernel) (by decide +kernel)
  exact ⟨settled, hok, hlaw.2.2.2 settled hok⟩

/-- If the seat that paid in the most has folded, the last pot has nobody to win it and stays in the
middle. -/
theorem folded_pot_unpaid :
    ∃ state settled, Contributions state ∧ state.settleShowdown 0 = .ok settled ∧
      settled.stackTotal - state.stackTotal < potTotal state.buildPendingPotViews := by
  have hstate : Contributions (sampleShowdown .folded) :=
    ⟨by unfold HasSeatKeys Keyed.HasKeys; decide, by decide, by decide⟩
  obtain ⟨settled, hok, hless⟩ := @exists_ok_of_check _
    ((sampleShowdown .folded).settleShowdown 0)
    (fun settled => settled.stackTotal - (sampleShowdown .folded).stackTotal <
      potTotal (sampleShowdown .folded).buildPendingPotViews) (by decide +kernel)
  exact ⟨_, settled, hstate, hok, of_decide_eq_true hless⟩

end Table

end RewardSystem.Holdem
