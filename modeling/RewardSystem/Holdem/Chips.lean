import RewardSystem.Holdem.SidePots

/-!
# Chips

No chip is made or lost: in a hand the stacks and what the seats have paid into it add up to the
stacks before, and a settled hand has paid everything out again.
-/

namespace RewardSystem.Holdem

open ApiError Transition

namespace Table

variable {sha256 : HashFunction} {now : Int} {state next : Table} {seat : Seat} {prior : Int}

def stackTotal (state : Table) : Int :=
  (state.seats.map Seat.stackAmount).sum

def committedTotal (state : Table) : Int :=
  (state.seats.map Seat.totalCommittedAmount).sum

/-- All chips of a table, in the stacks and in the middle. -/
def chips (state : Table) : Int :=
  state.stackTotal + state.committedTotal

/-- Nobody is in debt. -/
def Funded (state : Table) : Prop :=
  ∀ seat ∈ state.seats, 0 ≤ seat.stackAmount

/-! ## Pots -/

theorem contributionLevels_pairwise (state : Table) :
    (0 :: state.contributionLevels).Pairwise (· < ·) := by
  refine List.pairwise_cons.mpr ⟨fun level hlevel => ?_, ?_⟩
  · obtain ⟨seat, -, hpos, rfl⟩ := mem_contributionLevels.mp hlevel
    exact hpos
  · have hle : state.contributionLevels.Pairwise (· ≤ ·) := List.pairwise_insertionSort _ _
    have hne : state.contributionLevels.Nodup :=
      (List.perm_insertionSort _ _).nodup_iff.mpr (List.nodup_dedup _)
    exact (hle.and hne).imp fun h => lt_of_le_of_ne h.1 h.2

theorem potTotal_potViews {seats : List Seat} {levels : List Int} {low : Int} (index : Nat)
    (hsorted : (low :: levels).Pairwise (· < ·)) :
    potTotal (potViews seats low index levels) =
      (Layers.layers Seat.totalCommittedAmount seats low levels).sum := by
  induction levels generalizing low index with
  | nil => rfl
  | cons level levels ih =>
      have hlt : low < level := (List.pairwise_cons.mp hsorted).1 level (by simp)
      have hrest := (List.pairwise_cons.mp hsorted).2
      simp only [potViews, Layers.layers, List.sum_cons]
      split
      · simp only [potTotal, List.map_cons, List.sum_cons]
        rw [← ih (index + 1) hrest]
        rfl
      · rw [ih index hrest]
        have hlen : (0 : Int) ≤ (level - low) *
            (seats.filter fun seat => level ≤ seat.totalCommittedAmount).length :=
          Int.mul_nonneg (by omega) (Int.natCast_nonneg _)
        omega

theorem sum_filter_pos (seats : List Seat) (h : ∀ seat ∈ seats, 0 ≤ seat.totalCommittedAmount) :
    (((seats.filter fun seat => 0 < seat.totalCommittedAmount).map fun seat =>
      max (seat.totalCommittedAmount - 0) 0).sum) = (seats.map Seat.totalCommittedAmount).sum := by
  induction seats with
  | nil => rfl
  | cons seat rest ih =>
      have hseat := h seat (by simp)
      have hrest := ih fun row hrow => h row (by simp [hrow])
      by_cases hpos : 0 < seat.totalCommittedAmount
      · simp only [List.filter_cons, hpos, decide_true, if_true, List.map_cons, List.sum_cons, hrest]
        omega
      · simp only [List.filter_cons, hpos, decide_false, Bool.false_eq_true, if_false,
          List.map_cons, List.sum_cons, hrest]
        omega

theorem potTotal_buildPendingPotViews
    (h : ∀ seat ∈ state.seats, 0 ≤ seat.totalCommittedAmount) :
    potTotal state.buildPendingPotViews = state.committedTotal := by
  unfold buildPendingPotViews
  rw [potTotal_potViews 0 state.contributionLevels_pairwise,
    Layers.sum_layers _ _ _ _ state.contributionLevels_pairwise]
  · unfold contributingSeats
    rw [sum_filter_pos _ fun seat hseat => h seat (mem_sortSeatsByIndex.mp hseat)]
    exact ((sortSeatsByIndex_perm state.seats).map Seat.totalCommittedAmount).sum_eq
  · intro seat hseat
    right
    obtain ⟨hmem, hpos⟩ := mem_contributingSeats.mp hseat
    exact mem_contributionLevels.mpr ⟨seat, hmem, hpos, rfl⟩

/-! ## Paying the pots -/

theorem stackTotal_updateSeat {f : Seat → Seat} (hkeys : state.HasSeatKeys)
    (hseat : seat ∈ state.seats) :
    (state.updateSeat seat.seatIndex f).stackTotal =
      state.stackTotal - seat.stackAmount + (f seat).stackAmount :=
  Keyed.sum_modify Seat.stackAmount hkeys (find_of_mem hkeys hseat)

theorem committedTotal_updateSeat {f : Seat → Seat} (hkeys : state.HasSeatKeys)
    (hseat : seat ∈ state.seats) :
    (state.updateSeat seat.seatIndex f).committedTotal =
      state.committedTotal - seat.totalCommittedAmount + (f seat).totalCommittedAmount :=
  Keyed.sum_modify Seat.totalCommittedAmount hkeys (find_of_mem hkeys hseat)

theorem Reseated.hasSeatKeys (h : Reseated Paid state next) (hkeys : state.HasSeatKeys) :
    next.HasSeatKeys := by
  obtain ⟨g, hg, rfl⟩ := h
  exact hasSeatKeys_map hkeys fun row => (hg row).seatIndex

def AllSeated (state : Table) (parts : List (Nat × Int)) : Prop :=
  ∀ part ∈ parts, ∃ seat ∈ state.seats, seat.seatIndex = part.1

theorem payWinners_stackTotal {parts : List (Nat × Int)} (hkeys : state.HasSeatKeys)
    (hseated : state.AllSeated parts) :
    (payWinners parts state).stackTotal = state.stackTotal + (parts.map Prod.snd).sum := by
  induction parts generalizing state with
  | nil => simp [payWinners]
  | cons part parts ih =>
      obtain ⟨seat, hseat, hindex⟩ := hseated part (by simp)
      let paid := state.updateSeat part.1 (payWinner part.2)
      have hpaid : paid.stackTotal = state.stackTotal + part.2 := by
        have hsum := stackTotal_updateSeat (f := payWinner part.2) hkeys hseat
        rw [hindex] at hsum
        simp only [paid, hsum, payWinner, awardToSeatStack]
        omega
      have hpaidKeys : paid.HasSeatKeys := hkeys.updateSeat fun _ => rfl
      have hpaidSeated : paid.AllSeated parts := by
        intro other hother
        obtain ⟨row, hrow, hrowIndex⟩ := hseated other (by simp [hother])
        by_cases hsame : row.seatIndex = seat.seatIndex
        · refine ⟨_, List.mem_map_of_mem hrow, ?_⟩
          simp [hsame, hindex, payWinner, awardToSeatStack, ← hrowIndex]
        · refine ⟨_, List.mem_map_of_mem hrow, ?_⟩
          rw [if_neg (by rw [← hindex]; exact hsame)]
          exact hrowIndex
      have hrest := ih hpaidKeys hpaidSeated
      simp only [List.map_cons, List.sum_cons]
      change (payWinners parts paid).stackTotal = _
      rw [hrest, hpaid]
      ring

theorem payWinners_funded {parts : List (Nat × Int)} (hparts : ∀ part ∈ parts, 0 ≤ part.2)
    (h : state.Funded) : (payWinners parts state).Funded := by
  induction parts generalizing state with
  | nil => exact h
  | cons part parts ih =>
      refine ih (fun other hother => hparts other (by simp [hother])) ?_
      have hpart := hparts part (by simp)
      intro row hrow
      obtain ⟨old, hold, rfl⟩ := List.mem_map.mp hrow
      have := h old hold
      split
      · simp only [payWinner, awardToSeatStack]
        omega
      · exact this

theorem contend_winners {bestHands : BestHands} {contenders : List Seat} {start best : List Nat × BestHandEvaluation}
    (h : contenders.foldlM (contend bestHands) start = .ok best) (hstart : start.1 ≠ []) :
    best.1 ≠ [] ∧ ∀ i ∈ best.1, i ∈ start.1 ∨ ∃ seat ∈ contenders, seat.seatIndex = i := by
  induction contenders generalizing start with
  | nil =>
      injection h with h
      exact ⟨h ▸ hstart, fun i hi => .inl (h ▸ hi)⟩
  | cons contender contenders ih =>
      obtain ⟨nextBest, hnext, h⟩ := bind_eq_ok.mp h
      have hnextBest : nextBest.1 ≠ [] ∧
          ∀ i ∈ nextBest.1, i ∈ start.1 ∨ contender.seatIndex = i := by
        unfold contend at hnext
        split at hnext
        · cases hnext
        · injection hnext with hnext
          rw [← hnext]
          split
          · exact ⟨by simp, fun i hi => .inr (by simpa [eq_comm] using hi)⟩
          · refine ⟨by simp, fun i hi => ?_⟩
            rcases List.mem_append.mp hi with hi | hi
            · exact .inl hi
            · exact .inr (by simpa [eq_comm] using hi)
          · exact ⟨hstart, fun i hi => .inl hi⟩
      obtain ⟨hne, hall⟩ := ih h hnextBest.1
      refine ⟨hne, fun i hi => ?_⟩
      rcases hall i hi with hi | ⟨row, hrow, hindex⟩
      · rcases hnextBest.2 i hi with hi | hi
        · exact .inl hi
        · exact .inr ⟨contender, by simp, hi⟩
      · exact .inr ⟨row, by simp [hrow], hindex⟩

theorem mem_of_mem_eligibleSeats {pot : Pot} (h : seat ∈ state.eligibleSeats pot) :
    seat ∈ state.seats := by
  obtain ⟨i, -, hfind⟩ := List.mem_filterMap.mp (List.mem_of_mem_filter h)
  exact mem_seats_of_find hfind

theorem resolvePot_stackTotal {bestHands : BestHands} {pot resolved : Pot}
    (hkeys : state.HasSeatKeys) (heligible : state.eligibleSeats pot ≠ [])
    (h : state.resolvePot bestHands pot = .ok (next, resolved)) :
    next.stackTotal = state.stackTotal + pot.amount := by
  unfold resolvePot at h
  split at h
  · contradiction
  case h_2 first contenders hseats =>
    split at h
    · cases h
    case h_2 firstHand _ =>
      obtain ⟨best, hbest, h⟩ := bind_eq_ok.mp h
      injection h with h
      obtain ⟨hne, hall⟩ := contend_winners hbest (by simp)
      rw [← (Prod.mk.inj h).1]
      let winners := state.sortSeatIndexesLeftOfDealer best.1
      have hperm : winners.Perm best.1 := List.perm_insertionSort _ _
      have hwinners : winners ≠ [] := fun hnil => hne (List.nil_perm.mp (hnil ▸ hperm))
      have hseated : state.AllSeated (Shares.split pot.amount winners) := by
        intro part hpart
        have hmem : part.1 ∈ winners := by
          have := List.mem_map_of_mem (f := Prod.fst) hpart
          rwa [Shares.split_fst] at this
        have hfirst : first ∈ state.eligibleSeats pot := by rw [hseats]; simp
        rcases hall part.1 (hperm.subset hmem) with hstart | ⟨row, hrow, hindex⟩
        · exact ⟨first, mem_of_mem_eligibleSeats hfirst, by simpa [eq_comm] using hstart⟩
        · exact ⟨row, mem_of_mem_eligibleSeats (hseats ▸ List.mem_cons_of_mem _ hrow), hindex⟩
      rw [payWinners_stackTotal hkeys hseated, Shares.split_sum _ _ hwinners]

theorem resolvePot_funded {bestHands : BestHands} {pot resolved : Pot} (hpot : 0 ≤ pot.amount)
    (hfunded : state.Funded) (h : state.resolvePot bestHands pot = .ok (next, resolved)) :
    next.Funded := by
  unfold resolvePot at h
  split at h
  · injection h with h
    exact (Prod.mk.inj h).1 ▸ hfunded
  · split at h
    · cases h
    · obtain ⟨best, -, h⟩ := bind_eq_ok.mp h
      injection h with h
      rw [← (Prod.mk.inj h).1]
      exact payWinners_funded (Shares.split_nonneg hpot) hfunded

theorem eligibleSeats_ne_nil {pot : Pot} (hkeys : state.HasSeatKeys) (hseat : seat ∈ state.seats)
    (hstatus : seat.status ≠ .folded) (hindex : seat.seatIndex ∈ pot.eligibleSeatIndexes) :
    state.eligibleSeats pot ≠ [] := by
  refine List.ne_nil_of_mem (a := seat) ?_
  simp only [eligibleSeats, List.mem_filter, List.mem_filterMap, decide_eq_true_eq]
  exact ⟨⟨_, hindex, find_of_mem hkeys hseat⟩, hstatus⟩

theorem resolvePots_stackTotal {bestHands : BestHands} {pots resolved : List Pot}
    (hkeys : state.HasSeatKeys) (hseat : seat ∈ state.seats) (hstatus : seat.status ≠ .folded)
    (hindex : ∀ pot ∈ pots, seat.seatIndex ∈ pot.eligibleSeatIndexes)
    (h : resolvePots bestHands pots state = .ok (next, resolved)) :
    next.stackTotal = state.stackTotal + potTotal pots := by
  induction pots generalizing state next resolved seat with
  | nil =>
      injection h with h
      rw [← (Prod.mk.inj h).1]
      simp [potTotal]
  | cons pot pots ih =>
      obtain ⟨⟨paid, first⟩, hfirst, h⟩ := bind_eq_ok.mp h
      obtain ⟨⟨last, rest⟩, hrest, h⟩ := bind_eq_ok.mp h
      injection h with h
      rw [← (Prod.mk.inj h).1]
      have hpaid := resolvePot_stackTotal hkeys
        (eligibleSeats_ne_nil hkeys hseat hstatus (hindex pot (by simp))) hfirst
      have hreseated := resolvePot_reseated hfirst
      have hpaidKeys := hreseated.hasSeatKeys hkeys
      obtain ⟨g, hg, rfl⟩ := hreseated
      have hlast := ih hpaidKeys (List.mem_map_of_mem hseat) ((hg seat).status ▸ hstatus)
        (fun other hother => (hg seat).seatIndex ▸ hindex other (by simp [hother])) hrest
      simp only [potTotal, List.map_cons, List.sum_cons] at hlast ⊢
      omega

theorem resolvePots_funded {bestHands : BestHands} {pots resolved : List Pot}
    (hpots : ∀ pot ∈ pots, 0 ≤ pot.amount) (hfunded : state.Funded)
    (h : resolvePots bestHands pots state = .ok (next, resolved)) : next.Funded := by
  induction pots generalizing state next resolved with
  | nil =>
      injection h with h
      exact (Prod.mk.inj h).1 ▸ hfunded
  | cons pot pots ih =>
      obtain ⟨⟨paid, first⟩, hfirst, h⟩ := bind_eq_ok.mp h
      obtain ⟨⟨last, rest⟩, hrest, h⟩ := bind_eq_ok.mp h
      injection h with h
      rw [← (Prod.mk.inj h).1]
      exact ih (fun other hother => hpots other (by simp [hother]))
        (resolvePot_funded (hpots pot (by simp)) hfunded hfirst) hrest

theorem amount_pos_of_mem_potViews {seats : List Seat} {levels : List Int} {low : Int}
    {index : Nat} {pot : Pot} (h : pot ∈ potViews seats low index levels) : 0 < pot.amount := by
  induction levels generalizing low index with
  | nil => cases h
  | cons level levels ih =>
      simp only [potViews] at h
      split at h
      case isTrue hpos =>
        rcases List.mem_cons.mp h with rfl | h
        · exact hpos
        · exact ih h
      case isFalse => exact ih h

theorem marked_stackTotal (h : Reseated Marked state next) : next.stackTotal = state.stackTotal := by
  obtain ⟨g, hg, rfl⟩ := h
  unfold stackTotal
  simp only [List.map_map]
  congr 1
  refine List.map_congr_left fun seat _ => ?_
  obtain ⟨_, _, hseat⟩ := hg seat
  simp [hseat]

theorem marked_funded (h : Reseated Marked state next) (hfunded : state.Funded) : next.Funded := by
  obtain ⟨g, hg, rfl⟩ := h
  intro row hrow
  obtain ⟨old, hold, rfl⟩ := List.mem_map.mp hrow
  obtain ⟨_, _, hrow⟩ := hg old
  rw [hrow]
  exact hfunded old hold

/-! ## Settlements -/

/-- A settled table owns the chips that were in the stacks and in the middle. -/
structure PaidOut (total : Int) (settled : Table) : Prop where
  funded : settled.Funded
  idle : ∀ seat ∈ settled.seats, Idle seat
  total : settled.stackTotal = total

theorem closeHand_paidOut {stage : Street} {potAmount : Int} {revealed winners : List Nat}
    {pots : List Pot} (hfunded : state.Funded) :
    PaidOut state.stackTotal (closeHand now stage potAmount revealed winners pots state) := by
  refine ⟨fun row hrow => ?_, fun row hrow => ?_, ?_⟩
  · obtain ⟨old, hold, rfl⟩ := List.mem_map.mp hrow
    exact hfunded old hold
  · obtain ⟨old, -, rfl⟩ := List.mem_map.mp hrow
    exact ⟨rfl, rfl, rfl⟩
  · simp only [stackTotal, closeHand, revealHoldemFairness, List.map_map]
    rfl

theorem Betting.totals_nonneg (h : Betting prior state) :
    ∀ seat ∈ state.seats, 0 ≤ seat.totalCommittedAmount := fun seat hseat =>
  (h.level seat hseat).committed_nonneg.trans (h.level seat hseat).total_ge

theorem settleByFold_paidOut {stage : Street} (hbetting : Betting prior state)
    (hfunded : state.Funded) (h : state.settleByFold now stage = .ok next) :
    PaidOut state.chips next := by
  have htotal := potTotal_buildPendingPotViews hbetting.totals_nonneg
  unfold settleByFold at h
  split at h
  · cases h
  case h_2 winner rest hwinner =>
    injection h with h
    have hmem : winner ∈ state.seats :=
      (mem_listNonFoldedSeats.mp (hwinner ▸ List.mem_cons_self)).1
    have hpots : potTotal (state.buildPendingPotViews.map fun pot =>
        { pot with rakeAmount := 0, winnerSeatIndexes := [winner.seatIndex] }) =
        state.committedTotal := by
      rw [← htotal]
      simp only [potTotal, List.map_map]
      rfl
    have hnonneg : 0 ≤ state.committedTotal :=
      List.sum_nonneg (by simpa using hbetting.totals_nonneg)
    rw [← h]
    refine (?_ : state.chips = _) ▸ closeHand_paidOut ?_
    · rw [stackTotal_updateSeat hbetting.keys hmem, hpots]
      simp only [awardToSeatStack, chips]
      omega
    · refine forall_updateSeat hbetting.keys hmem ?_ fun row hrow _ => hfunded row hrow
      have := hfunded winner hmem
      simp only [awardToSeatStack, hpots]
      omega

theorem settleShowdown_paidOut (hbetting : Betting prior state) (hfunded : state.Funded)
    (h : state.settleShowdown now = .ok next) : PaidOut state.chips next := by
  obtain ⟨shown, bestHands, paid, pots, marked, hdown⟩ := settleShowdown_cases h
  obtain ⟨leader, hleader, hleads, -, hpots⟩ := hbetting.leader_eligible
  have hshown := showHands_marked hdown.shows
  have hpaidFunded := resolvePots_funded (fun pot hpot => (amount_pos_of_mem_potViews hpot).le)
    (marked_funded hshown hfunded) hdown.pays
  have hpaid : paid.stackTotal = shown.stackTotal + potTotal state.buildPendingPotViews := by
    have hkeys : shown.HasSeatKeys :=
      (hshown.mono fun _ _ => Marked.paid).hasSeatKeys hbetting.keys
    obtain ⟨g, hg, rfl⟩ := hshown
    refine resolvePots_stackTotal hkeys (List.mem_map_of_mem hleader)
      ((hg leader).paid.status ▸ hleads.nonFolded.1) (fun pot hpot => ?_) hdown.pays
    exact (hg leader).paid.seatIndex ▸ hpots pot hpot
  obtain ⟨winners, rfl⟩ := hdown.closes
  refine (?_ : state.chips = _) ▸ closeHand_paidOut (marked_funded hdown.marks hpaidFunded)
  rw [marked_stackTotal hdown.marks, hpaid, marked_stackTotal hshown,
    potTotal_buildPendingPotViews hbetting.totals_nonneg]
  rfl

/-! ## Hands -/

/-- The chips of a hand that is still played. -/
structure InPlay (total : Int) (state : Table) : Prop where
  betting : ∃ prior, Betting prior state
  funded : state.Funded
  total : state.chips = total

theorem InPlay.ending {total : Int} (h : InPlay total state) (hending : Ending now state next) :
    next = state ∨ PaidOut total next := by
  obtain ⟨prior, hbetting⟩ := h.betting
  cases hending with
  | playing _ _ => exact .inl rfl
  | byFold stage _ _ hsettled => exact .inr (h.total ▸ settleByFold_paidOut hbetting h.funded hsettled)
  | showdown _ _ hsettled => exact .inr (h.total ▸ settleShowdown_paidOut hbetting h.funded hsettled)

theorem InPlay.move {total : Int} (h : InPlay total state) (hseat : seat ∈ state.seats)
    (hactive : seat.status = .active) (hmove : Move state seat next) : InPlay total next := by
  obtain ⟨prior, hbetting⟩ := h.betting
  have hkeys := hbetting.keys
  have hsame : ∀ f : Seat → Seat, (f seat).stackAmount = seat.stackAmount →
      (f seat).totalCommittedAmount = seat.totalCommittedAmount →
      (state.updateSeat seat.seatIndex f).Funded ∧
        (state.updateSeat seat.seatIndex f).chips = total := by
    intro f hstack htotal
    refine ⟨forall_updateSeat hkeys hseat (hstack ▸ h.funded seat hseat) fun row hrow _ =>
      h.funded row hrow, ?_⟩
    rw [chips, stackTotal_updateSeat hkeys hseat, committedTotal_updateSeat hkeys hseat, hstack,
      htotal, ← h.total]
    unfold chips
    omega
  refine ⟨⟨prior, hbetting.move hseat hactive hmove⟩, ?_, ?_⟩
  · cases hmove with
    | fold _ => exact (hsame _ rfl rfl).1
    | check _ hcheck =>
        obtain ⟨-, rfl⟩ := applyCheck_eq_ok.mp hcheck
        exact (hsame _ rfl rfl).1
    | post posting hlegal =>
        have hposted := postFromStack_of_pos hlegal.transfer_pos hlegal.transfer_le
        refine forall_updateSeat hkeys hseat ?_ fun row hrow _ => h.funded row hrow
        have := hlegal.transfer_le
        simp only [postSeat, hposted]
        omega
  · cases hmove with
    | fold _ => exact (hsame _ rfl rfl).2
    | check _ hcheck =>
        obtain ⟨-, rfl⟩ := applyCheck_eq_ok.mp hcheck
        exact (hsame _ rfl rfl).2
    | post posting hlegal =>
        have hposted := postFromStack_of_pos hlegal.transfer_pos hlegal.transfer_le
        change (state.updateSeat seat.seatIndex (postSeat posting)).chips = total
        rw [chips, stackTotal_updateSeat hkeys hseat, committedTotal_updateSeat hkeys hseat,
          ← h.total]
        simp only [postSeat, hposted, chips]
        omega

theorem InPlay.street {total : Int} (h : InPlay total state) (hround : state.hasRoundCompleted)
    (hstreet : StreetDealt state next) : InPlay total next := by
  obtain ⟨prior, hbetting⟩ := h.betting
  refine ⟨⟨_, hbetting.street hround hstreet⟩, ?_, ?_⟩
  all_goals
    obtain ⟨_, _, _, dealt, -, -, hdealt, rfl⟩ := hstreet.exists_deal
    obtain ⟨-, rfl⟩ := dealCommunityCards_eq_ok.mp hdealt
  · intro row hrow
    obtain ⟨old, hold, rfl⟩ := List.mem_map.mp hrow
    exact h.funded old hold
  · rw [← h.total]
    simp only [chips, stackTotal, committedTotal, openStreet, resetStreetCommitments, List.map_map]
    rfl

theorem InPlay.progression {total : Int} {stage : Street} (h : InPlay total state)
    (hactive : state.status = .active)
    (hnext : state.resolveTerminalAndStreetProgression now stage = .ok next) :
    (next.status = .active ∧ InPlay total next) ∨ (next.status = .waiting ∧ PaidOut total next) := by
  obtain ⟨last, hlast, hlastActive, hending⟩ :=
    progression_cases (I := InPlay total)
      (fun s t hs hstatus hround hstreet =>
        ⟨hstreet.status.trans hstatus, hs.street hround hstreet⟩) h hactive hnext
  rcases hlast.ending hending with rfl | hpaid
  · exact .inl ⟨hlastActive, hlast⟩
  · rcases hending.settles with ⟨rfl, -⟩ | hsettles
    · exact .inl ⟨hlastActive, hlast⟩
    · exact .inr ⟨hsettles.idle.1, hpaid⟩

/-! ## The start of a hand -/

theorem postFromStack_chips (amount : Int) (seat : Seat) :
    (postFromStack amount seat).stackAmount + (postFromStack amount seat).totalCommittedAmount =
      seat.stackAmount + seat.totalCommittedAmount := by
  unfold postFromStack
  split
  · rfl
  · simp only
    omega

theorem postFromStack_nonneg (amount : Int) (h : 0 ≤ seat.stackAmount) :
    0 ≤ (postFromStack amount seat).stackAmount := by
  unfold postFromStack
  split
  · exact h
  · simp only
    omega

theorem postBlind_chips (amount : Int) (label : String) (hkeys : state.HasSeatKeys)
    (hseat : seat ∈ state.seats) :
    (state.updateSeat seat.seatIndex (postBlind amount label)).chips = state.chips := by
  have hpost := postFromStack_chips amount seat
  rw [chips, stackTotal_updateSeat hkeys hseat, committedTotal_updateSeat hkeys hseat]
  simp only [postBlind, chips]
  omega

theorem postBlind_funded (amount : Int) (label : String) (hkeys : state.HasSeatKeys)
    (hseat : seat ∈ state.seats) (hfunded : state.Funded) :
    (state.updateSeat seat.seatIndex (postBlind amount label)).Funded :=
  forall_updateSeat hkeys hseat (postFromStack_nonneg amount (hfunded seat hseat)) fun row hrow _ =>
    hfunded row hrow

theorem InPlay.postBlinds {total : Int} (h : InPlay total state) (hbetting : Betting 0 state)
    (hbet : state.currentBet = 0) (hready : state.BlindsReady) : InPlay total state.postBlinds := by
  refine ⟨⟨0, hbetting.postBlinds hbet hready⟩, ?_, ?_⟩
  all_goals
    rcases hready with hnone | ⟨small, hsmall, big, hbig, -, -, hne, hsmallIndex, hbigIndex⟩
  · have hsame : state.postBlinds = state := by simp [Table.postBlinds, hnone]
    rw [hsame]
    exact h.funded
  · rw [postBlinds_eq hbetting.keys hsmall hbig hne hsmallIndex hbigIndex]
    exact postBlind_funded _ _ (hbetting.keys.updateSeat fun _ => postBlind_seatIndex _ _ _)
      ((mem_updateSeat hbetting.keys hsmall).mpr (.inr ⟨hbig, hne.symm⟩))
      (postBlind_funded _ _ hbetting.keys hsmall h.funded)
  · have hsame : state.postBlinds = state := by simp [Table.postBlinds, hnone]
    rw [hsame]
    exact h.total
  · rw [postBlinds_eq hbetting.keys hsmall hbig hne hsmallIndex hbigIndex]
    change (state.withBlinds small big).chips = total
    unfold withBlinds
    rw [postBlind_chips _ _ (hbetting.keys.updateSeat fun _ => postBlind_seatIndex _ _ _)
        ((mem_updateSeat hbetting.keys hsmall).mpr (.inr ⟨hbig, hne.symm⟩)),
      postBlind_chips _ _ hbetting.keys hsmall, h.total]

theorem dealHand_inPlay {fairnessSeed : FairnessSeedInput} (hkeys : state.HasSeatKeys)
    (hbigBlind : 0 ≤ state.bigBlind) (hfunded : state.Funded)
    (h : state.dealHand sha256 fairnessSeed = .ok next) : InPlay state.stackTotal next := by
  obtain ⟨dealer, smallBlind, bigBlind, shuffled, withCards, hopens, rfl⟩ := dealHand_eq_ok.mp h
  obtain ⟨hbetting, hbet, hready⟩ := hopens.betting hkeys hbigBlind
  have hcards : InPlay state.stackTotal withCards := by
    obtain ⟨cards, n, hwith⟩ := hopens.seats
    refine ⟨⟨0, hbetting⟩, ?_, ?_⟩
    · rw [hwith]
      intro row hrow
      obtain ⟨old, hold, rfl⟩ := List.mem_map.mp hrow
      exact hfunded old hold
    · rw [hwith]
      simp [chips, stackTotal, committedTotal, List.map_map, Function.comp_def, clearSeat]
  have hposted := hcards.postBlinds hbetting hbet hready
  obtain ⟨prior, hprior⟩ := hposted.betting
  exact ⟨⟨prior, hprior.keys, hprior.level, hprior.leader, hprior.bigBlind_nonneg,
    hprior.raiseSize_ge⟩, hposted.funded, hposted.total⟩

/-! ## Runs of a hand -/

structure SeatAction where
  seatIndex : Nat
  action : Action
  amount : AmountInput
  now : Int

def act (state : Table) (a : SeatAction) : Except ApiError Table :=
  state.actOnHoldemSeat a.now a.seatIndex a.action a.amount

/-- A table between hands. -/
structure AtRest (state : Table) : Prop where
  keys : state.HasSeatKeys
  funded : state.Funded
  smallBlind_nonneg : 0 ≤ state.smallBlind
  bigBlind_nonneg : 0 ≤ state.bigBlind

/-- A hand is in play or paid out. -/
def HandChips (total : Int) (state : Table) : Prop :=
  (state.status = .active ∧ InPlay total state) ∨ (state.status = .waiting ∧ PaidOut total state)

theorem AtRest.start_handChips {fairnessSeed : FairnessSeedInput} (h : AtRest state)
    (hstart : state.startHoldemHand sha256 now fairnessSeed = .ok next) :
    HandChips state.stackTotal next := by
  obtain ⟨dealt, hdealt, hprogress⟩ := startHoldemHand_eq_ok.mp hstart
  exact (dealHand_inPlay h.keys h.bigBlind_nonneg h.funded hdealt).progression
    (dealHand_status hdealt) hprogress

theorem HandChips.act {total : Int} {a : SeatAction} (h : HandChips total state)
    (hact : state.act a = .ok next) : HandChips total next := by
  obtain ⟨seat, stage, acted, haccepted, hacted, hprogress⟩ := actOnHoldemSeat_eq_ok.mp hact
  rcases h with ⟨-, hplay⟩ | ⟨hwaiting, -⟩
  · obtain ⟨prior, hbetting⟩ := hplay.betting
    have hseat := mem_seats_of_find haccepted.find
    have hmove := applySeatAction_move (hbetting.facing hseat haccepted.active)
      haccepted.available hacted
    exact (hplay.move hseat haccepted.active hmove).progression
      (hmove.status.trans haccepted.status) hprogress
  · rw [haccepted.status] at hwaiting
    cases hwaiting

/-- The hand is settled after `actions`. -/
def settledAfter (actions : List SeatAction) (state : Table) : Bool :=
  match trace act state actions with
  | .ok (_, last) => last.status = .waiting
  | .error _ => false

theorem exists_settled {actions : List SeatAction} (h : settledAfter actions state = true) :
    ∃ events last, Run (Accepts act) state events last ∧ last.status = .waiting := by
  unfold settledAfter at h
  cases htrace : trace act state actions with
  | error e => simp [htrace] at h
  | ok result => exact ⟨result.1, result.2, .of_trace htrace, by simpa [htrace] using h⟩

/-- **Chips are conserved.** Whatever is done in a hand, no amount becomes negative; during the hand
stacks and contributions add up to the stacks before it, and once it is settled the stacks do. -/
theorem chips_conserved {rest started : Table} {fairnessSeed : FairnessSeedInput}
    {events : List (Event Table SeatAction)} (hrest : AtRest rest)
    (hstart : rest.startHoldemHand sha256 now fairnessSeed = .ok started)
    (hrun : Run (Accepts act) started events state) :
    (∀ seat ∈ state.seats, 0 ≤ seat.stackAmount ∧ 0 ≤ seat.committedAmount ∧
      0 ≤ seat.totalCommittedAmount) ∧
    (state.status = .active → state.stackTotal + state.committedTotal = rest.stackTotal) ∧
    (state.status = .waiting → state.stackTotal = rest.stackTotal) := by
  have hchips : HandChips rest.stackTotal state :=
    hrun.invariant (fun s a t hs ht => hs.act ht) (hrest.start_handChips hstart)
  rcases hchips with ⟨hactive, hplay⟩ | ⟨hwaiting, hpaid⟩
  · obtain ⟨prior, hbetting⟩ := hplay.betting
    refine ⟨fun seat hseat => ⟨hplay.funded seat hseat, (hbetting.level seat hseat).committed_nonneg,
      hbetting.totals_nonneg seat hseat⟩, fun _ => hplay.total, fun hwaiting => ?_⟩
    rw [hactive] at hwaiting
    cases hwaiting
  · refine ⟨fun seat hseat => ?_, fun hactive => ?_, fun _ => hpaid.total⟩
    · have hidle := hpaid.idle seat hseat
      exact ⟨hpaid.funded seat hseat, hidle.committed.ge, hidle.total.ge⟩
    · rw [hwaiting] at hactive
      cases hactive

/-- Three players, one of them all-in for less than the big blind, down to the showdown. -/
theorem chips_conserved_showdown :
    ∃ rest started events state, AtRest rest ∧
      rest.startHoldemHand zeroHash 0 sampleSeed = .ok started ∧
      Run (Accepts act) started events state ∧ state.status = .waiting ∧
      state.stackTotal = rest.stackTotal := by
  let rest := createdTable .cash [samplePlayer 7 5000, samplePlayer 8 5000, samplePlayer 9 150]
  have hrest : AtRest rest :=
    ⟨(createdTable_fresh .cash (by decide) (by decide)).keys, by unfold Funded; decide, by decide,
      by decide⟩
  let actions : List SeatAction := [⟨0, .allIn, .missing, 0⟩, ⟨1, .call, .missing, 0⟩]
  have hplayed : ∃ started, rest.startHoldemHand zeroHash 0 sampleSeed = .ok started ∧
      settledAfter actions started = true :=
    @exists_ok_of_check _ _ (settledAfter actions) (by decide +kernel)
  obtain ⟨started, hstart, hsettled⟩ := hplayed
  obtain ⟨events, state, hrun, hstatus⟩ := exists_settled hsettled
  exact ⟨rest, started, events, state, hrest, hstart, hrun, hstatus,
    (chips_conserved hrest hstart hrun).2.2 hstatus⟩

end Table

end RewardSystem.Holdem
