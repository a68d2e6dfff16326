import RewardSystem.Holdem.HandOrder
import RewardSystem.Holdem.PotLaw

/-!
# Odd chips

The cents that do not divide evenly should go to the winners in clockwise order, beginning to the
left of the button. The settlement orders the winners by their distance from the button, and the
button itself is at distance zero: it comes first instead of last.
-/

namespace RewardSystem.Holdem

open ApiError

namespace Table

variable {state paid : Table} {bestHands : BestHands} {pot resolved : Pot} {winners : List Nat}

def button (state : Table) : Nat :=
  state.dealerSeatIndex.getD 0

/-- Every winner gets its even share, and one cent more if fewer winners than there are odd cents
have their turn before it in the round that begins behind the button. -/
def OddChipsClockwise (amount : Int) (winners : List Nat) (state paid : Table) : Prop :=
  ∀ i ∈ winners, paid.stackOf i = (state.stackOf i).map (· + (amount / winners.length +
    if ((winners.countP fun other => Rotation.Visits state.button other i : Nat) : Int) <
        amount % winners.length then 1 else 0))

instance (amount : Int) (winners : List Nat) (state paid : Table) :
    Decidable (OddChipsClockwise amount winners state paid) :=
  inferInstanceAs (Decidable (∀ _ ∈ _, _))

theorem distanceFromDealer_eq (hbutton : state.button < state.maxSeats) {i : Nat}
    (hi : i < state.maxSeats) :
    state.distanceFromDealer i =
      if state.button ≤ i then (i : Int) - state.button else i - state.button + state.maxSeats := by
  unfold distanceFromDealer
  change ((i : Int) - state.button + state.maxSeats).tmod state.maxSeats = _
  rw [Int.tmod_eq_emod_of_nonneg (by omega)]
  split
  · rw [Int.add_emod_right]
    exact Int.emod_eq_of_lt (by omega) (by omega)
  · exact Int.emod_eq_of_lt (by omega) (by omega)

theorem distance_lt_iff (hbutton : state.button < state.maxSeats) {i j : Nat}
    (hi : i < state.maxSeats) (hj : j < state.maxSeats) :
    state.distanceFromDealer i < state.distanceFromDealer j ↔
      if i = state.button then j ≠ state.button
      else j ≠ state.button ∧ Rotation.Visits state.button i j := by
  rw [distanceFromDealer_eq hbutton hi, distanceFromDealer_eq hbutton hj]
  unfold Rotation.Visits
  split <;> split <;> split <;> omega

theorem countP_visits_button (hnodup : winners.Nodup) (hbutton : state.button ∈ winners) :
    winners.countP (fun other => Rotation.Visits state.button other state.button) + 1 =
      winners.length := by
  have hothers : winners.countP (fun other => Rotation.Visits state.button other state.button) =
      winners.countP fun other => ¬other == state.button := by
    refine List.countP_congr fun other _ => ?_
    simp only [decide_eq_true_eq, beq_iff_eq, Rotation.Visits, le_refl, true_or, and_true,
      true_and]
    omega
  have hself : winners.countP (· == state.button) = 1 := List.count_eq_one_of_mem hnodup hbutton
  rw [hothers, List.length_eq_countP_add_countP (· == state.button), hself, add_comm]

theorem ResolvedAs.idxOf_winner (hresolved : ResolvedAs bestHands state pot resolved)
    (hnodup : resolved.winnerSeatIndexes.Nodup) (hbutton : state.button < state.maxSeats)
    (hroom : ∀ i ∈ resolved.winnerSeatIndexes, i < state.maxSeats) {i : Nat}
    (hi : i ∈ resolved.winnerSeatIndexes) :
    resolved.winnerSeatIndexes.idxOf i = resolved.winnerSeatIndexes.countP fun other =>
      state.distanceFromDealer other < state.distanceFromDealer i := by
  refine Sorting.idxOf_eq_countP ?_ hi
  refine (hresolved.leftOfDealer.and hnodup).imp_of_mem fun {a b} ha hb h => ?_
  refine lt_of_le_of_ne h.1 fun heq => h.2 ?_
  have haroom := hroom a ha
  have hbroom := hroom b hb
  rw [distanceFromDealer_eq hbutton haroom, distanceFromDealer_eq hbutton hbroom] at heq
  split at heq <;> split at heq <;> omega

theorem stackOf_winner (hkeys : state.HasSeatKeys) (hroom : ∀ seat ∈ state.seats,
      seat.seatIndex < state.maxSeats) (hbutton : state.button < state.maxSeats)
    (hpot : pot ∈ state.buildPendingPotViews)
    (hresolve : state.resolvePot bestHands pot = .ok (paid, resolved)) (hnodup : winners.Nodup)
    (hwinners : ∀ i, i ∈ winners ↔ Tops bestHands (state.contenders pot) i) {i : Nat}
    (hi : i ∈ winners) :
    ∃ seat ∈ state.seats, seat.seatIndex = i ∧
      paid.stackOf i = some (seat.stackAmount + (pot.amount / winners.length +
        if ((winners.countP fun other =>
          state.distanceFromDealer other < state.distanceFromDealer i : Nat) : Int) <
            pot.amount % winners.length then 1 else 0)) := by
  obtain ⟨hpaid, hresolved⟩ := resolvePot_spec (pending_of_mem_potViews hpot) hresolve
  have hcontenders := contenders_pending hkeys hpot
  have horder : ∀ j, j ∈ resolved.winnerSeatIndexes ↔ j ∈ winners := fun j =>
    (hresolved.mem_winners j).trans (hwinners j).symm
  have horderNodup := hresolved.nodup (hcontenders ▸ eligible_nodup hkeys hpot)
  have hperm : resolved.winnerSeatIndexes.Perm winners :=
    (List.perm_ext_iff_of_nodup horderNodup hnodup).mpr horder
  have hseated : ∀ j ∈ winners, ∃ seat ∈ state.seats, seat.seatIndex = j := fun j hj => by
    obtain ⟨seat, hseat, hindex, -⟩ := mem_eligible hpot (hcontenders ▸ ((hwinners j).mp hj).1)
    exact ⟨seat, hseat, hindex⟩
  obtain ⟨seat, hseat, hindex⟩ := hseated i hi
  have hmem := (horder i).mpr hi
  have hplace := hresolved.idxOf_winner horderNodup hbutton (fun j hj => by
    obtain ⟨row, hrow, rfl⟩ := hseated j ((horder j).mp hj)
    exact hroom row hrow) hmem
  have hstack : state.stackOf i = some seat.stackAmount := by
    rw [stackOf, ← hindex, find_of_mem hkeys hseat]
    rfl
  refine ⟨seat, hseat, hindex, ?_⟩
  rw [hpaid, (payWinners_pays _ state).stackOf_eq, hstack, hresolved.amount,
    Shares.amountOf_split _ horderNodup hmem, hplace, hperm.countP_eq, hperm.length_eq]
  rfl

/-- The odd cents go clockwise exactly if there are none or the button is not among the winners. -/
theorem oddChips_clockwise_iff (hkeys : state.HasSeatKeys) (hroom : ∀ seat ∈ state.seats,
      seat.seatIndex < state.maxSeats) (hbutton : state.button < state.maxSeats)
    (hpot : pot ∈ state.buildPendingPotViews)
    (hresolve : state.resolvePot bestHands pot = .ok (paid, resolved)) (hnodup : winners.Nodup)
    (hwinners : ∀ i, i ∈ winners ↔ Tops bestHands (state.contenders pot) i) :
    OddChipsClockwise pot.amount winners state paid ↔
      state.button ∉ winners ∨ pot.amount % winners.length = 0 := by
  have hseated : ∀ i ∈ winners, i < state.maxSeats := fun i hi => by
    obtain ⟨seat, hseat, rfl, -⟩ := stackOf_winner hkeys hroom hbutton hpot hresolve hnodup hwinners hi
    exact hroom seat hseat
  have hrule : OddChipsClockwise pot.amount winners state paid ↔ ∀ i ∈ winners,
      (((winners.countP fun other =>
          state.distanceFromDealer other < state.distanceFromDealer i : Nat) : Int) <
            pot.amount % winners.length ↔
        ((winners.countP fun other => Rotation.Visits state.button other i : Nat) : Int) <
          pot.amount % winners.length) := by
    refine forall₂_congr fun i hi => ?_
    obtain ⟨seat, hseat, rfl, hpaid⟩ :=
      stackOf_winner hkeys hroom hbutton hpot hresolve hnodup hwinners hi
    rw [hpaid, stackOf, find_of_mem hkeys hseat]
    simp only [Option.map_some, Option.some.injEq]
    split <;> split <;> simp [*]
  rw [hrule]
  constructor
  · intro h
    by_cases hmem : state.button ∈ winners
    · right
      have hfirst : winners.countP (fun other =>
          state.distanceFromDealer other < state.distanceFromDealer state.button) = 0 := by
        refine List.countP_eq_zero.mpr fun other hother => ?_
        rw [decide_eq_true_eq, distance_lt_iff hbutton (hseated other hother) hbutton]
        split <;> simp
      have hlast := countP_visits_button hnodup hmem
      have hlength : (0 : Int) < winners.length := by omega
      have hnonneg := Int.emod_nonneg pot.amount hlength.ne'
      have hless := Int.emod_lt_of_pos pot.amount hlength
      have hbuttonRule := h _ hmem
      rw [hfirst] at hbuttonRule
      omega
    · exact .inl hmem
  · rintro (hnot | hzero) i hi
    · have hcount : winners.countP (fun other =>
          state.distanceFromDealer other < state.distanceFromDealer i) =
          winners.countP fun other => Rotation.Visits state.button other i := by
        refine List.countP_congr fun other hother => ?_
        have hotherNe : other ≠ state.button := fun h => hnot (h ▸ hother)
        have hne : i ≠ state.button := fun h => hnot (h ▸ hi)
        rw [decide_eq_true_eq, decide_eq_true_eq,
          distance_lt_iff hbutton (hseated other hother) (hseated i hi), if_neg hotherNe]
        exact and_iff_right hne
      rw [hcount]
    · rw [hzero]
      omega

/-- Two of three seats tie for a pot of 303 cents. -/
def sampleSplit (button : Nat) : Table :=
  let table := createdTable .cash
    [samplePlayer 7 5000, samplePlayer 8 5000, samplePlayer 9 5000]
  { table with
    dealerSeatIndex := some button
    seats := table.seats.map fun seat =>
      { seat with
        totalCommittedAmount := 101
        status := if seat.seatIndex = 2 then .folded else .active } }

def splitPot : Pot :=
  { potIndex := 0
    kind := .main
    amount := 303
    rakeAmount := 0
    eligibleSeatIndexes := [0, 1]
    winnerSeatIndexes := [] }

def tiedHands : BestHands :=
  [(0, evaluateFiveCardHand sampleFlush), (1, evaluateFiveCardHand sampleFlush)]

theorem tops_tiedHands {contenders : List Nat} (hcontenders : contenders = [0, 1]) (i : Nat) :
    i ∈ [0, 1] ↔ Tops tiedHands contenders i := by
  subst hcontenders
  have hhand : ∀ j ∈ [0, 1], bestHandOf tiedHands j = some (evaluateFiveCardHand sampleFlush) := by
    decide +kernel
  refine ⟨fun hi => ⟨hi, _, hhand i hi, fun other hother rival hrival => ?_⟩, fun h => h.1⟩
  rw [hhand other hother] at hrival
  rw [← Option.some.inj hrival]
  exact compareStrength_ne_gt.mpr le_rfl

theorem oddChips_clockwise_sample :
    ∃ paid resolved, (sampleSplit 2).resolvePot tiedHands splitPot = .ok (paid, resolved) ∧
      OddChipsClockwise splitPot.amount [0, 1] (sampleSplit 2) paid := by
  obtain ⟨⟨paid, resolved⟩, hresolve, -⟩ := @exists_ok_of_check _
    ((sampleSplit 2).resolvePot tiedHands splitPot) (fun _ => true) (by decide +kernel)
  exact ⟨paid, resolved, hresolve, (oddChips_clockwise_iff (by unfold HasSeatKeys Keyed.HasKeys; decide)
    (by decide) (by decide) (by decide +kernel) hresolve (by decide)
    (tops_tiedHands (by decide +kernel))).mpr (.inl (by decide))⟩

/-- The button shares in the pot and gets the odd cent. -/
theorem odd_chip_to_button :
    ∃ paid resolved, splitPot ∈ (sampleSplit 0).buildPendingPotViews ∧
      (sampleSplit 0).resolvePot tiedHands splitPot = .ok (paid, resolved) ∧
      (∀ i, i ∈ [0, 1] ↔ Tops tiedHands ((sampleSplit 0).contenders splitPot) i) ∧
      ¬OddChipsClockwise splitPot.amount [0, 1] (sampleSplit 0) paid := by
  obtain ⟨⟨paid, resolved⟩, hresolve, hbreaks⟩ := @exists_ok_of_check _
    ((sampleSplit 0).resolvePot tiedHands splitPot)
    (fun result => ¬OddChipsClockwise splitPot.amount [0, 1] (sampleSplit 0) result.1)
    (by decide +kernel)
  exact ⟨paid, resolved, by decide +kernel, hresolve, tops_tiedHands (by decide +kernel),
    of_decide_eq_true hbreaks⟩

end Table

end RewardSystem.Holdem
