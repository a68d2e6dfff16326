import RewardSystem.Holdem.Chips
import RewardSystem.Holdem.Invariants

/-!
# The last seat in the hand

When the others have folded, the hand is settled at once in favour of the seat that is left. The
winner is shown. A casual table with one eligible seat counts as played alone, even when somebody else
is all-in, and then the hand goes on to the showdown.
-/

namespace RewardSystem.Holdem

open ApiError Loop

namespace Table

variable {sha256 : HashFunction} {now : Int} {state next acted : Table} {seat winner : Seat}
  {prior : Int} {seatIndex : Nat} {action : Action} {amount : AmountInput}

theorem length_filter_sortSeatsByIndex (seats : List Seat) (keep : Seat → Bool) :
    ((sortSeatsByIndex seats).filter keep).length = seats.countP keep := by
  rw [← List.countP_eq_length_filter]
  exact (sortSeatsByIndex_perm seats).countP_eq keep

theorem isSolo_updateSeat {f : Seat → Seat}
    (hf : ∀ row : Seat, isSeatEligibleForHand (f row) ↔ isSeatEligibleForHand row) :
    (state.updateSeat seatIndex f).isSoloHoldemState ↔ state.isSoloHoldemState := by
  unfold isSoloHoldemState listEligibleSeats Table.updateSeat Keyed.modify
  simp only [length_filter_sortSeatsByIndex, List.countP_map]
  have hsame : (fun seat : Seat => decide (isSeatEligibleForHand seat)) ∘
      (fun row : Seat => if row.seatIndex = seatIndex then f row else row) =
      fun seat => decide (isSeatEligibleForHand seat) := by
    funext row
    by_cases hindex : row.seatIndex = seatIndex
    · simp only [Function.comp_apply, if_pos hindex, hf]
    · simp only [Function.comp_apply, if_neg hindex]
  rw [hsame]

theorem Move.folds (hturn : Turn prior state seat) (hmove : Move state seat acted)
    (htwo : 2 ≤ state.listNonFoldedSeats.length) (hone : acted.listNonFoldedSeats = [winner]) :
    acted = state.applyFold seat := by
  have hkeys := hturn.betting.keys
  have hcontests : isSeatNonFolded seat := (isSeatNonFolded_iff seat).mpr (.inl hturn.active)
  -- who stays in the hand stays on the list
  have hstays : ∀ f : Seat → Seat, acted.seats = (state.updateSeat seat.seatIndex f).seats →
      isSeatNonFolded (f seat) → (f seat).seatIndex = seat.seatIndex → False := by
    intro f hseats hf hindex
    obtain ⟨other, hother, hne⟩ : ∃ other ∈ state.listNonFoldedSeats, other ≠ seat := by
      by_contra hall
      push Not at hall
      have hnodup : state.listNonFoldedSeats.Nodup :=
        ((sortSeatsByIndex_pairwise state.seats hkeys).imp fun h heq => by
          rw [heq] at h
          exact lt_irrefl _ h).filter _
      rw [List.eq_replicate_of_mem hall] at hnodup
      have := List.nodup_replicate.mp hnodup
      omega
    rw [mem_listNonFoldedSeats] at hother
    have hotherIndex : other.seatIndex ≠ seat.seatIndex := fun h =>
      hne (eq_of_seatIndex_eq hkeys hturn.mem hother.1 h)
    have hother' : other ∈ acted.listNonFoldedSeats := by
      rw [mem_listNonFoldedSeats, hseats, mem_updateSeat hkeys hturn.mem]
      exact ⟨.inr ⟨hother.1, hotherIndex⟩, hother.2⟩
    have hseat' : f seat ∈ acted.listNonFoldedSeats := by
      rw [mem_listNonFoldedSeats, hseats, mem_updateSeat hkeys hturn.mem]
      exact ⟨.inl rfl, hf⟩
    rw [hone, List.mem_singleton] at hother' hseat'
    exact hotherIndex (by rw [hother', ← hseat', hindex])
  cases hmove with
  | fold _ => rfl
  | check _ hcheck =>
      obtain ⟨-, rfl⟩ := applyCheck_eq_ok.mp hcheck
      exact (hstays (fun row => { row with lastAction := some "Check" }) rfl hcontests rfl).elim
  | post posting hlegal =>
      refine (hstays (postSeat posting) rfl ?_ (by simp [postSeat])).elim
      have hposted := postFromStack_of_pos hlegal.transfer_pos hlegal.transfer_le
      rw [isSeatNonFolded_iff]
      unfold postSeat
      rw [hposted]
      simp only [hturn.active]
      split <;> simp

theorem progression_byFold {stage : Street} (hactive : acted.status = .active)
    (hsolo : ¬acted.isSoloHoldemState) (hone : acted.listNonFoldedSeats = [winner])
    (hnext : acted.resolveTerminalAndStreetProgression now stage = .ok next) :
    acted.settleByFold now stage = .ok next := by
  have hdone : progressionTurn now (acted, stage) = .done (acted.settleByFold now stage) := by
    unfold progressionTurn
    simp [hactive, hsolo, hone]
  unfold resolveTerminalAndStreetProgression at hnext
  simpa only [run_succ_of_done hdone, Option.get_some] using hnext

/-- The hand is over: `winner` has the pots, and nobody else's stack has changed. -/
structure WonByFold (winner : Seat) (acted next : Table) : Prop where
  settled : next.status = .waiting ∧ next.stage = some .showdown
  winners : next.winnerSeatIndexes = [winner.seatIndex]
  pots : ∀ pot ∈ next.resolvedPots, pot.winnerSeatIndexes = [winner.seatIndex]
  paid : ∃ row ∈ next.seats, row.seatIndex = winner.seatIndex ∧
    row.stackAmount = winner.stackAmount + acted.committedTotal
  others : ∀ row ∈ next.seats, row.seatIndex ≠ winner.seatIndex →
    ∃ old ∈ acted.seats, row.seatIndex = old.seatIndex ∧ row.stackAmount = old.stackAmount

theorem settleByFold_won {stage : Street} (hbetting : Betting prior acted)
    (hone : acted.listNonFoldedSeats = [winner])
    (h : acted.settleByFold now stage = .ok next) : WonByFold winner acted next ∧
      next.communityCards = acted.communityCards ∧
      next.revealedSeatIndexes = [winner.seatIndex] := by
  have hkeys := hbetting.keys
  have hmem : winner ∈ acted.seats :=
    (mem_listNonFoldedSeats.mp (hone ▸ List.mem_cons_self)).1
  have hpots : potTotal (acted.buildPendingPotViews.map fun pot =>
      { pot with rakeAmount := 0, winnerSeatIndexes := [winner.seatIndex] }) =
      acted.committedTotal := by
    rw [← potTotal_buildPendingPotViews hbetting.totals_nonneg]
    simp only [potTotal, List.map_map]
    rfl
  unfold settleByFold at h
  rw [hone] at h
  injection h with h
  rw [← h]
  refine ⟨⟨⟨rfl, rfl⟩, rfl, fun pot hpot => ?_, ?_, fun row hrow hne => ?_⟩, rfl, rfl⟩
  · obtain ⟨_, -, rfl⟩ := List.mem_map.mp hpot
    rfl
  · refine ⟨_, List.mem_map_of_mem ((mem_updateSeat hkeys hmem).mpr (.inl rfl)), rfl, ?_⟩
    simp only [awardToSeatStack, hpots]
  · obtain ⟨old, hold, rfl⟩ := List.mem_map.mp hrow
    rcases (mem_updateSeat hkeys hmem).mp hold with rfl | ⟨hold, -⟩
    · exact absurd rfl hne
    · exact ⟨old, hold, rfl, rfl⟩

/-- **The last seat wins at once.** When an action leaves one seat in a hand that is not played
alone, the hand is settled in its favour in that action, no card is dealt any more, and only the
winner is shown. -/
theorem fold_settles_at_once (h : Reachable sha256 state)
    (hseat : state.findSeatByIndex seatIndex = some seat)
    (hacted : state.applySeatAction seat action amount = .ok acted)
    (hnext : state.actOnHoldemSeat now seatIndex action amount = .ok next)
    (hsolo : ¬state.isSoloHoldemState) (htwo : 2 ≤ state.listNonFoldedSeats.length)
    (hone : acted.listNonFoldedSeats = [winner]) :
    WonByFold winner acted next ∧ next.communityCards = state.communityCards ∧
      next.revealedSeatIndexes = [winner.seatIndex] := by
  obtain ⟨seat', stage, acted', haccepted, hacted', hprogress⟩ := actOnHoldemSeat_eq_ok.mp hnext
  obtain rfl : seat' = seat := Option.some.inj (haccepted.find.symm.trans hseat)
  obtain rfl : acted' = acted := Except.ok.inj (hacted'.symm.trans hacted)
  obtain ⟨prior, hbetting⟩ := h.sound.hand haccepted.status
  have hmem := mem_seats_of_find haccepted.find
  have hturn : Turn prior state seat' := ⟨hbetting, haccepted.status,
    seatIndex_of_find haccepted.find ▸ haccepted.pending, hmem, haccepted.active⟩
  have hmove := applySeatAction_move (hbetting.facing hmem haccepted.active) haccepted.available
    hacted
  have hfolds := hmove.folds hturn htwo hone
  have hactive : acted'.status = .active := hmove.status.trans haccepted.status
  have hsolo' : ¬acted'.isSoloHoldemState := by
    rw [hfolds]
    refine fun hstill => hsolo ((isSolo_updateSeat (f := fun row =>
      { row with status := .folded, lastAction := some "Fold" }) fun _ => Iff.rfl).mp hstill)
  have hbyFold := progression_byFold hactive hsolo' hone hprogress
  obtain ⟨hwon, hboard, hrevealed⟩ :=
    settleByFold_won (hbetting.move hmem haccepted.active hmove) hone hbyFold
  refine ⟨hwon, ?_, hrevealed⟩
  rw [hboard, hfolds]
  rfl

/-! ## Runs on fixed inputs -/

/-- The fold of `seat` is accepted, leads to `next` and leaves `winner` alone in the hand. -/
structure LastFold (state : Table) (seat : Seat) (next : Table) (winner : Seat) : Prop where
  find : state.findSeatByIndex seat.seatIndex = some seat
  act : state.actOnHoldemSeat 0 seat.seatIndex .fold .missing = .ok next
  two : 2 ≤ state.listNonFoldedSeats.length
  one : (state.applyFold seat).listNonFoldedSeats = [winner]

def lastFold (state : Table) (seatIndex : Nat) : Option (Seat × Table × Seat) :=
  match state.findSeatByIndex seatIndex with
  | none => none
  | some seat =>
      match state.actOnHoldemSeat 0 seatIndex .fold .missing,
        (state.applyFold seat).listNonFoldedSeats with
      | .ok next, [winner] =>
          if 2 ≤ state.listNonFoldedSeats.length then some (seat, next, winner) else none
      | _, _ => none

theorem lastFold_of_eq_some (h : state.lastFold seatIndex = some (seat, next, winner)) :
    LastFold state seat next winner := by
  unfold lastFold at h
  cases hfind : state.findSeatByIndex seatIndex with
  | none => simp [hfind] at h
  | some row =>
      simp only [hfind] at h
      split at h
      case h_1 settled last hact hone =>
        obtain ⟨htwo, h⟩ := Option.ite_none_right_eq_some.mp h
        obtain ⟨rfl, rfl, rfl⟩ : row = seat ∧ settled = next ∧ last = winner := by simpa using h
        have hindex := seatIndex_of_find hfind
        exact ⟨hindex ▸ hfind, hindex ▸ hact, htwo, hone⟩
      case h_2 => cases h

theorem exists_lastFold (tableType : TableType) (operations : List Operation) (seatIndex : Nat)
    (p : Table → Table → Bool)
    (h : (match Transition.trace (step zeroHash)
        (createdTable tableType [samplePlayer 7 5000, samplePlayer 8 5000]) operations with
      | .ok (_, state) => ((state.lastFold seatIndex).map fun result => p state result.2.1).getD false
      | .error _ => false) = true) :
    ∃ state seat next winner, Reachable zeroHash state ∧ LastFold state seat next winner ∧
      p state next = true := by
  have hfresh : Fresh (createdTable tableType [samplePlayer 7 5000, samplePlayer 8 5000]) :=
    createdTable_fresh tableType (by decide) (by decide)
  cases htrace : Transition.trace (step zeroHash)
    (createdTable tableType [samplePlayer 7 5000, samplePlayer 8 5000]) operations with
  | error e => simp [htrace] at h
  | ok result =>
      obtain ⟨events, state⟩ := result
      rw [htrace] at h
      cases hfold : state.lastFold seatIndex with
      | none => simp [hfold] at h
      | some found =>
          obtain ⟨seat, next, winner⟩ := found
          exact ⟨state, seat, next, winner, ⟨_, events, hfresh, .of_trace htrace⟩,
            lastFold_of_eq_some hfold, by simpa [hfold] using h⟩

/-- The player on the button folds. -/
theorem fold_settles_at_once_headsUp :
    ∃ state seat next winner, Reachable zeroHash state ∧ LastFold state seat next winner ∧
      WonByFold winner (state.applyFold seat) next ∧
      next.communityCards = state.communityCards := by
  obtain ⟨state, seat, next, winner, hreach, hfold, hsolo⟩ :=
    exists_lastFold .cash [.start sampleSeed 0] 0 (fun state _ => ¬state.isSoloHoldemState)
      (by decide +kernel)
  have hacted : state.applySeatAction seat .fold .missing = .ok (state.applyFold seat) := rfl
  have hwon := fold_settles_at_once hreach hfold.find hacted hfold.act (by simpa using hsolo)
    hfold.two hfold.one
  exact ⟨state, seat, next, winner, hreach, hfold, hwon.1, hwon.2.1⟩

/-- The winner of a fold is shown. And against a player who is all-in on a casual table, the fold does
not settle the hand: the board is dealt. -/
theorem not_fold_settles_unseen :
    (∃ state seat next winner, Reachable zeroHash state ∧ LastFold state seat next winner ∧
      next.revealedSeatIndexes ≠ []) ∧
    ∃ state seat next winner, Reachable zeroHash state ∧ LastFold state seat next winner ∧
      state.communityCards = [] ∧ next.communityCards.length = 5 := by
  constructor
  · obtain ⟨state, seat, next, winner, hreach, hfold, hshown⟩ :=
      exists_lastFold .cash [.start sampleSeed 0] 0 (fun _ next => next.revealedSeatIndexes ≠ [])
        (by decide +kernel)
    exact ⟨state, seat, next, winner, hreach, hfold, by simpa using hshown⟩
  · obtain ⟨state, seat, next, winner, hreach, hfold, hboard⟩ :=
      exists_lastFold .casual [.start sampleSeed 0, .act 0 .allIn .missing sampleRake 0] 1
        (fun state next => state.communityCards = [] ∧ next.communityCards.length = 5)
        (by decide +kernel)
    exact ⟨state, seat, next, winner, hreach, hfold, by simpa using hboard⟩

end Table

end RewardSystem.Holdem
