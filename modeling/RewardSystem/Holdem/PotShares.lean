import RewardSystem.Holdem.Winners

/-!
# A settlement pays the shares of the pots

Whether a hand ends by a fold or in a showdown, every stack gains the shares of its seat in the pots
and nothing else.
-/

namespace RewardSystem.Holdem

open ApiError

namespace Table

variable {now : Int} {state settled next : Table} {pot : Pot} {pots : List Pot}

/-! ## Steps that leave the stacks alone -/

theorem marked_pays (h : Reseated Marked state next) : Pays (fun _ => 0) state next :=
  .of_reseated h fun a b hmarked => by
    obtain ⟨_, _, rfl⟩ := hmarked
    exact ⟨rfl, (add_zero _).symm⟩

theorem closeHand_pays (stage : Street) (potAmount : Int) (revealed winners : List Nat)
    (pots : List Pot) (state : Table) :
    Pays (fun _ => 0) state (closeHand now stage potAmount revealed winners pots state) :=
  ⟨fun seat => { seat with committedAmount := 0, totalCommittedAmount := 0, status := .waiting },
    fun _ => ⟨rfl, (add_zero _).symm⟩, rfl⟩

theorem Pays.zero_trans {due : Nat → Int} {last : Table} (h : Pays (fun _ => 0) state next)
    (h' : Pays due next last) : Pays due state last :=
  (h.trans h').congr fun i => zero_add (due i)

theorem Pays.trans_zero {due : Nat → Int} {last : Table} (h : Pays due state next)
    (h' : Pays (fun _ => 0) next last) : Pays due state last :=
  (h.trans h').congr fun i => add_zero (due i)

/-! ## The pots that are settled -/

theorem pending_of_mem_potViews {seats : List Seat} {levels : List Int} {low : Int} {index : Nat}
    (h : pot ∈ potViews seats low index levels) : Pending pot := by
  induction levels generalizing low index with
  | nil => cases h
  | cons level levels ih =>
      simp only [potViews] at h
      split at h
      · rcases List.mem_cons.mp h with rfl | h
        · exact ⟨rfl, rfl⟩
        · exact ih h
      · exact ih h

/-- What a seat gets of the pots. -/
def shareOf (pots : List Pot) (i : Nat) : Int :=
  Shares.amountOf (sharesOf pots) i

/-- The pots of `settled` are those of `state`, each with winners, and their shares were paid. -/
structure PaidFrom (state settled : Table) : Prop where
  pots : List.Forall₂ (fun pot resolved => resolved =
    { pot with winnerSeatIndexes := resolved.winnerSeatIndexes }) state.buildPendingPotViews
    settled.resolvedPots
  nodup : ∀ pot ∈ settled.resolvedPots, pot.winnerSeatIndexes.Nodup
  pays : Pays (shareOf settled.resolvedPots) state settled

theorem shareOf_cons (pot : Pot) (pots : List Pot) (i : Nat) :
    shareOf (pot :: pots) i =
      Shares.amountOf (Shares.split pot.amount pot.winnerSeatIndexes) i + shareOf pots i := by
  unfold shareOf sharesOf
  rw [List.flatMap_cons, Shares.amountOf_append]

theorem shareOf_single {winner : Nat} (pots : List Pot)
    (h : ∀ pot ∈ pots, pot.winnerSeatIndexes = [winner]) (i : Nat) :
    shareOf pots i = if winner = i then potTotal pots else 0 := by
  induction pots with
  | nil => simp [shareOf, sharesOf, potTotal]
  | cons pot pots ih =>
      have hsplit : Shares.split pot.amount [winner] = [(winner, pot.amount)] := by
        simp [Shares.split, Shares.handOut]
      rw [shareOf_cons, h pot List.mem_cons_self, hsplit, Shares.amountOf_cons,
        ih fun other hother => h other (List.mem_cons_of_mem _ hother)]
      split <;> simp [potTotal]

theorem settleByFold_paidFrom {stage : Street} (h : state.settleByFold now stage = .ok settled) :
    PaidFrom state settled := by
  unfold settleByFold at h
  split at h
  · cases h
  case h_2 winner rest hwinner =>
    injection h with h
    let won := state.buildPendingPotViews.map fun pot =>
      { pot with rakeAmount := 0, winnerSeatIndexes := [winner.seatIndex] }
    have hwon : ∀ pot ∈ won, pot.winnerSeatIndexes = [winner.seatIndex] := by
      intro pot hpot
      obtain ⟨old, -, rfl⟩ := List.mem_map.mp hpot
      rfl
    obtain rfl := h
    refine ⟨?_, fun pot hpot => ?_, ?_⟩
    · refine List.forall₂_map_right_iff.mpr (List.forall₂_same.mpr fun pot hpot => ?_)
      rw [(pending_of_mem_potViews hpot).rake]
    · rw [hwon pot hpot]
      exact List.nodup_singleton _
    · refine Pays.trans_zero ?_ (closeHand_pays ..)
      have hdue : ∀ i, (if winner.seatIndex = i then potTotal won else 0) = shareOf won i :=
        fun i => (shareOf_single won hwon i).symm
      exact (updateSeat_pays (fun row _ => by exact ⟨rfl, rfl⟩) state).congr hdue

theorem settleShowdown_spec (h : state.settleShowdown now = .ok settled) :
    ∃ shown bestHands, showHands state.listNonFoldedSeats state = .ok (shown, bestHands) ∧
      List.Forall₂ (ResolvedAs bestHands state) state.buildPendingPotViews settled.resolvedPots ∧
      Pays (shareOf settled.resolvedPots) state settled := by
  obtain ⟨shown, bestHands, paid, pots, marked, hdown⟩ := settleShowdown_cases h
  have hshown := showHands_marked hdown.shows
  obtain ⟨hpaid, hresolved⟩ := resolvePots_spec (fun pot => pending_of_mem_potViews) hdown.pays
  obtain ⟨winners, rfl⟩ := hdown.closes
  refine ⟨shown, bestHands, hdown.shows, ?_, ?_⟩
  · exact hresolved.imp fun _ _ hpot => hpot.reseated (hshown.mono fun _ _ => Marked.paid)
  · have hpays : Pays (shareOf pots) shown paid := by
      rw [hpaid]
      exact payWinners_pays _ _
    exact ((marked_pays hshown).zero_trans hpays).trans_zero
      ((marked_pays hdown.marks).zero_trans (closeHand_pays ..))

end Table

end RewardSystem.Holdem
