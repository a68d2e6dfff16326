import RewardSystem.Holdem.Moves

/-!
# What a settlement leaves as it is

A settlement pays the pots and closes the hand. Apart from that it touches the stacks, the marks of
the winners, the shown hands and the last action of a seat only.
-/

namespace RewardSystem.Holdem

open ApiError

/-- `after` is `before` with another stack, other marks of the result and another last action. -/
def Paid (before after : Seat) : Prop :=
  ∃ stackAmount winner bestHand lastAction,
    after =
      { before with
        stackAmount := stackAmount
        winner := winner
        bestHand := bestHand
        lastAction := lastAction }

namespace Paid

theorem refl (seat : Seat) : Paid seat seat :=
  ⟨_, _, _, _, rfl⟩

theorem trans (a b c : Seat) (h : Paid a b) (h' : Paid b c) : Paid a c := by
  obtain ⟨_, _, _, _, rfl⟩ := h
  obtain ⟨_, _, _, _, rfl⟩ := h'
  exact ⟨_, _, _, _, rfl⟩

variable {before after : Seat}

theorem seatIndex (h : Paid before after) : after.seatIndex = before.seatIndex := by
  obtain ⟨_, _, _, _, rfl⟩ := h
  rfl

theorem status (h : Paid before after) : after.status = before.status := by
  obtain ⟨_, _, _, _, rfl⟩ := h
  rfl

end Paid

/-- `after` is `before` with its hand shown or marked as a winner. -/
def Marked (before after : Seat) : Prop :=
  ∃ winner bestHand, after = { before with winner := winner, bestHand := bestHand }

namespace Marked

theorem refl (seat : Seat) : Marked seat seat :=
  ⟨_, _, rfl⟩

theorem trans (a b c : Seat) (h : Marked a b) (h' : Marked b c) : Marked a c := by
  obtain ⟨_, _, rfl⟩ := h
  obtain ⟨_, _, rfl⟩ := h'
  exact ⟨_, _, rfl⟩

theorem paid {before after : Seat} (h : Marked before after) : Paid before after := by
  obtain ⟨_, _, rfl⟩ := h
  exact ⟨_, _, _, _, rfl⟩

end Marked

namespace Table

variable {now : Int} {state next : Table}

/-- The seats of `next` are those of `state`, each related by `R` to what it was, and nothing else
differs. -/
def Reseated (R : Seat → Seat → Prop) (state next : Table) : Prop :=
  ∃ g : Seat → Seat, (∀ seat, R seat (g seat)) ∧ next = { state with seats := state.seats.map g }

namespace Reseated

variable {R : Seat → Seat → Prop}

theorem refl (hrefl : ∀ seat, R seat seat) (state : Table) : Reseated R state state :=
  ⟨fun seat => seat, hrefl, by simp⟩

theorem trans (htrans : ∀ a b c, R a b → R b c → R a c) {s t u : Table} (h : Reseated R s t)
    (h' : Reseated R t u) : Reseated R s u := by
  obtain ⟨g, hg, rfl⟩ := h
  obtain ⟨g', hg', rfl⟩ := h'
  exact ⟨g' ∘ g, fun seat => htrans _ _ _ (hg seat) (hg' (g seat)), by simp⟩

theorem mono {R' : Seat → Seat → Prop} (hle : ∀ a b, R a b → R' a b) {s t : Table}
    (h : Reseated R s t) : Reseated R' s t := by
  obtain ⟨g, hg, heq⟩ := h
  exact ⟨g, fun seat => hle _ _ (hg seat), heq⟩

theorem updateSeat (hrefl : ∀ seat, R seat seat) {f : Seat → Seat} (hf : ∀ seat, R seat (f seat))
    (state : Table) (seatIndex : Nat) : Reseated R state (state.updateSeat seatIndex f) := by
  refine ⟨fun row => if row.seatIndex = seatIndex then f row else row, fun seat => ?_, rfl⟩
  by_cases h : seat.seatIndex = seatIndex
  · simpa [h] using hf seat
  · simpa [h] using hrefl seat

theorem foldl {β : Type} (hrefl : ∀ seat, R seat seat) (htrans : ∀ a b c, R a b → R b c → R a c)
    {f : Table → β → Table} (hf : ∀ s b, Reseated R s (f s b)) (bs : List β) (state : Table) :
    Reseated R state (bs.foldl f state) := by
  induction bs generalizing state with
  | nil => exact refl hrefl state
  | cons b bs ih => exact (hf state b).trans htrans (ih (f state b))

end Reseated

theorem payWinners_reseated (parts : List (Nat × Int)) (state : Table) :
    Reseated Paid state (payWinners parts state) :=
  .foldl Paid.refl Paid.trans
    (fun s _ => .updateSeat Paid.refl (fun _ => ⟨_, _, _, _, rfl⟩) s _) parts state

theorem resolvePot_reseated {bestHands : BestHands} {pot resolved : Pot}
    (h : state.resolvePot bestHands pot = .ok (next, resolved)) : Reseated Paid state next := by
  unfold resolvePot at h
  split at h
  · injection h with h
    rw [← (Prod.mk.inj h).1]
    exact .refl Paid.refl state
  · split at h
    · cases h
    · obtain ⟨best, -, h⟩ := bind_eq_ok.mp h
      injection h with h
      rw [← (Prod.mk.inj h).1]
      exact payWinners_reseated _ _

theorem resolvePots_reseated {bestHands : BestHands} {pots resolved : List Pot}
    (h : resolvePots bestHands pots state = .ok (next, resolved)) : Reseated Paid state next := by
  induction pots generalizing state next resolved with
  | nil =>
      injection h with h
      rw [← (Prod.mk.inj h).1]
      exact .refl Paid.refl state
  | cons pot pots ih =>
      obtain ⟨⟨paid, first⟩, hfirst, h⟩ := bind_eq_ok.mp h
      obtain ⟨⟨last, rest⟩, hrest, h⟩ := bind_eq_ok.mp h
      injection h with h
      rw [← (Prod.mk.inj h).1]
      exact (resolvePot_reseated hfirst).trans Paid.trans (ih hrest)

theorem showHands_marked {seats : List Seat} {bestHands : BestHands}
    (h : showHands seats state = .ok (next, bestHands)) : Reseated Marked state next := by
  induction seats generalizing state next bestHands with
  | nil =>
      injection h with h
      rw [← (Prod.mk.inj h).1]
      exact .refl Marked.refl state
  | cons seat seats ih =>
      obtain ⟨best, -, h⟩ := bind_eq_ok.mp h
      obtain ⟨⟨last, rest⟩, hrest, h⟩ := bind_eq_ok.mp h
      injection h with h
      rw [← (Prod.mk.inj h).1]
      exact (Reseated.updateSeat Marked.refl (fun _ => ⟨_, _, rfl⟩) state _).trans Marked.trans
        (ih hrest)

structure ShowsDown (now : Int) (state shown : Table) (bestHands : BestHands) (paid : Table)
    (pots : List Pot) (marked settled : Table) : Prop where
  contested : state.listNonFoldedSeats ≠ []
  shows : showHands state.listNonFoldedSeats state = .ok (shown, bestHands)
  pays : resolvePots bestHands state.buildPendingPotViews shown = .ok (paid, pots)
  marks : Reseated Marked paid marked
  closes : ∃ winners, settled = closeHand now .showdown (potTotal pots)
    (state.listNonFoldedSeats.map Seat.seatIndex) winners pots marked

theorem settleShowdown_cases (h : state.settleShowdown now = .ok next) :
    ∃ shown bestHands paid pots marked,
      ShowsDown now state shown bestHands paid pots marked next := by
  unfold settleShowdown at h
  simp only at h
  split at h
  · cases h
  case isFalse hcontested =>
    obtain ⟨⟨shown, bestHands⟩, hshown, h⟩ := bind_eq_ok.mp h
    obtain ⟨⟨paid, pots⟩, hpaid, h⟩ := bind_eq_ok.mp h
    injection h with h
    exact ⟨shown, bestHands, paid, pots, _, hcontested, hshown, hpaid,
      .foldl Marked.refl Marked.trans
        (fun s _ => .updateSeat Marked.refl (fun _ => ⟨_, _, rfl⟩) s _) _ _,
      _, h.symm⟩

/-- A table whose hand is settled: the pots were paid and the hand was closed. -/
structure Settles (now : Int) (state settled : Table) : Prop where
  exists_paid : ∃ paid stage potAmount revealed winners pots, Reseated Paid state paid ∧
    settled = closeHand now stage potAmount revealed winners pots paid

theorem settleByFold_settles {stage : Street} (h : state.settleByFold now stage = .ok next) :
    Settles now state next := by
  unfold settleByFold at h
  split at h
  · cases h
  · injection h with h
    exact ⟨_, _, _, _, _, _, .updateSeat Paid.refl (fun _ => ⟨_, _, _, _, rfl⟩) state _, h.symm⟩

theorem settleShowdown_settles (h : state.settleShowdown now = .ok next) :
    Settles now state next := by
  obtain ⟨shown, bestHands, paid, pots, marked, hdown⟩ := settleShowdown_cases h
  obtain ⟨winners, hcloses⟩ := hdown.closes
  refine ⟨_, _, _, _, _, _, ?_, hcloses⟩
  exact (((showHands_marked hdown.shows).mono fun _ _ => Marked.paid).trans Paid.trans
    (resolvePots_reseated hdown.pays)).trans Paid.trans (hdown.marks.mono fun _ _ => Marked.paid)

theorem Ending.settles {settled : Table} (h : Ending now state settled) :
    (settled = state ∧ ¬state.hasRoundCompleted) ∨ Settles now state settled := by
  cases h with
  | playing hround _ => exact .inl ⟨rfl, hround⟩
  | byFold stage _ _ hsettled => exact .inr (settleByFold_settles hsettled)
  | showdown _ _ hsettled => exact .inr (settleShowdown_settles hsettled)

/-- A seat that takes no part in a hand. -/
structure Idle (seat : Seat) : Prop where
  status : seat.status = .waiting
  committed : seat.committedAmount = 0
  total : seat.totalCommittedAmount = 0

theorem Settles.idle {settled : Table} (h : Settles now state settled) :
    settled.status = .waiting ∧ ∀ seat ∈ settled.seats, Idle seat := by
  obtain ⟨paid, _, _, _, _, _, -, rfl⟩ := h.exists_paid
  refine ⟨rfl, fun seat hseat => ?_⟩
  obtain ⟨old, -, rfl⟩ := List.mem_map.mp hseat
  exact ⟨rfl, rfl, rfl⟩

theorem Settles.seatIndexes {settled : Table} (h : Settles now state settled) :
    settled.seats.map Seat.seatIndex = state.seats.map Seat.seatIndex := by
  obtain ⟨paid, _, _, _, _, _, ⟨g, hg, rfl⟩, rfl⟩ := h.exists_paid
  simp only [closeHand, revealHoldemFairness, List.map_map]
  exact List.map_congr_left fun seat _ => (hg seat).seatIndex

theorem Settles.bigBlind {settled : Table} (h : Settles now state settled) :
    settled.bigBlind = state.bigBlind := by
  obtain ⟨paid, _, _, _, _, _, ⟨g, -, rfl⟩, rfl⟩ := h.exists_paid
  rfl

end Table

end RewardSystem.Holdem
