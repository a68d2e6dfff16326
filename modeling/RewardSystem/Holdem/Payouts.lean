import RewardSystem.Holdem.Chips

/-!
# What each seat is paid

A settlement moves every stack by the shares its seat has in the pots, and the rake moves it back by
the seat's part of the rake.
-/

namespace RewardSystem.Holdem

open ApiError

/-- `after` has the stack of `before` and what is due to the seat. -/
structure Gains (due : Nat → Int) (before after : Seat) : Prop where
  seatIndex : after.seatIndex = before.seatIndex
  stack : after.stackAmount = before.stackAmount + due before.seatIndex

namespace Table

variable {now : Int} {state next last : Table} {seat : Seat} {due more : Nat → Int}

/-- Every seat of `state` has in `next` what is due to it on top of its stack. -/
def Pays (due : Nat → Int) (state next : Table) : Prop :=
  ∃ g : Seat → Seat, (∀ seat, Gains due seat (g seat)) ∧ next.seats = state.seats.map g

def stackOf (state : Table) (seatIndex : Nat) : Option Int :=
  (state.findSeatByIndex seatIndex).map Seat.stackAmount

namespace Pays

theorem of_seats_eq (h : next.seats = state.seats) : Pays (fun _ => 0) state next :=
  ⟨fun row => row, fun _ => ⟨rfl, (add_zero _).symm⟩, by rw [h, List.map_id']⟩

theorem of_reseated {R : Seat → Seat → Prop} (h : Reseated R state next)
    (hR : ∀ a b, R a b → Gains due a b) : Pays due state next := by
  obtain ⟨g, hg, rfl⟩ := h
  exact ⟨g, fun row => hR _ _ (hg row), rfl⟩

theorem trans (h : Pays due state next) (h' : Pays more next last) :
    Pays (fun i => due i + more i) state last := by
  obtain ⟨g, hg, hseats⟩ := h
  obtain ⟨g', hg', hseats'⟩ := h'
  refine ⟨g' ∘ g, fun row => ⟨?_, ?_⟩, by rw [hseats', hseats, List.map_map]⟩
  · exact (hg' (g row)).seatIndex.trans (hg row).seatIndex
  · have hfirst := (hg row).stack
    have hsecond := (hg' (g row)).stack
    rw [(hg row).seatIndex] at hsecond
    simp only [Function.comp_apply]
    omega

theorem congr (h : Pays due state next) (heq : ∀ i, due i = more i) : Pays more state next := by
  obtain rfl : due = more := funext heq
  exact h

theorem stackOf_eq (h : Pays due state next) (seatIndex : Nat) :
    next.stackOf seatIndex = (state.stackOf seatIndex).map (· + due seatIndex) := by
  obtain ⟨g, hg, hseats⟩ := h
  have hfind : next.findSeatByIndex seatIndex = (state.findSeatByIndex seatIndex).map g := by
    unfold findSeatByIndex Keyed.lookup
    rw [hseats, List.find?_map]
    congr 2
    funext row
    simp [(hg row).seatIndex]
  unfold stackOf
  rw [hfind]
  cases hrow : state.findSeatByIndex seatIndex with
  | none => rfl
  | some row =>
      have hindex := seatIndex_of_find hrow
      simp [(hg row).stack, hindex]

end Pays

/-! ## Paying out -/

theorem updateSeat_pays {f : Seat → Seat} {amount : Int} {seatIndex : Nat}
    (hf : ∀ row, row.seatIndex = seatIndex →
      (f row).seatIndex = row.seatIndex ∧ (f row).stackAmount = row.stackAmount + amount)
    (state : Table) :
    Pays (fun i => if seatIndex = i then amount else 0) state (state.updateSeat seatIndex f) := by
  refine ⟨fun row => if row.seatIndex = seatIndex then f row else row, fun row => ?_, rfl⟩
  by_cases h : row.seatIndex = seatIndex
  · obtain ⟨hindex, hstack⟩ := hf row h
    exact ⟨by simp only [h, if_true, hindex], by simp only [h, if_true, hstack]⟩
  · exact ⟨by simp only [h, if_false], by simp [h, Ne.symm h]⟩

theorem payWinners_pays (parts : List (Nat × Int)) (state : Table) :
    Pays (Shares.amountOf parts) state (payWinners parts state) := by
  induction parts generalizing state with
  | nil => exact .of_seats_eq rfl
  | cons part parts ih =>
      have hfirst : Pays (fun i => if part.1 = i then part.2 else 0) state
          (state.updateSeat part.1 (payWinner part.2)) :=
        updateSeat_pays (f := payWinner part.2) (fun row _ => ⟨rfl, rfl⟩) state
      exact (hfirst.trans (ih _)).congr fun i => (Shares.amountOf_cons part parts i).symm

end Table

end RewardSystem.Holdem
