import RewardSystem.Holdem.Moves

/-!
# Whose turn it is

The turn goes round the table. As long as the betting round is open, the seat whose turn it is has
not acted on the current bet.
-/

namespace RewardSystem.Holdem

open ApiError

theorem sortSeatsByIndex_pairwise (seats : List Seat) (hkeys : Keyed.HasKeys Seat.seatIndex seats) :
    (sortSeatsByIndex seats).Pairwise fun left right => left.seatIndex < right.seatIndex := by
  have hle : (sortSeatsByIndex seats).Pairwise fun left right => left.seatIndex ≤ right.seatIndex :=
    have : Std.Total fun left right : Seat => left.seatIndex ≤ right.seatIndex :=
      ⟨fun _ _ => Nat.le_total _ _⟩
    have : IsTrans Seat fun left right => left.seatIndex ≤ right.seatIndex :=
      ⟨fun _ _ _ => Nat.le_trans⟩
    List.pairwise_insertionSort _ seats
  have hne : (sortSeatsByIndex seats).Pairwise fun left right =>
      left.seatIndex ≠ right.seatIndex := by
    have hnodup : ((sortSeatsByIndex seats).map Seat.seatIndex).Nodup :=
      ((sortSeatsByIndex_perm seats).map Seat.seatIndex).nodup_iff.mpr hkeys
    exact List.pairwise_map.mp hnodup
  exact (hle.and hne).imp fun h => lt_of_le_of_ne h.1 h.2

theorem sorted_map_filter {seats : List Seat} (hkeys : Keyed.HasKeys Seat.seatIndex seats)
    (keep : Seat → Bool) :
    (((sortSeatsByIndex seats).filter keep).map Seat.seatIndex).Pairwise (· < ·) :=
  List.pairwise_map.mpr ((sortSeatsByIndex_pairwise seats hkeys).filter keep)

theorem nextSeatIndex_eq_next {ordered : List Nat} (hsorted : ordered.Pairwise (· < ·))
    (fromSeatIndex : Nat) : nextSeatIndex ordered fromSeatIndex = Rotation.next ordered fromSeatIndex := by
  unfold nextSeatIndex
  split
  case h_2 => rfl
  case h_1 exactIndex hfind =>
      obtain ⟨hlt, hfound, -⟩ := List.findIdx?_eq_some_iff_getElem.mp hfind
      have heq : ordered[exactIndex] = fromSeatIndex := by simpa using hfound
      have hsplit : ordered = ordered.take exactIndex ++ fromSeatIndex :: ordered.drop (exactIndex + 1) := by
        rw [← heq, List.cons_getElem_drop_succ, List.take_append_drop]
      set before := ordered.take exactIndex with hbefore
      set after := ordered.drop (exactIndex + 1) with hafter
      have hlen : before.length = exactIndex := by
        rw [hbefore, List.length_take]
        omega
      rw [hsplit] at hsorted ⊢
      obtain ⟨-, hsuffix, hcross⟩ := List.pairwise_append.mp hsorted
      have hnone : before.find? (fromSeatIndex < ·) = none := by
        rw [List.find?_eq_none]
        intro x hx
        have := hcross x hx fromSeatIndex (by simp)
        simp only [decide_eq_true_eq]
        omega
      unfold Rotation.next
      rw [List.find?_append, hnone, Option.none_or, List.find?_cons_of_neg (by simp)]
      cases hcase : after with
      | nil =>
          simp only [List.find?_nil, Option.none_or, List.length_append, List.length_cons,
            List.length_nil, hlen, zero_add, Nat.mod_self]
          cases before <;> rfl
      | cons first rest =>
          have hgt : fromSeatIndex < first :=
            (List.pairwise_cons.mp (hcase ▸ hsuffix)).1 first (by simp)
          rw [List.find?_cons_of_pos (by simpa using hgt), Option.some_or, Nat.mod_eq_of_lt
            (by simp [hlen]), List.getElem?_append_right (by omega), hlen]
          simp

theorem isNext_of_nextSeatIndex {ordered : List Nat} (hsorted : ordered.Pairwise (· < ·))
    {fromSeatIndex seatIndex : Nat} (h : nextSeatIndex ordered fromSeatIndex = some seatIndex) :
    Rotation.IsNext (· ∈ ordered) fromSeatIndex seatIndex :=
  Rotation.isNext_of_next hsorted (nextSeatIndex_eq_next hsorted fromSeatIndex ▸ h)

theorem nextSeatIndex_eq_none {ordered : List Nat} (hsorted : ordered.Pairwise (· < ·))
    {fromSeatIndex : Nat} : nextSeatIndex ordered fromSeatIndex = none ↔ ordered = [] := by
  rw [nextSeatIndex_eq_next hsorted, Rotation.next_eq_none]

end RewardSystem.Holdem
