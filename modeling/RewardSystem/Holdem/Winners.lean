import RewardSystem.Holdem.Payouts
import RewardSystem.Holdem.Strength
import RewardSystem.Lib.Sorting

/-!
# Who wins a pot

The contenders of a pot meet one after another. Those that are left at the end are the ones whose
hand no other contender beats, and they share the pot.
-/

namespace RewardSystem.Holdem

open ApiError

namespace Table

variable {now : Int} {state next paid : Table} {bestHands : BestHands} {pot resolved : Pot}
  {pots : List Pot}

/-! ## The contest -/

/-- Among the seats `contenders`, none has a better hand than the seat `i`. -/
def Tops (bestHands : BestHands) (contenders : List Nat) (i : Nat) : Prop :=
  i ∈ contenders ∧ ∃ hand, bestHandOf bestHands i = some hand ∧
    ∀ other ∈ contenders, ∀ otherHand, bestHandOf bestHands other = some otherHand →
      compareHoldemBestHands otherHand hand ≠ .gt

/-- The winners among the contenders seen so far, and their hand. -/
structure Leading (bestHands : BestHands) (seen : List Nat)
    (best : List Nat × BestHandEvaluation) : Prop where
  attained : ∃ i ∈ seen, bestHandOf bestHands i = some best.2
  unbeaten : ∀ i ∈ seen, ∃ hand, bestHandOf bestHands i = some hand ∧
    padded hand.strength ≤ padded best.2.strength
  winners : ∀ i, i ∈ best.1 ↔ i ∈ seen ∧ ∃ hand, bestHandOf bestHands i = some hand ∧
    padded hand.strength = padded best.2.strength
  sublist : best.1.Sublist seen

theorem Leading.first {i : Nat} {hand : BestHandEvaluation}
    (hhand : bestHandOf bestHands i = some hand) : Leading bestHands [i] ([i], hand) where
  attained := ⟨i, List.mem_singleton_self i, hhand⟩
  unbeaten := fun j hj => by
    obtain rfl := List.mem_singleton.mp hj
    exact ⟨hand, hhand, le_rfl⟩
  winners := fun j => by
    refine ⟨fun hj => ⟨hj, ?_⟩, fun h => h.1⟩
    obtain rfl := List.mem_singleton.mp hj
    exact ⟨hand, hhand, rfl⟩
  sublist := List.Sublist.refl _

theorem Leading.contend {seen : List Nat} {best after : List Nat × BestHandEvaluation}
    {contender : Seat} (h : Leading bestHands seen best)
    (hnext : contend bestHands best contender = .ok after) :
    Leading bestHands (seen ++ [contender.seatIndex]) after := by
  unfold Table.contend at hnext
  split at hnext
  · cases hnext
  case h_2 hand hhand =>
    injection hnext with hnext
    have hcompares := compareStrength_compares hand.strength best.2.strength
    have hmem : ∀ i, i ∈ seen ++ [contender.seatIndex] ↔ i ∈ seen ∨ i = contender.seatIndex :=
      fun i => by simp
    obtain ⟨champion, hchampion, hchampionHand⟩ := h.attained
    have hcases : ∀ top : BestHandEvaluation, padded best.2.strength ≤ padded top.strength →
        padded hand.strength ≤ padded top.strength →
        ∀ i ∈ seen ++ [contender.seatIndex], ∃ hand, bestHandOf bestHands i = some hand ∧
          padded hand.strength ≤ padded top.strength := by
      intro top hbest hcontender i hi
      rcases (hmem i).mp hi with hseen | rfl
      · obtain ⟨other, hother, hle⟩ := h.unbeaten i hseen
        exact ⟨other, hother, hle.trans hbest⟩
      · exact ⟨hand, hhand, hcontender⟩
    split at hnext
    case h_1 hgt =>
      have hlt := hcompares.eq_gt.mp hgt
      subst hnext
      refine ⟨⟨_, (hmem _).mpr (.inr rfl), hhand⟩, hcases hand hlt.le le_rfl, fun i => ?_,
        List.sublist_append_right _ _⟩
      rw [List.mem_singleton, hmem]
      refine ⟨fun hi => ⟨.inr hi, hand, hi ▸ hhand, rfl⟩, ?_⟩
      rintro ⟨hseen | rfl, other, hother, heq⟩
      · obtain ⟨same, hsame, hle⟩ := h.unbeaten i hseen
        obtain rfl := Option.some.inj (hother.symm.trans hsame)
        exact absurd (heq ▸ hle) hlt.not_ge
      · rfl
    case h_2 heq =>
      have hequal := hcompares.eq_eq.mp heq
      subst hnext
      refine ⟨⟨champion, (hmem _).mpr (.inl hchampion), hchampionHand⟩,
        hcases best.2 le_rfl hequal.le, fun i => ?_, h.sublist.append (List.Sublist.refl _)⟩
      rw [List.mem_append, h.winners, List.mem_singleton, hmem]
      constructor
      · rintro (⟨hseen, hwins⟩ | rfl)
        · exact ⟨.inl hseen, hwins⟩
        · exact ⟨.inr rfl, hand, hhand, hequal⟩
      · rintro ⟨hseen | rfl, hwins⟩
        · exact .inl ⟨hseen, hwins⟩
        · exact .inr rfl
    case h_3 hlt =>
      have hless := hcompares.eq_lt.mp hlt
      subst hnext
      refine ⟨⟨champion, (hmem _).mpr (.inl hchampion), hchampionHand⟩,
        hcases best.2 le_rfl hless.le, fun i => ?_,
        h.sublist.trans (List.sublist_append_left _ _)⟩
      rw [h.winners, hmem]
      refine ⟨fun ⟨hseen, hwins⟩ => ⟨.inl hseen, hwins⟩, ?_⟩
      rintro ⟨hseen | rfl, other, hother, heq⟩
      · exact ⟨hseen, other, hother, heq⟩
      · obtain rfl := Option.some.inj (hother.symm.trans hhand)
        exact absurd heq hless.ne

theorem Leading.foldlM {seen : List Nat} {best after : List Nat × BestHandEvaluation}
    {contenders : List Seat} (h : Leading bestHands seen best)
    (hfold : contenders.foldlM (Table.contend bestHands) best = .ok after) :
    Leading bestHands (seen ++ contenders.map Seat.seatIndex) after := by
  induction contenders generalizing seen best with
  | nil =>
      injection hfold with hfold
      simpa [← hfold] using h
  | cons contender contenders ih =>
      obtain ⟨mid, hmid, hrest⟩ := bind_eq_ok.mp hfold
      simpa using ih (h.contend hmid) hrest

theorem Leading.mem_iff {seen : List Nat} {best : List Nat × BestHandEvaluation}
    (h : Leading bestHands seen best) (i : Nat) : i ∈ best.1 ↔ Tops bestHands seen i := by
  rw [h.winners]
  refine and_congr_right fun hi => ?_
  constructor
  · rintro ⟨hand, hhand, heq⟩
    refine ⟨hand, hhand, fun other hother otherHand hotherHand => ?_⟩
    obtain ⟨same, hsame, hle⟩ := h.unbeaten other hother
    obtain rfl := Option.some.inj (hotherHand.symm.trans hsame)
    exact compareStrength_ne_gt.mpr (heq ▸ hle)
  · rintro ⟨hand, hhand, hbest⟩
    obtain ⟨champion, hchampion, hchampionHand⟩ := h.attained
    obtain ⟨same, hsame, hle⟩ := h.unbeaten i hi
    obtain rfl := Option.some.inj (hhand.symm.trans hsame)
    exact ⟨hand, hhand, le_antisymm hle
      (compareStrength_ne_gt.mp (hbest champion hchampion _ hchampionHand))⟩

/-! ## The pots of a showdown -/

def contenders (state : Table) (pot : Pot) : List Nat :=
  (state.eligibleSeats pot).map Seat.seatIndex

theorem contenders_eq_filter (state : Table) (pot : Pot) :
    state.contenders pot = pot.eligibleSeatIndexes.filter fun i =>
      (state.findSeatByIndex i).any fun seat => seat.status ≠ .folded := by
  unfold contenders eligibleSeats
  induction pot.eligibleSeatIndexes with
  | nil => rfl
  | cons i rest ih =>
      cases hseat : state.findSeatByIndex i with
      | none => simpa [hseat] using ih
      | some seat =>
          have hindex := seatIndex_of_find hseat
          by_cases hfolded : seat.status = .folded
          · simpa [hseat, hfolded] using ih
          · simpa [hseat, hfolded, hindex] using ih

theorem findSeatByIndex_map {f : Seat → Seat} (hf : ∀ seat, (f seat).seatIndex = seat.seatIndex)
    (hseats : next.seats = state.seats.map f) (seatIndex : Nat) :
    next.findSeatByIndex seatIndex = (state.findSeatByIndex seatIndex).map f := by
  unfold findSeatByIndex Keyed.lookup
  rw [hseats, List.find?_map]
  congr 2
  funext row
  simp [hf row]

theorem Reseated.contenders_eq (h : Reseated Paid state next) (pot : Pot) :
    next.contenders pot = state.contenders pot := by
  obtain ⟨g, hg, rfl⟩ := h
  rw [contenders_eq_filter, contenders_eq_filter]
  congr 1
  funext i
  rw [findSeatByIndex_map (fun row => (hg row).seatIndex) rfl]
  cases state.findSeatByIndex i with
  | none => rfl
  | some seat => simp [(hg seat).status]

/-- A pot that nobody has won yet. -/
structure Pending (pot : Pot) : Prop where
  rake : pot.rakeAmount = 0
  winners : pot.winnerSeatIndexes = []

/-- `resolved` is the pot with those of its contenders as winners whose hand is not beaten. -/
structure ResolvedAs (bestHands : BestHands) (state : Table) (pot resolved : Pot) : Prop where
  eq : resolved = { pot with winnerSeatIndexes := resolved.winnerSeatIndexes }
  mem_winners : ∀ i, i ∈ resolved.winnerSeatIndexes ↔ Tops bestHands (state.contenders pot) i
  nodup : (state.contenders pot).Nodup → resolved.winnerSeatIndexes.Nodup
  ne_nil : state.contenders pot ≠ [] → resolved.winnerSeatIndexes ≠ []
  leftOfDealer : resolved.winnerSeatIndexes.Pairwise fun left right =>
    state.distanceFromDealer left ≤ state.distanceFromDealer right

theorem sortSeatIndexesLeftOfDealer_pairwise (state : Table) (seatIndexes : List Nat) :
    (state.sortSeatIndexesLeftOfDealer seatIndexes).Pairwise fun left right =>
      state.distanceFromDealer left ≤ state.distanceFromDealer right :=
  Sorting.pairwise_insertionSort
    (fun left right => le_total (state.distanceFromDealer left) (state.distanceFromDealer right))
    (fun _ _ _ h h' => le_trans h h') _

theorem resolvePot_spec (hpot : Pending pot)
    (h : state.resolvePot bestHands pot = .ok (next, resolved)) :
    next = payWinners (Shares.split resolved.amount resolved.winnerSeatIndexes) state ∧
      ResolvedAs bestHands state pot resolved := by
  unfold resolvePot at h
  split at h
  case h_1 hseats =>
    have hnone : state.contenders pot = [] := by rw [contenders, hseats, List.map_nil]
    obtain ⟨rfl, rfl⟩ := Prod.mk.inj (Except.ok.inj h)
    refine ⟨by rw [hpot.winners]; rfl, rfl, fun i => ?_, fun _ => ?_, fun hne => absurd hnone hne, ?_⟩
    · rw [hpot.winners, hnone]
      exact ⟨fun hi => absurd hi List.not_mem_nil, fun hi => absurd hi.1 List.not_mem_nil⟩
    · rw [hpot.winners]
      exact List.nodup_nil
    · rw [hpot.winners]
      exact List.Pairwise.nil
  case h_2 first rest hseats =>
    split at h
    · cases h
    case h_2 firstHand hfirst =>
      obtain ⟨best, hbest, h⟩ := bind_eq_ok.mp h
      obtain ⟨rfl, rfl⟩ := Prod.mk.inj (Except.ok.inj h)
      have hcontenders : state.contenders pot = [first.seatIndex] ++ rest.map Seat.seatIndex := by
        rw [contenders, hseats]
        rfl
      have hleading := (Leading.first hfirst).foldlM hbest
      rw [← hcontenders] at hleading
      have hperm : (state.sortSeatIndexesLeftOfDealer best.1).Perm best.1 :=
        List.perm_insertionSort _ _
      refine ⟨rfl, ?_, fun i => hperm.mem_iff.trans (hleading.mem_iff i), fun hnodup => ?_,
        fun _ hnil => ?_, sortSeatIndexesLeftOfDealer_pairwise _ _⟩
      · simp only [hpot.rake]
      · exact hperm.nodup_iff.mpr (hleading.sublist.nodup hnodup)
      · obtain ⟨i, hi, hhand⟩ := hleading.attained
        have hwins := hperm.mem_iff.mpr ((hleading.winners i).mpr ⟨hi, _, hhand, rfl⟩)
        exact List.ne_nil_of_mem hwins hnil

def sharesOf (pots : List Pot) : List (Nat × Int) :=
  pots.flatMap fun pot => Shares.split pot.amount pot.winnerSeatIndexes

theorem ResolvedAs.reseated (h : ResolvedAs bestHands next pot resolved)
    (hnext : Reseated Paid state next) : ResolvedAs bestHands state pot resolved := by
  have hcontenders := hnext.contenders_eq pot
  have hdistance : next.distanceFromDealer = state.distanceFromDealer := by
    obtain ⟨g, -, rfl⟩ := hnext
    rfl
  exact ⟨h.eq, hcontenders ▸ h.mem_winners, hcontenders ▸ h.nodup, hcontenders ▸ h.ne_nil,
    hdistance ▸ h.leftOfDealer⟩

theorem resolvePots_spec {resolvedPots : List Pot} (hpots : ∀ pot ∈ pots, Pending pot)
    (h : resolvePots bestHands pots state = .ok (next, resolvedPots)) :
    next = payWinners (sharesOf resolvedPots) state ∧
      List.Forall₂ (ResolvedAs bestHands state) pots resolvedPots := by
  induction pots generalizing state next resolvedPots with
  | nil =>
      obtain ⟨rfl, rfl⟩ := Prod.mk.inj (Except.ok.inj h)
      exact ⟨rfl, .nil⟩
  | cons pot pots ih =>
      obtain ⟨⟨paid, first⟩, hfirst, h⟩ := bind_eq_ok.mp h
      obtain ⟨⟨last, rest⟩, hrest, h⟩ := bind_eq_ok.mp h
      obtain ⟨rfl, rfl⟩ := Prod.mk.inj (Except.ok.inj h)
      obtain ⟨hpaid, hresolved⟩ := resolvePot_spec (hpots pot List.mem_cons_self) hfirst
      obtain ⟨hlast, hall⟩ := ih (fun other hother => hpots other (List.mem_cons_of_mem _ hother))
        hrest
      refine ⟨?_, .cons hresolved (hall.imp fun _ _ hother =>
        hother.reseated (resolvePot_reseated hfirst))⟩
      rw [hlast, hpaid]
      exact (List.foldl_append ..).symm

/-! ## The hands of a showdown -/

/-- The best hand of a seat with the cards on the board. -/
def handOf (state : Table) (seat : Seat) : Option BestHandEvaluation :=
  (evaluateBestHoldemHand (seat.holeCards ++ state.communityCards)).toOption

theorem bestHandOf_showHands {seats : List Seat}
    (h : showHands seats state = .ok (next, bestHands)) (i : Nat) :
    bestHandOf bestHands i = (Keyed.lookup Seat.seatIndex i seats).bind state.handOf := by
  induction seats generalizing state next bestHands with
  | nil =>
      obtain ⟨-, rfl⟩ := Prod.mk.inj (Except.ok.inj h)
      rfl
  | cons seat seats ih =>
      obtain ⟨best, hbest, h⟩ := bind_eq_ok.mp h
      obtain ⟨⟨last, rest⟩, hrest, h⟩ := bind_eq_ok.mp h
      obtain ⟨-, rfl⟩ := Prod.mk.inj (Except.ok.inj h)
      by_cases hindex : seat.seatIndex = i
      · simp [bestHandOf, Keyed.lookup, handOf, hindex, hbest, Except.toOption]
      · have hlater := ih hrest
        unfold bestHandOf Keyed.lookup at hlater ⊢
        rw [List.find?_cons_of_neg (by simpa using hindex),
          List.find?_cons_of_neg (by simpa using hindex), hlater]
        rfl

theorem exists_showHands {seats : List Seat}
    (h : ∀ seat ∈ seats, 5 ≤ (seat.holeCards ++ state.communityCards).length) :
    ∃ shown bestHands, showHands seats state = .ok (shown, bestHands) := by
  induction seats generalizing state with
  | nil => exact ⟨state, [], rfl⟩
  | cons seat seats ih =>
      obtain ⟨best, hbest⟩ := evaluateBestHoldemHand_isOk _ (h seat List.mem_cons_self)
      let shown := state.updateSeat seat.seatIndex fun seat => { seat with bestHand := some best.hand }
      have hlater : ∀ other ∈ seats, 5 ≤ (other.holeCards ++ shown.communityCards).length :=
        fun other hother => h other (List.mem_cons_of_mem _ hother)
      obtain ⟨last, rest, hrest⟩ := ih hlater
      exact ⟨last, (seat.seatIndex, best) :: rest,
        bind_eq_ok.mpr ⟨_, hbest, bind_eq_ok.mpr ⟨_, hrest, rfl⟩⟩⟩

theorem exists_contend {contenders : List Seat} {best : List Nat × BestHandEvaluation}
    (h : ∀ seat ∈ contenders, (bestHandOf bestHands seat.seatIndex).isSome) :
    ∃ after, contenders.foldlM (contend bestHands) best = .ok after := by
  induction contenders generalizing best with
  | nil => exact ⟨best, rfl⟩
  | cons contender contenders ih =>
      obtain ⟨hand, hhand⟩ := Option.isSome_iff_exists.mp (h contender List.mem_cons_self)
      have hstep : ∃ after, contend bestHands best contender = .ok after := by
        unfold contend
        rw [hhand]
        exact ⟨_, rfl⟩
      obtain ⟨mid, hmid⟩ := hstep
      obtain ⟨after, hafter⟩ : ∃ after, contenders.foldlM (contend bestHands) mid = .ok after :=
        ih fun seat hseat => h seat (List.mem_cons_of_mem _ hseat)
      exact ⟨after, bind_eq_ok.mpr ⟨mid, hmid, hafter⟩⟩

theorem exists_resolvePot (h : ∀ i ∈ state.contenders pot, (bestHandOf bestHands i).isSome) :
    ∃ next resolved, state.resolvePot bestHands pot = .ok (next, resolved) := by
  unfold contenders at h
  unfold resolvePot
  split
  · exact ⟨_, _, rfl⟩
  case h_2 first rest hseats =>
    rw [hseats] at h
    have hsome : ∀ seat ∈ first :: rest, (bestHandOf bestHands seat.seatIndex).isSome :=
      fun seat hseat => h _ (List.mem_map_of_mem hseat)
    obtain ⟨hand, hhand⟩ := Option.isSome_iff_exists.mp (hsome first List.mem_cons_self)
    obtain ⟨best, hbest⟩ : ∃ best, rest.foldlM (contend bestHands) ([first.seatIndex], hand) =
        .ok best := exists_contend fun seat hseat => hsome seat (List.mem_cons_of_mem _ hseat)
    rw [hhand]
    exact ⟨_, _, bind_eq_ok.mpr ⟨best, hbest, rfl⟩⟩

theorem exists_resolvePots
    (h : ∀ pot ∈ pots, ∀ i ∈ state.contenders pot, (bestHandOf bestHands i).isSome) :
    ∃ next resolved, resolvePots bestHands pots state = .ok (next, resolved) := by
  induction pots generalizing state with
  | nil => exact ⟨state, [], rfl⟩
  | cons pot pots ih =>
      obtain ⟨paid, first, hfirst⟩ := exists_resolvePot (h pot List.mem_cons_self)
      have hsame := (resolvePot_reseated hfirst).contenders_eq
      obtain ⟨last, rest, hrest⟩ : ∃ last rest, resolvePots bestHands pots paid = .ok (last, rest) :=
        ih fun other hother i hi => h other (List.mem_cons_of_mem _ hother) i (hsame other ▸ hi)
      exact ⟨last, first :: rest, bind_eq_ok.mpr ⟨_, hfirst, bind_eq_ok.mpr ⟨_, hrest, rfl⟩⟩⟩

end Table

end RewardSystem.Holdem
