import RewardSystem.Holdem.Turns

/-!
# How a hand opens
-/

namespace RewardSystem.Holdem

open ApiError

namespace Table

variable {sha256 : HashFunction} {now : Int} {state dealt next : Table} {seat : Seat}
  {fairnessSeed : FairnessSeedInput} {dealer : Nat} {smallBlind bigBlind : Option Nat}
  {shuffled : ShuffledDeck} {withCards : Table}

theorem eligibleSeatIndexes_sorted (hkeys : state.HasSeatKeys) :
    state.eligibleSeatIndexes.Pairwise (· < ·) :=
  sorted_map_filter hkeys _

theorem actionableSeatIndexes_sorted (hkeys : state.HasSeatKeys) :
    state.actionableSeatIndexes.Pairwise (· < ·) :=
  sorted_map_filter hkeys _

theorem mem_eligibleSeatIndexes {i : Nat} : i ∈ state.eligibleSeatIndexes ↔
    ∃ seat ∈ state.seats, isSeatEligibleForHand seat ∧ seat.seatIndex = i := by
  simp [eligibleSeatIndexes, and_assoc]

theorem mem_actionableSeatIndexes {i : Nat} : i ∈ state.actionableSeatIndexes ↔
    ∃ seat ∈ state.seats, isSeatActionable seat ∧ seat.seatIndex = i := by
  simp [actionableSeatIndexes, and_assoc]

def nextHandSeed (sha256 : HashFunction) (state : Table) (fairnessSeed : FairnessSeedInput) :
    String :=
  deriveHoldemHandSeed sha256 fairnessSeed.seed state.id (state.handNumber + 1)
    (state.listEligibleSeats.map Seat.userId)

/-- The steps of a start that was accepted, up to the hole cards. -/
structure Opens (sha256 : HashFunction) (state : Table) (fairnessSeed : FairnessSeedInput)
    (dealer : Nat) (smallBlind bigBlind : Option Nat) (shuffled : ShuffledDeck)
    (withCards : Table) : Prop where
  waiting : state.status ≠ .active
  enough : state.resolveMinimumRequiredPlayers ≤ state.listEligibleSeats.length
  human : state.listEligibleHumanSeats ≠ []
  nextDealer : state.resolveNextDealerSeatIndex = some dealer
  blindSeats : state.resolveBlindSeats dealer = .ok (smallBlind, bigBlind)
  shuffle : shuffleHoldemDeck sha256 (state.nextHandSeed sha256 fairnessSeed) = .ok shuffled
  cards : (state.openHand sha256 fairnessSeed (state.nextHandSeed sha256 fairnessSeed) shuffled
    dealer smallBlind bigBlind).dealHoleCards (state.resolveDealOrder (smallBlind.getD dealer)) =
      .ok withCards

theorem dealHand_eq_ok : state.dealHand sha256 fairnessSeed = .ok dealt ↔
    ∃ dealer smallBlind bigBlind shuffled withCards,
      Opens sha256 state fairnessSeed dealer smallBlind bigBlind shuffled withCards ∧
        dealt = withCards.postBlinds.firstTurn dealer := by
  constructor
  · intro h
    unfold dealHand at h
    obtain ⟨_, hwaiting, h⟩ := bind_eq_ok.mp h
    obtain ⟨_, henough, h⟩ := bind_eq_ok.mp h
    obtain ⟨_, hhuman, h⟩ := bind_eq_ok.mp h
    rw [throwIf_eq_ok] at hwaiting henough hhuman
    cases hdealer : state.resolveNextDealerSeatIndex with
    | none => simp [hdealer] at h
    | some dealer =>
        simp only [hdealer] at h
        obtain ⟨⟨smallBlind, bigBlind⟩, hblinds, h⟩ := bind_eq_ok.mp h
        obtain ⟨shuffled, hshuffled, h⟩ := bind_eq_ok.mp h
        obtain ⟨withCards, hcards, h⟩ := bind_eq_ok.mp h
        injection h with h
        exact ⟨dealer, smallBlind, bigBlind, shuffled, withCards,
          ⟨hwaiting, not_lt.mp henough, hhuman, hdealer, hblinds, hshuffled, hcards⟩, h.symm⟩
  · rintro ⟨dealer, smallBlind, bigBlind, shuffled, withCards, hopens, rfl⟩
    have hseed : deriveHoldemHandSeed sha256 fairnessSeed.seed state.id (state.handNumber + 1)
        (state.listEligibleSeats.map Seat.userId) = state.nextHandSeed sha256 fairnessSeed := rfl
    unfold dealHand
    simp only [throwIf, if_neg hopens.waiting, if_neg (not_lt.mpr hopens.enough),
      if_neg hopens.human, hopens.nextDealer, hseed]
    simp only [bind, Except.bind, hopens.blindSeats, hopens.shuffle, hopens.cards]

theorem startHoldemHand_eq_ok : state.startHoldemHand sha256 now fairnessSeed = .ok next ↔
    ∃ dealt, state.dealHand sha256 fairnessSeed = .ok dealt ∧
      dealt.resolveTerminalAndStreetProgression now .preflop = .ok next :=
  bind_eq_ok

/-! ## Dealer and blinds -/

theorem dealer_mem (hkeys : state.HasSeatKeys)
    (h : state.resolveNextDealerSeatIndex = some dealer) : dealer ∈ state.eligibleSeatIndexes := by
  unfold resolveNextDealerSeatIndex at h
  split at h
  · cases h
  · split at h
    · exact List.mem_of_head? h
    · exact (isNext_of_nextSeatIndex (eligibleSeatIndexes_sorted hkeys) h).1

theorem blinds_cases (hkeys : state.HasSeatKeys) (hdealer : dealer ∈ state.eligibleSeatIndexes)
    (h : state.resolveBlindSeats dealer = .ok (smallBlind, bigBlind)) :
    (state.eligibleSeatIndexes.length = 1 ∧ smallBlind = none ∧ bigBlind = none) ∨
      ∃ small big, smallBlind = some small ∧ bigBlind = some big ∧ small ≠ big ∧
        small ∈ state.eligibleSeatIndexes ∧ big ∈ state.eligibleSeatIndexes := by
  have hsorted := eligibleSeatIndexes_sorted hkeys
  unfold resolveBlindSeats at h
  simp only at h
  split_ifs at h with hfew hone htwo
  · injection h with h
    obtain ⟨rfl, rfl⟩ := Prod.mk.inj h
    exact .inl ⟨hone, rfl, rfl⟩
  · right
    split at h
    · cases h
    case h_2 big hbig =>
        injection h with h
        obtain ⟨rfl, rfl⟩ := Prod.mk.inj h
        have hne : big ≠ dealer := by simpa using List.find?_some hbig
        exact ⟨dealer, big, rfl, rfl, hne.symm, hdealer, List.mem_of_find?_eq_some hbig⟩
  · right
    split at h
    · cases h
    case h_2 small hsmall =>
        split at h
        · cases h
        case h_2 big hbig =>
            injection h with h
            obtain ⟨rfl, rfl⟩ := Prod.mk.inj h
            have hsmall' := isNext_of_nextSeatIndex hsorted hsmall
            have hbig' := isNext_of_nextSeatIndex hsorted hbig
            refine ⟨small, big, rfl, rfl, ?_, hsmall'.1, hbig'.1⟩
            rintro rfl
            -- with another seat at hand, the round behind `small` does not begin with `small`
            obtain ⟨other, hother, hne⟩ : ∃ other ∈ state.eligibleSeatIndexes, other ≠ small := by
              by_contra hall
              push Not at hall
              have hlen : state.eligibleSeatIndexes.length ≤ 1 := by
                have hrep := List.eq_replicate_of_mem hall
                have hnodup : state.eligibleSeatIndexes.Nodup := hsorted.imp Nat.ne_of_lt
                rw [hrep] at hnodup
                exact List.nodup_replicate.mp hnodup
              have hpos : 0 < state.eligibleSeatIndexes.length := List.length_pos_of_mem hsmall'.1
              omega
            exact Rotation.not_visits_of_start small other (hbig'.2 other hother hne)

/-! ## Hole cards -/

/-- Only hole cards and the place in the deck differ. -/
def CardsDealt (state next : Table) : Prop :=
  ∃ (cards : Seat → List Card) (nextCardIndex : Nat),
    next = { state with
      seats := state.seats.map fun seat => { seat with holeCards := cards seat }
      nextCardIndex := nextCardIndex }

theorem CardsDealt.refl (state : Table) : CardsDealt state state :=
  ⟨Seat.holeCards, state.nextCardIndex, by simp⟩

theorem CardsDealt.trans {s t u : Table} (h : CardsDealt s t) (h' : CardsDealt t u) :
    CardsDealt s u := by
  obtain ⟨cards, n, rfl⟩ := h
  obtain ⟨cards', n', rfl⟩ := h'
  exact ⟨fun seat => cards' { seat with holeCards := cards seat }, n', by simp⟩

theorem dealHoleCard_eq_ok {i : Nat} : state.dealHoleCard i = .ok next ↔
    ∃ card, state.deck[state.nextCardIndex]? = some card ∧
      next = { state with nextCardIndex := state.nextCardIndex + 1 }.updateSeat i fun seat =>
        { seat with holeCards := seat.holeCards ++ [card] } := by
  unfold dealHoleCard
  simp only [bind_eq_ok, Prod.exists, takeNextCard_eq_ok]
  constructor
  · rintro ⟨card, _, ⟨hcard, rfl⟩, h⟩
    injection h with h
    exact ⟨card, hcard, h.symm⟩
  · rintro ⟨card, hcard, rfl⟩
    exact ⟨card, _, ⟨hcard, rfl⟩, rfl⟩

theorem dealHoleCard_cardsDealt {i : Nat} (h : state.dealHoleCard i = .ok next) :
    CardsDealt state next := by
  obtain ⟨card, -, rfl⟩ := dealHoleCard_eq_ok.mp h
  refine ⟨fun seat => if seat.seatIndex = i then seat.holeCards ++ [card] else seat.holeCards,
    state.nextCardIndex + 1, ?_⟩
  unfold Table.updateSeat Keyed.modify
  congr 1
  refine List.map_congr_left fun seat _ => ?_
  by_cases hseat : seat.seatIndex = i <;> simp [hseat]

theorem foldlM_dealHoleCard {I : Table → Prop} {order : List Nat}
    (hdeal : ∀ s i t, i ∈ order → I s → s.dealHoleCard i = .ok t → I t) (hs : I state)
    (h : order.foldlM dealHoleCard state = .ok next) : I next := by
  induction order generalizing state with
  | nil =>
      injection h with h
      exact h ▸ hs
  | cons i order ih =>
      obtain ⟨dealt, hdealt, h⟩ := bind_eq_ok.mp h
      exact ih (fun s j t hj => hdeal s j t (by simp [hj])) (hdeal _ i _ (by simp) hs hdealt) h

theorem dealHoleCards_cardsDealt {order : List Nat} (h : state.dealHoleCards order = .ok next) :
    CardsDealt state next := by
  obtain ⟨first, hfirst, hsecond⟩ := bind_eq_ok.mp h
  have hdeal : ∀ s i t, i ∈ order → CardsDealt state s → s.dealHoleCard i = .ok t →
      CardsDealt state t := fun s i t _ hs ht => hs.trans (dealHoleCard_cardsDealt ht)
  exact foldlM_dealHoleCard hdeal (foldlM_dealHoleCard hdeal (.refl state) hfirst) hsecond

theorem Opens.seats (h : Opens sha256 state fairnessSeed dealer smallBlind bigBlind shuffled
    withCards) : ∃ (cards : Seat → List Card) (nextCardIndex : Nat),
      withCards =
        { state.openHand sha256 fairnessSeed (state.nextHandSeed sha256 fairnessSeed) shuffled dealer
            smallBlind bigBlind with
          seats := state.seats.map fun seat => { clearSeat seat with holeCards := cards seat }
          nextCardIndex := nextCardIndex } := by
  obtain ⟨cards, n, rfl⟩ := dealHoleCards_cardsDealt h.cards
  exact ⟨fun seat => cards (clearSeat seat), n, by simp [openHand]⟩

end Table

end RewardSystem.Holdem
