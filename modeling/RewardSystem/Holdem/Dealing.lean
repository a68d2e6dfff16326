import RewardSystem.Holdem.Deck
import RewardSystem.Holdem.Invariants

/-!
# The cards of a hand

The cards that are out are the top of the shuffled deck. The seed of the shuffle stays hidden until
the hand is settled; then it is published, and anyone can check it against the commitment and shuffle
the deck again.
-/

namespace RewardSystem.Holdem

open ApiError Transition

def Street.boardLength : Street → Nat
  | .preflop => 0
  | .flop => 3
  | .turn => 4
  | .river => 5
  | .showdown => 5

namespace Table

variable {sha256 : HashFunction} {now : Int} {state next : Table} {seat row : Seat} {prior : Int}
  {handSeed : String} {published : HandFairness}

/-! ## Cards that stay where they are -/

/-- The seats of `next` hold the cards they held in `state`; newcomers hold none. -/
structure SameHands (state next : Table) : Prop where
  held : next.heldCards.Perm state.heldCards
  hands : ∀ row ∈ next.seats, (row.holeCards = [] ∧ ¬isSeatInHand row) ∨
    ∃ old ∈ state.seats, row.holeCards = old.holeCards ∧ (isSeatInHand row ↔ isSeatInHand old)

theorem sameHands_map {f : Seat → Seat}
    (hcards : ∀ row ∈ state.seats, (f row).holeCards = row.holeCards)
    (hin : ∀ row ∈ state.seats, isSeatInHand (f row) ↔ isSeatInHand row) :
    SameHands state { state with seats := state.seats.map f } where
  held := by
    have hsame : ({ state with seats := state.seats.map f } : Table).heldCards =
        state.heldCards := by
      unfold heldCards
      simp only [List.flatMap_map]
      exact List.flatMap_congr hcards
    rw [hsame]
  hands := by
    intro row hrow
    obtain ⟨old, hold, rfl⟩ := List.mem_map.mp hrow
    exact .inr ⟨old, hold, hcards old hold, hin old hold⟩

theorem sameHands_updateSeat {f : Seat → Seat} (hkeys : state.HasSeatKeys)
    (hseat : seat ∈ state.seats) (hcards : (f seat).holeCards = seat.holeCards)
    (hin : isSeatInHand (f seat) ↔ isSeatInHand seat) :
    SameHands state (state.updateSeat seat.seatIndex f) := by
  refine sameHands_map (fun row hrow => ?_) fun row hrow => ?_
  · by_cases hindex : row.seatIndex = seat.seatIndex
    · rw [if_pos hindex, eq_of_seatIndex_eq hkeys hseat hrow hindex, hcards]
    · rw [if_neg hindex]
  · by_cases hindex : row.seatIndex = seat.seatIndex
    · rw [if_pos hindex, eq_of_seatIndex_eq hkeys hseat hrow hindex, hin]
    · rw [if_neg hindex]

theorem sameHands_reseated {R : Seat → Seat → Prop} (h : Reseated R state next)
    (hcards : ∀ a b, R a b → b.holeCards = a.holeCards)
    (hstatus : ∀ a b, R a b → b.status = a.status) : SameHands state next := by
  obtain ⟨g, hg, rfl⟩ := h
  refine sameHands_map (fun row _ => hcards _ _ (hg row)) fun row _ => ?_
  unfold isSeatInHand
  rw [hstatus _ _ (hg row)]

theorem SameHands.trans {s t u : Table} (h : SameHands s t) (h' : SameHands t u) :
    SameHands s u where
  held := h'.held.trans h.held
  hands := by
    intro row hrow
    rcases h'.hands row hrow with hnew | ⟨old, hold, hcards, hin⟩
    · exact .inl hnew
    · rcases h.hands old hold with ⟨hnone, hout⟩ | ⟨older, holder, hcards', hin'⟩
      · exact .inl ⟨hcards.trans hnone, hin.not.mpr hout⟩
      · exact .inr ⟨older, holder, hcards.trans hcards', hin.trans hin'⟩

/-! ## The cards that are out -/

/-- The cards of the seats and of the board are the top of the deck; a seat has two cards or none. -/
structure Cards (state : Table) : Prop where
  out : (state.heldCards ++ state.communityCards).Perm (state.deck.take state.nextCardIndex)
  index_le : state.nextCardIndex ≤ state.deck.length
  pairs : ∀ seat ∈ state.seats, seat.holeCards = [] ∨ seat.holeCards.length = 2

/-- The cards in a hand: who was dealt in has cards, and the board fits the street. -/
structure Dealt (state : Table) : Prop extends Cards state where
  inHand : ∀ seat ∈ state.seats, isSeatInHand seat ↔ seat.holeCards ≠ []
  board : ∃ stage, state.stage = some stage ∧ stage ≠ .showdown ∧
    state.communityCards.length = stage.boardLength

theorem Cards.same (h : Cards state) (hsame : SameHands state next) (hdeck : next.deck = state.deck)
    (hindex : next.nextCardIndex = state.nextCardIndex)
    (hboard : next.communityCards = state.communityCards) : Cards next where
  out := by
    rw [hdeck, hindex, hboard]
    exact (hsame.held.append_right _).trans h.out
  index_le := by
    rw [hdeck, hindex]
    exact h.index_le
  pairs := by
    intro row hrow
    rcases hsame.hands row hrow with ⟨hnone, -⟩ | ⟨old, hold, hcards, -⟩
    · exact .inl hnone
    · rw [hcards]
      exact h.pairs old hold

theorem inHand_of_sameHands (hsame : SameHands state next)
    (h : ∀ seat ∈ state.seats, isSeatInHand seat ↔ seat.holeCards ≠ []) :
    ∀ row ∈ next.seats, isSeatInHand row ↔ row.holeCards ≠ [] := by
  intro row hrow
  rcases hsame.hands row hrow with ⟨hnone, hout⟩ | ⟨old, hold, hcards, hin⟩
  · simp [hnone, hout]
  · rw [hcards, hin, h old hold]

theorem Dealt.same (h : Dealt state) (hsame : SameHands state next)
    (hdeck : next.deck = state.deck) (hindex : next.nextCardIndex = state.nextCardIndex)
    (hboard : next.communityCards = state.communityCards) (hstage : next.stage = state.stage) :
    Dealt next where
  toCards := h.toCards.same hsame hdeck hindex hboard
  inHand := inHand_of_sameHands hsame h.inHand
  board := by
    rw [hboard, hstage]
    exact h.board

theorem Move.sameHands (hturn : Turn prior state seat) (hmove : Move state seat next) :
    SameHands state next := by
  have hkeys := hturn.betting.keys
  have hin : isSeatInHand seat := .inl hturn.active
  cases hmove with
  | fold _ =>
      have hsame := sameHands_updateSeat (f := fun row =>
          { row with status := .folded, lastAction := some "Fold" }) hkeys hturn.mem rfl
        ⟨fun _ => hin, fun _ => .inr (.inr rfl)⟩
      exact ⟨hsame.held, hsame.hands⟩
  | check _ hcheck =>
      obtain ⟨-, rfl⟩ := applyCheck_eq_ok.mp hcheck
      have hsame := sameHands_updateSeat (f := fun row =>
        { row with lastAction := some "Check" }) hkeys hturn.mem rfl Iff.rfl
      exact ⟨hsame.held, hsame.hands⟩
  | post posting hlegal =>
      have hposted := postFromStack_of_pos hlegal.transfer_pos hlegal.transfer_le
      have hsame : SameHands state (state.updateSeat seat.seatIndex (postSeat posting)) := by
        refine sameHands_updateSeat hkeys hturn.mem ?_ ⟨fun _ => hin, fun _ => ?_⟩
        · unfold postSeat
          rw [hposted]
        · unfold postSeat isSeatInHand
          rw [hposted]
          simp only [hturn.active]
          split <;> simp
      exact ⟨hsame.held, hsame.hands⟩

theorem Dealt.move (h : Dealt state) (hturn : Turn prior state seat)
    (hmove : Move state seat next) : Dealt next := by
  have hsame := hmove.sameHands hturn
  cases hmove with
  | fold _ => exact h.same hsame rfl rfl rfl rfl
  | check _ hcheck =>
      obtain ⟨-, rfl⟩ := applyCheck_eq_ok.mp hcheck
      exact h.same hsame rfl rfl rfl rfl
  | post _ _ => exact h.same hsame rfl rfl rfl rfl

theorem sameHands_openStreet (state : Table) (stage : Street) :
    SameHands state (state.openStreet stage) := by
  have hsame : SameHands state { state with
      seats := state.seats.map fun seat =>
        { seat with
          committedAmount := 0
          status := if seat.status = .active ∧ seat.stackAmount = 0 then .allIn
            else seat.status } } := by
    refine sameHands_map (fun _ _ => rfl) fun row _ => ?_
    unfold isSeatInHand
    by_cases hempty : row.status = .active ∧ row.stackAmount = 0 <;> simp [hempty]
  exact ⟨hsame.held, hsame.hands⟩

theorem boardLength_nextStreet {current stage : Street} {count : Nat}
    (h : nextStreet current = some (count, stage)) :
    stage.boardLength = current.boardLength + count ∧ stage ≠ .showdown := by
  cases current with
  | preflop =>
      obtain ⟨rfl, rfl⟩ := Prod.mk.inj (Option.some.inj h)
      exact ⟨rfl, by simp⟩
  | flop =>
      obtain ⟨rfl, rfl⟩ := Prod.mk.inj (Option.some.inj h)
      exact ⟨rfl, by simp⟩
  | turn =>
      obtain ⟨rfl, rfl⟩ := Prod.mk.inj (Option.some.inj h)
      exact ⟨rfl, by simp⟩
  | river => cases h
  | showdown => cases h

theorem Cards.deal {count : Nat} (h : Cards state)
    (hdeal : state.dealCommunityCards count = .ok next) : Cards next := by
  obtain ⟨henough, rfl⟩ := dealCommunityCards_eq_ok.mp hdeal
  have hle := h.index_le
  refine ⟨?_, by simp only; omega, h.pairs⟩
  change (state.heldCards ++ (state.communityCards ++
    (state.deck.drop state.nextCardIndex).take count)).Perm _
  rw [← List.append_assoc, List.take_add]
  exact h.out.append_right _

theorem Dealt.street (h : Dealt state) (hstreet : StreetDealt state next) : Dealt next := by
  obtain ⟨current, count, stage, dealt, hcurrent, hnext, hdeal, rfl⟩ := hstreet.exists_deal
  have hcards := h.toCards.deal hdeal
  obtain ⟨hlength, hshowdown⟩ := boardLength_nextStreet hnext
  have hsame := sameHands_openStreet dealt stage
  refine ⟨hcards.same hsame rfl rfl rfl, inHand_of_sameHands hsame ?_,
    stage, rfl, hshowdown, ?_⟩
  · obtain ⟨-, rfl⟩ := dealCommunityCards_eq_ok.mp hdeal
    exact h.inHand
  · obtain ⟨current', hcurrent', -, hboard⟩ := h.board
    obtain ⟨henough, rfl⟩ := dealCommunityCards_eq_ok.mp hdeal
    obtain rfl : current = current' := Option.some.inj (hcurrent.symm.trans hcurrent')
    have := h.index_le
    simp only [openStreet, resetStreetCommitments, List.length_append, List.length_take,
      List.length_drop]
    omega

theorem Cards.settles {settled : Table} (h : Cards state) (hsettles : Settles now state settled) :
    Cards settled := by
  obtain ⟨paid, stage, potAmount, revealed, winners, pots, hpaid, rfl⟩ := hsettles.exists_paid
  have hsame : SameHands state paid := by
    refine sameHands_reseated hpaid ?_ fun _ _ hab => hab.status
    rintro a _ ⟨_, _, _, _, rfl⟩
    rfl
  have hpaidCards : Cards paid := by
    obtain ⟨g, -, rfl⟩ := hpaid
    exact h.same hsame rfl rfl rfl
  refine ⟨?_, hpaidCards.index_le, fun row hrow => ?_⟩
  · have hheld : (closeHand now stage potAmount revealed winners pots paid).heldCards =
        paid.heldCards := by
      unfold heldCards closeHand revealHoldemFairness
      simp only [List.flatMap_map]
    rw [hheld]
    exact hpaidCards.out
  · obtain ⟨old, hold, rfl⟩ := List.mem_map.mp hrow
    exact hpaidCards.pairs old hold

/-! ## Opening -/

variable {fairnessSeed : FairnessSeedInput} {dealer : Nat} {smallBlind bigBlind : Option Nat}
  {shuffled : ShuffledDeck} {withCards : Table}

theorem Opens.dealtTo (hkeys : state.HasSeatKeys)
    (h : Opens sha256 state fairnessSeed dealer smallBlind bigBlind shuffled withCards) :
    ∃ order, order.Perm state.eligibleSeatIndexes ∧
      DealtTo (order ++ order) (state.openHand sha256 fairnessSeed
        (state.nextHandSeed sha256 fairnessSeed) shuffled dealer smallBlind bigBlind) withCards := by
  have hdealer := dealer_mem hkeys h.nextDealer
  have hfirst : smallBlind.getD dealer ∈ state.eligibleSeatIndexes := by
    rcases blinds_cases hkeys hdealer h.blindSeats with ⟨-, rfl, rfl⟩ |
      ⟨small, big, rfl, rfl, -, hsmall, -⟩
    · exact hdealer
    · exact hsmall
  have hperm := resolveDealOrder_perm hkeys hfirst
  refine ⟨_, hperm, dealHoleCards_dealtTo (hasSeatKeys_map hkeys fun _ => rfl) (fun i hi => ?_)
    h.cards⟩
  obtain ⟨seat, hseat, -, rfl⟩ := mem_eligibleSeatIndexes.mp (hperm.subset hi)
  exact ⟨clearSeat seat, List.mem_map_of_mem hseat, rfl⟩

theorem inHand_clearSeat (cards : List Card) (seat : Seat) :
    isSeatInHand { clearSeat seat with holeCards := cards } ↔ isSeatEligibleForHand seat := by
  unfold isSeatInHand clearSeat
  by_cases h : isSeatEligibleForHand seat <;> simp [h]

theorem Opens.dealt (hkeys : state.HasSeatKeys)
    (h : Opens sha256 state fairnessSeed dealer smallBlind bigBlind shuffled withCards) :
    Dealt withCards := by
  obtain ⟨order, hperm, hdealt⟩ := h.dealtTo hkeys
  obtain ⟨cards, hwith, hlength⟩ := hdealt.exists_cards
  have hnodup : order.Nodup := hperm.nodup_iff.mpr
    ((eligibleSeatIndexes_sorted hkeys).imp Nat.ne_of_lt)
  have hcount : ∀ old ∈ state.seats, (cards (clearSeat old)).length =
      if isSeatEligibleForHand old then 2 else 0 := by
    intro old hold
    have hmem : old.seatIndex ∈ order ↔ isSeatEligibleForHand old := by
      rw [hperm.mem_iff, mem_eligibleSeatIndexes]
      constructor
      · rintro ⟨seat, hseat, heligible, hindex⟩
        exact eq_of_seatIndex_eq hkeys hold hseat hindex ▸ heligible
      · exact fun heligible => ⟨old, hold, heligible, rfl⟩
    have hlen := hlength (clearSeat old)
    rw [List.count_append] at hlen
    rw [hlen]
    by_cases heligible : isSeatEligibleForHand old
    · rw [if_pos heligible]
      have hone : order.count (clearSeat old).seatIndex = 1 :=
        List.count_eq_one_of_mem hnodup (hmem.mpr heligible)
      rw [hone]
      rfl
    · rw [if_neg heligible]
      have hzero : order.count (clearSeat old).seatIndex = 0 :=
        List.count_eq_zero_of_not_mem (hmem.not.mpr heligible)
      rw [hzero]
      rfl
  have hseats : withCards.seats = state.seats.map fun old =>
      { clearSeat old with holeCards := cards (clearSeat old) } := by
    rw [hwith]
    simp [openHand]
  constructor
  · constructor
    · have hheld := hdealt.held
      have hnone : (state.openHand sha256 fairnessSeed (state.nextHandSeed sha256 fairnessSeed)
          shuffled dealer smallBlind bigBlind).heldCards = [] := by
        simp [heldCards, openHand, clearSeat]
      rw [hnone, List.nil_append] at hheld
      rw [hwith] at hheld ⊢
      simpa [openHand] using hheld
    · rw [hwith]
      rcases hdealt.enough with hnone | hle
      · rw [hnone]
        exact Nat.zero_le _
      · exact hle
    · intro row hrow
      rw [hseats] at hrow
      obtain ⟨old, hold, rfl⟩ := List.mem_map.mp hrow
      have hlen := hcount old hold
      by_cases heligible : isSeatEligibleForHand old
      · exact .inr (by rw [hlen, if_pos heligible])
      · exact .inl (List.length_eq_zero_iff.mp (by rw [hlen, if_neg heligible]))
  · intro row hrow
    rw [hseats] at hrow
    obtain ⟨old, hold, rfl⟩ := List.mem_map.mp hrow
    have hlen := hcount old hold
    rw [inHand_clearSeat, ← List.length_pos_iff, hlen]
    by_cases heligible : isSeatEligibleForHand old <;> simp [heligible]
  · rw [hwith]
    exact ⟨.preflop, rfl, by simp, rfl⟩

theorem postBlind_inHand (amount : Int) (label : String) (hactive : seat.status = .active) :
    (postBlind amount label seat).holeCards = seat.holeCards ∧
      (isSeatInHand (postBlind amount label seat) ↔ isSeatInHand seat) := by
  have hin : isSeatInHand seat := .inl hactive
  unfold postBlind postFromStack isSeatInHand at *
  split
  · exact ⟨rfl, Iff.rfl⟩
  · refine ⟨rfl, fun _ => hin, fun _ => ?_⟩
    simp only [hactive]
    split <;> simp

theorem postBlinds_sameHands (hkeys : state.HasSeatKeys) (hready : state.BlindsReady) :
    SameHands state state.postBlinds := by
  rcases hready with hnone | ⟨small, hsmall, big, hbig, hsmallActive, hbigActive, hne, hsmallIndex,
    hbigIndex⟩
  · have hsame : state.postBlinds = state := by simp [postBlinds, hnone]
    rw [hsame]
    exact ⟨.refl _, fun row hrow => .inr ⟨row, hrow, rfl, Iff.rfl⟩⟩
  · rw [postBlinds_eq hkeys hsmall hbig hne hsmallIndex hbigIndex]
    obtain ⟨hsmallCards, hsmallIn⟩ := postBlind_inHand state.smallBlind "Small blind" hsmallActive
    obtain ⟨hbigCards, hbigIn⟩ := postBlind_inHand state.bigBlind "Big blind" hbigActive
    have hfirst := sameHands_updateSeat hkeys hsmall hsmallCards hsmallIn
    have hkeys' : (state.updateSeat small.seatIndex
        (postBlind state.smallBlind "Small blind")).HasSeatKeys :=
      hkeys.updateSeat fun _ => postBlind_seatIndex _ _ _
    have hbig' : big ∈ (state.updateSeat small.seatIndex
        (postBlind state.smallBlind "Small blind")).seats :=
      (mem_updateSeat hkeys hsmall).mpr (.inr ⟨hbig, hne.symm⟩)
    have hsecond := sameHands_updateSeat hkeys' hbig' hbigCards hbigIn
    have hboth := hfirst.trans hsecond
    exact ⟨hboth.held, hboth.hands⟩

/-! ## Around the hands -/

theorem Dealt.touched (h : Dealt state) (htouched : Reseated Touched state next) : Dealt next := by
  have hsame : SameHands state next := by
    refine sameHands_reseated htouched ?_ ?_
    all_goals
      rintro a _ ⟨_, _, rfl⟩
      rfl
  obtain ⟨g, -, rfl⟩ := htouched
  exact h.same hsame rfl rfl rfl rfl

theorem Dealt.joined {newcomer : Newcomer} {seatIndex : Nat} (h : Dealt state) : Dealt
    { state with seats := sortSeatsByIndex (state.seats ++ [seatOf newcomer seatIndex]) } := by
  have hout : ¬isSeatInHand (seatOf newcomer seatIndex) := by simp [isSeatInHand, seatOf]
  have hsame : SameHands state
      { state with seats := sortSeatsByIndex (state.seats ++ [seatOf newcomer seatIndex]) } := by
    refine ⟨?_, fun row hrow => ?_⟩
    · have hperm := (sortSeatsByIndex_perm (state.seats ++ [seatOf newcomer seatIndex])).flatMap_right
        Seat.holeCards
      simpa [heldCards, seatOf] using hperm
    · rcases mem_joined.mp hrow with hrow | rfl
      · exact .inr ⟨row, hrow, rfl, Iff.rfl⟩
      · exact .inl ⟨rfl, hout⟩
  exact h.same hsame rfl rfl rfl rfl

theorem flatMap_filter_of_eq_nil {α β : Type} {rows : List α} {keep : α → Bool} {w : α → List β}
    (h : ∀ row ∈ rows, keep row = false → w row = []) :
    (rows.filter keep).flatMap w = rows.flatMap w := by
  induction rows with
  | nil => rfl
  | cons row rows ih =>
      have hrest := ih fun r hr => h r (by simp [hr])
      cases hkeep : keep row with
      | true => rw [List.filter_cons_of_pos hkeep, List.flatMap_cons, List.flatMap_cons, hrest]
      | false =>
          rw [List.filter_cons_of_neg (by simp [hkeep]), List.flatMap_cons,
            h row (by simp) hkeep, List.nil_append, hrest]

theorem Dealt.left {seatIndex : Nat} (h : Dealt state) (hkeys : state.HasSeatKeys)
    (hfind : state.findSeatByIndex seatIndex = some seat) (hout : ¬isSeatInHand seat) :
    Dealt { state with seats := state.seats.filter fun row => row.seatIndex ≠ seatIndex } := by
  have hseat := mem_seats_of_find hfind
  have hsame : SameHands state
      { state with seats := state.seats.filter fun row => row.seatIndex ≠ seatIndex } := by
    refine ⟨.of_eq (flatMap_filter_of_eq_nil fun row hrow hgone => ?_), fun row hrow =>
      .inr ⟨row, List.mem_of_mem_filter hrow, rfl, Iff.rfl⟩⟩
    have hindex : row.seatIndex = seatIndex := by simpa using hgone
    have hrowSeat : row = seat := eq_of_seatIndex_eq hkeys hseat hrow
      (hindex.trans (seatIndex_of_find hfind).symm)
    by_contra hcards
    exact hout (hrowSeat ▸ (h.inHand row hrow).mpr hcards)
  exact h.same hsame rfl rfl rfl rfl

end Table

end RewardSystem.Holdem
