import RewardSystem.Holdem.ShownHands
import RewardSystem.Holdem.Views

/-!
# What a viewer cannot see

The views depend on the cards of a seat only where it is the viewer's own or revealed. The best hand
of a seat is shown unmasked, and is there only for seats that are revealed.
-/

namespace RewardSystem.Holdem

open ApiError

/-- Other hole cards, and another best hand. -/
def Recarded (before after : Seat) : Prop :=
  ∃ holeCards bestHand, after = { before with holeCards := holeCards, bestHand := bestHand }

theorem Recarded.seatIndex {seat row : Seat} (h : Recarded seat row) :
    row.seatIndex = seat.seatIndex := by
  obtain ⟨_, _, rfl⟩ := h
  rfl

namespace Table

variable {sha256 : HashFunction} {now : Int} {state next other : Table} {seat row : Seat}
  {prior : Int} {viewer : Nat} {f : Seat → Seat} {deck : List Card} {handSeed : Option String}

/-! ## Views of a table with other cards -/

/-- The table with other cards. -/
def recard (state : Table) (f : Seat → Seat) (deck : List Card) (handSeed : Option String) : Table :=
  { state with seats := state.seats.map f, deck := deck, fairnessSeed := handSeed }

theorem sortSeatsByIndex_map (hf : ∀ seat, Recarded seat (f seat)) (seats : List Seat) :
    sortSeatsByIndex (seats.map f) = (sortSeatsByIndex seats).map f := by
  have hsame : ∀ a ∈ seats, ∀ b ∈ seats,
      a.seatIndex ≤ b.seatIndex ↔ (f a).seatIndex ≤ (f b).seatIndex := by
    intro a _ b _
    rw [(hf a).seatIndex, (hf b).seatIndex]
  exact (List.map_insertionSort (fun left right : Seat => left.seatIndex ≤ right.seatIndex)
    (fun left right : Seat => left.seatIndex ≤ right.seatIndex) f seats hsame).symm

theorem filter_map_of_iff {p : Seat → Bool} (hp : ∀ seat, p (f seat) = p seat) (seats : List Seat) :
    (seats.map f).filter p = (seats.filter p).map f := by
  rw [List.filter_map]
  have hsame : p ∘ f = p := funext hp
  rw [hsame]

theorem findSeatByIndex_recard (hf : ∀ seat, Recarded seat (f seat)) (i : Nat) :
    (state.recard f deck handSeed).findSeatByIndex i = (state.findSeatByIndex i).map f := by
  unfold findSeatByIndex Keyed.lookup recard
  rw [List.find?_map]
  have hsame : (fun seat : Seat => decide (seat.seatIndex = i)) ∘ f =
      fun seat => decide (seat.seatIndex = i) := by
    funext seat
    simp only [Function.comp_apply, (hf seat).seatIndex]
  rw [hsame]

theorem listEligibleSeats_recard (hf : ∀ seat, Recarded seat (f seat)) :
    (state.recard f deck handSeed).listEligibleSeats = state.listEligibleSeats.map f := by
  unfold listEligibleSeats recard
  rw [sortSeatsByIndex_map hf]
  refine filter_map_of_iff (fun seat => ?_) _
  obtain ⟨_, _, heq⟩ := hf seat
  rw [heq]
  rfl

theorem listEligibleHumanSeats_recard (hf : ∀ seat, Recarded seat (f seat)) :
    (state.recard f deck handSeed).listEligibleHumanSeats =
      state.listEligibleHumanSeats.map f := by
  unfold listEligibleHumanSeats
  rw [listEligibleSeats_recard hf]
  refine filter_map_of_iff (fun seat => ?_) _
  obtain ⟨_, _, heq⟩ := hf seat
  rw [heq]
  rfl

theorem isSolo_recard (hf : ∀ seat, Recarded seat (f seat)) :
    (state.recard f deck handSeed).isSoloHoldemState ↔ state.isSoloHoldemState := by
  unfold isSoloHoldemState
  rw [listEligibleSeats_recard hf, List.length_map]
  rfl

theorem buildPendingPotViews_recard (hf : ∀ seat, Recarded seat (f seat)) :
    (state.recard f deck handSeed).buildPendingPotViews = state.buildPendingPotViews := by
  have htotal : ∀ seat, (f seat).totalCommittedAmount = seat.totalCommittedAmount := by
    intro seat
    obtain ⟨_, _, heq⟩ := hf seat
    rw [heq]
  have hstatus : ∀ seat, (f seat).status = seat.status := by
    intro seat
    obtain ⟨_, _, heq⟩ := hf seat
    rw [heq]
  have hcontributing : (state.recard f deck handSeed).contributingSeats =
      state.contributingSeats.map f := by
    unfold contributingSeats recard
    rw [sortSeatsByIndex_map hf]
    exact filter_map_of_iff (fun seat => by rw [htotal]) _
  have hlevels : (state.recard f deck handSeed).contributionLevels = state.contributionLevels := by
    unfold contributionLevels
    rw [hcontributing, List.map_map]
    congr 2
    exact List.map_congr_left fun seat _ => htotal seat
  have hviews : ∀ (seats : List Seat) (low : Int) (index : Nat) (levels : List Int),
      potViews (seats.map f) low index levels = potViews seats low index levels := by
    intro seats low index levels
    induction levels generalizing low index with
    | nil => rfl
    | cons level levels ih =>
        have hinvolved : (seats.map f).filter (fun seat => level ≤ seat.totalCommittedAmount) =
            (seats.filter fun seat => level ≤ seat.totalCommittedAmount).map f :=
          filter_map_of_iff (fun seat => by rw [htotal]) _
        have heligible : ∀ rows : List Seat,
            ((rows.map f).filter fun seat => seat.status ≠ .folded).map Seat.seatIndex =
              (rows.filter fun seat => seat.status ≠ .folded).map Seat.seatIndex := by
          intro rows
          rw [filter_map_of_iff fun seat => by rw [hstatus], List.map_map]
          exact List.map_congr_left fun seat _ => (hf seat).seatIndex
        unfold potViews
        simp only [hinvolved, List.length_map, heligible, ih]
  unfold buildPendingPotViews
  rw [hlevels, hcontributing, hviews]

theorem resolveHoldemActionAvailability_recard (hf : ∀ seat, Recarded seat (f seat)) (i : Nat) :
    (state.recard f deck handSeed).resolveHoldemActionAvailability i =
      state.resolveHoldemActionAvailability i := by
  unfold resolveHoldemActionAvailability
  rw [findSeatByIndex_recard hf]
  cases state.findSeatByIndex i with
  | none => rfl
  | some seat =>
      obtain ⟨_, _, heq⟩ := hf seat
      have hactions : (state.recard f deck handSeed).availableActions (f seat) =
          state.availableActions seat := by
        unfold availableActions
        simp only [isSolo_recard hf]
        rw [heq]
        rfl
      simp only [Option.map_some, hactions]
      rw [heq]
      rfl

theorem resolveHoldemTimeoutAction_recard (hf : ∀ seat, Recarded seat (f seat)) (i : Nat) :
    (state.recard f deck handSeed).resolveHoldemTimeoutAction i =
      state.resolveHoldemTimeoutAction i := by
  unfold resolveHoldemTimeoutAction
  rw [resolveHoldemActionAvailability_recard hf]

theorem pendingActorDeadlineAt_recard (hf : ∀ seat, Recarded seat (f seat)) :
    (state.recard f deck handSeed).pendingActorDeadlineAt = state.pendingActorDeadlineAt := by
  unfold pendingActorDeadlineAt
  have hpending : (state.recard f deck handSeed).pendingActorSeatIndex =
      state.pendingActorSeatIndex := rfl
  rw [hpending]
  cases state.pendingActorSeatIndex with
  | none => rfl
  | some i =>
      simp only [Option.bind_some, findSeatByIndex_recard hf]
      cases state.findSeatByIndex i with
      | none => rfl
      | some seat =>
          obtain ⟨_, _, heq⟩ := hf seat
          simp only [Option.map_some, Option.bind_some, heq]

theorem pendingActorTimeoutAction_recard (hf : ∀ seat, Recarded seat (f seat)) :
    (state.recard f deck handSeed).pendingActorTimeoutAction =
      state.pendingActorTimeoutAction := by
  unfold pendingActorTimeoutAction
  have hsame : (state.recard f deck handSeed).resolveHoldemTimeoutAction =
      state.resolveHoldemTimeoutAction := funext fun i => resolveHoldemTimeoutAction_recard hf i
  rw [hsame]
  rfl

theorem shownPots_recard (hf : ∀ seat, Recarded seat (f seat)) :
    (state.recard f deck handSeed).shownPots = state.shownPots := by
  unfold shownPots
  rw [buildPendingPotViews_recard hf]
  rfl

theorem canStartHoldemTable_recard (hf : ∀ seat, Recarded seat (f seat)) :
    (state.recard f deck handSeed).canStartHoldemTable = state.canStartHoldemTable := by
  unfold canStartHoldemTable
  rw [listEligibleSeats_recard hf, listEligibleHumanSeats_recard hf, List.length_map,
    List.length_map]
  rfl

theorem heroSeatIndex_recard (hf : ∀ seat, Recarded seat (f seat)) :
    (state.recard f deck handSeed).heroSeatIndex viewer = state.heroSeatIndex viewer := by
  unfold heroSeatIndex recard
  rw [List.find?_map]
  have hsame : (fun seat : Seat => decide (seat.userId = viewer)) ∘ f =
      fun seat => decide (seat.userId = viewer) := by
    funext seat
    obtain ⟨_, _, heq⟩ := hf seat
    simp only [Function.comp_apply, heq]
  rw [hsame, Option.map_map]
  congr 1
  funext seat
  exact (hf seat).seatIndex

theorem serializeHoldemTable_recard (hf : ∀ seat, Recarded seat (f seat))
    (hview : ∀ seat ∈ state.seats, ∀ i,
      (state.recard f deck handSeed).takenSeatView now viewer i (f seat) =
        state.takenSeatView now viewer i seat) :
    (state.recard f deck handSeed).serializeHoldemTable now viewer =
      state.serializeHoldemTable now viewer := by
  have hseats : ((state.recard f deck handSeed).serializeHoldemTable now viewer).seats =
      (state.serializeHoldemTable now viewer).seats := by
    refine List.map_congr_left fun i _ => ?_
    rw [findSeatByIndex_recard hf]
    cases hfind : state.findSeatByIndex i with
    | none => rfl
    | some seat => exact hview seat (mem_seats_of_find hfind) i
  have havailable : (state.recard f deck handSeed).resolveHoldemActionAvailability =
      state.resolveHoldemActionAvailability :=
    funext fun i => resolveHoldemActionAvailability_recard hf i
  unfold serializeHoldemTable
  rw [shownPots_recard hf, heroSeatIndex_recard hf, pendingActorDeadlineAt_recard hf,
    pendingActorTimeoutAction_recard hf, havailable]
  exact congrArg (fun seats => { state.serializeHoldemTable now viewer with seats := seats }) hseats

theorem serializeHoldemRealtimeTable_recard (hf : ∀ seat, Recarded seat (f seat))
    (hview : ∀ seat ∈ state.seats,
      (state.recard f deck handSeed).buildRealtimeSeatSnapshot now (f seat) =
        state.buildRealtimeSeatSnapshot now seat) :
    (state.recard f deck handSeed).serializeHoldemRealtimeTable now =
      state.serializeHoldemRealtimeTable now := by
  have hseats : (sortSeatsByIndex (state.recard f deck handSeed).seats).map
        ((state.recard f deck handSeed).buildRealtimeSeatSnapshot now) =
      (sortSeatsByIndex state.seats).map (state.buildRealtimeSeatSnapshot now) := by
    unfold recard at hview ⊢
    rw [sortSeatsByIndex_map hf, List.map_map]
    exact List.map_congr_left fun seat hseat => hview seat (mem_sortSeatsByIndex.mp hseat)
  have hlength : (state.recard f deck handSeed).seats.length = state.seats.length :=
    List.length_map _
  unfold serializeHoldemRealtimeTable
  rw [shownPots_recard hf, pendingActorDeadlineAt_recard hf, pendingActorTimeoutAction_recard hf,
    canStartHoldemTable_recard hf, hlength, hseats]
  rfl

/-! ## Concealed cards -/

/-- The viewer sees the cards of a seat: they are the viewer's own or revealed. -/
def Sees (viewer : Nat) (revealed : List Nat) (seat : Seat) : Prop :=
  seat.userId = viewer ∨ seat.seatIndex ∈ revealed

instance (viewer : Nat) (revealed : List Nat) (seat : Seat) : Decidable (Sees viewer revealed seat) :=
  inferInstanceAs (Decidable (_ ∨ _))

/-- A seat as the viewer can tell it from others: as many cards, but any. -/
def concealSeat (viewer : Nat) (revealed : List Nat) (seat : Seat) : Seat :=
  if Sees viewer revealed seat then seat
  else
    { seat with
      holeCards := List.replicate seat.holeCards.length { rank := .two, suit := .spades }
      bestHand := none }

def conceal (viewer : Nat) (state : Table) : Table :=
  state.recard (concealSeat viewer state.revealedSeatIndexes) [] none

theorem recarded_concealSeat (viewer : Nat) (revealed : List Nat) (seat : Seat) :
    Recarded seat (concealSeat viewer revealed seat) := by
  unfold concealSeat
  split
  · exact ⟨_, _, rfl⟩
  · exact ⟨_, _, rfl⟩

theorem map_hidden_toCardView (cards : List Card) (card : Card) :
    (List.replicate cards.length card).map (fun card => toCardView card true) =
      cards.map fun card => toCardView card true := by
  have hconst : (fun card => toCardView card true) =
      Function.const Card { rank := none, suit := none, hidden := true } := rfl
  rw [hconst, List.map_replicate, List.map_const]
  rfl

theorem takenSeatView_conceal (hcards : SeatCards state seat) (i : Nat) :
    (state.conceal viewer).takenSeatView now viewer i
        (concealSeat viewer state.revealedSeatIndexes seat) =
      state.takenSeatView now viewer i seat := by
  unfold concealSeat
  split
  case isTrue => rfl
  case isFalse hunseen =>
    have hbest : seat.bestHand = none := by
      by_contra hsome
      exact hunseen (.inr (hcards.best hsome).2)
    have hhidden : ¬(seat.userId = viewer ∨ seat.seatIndex ∈ state.revealedSeatIndexes) := hunseen
    have hviews : ∀ cards : List Card, (state.conceal viewer).buildSeatViewCards viewer
        { seat with holeCards := cards, bestHand := none } =
          cards.map fun card => toCardView card true := by
      intro cards
      simp [buildSeatViewCards, conceal, recard, hhidden]
    have hview : state.buildSeatViewCards viewer seat =
        seat.holeCards.map fun card => toCardView card true := by
      simp [buildSeatViewCards, hhidden]
    unfold takenSeatView
    rw [hviews, hview, map_hidden_toCardView, hbest]
    simp only [inHandOrDealt, List.length_replicate]
    rfl

theorem buildRealtimeSeatSnapshot_conceal (seat : Seat) :
    (state.conceal viewer).buildRealtimeSeatSnapshot now
        (concealSeat viewer state.revealedSeatIndexes seat) =
      state.buildRealtimeSeatSnapshot now seat := by
  unfold concealSeat
  split
  case isTrue => rfl
  case isFalse hunseen =>
    have hhidden : seat.seatIndex ∉ state.revealedSeatIndexes := fun hmem => hunseen (.inr hmem)
    unfold buildRealtimeSeatSnapshot
    simp only [conceal, recard, hhidden, if_false, inHandOrDealt, List.length_replicate]
    rfl

theorem views_conceal (now : Int) (viewer : Nat) (h : Reachable sha256 state) :
    (state.conceal viewer).serializeHoldemTable now viewer =
        state.serializeHoldemTable now viewer ∧
      (state.conceal viewer).serializeHoldemRealtimeTable now =
        state.serializeHoldemRealtimeTable now :=
  ⟨serializeHoldemTable_recard (recarded_concealSeat viewer _) fun seat hseat i =>
      takenSeatView_conceal (h.seatCards seat hseat) i,
    serializeHoldemRealtimeTable_recard (recarded_concealSeat viewer _) fun seat _ =>
      buildRealtimeSeatSnapshot_conceal seat⟩

/-! ## Tables that look alike -/

/-- Two seats that differ at most in cards that the viewer does not see. -/
def AlikeSeats (viewer : Nat) (revealed : List Nat) (seat row : Seat) : Prop :=
  row = seat ∨ (¬Sees viewer revealed seat ∧
    row = { seat with holeCards := row.holeCards, bestHand := row.bestHand })

instance (viewer : Nat) (revealed : List Nat) (seat row : Seat) :
    Decidable (AlikeSeats viewer revealed seat row) :=
  inferInstanceAs (Decidable (_ ∨ _))

/-- Two tables that differ at most in the deck, in the seed, and in hole cards (with the best hands
they make) that are neither revealed nor the viewer's own. -/
structure Alike (viewer : Nat) (state other : Table) : Prop where
  frame : other = { state with
    seats := other.seats, deck := other.deck, fairnessSeed := other.fairnessSeed }
  seats : List.Forall₂ (AlikeSeats viewer state.revealedSeatIndexes) state.seats other.seats

theorem length_holeCards_eq (hcards : SeatCards state seat) (hrow : SeatCards other row)
    (hstatus : other.status = state.status) (hlast : row.lastAction = seat.lastAction)
    (hin : isSeatInHand row ↔ isSeatInHand seat) :
    row.holeCards.length = seat.holeCards.length := by
  have hsame : seat.holeCards = [] ↔ row.holeCards = [] := by
    cases hactive : state.status with
    | active =>
        exact not_iff_not.mp (((hcards.inHand hactive).symm.trans hin.symm).trans
          (hrow.inHand (hstatus.trans hactive)))
    | waiting =>
        constructor
        · intro hnone
          by_contra hheld
          have hstill := (hrow.yetToAct hheld (hlast.trans (hcards.idle hnone))).1
          exact absurd ((hstatus.trans hactive).symm.trans hstill) (by simp)
        · intro hnone
          by_contra hheld
          have hstill := (hcards.yetToAct hheld (hlast.symm.trans (hrow.idle hnone))).1
          exact absurd (hactive.symm.trans hstill) (by simp)
  rcases hcards.pairs with hnone | htwo
  · rw [hnone, hsame.mp hnone]
  · have hheld : row.holeCards ≠ [] := fun hnone => by simp [hsame.mpr hnone] at htwo
    rw [htwo, hrow.pairs.resolve_left hheld]

theorem concealSeat_eq (hcards : SeatCards state seat) (hrow : SeatCards other row)
    (hstatus : other.status = state.status)
    (h : AlikeSeats viewer state.revealedSeatIndexes seat row) :
    concealSeat viewer state.revealedSeatIndexes row =
      concealSeat viewer state.revealedSeatIndexes seat := by
  rcases h with rfl | ⟨hunseen, hrecarded⟩
  · rfl
  · have hlast : row.lastAction = seat.lastAction := by rw [hrecarded]
    have hin : isSeatInHand row ↔ isSeatInHand seat := by rw [hrecarded]; rfl
    have hlength := length_holeCards_eq hcards hrow hstatus hlast hin
    have hunseen' : ¬Sees viewer state.revealedSeatIndexes row := by
      rw [hrecarded]
      exact hunseen
    unfold concealSeat
    rw [if_neg hunseen, if_neg hunseen', hlength]
    rw [hrecarded]

theorem Alike.conceal_eq (h : Alike viewer state other) (hstate : Reachable sha256 state)
    (hother : Reachable sha256 other) : other.conceal viewer = state.conceal viewer := by
  have hstatus : other.status = state.status := by rw [h.frame]
  have hrevealed : other.revealedSeatIndexes = state.revealedSeatIndexes := by rw [h.frame]
  have hseats : ∀ {seats rows : List Seat},
      List.Forall₂ (AlikeSeats viewer state.revealedSeatIndexes) seats rows →
      (∀ seat ∈ seats, SeatCards state seat) → (∀ row ∈ rows, SeatCards other row) →
      rows.map (concealSeat viewer state.revealedSeatIndexes) =
        seats.map (concealSeat viewer state.revealedSeatIndexes) := by
    intro seats rows halike hseats hrows
    induction halike with
    | nil => rfl
    | @cons seat row seats rows hfirst hrest ih =>
        rw [List.map_cons, List.map_cons,
          concealSeat_eq (hseats seat (by simp)) (hrows row (by simp)) hstatus hfirst,
          ih (fun s hs => hseats s (by simp [hs])) fun r hr => hrows r (by simp [hr])]
  unfold conceal recard
  rw [hrevealed, hseats h.seats hstate.seatCards hother.seatCards]
  rw [h.frame]

/-- **Views hide the cards.** Two reachable tables that differ at most in cards which the viewer does
not see, in the deck and in the seed look the same, to the viewer and to everybody. -/
theorem views_hide (hstate : Reachable sha256 state) (hother : Reachable sha256 other)
    (h : Alike viewer state other) :
    other.serializeHoldemTable now viewer = state.serializeHoldemTable now viewer ∧
      other.serializeHoldemRealtimeTable now = state.serializeHoldemRealtimeTable now := by
  obtain ⟨hview, hpublic⟩ := views_conceal now viewer hstate
  obtain ⟨hview', hpublic'⟩ := views_conceal now viewer hother
  rw [h.conceal_eq hstate hother] at hview' hpublic'
  exact ⟨hview'.symm.trans hview, hpublic'.symm.trans hpublic⟩

/-- A hash function under which two seeds shuffle two decks that differ in one card of seat 1. -/
def twoDeckHash : HashFunction where
  digest := fun text =>
    { hex := if text = "holdem-hand-seed-v1:one:1:1:7,8" then "0" else "00"
      readUInt32BE := if text = "0:swap:4" then 4 else 0 }
  hex_ne_empty := by
    intro text
    dsimp only
    split <;> decide

/-- The two decks of `twoDeckHash`. -/
def firstDeck : ShuffledDeck :=
  { deck := deckTemplate.rotate 1, deckDigest := "00", rngDigest := "00" }

def secondDeck : ShuffledDeck :=
  let deck := deckTemplate.rotate 1
  { firstDeck with
    deck := deck.take 3 ++ (deck.drop 4).take 1 ++ (deck.drop 3).take 1 ++ deck.drop 5 }

def sameDeck (shuffled found : ShuffledDeck) : Bool :=
  found.deck = shuffled.deck ∧ found.deckDigest = shuffled.deckDigest ∧
    found.rngDigest = shuffled.rngDigest

theorem shuffles_to {handSeed : String} {shuffled : ShuffledDeck}
    (h : (match shuffleHoldemDeck twoDeckHash handSeed with
      | .ok found => sameDeck shuffled found
      | .error _ => false) = true) :
    shuffleHoldemDeck twoDeckHash handSeed = .ok shuffled := by
  cases hfound : shuffleHoldemDeck twoDeckHash handSeed with
  | error e => simp [hfound] at h
  | ok found =>
      have hsame : sameDeck shuffled found = true := by simpa [hfound] using h
      obtain ⟨_, _, _⟩ := found
      obtain ⟨rfl, rfl, rfl⟩ := of_decide_eq_true hsame
      rfl

def headsUpTable : Table :=
  createdTable .cash [samplePlayer 7 5000, samplePlayer 8 5000]

/-- The first hand of two players, once the deck is shuffled. -/
def headsUpHand (handSeed : String) (shuffled : ShuffledDeck) : Except ApiError Table := do
  let withCards ← (headsUpTable.openHand twoDeckHash sampleSeed handSeed shuffled 0 (some 0)
    (some 1)).dealHoleCards (headsUpTable.resolveDealOrder 0)
  (withCards.postBlinds.firstTurn 0).resolveTerminalAndStreetProgression 0 .preflop

theorem headsUpHand_reachable {seed handSeed : String} {shuffled : ShuffledDeck}
    (hseed : deriveHoldemHandSeed twoDeckHash seed 1 1 [7, 8] = handSeed)
    (hshuffle : shuffleHoldemDeck twoDeckHash handSeed = .ok shuffled)
    (h : headsUpHand handSeed shuffled = .ok state) : Reachable twoDeckHash state := by
  obtain ⟨withCards, hcards, hprogress⟩ := bind_eq_ok.mp h
  have hnext : headsUpTable.nextHandSeed twoDeckHash { sampleSeed with seed := seed } = handSeed :=
    hseed
  have hopens : Opens twoDeckHash headsUpTable { sampleSeed with seed := seed } 0 (some 0) (some 1)
      shuffled withCards :=
    { waiting := by decide
      enough := by decide
      human := by decide
      nextDealer := by decide
      blindSeats := rfl
      shuffle := hnext.symm ▸ hshuffle
      cards := hnext.symm ▸ hcards }
  have hdeal := dealHand_eq_ok.mpr ⟨_, _, _, _, _, hopens, rfl⟩
  have hstep : headsUpTable.step twoDeckHash (.start { sampleSeed with seed := seed } 0) = .ok state :=
    startHoldemHand_eq_ok.mpr ⟨_, hdeal, hprogress⟩
  exact ⟨headsUpTable, _, createdTable_fresh .cash (by decide) (by decide), .cons hstep (.nil _)⟩

/-- The tables look alike to the viewer and still differ. -/
def differ (viewer : Nat) (state other : Table) : Bool :=
  other = { state with
    seats := other.seats, deck := other.deck, fairnessSeed := other.fairnessSeed } ∧
  List.Forall₂ (AlikeSeats viewer state.revealedSeatIndexes) state.seats other.seats ∧
  other.seats ≠ state.seats

def differsFromSecond (viewer : Nat) (state : Table) : Bool :=
  match headsUpHand "0" secondDeck with
  | .ok other => differ viewer state other
  | .error _ => false

/-- The viewer plays seat 0 and does not see which of two cards seat 1 holds. -/
theorem views_hide_headsUp :
    ∃ state other : Table, Reachable twoDeckHash state ∧ Reachable twoDeckHash other ∧
      Alike 7 state other ∧ other.seats ≠ state.seats ∧
      other.serializeHoldemTable 0 7 = state.serializeHoldemTable 0 7 ∧
      other.serializeHoldemRealtimeTable 0 = state.serializeHoldemRealtimeTable 0 := by
  have hfirst : ∃ state, headsUpHand "00" firstDeck = .ok state ∧ differsFromSecond 7 state = true :=
    @exists_ok_of_check _ (headsUpHand "00" firstDeck) (differsFromSecond 7) (by decide +kernel)
  obtain ⟨state, hstate, hdiffers⟩ := hfirst
  have hsecond : ∃ other, headsUpHand "0" secondDeck = .ok other ∧ differ 7 state other = true := by
    unfold differsFromSecond at hdiffers
    cases hother : headsUpHand "0" secondDeck with
    | error e => simp [hother] at hdiffers
    | ok other => exact ⟨other, rfl, by simpa [hother] using hdiffers⟩
  obtain ⟨other, hother, hdiffer⟩ := hsecond
  obtain ⟨hframe, hseats, hne⟩ := of_decide_eq_true hdiffer
  have hreachable : Reachable twoDeckHash state :=
    @headsUpHand_reachable _ "two" _ _ (by decide +kernel) (shuffles_to (by decide +kernel)) hstate
  have hreachable' : Reachable twoDeckHash other :=
    @headsUpHand_reachable _ "one" _ _ (by decide +kernel) (shuffles_to (by decide +kernel)) hother
  have halike : Alike 7 state other := ⟨hframe, hseats⟩
  obtain ⟨hview, hpublic⟩ := @views_hide _ 0 _ _ 7 hreachable hreachable' halike
  exact ⟨state, other, hreachable, hreachable', halike, hne, hview, hpublic⟩

end Table

end RewardSystem.Holdem
