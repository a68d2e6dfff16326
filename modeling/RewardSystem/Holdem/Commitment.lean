import RewardSystem.Holdem.Dealing

/-!
# Commitment and reveal of the deck

A hand opens with the commitment to its seed and plays with the deck that the seed shuffles. The seed
comes out when the hand is settled.
-/

namespace RewardSystem.Holdem

open ApiError Transition

/-- `published` commits to `handSeed`, which shuffles the cards into `deck`. -/
structure Commits (sha256 : HashFunction) (handSeed : String) (published : HandFairness)
    (deck : List Card) : Prop where
  seed_ne : handSeed ≠ ""
  commit : (sha256.digest handSeed).hex = published.commitHash
  unrevealed : published.revealSeed = none
  shuffle : ∃ shuffled, shuffleHoldemDeck sha256 handSeed = .ok shuffled ∧ shuffled.deck = deck ∧
    shuffled.deckDigest = published.deckDigest

namespace Table

variable {sha256 : HashFunction} {now : Int} {state next : Table} {seat : Seat} {prior : Int}
  {handSeed : String} {published : HandFairness}

/-- A hand in play whose seed is hidden. -/
structure Hidden (sha256 : HashFunction) (handSeed : String) (published : HandFairness)
    (state : Table) : Prop where
  dealt : Dealt state
  seed : state.fairnessSeed = some handSeed
  fairness : state.fairness = some published
  commits : Commits sha256 handSeed published state.deck

/-- A hand that was settled and has published its seed. -/
structure Revealed (sha256 : HashFunction) (handSeed : String) (published : HandFairness)
    (state : Table) : Prop where
  exists_fairness : ∃ fairness, state.fairness = some fairness ∧
    fairness.revealSeed = some handSeed ∧ fairness.commitHash = published.commitHash ∧
    fairness.deckDigest = published.deckDigest
  commits : Commits sha256 handSeed published state.deck

theorem Hidden.move (h : Hidden sha256 handSeed published state) (hturn : Turn prior state seat)
    (hmove : Move state seat next) : Hidden sha256 handSeed published next := by
  have hdealt := h.dealt.move hturn hmove
  cases hmove with
  | fold _ => exact ⟨hdealt, h.seed, h.fairness, h.commits⟩
  | check _ hcheck =>
      obtain ⟨-, rfl⟩ := applyCheck_eq_ok.mp hcheck
      exact ⟨hdealt, h.seed, h.fairness, h.commits⟩
  | post _ _ => exact ⟨hdealt, h.seed, h.fairness, h.commits⟩

theorem Hidden.street (h : Hidden sha256 handSeed published state)
    (hstreet : StreetDealt state next) : Hidden sha256 handSeed published next := by
  have hdealt := h.dealt.street hstreet
  obtain ⟨_, _, _, _, -, -, hdeal, rfl⟩ := hstreet.exists_deal
  obtain ⟨-, rfl⟩ := dealCommunityCards_eq_ok.mp hdeal
  exact ⟨hdealt, h.seed, h.fairness, h.commits⟩

theorem hidden_keptInPlay : KeptInPlay (Hidden sha256 handSeed published) where
  move := fun h hturn hmove => h.move hturn hmove
  street := fun h _ _ _ hstreet => h.street hstreet

/-- **The reveal.** A settlement publishes the seed beside the commitment of the start. -/
theorem Hidden.settles (h : Hidden sha256 handSeed published state)
    (hsettles : Settles now state next) : Revealed sha256 handSeed published next := by
  obtain ⟨paid, stage, potAmount, revealed, winners, pots, ⟨g, -, rfl⟩, rfl⟩ := hsettles.exists_paid
  refine ⟨?_, h.commits⟩
  unfold closeHand revealHoldemFairness
  simp only [h.seed, h.fairness, revealSeed, if_neg h.commits.seed_ne]
  exact ⟨_, rfl, rfl, rfl, rfl⟩

theorem Revealed.raked {restacked : Table} {pots : List Pot} {hands : List RecentHand}
    (h : Revealed sha256 handSeed published state) (hraked : Reseated Restacked state restacked) :
    Revealed sha256 handSeed published
      { restacked with resolvedPots := pots, recentHands := hands } := by
  obtain ⟨g, -, rfl⟩ := hraked
  exact ⟨h.exists_fairness, h.commits⟩

theorem Hidden.touched (h : Hidden sha256 handSeed published state)
    (htouched : Reseated Touched state next) : Hidden sha256 handSeed published next := by
  have hdealt := h.dealt.touched htouched
  obtain ⟨g, -, rfl⟩ := htouched
  exact ⟨hdealt, h.seed, h.fairness, h.commits⟩

theorem Hidden.left {seatIndex : Nat} (h : Hidden sha256 handSeed published state)
    (hkeys : state.HasSeatKeys) (hfind : state.findSeatByIndex seatIndex = some seat)
    (hout : ¬isSeatInHand seat) : Hidden sha256 handSeed published
      { state with seats := state.seats.filter fun row => row.seatIndex ≠ seatIndex } :=
  ⟨h.dealt.left hkeys hfind hout, h.seed, h.fairness, h.commits⟩

/-! ## The opening -/

variable {fairnessSeed : FairnessSeedInput} {dealer : Nat} {smallBlind bigBlind : Option Nat}
  {shuffled : ShuffledDeck} {withCards : Table}

theorem postBlinds_frame (state : Table) : ∃ seats bet,
    state.postBlinds = { state with seats := seats, currentBet := bet } := by
  unfold postBlinds
  split
  · split
    · exact ⟨_, _, rfl⟩
    · exact ⟨state.seats, state.currentBet, rfl⟩
  · exact ⟨state.seats, state.currentBet, rfl⟩

theorem Opens.commits (hkeys : state.HasSeatKeys)
    (h : Opens sha256 state fairnessSeed dealer smallBlind bigBlind shuffled withCards) :
    withCards.fairnessSeed = some (state.nextHandSeed sha256 fairnessSeed) ∧
      ∃ published, withCards.fairness = some published ∧
        Commits sha256 (state.nextHandSeed sha256 fairnessSeed) published withCards.deck := by
  obtain ⟨order, -, hdealt⟩ := h.dealtTo hkeys
  obtain ⟨cards, hwith, -⟩ := hdealt.exists_cards
  rw [hwith]
  exact ⟨rfl, _, rfl, sha256.hex_ne_empty _, rfl, rfl, shuffled, h.shuffle, rfl, rfl⟩

theorem dealHand_hidden (hkeys : state.HasSeatKeys) (hbigBlind : 0 ≤ state.bigBlind)
    (h : state.dealHand sha256 fairnessSeed = .ok next) : ∃ published,
      Hidden sha256 (state.nextHandSeed sha256 fairnessSeed) published next := by
  obtain ⟨dealer, smallBlind, bigBlind, shuffled, withCards, hopens, rfl⟩ := dealHand_eq_ok.mp h
  obtain ⟨hbetting, -, hready⟩ := hopens.betting hkeys hbigBlind
  obtain ⟨hseed, published, hpublished, hcommits⟩ := hopens.commits hkeys
  have hsame := postBlinds_sameHands hbetting.keys hready
  obtain ⟨seats, bet, hposted⟩ := withCards.postBlinds_frame
  have hdealt : Dealt withCards.postBlinds := by
    refine (hopens.dealt hkeys).same hsame ?_ ?_ ?_ ?_ <;> rw [hposted]
  refine ⟨published, ⟨⟨⟨hdealt.out, hdealt.index_le, hdealt.pairs⟩, hdealt.inHand, hdealt.board⟩,
    ?_, ?_, ?_⟩⟩
  · change withCards.postBlinds.fairnessSeed = _
    rw [hposted]
    exact hseed
  · change withCards.postBlinds.fairness = _
    rw [hposted]
    exact hpublished
  · change Commits sha256 _ published withCards.postBlinds.deck
    rw [hposted]
    exact hcommits

/-! ## Over runs -/

/-- The cards and the commitment of a table: hidden in a hand, revealed after it. -/
def Accountable (sha256 : HashFunction) (state : Table) : Prop :=
  (state.status = .active → ∃ handSeed published, Hidden sha256 handSeed published state) ∧
    (state.status = .waiting → state.fairness = none ∨
      ∃ handSeed published, Revealed sha256 handSeed published state)

theorem Hidden.accountable (h : Hidden sha256 handSeed published state)
    (hactive : state.status = .active) : Accountable sha256 state :=
  ⟨fun _ => ⟨handSeed, published, h⟩, fun hwaiting =>
    absurd (hactive.symm.trans hwaiting) (by simp)⟩

theorem accountable_kept : Kept sha256 (Accountable sha256) where
  move := by
    intro prior state next seat h hturn hmove
    obtain ⟨handSeed, published, hhidden⟩ := h.1 hturn.status
    exact (hhidden.move hturn hmove).accountable (hmove.status.trans hturn.status)
  street := by
    intro prior state next h _ hactive _ hstreet
    obtain ⟨handSeed, published, hhidden⟩ := h.1 hactive
    exact (hhidden.street hstreet).accountable (hstreet.status.trans hactive)
  opens := by
    intro rest dealt fairnessSeed _ hkeys hbigBlind hdeal
    obtain ⟨published, hhidden⟩ := dealHand_hidden hkeys hbigBlind hdeal
    exact hhidden.accountable (dealHand_status hdeal)
  settled := by
    intro prior now state next h _ hactive hending hwaiting
    obtain ⟨handSeed, published, hhidden⟩ := h.1 hactive
    refine ⟨fun hstill => absurd (hwaiting.symm.trans hstill) (by simp), fun _ => .inr ?_⟩
    rcases hending.settles with ⟨rfl, -⟩ | hsettles
    · exact absurd (hwaiting.symm.trans hactive) (by simp)
    · exact ⟨handSeed, published, hhidden.settles hsettles⟩
  raked := by
    intro state restacked pots hands h hwaiting hraked
    have hstatus : restacked.status = .waiting := by
      obtain ⟨g, -, rfl⟩ := hraked
      exact hwaiting
    refine ⟨fun hactive => absurd (hstatus.symm.trans hactive) (by simp), fun _ => ?_⟩
    rcases h.2 hwaiting with hnone | ⟨handSeed, published, hrevealed⟩
    · obtain ⟨g, -, rfl⟩ := hraked
      exact .inl hnone
    · exact .inr ⟨handSeed, published, hrevealed.raked hraked⟩
  touched := by
    intro state next h htouched
    refine ⟨fun hactive => ?_, fun hwaiting => ?_⟩
    · have hbefore : state.status = .active := by
        obtain ⟨g, -, rfl⟩ := htouched
        exact hactive
      obtain ⟨handSeed, published, hhidden⟩ := h.1 hbefore
      exact ⟨handSeed, published, hhidden.touched htouched⟩
    · obtain ⟨g, -, rfl⟩ := htouched
      rcases h.2 hwaiting with hnone | ⟨handSeed, published, hrevealed⟩
      · exact .inl hnone
      · exact .inr ⟨handSeed, published, hrevealed.exists_fairness, hrevealed.commits⟩
  joined := by
    intro state newcomer seatIndex h _ _ _ _
    refine ⟨fun hactive => ?_, fun hwaiting => ?_⟩
    · obtain ⟨handSeed, published, hhidden⟩ := h.1 hactive
      exact ⟨handSeed, published, hhidden.dealt.joined, hhidden.seed, hhidden.fairness,
        hhidden.commits⟩
    · rcases h.2 hwaiting with hnone | ⟨handSeed, published, hrevealed⟩
      · exact .inl hnone
      · exact .inr ⟨handSeed, published, hrevealed.exists_fairness, hrevealed.commits⟩
  left := by
    intro state seat seatIndex h hkeys hfind hleave
    refine ⟨fun hactive => ?_, fun hwaiting => ?_⟩
    · obtain ⟨handSeed, published, hhidden⟩ := h.1 hactive
      exact ⟨handSeed, published, hhidden.left hkeys hfind fun hin => hleave ⟨hactive, hin⟩⟩
    · rcases h.2 hwaiting with hnone | ⟨handSeed, published, hrevealed⟩
      · exact .inl hnone
      · exact .inr ⟨handSeed, published, hrevealed.exists_fairness, hrevealed.commits⟩
  cleared := fun _ _ => ⟨fun hactive => absurd hactive (by simp [resetSettledBoardState]),
    fun _ => .inl rfl⟩

theorem Reachable.accountable (h : Reachable sha256 state) : Accountable sha256 state :=
  (h.holds (fun _ hs => ⟨fun hactive => absurd (hs.waiting.symm.trans hactive) (by simp),
    fun _ => .inl hs.fairness⟩) accountable_kept).inv

theorem Reachable.dealt (h : Reachable sha256 state) (hactive : state.status = .active) :
    Dealt state ∧ state.deck.Perm deckTemplate := by
  obtain ⟨handSeed, published, hhidden⟩ := h.accountable.1 hactive
  obtain ⟨shuffled, hshuffled, hdeck, -⟩ := hhidden.commits.shuffle
  exact ⟨hhidden.dealt, hdeck ▸ deck_perm_of_shuffle hshuffled⟩

/-! ## Over a hand -/

/-- A hand that is played with the deck of `handSeed`, or has been. -/
structure PlayedWith (sha256 : HashFunction) (handSeed : String) (published : HandFairness)
    (state : Table) : Prop where
  sound : Sound state
  hidden : state.status = .active → Hidden sha256 handSeed published state
  revealed : state.status = .waiting → Revealed sha256 handSeed published state ∧ Cards state

theorem Hidden.playedWith (h : Hidden sha256 handSeed published state) (hsound : Sound state)
    (hactive : state.status = .active) : PlayedWith sha256 handSeed published state :=
  ⟨hsound, fun _ => h, fun hwaiting => absurd (hactive.symm.trans hwaiting) (by simp)⟩

theorem Hidden.ending (h : Hidden sha256 handSeed published state) (hbetting : Betting prior state)
    (hactive : state.status = .active) (hending : Ending now state next) :
    PlayedWith sha256 handSeed published next := by
  have hsound := hbetting.ending hactive hending
  rcases hending.settles with ⟨rfl, -⟩ | hsettles
  · exact h.playedWith hsound hactive
  · have hwaiting := hsettles.idle.1
    exact ⟨hsound, fun hstill => absurd (hwaiting.symm.trans hstill) (by simp), fun _ =>
      ⟨h.settles hsettles, h.dealt.toCards.settles hsettles⟩⟩

theorem Cards.raked {restacked : Table} {pots : List Pot} {hands : List RecentHand}
    (h : Cards state) (hraked : Reseated Restacked state restacked) :
    Cards { restacked with resolvedPots := pots, recentHands := hands } := by
  have hsame : SameHands state restacked := by
    refine sameHands_reseated hraked ?_ ?_
    all_goals
      rintro a _ ⟨_, rfl⟩
      rfl
  obtain ⟨g, -, rfl⟩ := hraked
  exact h.same ⟨hsame.held, hsame.hands⟩ rfl rfl rfl

theorem PlayedWith.step (h : PlayedWith sha256 handSeed published state)
    (hactive : state.status = .active) (hnext : Stepped sha256 state next) :
    PlayedWith sha256 handSeed published next := by
  have hsound := h.sound.step hnext
  have hhidden := h.hidden hactive
  cases hnext with
  | stays => exact h
  | started hstart =>
      obtain ⟨dealt, hdealt, -⟩ := startHoldemHand_eq_ok.mp hstart
      obtain ⟨_, _, _, _, _, hopens, -⟩ := dealHand_eq_ok.mp hdealt
      exact absurd hactive hopens.waiting
  | @acted _ _ _ _ configured after hact =>
      obtain ⟨prior, hbetting⟩ := h.sound.hand hactive
      obtain ⟨last, prior', hlast, hbetting', hlastActive, hending⟩ :=
        hidden_keptInPlay.act hhidden hbetting hact
      have hafter := hlast.ending hbetting' hlastActive hending
      obtain ⟨restacked, pots, hands, hrestacked, hraked, hsame⟩ :=
        takeRake_restacked after configured
      cases hstatus : after.status with
      | active =>
          have hunraked : (after.takeRake configured).1 = after :=
            hsame fun hsettled => absurd (hstatus.symm.trans hsettled.1) (by simp)
          rw [hunraked]
          exact hafter
      | waiting =>
          obtain ⟨hrevealed, hcards⟩ := hafter.revealed hstatus
          refine ⟨hsound, fun hstill => ?_, fun _ => ?_⟩
          · rw [hraked] at hstill
            obtain ⟨g, -, rfl⟩ := hrestacked
            exact absurd (hstatus.symm.trans hstill) (by simp)
          · rw [hraked]
            exact ⟨hrevealed.raked hrestacked, hcards.raked hrestacked⟩
  | touched htouched =>
      have hstill : next.status = .active := by
        obtain ⟨g, -, rfl⟩ := htouched
        exact hactive
      exact (hhidden.touched htouched).playedWith hsound hstill
  | joined newcomer seatIndex _ _ _ =>
      have hjoined : Hidden sha256 handSeed published
          { state with seats := sortSeatsByIndex (state.seats ++ [seatOf newcomer seatIndex]) } :=
        ⟨hhidden.dealt.joined, hhidden.seed, hhidden.fairness, hhidden.commits⟩
      exact hjoined.playedWith hsound hactive
  | @left seat seatIndex hfind hleave =>
      have hleft := hhidden.left h.sound.keys hfind fun hin => hleave ⟨hactive, hin⟩
      have hseats : state.seats.filter (fun row => row.seatIndex ≠ seatIndex) ≠ [] := by
        obtain ⟨prior, hbetting⟩ := h.sound.hand hactive
        obtain ⟨leader, hleader, -⟩ :=
          (hbetting.leave hfind fun hin => hleave ⟨hactive, hin⟩).leader
        exact List.ne_nil_of_mem hleader
      have hsame : ({ state with
          seats := state.seats.filter fun row => row.seatIndex ≠ seatIndex
        } : Table).clearTableAfterCashout = { state with
          seats := state.seats.filter fun row => row.seatIndex ≠ seatIndex } := if_neg hseats
      rw [hsame] at hsound ⊢
      exact hleft.playedWith hsound hactive

def dealtSeats (state : Table) : List Seat :=
  state.seats.filter fun seat => seat.holeCards ≠ []

/-- The cards that are out are the first `nextCardIndex` cards of `deck`. -/
structure CardsOut (deck : List Card) (state : Table) : Prop where
  deck_eq : state.deck = deck
  out : (state.dealtSeats.flatMap Seat.holeCards ++ state.communityCards).Perm
    (deck.take state.nextCardIndex)
  disjoint : (state.dealtSeats.flatMap Seat.holeCards ++ state.communityCards).Nodup
  nextCardIndex_eq : state.nextCardIndex =
    2 * state.dealtSeats.length + state.communityCards.length

theorem Cards.cardsOut (h : Cards state) (hperm : state.deck.Perm deckTemplate) :
    CardsOut state.deck state := by
  have hheld : state.dealtSeats.flatMap Seat.holeCards = state.heldCards :=
    flatMap_filter_of_eq_nil fun row _ hnone => by simpa using hnone
  have hlength : (state.dealtSeats.flatMap Seat.holeCards).length =
      2 * state.dealtSeats.length := by
    have hpairs : ∀ seat ∈ state.dealtSeats, seat.holeCards.length = 2 := by
      intro seat hseat
      obtain ⟨hmem, hcards⟩ := List.mem_filter.mp hseat
      exact (h.pairs seat hmem).resolve_left (by simpa using hcards)
    rw [List.length_flatMap, List.map_congr_left hpairs, List.map_const', List.sum_replicate_nat,
      Nat.mul_comm]
  have hout := h.out
  rw [← hheld] at hout
  refine ⟨rfl, hout, ?_, ?_⟩
  · refine hout.nodup_iff.mpr (List.Nodup.sublist (List.take_sublist _ _) ?_)
    exact hperm.nodup_iff.mpr deckTemplate_nodup
  · have hsize := hout.length_eq
    rw [List.length_append, hlength, List.length_take, min_eq_left h.index_le] at hsize
    exact hsize.symm

/-- **The deck is committed to.** Every seed shuffles the 52 cards. From the start of a hand to its
settlement the cards that are out are the top of one deck, whose seed stays hidden until the
settlement; then it fits the commitment of the start and shuffles the same deck again. -/
theorem cards_match_commitment {rest started : Table} {events : List (Event Table Operation)}
    (hrest : Reachable sha256 rest)
    (hstart : rest.startHoldemHand sha256 now fairnessSeed = .ok started)
    (hrun : Run (Accepts (step sha256)) started events state)
    (hhand : ∀ e ∈ events, e.before.status = .active) :
    (∀ seed, ∃ shuffled, shuffleHoldemDeck sha256 seed = .ok shuffled ∧
      shuffled.deck.Perm deckTemplate) ∧
    (deckTemplate.Nodup ∧ deckTemplate.length = 52) ∧
    ∃ handSeed shuffled published fairness,
      shuffleHoldemDeck sha256 handSeed = .ok shuffled ∧ CardsOut shuffled.deck state ∧
      started.fairness = some published ∧ state.fairness = some fairness ∧
      (sha256.digest handSeed).hex = published.commitHash ∧
      fairness.commitHash = published.commitHash ∧ fairness.deckDigest = shuffled.deckDigest ∧
      (state.status = .active → fairness.revealSeed = none ∧
        ∀ seat ∈ state.seats, isSeatInHand seat ↔ seat ∈ state.dealtSeats) ∧
      (state.status = .waiting → fairness.revealSeed = some handSeed) := by
  refine ⟨shuffleHoldemDeck_perm sha256, ⟨deckTemplate_nodup, deckTemplate_length⟩, ?_⟩
  have hsound := hrest.sound
  obtain ⟨dealt, hdealt, hprogress⟩ := startHoldemHand_eq_ok.mp hstart
  obtain ⟨published, hhidden⟩ := dealHand_hidden hsound.keys hsound.bigBlind_nonneg hdealt
  obtain ⟨last, prior, hlast, hbetting, hactive, hending⟩ := hidden_keptInPlay.progression hhidden
    (dealHand_betting hsound.keys hsound.bigBlind_nonneg hdealt) (dealHand_status hdealt) hprogress
  have hstarted := hlast.ending hbetting hactive hending
  have hstate : PlayedWith sha256 _ published state :=
    (hrun.invariant_of_forall (C := fun e => e.before.status = .active)
      (fun _ _ _ hu hstep hactive => hu.step hactive (step_cases hstep)) hstarted hhand).2
  obtain ⟨shuffled, hshuffled, hdeck, hdigest⟩ := hhidden.commits.shuffle
  have hpublished : ∃ first, started.fairness = some first ∧
      first.commitHash = published.commitHash := by
    cases hstatus : started.status with
    | active => exact ⟨published, (hstarted.hidden hstatus).fairness, rfl⟩
    | waiting =>
        obtain ⟨first, hfirst, -, hcommit, -⟩ := (hstarted.revealed hstatus).1.exists_fairness
        exact ⟨first, hfirst, hcommit⟩
  obtain ⟨first, hfirst, hcommit⟩ := hpublished
  -- the digests of the deck agree because both come from the same seed
  have hdeck_eq : ∀ deck, Commits sha256 (rest.nextHandSeed sha256 fairnessSeed) published deck →
      deck = shuffled.deck := by
    rintro _ ⟨-, -, -, shuffled', hshuffled', rfl, -⟩
    rw [Except.ok.inj (hshuffled'.symm.trans hshuffled)]
  cases hstatus : state.status with
  | active =>
      have h := hstate.hidden hstatus
      have hsame := hdeck_eq _ h.commits
      have hcards := h.dealt.toCards.cardsOut (hsame ▸ deck_perm_of_shuffle hshuffled)
      refine ⟨_, shuffled, first, published, hshuffled, hsame ▸ hcards, hfirst, h.fairness,
        hhidden.commits.commit.trans hcommit.symm, hcommit.symm, hdigest.symm, fun _ =>
        ⟨h.commits.unrevealed, fun seat hseat => ?_⟩, fun hwaiting => by cases hwaiting⟩
      rw [h.dealt.inHand seat hseat]
      simp [dealtSeats, hseat]
  | waiting =>
      obtain ⟨h, hcards⟩ := hstate.revealed hstatus
      obtain ⟨fairness, hfairness, hreveal, hcommit', hdigest'⟩ := h.exists_fairness
      have hsame := hdeck_eq _ h.commits
      have hout := hcards.cardsOut (hsame ▸ deck_perm_of_shuffle hshuffled)
      exact ⟨_, shuffled, first, fairness, hshuffled, hsame ▸ hout, hfirst, hfairness,
        hhidden.commits.commit.trans hcommit.symm, hcommit'.trans hcommit.symm,
        hdigest'.trans hdigest.symm, fun hactive => (by cases hactive), fun _ => hreveal⟩

/-- Two players; the one on the button folds. -/
theorem cards_match_commitment_fold :
    ∃ rest started state : Table, ∃ events : List (Event Table Operation),
      Reachable zeroHash rest ∧ rest.startHoldemHand zeroHash 0 sampleSeed = .ok started ∧
      Run (Accepts (step zeroHash)) started events state ∧ state.status = .waiting ∧
      ∃ handSeed shuffled fairness, shuffleHoldemDeck zeroHash handSeed = .ok shuffled ∧
        CardsOut shuffled.deck state ∧ state.fairness = some fairness ∧
        fairness.revealSeed = some handSeed := by
  let rest := createdTable .cash [samplePlayer 7 5000, samplePlayer 8 5000]
  let settles (started : Table) : Bool :=
    match trace (step zeroHash) started [.act 0 .fold .missing sampleRake 0] with
    | .ok (events, last) =>
        events.all (fun e => e.before.status = .active) && last.status = .waiting
    | .error _ => false
  have hrest : Reachable zeroHash rest :=
    ⟨rest, [], createdTable_fresh .cash (by decide) (by decide), .nil rest⟩
  have hplayed : ∃ started, rest.startHoldemHand zeroHash 0 sampleSeed = .ok started ∧
      settles started = true := @exists_ok_of_check _ _ settles (by decide +kernel)
  obtain ⟨started, hstart, hsettles⟩ := hplayed
  cases htrace : trace (step zeroHash) started [.act 0 .fold .missing sampleRake 0] with
  | error e => simp [settles, htrace] at hsettles
  | ok result =>
      obtain ⟨events, state⟩ := result
      have hcheck : (∀ e ∈ events, e.before.status = .active) ∧ state.status = .waiting := by
        simpa [settles, htrace] using hsettles
      obtain ⟨-, -, handSeed, shuffled, published, fairness, hshuffled, hout, -, hfairness, -, -, -, -,
        hreveal⟩ := cards_match_commitment hrest hstart (.of_trace htrace) hcheck.1
      exact ⟨rest, started, state, events, hrest, hstart, .of_trace htrace, hcheck.2, handSeed,
        shuffled, fairness, hshuffled, hout, hfairness, hreveal hcheck.2⟩

end Table

end RewardSystem.Holdem
