import Mathlib.Data.List.Perm.Subperm
import RewardSystem.Holdem.Commitment
import RewardSystem.Holdem.TurnOrder

/-!
# No stuck hand and no false offer

Whatever action a seat makes, the hand can move on: the deck has enough cards, a showdown has a hand
for every contender, and every pot has a winner. So what is offered to the seat whose turn it is, is
accepted.
-/

namespace RewardSystem.Holdem

open ApiError Loop

namespace Table

variable {sha256 : HashFunction} {now : Int} {state next : Table} {seat : Seat} {prior : Int}
  {action : Action} {amount : AmountInput}

/-! ## The size of the table -/

structure Roomy (state : Table) : Prop where
  maxSeats_le : state.maxSeats ≤ 9
  bigBlind_pos : 0 < state.bigBlind
  seats_lt : ∀ seat ∈ state.seats, seat.seatIndex < state.maxSeats

theorem Roomy.length_le (h : Roomy state) (hkeys : state.HasSeatKeys) : state.seats.length ≤ 9 := by
  have hsub : state.seats.map Seat.seatIndex ⊆ List.range state.maxSeats := by
    intro i hi
    obtain ⟨seat, hseat, rfl⟩ := List.mem_map.mp hi
    exact List.mem_range.mpr (h.seats_lt seat hseat)
  calc state.seats.length
      = (state.seats.map Seat.seatIndex).length := (List.length_map _).symm
    _ ≤ (List.range state.maxSeats).length := (List.Nodup.subperm hkeys hsub).length_le
    _ = state.maxSeats := List.length_range
    _ ≤ 9 := h.maxSeats_le

theorem Roomy.mono (h : Roomy state) (hmax : next.maxSeats = state.maxSeats)
    (hbigBlind : next.bigBlind = state.bigBlind)
    (hseats : ∀ row ∈ next.seats, ∃ old ∈ state.seats, row.seatIndex = old.seatIndex) :
    Roomy next where
  maxSeats_le := hmax ▸ h.maxSeats_le
  bigBlind_pos := hbigBlind ▸ h.bigBlind_pos
  seats_lt := by
    intro row hrow
    obtain ⟨old, hold, hindex⟩ := hseats row hrow
    rw [hindex, hmax]
    exact h.seats_lt old hold

theorem Roomy.map {f : Seat → Seat} (h : Roomy state) (hmax : next.maxSeats = state.maxSeats)
    (hbigBlind : next.bigBlind = state.bigBlind) (hseats : next.seats = state.seats.map f)
    (hf : ∀ row : Seat, (f row).seatIndex = row.seatIndex) : Roomy next := by
  refine h.mono hmax hbigBlind fun row hrow => ?_
  rw [hseats] at hrow
  obtain ⟨old, hold, rfl⟩ := List.mem_map.mp hrow
  exact ⟨old, hold, hf old⟩

theorem Move.seatIndexes (hmove : Move state seat next) :
    ∃ f : Seat → Seat, next.seats = state.seats.map f ∧
      (∀ row : Seat, (f row).seatIndex = row.seatIndex) ∧ next.maxSeats = state.maxSeats ∧
      next.bigBlind = state.bigBlind := by
  have hkeep : ∀ (f : Seat → Seat), (∀ row : Seat, (f row).seatIndex = row.seatIndex) →
      ∀ row : Seat, (if row.seatIndex = seat.seatIndex then f row else row).seatIndex =
        row.seatIndex := by
    intro f hf row
    split
    · exact hf row
    · rfl
  cases hmove with
  | fold _ => exact ⟨_, rfl, hkeep _ fun _ => rfl, rfl, rfl⟩
  | check _ hcheck =>
      obtain ⟨-, rfl⟩ := applyCheck_eq_ok.mp hcheck
      exact ⟨_, rfl, hkeep _ fun _ => rfl, rfl, rfl⟩
  | post posting _ => exact ⟨_, rfl, hkeep (postSeat posting) fun _ => by simp [postSeat], rfl, rfl⟩

theorem postBlinds_seatIndexes (state : Table) :
    ∃ f : Seat → Seat, state.postBlinds.seats = state.seats.map f ∧
      (∀ row : Seat, (f row).seatIndex = row.seatIndex) ∧
      state.postBlinds.maxSeats = state.maxSeats ∧
      state.postBlinds.bigBlind = state.bigBlind := by
  unfold postBlinds
  split
  · split
    · refine ⟨_, List.map_map, fun row => ?_, rfl, rfl⟩
      simp only [Function.comp_apply]
      split <;> split <;> simp
    · exact ⟨fun row => row, by simp, fun _ => rfl, rfl, rfl⟩
  · exact ⟨fun row => row, by simp, fun _ => rfl, rfl, rfl⟩

theorem roomy_keptInPlay : KeptInPlay Roomy where
  move := by
    intro prior state next seat h _ hmove
    obtain ⟨f, hseats, hf, hmax, hbigBlind⟩ := hmove.seatIndexes
    exact h.map hmax hbigBlind hseats hf
  street := by
    intro prior state next h _ _ _ hstreet
    obtain ⟨_, _, _, _, -, -, hdeal, rfl⟩ := hstreet.exists_deal
    obtain ⟨-, rfl⟩ := dealCommunityCards_eq_ok.mp hdeal
    exact h.map rfl rfl rfl fun _ => rfl

theorem roomy_kept : Kept sha256 Roomy where
  toKeptInPlay := roomy_keptInPlay
  opens := by
    intro rest dealt fairnessSeed h _ _ hdeal
    obtain ⟨dealer, smallBlind, bigBlind, shuffled, withCards, hopens, rfl⟩ :=
      dealHand_eq_ok.mp hdeal
    obtain ⟨cards, n, hwith⟩ := hopens.seats
    have hcards : Roomy withCards := by
      rw [hwith]
      exact h.map rfl rfl rfl fun _ => rfl
    obtain ⟨f, hseats, hf, hmax, hbigBlind⟩ := withCards.postBlinds_seatIndexes
    exact hcards.map hmax hbigBlind hseats hf
  settled := by
    intro prior now state next h _ _ hending _
    rcases hending.settles with ⟨rfl, -⟩ | hsettles
    · exact h
    · obtain ⟨paid, _, _, _, _, _, ⟨g, hg, rfl⟩, rfl⟩ := hsettles.exists_paid
      have hpaid : Roomy { state with seats := state.seats.map g } :=
        h.map rfl rfl rfl fun row => (hg row).seatIndex
      exact hpaid.map rfl rfl rfl fun _ => rfl
  raked := by
    intro state restacked pots hands h _ hraked
    obtain ⟨g, hg, rfl⟩ := hraked
    refine h.map rfl rfl rfl fun row => ?_
    obtain ⟨_, heq⟩ := hg row
    rw [heq]
  touched := by
    intro state next h htouched
    obtain ⟨g, hg, rfl⟩ := htouched
    refine h.map rfl rfl rfl fun row => ?_
    obtain ⟨_, _, heq⟩ := hg row
    rw [heq]
    rfl
  joined := by
    intro state newcomer seatIndex h _ _ hlt _
    refine ⟨h.maxSeats_le, h.bigBlind_pos, fun row hrow => ?_⟩
    rcases mem_joined.mp hrow with hrow | rfl
    · exact h.seats_lt row hrow
    · exact hlt
  left := by
    intro state seat seatIndex h _ _ _
    exact ⟨h.maxSeats_le, h.bigBlind_pos, fun row hrow =>
      h.seats_lt row (List.mem_of_mem_filter hrow)⟩
  cleared := fun h hempty => ⟨h.maxSeats_le, h.bigBlind_pos, fun row hrow => by
    have hnone : row ∈ ([] : List Seat) := hempty ▸ hrow
    cases hnone⟩

theorem Reachable.roomy (h : Reachable sha256 state) : Roomy state :=
  (h.holds (fun _ hs => ⟨hs.maxSeats_le, hs.bigBlind_pos, fun seat hseat => by
    obtain ⟨_, -, hlt, -⟩ := hs.seats seat hseat
    exact hlt⟩) roomy_kept).inv

/-! ## The hand can move on -/

/-- The cards and the room of a hand. -/
structure Playable (state : Table) : Prop where
  dealt : Dealt state
  deck_perm : state.deck.Perm deckTemplate
  roomy : Roomy state

theorem playable_keptInPlay : KeptInPlay Playable where
  move := by
    intro prior state next seat h hturn hmove
    refine ⟨h.dealt.move hturn hmove, ?_, roomy_keptInPlay.move h.roomy hturn hmove⟩
    cases hmove with
    | fold _ => exact h.deck_perm
    | check _ hcheck =>
        obtain ⟨-, rfl⟩ := applyCheck_eq_ok.mp hcheck
        exact h.deck_perm
    | post _ _ => exact h.deck_perm
  street := by
    intro prior state next h hbetting hactive hround hstreet
    refine ⟨h.dealt.street hstreet, ?_,
      roomy_keptInPlay.street h.roomy hbetting hactive hround hstreet⟩
    obtain ⟨_, _, _, _, -, -, hdeal, rfl⟩ := hstreet.exists_deal
    obtain ⟨-, rfl⟩ := dealCommunityCards_eq_ok.mp hdeal
    exact h.deck_perm

theorem dealNextStreet_accepts (now : Int) (h : Playable state) (hkeys : state.HasSeatKeys)
    (hriver : state.stage ≠ some .river) : ∃ next, state.dealNextStreet now = .ok next := by
  obtain ⟨current, hcurrent, hshowdown, hboard⟩ := h.dealt.board
  obtain ⟨count, stage, hnext⟩ : ∃ count stage, nextStreet current = some (count, stage) := by
    cases current with
    | preflop => exact ⟨_, _, rfl⟩
    | flop => exact ⟨_, _, rfl⟩
    | turn => exact ⟨_, _, rfl⟩
    | river => exact absurd hcurrent hriver
    | showdown => exact absurd rfl hshowdown
  have henough : state.nextCardIndex + count ≤ state.deck.length := by
    have hindex := (h.dealt.toCards.cardsOut h.deck_perm).nextCardIndex_eq
    have hseats : state.dealtSeats.length ≤ 9 :=
      (List.length_filter_le _ _).trans (h.roomy.length_le hkeys)
    have hstreet := (boardLength_nextStreet hnext).1
    have hfive : stage.boardLength ≤ 5 := by cases stage <;> decide
    have hdeck : state.deck.length = 52 := h.deck_perm.length_eq.trans deckTemplate_length
    omega
  unfold dealNextStreet
  simp only [hcurrent, hnext]
  exact ⟨_, bind_eq_ok.mpr ⟨_, dealCommunityCards_eq_ok.mpr ⟨.inr henough, rfl⟩, rfl⟩⟩

theorem showHands_accepts (seats : List Seat) (state : Table)
    (hboard : 5 ≤ state.communityCards.length) :
    ∃ shown bestHands, showHands seats state = .ok (shown, bestHands) ∧
      bestHands.map Prod.fst = seats.map Seat.seatIndex := by
  induction seats generalizing state with
  | nil => exact ⟨state, [], rfl, rfl⟩
  | cons seat seats ih =>
      obtain ⟨best, hbest⟩ := evaluateBestHoldemHand_isOk (seat.holeCards ++ state.communityCards)
        (by rw [List.length_append]; omega)
      obtain ⟨shown, bestHands, hshown, hindexes⟩ := ih (state.updateSeat seat.seatIndex fun seat =>
        { seat with bestHand := some best.hand }) hboard
      refine ⟨shown, (seat.seatIndex, best) :: bestHands, ?_, by simp [hindexes]⟩
      exact bind_eq_ok.mpr ⟨best, hbest, bind_eq_ok.mpr ⟨_, hshown, rfl⟩⟩

theorem exists_bestHandOf {bestHands : BestHands} {i : Nat} (h : i ∈ bestHands.map Prod.fst) :
    ∃ best, bestHandOf bestHands i = some best := by
  obtain ⟨row, hrow, rfl⟩ := List.mem_map.mp h
  unfold bestHandOf
  cases hlookup : Keyed.lookup Prod.fst row.1 bestHands with
  | none => exact absurd rfl (Keyed.lookup_eq_none.mp hlookup row hrow)
  | some found => exact ⟨found.2, rfl⟩

theorem foldlM_contend_accepts {bestHands : BestHands} (contenders : List Seat)
    (best : List Nat × BestHandEvaluation)
    (h : ∀ seat ∈ contenders, seat.seatIndex ∈ bestHands.map Prod.fst) :
    ∃ winners, contenders.foldlM (contend bestHands) best = .ok winners := by
  induction contenders generalizing best with
  | nil => exact ⟨best, rfl⟩
  | cons seat contenders ih =>
      obtain ⟨hand, hhand⟩ := exists_bestHandOf (h seat (by simp))
      obtain ⟨next, hnext⟩ : ∃ next, contend bestHands best seat = .ok next := by
        unfold contend
        rw [hhand]
        exact ⟨_, rfl⟩
      obtain ⟨winners, hwinners⟩ := ih next fun s hs => h s (by simp [hs])
      exact ⟨winners, bind_eq_ok.mpr ⟨next, hnext, hwinners⟩⟩

theorem resolvePot_accepts {bestHands : BestHands} (state : Table) {pot : Pot}
    (h : ∀ i ∈ pot.eligibleSeatIndexes, i ∈ bestHands.map Prod.fst) :
    ∃ result, resolvePot bestHands state pot = .ok result := by
  have hknown : ∀ seat ∈ state.eligibleSeats pot, seat.seatIndex ∈ bestHands.map Prod.fst := by
    intro seat hseat
    obtain ⟨i, hi, hfind⟩ := List.mem_filterMap.mp (List.mem_of_mem_filter hseat)
    exact seatIndex_of_find hfind ▸ h i hi
  unfold resolvePot
  split
  · exact ⟨_, rfl⟩
  case h_2 first contenders heligible =>
    rw [heligible] at hknown
    obtain ⟨best, hbest⟩ := exists_bestHandOf (hknown first (by simp))
    simp only [hbest]
    obtain ⟨winners, hwinners⟩ := foldlM_contend_accepts contenders ([first.seatIndex], best)
      fun seat hseat => hknown seat (by simp [hseat])
    exact ⟨_, bind_eq_ok.mpr ⟨winners, hwinners, rfl⟩⟩

theorem resolvePots_accepts {bestHands : BestHands} (pots : List Pot) (state : Table)
    (h : ∀ pot ∈ pots, ∀ i ∈ pot.eligibleSeatIndexes, i ∈ bestHands.map Prod.fst) :
    ∃ result, resolvePots bestHands pots state = .ok result := by
  induction pots generalizing state with
  | nil => exact ⟨_, rfl⟩
  | cons pot pots ih =>
      obtain ⟨first, hfirst⟩ := resolvePot_accepts state (h pot (by simp))
      obtain ⟨rest, hrest⟩ := ih first.1 fun p hp => h p (by simp [hp])
      exact ⟨_, bind_eq_ok.mpr ⟨first, hfirst, bind_eq_ok.mpr ⟨rest, hrest, rfl⟩⟩⟩

theorem Betting.eligible_shows (h : Betting prior state) {pot : Pot}
    (hpot : pot ∈ state.buildPendingPotViews) {i : Nat} (hi : i ∈ pot.eligibleSeatIndexes) :
    i ∈ state.listNonFoldedSeats.map Seat.seatIndex := by
  obtain ⟨level, -, heq⟩ := exists_level_of_mem_potViews hpot
  rw [heq] at hi
  obtain ⟨seat, hseat, rfl⟩ := List.mem_map.mp hi
  simp only [potSeats, List.mem_filter, decide_eq_true_eq, mem_contributingSeats] at hseat
  obtain ⟨⟨⟨hmem, hpos⟩, -⟩, hstatus⟩ := hseat
  have hin : isSeatInHand seat := by
    by_contra hout
    have := (h.level seat hmem).outside hout
    omega
  exact List.mem_map_of_mem (mem_listNonFoldedSeats.mpr ⟨hmem, hstatus, hin⟩)

theorem Betting.nonFolded_ne_nil (h : Betting prior state) : state.listNonFoldedSeats ≠ [] := by
  obtain ⟨leader, hleader, hleads⟩ := h.leader
  exact List.ne_nil_of_mem (mem_listNonFoldedSeats.mpr ⟨hleader, hleads.nonFolded⟩)

theorem settleShowdown_accepts (now : Int) (h : Betting prior state)
    (hboard : 5 ≤ state.communityCards.length) :
    ∃ settled, state.settleShowdown now = .ok settled := by
  obtain ⟨shown, bestHands, hshown, hindexes⟩ :=
    showHands_accepts state.listNonFoldedSeats state hboard
  have hknown : ∀ pot ∈ state.buildPendingPotViews, ∀ i ∈ pot.eligibleSeatIndexes,
      i ∈ bestHands.map Prod.fst := fun pot hpot i hi => hindexes ▸ h.eligible_shows hpot hi
  obtain ⟨paid, hpaid⟩ := resolvePots_accepts state.buildPendingPotViews shown hknown
  unfold settleShowdown
  simp only [if_neg h.nonFolded_ne_nil]
  exact ⟨_, bind_eq_ok.mpr ⟨_, hshown, bind_eq_ok.mpr ⟨_, hpaid, rfl⟩⟩⟩

theorem settleByFold_accepts (now : Int) (h : Betting prior state) (stage : Street) :
    ∃ settled, state.settleByFold now stage = .ok settled := by
  unfold settleByFold
  cases hseats : state.listNonFoldedSeats with
  | nil => exact absurd hseats h.nonFolded_ne_nil
  | cons winner rest => exact ⟨_, rfl⟩

/-- **The hand moves on.** -/
theorem progression_accepts (now : Int) (hbetting : Betting prior state) (hplay : Playable state)
    (stage : Street) : ∃ next, state.resolveTerminalAndStreetProgression now stage = .ok next := by
  let Good (s : Table × Street) : Prop :=
    s.1.status = .active → Playable s.1 ∧ ∃ prior, Betting prior s.1
  have hstep : ∀ s s', Good s → progressionTurn now s = .again s' → Good s' := by
    rintro ⟨s, stage⟩ ⟨s', stage'⟩ hs hagain hactive'
    obtain ⟨hactive, hround, hdeal⟩ := progressionTurn_again hagain
    obtain ⟨hplay, prior, hbetting⟩ := hs hactive
    rcases dealNextStreet_cases hdeal with hstreet | hsettled
    · exact ⟨playable_keptInPlay.street hplay hbetting hactive hround hstreet, _,
        hbetting.street hround hstreet⟩
    · exact absurd ((settleShowdown_status hsettled).symm.trans hactive') (by simp)
  obtain ⟨result, hrun⟩ := @progression_ends now state stage
  obtain ⟨⟨last, lastStage⟩, hlast, hdone⟩ :=
    exists_last_turn (I := Good) hstep (fun _ => ⟨hplay, prior, hbetting⟩) hrun
  have hresult : state.resolveTerminalAndStreetProgression now stage = result := by
    unfold resolveTerminalAndStreetProgression
    simp only [hrun, Option.get_some]
  rw [hresult]
  unfold progressionTurn at hdone
  simp only at hdone
  split_ifs at hdone with hstatus hfold hround hriver
  · injection hdone with hdone
    exact ⟨_, hdone.symm⟩
  · obtain ⟨-, prior, hbetting⟩ := hlast (not_not.mp hstatus)
    obtain ⟨settled, hsettled⟩ := settleByFold_accepts now hbetting lastStage
    injection hdone with hdone
    exact ⟨settled, hdone ▸ hsettled⟩
  · obtain ⟨hplay, prior, hbetting⟩ := hlast (not_not.mp hstatus)
    obtain ⟨stage, hstage, -, hboard⟩ := hplay.dealt.board
    obtain rfl : .river = stage := Option.some.inj (hriver.symm.trans hstage)
    obtain ⟨settled, hsettled⟩ := settleShowdown_accepts now hbetting hboard.ge
    injection hdone with hdone
    exact ⟨settled, hdone ▸ hsettled⟩
  · obtain ⟨hplay, prior, hbetting⟩ := hlast (not_not.mp hstatus)
    obtain ⟨next, hnext⟩ := dealNextStreet_accepts now hplay hbetting.keys hriver
    rw [hnext] at hdone
    cases hdone
  · injection hdone with hdone
    exact ⟨_, hdone.symm⟩

/-! ## What is offered -/

/-- An amount with two decimals between the bounds that are advertised. -/
def Offered (availability : ActionAvailability) : Action → AmountInput → Prop
  | .bet, amount => ∃ target maximum : Int, availability.maximumRaiseTo = some maximum ∧
      availability.minimumBetTo ≤ target ∧ target ≤ maximum ∧
      amount = .value (.finite (target / 100))
  | .raise, amount => ∃ target minimum maximum : Int,
      availability.minimumRaiseTo = some minimum ∧ availability.maximumRaiseTo = some maximum ∧
      minimum ≤ target ∧ target ≤ maximum ∧ amount = .value (.finite (target / 100))
  | _, _ => True

theorem parseTargetAmount_cents {target : Int} (label : String) (h : 0 < target) :
    parseTargetAmount (.value (.finite (target / 100))) label = .ok target := by
  have hpos : (0 : ℚ) < target / 100 := div_pos (by exact_mod_cast h) (by norm_num)
  have hcents : (100 : ℚ) * (target / 100) = target := by ring
  unfold parseTargetAmount
  simp only [hcents, Rat.den_intCast, Rat.num_intCast, ne_eq, not_true_eq_false, or_false,
    if_neg (not_le.mpr hpos)]

theorem toCall_pos : 0 < state.toCall seat ↔ seat.committedAmount < state.currentBet := by
  unfold toCall
  omega

theorem mem_availableActions_bet (h : .bet ∈ state.availableActions seat) :
    0 < seat.stackAmount ∧ state.currentBet = 0 := by
  unfold availableActions at h
  by_cases hcall : 0 < state.toCall seat <;> simp [hcall] at h <;> omega

theorem mem_availableActions_raise (h : .raise ∈ state.availableActions seat) :
    0 < seat.stackAmount ∧ 0 < state.currentBet := by
  unfold availableActions at h
  by_cases hcall : 0 < state.toCall seat <;> simp [hcall] at h <;> omega

theorem mem_availableActions_allIn (h : .allIn ∈ state.availableActions seat) :
    0 < seat.stackAmount := by
  unfold availableActions at h
  by_cases hcall : 0 < state.toCall seat <;> simp [hcall] at h <;> omega

theorem mem_availableActions_call (h : .call ∈ state.availableActions seat) :
    0 < state.toCall seat := by
  unfold availableActions at h
  by_contra hcall
  simp [hcall] at h

theorem mem_availableActions_check (h : .check ∈ state.availableActions seat) :
    ¬0 < state.toCall seat := by
  unfold availableActions at h
  intro hcall
  simp [hcall] at h

theorem applyBetOrRaise_accepts (target : Int)
    (htarget : state.targetTotal seat action amount = .ok target)
    (hmax : target ≤ maximumRaiseTo seat) (hforward : seat.committedAmount < target) :
    ∃ next, state.applyBetOrRaise seat action amount = .ok next := by
  unfold applyBetOrRaise
  exact ⟨_, bind_eq_ok.mpr ⟨target, htarget, bind_eq_ok.mpr ⟨(), (throwIf_eq_ok _ _ _).mpr
    (not_lt.mpr hmax), bind_eq_ok.mpr ⟨(), (throwIf_eq_ok _ _ _).mpr (not_le.mpr hforward),
      rfl⟩⟩⟩⟩

structure Advertises (availability : ActionAvailability) (state : Table) (seat : Seat) : Prop where
  actions : availability.actions = state.availableActions seat
  minimumBetTo : availability.minimumBetTo = state.bigBlind
  minimumRaiseTo : ∀ minimum, availability.minimumRaiseTo = some minimum →
    0 < state.currentBet ∧ minimum = state.minimumRaiseTo
  maximumRaiseTo : ∀ maximum, availability.maximumRaiseTo = some maximum →
    maximum = maximumRaiseTo seat

theorem exists_availability (hkeys : state.HasSeatKeys) (hstatus : state.status = .active)
    (hpending : state.pendingActorSeatIndex = some seat.seatIndex) (hseat : seat ∈ state.seats)
    (hactive : seat.status = .active) : ∃ availability,
      state.resolveHoldemActionAvailability seat.seatIndex = some availability ∧
        Advertises availability state seat := by
  unfold resolveHoldemActionAvailability
  simp only [hstatus, hpending, find_of_mem hkeys hseat, hactive, ne_eq, not_true_eq_false, or_self,
    if_false]
  refine ⟨_, rfl, rfl, rfl, fun minimum hminimum => ?_, fun maximum hmaximum => ?_⟩
  · obtain ⟨hcond, heq⟩ := Option.ite_none_right_eq_some.mp hminimum
    exact ⟨hcond.1, (Option.some.inj heq).symm⟩
  · obtain ⟨-, heq⟩ := Option.ite_none_right_eq_some.mp hmaximum
    exact (Option.some.inj heq).symm

theorem applySeatAction_accepts {availability : ActionAvailability} (hturn : Turn prior state seat)
    (hbigBlind : 0 < state.bigBlind) (hadvertises : Advertises availability state seat)
    (havailable : action ∈ state.availableActions seat) (hoffered : Offered availability action amount) :
    ∃ acted, state.applySeatAction seat action amount = .ok acted := by
  have hlevel := hturn.betting.level seat hturn.mem
  have hcommitted := hlevel.committed_nonneg
  have hbehind := hlevel.committed_le
  have hraise := hturn.betting.raiseSize_ge
  cases action with
  | fold => exact ⟨_, rfl⟩
  | check =>
      have hcall := toCall_pos.not.mp (mem_availableActions_check havailable)
      exact ⟨_, applyCheck_eq_ok.mpr ⟨not_lt.mp hcall, rfl⟩⟩
  | call =>
      have hcall := mem_availableActions_call havailable
      exact ⟨_, if_neg (not_le.mpr hcall)⟩
  | bet =>
      obtain ⟨target, maximum, hmaximum, hmin, hmax, rfl⟩ := hoffered
      obtain ⟨-, hbet⟩ := mem_availableActions_bet havailable
      rw [hadvertises.minimumBetTo] at hmin
      rw [hadvertises.maximumRaiseTo maximum hmaximum] at hmax
      refine applyBetOrRaise_accepts target ?_ hmax (by omega)
      unfold targetTotal
      simp only [hbet, lt_irrefl, if_false]
      exact bind_eq_ok.mpr ⟨target, parseTargetAmount_cents _ (by omega),
        if_neg (not_lt.mpr hmin)⟩
  | raise =>
      obtain ⟨target, minimum, maximum, hminimum, hmaximum, hmin, hmax, rfl⟩ := hoffered
      obtain ⟨hopen, rfl⟩ := hadvertises.minimumRaiseTo minimum hminimum
      rw [hadvertises.maximumRaiseTo maximum hmaximum] at hmax
      unfold minimumRaiseTo at hmin
      rw [if_pos hopen] at hmin
      refine applyBetOrRaise_accepts target ?_ hmax (by omega)
      unfold targetTotal
      simp only [if_neg (not_le.mpr hopen)]
      exact bind_eq_ok.mpr ⟨target, parseTargetAmount_cents _ (by omega),
        if_neg (not_lt.mpr hmin)⟩
  | allIn =>
      have hstack := mem_availableActions_allIn havailable
      refine applyBetOrRaise_accepts (maximumRaiseTo seat) rfl le_rfl ?_
      unfold maximumRaiseTo
      omega

theorem actOnHoldemSeat_accepts {availability : ActionAvailability} (now : Int)
    (hturn : Turn prior state seat) (hplay : Playable state)
    (hadvertises : Advertises availability state seat) (havailable : action ∈ availability.actions)
    (hoffered : Offered availability action amount) :
    ∃ next, state.actOnHoldemSeat now seat.seatIndex action amount = .ok next := by
  rw [hadvertises.actions] at havailable
  obtain ⟨acted, hacted⟩ := applySeatAction_accepts hturn hplay.roomy.bigBlind_pos hadvertises
    havailable hoffered
  obtain ⟨stage, hstage, -, -⟩ := hplay.dealt.board
  have hmove := applySeatAction_move (hturn.betting.facing hturn.mem hturn.active) havailable hacted
  obtain ⟨next, hnext⟩ := progression_accepts now
    (hturn.betting.move hturn.mem hturn.active hmove)
    (playable_keptInPlay.move hplay hturn hmove) stage
  exact ⟨next, actOnHoldemSeat_eq_ok.mpr ⟨seat, stage, acted,
    ⟨hturn.status, hstage, find_of_mem hturn.betting.keys hturn.mem, hturn.pending, hturn.active,
      havailable⟩, hacted, hnext⟩⟩

theorem exists_timeoutAction {availability : ActionAvailability}
    (havailability : state.resolveHoldemActionAvailability seat.seatIndex = some availability)
    (hadvertises : Advertises availability state seat) : ∃ action,
      state.resolveHoldemTimeoutAction seat.seatIndex = some action ∧
        action ∈ availability.actions ∧ (action = .check ∨ action = .fold) := by
  unfold resolveHoldemTimeoutAction
  simp only [havailability]
  by_cases hcheck : .check ∈ availability.actions
  · exact ⟨.check, if_pos hcheck, hcheck, .inl rfl⟩
  · have hfold : .fold ∈ availability.actions := by
      rw [hadvertises.actions] at hcheck ⊢
      unfold availableActions at hcheck ⊢
      by_cases hcall : 0 < state.toCall seat
      · simp [hcall]
      · simp [hcall] at hcheck
    rw [if_neg hcheck, if_pos hfold]
    exact ⟨.fold, rfl, hfold, .inr rfl⟩

/-- **No stuck hand and no false offer.** In a hand it is the turn of a seat that has chips and has
not acted on the bet; what is advertised to it is accepted, with any amount between the advertised
bounds, and so is the action that its timeout takes. -/
theorem offers_accepted (h : Reachable sha256 state) (hactive : state.status = .active) :
    ∃ seat ∈ state.seats, state.pendingActorSeatIndex = some seat.seatIndex ∧
      isSeatNonFolded seat ∧ 0 < seat.stackAmount ∧
      (seat.seatIndex ∉ state.actedSeatIndexes ∨ seat.committedAmount ≠ state.currentBet) ∧
      ∃ availability, state.resolveHoldemActionAvailability seat.seatIndex = some availability ∧
        (∀ action ∈ availability.actions, ∀ amount, Offered availability action amount → ∀ now,
          ∃ next, state.actOnHoldemSeat now seat.seatIndex action amount = .ok next) ∧
        ∃ action, state.resolveHoldemTimeoutAction seat.seatIndex = some action ∧ ∀ now,
          ∃ next, state.actOnHoldemSeat now seat.seatIndex action .missing = .ok next := by
  obtain ⟨seat, hseat, hpending, ⟨hseatActive, hstack⟩, hacted⟩ := h.exists_actor hactive
  obtain ⟨prior, hbetting⟩ := h.sound.hand hactive
  obtain ⟨hdealt, hdeck⟩ := h.dealt hactive
  have hturn : Turn prior state seat := ⟨hbetting, hactive, hpending, hseat, hseatActive⟩
  have hplay : Playable state := ⟨hdealt, hdeck, h.roomy⟩
  obtain ⟨availability, havailability, hadvertises⟩ :=
    exists_availability hbetting.keys hactive hpending hseat hseatActive
  refine ⟨seat, hseat, hpending, (isSeatNonFolded_iff seat).mpr (.inl hseatActive), hstack,
    .inl hacted, availability, havailability, fun action havailable amount hoffered now =>
      actOnHoldemSeat_accepts now hturn hplay hadvertises havailable hoffered, ?_⟩
  obtain ⟨action, haction, havailable, hkind⟩ := exists_timeoutAction havailability hadvertises
  refine ⟨action, haction, fun now =>
    actOnHoldemSeat_accepts now hturn hplay hadvertises havailable ?_⟩
  rcases hkind with rfl | rfl <;> trivial

/-- Three players, one of them all-in with less than the big blind. -/
theorem offers_accepted_short :
    ∃ state seat, Reachable zeroHash state ∧ state.status = .active ∧ seat ∈ state.seats ∧
      state.pendingActorSeatIndex = some seat.seatIndex ∧ 0 < seat.stackAmount := by
  let table := createdTable .cash [samplePlayer 7 5000, samplePlayer 8 5000, samplePlayer 9 150]
  have hfresh : Fresh table := createdTable_fresh .cash (by decide) (by decide)
  obtain ⟨events, state, hrun, hcheck⟩ :=
    Transition.Run.exists_of_check (step zeroHash) table
      [.start sampleSeed 0, .act 0 .raise (.value (.finite 6)) sampleRake 0]
      (fun _ t => t.status = .active) (by decide +kernel)
  have hactive : state.status = .active := by simpa using hcheck
  have hreach : Reachable zeroHash state := ⟨table, events, hfresh, hrun⟩
  obtain ⟨seat, hseat, hpending, -, hstack, -⟩ := offers_accepted hreach hactive
  exact ⟨state, seat, hreach, hactive, hseat, hpending, hstack⟩

end Table

end RewardSystem.Holdem
