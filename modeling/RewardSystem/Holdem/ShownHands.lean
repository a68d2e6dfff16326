import RewardSystem.Holdem.Commitment
import RewardSystem.Holdem.TurnOrder

/-!
# Which seats hold cards

Who holds cards can be told from the status of a seat and from its last action, which everybody sees.
A best hand is there only when the seat is revealed.
-/

namespace RewardSystem.Holdem

open ApiError

/-- `after` is `before` with another stack and another mark of a winner. -/
def Won (before after : Seat) : Prop :=
  ∃ stackAmount winner, after = { before with stackAmount := stackAmount, winner := winner }

namespace Won

theorem refl (seat : Seat) : Won seat seat :=
  ⟨_, _, rfl⟩

theorem trans (a b c : Seat) (h : Won a b) (h' : Won b c) : Won a c := by
  obtain ⟨_, _, rfl⟩ := h
  obtain ⟨_, _, rfl⟩ := h'
  exact ⟨_, _, rfl⟩

end Won

namespace Table

variable {sha256 : HashFunction} {now : Int} {state next settled : Table} {seat row : Seat}
  {prior : Int}

structure SeatCards (state : Table) (seat : Seat) : Prop where
  pairs : seat.holeCards = [] ∨ seat.holeCards.length = 2
  idle : seat.holeCards = [] → seat.lastAction = none
  inHand : state.status = .active → (isSeatInHand seat ↔ seat.holeCards ≠ [])
  yetToAct : seat.holeCards ≠ [] → seat.lastAction = none →
    state.status = .active ∧ seat.status = .active ∧ seat.seatIndex ∉ state.actedSeatIndexes
  best : seat.bestHand ≠ none →
    state.status = .waiting ∧ seat.seatIndex ∈ state.revealedSeatIndexes

theorem SeatCards.congr (h : SeatCards state seat) (hcards : row.holeCards = seat.holeCards)
    (hlast : row.lastAction = seat.lastAction) (hbest : row.bestHand = seat.bestHand)
    (hindex : row.seatIndex = seat.seatIndex) (hseat : row.status = seat.status)
    (hstatus : next.status = state.status)
    (hrevealed : next.revealedSeatIndexes = state.revealedSeatIndexes)
    (hacted : seat.seatIndex ∈ next.actedSeatIndexes → seat.seatIndex ∈ state.actedSeatIndexes) :
    SeatCards next row where
  pairs := hcards ▸ h.pairs
  idle := fun hnone => hlast.trans (h.idle (hcards ▸ hnone))
  inHand := by
    unfold isSeatInHand
    rw [hstatus, hseat, hcards]
    exact h.inHand
  yetToAct := by
    rw [hcards, hlast, hstatus, hseat, hindex]
    exact fun hsome hnone =>
      have ⟨hactive, hable, hnew⟩ := h.yetToAct hsome hnone
      ⟨hactive, hable, fun hmem => hnew (hacted hmem)⟩
  best := by
    rw [hbest, hstatus, hrevealed, hindex]
    exact h.best

/-! ## In a hand -/

theorem Move.acts (hturn : Turn prior state seat) (hmove : Move state seat next) :
    ∃ f : Seat → Seat, next.seats = (state.updateSeat seat.seatIndex f).seats ∧
      (f seat).holeCards = seat.holeCards ∧ (f seat).bestHand = seat.bestHand ∧
      (f seat).lastAction ≠ none ∧ isSeatInHand (f seat) ∧
      next.revealedSeatIndexes = state.revealedSeatIndexes := by
  cases hmove with
  | fold _ =>
      exact ⟨fun row => { row with status := .folded, lastAction := some "Fold" }, rfl, rfl, rfl,
        by simp, .inr (.inr rfl), rfl⟩
  | check _ hcheck =>
      obtain ⟨-, rfl⟩ := applyCheck_eq_ok.mp hcheck
      exact ⟨fun row => { row with lastAction := some "Check" }, rfl, rfl, rfl, by simp,
        .inl hturn.active, rfl⟩
  | post posting hlegal =>
      have hposted := postFromStack_of_pos hlegal.transfer_pos hlegal.transfer_le
      refine ⟨postSeat posting, rfl, ?_, ?_, ?_, ?_, rfl⟩
      · simp [postSeat, hposted]
      · simp [postSeat, hposted]
      · simp [postSeat]
      · simp only [postSeat, hposted, isSeatInHand, hturn.active]
        split <;> simp

theorem Move.seatCards (h : ∀ seat ∈ state.seats, SeatCards state seat)
    (hturn : Turn prior state seat) (hmove : Move state seat next) :
    ∀ row ∈ next.seats, SeatCards next row := by
  have hkeys := hturn.betting.keys
  have hcards := h seat hturn.mem
  have hheld : seat.holeCards ≠ [] := (hcards.inHand hturn.status).mp (.inl hturn.active)
  have hstatus := hmove.status
  obtain ⟨f, hseats, hsame, hbest, hlast, hin, hrevealed⟩ := hmove.acts hturn
  obtain ⟨g, hpasses⟩ := hmove.passes hturn
  intro row hrow
  rw [hseats] at hrow
  rcases (mem_updateSeat hkeys hturn.mem).mp hrow with rfl | ⟨hrow, hne⟩
  · exact
      { pairs := hsame ▸ hcards.pairs
        idle := fun hnone => absurd (hsame ▸ hnone) hheld
        inHand := fun _ => ⟨fun _ => hsame ▸ hheld, fun _ => hin⟩
        yetToAct := fun _ hnone => absurd hnone hlast
        best := fun hsome =>
          have hwaiting := (hcards.best (hbest ▸ hsome)).1
          absurd (hturn.status.symm.trans hwaiting) (by simp) }
  · refine (h row hrow).congr rfl rfl rfl rfl rfl hstatus hrevealed fun hmem => ?_
    rcases hpasses.acted with ⟨-, hfew, -, -⟩ | honly
    · exact (hfew _ hmem).resolve_right hne
    · exact absurd (honly _ hmem) hne

theorem lastAction_of_round (h : SeatCards state seat) (hbetting : Betting prior state)
    (hseat : seat ∈ state.seats) (hround : state.hasRoundCompleted) (hheld : seat.holeCards ≠ []) :
    seat.lastAction ≠ none := by
  intro hnone
  obtain ⟨-, hactive, hnew⟩ := h.yetToAct hheld hnone
  have hable : seat ∈ state.listActionableSeats :=
    mem_listActionableSeats.mpr ⟨hseat, hactive, (hbetting.level seat hseat).active_stack hactive⟩
  exact hnew (hround seat hable).1

theorem StreetDealt.seatCards (h : ∀ seat ∈ state.seats, SeatCards state seat)
    (hbetting : Betting prior state) (hactive : state.status = .active)
    (hround : state.hasRoundCompleted) (hstreet : StreetDealt state next) :
    ∀ row ∈ next.seats, SeatCards next row := by
  obtain ⟨_, count, stage, dealt, -, -, hdeal, rfl⟩ := hstreet.exists_deal
  obtain ⟨-, rfl⟩ := dealCommunityCards_eq_ok.mp hdeal
  intro row hrow
  obtain ⟨seat, hmem, rfl⟩ := List.mem_map.mp hrow
  have hseat : seat ∈ state.seats := hmem
  have hcards := h seat hseat
  have hin : ∀ status, (status = if seat.status = .active ∧ seat.stackAmount = 0 then .allIn
      else seat.status) → (isSeatInHand { seat with committedAmount := 0, status := status } ↔
        isSeatInHand seat) := by
    rintro _ rfl
    unfold isSeatInHand
    by_cases hempty : seat.status = .active ∧ seat.stackAmount = 0 <;> simp [hempty]
  exact
    { pairs := hcards.pairs
      idle := hcards.idle
      inHand := fun _ => (hin _ rfl).trans (hcards.inHand hactive)
      yetToAct := fun hheld hnone =>
        (lastAction_of_round hcards hbetting hseat hround hheld hnone).elim
      best := fun hsome => absurd (hactive.symm.trans (hcards.best hsome).1) (by simp) }

/-! ## Settlements -/

theorem payWinners_won (parts : List (Nat × Int)) (state : Table) :
    Reseated Won state (payWinners parts state) :=
  .foldl Won.refl Won.trans
    (fun s _ => .updateSeat Won.refl (fun _ => ⟨_, _, rfl⟩) s _) parts state

theorem resolvePot_won {bestHands : BestHands} {pot resolved : Pot}
    (h : state.resolvePot bestHands pot = .ok (next, resolved)) : Reseated Won state next := by
  unfold resolvePot at h
  split at h
  · injection h with h
    rw [← (Prod.mk.inj h).1]
    exact .refl Won.refl state
  · split at h
    · cases h
    · obtain ⟨best, -, h⟩ := bind_eq_ok.mp h
      injection h with h
      rw [← (Prod.mk.inj h).1]
      exact payWinners_won _ _

theorem resolvePots_won {bestHands : BestHands} {pots resolved : List Pot}
    (h : resolvePots bestHands pots state = .ok (next, resolved)) : Reseated Won state next := by
  induction pots generalizing state next resolved with
  | nil =>
      injection h with h
      rw [← (Prod.mk.inj h).1]
      exact .refl Won.refl state
  | cons pot pots ih =>
      obtain ⟨⟨paid, first⟩, hfirst, h⟩ := bind_eq_ok.mp h
      obtain ⟨⟨last, rest⟩, hrest, h⟩ := bind_eq_ok.mp h
      injection h with h
      rw [← (Prod.mk.inj h).1]
      exact (resolvePot_won hfirst).trans Won.trans (ih hrest)

/-- `after` is `before`, and if its seat index is in `shown`, maybe with its hand shown. -/
def ShownIn (shown : List Nat) (before after : Seat) : Prop :=
  ∃ bestHand, after = { before with bestHand := bestHand } ∧
    (bestHand ≠ before.bestHand → before.seatIndex ∈ shown)

theorem ShownIn.refl (shown : List Nat) (seat : Seat) : ShownIn shown seat seat :=
  ⟨_, rfl, fun h => absurd rfl h⟩

theorem ShownIn.trans (shown : List Nat) (a b c : Seat) (h : ShownIn shown a b)
    (h' : ShownIn shown b c) : ShownIn shown a c := by
  obtain ⟨best, rfl, hbest⟩ := h
  obtain ⟨best', rfl, hbest'⟩ := h'
  refine ⟨best', rfl, fun hne => ?_⟩
  by_cases heq : best' = best
  · exact hbest fun h => hne (heq.trans h)
  · exact hbest' heq

theorem showHands_shownIn {shown : List Nat} {seats : List Seat} {bestHands : BestHands}
    (hshown : ∀ seat ∈ seats, seat.seatIndex ∈ shown)
    (h : showHands seats state = .ok (next, bestHands)) :
    Reseated (ShownIn shown) state next := by
  induction seats generalizing state next bestHands with
  | nil =>
      injection h with h
      rw [← (Prod.mk.inj h).1]
      exact .refl (ShownIn.refl shown) state
  | cons seat seats ih =>
      obtain ⟨best, -, h⟩ := bind_eq_ok.mp h
      obtain ⟨⟨last, rest⟩, hrest, h⟩ := bind_eq_ok.mp h
      injection h with h
      rw [← (Prod.mk.inj h).1]
      have hfirst : Reseated (ShownIn shown) state (state.updateSeat seat.seatIndex fun row =>
          { row with bestHand := some best.hand }) := by
        refine ⟨fun row => if row.seatIndex = seat.seatIndex then
          { row with bestHand := some best.hand } else row, fun row => ?_, rfl⟩
        by_cases hindex : row.seatIndex = seat.seatIndex
        · simp only [if_pos hindex]
          exact ⟨_, rfl, fun _ => hindex ▸ hshown seat (by simp)⟩
        · simp only [if_neg hindex]
          exact .refl shown row
      exact hfirst.trans (ShownIn.trans shown) (ih (fun row hrow => hshown row (by simp [hrow])) hrest)

theorem settleShowdown_shown (h : state.settleShowdown now = .ok settled) :
    ∃ shown paid potAmount winners pots,
      Reseated (ShownIn (state.listNonFoldedSeats.map Seat.seatIndex)) state shown ∧
      Reseated Won shown paid ∧
      settled = closeHand now .showdown potAmount (state.listNonFoldedSeats.map Seat.seatIndex)
        winners pots paid := by
  unfold settleShowdown at h
  simp only at h
  split at h
  · cases h
  · obtain ⟨⟨shown, bestHands⟩, hshown, h⟩ := bind_eq_ok.mp h
    obtain ⟨⟨paid, pots⟩, hpaid, h⟩ := bind_eq_ok.mp h
    injection h with h
    have hmarked : ∀ indexes : List Nat, Reseated Won paid (indexes.foldl
        (fun state seatIndex => state.updateSeat seatIndex fun seat => { seat with winner := true })
        paid) := fun indexes =>
      .foldl Won.refl Won.trans (fun s _ => .updateSeat Won.refl (fun _ => ⟨_, _, rfl⟩) s _) indexes
        paid
    exact ⟨shown, _, _, _, _,
      showHands_shownIn (fun seat hseat => List.mem_map_of_mem hseat) hshown,
      (resolvePots_won hpaid).trans Won.trans (hmarked _), h.symm⟩

theorem seatCards_closeHand {paid : Table} {stage : Street} {potAmount : Int}
    {revealed winners : List Nat} {pots : List Pot}
    (hpairs : ∀ seat ∈ paid.seats, seat.holeCards = [] ∨ seat.holeCards.length = 2)
    (hlast : ∀ seat ∈ paid.seats, seat.holeCards = [] ↔ seat.lastAction = none)
    (hbest : ∀ seat ∈ paid.seats, seat.bestHand ≠ none → seat.seatIndex ∈ revealed) :
    ∀ row ∈ (closeHand now stage potAmount revealed winners pots paid).seats,
      SeatCards (closeHand now stage potAmount revealed winners pots paid) row := by
  intro row hrow
  obtain ⟨seat, hseat, rfl⟩ : ∃ seat ∈ paid.seats, { seat with
      committedAmount := 0, totalCommittedAmount := 0, status := .waiting } = row :=
    List.mem_map.mp hrow
  exact
    { pairs := hpairs seat hseat
      idle := (hlast seat hseat).mp
      inHand := fun hactive => absurd hactive (by simp)
      yetToAct := fun hheld hnone => absurd ((hlast seat hseat).mpr hnone) hheld
      best := fun hsome => ⟨rfl, hbest seat hseat hsome⟩ }

theorem settleByFold_seatCards {stage : Street} (h : ∀ seat ∈ state.seats, SeatCards state seat)
    (hbetting : Betting prior state) (hactive : state.status = .active)
    (hfew : state.listNonFoldedSeats.length ≤ 1)
    (hsettled : state.settleByFold now stage = .ok settled) :
    ∀ row ∈ settled.seats, SeatCards settled row := by
  have hnone : ∀ seat ∈ state.seats, seat.bestHand = none := by
    intro seat hseat
    by_contra hsome
    exact absurd (hactive.symm.trans ((h seat hseat).best hsome).1) (by simp)
  unfold settleByFold at hsettled
  cases hnonFolded : state.listNonFoldedSeats with
  | nil => simp [hnonFolded] at hsettled
  | cons winner others =>
      simp only [hnonFolded] at hsettled
      injection hsettled with hsettled
      rw [← hsettled]
      have hwinner : winner ∈ state.seats ∧ isSeatNonFolded winner :=
        mem_listNonFoldedSeats.mp (by simp [hnonFolded])
      have honly : ∀ seat ∈ state.seats, isSeatNonFolded seat → seat = winner := by
        intro seat hseat hstill
        have hmem : seat ∈ winner :: others := hnonFolded ▸ mem_listNonFoldedSeats.mpr ⟨hseat, hstill⟩
        have hothers : others = [] := by
          rw [hnonFolded, List.length_cons] at hfew
          exact List.length_eq_zero_iff.mp (by omega)
        simpa [hothers] using hmem
      have hheld : winner.holeCards ≠ [] :=
        ((h winner hwinner.1).inHand hactive).mp hwinner.2.2
      refine seatCards_closeHand ?_ ?_ ?_
      · exact forall_updateSeat hbetting.keys hwinner.1 (h winner hwinner.1).pairs
          fun row hrow _ => (h row hrow).pairs
      · refine forall_updateSeat hbetting.keys hwinner.1 (by simp [awardToSeatStack, hheld])
          fun row hrow hne => ⟨(h row hrow).idle, fun hlast => ?_⟩
        by_contra hcards
        have hable := ((h row hrow).yetToAct hcards hlast).2.1
        have hsame := honly row hrow ((isSeatNonFolded_iff row).mpr (.inl hable))
        exact hne (congrArg Seat.seatIndex hsame)
      · exact forall_updateSeat hbetting.keys hwinner.1
          (fun hsome => absurd (hnone winner hwinner.1) hsome)
          fun row hrow _ hsome => absurd (hnone row hrow) hsome

theorem settleShowdown_seatCards (h : ∀ seat ∈ state.seats, SeatCards state seat)
    (hbetting : Betting prior state) (hactive : state.status = .active)
    (hround : state.hasRoundCompleted) (hsettled : state.settleShowdown now = .ok settled) :
    ∀ row ∈ settled.seats, SeatCards settled row := by
  obtain ⟨shown, paid, potAmount, winners, pots, ⟨g, hg, rfl⟩, ⟨g', hg', rfl⟩, rfl⟩ :=
    settleShowdown_shown hsettled
  -- the settlement of a seat: its hand may be shown, then its pots are paid
  have hseats : ∀ row ∈ (state.seats.map g).map g', ∃ seat ∈ state.seats,
      row.holeCards = seat.holeCards ∧ row.lastAction = seat.lastAction ∧
      (row.bestHand ≠ none →
        row.seatIndex ∈ state.listNonFoldedSeats.map Seat.seatIndex) := by
    intro row hrow
    rw [List.map_map] at hrow
    obtain ⟨seat, hseat, rfl⟩ := List.mem_map.mp hrow
    obtain ⟨best, hshown, hbest⟩ := hg seat
    obtain ⟨_, _, hwon⟩ := hg' (g seat)
    have hnone : seat.bestHand = none := by
      by_contra hsome
      exact absurd (hactive.symm.trans ((h seat hseat).best hsome).1) (by simp)
    rw [Function.comp_apply, hwon, hshown]
    exact ⟨seat, hseat, rfl, rfl, fun hsome => hbest fun heq => hsome (heq.trans hnone)⟩
  refine seatCards_closeHand (fun row hrow => ?_) (fun row hrow => ?_) fun row hrow => ?_
  · obtain ⟨seat, hseat, hsame, -, -⟩ := hseats row hrow
    rw [hsame]
    exact (h seat hseat).pairs
  · obtain ⟨seat, hseat, hsame, hlast, -⟩ := hseats row hrow
    rw [hsame, hlast]
    refine ⟨(h seat hseat).idle, fun hnone => ?_⟩
    by_contra hheld
    exact lastAction_of_round (h seat hseat) hbetting hseat hround hheld hnone
  · obtain ⟨seat, hseat, -, -, hbest⟩ := hseats row hrow
    exact hbest

/-! ## Opening -/

variable {fairnessSeed : FairnessSeedInput}

/-- A seat of a hand that was just dealt: no hand is shown, and only the blinds have a last action. -/
structure Dealing (seat : Seat) : Prop where
  best : seat.bestHand = none
  last : (seat.lastAction = none ∧ (seat.status = .active ∨ seat.status = .waiting)) ∨
    (seat.lastAction ≠ none ∧ isSeatInHand seat)

theorem dealing_postBlind (amount : Int) (label : String) (hactive : seat.status = .active)
    (hbest : seat.bestHand = none) : Dealing (postBlind amount label seat) where
  best := by
    unfold postBlind postFromStack
    split <;> exact hbest
  last := .inr ⟨by simp [postBlind], (postBlind_inHand amount label hactive).2.mpr (.inl hactive)⟩

theorem dealHand_dealing (hkeys : state.HasSeatKeys) (hbigBlind : 0 ≤ state.bigBlind)
    (h : state.dealHand sha256 fairnessSeed = .ok next) :
    next.actedSeatIndexes = [] ∧ ∀ row ∈ next.seats, Dealing row := by
  obtain ⟨dealer, smallBlind, bigBlind, shuffled, withCards, hopens, rfl⟩ := dealHand_eq_ok.mp h
  obtain ⟨hbetting, -, hready⟩ := hopens.betting hkeys hbigBlind
  obtain ⟨cards, _, hwith⟩ := hopens.seats
  have hcleared : ∀ row ∈ withCards.seats, Dealing row := by
    rw [hwith]
    rintro row hrow
    obtain ⟨old, -, rfl⟩ := List.mem_map.mp hrow
    refine ⟨rfl, .inl ⟨rfl, ?_⟩⟩
    simp only [clearSeat]
    split <;> simp
  refine ⟨rfl, ?_⟩
  change ∀ row ∈ withCards.postBlinds.seats, Dealing row
  rcases hready with hnone | ⟨small, hsmall, big, hbig, hsmallActive, hbigActive, hne, hsmallIndex,
    hbigIndex⟩
  · have hsame : withCards.postBlinds = withCards := by simp [postBlinds, hnone]
    rwa [hsame]
  · rw [postBlinds_eq hbetting.keys hsmall hbig hne hsmallIndex hbigIndex]
    intro row hrow
    rcases (mem_withBlinds hbetting.keys hsmall hbig hne).mp hrow with rfl | rfl | ⟨hrow, -, -⟩
    · exact dealing_postBlind _ _ hbigActive (hcleared big hbig).best
    · exact dealing_postBlind _ _ hsmallActive (hcleared small hsmall).best
    · exact hcleared row hrow

theorem dealHand_seatCards (hkeys : state.HasSeatKeys) (hbigBlind : 0 ≤ state.bigBlind)
    (h : state.dealHand sha256 fairnessSeed = .ok next) :
    ∀ row ∈ next.seats, SeatCards next row := by
  obtain ⟨_, hhidden⟩ := dealHand_hidden hkeys hbigBlind h
  have hstatus := dealHand_status h
  obtain ⟨hacted, hdealing⟩ := dealHand_dealing hkeys hbigBlind h
  intro row hrow
  have hin := hhidden.dealt.inHand row hrow
  refine ⟨hhidden.dealt.pairs row hrow, fun hnone => ?_, fun _ => hin, fun hheld hnone => ?_,
    fun hsome => absurd (hdealing row hrow).best hsome⟩
  · rcases (hdealing row hrow).last with ⟨hlast, -⟩ | ⟨-, hrowIn⟩
    · exact hlast
    · exact absurd hnone (hin.mp hrowIn)
  · rcases (hdealing row hrow).last with ⟨-, hable | hidle⟩ | ⟨hlast, -⟩
    · exact ⟨hstatus, hable, by simp [hacted]⟩
    · have hrowIn := hin.mpr hheld
      simp [isSeatInHand, hidle] at hrowIn
    · exact absurd hnone hlast

/-! ## Over runs -/

theorem seatCards_kept :
    Kept sha256 (fun state => ∀ seat ∈ state.seats, SeatCards state seat) where
  move := fun h hturn hmove => hmove.seatCards h hturn
  street := fun h hbetting hactive hround hstreet => hstreet.seatCards h hbetting hactive hround
  opens := fun _ hkeys hbigBlind hdeal => dealHand_seatCards hkeys hbigBlind hdeal
  settled := by
    intro prior now state next h hbetting hactive hending hwaiting
    cases hending with
    | playing _ _ => exact absurd (hactive.symm.trans hwaiting) (by simp)
    | byFold stage _ hfew hsettled =>
        exact settleByFold_seatCards h hbetting hactive hfew hsettled
    | showdown hround _ hsettled =>
        exact settleShowdown_seatCards h hbetting hactive hround hsettled
  raked := by
    intro state restacked pots hands h _ hraked row hrow
    obtain ⟨g, hg, rfl⟩ := hraked
    obtain ⟨seat, hseat, rfl⟩ : ∃ seat ∈ state.seats, g seat = row := List.mem_map.mp hrow
    obtain ⟨_, heq⟩ := hg seat
    rw [heq]
    exact (h seat hseat).congr rfl rfl rfl rfl rfl rfl rfl fun hmem => hmem
  touched := by
    intro state next h htouched row hrow
    obtain ⟨g, hg, rfl⟩ := htouched
    obtain ⟨seat, hseat, rfl⟩ : ∃ seat ∈ state.seats, g seat = row := List.mem_map.mp hrow
    obtain ⟨_, _, heq⟩ := hg seat
    rw [heq]
    exact (h seat hseat).congr rfl rfl rfl rfl rfl rfl rfl fun hmem => hmem
  joined := by
    intro state newcomer seatIndex h _ _ _ _ row hrow
    rcases mem_joined.mp hrow with hrow | rfl
    · exact (h row hrow).congr rfl rfl rfl rfl rfl rfl rfl fun hmem => hmem
    · exact ⟨.inl rfl, fun _ => rfl, fun _ => by simp [isSeatInHand, seatOf], fun hheld =>
        absurd rfl hheld, fun hsome => absurd rfl hsome⟩
  left := by
    intro state seat seatIndex h _ _ _ row hrow
    exact (h row (List.mem_of_mem_filter hrow)).congr rfl rfl rfl rfl rfl rfl rfl fun hmem => hmem
  cleared := by
    intro state _ hempty row hrow
    have hnone : row ∈ state.seats := hrow
    simp [hempty] at hnone

theorem Reachable.seatCards (h : Reachable sha256 state) :
    ∀ seat ∈ state.seats, SeatCards state seat := by
  refine (h.holds (fun fresh hfresh seat hseat => ?_) seatCards_kept).inv
  obtain ⟨newcomer, -, -, hseatOf⟩ := hfresh.seats seat hseat
  rw [hseatOf]
  exact ⟨.inl rfl, fun _ => rfl, fun _ => by simp [isSeatInHand, seatOf], fun hheld =>
    absurd rfl hheld, fun hsome => absurd rfl hsome⟩

end Table

end RewardSystem.Holdem
