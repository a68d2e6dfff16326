import RewardSystem.Holdem.Invariants

/-!
# The order of the turns

The seats that have not acted on the current bet come before the others in the round that starts
behind the last seat that acted. So the seat whose turn it is has not acted as long as any seat has
to.
-/

namespace RewardSystem.Holdem

open ApiError Rotation

namespace Table

variable {sha256 : HashFunction} {state next : Table} {seat : Seat} {prior : Int} {anchor : Nat}

/-- The turn goes round from behind `anchor`. -/
structure TurnFrom (anchor : Nat) (state : Table) : Prop where
  isNext : ∀ p, state.pendingActorSeatIndex = some p →
    IsNext (· ∈ state.actionableSeatIndexes) anchor p
  nobody : state.pendingActorSeatIndex = none → state.actionableSeatIndexes = []
  waitingFirst : WaitingFirst (· ∈ state.actionableSeatIndexes) (· ∉ state.actedSeatIndexes) anchor
  matched : ∀ seat ∈ state.seats, isSeatActionable seat →
    seat.seatIndex ∈ state.actedSeatIndexes → seat.committedAmount = state.currentBet

theorem TurnFrom.exists_actor (h : TurnFrom anchor state) (hround : ¬state.hasRoundCompleted) :
    ∃ seat ∈ state.seats, state.pendingActorSeatIndex = some seat.seatIndex ∧
      isSeatActionable seat ∧ seat.seatIndex ∉ state.actedSeatIndexes := by
  obtain ⟨open_, hopen, hwaits⟩ : ∃ seat ∈ state.listActionableSeats,
      seat.seatIndex ∉ state.actedSeatIndexes := by
    unfold hasRoundCompleted at hround
    push Not at hround
    obtain ⟨seat, hseat, hbehind⟩ := hround
    refine ⟨seat, hseat, fun hacted => hbehind hacted ?_⟩
    obtain ⟨hmem, hactionable⟩ := mem_listActionableSeats.mp hseat
    exact h.matched seat hmem hactionable hacted
  obtain ⟨hmem, hactionable⟩ := mem_listActionableSeats.mp hopen
  have hindex : open_.seatIndex ∈ state.actionableSeatIndexes :=
    mem_actionableSeatIndexes.mpr ⟨open_, hmem, hactionable, rfl⟩
  cases hpending : state.pendingActorSeatIndex with
  | none =>
      rw [h.nobody hpending] at hindex
      cases hindex
  | some p =>
      have hnext := h.isNext p hpending
      obtain ⟨actor, hactor, hable, rfl⟩ := mem_actionableSeatIndexes.mp hnext.1
      exact ⟨actor, hactor, rfl, hable, h.waitingFirst.next hnext hindex hwaits⟩

theorem isNext_of_pending (hkeys : state.HasSeatKeys)
    (hpending : state.pendingActorSeatIndex = nextSeatIndex state.actionableSeatIndexes anchor) :
    (∀ p, state.pendingActorSeatIndex = some p →
      IsNext (· ∈ state.actionableSeatIndexes) anchor p) ∧
    (state.pendingActorSeatIndex = none → state.actionableSeatIndexes = []) := by
  have hsorted := actionableSeatIndexes_sorted hkeys
  rw [hpending]
  exact ⟨fun p hp => isNext_of_nextSeatIndex hsorted hp, fun hnone =>
    (nextSeatIndex_eq_none hsorted).mp hnone⟩

/-! ## Actions -/

/-- What an action does to the turns: the seat counts as acted, or it alone does. -/
structure Passes (state : Table) (seat : Seat) (f : Seat → Seat) (next : Table) : Prop where
  keeps : ∀ row : Seat, (f row).seatIndex = row.seatIndex
  seats : next.seats = (state.updateSeat seat.seatIndex f).seats
  pending : next.pendingActorSeatIndex =
    nextSeatIndex next.actionableSeatIndexes seat.seatIndex
  matched : isSeatActionable (f seat) → (f seat).committedAmount = next.currentBet
  acted : (next.currentBet = state.currentBet ∧
      (∀ i, i ∈ next.actedSeatIndexes → i ∈ state.actedSeatIndexes ∨ i = seat.seatIndex) ∧
      (∀ i, i ∈ state.actedSeatIndexes → i ∈ next.actedSeatIndexes) ∧
      (isSeatActionable (f seat) → seat.seatIndex ∈ next.actedSeatIndexes)) ∨
    ∀ i, i ∈ next.actedSeatIndexes → i = seat.seatIndex

theorem Passes.mem_actionable {f : Seat → Seat} (h : Passes state seat f next)
    (hkeys : state.HasSeatKeys) (hseat : seat ∈ state.seats) {i : Nat} :
    i ∈ next.actionableSeatIndexes ↔ (i = seat.seatIndex ∧ isSeatActionable (f seat)) ∨
      (i ≠ seat.seatIndex ∧ i ∈ state.actionableSeatIndexes) := by
  simp only [mem_actionableSeatIndexes, h.seats, mem_updateSeat hkeys hseat]
  constructor
  · rintro ⟨row, rfl | ⟨hrow, hne⟩, hactionable, rfl⟩
    · exact .inl ⟨h.keeps seat, hactionable⟩
    · exact .inr ⟨hne, row, hrow, hactionable, rfl⟩
  · rintro (⟨rfl, hactionable⟩ | ⟨hne, row, hrow, hactionable, rfl⟩)
    · exact ⟨f seat, .inl rfl, hactionable, h.keeps seat⟩
    · exact ⟨row, .inr ⟨hrow, hne⟩, hactionable, rfl⟩

theorem TurnFrom.pass {f : Seat → Seat} (h : TurnFrom anchor state)
    (hturn : Turn prior state seat) (hpasses : Passes state seat f next) :
    TurnFrom seat.seatIndex next := by
  have hkeys := hturn.betting.keys
  have hmem := fun i => hpasses.mem_actionable hkeys hturn.mem (i := i)
  have hfirst := h.isNext _ hturn.pending
  have hnextKeys : next.HasSeatKeys := by
    unfold HasSeatKeys
    rw [hpasses.seats]
    exact hkeys.updateSeat hpasses.keeps
  obtain ⟨hisNext, hnobody⟩ := isNext_of_pending hnextKeys hpasses.pending
  refine ⟨hisNext, hnobody, ?_, fun row hrow hactionable hacted => ?_⟩
  · rcases hpasses.acted with ⟨-, hfew, hmore, hself⟩ | honly
    · refine h.waitingFirst.advance hfirst (fun x hx => ?_) (fun x _ hwaits hx =>
        hwaits (hmore x hx)) (fun x _ hne hwaits hx => ?_) fun hx hwaits => ?_
      · rcases (hmem x).mp hx with ⟨rfl, -⟩ | ⟨-, hx⟩
        · exact hfirst.1
        · exact hx
      · rcases hfew x hx with hx | hx
        · exact hwaits hx
        · exact hne hx
      · rcases (hmem _).mp hx with ⟨-, hactionable⟩ | ⟨hne, -⟩
        · exact hwaits (hself hactionable)
        · exact hne rfl
    · exact waitingFirst_of_others fun x _ hne hx => hne (honly x hx)
  · rw [hpasses.seats] at hrow
    rcases (mem_updateSeat hkeys hturn.mem).mp hrow with rfl | ⟨hrow, hne⟩
    · exact hpasses.matched hactionable
    · rcases hpasses.acted with ⟨hbet, hfew, -, -⟩ | honly
      · rw [hbet]
        exact h.matched row hrow hactionable ((hfew _ hacted).resolve_right hne)
      · exact absurd (honly _ hacted) hne

theorem Move.passes (hturn : Turn prior state seat) (hmove : Move state seat next) :
    ∃ f, Passes state seat f next := by
  have hlevel := hturn.betting.level seat hturn.mem
  cases hmove with
  | fold _ =>
      refine ⟨fun row => { row with status := .folded, lastAction := some "Fold" }, fun _ => rfl,
        rfl, rfl, fun hactionable => ?_, .inl ⟨rfl, fun i hi => .inl hi, fun i hi => hi,
          fun hactionable => ?_⟩⟩
      all_goals cases hactionable.1
  | check hbet hcheck =>
      obtain ⟨-, rfl⟩ := applyCheck_eq_ok.mp hcheck
      refine ⟨fun row => { row with lastAction := some "Check" }, fun _ => rfl, rfl, rfl,
        fun _ => le_antisymm hlevel.committed_le hbet,
        .inl ⟨rfl, fun i hi => ?_, fun i hi => ?_, fun _ => ?_⟩⟩
      · exact (mem_markSeatActed _ _ _).mp hi
      · exact (mem_markSeatActed _ _ _).mpr (.inl hi)
      · exact (mem_markSeatActed _ _ _).mpr (.inr rfl)
  | post posting hlegal =>
      have hposted := postFromStack_of_pos hlegal.transfer_pos hlegal.transfer_le
      have hstays : isSeatActionable (postSeat posting seat) →
          posting.transfer < seat.stackAmount := by
        rintro ⟨-, hstack⟩
        simp only [postSeat, hposted] at hstack
        omega
      refine ⟨postSeat posting, fun row => by simp [postSeat], rfl, rfl, fun hactionable => ?_, ?_⟩
      · have hmatched := hlegal.matched (hstays hactionable)
        simp only [postSeat, hposted]
        exact hmatched
      · rcases hlegal.acted_called_or_reset with ⟨hbet, hacted⟩ | honly
        · exact .inl ⟨hbet, fun i hi => (hacted i).mp hi, fun i hi => (hacted i).mpr (.inl hi),
            fun _ => (hacted _).mpr (.inr rfl)⟩
        · exact .inr fun i hi => ((honly i).mp hi).1

/-! ## New betting rounds -/

theorem turnFrom_of_fresh (hkeys : state.HasSeatKeys) (hacted : state.actedSeatIndexes = [])
    (hpending : state.pendingActorSeatIndex = nextSeatIndex state.actionableSeatIndexes anchor) :
    TurnFrom anchor state := by
  obtain ⟨hisNext, hnobody⟩ := isNext_of_pending hkeys hpending
  refine ⟨hisNext, hnobody, waitingFirst_of_forall anchor fun x _ hx => ?_, fun _ _ _ hx => ?_⟩
  all_goals
    rw [hacted] at hx
    cases hx

theorem exists_nextSeatIndex_eq_head {ordered : List Nat} (hsorted : ordered.Pairwise (· < ·)) :
    ∃ anchor, nextSeatIndex ordered anchor = ordered.head? := by
  refine ⟨ordered.sum, ?_⟩
  rw [nextSeatIndex_eq_next hsorted]
  unfold Rotation.next
  have hnone : ordered.find? (ordered.sum < ·) = none := by
    rw [List.find?_eq_none]
    intro i hi
    simpa using List.le_sum_of_mem hi
  rw [hnone, Option.none_or]

theorem turning_openStreet (hkeys : state.HasSeatKeys) (stage : Street) :
    ∃ anchor, TurnFrom anchor (state.openStreet stage) := by
  have hkeys' : (state.openStreet stage).HasSeatKeys := hasSeatKeys_map hkeys fun _ => rfl
  cases hdealer : state.dealerSeatIndex with
  | some dealer =>
      refine ⟨dealer, turnFrom_of_fresh hkeys' rfl ?_⟩
      simp only [openStreet, resolveFirstPostflopSeatIndex, resetStreetCommitments, hdealer]
      rfl
  | none =>
      obtain ⟨anchor, hanchor⟩ :=
        exists_nextSeatIndex_eq_head (actionableSeatIndexes_sorted hkeys')
      refine ⟨anchor, turnFrom_of_fresh hkeys' rfl ?_⟩
      rw [hanchor]
      simp only [openStreet, resolveFirstPostflopSeatIndex, resetStreetCommitments, hdealer]
      rfl

theorem StreetDealt.turning (h : StreetDealt state next) (hkeys : state.HasSeatKeys) :
    ∃ anchor, TurnFrom anchor next := by
  obtain ⟨_, _, stage, dealt, -, -, hdeal, rfl⟩ := h.exists_deal
  have hdealtKeys : dealt.HasSeatKeys := by
    obtain ⟨-, rfl⟩ := dealCommunityCards_eq_ok.mp hdeal
    exact hkeys
  exact turning_openStreet hdealtKeys stage

/-! ## Over runs -/

/-- In a hand the turn goes round from some seat. -/
def Turning (state : Table) : Prop :=
  state.status = .active → ∃ anchor, TurnFrom anchor state

theorem TurnFrom.touched (h : TurnFrom anchor state) (htouched : Reseated Touched state next) :
    TurnFrom anchor next := by
  obtain ⟨g, hg, rfl⟩ := htouched
  have hsame : ∀ seat, (g seat).seatIndex = seat.seatIndex ∧
      (isSeatActionable (g seat) ↔ isSeatActionable seat) ∧
      (g seat).committedAmount = seat.committedAmount := by
    intro seat
    obtain ⟨_, _, heq⟩ := hg seat
    rw [heq]
    exact ⟨rfl, Iff.rfl, rfl⟩
  have hmem : ∀ i, i ∈ ({ state with seats := state.seats.map g } : Table).actionableSeatIndexes ↔
      i ∈ state.actionableSeatIndexes := by
    intro i
    simp only [mem_actionableSeatIndexes, List.mem_map]
    constructor
    · rintro ⟨_, ⟨seat, hseat, rfl⟩, hactionable, rfl⟩
      exact ⟨seat, hseat, (hsame seat).2.1.mp hactionable, (hsame seat).1.symm⟩
    · rintro ⟨seat, hseat, hactionable, rfl⟩
      exact ⟨g seat, ⟨seat, hseat, rfl⟩, (hsame seat).2.1.mpr hactionable, (hsame seat).1⟩
  refine ⟨fun p hp => ?_, fun hnone => ?_, ?_, fun row hrow hactionable hacted => ?_⟩
  · simpa only [hmem] using h.isNext p hp
  · refine List.eq_nil_iff_forall_not_mem.mpr fun i hi => ?_
    rw [hmem, h.nobody hnone] at hi
    cases hi
  · simpa only [hmem] using h.waitingFirst
  · obtain ⟨seat, hseat, rfl⟩ := List.mem_map.mp hrow
    obtain ⟨hindex, hable, hcommitted⟩ := hsame seat
    rw [hindex] at hacted
    rw [hcommitted]
    exact h.matched seat hseat (hable.mp hactionable) hacted

theorem TurnFrom.reseat {seats : List Seat} (h : TurnFrom anchor state)
    (hseats : ∀ row, isSeatActionable row → (row ∈ seats ↔ row ∈ state.seats)) :
    TurnFrom anchor { state with seats := seats } := by
  have hmem : ∀ i, i ∈ ({ state with seats := seats } : Table).actionableSeatIndexes ↔
      i ∈ state.actionableSeatIndexes := by
    intro i
    simp only [mem_actionableSeatIndexes]
    constructor
    · rintro ⟨row, hrow, hactionable, rfl⟩
      exact ⟨row, (hseats row hactionable).mp hrow, hactionable, rfl⟩
    · rintro ⟨row, hrow, hactionable, rfl⟩
      exact ⟨row, (hseats row hactionable).mpr hrow, hactionable, rfl⟩
  refine ⟨fun p hp => ?_, fun hnone => ?_, ?_, fun row hrow hactionable hacted =>
    h.matched row ((hseats row hactionable).mp hrow) hactionable hacted⟩
  · simpa only [hmem] using h.isNext p hp
  · refine List.eq_nil_iff_forall_not_mem.mpr fun i hi => ?_
    rw [hmem, h.nobody hnone] at hi
    cases hi
  · simpa only [hmem] using h.waitingFirst

theorem dealHand_turning {fairnessSeed : FairnessSeedInput} (hkeys : state.HasSeatKeys)
    (hbigBlind : 0 ≤ state.bigBlind) (h : state.dealHand sha256 fairnessSeed = .ok next) :
    ∃ anchor, TurnFrom anchor next := by
  have hkeys' := (dealHand_betting hkeys hbigBlind h).keys
  obtain ⟨dealer, smallBlind, bigBlind, shuffled, withCards, -, rfl⟩ := dealHand_eq_ok.mp h
  exact ⟨_, turnFrom_of_fresh hkeys' rfl rfl⟩

theorem turning_kept : Kept sha256 Turning where
  move := by
    intro prior state next seat h hturn hmove _
    obtain ⟨anchor, hanchor⟩ := h hturn.status
    obtain ⟨f, hpasses⟩ := hmove.passes hturn
    exact ⟨_, hanchor.pass hturn hpasses⟩
  street := fun _ hbetting _ _ hstreet _ => hstreet.turning hbetting.keys
  opens := fun _ hkeys hbigBlind hdeal _ => dealHand_turning hkeys hbigBlind hdeal
  settled := fun _ _ _ _ hwaiting hactive => absurd (hwaiting.symm.trans hactive) (by simp)
  raked := by
    intro state restacked pots hands _ hwaiting hraked hactive
    obtain ⟨g, -, rfl⟩ := hraked
    exact absurd (hwaiting.symm.trans hactive) (by simp)
  touched := by
    intro state next h htouched hactive
    have hbefore : state.status = .active := by
      obtain ⟨g, -, rfl⟩ := htouched
      exact hactive
    obtain ⟨anchor, hanchor⟩ := h hbefore
    exact ⟨anchor, hanchor.touched htouched⟩
  joined := by
    intro state newcomer seatIndex h _ _ _ _ hactive
    obtain ⟨anchor, hanchor⟩ := h hactive
    refine ⟨anchor, hanchor.reseat fun row hactionable => ?_⟩
    rw [mem_joined]
    refine ⟨fun hrow => hrow.resolve_right ?_, .inl⟩
    rintro rfl
    cases hactionable.1
  left := by
    intro state seat seatIndex h hkeys hfind hleave hactive
    obtain ⟨anchor, hanchor⟩ := h hactive
    refine ⟨anchor, hanchor.reseat fun row hactionable => ⟨List.mem_of_mem_filter, fun hrow => ?_⟩⟩
    refine List.mem_filter.mpr ⟨hrow, decide_eq_true fun hindex => hleave ⟨hactive, .inl ?_⟩⟩
    have hsame : row = seat := eq_of_seatIndex_eq hkeys (mem_seats_of_find hfind) hrow
      (hindex.trans (seatIndex_of_find hfind).symm)
    exact hsame ▸ hactionable.1
  cleared := fun _ _ hactive => absurd hactive (by simp [resetSettledBoardState])

theorem Reachable.exists_actor (h : Reachable sha256 state) (hactive : state.status = .active) :
    ∃ seat ∈ state.seats, state.pendingActorSeatIndex = some seat.seatIndex ∧
      isSeatActionable seat ∧ seat.seatIndex ∉ state.actedSeatIndexes := by
  have hholds := h.holds (fun _ hs hactive => absurd (hs.waiting.symm.trans hactive) (by simp))
    turning_kept
  obtain ⟨anchor, hanchor⟩ := hholds.inv hactive
  exact hanchor.exists_actor (hholds.open_round hactive)

end Table

end RewardSystem.Holdem
