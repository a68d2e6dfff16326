import RewardSystem.Holdem.Chips
import RewardSystem.Holdem.Offers

/-!
# Every hand ends

A check leaves one seat less that has yet to act, every other action leaves fewer chips behind, and
a street leaves fewer streets.
-/

namespace RewardSystem.Holdem

open ApiError Transition

namespace Table

variable {sha256 : HashFunction} {now : Int} {state next : Table} {seat : Seat} {prior : Int}
  {anchor : Nat}

/-! ## The measure -/

/-- The chips that a seat can still bet. -/
def liveStack (seat : Seat) : Nat :=
  if seat.status = .active then seat.stackAmount.toNat else 0

def liveChips (state : Table) : Nat :=
  (state.seats.map liveStack).sum

def waits (state : Table) (seat : Seat) : Nat :=
  if isSeatActionable seat ∧ seat.seatIndex ∉ state.actedSeatIndexes then 1 else 0

def yetToAct (state : Table) : Nat :=
  (state.seats.map state.waits).sum

/-- What is left of a hand. -/
def remaining (state : Table) : Nat :=
  (state.turnsLeft + state.liveChips) * (state.seats.length + 1) + state.yetToAct

theorem yetToAct_le (state : Table) : state.yetToAct ≤ state.seats.length := by
  have hone : ∀ n ∈ state.seats.map state.waits, n ≤ 1 := by
    intro n hn
    obtain ⟨seat, -, rfl⟩ := List.mem_map.mp hn
    unfold waits
    split <;> omega
  simpa [yetToAct] using List.sum_le_card_nsmul _ 1 hone

theorem remaining_lt (hlength : next.seats.length = state.seats.length)
    (hlt : next.turnsLeft + next.liveChips < state.turnsLeft + state.liveChips) :
    next.remaining < state.remaining := by
  have hacts := next.yetToAct_le
  unfold remaining
  rw [hlength] at hacts ⊢
  calc (next.turnsLeft + next.liveChips) * (state.seats.length + 1) + next.yetToAct
      < (next.turnsLeft + next.liveChips) * (state.seats.length + 1) + (state.seats.length + 1) := by
        omega
    _ = (next.turnsLeft + next.liveChips + 1) * (state.seats.length + 1) := by ring
    _ ≤ (state.turnsLeft + state.liveChips) * (state.seats.length + 1) :=
        Nat.mul_le_mul_right _ hlt
    _ ≤ (state.turnsLeft + state.liveChips) * (state.seats.length + 1) + state.yetToAct :=
        Nat.le_add_right _ _

theorem liveChips_updateSeat_lt {f : Seat → Seat} (hkeys : state.HasSeatKeys)
    (hseat : seat ∈ state.seats) (hlt : liveStack (f seat) < liveStack seat) :
    (state.updateSeat seat.seatIndex f).liveChips < state.liveChips := by
  unfold liveChips Table.updateSeat Keyed.modify
  simp only [List.map_map]
  refine List.sum_lt_sum _ _ (fun row hrow => ?_) ⟨seat, hseat, by simpa using hlt⟩
  by_cases hindex : row.seatIndex = seat.seatIndex
  · obtain rfl := eq_of_seatIndex_eq hkeys hseat hrow hindex
    simpa using hlt.le
  · simp only [Function.comp_apply, if_neg hindex, le_rfl]

theorem waits_le {row old : Seat}
    (h : isSeatActionable row → row.seatIndex ∉ next.actedSeatIndexes →
      isSeatActionable old ∧ old.seatIndex ∉ state.actedSeatIndexes) :
    next.waits row ≤ state.waits old := by
  unfold waits
  split_ifs with hrow hold
  · exact le_rfl
  · exact absurd (h hrow.1 hrow.2) hold
  · exact Nat.zero_le _
  · exact le_rfl

theorem applyCheck_remaining_lt (hactive : isSeatActionable seat) (hseat : seat ∈ state.seats)
    (hunacted : seat.seatIndex ∉ state.actedSeatIndexes)
    (hcheck : state.applyCheck seat = .ok next) :
    next.yetToAct < state.yetToAct ∧ next.liveChips = state.liveChips := by
  obtain ⟨-, rfl⟩ := applyCheck_eq_ok.mp hcheck
  set f : Seat → Seat := fun row =>
    if row.seatIndex = seat.seatIndex then { row with lastAction := some "Check" } else row with hf
  have hsame : ∀ row, liveStack (f row) = liveStack row ∧ (f row).seatIndex = row.seatIndex ∧
      (isSeatActionable (f row) ↔ isSeatActionable row) := by
    intro row
    by_cases hindex : row.seatIndex = seat.seatIndex
    · simp [hf, hindex, liveStack, isSeatActionable]
    · simp [hf, hindex]
  set checked := ((state.updateSeat seat.seatIndex fun row =>
    { row with lastAction := some "Check" }).markSeatActed seat.seatIndex).passTurn
      seat.seatIndex with hchecked
  have hseats : checked.seats = state.seats.map f := rfl
  have hacted : ∀ i, i ∈ checked.actedSeatIndexes ↔ i ∈ state.actedSeatIndexes ∨
      i = seat.seatIndex := fun i => mem_markSeatActed _ _ _
  constructor
  · unfold yetToAct
    rw [hseats, List.map_map]
    refine List.sum_lt_sum _ _ (fun row _ => waits_le fun hrow hwaits => ?_) ⟨seat, hseat, ?_⟩
    · obtain ⟨-, hindex, hable⟩ := hsame row
      rw [hindex, hacted, not_or] at hwaits
      exact ⟨hable.mp hrow, hwaits.1⟩
    · obtain ⟨-, hindex, -⟩ := hsame seat
      have hdone : checked.waits (f seat) = 0 :=
        if_neg fun h => h.2 (hindex ▸ (hacted _).mpr (.inr rfl))
      have hopen : state.waits seat = 1 := if_pos ⟨hactive, hunacted⟩
      simp only [Function.comp_apply, hdone, hopen, Nat.zero_lt_one]
  · unfold liveChips
    rw [hseats, List.map_map]
    exact congrArg List.sum (List.map_congr_left fun row _ => (hsame row).1)

/-! ## What falls -/

theorem Move.turnsLeft (hmove : Move state seat next) : next.turnsLeft = state.turnsLeft := by
  cases hmove with
  | fold _ => rfl
  | check _ hcheck =>
      obtain ⟨-, rfl⟩ := applyCheck_eq_ok.mp hcheck
      rfl
  | post _ _ => rfl

theorem Move.seats_length (hmove : Move state seat next) :
    next.seats.length = state.seats.length := by
  obtain ⟨f, hseats, -, -, -⟩ := hmove.seatIndexes
  rw [hseats, List.length_map]

theorem Move.remaining_lt (hturn : Turn prior state seat)
    (hunacted : seat.seatIndex ∉ state.actedSeatIndexes) (hmove : Move state seat next) :
    next.remaining < state.remaining := by
  have hkeys := hturn.betting.keys
  have hstack := (hturn.betting.level seat hturn.mem).active_stack hturn.active
  have hlive : liveStack seat = seat.stackAmount.toNat := if_pos hturn.active
  have hturns := hmove.turnsLeft
  have hlength := hmove.seats_length
  cases hmove with
  | fold _ =>
      refine Table.remaining_lt hlength ?_
      have hlt : (state.updateSeat seat.seatIndex fun row =>
          { row with status := .folded, lastAction := some "Fold" }).liveChips < state.liveChips :=
        liveChips_updateSeat_lt hkeys hturn.mem (by rw [hlive]; simp only [liveStack]; simp; omega)
      have hsame : (state.applyFold seat).liveChips = (state.updateSeat seat.seatIndex fun row =>
          { row with status := .folded, lastAction := some "Fold" }).liveChips := rfl
      omega
  | check _ hcheck =>
      obtain ⟨hfewer, hsame⟩ :=
        applyCheck_remaining_lt ⟨hturn.active, hstack⟩ hturn.mem hunacted hcheck
      unfold remaining
      rw [hturns, hlength, hsame]
      omega
  | post posting hlegal =>
      refine Table.remaining_lt hlength ?_
      have hpos := hlegal.transfer_pos
      have hposted := postFromStack_of_pos hpos hlegal.transfer_le
      have hfewer : liveStack (postSeat posting seat) < liveStack seat := by
        rw [hlive]
        unfold liveStack postSeat
        rw [hposted]
        by_cases hempty : seat.stackAmount - posting.transfer = 0
        · simp [hempty]
          omega
        · simp [hempty, hturn.active]
          omega
      have hlt := liveChips_updateSeat_lt hkeys hturn.mem hfewer
      have hsame : (state.post seat posting).liveChips =
          (state.updateSeat seat.seatIndex (postSeat posting)).liveChips := rfl
      omega

theorem liveChips_openStreet (state : Table) (stage : Street) :
    (state.openStreet stage).liveChips = state.liveChips := by
  unfold liveChips openStreet resetStreetCommitments
  simp only [List.map_map]
  refine congrArg List.sum (List.map_congr_left fun row _ => ?_)
  unfold liveStack
  by_cases hempty : row.status = .active ∧ row.stackAmount = 0
  · simp [hempty]
  · simp only [Function.comp_apply, if_neg hempty]

theorem StreetDealt.remaining_lt (hactive : state.status = .active)
    (hstreet : StreetDealt state next) : next.remaining < state.remaining := by
  have hturns := hstreet.turnsLeft_lt hactive
  obtain ⟨_, _, stage, dealt, -, -, hdeal, rfl⟩ := hstreet.exists_deal
  have hseats : dealt.seats = state.seats := by
    obtain ⟨-, rfl⟩ := dealCommunityCards_eq_ok.mp hdeal
    rfl
  have hchips : (dealt.openStreet stage).liveChips = state.liveChips := by
    rw [liveChips_openStreet]
    unfold liveChips
    rw [hseats]
  refine Table.remaining_lt ?_ (by omega)
  simp [openStreet, resetStreetCommitments, hseats]

/-! ## Runs of a hand -/

/-- A hand in play: the turn goes round, and somebody has to act. -/
structure UnderWay (state : Table) : Prop where
  exists_betting : ∃ prior, Betting prior state
  exists_turn : ∃ anchor, TurnFrom anchor state
  open_round : ¬state.hasRoundCompleted

/-- What an action leaves of a hand; nothing of one that is settled. -/
def handLeft (state : Table) : Nat :=
  if state.status = .active then state.remaining + 1 else 0

theorem progression_underWay {stage : Street} (hbetting : Betting prior state)
    (hturn : TurnFrom anchor state) (hactive : state.status = .active)
    (hnext : state.resolveTerminalAndStreetProgression now stage = .ok next) :
    (next.status = .active → UnderWay next) ∧ next.handLeft ≤ state.handLeft := by
  obtain ⟨last, ⟨⟨prior', hbetting'⟩, hturn', hle⟩, hlastActive, hending⟩ :=
    progression_cases
      (I := fun s => (∃ prior, Betting prior s) ∧ (∃ anchor, TurnFrom anchor s) ∧
        s.remaining ≤ state.remaining)
      (fun s t ⟨⟨p, hp⟩, _, hs⟩ hstatus hround hstreet =>
        ⟨hstreet.status.trans hstatus, ⟨_, hp.street hround hstreet⟩, hstreet.turning hp.keys,
          (hstreet.remaining_lt hstatus).le.trans hs⟩)
      ⟨⟨prior, hbetting⟩, ⟨anchor, hturn⟩, le_rfl⟩ hactive hnext
  rcases hending.settles with ⟨rfl, hround⟩ | hsettles
  · refine ⟨fun _ => ⟨⟨prior', hbetting'⟩, hturn', hround⟩, ?_⟩
    unfold handLeft
    rw [if_pos hlastActive, if_pos hactive]
    omega
  · have hwaiting := hsettles.idle.1
    refine ⟨fun hstill => absurd (hwaiting.symm.trans hstill) (by simp), ?_⟩
    unfold handLeft
    rw [hwaiting]
    exact Nat.zero_le _

/-- **Less is left after every action.** -/
theorem UnderWay.act {a : SeatAction} (h : state.status = .active → UnderWay state)
    (hact : state.act a = .ok next) :
    (next.status = .active → UnderWay next) ∧ next.handLeft < state.handLeft := by
  obtain ⟨seat, stage, acted, haccepted, hacted, hprogress⟩ := actOnHoldemSeat_eq_ok.mp hact
  obtain ⟨⟨prior, hbetting⟩, ⟨anchor, hanchor⟩, hround⟩ := h haccepted.status
  have hseat := mem_seats_of_find haccepted.find
  have hindex := seatIndex_of_find haccepted.find
  have hturn : Turn prior state seat :=
    ⟨hbetting, haccepted.status, hindex ▸ haccepted.pending, hseat, haccepted.active⟩
  have hunacted : seat.seatIndex ∉ state.actedSeatIndexes := by
    obtain ⟨actor, -, hpending, -, hunacted⟩ := hanchor.exists_actor hround
    have hsame : actor.seatIndex = seat.seatIndex :=
      Option.some.inj (hpending.symm.trans hturn.pending)
    exact hsame ▸ hunacted
  have hmove := applySeatAction_move (hbetting.facing hseat haccepted.active)
    haccepted.available hacted
  obtain ⟨f, hpasses⟩ := hmove.passes hturn
  have hactive : acted.status = .active := hmove.status.trans haccepted.status
  obtain ⟨hunderWay, hle⟩ := progression_underWay (hbetting.move hseat haccepted.active hmove)
    (hanchor.pass hturn hpasses) hactive hprogress
  refine ⟨hunderWay, hle.trans_lt ?_⟩
  have hlt := hmove.remaining_lt hturn hunacted
  unfold handLeft
  rw [if_pos hactive, if_pos haccepted.status]
  omega

theorem start_underWay {fairnessSeed : FairnessSeedInput} (hkeys : state.HasSeatKeys)
    (hbigBlind : 0 ≤ state.bigBlind)
    (hstart : state.startHoldemHand sha256 now fairnessSeed = .ok next) :
    next.status = .active → UnderWay next := by
  obtain ⟨dealt, hdealt, hprogress⟩ := startHoldemHand_eq_ok.mp hstart
  obtain ⟨anchor, hanchor⟩ := dealHand_turning hkeys hbigBlind hdealt
  exact (progression_underWay (dealHand_betting hkeys hbigBlind hdealt) hanchor
    (dealHand_status hdealt) hprogress).1

/-! ## A hand that is not over goes on -/

theorem dealHand_playable {fairnessSeed : FairnessSeedInput} (hkeys : state.HasSeatKeys)
    (hroomy : Roomy state) (h : state.dealHand sha256 fairnessSeed = .ok next) : Playable next := by
  obtain ⟨published, hhidden⟩ := dealHand_hidden hkeys hroomy.bigBlind_pos.le h
  obtain ⟨shuffled, hshuffled, hdeck, -⟩ := hhidden.commits.shuffle
  exact ⟨hhidden.dealt, hdeck ▸ deck_perm_of_shuffle hshuffled,
    roomy_kept.opens hroomy hkeys hroomy.bigBlind_pos.le h⟩

theorem Playable.ending {last : Table} (h : Playable last) (hactive : next.status = .active)
    (hending : Ending now last next) : Playable next := by
  rcases hending.settles with ⟨rfl, -⟩ | hsettles
  · exact h
  · exact absurd (hsettles.idle.1.symm.trans hactive) (by simp)

theorem exists_act (hunderWay : UnderWay state) (hplay : Playable state)
    (hactive : state.status = .active) : ∃ a next, state.act a = .ok next := by
  obtain ⟨⟨prior, hbetting⟩, ⟨anchor, hanchor⟩, hround⟩ := hunderWay
  obtain ⟨seat, hseat, hpending, hable, -⟩ := hanchor.exists_actor hround
  have hturn : Turn prior state seat := ⟨hbetting, hactive, hpending, hseat, hable.1⟩
  obtain ⟨availability, havailability, hadvertises⟩ :=
    exists_availability hbetting.keys hactive hpending hseat hable.1
  obtain ⟨action, -, havailable, hkind⟩ := exists_timeoutAction havailability hadvertises
  have hoffered : Offered availability action .missing := by
    rcases hkind with rfl | rfl <;> trivial
  obtain ⟨next, hnext⟩ :=
    actOnHoldemSeat_accepts 0 hturn hplay hadvertises havailable hoffered
  exact ⟨⟨seat.seatIndex, action, .missing, 0⟩, next, hnext⟩

/-- **Every hand ends.** A hand takes no more than so many actions, whoever makes them, and the loop
of every action ends. At a table of the permitted size a hand in which nothing more can be done is
settled. -/
theorem hands_end {rest started : Table} {fairnessSeed : FairnessSeedInput}
    (hkeys : rest.HasSeatKeys) (hbigBlind : 0 < rest.bigBlind)
    (hstart : rest.startHoldemHand sha256 now fairnessSeed = .ok started) :
    (∃ bound, ∀ events state, Run (Accepts act) started events state → events.length ≤ bound) ∧
    (¬∃ states : Nat → Table, states 0 = started ∧
      ∀ n, ∃ a, (states n).act a = .ok (states (n + 1))) ∧
    (∀ state stage now, ∃ result,
      Loop.EndsWith (progressionTurn now) (state, stage) result) ∧
    (Roomy rest → ∀ events state, Run (Accepts act) started events state →
      (∀ a next, state.act a ≠ .ok next) → state.status = .waiting) := by
  have hstarted := start_underWay hkeys hbigBlind.le hstart
  have hfalls : ∀ (u : Table) (a : SeatAction) (v : Table), (u.status = .active → UnderWay u) →
      Accepts act u a v → (v.status = .active → UnderWay v) ∧ v.handLeft < u.handLeft :=
    fun u a v hu hstep => UnderWay.act hu hstep
  refine ⟨⟨started.handLeft, fun events state hrun => ?_⟩, ?_, fun state stage now => ?_,
    fun hroomy events state hrun hstuck => ?_⟩
  · have := hrun.length_le_of_measure handLeft hfalls hstarted
    omega
  · rintro ⟨states, hzero, hsteps⟩
    refine not_endless_of_measure handLeft hfalls ?_ hsteps
    rw [hzero]
    exact hstarted
  · obtain ⟨result, hresult⟩ := @progression_ends now state stage
    exact ⟨result, 5, hresult⟩
  · by_contra hstatus
    have hactive : state.status = .active := by
      cases h : state.status with
      | active => rfl
      | waiting => exact absurd h hstatus
    have hplays : state.status = .active → Playable state ∧ UnderWay state := by
      obtain ⟨dealt, hdealt, hprogress⟩ := startHoldemHand_eq_ok.mp hstart
      obtain ⟨last, prior, hlast, -, -, hending⟩ := playable_keptInPlay.progression
        (dealHand_playable hkeys hroomy hdealt) (dealHand_betting hkeys hbigBlind.le hdealt)
        (dealHand_status hdealt) hprogress
      refine hrun.invariant (I := fun s => s.status = .active → Playable s ∧ UnderWay s)
        (fun u a v hu hstep hv => ?_) fun h => ⟨hlast.ending h hending, hstarted h⟩
      have hu' : u.status = .active := by
        obtain ⟨_, _, _, haccepted, -, -⟩ := actOnHoldemSeat_eq_ok.mp hstep
        exact haccepted.status
      obtain ⟨hplay, hunderWay⟩ := hu hu'
      obtain ⟨prior, hbetting⟩ := hunderWay.exists_betting
      obtain ⟨last, prior', hlast, -, -, hending⟩ := playable_keptInPlay.act hplay hbetting hstep
      exact ⟨hlast.ending hv hending, (UnderWay.act (fun _ => hunderWay) hstep).1 hv⟩
    obtain ⟨hplay, hunderWay⟩ := hplays hactive
    obtain ⟨a, next, hnext⟩ := exists_act hunderWay hplay hactive
    exact hstuck a next hnext

/-- Two players. -/
theorem hands_end_headsUp :
    ∃ rest started : Table, rest.startHoldemHand zeroHash 0 sampleSeed = .ok started ∧
      started.status = .active ∧
      ∃ bound, ∀ events state, Run (Accepts act) started events state → events.length ≤ bound := by
  let rest := createdTable .cash [samplePlayer 7 5000, samplePlayer 8 5000]
  obtain ⟨started, hstart, hactive⟩ := @exists_ok_of_check _
    (rest.startHoldemHand zeroHash 0 sampleSeed) (fun t => t.status = .active) (by decide +kernel)
  exact ⟨rest, started, hstart, by simpa using hactive,
    (hands_end (createdTable_fresh .cash (by decide) (by decide)).keys (by decide) hstart).1⟩

end Table

end RewardSystem.Holdem
