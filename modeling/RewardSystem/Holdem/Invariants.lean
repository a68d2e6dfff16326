import RewardSystem.Holdem.SidePots

/-!
# The rule for invariants of a table

What a fresh table has, and what dealing, the actions, the streets, the settlement and everything
around the hands keep, every reachable table has. The rule hands the betting invariant to each of
these cases.
-/

namespace RewardSystem.Holdem

open ApiError

namespace Table

/-- It is the turn of `seat` in a hand. -/
structure Turn (prior : Int) (state : Table) (seat : Seat) : Prop where
  betting : Betting prior state
  status : state.status = .active
  pending : state.pendingActorSeatIndex = some seat.seatIndex
  mem : seat ∈ state.seats
  active : seat.status = .active

/-- `P` is kept while a hand is played: by the actions and by the streets. -/
structure KeptInPlay (P : Table → Prop) : Prop where
  move : ∀ {prior : Int} {state next : Table} {seat : Seat}, P state → Turn prior state seat →
    Move state seat next → P next
  street : ∀ {prior : Int} {state next : Table}, P state → Betting prior state →
    state.status = .active → state.hasRoundCompleted → StreetDealt state next → P next

/-- `P` is kept by everything that happens at a table. -/
structure Kept (sha256 : HashFunction) (P : Table → Prop) : Prop extends KeptInPlay P where
  opens : ∀ {rest dealt : Table} {fairnessSeed : FairnessSeedInput}, P rest → rest.HasSeatKeys →
    0 ≤ rest.bigBlind → rest.dealHand sha256 fairnessSeed = .ok dealt → P dealt
  settled : ∀ {prior now : Int} {state next : Table}, P state → Betting prior state →
    state.status = .active → Ending now state next → next.status = .waiting → P next
  raked : ∀ {state restacked : Table} {pots : List Pot} {hands : List RecentHand}, P state →
    state.status = .waiting → Reseated Restacked state restacked →
    P { restacked with resolvedPots := pots, recentHands := hands }
  touched : ∀ {state next : Table}, P state → Reseated Touched state next → P next
  joined : ∀ {state : Table} {newcomer : Newcomer} {seatIndex : Nat}, P state →
    state.HasSeatKeys → 0 ≤ newcomer.stackAmount → seatIndex < state.maxSeats →
    state.findSeatByIndex seatIndex = none →
    P { state with seats := sortSeatsByIndex (state.seats ++ [seatOf newcomer seatIndex]) }
  left : ∀ {state : Table} {seat : Seat} {seatIndex : Nat}, P state → state.HasSeatKeys →
    state.findSeatByIndex seatIndex = some seat → state.canUserLeaveTable seat →
    P { state with seats := state.seats.filter fun row => row.seatIndex ≠ seatIndex }
  cleared : ∀ {state : Table}, P state → state.seats = [] →
    P { state with status := .waiting }.resetSettledBoardState

section Rule

variable {sha256 : HashFunction} {P : Table → Prop} {now : Int} {state next : Table} {prior : Int}

theorem KeptInPlay.progression {stage : Street} (h : KeptInPlay P) (hP : P state)
    (hbetting : Betting prior state) (hactive : state.status = .active)
    (hnext : state.resolveTerminalAndStreetProgression now stage = .ok next) :
    ∃ last prior, P last ∧ Betting prior last ∧ last.status = .active ∧ Ending now last next := by
  obtain ⟨last, ⟨hlast, prior', hbetting'⟩, hlastActive, hending⟩ :=
    progression_cases (I := fun s => P s ∧ ∃ prior, Betting prior s)
      (fun s t ⟨hs, p, hp⟩ hstatus hround hstreet =>
        ⟨hstreet.status.trans hstatus, h.street hs hp hstatus hround hstreet,
          p + s.currentBet, hp.street hround hstreet⟩)
      ⟨hP, prior, hbetting⟩ hactive hnext
  exact ⟨last, prior', hlast, hbetting', hlastActive, hending⟩

theorem KeptInPlay.act {seatIndex : Nat} {action : Action} {amount : AmountInput}
    (h : KeptInPlay P) (hP : P state) (hbetting : Betting prior state)
    (hact : state.actOnHoldemSeat now seatIndex action amount = .ok next) :
    ∃ last prior, P last ∧ Betting prior last ∧ last.status = .active ∧ Ending now last next := by
  obtain ⟨seat, stage, acted, haccepted, hacted, hprogress⟩ := actOnHoldemSeat_eq_ok.mp hact
  have hseat := mem_seats_of_find haccepted.find
  have hindex := seatIndex_of_find haccepted.find
  have hmove := applySeatAction_move (hbetting.facing hseat haccepted.active)
    haccepted.available hacted
  have hturn : Turn prior state seat :=
    ⟨hbetting, haccepted.status, hindex ▸ haccepted.pending, hseat, haccepted.active⟩
  exact h.progression (h.move hP hturn hmove) (hbetting.move hseat haccepted.active hmove)
    (hmove.status.trans haccepted.status) hprogress

/-! ## The betting round stays open -/

theorem round_touched (hround : ¬state.hasRoundCompleted) (hnext : Reseated Touched state next) :
    ¬next.hasRoundCompleted := by
  obtain ⟨g, hg, rfl⟩ := hnext
  refine fun hall => hround fun seat hseat => ?_
  rw [mem_listActionableSeats] at hseat
  obtain ⟨_, _, heq⟩ := hg seat
  have hmem : g seat ∈ ({ state with seats := state.seats.map g } : Table).listActionableSeats := by
    rw [mem_listActionableSeats, heq]
    exact ⟨heq ▸ List.mem_map_of_mem hseat.1, hseat.2⟩
  simpa [heq, touchSeat] using hall (g seat) hmem

theorem round_of_actionable {seats : List Seat} (hround : ¬state.hasRoundCompleted)
    (hseats : ∀ seat ∈ state.seats, isSeatActionable seat → seat ∈ seats) :
    ¬({ state with seats := seats } : Table).hasRoundCompleted := by
  refine fun hall => hround fun seat hseat => hall seat ?_
  rw [mem_listActionableSeats] at hseat ⊢
  exact ⟨hseats seat hseat.1 hseat.2, hseat.2⟩

/-! ## Steps -/

namespace Kept

theorem ending (h : Kept sha256 P) (hP : P state) (hbetting : Betting prior state)
    (hactive : state.status = .active) (hending : Ending now state next) :
    P next ∧ (next.status = .active → ¬next.hasRoundCompleted) := by
  rcases hending.settles with ⟨rfl, hround⟩ | hsettles
  · exact ⟨hP, fun _ => hround⟩
  · have hwaiting := hsettles.idle.1
    exact ⟨h.settled hP hbetting hactive hending hwaiting, fun hstill =>
      absurd (hwaiting.symm.trans hstill) (by simp)⟩

theorem start {rest : Table} {fairnessSeed : FairnessSeedInput} (h : Kept sha256 P) (hP : P rest)
    (hkeys : rest.HasSeatKeys) (hbigBlind : 0 ≤ rest.bigBlind)
    (hstart : rest.startHoldemHand sha256 now fairnessSeed = .ok next) :
    ∃ last prior, P last ∧ Betting prior last ∧ last.status = .active ∧ Ending now last next := by
  obtain ⟨dealt, hdealt, hprogress⟩ := startHoldemHand_eq_ok.mp hstart
  exact h.toKeptInPlay.progression (h.opens hP hkeys hbigBlind hdealt) (dealHand_betting hkeys hbigBlind hdealt)
    (dealHand_status hdealt) hprogress

/-- The invariant that the rule carries along. -/
structure Holds (P : Table → Prop) (state : Table) : Prop where
  sound : Sound state
  inv : P state
  open_round : state.status = .active → ¬state.hasRoundCompleted

theorem step (h : Kept sha256 P) (hstate : Holds P state) (hnext : Stepped sha256 state next) :
    Holds P next := by
  have hsound := hstate.sound.step hnext
  cases hnext with
  | stays => exact hstate
  | started hstart =>
      obtain ⟨last, prior, hlast, hbetting, hactive, hending⟩ :=
        h.start hstate.inv hstate.sound.keys hstate.sound.bigBlind_nonneg hstart
      obtain ⟨hinv, hround⟩ := h.ending hlast hbetting hactive hending
      exact ⟨hsound, hinv, hround⟩
  | @acted _ _ _ _ configured after hact =>
      obtain ⟨seat, stage, acted, haccepted, -, -⟩ := actOnHoldemSeat_eq_ok.mp hact
      obtain ⟨prior, hbetting⟩ := hstate.sound.hand haccepted.status
      obtain ⟨last, prior', hlast, hbetting', hactive, hending⟩ :=
        h.toKeptInPlay.act hstate.inv hbetting hact
      obtain ⟨hinv, hround⟩ := h.ending hlast hbetting' hactive hending
      obtain ⟨restacked, pots, hands, hrestacked, hraked, hsame⟩ :=
        takeRake_restacked after configured
      cases hstatus : after.status with
      | active =>
          have hunraked : (after.takeRake configured).1 = after :=
            hsame fun hsettled => absurd (hstatus.symm.trans hsettled.1) (by simp)
          rw [hunraked] at hsound ⊢
          exact ⟨hsound, hinv, hround⟩
      | waiting =>
          refine ⟨hsound, hraked ▸ h.raked hinv hstatus hrestacked, fun hstill => ?_⟩
          obtain ⟨g, -, rfl⟩ := hrestacked
          rw [hraked] at hstill
          exact absurd (hstatus.symm.trans hstill) (by simp)
  | touched htouched =>
      refine ⟨hsound, h.touched hstate.inv htouched, fun hactive => ?_⟩
      have hbefore : state.status = .active := by
        obtain ⟨g, -, rfl⟩ := htouched
        exact hactive
      exact round_touched (hstate.open_round hbefore) htouched
  | joined newcomer seatIndex hstack hlt hfree =>
      exact ⟨hsound, h.joined hstate.inv hstate.sound.keys hstack hlt hfree, fun hactive =>
        round_of_actionable (hstate.open_round hactive) fun seat hseat _ =>
          mem_joined.mpr (.inl hseat)⟩
  | @left seat seatIndex hfind hleave =>
      have hleft := h.left hstate.inv hstate.sound.keys hfind hleave
      refine ⟨hsound, ?_, fun hactive => ?_⟩
      · unfold clearTableAfterCashout
        split
        case isTrue hempty => exact h.cleared hleft hempty
        case isFalse => exact hleft
      · rcases clearTableAfterCashout_cases { state with
          seats := state.seats.filter fun row => row.seatIndex ≠ seatIndex } with
          ⟨-, hsame⟩ | ⟨-, -, hwaiting⟩
        · rw [hsame] at hactive ⊢
          refine round_of_actionable (hstate.open_round hactive) fun row hrow hact => ?_
          refine List.mem_filter.mpr ⟨hrow, decide_eq_true fun hindex => ?_⟩
          have hsameSeat : row = seat := eq_of_seatIndex_eq hstate.sound.keys
            (mem_seats_of_find hfind) hrow (hindex.trans (seatIndex_of_find hfind).symm)
          exact hleave ⟨hactive, .inl (hsameSeat ▸ hact.1)⟩
        · exact absurd (hwaiting.symm.trans hactive) (by simp)

end Kept

/-- **The rule.** A reachable table has what is kept; and in a hand somebody has to act. -/
theorem Reachable.holds (h : Reachable sha256 state) (hfresh : ∀ s, Fresh s → P s)
    (hkept : Kept sha256 P) : Kept.Holds P state :=
  h.invariant
    (fun s hs => ⟨hs.sound, hfresh s hs, fun hactive =>
      absurd (hs.waiting.symm.trans hactive) (by simp)⟩)
    fun _ _ hs ht => hkept.step hs ht

end Rule

end Table

end RewardSystem.Holdem
