import RewardSystem.Holdem.Settlement
import RewardSystem.Holdem.Turns

/-!
# The steps of a table
-/

namespace RewardSystem.Holdem

open ApiError Transition

/-- `after` is `before` with other clocks, or sitting out where it did not. -/
def Touched (before after : Seat) : Prop :=
  ∃ sittingOut presence, after = { Table.touchSeat presence before with sittingOut := sittingOut }

/-- `after` is `before` with another stack. -/
def Restacked (before after : Seat) : Prop :=
  ∃ stackAmount, after = { before with stackAmount := stackAmount }

theorem Restacked.refl (seat : Seat) : Restacked seat seat :=
  ⟨_, rfl⟩

theorem Restacked.trans (a b c : Seat) (h : Restacked a b) (h' : Restacked b c) :
    Restacked a c := by
  obtain ⟨_, rfl⟩ := h
  obtain ⟨_, rfl⟩ := h'
  exact ⟨_, rfl⟩

theorem Touched.refl (seat : Seat) : Touched seat seat :=
  ⟨seat.sittingOut, ⟨seat.presenceHeartbeatAt, seat.disconnectGraceExpiresAt,
    seat.seatLeaseExpiresAt, seat.autoCashOutPending, seat.turnDeadlineAt,
    seat.timeBankRemainingMs⟩, rfl⟩

namespace Table

variable {sha256 : HashFunction} {now : Int} {state next : Table} {seat : Seat}

/-! ## Rake -/

theorem takeRakeFromSeats_restacked (parts : List (Nat × Int)) (state : Table) :
    Reseated Restacked state (takeRakeFromSeats parts state) := by
  refine .foldl Restacked.refl Restacked.trans (fun s part => ?_) parts state
  refine .updateSeat Restacked.refl (fun row => ?_) s part.1
  unfold subtractFromSeatStack
  split
  · exact .refl row
  · exact ⟨_, rfl⟩

theorem rakePots_restacked (pots : List Pot) (progress : RakeProgress) :
    Reseated Restacked progress.table (rakePots progress pots).1.table := by
  induction pots generalizing progress with
  | nil => exact .refl Restacked.refl _
  | cons pot pots ih =>
      have hfirst : Reseated Restacked progress.table (rakePot progress pot).1.table := by
        unfold rakePot
        simp only
        split
        · exact .refl Restacked.refl _
        · exact takeRakeFromSeats_restacked _ _
      exact hfirst.trans Restacked.trans (ih _)

theorem takeRake_restacked (state : Table) (configured : RakePolicy) :
    ∃ restacked pots hands, Reseated Restacked state restacked ∧
      (state.takeRake configured).1 =
        { restacked with resolvedPots := pots, recentHands := hands } ∧
      (¬state.isSettledHoldemState → (state.takeRake configured).1 = state) := by
  unfold takeRake
  by_cases hsettled : state.isSettledHoldemState
  · rw [if_pos hsettled]
    cases state.resolveHoldemRakePolicySnapshot configured with
    | none => exact ⟨state, _, _, .refl Restacked.refl _, rfl, fun h => absurd hsettled h⟩
    | some policy =>
        simp only [applyRakeToSettledState]
        split
        · exact ⟨state, _, _, .refl Restacked.refl _, rfl, fun h => absurd hsettled h⟩
        · exact ⟨_, _, _, rakePots_restacked state.resolvedPots
            { remaining := state.rakeDue policy, table := state, seatRakes := [] }, rfl,
            fun h => absurd hsettled h⟩
  · rw [if_neg hsettled]
    exact ⟨state, _, _, .refl Restacked.refl _, rfl, fun _ => rfl⟩

/-! ## Steps -/

inductive Stepped (sha256 : HashFunction) (state : Table) : Table → Prop
  | stays : Stepped sha256 state state
  | started {now : Int} {fairnessSeed : FairnessSeedInput} {next : Table} :
      state.startHoldemHand sha256 now fairnessSeed = .ok next → Stepped sha256 state next
  | acted {now : Int} {seatIndex : Nat} {action : Action} {amount : AmountInput}
      {configured : RakePolicy} {after : Table} :
      state.actOnHoldemSeat now seatIndex action amount = .ok after →
      Stepped sha256 state (after.takeRake configured).1
  | touched {next : Table} : Reseated Touched state next → Stepped sha256 state next
  | joined (newcomer : Newcomer) (seatIndex : Nat) : 0 ≤ newcomer.stackAmount →
      seatIndex < state.maxSeats → state.findSeatByIndex seatIndex = none →
      Stepped sha256 state
        { state with seats := sortSeatsByIndex (state.seats ++ [seatOf newcomer seatIndex]) }
  | left {seat : Seat} {seatIndex : Nat} : state.findSeatByIndex seatIndex = some seat →
      state.canUserLeaveTable seat →
      Stepped sha256 state
        { state with seats := state.seats.filter fun row =>
          row.seatIndex ≠ seatIndex }.clearTableAfterCashout

theorem takeSeat_cases {newcomer : Newcomer} (h : state.takeSeat newcomer = .ok next) :
    ∃ seatIndex, 0 ≤ newcomer.stackAmount ∧ seatIndex < state.maxSeats ∧
      state.findSeatByIndex seatIndex = none ∧
      next = { state with
        seats := sortSeatsByIndex (state.seats ++ [seatOf newcomer seatIndex]) } := by
  unfold takeSeat at h
  obtain ⟨_, -, h⟩ := bind_eq_ok.mp h
  obtain ⟨_, hstack, h⟩ := bind_eq_ok.mp h
  rw [throwIf_eq_ok, not_lt] at hstack
  split at h
  · cases h
  case h_2 seatIndex hfind =>
      injection h with h
      exact ⟨seatIndex, hstack, List.mem_range.mp (List.mem_of_find?_eq_some hfind),
        by simpa using List.find?_some hfind, h.symm⟩

theorem leaveSeat_cases {seatIndex : Nat} (h : state.leaveSeat seatIndex = .ok next) :
    ∃ seat, state.findSeatByIndex seatIndex = some seat ∧ state.canUserLeaveTable seat ∧
      next = { state with seats := state.seats.filter fun row =>
        row.seatIndex ≠ seatIndex }.clearTableAfterCashout := by
  unfold leaveSeat at h
  split at h
  · cases h
  case h_2 seat hseat =>
      obtain ⟨_, hleave, h⟩ := bind_eq_ok.mp h
      rw [throwIf_eq_ok, not_not] at hleave
      injection h with h
      exact ⟨seat, hseat, hleave, h.symm⟩

theorem setHoldemSeatMode_touched {seatIndex : Nat} {sittingOut : Bool}
    (h : state.setHoldemSeatMode seatIndex sittingOut = .ok next) :
    Reseated Touched state next := by
  unfold setHoldemSeatMode at h
  split at h
  · cases h
  · obtain ⟨_, -, h⟩ := bind_eq_ok.mp h
    injection h with h
    rw [← h]
    exact .updateSeat Touched.refl (fun seat => ⟨sittingOut, ⟨seat.presenceHeartbeatAt,
      seat.disconnectGraceExpiresAt, seat.seatLeaseExpiresAt, seat.autoCashOutPending,
      seat.turnDeadlineAt, seat.timeBankRemainingMs⟩, rfl⟩) state seatIndex

theorem timeoutAction_cases {seatIndex : Nat} {action : Action}
    (h : state.resolveHoldemTimeoutAction seatIndex = some action) :
    action = .fold ∨ action = .check := by
  unfold resolveHoldemTimeoutAction at h
  split at h
  · cases h
  · split_ifs at h
    · exact .inr (Option.some.inj h).symm
    · exact .inl (Option.some.inj h).symm

theorem processExpiredHoldemTurn_cases {after : Option Table}
    (h : state.processExpiredHoldemTurn now = .ok after) :
    after = none ∨ ∃ seatIndex action next, after = some next ∧
      (action = .fold ∨ action = .check) ∧
      state.actOnHoldemSeat now seatIndex action .missing = .ok next := by
  unfold processExpiredHoldemTurn at h
  split at h
  · injection h with h
    exact .inl h.symm
  · split at h
    · injection h with h
      exact .inl h.symm
    · split at h
      · injection h with h
        exact .inl h.symm
      · split at h
        · injection h with h
          exact .inl h.symm
        case h_2 seat _ _ _ _ _ _ action haction =>
          obtain ⟨next, hnext, h⟩ := bind_eq_ok.mp h
          injection h with h
          exact .inr ⟨seat.seatIndex, action, next, h.symm, timeoutAction_cases haction, hnext⟩

/-- **Every step is one of these.** -/
theorem step_cases {operation : Operation} (h : state.step sha256 operation = .ok next) :
    Stepped sha256 state next := by
  cases operation with
  | start fairnessSeed now => exact .started h
  | act seatIndex action amount configured now =>
      obtain ⟨after, hafter, h⟩ := bind_eq_ok.mp h
      injection h with h
      exact h ▸ .acted hafter
  | timeout configured now =>
      obtain ⟨after, hafter, h⟩ := bind_eq_ok.mp h
      rcases processExpiredHoldemTurn_cases hafter with
        rfl | ⟨seatIndex, action, acted, rfl, -, hact⟩
      · injection h with h
        exact h ▸ .stays
      · injection h with h
        exact h ▸ .acted hact
  | setSeatMode seatIndex sittingOut => exact .touched (setHoldemSeatMode_touched h)
  | touch seatIndex presence =>
      injection h with h
      rw [← h]
      exact .touched (.updateSeat Touched.refl (fun seat => ⟨seat.sittingOut, presence, rfl⟩) state
        seatIndex)
  | join newcomer =>
      obtain ⟨seatIndex, hstack, hlt, hfree, rfl⟩ := takeSeat_cases h
      exact .joined newcomer seatIndex hstack hlt hfree
  | leave seatIndex =>
      obtain ⟨seat, hseat, hleave, rfl⟩ := leaveSeat_cases h
      exact .left hseat hleave

theorem Reachable.invariant {I : Table → Prop} (hfresh : ∀ s, Fresh s → I s)
    (hstep : ∀ s t, I s → Stepped sha256 s t → I t) (h : Reachable sha256 state) : I state := by
  obtain ⟨fresh, events, hfreshTable, hrun⟩ := h
  exact hrun.invariant (fun s _ t hs ht => hstep s t hs (step_cases ht)) (hfresh fresh hfreshTable)

/-! ## Seats of the next state -/

theorem mem_joined {newcomer : Newcomer} {seatIndex : Nat} :
    seat ∈ sortSeatsByIndex (state.seats ++ [seatOf newcomer seatIndex]) ↔
      seat ∈ state.seats ∨ seat = seatOf newcomer seatIndex := by
  simp

theorem hasKeys_joined {newcomer : Newcomer} {seatIndex : Nat} (hkeys : state.HasSeatKeys)
    (hfree : state.findSeatByIndex seatIndex = none) :
    Keyed.HasKeys Seat.seatIndex (sortSeatsByIndex (state.seats ++ [seatOf newcomer seatIndex])) := by
  have happend : Keyed.HasKeys Seat.seatIndex (state.seats ++ [seatOf newcomer seatIndex]) :=
    Keyed.hasKeys_append hkeys hfree
  exact ((sortSeatsByIndex_perm _).map Seat.seatIndex).nodup_iff.mpr happend

theorem hasKeys_filter (keep : Seat → Bool) (hkeys : state.HasSeatKeys) :
    Keyed.HasKeys Seat.seatIndex (state.seats.filter keep) :=
  hkeys.sublist (List.filter_sublist.map Seat.seatIndex)

theorem clearTableAfterCashout_cases (state : Table) :
    (state.seats ≠ [] ∧ state.clearTableAfterCashout = state) ∨
      (state.seats = [] ∧ state.clearTableAfterCashout.seats = [] ∧
        state.clearTableAfterCashout.status = .waiting) := by
  unfold clearTableAfterCashout
  by_cases h : state.seats = []
  · exact .inr ⟨h, by rw [if_pos h]; exact h, by rw [if_pos h]; rfl⟩
  · exact .inl ⟨h, if_neg h⟩

end Table

end RewardSystem.Holdem
