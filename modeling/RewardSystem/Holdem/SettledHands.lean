import RewardSystem.Holdem.Rake

/-!
# Settled hands and their rake

A hand that is settled was paid out of the state it ended in, and every pot of it has a winner. The
rake takes back from the winners a part of what they won, so nobody comes out of a hand in debt.
-/

namespace RewardSystem.Holdem

open ApiError

namespace Table

variable {sha256 : HashFunction} {now prior : Int} {state last settled next : Table} {pot : Pot}
  {policy : RakePolicy} {i : Nat}

/-! ## Pots with winners -/

theorem exists_of_mem_right {α β : Type*} {R : α → β → Prop} {as : List α} {bs : List β} {b : β}
    (h : List.Forall₂ R as bs) (hb : b ∈ bs) : ∃ a ∈ as, R a b := by
  induction h with
  | nil => cases hb
  | cons hfirst _ ih =>
      rcases List.mem_cons.mp hb with rfl | hb
      · exact ⟨_, List.mem_cons_self, hfirst⟩
      · obtain ⟨a, ha, hrelated⟩ := ih hb
        exact ⟨a, List.mem_cons_of_mem _ ha, hrelated⟩

/-- `settled` is the settlement of the hand that ended in `last`. -/
structure SettledHand (last settled : Table) : Prop extends PaidFrom last settled where
  won : ∀ pot ∈ settled.resolvedPots, Won pot ∧ pot.rakeAmount = 0
  seated : ∀ pot ∈ settled.resolvedPots, Seated settled pot.winnerSeatIndexes

theorem PaidFrom.settledHand (h : PaidFrom last settled)
    (hwinners : ∀ pot ∈ settled.resolvedPots, pot.winnerSeatIndexes ≠ [] ∧
      Seated last pot.winnerSeatIndexes) : SettledHand last settled := by
  refine ⟨h, fun pot hpot => ?_, fun pot hpot => h.pays.seated (hwinners pot hpot).2⟩
  obtain ⟨old, hold, heq⟩ := exists_of_mem_right h.pots hpot
  refine ⟨⟨?_, h.nodup pot hpot, (hwinners pot hpot).1⟩, ?_⟩
  · rw [heq]
    exact (amount_pos_of_mem_potViews hold).le
  · rw [heq]
    exact (pending_of_mem_potViews hold).rake

theorem settleShowdown_settledHand (hbetting : Betting prior last)
    (h : last.settleShowdown now = .ok settled) : SettledHand last settled := by
  obtain ⟨shown, bestHands, -, hpots, hpays⟩ := settleShowdown_spec h
  obtain ⟨leader, hleader, -, -, hleads⟩ := hbetting.leader_eligible
  have hcontenders : ∀ pot ∈ last.buildPendingPotViews, last.contenders pot = pot.eligibleSeatIndexes :=
    fun pot => contenders_pending hbetting.keys
  refine PaidFrom.settledHand ⟨hpots.imp fun _ _ hpot => hpot.eq, fun pot hpot => ?_, hpays⟩
    fun pot hpot => ?_
  · obtain ⟨old, hold, hresolved⟩ := exists_of_mem_right ((List.forall₂_and_left _ _).mpr
      ⟨fun _ h => h, hpots⟩) hpot
    exact hresolved.2.nodup (hcontenders old hold ▸ eligible_nodup hbetting.keys hold)
  · obtain ⟨old, hold, hresolved⟩ := exists_of_mem_right hpots hpot
    refine ⟨hresolved.ne_nil ?_, fun w hw => ?_⟩
    · rw [hcontenders old hold]
      exact List.ne_nil_of_mem (hleads old hold)
    · have hmem := ((hresolved.mem_winners w).mp hw).1
      obtain ⟨seat, hseat, hindex, -⟩ := mem_eligible hold (hcontenders old hold ▸ hmem)
      exact ⟨seat, hseat, hindex⟩

theorem settleByFold_settledHand {stage : Street} (h : last.settleByFold now stage = .ok settled) :
    SettledHand last settled := by
  have hpaid := settleByFold_paidFrom h
  unfold settleByFold at h
  split at h
  · cases h
  case h_2 winner rest hwinner =>
    injection h with h
    have hmem : winner ∈ last.seats :=
      (mem_listNonFoldedSeats.mp (hwinner ▸ List.mem_cons_self)).1
    refine hpaid.settledHand fun pot hpot => ?_
    rw [← h] at hpot
    obtain ⟨old, -, rfl⟩ := List.mem_map.mp hpot
    exact ⟨List.cons_ne_nil _ _, fun w hw => ⟨winner, hmem, (List.mem_singleton.mp hw).symm⟩⟩

theorem Ending.settledHand (hbetting : Betting prior last) (hactive : last.status = .active)
    (hending : Ending now last settled) (hwaiting : settled.status = .waiting) :
    SettledHand last settled := by
  cases hending with
  | playing _ _ =>
      rw [hactive] at hwaiting
      cases hwaiting
  | byFold stage _ _ hfold => exact settleByFold_settledHand hfold
  | showdown _ _ hshowdown => exact settleShowdown_settledHand hbetting hshowdown

/-! ## Nobody is in debt -/

theorem rakeOf_le_shareOf {pots raked : List Pot} (hpots : ∀ pot ∈ pots, Won pot)
    (h : List.Forall₂ (fun pot raked => raked = { pot with rakeAmount := raked.rakeAmount } ∧
      0 ≤ raked.rakeAmount ∧ raked.rakeAmount ≤ pot.amount) pots raked) (i : Nat) :
    rakeOf raked i ≤ shareOf pots i := by
  induction h with
  | nil => exact le_rfl
  | cons hfirst _ ih =>
      obtain ⟨hpot, hothers⟩ := List.forall_mem_cons.mp hpots
      obtain ⟨heq, -, hle⟩ := hfirst
      simp only [rakeOf, List.map_cons, List.sum_cons]
      rw [shareOf_cons]
      refine add_le_add ?_ (ih hothers)
      rw [heq]
      exact Shares.amountOf_split_mono hpot.nodup hle i

theorem SettledHand.raked (h : SettledHand last settled) (policy : RakePolicy) :
    RakeTaken settled (settled.applyRakeToSettledState policy).1
      (settled.applyRakeToSettledState policy).2 :=
  applyRake_taken h.won h.seated

theorem Pays.funded {due : Nat → Int} (h : Pays due state next) (hdue : ∀ i, 0 ≤ due i)
    (hfunded : state.Funded) : next.Funded := by
  obtain ⟨g, hg, hseats⟩ := h
  intro row hrow
  rw [hseats] at hrow
  obtain ⟨seat, hseat, rfl⟩ := List.mem_map.mp hrow
  have hstack := hfunded seat hseat
  have hgain := hdue seat.seatIndex
  rw [(hg seat).stack]
  omega

theorem SettledHand.raked_funded (h : SettledHand last settled) (hfunded : last.Funded)
    (policy : RakePolicy) : (settled.applyRakeToSettledState policy).1.Funded := by
  have htaken := h.raked policy
  refine (h.pays.trans htaken.pays).funded (fun i => ?_) hfunded
  have hle := rakeOf_le_shareOf (fun pot hpot => (h.won pot hpot).1) htaken.pots i
  omega

theorem SettledHand.funded (h : SettledHand last settled) (hfunded : last.Funded) :
    settled.Funded := by
  refine h.pays.funded (fun i => Shares.amountOf_nonneg fun share hshare => ?_) hfunded
  obtain ⟨pot, hpot, hmem⟩ := List.mem_flatMap.mp hshare
  exact Shares.split_nonneg (h.won pot hpot).1.amount_nonneg share hmem

theorem funded_keptInPlay : KeptInPlay Funded where
  move hfunded hturn hmove :=
    (InPlay.move ⟨⟨_, hturn.betting⟩, hfunded, rfl⟩ hturn.mem hturn.active hmove).funded
  street hfunded hbetting _ hround hstreet :=
    (InPlay.street ⟨⟨_, hbetting⟩, hfunded, rfl⟩ hround hstreet).funded

theorem takeRake_funded (hbetting : Betting prior last) (hactive : last.status = .active)
    (hfunded : last.Funded) (hending : Ending now last settled) (configured : RakePolicy) :
    (settled.takeRake configured).1.Funded := by
  unfold takeRake
  split
  case isTrue hsettled =>
    have hhand := hending.settledHand hbetting hactive hsettled.1
    split
    · exact hhand.funded hfunded
    · exact hhand.raked_funded hfunded _
  case isFalse hopen =>
    rcases hending.settles with ⟨rfl, -⟩ | hsettles
    · exact hfunded
    · obtain ⟨paid, stage, potAmount, revealed, winners, pots, -, rfl⟩ := hsettles.exists_paid
      exact absurd ⟨rfl, rfl⟩ hopen

theorem Funded.step (hsound : Sound state) (hfunded : state.Funded)
    (hstep : Stepped sha256 state next) : next.Funded := by
  cases hstep with
  | stays => exact hfunded
  | started hstart =>
      obtain ⟨dealt, hdealt, hprogress⟩ := startHoldemHand_eq_ok.mp hstart
      rcases (dealHand_inPlay hsound.keys hsound.bigBlind_nonneg hfunded hdealt).progression
        (dealHand_status hdealt) hprogress with ⟨-, hplay⟩ | ⟨-, hpaid⟩
      · exact hplay.funded
      · exact hpaid.funded
  | acted hact =>
      obtain ⟨seat, stage, acted, haccepted, -, -⟩ := actOnHoldemSeat_eq_ok.mp hact
      obtain ⟨prior, hbetting⟩ := hsound.hand haccepted.status
      obtain ⟨last, prior', hlast, hbetting', hactive, hending⟩ :=
        funded_keptInPlay.act hfunded hbetting hact
      exact takeRake_funded hbetting' hactive hlast hending _
  | touched htouched =>
      obtain ⟨g, hg, rfl⟩ := htouched
      intro row hrow
      obtain ⟨seat, hseat, rfl⟩ := List.mem_map.mp hrow
      obtain ⟨_, _, heq⟩ := hg seat
      rw [heq]
      exact hfunded seat hseat
  | joined newcomer seatIndex hstack _ _ =>
      intro row hrow
      rcases mem_joined.mp hrow with hrow | rfl
      · exact hfunded row hrow
      · exact hstack
  | left _ _ =>
      intro row hrow
      rcases clearTableAfterCashout_cases { state with
        seats := state.seats.filter fun row => row.seatIndex ≠ _ } with
        ⟨-, hsame⟩ | ⟨-, hempty, -⟩
      · rw [hsame] at hrow
        exact hfunded row (List.mem_of_mem_filter hrow)
      · rw [hempty] at hrow
        cases hrow

theorem Reachable.funded (h : Reachable sha256 state) : state.Funded := by
  refine (h.invariant (I := fun s => Sound s ∧ s.Funded) (fun s hs => ⟨hs.sound, fun seat hseat => ?_⟩)
    fun s t hs hstep => ⟨hs.1.step hstep, Funded.step hs.1 hs.2 hstep⟩).2
  obtain ⟨newcomer, hstack, -, heq⟩ := hs.seats seat hseat
  rw [heq]
  exact hstack

/-! ## The hands of a reachable table -/

/-- The hand at `before` is settled by an action, or as soon as it starts. -/
inductive Settling (sha256 : HashFunction) (before : Table) : Table → Prop
  | byAction {now : Int} {seatIndex : Nat} {action : Action} {amount : AmountInput}
      {settled : Table} : before.actOnHoldemSeat now seatIndex action amount = .ok settled →
      settled.isSettledHoldemState → Settling sha256 before settled
  | atStart {now : Int} {fairnessSeed : FairnessSeedInput} {settled : Table} :
      before.startHoldemHand sha256 now fairnessSeed = .ok settled →
      settled.isSettledHoldemState → Settling sha256 before settled

theorem Settling.isSettled {before : Table} (h : Settling sha256 before settled) :
    settled.isSettledHoldemState := by
  cases h with
  | byAction _ hsettled => exact hsettled
  | atStart _ hsettled => exact hsettled

theorem Settling.hand {before : Table} (h : Settling sha256 before settled)
    (hreach : Reachable sha256 before) :
    ∃ last prior, Betting prior last ∧ last.Funded ∧ SettledHand last settled := by
  have hsound := hreach.sound
  cases h with
  | byAction hact hsettled =>
      obtain ⟨seat, stage, acted, haccepted, -, -⟩ := actOnHoldemSeat_eq_ok.mp hact
      obtain ⟨prior, hbetting⟩ := hsound.hand haccepted.status
      obtain ⟨last, prior', hlast, hbetting', hactive, hending⟩ :=
        funded_keptInPlay.act hreach.funded hbetting hact
      exact ⟨last, prior', hbetting', hlast, hending.settledHand hbetting' hactive hsettled.1⟩
  | atStart hstart hsettled =>
      obtain ⟨dealt, hdealt, hprogress⟩ := startHoldemHand_eq_ok.mp hstart
      have hbetting := dealHand_betting hsound.keys hsound.bigBlind_nonneg hdealt
      have hfunded := (dealHand_inPlay hsound.keys hsound.bigBlind_nonneg hreach.funded hdealt).funded
      obtain ⟨last, prior', hlast, hbetting', hactive, hending⟩ :=
        funded_keptInPlay.progression hfunded hbetting (dealHand_status hdealt) hprogress
      exact ⟨last, prior', hbetting', hlast, hending.settledHand hbetting' hactive hsettled.1⟩

/-! ## Sums over the seats -/

theorem Pays.stackTotal {due : Nat → Int} (h : Pays due state next) :
    next.stackTotal = state.stackTotal + (state.seats.map fun seat => due seat.seatIndex).sum := by
  obtain ⟨g, hg, hseats⟩ := h
  unfold Table.stackTotal
  rw [hseats, List.map_map, ← List.sum_map_add]
  congr 1
  exact List.map_congr_left fun seat _ => (hg seat).stack

theorem rakeOf_eq_amountOf (pots : List Pot) (i : Nat) : rakeOf pots i = Shares.amountOf
    (pots.flatMap fun pot => Shares.split pot.rakeAmount pot.winnerSeatIndexes) i := by
  induction pots with
  | nil => rfl
  | cons pot pots ih =>
      rw [List.flatMap_cons, Shares.amountOf_append, ← ih]
      exact List.sum_cons

theorem sum_amountOf_pots (hkeys : state.HasSeatKeys) (amount : Pot → Int) {pots : List Pot}
    (hpots : ∀ pot ∈ pots, pot.winnerSeatIndexes ≠ [] ∧ Seated state pot.winnerSeatIndexes) :
    (state.seats.map fun seat => Shares.amountOf (pots.flatMap fun pot =>
      Shares.split (amount pot) pot.winnerSeatIndexes) seat.seatIndex).sum =
      (pots.map amount).sum := by
  have hparts : ∀ part ∈ pots.flatMap fun pot => Shares.split (amount pot) pot.winnerSeatIndexes,
      part.1 ∈ state.seats.map Seat.seatIndex := by
    intro part hpart
    obtain ⟨pot, hpot, hmem⟩ := List.mem_flatMap.mp hpart
    have hwinner := List.mem_map_of_mem (f := Prod.fst) hmem
    rw [Shares.split_fst] at hwinner
    obtain ⟨seat, hseat, hindex⟩ := (hpots pot hpot).2 _ hwinner
    exact hindex ▸ List.mem_map_of_mem hseat
  have hsum := Shares.sum_amountOf hkeys hparts
  rw [List.map_map] at hsum
  refine hsum.trans ?_
  clear hparts hsum
  induction pots with
  | nil => rfl
  | cons pot pots ih =>
      obtain ⟨hpot, hothers⟩ := List.forall_mem_cons.mp hpots
      rw [List.flatMap_cons, List.map_append, List.sum_append, ih hothers,
        Shares.split_sum _ _ hpot.1]
      exact List.sum_cons.symm

theorem sum_rakeOf (hkeys : state.HasSeatKeys) {pots : List Pot}
    (hpots : ∀ pot ∈ pots, pot.winnerSeatIndexes ≠ [] ∧ Seated state pot.winnerSeatIndexes) :
    (state.seats.map fun seat => rakeOf pots seat.seatIndex).sum = rakeTotal pots :=
  calc (state.seats.map fun seat => rakeOf pots seat.seatIndex).sum
      = (state.seats.map fun seat => Shares.amountOf (pots.flatMap fun pot =>
          Shares.split pot.rakeAmount pot.winnerSeatIndexes) seat.seatIndex).sum := by
        congr 1
        exact List.map_congr_left fun seat _ => rakeOf_eq_amountOf pots seat.seatIndex
    _ = rakeTotal pots := sum_amountOf_pots hkeys Pot.rakeAmount hpots

theorem rakeOf_eq_zero_of_notWinner {pots : List Pot}
    (h : ∀ pot ∈ pots, i ∉ pot.winnerSeatIndexes) : rakeOf pots i = 0 :=
  List.sum_eq_zero fun amount hamount => by
    obtain ⟨pot, hpot, rfl⟩ := List.mem_map.mp hamount
    exact Shares.amountOf_split_of_notMem _ (h pot hpot)

/-! ## The law of the rake -/

theorem applyRake_total_eq (hsettled : settled.isSettledHoldemState) (policy : RakePolicy) :
    (settled.applyRakeToSettledState policy).2.totalRakeAmount =
      if policy.noFlopNoDrop ∧ settled.communityCards.length < 3 then 0
      else max 0 (min (potTotal settled.resolvedPots * policy.rakeBps / 10000) policy.capAmount) := by
  rw [applyRake_total]
  unfold rakeDue
  by_cases hpots : settled.resolvedPots = []
  · rw [if_pos (.inr (.inr hpots)), hpots]
    have hzero : potTotal [] * (policy.rakeBps : Int) / 10000 = 0 := by simp [potTotal]
    rw [hzero, max_eq_left (min_le_left _ _), ite_self]
  · exact if_neg (by simp [hsettled.1, hsettled.2, hpots])

/-- `raked` is the table after the rake: what is due is taken once, and of every pot at most what the
winners got of it. -/
structure RakeLaw (policy : RakePolicy) (settled raked : Table) (applied : AppliedRake) : Prop where
  total : applied.totalRakeAmount =
    if policy.noFlopNoDrop ∧ settled.communityCards.length < 3 then 0
    else max 0 (min (potTotal settled.resolvedPots * policy.rakeBps / 10000) policy.capAmount)
  rate : policy.rakeBps ≤ 10000 → applied.totalRakeAmount ≤ potTotal settled.resolvedPots
  sums : applied.totalRakeAmount ≤ potTotal settled.resolvedPots →
    (applied.seatRakeAmounts.map Prod.snd).sum = applied.totalRakeAmount ∧
      rakeTotal raked.resolvedPots = applied.totalRakeAmount ∧
      raked.stackTotal = settled.stackTotal - applied.totalRakeAmount
  pots : List.Forall₂ (fun pot raked => raked = { pot with rakeAmount := raked.rakeAmount } ∧
    ∀ i, Shares.amountOf (Shares.split raked.rakeAmount pot.winnerSeatIndexes) i ≤
      Shares.amountOf (Shares.split pot.amount pot.winnerSeatIndexes) i)
    settled.resolvedPots raked.resolvedPots
  seats : ∀ i, Shares.amountOf applied.seatRakeAmounts i = rakeOf raked.resolvedPots i ∧
    raked.stackOf i = (settled.stackOf i).map (· - Shares.amountOf applied.seatRakeAmounts i)
  nonneg : ∀ seat ∈ raked.seats, 0 ≤ seat.stackAmount
  nonWinner : ∀ i, (∀ pot ∈ settled.resolvedPots, i ∉ pot.winnerSeatIndexes) →
    Shares.amountOf applied.seatRakeAmounts i = 0

theorem SettledHand.sum_rakeOf (h : SettledHand last settled) (hkeys : last.HasSeatKeys)
    (policy : RakePolicy) :
    (settled.seats.map fun seat =>
      rakeOf (settled.applyRakeToSettledState policy).1.resolvedPots seat.seatIndex).sum =
      rakeTotal (settled.applyRakeToSettledState policy).1.resolvedPots := by
  have hsettledKeys : settled.HasSeatKeys := by
    obtain ⟨g, hg, hseats⟩ := h.pays
    unfold HasSeatKeys Keyed.HasKeys
    rw [hseats, List.map_map]
    exact (List.map_congr_left fun seat _ => (hg seat).seatIndex) ▸ hkeys
  refine Table.sum_rakeOf hsettledKeys fun pot hpot => ?_
  obtain ⟨old, hold, heq, -, -⟩ := exists_of_mem_right (h.raked policy).pots hpot
  rw [heq]
  exact ⟨(h.won old hold).1.ne_nil, h.seated old hold⟩

theorem SettledHand.potTotal_nonneg (h : SettledHand last settled) :
    0 ≤ potTotal settled.resolvedPots :=
  Table.potTotal_nonneg fun pot hpot => (h.won pot hpot).1

theorem rakeDue_le (hnonneg : 0 ≤ potTotal settled.resolvedPots) (hrate : policy.rakeBps ≤ 10000) :
    settled.rakeDue policy ≤ potTotal settled.resolvedPots := by
  unfold rakeDue
  split
  · exact hnonneg
  · split
    · exact hnonneg
    · refine max_le hnonneg ((min_le_left _ _).trans ?_)
      refine Int.ediv_le_of_le_mul (by decide) ?_
      exact mul_le_mul_of_nonneg_left (by exact_mod_cast hrate) hnonneg

/-- **The law of the rake** for every settled hand and every policy. -/
theorem rake_law {before : Table} (hreach : Reachable sha256 before)
    (hsettling : Settling sha256 before settled) (policy : RakePolicy) :
    RakeLaw policy settled (settled.applyRakeToSettledState policy).1
      (settled.applyRakeToSettledState policy).2 := by
  obtain ⟨last, prior, hbetting, hfunded, hhand⟩ := hsettling.hand hreach
  have htaken := hhand.raked policy
  refine ⟨applyRake_total_eq hsettling.isSettled policy, fun hrate => ?_, fun hle => ?_, ?_,
    fun i => ⟨htaken.seatRake i, ?_⟩, hhand.raked_funded hfunded policy, fun i hi => ?_⟩
  · rw [applyRake_total]
    exact rakeDue_le hhand.potTotal_nonneg hrate
  · have htotal := htaken.potTotal
    rw [min_eq_left hle] at htotal
    refine ⟨htaken.seatTotal.trans htotal, htotal, ?_⟩
    have hneg : (settled.seats.map fun seat =>
        -rakeOf (settled.applyRakeToSettledState policy).1.resolvedPots seat.seatIndex).sum =
        -rakeTotal (settled.applyRakeToSettledState policy).1.resolvedPots := by
      rw [← hhand.sum_rakeOf hbetting.keys policy, List.sum_neg, List.map_map]
      rfl
    rw [htaken.pays.stackTotal, hneg, htotal]
    exact Int.sub_eq_add_neg.symm
  · refine ((List.forall₂_and_left _ _).mpr ⟨fun _ h => h, htaken.pots⟩).imp fun pot raked h => ?_
    exact ⟨h.2.1, Shares.amountOf_split_mono (hhand.won pot h.1).1.nodup h.2.2.2⟩
  · rw [htaken.pays.stackOf_eq, htaken.seatRake]
    rfl
  · rw [htaken.seatRake]
    refine rakeOf_eq_zero_of_notWinner fun pot hpot => ?_
    obtain ⟨old, hold, heq, -, -⟩ := exists_of_mem_right htaken.pots hpot
    rw [heq]
    exact hi old hold

/-- A heads-up hand in which the button folds: the table before the fold and after it. -/
def foldedHand : Except ApiError (Table × Table) := do
  let table := createdTable .cash [samplePlayer 7 5000, samplePlayer 8 5000]
  let before ← table.startHoldemHand zeroHash 0 sampleSeed
  let settled ← before.actOnHoldemSeat 0 0 .fold .missing
  .ok (before, settled)

theorem exists_foldedHand (check : Table × Table → Bool)
    (h : (match foldedHand with
      | .ok hand => decide hand.2.isSettledHoldemState && check hand
      | .error _ => false) = true) :
    ∃ before settled, Reachable zeroHash before ∧ Settling zeroHash before settled ∧
      check (before, settled) = true := by
  obtain ⟨⟨before, settled⟩, hplayed, hcheck⟩ := @exists_ok_of_check _ foldedHand
    (fun hand => decide hand.2.isSettledHoldemState && check hand) h
  obtain ⟨hsettled, hcheck⟩ := (Bool.and_eq_true ..).mp hcheck
  obtain ⟨started, hstart, hrest⟩ := bind_eq_ok.mp hplayed
  obtain ⟨after, hact, hpair⟩ := bind_eq_ok.mp hrest
  obtain ⟨rfl, rfl⟩ := Prod.mk.inj (Except.ok.inj hpair)
  have hstep : (createdTable .cash [samplePlayer 7 5000, samplePlayer 8 5000]).step zeroHash
      (.start sampleSeed 0) = .ok started := hstart
  have hreach : Reachable zeroHash started :=
    ⟨_, _, createdTable_fresh .cash (by decide) (by decide), .cons hstep (.nil _)⟩
  exact ⟨started, after, hreach, .byAction hact (of_decide_eq_true hsettled), hcheck⟩

theorem rake_law_sample :
    ∃ before settled, Reachable zeroHash before ∧ Settling zeroHash before settled ∧
      RakeLaw sampleRake settled (settled.applyRakeToSettledState sampleRake).1
        (settled.applyRakeToSettledState sampleRake).2 := by
  obtain ⟨before, settled, hreach, hsettling, -⟩ :=
    exists_foldedHand (fun _ => true) (by decide +kernel)
  exact ⟨before, settled, hreach, hsettling, rake_law hreach hsettling sampleRake⟩

/-- Before the flop such a policy takes nothing, and a rate above the pot announces more than the
winners pay. -/
theorem rake_not_min :
    ∃ before settled, Reachable zeroHash before ∧ Settling zeroHash before settled ∧
      (settled.applyRakeToSettledState ⟨500, 800, true⟩).2.totalRakeAmount <
        min (potTotal settled.resolvedPots * 500 / 10000) 800 ∧
      ((settled.applyRakeToSettledState ⟨20000, 100000, false⟩).2.seatRakeAmounts.map Prod.snd).sum <
        (settled.applyRakeToSettledState ⟨20000, 100000, false⟩).2.totalRakeAmount := by
  obtain ⟨before, settled, hreach, hsettling, hcheck⟩ := exists_foldedHand
    (fun (_, settled) =>
      (settled.applyRakeToSettledState ⟨500, 800, true⟩).2.totalRakeAmount <
        min (potTotal settled.resolvedPots * 500 / 10000) 800 ∧
      ((settled.applyRakeToSettledState ⟨20000, 100000, false⟩).2.seatRakeAmounts.map Prod.snd).sum <
        (settled.applyRakeToSettledState ⟨20000, 100000, false⟩).2.totalRakeAmount)
    (by decide +kernel)
  exact ⟨before, settled, hreach, hsettling, of_decide_eq_true hcheck⟩

end Table

end RewardSystem.Holdem
