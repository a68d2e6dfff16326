import RewardSystem.PredictionMarket.Moves
import RewardSystem.PredictionMarket.Positions

/-!
# The books of the prediction markets

While a market is not finalized, its pool is the sum of the stakes of its open positions, and what it
has locked of a user's balance is the sum of that user's stakes. When it is resolved or cancelled, all
of this is released, and what is credited and the fee come to the pool.
-/

namespace RewardSystem.PredictionMarket

open Economy Transition

def poolStakes (store : MarketStore) (marketId : Nat) : Int :=
  openStakes (fun m _ => m = marketId) store.positions

def userStakes (store : MarketStore) (marketId userId : Nat) : Int :=
  openStakes (fun m u => m = marketId ∧ u = userId) store.positions

/-- What a market has locked of the balance of a user and not released. -/
def lockedFor (store : MarketStore) (marketId userId : Nat) : Int :=
  movedFor AssetMove.locked (fun move => move.marketId = marketId ∧ move.userId = userId)
    store.moves

/-- What a market has credited to the available balances, less what it has taken. -/
def creditedFor (store : MarketStore) (marketId : Nat) : Int :=
  movedFor AssetMove.available (fun move => move.marketId = marketId) store.moves

def feesOf (store : MarketStore) (marketId : Nat) : Int :=
  (store.houseTransactions.map fun transaction =>
    if transaction.referenceId = marketId then transaction.amount else 0).sum

def statusOf (store : MarketStore) (positionId : Nat) : Option PositionStatus :=
  (Keyed.lookup StoredPosition.id positionId store.positions).map StoredPosition.status

/-- The step takes a position out of `open`. -/
def LeavesOpen (positionId : Nat) (e : Event MarketStore Operation) : Prop :=
  statusOf e.before positionId = some .opened ∧ statusOf e.after positionId ≠ some .opened

instance (positionId : Nat) : DecidablePred (LeavesOpen positionId) :=
  fun _ => inferInstanceAs (Decidable (_ ∧ _))

/-- The invariant of the tables. -/
structure Accounted (store : MarketStore) : Prop where
  marketIds : store.markets.map StoredMarket.id = List.range' 1 store.markets.length
  positionIds : store.positions.map StoredPosition.id = List.range' 1 store.positions.length
  placed : ∀ position ∈ store.positions, position.marketId ≤ store.markets.length
  stakes : ∀ position ∈ store.positions, 0 < position.stakeAmount
  locked : ∀ marketId userId, lockedFor store marketId userId = userStakes store marketId userId
  pool : ∀ market ∈ store.markets, ¬market.finalized →
    market.totalPoolAmount = poolStakes store market.id
  closed : ∀ market ∈ store.markets, market.finalized → ∀ position ∈ store.positions,
    position.marketId = market.id → position.status ≠ .opened

section Changes

/-- A position has been opened on the market. -/
structure Places (market : StoredMarket) (position : StoredPosition) (store store' : MarketStore) :
    Prop where
  found : Keyed.lookup StoredMarket.id market.id store.markets = some market
  running : ¬market.finalized
  positionId : position.id = store.positions.length + 1
  marketId : position.marketId = market.id
  status : position.status = .opened
  stake : 0 < position.stakeAmount
  moves : ∃ moved,
    MovesBy store [⟨market.id, position.userId, -position.stakeAmount, position.stakeAmount⟩] moved ∧
    store' = { moved with positions := moved.positions ++ [position] }.setMarket market.id fun row =>
      { row with totalPoolAmount := market.totalPoolAmount + position.stakeAmount }

/-- An open position of the market has been sold. -/
structure Sells (market : StoredMarket) (position : StoredPosition) (store store' : MarketStore) :
    Prop where
  found : Keyed.lookup StoredMarket.id market.id store.markets = some market
  running : ¬market.finalized
  mem : position ∈ store.positions
  marketId : position.marketId = market.id
  status : position.status = .opened
  moves : ∃ moved settledAt,
    MovesBy store [⟨market.id, position.userId, position.stakeAmount, -position.stakeAmount⟩] moved ∧
    store' = (moved.setPosition position.id fun row =>
      { row with
        payoutAmount := position.stakeAmount
        status := .sold
        settledAt := some settledAt }).setMarket market.id fun row =>
          { row with totalPoolAmount := market.totalPoolAmount - position.stakeAmount }

/-- The market has been resolved or cancelled: its open positions are closed, what it has locked is
released, and the credits and the fee come to their stakes. -/
structure Finalizes (marketId : Nat) (fee : Int) (moves : List AssetMove)
    (store store' : MarketStore) : Prop where
  running : ∃ market, Keyed.lookup StoredMarket.id marketId store.markets = some market ∧
    ¬market.finalized
  markets : ∃ update : StoredMarket → StoredMarket,
    (∀ row, (update row).id = row.id ∧ (update row).finalized) ∧
    store'.markets = Keyed.modify StoredMarket.id marketId update store.markets
  positions : List.Forall₂ (Closes ((store.openPositions marketId).map StoredPosition.id))
    store.positions store'.positions
  recorded : store'.moves = store.moves ++ moves
  balances : BalancesMove store.economy moves store'.economy
  moved : ∀ move ∈ moves, move.marketId = marketId
  released : ∀ userId, movedFor AssetMove.locked (fun move => move.userId = userId) moves =
    -userStakes store marketId userId
  credited : (moves.map AssetMove.available).sum + fee = poolStakes store marketId
  fees : ∀ m, feesOf store' m = feesOf store m + if m = marketId then fee else 0

/-- What an accepted operation of the markets does. -/
inductive Change (store : MarketStore) : MarketStore → Prop
  | created (market : StoredMarket) (hid : market.id = store.markets.length + 1)
      (hpool : market.totalPoolAmount = 0) (hrunning : ¬market.finalized) :
      Change store { store with markets := store.markets ++ [market] }
  | placed (market : StoredMarket) (position : StoredPosition) {store' : MarketStore}
      (h : Places market position store store') : Change store store'
  | sold (market : StoredMarket) (position : StoredPosition) {store' : MarketStore}
      (h : Sells market position store store') : Change store store'
  | finalized (marketId : Nat) (fee : Int) (moves : List AssetMove) {store' : MarketStore}
      (h : Finalizes marketId fee moves store store') : Change store store'

end Changes

section Operations

variable {store store' : MarketStore}

theorem lockPredictionMarket_eq_ok {marketId : Nat} {market : StoredMarket}
    (h : store.lockPredictionMarket marketId = .ok market) :
    market.id = marketId ∧
      Keyed.lookup StoredMarket.id market.id store.markets = some market := by
  unfold MarketStore.lockPredictionMarket at h
  cases hlookup : Keyed.lookup StoredMarket.id marketId store.markets with
  | none => simp [hlookup] at h
  | some row =>
      simp only [hlookup] at h
      obtain rfl := Except.ok.inj h
      have hid := Keyed.key_of_lookup hlookup
      exact ⟨hid, by rwa [hid]⟩

theorem lockPredictionPosition_eq_ok {marketId positionId userId : Nat}
    {position : StoredPosition}
    (h : store.lockPredictionPosition marketId positionId userId = .ok position) :
    position ∈ store.positions ∧ position.id = positionId ∧ position.marketId = marketId ∧
      position.userId = userId := by
  unfold MarketStore.lockPredictionPosition at h
  split at h
  · simp at h
  · rename_i row hfind
    obtain rfl := Except.ok.inj h
    have hrow := List.find?_some hfind
    simp only [decide_eq_true_eq] at hrow
    exact ⟨List.mem_of_find?_eq_some hfind, hrow⟩

theorem effectiveStatus_opened {market : StoredMarket} {now : Int}
    (h : getEffectivePredictionMarketStatus market now = .opened) : ¬market.finalized := by
  intro hfinal
  unfold getEffectivePredictionMarketStatus at h
  rw [if_pos hfinal] at h
  rcases hfinal with hstatus | hstatus <;> simp [hstatus] at h

theorem effectiveStatus_running {market : StoredMarket} {now : Int}
    (h : ¬(getEffectivePredictionMarketStatus market now = .resolved ∨
      getEffectivePredictionMarketStatus market now = .cancelled)) : ¬market.finalized := by
  intro hfinal
  unfold getEffectivePredictionMarketStatus at h
  rw [if_pos hfinal] at h
  exact h hfinal

theorem resolveStakeAmount_pos {value : Option (Decimal ℚ)} {stake : Int}
    (h : resolveStakeAmount value = .ok stake) : 0 < stake := by
  unfold resolveStakeAmount at h
  split at h
  · split_ifs at h with hinvalid
    obtain rfl := Except.ok.inj h
    rw [not_or, not_le] at hinvalid
    rw [Rat.num_pos]
    linarith [hinvalid.1]
  · simp at h

theorem createPredictionMarket_change {input : CreateInput} {now : Int}
    (h : createPredictionMarket input now store = .ok store') : Change store store' := by
  obtain ⟨_, _, h⟩ := ApiError.bind_eq_ok.mp h
  obtain rfl := Except.ok.inj h
  refine .created _ rfl rfl ?_
  dsimp only [StoredMarket.finalized]
  split_ifs <;> simp

theorem placePredictionPosition_change {input : PlaceInput} {now : Int}
    (h : placePredictionPosition input now store = .ok store') : Change store store' := by
  obtain ⟨market, hmarket, h⟩ := ApiError.bind_eq_ok.mp h
  obtain ⟨hid, hfound⟩ := lockPredictionMarket_eq_ok hmarket
  obtain ⟨_, hopen, h⟩ := ApiError.bind_eq_ok.mp h
  obtain ⟨outcomes, _, h⟩ := ApiError.bind_eq_ok.mp h
  obtain ⟨_, _, h⟩ := ApiError.bind_eq_ok.mp h
  obtain ⟨stake, hstake, h⟩ := ApiError.bind_eq_ok.mp h
  obtain ⟨_, _, h⟩ := ApiError.bind_eq_ok.mp h
  obtain ⟨moved, hmoved, h⟩ := ApiError.bind_eq_ok.mp h
  rw [ApiError.throwIf_eq_ok, not_not] at hopen
  have hmoves := movesBy_of_lock hmoved
  have hpositions : moved.positions.length = store.positions.length := by rw [hmoves.tables]
  refine .placed market
    { id := moved.positions.length + 1
      marketId := input.marketId
      userId := input.userId
      outcomeKey := input.outcomeKey
      stakeAmount := stake
      payoutAmount := 0
      status := .opened
      settledAt := none }
    ⟨hfound, effectiveStatus_opened hopen, ?_, hid.symm, rfl, resolveStakeAmount_pos hstake,
      moved, ?_, ?_⟩
  · exact congrArg (· + 1) hpositions
  · rw [hid]
    exact hmoves
  · rw [hid]
    exact (Except.ok.inj h).symm

theorem sellPredictionPosition_change {userId marketId positionId : Nat} {now : Int}
    (h : sellPredictionPosition userId marketId positionId now store = .ok store') :
    Change store store' := by
  obtain ⟨market, hmarket, h⟩ := ApiError.bind_eq_ok.mp h
  obtain ⟨hid, hfound⟩ := lockPredictionMarket_eq_ok hmarket
  obtain ⟨_, hopen, h⟩ := ApiError.bind_eq_ok.mp h
  obtain ⟨position, hposition, h⟩ := ApiError.bind_eq_ok.mp h
  obtain ⟨_, hstatus, h⟩ := ApiError.bind_eq_ok.mp h
  obtain ⟨_, _, h⟩ := ApiError.bind_eq_ok.mp h
  obtain ⟨moved, hmoved, hdone⟩ := ApiError.bind_eq_ok.mp h
  rw [ApiError.throwIf_eq_ok, not_not] at hopen hstatus
  obtain ⟨hmem, rfl, rfl, rfl⟩ := lockPredictionPosition_eq_ok hposition
  refine .sold market position ⟨hfound, effectiveStatus_opened hopen, hmem, hid.symm, hstatus,
    moved, now, ?_, ?_⟩
  · rw [hid]
    exact movesBy_of_unlock hmoved
  · rw [hid]
    exact (Except.ok.inj hdone).symm

theorem positions_hasKeys (hacc : Accounted store) :
    Keyed.HasKeys StoredPosition.id store.positions := by
  unfold Keyed.HasKeys
  rw [hacc.positionIds]
  exact List.nodup_range'

theorem markets_hasKeys (hacc : Accounted store) :
    Keyed.HasKeys StoredMarket.id store.markets := by
  unfold Keyed.HasKeys
  rw [hacc.marketIds]
  exact List.nodup_range'

theorem openPositions_hasKeys (hacc : Accounted store) (marketId : Nat) :
    Keyed.HasKeys StoredPosition.id (store.openPositions marketId) :=
  (positions_hasKeys hacc).sublist (List.filter_sublist.map StoredPosition.id)

theorem sum_openPositions (store : MarketStore) (marketId : Nat) (concerns : Nat → Prop)
    [DecidablePred concerns] :
    ((store.openPositions marketId).map fun position =>
      if concerns position.userId then position.stakeAmount else 0).sum =
      openStakes (fun m u => m = marketId ∧ concerns u) store.positions := by
  unfold MarketStore.openPositions openStakes
  induction store.positions with
  | nil => rfl
  | cons position rest ih =>
      simp only [Bool.decide_and] at ih ⊢
      by_cases hopen : position.marketId = marketId ∧ position.status = .opened
      · simp [hopen, ih]
      · have hother : ¬(position.status = .opened ∧ position.marketId = marketId
            ∧ concerns position.userId) := fun h => hopen ⟨h.2.1, h.1⟩
        simp [hopen, hother, ih]

/-- The moves of a market that closes its open positions, with what is credited on each. -/
def releaseMoves (store : MarketStore) (marketId : Nat) (credit : StoredPosition → Int)
    (entryType : StoredPosition → Option String → Option String) : List AssetMove :=
  (orderByUserId (collect credit entryType [] (store.openPositions marketId))).map fun aggregate =>
    { marketId := marketId
      userId := aggregate.userId
      available := aggregate.credit
      locked := -aggregate.lockedRelease }

theorem releaseMoves_locked (store : MarketStore) (marketId : Nat) (credit : StoredPosition → Int)
    (entryType : StoredPosition → Option String → Option String) (userId : Nat) :
    movedFor AssetMove.locked (fun move => move.userId = userId)
      (releaseMoves store marketId credit entryType) = -userStakes store marketId userId := by
  let release (aggregate : UserAggregate) : Int :=
    if aggregate.userId = userId then -aggregate.lockedRelease else 0
  let stake (position : StoredPosition) : Int :=
    if position.userId = userId then -position.stakeAmount else 0
  have hcollected := sum_collect [] (store.openPositions marketId)
    release stake credit entryType (by simp [release, emptyAggregate])
    (fun position _ aggregate hsame => by
      by_cases huser : position.userId = userId
      · simp only [release, stake, hsame, huser, if_true]
        omega
      · simp [release, stake, hsame, huser]) (by simp [Keyed.HasKeys])
  have hstakes : ∀ positions : List StoredPosition,
      (positions.map stake).sum =
        -(positions.map fun position =>
          if position.userId = userId then position.stakeAmount else 0).sum := by
    intro positions
    induction positions with
    | nil => rfl
    | cons position rest ih =>
        simp only [List.map_cons, List.sum_cons, ih, stake]
        split_ifs <;> omega
  calc
    _ = ((orderByUserId (collect credit entryType [] (store.openPositions marketId))).map
          release).sum := by rw [movedFor, releaseMoves, List.map_map]; rfl
    _ = ((collect credit entryType [] (store.openPositions marketId)).map release).sum :=
      ((orderByUserId_perm _).map release).sum_eq
    _ = ((store.openPositions marketId).map stake).sum := by simpa using hcollected
    _ = -userStakes store marketId userId := by
      rw [hstakes, sum_openPositions _ marketId (fun u => u = userId)]
      rfl

theorem releaseMoves_available (store : MarketStore) (marketId : Nat)
    (credit : StoredPosition → Int)
    (entryType : StoredPosition → Option String → Option String) :
    ((releaseMoves store marketId credit entryType).map AssetMove.available).sum =
      ((store.openPositions marketId).map credit).sum := by
  have hcollected := sum_collect [] (store.openPositions marketId)
    UserAggregate.credit credit credit entryType (fun _ => rfl) (fun _ _ _ _ => rfl)
    (by simp [Keyed.HasKeys])
  calc
    _ = ((orderByUserId (collect credit entryType [] (store.openPositions marketId))).map
          UserAggregate.credit).sum := by rw [releaseMoves, List.map_map]; rfl
    _ = ((collect credit entryType [] (store.openPositions marketId)).map
          UserAggregate.credit).sum := ((orderByUserId_perm _).map _).sum_eq
    _ = ((store.openPositions marketId).map credit).sum := by simpa using hcollected

theorem releaseMoves_market (store : MarketStore) (marketId : Nat)
    (credit : StoredPosition → Int)
    (entryType : StoredPosition → Option String → Option String) :
    ∀ move ∈ releaseMoves store marketId credit entryType, move.marketId = marketId := by
  intro move hmove
  obtain ⟨aggregate, _, rfl⟩ := List.mem_map.mp hmove
  rfl

theorem sum_openPositions_stakes (store : MarketStore) (marketId : Nat) :
    ((store.openPositions marketId).map StoredPosition.stakeAmount).sum =
      poolStakes store marketId := by
  have hsum := sum_openPositions store marketId fun _ => True
  simpa [poolStakes] using hsum

theorem stakeTotal_toSettlement (positions : List StoredPosition) :
    stakeTotal (positions.map StoredPosition.toSettlement) =
      (positions.map StoredPosition.stakeAmount).sum := by
  rw [stakeTotal, List.map_map]
  rfl

theorem settlement_pays {marketId : Nat} {winningOutcomeKey : String} {vigBps : Int}
    {settlement : PariMutuelSettlementResult} (hacc : Accounted store)
    (h : resolvePariMutuelSettlement
      ((store.openPositions marketId).map StoredPosition.toSettlement) winningOutcomeKey vigBps =
        .ok settlement) :
    ((store.openPositions marketId).map (payoutOf settlement.positionResults)).sum
      + settlement.feeAmount = poolStakes store marketId ∧ 0 ≤ settlement.feeAmount ∧
      (settlement.mode = .refundNoWinners → settlement.feeAmount = 0) := by
  have hids : ((store.openPositions marketId).map StoredPosition.toSettlement).map
      SettlementPosition.id = (store.openPositions marketId).map StoredPosition.id := by
    rw [List.map_map]
    rfl
  have hkeys : Keyed.HasKeys SettlementPosition.id
      ((store.openPositions marketId).map StoredPosition.toSettlement) := by
    unfold Keyed.HasKeys
    rw [hids]
    exact openPositions_hasKeys hacc marketId
  have hstakes : ∀ position ∈ (store.openPositions marketId).map StoredPosition.toSettlement,
      0 ≤ position.stakeAmount := by
    intro position hposition
    obtain ⟨row, hrow, rfl⟩ := List.mem_map.mp hposition
    exact (hacc.stakes row (List.mem_filter.mp hrow).1).le
  have hconserves := resolvePariMutuelSettlement_conserves hkeys hstakes h
  refine ⟨?_, hconserves.fee_nonneg, hconserves.fee_refund⟩
  rw [sum_payoutOf (hconserves.ids.trans hids) (openPositions_hasKeys hacc marketId),
    hconserves.pool, stakeTotal_toSettlement, sum_openPositions_stakes]

theorem feesOf_vig (store : MarketStore) (marketId : Nat) {settlement : PariMutuelSettlementResult}
    (hnonneg : 0 ≤ settlement.feeAmount)
    (hrefund : settlement.mode = .refundNoWinners → settlement.feeAmount = 0) (m : Nat) :
    feesOf
      (if settlement.mode = .payout ∧ 0 < settlement.feeAmount then
        store.applyHouseBankrollDelta settlement.feeAmount vigEntryType marketId
      else store) m = feesOf store m + if m = marketId then settlement.feeAmount else 0 := by
  by_cases htaken : settlement.mode = .payout ∧ 0 < settlement.feeAmount
  · simp [htaken, MarketStore.applyHouseBankrollDelta, feesOf, eq_comm]
  · have hzero : settlement.feeAmount = 0 := by
      cases hmode : settlement.mode with
      | payout =>
          have hnone : ¬0 < settlement.feeAmount := fun hpos => htaken ⟨hmode, hpos⟩
          omega
      | refundNoWinners => exact hrefund hmode
    simp [hzero]

/-- A market whose open positions are closed by `released` and `closed` is finalized by setting its
status. -/
theorem finalizes_of_release {marketId : Nat} {market : StoredMarket} {fee : Int}
    {credit : StoredPosition → Int} {entryType : StoredPosition → Option String → Option String}
    {released charged closed : MarketStore} (update : StoredMarket → StoredMarket)
    (hfound : Keyed.lookup StoredMarket.id marketId store.markets = some market)
    (hrunning : ¬market.finalized)
    (hmoves : MovesBy store (releaseMoves store marketId credit entryType) released)
    (hcharged : charged = { released with
      houseBankroll := charged.houseBankroll
      houseTransactions := charged.houseTransactions })
    (hcloses : ClosesPositions ((store.openPositions marketId).map StoredPosition.id)
      charged closed)
    (hpays : ((store.openPositions marketId).map credit).sum + fee = poolStakes store marketId)
    (hfees : ∀ m, feesOf charged m = feesOf released m + if m = marketId then fee else 0)
    (hupdate : ∀ row, (update row).id = row.id ∧ (update row).finalized) :
    Finalizes marketId fee (releaseMoves store marketId credit entryType) store
      (closed.setMarket marketId update) := by
  have hrows := hcloses.rows
  rw [hcharged, hmoves.tables] at hrows
  have hmarkets : closed.markets = store.markets := by
    rw [hcloses.tables, hcharged, hmoves.tables]
  have hrecorded : closed.moves = store.moves ++ releaseMoves store marketId credit entryType := by
    rw [hcloses.tables, hcharged, hmoves.tables]
  have heconomy : closed.economy = released.economy := by
    rw [hcloses.tables, hcharged]
  have htransactions : closed.houseTransactions = charged.houseTransactions := by
    rw [hcloses.tables]
  have hbefore : released.houseTransactions = store.houseTransactions := by
    rw [hmoves.tables]
  exact
    { running := ⟨market, hfound, hrunning⟩
      markets := ⟨update, hupdate, by rw [MarketStore.setMarket, hmarkets]⟩
      positions := hrows
      recorded := hrecorded
      balances := by
        rw [MarketStore.setMarket, heconomy]
        exact hmoves.balances
      moved := releaseMoves_market store marketId credit entryType
      released := releaseMoves_locked store marketId credit entryType
      credited := by rw [releaseMoves_available, hpays]
      fees := fun m => by
        have hm := hfees m
        unfold feesOf at hm ⊢
        rw [MarketStore.setMarket, htransactions, hm, hbefore] }

theorem settlePredictionMarket_change {input : SettleInput} {now : Int} (hacc : Accounted store)
    (h : settlePredictionMarket input now store = .ok store') : Change store store' := by
  obtain ⟨market, hmarket, h⟩ := ApiError.bind_eq_ok.mp h
  obtain ⟨hid, hfound⟩ := lockPredictionMarket_eq_ok hmarket
  rw [hid] at hfound
  obtain ⟨_, hrunning, h⟩ := ApiError.bind_eq_ok.mp h
  obtain ⟨_, _, h⟩ := ApiError.bind_eq_ok.mp h
  obtain ⟨_, _, h⟩ := ApiError.bind_eq_ok.mp h
  obtain ⟨_, _, h⟩ := ApiError.bind_eq_ok.mp h
  obtain ⟨_, _, h⟩ := ApiError.bind_eq_ok.mp h
  obtain ⟨settlement, hsettlement, h⟩ := ApiError.bind_eq_ok.mp h
  obtain ⟨aggregates, haggregates, h⟩ := ApiError.bind_eq_ok.mp h
  obtain ⟨released, hreleased, h⟩ := ApiError.bind_eq_ok.mp h
  obtain ⟨closed, hclosed, hdone⟩ := ApiError.bind_eq_ok.mp h
  rw [ApiError.throwIf_eq_ok] at hrunning
  obtain ⟨entryType, rfl⟩ := foldlM_aggregateResult haggregates
  obtain ⟨hpays, hnonneg, hrefund⟩ := settlement_pays hacc hsettlement
  have hmoves : MovesBy store (releaseMoves store input.marketId
      (payoutOf settlement.positionResults) entryType) released :=
    movesBy_of_foldlM (fun _ _ _ hbody => movesBy_of_settlement hbody) hreleased
  obtain rfl := Except.ok.inj hdone
  refine .finalized input.marketId settlement.feeAmount _
    (finalizes_of_release _ hfound (effectiveStatus_running hrunning) hmoves ?_
      (foldlM_recordResult hclosed) hpays (feesOf_vig released input.marketId hnonneg hrefund)
      fun row => ⟨rfl, .inl rfl⟩)
  split_ifs <;> rfl

theorem collect_refunds (todo : List StoredPosition) (aggregates : List UserAggregate) :
    todo.foldl aggregateRefund aggregates =
      collect StoredPosition.stakeAmount (fun _ => id) aggregates todo := rfl

theorem credit_eq_lockedRelease {aggregates : List UserAggregate} {todo : List StoredPosition}
    (h : ∀ aggregate ∈ aggregates, aggregate.credit = aggregate.lockedRelease) :
    ∀ aggregate ∈ collect StoredPosition.stakeAmount (fun _ => id) aggregates todo,
      aggregate.credit = aggregate.lockedRelease := by
  induction todo generalizing aggregates with
  | nil => exact h
  | cons position rest ih =>
      refine ih fun aggregate haggregate => ?_
      unfold addToAggregate Keyed.upsert at haggregate
      dsimp only at haggregate
      split at haggregate
      · rcases Keyed.mem_modify.mp haggregate with ⟨hmem, _⟩ | ⟨row, hrow, _, rfl⟩
        · exact h aggregate hmem
        · simp [h row hrow]
      · rcases List.mem_append.mp haggregate with hmem | hmem
        · exact h aggregate hmem
        · obtain rfl := List.mem_singleton.mp hmem
          simp [emptyAggregate]

theorem cancelPredictionMarket_change {marketId : Nat} {now : Int}
    (h : cancelPredictionMarket marketId now store = .ok store') : Change store store' := by
  obtain ⟨market, hmarket, h⟩ := ApiError.bind_eq_ok.mp h
  obtain ⟨hid, hfound⟩ := lockPredictionMarket_eq_ok hmarket
  rw [hid] at hfound
  obtain ⟨_, hrunning, h⟩ := ApiError.bind_eq_ok.mp h
  obtain ⟨released, hreleased, hdone⟩ := ApiError.bind_eq_ok.mp h
  rw [ApiError.throwIf_eq_ok] at hrunning
  obtain rfl := Except.ok.inj hdone
  rw [collect_refunds] at hreleased
  have hrefunds : MovesBy store _ released :=
    movesBy_of_foldlM (fun _ _ _ hbody => movesBy_of_unlock hbody) hreleased
  have hmoves : MovesBy store (releaseMoves store marketId StoredPosition.stakeAmount
      fun _ => id) released := by
    refine Eq.subst (motive := fun moves => MovesBy store moves released)
      (List.map_congr_left fun aggregate haggregate => ?_) hrefunds
    have hcredit := @credit_eq_lockedRelease [] _ (by simp) aggregate
      ((orderByUserId_perm _).mem_iff.mp haggregate)
    simp [hcredit]
  exact .finalized marketId 0 _
    (finalizes_of_release _ hfound (effectiveStatus_running hrunning) hmoves rfl
      (foldl_recordRefund now released _)
      (by rw [add_zero, sum_openPositions_stakes]) (by simp)
      fun row => ⟨rfl, .inr rfl⟩)

theorem step_change {operation : Operation} (hacc : Accounted store)
    (h : step store operation = .ok store') :
    Change store store' ∨ ∃ economy houseBankroll,
      operation = .elsewhere economy houseBankroll ∧
        store' = { store with economy := economy, houseBankroll := houseBankroll } := by
  cases operation with
  | create input now => exact .inl (createPredictionMarket_change h)
  | place input now => exact .inl (placePredictionPosition_change h)
  | sell userId marketId positionId now => exact .inl (sellPredictionPosition_change h)
  | settle input now => exact .inl (settlePredictionMarket_change hacc h)
  | cancel marketId now => exact .inl (cancelPredictionMarket_change h)
  | elsewhere economy houseBankroll =>
      obtain rfl := Except.ok.inj h
      exact .inr ⟨economy, houseBankroll, rfl, rfl⟩

end Operations

end RewardSystem.PredictionMarket
