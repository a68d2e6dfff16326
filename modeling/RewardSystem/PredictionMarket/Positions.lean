import RewardSystem.PredictionMarket.Service

/-!
# The positions of a market

When positions are closed, their rows get a result and all other rows stay. The positions that a
finalized market closes are collected by user before.
-/

namespace RewardSystem.PredictionMarket

/-- The stakes of the open positions that concern a market, or a market and a user. -/
def openStakes (concerns : Nat → Nat → Prop) [DecidableRel concerns]
    (positions : List StoredPosition) : Int :=
  (positions.map fun position =>
    if position.status = .opened ∧ concerns position.marketId position.userId
    then position.stakeAmount else 0).sum

section Rows

variable {rows rows' rows'' : List StoredPosition} {ids more : List Nat}

/-- The row of a position after the positions under `ids` have been closed. -/
structure Closes (ids : List Nat) (row row' : StoredPosition) : Prop where
  id : row'.id = row.id
  marketId : row'.marketId = row.marketId
  userId : row'.userId = row.userId
  stakeAmount : row'.stakeAmount = row.stakeAmount
  other : row.id ∉ ids → row' = row
  shut : row.id ∈ ids → row'.status ≠ .opened

theorem Closes.refl (row : StoredPosition) : Closes [] row row :=
  ⟨rfl, rfl, rfl, rfl, fun _ => rfl, by simp⟩

theorem Closes.trans {row row' row'' : StoredPosition} (hfirst : Closes ids row row')
    (hrest : Closes more row' row'') : Closes (ids ++ more) row row'' where
  id := hrest.id.trans hfirst.id
  marketId := hrest.marketId.trans hfirst.marketId
  userId := hrest.userId.trans hfirst.userId
  stakeAmount := hrest.stakeAmount.trans hfirst.stakeAmount
  other hids := by
    rw [List.mem_append, not_or] at hids
    have hmore : row'.id ∉ more := by rw [hfirst.id]; exact hids.2
    rw [hrest.other hmore, hfirst.other hids.1]
  shut hids := by
    by_cases hmore : row.id ∈ more
    · exact hrest.shut (by rwa [hfirst.id])
    · rw [hrest.other (by rwa [hfirst.id])]
      exact hfirst.shut ((List.mem_append.mp hids).resolve_right hmore)

theorem closes_modify {id : Nat} {update : StoredPosition → StoredPosition}
    (hupdate : ∀ row, Closes [id] row (if row.id = id then update row else row)) :
    List.Forall₂ (Closes [id]) rows (Keyed.modify StoredPosition.id id update rows) :=
  List.forall₂_map_right_iff.mpr (List.forall₂_same.mpr fun row _ => hupdate row)

theorem closes_trans (hfirst : List.Forall₂ (Closes ids) rows rows')
    (hrest : List.Forall₂ (Closes more) rows' rows'') :
    List.Forall₂ (Closes (ids ++ more)) rows rows'' := by
  induction hfirst generalizing rows'' with
  | nil =>
      cases hrest
      exact .nil
  | cons hhead _ ih =>
      cases hrest with
      | cons hnext hmore => exact .cons (hhead.trans hnext) (ih hmore)

theorem map_id_of_closes (h : List.Forall₂ (Closes ids) rows rows') :
    rows'.map StoredPosition.id = rows.map StoredPosition.id := by
  induction h with
  | nil => rfl
  | cons hhead _ ih => simp [hhead.id, ih]

theorem openStakes_of_closes (concerns : Nat → Nat → Prop) [DecidableRel concerns]
    (h : List.Forall₂ (Closes ids) rows rows') :
    openStakes concerns rows' =
      openStakes concerns (rows.filter fun row => row.id ∉ ids) := by
  unfold openStakes
  induction h with
  | nil => rfl
  | @cons row row' rows rows' hhead _ ih =>
      by_cases hid : row.id ∈ ids
      · simp [hhead.shut hid, hid, ih]
      · simp [hhead.other hid, hid, ih]

end Rows

section Closing

variable {store store' : MarketStore} {todo : List StoredPosition}

/-- The positions under `ids` have been closed; the other tables are as before. -/
structure ClosesPositions (ids : List Nat) (store store' : MarketStore) : Prop where
  tables : store' = { store with positions := store'.positions }
  rows : List.Forall₂ (Closes ids) store.positions store'.positions

theorem ClosesPositions.refl (store : MarketStore) : ClosesPositions [] store store :=
  ⟨rfl, List.forall₂_same.mpr fun row _ => .refl row⟩

theorem ClosesPositions.append {store₁ store₂ : MarketStore} {ids more : List Nat}
    (hfirst : ClosesPositions ids store store₁) (hrest : ClosesPositions more store₁ store₂) :
    ClosesPositions (ids ++ more) store store₂ where
  tables := by rw [hrest.tables, hfirst.tables]
  rows := closes_trans hfirst.rows hrest.rows

theorem closesPositions_setPosition (store : MarketStore) (positionId : Nat) (payoutAmount : Int)
    {status : PositionStatus} (settledAt : Int) (hstatus : status ≠ .opened) :
    ClosesPositions [positionId] store (store.setPosition positionId fun row =>
      { row with
        payoutAmount := payoutAmount
        status := status
        settledAt := some settledAt }) := by
  refine ⟨rfl, closes_modify fun row => ?_⟩
  by_cases hid : row.id = positionId
  · constructor <;> simp [hid, hstatus]
  · constructor <;> simp [hid]

theorem toPositionStatus_ne_opened (status : SettlementStatus) :
    status.toPositionStatus ≠ .opened := by
  cases status <;> simp [SettlementStatus.toPositionStatus]

theorem foldlM_recordResult {results : List SettlementPositionResult} {settledAt : Int}
    (h : todo.foldlM (recordResult results settledAt) store = .ok store') :
    ClosesPositions (todo.map StoredPosition.id) store store' := by
  induction todo generalizing store with
  | nil =>
      obtain rfl : store = store' := by simpa [pure, Except.pure] using h
      exact .refl store
  | cons position rest ih =>
      rw [List.foldlM_cons] at h
      obtain ⟨next, hnext, h⟩ := ApiError.bind_eq_ok.mp h
      unfold recordResult at hnext
      cases hresult : Keyed.lookup SettlementPositionResult.id position.id results with
      | none => simp [hresult] at hnext
      | some result =>
          simp only [hresult] at hnext
          obtain rfl := Except.ok.inj hnext
          exact (closesPositions_setPosition store position.id _ settledAt
            (toPositionStatus_ne_opened result.status)).append (ih h)

theorem foldl_recordRefund (settledAt : Int) (store : MarketStore) (todo : List StoredPosition) :
    ClosesPositions (todo.map StoredPosition.id) store
      (todo.foldl (recordRefund settledAt) store) := by
  induction todo generalizing store with
  | nil => exact .refl store
  | cons position rest ih =>
      exact (closesPositions_setPosition store position.id _ settledAt (by simp)).append
        (ih (recordRefund settledAt store position))

end Closing

section Aggregates

variable {aggregates : List UserAggregate} {todo : List StoredPosition}
  {results : List SettlementPositionResult}

def collect (credit : StoredPosition → Int)
    (entryType : StoredPosition → Option String → Option String)
    (aggregates : List UserAggregate) (todo : List StoredPosition) : List UserAggregate :=
  todo.foldl (fun aggregates position =>
    addToAggregate aggregates position (credit position) (entryType position)) aggregates

theorem sum_collect (aggregates : List UserAggregate) (todo : List StoredPosition)
    (w : UserAggregate → Int) (gain : StoredPosition → Int)
    (credit : StoredPosition → Int) (entryType : StoredPosition → Option String → Option String)
    (hempty : ∀ userId, w (emptyAggregate userId) = 0)
    (hgain : ∀ position ∈ todo, ∀ aggregate : UserAggregate,
      aggregate.userId = position.userId →
      w { aggregate with
          lockedRelease := aggregate.lockedRelease + position.stakeAmount
          credit := aggregate.credit + credit position
          entryType := entryType position aggregate.entryType
          positionIds := aggregate.positionIds ++ [position.id] } = w aggregate + gain position)
    (hkeys : Keyed.HasKeys UserAggregate.userId aggregates) :
    ((collect credit entryType aggregates todo).map w).sum =
      (aggregates.map w).sum + (todo.map gain).sum := by
  induction todo generalizing aggregates with
  | nil => simp [collect]
  | cons position rest ih =>
      have hhead := hgain position (by simp)
      have hrest := ih (addToAggregate aggregates position (credit position) (entryType position))
        (fun p hp => hgain p (by simp [hp]))
        (Keyed.hasKeys_upsert (fun _ h => h) rfl hkeys)
      have hadd : ((addToAggregate aggregates position (credit position)
          (entryType position)).map w).sum = (aggregates.map w).sum + gain position :=
        Keyed.sum_upsert w hkeys (by rw [hhead _ rfl, hempty, zero_add])
          fun aggregate _ => hhead aggregate
      calc
        _ = (aggregates.map w).sum + gain position + (rest.map gain).sum := by rw [← hadd]; exact hrest
        _ = _ := by rw [List.map_cons, List.sum_cons, add_assoc]

/-- What the results pay on a position. -/
def payoutOf (results : List SettlementPositionResult) (position : StoredPosition) : Int :=
  ((Keyed.lookup SettlementPositionResult.id position.id results).map
    SettlementPositionResult.payoutAmount).getD 0

theorem foldlM_aggregateResult {collected : List UserAggregate}
    (h : todo.foldlM (aggregateResult results) aggregates = .ok collected) :
    ∃ entryType, collected = collect (payoutOf results) entryType aggregates todo := by
  refine ⟨fun position entryType =>
    match Keyed.lookup SettlementPositionResult.id position.id results with
    | some result => aggregateEntryType entryType result.status
    | none => entryType, ?_⟩
  induction todo generalizing aggregates with
  | nil =>
      obtain rfl : aggregates = collected := by simpa [pure, Except.pure] using h
      rfl
  | cons position rest ih =>
      rw [List.foldlM_cons] at h
      obtain ⟨next, hnext, h⟩ := ApiError.bind_eq_ok.mp h
      unfold aggregateResult at hnext
      cases hresult : Keyed.lookup SettlementPositionResult.id position.id results with
      | none => simp [hresult] at hnext
      | some result =>
          simp only [hresult] at hnext
          obtain rfl := Except.ok.inj hnext
          rw [ih h]
          simp only [collect, List.foldl_cons, payoutOf, hresult, Option.map_some, Option.getD_some]

theorem sum_payoutOf (hids : results.map SettlementPositionResult.id = todo.map StoredPosition.id)
    (hkeys : Keyed.HasKeys StoredPosition.id todo) :
    (todo.map (payoutOf results)).sum =
      (results.map SettlementPositionResult.payoutAmount).sum := by
  have hresults : Keyed.HasKeys SettlementPositionResult.id results := by
    unfold Keyed.HasKeys
    rwa [hids]
  let paid (id : Nat) : Int :=
    ((Keyed.lookup SettlementPositionResult.id id results).map
      SettlementPositionResult.payoutAmount).getD 0
  calc
    (todo.map (payoutOf results)).sum = ((todo.map StoredPosition.id).map paid).sum := by
      rw [List.map_map]
      rfl
    _ = (results.map (paid ∘ SettlementPositionResult.id)).sum := by rw [← hids, List.map_map]
    _ = (results.map SettlementPositionResult.payoutAmount).sum := by
      refine congrArg List.sum (List.map_congr_left fun result hresult => ?_)
      simp [paid, Keyed.lookup_of_mem hresults hresult]

theorem orderByUserId_perm (aggregates : List UserAggregate) :
    (orderByUserId aggregates).Perm aggregates :=
  List.perm_insertionSort _ _

end Aggregates

end RewardSystem.PredictionMarket
