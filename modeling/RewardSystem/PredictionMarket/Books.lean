import RewardSystem.PredictionMarket.Accounting

/-!
# Runs of the prediction markets

Every operation keeps the books. Over a run every position leaves `open` once, and every finalized
market has paid out its pool.
-/

namespace RewardSystem.PredictionMarket

open Economy Transition

section Invariant

variable {store store' : MarketStore}

theorem numbered_modify {ρ : Type} {key : ρ → Nat} {k : Nat} {f : ρ → ρ} {rows : List ρ}
    (hf : ∀ row, key row = k → key (f row) = k)
    (h : rows.map key = List.range' 1 rows.length) :
    (Keyed.modify key k f rows).map key = List.range' 1 (Keyed.modify key k f rows).length := by
  rw [Keyed.map_key_modify hf, h, Keyed.modify, List.length_map]

theorem numbered_append {ρ : Type} {key : ρ → Nat} {rows : List ρ} {row : ρ}
    (hkey : key row = rows.length + 1) (h : rows.map key = List.range' 1 rows.length) :
    (rows ++ [row]).map key = List.range' 1 (rows ++ [row]).length := by
  rw [List.map_append, h, List.length_append, List.map_singleton, hkey, List.length_singleton,
    List.range'_concat, one_mul, add_comm 1]

theorem openStakes_append (concerns : Nat → Nat → Prop) [DecidableRel concerns]
    (rows more : List StoredPosition) :
    openStakes concerns (rows ++ more) = openStakes concerns rows + openStakes concerns more := by
  simp [openStakes]

theorem openStakes_eq_zero {concerns : Nat → Nat → Prop} [DecidableRel concerns]
    {rows : List StoredPosition}
    (h : ∀ row ∈ rows, ¬(row.status = .opened ∧ concerns row.marketId row.userId)) :
    openStakes concerns rows = 0 := by
  refine List.sum_eq_zero fun stake hstake => ?_
  obtain ⟨row, hrow, rfl⟩ := List.mem_map.mp hstake
  rw [if_neg (h row hrow)]

theorem lockedFor_of_recorded {moves : List AssetMove} (h : store'.moves = store.moves ++ moves)
    (marketId userId : Nat) :
    lockedFor store' marketId userId = lockedFor store marketId userId
      + movedFor AssetMove.locked (fun move => move.marketId = marketId ∧ move.userId = userId)
          moves := by
  rw [lockedFor, h, movedFor_append]
  rfl

theorem creditedFor_of_recorded {moves : List AssetMove} (h : store'.moves = store.moves ++ moves)
    (marketId : Nat) :
    creditedFor store' marketId = creditedFor store marketId
      + movedFor AssetMove.available (fun move => move.marketId = marketId) moves := by
  rw [creditedFor, h, movedFor_append]
  rfl

theorem Accounted.id_le (hacc : Accounted store) {market : StoredMarket}
    (hmem : market ∈ store.markets) : market.id ≤ store.markets.length := by
  have hid : market.id ∈ List.range' 1 store.markets.length := by
    rw [← hacc.marketIds]
    exact List.mem_map_of_mem hmem
  rw [List.mem_range'_1] at hid
  omega

theorem Accounted.eq_of_id (hacc : Accounted store) {market row : StoredMarket}
    (hfound : Keyed.lookup StoredMarket.id market.id store.markets = some market)
    (hrow : row ∈ store.markets) (hid : row.id = market.id) : row = market := by
  have hlookup := Keyed.lookup_of_mem (markets_hasKeys hacc) hrow
  rw [hid, hfound] at hlookup
  exact (Option.some.inj hlookup).symm

theorem Accounted.created (hacc : Accounted store) {market : StoredMarket}
    (hid : market.id = store.markets.length + 1) (hpool : market.totalPoolAmount = 0)
    (hrunning : ¬market.finalized) :
    Accounted { store with markets := store.markets ++ [market] } where
  marketIds := numbered_append hid hacc.marketIds
  positionIds := hacc.positionIds
  placed position hposition := by
    have hle := hacc.placed position hposition
    simp only [List.length_append, List.length_singleton]
    omega
  stakes := hacc.stakes
  locked := hacc.locked
  pool row hrow hfinal := by
    rcases List.mem_append.mp hrow with hold | hnew
    · exact hacc.pool row hold hfinal
    · obtain rfl := List.mem_singleton.mp hnew
      rw [hpool]
      refine (openStakes_eq_zero fun position hposition hopen => ?_).symm
      have hle := hacc.placed position hposition
      have hmarket : position.marketId = row.id := hopen.2
      omega
  closed row hrow hfinal := by
    rcases List.mem_append.mp hrow with hold | hnew
    · exact hacc.closed row hold hfinal
    · obtain rfl := List.mem_singleton.mp hnew
      exact absurd hfinal hrunning

theorem mem_setPool {markets : List StoredMarket} {marketId : Nat} {pool : Int}
    {row : StoredMarket}
    (h : row ∈ Keyed.modify StoredMarket.id marketId
      (fun row => { row with totalPoolAmount := pool }) markets) :
    (row ∈ markets ∧ row.id ≠ marketId) ∨
      ∃ old ∈ markets, old.id = marketId ∧ row = { old with totalPoolAmount := pool } := by
  rcases Keyed.mem_modify.mp h with hother | ⟨old, hold, hid, hrow⟩
  · exact .inl hother
  · exact .inr ⟨old, hold, hid, hrow.symm⟩

theorem Accounted.placed_change (hacc : Accounted store) {market : StoredMarket}
    {position : StoredPosition} (h : Places market position store store') : Accounted store' := by
  obtain ⟨hfound, hrunning, hid, hmarket, hstatus, hstake, moved, hmoves, rfl⟩ := h
  have hpositions : moved.positions = store.positions := by rw [hmoves.tables]
  have hmarkets : moved.markets = store.markets := by rw [hmoves.tables]
  have hrecorded : moved.moves = store.moves ++
      [⟨market.id, position.userId, -position.stakeAmount, position.stakeAmount⟩] := by
    rw [hmoves.tables]
  constructor
  · simp only [MarketStore.setMarket, hmarkets]
    exact numbered_modify (fun _ h => h) hacc.marketIds
  · simp only [MarketStore.setMarket, hpositions]
    exact numbered_append hid hacc.positionIds
  · intro row hrow
    simp only [MarketStore.setMarket, hpositions, hmarkets, Keyed.modify, List.length_map] at hrow ⊢
    rcases List.mem_append.mp hrow with hold | hnew
    · exact hacc.placed row hold
    · obtain rfl := List.mem_singleton.mp hnew
      rw [hmarket]
      exact hacc.id_le (Keyed.mem_of_lookup hfound)
  · intro row hrow
    simp only [MarketStore.setMarket, hpositions] at hrow
    rcases List.mem_append.mp hrow with hold | hnew
    · exact hacc.stakes row hold
    · obtain rfl := List.mem_singleton.mp hnew
      exact hstake
  · intro marketId userId
    have hlocked := hacc.locked marketId userId
    unfold userStakes at hlocked ⊢
    simp only [MarketStore.setMarket, hpositions, lockedFor, hrecorded, movedFor_append,
      openStakes_append] at hlocked ⊢
    rw [hlocked]
    simp [movedFor, openStakes, hstatus, hmarket]
  · intro row hrow hfinal
    simp only [MarketStore.setMarket, hmarkets] at hrow
    unfold poolStakes
    simp only [MarketStore.setMarket, hpositions, openStakes_append]
    rcases mem_setPool hrow with ⟨hold, hne⟩ | ⟨old, hold, hrowId, rfl⟩
    · rw [hacc.pool row hold hfinal]
      simp [poolStakes, openStakes, hmarket, Ne.symm hne]
    · obtain rfl := hacc.eq_of_id hfound hold hrowId
      have hpool := hacc.pool old hold hrunning
      unfold poolStakes at hpool
      dsimp only
      rw [hpool]
      simp [openStakes, hmarket, hstatus]
  · intro row hrow hfinal position' hposition
    simp only [MarketStore.setMarket, hmarkets, hpositions] at hrow hposition
    rcases mem_setPool hrow with ⟨hold, hne⟩ | ⟨old, hold, hrowId, rfl⟩
    · rcases List.mem_append.mp hposition with hposition | hposition
      · exact hacc.closed row hold hfinal position' hposition
      · obtain rfl := List.mem_singleton.mp hposition
        rw [hmarket]
        exact fun hsame => absurd hsame.symm hne
    · obtain rfl := hacc.eq_of_id hfound hold hrowId
      exact absurd hfinal hrunning

theorem Accounted.lookup_position (hacc : Accounted store) {position : StoredPosition}
    (hmem : position ∈ store.positions) :
    Keyed.lookup StoredPosition.id position.id store.positions = some position :=
  Keyed.lookup_of_mem (positions_hasKeys hacc) hmem

theorem openStakes_sold (hacc : Accounted store) {position : StoredPosition} {settledAt : Int}
    (hmem : position ∈ store.positions) (hstatus : position.status = .opened)
    (concerns : Nat → Nat → Prop) [DecidableRel concerns] :
    openStakes concerns (Keyed.modify StoredPosition.id position.id
      (fun row =>
        { row with
          payoutAmount := position.stakeAmount
          status := .sold
          settledAt := some settledAt }) store.positions) =
      openStakes concerns store.positions
        - if concerns position.marketId position.userId then position.stakeAmount else 0 := by
  unfold openStakes
  rw [Keyed.sum_modify _ (positions_hasKeys hacc) (hacc.lookup_position hmem)]
  simp [hstatus]

theorem Accounted.sold_change (hacc : Accounted store) {market : StoredMarket}
    {position : StoredPosition} (h : Sells market position store store') : Accounted store' := by
  obtain ⟨hfound, hrunning, hmem, hmarket, hstatus, moved, settledAt, hmoves, rfl⟩ := h
  have hpositions : moved.positions = store.positions := by rw [hmoves.tables]
  have hmarkets : moved.markets = store.markets := by rw [hmoves.tables]
  have hrecorded : moved.moves = store.moves ++
      [⟨market.id, position.userId, position.stakeAmount, -position.stakeAmount⟩] := by
    rw [hmoves.tables]
  constructor
  · simp only [MarketStore.setMarket, MarketStore.setPosition, hmarkets]
    exact numbered_modify (fun _ h => h) hacc.marketIds
  · simp only [MarketStore.setMarket, MarketStore.setPosition, hpositions]
    exact numbered_modify (fun _ h => h) hacc.positionIds
  · intro row' hrow
    simp only [MarketStore.setMarket, MarketStore.setPosition, hpositions, hmarkets,
      List.length_map, Keyed.modify] at hrow ⊢
    obtain ⟨row, hmem', rfl⟩ := List.mem_map.mp hrow
    have hplaced := hacc.placed row hmem'
    split_ifs <;> exact hplaced
  · intro row' hrow
    simp only [MarketStore.setMarket, MarketStore.setPosition, hpositions, Keyed.modify] at hrow
    obtain ⟨row, hmem', rfl⟩ := List.mem_map.mp hrow
    have hstake := hacc.stakes row hmem'
    split_ifs <;> exact hstake
  · intro marketId userId
    have hlocked := hacc.locked marketId userId
    unfold userStakes at hlocked ⊢
    simp only [MarketStore.setMarket, MarketStore.setPosition, hpositions, lockedFor, hrecorded,
      movedFor_append] at hlocked ⊢
    rw [hlocked, openStakes_sold hacc hmem hstatus]
    simp only [movedFor, List.map_singleton, List.sum_singleton, hmarket]
    split_ifs <;> omega
  · intro row hrow hfinal
    simp only [MarketStore.setMarket, MarketStore.setPosition, hmarkets] at hrow
    unfold poolStakes
    simp only [MarketStore.setMarket, MarketStore.setPosition, hpositions]
    rw [openStakes_sold hacc hmem hstatus]
    rcases mem_setPool hrow with ⟨hold, hne⟩ | ⟨old, hold, hrowId, rfl⟩
    · rw [hacc.pool row hold hfinal, poolStakes, hmarket, if_neg (Ne.symm hne), sub_zero]
    · obtain rfl := hacc.eq_of_id hfound hold hrowId
      have hpool := hacc.pool old hold hrunning
      unfold poolStakes at hpool
      dsimp only
      rw [hpool, hmarket, if_pos rfl]
  · intro row hrow hfinal position' hposition
    simp only [MarketStore.setMarket, MarketStore.setPosition, hmarkets, hpositions] at hrow hposition
    rcases mem_setPool hrow with ⟨hold, hne⟩ | ⟨old, hold, hrowId, rfl⟩
    · rcases Keyed.mem_modify.mp hposition with ⟨hposition, _⟩ | ⟨row', hrow', _, rfl⟩
      · exact hacc.closed row hold hfinal position' hposition
      · simp
    · obtain rfl := hacc.eq_of_id hfound hold hrowId
      exact absurd hfinal hrunning

theorem Accounted.mem_openPositions (hacc : Accounted store) {marketId : Nat}
    {row : StoredPosition} (hrow : row ∈ store.positions)
    (hid : row.id ∈ (store.openPositions marketId).map StoredPosition.id) :
    row.marketId = marketId ∧ row.status = .opened := by
  obtain ⟨position, hposition, hsame⟩ := List.mem_map.mp hid
  obtain ⟨hmem, hopen⟩ := List.mem_filter.mp hposition
  have hlookup := hacc.lookup_position hmem
  rw [hsame, hacc.lookup_position hrow] at hlookup
  obtain rfl := Option.some.inj hlookup
  simpa using hopen

theorem exists_of_closes {ids : List Nat} {rows rows' : List StoredPosition}
    (h : List.Forall₂ (Closes ids) rows rows') {row' : StoredPosition} (hrow : row' ∈ rows') :
    ∃ row ∈ rows, Closes ids row row' := by
  induction h with
  | nil => simp at hrow
  | @cons head head' rows rows' hhead _ ih =>
      rcases List.mem_cons.mp hrow with rfl | hrow
      · exact ⟨head, by simp, hhead⟩
      · obtain ⟨row, hmem, hcloses⟩ := ih hrow
        exact ⟨row, by simp [hmem], hcloses⟩

section Finalized

variable {marketId : Nat} {fee : Int} {moves : List AssetMove}

theorem Finalizes.openStakes_own (h : Finalizes marketId fee moves store store')
    {concerns : Nat → Nat → Prop} [DecidableRel concerns]
    (hown : ∀ m u, concerns m u → m = marketId) :
    openStakes concerns store'.positions = 0 := by
  rw [openStakes_of_closes concerns h.positions]
  refine openStakes_eq_zero fun row hrow hopen => ?_
  obtain ⟨hmem, hid⟩ := List.mem_filter.mp hrow
  have hposition : row ∈ store.openPositions marketId :=
    List.mem_filter.mpr ⟨hmem, by simp [hown _ _ hopen.2, hopen.1]⟩
  have hnamed := List.mem_map_of_mem (f := StoredPosition.id) hposition
  simp [hnamed] at hid

theorem Finalizes.openStakes_other (hacc : Accounted store)
    (h : Finalizes marketId fee moves store store') {concerns : Nat → Nat → Prop}
    [DecidableRel concerns] (hother : ∀ m u, concerns m u → m ≠ marketId) :
    openStakes concerns store'.positions = openStakes concerns store.positions := by
  rw [openStakes_of_closes concerns h.positions]
  let left (row : StoredPosition) : Bool :=
    row.id ∉ (store.openPositions marketId).map StoredPosition.id
  have hclosed : openStakes concerns (store.positions.filter fun row => !left row) = 0 := by
    refine openStakes_eq_zero fun row hrow hopen => ?_
    obtain ⟨hmem, hid⟩ := List.mem_filter.mp hrow
    have hmarket := (hacc.mem_openPositions hmem (by simpa [left] using hid)).1
    exact hother _ _ hopen.2 hmarket
  have hsplit : openStakes concerns (store.positions.filter left
      ++ store.positions.filter fun row => !left row) = openStakes concerns store.positions :=
    ((List.filter_append_perm left store.positions).map _).sum_eq
  rw [openStakes_append, hclosed, add_zero] at hsplit
  exact hsplit

theorem Finalizes.movedFor_market (h : Finalizes marketId fee moves store store')
    (m userId : Nat) :
    movedFor AssetMove.locked (fun move => move.marketId = m ∧ move.userId = userId) moves =
      if m = marketId then -userStakes store marketId userId else 0 := by
  by_cases hm : m = marketId
  · rw [if_pos hm, ← h.released userId]
    refine congrArg List.sum (List.map_congr_left fun move hmove => ?_)
    simp [h.moved move hmove, hm]
  · rw [if_neg hm]
    refine List.sum_eq_zero fun amount hamount => ?_
    obtain ⟨move, hmove, rfl⟩ := List.mem_map.mp hamount
    simp [h.moved move hmove, Ne.symm hm]

theorem Accounted.finalized_change (hacc : Accounted store)
    (h : Finalizes marketId fee moves store store') : Accounted store' := by
  obtain ⟨update, hupdate, hmarkets⟩ := h.markets
  have hlength : store'.positions.length = store.positions.length := h.positions.length_eq.symm
  constructor
  · rw [hmarkets]
    exact numbered_modify (fun row hrow => (hupdate row).1.trans hrow) hacc.marketIds
  · rw [map_id_of_closes h.positions, hlength]
    exact hacc.positionIds
  · intro row' hrow
    obtain ⟨row, hmem, hcloses⟩ := exists_of_closes h.positions hrow
    rw [hcloses.marketId, hmarkets, Keyed.modify, List.length_map]
    exact hacc.placed row hmem
  · intro row' hrow
    obtain ⟨row, hmem, hcloses⟩ := exists_of_closes h.positions hrow
    rw [hcloses.stakeAmount]
    exact hacc.stakes row hmem
  · intro m userId
    rw [lockedFor_of_recorded h.recorded, hacc.locked, h.movedFor_market]
    by_cases hm : m = marketId
    · subst hm
      rw [if_pos rfl, add_neg_cancel]
      exact (h.openStakes_own fun _ _ hconcerns => hconcerns.1).symm
    · rw [if_neg hm, add_zero]
      exact (h.openStakes_other hacc fun _ _ hconcerns hsame =>
        hm (hconcerns.1.symm.trans hsame)).symm
  · intro row hrow hrunning
    rw [hmarkets] at hrow
    rcases Keyed.mem_modify.mp hrow with ⟨hold, hne⟩ | ⟨old, _, _, rfl⟩
    · rw [hacc.pool row hold hrunning]
      exact (h.openStakes_other hacc fun _ _ hconcerns hsame =>
        hne (hconcerns.symm.trans hsame)).symm
    · exact absurd (hupdate old).2 hrunning
  · intro row hrow hfinal position' hposition hmarket
    obtain ⟨position, hmem, hcloses⟩ := exists_of_closes h.positions hposition
    by_cases hid : position.id ∈ (store.openPositions marketId).map StoredPosition.id
    · exact hcloses.shut hid
    · rw [hcloses.other hid] at hmarket ⊢
      rw [hmarkets] at hrow
      rcases Keyed.mem_modify.mp hrow with ⟨hold, _⟩ | ⟨old, _, hrowId, rfl⟩
      · exact hacc.closed row hold hfinal position hmem hmarket
      · intro hopen
        refine hid (List.mem_map_of_mem (List.mem_filter.mpr ⟨hmem, ?_⟩))
        simp [hmarket, (hupdate old).1, hrowId, hopen]

end Finalized

theorem Accounted.change (hacc : Accounted store) (h : Change store store') : Accounted store' := by
  cases h with
  | created market hid hpool hrunning => exact hacc.created hid hpool hrunning
  | placed market position h => exact hacc.placed_change h
  | sold market position h => exact hacc.sold_change h
  | finalized marketId fee moves h => exact hacc.finalized_change h

theorem Accounted.step {operation : Operation} (hacc : Accounted store)
    (h : step store operation = .ok store') : Accounted store' := by
  rcases step_change hacc h with hchange | ⟨economy, houseBankroll, _, rfl⟩
  · exact hacc.change hchange
  · exact ⟨hacc.marketIds, hacc.positionIds, hacc.placed, hacc.stakes, hacc.locked, hacc.pool,
      hacc.closed⟩

theorem Accounted.of_fresh (h : store.Fresh) : Accounted store := by
  obtain ⟨hmarkets, hpositions, hmoves, _⟩ := h
  constructor <;>
    simp [hmarkets, hpositions, hmoves, lockedFor, userStakes, openStakes, movedFor]

theorem accounted_of_run {events : List (Event MarketStore Operation)}
    (hfresh : store.Fresh) (hrun : Run (Accepts step) store events store') : Accounted store' :=
  hrun.invariant (fun _ _ _ hacc hstep => hacc.step hstep) (.of_fresh hfresh)

end Invariant

section Positions

variable {store store' : MarketStore}

/-- The position exists and is not open any more. -/
def ClosedIn (store : MarketStore) (positionId : Nat) : Prop :=
  statusOf store positionId ≠ none ∧ statusOf store positionId ≠ some .opened

instance (positionId : Nat) : DecidablePred fun store => ClosedIn store positionId :=
  fun _ => inferInstanceAs (Decidable (_ ∧ _))

theorem lookup_of_closes {ids : List Nat} {rows rows' : List StoredPosition}
    (h : List.Forall₂ (Closes ids) rows rows') (positionId : Nat) :
    (Keyed.lookup StoredPosition.id positionId rows = none ∧
        Keyed.lookup StoredPosition.id positionId rows' = none) ∨
      ∃ row row', Keyed.lookup StoredPosition.id positionId rows = some row ∧
        Keyed.lookup StoredPosition.id positionId rows' = some row' ∧ Closes ids row row' := by
  unfold Keyed.lookup
  induction h with
  | nil => simp
  | @cons row row' rows rows' hhead _ ih =>
      by_cases hid : row.id = positionId
      · right
        exact ⟨row, row', by simp [hid], by simp [hid, hhead.id], hhead⟩
      · simpa [List.find?_cons, hid, hhead.id] using ih

theorem statusOf_of_closes {ids : List Nat}
    (hids : ∀ row ∈ store.positions, row.id ∈ ids → row.status = .opened)
    (h : List.Forall₂ (Closes ids) store.positions store'.positions) (positionId : Nat) :
    statusOf store' positionId = statusOf store positionId ∨
      (statusOf store positionId = some .opened ∧ ClosedIn store' positionId) := by
  unfold ClosedIn statusOf
  rcases lookup_of_closes h positionId with
    ⟨hnone, hnone'⟩ | ⟨row, row', hrow, hrow', hcloses⟩
  · left
    rw [hnone, hnone']
  · rw [hrow, hrow']
    by_cases hid : row.id ∈ ids
    · right
      have hopen := hids row (Keyed.mem_of_lookup hrow) hid
      have hshut := hcloses.shut hid
      simp [hopen, hshut]
    · left
      rw [hcloses.other hid]

theorem statusOf_change (hacc : Accounted store) (h : Change store store') (positionId : Nat) :
    statusOf store' positionId = statusOf store positionId ∨
      (statusOf store positionId = none ∧ statusOf store' positionId = some .opened) ∨
      (statusOf store positionId = some .opened ∧ ClosedIn store' positionId) := by
  cases h with
  | created market _ _ _ => exact .inl rfl
  | placed market position h =>
      obtain ⟨_, _, hid, _, hstatus, _, moved, hmoves, rfl⟩ := h
      have hpositions : moved.positions = store.positions := by rw [hmoves.tables]
      unfold statusOf
      simp only [MarketStore.setMarket, hpositions]
      by_cases hsame : position.id = positionId
      · have hnew : Keyed.lookup StoredPosition.id positionId store.positions = none := by
          refine Keyed.lookup_eq_none.mpr fun row hrow hrowId => ?_
          have hmem : row.id ∈ List.range' 1 store.positions.length := by
            rw [← hacc.positionIds]
            exact List.mem_map_of_mem hrow
          rw [List.mem_range'_1] at hmem
          omega
        have hadded : Keyed.lookup StoredPosition.id position.id (store.positions ++ [position]) =
            some position := Keyed.lookup_append_self (by rwa [hsame])
        rw [hsame] at hadded
        right
        left
        simp [hnew, hadded, hstatus]
      · left
        rw [Keyed.lookup_append_of_ne hsame]
  | sold market position h =>
      obtain ⟨_, _, hmem, _, hstatus, moved, settledAt, hmoves, rfl⟩ := h
      have hpositions : moved.positions = store.positions := by rw [hmoves.tables]
      have hcloses := (closesPositions_setPosition moved position.id position.stakeAmount settledAt
        (show PositionStatus.sold ≠ .opened by simp)).rows
      rw [hpositions] at hcloses
      refine (statusOf_of_closes (fun row hrow hid => ?_) hcloses positionId).imp id .inr
      have hlookup := hacc.lookup_position hrow
      rw [List.mem_singleton.mp hid, hacc.lookup_position hmem] at hlookup
      rwa [← Option.some.inj hlookup]
  | finalized marketId fee moves h =>
      exact (statusOf_of_closes (fun row hrow hid => (hacc.mem_openPositions hrow hid).2)
        h.positions positionId).imp id .inr

theorem statusOf_step (hacc : Accounted store) {operation : Operation}
    (h : step store operation = .ok store') (positionId : Nat) :
    statusOf store' positionId = statusOf store positionId ∨
      (statusOf store positionId = none ∧ statusOf store' positionId = some .opened) ∨
      (statusOf store positionId = some .opened ∧ ClosedIn store' positionId) := by
  rcases step_change hacc h with hchange | ⟨economy, houseBankroll, _, rfl⟩
  · exact statusOf_change hacc hchange positionId
  · exact .inl rfl

theorem countP_leavesOpen {events : List (Event MarketStore Operation)} (positionId : Nat)
    (hacc : Accounted store) (hopen : ¬ClosedIn store positionId)
    (hrun : Run (Accepts step) store events store') :
    events.countP (fun e => LeavesOpen positionId e) =
      if ClosedIn store' positionId then 1 else 0 := by
  have hcount := Run.countP_entering (I := Accounted) (P := fun store => ClosedIn store positionId)
    (Q := LeavesOpen positionId)
    (fun _ _ _ hacc hstep => hacc.step hstep)
    (fun u _ v hacc hstep hclosed => by
      rcases statusOf_step hacc hstep positionId with
        hsame | ⟨hnone, _⟩ | ⟨_, hclosed'⟩
      · unfold ClosedIn
        rwa [hsame]
      · exact absurd hnone hclosed.1
      · exact hclosed')
    (fun u i v hacc hstep => by
      unfold LeavesOpen
      dsimp only
      rcases statusOf_step hacc hstep positionId with
        hsame | ⟨hnone, hnew⟩ | ⟨hold, hclosed⟩
      · unfold ClosedIn
        rw [hsame]
        tauto
      · simp [ClosedIn, hnone, hnew]
      · simp [ClosedIn, hold, hclosed.1, hclosed.2])
    hrun hacc
  rwa [if_neg hopen, zero_add] at hcount

end Positions

section Payouts

variable {store store' : MarketStore}

theorem Finalizes.pays {marketId : Nat} {fee : Int} {moves : List AssetMove}
    (hacc : Accounted store) (h : Finalizes marketId fee moves store store')
    {market : StoredMarket} (hmem : market ∈ store.markets) (hid : market.id = marketId) :
    creditedFor store' marketId - creditedFor store marketId
      + (feesOf store' marketId - feesOf store marketId) = market.totalPoolAmount := by
  obtain ⟨row, hfound, hrunning⟩ := h.running
  have hrow : row = market := by
    have hlookup := Keyed.lookup_of_mem (markets_hasKeys hacc) hmem
    rw [hid, hfound] at hlookup
    exact Option.some.inj hlookup
  subst hrow
  have hcredited : movedFor AssetMove.available (fun move => move.marketId = marketId) moves =
      (moves.map AssetMove.available).sum := by
    refine congrArg List.sum (List.map_congr_left fun move hmove => ?_)
    rw [if_pos (h.moved move hmove)]
  have hpool := hacc.pool row hmem hrunning
  rw [hid] at hpool
  rw [creditedFor_of_recorded h.recorded, hcredited, h.fees, if_pos rfl, hpool, ← h.credited]
  omega

theorem pays_of_change (hacc : Accounted store) (h : Change store store')
    {market market' : StoredMarket} (hmem : market ∈ store.markets)
    (hmem' : market' ∈ store'.markets) (hid : market'.id = market.id)
    (hrunning : ¬market.finalized) (hfinal : market'.finalized) :
    creditedFor store' market.id - creditedFor store market.id
      + (feesOf store' market.id - feesOf store market.id) = market.totalPoolAmount := by
  have hlookup := Keyed.lookup_of_mem (markets_hasKeys hacc) hmem
  have hold : market' ∉ store.markets := fun hmem' =>
    hrunning (hacc.eq_of_id hlookup hmem' hid ▸ hfinal)
  cases h with
  | created row hrow _ _ =>
      rcases List.mem_append.mp hmem' with hmem' | hmem'
      · exact absurd hmem' hold
      · have hle := hacc.id_le hmem
        obtain rfl := List.mem_singleton.mp hmem'
        omega
  | placed row position h =>
      obtain ⟨_, _, _, _, _, _, moved, hmoves, rfl⟩ := h
      have hmarkets : moved.markets = store.markets := by rw [hmoves.tables]
      simp only [MarketStore.setMarket, hmarkets] at hmem'
      rcases mem_setPool hmem' with ⟨hmem', _⟩ | ⟨old, hmemOld, _, rfl⟩
      · exact absurd hmem' hold
      · exact absurd (hacc.eq_of_id hlookup hmemOld hid ▸ hfinal) hrunning
  | sold row position h =>
      obtain ⟨_, _, _, _, _, moved, settledAt, hmoves, rfl⟩ := h
      have hmarkets : moved.markets = store.markets := by rw [hmoves.tables]
      simp only [MarketStore.setMarket, MarketStore.setPosition, hmarkets] at hmem'
      rcases mem_setPool hmem' with ⟨hmem', _⟩ | ⟨old, hmemOld, _, rfl⟩
      · exact absurd hmem' hold
      · exact absurd (hacc.eq_of_id hlookup hmemOld hid ▸ hfinal) hrunning
  | finalized marketId fee moves h =>
      obtain ⟨update, hupdate, hmarkets⟩ := h.markets
      rw [hmarkets] at hmem'
      rcases Keyed.mem_modify.mp hmem' with ⟨hmem', _⟩ | ⟨old, _, hrow, rfl⟩
      · exact absurd hmem' hold
      · have hsame : market.id = marketId := by rw [← hid, (hupdate old).1, hrow]
        rw [hsame]
        exact h.pays hacc hmem hsame

theorem balancesMove_of_change (h : Change store store') :
    ∃ moves, store'.moves = store.moves ++ moves ∧
      BalancesMove store.economy moves store'.economy := by
  cases h with
  | created market _ _ _ => exact ⟨[], by simp, .refl store.economy⟩
  | placed market position h =>
      obtain ⟨_, _, _, _, _, _, moved, hmoves, rfl⟩ := h
      exact ⟨_, congrArg MarketStore.moves hmoves.tables, hmoves.balances⟩
  | sold market position h =>
      obtain ⟨_, _, _, _, _, moved, settledAt, hmoves, rfl⟩ := h
      exact ⟨_, congrArg MarketStore.moves hmoves.tables, hmoves.balances⟩
  | finalized marketId fee moves h => exact ⟨moves, h.recorded, h.balances⟩

end Payouts

/-- The accounts of the markets over a run that has led to `store`. -/
structure MarketsAccounted (events : List (Event MarketStore Operation)) (store : MarketStore) :
    Prop where
  /-- The pool of a running market is what its open positions have staked. -/
  pool : ∀ market ∈ store.markets, ¬market.finalized →
    market.totalPoolAmount = poolStakes store market.id
  locked : ∀ market ∈ store.markets, ¬market.finalized → ∀ userId,
    lockedFor store market.id userId = userStakes store market.id userId
  released : ∀ market ∈ store.markets, market.finalized →
    (∀ userId, lockedFor store market.id userId = 0) ∧
      ∀ position ∈ store.positions, position.marketId = market.id → position.status ≠ .opened
  leavesOnce : ∀ position ∈ store.positions,
    events.countP (fun e => LeavesOpen position.id e) = if position.status = .opened then 0 else 1
  paidOut : ∀ e ∈ events, ∀ market ∈ e.before.markets, ∀ market' ∈ e.after.markets,
    market'.id = market.id → ¬market.finalized → market'.finalized →
      creditedFor e.after market.id - creditedFor e.before market.id
        + (feesOf e.after market.id - feesOf e.before market.id) = market.totalPoolAmount
  /-- What the markets note as moved is what they have changed in the balances. -/
  moves : ∀ e ∈ events, (∀ economy houseBankroll, e.label ≠ .elsewhere economy houseBankroll) →
    ∃ moves, e.after.moves = e.before.moves ++ moves ∧
      BalancesMove e.before.economy moves e.after.economy

/-- **The markets are accounted for in every run.** -/
theorem marketsAccounted_of_run {store store' : MarketStore}
    {events : List (Event MarketStore Operation)} (hfresh : store.Fresh)
    (hrun : Run (Accepts step) store events store') : MarketsAccounted events store' := by
  have hacc := accounted_of_run hfresh hrun
  have hstart := Accounted.of_fresh hfresh
  have haround : ∀ e ∈ events, Accounted e.before := fun e he =>
    (hrun.invariant_around (fun _ _ _ hacc hstep => Accounted.step hacc hstep) hstart he).1
  constructor
  · exact hacc.pool
  · exact fun market _ _ userId => hacc.locked market.id userId
  · intro market hmem hfinal
    have hclosed := hacc.closed market hmem hfinal
    refine ⟨fun userId => ?_, hclosed⟩
    rw [hacc.locked]
    exact openStakes_eq_zero fun position hposition hopen =>
      hclosed position hposition hopen.2.1 hopen.1
  · intro position hposition
    have hnew : ¬ClosedIn store position.id := by
      simp [ClosedIn, statusOf, hfresh.2.1, Keyed.lookup]
    have hstatus : statusOf store' position.id = some position.status := by
      rw [statusOf, hacc.lookup_position hposition]
      rfl
    rw [countP_leavesOpen position.id hstart hnew hrun]
    by_cases hopen : position.status = .opened
    · simp [ClosedIn, hstatus, hopen]
    · simp [ClosedIn, hstatus, hopen]
  · intro e he market hmem market' hmem' hid hrunning hfinal
    rcases step_change (haround e he) (hrun.step_of_mem he) with hchange | ⟨_, _, _, hafter⟩
    · exact pays_of_change (haround e he) hchange hmem hmem' hid hrunning hfinal
    · have hlookup := Keyed.lookup_of_mem (markets_hasKeys (haround e he)) hmem
      rw [hafter] at hmem'
      exact absurd ((haround e he).eq_of_id hlookup hmem' hid ▸ hfinal) hrunning
  · intro e he hown
    rcases step_change (haround e he) (hrun.step_of_mem he) with
      hchange | ⟨economy, houseBankroll, hlabel, _⟩
    · exact balancesMove_of_change hchange
    · exact absurd hlabel (hown economy houseBankroll)

section Example

/-- Two users with 10.00 each. -/
def fundedStore : MarketStore :=
  { economy :=
      { balances := fun userId _ =>
          if userId = 1 ∨ userId = 2 then ⟨1000, 0, 1000, 0⟩ else ⟨0, 0, 0, 0⟩
        entries := []
        giftTransfers := []
        giftEnergy := fun _ => none }
    houseBankroll := 0
    houseTransactions := []
    markets := []
    positions := []
    moves := [] }

def placeOn (userId : Nat) (outcomeKey : String) (stakeAmount : ℚ) : Operation :=
  .place
    { userId := userId
      marketId := 1
      outcomeKey := outcomeKey
      stakeAmount := some (.finite stakeAmount)
      kycStakeAllowed := .ok () } 10

/-- A market with a fee of 3%: three stakes are placed, one is sold, and the first outcome wins. -/
def settledMarket : List Operation :=
  [.create ⟨"cup", 300, ["yes", "no"], none, 100, none⟩ 0,
    placeOn 1 "yes" 5,
    placeOn 2 "no" (301 / 100),
    placeOn 2 "yes" 1,
    .sell 2 1 3 20,
    .settle ⟨1, "yes", .admin, false⟩ 100]

theorem marketsAccounted_settledMarket :
    ∃ events store, Run (Accepts step) fundedStore events store ∧ events.length = 6 ∧
      (∃ market ∈ store.markets, market.finalized) ∧ MarketsAccounted events store := by
  obtain ⟨events, store, hrun, hcheck⟩ := Run.exists_of_check step fundedStore settledMarket
    (fun events store => decide (events.length = 6 ∧ ∃ market ∈ store.markets, market.finalized))
    (by decide +kernel)
  obtain ⟨hlength, hfinal⟩ := of_decide_eq_true hcheck
  exact ⟨events, store, hrun, hlength, hfinal,
    marketsAccounted_of_run ⟨rfl, rfl, rfl, rfl⟩ hrun⟩

end Example

end RewardSystem.PredictionMarket
