import RewardSystem.Economy.Counters
import RewardSystem.PredictionMarket.Service

/-!
# What an operation moves

A market moves the asset balances of its users by stakes that are locked, refunds that are unlocked
and settlements. The moves of an operation are exactly what it has changed in the balance rows.
-/

namespace RewardSystem.PredictionMarket

open Economy

section Assets

variable {economy economy' : EconomyStore} {result : AssetMutationResult}

@[simp]
theorem toDecimalPlaces_moneyValue (cents : Int) :
    toDecimalPlaces (moneyValue cents) = .finite cents := by
  have hcents : (100 : ℚ) * ((cents : ℚ) / 100) = cents := mul_div_cancel₀ _ (by norm_num)
  simp [toDecimalPlaces, moneyValue, toCents, hcents]

theorem balances_of_mutation {payload : AssetMutationPayload} {cents : Int}
    {compute : Int → AssetBalance → Except ApiError BalanceUpdate}
    (hkey : payload.idempotencyKey = none) (hamount : payload.amount = moneyValue cents)
    (h : applyLedgerMutation economy payload compute = .ok (economy', result)) :
    ∃ update, compute cents (economy.balances payload.userId payload.assetCode) = .ok update ∧
      economy'.balances =
        (economy.setBalance payload.userId payload.assetCode update.balance).balances := by
  have hfind : economy.findIdempotentLedgerEntry payload.userId payload.assetCode
      payload.idempotencyKey = none := by
    rw [hkey]
    rfl
  unfold applyLedgerMutation at h
  simp only [hfind] at h
  obtain ⟨amount, hnormal, h⟩ := ApiError.bind_eq_ok.mp h
  obtain ⟨update, hupdate, h⟩ := ApiError.bind_eq_ok.mp h
  obtain ⟨updated, hrecord, h⟩ := ApiError.bind_eq_ok.mp h
  obtain ⟨rfl, _⟩ : updated = economy' ∧ _ := by simpa using h
  have hcents := (normalizePositiveAmount_eq_ok hnormal).1
  rw [hamount, toDecimalPlaces_moneyValue] at hcents
  obtain rfl : cents = amount := by simpa using hcents
  exact ⟨update, hupdate, record_balances hrecord⟩

theorem balances_of_settlement {payload : SettlePayload} {lockedCents payoutCents : Int}
    (hkey : payload.idempotencyKey = none) (hlocked : payload.lockedAmount = moneyValue lockedCents)
    (hpayout : payload.payoutAmount = moneyValue payoutCents)
    (h : settleLockedAsset economy payload = .ok (economy', result)) :
    economy'.balances = (economy.setBalance payload.userId payload.assetCode
      (settledBalance lockedCents payoutCents
        (economy.balances payload.userId payload.assetCode))).balances := by
  have hfind : findSettlement economy payload = none := by
    unfold findSettlement
    rw [hkey]
    split_ifs <;> rfl
  unfold settleLockedAsset at h
  simp only [hfind] at h
  obtain ⟨lockedAmount, hnormalLocked, h⟩ := ApiError.bind_eq_ok.mp h
  obtain ⟨payoutAmount, hnormalPayout, h⟩ := ApiError.bind_eq_ok.mp h
  obtain ⟨_, _, h⟩ := ApiError.bind_eq_ok.mp h
  have hlockedCents := (normalizePositiveAmount_eq_ok hnormalLocked).1
  have hpayoutCents := (normalizeNonNegativeAmount_eq_ok hnormalPayout).1
  rw [hlocked, toDecimalPlaces_moneyValue] at hlockedCents
  rw [hpayout, toDecimalPlaces_moneyValue] at hpayoutCents
  obtain rfl : lockedCents = lockedAmount := by simpa using hlockedCents
  obtain rfl : payoutCents = payoutAmount := by simpa using hpayoutCents
  split_ifs at h
  · obtain ⟨updated, hrecord, h⟩ := ApiError.bind_eq_ok.mp h
    obtain ⟨rfl, _⟩ : updated = economy' ∧ _ := by simpa using h
    exact record_balances hrecord
  · obtain ⟨updated, hset, h⟩ := ApiError.bind_eq_ok.mp h
    obtain ⟨rfl, _⟩ : updated = economy' ∧ _ := by simpa using h
    rw [← Except.ok.inj hset]

end Assets

def movedFor (amount : AssetMove → Int) (concerns : AssetMove → Prop) [DecidablePred concerns]
    (moves : List AssetMove) : Int :=
  (moves.map fun move => if concerns move then amount move else 0).sum

@[simp]
theorem movedFor_append (amount : AssetMove → Int) (concerns : AssetMove → Prop)
    [DecidablePred concerns] (moves more : List AssetMove) :
    movedFor amount concerns (moves ++ more) =
      movedFor amount concerns moves + movedFor amount concerns more := by
  simp [movedFor]

structure BalancesMove (economy : EconomyStore) (moves : List AssetMove)
    (economy' : EconomyStore) : Prop where
  available : ∀ userId, (economy'.balances userId .bLuck).availableBalance =
    (economy.balances userId .bLuck).availableBalance
      + movedFor AssetMove.available (fun move => move.userId = userId) moves
  locked : ∀ userId, (economy'.balances userId .bLuck).lockedBalance =
    (economy.balances userId .bLuck).lockedBalance
      + movedFor AssetMove.locked (fun move => move.userId = userId) moves

theorem BalancesMove.refl (economy : EconomyStore) : BalancesMove economy [] economy := by
  constructor <;> simp [movedFor]

theorem BalancesMove.append {economy economy₁ economy₂ : EconomyStore}
    {moves more : List AssetMove} (hfirst : BalancesMove economy moves economy₁)
    (hrest : BalancesMove economy₁ more economy₂) :
    BalancesMove economy (moves ++ more) economy₂ where
  available userId := by
    rw [hrest.available, hfirst.available, movedFor_append, add_assoc]
  locked userId := by
    rw [hrest.locked, hfirst.locked, movedFor_append, add_assoc]

/-- The store after some moves; the other tables are as before. -/
structure MovesBy (store : MarketStore) (moves : List AssetMove) (store' : MarketStore) : Prop where
  tables : store' = { store with economy := store'.economy, moves := store.moves ++ moves }
  balances : BalancesMove store.economy moves store'.economy

namespace MovesBy

variable {store store₁ store₂ : MarketStore} {moves more : List AssetMove}

theorem refl (store : MarketStore) : MovesBy store [] store where
  tables := by simp
  balances := .refl store.economy

theorem append (hfirst : MovesBy store moves store₁) (hrest : MovesBy store₁ more store₂) :
    MovesBy store (moves ++ more) store₂ where
  tables := by
    rw [hrest.tables, hfirst.tables]
    simp
  balances := hfirst.balances.append hrest.balances

theorem of_moveAsset {marketId userId : Nat} {store' : MarketStore} (after : AssetBalance)
    {change : EconomyStore → Except ApiError (EconomyStore × AssetMutationResult)}
    (hchange : ∀ economy result, change store.economy = .ok (economy, result) →
      economy.balances = (store.economy.setBalance userId .bLuck after).balances)
    (h : store.moveAsset marketId userId change = .ok store') :
    MovesBy store
      [{ marketId := marketId
         userId := userId
         available := after.availableBalance
           - (store.economy.balances userId .bLuck).availableBalance
         locked := after.lockedBalance - (store.economy.balances userId .bLuck).lockedBalance }]
      store' := by
  unfold MarketStore.moveAsset at h
  obtain ⟨⟨economy, result⟩, hmade, h⟩ := ApiError.bind_eq_ok.mp h
  have hbalances := hchange economy result hmade
  obtain rfl := Except.ok.inj h
  have hrow : economy.balances userId .bLuck = after := by
    rw [hbalances, setBalance_balances, if_pos ⟨rfl, rfl⟩]
  have hothers : ∀ otherId, userId ≠ otherId →
      economy.balances otherId .bLuck = store.economy.balances otherId .bLuck := by
    intro otherId hne
    rw [hbalances, setBalance_balances, if_neg fun h => hne h.1]
  refine ⟨by simp only [hrow], ?_, ?_⟩
  · intro otherId
    by_cases hsame : userId = otherId
    · subst hsame
      simp [movedFor, hrow]
    · simp [movedFor, hothers otherId hsame, hsame]
  · intro otherId
    by_cases hsame : userId = otherId
    · subst hsame
      simp [movedFor, hrow]
    · simp [movedFor, hothers otherId hsame, hsame]

end MovesBy

section Changes

variable {store store' : MarketStore} {marketId userId : Nat} {entryType : String} {cents : Int}

theorem movesBy_of_lock
    (h : store.moveAsset marketId userId (fun economy =>
      lockAsset economy ⟨userId, .bLuck, moneyValue cents, entryType, none⟩) = .ok store') :
    MovesBy store [⟨marketId, userId, -cents, cents⟩] store' := by
  let before := store.economy.balances userId .bLuck
  have hmoves := MovesBy.of_moveAsset
    { before with
      availableBalance := before.availableBalance - cents
      lockedBalance := before.lockedBalance + cents } (fun economy result hmade => by
    obtain ⟨update, hupdate, hbalances⟩ := balances_of_mutation rfl rfl hmade
    obtain ⟨_, _, hupdate⟩ := ApiError.bind_eq_ok.mp hupdate
    obtain rfl := Except.ok.inj hupdate
    exact hbalances) h
  simpa [before] using hmoves

theorem movesBy_of_unlock
    (h : store.moveAsset marketId userId (fun economy =>
      unlockAsset economy ⟨userId, .bLuck, moneyValue cents, entryType, none⟩) = .ok store') :
    MovesBy store [⟨marketId, userId, cents, -cents⟩] store' := by
  let before := store.economy.balances userId .bLuck
  have hmoves := MovesBy.of_moveAsset
    { before with
      availableBalance := before.availableBalance + cents
      lockedBalance := before.lockedBalance - cents } (fun economy result hmade => by
    obtain ⟨update, hupdate, hbalances⟩ := balances_of_mutation rfl rfl hmade
    obtain ⟨_, _, hupdate⟩ := ApiError.bind_eq_ok.mp hupdate
    obtain rfl := Except.ok.inj hupdate
    exact hbalances) h
  simpa [before] using hmoves

/-- A settlement takes the stakes out of the locked balance and adds the payout to the available
one. -/
theorem movesBy_of_settlement {payout : Int}
    (h : store.moveAsset marketId userId (fun economy =>
      settleLockedAsset economy
        ⟨userId, .bLuck, moneyValue cents, moneyValue payout, entryType, none⟩) = .ok store') :
    MovesBy store [⟨marketId, userId, payout, -cents⟩] store' := by
  have hmoves := MovesBy.of_moveAsset
    (settledBalance cents payout (store.economy.balances userId .bLuck))
    (fun economy result hmade => balances_of_settlement rfl rfl rfl hmade) h
  simpa [settledBalance] using hmoves

theorem movesBy_of_foldlM {move : UserAggregate → AssetMove}
    {body : MarketStore → UserAggregate → Except ApiError MarketStore}
    (hbody : ∀ store aggregate store', body store aggregate = .ok store' →
      MovesBy store [move aggregate] store')
    {aggregates : List UserAggregate} (h : aggregates.foldlM body store = .ok store') :
    MovesBy store (aggregates.map move) store' := by
  induction aggregates generalizing store with
  | nil =>
      obtain rfl : store = store' := by simpa [pure, Except.pure] using h
      exact .refl store
  | cons aggregate rest ih =>
      rw [List.foldlM_cons] at h
      obtain ⟨next, hnext, h⟩ := ApiError.bind_eq_ok.mp h
      exact (hbody store aggregate next hnext).append (ih h)

end Changes

end RewardSystem.PredictionMarket
