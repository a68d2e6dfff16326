import Mathlib.Data.List.Chain
import RewardSystem.Economy.Replay

/-!
# The ledger chain of a balance

The rows that a user and an asset have in the ledger tell the history of their balance: each begins
where the one before it ends, and the last ends with what is stored. A settlement without payout
changes the locked balance and leaves no row.
-/

namespace RewardSystem.Economy

open Transition

/-- The ledger rows of a user and an asset, the oldest first. -/
def chainOf (store : EconomyStore) (userId : Nat) (assetCode : AssetCode) :
    List EconomyLedgerEntry :=
  store.entries.filter fun entry => entry.userId = userId ∧ entry.assetCode = assetCode

/-- The row begins with the balances that `row` ends with. -/
def EconomyLedgerEntry.FollowedBy (row next : EconomyLedgerEntry) : Prop :=
  next.balanceBefore = row.balanceAfter ∧ next.lockedBalanceBefore = row.lockedBalanceAfter

def EconomyLedgerEntry.EndsWith (row : EconomyLedgerEntry) (balance : AssetBalance) : Prop :=
  row.balanceAfter = balance.availableBalance ∧ row.lockedBalanceAfter = balance.lockedBalance

structure Chained (rows : List EconomyLedgerEntry) (balance : AssetBalance) : Prop where
  consecutive : rows.IsChain EconomyLedgerEntry.FollowedBy
  last : ∀ row ∈ rows.getLast?, row.EndsWith balance

def LedgerChained (store : EconomyStore) : Prop :=
  ∀ userId assetCode, Chained (chainOf store userId assetCode) (store.balances userId assetCode)

def giftTotal (store : EconomyStore) (payload : GiftPayload) : Int :=
  let sender := store.balances payload.senderUserId payload.assetCode
  let receiver := store.balances payload.receiverUserId payload.assetCode
  sender.availableBalance + sender.lockedBalance
    + (receiver.availableBalance + receiver.lockedBalance)

/-- A gift leaves the total of its two users as it was. -/
def GiftConserves (e : Event EconomyStore EconomyCall) : Prop :=
  ∀ restricted now payload, e.label = .gift restricted now payload →
    giftTotal e.after payload = giftTotal e.before payload

/-- The chains hold after every call, and every gift conserves the total. -/
structure LedgerKept (events : List (Event EconomyStore EconomyCall)) : Prop where
  chained : ∀ e ∈ events, LedgerChained e.after
  gifts : ∀ e ∈ events, GiftConserves e

/-- The chains hold, and nothing of a balance without rows is locked. -/
structure LedgerLinked (store : EconomyStore) : Prop where
  chained : LedgerChained store
  untouched : ∀ userId assetCode, chainOf store userId assetCode = [] →
    (store.balances userId assetCode).lockedBalance = 0

section Calls

variable {store store' : EconomyStore}

theorem Chained.append {rows : List EconomyLedgerEntry} {balance balance' : AssetBalance}
    {row : EconomyLedgerEntry} (h : Chained rows balance)
    (hbefore : row.balanceBefore = balance.availableBalance)
    (hlockedBefore : row.lockedBalanceBefore = balance.lockedBalance)
    (hends : row.EndsWith balance') : Chained (rows ++ [row]) balance' where
  consecutive := by
    refine h.consecutive.append (List.isChain_singleton row) fun last hlast next hnext => ?_
    obtain rfl : row = next := by simpa using hnext
    obtain ⟨hafter, hlockedAfter⟩ := h.last last hlast
    exact ⟨hbefore.trans hafter.symm, hlockedBefore.trans hlockedAfter.symm⟩
  last last hlast := by
    obtain rfl : row = last := by simpa using hlast
    exact hends

theorem LedgerLinked.congr (h : LedgerLinked store) (hbalances : store'.balances = store.balances)
    (hentries : store'.entries = store.entries) : LedgerLinked store' := by
  have hchain : ∀ userId assetCode,
      chainOf store' userId assetCode = chainOf store userId assetCode := by
    intro userId assetCode
    rw [chainOf, hentries, chainOf]
  constructor
  · intro userId assetCode
    rw [hchain, hbalances]
    exact h.chained userId assetCode
  · intro userId assetCode hnone
    rw [hbalances]
    exact h.untouched userId assetCode (by rwa [← hchain])

theorem LedgerLinked.record (h : LedgerLinked store) {userId : Nat} {assetCode : AssetCode}
    {entryType : String} {idempotencyKey : Option String} {update : BalanceUpdate}
    (hrecord : store.record userId assetCode entryType idempotencyKey update = .ok store') :
    LedgerLinked store' := by
  have hbalances := record_balances hrecord
  have hentries : store'.entries = store.entries ++
      [store.recordedEntry userId assetCode entryType idempotencyKey update] := by
    rw [(EconomyStore.record_eq_ok hrecord).2]
  have hstep : ∀ otherId otherCode,
      chainOf store' otherId otherCode = chainOf store otherId otherCode ++
        if userId = otherId ∧ assetCode = otherCode then
          [store.recordedEntry userId assetCode entryType idempotencyKey update] else [] := by
    intro otherId otherCode
    rw [chainOf, hentries, List.filter_append, chainOf]
    by_cases hsame : userId = otherId ∧ assetCode = otherCode
    · simp [EconomyStore.recordedEntry, hsame]
    · simp [EconomyStore.recordedEntry, hsame]
  constructor
  · intro otherId otherCode
    rw [hstep, hbalances, setBalance_balances]
    by_cases hsame : userId = otherId ∧ assetCode = otherCode
    · obtain ⟨rfl, rfl⟩ := hsame
      simp only [and_self, if_true]
      exact (h.chained userId assetCode).append rfl rfl ⟨rfl, rfl⟩
    · simp only [hsame, if_false, List.append_nil]
      exact h.chained otherId otherCode
  · intro otherId otherCode hnone
    rw [hstep] at hnone
    obtain ⟨hold, hnew⟩ := List.append_eq_nil_iff.mp hnone
    rw [hbalances, setBalance_balances]
    by_cases hsame : userId = otherId ∧ assetCode = otherCode
    · simp [hsame] at hnew
    · rw [if_neg hsame]
      exact h.untouched otherId otherCode hold

theorem LedgerLinked.mutation (h : LedgerLinked store) {payload : AssetMutationPayload}
    {compute : Int → AssetBalance → Except ApiError BalanceUpdate} {result : AssetMutationResult}
    (hcall : applyLedgerMutation store payload compute = .ok (store', result)) :
    LedgerLinked store' := by
  unfold applyLedgerMutation at hcall
  split at hcall
  · obtain ⟨rfl, _⟩ : store = store' ∧ _ := by simpa using hcall
    exact h
  · obtain ⟨amount, _, hcall⟩ := ApiError.bind_eq_ok.mp hcall
    obtain ⟨update, _, hcall⟩ := ApiError.bind_eq_ok.mp hcall
    obtain ⟨updated, hrecord, hcall⟩ := ApiError.bind_eq_ok.mp hcall
    obtain ⟨rfl, _⟩ : updated = store' ∧ _ := by simpa using hcall
    exact h.record hrecord

theorem LedgerLinked.adjust (h : LedgerLinked store) {payload : AssetMutationPayload}
    {result : AssetMutationResult}
    (hcall : adjustLockedAsset store payload = .ok (store', result)) : LedgerLinked store' := by
  unfold adjustLockedAsset at hcall
  split at hcall
  · obtain ⟨rfl, _⟩ : store = store' ∧ _ := by simpa using hcall
    exact h
  · obtain ⟨delta, _, hcall⟩ := ApiError.bind_eq_ok.mp hcall
    obtain ⟨_, _, hcall⟩ := ApiError.bind_eq_ok.mp hcall
    obtain ⟨updated, hrecord, hcall⟩ := ApiError.bind_eq_ok.mp hcall
    obtain ⟨rfl, _⟩ : updated = store' ∧ _ := by simpa using hcall
    exact h.record hrecord

theorem not_settlesWithoutPayout_of_find {payload : SettlePayload} {existing : EconomyLedgerEntry}
    (hfind : findSettlement store payload = some existing) :
    ¬(EconomyCall.settle payload).settlesWithoutPayout := by
  rintro ⟨hpayout, _⟩
  simp [findSettlement, hpayout, Decimal.isPositive] at hfind

theorem settleLockedAsset_cases {payload : SettlePayload} {result : AssetMutationResult}
    (hcall : settleLockedAsset store payload = .ok (store', result)) :
    (¬(EconomyCall.settle payload).settlesWithoutPayout ∧
        (store' = store ∨ ∃ update, store.record payload.userId payload.assetCode
          payload.entryType payload.idempotencyKey update = .ok store')) ∨
      ((EconomyCall.settle payload).settlesWithoutPayout ∧ ∃ lockedAmount, 0 < lockedAmount ∧
        lockedAmount ≤ (store.balances payload.userId payload.assetCode).lockedBalance ∧
        store' = store.setBalance payload.userId payload.assetCode
          (settledBalance lockedAmount 0 (store.balances payload.userId payload.assetCode))) := by
  unfold settleLockedAsset at hcall
  split at hcall
  · rename_i hfind
    obtain ⟨rfl, _⟩ : store = store' ∧ _ := by simpa using hcall
    exact .inl ⟨not_settlesWithoutPayout_of_find hfind, .inl rfl⟩
  · obtain ⟨lockedAmount, hlocked, hcall⟩ := ApiError.bind_eq_ok.mp hcall
    obtain ⟨payoutAmount, hpayout, hcall⟩ := ApiError.bind_eq_ok.mp hcall
    obtain ⟨_, hcovered, hcall⟩ := ApiError.bind_eq_ok.mp hcall
    rw [ApiError.throwIf_eq_ok, not_lt] at hcovered
    obtain ⟨hlockedValue, hpos⟩ := normalizePositiveAmount_eq_ok hlocked
    obtain ⟨hpayoutValue, hnonneg⟩ := normalizeNonNegativeAmount_eq_ok hpayout
    split_ifs at hcall with hpays
    · obtain ⟨updated, hrecord, hcall⟩ := ApiError.bind_eq_ok.mp hcall
      obtain ⟨rfl, _⟩ : updated = store' ∧ _ := by simpa using hcall
      refine .inl ⟨?_, .inr ⟨_, hrecord⟩⟩
      rintro ⟨hzero, _⟩
      rw [hpayoutValue, Decimal.finite.injEq] at hzero
      omega
    · obtain rfl : payoutAmount = 0 := by omega
      obtain ⟨updated, hset, hcall⟩ := ApiError.bind_eq_ok.mp hcall
      obtain ⟨rfl, _⟩ : updated = store' ∧ _ := by simpa using hcall
      exact .inr ⟨⟨hpayoutValue, lockedAmount, hlockedValue, hpos⟩, lockedAmount, hpos, hcovered,
        (Except.ok.inj hset).symm⟩

theorem LedgerLinked.settle (h : LedgerLinked store) {payload : SettlePayload} {result : AssetMutationResult}
    (hcall : settleLockedAsset store payload = .ok (store', result))
    (hpays : ¬(EconomyCall.settle payload).settlesWithoutPayout) : LedgerLinked store' := by
  rcases settleLockedAsset_cases hcall with ⟨_, rfl | ⟨update, hrecord⟩⟩ | ⟨hnone, _⟩
  · exact h
  · exact h.record hrecord
  · exact absurd hnone hpays

/-- A settlement without payout breaks the chain of its balance: the locked amount it takes has a
row, and none ends with what it leaves. -/
theorem not_chained_of_noPayout (h : LedgerLinked store) {payload : SettlePayload}
    {result : AssetMutationResult}
    (hcall : settleLockedAsset store payload = .ok (store', result))
    (hnone : (EconomyCall.settle payload).settlesWithoutPayout) : ¬LedgerChained store' := by
  rcases settleLockedAsset_cases hcall with ⟨hpays, _⟩ | ⟨_, lockedAmount, hpos, hcovered, rfl⟩
  · exact absurd hnone hpays
  · intro hchained
    have hrows : chainOf store payload.userId payload.assetCode ≠ [] := by
      intro hempty
      have := h.untouched payload.userId payload.assetCode hempty
      omega
    obtain ⟨row, hlast⟩ := Option.ne_none_iff_exists'.mp
      (mt List.getLast?_eq_none_iff.mp hrows)
    have hold := (h.chained payload.userId payload.assetCode).last row hlast
    have hnew := (hchained payload.userId payload.assetCode).last row hlast
    rw [setBalance_balances, if_pos ⟨rfl, rfl⟩] at hnew
    have hlockedOld := hold.2
    have hlockedNew := hnew.2
    simp only [settledBalance] at hlockedNew
    omega

theorem LedgerLinked.gift (h : LedgerLinked store) {restricted : Nat → Bool} {now : Int}
    {payload : GiftPayload} {result : GiftTransferResult}
    (hcall : transferAssetGift restricted now store payload = .ok (store', result)) :
    LedgerLinked store' := by
  rcases transferAssetGift_cases hcall with rfl | ⟨recorded, sent, _, hbalances, hentries, _, _, _,
    hsent, hreceived⟩
  · exact h
  · exact ((h.congr hbalances hentries).record hsent).record hreceived

theorem giftTotal_gift {restricted : Nat → Bool} {now : Int} {payload : GiftPayload}
    {result : GiftTransferResult}
    (hcall : transferAssetGift restricted now store payload = .ok (store', result)) :
    giftTotal store' payload = giftTotal store payload := by
  rcases transferAssetGift_cases hcall with rfl | ⟨recorded, sent, amount, hbalances, _, _,
    hdistinct, _, hsent, hreceived⟩
  · rfl
  · have hsender : store'.balances payload.senderUserId payload.assetCode =
        (giftSendUpdate amount
          (store.balances payload.senderUserId payload.assetCode)).balance := by
      rw [record_balances hreceived, setBalance_balances,
        if_neg fun hsame => hdistinct hsame.1.symm, record_balances hsent, setBalance_balances,
        if_pos ⟨rfl, rfl⟩]
    have hreceiver : store'.balances payload.receiverUserId payload.assetCode =
        (giftReceiveUpdate amount
          (store.balances payload.receiverUserId payload.assetCode)).balance := by
      rw [record_balances hreceived, setBalance_balances, if_pos ⟨rfl, rfl⟩]
    simp only [giftTotal, hsender, hreceiver, giftSendUpdate, giftReceiveUpdate]
    omega

end Calls

section Runs

variable {store store' : EconomyStore} {call : EconomyCall}
  {events : List (Event EconomyStore EconomyCall)}

theorem LedgerLinked.step (h : LedgerLinked store) (hstep : economyStep store call = .ok store')
    (hpays : ¬call.settlesWithoutPayout) : LedgerLinked store' := by
  cases call with
  | credit payload | debit payload | lock payload | unlock payload =>
      obtain ⟨⟨_, _⟩, hcall, rfl⟩ := ApiError.map_eq_ok.mp hstep
      exact h.mutation hcall
  | settle payload =>
      obtain ⟨⟨_, _⟩, hcall, rfl⟩ := ApiError.map_eq_ok.mp hstep
      exact h.settle hcall hpays
  | adjust payload =>
      obtain ⟨⟨_, _⟩, hcall, rfl⟩ := ApiError.map_eq_ok.mp hstep
      exact h.adjust hcall
  | gift restricted now payload =>
      obtain ⟨⟨_, _⟩, hcall, rfl⟩ := ApiError.map_eq_ok.mp hstep
      exact h.gift hcall

theorem ledgerChained_step_iff (h : LedgerLinked store) (hstep : economyStep store call = .ok store') :
    LedgerChained store' ↔ ¬call.settlesWithoutPayout := by
  constructor
  · intro hchained hnone
    cases call with
    | settle payload =>
        obtain ⟨⟨_, _⟩, hcall, rfl⟩ := ApiError.map_eq_ok.mp hstep
        exact not_chained_of_noPayout h hcall hnone hchained
    | _ => exact hnone.elim
  · exact fun hpays => (h.step hstep hpays).chained

theorem giftConserves_step (hstep : economyStep store call = .ok store') :
    GiftConserves ⟨store, call, store'⟩ := by
  rintro restricted now payload rfl
  obtain ⟨⟨_, _⟩, hcall, rfl⟩ := ApiError.map_eq_ok.mp hstep
  exact giftTotal_gift hcall

theorem ledgerLinked_emptyStore : LedgerLinked emptyStore := by
  constructor
  · intro userId assetCode
    constructor <;> simp [chainOf, emptyStore]
  · intro userId assetCode _
    rfl

/-- **The ledger chain.** From zero balances, the ledger rows of every balance chain up to what is
stored after every call of a run exactly if the run has no settlement without payout; gifts conserve
the total of their users in every run. -/
theorem ledgerKept_iff (hrun : Run (Accepts economyStep) emptyStore events store) :
    LedgerKept events ↔ ∀ e ∈ events, ¬e.label.settlesWithoutPayout := by
  have hchained : (∀ e ∈ events, LedgerChained e.after) ↔
      ∀ e ∈ events, ¬e.label.settlesWithoutPayout :=
    hrun.forall_after_iff_of_guard
      (C := fun e : Event EconomyStore EconomyCall => ¬e.label.settlesWithoutPayout)
      (fun _ _ _ hlinked hstep => ledgerChained_step_iff hlinked hstep)
      (fun _ _ _ hlinked hstep hafter =>
        hlinked.step hstep ((ledgerChained_step_iff hlinked hstep).mp hafter))
      ledgerLinked_emptyStore
  exact ⟨fun h => hchained.mp h.chained, fun h =>
    ⟨hchained.mpr h, fun e he => giftConserves_step (hrun.step_of_mem he)⟩⟩

end Runs

section Example

/-- After a lost position of 10.00 the last row still ends with the 40.00 that were locked. -/
theorem not_ledgerKept_of_lostPosition :
    ¬∀ events store, Run (Accepts economyStep) emptyStore events store → LedgerKept events := by
  intro hclaim
  obtain ⟨events, store, hrun, hbroken⟩ := Run.exists_of_check economyStep emptyStore
    (seated ++ [lostPosition])
    (fun events _ => decide (∃ e ∈ events,
      ¬((chainOf e.after 1 .bLuck).getLast?.all fun row =>
        row.lockedBalanceAfter = (e.after.balances 1 .bLuck).lockedBalance) = true))
    (by decide +kernel)
  obtain ⟨e, he, hrow⟩ := of_decide_eq_true hbroken
  have hlast := (((hclaim events store hrun).chained e he) 1 .bLuck).last
  refine hrow ?_
  cases hrows : (chainOf e.after 1 .bLuck).getLast? with
  | none => rfl
  | some row => exact decide_eq_true (hlast row hrows).2

def paysOut : EconomyCall → Bool
  | .settle payload => toDecimalPlaces payload.payoutAmount ≠ .finite 0
  | _ => true

theorem ledgerKept_settled :
    ∃ events store, Run (Accepts economyStep) emptyStore events store ∧ events.length = 4 ∧
      LedgerKept events := by
  obtain ⟨events, store, hrun, hcheck⟩ := Run.exists_of_check economyStep emptyStore
    (seated ++
      [.settle ⟨1, .bLuck, .finite 40, .finite 55, "prediction_market_payout", none⟩,
        .gift (fun _ => false) 0 ⟨1, 2, .bLuck, .finite 5, 1, "gift"⟩])
    (fun events _ => decide (events.length = 4 ∧ ∀ e ∈ events, paysOut e.label = true))
    (by decide +kernel)
  obtain ⟨hlength, hpays⟩ := of_decide_eq_true hcheck
  refine ⟨events, store, hrun, hlength, (ledgerKept_iff hrun).mpr ?_⟩
  intro e he hnone
  have hcall := hpays e he
  cases hlabel : e.label with
  | settle payload =>
      rw [hlabel] at hnone hcall
      exact (of_decide_eq_true hcall) hnone.1
  | _ =>
      rw [hlabel] at hnone
      exact hnone.elim

end Example

end RewardSystem.Economy
