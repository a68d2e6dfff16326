import RewardSystem.Economy.Service
import RewardSystem.Lib.Runs

/-!
# The counters of an asset balance
-/

namespace RewardSystem.Economy

open Transition

inductive EconomyCall where
  | credit (payload : AssetMutationPayload)
  | debit (payload : AssetMutationPayload)
  | lock (payload : AssetMutationPayload)
  | unlock (payload : AssetMutationPayload)
  | settle (payload : SettlePayload)
  | adjust (payload : AssetMutationPayload)
  | gift (restricted : Nat → Bool) (now : Int) (payload : GiftPayload)

/-- The store after a call; a call that throws is rolled back. -/
def EconomyCall.run (store : EconomyStore) : EconomyCall → Except ApiError EconomyStore
  | credit payload => (creditAsset store payload).map Prod.fst
  | debit payload => (debitAsset store payload).map Prod.fst
  | lock payload => (lockAsset store payload).map Prod.fst
  | unlock payload => (unlockAsset store payload).map Prod.fst
  | settle payload => (settleLockedAsset store payload).map Prod.fst
  | adjust payload => (adjustLockedAsset store payload).map Prod.fst
  | gift restricted now payload => (transferAssetGift restricted now store payload).map Prod.fst

def emptyStore : EconomyStore :=
  { balances := fun _ _ => ⟨0, 0, 0, 0⟩
    entries := []
    giftTransfers := []
    giftEnergy := fun _ => none }

structure AssetBalance.NonNegative (balance : AssetBalance) : Prop where
  available : 0 ≤ balance.availableBalance
  locked : 0 ≤ balance.lockedBalance

/-- What is there beyond what was earned and not spent. -/
def AssetBalance.drift (balance : AssetBalance) : Int :=
  balance.availableBalance + balance.lockedBalance -
    (balance.lifetimeEarned - balance.lifetimeSpent)

structure AssetBalance.Agrees (balance : AssetBalance) : Prop where
  nonNegative : balance.NonNegative
  counters : balance.availableBalance + balance.lockedBalance =
    balance.lifetimeEarned - balance.lifetimeSpent

def AllNonNegative (store : EconomyStore) : Prop :=
  ∀ userId assetCode, (store.balances userId assetCode).NonNegative

def CountersAgree (store : EconomyStore) : Prop :=
  ∀ userId assetCode, (store.balances userId assetCode).Agrees

/-- The amount an accepted call adjusts a locked balance by, outside the lifetime counters. -/
def EconomyCall.adjustment (store : EconomyStore) (userId : Nat) (assetCode : AssetCode) :
    EconomyCall → Int
  | adjust payload =>
      if payload.userId = userId ∧ payload.assetCode = assetCode then
        match store.findIdempotentLedgerEntry userId assetCode payload.idempotencyKey,
            toDecimalPlaces payload.amount with
        | none, .finite delta => delta
        | _, _ => 0
      else 0
  | _ => 0

section Amounts

variable {value : Decimal ℚ} {amount : Int}

theorem normalizePositiveAmount_eq_ok (h : normalizePositiveAmount value = .ok amount) :
    toDecimalPlaces value = .finite amount ∧ 0 < amount := by
  unfold normalizePositiveAmount at h
  cases hvalue : toDecimalPlaces value with
  | finite cents =>
      simp only [hvalue] at h
      by_cases hcents : cents ≤ 0
      · simp [hcents] at h
      · obtain rfl : cents = amount := by simpa [hcents] using h
        exact ⟨rfl, by omega⟩
  | infinity => simp [hvalue] at h
  | negInfinity => simp [hvalue] at h
  | nan => simp [hvalue] at h

theorem normalizeNonZeroAmount_eq_ok (h : normalizeNonZeroAmount value = .ok amount) :
    toDecimalPlaces value = .finite amount ∧ amount ≠ 0 := by
  unfold normalizeNonZeroAmount at h
  cases hvalue : toDecimalPlaces value with
  | finite cents =>
      simp only [hvalue] at h
      by_cases hcents : cents = 0
      · simp [hcents] at h
      · obtain rfl : cents = amount := by simpa [hcents] using h
        exact ⟨rfl, hcents⟩
  | infinity => simp [hvalue] at h
  | negInfinity => simp [hvalue] at h
  | nan => simp [hvalue] at h

theorem normalizeNonNegativeAmount_eq_ok (h : normalizeNonNegativeAmount value = .ok amount) :
    toDecimalPlaces value = .finite amount ∧ 0 ≤ amount := by
  unfold normalizeNonNegativeAmount at h
  cases hvalue : toDecimalPlaces value with
  | finite cents =>
      simp only [hvalue] at h
      by_cases hcents : cents < 0
      · simp [hcents] at h
      · obtain rfl : cents = amount := by simpa [hcents] using h
        exact ⟨rfl, by omega⟩
  | infinity => simp [hvalue] at h
  | negInfinity => simp [hvalue] at h
  | nan => simp [hvalue] at h

end Amounts

section Updates

variable {amount : Int} {before : AssetBalance} {update : BalanceUpdate}

/-- A change that keeps the balance nonnegative and moves its drift by `delta`. -/
structure Drifts (before after : AssetBalance) (delta : Int) : Prop where
  nonNegative : before.NonNegative → after.NonNegative
  drift : after.drift = before.drift + delta

theorem Drifts.refl (balance : AssetBalance) : Drifts balance balance 0 :=
  ⟨id, by omega⟩

theorem creditUpdate_drifts (hamount : 0 < amount) (h : creditUpdate amount before = .ok update) :
    Drifts before update.balance 0 := by
  obtain rfl := Except.ok.inj h
  constructor
  · rintro ⟨havailable, hlocked⟩
    constructor <;> simp only <;> omega
  · simp only [AssetBalance.drift]
    omega

theorem debitUpdate_drifts (h : debitUpdate amount before = .ok update) :
    Drifts before update.balance 0 := by
  obtain ⟨_, hcovered, h⟩ := ApiError.bind_eq_ok.mp h
  have hcovered : amount ≤ before.availableBalance := by simpa using hcovered
  obtain rfl := Except.ok.inj h
  constructor
  · rintro ⟨havailable, hlocked⟩
    constructor <;> simp only <;> omega
  · simp only [AssetBalance.drift]
    omega

theorem lockUpdate_drifts (hamount : 0 < amount) (h : lockUpdate amount before = .ok update) :
    Drifts before update.balance 0 := by
  obtain ⟨_, hcovered, h⟩ := ApiError.bind_eq_ok.mp h
  have hcovered : amount ≤ before.availableBalance := by simpa using hcovered
  obtain rfl := Except.ok.inj h
  constructor
  · rintro ⟨havailable, hlocked⟩
    constructor <;> simp only <;> omega
  · simp only [AssetBalance.drift]
    omega

theorem unlockUpdate_drifts (hamount : 0 < amount) (h : unlockUpdate amount before = .ok update) :
    Drifts before update.balance 0 := by
  obtain ⟨_, hcovered, h⟩ := ApiError.bind_eq_ok.mp h
  have hcovered : amount ≤ before.lockedBalance := by simpa using hcovered
  obtain rfl := Except.ok.inj h
  constructor
  · rintro ⟨havailable, hlocked⟩
    constructor <;> simp only <;> omega
  · simp only [AssetBalance.drift]
    omega

theorem settledBalance_drifts {lockedAmount payoutAmount : Int} (hpayout : 0 ≤ payoutAmount)
    (hcovered : lockedAmount ≤ before.lockedBalance) :
    Drifts before (settledBalance lockedAmount payoutAmount before) 0 := by
  constructor
  · rintro ⟨havailable, hlocked⟩
    constructor <;> simp only [settledBalance] <;> omega
  · simp only [AssetBalance.drift, settledBalance]
    split_ifs <;> omega

end Updates

section Stores

variable {store store' : EconomyStore} {userId : Nat} {assetCode : AssetCode}

theorem setBalance_balances (balance : AssetBalance) (otherId : Nat) (otherCode : AssetCode) :
    (store.setBalance userId assetCode balance).balances otherId otherCode =
      if userId = otherId ∧ assetCode = otherCode then balance
      else store.balances otherId otherCode := by
  by_cases huser : otherId = userId
  · subst huser
    by_cases hasset : otherCode = assetCode
    · subst hasset
      simp [EconomyStore.setBalance]
    · simp [EconomyStore.setBalance, hasset, Ne.symm hasset]
  · simp [EconomyStore.setBalance, huser, Ne.symm huser]

/-- A call that moves the drift of every balance by what it adjusts. -/
def StoreDrifts (store store' : EconomyStore) (delta : Nat → AssetCode → Int) : Prop :=
  ∀ userId assetCode,
    Drifts (store.balances userId assetCode) (store'.balances userId assetCode)
      (delta userId assetCode)

theorem storeDrifts_refl (store : EconomyStore) : StoreDrifts store store fun _ _ => 0 := by
  intro userId assetCode
  exact Drifts.refl _

theorem storeDrifts_setBalance {balance : AssetBalance} {delta : Int}
    (hbalances : store'.balances = (store.setBalance userId assetCode balance).balances)
    (hdrifts : Drifts (store.balances userId assetCode) balance delta) :
    StoreDrifts store store' fun otherId otherCode =>
      if userId = otherId ∧ assetCode = otherCode then delta else 0 := by
  intro otherId otherCode
  rw [hbalances, setBalance_balances]
  by_cases hsame : userId = otherId ∧ assetCode = otherCode
  · obtain ⟨rfl, rfl⟩ := hsame
    simpa using hdrifts
  · simpa only [if_neg hsame] using Drifts.refl _

theorem storeDrifts_setBalance_zero {balance : AssetBalance}
    (hbalances : store'.balances = (store.setBalance userId assetCode balance).balances)
    (hdrifts : Drifts (store.balances userId assetCode) balance 0) :
    StoreDrifts store store' fun _ _ => 0 := by
  have h := storeDrifts_setBalance hbalances hdrifts
  simpa only [ite_self] using h

theorem record_balances {entryType : String} {idempotencyKey : Option String}
    {update : BalanceUpdate}
    (h : store.record userId assetCode entryType idempotencyKey update = .ok store') :
    store'.balances = (store.setBalance userId assetCode update.balance).balances := by
  rw [(EconomyStore.record_eq_ok h).2]

end Stores

section Calls

variable {store store' : EconomyStore} {payload : AssetMutationPayload}

theorem applyLedgerMutation_drifts {compute : Int → AssetBalance → Except ApiError BalanceUpdate}
    {result : AssetMutationResult}
    (hcompute : ∀ amount before update, 0 < amount → compute amount before = .ok update →
      Drifts before update.balance 0)
    (h : applyLedgerMutation store payload compute = .ok (store', result)) :
    StoreDrifts store store' fun _ _ => 0 := by
  unfold applyLedgerMutation at h
  split at h
  · obtain ⟨rfl, _⟩ : store = store' ∧ _ := by simpa using h
    exact storeDrifts_refl store
  · obtain ⟨amount, hamount, h⟩ := ApiError.bind_eq_ok.mp h
    obtain ⟨update, hupdate, h⟩ := ApiError.bind_eq_ok.mp h
    obtain ⟨updated, hrecord, h⟩ := ApiError.bind_eq_ok.mp h
    obtain ⟨rfl, _⟩ : updated = store' ∧ _ := by simpa using h
    have hpos := (normalizePositiveAmount_eq_ok hamount).2
    exact storeDrifts_setBalance_zero (record_balances hrecord) (hcompute _ _ _ hpos hupdate)

theorem settleLockedAsset_drifts {payload : SettlePayload} {result : AssetMutationResult}
    (h : settleLockedAsset store payload = .ok (store', result)) :
    StoreDrifts store store' fun _ _ => 0 := by
  unfold settleLockedAsset at h
  split at h
  · obtain ⟨rfl, _⟩ : store = store' ∧ _ := by simpa using h
    exact storeDrifts_refl store
  · obtain ⟨lockedAmount, _, h⟩ := ApiError.bind_eq_ok.mp h
    obtain ⟨payoutAmount, hpayout, h⟩ := ApiError.bind_eq_ok.mp h
    obtain ⟨_, hcovered, h⟩ := ApiError.bind_eq_ok.mp h
    have hdrifts := settledBalance_drifts (normalizeNonNegativeAmount_eq_ok hpayout).2
      (by simpa using hcovered)
    refine storeDrifts_setBalance_zero ?_ hdrifts
    dsimp only at h
    split_ifs at h
    · obtain ⟨updated, hrecord, h⟩ := ApiError.bind_eq_ok.mp h
      obtain ⟨rfl, _⟩ : updated = store' ∧ _ := by simpa using h
      exact record_balances hrecord
    · obtain ⟨updated, hset, h⟩ := ApiError.bind_eq_ok.mp h
      obtain ⟨rfl, _⟩ : updated = store' ∧ _ := by simpa using h
      rw [← Except.ok.inj hset]

theorem adjustLockedAsset_drifts {result : AssetMutationResult}
    (h : adjustLockedAsset store payload = .ok (store', result)) :
    StoreDrifts store store' fun userId assetCode =>
      (EconomyCall.adjust payload).adjustment store userId assetCode := by
  unfold adjustLockedAsset at h
  split at h
  · rename_i existing hfind
    obtain ⟨rfl, _⟩ : store = store' ∧ _ := by simpa using h
    intro userId assetCode
    have hzero : (EconomyCall.adjust payload).adjustment store userId assetCode = 0 := by
      simp only [EconomyCall.adjustment]
      split_ifs with hsame
      · obtain ⟨rfl, rfl⟩ := hsame
        rw [hfind]
      · rfl
    simpa only [hzero] using Drifts.refl _
  · rename_i hfind
    obtain ⟨delta, hdelta, h⟩ := ApiError.bind_eq_ok.mp h
    obtain ⟨_, hcovered, h⟩ := ApiError.bind_eq_ok.mp h
    obtain ⟨updated, hrecord, h⟩ := ApiError.bind_eq_ok.mp h
    obtain ⟨rfl, _⟩ : updated = store' ∧ _ := by simpa using h
    have hadjust : (fun userId assetCode =>
        (EconomyCall.adjust payload).adjustment store userId assetCode) =
        fun userId assetCode =>
          if payload.userId = userId ∧ payload.assetCode = assetCode then delta else 0 := by
      funext userId assetCode
      simp only [EconomyCall.adjustment]
      refine if_ctx_congr Iff.rfl ?_ fun _ => rfl
      rintro ⟨rfl, rfl⟩
      rw [hfind, (normalizeNonZeroAmount_eq_ok hdelta).1]
    rw [hadjust]
    refine storeDrifts_setBalance (record_balances hrecord) ?_
    have hnonneg : 0 ≤ (store.balances payload.userId payload.assetCode).lockedBalance + delta := by
      simpa using hcovered
    constructor
    · rintro ⟨havailable, hlocked⟩
      exact ⟨havailable, hnonneg⟩
    · simp only [AssetBalance.drift]
      omega

theorem spendGiftEnergy_balances {userId : Nat} {energyCost now : Int}
    (h : spendGiftEnergy store userId energyCost now = .ok store') :
    store'.balances = store.balances ∧ store'.entries = store.entries := by
  unfold spendGiftEnergy at h
  split_ifs at h
  · rw [← Except.ok.inj h]
    exact ⟨rfl, rfl⟩
  · obtain ⟨_, _, h⟩ := ApiError.bind_eq_ok.mp h
    rw [← Except.ok.inj h]
    exact ⟨rfl, rfl⟩

theorem StoreDrifts.trans {middle : EconomyStore}
    (hfirst : StoreDrifts store middle fun _ _ => 0)
    (hsecond : StoreDrifts middle store' fun _ _ => 0) :
    StoreDrifts store store' fun _ _ => 0 := by
  intro userId assetCode
  obtain ⟨hnonneg, hdrift⟩ := hfirst userId assetCode
  obtain ⟨hnonneg', hdrift'⟩ := hsecond userId assetCode
  refine ⟨fun hbefore => hnonneg' (hnonneg hbefore), ?_⟩
  exact hdrift'.trans (by rw [hdrift, add_zero])

/-- What an accepted gift does: unless it is a repeat, it takes the amount from one row and adds it
to the other. -/
theorem transferAssetGift_cases {restricted : Nat → Bool} {now : Int} {payload : GiftPayload}
    {result : GiftTransferResult}
    (h : transferAssetGift restricted now store payload = .ok (store', result)) :
    store' = store ∨ ∃ (recorded sent : EconomyStore) (amount : Int),
      recorded.balances = store.balances ∧ recorded.entries = store.entries ∧
      0 < amount ∧ payload.senderUserId ≠ payload.receiverUserId ∧
      amount ≤ (store.balances payload.senderUserId payload.assetCode).availableBalance ∧
      recorded.record payload.senderUserId payload.assetCode "gift_send"
        (some (trim payload.idempotencyKey))
        (giftSendUpdate amount (store.balances payload.senderUserId payload.assetCode)) =
          .ok sent ∧
      sent.record payload.receiverUserId payload.assetCode "gift_receive"
        (some (trim payload.idempotencyKey))
        (giftReceiveUpdate amount (store.balances payload.receiverUserId payload.assetCode)) =
          .ok store' := by
  obtain ⟨_, _, h⟩ := ApiError.bind_eq_ok.mp h
  obtain ⟨_, hdistinct, h⟩ := ApiError.bind_eq_ok.mp h
  obtain ⟨_, _, h⟩ := ApiError.bind_eq_ok.mp h
  split at h
  · obtain ⟨rfl, _⟩ : store = store' ∧ _ := by simpa using h
    exact .inl rfl
  · obtain ⟨amount, hamount, h⟩ := ApiError.bind_eq_ok.mp h
    obtain ⟨_, _, h⟩ := ApiError.bind_eq_ok.mp h
    obtain ⟨_, _, h⟩ := ApiError.bind_eq_ok.mp h
    obtain ⟨_, hcovered, h⟩ := ApiError.bind_eq_ok.mp h
    obtain ⟨charged, hcharged, h⟩ := ApiError.bind_eq_ok.mp h
    obtain ⟨sent, hsent, h⟩ := ApiError.bind_eq_ok.mp h
    obtain ⟨received, hreceived, h⟩ := ApiError.bind_eq_ok.mp h
    obtain ⟨rfl, _⟩ : received = store' ∧ _ := by simpa using h
    obtain ⟨hbalances, hentries⟩ := spendGiftEnergy_balances hcharged
    refine .inr ⟨_, sent, amount, ?_, ?_, (normalizePositiveAmount_eq_ok hamount).2,
      by simpa using hdistinct, by simpa using hcovered, hsent, hreceived⟩
    · exact hbalances
    · exact hentries

theorem giftSendUpdate_drifts {amount : Int} {sender : AssetBalance}
    (hcovered : amount ≤ sender.availableBalance) :
    Drifts sender (giftSendUpdate amount sender).balance 0 := by
  constructor
  · rintro ⟨havailable, hlocked⟩
    constructor <;> simp only [giftSendUpdate] <;> omega
  · simp only [AssetBalance.drift, giftSendUpdate]
    omega

theorem giftReceiveUpdate_drifts {amount : Int} {receiver : AssetBalance} (hamount : 0 < amount) :
    Drifts receiver (giftReceiveUpdate amount receiver).balance 0 := by
  constructor
  · rintro ⟨havailable, hlocked⟩
    constructor <;> simp only [giftReceiveUpdate] <;> omega
  · simp only [AssetBalance.drift, giftReceiveUpdate]
    omega

theorem transferAssetGift_drifts {restricted : Nat → Bool} {now : Int} {payload : GiftPayload}
    {result : GiftTransferResult}
    (h : transferAssetGift restricted now store payload = .ok (store', result)) :
    StoreDrifts store store' fun _ _ => 0 := by
  rcases transferAssetGift_cases h with rfl | ⟨recorded, sent, amount, hbalances, _, hpos,
    hdistinct, hcovered, hsent, hreceived⟩
  · exact storeDrifts_refl store'
  · have hsender : StoreDrifts store sent fun _ _ => 0 := by
      refine storeDrifts_setBalance_zero ?_ (giftSendUpdate_drifts hcovered)
      rw [record_balances hsent]
      simp only [EconomyStore.setBalance, hbalances]
    -- the receiver's row was read before the sender's was written
    have hunchanged : sent.balances payload.receiverUserId payload.assetCode =
        store.balances payload.receiverUserId payload.assetCode := by
      rw [record_balances hsent, setBalance_balances, if_neg (fun hsame => hdistinct hsame.1),
        hbalances]
    refine hsender.trans (storeDrifts_setBalance_zero (record_balances hreceived) ?_)
    rw [hunchanged]
    exact giftReceiveUpdate_drifts hpos

theorem EconomyCall.run_drifts {call : EconomyCall} (hrun : call.run store = .ok store') :
    StoreDrifts store store' fun userId assetCode => call.adjustment store userId assetCode := by
  cases call with
  | credit payload =>
      obtain ⟨⟨_, _⟩, h, rfl⟩ := ApiError.map_eq_ok.mp hrun
      exact applyLedgerMutation_drifts (fun _ _ _ => creditUpdate_drifts) h
  | debit payload =>
      obtain ⟨⟨_, _⟩, h, rfl⟩ := ApiError.map_eq_ok.mp hrun
      exact applyLedgerMutation_drifts (fun _ _ _ _ => debitUpdate_drifts) h
  | lock payload =>
      obtain ⟨⟨_, _⟩, h, rfl⟩ := ApiError.map_eq_ok.mp hrun
      exact applyLedgerMutation_drifts (fun _ _ _ => lockUpdate_drifts) h
  | unlock payload =>
      obtain ⟨⟨_, _⟩, h, rfl⟩ := ApiError.map_eq_ok.mp hrun
      exact applyLedgerMutation_drifts (fun _ _ _ => unlockUpdate_drifts) h
  | settle payload =>
      obtain ⟨⟨_, _⟩, h, rfl⟩ := ApiError.map_eq_ok.mp hrun
      exact settleLockedAsset_drifts h
  | adjust payload =>
      obtain ⟨⟨_, _⟩, h, rfl⟩ := ApiError.map_eq_ok.mp hrun
      exact adjustLockedAsset_drifts h
  | gift restricted now payload =>
      obtain ⟨⟨_, _⟩, h, rfl⟩ := ApiError.map_eq_ok.mp hrun
      exact transferAssetGift_drifts h

theorem EconomyCall.drift_run {call : EconomyCall} (hrun : call.run store = .ok store')
    (userId : Nat) (assetCode : AssetCode) :
    (store'.balances userId assetCode).drift =
      (store.balances userId assetCode).drift + call.adjustment store userId assetCode :=
  (EconomyCall.run_drifts hrun userId assetCode).drift

end Calls

/-- The call adjusts a locked balance; a repeat that is answered from the ledger does not. -/
def AppliesAdjustment (e : Event EconomyStore EconomyCall) : Prop :=
  ∃ payload, e.label = .adjust payload ∧
    e.before.findIdempotentLedgerEntry payload.userId payload.assetCode payload.idempotencyKey =
      none

section Runs

variable {store store' : EconomyStore} {call : EconomyCall}
  {events : List (Event EconomyStore EconomyCall)}

def economyStep (store : EconomyStore) (call : EconomyCall) : Except ApiError EconomyStore :=
  call.run store

theorem agrees_iff (balance : AssetBalance) :
    balance.Agrees ↔ balance.NonNegative ∧ balance.drift = 0 := by
  constructor
  · rintro ⟨hnonneg, hcounters⟩
    refine ⟨hnonneg, ?_⟩
    simp only [AssetBalance.drift]
    omega
  · rintro ⟨hnonneg, hdrift⟩
    refine ⟨hnonneg, ?_⟩
    simp only [AssetBalance.drift] at hdrift
    omega

theorem adjustment_ne_zero {payload : AssetMutationPayload}
    (h : (EconomyCall.adjust payload).run store = .ok store')
    (hfind : store.findIdempotentLedgerEntry payload.userId payload.assetCode
      payload.idempotencyKey = none) :
    (EconomyCall.adjust payload).adjustment store payload.userId payload.assetCode ≠ 0 := by
  obtain ⟨⟨_, _⟩, h, _⟩ := ApiError.map_eq_ok.mp h
  unfold adjustLockedAsset at h
  simp only [hfind] at h
  obtain ⟨delta, hdelta, _⟩ := ApiError.bind_eq_ok.mp h
  obtain ⟨hvalue, hne⟩ := normalizeNonZeroAmount_eq_ok hdelta
  simpa [EconomyCall.adjustment, hfind, hvalue] using hne

theorem countersAgree_step_iff (hagree : CountersAgree store)
    (h : economyStep store call = .ok store') :
    CountersAgree store' ↔ ¬AppliesAdjustment ⟨store, call, store'⟩ := by
  constructor
  · rintro hafter ⟨payload, rfl, hfind⟩
    refine adjustment_ne_zero h hfind ?_
    obtain ⟨_, hbefore⟩ := (agrees_iff _).mp (hagree payload.userId payload.assetCode)
    obtain ⟨_, hzero⟩ := (agrees_iff _).mp (hafter payload.userId payload.assetCode)
    have hdrift := EconomyCall.drift_run h payload.userId payload.assetCode
    omega
  · intro hnone userId assetCode
    obtain ⟨hnonneg, hbefore⟩ := (agrees_iff _).mp (hagree userId assetCode)
    have hzero : call.adjustment store userId assetCode = 0 := by
      cases call with
      | adjust payload =>
          simp only [EconomyCall.adjustment]
          split_ifs with hsame
          · obtain ⟨rfl, rfl⟩ := hsame
            cases hfind : store.findIdempotentLedgerEntry payload.userId payload.assetCode
              payload.idempotencyKey with
            | none => exact absurd ⟨payload, rfl, hfind⟩ hnone
            | some existing => rfl
          · rfl
      | _ => rfl
    have hdrift := EconomyCall.drift_run h userId assetCode
    have hnonneg' := (EconomyCall.run_drifts h userId assetCode).nonNegative hnonneg
    exact (agrees_iff _).mpr ⟨hnonneg', by omega⟩

theorem countersAgree_emptyStore : CountersAgree emptyStore := by
  intro userId assetCode
  constructor
  · constructor <;> simp [emptyStore]
  · simp [emptyStore]

theorem allNonNegative_of_run (hrun : Run (Accepts economyStep) emptyStore events store) :
    AllNonNegative store := by
  refine hrun.invariant (I := AllNonNegative) ?_ fun userId assetCode =>
    (countersAgree_emptyStore userId assetCode).nonNegative
  intro u call v hnonneg hstep userId assetCode
  exact (EconomyCall.run_drifts hstep userId assetCode).nonNegative (hnonneg userId assetCode)

theorem drift_of_run (hrun : Run (Accepts economyStep) store events store') (userId : Nat)
    (assetCode : AssetCode) :
    (store'.balances userId assetCode).drift = (store.balances userId assetCode).drift +
      (events.map fun e => e.label.adjustment e.before userId assetCode).sum := by
  induction hrun with
  | nil => simp
  | cons hstep _ ih =>
      have hdrift := EconomyCall.drift_run hstep userId assetCode
      simp only [List.map_cons, List.sum_cons]
      omega

/-- **The lifetime counters.** From zero balances, a run keeps what is available and locked equal
to what was earned and not spent exactly if it applies no adjustment of a locked balance. -/
theorem countersAgree_iff (hrun : Run (Accepts economyStep) emptyStore events store) :
    (∀ e ∈ events, CountersAgree e.after) ↔ ∀ e ∈ events, ¬AppliesAdjustment e :=
  hrun.forall_after_iff (fun _ _ _ hagree hstep => countersAgree_step_iff hagree hstep)
    countersAgree_emptyStore

end Runs

section Example

def luckPayload (amount : ℚ) (entryType : String) : AssetMutationPayload :=
  { userId := 1
    assetCode := .bLuck
    amount := .finite amount
    entryType := entryType
    idempotencyKey := none }

/-- 100.00 come in and 40.00 of them are locked at a table. -/
def seated : List EconomyCall :=
  [.credit (luckPayload 100 "deposit_credit"), .lock (luckPayload 40 "holdem_buy_in")]

/-- Winning 10.00 at the table moves the locked balance alone. -/
theorem not_countersAgree_of_adjust :
    ¬∀ events store, Run (Accepts economyStep) emptyStore events store → CountersAgree store := by
  intro hclaim
  obtain ⟨events, store, hrun, hbroken⟩ := Run.exists_of_check economyStep emptyStore
    (seated ++ [.adjust (luckPayload 10 "holdem_hand_result")])
    (fun _ store => decide ((store.balances 1 .bLuck).drift = 1000)) (by decide +kernel)
  obtain ⟨_, hdrift⟩ := (agrees_iff _).mp (hclaim events store hrun 1 .bLuck)
  have hdrift' := of_decide_eq_true hbroken
  omega

theorem countersAgree_settled :
    ∃ events store, Run (Accepts economyStep) emptyStore events store ∧ events.length = 4 ∧
      ∀ e ∈ events, CountersAgree e.after := by
  obtain ⟨events, store, hrun, hcheck⟩ := Run.exists_of_check economyStep emptyStore
    (seated ++
      [.settle ⟨1, .bLuck, .finite 40, .finite 55, "holdem_cash_out", some "cash-out"⟩,
        .gift (fun _ => false) 0 ⟨1, 2, .bLuck, .finite 5, 1, "gift"⟩])
    (fun events _ => decide (events.length = 4 ∧ ∀ e ∈ events, (match e.label with
      | .adjust _ => false
      | _ => true) = true)) (by decide +kernel)
  obtain ⟨hlength, hnone⟩ := of_decide_eq_true hcheck
  refine ⟨events, store, hrun, hlength, (countersAgree_iff hrun).mpr ?_⟩
  rintro e he ⟨payload, hlabel, _⟩
  have hcall := hnone e he
  simp [hlabel] at hcall

theorem drift_sample : ∃ events store, Run (Accepts economyStep) emptyStore events store ∧
    (store.balances 1 .bLuck).drift = (emptyStore.balances 1 .bLuck).drift +
      (events.map fun e => e.label.adjustment e.before 1 .bLuck).sum := by
  obtain ⟨events, store, hrun, -⟩ := Run.exists_of_check economyStep emptyStore
    (seated ++ [.adjust (luckPayload 10 "holdem_hand_result")]) (fun _ _ => true) (by decide +kernel)
  exact ⟨events, store, hrun, drift_of_run hrun 1 .bLuck⟩

end Example

end RewardSystem.Economy
