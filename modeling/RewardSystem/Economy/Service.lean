import Mathlib.Logic.Function.Basic
import RewardSystem.Shared.Money
import RewardSystem.Shared.Text

/-!
# The economy store

Asset balances, their ledger and gift transfers. Each mutation runs in one transaction that locks
the balance rows it works on.
-/

namespace RewardSystem.Economy

inductive AssetCode where
  | bLuck
  | iapVoucher
  deriving DecidableEq, Repr

/-- A row of `user_asset_balances`. -/
structure AssetBalance where
  availableBalance : Int
  lockedBalance : Int
  lifetimeEarned : Int
  lifetimeSpent : Int
  deriving DecidableEq, Repr

/-- A row of `economy_ledger_entries`; the locked balances are in its metadata. -/
structure EconomyLedgerEntry where
  userId : Nat
  assetCode : AssetCode
  entryType : String
  amount : Int
  balanceBefore : Int
  balanceAfter : Int
  lockedBalanceBefore : Int
  lockedBalanceAfter : Int
  idempotencyKey : Option String
  deriving DecidableEq, Repr

/-- A row of `gift_transfers`. -/
structure GiftTransfer where
  senderUserId : Nat
  receiverUserId : Nat
  assetCode : AssetCode
  amount : Int
  energyCost : Int
  idempotencyKey : String
  deriving DecidableEq, Repr

/-- A row of `gift_energy_accounts`; times are in milliseconds. -/
structure GiftEnergyAccount where
  currentEnergy : Int
  maxEnergy : Int
  intervalHours : Int
  lastRefillAt : Int
  deriving DecidableEq, Repr

/-- A balance row that does not exist yet is created with zeros when it is first locked. -/
structure EconomyStore where
  balances : Nat → AssetCode → AssetBalance
  entries : List EconomyLedgerEntry
  giftTransfers : List GiftTransfer
  giftEnergy : Nat → Option GiftEnergyAccount

structure AssetMutationPayload where
  userId : Nat
  assetCode : AssetCode
  amount : Decimal ℚ
  entryType : String
  idempotencyKey : Option String

structure AssetMutationResult where
  amount : Decimal Int
  availableBefore : Int
  availableAfter : Int
  lockedBefore : Int
  lockedAfter : Int
  replayed : Bool
  deriving DecidableEq, Repr

def normalizePositiveAmount (value : Decimal ℚ) : Except ApiError Int :=
  match toDecimalPlaces value with
  | .finite amount =>
      if amount ≤ 0 then .error (.unprocessableEntity "Amount must be greater than 0.")
      else .ok amount
  | _ => .error (.unprocessableEntity "Amount must be greater than 0.")

def normalizeNonZeroAmount (value : Decimal ℚ) : Except ApiError Int :=
  match toDecimalPlaces value with
  | .finite amount =>
      if amount = 0 then .error (.unprocessableEntity "Amount must not be 0.") else .ok amount
  | _ => .error (.unprocessableEntity "Amount must not be 0.")

def normalizeNonNegativeAmount (value : Decimal ℚ) : Except ApiError Int :=
  match toDecimalPlaces value with
  | .finite amount =>
      if amount < 0 then .error (.unprocessableEntity "Amount must be 0 or greater.")
      else .ok amount
  | _ => .error (.unprocessableEntity "Amount must be 0 or greater.")

namespace EconomyStore

def setBalance (store : EconomyStore) (userId : Nat) (assetCode : AssetCode)
    (balance : AssetBalance) : EconomyStore :=
  { store with
    balances := Function.update store.balances userId
      (Function.update (store.balances userId) assetCode balance) }

def HasKey (store : EconomyStore) (userId : Nat) (assetCode : AssetCode) (key : String) : Prop :=
  ∃ entry ∈ store.entries,
    entry.userId = userId ∧ entry.assetCode = assetCode ∧ entry.idempotencyKey = some key

instance (store : EconomyStore) (userId : Nat) (assetCode : AssetCode) (key : String) :
    Decidable (store.HasKey userId assetCode key) :=
  inferInstanceAs (Decidable (∃ entry ∈ store.entries, _))

/-- A missing key and an empty one find nothing. -/
def findIdempotentLedgerEntry (store : EconomyStore) (userId : Nat) (assetCode : AssetCode)
    (idempotencyKey : Option String) : Option EconomyLedgerEntry :=
  match idempotencyKey with
  | none => none
  | some key =>
      if key = "" then none
      else store.entries.find? fun entry =>
        entry.userId = userId ∧ entry.assetCode = assetCode ∧ entry.idempotencyKey = some key

/-- The unique index on user, asset and key refuses a second row under a key; rows without a key
are not compared. -/
def insertEconomyLedgerEntry (store : EconomyStore) (entry : EconomyLedgerEntry) :
    Except ApiError EconomyStore :=
  match entry.idempotencyKey with
  | none => .ok { store with entries := store.entries ++ [entry] }
  | some key =>
      if store.HasKey entry.userId entry.assetCode key then
        .error (.persistence "duplicate key value violates unique constraint")
      else .ok { store with entries := store.entries ++ [entry] }

end EconomyStore

section Record

variable {store store' : EconomyStore}

namespace EconomyStore

theorem insertEconomyLedgerEntry_eq_ok {entry : EconomyLedgerEntry}
    (h : store.insertEconomyLedgerEntry entry = .ok store') :
    (∀ key, entry.idempotencyKey = some key →
        ¬store.HasKey entry.userId entry.assetCode key) ∧
      store' = { store with entries := store.entries ++ [entry] } := by
  unfold insertEconomyLedgerEntry at h
  cases hkey : entry.idempotencyKey with
  | none => simp_all
  | some key =>
      simp only [hkey] at h
      by_cases hhas : store.HasKey entry.userId entry.assetCode key
      · simp [hhas] at h
      · simp only [hhas, if_false, Except.ok.injEq] at h
        refine ⟨?_, h.symm⟩
        rintro _ ⟨rfl⟩
        exact hhas

theorem findIdempotentLedgerEntry_eq_none {userId : Nat} {assetCode : AssetCode} {key : String}
    (hkey : key ≠ "") :
    store.findIdempotentLedgerEntry userId assetCode (some key) = none ↔
      ¬store.HasKey userId assetCode key := by
  simp [findIdempotentLedgerEntry, HasKey, hkey]

end EconomyStore

end Record

structure BalanceUpdate where
  ledgerAmount : Int
  balance : AssetBalance

def replayResult (amount : Decimal Int) (existing : EconomyLedgerEntry) : AssetMutationResult :=
  { amount := amount
    availableBefore := existing.balanceBefore
    availableAfter := existing.balanceAfter
    lockedBefore := existing.lockedBalanceBefore
    lockedAfter := existing.lockedBalanceAfter
    replayed := true }

def appliedResult (amount : Int) (before after : AssetBalance) : AssetMutationResult :=
  { amount := .finite amount
    availableBefore := before.availableBalance
    availableAfter := after.availableBalance
    lockedBefore := before.lockedBalance
    lockedAfter := after.lockedBalance
    replayed := false }

/-- The ledger row of a change. -/
def EconomyStore.recordedEntry (store : EconomyStore) (userId : Nat) (assetCode : AssetCode)
    (entryType : String) (idempotencyKey : Option String) (update : BalanceUpdate) :
    EconomyLedgerEntry :=
  { userId := userId
    assetCode := assetCode
    entryType := entryType
    amount := update.ledgerAmount
    balanceBefore := (store.balances userId assetCode).availableBalance
    balanceAfter := update.balance.availableBalance
    lockedBalanceBefore := (store.balances userId assetCode).lockedBalance
    lockedBalanceAfter := update.balance.lockedBalance
    idempotencyKey := idempotencyKey }

/-- Store the new balance and write the ledger row of the change. -/
def EconomyStore.record (store : EconomyStore) (userId : Nat) (assetCode : AssetCode)
    (entryType : String) (idempotencyKey : Option String) (update : BalanceUpdate) :
    Except ApiError EconomyStore :=
  (store.setBalance userId assetCode update.balance).insertEconomyLedgerEntry
    (store.recordedEntry userId assetCode entryType idempotencyKey update)

theorem EconomyStore.record_eq_ok {store store' : EconomyStore} {userId : Nat}
    {assetCode : AssetCode} {entryType : String} {idempotencyKey : Option String}
    {update : BalanceUpdate}
    (h : store.record userId assetCode entryType idempotencyKey update = .ok store') :
    (∀ key, idempotencyKey = some key → ¬store.HasKey userId assetCode key) ∧
      store' =
        { store.setBalance userId assetCode update.balance with
          entries := store.entries ++
            [store.recordedEntry userId assetCode entryType idempotencyKey update] } :=
  EconomyStore.insertEconomyLedgerEntry_eq_ok h

def applyLedgerMutation (store : EconomyStore) (payload : AssetMutationPayload)
    (compute : Int → AssetBalance → Except ApiError BalanceUpdate) :
    Except ApiError (EconomyStore × AssetMutationResult) :=
  match store.findIdempotentLedgerEntry payload.userId payload.assetCode payload.idempotencyKey with
  | some existing => .ok (store, replayResult (toDecimalPlaces payload.amount) existing)
  | none => do
      let amount ← normalizePositiveAmount payload.amount
      let before := store.balances payload.userId payload.assetCode
      let update ← compute amount before
      let updated ← store.record payload.userId payload.assetCode payload.entryType
        payload.idempotencyKey update
      .ok (updated, appliedResult amount before update.balance)

def creditUpdate (amount : Int) (before : AssetBalance) : Except ApiError BalanceUpdate :=
  .ok
    { ledgerAmount := amount
      balance :=
        { before with
          availableBalance := before.availableBalance + amount
          lifetimeEarned := before.lifetimeEarned + amount } }

def debitUpdate (amount : Int) (before : AssetBalance) : Except ApiError BalanceUpdate := do
  ApiError.throwIf (before.availableBalance < amount) (.conflict "Insufficient asset balance.")
  .ok
    { ledgerAmount := -amount
      balance :=
        { before with
          availableBalance := before.availableBalance - amount
          lifetimeSpent := before.lifetimeSpent + amount } }

def lockUpdate (amount : Int) (before : AssetBalance) : Except ApiError BalanceUpdate := do
  ApiError.throwIf (before.availableBalance < amount) (.conflict "Insufficient asset balance.")
  .ok
    { ledgerAmount := -amount
      balance :=
        { before with
          availableBalance := before.availableBalance - amount
          lockedBalance := before.lockedBalance + amount } }

def unlockUpdate (amount : Int) (before : AssetBalance) : Except ApiError BalanceUpdate := do
  ApiError.throwIf (before.lockedBalance < amount)
    (.conflict "Insufficient locked asset balance.")
  .ok
    { ledgerAmount := amount
      balance :=
        { before with
          availableBalance := before.availableBalance + amount
          lockedBalance := before.lockedBalance - amount } }

def creditAsset (store : EconomyStore) (payload : AssetMutationPayload) :
    Except ApiError (EconomyStore × AssetMutationResult) :=
  applyLedgerMutation store payload creditUpdate

def debitAsset (store : EconomyStore) (payload : AssetMutationPayload) :
    Except ApiError (EconomyStore × AssetMutationResult) :=
  applyLedgerMutation store payload debitUpdate

def lockAsset (store : EconomyStore) (payload : AssetMutationPayload) :
    Except ApiError (EconomyStore × AssetMutationResult) :=
  applyLedgerMutation store payload lockUpdate

def unlockAsset (store : EconomyStore) (payload : AssetMutationPayload) :
    Except ApiError (EconomyStore × AssetMutationResult) :=
  applyLedgerMutation store payload unlockUpdate

structure SettlePayload where
  userId : Nat
  assetCode : AssetCode
  lockedAmount : Decimal ℚ
  payoutAmount : Decimal ℚ
  entryType : String
  idempotencyKey : Option String

/-- The ledger is searched for the key only when the payout is positive. -/
def findSettlement (store : EconomyStore) (payload : SettlePayload) : Option EconomyLedgerEntry :=
  if (toDecimalPlaces payload.payoutAmount).isPositive then
    store.findIdempotentLedgerEntry payload.userId payload.assetCode payload.idempotencyKey
  else none

def settledBalance (lockedAmount payoutAmount : Int) (before : AssetBalance) : AssetBalance :=
  let realizedEarned := if lockedAmount < payoutAmount then payoutAmount - lockedAmount else 0
  let realizedSpent := if payoutAmount < lockedAmount then lockedAmount - payoutAmount else 0
  { availableBalance := before.availableBalance + payoutAmount
    lockedBalance := before.lockedBalance - lockedAmount
    lifetimeEarned := before.lifetimeEarned + realizedEarned
    lifetimeSpent := before.lifetimeSpent + realizedSpent }

def settleLockedAsset (store : EconomyStore) (payload : SettlePayload) :
    Except ApiError (EconomyStore × AssetMutationResult) :=
  match findSettlement store payload with
  | some existing => .ok (store, replayResult (.finite existing.amount) existing)
  | none => do
      let lockedAmount ← normalizePositiveAmount payload.lockedAmount
      let payoutAmount ← normalizeNonNegativeAmount payload.payoutAmount
      let before := store.balances payload.userId payload.assetCode
      ApiError.throwIf (before.lockedBalance < lockedAmount)
        (.conflict "Insufficient locked asset balance.")
      let after := settledBalance lockedAmount payoutAmount before
      -- a settlement without payout leaves no ledger row
      let updated ←
        if 0 < payoutAmount then
          store.record payload.userId payload.assetCode payload.entryType payload.idempotencyKey
            { ledgerAmount := payoutAmount, balance := after }
        else .ok (store.setBalance payload.userId payload.assetCode after)
      .ok (updated, appliedResult payoutAmount before after)

def adjustLockedAsset (store : EconomyStore) (payload : AssetMutationPayload) :
    Except ApiError (EconomyStore × AssetMutationResult) :=
  match store.findIdempotentLedgerEntry payload.userId payload.assetCode payload.idempotencyKey with
  | some existing => .ok (store, replayResult (.finite existing.amount) existing)
  | none => do
      let signedDelta ← normalizeNonZeroAmount payload.amount
      let before := store.balances payload.userId payload.assetCode
      let lockedAfter := before.lockedBalance + signedDelta
      ApiError.throwIf (lockedAfter < 0) (.conflict "Insufficient locked asset balance.")
      let after := { before with lockedBalance := lockedAfter }
      let updated ← store.record payload.userId payload.assetCode payload.entryType
        payload.idempotencyKey { ledgerAmount := signedDelta, balance := after }
      .ok (updated, appliedResult signedDelta before after)

structure GiftPayload where
  senderUserId : Nat
  receiverUserId : Nat
  assetCode : AssetCode
  amount : Decimal ℚ
  energyCost : Int
  idempotencyKey : String

structure GiftTransferResult where
  transfer : GiftTransfer
  replayed : Bool
  deriving DecidableEq, Repr

def defaultGiftEnergyMax : Int := 10

def lockGiftEnergyAccount (store : EconomyStore) (userId : Nat) (now : Int) : GiftEnergyAccount :=
  (store.giftEnergy userId).getD
    { currentEnergy := defaultGiftEnergyMax
      maxEnergy := defaultGiftEnergyMax
      intervalHours := 24
      lastRefillAt := now }

def applyGiftEnergyRefill (account : GiftEnergyAccount) (now : Int) : GiftEnergyAccount :=
  let maxEnergy := max 0 account.maxEnergy
  if now - account.lastRefillAt < max 1 account.intervalHours * 60 * 60 * 1000 then
    { account with currentEnergy := max 0 account.currentEnergy, maxEnergy := maxEnergy }
  else { account with currentEnergy := maxEnergy, maxEnergy := maxEnergy, lastRefillAt := now }

def spendGiftEnergy (store : EconomyStore) (userId : Nat) (energyCost now : Int) :
    Except ApiError EconomyStore :=
  if energyCost ≤ 0 then .ok store
  else do
    let account := lockGiftEnergyAccount store userId now
    let resolved := applyGiftEnergyRefill account now
    ApiError.throwIf (resolved.currentEnergy < energyCost) (.conflict "Gift energy exhausted.")
    .ok
      { store with
        giftEnergy := Function.update store.giftEnergy userId
          (some
            { account with
              currentEnergy := resolved.currentEnergy - energyCost
              lastRefillAt := resolved.lastRefillAt }) }

def giftSendUpdate (amount : Int) (sender : AssetBalance) : BalanceUpdate :=
  { ledgerAmount := -amount
    balance :=
      { sender with
        availableBalance := sender.availableBalance - amount
        lifetimeSpent := sender.lifetimeSpent + amount } }

def giftReceiveUpdate (amount : Int) (receiver : AssetBalance) : BalanceUpdate :=
  { ledgerAmount := amount
    balance :=
      { receiver with
        availableBalance := receiver.availableBalance + amount
        lifetimeEarned := receiver.lifetimeEarned + amount } }

/-- `restricted` are the users with an active account, gameplay or gift lock. -/
def transferAssetGift (restricted : Nat → Bool) (now : Int) (store : EconomyStore)
    (payload : GiftPayload) : Except ApiError (EconomyStore × GiftTransferResult) := do
  let idempotencyKey := trim payload.idempotencyKey
  ApiError.throwIf (idempotencyKey = "") (.unprocessableEntity "Idempotency key is required.")
  ApiError.throwIf (payload.senderUserId = payload.receiverUserId)
    (.conflict "Cannot send a gift to the same user.")
  ApiError.throwIf (payload.assetCode ≠ .bLuck)
    (.unprocessableEntity "Only B luck can be sent as a gift.")
  match store.giftTransfers.find? fun transfer => transfer.idempotencyKey = idempotencyKey with
  | some existing => .ok (store, { transfer := existing, replayed := true })
  | none => do
      let amount ← normalizePositiveAmount payload.amount
      let energyCost := max 0 payload.energyCost
      let sender := store.balances payload.senderUserId payload.assetCode
      let receiver := store.balances payload.receiverUserId payload.assetCode
      ApiError.throwIf (restricted payload.senderUserId = true)
        (.conflict "Gift ability is currently frozen for this account.")
      ApiError.throwIf (restricted payload.receiverUserId = true)
        (.conflict "Gift recipient is not eligible to receive gifts.")
      ApiError.throwIf (sender.availableBalance < amount) (.conflict "Insufficient asset balance.")
      let charged ← spendGiftEnergy store payload.senderUserId energyCost now
      let transfer : GiftTransfer :=
        { senderUserId := payload.senderUserId
          receiverUserId := payload.receiverUserId
          assetCode := payload.assetCode
          amount := amount
          energyCost := energyCost
          idempotencyKey := idempotencyKey }
      let recorded := { charged with giftTransfers := charged.giftTransfers ++ [transfer] }
      let sent ← recorded.record payload.senderUserId payload.assetCode "gift_send"
        (some idempotencyKey) (giftSendUpdate amount sender)
      let received ← sent.record payload.receiverUserId payload.assetCode "gift_receive"
        (some idempotencyKey) (giftReceiveUpdate amount receiver)
      .ok (received, { transfer := transfer, replayed := false })

end RewardSystem.Economy
