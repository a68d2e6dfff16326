import RewardSystem.Shared.DecimalArithmetic
import RewardSystem.Wallet.Ledger
import RewardSystem.Webhook.Payload

/-!
# Two readers of a ledger entry

What an entry does to the balances according to `deriveWalletLedgerEffects` and according to the
query of the wallet invariant, both on the metadata as it is stored.
-/

namespace RewardSystem.Wallet

open Webhook (JsonValue toRecord field)

/-- Texts read as numbers by `new Decimal` and by a cast to `numeric`. Where both read a number, it
is the same one. -/
structure NumberTexts where
  decimal : String → Option (Decimal ℚ)
  numeric : String → Option (Decimal ℚ)
  decimal_empty : decimal "" = none
  agree : ∀ text left right, decimal text = some left → numeric text = some right → left = right

/-- A row of `ledger_entries`, as far as the readers look at it. -/
structure StoredEntry where
  entryType : LedgerEntryType
  /-- In cents. -/
  amount : Int
  metadata : Option JsonValue

namespace StoredEntry

variable (entry : StoredEntry)

def value (key : String) : Option JsonValue :=
  field (toRecord entry.metadata) key

def money : ℚ :=
  (entry.amount : ℚ) / 100

end StoredEntry

structure LedgerEffects where
  withdrawable : Decimal ℚ
  bonus : Decimal ℚ
  locked : Decimal ℚ
  wagered : Decimal ℚ
  deriving DecidableEq

variable (texts : NumberTexts)

/-! ## `deriveWalletLedgerEffects` -/

/-- `toDecimal(readDecimalLike(value))` -/
def readDecimalLike : Option JsonValue → Except ApiError (Decimal ℚ)
  | some (.string text) =>
      match texts.decimal text with
      | some value => .ok value
      | none => .error (.internalInvariant "[DecimalError] Invalid argument")
  | some (.number value) => .ok (.finite value)
  | _ => .ok (.finite 0)

def readBalanceDeltaFromMetadata (entry : StoredEntry) (beforeKey afterKey : String) :
    Except ApiError (Decimal ℚ) := do
  let after ← readDecimalLike texts (entry.value afterKey)
  let before ← readDecimalLike texts (entry.value beforeKey)
  return (after.sub before).map (roundSignificant 20)

/-- `deferredBalanceType` is "bonus"; else it is "withdrawable". -/
def StoredEntry.defersBonus (entry : StoredEntry) : Bool :=
  match entry.value "balanceType" with
  | some (.string balanceType) => balanceType = "bonus"
  | _ => false

/-- The effects of an entry whose metadata is read. -/
def effectsOf (entry : StoredEntry) (unlockRatio lockedDelta : Decimal ℚ) : LedgerEffects :=
  let amount : Decimal ℚ := .finite entry.money
  let zero : Decimal ℚ := .finite 0
  match entry.entryType with
  | .depositCredit | .depositReversed | .quickEightPayout | .blackjackPayout =>
      ⟨amount, zero, zero, zero⟩
  | .predictionMarketSell | .predictionMarketPayout | .predictionMarketRefund =>
      ⟨amount, zero, lockedDelta, zero⟩
  | .drawCost | .quickEightStake | .blackjackStake | .blackjackDoubleDown | .blackjackSplit =>
      ⟨amount, zero, zero, amount.neg⟩
  | .predictionMarketStake => ⟨amount, zero, lockedDelta, amount.neg⟩
  | .drawReward | .gamificationReward => ⟨zero, amount, zero, zero⟩
  | .bonusReleaseManual => ⟨amount, amount.neg, zero, zero⟩
  | .bonusReleaseAuto =>
      ⟨amount, amount.neg, zero,
        ((unlockRatio.scale entry.money).map (roundSignificant 20)).neg.map roundCents⟩
  | .withdrawRequest => ⟨amount, zero, amount.neg, zero⟩
  | .withdrawRejectedRefund | .withdrawReversedRefund => ⟨amount, zero, amount.neg, zero⟩
  | .withdrawPaid => ⟨zero, zero, amount, zero⟩
  | .playModePayoutDeferred | .playModePayoutReleased =>
      ⟨if entry.defersBonus then zero else amount, if entry.defersBonus then amount else zero,
        lockedDelta, zero⟩
  | _ => ⟨zero, zero, zero, zero⟩

def deriveWalletLedgerEffects (entry : StoredEntry) : Except ApiError LedgerEffects := do
  let unlockRatio ← readDecimalLike texts (entry.value "unlockRatio")
  let deferredLockedDelta ←
    readBalanceDeltaFromMetadata texts entry "lockedBalanceBefore" "lockedBalanceAfter"
  return effectsOf entry unlockRatio deferredLockedDelta

/-! ## The query -/

/-- `COALESCE(NULLIF(metadata->>key, '')::numeric, 0)` -/
def castNumeric : Option JsonValue → Except ApiError (Decimal ℚ)
  | none | some .null => .ok (.finite 0)
  | some (.number value) => .ok (.finite value)
  | some (.string text) =>
      if text = "" then .ok (.finite 0)
      else
        match texts.numeric text with
        | some value => .ok value
        | none => .error (.persistence "invalid input syntax for type numeric")
  | some _ => .error (.persistence "invalid input syntax for type numeric")

/-- `COALESCE(NULLIF(metadata->>'balanceType', ''), 'withdrawable')`. The text of a value that is no
string names neither balance. -/
def readPlayModeDeferredBalanceType (entry : StoredEntry) : Option String :=
  match entry.value "balanceType" with
  | none | some .null => some "withdrawable"
  | some (.string balanceType) =>
      some (if balanceType = "" then "withdrawable" else balanceType)
  | some _ => none

/-- `readPredictionMarketLockedDeltaSql`, which play modes repeat. -/
def readLockedDelta (entry : StoredEntry) : Except ApiError (Decimal ℚ) := do
  let after ← castNumeric texts (entry.value "lockedBalanceAfter")
  let before ← castNumeric texts (entry.value "lockedBalanceBefore")
  return (after.sub before).map roundCents

namespace StoredEntry

variable (entry : StoredEntry)

def withdrawableContribution : Decimal ℚ :=
  if entry.entryType ∈ withdrawableDirectEntryTypes then .finite entry.money
  else if entry.entryType ∈ playModeDeferredEntryTypes ∧
      readPlayModeDeferredBalanceType entry = some "withdrawable" then .finite entry.money
  else if entry.entryType ∈ releaseEntryTypes then .finite entry.money
  else .finite 0

def bonusContribution : Decimal ℚ :=
  if entry.entryType ∈ bonusCreditEntryTypes then .finite entry.money
  else if entry.entryType ∈ playModeDeferredEntryTypes ∧
      readPlayModeDeferredBalanceType entry = some "bonus" then .finite entry.money
  else if entry.entryType ∈ releaseEntryTypes then .finite (-entry.money)
  else .finite 0

def lockedContribution : Except ApiError (Decimal ℚ) :=
  if entry.entryType = .withdrawRequest then .ok (.finite (-entry.money))
  else if entry.entryType ∈ refundEntryTypes then .ok (.finite (-entry.money))
  else if entry.entryType = .withdrawPaid then .ok (.finite entry.money)
  else if entry.entryType = .holdemBuyIn then .ok (.finite (-entry.money))
  else if entry.entryType ∈ [.holdemCashOut, .holdemHandResult, .holdemRake] then
    .ok (.finite entry.money)
  else if entry.entryType ∈ [.predictionMarketStake, .predictionMarketSell,
      .predictionMarketPayout, .predictionMarketRefund] then readLockedDelta texts entry
  else if entry.entryType ∈ playModeDeferredEntryTypes then readLockedDelta texts entry
  else .ok (.finite 0)

def wageredContribution : Except ApiError (Decimal ℚ) :=
  if entry.entryType ∈ stakeEntryTypes then .ok (.finite (-entry.money))
  else if entry.entryType = .bonusReleaseAuto then do
    let unlockRatio ← castNumeric texts (entry.value "unlockRatio")
    return (unlockRatio.scale (-1 * entry.money)).map roundCents
  else .ok (.finite 0)

/-- What the query adds to its sums for an entry. A failing cast fails the query. -/
def contribution : Except ApiError LedgerEffects := do
  let locked ← entry.lockedContribution texts
  let wagered ← entry.wageredContribution texts
  return ⟨entry.withdrawableContribution, entry.bonusContribution, locked, wagered⟩

end StoredEntry

end RewardSystem.Wallet
