import RewardSystem.Lib.Rounding
import RewardSystem.Shared.Errors

/-!
# The wallet and its ledger

Balances and amounts are counted in cents: both are stored as `numeric(14, 2)`. The wallet
invariant recomputes the balances of the wallet from the ledger rows of the user.
-/

namespace RewardSystem.Wallet

open Rounding

/-- A row of `user_wallets`. -/
structure UserWallet where
  withdrawableBalance : Int
  bonusBalance : Int
  lockedBalance : Int
  wageredAmount : Int
  deriving DecidableEq, Repr

inductive LedgerEntryType where
  | depositCredit
  | depositReversed
  | drawCost
  | drawReward
  | bonusReleaseAuto
  | bonusReleaseManual
  | gamificationReward
  | withdrawRequest
  | withdrawRejectedRefund
  | withdrawReversedRefund
  | withdrawPaid
  | quickEightStake
  | quickEightPayout
  | blackjackStake
  | blackjackDoubleDown
  | blackjackSplit
  | blackjackPayout
  | holdemBuyIn
  | holdemCashOut
  | holdemHandResult
  | holdemRake
  | holdemTournamentBuyIn
  | holdemTournamentRefund
  | holdemTournamentPayout
  | playModePayoutDeferred
  | playModePayoutReleased
  | predictionMarketStake
  | predictionMarketSell
  | predictionMarketPayout
  | predictionMarketRefund
  | unknown (name : String)
  deriving DecidableEq, Repr

/-- The keys of a ledger row's metadata that the invariant query reads, as numbers of cents. -/
structure LedgerMetadata where
  balanceType : Option String := none
  lockedBalanceBefore : Option ℚ := none
  lockedBalanceAfter : Option ℚ := none
  unlockRatio : Option ℚ := none
  deriving DecidableEq, Repr

inductive OrderReference where
  | deposit (id : Nat)
  | withdrawal (id : Nat)
  | other
  deriving DecidableEq, Repr

/-- A row of `ledger_entries`. -/
structure LedgerEntry where
  entryType : LedgerEntryType
  amount : Int
  balanceBefore : Int
  balanceAfter : Int
  reference : OrderReference
  metadata : LedgerMetadata := {}
  deriving DecidableEq, Repr

def LedgerEntryType.isKnown : LedgerEntryType → Bool
  | .unknown _ => false
  | _ => true

def withdrawableDirectEntryTypes : List LedgerEntryType :=
  [.depositCredit, .depositReversed, .drawCost, .withdrawRequest, .withdrawRejectedRefund,
    .withdrawReversedRefund, .quickEightStake, .quickEightPayout, .blackjackStake,
    .blackjackDoubleDown, .blackjackSplit, .blackjackPayout, .holdemBuyIn, .holdemCashOut,
    .holdemTournamentBuyIn, .holdemTournamentRefund, .holdemTournamentPayout,
    .predictionMarketStake, .predictionMarketSell, .predictionMarketPayout,
    .predictionMarketRefund]

def bonusCreditEntryTypes : List LedgerEntryType := [.drawReward, .gamificationReward]

def playModeDeferredEntryTypes : List LedgerEntryType :=
  [.playModePayoutDeferred, .playModePayoutReleased]

def stakeEntryTypes : List LedgerEntryType :=
  [.drawCost, .quickEightStake, .blackjackStake, .blackjackDoubleDown, .blackjackSplit,
    .predictionMarketStake]

def releaseEntryTypes : List LedgerEntryType := [.bonusReleaseAuto, .bonusReleaseManual]

def refundEntryTypes : List LedgerEntryType := [.withdrawRejectedRefund, .withdrawReversedRefund]

/-- `COALESCE(NULLIF(metadata->>'balanceType', ''), 'withdrawable')` -/
def LedgerMetadata.deferredBalanceType (metadata : LedgerMetadata) : String :=
  match metadata.balanceType with
  | some "" => "withdrawable"
  | some balanceType => balanceType
  | none => "withdrawable"

def LedgerMetadata.lockedDelta (metadata : LedgerMetadata) : Int :=
  roundHalfUp (metadata.lockedBalanceAfter.getD 0 - metadata.lockedBalanceBefore.getD 0)

namespace LedgerEntry

def withdrawableContribution (entry : LedgerEntry) : Int :=
  if entry.entryType ∈ withdrawableDirectEntryTypes then entry.amount
  else if entry.entryType ∈ playModeDeferredEntryTypes ∧
      entry.metadata.deferredBalanceType = "withdrawable" then entry.amount
  else if entry.entryType ∈ releaseEntryTypes then entry.amount
  else 0

def bonusContribution (entry : LedgerEntry) : Int :=
  if entry.entryType ∈ bonusCreditEntryTypes then entry.amount
  else if entry.entryType ∈ playModeDeferredEntryTypes ∧
      entry.metadata.deferredBalanceType = "bonus" then entry.amount
  else if entry.entryType ∈ releaseEntryTypes then -entry.amount
  else 0

def lockedContribution (entry : LedgerEntry) : Int :=
  if entry.entryType = .withdrawRequest then -entry.amount
  else if entry.entryType ∈ refundEntryTypes then -entry.amount
  else if entry.entryType = .withdrawPaid then entry.amount
  else if entry.entryType = .holdemBuyIn then -entry.amount
  else if entry.entryType ∈ [.holdemCashOut, .holdemHandResult, .holdemRake] then entry.amount
  else if entry.entryType ∈ [.predictionMarketStake, .predictionMarketSell,
      .predictionMarketPayout, .predictionMarketRefund] then entry.metadata.lockedDelta
  else if entry.entryType ∈ playModeDeferredEntryTypes then entry.metadata.lockedDelta
  else 0

def wageredContribution (entry : LedgerEntry) : Int :=
  if entry.entryType ∈ stakeEntryTypes then -entry.amount
  else if entry.entryType = .bonusReleaseAuto then
    roundHalfUp (-1 * entry.amount * entry.metadata.unlockRatio.getD 0)
  else 0

end LedgerEntry

def expectedWallet (entries : List LedgerEntry) : UserWallet :=
  { withdrawableBalance := (entries.map LedgerEntry.withdrawableContribution).sum
    bonusBalance := (entries.map LedgerEntry.bonusContribution).sum
    lockedBalance := (entries.map LedgerEntry.lockedContribution).sum
    wageredAmount := (entries.map LedgerEntry.wageredContribution).sum }

/-- The wallet invariant has nothing to report. -/
def LedgerAgrees (wallet : UserWallet) (entries : List LedgerEntry) : Prop :=
  wallet = expectedWallet entries ∧ ∀ entry ∈ entries, entry.entryType.isKnown = true

instance (wallet : UserWallet) (entries : List LedgerEntry) :
    Decidable (LedgerAgrees wallet entries) :=
  inferInstanceAs (Decidable (_ ∧ _))

/-- A mismatch is logged; it is thrown only in strict mode. -/
def assertWalletLedgerInvariant (strict : Bool) (wallet : UserWallet)
    (entries : List LedgerEntry) : Except ApiError Unit :=
  ApiError.throwIf (strict = true ∧ ¬LedgerAgrees wallet entries)
    (.internalInvariant "Wallet ledger invariant failed.")

end RewardSystem.Wallet
