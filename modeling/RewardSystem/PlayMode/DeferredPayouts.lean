import RewardSystem.Economy.Service
import RewardSystem.Lib.Runs
import RewardSystem.Wallet.Ledger

/-!
# Deferred payouts

Some play modes take a payout that the game has just credited back from the user and hand it out
later. The accounts are those of one user, with the prize pool of the house; amounts are in cents.
-/

namespace RewardSystem.PlayMode

open Economy Wallet

inductive PlayModeGameKey where
  | draw
  | blackjack
  | holdem
  deriving DecidableEq, Repr

inductive PlayModeType where
  | standard
  | dualBet
  | deferredDouble
  | snowball
  deriving DecidableEq, Repr

inductive PlayModeOutcome where
  | win
  | lose
  | push
  | miss
  deriving DecidableEq, Repr

inductive DeferredBalanceType where
  | bonus
  | withdrawable
  deriving DecidableEq, Repr

inductive DeferredFundingSource where
  | drawUserPool
  | prizePool
  | lockedBalance
  deriving DecidableEq, Repr

inductive Direction where
  | withhold
  | release
  deriving DecidableEq, Repr

inductive DeferredPayoutStatus where
  | pending
  | released
  deriving DecidableEq, Repr

/-- A row of `deferred_payouts` of the user. -/
structure DeferredPayoutRow where
  id : Nat
  gameKey : PlayModeGameKey
  mode : PlayModeType
  status : DeferredPayoutStatus
  balanceType : DeferredBalanceType
  amount : Int
  deriving DecidableEq, Repr

/-- `asset` is the user's row of the asset `B_LUCK`. -/
structure Accounts where
  wallet : UserWallet
  asset : AssetBalance
  userPoolBalance : Int
  prizePoolBalance : Int
  ledgerEntries : List LedgerEntry
  deriving DecidableEq, Repr

structure PlayModeBooks where
  accounts : Accounts
  deferredPayouts : List DeferredPayoutRow
  deriving DecidableEq, Repr

structure PlayModeSnapshot where
  type : PlayModeType
  carryActive : Bool
  pendingPayoutAmount : Int
  pendingPayoutCount : Int
  snowballCarryAmount : Int
  snowballEnvelopeAmount : Int
  deriving DecidableEq, Repr

def snowballEnvelopeCap : Int := 50000

def resolveFundingSourceForGame : PlayModeGameKey → DeferredFundingSource
  | .draw => .drawUserPool
  | .blackjack => .prizePool
  | .holdem => .lockedBalance

def usesPlayModeEarnedAsset (balanceType : DeferredBalanceType)
    (fundingSource : Option DeferredFundingSource) : Bool :=
  balanceType = .bonus ∧ (fundingSource = some .drawUserPool ∨ fundingSource = some .lockedBalance)

def DeferredBalanceType.name : DeferredBalanceType → String
  | .bonus => "bonus"
  | .withdrawable => "withdrawable"

/-- What the direction makes of an amount that the user is given back. -/
def Direction.signed : Direction → Int → Int
  | .withhold, amount => -amount
  | .release, amount => amount

/-- The pool of the user when a payout is taken from or given to the user; a release stops at zero. -/
def userPoolAfter (direction : Direction) (userPoolBefore amount : Int) : Int :=
  match direction with
  | .withhold => userPoolBefore + amount
  | .release => max (userPoolBefore - amount) 0

def Accounts.mutateAsset (accounts : Accounts)
    (update : AssetBalance → Except ApiError BalanceUpdate) : Except ApiError Accounts := do
  let updated ← update accounts.asset
  .ok { accounts with asset := updated.balance }

/-- The wallet as it stands for the payout, before it is checked. -/
def adjustWallet (wallet : UserWallet) (amount : Int) (balanceType : DeferredBalanceType)
    (direction : Direction) (fundingSource : Option DeferredFundingSource) : UserWallet :=
  let signedAmount := direction.signed amount
  { wallet with
    withdrawableBalance :=
      if balanceType = .withdrawable then wallet.withdrawableBalance + signedAmount
      else wallet.withdrawableBalance
    bonusBalance :=
      if balanceType = .bonus then wallet.bonusBalance + signedAmount else wallet.bonusBalance
    lockedBalance :=
      if fundingSource = some .lockedBalance then wallet.lockedBalance - signedAmount
      else wallet.lockedBalance }

/-- The row of the payout in the ledger of the wallet. The locked balances are in its metadata
under keys that the wallet's invariant does not read. -/
def deferredLedgerEntry (before after : UserWallet) (amount : Int)
    (balanceType : DeferredBalanceType) (direction : Direction) : LedgerEntry :=
  { entryType :=
      match direction with
      | .withhold => .playModePayoutDeferred
      | .release => .playModePayoutReleased
    amount := direction.signed amount
    balanceBefore :=
      match balanceType with
      | .bonus => before.bonusBalance
      | .withdrawable => before.withdrawableBalance
    balanceAfter :=
      match balanceType with
      | .bonus => after.bonusBalance
      | .withdrawable => after.withdrawableBalance
    reference := .other
    metadata := { balanceType := some balanceType.name } }

def applyWalletDelta (amount : Int) (balanceType : DeferredBalanceType) (direction : Direction)
    (fundingSource : Option DeferredFundingSource) (accounts : Accounts) :
    Except ApiError Accounts :=
  if amount ≤ 0 then .ok accounts
  else if usesPlayModeEarnedAsset balanceType fundingSource = true ∧
      fundingSource = some .drawUserPool then do
    let updated ← accounts.mutateAsset
      (match direction with
      | .withhold => debitUpdate amount
      | .release => creditUpdate amount)
    .ok
      { updated with
        userPoolBalance := userPoolAfter direction accounts.userPoolBalance amount }
  else if usesPlayModeEarnedAsset balanceType fundingSource = true ∧
      fundingSource = some .lockedBalance then
    accounts.mutateAsset
      (match direction with
      | .withhold => lockUpdate amount
      | .release => unlockUpdate amount)
  else do
    let wallet := adjustWallet accounts.wallet amount balanceType direction fundingSource
    ApiError.throwIf
      (wallet.withdrawableBalance < 0 ∨ wallet.bonusBalance < 0 ∨ wallet.lockedBalance < 0)
      (.conflict "Deferred payout balance adjustment would go negative.")
    .ok
      { accounts with
        wallet := wallet
        ledgerEntries := accounts.ledgerEntries ++
          [deferredLedgerEntry accounts.wallet wallet amount balanceType direction]
        userPoolBalance :=
          if fundingSource = some .drawUserPool then
            userPoolAfter direction accounts.userPoolBalance amount
          else accounts.userPoolBalance
        prizePoolBalance :=
          if fundingSource = some .prizePool then
            accounts.prizePoolBalance - direction.signed amount
          else accounts.prizePoolBalance }

def withholdDeferredPayout (amount : Int) (balanceType : DeferredBalanceType)
    (fundingSource : Option DeferredFundingSource) : Accounts → Except ApiError Accounts :=
  applyWalletDelta amount balanceType .withhold fundingSource

def releaseDeferredPayout (amount : Int) (balanceType : DeferredBalanceType)
    (fundingSource : Option DeferredFundingSource) : Accounts → Except ApiError Accounts :=
  applyWalletDelta amount balanceType .release fundingSource

/-- The row's `id` comes from a sequence. -/
def createDeferredPayout (gameKey : PlayModeGameKey) (mode : PlayModeType)
    (balanceType : DeferredBalanceType) (amount : Int) (rows : List DeferredPayoutRow) :
    List DeferredPayoutRow :=
  rows ++
    [{ id := rows.length + 1
       gameKey := gameKey
       mode := mode
       status := .pending
       balanceType := balanceType
       amount := amount }]

/-- `loadDeferredPayoutRows` for the pending rows of a game and a mode. -/
def loadPendingRows (gameKey : PlayModeGameKey) (mode : PlayModeType)
    (rows : List DeferredPayoutRow) : List DeferredPayoutRow :=
  rows.filter fun row => row.gameKey = gameKey ∧ row.mode = mode ∧ row.status = .pending

def markDeferredPayoutsReleased (payoutIds : List Nat) (rows : List DeferredPayoutRow) :
    List DeferredPayoutRow :=
  rows.map fun row => if row.id ∈ payoutIds then { row with status := .released } else row

/-- The loop of `releasePendingDeferredPayoutsForMode`. -/
def releaseRows (fundingSource : DeferredFundingSource) (rows : List DeferredPayoutRow)
    (accounts : Accounts) : Except ApiError Accounts :=
  rows.foldlM
    (fun accounts row =>
      releaseDeferredPayout row.amount row.balanceType (some fundingSource) accounts) accounts

def releasePendingDeferredPayoutsForMode (gameKey : PlayModeGameKey) (mode : PlayModeType)
    (books : PlayModeBooks) : Except ApiError PlayModeBooks := do
  let rows := loadPendingRows gameKey mode books.deferredPayouts
  let accounts ← releaseRows (resolveFundingSourceForGame gameKey) rows books.accounts
  .ok
    { accounts := accounts
      deferredPayouts :=
        markDeferredPayoutsReleased (rows.map DeferredPayoutRow.id) books.deferredPayouts }

/-- A settled game: `netPayoutAmount` has been credited to the user already. -/
structure SettledGame where
  gameKey : PlayModeGameKey
  outcome : PlayModeOutcome
  settledSnapshot : PlayModeSnapshot
  netPayoutAmount : Int
  balanceType : DeferredBalanceType
  deriving DecidableEq, Repr

/-- Take the payout back and write its row. -/
def deferPayout (game : SettledGame) (books : PlayModeBooks) : Except ApiError PlayModeBooks := do
  let accounts ← withholdDeferredPayout game.netPayoutAmount game.balanceType
    (some (resolveFundingSourceForGame game.gameKey)) books.accounts
  .ok
    { accounts := accounts
      deferredPayouts :=
        createDeferredPayout game.gameKey game.settledSnapshot.type game.balanceType
          game.netPayoutAmount books.deferredPayouts }

def SettledGame.pendingAmountAfter (game : SettledGame) : Int :=
  if 0 < game.netPayoutAmount then
    game.settledSnapshot.pendingPayoutAmount + game.netPayoutAmount
  else game.settledSnapshot.pendingPayoutAmount

def SettledGame.pendingCountAfter (game : SettledGame) : Int :=
  if 0 < game.netPayoutAmount then game.settledSnapshot.pendingPayoutCount + 1
  else game.settledSnapshot.pendingPayoutCount

def deferPositivePayout (game : SettledGame) (books : PlayModeBooks) :
    Except ApiError PlayModeBooks :=
  if 0 < game.netPayoutAmount then deferPayout game books else .ok books

def applySettledPlayModePayoutPolicy (game : SettledGame) (books : PlayModeBooks) :
    Except ApiError (PlayModeSnapshot × PlayModeBooks) :=
  let snapshot := game.settledSnapshot
  match snapshot.type with
  | .standard | .dualBet => .ok (snapshot, books)
  | .deferredDouble =>
      if game.netPayoutAmount ≤ 0 then
        .ok
          ({ snapshot with
             carryActive := 0 < snapshot.pendingPayoutCount ∨ 0 < snapshot.pendingPayoutAmount },
            books)
      else do
        let deferred ← deferPayout game books
        .ok
          ({ snapshot with
             pendingPayoutAmount := snapshot.pendingPayoutAmount + game.netPayoutAmount
             pendingPayoutCount := snapshot.pendingPayoutCount + 1
             carryActive := true }, deferred)
  | .snowball => do
      let deferred ← deferPositivePayout game books
      if game.outcome = .win ∨ game.outcome = .push then
        let carryAmount := min game.pendingAmountAfter snowballEnvelopeCap
        .ok
          ({ snapshot with
             pendingPayoutAmount := game.pendingAmountAfter
             pendingPayoutCount := game.pendingCountAfter
             carryActive := 0 < game.pendingAmountAfter
             snowballCarryAmount := carryAmount
             snowballEnvelopeAmount := max (game.pendingAmountAfter - carryAmount) 0 }, deferred)
      else do
        let released ←
          if 0 < game.pendingCountAfter ∨ 0 < game.pendingAmountAfter then
            releasePendingDeferredPayoutsForMode game.gameKey snapshot.type deferred
          else .ok deferred
        .ok
          ({ snapshot with
             pendingPayoutAmount := 0
             pendingPayoutCount := 0
             carryActive := false
             snowballCarryAmount := 0
             snowballEnvelopeAmount := 0 }, released)

end RewardSystem.PlayMode
