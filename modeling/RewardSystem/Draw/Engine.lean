import Mathlib.Algebra.Order.Field.Rat
import RewardSystem.Lib.ReadCommitted
import RewardSystem.Shared.Errors

/-!
# The draw transaction

`executeDraw` and the batch of `executeDrawPlay`, one SQL statement a step: a transaction locks the
user, charges the draw, reads the pool without a lock, locks the selected prize, applies the payout
policy and moves the prize pool. The pick of `prepareDrawSelection`, which depends on the fairness
seed, and the clock are inputs. A throw of a guard that is left out is a `stop` of the session.
-/

namespace RewardSystem.Draw

open ReadCommitted

inductive DrawStatus where
  | miss
  | won
  | outOfStock
  | budgetExhausted
  | payoutLimited
  deriving DecidableEq, Repr

/-- The row of `house_account`; amounts are counted in cents. -/
structure HouseAccount where
  houseBankroll : Int
  prizePoolBalance : Int
  deriving DecidableEq, Repr

/-- A user with the wallet that `loadLockedDrawUser` joins. -/
structure DrawUser where
  withdrawableBalance : Int
  wageredAmount : Int
  userPoolBalance : Int
  pityStreak : Nat
  deriving DecidableEq, Repr

/-- A row of `prizes`; times are counted in milliseconds. -/
structure Prize where
  stock : Int
  rewardAmount : Int
  isActive : Bool
  deletedAt : Option Int
  poolThreshold : Int
  userPoolThreshold : Int
  payoutBudget : Int
  payoutSpent : Int
  payoutPeriodDays : Int
  payoutPeriodStartedAt : Int
  deriving DecidableEq, Repr

inductive Key where
  | house
  | user (userId : Nat)
  | prize (prizeId : Nat)
  deriving DecidableEq, Repr

abbrev Row : Key → Type
  | .house => HouseAccount
  | .user _ => DrawUser
  | .prize _ => Prize

inductive PoolChange where
  | drawCost
  | drawReward
  deriving DecidableEq, Repr

/-- A row of `house_transactions`. -/
structure HouseTransaction where
  type : PoolChange
  amount : Int
  balanceBefore : Int
  balanceAfter : Int
  deriving DecidableEq, Repr

/-- A row of `draw_records`. -/
structure DrawRecord where
  userId : Nat
  prizeId : Option Nat
  drawCost : Int
  rewardAmount : Int
  status : DrawStatus
  createdAt : Int
  deriving DecidableEq, Repr

inductive Entry where
  | houseTransaction (transaction : HouseTransaction)
  | drawRecord (record : DrawRecord)
  deriving DecidableEq, Repr

/-- The part of `DrawConfigBundle` that decides about payouts. -/
structure DrawConfig where
  drawCost : Int
  minDrawCost : Int
  maxDrawCost : Int
  minReserve : Int
  maxPayoutRatio : ℚ
  houseBankroll : Int
  cooldownSeconds : Int
  maxTotalPerHour : Int
  maxBigPerHour : Int
  maxBigPerDay : Int

/-- The pick of a draw, with the noise on the pool balance if it is enabled, the largest reward of
the probability pool, and the clock. -/
structure Play where
  selection : Option Nat
  poolNoise : Option Int
  maxReward : Int
  now : Int
  startOfDay : Int
  deriving DecidableEq

structure DrawRequest where
  userId : Nat
  plays : List Play
  deriving DecidableEq

/-- `DebitedDrawState` -/
structure DebitedDraw where
  play : Play
  drawCost : Int
  userPoolAfterDebit : Int
  pityStreakBefore : Nat
  deriving DecidableEq

/-- `PreparedDrawSelection`, with the state it is made from. -/
structure PreparedDraw extends DebitedDraw where
  poolBalance : Int
  effectivePoolBalance : Int
  deriving DecidableEq

/-- `ResolvedDrawOutcome` -/
structure DrawOutcome where
  status : DrawStatus
  rewardAmount : Int
  prizeId : Option Nat
  deriving DecidableEq

structure BudgetEvaluation where
  available : Bool
  shouldReset : Bool
  budget : Int
  spent : Int
  deriving DecidableEq

/-- `WinningPrizePlan` -/
structure PrizePlan where
  prizeId : Nat
  rewardAmount : Int
  budgetEvaluation : BudgetEvaluation
  deriving DecidableEq

inductive PolicyDecision where
  | terminal (outcome : DrawOutcome)
  | pays (plan : PrizePlan)

abbrev Tables := Database Row Entry

/-- The statement a draw is at, with its local variables. -/
inductive Stage where
  | lockUser
  | debitUser (play : Play) (user : DrawUser)
  | ensureHouse (draw : DebitedDraw)
  | readPool (draw : DebitedDraw)
  | lockPrize (draw : PreparedDraw) (prizeId : Nat)
  | payoutPolicy (draw : PreparedDraw) (prizeId : Nat) (lockedPrize : Option Prize)
  | decrementStock (draw : PreparedDraw) (plan : PrizePlan)
  | creditUserPool (draw : PreparedDraw) (plan : PrizePlan)
  | ensureHouseFor (draw : PreparedDraw) (outcome : DrawOutcome) (change : PoolChange)
  | lockHouse (draw : PreparedDraw) (outcome : DrawOutcome) (change : PoolChange)
  | updateHouse (draw : PreparedDraw) (outcome : DrawOutcome) (change : PoolChange) (before : Int)
  | insertTransaction (draw : PreparedDraw) (outcome : DrawOutcome) (change : PoolChange)
      (before : Int)
  | updateUser (draw : PreparedDraw) (outcome : DrawOutcome)
  | insertRecord (draw : PreparedDraw) (outcome : DrawOutcome)
  | finished

structure Execution where
  request : DrawRequest
  /-- How many draws of the batch are done. -/
  index : Nat
  stage : Stage

abbrev Statement := Action Row Entry Execution

/-! ## Costs, budgets and limits -/

def resolveEffectiveDrawCost (config : DrawConfig) : Int :=
  let raised :=
    if 0 < config.minDrawCost ∧ config.drawCost < config.minDrawCost then config.minDrawCost
    else config.drawCost
  if 0 < config.maxDrawCost ∧ config.maxDrawCost < raised then config.maxDrawCost else raised

def applyPoolNoise (poolBalance : Int) : Option Int → Int
  | none => poolBalance
  | some delta => max (poolBalance + delta) 0

def evaluateBudget (prize : Prize) (now : Int) : BudgetEvaluation :=
  if prize.payoutBudget ≤ 0 then
    { available := true, shouldReset := false, budget := prize.payoutBudget,
      spent := prize.payoutSpent }
  else
    let periodMs := max 1 prize.payoutPeriodDays * (24 * 60 * 60 * 1000)
    let expired := decide (periodMs ≤ now - prize.payoutPeriodStartedAt)
    let spent := if expired then 0 else prize.payoutSpent
    { available := decide (prize.rewardAmount ≤ prize.payoutBudget - spent), shouldReset := expired,
      budget := prize.payoutBudget, spent := spent }

def drawRecords (log : List Entry) : List DrawRecord :=
  log.filterMap fun
    | .drawRecord record => some record
    | .houseTransaction _ => none

def wonSince (log : List Entry) (since : Int) : List DrawRecord :=
  (drawRecords log).filter fun record => record.status = .won ∧ since ≤ record.createdAt

def bigWonSince (log : List Entry) (since maxReward : Int) : List DrawRecord :=
  (wonSince log since).filter fun record => maxReward ≤ record.rewardAmount

/-- Whether one of the limits of `resolvePayoutLimitReason` holds the payout back. -/
def payoutLimited (config : DrawConfig) (log : List Entry) (userId : Nat)
    (candidateReward : Int) (play : Play) : Bool :=
  let lastHour := play.now - 60 * 60 * 1000
  let cooling := decide (0 < config.cooldownSeconds) &&
    (wonSince log (play.now - config.cooldownSeconds * 1000)).any fun record =>
      record.userId = userId
  let overHour := decide (0 < config.maxTotalPerHour ∧
    config.maxTotalPerHour <
      ((wonSince log lastHour).map (·.rewardAmount)).sum + candidateReward)
  let isBigPrize := decide (0 < play.maxReward ∧ play.maxReward ≤ candidateReward)
  let bigLimited := decide (config.maxBigPerHour ≤ 0 ∨
    config.maxBigPerHour ≤ (bigWonSince log lastHour play.maxReward).length ∨
    (0 < config.maxBigPerDay ∧
      config.maxBigPerDay ≤ (bigWonSince log play.startOfDay play.maxReward).length))
  decide (0 < candidateReward) && (cooling || overHour || (isBigPrize && bigLimited))

/-! ## The payout policy -/

def buildOutcome (status : DrawStatus) : DrawOutcome where
  status := status
  rewardAmount := 0
  prizeId := none

/-- `resolvePayoutPolicy`, once the prize is locked. -/
def resolvePayoutPolicy (config : DrawConfig) (log : List Entry) (userId : Nat)
    (draw : PreparedDraw) (prizeId : Nat) (lockedPrize : Option Prize) : PolicyDecision :=
  match lockedPrize with
  | none => .terminal (buildOutcome .outOfStock)
  | some prize =>
      let budgetEvaluation := evaluateBudget prize draw.play.now
      let candidateReward := prize.rewardAmount
      let updatedPoolBalanceCandidate :=
        max (draw.poolBalance + draw.drawCost - candidateReward) 0
      if prize.isActive = false ∨ prize.stock ≤ 0 then .terminal (buildOutcome .outOfStock)
      else if draw.effectivePoolBalance < prize.poolThreshold ∨
          draw.userPoolAfterDebit < prize.userPoolThreshold then
        .terminal (buildOutcome .miss)
      else if budgetEvaluation.available = false then .terminal (buildOutcome .budgetExhausted)
      else if 0 < config.minReserve ∧ updatedPoolBalanceCandidate < config.minReserve then
        .terminal (buildOutcome .payoutLimited)
      else if 0 < config.houseBankroll ∧ config.houseBankroll < candidateReward then
        .terminal (buildOutcome .payoutLimited)
      else if 0 < config.maxPayoutRatio ∧
          (draw.poolBalance : ℚ) * config.maxPayoutRatio < candidateReward then
        .terminal (buildOutcome .payoutLimited)
      else if payoutLimited config log userId candidateReward draw.play = true then
        .terminal (buildOutcome .payoutLimited)
      else
        .pays { prizeId := prizeId, rewardAmount := candidateReward,
                budgetEvaluation := budgetEvaluation }

def PrizePlan.outcome (plan : PrizePlan) : DrawOutcome where
  status := .won
  rewardAmount := plan.rewardAmount
  prizeId := some plan.prizeId

/-- The row of `decrementPrizeStock`. -/
def decrementedPrize (plan : PrizePlan) (now : Int) (row : Prize) : Prize :=
  let budget := plan.budgetEvaluation
  if 0 < budget.budget then
    { row with
      stock := row.stock - 1
      payoutSpent := (if budget.shouldReset then 0 else budget.spent) + plan.rewardAmount
      payoutPeriodStartedAt := if budget.shouldReset then now else row.payoutPeriodStartedAt }
  else { row with stock := row.stock - 1 }

def PoolChange.amount (draw : PreparedDraw) (outcome : DrawOutcome) : PoolChange → Int
  | .drawCost => draw.drawCost
  | .drawReward => -outcome.rewardAmount

/-- `applyHouseDrawEntries` credits the draw cost, and then takes a positive reward. -/
def afterTransaction (draw : PreparedDraw) (outcome : DrawOutcome) : PoolChange → Stage
  | .drawCost =>
      if 0 < outcome.rewardAmount then .ensureHouseFor draw outcome .drawReward
      else .updateUser draw outcome
  | .drawReward => .updateUser draw outcome

def transactionOf (draw : PreparedDraw) (outcome : DrawOutcome) (change : PoolChange)
    (before : Int) : HouseTransaction where
  type := change
  amount := change.amount draw outcome
  balanceBefore := before
  balanceAfter := before + change.amount draw outcome

def drawRecordOf (userId : Nat) (draw : PreparedDraw) (outcome : DrawOutcome) : DrawRecord where
  userId := userId
  prizeId := outcome.prizeId
  drawCost := draw.drawCost
  rewardAmount := outcome.rewardAmount
  status := outcome.status
  createdAt := draw.play.now

/-- The row of `ensureHouseAccount`'s INSERT. -/
def emptyHouse : HouseAccount where
  houseBankroll := 0
  prizePoolBalance := 0

def houseMissing : ApiError := .persistence "House account not initialized."

/-! ## `executeDraw` -/

namespace Execution

variable (x : Execution)

def goto (stage : Stage) : Option Statement :=
  some (.goto { x with stage := stage })

def write (key : Key) (row : Row key) (stage : Stage) : Option Statement :=
  some (.write key row { x with stage := stage })

def throw (_error : ApiError) : Option Statement :=
  some (.rollback { x with stage := .finished })

/-- The charge of the draw, the snapshot of the pool and the payout policy. -/
def resolveDraw (config : DrawConfig) (db : Tables) : Stage → Option Statement
  | .lockUser =>
      match x.request.plays[x.index]? with
      | none => some (.commit { x with stage := .finished })
      | some play =>
          match db.rows (.user x.request.userId) with
          | none => x.throw (.notFound "User not found.")
          | some user => x.write (.user x.request.userId) user (.debitUser play user)
  | .debitUser play user =>
      let drawCost := resolveEffectiveDrawCost config
      if user.withdrawableBalance < drawCost then x.throw (.conflict "Insufficient balance.")
      else
        x.write (.user x.request.userId)
          { user with
            withdrawableBalance := user.withdrawableBalance - drawCost
            wageredAmount := user.wageredAmount + drawCost
            userPoolBalance := user.userPoolBalance + drawCost }
          (.ensureHouse
            { play := play, drawCost := drawCost,
              userPoolAfterDebit := user.userPoolBalance + drawCost,
              pityStreakBefore := user.pityStreak })
  | .ensureHouse draw =>
      -- ON CONFLICT DO NOTHING
      match db.rows .house with
      | none => x.write .house emptyHouse (.readPool draw)
      | some _ => x.goto (.readPool draw)
  | .readPool draw =>
      match db.rows .house with
      | none => x.throw houseMissing
      | some house =>
          let prepared : PreparedDraw :=
            { draw with
              poolBalance := house.prizePoolBalance
              effectivePoolBalance := applyPoolNoise house.prizePoolBalance draw.play.poolNoise }
          match draw.play.selection with
          | none => x.goto (.ensureHouseFor prepared (buildOutcome .miss) .drawCost)
          | some prizeId => x.goto (.lockPrize prepared prizeId)
  | .lockPrize draw prizeId =>
      match (db.rows (.prize prizeId)) with
      | none => x.goto (.payoutPolicy draw prizeId none)
      | some prize =>
          if prize.deletedAt ≠ none then x.goto (.payoutPolicy draw prizeId none)
          else x.write (.prize prizeId) prize (.payoutPolicy draw prizeId (some prize))
  | .payoutPolicy draw prizeId lockedPrize =>
      match resolvePayoutPolicy config db.log x.request.userId draw prizeId lockedPrize with
      | .terminal outcome => x.goto (.ensureHouseFor draw outcome .drawCost)
      | .pays plan => x.goto (.decrementStock draw plan)
  | .decrementStock draw plan =>
      match db.rows (.prize plan.prizeId) with
      | none => x.goto (.creditUserPool draw plan)
      | some prize =>
          if prize.deletedAt ≠ none then x.goto (.creditUserPool draw plan)
          else
            x.write (.prize plan.prizeId) (decrementedPrize plan draw.play.now prize)
              (.creditUserPool draw plan)
  | .creditUserPool draw plan =>
      if plan.rewardAmount ≤ 0 then x.goto (.ensureHouseFor draw plan.outcome .drawCost)
      else
        match db.rows (.user x.request.userId) with
        | none => x.goto (.ensureHouseFor draw plan.outcome .drawCost)
        | some user =>
            x.write (.user x.request.userId)
              { user with userPoolBalance := max (draw.userPoolAfterDebit - plan.rewardAmount) 0 }
              (.ensureHouseFor draw plan.outcome .drawCost)
  | _ => none

/-- `applyPrizePoolDelta` -/
def applyPrizePoolDelta (db : Tables) : Stage → Option Statement
  | .ensureHouseFor draw outcome change =>
      -- ON CONFLICT DO NOTHING
      match db.rows .house with
      | none => x.write .house emptyHouse (.lockHouse draw outcome change)
      | some _ => x.goto (.lockHouse draw outcome change)
  | .lockHouse draw outcome change =>
      match db.rows .house with
      | none => x.throw houseMissing
      | some house =>
          x.write .house house (.updateHouse draw outcome change house.prizePoolBalance)
  | .updateHouse draw outcome change before =>
      match db.rows .house with
      | none => x.goto (.insertTransaction draw outcome change before)
      | some house =>
          x.write .house
            { house with prizePoolBalance := before + change.amount draw outcome }
            (.insertTransaction draw outcome change before)
  | .insertTransaction draw outcome change before =>
      some (.insert (.houseTransaction (transactionOf draw outcome change before))
        { x with stage := afterTransaction draw outcome change })
  | _ => none

def exec (config : DrawConfig) (x : Execution) (db : Tables) : Option Statement :=
  match x.stage with
  | .updateUser draw outcome =>
      match db.rows (.user x.request.userId) with
      | none => x.goto (.insertRecord draw outcome)
      | some user =>
          let pityStreakAfter := if outcome.status = .won then 0 else draw.pityStreakBefore + 1
          x.write (.user x.request.userId) { user with pityStreak := pityStreakAfter }
            (.insertRecord draw outcome)
  | .insertRecord draw outcome =>
      some (.insert (.drawRecord (drawRecordOf x.request.userId draw outcome))
        { x with index := x.index + 1, stage := .lockUser })
  | .finished => none
  | .ensureHouseFor _ _ _ | .lockHouse _ _ _ | .updateHouse _ _ _ _
  | .insertTransaction _ _ _ _ => x.applyPrizePoolDelta db x.stage
  | _ => x.resolveDraw config db x.stage

end Execution

/-- Every session runs the draws of one request in one transaction. -/
def drawEngine (config : DrawConfig) : Program Nat Row Entry Execution DrawRequest where
  start := fun request => { request := request, index := 0, stage := .lockUser }
  exec := fun _ x db => x.exec config db

end RewardSystem.Draw
