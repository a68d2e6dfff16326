import RewardSystem.Economy.Service
import RewardSystem.Gamification.Missions

/-!
# Reward grants

The three ways in which a mission is paid. Each of them locks the row of the marketing budget until
its transaction ends, and so they take effect one after the other; an automatic grant has read the
reward center before it waits for the lock.
-/

namespace RewardSystem.Gamification

open Economy

inductive RewardEntryType where
  | dailyBonus
  | gamificationReward
  deriving DecidableEq, Repr

def RewardEntryType.text : RewardEntryType → String
  | .dailyBonus => "daily_bonus"
  | .gamificationReward => "gamification_reward"

/-- A row that pays a reward, in `ledger_entries` or in `economy_ledger_entries`, with the mission of
its metadata. -/
structure RewardRow where
  userId : Nat
  entryType : RewardEntryType
  missionId : Option String
  amount : Int
  createdAt : Int
  deriving DecidableEq

/-- The missions, and what the experiments make of them for a user. -/
structure MissionCatalog where
  missions : List RewardMissionDefinition
  resolved : Nat → MetricThresholdParams → MetricThresholdParams
  ids : (missions.map RewardMissionDefinition.id).Nodup

/-- `rewardRows` are the rewards among the entries of the economy store, in the order in which they
were committed. Amounts are in cents. -/
structure GamificationStore where
  marketingBudget : Int
  economy : EconomyStore
  rewardRows : List RewardRow
  ledgerEntries : List RewardRow

def resolveMissionDefinitionsForUser (catalog : MissionCatalog) (userId : Nat) :
    List RewardMissionDefinition :=
  catalog.missions.map fun definition =>
    match definition.params with
    | .dailyCheckIn => definition
    | .metricThreshold params =>
        { definition with params := .metricThreshold (catalog.resolved userId params) }

def MissionParams.isMetric : MissionParams → Bool
  | .dailyCheckIn => false
  | .metricThreshold _ => true

def readMissionId (value : Option String) : Option String :=
  value.bind fun text => if trim text = "" then none else some (trim text)

/-- The rows of both ledgers, the newest first. -/
def readRewardCenterSnapshot (catalog : MissionCatalog) (activity : UserActivity)
    (ledgerEntries rewardRows : List RewardRow) (userId : Nat) : RewardCenterSnapshot :=
  let missions := resolveMissionDefinitionsForUser catalog userId
  let claimableMissionIds :=
    (missions.filter fun mission => mission.params.isMetric).map RewardMissionDefinition.id
  let rows := (ledgerEntries ++ rewardRows).reverse.filter fun row => row.userId = userId
  { activity := activity
    dailyClaims := (rows.filter fun row => row.entryType = .dailyBonus).map RewardRow.createdAt
    missionClaims :=
      (rows.filter fun row => row.entryType = .gamificationReward ∧
          row.missionId.any (fun missionId => missionId ∈ claimableMissionIds) = true).map
        fun row => { missionId := readMissionId row.missionId, createdAt := row.createdAt }
    missions := missions }

def getRewardCenter (catalog : MissionCatalog) (activity : Option UserActivity)
    (ledgerEntries rewardRows : List RewardRow) (userId : Nat) (now : Int) :
    Except ApiError (List RewardMission) :=
  match activity with
  | none => .error (.notFound "User not found.")
  | some activity =>
      .ok (evaluateRewardCenter
        (readRewardCenterSnapshot catalog activity ledgerEntries rewardRows userId) now)

inductive GrantMode where
  | auto
  | claim
  deriving DecidableEq, Repr

def GrantMode.text : GrantMode → String
  | .auto => "auto"
  | .claim => "claim"

def buildRewardGrantIdempotencyKey (userId : Nat) (missionId : String)
    (cadence : RewardMissionCadence) (resetsAt : Option Int) (mode : GrantMode) : String :=
  let resetMarker :=
    match cadence with
    | .daily => (resetsAt.map isoDate).getD "daily"
    | .oneTime => "lifetime"
  s!"reward:{mode.text}:{userId}:{missionId}:{resetMarker}"

def buildDailyCheckInIdempotencyKey (userId : Nat) (missionId : String) (dayStart : Int) : String :=
  s!"reward:daily:{userId}:{missionId}:{isoDate dayStart}"

structure RewardGrant where
  userId : Nat
  missionId : String
  entryType : RewardEntryType
  amount : Int
  idempotencyKey : String
  createdAt : Int
  deriving DecidableEq

def RewardGrant.row (grant : RewardGrant) : RewardRow where
  userId := grant.userId
  entryType := grant.entryType
  missionId := some grant.missionId
  amount := grant.amount
  createdAt := grant.createdAt

def RewardGrant.payload (grant : RewardGrant) : AssetMutationPayload where
  userId := grant.userId
  assetCode := .bLuck
  amount := .finite (grant.amount / 100)
  entryType := grant.entryType.text
  idempotencyKey := some grant.idempotencyKey

namespace GamificationStore

/-- Zero means that there is no budget. The first value says whether the reward may be paid. -/
def consumeMarketingBudget (store : GamificationStore) (amount : Int) : Bool × GamificationStore :=
  if store.marketingBudget ≤ 0 then (true, store)
  else if store.marketingBudget < amount then (false, store)
  else (true, { store with marketingBudget := store.marketingBudget - amount })

/-- A replay leaves no row. -/
def creditReward (store : GamificationStore) (grant : RewardGrant) :
    Except ApiError GamificationStore := do
  let (economy, result) ← creditAsset store.economy grant.payload
  .ok { store with
    economy := economy
    rewardRows := if result.replayed then store.rewardRows else store.rewardRows ++ [grant.row] }

/-- The budget is consumed and the reward credited, or neither. -/
def grantReward (store : GamificationStore) (grant : RewardGrant) :
    Except ApiError (Bool × GamificationStore) :=
  let (allowed, consumed) := store.consumeMarketingBudget grant.amount
  if allowed then (consumed.creditReward grant).map fun credited => (true, credited)
  else .ok (false, consumed)

end GamificationStore

def missionGrant (userId : Nat) (mission : RewardMission) (mode : GrantMode) (now : Int) :
    RewardGrant where
  userId := userId
  missionId := mission.id
  entryType := .gamificationReward
  amount := mission.rewardAmount
  idempotencyKey :=
    buildRewardGrantIdempotencyKey userId mission.id mission.cadence mission.resetsAt mode
  createdAt := now

def dailyCheckInGrant (userId : Nat) (mission : RewardMissionDefinition) (now : Int) :
    RewardGrant where
  userId := userId
  missionId := mission.id
  entryType := .dailyBonus
  amount := mission.reward
  idempotencyKey := buildDailyCheckInIdempotencyKey userId mission.id (startOfDay now)
  createdAt := now

def isReadyAutoRewardMission (mission : RewardMission) : Bool :=
  mission.autoAwarded && mission.status = .ready

/-- The loop over the eligible missions; a mission that the budget refuses is skipped. -/
def grantMissions (store : GamificationStore) : List RewardGrant → Except ApiError GamificationStore
  | [] => .ok store
  | grant :: rest => do
      let (_, next) ← store.grantReward grant
      grantMissions next rest

/-- `seen` counts the committed rewards that the reward center was read with. -/
def grantEligibleAutoRewardMissions (catalog : MissionCatalog) (store : GamificationStore)
    (userId : Nat) (activity : Option UserActivity) (seen : Nat) (now : Int) :
    Except ApiError GamificationStore := do
  let center ← getRewardCenter catalog activity store.ledgerEntries (store.rewardRows.take seen)
    userId now
  let eligibleMissions := center.filter isReadyAutoRewardMission
  grantMissions store (eligibleMissions.map fun mission => missionGrant userId mission .auto now)

/-- The claims of a user wait for each other at the wallet, before they read the reward center. -/
def claimRewardMission (catalog : MissionCatalog) (store : GamificationStore) (userId : Nat)
    (activity : Option UserActivity) (missionId : String) (now : Int) :
    Except ApiError GamificationStore := do
  let center ← getRewardCenter catalog activity store.ledgerEntries store.rewardRows userId now
  match center.find? fun entry => entry.id = missionId with
  | none => .error (.notFound "Reward mission not found.")
  | some mission => do
      ApiError.throwIf (mission.autoAwarded = true)
        (.conflict "This reward is granted automatically.")
      ApiError.throwIf (mission.status = .disabled) (.conflict "This reward is not enabled.")
      ApiError.throwIf (mission.status = .claimed) (.conflict "Reward already claimed.")
      ApiError.throwIf (mission.claimable = false)
        (.unprocessableEntity "Reward mission is not ready.")
      let (allowed, granted) ← store.grantReward (missionGrant userId mission .claim now)
      ApiError.throwIf (allowed = false) (.conflict "Reward budget unavailable.")
      .ok granted

/-- The rewards of the day are looked for in `ledger_entries`. -/
def claimedOnLogin (store : GamificationStore) (userId : Nat) (dayStart : Int) : Bool :=
  store.ledgerEntries.any fun row =>
    row.userId = userId ∧ row.entryType = .dailyBonus ∧ dayStart ≤ row.createdAt

def dailyMission (catalog : MissionCatalog) : Option RewardMissionDefinition :=
  catalog.missions.find? fun mission =>
    mission.params = .dailyCheckIn ∧ mission.isActive = true ∧ 0 < mission.reward

def grantDailyCheckInRewardOnLogin (catalog : MissionCatalog) (store : GamificationStore)
    (userId : Nat) (now : Int) : Except ApiError GamificationStore :=
  match dailyMission catalog with
  | none => .ok store
  | some mission =>
      if claimedOnLogin store userId (startOfDay now) then .ok store
      else (store.grantReward (dailyCheckInGrant userId mission now)).map fun granted => granted.2

inductive GrantOperation where
  | autoGrant (userId : Nat) (activity : Option UserActivity) (seen : Nat) (now : Int)
  | claim (userId : Nat) (activity : Option UserActivity) (missionId : String) (now : Int)
  | login (userId : Nat) (now : Int)

def grantStep (catalog : MissionCatalog) (store : GamificationStore) :
    GrantOperation → Except ApiError GamificationStore
  | .autoGrant userId activity seen now =>
      grantEligibleAutoRewardMissions catalog store userId activity seen now
  | .claim userId activity missionId now =>
      claimRewardMission catalog store userId activity missionId now
  | .login userId now => grantDailyCheckInRewardOnLogin catalog store userId now

end RewardSystem.Gamification
